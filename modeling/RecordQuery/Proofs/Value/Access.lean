import RecordQuery.Proofs.Number.ReadBack
import RecordQuery.Proofs.Number.Wrapping
import RecordQuery.Proofs.Text.Units
import RecordQuery.Value.Access
import RecordQuery.Value.Coercion

/-!
# Access by index

The reader of an index takes a plus sign and zeros in front, and it is by writing the index again
that a key is told from others that read the same: a key names an index exactly if it is the decimal
text of the index (`Text.index?_eq_some_iff`). An array has a value under `length` and the keys of
its indices and under no other key, and so has a text, whose values by index are its units read
alone (`Value.get_indexed`).
-/

namespace RecordQuery

/-! ## Keys of indices -/

namespace Text

variable {α : Type} {xs : List α} {key : String} {n : Nat}

/-- A decimal digit has the value of its distance from zero. -/
theorem digitValue?_of_isDigit {c : Char} (h : c.isDigit = true) :
    digitValue? c = some (c.toNat - '0'.toNat) ∧ c.toNat - '0'.toNat < 10 := by
  have hdigit : '0' ≤ c ∧ c ≤ '9' := by
    rw [Char.isDigit, Bool.and_eq_true, decide_eq_true_iff, decide_eq_true_iff] at h
    exact h
  have hlast : c.toNat ≤ '9'.toNat := hdigit.2
  have hzero : '9'.toNat = '0'.toNat + 9 := rfl
  exact ⟨if_pos hdigit, by omega⟩

/-- Decimal digits are read as the number that they denote. -/
theorem extendDigits?_of_digits {cs : List Char} (h : Number.Digits cs) (start : Nat) :
    extendDigits? 10 start cs = some (Nat.ofDigitChars 10 cs start) := by
  induction cs generalizing start with
  | nil => rfl
  | cons c rest ih =>
    obtain ⟨hc, hrest⟩ := List.forall_mem_cons.1 h
    obtain ⟨hvalue, hlt⟩ := digitValue?_of_isDigit hc
    simp only [extendDigits?, hvalue, if_pos hlt]
    rw [ih hrest, Nat.ofDigitChars_cons]

/-- Digits without a sign are read as the number that they denote. -/
theorem readNat?_of_digits {cs : List Char} (h : Number.Digits cs) (hne : cs ≠ []) :
    readNat? 10 cs = some (Number.digitsValue cs) := by
  unfold readNat?
  split
  · exact absurd (h '+' (.head _)) (by decide)
  · rw [digits?, if_neg (by simpa using hne)]
    exact extendDigits?_of_digits h 0

/-- The decimal text of a number is read as the number. -/
theorem index?_decimal (n : Nat) : index? (decimal n) = some n := by
  have hread : readNat? 10 (decimal n).toList = some n := by
    rw [decimal, String.toList_ofList, readNat?_of_digits (Number.digits_toDigits n)
      Nat.toDigits_ne_nil]
    exact congrArg some Nat.ofDigitChars_ten_toDigits
  rw [index?, hread]
  exact if_pos (beq_self_eq_true _)

/-- A key names an index exactly if it is the decimal text of the index. -/
theorem index?_eq_some_iff : index? key = some n ↔ key = decimal n := by
  constructor
  · intro h
    obtain ⟨-, hsame⟩ := Option.filter_eq_some_iff.1 h
    exact (eq_of_beq hsame).symm
  · rintro rfl
    exact index?_decimal n

/-- The key of the length names no index. -/
theorem decimal_ne_length (n : Nat) : decimal n ≠ "length" := by
  intro h
  have hnone : index? "length" = none := by decide +kernel
  rw [index?_eq_some_iff.2 h.symm] at hnone
  cases hnone

/-- Under a key that names no index of a list there is nothing. -/
theorem bind_index?_eq_none (h : ∀ i < xs.length, key ≠ decimal i) :
    (index? key).bind (xs[·]?) = none := by
  rw [Option.bind_eq_none_iff]
  intro i hi
  rw [List.getElem?_eq_none_iff]
  by_contra hlt
  exact h i (Nat.lt_of_not_le hlt) (index?_eq_some_iff.1 hi)

end Text

/-! ## Values under keys -/

namespace Value

variable {items : List Value} {s key : String}

/-- Under the key of an index an array has its item. -/
theorem get_array_decimal {i : Nat} (h : i < items.length) :
    (array items).get (Text.decimal i) = items[i] := by
  simp only [get, if_neg (Text.decimal_ne_length i), atIndex, Text.index?_decimal]
  simp [h]

/-- An array has nothing under other keys. -/
theorem get_array_other (hlength : key ≠ "length")
    (h : ∀ i < items.length, key ≠ Text.decimal i) : (array items).get key = undefined := by
  simp only [get, if_neg hlength, atIndex, Text.bind_index?_eq_none h, Option.getD_none]

/-- Under the key of an index a text has its unit, read alone. -/
theorem get_string_decimal {i : Nat} (h : i < (Text.units s.toList).length) :
    (string s).get (Text.decimal i) =
      string (String.ofList [Text.ofUnit (Text.units s.toList)[i]]) := by
  simp only [get, if_neg (Text.decimal_ne_length i), Text.index?_decimal]
  simp [h]

/-- A text has nothing under other keys. -/
theorem get_string_other (hlength : key ≠ "length")
    (h : ∀ i < (Text.units s.toList).length, key ≠ Text.decimal i) :
    (string s).get key = undefined := by
  simp only [get, if_neg hlength, Text.bind_index?_eq_none h]

/-- The texts under the keys of all indices. -/
theorem join_get_string (s : String) :
    String.join ((List.range (Text.units s.toList).length).map fun i =>
      ((string s).get (Text.decimal i)).text) = String.ofList (s.toList.flatMap Text.apart) := by
  have hunits : ((List.range (Text.units s.toList).length).map fun i =>
      ((string s).get (Text.decimal i)).text) =
      (Text.units s.toList).map fun unit => String.ofList [Text.ofUnit unit] := by
    refine List.ext_getElem (by simp) ?_
    intro i hi hi'
    have hlt : i < (Text.units s.toList).length := by simpa using hi
    rw [List.getElem_map, List.getElem_map, List.getElem_range, get_string_decimal hlt]
    rfl
  rw [hunits, ← String.toList_inj, String.toList_join, List.flatMap_map, ← Text.map_ofUnit_units,
    List.map_eq_flatMap]
  simp

/-- Access by index and length is exact. An array has its length and its items under the keys of
their indices. A text has its number of units and, under the keys of their indices, a text of one
character for each. There is nothing under any other key. Joined, the characters are the text with
two replacements for every character above U+FFFF, and the text itself if it has none of these. A
length of 53 bits is given exactly. -/
theorem get_indexed :
    (∀ items : List Value,
      (array items).get "length" = number (.ofNat items.length) ∧
      (∀ i (h : i < items.length), (array items).get (Text.decimal i) = items[i]) ∧
      ∀ key, key ≠ "length" → (∀ i < items.length, key ≠ Text.decimal i) →
        (array items).get key = undefined) ∧
    (∀ s : String,
      let count := (Text.units s.toList).length
      let joined := String.join ((List.range count).map fun i =>
        ((string s).get (Text.decimal i)).text)
      (string s).get "length" = number (.ofNat count) ∧
      (∀ i < count, ∃ c, (string s).get (Text.decimal i) = string (String.ofList [c])) ∧
      (∀ key, key ≠ "length" → (∀ i < count, key ≠ Text.decimal i) →
        (string s).get key = undefined) ∧
      joined = String.ofList (s.toList.flatMap Text.apart) ∧
      ((∀ c ∈ s.toList, c.toNat ≤ 0xFFFF) → joined = s)) ∧
    ∀ n ≤ 2 ^ 53, (Number.ofNat n).extended? = some (.ofRat n) := by
  refine ⟨fun items => ⟨rfl, fun i h => get_array_decimal h, fun key => get_array_other⟩, ?_, ?_⟩
  · intro s count joined
    have hjoined : joined = String.ofList (s.toList.flatMap Text.apart) := join_get_string s
    refine ⟨rfl, fun i h => ⟨_, get_string_decimal h⟩, fun key => get_string_other, hjoined, ?_⟩
    intro hbelow
    rw [hjoined, Text.flatMap_apart_eq_self hbelow, String.ofList_toList]
  · intro n h
    exact (Number.isWhole_ofNat h).extended?

/-- Two items, and a text with a character of two units between two others. -/
theorem get_indexed_of_pair :
    let pair : Value := array [.null, .bool true]
    let s := "a𝄞é"
    pair.get "length" = number (.ofNat 2) ∧ pair.get "1" = .bool true ∧
      pair.get "01" = undefined ∧ pair.get "+1" = undefined ∧ pair.get "2" = undefined ∧
      (string s).get "length" = number (.ofNat 4) ∧ (string s).get "4" = undefined ∧
      String.join ((List.range 4).map fun i => ((string s).get (Text.decimal i)).text) =
        "a\uFFFD\uFFFDé" ∧
      String.join ((List.range 2).map fun i => ((string "né").get (Text.decimal i)).text) = "né" ∧
      (Number.ofNat 4).extended? = some (.ofRat (4 : Nat)) := by
  intro pair s
  have hone : Text.decimal 1 = "1" := by decide +kernel
  have hfour : (Text.units s.toList).length = 4 := by decide +kernel
  have hapart : String.ofList (s.toList.flatMap Text.apart) = "a\uFFFD\uFFFDé" := by
    decide +kernel
  have hchars : "né".toList = ['n', 'é'] := by decide +kernel
  have hbelow : ∀ c ∈ "né".toList, c.toNat ≤ 0xFFFF := by simp [hchars]
  obtain ⟨harray, htext, hexact⟩ := get_indexed
  obtain ⟨hlength, hindex, hother⟩ := harray [.null, .bool true]
  obtain ⟨hcount, -, hbeyond, hjoined, -⟩ := htext s
  obtain ⟨-, -, -, -, hself⟩ := htext "né"
  simp only [hfour, hapart] at hcount hbeyond hjoined
  refine ⟨hlength, ?_, hother "01" (by decide) (by decide +kernel),
    hother "+1" (by decide) (by decide +kernel), hother "2" (by decide) (by decide +kernel),
    hcount, hbeyond "4" (by decide) (by decide +kernel), hjoined, hself hbelow,
    hexact 4 (by decide)⟩
  rw [← hone]
  exact hindex 1 (by decide)

end Value

end RecordQuery

import Mathlib.Data.List.Forall2
import RecordQuery.Proofs.Number.Closest
import RecordQuery.Proofs.Number.DecimalText
import RecordQuery.Value.Coercion

/-!
# The coercion of text to a number

In the grammar of numbers a text is a decimal, the word for infinity with an optional sign, a whole
number in a radix behind the mark of the radix, or nothing, and it stands for the double nearest to
what it denotes (`StandsFor`). The coercion agrees with the grammar except behind the mark of a
radix (`Value.toNumber_string_iff`). There it reads an integer of 128 bits, which may have a plus
sign: a greater number is lost (`Oversized`), and a plus sign, which the grammar does not admit, is
passed over (`PlusSigned`).
-/

namespace RecordQuery

namespace Number

/-! ## Whole numbers in a radix -/

/-- The character is the digit in the radix. -/
def IsDigit (radix : Nat) (c : Char) (d : Nat) : Prop := Text.digitValue? c = some d ∧ d < radix

/-- At least one digit in the radix, and the number that they denote. -/
def RadixDigits (radix : Nat) (cs : List Char) (k : Nat) : Prop :=
  cs ≠ [] ∧ ∃ ds, List.Forall₂ (IsDigit radix) cs ds ∧ k = ds.foldl (fun k d => radix * k + d) 0

/-- The marks of radices. -/
def radixMarks : List (Char × Nat) :=
  [('x', 16), ('X', 16), ('o', 8), ('O', 8), ('b', 2), ('B', 2)]

/-- A zero, a mark, what may stand behind the mark, and digits in the radix of the mark. -/
inductive RadixText (behind : List Char) : List Char → Nat → Prop
  | mk {mark : Char} {radix k : Nat} {digits : List Char} (hmark : (mark, radix) ∈ radixMarks)
    (hdigits : RadixDigits radix digits k) :
    RadixText behind ('0' :: mark :: (behind ++ digits)) k

/-- Digits are read one after the other. -/
theorem extendDigits?_eq_some_iff {radix start k : Nat} {cs : List Char} :
    Text.extendDigits? radix start cs = some k ↔
      ∃ ds, List.Forall₂ (IsDigit radix) cs ds ∧
        k = ds.foldl (fun k d => radix * k + d) start := by
  induction cs generalizing start with
  | nil => simp [Text.extendDigits?, eq_comm]
  | cons c rest ih =>
    rw [Text.extendDigits?]
    constructor
    · intro h
      split at h
      · rename_i d hd
        split at h
        · rename_i hlt
          obtain ⟨ds, hrest, hk⟩ := ih.1 h
          exact ⟨d :: ds, .cons ⟨hd, hlt⟩ hrest, hk⟩
        · cases h
      · cases h
    · rintro ⟨_, hdigits, rfl⟩
      cases hdigits with
      | @cons _ d _ ds hd hrest =>
        simp only [hd.1, if_pos hd.2]
        exact ih.2 ⟨ds, hrest, rfl⟩

/-- Digits in a radix are read as the number that they denote. -/
theorem digits?_eq_some_iff {radix k : Nat} {cs : List Char} :
    Text.digits? radix cs = some k ↔ RadixDigits radix cs k := by
  rw [Text.digits?, RadixDigits]
  split
  · rename_i hempty
    exact iff_of_false nofun fun h => h.1 (List.isEmpty_iff.1 hempty)
  · rename_i hempty
    rw [extendDigits?_eq_some_iff, and_iff_right (by simpa using hempty)]

/-- A plus sign is no digit. -/
theorem not_radixDigits_plus {radix k : Nat} {cs : List Char} :
    ¬ RadixDigits radix ('+' :: cs) k := by
  rintro ⟨-, ds, hdigits, -⟩
  cases hdigits with
  | cons hd => cases hd.1

/-- Digits are read with or without a plus sign in front. -/
theorem readNat?_eq_some_iff {radix k : Nat} {cs : List Char} :
    Text.readNat? radix cs = some k ↔
      RadixDigits radix cs k ∨ ∃ rest, cs = '+' :: rest ∧ RadixDigits radix rest k := by
  unfold Text.readNat?
  split
  · rename_i rest
    simp [digits?_eq_some_iff, not_radixDigits_plus]
  · rename_i hplus
    rw [digits?_eq_some_iff, or_iff_left]
    rintro ⟨rest, rfl, -⟩
    exact hplus rest rfl

/-- A mark is read behind a zero. -/
theorem spanRadix?_eq_some_iff {cs rest : List Char} {radix : Nat} :
    spanRadix? cs = some (radix, rest) ↔
      ∃ mark, (mark, radix) ∈ radixMarks ∧ cs = '0' :: mark :: rest := by
  constructor
  · intro h
    unfold spanRadix? at h
    split at h <;> cases h <;> exact ⟨_, by decide, rfl⟩
  · rintro ⟨mark, hmark, rfl⟩
    have hall : ∀ m ∈ radixMarks, spanRadix? ('0' :: m.1 :: rest) = some (m.2, rest) := by
      simp [radixMarks, spanRadix?]
    exact hall _ hmark

/-- No decimal has a mark of a radix behind a zero. -/
theorem DecimalText.spanRadix? {cs whole fraction : List Char} {negative : Bool} {exponent : Int}
    (h : DecimalText cs negative whole fraction exponent) : spanRadix? cs = none := by
  have hread := h.read
  rw [Option.eq_none_iff_forall_ne_some]
  rintro ⟨radix, rest⟩ hradix
  obtain ⟨mark, hmark, rfl⟩ := spanRadix?_eq_some_iff.1 hradix
  have hforeign : ∀ m ∈ radixMarks, m.1.isDigit = false ∧ m.1 ≠ '.' ∧ m.1 ≠ 'e' ∧ m.1 ≠ 'E' := by
    decide
  obtain ⟨hdigit, hpoint, hsmall, hcapital⟩ := hforeign _ hmark
  simp [ofDecimalText?, spanSign, spanDigits, exponentValue?, hdigit, hpoint, hsmall, hcapital]
    at hread

/-! ## Texts that stand for a number -/

/-- The magnitude that a decimal denotes, given its digits before and behind the point and its
exponent. -/
def decimalValue (whole fraction : List Char) (exponent : Int) : ℚ :=
  (digitsValue (whole ++ fraction) : ℚ) * 10 ^ (exponent - fraction.length)

/-- The text, without blanks at its ends, is in the grammar of numbers and stands for the number. -/
inductive StandsFor : List Char → Number → Prop
  | nothing : StandsFor [] zero
  | infinity {sign : List Char} {negative : Bool} (hsign : SignText sign negative) :
    StandsFor (sign ++ "Infinity".toList) (.infinite negative)
  | radix {cs : List Char} {k : Nat} {n : Number} (h : RadixText [] cs k)
    (hn : NearestTo false k n) : StandsFor cs n
  | decimal {cs whole fraction : List Char} {negative : Bool} {exponent : Int} {n : Number}
    (h : DecimalText cs negative whole fraction exponent)
    (hn : NearestTo negative (decimalValue whole fraction exponent) n) : StandsFor cs n

/-- The number is what the text stands for, and not-a-number if it stands for none. -/
def Coerced (cs : List Char) (n : Number) : Prop :=
  StandsFor cs n ∨ n = .nan ∧ ∀ m, ¬ StandsFor cs m

/-- The text denotes a whole number in a radix that does not fit in 128 bits. -/
def Oversized (cs : List Char) : Prop := ∃ k, RadixText [] cs k ∧ 2 ^ 128 ≤ k

/-- The text has a plus sign behind the mark of a radix, and what follows fits in 128 bits. -/
def PlusSigned (cs : List Char) : Prop := ∃ k, RadixText ['+'] cs k ∧ k < 2 ^ 128

variable {cs : List Char} {m n : Number}

/-- No text stands for not-a-number. -/
theorem StandsFor.ne_nan (h : StandsFor cs n) : n ≠ .nan := by
  cases h with
  | nothing | infinity => exact nofun
  | radix _ hn | decimal _ hn => exact hn.ne_nan

/-- A number in a radix is read as the nearest double if it fits, and else as not-a-number, also
with a plus sign in front of the digits. -/
theorem RadixText.read {behind : List Char} {k : Nat} (h : RadixText behind cs k)
    (hbehind : behind = [] ∨ behind = ['+']) :
    ofTrimmed cs = if k < 2 ^ 128 then ofNat k else .nan := by
  cases h with
  | @mk mark radix _ digits hmark hdigits =>
    have hread : Text.readNat? radix (behind ++ digits) = some k := by
      rw [readNat?_eq_some_iff]
      rcases hbehind with rfl | rfl
      · exact .inl hdigits
      · exact .inr ⟨_, rfl, hdigits⟩
    have hspan : spanRadix? ('0' :: mark :: (behind ++ digits)) = some (radix, behind ++ digits) :=
      spanRadix?_eq_some_iff.2 ⟨mark, hmark, rfl⟩
    rw [ofTrimmed, hspan, List.isEmpty_cons, if_neg Bool.false_ne_true]
    dsimp only
    rw [ofRadixText, hread]
    rfl

/-- A decimal is read as the double nearest to what it denotes. -/
theorem DecimalText.ofTrimmed {whole fraction : List Char} {negative : Bool} {exponent : Int}
    (h : DecimalText cs negative whole fraction exponent) :
    NearestTo negative (decimalValue whole fraction exponent) (ofTrimmed cs) := by
  have hne : ∀ text, ofDecimalText? text = none → cs ≠ text := by
    rintro text hnone rfl
    rw [h.read] at hnone
    cases hnone
  have hempty : cs.isEmpty = false := by
    rw [List.isEmpty_eq_false_iff]
    exact hne [] rfl
  rw [Number.ofTrimmed, h.spanRadix?, hempty, if_neg Bool.false_ne_true]
  dsimp only
  rw [if_neg (not_or.2 ⟨hne _ rfl, hne _ rfl⟩), if_neg (hne _ rfl), h.read]
  exact nearestTo_ofDecimal _ _ _

/-- A text that stands for a number is read as that number, if the number fits. -/
theorem StandsFor.read (h : StandsFor cs n) (hfits : ¬ Oversized cs) : ofTrimmed cs = n := by
  cases h with
  | nothing => rfl
  | infinity hsign => cases hsign <;> rfl
  | @radix _ k _ h hn =>
    have hk : k < 2 ^ 128 := Nat.not_le.1 fun hle => hfits ⟨k, h, hle⟩
    rw [h.read (.inl rfl), if_pos hk]
    exact (nearestTo_ofNat k).unique hn
  | decimal h hn => exact h.ofTrimmed.unique hn

/-- What is read of a text is not-a-number or what the text stands for, unless there is a plus sign
behind a mark. -/
theorem standsFor_ofTrimmed (hplus : ¬ PlusSigned cs) (hne : ofTrimmed cs ≠ .nan) :
    StandsFor cs (ofTrimmed cs) := by
  revert hne
  rw [ofTrimmed]
  split
  · rename_i hempty
    rw [List.isEmpty_iff.1 hempty]
    exact fun _ => .nothing
  · split
    · rename_i radix rest hradix
      obtain ⟨mark, hmark, rfl⟩ := spanRadix?_eq_some_iff.1 hradix
      rw [ofRadixText]
      split
      · rename_i k hk
        split
        · rename_i hlt
          rcases readNat?_eq_some_iff.1 hk with hdigits | ⟨digits, rfl, hdigits⟩
          · exact fun _ => .radix (.mk hmark hdigits) (nearestTo_ofNat k)
          · exact absurd ⟨k, .mk hmark hdigits, hlt⟩ hplus
        · exact fun h => absurd rfl h
      · exact fun h => absurd rfl h
    · split
      · rename_i hinfinity
        rcases hinfinity with rfl | rfl
        · exact fun _ => .infinity .none
        · exact fun _ => .infinity .plus
      · split
        · rename_i hinfinity
          rw [hinfinity]
          exact fun _ => .infinity .minus
        · intro hne
          cases hread : ofDecimalText? cs with
          | none =>
            rw [hread] at hne
            exact absurd rfl hne
          | some n =>
            obtain ⟨negative, whole, fraction, exponent, hdecimal, rfl⟩ :=
              ofDecimalText?_eq_some_iff.1 hread
            exact .decimal hdecimal (nearestTo_ofDecimal _ _ _)

/-- A text with a plus sign behind a mark stands for no number. -/
theorem not_standsFor_of_plus {k : Nat} (h : RadixText ['+'] cs k) : ¬ StandsFor cs n := by
  intro hstands
  cases h with
  | @mk mark radix _ digits hmark hdigits =>
    generalize htext : '0' :: mark :: (['+'] ++ digits) = text at hstands
    cases hstands with
    | nothing => cases htext
    | infinity hsign => cases hsign <;> cases htext
    | radix h =>
      cases h with
      | mk _ hdigits' =>
        obtain ⟨rfl, rfl⟩ := List.cons.inj (List.cons.inj htext).2
        exact not_radixDigits_plus hdigits'
    | decimal h =>
      have hnone := h.spanRadix?
      rw [spanRadix?_eq_some_iff.2 ⟨mark, hmark, htext.symm⟩] at hnone
      cases hnone

/-- A number that does not fit is lost. -/
theorem ofTrimmed_of_oversized (h : Oversized cs) : ofTrimmed cs = .nan := by
  obtain ⟨k, h, hk⟩ := h
  rw [h.read (.inl rfl), if_neg (Nat.not_lt.2 hk)]

/-- A plus sign behind a mark is passed over. -/
theorem ofTrimmed_of_plus {k : Nat} (h : RadixText ['+'] cs k) (hk : k < 2 ^ 128) :
    ofTrimmed cs = .ofNat k := by
  rw [h.read (.inr rfl), if_pos hk]

/-- What is read of a text is what the grammar says exactly if the text has no such number. -/
theorem eq_ofTrimmed_iff :
    (∀ m, m = ofTrimmed cs ↔ Coerced cs m) ↔ ¬ Oversized cs ∧ ¬ PlusSigned cs := by
  constructor
  · intro hcoerced
    constructor
    · rintro ⟨k, h, hk⟩
      have hstands : StandsFor cs (.ofNat k) := .radix h (nearestTo_ofNat k)
      have hread := (hcoerced _).2 (.inl hstands)
      exact hstands.ne_nan (hread.trans (ofTrimmed_of_oversized ⟨k, h, hk⟩))
    · rintro ⟨k, h, hk⟩
      have hread := (hcoerced .nan).2 (.inr ⟨rfl, fun m => not_standsFor_of_plus h⟩)
      exact (nearestTo_ofNat k).ne_nan ((ofTrimmed_of_plus h hk).symm.trans hread.symm)
  · rintro ⟨hfits, hunsigned⟩ m
    constructor
    · rintro rfl
      by_cases hnan : ofTrimmed cs = .nan
      · exact .inr ⟨hnan, fun m h => h.ne_nan ((h.read hfits).symm.trans hnan)⟩
      · exact .inl (standsFor_ofTrimmed hunsigned hnan)
    · rintro (h | ⟨rfl, hnone⟩)
      · exact (h.read hfits).symm
      · by_contra hne
        exact hnone _ (standsFor_ofTrimmed hunsigned fun hnan => hne hnan.symm)

/-- A whole number with a plus sign behind the mark. -/
theorem radixText_plus_five : RadixText ['+'] (Text.trim "0x+5".toList) 5 := by
  have hdigits : RadixDigits 16 ['5'] 5 := digits?_eq_some_iff.1 (by decide)
  exact .mk (by decide) hdigits

/-- The least whole number that does not fit in 128 bits. -/
theorem radixText_two_pow :
    RadixText [] (Text.trim "0x100000000000000000000000000000000".toList) (2 ^ 128) := by
  have hdigits : RadixDigits 16 ('1' :: List.replicate 32 '0') (2 ^ 128) :=
    digits?_eq_some_iff.1 (by decide)
  exact .mk (by decide) hdigits

end Number

/-- A text without the blanks at its ends is read. -/
theorem Value.toNumber_string (s : String) :
    (Value.string s).toNumber = Number.ofTrimmed (Text.trim s.toList) := rfl

/-- A text is coerced to the number that it stands for in the grammar of numbers, and to
not-a-number if it stands for none, unless it has the mark of a radix: a whole number behind the
mark that does not fit in 128 bits is coerced to not-a-number, and a plus sign behind the mark is
passed over. -/
theorem Value.toNumber_string_iff (s : String) :
    ((∀ m, m = (Value.string s).toNumber ↔ Number.Coerced (Text.trim s.toList) m) ↔
      ¬ Number.Oversized (Text.trim s.toList) ∧ ¬ Number.PlusSigned (Text.trim s.toList)) ∧
    (Number.Oversized (Text.trim s.toList) → (Value.string s).toNumber = .nan) ∧
    ∀ k, Number.RadixText ['+'] (Text.trim s.toList) k → k < 2 ^ 128 →
      Number.NearestTo false k (Value.string s).toNumber := by
  rw [toNumber_string]
  refine ⟨Number.eq_ofTrimmed_iff, Number.ofTrimmed_of_oversized, fun k h hk => ?_⟩
  rw [Number.ofTrimmed_of_plus h hk]
  exact Number.nearestTo_ofNat k

/-- Behind a mark stand a plus sign and a digit, and a number that does not fit. -/
theorem Value.toNumber_string_iff_of_marks :
    Number.NearestTo false 5 (Value.string "0x+5").toNumber ∧
      (Value.string "0x100000000000000000000000000000000").toNumber = .nan := by
  obtain ⟨-, -, hplus⟩ := Value.toNumber_string_iff "0x+5"
  obtain ⟨-, hover, -⟩ := Value.toNumber_string_iff "0x100000000000000000000000000000000"
  refine ⟨hplus 5 Number.radixText_plus_five (by decide), hover ⟨_, Number.radixText_two_pow, ?_⟩⟩
  exact Nat.le_refl _

/-- A plus sign behind a mark is passed over, and `2 ^ 128` behind a mark is not-a-number. -/
theorem Value.not_coerced_plus_oversized :
    ((Value.string "0x+5").toNumber = .ofNat 5 ∧
      ¬ Number.Coerced (Text.trim "0x+5".toList) (.ofNat 5)) ∧
    ((Value.string "0x100000000000000000000000000000000").toNumber = .nan ∧
      ¬ Number.Coerced (Text.trim "0x100000000000000000000000000000000".toList) .nan) := by
  have hplus := Number.radixText_plus_five
  have hover := Number.radixText_two_pow
  rw [toNumber_string, toNumber_string]
  refine ⟨⟨Number.ofTrimmed_of_plus hplus (by decide), ?_⟩, ?_, ?_⟩
  · rintro (h | ⟨h, -⟩)
    · exact Number.not_standsFor_of_plus hplus h
    · exact (Number.nearestTo_ofNat 5).ne_nan h
  · exact Number.ofTrimmed_of_oversized ⟨_, hover, Nat.le_refl _⟩
  · rintro (h | ⟨-, h⟩)
    · exact h.ne_nan rfl
    · exact h _ (.radix hover (Number.nearestTo_ofNat _))

end RecordQuery

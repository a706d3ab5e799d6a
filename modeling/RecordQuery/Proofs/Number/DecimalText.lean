import RecordQuery.Number.Reading

/-!
# The grammar of decimals

A decimal is an optional sign, digits with an optional point among them, at least one in all, and
an optional exponent (`DecimalText`). The reader takes just those texts and takes them apart into
just these parts (`ofDecimalText?_eq_some_iff`).
-/

namespace RecordQuery.Number

/-! ## Digits -/

/-- Every character is a decimal digit. -/
def Digits (cs : List Char) : Prop := ∀ c ∈ cs, c.isDigit = true

/-- Where there are no characters, all are digits. -/
theorem digits_nil : Digits [] := nofun

/-- Characters of one sort in front of something that begins otherwise are taken and no more. -/
theorem takeWhile_append_of_head? {p : Char → Bool} {cs rest : List Char} (h : ∀ c ∈ cs, p c = true)
    (hrest : ∀ c ∈ rest.head?, p c = false) :
    (cs ++ rest).takeWhile p = cs ∧ (cs ++ rest).dropWhile p = rest := by
  have hhead : rest.takeWhile p = [] ∧ rest.dropWhile p = rest := by
    cases rest with
    | nil => exact ⟨rfl, rfl⟩
    | cons c cs =>
      have hc := hrest c rfl
      simp [hc]
  rw [List.takeWhile_append_of_pos h, List.dropWhile_append_of_pos h, hhead.1, hhead.2,
    List.append_nil]
  exact ⟨rfl, rfl⟩

/-- Digits in front of something that begins otherwise are what is read as digits. -/
theorem spanDigits_append {digits rest : List Char} (h : Digits digits)
    (hrest : ∀ c ∈ rest.head?, c.isDigit = false) :
    spanDigits (digits ++ rest) = (digits, rest) := by
  obtain ⟨htake, hdrop⟩ := takeWhile_append_of_head? h hrest
  rw [spanDigits, htake, hdrop]

/-- What is read as digits is digits. -/
theorem spanDigits_spec (cs : List Char) :
    Digits (spanDigits cs).1 ∧ cs = (spanDigits cs).1 ++ (spanDigits cs).2 :=
  ⟨fun _ hc => List.all_eq_true.1 List.all_takeWhile _ hc, List.takeWhile_append_dropWhile.symm⟩

/-! ## The parts of a decimal -/

/-- A sign that may stand in front, and whether it is a minus. -/
inductive SignText : List Char → Bool → Prop
  | none : SignText [] false
  | plus : SignText ['+'] false
  | minus : SignText ['-'] true

/-- Digits with an optional point among them, at least one in all: the digits before and behind. -/
inductive DigitsText : List Char → List Char → List Char → Prop
  | whole {whole : List Char} (hw : Digits whole) (hne : whole ≠ []) : DigitsText whole whole []
  | pointed {whole fraction : List Char} (hw : Digits whole) (hf : Digits fraction)
    (hne : whole ++ fraction ≠ []) : DigitsText (whole ++ '.' :: fraction) whole fraction

/-- An optional exponent: a mark, an optional sign and at least one digit. -/
inductive ExponentText : List Char → Int → Prop
  | none : ExponentText [] 0
  | marked {mark : Char} {sign digits : List Char} {negative : Bool}
    (hmark : mark = 'e' ∨ mark = 'E') (hsign : SignText sign negative) (hd : Digits digits)
    (hne : digits ≠ []) :
    ExponentText (mark :: (sign ++ digits)) (signed negative (digitsValue digits))

/-- A decimal, with its sign, its digits before and behind the point and its exponent. -/
inductive DecimalText : List Char → Bool → List Char → List Char → Int → Prop
  | mk {sign digits whole fraction tail : List Char} {negative : Bool} {exponent : Int}
    (hsign : SignText sign negative) (hdigits : DigitsText digits whole fraction)
    (hexponent : ExponentText tail exponent) :
    DecimalText (sign ++ (digits ++ tail)) negative whole fraction exponent

/-! ## Reading the parts -/

/-- What is read as a sign is one. -/
theorem spanSign_spec (cs : List Char) :
    ∃ sign, SignText sign (spanSign cs).1 ∧ cs = sign ++ (spanSign cs).2 := by
  unfold spanSign
  split
  · exact ⟨_, .minus, rfl⟩
  · exact ⟨_, .plus, rfl⟩
  · exact ⟨_, .none, rfl⟩

/-- A sign is read in front of what begins with none. -/
theorem spanSign_append {sign rest : List Char} {negative : Bool} (h : SignText sign negative)
    (hrest : ∀ c ∈ rest.head?, c ≠ '-' ∧ c ≠ '+') : spanSign (sign ++ rest) = (negative, rest) := by
  cases h with
  | plus | minus => rfl
  | none =>
    cases rest with
    | nil => rfl
    | cons c cs =>
      obtain ⟨hminus, hplus⟩ := hrest c rfl
      simp [spanSign, hminus, hplus]

/-- A digit is no sign. -/
theorem ne_sign_of_isDigit {c : Char} (hc : c.isDigit = true) : c ≠ '-' ∧ c ≠ '+' := by
  constructor <;> (rintro rfl; cases hc)

/-- What begins with a digit begins with no sign. -/
theorem Digits.head?_ne_sign {digits : List Char} (hd : Digits digits) :
    ∀ c ∈ digits.head?, c ≠ '-' ∧ c ≠ '+' := fun c hc =>
  ne_sign_of_isDigit (hd c (List.mem_of_mem_head? hc))

/-- An exponent is read as what it denotes, and nothing else is read. -/
theorem exponentValue?_eq_some_iff {tail : List Char} {x : Int} :
    exponentValue? tail = some x ↔ ExponentText tail x := by
  constructor
  · intro h
    cases tail with
    | nil =>
      obtain rfl := Option.some.inj h
      exact .none
    | cons mark rest =>
      rw [exponentValue?] at h
      split at h
      · rename_i hmark
        obtain ⟨sign, hsign, hrest⟩ := spanSign_spec rest
        rcases hs : spanSign rest with ⟨negative, unsigned⟩
        obtain ⟨hd, hdigits⟩ := spanDigits_spec unsigned
        rcases hds : spanDigits unsigned with ⟨digits, leftover⟩
        simp only [hs] at hsign hrest
        simp only [hds] at hd hdigits
        simp only [hs, hds] at h
        split at h
        · cases h
        · rename_i hends
          simp only [Bool.or_eq_true, not_or, List.isEmpty_iff, Bool.not_eq_true',
            Bool.not_eq_false] at hends
          obtain rfl := Option.some.inj h
          rw [hrest, hdigits, hends.2, List.append_nil]
          exact .marked hmark hsign hd hends.1
      · cases h
  · intro h
    cases h with
    | none => rfl
    | @marked mark sign digits negative hmark hsign hd hne =>
      have hend : ∀ c ∈ ([] : List Char).head?, c.isDigit = false := nofun
      have hspan := spanDigits_append hd hend
      rw [List.append_nil] at hspan
      rw [exponentValue?, if_pos hmark, spanSign_append hsign hd.head?_ne_sign]
      simp [hspan, hne]

/-- An exponent begins with no digit and no point. -/
theorem ExponentText.head? {tail : List Char} {x : Int} (h : ExponentText tail x) :
    ∀ c ∈ tail.head?, c.isDigit = false ∧ c ≠ '.' := by
  cases h with
  | none => exact nofun
  | marked hmark =>
    intro c hc
    obtain rfl := Option.some.inj hc
    rcases hmark with rfl | rfl <;> decide

/-! ## Reading a decimal -/

/-- A decimal is read as its parts. -/
theorem DecimalText.read {cs whole fraction : List Char} {negative : Bool} {exponent : Int}
    (h : DecimalText cs negative whole fraction exponent) :
    ofDecimalText? cs = some (ofParts negative whole fraction exponent) := by
  obtain ⟨hsign, hdigits, hexponent⟩ := h
  rename_i sign digits tail
  have hx := exponentValue?_eq_some_iff.2 hexponent
  have hhead := hexponent.head?
  have htail : ∀ c ∈ tail.head?, c.isDigit = false := fun c hc => (hhead c hc).1
  cases hdigits with
  | whole hw hne =>
    obtain ⟨c, cs, rfl⟩ := List.exists_cons_of_ne_nil hne
    have hunsigned : ∀ d ∈ (c :: cs ++ tail).head?, d ≠ '-' ∧ d ≠ '+' := fun d hd =>
      ne_sign_of_isDigit (hw d (by simp_all))
    have hsigned := spanSign_append hsign hunsigned
    rw [ofDecimalText?, hsigned]
    simp only [spanDigits_append hw htail]
    cases tail with
    | nil => simp [hx]
    | cons mark rest =>
      have hpoint : mark ≠ '.' := (hhead mark rfl).2
      simp [hx, hpoint]
  | @pointed whole fraction hw hf hne =>
    have hsigned : spanSign (sign ++ (whole ++ '.' :: fraction ++ tail)) =
        (negative, whole ++ '.' :: (fraction ++ tail)) := by
      rw [List.append_assoc, List.cons_append]
      refine spanSign_append hsign ?_
      cases whole with
      | nil => simp
      | cons c cs => exact fun d hd => ne_sign_of_isDigit (hw d (by simp_all))
    have hpoint : ∀ d ∈ ('.' :: (fraction ++ tail)).head?, d.isDigit = false := by simp
    rw [ofDecimalText?, hsigned]
    simp only [spanDigits_append hw hpoint, spanDigits_append hf htail]
    have hsome : ¬ (whole.isEmpty && fraction.isEmpty) = true := by simpa using hne
    rw [if_neg hsome, hx, Option.map_some]

/-- What is read as a decimal is one. -/
theorem exists_decimalText {cs : List Char} {n : Number} (h : ofDecimalText? cs = some n) :
    ∃ negative whole fraction exponent, DecimalText cs negative whole fraction exponent := by
  obtain ⟨sign, hsign, hcs⟩ := spanSign_spec cs
  rcases hs : spanSign cs with ⟨negative, unsigned⟩
  obtain ⟨hw, hunsigned⟩ := spanDigits_spec unsigned
  rcases hds : spanDigits unsigned with ⟨whole, afterWhole⟩
  simp only [hs] at hsign hcs
  simp only [hds] at hw hunsigned
  simp only [ofDecimalText?, hs, hds] at h
  -- behind the digits stand a point and a fraction, or the end of the decimal
  have hparts : ∀ digits fraction tail, DigitsText digits whole fraction ∨ whole ++ fraction = [] →
      cs = sign ++ (digits ++ tail) →
      (if (whole.isEmpty && fraction.isEmpty) = true then none
        else (exponentValue? tail).map (ofParts negative whole fraction)) = some n →
      ∃ negative whole fraction exponent, DecimalText cs negative whole fraction exponent := by
    intro digits fraction tail hdigits htext hread
    split at hread
    · cases hread
    · rename_i hsome
      obtain ⟨exponent, hx, _⟩ := Option.map_eq_some_iff.1 hread
      rw [htext]
      exact ⟨_, _, _, _, .mk hsign (hdigits.resolve_right (by simpa using hsome))
        (exponentValue?_eq_some_iff.1 hx)⟩
  split at h
  · rename_i rest
    obtain ⟨hf, hrest⟩ := spanDigits_spec rest
    rcases hfs : spanDigits rest with ⟨fraction, tail⟩
    simp only [hfs] at hf hrest h
    refine hparts (whole ++ '.' :: fraction) fraction tail ?_ ?_ h
    · exact (Decidable.em (whole ++ fraction = [])).symm.imp_left (.pointed hw hf)
    · rw [hcs, hunsigned, hrest, List.append_assoc, List.cons_append]
  · refine hparts whole [] afterWhole ?_ ?_ h
    · refine (Decidable.em (whole ++ [] = [])).symm.imp_left fun hne => ?_
      exact .whole hw (by simpa using hne)
    · rw [hcs, hunsigned]

/-- A text is read as a decimal exactly if it is one, and then as its parts. -/
theorem ofDecimalText?_eq_some_iff {cs : List Char} {n : Number} :
    ofDecimalText? cs = some n ↔ ∃ negative whole fraction exponent,
      DecimalText cs negative whole fraction exponent ∧
        ofParts negative whole fraction exponent = n := by
  constructor
  · intro h
    obtain ⟨negative, whole, fraction, exponent, hdecimal⟩ := exists_decimalText h
    refine ⟨negative, whole, fraction, exponent, hdecimal, ?_⟩
    exact Option.some.inj (hdecimal.read.symm.trans h)
  · rintro ⟨negative, whole, fraction, exponent, h, rfl⟩
    exact h.read

end RecordQuery.Number

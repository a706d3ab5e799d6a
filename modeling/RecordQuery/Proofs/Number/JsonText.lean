import RecordQuery.Json.Writer
import RecordQuery.Proofs.Number.ReadBack
import RecordQuery.Value.OfJson

/-!
# The JSON text of a number reads back

The text of a finite number is a number of the JSON grammar (`NumberText`), so the reader takes all
of it and stops at what follows (`NumberText.read`). An integer below `2 ^ 53` is read exactly. Of
any other number the digits are right, in that the double nearest to what they say is the number
(`ofDecimalText?_json`). The reader need not find that double, as it scales the digits in double
arithmetic; where it does (`Number.ReadsNearest`), the number is read back (`read_json`).
-/

namespace RecordQuery

open Number

namespace Json

/-! ## The grammar of numbers -/

/-- What comes next is no part of a number. -/
def Follows (rest : List Char) : Prop :=
  ∀ c ∈ rest.head?, c.isDigit = false ∧ c ≠ '.' ∧ c ≠ 'e' ∧ c ≠ 'E'

/-- Nothing comes next. -/
theorem follows_nil : Follows [] := nofun

/-- The digits of a whole part: there are some, and only a single zero begins with a zero. -/
structure Whole (cs : List Char) : Prop where
  digits : Digits cs
  ne_nil : cs ≠ []
  zero : cs.head? = some '0' → cs = ['0']

/-- The digits of a fraction behind their point. -/
def fractionText (fraction : List Char) : List Char :=
  if fraction.isEmpty then [] else '.' :: fraction

/-- An exponent behind its mark, with its sign. -/
def exponentText : Option Int → List Char
  | none => []
  | some x => 'e' :: (if x < 0 then '-' else '+') :: Nat.toDigits 10 x.natAbs

/-- The characters are a number: a sign if it is negative, a whole part, and perhaps a fraction and
an exponent. -/
inductive NumberText : List Char → Prop
  | mk (negative : Bool) {whole fraction : List Char} (exponent : Option Int) (hw : Whole whole)
    (hf : Digits fraction) :
    NumberText (withSign negative (whole ++ (fractionText fraction ++ exponentText exponent)))

/-- What the parts of a number denote. -/
def numeralOf? (negative : Bool) (whole fraction : List Char) (exponent : Option Int) :
    Option Numeral :=
  if fraction.isEmpty && exponent.isNone then integerNumeral negative whole
  else doubleNumeral negative whole fraction (exponent.getD 0)

/-- A whole part is read up to its last digit. -/
theorem spanWhole_append {whole rest : List Char} (hw : Whole whole)
    (hrest : ∀ c ∈ rest.head?, c.isDigit = false) : spanWhole (whole ++ rest) = (whole, rest) := by
  obtain ⟨c, cs, rfl⟩ := List.exists_cons_of_ne_nil hw.ne_nil
  by_cases hc : c = '0'
  · subst hc
    rw [hw.zero rfl]
    rfl
  · have hspan : spanWhole (c :: cs ++ rest) = spanDigits (c :: cs ++ rest) := by
      unfold spanWhole
      split
      · rename_i heq
        exact absurd (List.cons.inj heq).1 hc
      · rfl
    rw [hspan, spanDigits_append hw.digits hrest]

/-- A fraction is read up to its last digit. -/
theorem spanFraction?_append {fraction rest : List Char} (hf : Digits fraction)
    (hrest : ∀ c ∈ rest.head?, c.isDigit = false ∧ c ≠ '.') :
    spanFraction? (fractionText fraction ++ rest) = some (fraction, rest) := by
  cases fraction with
  | nil =>
    have hnone : fractionText [] ++ rest = rest := rfl
    rw [hnone]
    unfold spanFraction?
    split
    · exact absurd rfl (hrest '.' rfl).2
    · rfl
  | cons c cs =>
    have hspan := spanDigits_append hf fun d hd => (hrest d hd).1
    rw [fractionText, List.isEmpty_cons, if_neg Bool.false_ne_true, List.cons_append,
      spanFraction?, hspan]
    rfl

/-- An exponent is read up to its last digit. -/
theorem spanExponent?_append (exponent : Option Int) {rest : List Char} (hrest : Follows rest) :
    spanExponent? (exponentText exponent ++ rest) = some (exponent, rest) := by
  cases exponent with
  | none =>
    cases rest with
    | nil => rfl
    | cons c cs =>
      obtain ⟨_, _, he, hE⟩ := hrest c rfl
      have hnone : exponentText none ++ c :: cs = c :: cs := rfl
      rw [hnone, spanExponent?, if_neg (by simp [he, hE])]
  | some x =>
    have hspan := spanDigits_append (digits_toDigits x.natAbs) fun c hc => (hrest c hc).1
    have hvalue : digitsValue (Nat.toDigits 10 x.natAbs) = x.natAbs :=
      Nat.ofDigitChars_ten_toDigits
    have hempty : (Nat.toDigits 10 x.natAbs).isEmpty = false := by
      simp [Nat.toDigits_ne_nil]
    rcases Int.lt_or_le x 0 with hneg | hpos
    · have hsigned : signed true x.natAbs = x := by
        simp only [signed, if_true]
        omega
      simp [exponentText, if_pos hneg, spanExponent?, spanSign, hspan, hvalue, hsigned, hempty]
    · have hsigned : signed false x.natAbs = x := by
        simp only [signed, Bool.false_eq_true, if_false]
        omega
      simp [exponentText, if_neg (Int.not_lt.2 hpos), spanExponent?, spanSign, hspan, hvalue,
        hsigned, hempty]

/-- A fraction and an exponent do not begin with a digit. -/
theorem head?_fractionText (fraction : List Char) {rest : List Char} (exponent : Option Int)
    (hrest : Follows rest) :
    ∀ c ∈ (fractionText fraction ++ (exponentText exponent ++ rest)).head?, c.isDigit = false := by
  cases fraction with
  | cons => simp [fractionText]
  | nil =>
    cases exponent with
    | none => exact fun c hc => (hrest c hc).1
    | some x => simp [fractionText, exponentText]

/-- An exponent begins with its mark. -/
theorem head?_exponentText (exponent : Option Int) {rest : List Char} (hrest : Follows rest) :
    ∀ c ∈ (exponentText exponent ++ rest).head?, c.isDigit = false ∧ c ≠ '.' := by
  cases exponent with
  | none => exact fun c hc => ⟨(hrest c hc).1, (hrest c hc).2.1⟩
  | some x => simp [exponentText]

/-- The parts of a number are read in order. -/
theorem readUnsigned_append (negative : Bool) {whole fraction rest : List Char}
    (exponent : Option Int) (hw : Whole whole) (hf : Digits fraction) (hrest : Follows rest) :
    readUnsigned negative (whole ++ (fractionText fraction ++ (exponentText exponent ++ rest))) =
      (numeralOf? negative whole fraction exponent).map fun numeral => (numeral, rest) := by
  have hwhole := spanWhole_append hw (head?_fractionText fraction exponent hrest)
  have hfraction := spanFraction?_append hf (head?_exponentText exponent hrest)
  have hexponent := spanExponent?_append exponent hrest
  have hne : whole.isEmpty = false := by simpa using hw.ne_nil
  rw [readUnsigned, hwhole]
  simp only [hne, hfraction, hexponent, Bool.false_eq_true, if_false, Option.pure_def,
    Option.bind_eq_bind, Option.bind_some, numeralOf?]
  split
  · cases integerNumeral negative whole <;> rfl
  · cases doubleNumeral negative whole fraction (exponent.getD 0) <;> rfl

/-- The parts of a number are read behind its sign. -/
theorem readNumber_append (negative : Bool) {whole fraction rest : List Char}
    (exponent : Option Int) (hw : Whole whole) (hf : Digits fraction) (hrest : Follows rest) :
    readNumber
        (withSign negative (whole ++ (fractionText fraction ++ exponentText exponent)) ++ rest) =
      (numeralOf? negative whole fraction exponent).map fun numeral => (numeral, rest) := by
  have hread := readUnsigned_append negative exponent hw hf hrest
  cases negative with
  | true =>
    rw [withSign, if_pos rfl, List.cons_append, List.append_assoc, List.append_assoc, readNumber]
    exact hread
  | false =>
    rw [withSign, if_neg Bool.false_ne_true, List.append_assoc, List.append_assoc, ← hread]
    obtain ⟨c, cs, rfl⟩ := List.exists_cons_of_ne_nil hw.ne_nil
    have hc : c ≠ '-' := by
      rintro rfl
      exact absurd (hw.digits '-' (.head _)) (by decide)
    unfold readNumber
    split
    · rename_i heq
      exact absurd (List.cons.inj heq).1 hc
    · rfl

/-- All of a number is read, whatever follows it, and what it denotes does not depend on that. -/
theorem NumberText.read {cs : List Char} (h : NumberText cs) :
    ∃ numeral? : Option Numeral, ∀ rest, Follows rest →
      readNumber (cs ++ rest) = numeral?.map fun numeral => (numeral, rest) := by
  obtain ⟨negative, exponent, hw, hf⟩ := h
  exact ⟨_, fun rest hrest => readNumber_append negative exponent hw hf hrest⟩

/-- A number begins with a digit or a minus sign. -/
theorem NumberText.head {cs : List Char} (h : NumberText cs) :
    ∃ c rest, cs = c :: rest ∧ (c.isDigit = true ∨ c = '-') := by
  obtain ⟨negative, exponent, hw, hf⟩ := h
  rename_i whole fraction
  obtain ⟨c, more, rfl⟩ := List.exists_cons_of_ne_nil hw.ne_nil
  cases negative with
  | true => exact ⟨'-', _, rfl, .inr rfl⟩
  | false => exact ⟨c, _, rfl, .inl (hw.digits c (.head _))⟩

/-! ## Texts of the grammar -/

/-- Digits that do not begin with a zero are a whole part, also with more digits behind them. -/
theorem Whole.of_head {c : Char} {cs : List Char} (h : Digits (c :: cs)) (hc : c ≠ '0') :
    Whole (c :: cs) :=
  ⟨h, List.cons_ne_nil _ _, fun hzero => absurd (Option.some.inj hzero) hc⟩

/-- One digit is a whole part. -/
theorem Whole.single {c : Char} (hc : c.isDigit = true) : Whole [c] := by
  refine ⟨by simpa [Digits] using hc, List.cons_ne_nil _ _, fun hzero => ?_⟩
  rw [Option.some.inj hzero]

/-- The digits of a number other than zero do not begin with a zero. -/
theorem head_toDigits {n : Nat} (hn : n ≠ 0) :
    ∃ c cs, Nat.toDigits 10 n = c :: cs ∧ c ≠ '0' := by
  induction n using Nat.strongRecOn with
  | ind n ih =>
    rcases Nat.lt_or_ge n 10 with hlt | hge
    · have hdigit : ∀ d : Fin 10, d.val ≠ 0 → d.val.digitChar ≠ '0' := by decide
      exact ⟨_, [], Nat.toDigits_of_lt_base hlt, hdigit ⟨n, hlt⟩ hn⟩
    · obtain ⟨c, cs, hdigits, hc⟩ := ih (n / 10) (by omega) (by omega)
      refine ⟨c, cs ++ [(n % 10).digitChar], ?_, hc⟩
      rw [Nat.toDigits_of_base_le (by decide) hge, hdigits, List.cons_append]

/-- The digits of a natural number are a whole part. -/
theorem whole_toDigits (n : Nat) : Whole (Nat.toDigits 10 n) := by
  by_cases hn : n = 0
  · subst hn
    exact Whole.single (by decide)
  · obtain ⟨c, cs, hdigits, hc⟩ := head_toDigits hn
    rw [hdigits]
    exact .of_head (hdigits ▸ digits_toDigits n) hc

/-- Digits are a number without fraction and exponent. -/
theorem numberText_whole (negative : Bool) {whole : List Char} (hw : Whole whole) :
    NumberText (withSign negative whole) := by
  have htext : whole ++ (fractionText [] ++ exponentText none) = whole := List.append_nil whole
  have h := NumberText.mk negative none hw digits_nil
  rwa [htext] at h

/-- Digits with a fraction are a number without exponent. -/
theorem numberText_pointed (negative : Bool) {whole fraction : List Char} (hw : Whole whole)
    (hf : Digits fraction) (hne : fraction ≠ []) :
    NumberText (withSign negative (whole ++ '.' :: fraction)) := by
  have htext : fractionText fraction ++ exponentText none = '.' :: fraction := by
    rw [fractionText, if_neg (by simpa using hne)]
    exact List.append_nil _
  have h := NumberText.mk negative none hw hf
  rwa [htext] at h

/-- The positional form is a number. -/
theorem numberText_positional (negative pointZero : Bool) {c : Char} {cs : List Char}
    (hd : Digits (c :: cs)) (hc : c ≠ '0') (leading : Int) :
    NumberText (withSign negative (positional pointZero (c :: cs) leading)) := by
  unfold positional
  split
  · exact numberText_pointed negative (.single (c := '0') (by decide))
      ((digits_zeros _).append hd) (by simp)
  · dsimp only
    split
    · have hdigits := hd.append (digits_zeros (leading.toNat + 1 - (c :: cs).length))
      rw [List.cons_append] at hdigits ⊢
      cases pointZero with
      | false =>
        rw [if_neg Bool.false_ne_true, List.append_nil]
        exact numberText_whole negative (.of_head hdigits hc)
      | true =>
        rw [if_pos rfl]
        exact numberText_pointed negative (.of_head hdigits hc) (digits_zeros 1) (by simp)
    · rename_i hlt
      have hwhole : Digits ((c :: cs).take (leading.toNat + 1)) := fun d hmem =>
        hd d (List.mem_of_mem_take hmem)
      have hfraction : Digits ((c :: cs).drop (leading.toNat + 1)) := fun d hmem =>
        hd d (List.mem_of_mem_drop hmem)
      rw [List.take_succ_cons] at hwhole ⊢
      refine numberText_pointed negative (.of_head hwhole hc) hfraction ?_
      rw [ne_eq, List.drop_eq_nil_iff]
      omega

/-- The exponent form is a number. -/
theorem numberText_scientific (negative : Bool) {digits : List Char} (hd : Digits digits)
    (hne : digits ≠ []) (leading : Int) :
    NumberText (withSign negative (scientific digits leading)) := by
  unfold scientific
  match digits, hne with
  | [first], _ =>
    exact .mk negative (some leading) (.single (hd first (.head _))) digits_nil
  | first :: second :: rest, _ =>
    have hfraction : Digits (second :: rest) := fun c hc => hd c (.tail _ hc)
    exact .mk negative (some leading) (.single (hd first (.head _))) hfraction

/-- A decimal other than zero is a number in any format. -/
theorem numberText_place (layout : Layout) (negative : Bool) {decimal : Decimal}
    (h : decimal.coefficient ≠ 0) : NumberText (withSign negative (layout.place decimal)) := by
  have hsig : Digits (significantDigits (Nat.toDigits 10 decimal.coefficient)) :=
    digits_significantDigits (digits_toDigits _)
  have hne := significantDigits_ne_nil h
  obtain ⟨n, hzeros⟩ := exists_significantDigits_append (Nat.toDigits 10 decimal.coefficient)
  obtain ⟨first, more, hfirst, hnonzero⟩ := head_toDigits h
  unfold Layout.place
  dsimp only
  split
  · -- the first significant digit is the first digit
    obtain ⟨c, cs, hdigits⟩ := List.exists_cons_of_ne_nil hne
    rw [hdigits] at hsig ⊢
    rw [hdigits, hfirst, List.cons_append] at hzeros
    exact numberText_positional negative layout.pointZero hsig
      ((List.cons.inj hzeros).1 ▸ hnonzero) _
  · exact numberText_scientific negative hsig hne _

/-! ## Integers -/

/-- The characters of an integer. -/
theorem toList_integer (n : Int) :
    (Text.integer n).toList = withSign (n < 0) (Nat.toDigits 10 n.natAbs) := by
  rw [Text.integer, Text.decimal]
  rcases Int.lt_or_le n 0 with hneg | hpos
  · simp [hneg, withSign]
  · simp [Int.not_lt.2 hpos, withSign]

/-- What an integer below `2 ^ 53` denotes. -/
theorem integerNumeral_toDigits {n : Int} (hn : n.natAbs < 2 ^ 53) :
    ∃ numeral : Numeral, numeral.toNumber = Number.ofInt n ∧
      integerNumeral (n < 0) (Nat.toDigits 10 n.natAbs) = some numeral := by
  have hvalue : digitsValue (Nat.toDigits 10 n.natAbs) = n.natAbs := Nat.ofDigitChars_ten_toDigits
  rw [integerNumeral, hvalue]
  simp only [Nat.pow_eq]
  rcases Int.lt_or_le n 0 with hneg | hpos
  · have hint : -(n.natAbs : Int) = n := by omega
    refine ⟨.signed (Int64.ofInt n), ?_, ?_⟩
    · rw [Numeral.toNumber, Int64.toInt_ofInt_of_le (by omega) (by omega)]
    · rw [if_neg (by simp [hneg]), if_pos (by simp [hneg]; omega), hint]
  · refine ⟨.unsigned (UInt64.ofNat n.natAbs), ?_, ?_⟩
    · rw [Numeral.toNumber, UInt64.toNat_ofNat_of_lt' (by rw [UInt64.size]; omega), Number.ofNat,
        Number.ofInt, decide_eq_false (Int.not_lt.2 hpos)]
    · rw [if_pos (by simp [Int.not_lt.2 hpos]; omega)]

/-- An integer below `2 ^ 53` is read as what it is. -/
theorem readNumber_integer {n : Int} (hn : n.natAbs < 2 ^ 53) :
    ∃ numeral : Numeral, numeral.toNumber = Number.ofInt n ∧ ∀ rest, Follows rest →
      readNumber ((Text.integer n).toList ++ rest) = some (numeral, rest) := by
  obtain ⟨numeral, hnumeral, hinteger⟩ := integerNumeral_toDigits hn
  refine ⟨numeral, hnumeral, fun rest hrest => ?_⟩
  have hread := readNumber_append (n < 0) none (whole_toDigits n.natAbs) digits_nil hrest
  have hnone : fractionText [] ++ exponentText none = [] := rfl
  rw [hnone, List.append_nil] at hread
  rw [toList_integer, hread, numeralOf?, List.isEmpty_nil, Option.isNone_none, Bool.and_self,
    if_pos rfl, hinteger, Option.map_some]

end Json

namespace Number

/-- The number is an integer below `2 ^ 53`, which JSON writes without a point. -/
def WrittenWhole (quanta : Nat) : Prop :=
  quanta % quantaPerOne = 0 ∧ quanta / quantaPerOne < Nat.pow 2 53

/-- The JSON reader takes the text of the number for the double nearest to what it says. -/
def ReadsNearest (n : Number) : Prop :=
  (Json.readNumber n.json.toList).map (fun (numeral, _) => numeral.toNumber) =
    ofDecimalText? n.json.toList

instance : DecidablePred ReadsNearest := fun _ => inferInstanceAs (Decidable (_ = _))

/-- A signed integer is below zero if its sign says so and it is not zero. -/
theorem signed_lt_zero (negative : Bool) (m : Nat) :
    decide (signed negative m < 0) = (negative && m != 0) := by
  cases negative with
  | false => simp [signed]
  | true =>
    rw [Bool.true_and, signed, if_pos rfl, bne, Bool.eq_iff_iff, decide_eq_true_iff]
    simp
    omega

/-- The integer part of an integer is the integer. -/
theorem ofInt_truncate {negative : Bool} {q : Nat} (hq : Representable q)
    (hwhole : q % quantaPerOne = 0) :
    ofInt (truncate (.finite negative q hq)) = .finite (negative && q != 0) q hq := by
  have hmul : q / quantaPerOne * quantaPerOne = q :=
    Nat.div_mul_cancel (Nat.dvd_of_mod_eq_zero hwhole)
  have hzero : (q / quantaPerOne != 0) = (q != 0) := by
    rw [bne, bne, Bool.eq_iff_iff, Bool.not_eq_true', Bool.not_eq_true', beq_eq_false_iff_ne,
      beq_eq_false_iff_ne]
    refine not_congr ⟨fun h => ?_, fun h => ?_⟩
    · rw [← hmul, h, Nat.zero_mul]
    · rw [h, Nat.zero_div]
  have hnearest : nearestQuanta q 1 = q := by
    have hone := nearestQuanta_mul_right hq.2 Nat.one_pos
    rwa [Nat.mul_one] at hone
  rw [ofInt, truncate, natAbs_signed, hmul, signed_lt_zero, hzero]
  exact ofQuanta_eq_finite hq hnearest

/-- Zero is written as an integer. -/
theorem writtenWhole_zero : WrittenWhole 0 := by
  rw [WrittenWhole, Nat.zero_mod, Nat.zero_div]
  exact ⟨rfl, Nat.pow_pos (by decide)⟩

/-- The text of a number that is written as an integer. -/
theorem json_eq_integer {negative : Bool} {q : Nat} (hq : Representable q) (h : WrittenWhole q) :
    json (.finite negative q hq) = Text.integer (truncate (.finite negative q hq)) :=
  if_pos h

/-- Zero is written without a sign. -/
theorem json_zero (negative : Bool) (hq : Representable 0) :
    json (.finite negative 0 hq) = Text.integer 0 := by
  rw [json_eq_integer hq writtenWhole_zero, truncate, Nat.zero_div]
  cases negative <;> rfl

/-- The text of a number that is not written as an integer. -/
theorem json_eq_place {negative : Bool} {q : Nat} (hq : Representable q) (h : ¬ WrittenWhole q) :
    (json (.finite negative q hq)).toList =
      withSign negative (jsonLayout.place (shortest jsonLayout.tie q)) := by
  have hwrite : json (.finite negative q hq) = jsonLayout.write negative q := if_neg h
  rw [hwrite, Layout.write, String.toList_ofList, withSign]

/-- The digits of a number that is not written as an integer say what it is: the double nearest to
them is the number. -/
theorem ofDecimalText?_json {negative : Bool} {q : Nat} (hq : Representable q)
    (h : ¬ WrittenWhole q) :
    ofDecimalText? (json (.finite negative q hq)).toList = some (.finite negative q hq) := by
  have hne : q ≠ 0 := fun hzero => h (hzero ▸ writtenWhole_zero)
  obtain ⟨c, e, hread, hce⟩ := ofDecimalText?_place jsonLayout negative jsonLayout.tie hq.2 hne
  rw [json_eq_place hq h, hread, ofDecimal_eq_finite hq hne hce]

/-- The double nearest to the digits of an integer is the double nearest to the integer. -/
theorem ofDecimalText?_integer (n : Int) :
    ofDecimalText? (Text.integer n).toList = some (ofInt n) := by
  have hend : exponentValue? [] = some 0 := rfl
  have hread := ofDecimalText?_whole (n < 0) (digits_toDigits n.natAbs) Nat.toDigits_ne_nil hend
  have hvalue : digitsValue (Nat.toDigits 10 n.natAbs) = n.natAbs := Nat.ofDigitChars_ten_toDigits
  rw [List.append_nil] at hread
  rw [Json.toList_integer, hread, ofParts, List.append_nil, hvalue, Option.some.injEq]
  by_cases hzero : n = 0
  · subst hzero
    rw [ofDecimal, ofInt, Int.natAbs_zero, if_pos rfl, Nat.zero_mul]
    exact (ofQuanta_eq_finite _ (nearestQuanta_eq_zero Nat.one_pos)).symm
  · have hsmall : ¬ ((0 : Int) + n.natAbs.log2 < -400) := by omega
    rw [ofDecimal, ofInt, if_neg (by omega), if_neg (by simp), List.length_nil]
    rw [if_neg (by simp)]
    simp

/-- The text of the number has neither point nor exponent, or no digits at all. -/
def Unpointed : Number → Prop
  | .finite _ quanta _ => WrittenWhole quanta
  | _ => True

/-- A number without point and exponent is read as the double nearest to its digits. -/
theorem readsNearest_of_unpointed {n : Number} (h : n.Unpointed) : n.ReadsNearest := by
  cases n with
  | nan => decide
  | infinite negative => cases negative <;> decide
  | finite negative q hq =>
    have hlt : (truncate (.finite negative q hq)).natAbs < 2 ^ 53 := by
      rw [truncate, natAbs_signed]
      exact h.2
    obtain ⟨numeral, hnumeral, hread⟩ := Json.readNumber_integer hlt
    have hend := hread [] Json.follows_nil
    rw [List.append_nil] at hend
    rw [ReadsNearest, json_eq_integer hq h, hend, ofDecimalText?_integer, Option.map_some]
    exact congrArg some hnumeral

/-- Some other numbers are read as a double next to the nearest one. -/
example : ¬ ReadsNearest (.ofDecimal false 12345678914412575 (-11)) := by decide +kernel

/-- The text of a finite number is a number of the JSON grammar. -/
theorem numberText_json (negative : Bool) {q : Nat} (hq : Representable q) :
    Json.NumberText (json (.finite negative q hq)).toList := by
  by_cases h : WrittenWhole q
  · rw [json_eq_integer hq h, Json.toList_integer]
    exact Json.numberText_whole _ (Json.whole_toDigits _)
  · have hne : q ≠ 0 := fun hzero => h (hzero ▸ writtenWhole_zero)
    have hscaled := scaled_shortest jsonLayout.tie hq.2
    rw [json_eq_place hq h]
    exact Json.numberText_place jsonLayout negative (coefficient_ne_zero (hscaled ▸ hne))

/-- A finite number is read back from its text, but for the sign of zero, if the reader takes the
text for the nearest double. -/
theorem read_json {negative : Bool} {q : Nat} {hq : Representable q}
    (h : ReadsNearest (.finite negative q hq)) :
    ∃ numeral : Json.Numeral, numeral.toNumber = .finite (negative && q != 0) q hq ∧
      ∀ rest, Json.Follows rest →
        Json.readNumber ((json (.finite negative q hq)).toList ++ rest) = some (numeral, rest) := by
  by_cases hwhole : WrittenWhole q
  · have hlt : (truncate (.finite negative q hq)).natAbs < 2 ^ 53 := by
      rw [truncate, natAbs_signed]
      exact hwhole.2
    obtain ⟨numeral, hnumeral, hread⟩ := Json.readNumber_integer hlt
    refine ⟨numeral, hnumeral.trans (ofInt_truncate hq hwhole.1), ?_⟩
    rw [json_eq_integer hq hwhole]
    exact hread
  · have hne : (q != 0) = true := bne_iff_ne.2 fun hzero => hwhole (hzero ▸ writtenWhole_zero)
    obtain ⟨numeral?, hread⟩ := (numberText_json negative hq).read
    have hend := hread [] Json.follows_nil
    rw [List.append_nil] at hend
    rw [ReadsNearest, hend, ofDecimalText?_json hq hwhole] at h
    cases numeral? with
    | none => cases h
    | some numeral =>
      refine ⟨numeral, ?_, hread⟩
      rw [hne, Bool.and_true]
      exact Option.some.inj h

end Number

end RecordQuery

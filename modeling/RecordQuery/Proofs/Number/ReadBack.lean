import RecordQuery.Number.Reading
import RecordQuery.Number.Text
import RecordQuery.Proofs.Number.DecimalText
import RecordQuery.Proofs.Number.Shortest
import RecordQuery.Proofs.Number.Sign
import RecordQuery.Value.Coercion

/-!
# The text of a number reads back

`ofText_text`: the number that the text of a number stands for is that number, up to the sign of
zero. Hence numbers with the same text are the same (`sameValueZero_of_text_eq`), and a text or a
list with just one number in it is coerced back to that (`Value.toNumber_text_unique`). The text is
made of the digits of the shortest decimal without their final zeros and the place of the first of
them; `ofDecimalText?_positional` and `ofDecimalText?_scientific` say that either layout reads as
just those digits at that place.
-/

namespace RecordQuery

namespace Number

/-! ## Digits -/

/-- The decimal digits of a natural number are digits. -/
theorem digits_toDigits (n : Nat) : Digits (Nat.toDigits 10 n) := fun _ hc =>
  Nat.isDigit_of_mem_toDigits (by decide) (by decide) hc

/-- Zeros in front do not count. -/
theorem digitsValue_zeros_append (n : Nat) (digits : List Char) :
    digitsValue (List.replicate n '0' ++ digits) = digitsValue digits := by
  rw [digitsValue, Nat.ofDigitChars_append, Nat.ofDigitChars_replicate_zero, Nat.mul_zero,
    digitsValue]

/-- Each zero behind counts ten times. -/
theorem digitsValue_append_zeros (digits : List Char) (n : Nat) :
    digitsValue (digits ++ List.replicate n '0') = digitsValue digits * 10 ^ n := by
  rw [digitsValue, Nat.ofDigitChars_append, Nat.ofDigitChars_replicate_zero, Nat.mul_comm,
    digitsValue]

/-- Digits are the significant ones and zeros. -/
theorem exists_significantDigits_append (digits : List Char) :
    ∃ n, digits = significantDigits digits ++ List.replicate n '0' := by
  let zeros := digits.reverse.takeWhile (· == '0')
  refine ⟨zeros.length, ?_⟩
  have hzeros : zeros.reverse = List.replicate zeros.length '0' :=
    List.eq_replicate_iff.2 ⟨List.length_reverse, fun c hc => by
      simpa using List.all_eq_true.1 (List.all_takeWhile) c (List.mem_reverse.1 hc)⟩
  rw [← hzeros, significantDigits, ← List.reverse_append, List.takeWhile_append_dropWhile,
    List.reverse_reverse]

/-- Digits without their final zeros are digits. -/
theorem digits_significantDigits {digits : List Char} (h : Digits digits) :
    Digits (significantDigits digits) := fun c hc =>
  h c (List.mem_reverse.1 ((List.dropWhile_suffix _).mem (List.mem_reverse.1 hc)))

/-- A number other than zero has a significant digit. -/
theorem significantDigits_ne_nil {n : Nat} (hn : n ≠ 0) :
    significantDigits (Nat.toDigits 10 n) ≠ [] := by
  intro hnil
  obtain ⟨zeros, hzeros⟩ := exists_significantDigits_append (Nat.toDigits 10 n)
  have hvalue : Nat.ofDigitChars 10 (Nat.toDigits 10 n) 0 = n := Nat.ofDigitChars_ten_toDigits
  rw [hzeros, hnil, List.nil_append, Nat.ofDigitChars_replicate_zero, Nat.mul_zero] at hvalue
  exact hn hvalue.symm

/-! ## Reading a decimal -/

/-- A minus sign in front of what is negative. -/
def withSign (negative : Bool) (cs : List Char) : List Char := if negative then '-' :: cs else cs

/-- A minus sign or none stands in front. -/
theorem exists_signText (negative : Bool) (cs : List Char) :
    ∃ sign, SignText sign negative ∧ withSign negative cs = sign ++ cs := by
  cases negative with
  | true => exact ⟨_, .minus, rfl⟩
  | false => exact ⟨_, .none, rfl⟩

/-- A decimal without a point. -/
theorem ofDecimalText?_whole (negative : Bool) {whole tail : List Char} {exponent : Int}
    (hw : Digits whole) (hne : whole ≠ []) (hx : exponentValue? tail = some exponent) :
    ofDecimalText? (withSign negative (whole ++ tail)) =
      some (ofParts negative whole [] exponent) := by
  obtain ⟨sign, hsign, htext⟩ := exists_signText negative (whole ++ tail)
  rw [htext]
  exact DecimalText.read (.mk hsign (.whole hw hne) (exponentValue?_eq_some_iff.1 hx))

/-- A decimal with a point. -/
theorem ofDecimalText?_pointed (negative : Bool) {whole fraction tail : List Char} {exponent : Int}
    (hw : Digits whole) (hne : whole ≠ []) (hf : Digits fraction)
    (hx : exponentValue? tail = some exponent) :
    ofDecimalText? (withSign negative (whole ++ '.' :: (fraction ++ tail))) =
      some (ofParts negative whole fraction exponent) := by
  have hsome : whole ++ fraction ≠ [] := List.append_ne_nil_of_left_ne_nil hne fraction
  obtain ⟨sign, hsign, htext⟩ := exists_signText negative (whole ++ '.' :: (fraction ++ tail))
  rw [htext, ← List.cons_append, ← List.append_assoc whole]
  exact DecimalText.read (.mk hsign (.pointed hw hf hsome) (exponentValue?_eq_some_iff.1 hx))

/-- The exponent of a scientific form. -/
theorem exponentValue?_written (leading : Int) :
    exponentValue? ('e' :: (if leading < 0 then '-' else '+') :: Nat.toDigits 10 leading.natAbs) =
      some leading := by
  have hsign : SignText [if leading < 0 then '-' else '+'] (leading < 0) := by
    by_cases h : leading < 0
    · rw [if_pos h, decide_eq_true h]
      exact .minus
    · rw [if_neg h, decide_eq_false h]
      exact .plus
  have hvalue : digitsValue (Nat.toDigits 10 leading.natAbs) = leading.natAbs :=
    Nat.ofDigitChars_ten_toDigits
  have hread := exponentValue?_eq_some_iff.2
    (.marked (.inl rfl) hsign (digits_toDigits leading.natAbs) Nat.toDigits_ne_nil)
  rwa [hvalue, signed_natAbs] at hread

/-! ## The two layouts -/

/-- The double nearest to a decimal whose first digit stands at a power of ten. -/
def scaledAt (digits : List Char) (leading : Int) : Nat :=
  scaled (digitsValue digits) (leading + 1 - digits.length)

/-- Zeros are digits. -/
theorem digits_zeros (n : Nat) : Digits (List.replicate n '0') := by
  intro c hc
  rw [(List.mem_replicate.1 hc).2]
  rfl

/-- Digits may be joined. -/
theorem Digits.append {xs ys : List Char} (hx : Digits xs) (hy : Digits ys) : Digits (xs ++ ys) :=
  List.forall_mem_append.2 ⟨hx, hy⟩

/-- What is read of a positional form has the value of the digits at their place, also if a point
and a zero are put behind an integer. -/
theorem ofDecimalText?_positional (negative pointZero : Bool) {digits : List Char} {leading : Int}
    (hd : Digits digits) (hne : digits ≠ []) :
    ∃ c e, ofDecimalText? (withSign negative (positional pointZero digits leading)) =
      some (ofDecimal negative c e) ∧ scaled c e = scaledAt digits leading := by
  have hend : exponentValue? [] = some 0 := rfl
  unfold positional
  split
  · -- zeros between the point and the digits
    rename_i hneg
    have hread := ofDecimalText?_pointed negative (digits_zeros 1) (by simp)
      ((digits_zeros (-leading - 1).toNat).append hd) hend
    rw [List.append_nil] at hread
    refine ⟨_, _, hread, ?_⟩
    rw [digitsValue_zeros_append, digitsValue_zeros_append, scaledAt]
    congr 1
    simp only [List.length_append, List.length_replicate]
    omega
  · dsimp only
    split
    · -- zeros between the digits and the end
      rename_i hneg hle
      have hwhole := hd.append (digits_zeros (leading.toNat + 1 - digits.length))
      have hwholene : digits ++ List.replicate (leading.toNat + 1 - digits.length) '0' ≠ [] := by
        simp [hne]
      cases pointZero with
      | false =>
        have hread := ofDecimalText?_whole negative hwhole hwholene hend
        refine ⟨_, _, hread, ?_⟩
        rw [List.append_nil, digitsValue_append_zeros, scaled_mul_pow, scaledAt]
        congr 1
        simp only [List.length_nil]
        omega
      | true =>
        have hread := ofDecimalText?_pointed negative hwhole hwholene (digits_zeros 1) hend
        rw [List.append_nil] at hread
        refine ⟨_, _, hread, ?_⟩
        rw [digitsValue_append_zeros, scaled_mul_pow, digitsValue_append_zeros, scaled_mul_pow,
          scaledAt]
        congr 1
        simp only [List.length_replicate]
        omega
    · -- the point among the digits
      rename_i hneg hlt
      have hwhole : Digits (digits.take (leading.toNat + 1)) := fun c hc =>
        hd c (List.mem_of_mem_take hc)
      have hfraction : Digits (digits.drop (leading.toNat + 1)) := fun c hc =>
        hd c (List.mem_of_mem_drop hc)
      have hread := ofDecimalText?_pointed negative hwhole (by simp [hne]) hfraction hend
      rw [List.append_nil] at hread
      refine ⟨_, _, hread, ?_⟩
      rw [List.take_append_drop, scaledAt, List.length_drop]
      congr 1
      omega

/-- What is read of a scientific form has the value of the digits at their place. -/
theorem ofDecimalText?_scientific (negative : Bool) {digits : List Char} {leading : Int}
    (hd : Digits digits) (hne : digits ≠ []) :
    ∃ c e, ofDecimalText? (withSign negative (scientific digits leading)) =
      some (ofDecimal negative c e) ∧ scaled c e = scaledAt digits leading := by
  have hexponent := exponentValue?_written leading
  unfold scientific
  match digits, hne with
  | [first], _ =>
    refine ⟨_, _, ofDecimalText?_whole negative hd (List.cons_ne_nil _ _) hexponent, ?_⟩
    rw [List.append_nil, scaledAt]
    congr 1
    simp only [List.length_nil, List.length_singleton]
    omega
  | first :: second :: rest, _ =>
    have hfraction : Digits (second :: rest) := fun c hc => hd c (.tail _ hc)
    have hwhole : Digits [first] := fun c hc => hd c (by simp_all)
    refine ⟨_, _, ofDecimalText?_pointed negative hwhole (by simp) hfraction hexponent, ?_⟩
    rw [List.singleton_append, scaledAt]
    congr 1
    simp only [List.length_cons]
    omega

/-- What is read of the shortest decimal in any format has the magnitude. -/
theorem ofDecimalText?_place (layout : Layout) (negative : Bool) (tie : Tie) {q : Nat}
    (hq : FitsSignificand q) (hne : q ≠ 0) :
    ∃ c e, ofDecimalText? (withSign negative (layout.place (shortest tie q))) =
      some (ofDecimal negative c e) ∧ scaled c e = q := by
  generalize hdecimal : shortest tie q = decimal
  have hscaled := scaled_shortest tie hq
  rw [hdecimal] at hscaled
  let all := Nat.toDigits 10 decimal.coefficient
  have hall : Digits all := digits_toDigits _
  obtain ⟨n, hn⟩ := exists_significantDigits_append all
  -- the final zeros that are left out are counted in the place of the first digit
  have hvalue : scaledAt (significantDigits all) (decimal.exponent + all.length - 1) = q := by
    have hcoefficient : digitsValue (significantDigits all) * 10 ^ n = decimal.coefficient := by
      rw [← digitsValue_append_zeros, ← hn]
      exact Nat.ofDigitChars_ten_toDigits
    have hlength : all.length = (significantDigits all).length + n := by
      simpa using congrArg List.length hn
    rw [← hscaled, ← hcoefficient, scaled_mul_pow, scaledAt]
    congr 1
    omega
  have hsig := digits_significantDigits hall
  have hsigne : significantDigits all ≠ [] :=
    significantDigits_ne_nil (coefficient_ne_zero (hscaled ▸ hne))
  rw [Layout.place]
  split
  · obtain ⟨c, e, hread, hce⟩ := ofDecimalText?_positional negative layout.pointZero hsig hsigne
    exact ⟨c, e, hread, hce.trans hvalue⟩
  · obtain ⟨c, e, hread, hce⟩ := ofDecimalText?_scientific negative hsig hsigne
    exact ⟨c, e, hread, hce.trans hvalue⟩

/-! ## The characters of a number -/

/-- The characters that the text of a finite number is made of. -/
def isNumeralChar (c : Char) : Bool :=
  c.isDigit || c == '.' || c == 'e' || c == '+' || c == '-'

/-- Every character may stand in the text of a finite number. -/
def Numeral (cs : List Char) : Prop := ∀ c ∈ cs, isNumeralChar c = true

/-- Digits may stand in the text of a finite number. -/
theorem Digits.numeral {cs : List Char} (h : Digits cs) : Numeral cs := by
  intro c hc
  simp [isNumeralChar, h c hc]

/-- Texts of numbers may be joined. -/
theorem numeral_append {xs ys : List Char} : Numeral (xs ++ ys) ↔ Numeral xs ∧ Numeral ys :=
  List.forall_mem_append

/-- A character of numbers may stand in front. -/
theorem numeral_cons {c : Char} {cs : List Char} :
    Numeral (c :: cs) ↔ isNumeralChar c = true ∧ Numeral cs :=
  List.forall_mem_cons

/-- Zeros are characters of numbers. -/
theorem numeral_zeros (n : Nat) : Numeral (List.replicate n '0') := (digits_zeros n).numeral

/-- The sign is a character of numbers. -/
theorem Numeral.withSign {negative : Bool} {cs : List Char} (h : Numeral cs) :
    Numeral (withSign negative cs) := by
  cases negative with
  | true => exact numeral_cons.2 ⟨rfl, h⟩
  | false => exact h

/-- The positional form is written with the characters of numbers. -/
theorem numeral_positional {digits : List Char} (hd : Digits digits) (leading : Int) :
    Numeral (positional false digits leading) := by
  unfold positional
  split
  · refine numeral_cons.2 ⟨rfl, numeral_cons.2 ⟨rfl, numeral_append.2 ⟨?_, hd.numeral⟩⟩⟩
    exact numeral_zeros _
  · simp only [Bool.false_eq_true, if_false, List.append_nil]
    split
    · exact numeral_append.2 ⟨hd.numeral, numeral_zeros _⟩
    · refine numeral_append.2 ⟨fun c hc => hd.numeral c (List.mem_of_mem_take hc), ?_⟩
      exact numeral_cons.2 ⟨rfl, fun c hc => hd.numeral c (List.mem_of_mem_drop hc)⟩

/-- The scientific form is written with the characters of numbers. -/
theorem numeral_scientific {digits : List Char} (hd : Digits digits) (leading : Int) :
    Numeral (scientific digits leading) := by
  have hexponent := (digits_toDigits leading.natAbs).numeral
  have hsign : isNumeralChar (if leading < 0 then '-' else '+') = true := by split <;> rfl
  unfold scientific
  refine numeral_append.2 ⟨?_, numeral_cons.2 ⟨rfl, numeral_cons.2 ⟨hsign, hexponent⟩⟩⟩
  split
  · have hn := hd.numeral
    rw [numeral_cons] at hn ⊢
    exact ⟨hn.1, numeral_cons.2 ⟨rfl, hn.2⟩⟩
  · exact hd.numeral

/-- The shortest decimal is written with the characters of numbers. -/
theorem numeral_place (decimal : Decimal) : Numeral (textLayout.place decimal) := by
  have hsig : Digits (significantDigits (Nat.toDigits 10 decimal.coefficient)) :=
    digits_significantDigits (digits_toDigits _)
  unfold Layout.place
  dsimp only
  split
  · exact numeral_positional hsig _
  · exact numeral_scientific hsig _

/-- The positional form has a digit in front. -/
theorem exists_digit_positional {c : Char} (cs : List Char) (hc : c.isDigit = true)
    (leading : Int) :
    ∃ d ds, positional false (c :: cs) leading = d :: ds ∧ d.isDigit = true := by
  unfold positional
  split
  · exact ⟨_, _, rfl, rfl⟩
  · simp only [Bool.false_eq_true, if_false, List.append_nil]
    split
    · exact ⟨c, _, rfl, hc⟩
    · exact ⟨c, _, rfl, hc⟩

/-- The scientific form has a digit in front. -/
theorem exists_digit_scientific {c : Char} (cs : List Char) (hc : c.isDigit = true)
    (leading : Int) :
    ∃ d ds, scientific (c :: cs) leading = d :: ds ∧ d.isDigit = true := by
  unfold scientific
  cases cs with
  | nil => exact ⟨c, _, rfl, hc⟩
  | cons => exact ⟨c, _, rfl, hc⟩

/-- The shortest decimal is written with a digit in front. -/
theorem exists_digit_place {decimal : Decimal} (h : decimal.coefficient ≠ 0) :
    ∃ c cs, textLayout.place decimal = c :: cs ∧ c.isDigit = true := by
  have hsig : Digits (significantDigits (Nat.toDigits 10 decimal.coefficient)) :=
    digits_significantDigits (digits_toDigits _)
  have hne := significantDigits_ne_nil h
  unfold Layout.place
  dsimp only
  generalize significantDigits (Nat.toDigits 10 decimal.coefficient) = digits at hsig hne ⊢
  obtain ⟨c, cs, rfl⟩ := List.exists_cons_of_ne_nil hne
  split
  · exact exists_digit_positional cs (hsig c (.head _)) _
  · exact exists_digit_scientific cs (hsig c (.head _)) _

/-- The text of a finite number other than zero. -/
theorem text_finite {negative : Bool} {q : Nat} (hq : Representable q) (hne : q ≠ 0) :
    text (.finite negative q hq) =
      String.ofList (withSign negative (textLayout.place (shortest textLayout.tie q))) := by
  rw [text, if_neg hne, Layout.write, withSign]

/-- The text of a finite number is written with the characters of numbers. -/
theorem numeral_text (negative : Bool) {q : Nat} (hq : Representable q) :
    Numeral (text (.finite negative q hq)).toList := by
  by_cases hne : q = 0
  · rw [text, if_pos hne, show "0".toList = List.replicate 1 '0' from rfl]
    exact numeral_zeros 1
  · rw [text_finite hq hne, String.toList_ofList]
    exact (numeral_place _).withSign

/-- The text of a finite number begins with a digit or a minus sign. -/
theorem exists_first_text (negative : Bool) {q : Nat} (hq : Representable q) :
    ∃ c ∈ (text (.finite negative q hq)).toList.head?, c.isDigit = true ∨ c = '-' := by
  by_cases hne : q = 0
  · rw [text, if_pos hne]
    exact ⟨'0', rfl, .inl rfl⟩
  · rw [text_finite hq hne, String.toList_ofList]
    cases negative with
    | true => exact ⟨'-', rfl, .inr rfl⟩
    | false =>
      have hscaled := scaled_shortest textLayout.tie hq.2
      obtain ⟨c, cs, hplace, hc⟩ :=
        exists_digit_place (coefficient_ne_zero fun h0 => hne (hscaled.symm.trans h0))
      refine ⟨c, ?_, .inl hc⟩
      rw [withSign, if_neg Bool.false_ne_true, hplace]
      rfl

/-! ## Reading the text of a number -/

/-- Text without a blank is not trimmed. -/
theorem trim_eq_self {cs : List Char} (h : ∀ c ∈ cs, Text.isBlank c = false) :
    Text.trim cs = cs := by
  have hdrop : ∀ xs : List Char, (∀ c ∈ xs, Text.isBlank c = false) →
      xs.dropWhile Text.isBlank = xs := by
    intro xs hxs
    cases xs with
    | nil => rfl
    | cons c rest => simp [hxs c (.head _)]
  rw [Text.trim, Text.trimStart, hdrop cs h, hdrop _ fun c hc => h c (List.mem_reverse.1 hc),
    List.reverse_reverse]

/-- The characters of numbers lie between the plus sign and the letter of the exponent. -/
theorem toNat_of_isNumeralChar {c : Char} (h : isNumeralChar c = true) :
    43 ≤ c.toNat ∧ c.toNat ≤ 101 := by
  simp only [isNumeralChar, Bool.or_eq_true, beq_iff_eq] at h
  rcases h with (((hdigit | rfl) | rfl) | rfl) | rfl
  · obtain ⟨hlow, hhigh⟩ := Char.isDigit_iff_toNat.1 hdigit
    exact ⟨Nat.le_trans (by decide) hlow, Nat.le_trans hhigh (by decide)⟩
  all_goals decide

/-- The characters of numbers are no blanks. -/
theorem isBlank_eq_false {c : Char} (h : isNumeralChar c = true) : Text.isBlank c = false := by
  have hpoint := toNat_of_isNumeralChar h
  simp [Text.isBlank, Text.Ranges.contains, Text.blankRanges]
  omega

/-- A text of the characters of numbers is read as a decimal. -/
theorem ofText_eq_ofDecimalText? {cs : List Char} (h : Numeral cs) (hne : cs ≠ []) :
    ofText (String.ofList cs) = (ofDecimalText? cs).getD .nan := by
  have hradix : spanRadix? cs = none := by
    unfold spanRadix?
    split
    case h_7 => rfl
    all_goals
      rw [numeral_cons, numeral_cons] at h
      exact absurd h.2.1 (by decide)
  have hinfinity : ∀ text : List Char, 'I' ∈ text → cs ≠ text := fun text hmem hcs =>
    absurd (h 'I' (hcs ▸ hmem)) (by decide)
  rw [ofText, String.toList_ofList, trim_eq_self fun c hc => isBlank_eq_false (h c hc), ofTrimmed,
    hradix, if_neg (by simpa using hne), if_neg (by simp [hinfinity]), if_neg (by simp [hinfinity])]

/-- The text of a number reads as the number, up to the sign of zero. -/
theorem ofText_text (n : Number) : (ofText n.text).sameValueZero n = true := by
  cases n with
  | nan => exact sameValueZero_iff.2 (congrArg rank? (show ofText "NaN" = .nan from rfl))
  | infinite negative =>
    have hread : ofText (text (.infinite negative)) = .infinite negative := by
      cases negative <;> rfl
    exact sameValueZero_iff.2 (congrArg rank? hread)
  | finite negative q hq =>
    by_cases hne : q = 0
    · subst hne
      have hread : ofText (String.ofList ['0']) = zero := by
        have hzero : Numeral ['0'] := numeral_zeros 1
        rw [ofText_eq_ofDecimalText? hzero (by simp)]
        simp [ofDecimalText?, spanSign, spanDigits, exponentValue?, ofParts, digitsValue, ofDecimal,
          zero, Nat.ofDigitChars_cons]
      rw [text, if_pos rfl, show "0" = String.ofList ['0'] from rfl, hread]
      exact sameValueZero_iff_same.2 (.finite _ _ _ hq (.inr rfl))
    · have hbody := numeral_text negative hq
      obtain ⟨c, e, hread, hce⟩ := ofDecimalText?_place textLayout negative textLayout.tie hq.2 hne
      rw [text_finite hq hne, String.toList_ofList] at hbody
      rw [text_finite hq hne, ofText_eq_ofDecimalText? hbody, hread, Option.getD_some,
        ofDecimal_eq_finite hq hne hce]
      · exact sameValueZero_iff.2 rfl
      · intro hnil
        rw [hnil] at hread
        cases hread

/-- Numbers with the same text are the same. -/
theorem sameValueZero_of_text_eq {a b : Number} (h : a.text = b.text) :
    a.sameValueZero b = true := by
  have ha := sameValueZero_iff.1 (ofText_text a)
  rw [h] at ha
  exact sameValueZero_iff.2 (ha.symm.trans (sameValueZero_iff.1 (ofText_text b)))

end Number

/-- An array with one number is coerced as the text of the number is. -/
theorem Value.toNumber_array_singleton (n : Number) :
    (Value.array [.number n]).toNumber = (Value.string n.text).toNumber := by
  have hitems : itemTexts [.number n] = [n.text] := rfl
  rw [toNumber, toNumber, text, hitems, String.intercalate_singleton]

/-- The text of a number is coerced to the number, by itself and as the only item of an array, and
numbers have the same text exactly if they are the same up to the sign of zero. -/
theorem Value.toNumber_text_unique (n : Number) :
    ((Value.string n.text).toNumber.sameValueZero n = true) ∧
    ((Value.array [.number n]).toNumber.sameValueZero n = true) ∧
    ∀ m : Number, n.text = m.text ↔ n.sameValueZero m = true := by
  have hread : (Value.string n.text).toNumber.sameValueZero n = true := Number.ofText_text n
  refine ⟨hread, ?_, fun m => ⟨Number.sameValueZero_of_text_eq, Number.text_congr⟩⟩
  rw [toNumber_array_singleton]
  exact hread

end RecordQuery

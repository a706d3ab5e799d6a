import RecordQuery.Proofs.Number.Closest
import RecordQuery.Proofs.Number.JsonText
import RecordQuery.Proofs.Value.Recorded

/-!
# The JSON text of every number is accepted

The JSON reader scales the digits of a number in double arithmetic, which may miss the double
nearest to them, and it refuses what overflows on the way. It refuses the text of no finite number,
though (`Number.accepted_json`): each of the three roundings on the way is off by at most one part
in `2 ^ 53` (`nearestQuanta_le`), so that nothing overflows two places below the greatest double,
and the texts of the doubles from there on are accepted one by one.
-/

namespace RecordQuery

namespace Number

/-! ## Rounding errors -/

variable {num den q : Nat}

/-- One more than the greatest relative error of rounding. -/
def roundingFactor : ℚ := 1 + 1 / 2 ^ 53

/-- A quotient of at least 53 bits is rounded up by one part in `2 ^ 53` at most. -/
theorem nearestQuanta_le (hden : 0 < den) (h : 2 ^ 52 ≤ num / den) :
    (nearestQuanta num den : ℚ) ≤ num / den * roundingFactor := by
  have hs : 0 < spacing num den := Nat.two_pow_pos _
  have hspos : (0 : ℚ) < spacing num den := Nat.cast_pos.2 hs
  have hhalf := (abs_le.1 (abs_sub_roundHalfEven (Nat.mul_pos hden hs) num).1).1
  -- the spacing is a fraction of the quotient
  have hspacing : (2 ^ 52 : ℚ) * spacing num den ≤ num / den := by
    have hne : num / den ≠ 0 := by omega
    have hlog : 52 ≤ (num / den).log2 := (Nat.le_log2 hne).2 h
    have hsplit : 2 ^ 52 * spacing num den ≤ num / den := by
      rw [spacing, Nat.pow_eq, ← Nat.pow_add, Nat.add_sub_cancel' hlog]
      exact Nat.log2_self_le hne
    rw [le_div_iff₀ (Nat.cast_pos.2 hden)]
    exact_mod_cast (Nat.le_div_iff_mul_le hden).1 hsplit
  have hquotient : (num : ℚ) / den = num / (den * spacing num den : Nat) * spacing num den := by
    rw [Nat.cast_mul, div_mul_eq_mul_div, mul_div_mul_right _ _ hspos.ne']
  have hround : (nearestQuanta num den : ℚ) ≤ num / den + spacing num den / 2 := by
    rw [nearestQuanta, Nat.cast_mul, hquotient]
    nlinarith
  rw [roundingFactor]
  linarith

/-- A natural number of quanta that make up whole ones is rounded up by one part in `2 ^ 53` at
most. -/
theorem nearestQuanta_ones_le (m : Nat) :
    (nearestQuanta (m * quantaPerOne) 1 : ℚ) ≤ (m * quantaPerOne : Nat) * roundingFactor := by
  rcases Nat.eq_zero_or_pos m with rfl | hm
  · rw [Nat.zero_mul, nearestQuanta_eq_zero (by decide), Nat.cast_zero, zero_mul]
  · have hone : 2 ^ 52 ≤ quantaPerOne := by
      have hle : 52 ≤ 1074 := by decide
      unfold quantaPerOne
      generalize 1074 = places at hle ⊢
      exact Nat.pow_le_pow_right (by decide) hle
    have hmany : 2 ^ 52 ≤ m * quantaPerOne / 1 := by
      rw [Nat.div_one]
      exact hone.trans (Nat.le_mul_of_pos_left _ hm)
    have hle := nearestQuanta_le Nat.one_pos hmany
    rwa [Nat.cast_one, div_one] at hle

/-! ## Scaling without overflow -/

/-- The place of the last significant bit of the greatest finite doubles. -/
@[irreducible]
def lastPlace : Nat := 2045

/-- The three greatest finite doubles, in quanta. -/
def greatestQuanta (k : Fin 3) : Nat := (2 ^ 53 - 3 + k) * Nat.pow 2 lastPlace

/-- The greatest finite double, in quanta. -/
def largestQuanta : Nat := greatestQuanta 2

/-- The double two places below the greatest, in quanta. -/
def safeQuanta : Nat := greatestQuanta 0

/-- Three places behind the greatest doubles begins overflow. -/
theorem overflowQuanta_eq : overflowQuanta = (2 ^ 53 - 3 + 3) * Nat.pow 2 lastPlace := by
  have hexponent : 2098 = 53 + lastPlace := by
    unfold lastPlace
    rfl
  unfold overflowQuanta
  rw [hexponent]
  exact Nat.pow_add 2 53 lastPlace

/-- The least power of ten that is not in the range of doubles overflows. -/
theorem overflowQuanta_le_ten_pow : overflowQuanta ≤ 10 ^ (maxPower + 1) * quantaPerOne := by
  have hexponent : 1024 = 93 * 11 + 1 := rfl
  have hmax : maxPower + 1 = 28 * 11 + 1 := rfl
  rw [overflowQuanta_eq_mul, hexponent, hmax]
  generalize 11 = n
  refine Nat.mul_le_mul_right _ ?_
  rw [Nat.pow_eq, Nat.pow_succ, Nat.pow_succ, Nat.pow_mul, Nat.pow_mul]
  exact Nat.mul_le_mul (Nat.pow_le_pow_left (by decide) n) (by decide)

/-- The three greatest finite doubles are doubles. -/
theorem representable_greatestQuanta (k : Fin 3) : Representable (greatestQuanta k) := by
  have hk := k.isLt
  refine ⟨?_, fitsSignificand_mul_pow (by rw [Nat.pow_eq]; omega)⟩
  rw [overflowQuanta_eq]
  exact Nat.mul_lt_mul_of_pos_right (Nat.add_lt_add_left hk _) (Nat.two_pow_pos lastPlace)

/-- Two places make up for two roundings. -/
theorem safeQuanta_mul_le : (safeQuanta : ℚ) * roundingFactor ^ 2 ≤ largestQuanta := by
  unfold safeQuanta largestQuanta greatestQuanta roundingFactor
  rw [Nat.cast_mul, Nat.cast_mul, mul_right_comm]
  refine mul_le_mul_of_nonneg_right ?_ (Nat.cast_nonneg _)
  norm_num

/-- What is rounded from at most the greatest finite double is finite. -/
theorem isFinite_ofQuanta_of_le_largest {negative : Bool} (hden : 0 < den)
    (h : (num : ℚ) / den ≤ largestQuanta) : (ofQuanta negative num den).IsFinite := by
  obtain ⟨hlt, hfits⟩ : Representable largestQuanta := representable_greatestQuanta 2
  exact isFinite_ofQuanta (((closest_nearestQuanta hden num).le_of_le hfits h).trans_lt hlt)

/-- A significand scaled up to less than the safe double is finite. -/
theorem isFinite_ofScaled_up {negative : Bool} {m n : Nat}
    (h : m * 10 ^ n * quantaPerOne < safeQuanta) : (ofScaled negative m n).IsFinite := by
  have hpos : (0 : ℚ) < quantaPerOne := Nat.cast_pos.2 quantaPerOne_pos
  rw [ofScaled]
  split
  · exact .finite _ _
  · rename_i hm
    have hpower : n ≤ maxPower := by
      by_contra hlt
      have hbeyond := (representable_greatestQuanta 0).1.le.trans overflowQuanta_le_ten_pow
      have hten : 10 ^ (maxPower + 1) ≤ m * 10 ^ n :=
        (Nat.pow_le_pow_right (by decide) (by omega)).trans
          (Nat.le_mul_of_pos_left _ (Nat.pos_of_ne_zero hm))
      exact absurd h (Nat.not_lt.2 (hbeyond.trans (Nat.mul_le_mul_right _ hten)))
    rw [if_neg (by omega)]
    dsimp only
    rw [if_pos (Int.natCast_nonneg n), Int.toNat_natCast]
    refine isFinite_ofQuanta_of_le_largest quantaPerOne_pos ?_
    have hsignificand := nearestQuanta_ones_le m
    have hpowerQuanta : (powerQuanta n : ℚ) ≤ (10 ^ n * quantaPerOne : Nat) * roundingFactor :=
      nearestQuanta_ones_le (10 ^ n)
    have hexact : ((m * 10 ^ n * quantaPerOne : Nat) : ℚ) ≤ safeQuanta := Nat.cast_le.2 h.le
    rw [Nat.cast_mul, div_le_iff₀ hpos]
    calc (nearestQuanta (m * quantaPerOne) 1 : ℚ) * powerQuanta n
        ≤ (m * quantaPerOne : Nat) * roundingFactor *
            ((10 ^ n * quantaPerOne : Nat) * roundingFactor) :=
          mul_le_mul hsignificand hpowerQuanta (Nat.cast_nonneg _)
            ((Nat.cast_nonneg _).trans hsignificand)
      _ = (m * 10 ^ n * quantaPerOne : Nat) * roundingFactor ^ 2 * quantaPerOne := by
          push_cast
          ring
      _ ≤ safeQuanta * roundingFactor ^ 2 * quantaPerOne :=
          mul_le_mul_of_nonneg_right (mul_le_mul_of_nonneg_right hexact (sq_nonneg _)) hpos.le
      _ ≤ largestQuanta * quantaPerOne := mul_le_mul_of_nonneg_right safeQuanta_mul_le hpos.le

/-- A power of ten is at least one. -/
theorem quantaPerOne_le_powerQuanta (k : Nat) : quantaPerOne ≤ powerQuanta k := by
  have hfits : FitsSignificand quantaPerOne := by
    unfold quantaPerOne
    generalize 1074 = places
    rw [← Nat.one_mul (Nat.pow 2 places)]
    exact fitsSignificand_mul_pow (by decide)
  rw [powerQuanta]
  generalize quantaPerOne = one at hfits ⊢
  refine (closest_nearestQuanta Nat.one_pos _).ge_of_ge hfits ?_
  rw [Nat.cast_one, div_one, Nat.cast_le]
  exact Nat.le_mul_of_pos_left _ (Nat.pow_pos (by decide))

/-- Dividing by a power of ten does not make a double greater. -/
theorem divideByPower_le (hq : FitsSignificand q) (k : Nat) : divideByPower q k ≤ q := by
  have hone := quantaPerOne_pos
  have hle := quantaPerOne_le_powerQuanta k
  rw [divideByPower]
  generalize quantaPerOne = one at hone hle ⊢
  generalize powerQuanta k = power at hle ⊢
  have hpower : 0 < power := hone.trans_le hle
  refine (closest_nearestQuanta hpower _).le_of_le hq ?_
  rw [div_le_iff₀ (Nat.cast_pos.2 hpower)]
  exact_mod_cast Nat.mul_le_mul_left q hle

/-- A significand of 64 bits that is scaled down is finite. -/
theorem isFinite_ofScaled_down {negative : Bool} {m : Nat} {e : Int} (hm : m ≤ 2 ^ 64)
    (he : e < 0) : (ofScaled negative m e).IsFinite := by
  rw [ofScaled]
  split
  · exact .finite _ _
  · rw [if_neg (by simp only [maxPower]; omega)]
    dsimp only
    rw [if_neg (by omega)]
    refine isFinite_ofQuanta ?_
    have hlt := nearestQuanta_lt_overflowQuanta hm
    have hfits := fitsSignificand_nearestQuanta (m * quantaPerOne) 1
    generalize nearestQuanta (m * quantaPerOne) 1 = q at hlt hfits ⊢
    generalize min (-e).toNat maxPower = near
    generalize min ((-e).toNat - maxPower) maxPower = far
    have hnear : FitsSignificand (divideByPower q near) := fitsSignificand_nearestQuanta _ _
    have hfar : FitsSignificand (divideByPower (divideByPower q near) far) :=
      fitsSignificand_nearestQuanta _ _
    have hrounded := nearestQuanta_mul_right hfar Nat.one_pos
    rw [Nat.mul_one] at hrounded
    rw [hrounded]
    calc divideByPower (divideByPower q near) far
        ≤ divideByPower q near := divideByPower_le hnear far
      _ ≤ q := divideByPower_le hfits near
      _ < overflowQuanta := hlt

/-- A significand of 64 bits that is scaled to less than the safe double is finite. -/
theorem isFinite_ofScaled {negative : Bool} {m : Nat} {e : Int} (hm : m ≤ 2 ^ 64)
    (h : (m : ℚ) * 10 ^ e * quantaPerOne < safeQuanta) : (ofScaled negative m e).IsFinite := by
  rcases Int.lt_or_le e 0 with hneg | hpos
  · exact isFinite_ofScaled_down hm hneg
  · obtain ⟨n, rfl⟩ := Int.eq_ofNat_of_zero_le hpos
    refine isFinite_ofScaled_up ?_
    rw [zpow_natCast] at h
    exact_mod_cast h

/-- A decimal whose nearest double is below the safe double is below it too. -/
theorem lt_safeQuanta_of_ofDecimal {negative negative' : Bool} {c : Nat} {e : Int}
    {hq : Representable q} (h : ofDecimal negative c e = .finite negative' q hq)
    (hlt : q < safeQuanta) : (c : ℚ) * 10 ^ e * quantaPerOne < safeQuanta := by
  have hfits : FitsSignificand safeQuanta := (representable_greatestQuanta 0).2
  have hnearest := nearestTo_ofDecimal negative c e
  rw [h] at hnearest
  cases hnearest with
  | finite _ hclosest =>
    by_contra hge
    exact absurd hlt (Nat.not_lt.2 (hclosest.ge_of_ge hfits (not_lt.1 hge)))

end Number

/-! ## The digits that are taken -/

namespace Json

open Number

/-- So many digits have been taken behind a start: those in front of what is left, and no further
one would have fitted in 64 bits. -/
structure Takes (start : Nat) (cs : List Char) (n : Nat) (left : List Char) : Prop where
  value : ∃ taken, cs = taken ++ left ∧ n = Nat.ofDigitChars 10 taken start
  lt : start < 2 ^ 64 → n < 2 ^ 64
  full : ∀ c rest, left = c :: rest → 2 ^ 64 ≤ Nat.ofDigitChars 10 [c] n

/-- Digits are taken for as long as they fit. -/
theorem takes_takeSignificand (start : Nat) (cs : List Char) :
    Takes start cs (takeSignificand start cs).1 (takeSignificand start cs).2 := by
  induction cs generalizing start with
  | nil => exact ⟨⟨[], rfl, rfl⟩, id, nofun⟩
  | cons c rest ih =>
    rw [takeSignificand]
    split
    · rename_i hlt
      obtain ⟨⟨taken, htaken, hvalue⟩, hbound, hfull⟩ := ih (10 * start + (c.toNat - '0'.toNat))
      exact ⟨⟨c :: taken, congrArg (c :: ·) htaken, hvalue⟩, fun _ => hbound hlt, hfull⟩
    · rename_i hge
      refine ⟨⟨[], rfl, rfl⟩, id, fun d more heq => ?_⟩
      obtain ⟨rfl, rfl⟩ := List.cons.inj heq
      exact Nat.not_lt.1 hge

/-- Digits behind a start count it so many places up, and more. -/
theorem mul_pow_le_ofDigitChars (start : Nat) (digits : List Char) :
    start * 10 ^ digits.length ≤ Nat.ofDigitChars 10 digits start := by
  rw [Nat.ofDigitChars_eq_ofDigitChars_zero, Nat.mul_comm]
  exact Nat.le_add_right _ _

/-- The digits that are taken of a whole part and a fraction, with as many zeros as digits are left,
are no more than all digits. A digit of the fraction may take the place of one of the whole part
that does not fit, but then it is less. -/
theorem Takes.le {whole fraction wholeLeft fractionLeft : List Char} {n m : Nat}
    (hwhole : Takes 0 whole n wholeLeft) (hfraction : Takes n fraction m fractionLeft) :
    m * 10 ^ (wholeLeft.length + fractionLeft.length) ≤ digitsValue (whole ++ fraction) := by
  obtain ⟨⟨digits, rfl, hn⟩, hlt, hfull⟩ := hwhole
  obtain ⟨⟨taken, rfl, hm⟩, hlt', _⟩ := hfraction
  rw [digitsValue, List.append_assoc, Nat.ofDigitChars_append, ← hn]
  cases wholeLeft with
  | nil =>
    rw [List.nil_append, Nat.ofDigitChars_append, ← hm, List.length_nil, Nat.zero_add]
    exact mul_pow_le_ofDigitChars m fractionLeft
  | cons c rest =>
    cases taken with
    | nil =>
      obtain rfl : m = n := hm
      rw [List.nil_append, ← List.length_append]
      exact mul_pow_le_ofDigitChars m _
    | cons d taken =>
      have hlt64 : m < 2 ^ 64 := hlt' (hlt (by decide))
      have hplaces : (c :: rest).length + fractionLeft.length ≤
          (rest ++ (d :: taken ++ fractionLeft)).length := by
        simp only [List.length_append, List.length_cons]
        omega
      calc m * 10 ^ ((c :: rest).length + fractionLeft.length)
          ≤ Nat.ofDigitChars 10 [c] n * 10 ^ (rest ++ (d :: taken ++ fractionLeft)).length :=
            Nat.mul_le_mul (hlt64.le.trans (hfull c rest rfl))
              (Nat.pow_le_pow_right (by decide) hplaces)
        _ ≤ _ := mul_pow_le_ofDigitChars _ _

/-! ## Acceptance -/

/-- Parts whose nearest double is far enough from overflow are accepted. -/
theorem exists_doubleNumeral {negative negative' : Bool} {whole fraction : List Char}
    {exponent : Int} {q : Nat} {hq : Representable q}
    (h : ofParts negative whole fraction exponent = .finite negative' q hq)
    (hlt : q < safeQuanta) :
    ∃ numeral, doubleNumeral negative whole fraction exponent = some numeral := by
  have hwhole := takes_takeSignificand 0 whole
  unfold doubleNumeral
  generalize takeSignificand 0 whole = first at hwhole
  obtain ⟨n, wholeLeft⟩ := first
  have hfraction := takes_takeSignificand n fraction
  dsimp only
  generalize takeSignificand n fraction = second at hfraction
  obtain ⟨m, fractionLeft⟩ := second
  dsimp only at hwhole hfraction ⊢
  have hm : m ≤ 2 ^ 64 := (hfraction.lt (hwhole.lt (by decide))).le
  have hleft : fractionLeft.length ≤ fraction.length := by
    obtain ⟨⟨taken, rfl, _⟩, _⟩ := hfraction
    rw [List.length_append]
    omega
  have hle : (m : ℚ) * 10 ^ (wholeLeft.length + fractionLeft.length) ≤
      (digitsValue (whole ++ fraction) : ℚ) := by
    exact_mod_cast hwhole.le hfraction
  have hvalue := lt_safeQuanta_of_ofDecimal h hlt
  have hfinite : (ofScaled negative m (exponent + wholeLeft.length -
      (fraction.length - fractionLeft.length))).IsFinite := by
    refine isFinite_ofScaled hm (lt_of_le_of_lt ?_ hvalue)
    have hplaces : exponent + wholeLeft.length - (fraction.length - fractionLeft.length) =
        ((wholeLeft.length + fractionLeft.length : Nat) : Int) + (exponent - fraction.length) := by
      push_cast
      ring
    have hpos : (0 : ℚ) ≤ 10 ^ (exponent - fraction.length) :=
      zpow_nonneg (by norm_num) _
    rw [hplaces, zpow_add₀ (by norm_num), zpow_natCast, ← mul_assoc]
    exact mul_le_mul_of_nonneg_right (mul_le_mul_of_nonneg_right hle hpos) (Nat.cast_nonneg _)
  generalize ofScaled _ _ _ = value at hfinite ⊢
  cases hfinite with
  | finite => exact ⟨_, rfl⟩

/-- Parts whose nearest double is far enough from overflow are accepted, with or without a point and
an exponent. -/
theorem exists_numeralOf? {negative negative' : Bool} {whole fraction : List Char}
    {exponent : Option Int} {q : Nat} {hq : Representable q}
    (h : ofParts negative whole fraction (exponent.getD 0) = .finite negative' q hq)
    (hlt : q < safeQuanta) :
    ∃ numeral, numeralOf? negative whole fraction exponent = some numeral := by
  rw [numeralOf?]
  split
  · rename_i hinteger
    rw [Bool.and_eq_true, List.isEmpty_iff, Option.isNone_iff_eq_none] at hinteger
    obtain ⟨rfl, rfl⟩ := hinteger
    rw [integerNumeral]
    split
    · exact ⟨_, rfl⟩
    · split
      · exact ⟨_, rfl⟩
      · exact exists_doubleNumeral h hlt
  · exact exists_doubleNumeral h hlt

/-- The parts of a number of the grammar say what it denotes as a decimal. -/
theorem ofDecimalText?_numberText (negative : Bool) {whole fraction : List Char}
    (exponent : Option Int) (hw : Whole whole) (hf : Digits fraction) :
    ofDecimalText?
        (withSign negative (whole ++ (fractionText fraction ++ exponentText exponent))) =
      some (ofParts negative whole fraction (exponent.getD 0)) := by
  have hx : exponentValue? (exponentText exponent) = some (exponent.getD 0) := by
    cases exponent with
    | none => rfl
    | some x => exact exponentValue?_written x
  cases fraction with
  | nil => exact ofDecimalText?_whole negative hw.digits hw.ne_nil hx
  | cons => exact ofDecimalText?_pointed negative hw.digits hw.ne_nil hf hx

/-- A number of the grammar whose nearest double is far enough from overflow is accepted. -/
theorem NumberText.accepted {cs : List Char} (h : NumberText cs) {negative : Bool} {q : Nat}
    {hq : Representable q} (hvalue : ofDecimalText? cs = some (.finite negative q hq))
    (hlt : q < safeQuanta) :
    ∃ numeral, ∀ rest, Follows rest → readNumber (cs ++ rest) = some (numeral, rest) := by
  obtain ⟨negative, exponent, hw, hf⟩ := h
  rw [ofDecimalText?_numberText negative exponent hw hf, Option.some.injEq] at hvalue
  obtain ⟨numeral, hnumeral⟩ := exists_numeralOf? hvalue hlt
  refine ⟨numeral, fun rest hrest => ?_⟩
  rw [readNumber_append negative exponent hw hf hrest, hnumeral, Option.map_some]

end Json

namespace Number

/-! ## The greatest doubles -/

/-- Doubles that reach a power of two are multiples of the spacing there. -/
theorem pow_dvd_of_pow_le {q k : Nat} (hq : FitsSignificand q) (h : Nat.pow 2 (k + 52) ≤ q) :
    Nat.pow 2 k ∣ q := by
  have hne : q ≠ 0 := Nat.ne_of_gt ((Nat.pow_pos (by decide)).trans_le h)
  have hlog : k + 52 ≤ q.log2 := (Nat.le_log2 hne).2 h
  exact (Nat.pow_dvd_pow 2 (by omega)).trans hq

/-- A multiple is one of three if it lies between the first of them and the next. -/
theorem exists_multiple {q m place : Nat} (hdvd : place ∣ q) (hlow : m * place ≤ q)
    (hlt : q < (m + 3) * place) : ∃ k : Fin 3, q = (m + k) * place := by
  obtain ⟨n, rfl⟩ := hdvd
  rw [Nat.mul_comm place] at hlow hlt
  have hupper := Nat.lt_of_mul_lt_mul_right hlt
  have hpos : 0 < place := Nat.pos_of_ne_zero fun hzero => by simp [hzero] at hlt
  have hlower := Nat.le_of_mul_le_mul_right hlow hpos
  refine ⟨⟨n - m, by omega⟩, ?_⟩
  rw [Nat.mul_comm, Nat.add_sub_cancel' hlower]

/-- The greatest doubles lie in the binade before overflow. -/
theorem greatestQuanta_bounds (k : Fin 3) :
    2 ^ (lastPlace + 52) < greatestQuanta k ∧ greatestQuanta k < 2 ^ (lastPlace + 53) := by
  have hk := k.isLt
  have hpos : 0 < 2 ^ lastPlace := Nat.two_pow_pos lastPlace
  unfold greatestQuanta
  rw [Nat.pow_eq, Nat.pow_add', Nat.pow_add']
  exact ⟨Nat.mul_lt_mul_of_pos_right (by omega) hpos, Nat.mul_lt_mul_of_pos_right (by omega) hpos⟩

/-- The doubles from the safe one on are the three greatest. -/
theorem exists_greatestQuanta {q : Nat} (hq : Representable q) (h : safeQuanta ≤ q) :
    ∃ k, q = greatestQuanta k := by
  have hdvd := pow_dvd_of_pow_le hq.2 ((greatestQuanta_bounds 0).1.le.trans h)
  have hlt := hq.1
  rw [overflowQuanta_eq] at hlt
  exact exists_multiple hdvd h hlt

/-- A multiple of a grid lies in the binade from `2 ^ (k + 52)` on, where the spacing is `2 ^ k`, and
is rounded to the magnitude. -/
def readsBackIn (k quanta multiple grid : Nat) : Bool :=
  let quotient := multiple * grid / placesPerQuantum
  Nat.pow 2 (k + 52) ≤ quotient && quotient < Nat.pow 2 (k + 53) &&
    roundHalfEven (multiple * grid) (placesPerQuantum * Nat.pow 2 k) * Nat.pow 2 k == quanta

/-- What does not reach a binade is not rounded into it. -/
theorem nearestQuanta_le_pow {k : Nat} (hk : k ≠ 0) (h : num / den < 2 ^ (k + 52)) :
    nearestQuanta num den ≤ 2 ^ (k + 52) := by
  refine (nearestQuanta_le_binade num den).trans (Nat.pow_le_pow_right (by decide) ?_)
  rcases Nat.eq_zero_or_pos (num / den) with hzero | hpos
  · rw [hzero, Nat.log2_zero]
    omega
  · have hlog := (Nat.log2_lt hpos.ne').2 h
    omega

/-- The spacing in a binade. -/
theorem spacing_eq_pow {k : Nat} (hlow : 2 ^ (k + 52) ≤ num / den)
    (hhigh : num / den < 2 ^ (k + 53)) : spacing num den = Nat.pow 2 k := by
  have hne : num / den ≠ 0 := ((Nat.two_pow_pos _).trans_le hlow).ne'
  have hlog := (Nat.le_log2 hne).2 hlow
  have hlog' := (Nat.log2_lt hne).2 hhigh
  rw [spacing, show (num / den).log2 - 52 = k by omega]

/-- No logarithm is needed to see what reads back inside a binade. -/
theorem readsBack_eq_readsBackIn {k : Nat} (hk : k ≠ 0) (hlow : 2 ^ (k + 52) < q)
    (hhigh : q < 2 ^ (k + 53)) : readsBack q = readsBackIn k q := by
  funext multiple grid
  rw [readsBack, readsBackIn, Nat.pow_eq, Nat.pow_eq]
  generalize multiple * grid = num
  generalize placesPerQuantum = den
  rcases Nat.lt_or_ge (num / den) (2 ^ (k + 52)) with hbelow | hreaches
  · have hne := ((nearestQuanta_le_pow hk hbelow).trans_lt hlow).ne
    rw [decide_eq_false (Nat.not_le.2 hbelow), Bool.false_and, Bool.false_and]
    exact beq_eq_false_iff_ne.2 hne
  rw [decide_eq_true hreaches, Bool.true_and]
  rcases Nat.lt_or_ge (num / den) (2 ^ (k + 53)) with hstays | habove
  · rw [decide_eq_true hstays, Bool.true_and, nearestQuanta, spacing_eq_pow hreaches hstays]
  · have hne := (hhigh.trans_le (pow_le_nearestQuanta (by omega) habove)).ne'
    rw [decide_eq_false (Nat.not_lt.2 habove), Bool.false_and]
    exact beq_eq_false_iff_ne.2 hne

/-- The shortest texts of the three greatest finite doubles have 17 digits. -/
theorem shortest_greatestQuanta (k : Fin 3) :
    shortest jsonLayout.tie (greatestQuanta k) = ⟨17976931348623153 + 2 * k, 292⟩ := by
  have hk : lastPlace ≠ 0 := by
    unfold lastPlace
    decide
  obtain ⟨hlow, hhigh⟩ := greatestQuanta_bounds k
  have hback := readsBack_eq_readsBackIn hk hlow hhigh
  clear hlow hhigh
  -- the search is evaluated, without the logarithms that every step of it takes
  unfold shortest
  delta ofDigits? nearestOnGrid?
  rw [hback]
  clear hback
  revert k
  decide +kernel

/-- The texts of the three greatest finite doubles are accepted. -/
theorem isSome_readNumber_greatestQuanta (negative : Bool) (k : Fin 3)
    (h : ¬ WrittenWhole (greatestQuanta k)) :
    (Json.readNumber
      (json (.finite negative _ (representable_greatestQuanta k))).toList).isSome := by
  rw [json_eq_place _ h, shortest_greatestQuanta]
  clear h
  revert k negative
  decide +kernel

/-- The JSON reader accepts the text of every finite number, whatever follows it. -/
theorem accepted_json (negative : Bool) {q : Nat} (hq : Representable q) :
    ∃ numeral, ∀ rest, Json.Follows rest →
      Json.readNumber ((json (.finite negative q hq)).toList ++ rest) = some (numeral, rest) := by
  by_cases hwhole : WrittenWhole q
  · obtain ⟨numeral, _, hread⟩ := read_json (readsNearest_of_unpointed (n := .finite negative q hq)
      hwhole)
    exact ⟨numeral, hread⟩
  · have htext := numberText_json negative hq
    rcases Nat.lt_or_ge q safeQuanta with hlt | hge
    · exact htext.accepted (ofDecimalText?_json hq hwhole) hlt
    · obtain ⟨k, rfl⟩ := exists_greatestQuanta hq hge
      obtain ⟨numeral?, hread⟩ := htext.read
      have hsome := isSome_readNumber_greatestQuanta negative k hwhole
      have hend := hread [] Json.follows_nil
      rw [List.append_nil] at hend
      rw [hend, Option.isSome_map] at hsome
      obtain ⟨numeral, rfl⟩ := Option.isSome_iff_exists.1 hsome
      exact ⟨numeral, hread⟩

end Number

end RecordQuery

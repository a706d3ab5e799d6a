import Mathlib.Data.Int.ModEq
import Mathlib.Data.Rat.Floor
import RecordQuery.Proofs.Number.Exact

/-!
# Wrapping to 32 bits

A number is wrapped to 32 bits in the arithmetic of numbers: it loses its fractional part, its
remainder by `2 ^ 32` is made positive by a sum, and the remainder is converted. None of this rounds
or leaves the range of what it is converted to (`Number.IsWhole.modulo`), however large the number
is, so that the result is the integer part modulo `2 ^ 32` (`Number.toInt32_eq`), and the integer
part is that of the exact value (`Number.truncate_eq`).
-/

namespace RecordQuery.Number

variable {x y n : Number} {i j : Int} {m q : Nat}

/-! ## Whole numbers -/

/-- The number is finite, and its exact value is the integer. -/
def IsWhole (n : Number) (i : Int) : Prop :=
  ∃ negative m, ∃ h : Representable (m * quantaPerOne),
    n = .finite negative (m * quantaPerOne) h ∧ i = signed negative m

/-- Integers of 53 bits are doubles. -/
theorem representable_mul_quantaPerOne (h : m ≤ 2 ^ 53) : Representable (m * quantaPerOne) := by
  constructor
  · have hplaces : 53 < 1024 := by decide
    rw [overflowQuanta_eq_mul]
    generalize 1024 = places at hplaces
    have hlt : m < Nat.pow 2 places := h.trans_lt (Nat.pow_lt_pow_right (by decide) hplaces)
    exact Nat.mul_lt_mul_of_pos_right hlt quantaPerOne_pos
  · unfold quantaPerOne
    generalize 1074 = places
    exact fitsSignificand_mul_pow h

/-- A magnitude that is a double is rounded to itself. -/
theorem ofQuanta_of_representable (negative : Bool) (h : Representable q) :
    ofQuanta negative q 1 = .finite negative q h := by
  have hone := nearestQuanta_mul_right h.2 Nat.one_pos
  rw [Nat.mul_one] at hone
  exact ofQuanta_eq_finite h hone

/-- An integer that is a double is rounded to itself. -/
theorem isWhole_ofQuanta (negative : Bool) (h : Representable (m * quantaPerOne)) :
    IsWhole (ofQuanta negative (m * quantaPerOne) 1) (signed negative m) :=
  ⟨negative, m, h, ofQuanta_of_representable negative h, rfl⟩

/-- The number of a natural number of 53 bits is that. -/
theorem isWhole_ofNat (h : m ≤ 2 ^ 53) : IsWhole (ofNat m) m :=
  isWhole_ofQuanta false (representable_mul_quantaPerOne h)

/-- The number of an integer of 53 bits is that integer. -/
theorem isWhole_ofInt (h : i.natAbs ≤ 2 ^ 53) : IsWhole (ofInt i) i := by
  have hwhole := isWhole_ofQuanta (decide (i < 0)) (representable_mul_quantaPerOne h)
  rwa [signed_natAbs] at hwhole

/-- A whole number is its integer part. -/
theorem IsWhole.truncate (h : IsWhole n i) : n.truncate = i := by
  obtain ⟨negative, m, h, rfl, rfl⟩ := h
  rw [Number.truncate, Nat.mul_div_cancel m quantaPerOne_pos]

/-- The exact value of a whole number. -/
theorem IsWhole.extended? (h : IsWhole n i) : n.extended? = some (.ofRat i) := by
  have hne : (quantaPerOne : ℚ) ≠ 0 := Nat.cast_ne_zero.2 quantaPerOne_pos.ne'
  obtain ⟨negative, m, h, rfl, rfl⟩ := h
  rw [Number.extended?, signed_mul, Int.cast_mul, Int.cast_natCast, mul_div_cancel_right₀ _ hne]

/-- The integer part of a double is a double. -/
theorem fitsSignificand_whole (h : FitsSignificand q) :
    FitsSignificand (q / quantaPerOne * quantaPerOne) := by
  unfold quantaPerOne
  generalize 1074 = places
  rcases Nat.le_total places (q.log2 - 52) with hle | hle
  · have hdvd : Nat.pow 2 places ∣ q := (Nat.pow_dvd_pow 2 hle).trans h
    rwa [Nat.div_mul_cancel hdvd]
  · refine fitsSignificand_mul_pow ?_
    have hlt : q < 2 ^ (places + 53) :=
      Nat.lt_log2_self.trans_le (Nat.pow_le_pow_right (by decide) (by omega))
    rw [Nat.pow_add] at hlt
    exact (Nat.div_lt_of_lt_mul hlt).le

/-- Nothing but the fractional part is lost. -/
theorem isWhole_whole (negative : Bool) (h : Representable q) :
    IsWhole (whole (.finite negative q h)) (truncate (.finite negative q h)) :=
  isWhole_ofQuanta negative ⟨(Nat.div_mul_le_self _ _).trans_lt h.1, fitsSignificand_whole h.2⟩

/-! ## Arithmetic without rounding -/

/-- The place of an integer among the signed quanta. -/
theorem IsWhole.rank? (h : IsWhole n i) : n.rank? = some (i * quantaPerOne) := by
  obtain ⟨negative, m, h, rfl, rfl⟩ := h
  exact congrArg some (signed_mul negative m quantaPerOne)

/-- An integer is less than zero if it is so in quanta. -/
theorem quanta_lt_zero : i * quantaPerOne < 0 ↔ i < 0 := by
  have hpos : (0 : Int) < quantaPerOne := Int.natCast_pos.2 quantaPerOne_pos
  have hlt : i * quantaPerOne < 0 * quantaPerOne ↔ i < 0 := Int.mul_lt_mul_right hpos
  rwa [Int.zero_mul] at hlt

/-- An integer is less than zero if its number is. -/
theorem IsWhole.order?_zero (h : IsWhole n i) : n.order? zero = some .lt ↔ i < 0 := by
  rw [order?_of_rank? h.rank? rank?_zero, Option.some.injEq, Int.compare_eq_lt, quanta_lt_zero]

/-- The magnitude of an integer is that of its number. -/
theorem IsWhole.abs (h : IsWhole n i) : IsWhole n.abs i.natAbs := by
  obtain ⟨negative, m, h, rfl, rfl⟩ := h
  exact ⟨false, m, h, rfl, by rw [natAbs_signed]; rfl⟩

/-- Zero is a whole number with either sign. -/
theorem isWhole_signedZero (negative : Bool) : IsWhole (signedZero negative) 0 := by
  have h : Representable (0 * quantaPerOne) := representable_mul_quantaPerOne (Nat.zero_le _)
  refine ⟨negative, 0, h, ?_, (signed_zero negative).symm⟩
  simp only [signedZero, Nat.zero_mul]

/-- A sum of 53 bits is not rounded. -/
theorem IsWhole.add (hx : IsWhole x i) (hy : IsWhole y j) (h : (i + j).natAbs ≤ 2 ^ 53) :
    IsWhole (x.add y) (i + j) := by
  obtain ⟨s, a, ha, rfl, rfl⟩ := hx
  obtain ⟨t, b, hb, rfl, rfl⟩ := hy
  have hsum : signed s (a * quantaPerOne) + signed t (b * quantaPerOne) =
      (signed s a + signed t b) * quantaPerOne := by
    rw [signed_mul, signed_mul, Int.add_mul]
  generalize signed s a + signed t b = sum at h hsum
  simp only [Number.add, hsum]
  split
  · rename_i hzero
    have hne : (quantaPerOne : Int) ≠ 0 := Int.natCast_ne_zero.2 quantaPerOne_pos.ne'
    obtain rfl := (Int.mul_eq_zero.1 hzero).resolve_right hne
    exact isWhole_signedZero _
  · rw [decide_eq_decide.2 quanta_lt_zero, natAbs_quanta]
    have hwhole := isWhole_ofQuanta (decide (sum < 0)) (representable_mul_quantaPerOne h)
    rwa [signed_natAbs] at hwhole

/-- The remainder by an integer of 53 bits is not rounded, however large the dividend is. -/
theorem IsWhole.rem (hx : IsWhole x i) (hy : IsWhole y j) (hj : j ≠ 0) (h : j.natAbs ≤ 2 ^ 53) :
    IsWhole (x.rem y) (i.tmod j) := by
  obtain ⟨s, a, ha, rfl, rfl⟩ := hx
  obtain ⟨t, b, hb, rfl, rfl⟩ := hy
  rw [natAbs_signed] at h
  have hb0 : b ≠ 0 := by
    rintro rfl
    exact hj (signed_zero t)
  have hmod : (signed s a).tmod (signed t b) = signed s (a % b) := by
    cases s <;> cases t <;> simp [signed, Int.tmod_eq_emod_of_nonneg]
  have hlt : a % b ≤ 2 ^ 53 := (Nat.mod_lt a (Nat.pos_of_ne_zero hb0)).le.trans h
  rw [hmod, Number.rem, if_neg (Nat.mul_ne_zero hb0 quantaPerOne_pos.ne'), Nat.mul_mod_mul_right]
  exact isWhole_ofQuanta s (representable_mul_quantaPerOne hlt)

/-- A remainder is made positive by one sum. -/
theorem emod_eq_ite_tmod (hj : j ≠ 0) :
    i % j = if i.tmod j < 0 then i.tmod j + j.natAbs else i.tmod j := by
  have hnonneg := Int.emod_nonneg i hj
  have hlt := Int.emod_lt i hj
  grind [Int.emod_eq_tmod]

/-- The positive remainder by an integer of 53 bits is not rounded either. -/
theorem IsWhole.modulo (hx : IsWhole x i) (hy : IsWhole y j) (hj : j ≠ 0)
    (h : j.natAbs ≤ 2 ^ 53) : IsWhole (x.modulo y) (i % j) := by
  have hrem := hx.rem hy hj h
  have hbound : (i.tmod j).natAbs < j.natAbs := by
    rw [Int.natAbs_tmod]
    exact Nat.mod_lt _ (Int.natAbs_pos.2 hj)
  rw [emod_eq_ite_tmod hj, Number.modulo]
  simp only [hrem.order?_zero]
  split
  · exact hrem.add hy.abs (by omega)
  · exact hrem

/-! ## Wrapping -/

/-- An integer of 32 bits without a sign is converted to itself. -/
theorem IsWhole.toUInt32 (hn : IsWhole n i) (hlow : 0 ≤ i) (hhigh : i < 2 ^ 32) :
    n.toUInt32 = UInt32.ofNat i.toNat := by
  obtain ⟨negative, m, h, rfl, rfl⟩ := hn
  have hdiv : m * quantaPerOne / quantaPerOne = m := Nat.mul_div_cancel m quantaPerOne_pos
  cases negative with
  | false =>
    have hmin : min m 0xFFFFFFFF = m := by
      simp only [signed, Bool.false_eq_true, if_false] at hhigh
      omega
    simp only [Number.toUInt32, hdiv, hmin, signed, Bool.false_eq_true, if_false, Int.toNat_natCast]
  | true =>
    have hzero : m = 0 := by
      simp only [signed, if_true] at hlow
      omega
    simp only [Number.toUInt32, hzero, if_true, signed_zero]
    rfl

/-- A number is wrapped to its integer part modulo `2 ^ 32`. -/
theorem toInt32_eq (n : Number) : n.toInt32 = Int32.ofInt n.truncate := by
  cases n with
  | nan | infinite => rfl
  | finite negative q h =>
    have hdivisor : IsWhole (ofNat (Nat.pow 2 32)) (2 ^ 32) := isWhole_ofNat (by decide)
    have hwhole := (isWhole_whole negative h).modulo hdivisor (by decide) (by decide)
    generalize truncate (.finite negative q h) = i at hwhole ⊢
    have hnonneg : 0 ≤ i % 2 ^ 32 := Int.emod_nonneg i (by decide)
    have hlt : i % 2 ^ 32 < 2 ^ 32 := Int.emod_lt_of_pos i (by decide)
    rw [toInt32, hwhole.toUInt32 hnonneg hlt, UInt32.toInt32_ofNat', ← Int32.ofInt_eq_ofNat,
      Int.toNat_of_nonneg hnonneg, ← Int32.toInt_inj, Int32.toInt_ofInt, Int32.toInt_ofInt]
    exact Int.emod_bmod i Int32.size

/-- There is one integer of 32 bits with a sign that is congruent to an integer. -/
theorem modEq_toInt_iff {t : Int} {k : Int32} :
    k.toInt ≡ t [ZMOD 2 ^ 32] ↔ k = Int32.ofInt t := by
  have hlow : -(2 ^ 31) ≤ k.toInt := Int32.minValue_le_toInt k
  have hhigh : k.toInt ≤ 2 ^ 31 - 1 := Int32.toInt_le k
  rw [Int.modEq_comm, Int.modEq_iff_dvd, eq_comm, Int32.ofInt_eq_iff_bmod_eq_toInt,
    Int.bmod_eq_iff (by decide)]
  exact ⟨fun hdvd => ⟨hlow, Int.lt_of_le_sub_one hhigh, hdvd⟩, fun h => h.2.2⟩

/-! ## The exact value -/

/-- A rational without its fractional part. -/
def towardZero (x : ℚ) : Int := if x < 0 then ⌈x⌉ else ⌊x⌋

/-- The fractional part is lost on either side of zero alike. -/
theorem towardZero_neg (x : ℚ) : towardZero (-x) = -towardZero x := by
  rcases lt_trichotomy x 0 with h | rfl | h
  · rw [towardZero, towardZero, if_neg (by simp [h.le]), if_pos h, Int.floor_neg]
  · rfl
  · rw [towardZero, towardZero, if_pos (by simp [h]), if_neg h.not_gt, Int.ceil_neg]

/-- The integer part of a quotient with a sign. -/
theorem towardZero_signed_div (negative : Bool) (m k : Nat) :
    towardZero (signed negative m / k) = signed negative (m / k) := by
  have hnonneg : ¬ (m : ℚ) / k < 0 := not_lt.2 (by positivity)
  have hdiv : towardZero ((m : ℚ) / k) = (m / k : Nat) := by
    rw [towardZero, if_neg hnonneg, Rat.floor_natCast_div_natCast, Int.natCast_div]
  cases negative with
  | false => exact hdiv
  | true =>
    simp only [signed, if_true]
    rw [Int.cast_neg, neg_div, towardZero_neg, Int.cast_natCast, hdiv]

/-- The integer part of a number is that of its exact value. -/
theorem truncate_eq {r : ℚ} (h : n.extended? = some (.ofRat r)) : n.truncate = towardZero r := by
  cases n with
  | nan => cases h
  | infinite negative =>
    cases negative with
    | false => exact absurd (Option.some.inj h) (Extended.ofRat_lt_top r).ne'
    | true => exact absurd (Option.some.inj h) (Extended.bot_lt_ofRat r).ne
  | finite negative q hq =>
    obtain rfl := WithTop.coe_injective (WithBot.coe_injective (Option.some.inj h))
    exact (towardZero_signed_div negative q quantaPerOne).symm

/-- A number without an exact value, or with an infinite one, has no integer part. -/
theorem truncate_eq_zero (h : ∀ r, n.extended? ≠ some (.ofRat r)) : n.truncate = 0 := by
  cases n with
  | nan | infinite => rfl
  | finite => exact absurd rfl (h _)

end RecordQuery.Number

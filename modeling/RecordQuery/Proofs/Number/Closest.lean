import Mathlib.Algebra.Order.Field.Basic
import Mathlib.Data.Rat.Cast.Order
import Mathlib.Tactic.Linarith
import Mathlib.Tactic.Ring
import RecordQuery.Proofs.Number.Shortest

/-!
# The double nearest to a rational

Of the magnitudes with 53 significant bits one is closest to a given rational number of quanta, if
of two that are as close the one with an even significand counts as closest (`Closest.unique`), and
rounding finds it (`closest_nearestQuanta`). The closest does not pass any magnitude that the
rational does not pass, so rounding is monotone (`Closest.le_of_le`, `Closest.ge_of_ge`). The double
nearest to a rational takes the closest magnitude, or is infinite if that is beyond the finite
doubles (`NearestTo`); integers and decimals are rounded to it (`nearestTo_ofNat`,
`nearestTo_ofDecimal`).
-/

namespace RecordQuery.Number

/-! ## Closest magnitudes -/

/-- The last of the 53 significant bits is zero. -/
def EvenSignificand (q : Nat) : Prop := 2 * 2 ^ (q.log2 - 52) ∣ q

/-- The magnitude has 53 significant bits, no other such magnitude is closer to a number of quanta,
and if another is as close then its last bit is zero. -/
structure Closest (x : ℚ) (q : Nat) : Prop where
  fits : FitsSignificand q
  le : ∀ p : Nat, FitsSignificand p → |x - q| ≤ |x - p|
  even : ∀ p : Nat, FitsSignificand p → p ≠ q → |x - q| = |x - p| → EvenSignificand q

variable {x : ℚ} {p q num den : Nat}

/-- What is closest does not pass a magnitude above. -/
theorem Closest.le_of_le (h : Closest x q) (hp : FitsSignificand p) (hx : x ≤ p) : q ≤ p := by
  by_contra hlt
  have hpq : (p : ℚ) < q := Nat.cast_lt.2 (not_le.1 hlt)
  have hle := h.le p hp
  rw [abs_of_nonpos (by linarith), abs_of_nonpos (by linarith)] at hle
  linarith

/-- What is closest does not pass a magnitude below. -/
theorem Closest.ge_of_ge (h : Closest x q) (hp : FitsSignificand p) (hx : p ≤ x) : p ≤ q := by
  by_contra hlt
  have hqp : (q : ℚ) < p := Nat.cast_lt.2 (not_le.1 hlt)
  have hle := h.le p hp
  rw [abs_of_nonneg (by linarith), abs_of_nonneg (by linarith)] at hle
  linarith

/-- One more in the last place is a magnitude again. -/
theorem fitsSignificand_succ (hq : FitsSignificand q) :
    FitsSignificand (q + 2 ^ (q.log2 - 52)) := by
  obtain ⟨m, hm⟩ := hq
  rw [Nat.pow_eq] at hm
  have hlt : m * 2 ^ (q.log2 - 52) < 2 ^ 53 * 2 ^ (q.log2 - 52) := by
    rw [Nat.mul_comm m, ← hm, ← Nat.pow_add]
    exact Nat.lt_of_lt_of_le Nat.lt_log2_self (Nat.pow_le_pow_right (by decide) (by omega))
  have hsum : q + 2 ^ (q.log2 - 52) = (m + 1) * Nat.pow 2 (q.log2 - 52) := by
    rw [Nat.pow_eq, Nat.add_mul, Nat.one_mul, Nat.mul_comm m, ← hm]
  rw [hsum]
  exact fitsSignificand_mul_pow (Nat.lt_of_mul_lt_mul_right hlt)

/-- The greater of two magnitudes whose last bits are zero is ahead by more than one in the last
place of the other. -/
theorem EvenSignificand.succ_lt (hq : EvenSignificand q) (hp : EvenSignificand p) (h : q < p) :
    q + 2 ^ (q.log2 - 52) < p := by
  have hlog : q.log2 ≤ p.log2 := by
    rcases Nat.eq_zero_or_pos q with rfl | hpos
    · exact Nat.zero_le _
    · exact (Nat.le_log2 (by omega)).2 ((Nat.log2_self_le (by omega)).trans h.le)
  have hdvd : 2 * 2 ^ (q.log2 - 52) ∣ p :=
    (Nat.mul_dvd_mul_left 2 (Nat.pow_dvd_pow 2 (by omega))).trans hp
  have hle := Nat.le_of_dvd (by omega) (Nat.dvd_sub hdvd hq)
  have hpos := Nat.two_pow_pos (q.log2 - 52)
  omega

/-- Of two different magnitudes the lesser is not closest if both are as close and even. -/
theorem Closest.not_lt (hp : Closest x p) (hq : Closest x q) : ¬ q < p := by
  intro hlt
  have heq : |x - q| = |x - p| := le_antisymm (hq.le p hp.fits) (hp.le q hq.fits)
  have hbetween := (hq.even p hp.fits hlt.ne' heq).succ_lt
    (hp.even q hq.fits hlt.ne heq.symm) hlt
  have hle := hq.le _ (fitsSignificand_succ hq.fits)
  have hpos := Nat.two_pow_pos (q.log2 - 52)
  generalize 2 ^ (q.log2 - 52) = s at hbetween hle hpos
  -- the two are at opposite sides, so what lies between them is closer
  have hs : (0 : ℚ) < s := Nat.cast_pos.2 hpos
  have hqsp : (q : ℚ) + s < p := by exact_mod_cast hbetween
  have hmid : x - q = p - x := by
    rcases abs_eq_abs.1 heq with h | h <;> linarith
  rw [abs_of_nonneg (by linarith), Nat.cast_add] at hle
  rcases abs_cases (x - (q + s)) with ⟨h, _⟩ | ⟨h, _⟩ <;> rw [h] at hle <;> linarith

/-- There is only one closest magnitude. -/
theorem Closest.unique (hp : Closest x p) (hq : Closest x q) : p = q :=
  Nat.le_antisymm (Nat.le_of_not_lt (hp.not_lt hq)) (Nat.le_of_not_lt (hq.not_lt hp))

/-! ## Rounding finds the closest magnitude -/

/-- Rounding to a whole number moves by at most one half, and by one half only to an even number. -/
theorem abs_sub_roundHalfEven (hden : 0 < den) (num : Nat) :
    |(num : ℚ) / den - roundHalfEven num den| ≤ 1 / 2 ∧
      (|(num : ℚ) / den - roundHalfEven num den| = 1 / 2 → 2 ∣ roundHalfEven num den) := by
  have hpos : (0 : ℚ) < den := Nat.cast_pos.2 hden
  -- the distance is that of the part behind the point
  let part : ℚ := (num % den : Nat) / den
  have hnonneg : 0 ≤ part := by positivity
  have hsplit : (num : ℚ) / den = (num / den : Nat) + part := by
    rw [eq_comm, eq_div_iff hpos.ne', add_mul, div_mul_cancel₀ _ hpos.ne', mul_comm]
    exact_mod_cast Nat.div_add_mod num den
  rw [hsplit]
  unfold roundHalfEven
  dsimp only
  split
  · rename_i hlt
    have hpart : part < 1 / 2 := by
      rw [div_lt_div_iff₀ hpos two_pos]
      exact_mod_cast (by omega : num % den * 2 < 1 * den)
    rw [add_sub_cancel_left, abs_of_nonneg hnonneg]
    exact ⟨hpart.le, fun h => absurd h hpart.ne⟩
  · split
    · rename_i hgt
      have hpart : 1 / 2 < part := by
        rw [div_lt_div_iff₀ two_pos hpos]
        exact_mod_cast (by omega : 1 * den < num % den * 2)
      have hone : part < 1 := by
        rw [div_lt_one hpos]
        exact_mod_cast Nat.mod_lt num hden
      rw [Nat.cast_add, Nat.cast_one, add_sub_add_left_eq_sub, abs_of_neg (by linarith)]
      exact ⟨by linarith, fun h => by linarith⟩
    · have hpart : part = 1 / 2 := by
        rw [div_eq_div_iff hpos.ne' two_ne_zero]
        exact_mod_cast (by omega : num % den * 2 = 1 * den)
      refine ⟨?_, fun _ => by omega⟩
      rw [Nat.cast_add, add_sub_add_left_eq_sub, hpart]
      rcases Nat.mod_two_eq_zero_or_one (num / den) with h | h <;> rw [h] <;> norm_num

/-- The nearest double is a multiple of the local spacing, closest among the multiples, and an even
one if another multiple is as close. -/
theorem nearestQuanta_among_multiples (hden : 0 < den) (num k : Nat) :
    let s := spacing num den
    |(num : ℚ) / den - nearestQuanta num den| ≤ |(num : ℚ) / den - (k * s : Nat)| ∧
      (k * s ≠ nearestQuanta num den →
        |(num : ℚ) / den - nearestQuanta num den| = |(num : ℚ) / den - (k * s : Nat)| →
        2 * s ∣ nearestQuanta num den) := by
  intro s
  have hs : 0 < s := Nat.two_pow_pos _
  have hpos : (0 : ℚ) < s := Nat.cast_pos.2 hs
  obtain ⟨hle, heven⟩ := abs_sub_roundHalfEven (Nat.mul_pos hden hs) num
  have hnearest : nearestQuanta num den = roundHalfEven num (den * s) * s := rfl
  generalize roundHalfEven num (den * s) = r at hle heven hnearest
  -- counted in the spacing, the multiples are whole numbers
  have hscale : ∀ j : Nat, |(num : ℚ) / den - (j * s : Nat)| =
      |(num : ℚ) / (den * s : Nat) - j| * s := by
    intro j
    have hdiff : (num : ℚ) / den - (j * s : Nat) = ((num : ℚ) / (den * s : Nat) - j) * s := by
      rw [sub_mul, Nat.cast_mul, Nat.cast_mul, div_mul_eq_mul_div, mul_div_mul_right _ _ hpos.ne']
    rw [hdiff, abs_mul, abs_of_pos hpos]
  rw [hnearest, hscale, hscale, mul_le_mul_iff_left₀ hpos, mul_left_inj' hpos.ne']
  generalize (num : ℚ) / (den * s : Nat) = x at hle heven
  by_cases hkr : k = r
  · subst hkr
    exact ⟨le_rfl, fun h => absurd rfl h⟩
  · have hapart : (1 : ℚ) ≤ |(k : ℚ) - r| := by
      exact_mod_cast Int.one_le_abs (sub_ne_zero.2 (Nat.cast_injective.ne hkr : (k : ℤ) ≠ r))
    have htriangle : |(k : ℚ) - r| ≤ |x - r| + |x - k| := by
      have h := abs_sub_le (k : ℚ) x r
      rw [abs_sub_comm (k : ℚ) x] at h
      linarith
    refine ⟨by linarith, fun _ heq => ?_⟩
    exact Nat.mul_dvd_mul_right (heven (by linarith)) s

/-- What is rounded has 53 significant bits. -/
theorem fitsSignificand_nearestQuanta (num den : Nat) :
    FitsSignificand (nearestQuanta num den) := by
  have hle := roundHalfEven_le num (den * spacing num den)
  have hlt := quotient_spacing_lt num den
  exact fitsSignificand_mul_pow (by omega)

/-- Rounding does not leave the binade of the quotient, but for reaching its upper end. -/
theorem nearestQuanta_le_binade (num den : Nat) :
    nearestQuanta num den ≤ 2 ^ (53 + ((num / den).log2 - 52)) := by
  have hle := roundHalfEven_le num (den * spacing num den)
  have hlt := quotient_spacing_lt num den
  rw [Nat.pow_eq] at hlt
  rw [Nat.pow_add]
  exact Nat.mul_le_mul_right _ (by omega)

/-- A multiple of twice the local spacing has an even significand. -/
theorem evenSignificand_nearestQuanta (h : 2 * spacing num den ∣ nearestQuanta num den) :
    EvenSignificand (nearestQuanta num den) := by
  have hle := nearestQuanta_le_binade num den
  rw [spacing, Nat.pow_eq] at h
  unfold EvenSignificand
  generalize nearestQuanta num den = q at h hle ⊢
  generalize (num / den).log2 - 52 = k at h hle
  rcases Nat.lt_or_eq_of_le hle with hlt | rfl
  · rcases Nat.eq_zero_or_pos q with rfl | hq
    · exact Nat.dvd_zero _
    · have hlog : q.log2 < 53 + k := (Nat.log2_lt hq.ne').2 hlt
      exact (Nat.mul_dvd_mul_left 2 (Nat.pow_dvd_pow 2 (by omega))).trans h
  · rw [Nat.log2_two_pow, ← Nat.pow_succ']
    exact Nat.pow_dvd_pow 2 (by omega)

/-- A magnitude that is no multiple of the local spacing lies below the binade of the quotient,
which begins with a multiple. -/
theorem lt_binade_of_not_dvd (hp : FitsSignificand p) (h : ¬ spacing num den ∣ p) :
    p < 2 ^ (num / den).log2 ∧ spacing num den ∣ 2 ^ (num / den).log2 := by
  unfold spacing at h ⊢
  rw [Nat.pow_eq] at h ⊢
  have hlog : 52 ≤ (num / den).log2 := by
    by_contra hlt
    exact h (by rw [show (num / den).log2 - 52 = 0 by omega]; exact Nat.one_dvd p)
  refine ⟨?_, Nat.pow_dvd_pow 2 (by omega)⟩
  by_contra hle
  have hpos := Nat.two_pow_pos (num / den).log2
  have hplog : (num / den).log2 ≤ p.log2 := (Nat.le_log2 (by omega)).2 (not_lt.1 hle)
  exact h ((Nat.pow_dvd_pow 2 (by omega)).trans hp)

/-- Rounding finds the closest double. -/
theorem closest_nearestQuanta (hden : 0 < den) (num : Nat) :
    Closest ((num : ℚ) / den) (nearestQuanta num den) := by
  have hmultiple := nearestQuanta_among_multiples hden num
  -- what lies below the binade is farther than the multiple that the binade begins with
  have hfar : ∀ p : Nat, FitsSignificand p → ¬ spacing num den ∣ p →
      |(num : ℚ) / den - nearestQuanta num den| < |(num : ℚ) / den - p| := by
    intro p hp hdvd
    obtain ⟨hlt, k, hk⟩ := lt_binade_of_not_dvd hp hdvd
    have hle := (hmultiple k).1
    rw [Nat.mul_comm k, ← hk] at hle
    have hbegin : ((2 ^ (num / den).log2 : Nat) : ℚ) ≤ (num : ℚ) / den := by
      rw [le_div_iff₀ (Nat.cast_pos.2 hden)]
      have hne : num / den ≠ 0 := by
        intro hzero
        rw [hzero] at hlt
        have hp0 : p = 0 := by simpa using hlt
        exact hdvd (hp0 ▸ Nat.dvd_zero _)
      exact_mod_cast (Nat.le_div_iff_mul_le hden).1 (Nat.log2_self_le hne)
    have hpbegin : (p : ℚ) < (2 ^ (num / den).log2 : Nat) := Nat.cast_lt.2 hlt
    have hdist : |(num : ℚ) / den - p| = (num : ℚ) / den - p := abs_of_nonneg (by linarith)
    rw [abs_of_nonneg (sub_nonneg.2 hbegin)] at hle
    linarith
  refine ⟨fitsSignificand_nearestQuanta num den, fun p hp => ?_, fun p hp hne heq => ?_⟩
  · by_cases hdvd : spacing num den ∣ p
    · obtain ⟨k, rfl⟩ := hdvd
      rw [Nat.mul_comm]
      exact (hmultiple k).1
    · exact (hfar p hp hdvd).le
  · by_cases hdvd : spacing num den ∣ p
    · obtain ⟨k, rfl⟩ := hdvd
      rw [Nat.mul_comm] at hne heq
      exact evenSignificand_nearestQuanta ((hmultiple k).2 hne heq)
    · exact absurd heq (hfar p hp hdvd).ne

/-! ## The double nearest to a rational -/

/-- The number is the double nearest to a magnitude, a rational, with a sign: it has the closest
magnitude of 53 significant bits, and is infinite if that is beyond the finite doubles. -/
inductive NearestTo (negative : Bool) (x : ℚ) : Number → Prop
  | finite {q : Nat} (hq : Representable q) (h : Closest (x * quantaPerOne) q) :
    NearestTo negative x (.finite negative q hq)
  | infinite {q : Nat} (hq : overflowQuanta ≤ q) (h : Closest (x * quantaPerOne) q) :
    NearestTo negative x (.infinite negative)

/-- A rational has one nearest double. -/
theorem NearestTo.unique {negative : Bool} {m n : Number} (hm : NearestTo negative x m)
    (hn : NearestTo negative x n) : m = n := by
  cases hm with
  | finite hp h =>
    cases hn with
    | finite hq h' =>
      obtain rfl := h.unique h'
      rfl
    | infinite hq h' =>
      obtain rfl := h.unique h'
      exact absurd hp.1 (Nat.not_lt.2 hq)
  | infinite hp h =>
    cases hn with
    | finite hq h' =>
      obtain rfl := h.unique h'
      exact absurd hq.1 (Nat.not_lt.2 hp)
    | infinite => rfl

/-- Not-a-number is nearest to nothing. -/
theorem NearestTo.ne_nan {negative : Bool} {n : Number} (h : NearestTo negative x n) :
    n ≠ .nan := by
  cases h <;> exact nofun

/-- A quotient of quanta is rounded to the double nearest to it. -/
theorem nearestTo_ofQuanta (negative : Bool) (hden : 0 < den)
    (hx : x * quantaPerOne = (num : ℚ) / den) :
    NearestTo negative x (ofQuanta negative num den) := by
  have hclosest := closest_nearestQuanta hden num
  rw [← hx] at hclosest
  rw [ofQuanta]
  split
  · exact .finite _ hclosest
  · rename_i hover
    exact .infinite (Nat.not_lt.1 hover) hclosest

/-- A natural number is rounded to the double nearest to it. -/
theorem nearestTo_ofNat (n : Nat) : NearestTo false n (ofNat n) :=
  nearestTo_ofQuanta false Nat.one_pos (by push_cast; ring)

/-- A decimal is rounded to the double nearest to it. -/
theorem nearestTo_ofDecimal (negative : Bool) (c : Nat) (e : Int) :
    NearestTo negative ((c : ℚ) * 10 ^ e) (ofDecimal negative c e) := by
  have hquanta : (c : ℚ) * 10 ^ e * quantaPerOne =
      (c * Nat.pow 10 e.toNat * quantaPerOne : Nat) / (Nat.pow 10 (-e).toNat : Nat) := by
    simp only [Nat.pow_eq]
    push_cast
    rcases Int.le_total 0 e with he | he
    · obtain ⟨n, rfl⟩ := Int.eq_ofNat_of_zero_le he
      rw [Int.toNat_natCast, Int.toNat_neg_natCast, pow_zero, div_one, zpow_natCast]
    · obtain ⟨n, rfl⟩ := Int.exists_eq_neg_ofNat he
      rw [neg_neg, Int.toNat_natCast, Int.toNat_neg_natCast, pow_zero, mul_one, zpow_neg,
        zpow_natCast, mul_right_comm, div_eq_mul_inv]
  have hclosest : Closest ((c : ℚ) * 10 ^ e * quantaPerOne) (scaled c e) := by
    rw [hquanta]
    exact closest_nearestQuanta (Nat.pow_pos (by decide)) _
  have hzero : scaled c e = 0 → NearestTo negative ((c : ℚ) * 10 ^ e) (signedZero negative) := by
    intro hscaled
    rw [hscaled] at hclosest
    exact .finite _ hclosest
  rw [ofDecimal]
  split
  · rename_i hc
    exact hzero (by_contra fun hne => coefficient_ne_zero hne hc)
  · rename_i hc
    split
    · rename_i he
      exact .infinite (overflowQuanta_le_scaled hc he) hclosest
    · split
      · rename_i he
        exact hzero (scaled_eq_zero he)
      · exact nearestTo_ofQuanta negative (Nat.pow_pos (by decide)) hquanta

end RecordQuery.Number

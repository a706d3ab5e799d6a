import Mathlib.Algebra.Group.Nat.Defs
import RecordQuery.Proofs.Number.Equality

/-!
# Facts about rounding

The double nearest to a quotient depends on the quotient alone (`nearestQuanta_congr`) and is the
quotient itself where that is a double (`nearestQuanta_mul_right`). It does not fall below a power
of two that the quotient has reached (`pow_le_nearestQuanta`), and below half a quantum it is zero
(`nearestQuanta_eq_zero`).
-/

namespace RecordQuery.Number

variable {num den num' den' : Nat}

/-! ## Quanta -/

/-- There are quanta in the number one. -/
theorem quantaPerOne_pos : 0 < quantaPerOne := Nat.pos_of_ne_zero (by decide +kernel)

/-- Overflow begins at `2 ^ 1024`. -/
theorem overflowQuanta_eq_mul : overflowQuanta = Nat.pow 2 1024 * quantaPerOne := by
  have hexponent : 2098 = 1024 + 1074 := rfl
  unfold overflowQuanta quantaPerOne
  rw [hexponent]
  generalize 1024 = m, 1074 = n
  exact Nat.pow_add 2 m n

/-- A rounded quotient is a number. -/
theorem ofQuanta_ne_nan (negative : Bool) (num den : Nat) : ofQuanta negative num den ≠ .nan := by
  rw [ofQuanta]
  split <;> simp

/-! ## The quotient decides -/

/-- Rounding does not see a common factor. -/
theorem roundHalfEven_mul_left {k : Nat} (hk : 0 < k) (num den : Nat) :
    roundHalfEven (k * num) (k * den) = roundHalfEven num den := by
  have hlt : ∀ a b : Nat, 2 * (k * a) < k * b ↔ 2 * a < b := by
    intro a b
    rw [Nat.mul_left_comm, Nat.mul_lt_mul_left hk]
  have hgt : ∀ a b : Nat, k * b < 2 * (k * a) ↔ b < 2 * a := by
    intro a b
    rw [Nat.mul_left_comm, Nat.mul_lt_mul_left hk]
  simp only [roundHalfEven, Nat.mul_div_mul_left _ _ hk, Nat.mul_mod_mul_left, hlt, hgt]

/-- The nearest double does not see a common factor. -/
theorem nearestQuanta_mul_left {k : Nat} (hk : 0 < k) (num den : Nat) :
    nearestQuanta (k * num) (k * den) = nearestQuanta num den := by
  have hs : spacing (k * num) (k * den) = spacing num den := by
    rw [spacing, spacing, Nat.mul_div_mul_left _ _ hk]
  rw [nearestQuanta, nearestQuanta, hs, Nat.mul_assoc, roundHalfEven_mul_left hk]

/-- Equal quotients have the same nearest double. -/
theorem nearestQuanta_congr (hden : 0 < den) (hden' : 0 < den') (h : num * den' = num' * den) :
    nearestQuanta num den = nearestQuanta num' den' := by
  rw [← nearestQuanta_mul_left hden' num den, ← nearestQuanta_mul_left hden num' den',
    Nat.mul_comm den' num, h, Nat.mul_comm den num', Nat.mul_comm den den']

/-! ## Doubles are kept -/

/-- A multiple is rounded to itself. -/
theorem roundHalfEven_of_dvd (hden : 0 < den) (m : Nat) : roundHalfEven (m * den) den = m := by
  simp [roundHalfEven, Nat.mul_div_cancel _ hden, hden]

/-- The nearest double to a double is that double. -/
theorem nearestQuanta_mul_right {q k : Nat} (hq : FitsSignificand q) (hk : 0 < k) :
    nearestQuanta (q * k) k = q := by
  obtain ⟨m, hm⟩ := hq
  generalize hs : Nat.pow 2 (q.log2 - 52) = s at hm
  have hspacing : spacing (q * k) k = s := by rw [spacing, Nat.mul_div_cancel _ hk, hs]
  have hpos : 0 < s := hs ▸ Nat.two_pow_pos _
  have hqk : q * k = m * (k * s) := by
    rw [hm, Nat.mul_comm s m, Nat.mul_assoc, Nat.mul_comm s k]
  rw [nearestQuanta, hspacing, hqk, roundHalfEven_of_dvd (Nat.mul_pos hk hpos), hm, Nat.mul_comm]

/-! ## Too large and too small -/

/-- Rounding keeps the whole part at least. -/
theorem le_roundHalfEven (num den : Nat) : num / den ≤ roundHalfEven num den := by
  unfold roundHalfEven
  dsimp only
  split
  · exact Nat.le_refl _
  · split <;> omega

/-- Rounding stays above the powers of two that the quotient has reached. -/
theorem pow_le_nearestQuanta {k : Nat} (hk : 52 ≤ k) (h : 2 ^ k ≤ num / den) :
    2 ^ k ≤ nearestQuanta num den := by
  have hne : num / den ≠ 0 := Nat.ne_of_gt (Nat.lt_of_lt_of_le (Nat.two_pow_pos k) h)
  have hlog : k ≤ (num / den).log2 := (Nat.le_log2 hne).2 h
  have hspos : 0 < spacing num den := Nat.two_pow_pos _
  have hsplit : 2 ^ 52 * spacing num den = 2 ^ (num / den).log2 := by
    rw [spacing, Nat.pow_eq, ← Nat.pow_add]
    congr 1
    omega
  have hround : 2 ^ 52 ≤ roundHalfEven num (den * spacing num den) := by
    refine Nat.le_trans ?_ (le_roundHalfEven _ _)
    rw [← Nat.div_div_eq_div_mul, Nat.le_div_iff_mul_le hspos, hsplit]
    exact Nat.log2_self_le hne
  calc 2 ^ k ≤ 2 ^ (num / den).log2 := Nat.pow_le_pow_right (by decide) hlog
    _ = 2 ^ 52 * spacing num den := hsplit.symm
    _ ≤ nearestQuanta num den := Nat.mul_le_mul_right _ hround

/-- A quotient below one half is rounded to zero. -/
theorem nearestQuanta_eq_zero (h : 2 * num < den) : nearestQuanta num den = 0 := by
  have hdiv : num / den = 0 := Nat.div_eq_of_lt (by omega)
  have hs : spacing num den = 1 := by simp [spacing, hdiv]
  rw [nearestQuanta, hs]
  simp [roundHalfEven, hdiv, Nat.mod_eq_of_lt (show num < den by omega), h]

end RecordQuery.Number

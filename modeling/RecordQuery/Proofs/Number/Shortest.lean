import RecordQuery.Number.Basic
import RecordQuery.Number.Shortest
import RecordQuery.Proofs.Number.Nearest

/-!
# Decimals and their nearest doubles

`scaled c e` is the double nearest to `c * 10 ^ e` in quanta, whatever the exponent. Reading a
decimal computes it wherever it is positive and finite (`ofDecimal_eq_finite`), and the shortest
decimal of a magnitude has that magnitude as its nearest double (`scaled_shortest`), so that the
shortest decimal reads back.
-/

namespace RecordQuery.Number

/-! ## The value of a decimal -/

/-- The double nearest to `c * 10 ^ e`, in quanta. -/
def scaled (c : Nat) (e : Int) : Nat :=
  nearestQuanta (c * Nat.pow 10 e.toNat * quantaPerOne) (Nat.pow 10 (-e).toNat)

/-- Final zeros may be counted in the exponent. -/
theorem scaled_mul_pow (c k : Nat) (e : Int) : scaled (c * 10 ^ k) e = scaled c (e + k) := by
  unfold scaled
  generalize quantaPerOne = one
  simp only [Nat.pow_eq]
  refine nearestQuanta_congr (Nat.pow_pos (by decide)) (Nat.pow_pos (by decide)) ?_
  have hexp : k + e.toNat + (-(e + k)).toNat = (e + k).toNat + (-e).toNat := by omega
  calc c * 10 ^ k * 10 ^ e.toNat * one * 10 ^ (-(e + k)).toNat
      = c * one * 10 ^ (k + e.toNat + (-(e + k)).toNat) := by
        rw [Nat.pow_add, Nat.pow_add]; ac_rfl
    _ = c * one * 10 ^ ((e + k).toNat + (-e).toNat) := by rw [hexp]
    _ = c * 10 ^ (e + k).toNat * one * 10 ^ (-e).toNat := by
        rw [Nat.pow_add]; ac_rfl

/-- A decimal with no more than 1074 places counts units of the last of them. -/
theorem scaled_eq_nearestQuanta {c : Nat} {e : Int} (he : -1074 ≤ e) :
    scaled c e = nearestQuanta (c * Nat.pow 10 (e + 1074).toNat) placesPerQuantum := by
  unfold scaled quantaPerOne placesPerQuantum
  simp only [Nat.pow_eq]
  have hexp : e.toNat + 1074 = (e + 1074).toNat + (-e).toNat := by omega
  generalize 1074 = places at hexp ⊢
  refine nearestQuanta_congr (Nat.pow_pos (by decide)) (Nat.pow_pos (by decide)) ?_
  calc c * 10 ^ e.toNat * 2 ^ places * 5 ^ places
      = c * 10 ^ (e.toNat + places) := by
        rw [Nat.pow_add, show (10 : Nat) = 2 * 5 from rfl, Nat.mul_pow 2 5 places]; ac_rfl
    _ = c * 10 ^ (e + 1074).toNat * 10 ^ (-e).toNat := by
        rw [hexp, Nat.pow_add]; ac_rfl

/-- Powers of ten are at least the powers of two with three times the exponent. -/
theorem two_pow_le_ten_pow (n : Nat) : 2 ^ (3 * n) ≤ 10 ^ n := by
  rw [Nat.pow_mul]
  exact Nat.pow_le_pow_left (by decide) n

/-- The double nearest to a quotient whose nearest magnitude is finite. -/
theorem ofQuanta_eq_finite {negative : Bool} {num den q : Nat} (hq : Representable q)
    (h : nearestQuanta num den = q) : ofQuanta negative num den = .finite negative q hq := by
  subst h
  exact dif_pos hq.1

/-- A decimal beyond the range that is computed overflows. -/
theorem overflowQuanta_le_scaled {c : Nat} {e : Int} (hc : c ≠ 0) (he : 400 < e) :
    overflowQuanta ≤ scaled c e := by
  unfold scaled overflowQuanta quantaPerOne
  simp only [Nat.pow_eq]
  obtain ⟨n, rfl⟩ := Int.eq_ofNat_of_zero_le (show 0 ≤ e by omega)
  have hexp : 2098 ≤ 3 * n + 1074 := by omega
  have hk : 52 ≤ 2098 := by decide
  generalize 2098 = k, 1074 = places at hexp hk ⊢
  refine pow_le_nearestQuanta hk ?_
  rw [Int.toNat_natCast, show (-(n : Int)).toNat = 0 by omega, Nat.pow_zero, Nat.div_one]
  calc 2 ^ k ≤ 2 ^ (3 * n + places) := Nat.pow_le_pow_right (by decide) hexp
    _ = 2 ^ (3 * n) * 2 ^ places := Nat.pow_add _ _ _
    _ ≤ c * 10 ^ n * 2 ^ places := Nat.mul_le_mul_right _
        (Nat.le_trans (two_pow_le_ten_pow n) (Nat.le_mul_of_pos_left _ (Nat.pos_of_ne_zero hc)))

/-- A decimal below the range that is computed vanishes. -/
theorem scaled_eq_zero {c : Nat} {e : Int} (he : e + c.log2 < -400) : scaled c e = 0 := by
  unfold scaled quantaPerOne
  simp only [Nat.pow_eq]
  obtain ⟨n, rfl⟩ := Int.exists_eq_neg_ofNat (show e ≤ 0 by omega)
  have hexp : c.log2 + 1 + 1 + 1074 ≤ 3 * n := by omega
  generalize 1074 = places at hexp ⊢
  rw [show (-(n : Int)).toNat = 0 by omega, show (-(-(n : Int))).toNat = n by omega, Nat.pow_zero,
    Nat.mul_one]
  refine nearestQuanta_eq_zero ?_
  calc 2 * (c * 2 ^ places) = c * 2 ^ (1 + places) := by rw [Nat.add_comm, Nat.pow_succ]; ac_rfl
    _ < 2 ^ (c.log2 + 1) * 2 ^ (1 + places) :=
        Nat.mul_lt_mul_of_pos_right Nat.lt_log2_self (Nat.two_pow_pos _)
    _ = 2 ^ (c.log2 + 1 + (1 + places)) := (Nat.pow_add _ _ _).symm
    _ ≤ 2 ^ (3 * n) := Nat.pow_le_pow_right (by decide) (by omega)
    _ ≤ 10 ^ n := two_pow_le_ten_pow n

/-- A decimal with a nearest double other than zero is not zero. -/
theorem coefficient_ne_zero {c : Nat} {e : Int} (h : scaled c e ≠ 0) : c ≠ 0 := by
  rintro rfl
  refine h (nearestQuanta_eq_zero ?_)
  rw [Nat.zero_mul, Nat.zero_mul, Nat.mul_zero]
  exact Nat.pow_pos (by decide)

/-- A decimal whose nearest double is positive and finite is that double. -/
theorem ofDecimal_eq_finite {negative : Bool} {c q : Nat} {e : Int} (hq : Representable q)
    (hne : q ≠ 0) (h : scaled c e = q) : ofDecimal negative c e = .finite negative q hq := by
  have hc : c ≠ 0 := coefficient_ne_zero (h ▸ hne)
  have hlarge : ¬ 400 < e := by
    intro he
    have hover := overflowQuanta_le_scaled hc he
    rw [h] at hover
    exact absurd hq.1 (Nat.not_lt_of_ge hover)
  have hsmall : ¬ e + c.log2 < -400 := fun he => hne (h ▸ scaled_eq_zero he)
  rw [ofDecimal, if_neg hc, if_neg hlarge, if_neg hsmall]
  exact ofQuanta_eq_finite hq h

/-! ## The shortest decimal -/

/-- The closer neighbour is one of those that read back. -/
theorem closer?_eq_some {tie : Tie} {lower rest grid m : Nat} {low up : Bool}
    (h : closer? tie lower rest grid low up = some m) :
    (m = lower ∧ low = true) ∨ (m = lower + 1 ∧ up = true) := by
  cases low with
  | false =>
    cases up with
    | false => cases h
    | true => exact .inr ⟨(Option.some.inj h).symm, rfl⟩
  | true =>
    cases up with
    | false => exact .inl ⟨(Option.some.inj h).symm, rfl⟩
    | true =>
      dsimp only [closer?] at h
      split at h
      · exact .inl ⟨(Option.some.inj h).symm, rfl⟩
      · split at h
        · exact .inr ⟨(Option.some.inj h).symm, rfl⟩
        · cases tie with
          | up => exact .inr ⟨(Option.some.inj h).symm, rfl⟩
          | even =>
            have hm : lower + lower % 2 = m := Option.some.inj h
            rcases Nat.mod_two_eq_zero_or_one lower with h2 | h2
            · exact .inl ⟨by omega, rfl⟩
            · exact .inr ⟨by omega, rfl⟩

/-- What is found on a grid reads back. -/
theorem readsBack_of_nearestOnGrid? {tie : Tie} {q grid m : Nat}
    (h : nearestOnGrid? tie q grid = some m) : readsBack q m grid = true := by
  rcases closer?_eq_some h with ⟨hm, hback⟩ | ⟨hm, hback⟩
  · rw [hm, hback]
  · rw [hm, hback]

/-- A decimal that is found for a magnitude has that magnitude as its nearest double. -/
theorem scaled_of_ofDigits? {tie : Tie} {q length digits : Nat} {d : Decimal}
    (h : ofDigits? tie q length digits = some d) : scaled d.coefficient d.exponent = q := by
  obtain ⟨m, hm, rfl⟩ := Option.map_eq_some_iff.1 h
  generalize length - 1 - digits = dropped at hm
  have hback := readsBack_of_nearestOnGrid? hm
  rw [readsBack, beq_iff_eq] at hback
  dsimp only
  rw [scaled_eq_nearestQuanta (by omega),
    show ((dropped : Int) - 1074 + 1074).toNat = dropped by omega]
  exact hback

/-- A quantum has an expansion. -/
theorem placesPerQuantum_pos : 0 < placesPerQuantum := by
  unfold placesPerQuantum
  generalize 1074 = places
  exact Nat.pow_pos (by decide)

/-- The exact expansion of a magnitude has that magnitude as its nearest double. -/
theorem scaled_expansion {q : Nat} (hq : FitsSignificand q) : scaled (expansion q) (-1074) = q := by
  rw [scaled_eq_nearestQuanta (Int.le_refl _), expansion,
    show (-1074 + 1074 : Int).toNat = 0 from rfl, Nat.pow_eq, Nat.pow_zero, Nat.mul_one]
  exact nearestQuanta_mul_right hq placesPerQuantum_pos

/-- The shortest decimal of a magnitude has that magnitude as its nearest double. -/
theorem scaled_shortest (tie : Tie) {q : Nat} (hq : FitsSignificand q) :
    scaled (shortest tie q).coefficient (shortest tie q).exponent = q := by
  have hgetD : ∀ found : Option Decimal,
      (∀ d, found = some d → scaled d.coefficient d.exponent = q) →
      scaled (found.getD ⟨expansion q, -1074⟩).coefficient
        (found.getD ⟨expansion q, -1074⟩).exponent = q := by
    intro found hfound
    cases found with
    | none => exact scaled_expansion hq
    | some d => exact hfound d rfl
  refine hgetD _ fun d hfind => ?_
  obtain ⟨digits, _, hdigits⟩ := List.exists_of_findSome?_eq_some hfind
  exact scaled_of_ofDigits? hdigits

end RecordQuery.Number

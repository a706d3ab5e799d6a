import RecordQuery.Proofs.Number.Nearest

/-!
# The sign of a number

The sign of a number is where it lies to zero. Rounding does not change it, since what is at least
one quantum is not rounded to zero (`nearestQuanta_eq_zero_iff`), and doubles differ by at least one
quantum or not at all. So the sign of a difference is the order of its terms (`sign_sub`), whatever
the difference is rounded to.
-/

namespace RecordQuery.Number

/-- Where a number lies to zero; not-a-number counts as zero. -/
def sign (n : Number) : Ordering := (n.order? .zero).getD .eq

variable {n x y : Number} {r s : Int}

/-- Zero has the rank zero. -/
theorem rank?_zero : zero.rank? = some 0 := rfl

/-- The sign of a number is that of its rank. -/
theorem sign_of_rank? (h : n.rank? = some r) : n.sign = compare r 0 := by
  rw [sign, order?_of_rank? h rank?_zero, Option.getD_some]

/-- A number equals zero if it has the sign of zero. -/
theorem equals_zero_iff (h : n.rank?.isNone = false) : n.equals .zero = true ↔ n.sign = .eq := by
  cases hr : n.rank? with
  | none => simp [hr] at h
  | some r =>
    rw [sign_of_rank? hr, equals, hr, rank?_zero, Int.compare_eq_eq]
    exact beq_iff_eq

/-- Zero equals itself. -/
theorem zero_equals_zero : zero.equals .zero = true := (equals_zero_iff rfl).2 rfl

/-- The same numbers equal zero alike. -/
theorem equals_zero_congr (h : x.sameValueZero y = true) : x.equals .zero = y.equals .zero :=
  equals_congr h (sameValueZero_refl zero)

/-! ## Signs of integers -/

/-- Integers that are less and equal alike compare alike. -/
theorem compare_congr {i j k l : Int} (hlt : i < j ↔ k < l) (heq : i = j ↔ k = l) :
    compare i j = compare k l := by
  simp only [compare, compareOfLessAndEq, hlt, heq]

/-- The sign of a signed magnitude depends on the magnitude in whether that is zero. -/
theorem compare_signed {p q : Nat} (negative : Bool) (h : p = 0 ↔ q = 0) :
    compare (signed negative p) 0 = compare (signed negative q) 0 := by
  cases negative with
  | true =>
    simp only [signed, if_true]
    exact compare_congr (by omega) (by omega)
  | false =>
    simp only [signed, Bool.false_eq_true, if_false]
    exact compare_congr (by omega) (by omega)

/-- Twice an integer has its sign. -/
theorem compare_add_self (i : Int) : compare (i + i) 0 = compare i 0 :=
  compare_congr (by omega) (by omega)

/-- An integer is its magnitude with its sign. -/
theorem signed_natAbs (i : Int) : signed (decide (i < 0)) i.natAbs = i := by
  rw [signed]
  split
  · rename_i h
    have hneg := of_decide_eq_true h
    omega
  · rename_i h
    have hnonneg := of_decide_eq_false (Bool.eq_false_iff.2 h)
    omega

/-! ## Opposites -/

/-- The other sign gives the opposite. -/
theorem signed_not (negative : Bool) (q : Nat) : signed (!negative) q = -signed negative q := by
  cases negative <;> simp [signed]

/-- The rank of the opposite is the opposite rank. -/
theorem rank?_neg (n : Number) : n.neg.rank? = n.rank?.map fun r => -r := by
  cases n with
  | nan => rfl
  | infinite negative => simp [neg, rank?, signed_not]
  | finite negative q h => simp [neg, rank?, signed_not]

/-- The opposite of a number has the opposite sign. -/
theorem sign_neg (n : Number) : n.neg.sign = n.sign.swap := by
  have hneg := rank?_neg n
  cases hr : n.rank? with
  | none =>
    rw [hr] at hneg
    simp [sign, order?, hr, hneg]
  | some r =>
    rw [hr, Option.map_some] at hneg
    rw [sign_of_rank? hr, sign_of_rank? hneg, Int.compare_swap]
    exact compare_congr (by omega) (by omega)

/-- The opposite of the opposite is the number itself. -/
theorem neg_neg (n : Number) : n.neg.neg = n := by
  cases n <;> simp [neg]

/-- Opposites are equal if the numbers are. -/
theorem neg_equals_neg (x y : Number) : x.neg.equals y.neg = x.equals y := by
  rw [equals, equals, rank?_neg, rank?_neg]
  cases x.rank? with
  | none => rfl
  | some r =>
    cases y.rank? with
    | none => rfl
    | some s =>
      change (-r == -s) = (r == s)
      rw [Bool.eq_iff_iff, beq_iff_eq, beq_iff_eq, Int.neg_inj]

/-- Zero is the same as its opposite. -/
theorem zero_same_neg : zero.sameValueZero zero.neg = true := sameValueZero_iff.2 rfl

/-- The opposite of a number equals zero if the number does. -/
theorem neg_equals_zero (n : Number) : n.neg.equals .zero = n.equals .zero := by
  rw [equals_congr (sameValueZero_refl n.neg) zero_same_neg, neg_equals_neg]

/-! ## Rounding -/

/-- Nothing but zero is rounded to zero. -/
theorem nearestQuanta_eq_zero_iff {num : Nat} : nearestQuanta num 1 = 0 ↔ num = 0 := by
  constructor
  · intro hzero
    refine Decidable.byContradiction fun hne => ?_
    rcases Nat.lt_or_ge num (2 ^ 53) with hlt | hge
    · have hlog : num.log2 < 53 := (Nat.log2_lt hne).2 hlt
      have hfits : FitsSignificand num := by
        rw [FitsSignificand, show num.log2 - 52 = 0 by omega]
        exact Nat.one_dvd num
      have hsame := nearestQuanta_mul_right hfits Nat.one_pos
      rw [Nat.mul_one] at hsame
      omega
    · have hpow : 2 ^ 53 ≤ nearestQuanta num 1 :=
        pow_le_nearestQuanta (by decide) (by rwa [Nat.div_one])
      have hpos := Nat.two_pow_pos 53
      omega
  · rintro rfl
    exact nearestQuanta_eq_zero (by decide)

/-- A signed magnitude keeps its sign when it is rounded. -/
theorem sign_ofQuanta (negative : Bool) (num : Nat) :
    (ofQuanta negative num 1).sign = compare (signed negative num) 0 := by
  rw [ofQuanta]
  split
  · rw [sign_of_rank? rfl]
    exact compare_signed negative nearestQuanta_eq_zero_iff
  · rename_i hover
    rw [sign_of_rank? rfl]
    refine compare_signed negative ?_
    have hpos := overflowQuanta_pos
    have hne : nearestQuanta num 1 ≠ 0 := by omega
    rw [Ne, nearestQuanta_eq_zero_iff] at hne
    omega

/-- The double nearest to an integer has its sign. -/
theorem sign_ofInt (i : Int) : (ofInt i).sign = compare i 0 := by
  have hone := quantaPerOne_pos
  have hzero : i.natAbs * quantaPerOne = 0 ↔ i.natAbs = 0 := by
    rw [Nat.mul_eq_zero]
    omega
  rw [ofInt, sign_ofQuanta, compare_signed _ hzero, signed_natAbs]

/-! ## Sums and differences -/

/-- The infinities lie beyond every finite number. -/
theorem signed_infinite_add (s t : Bool) {q : Nat} (h : Representable q) :
    compare (signed s overflowQuanta + signed t q) 0 = compare (signed s overflowQuanta) 0 := by
  have hlt := h.1
  cases s <;> cases t <;> simp only [signed, if_true, Bool.false_eq_true, if_false] <;>
    exact compare_congr (by omega) (by omega)

/-- The sign of a sum is that of the sum of ranks; infinities of unlike sign have no sum. -/
theorem sign_add (hx : x.rank? = some r) (hy : y.rank? = some s) :
    (x.add y).sign = compare (r + s) 0 := by
  cases x with
  | nan => cases hx
  | infinite b =>
    obtain rfl := Option.some.inj hx
    cases y with
    | nan => cases hy
    | infinite c =>
      obtain rfl := Option.some.inj hy
      rw [add]
      split
      · rename_i hbc
        rw [← hbc, sign_of_rank? rfl, compare_add_self]
      · rename_i hbc
        have hopposite : c = !b := by
          revert hbc
          cases b <;> cases c <;> decide
        rw [hopposite, signed_not, Int.add_right_neg]
        rfl
    | finite c q hq =>
      obtain rfl := Option.some.inj hy
      rw [add, sign_of_rank? rfl, signed_infinite_add b c hq]
  | finite b p hp =>
    obtain rfl := Option.some.inj hx
    cases y with
    | nan => cases hy
    | infinite c =>
      obtain rfl := Option.some.inj hy
      rw [add, sign_of_rank? rfl, Int.add_comm, signed_infinite_add c b hp]
    | finite c q hq =>
      obtain rfl := Option.some.inj hy
      simp only [add]
      split
      · rename_i hzero
        rw [hzero, sign_of_rank? rfl, signed_zero]
      · rw [sign_ofQuanta, signed_natAbs]

/-- Not-a-number has no sum with anything. -/
theorem add_eq_nan (h : x = .nan ∨ y = .nan) : x.add y = .nan := by
  rcases h with rfl | rfl
  · rfl
  · cases x <;> rfl

/-- Only not-a-number has no rank. -/
theorem rank?_eq_none_iff : n.rank? = none ↔ n = .nan := by
  cases n <;> simp [rank?]

/-- The sign of a difference is the order of its terms, and that of zero if they have none. -/
theorem sign_sub (x y : Number) : (x.sub y).sign = (x.order? y).getD .eq := by
  have hneg := rank?_neg y
  cases hx : x.rank? with
  | none =>
    rw [sub, add_eq_nan (.inl (rank?_eq_none_iff.1 hx)), order?, hx]
    rfl
  | some r =>
    cases hy : y.rank? with
    | none =>
      rw [hy, Option.map_none] at hneg
      rw [sub, add_eq_nan (.inr (rank?_eq_none_iff.1 hneg)), order?, hx, hy]
      rfl
    | some s =>
      rw [hy, Option.map_some] at hneg
      rw [sub, sign_add hx hneg, order?_of_rank? hx hy]
      exact compare_congr (by omega) (by omega)

end RecordQuery.Number

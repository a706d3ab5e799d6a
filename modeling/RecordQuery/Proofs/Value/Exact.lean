import RecordQuery.Proofs.Number.Exact
import RecordQuery.Proofs.Value.Comparison

/-!
# Comparison of numeric values

Wide integers, numbers, truth values and null have an exact value, not-a-number apart. Values that
have one are always ordered, and the order is that of the exact values with one exception
(`Value.order?_of_extended?`): a wide integer that is compared with a number is rounded first, so
that the two compare equal if the integer is rounded to the number (`Value.merges`). An integer of
more than 53 significant bits, which is rounded to a number that it is not equal to, so compares
equal to a number that is less or greater (`Value.order?_ne_compare_extended?`).
-/

namespace RecordQuery

namespace Value

/-- The exact value of a value that is numeric: a wide integer, a number, a truth value or null. -/
def extended? : Value → Option Extended
  | null => some (.ofRat 0)
  | bool b => some (.ofRat b.toNat)
  | number n => n.extended?
  | bigint n => some (.ofRat n.val)
  | _ => none

/-- The place of the exact value of a numeric value on the line of ranks. -/
def place? : Value → Option Int
  | null => some 0
  | bool b => some (b.toNat * Number.quantaPerOne)
  | number n => n.rank?
  | bigint n => some (n.val * Number.quantaPerOne)
  | _ => none

/-- An integer that is not too wide is far from the places of the infinities. -/
theorem natAbs_quanta_lt {n : Int} (h : n.natAbs ≤ BigInt.bound) :
    (n * Number.quantaPerOne).natAbs < Number.overflowQuanta := by
  have hbound : BigInt.bound < Nat.pow 2 1024 := by
    have hlt : 127 < 1024 := by decide
    unfold BigInt.bound
    generalize 1024 = k at hlt ⊢
    exact Nat.pow_lt_pow_right (by decide) hlt
  rw [Number.natAbs_quanta, Number.overflowQuanta_eq_mul]
  generalize Nat.pow 2 1024 = room at hbound ⊢
  exact Nat.mul_lt_mul_of_pos_right (h.trans_lt hbound) Number.quantaPerOne_pos

/-- A truth value is far from the places of the infinities. -/
theorem natAbs_toNat_place_lt (b : Bool) :
    ((b.toNat : Int) * Number.quantaPerOne).natAbs < Number.overflowQuanta :=
  natAbs_quanta_lt (by cases b <;> decide)

/-- A wide integer is far from the places of the infinities. -/
theorem natAbs_place_lt (n : BigInt) :
    (n.val * Number.quantaPerOne).natAbs < Number.overflowQuanta := by
  have := n.lower
  have := n.upper
  exact natAbs_quanta_lt (by omega)

/-- The exact value is what has the place. -/
theorem extended?_eq_map_place? (v : Value) : v.extended? = v.place?.map Extended.ofPlace := by
  cases v with
  | null =>
    have hpos := Number.overflowQuanta_pos
    rw [extended?, place?, Option.map_some, Extended.ofPlace_of_lt (by simpa), Int.cast_zero,
      zero_div]
  | bool b =>
    rw [extended?, place?, Option.map_some, Extended.ofPlace_quanta (natAbs_toNat_place_lt b),
      Int.cast_natCast]
  | number n => exact n.extended?_eq
  | bigint n => rw [extended?, place?, Option.map_some, Extended.ofPlace_quanta (natAbs_place_lt n)]
  | undefined | string | regex | array | object => rfl

/-- No place is beyond those of the infinities. -/
theorem natAbs_place_le {v : Value} {s : Int} (h : v.place? = some s) :
    s.natAbs ≤ Number.overflowQuanta := by
  cases v with
  | null =>
    obtain rfl := Option.some.inj h
    exact Nat.zero_le _
  | bool b =>
    obtain rfl := Option.some.inj h
    exact (natAbs_toNat_place_lt b).le
  | number n => exact (Number.isRank_of_rank? h).2
  | bigint n =>
    obtain rfl := Option.some.inj h
    exact (natAbs_place_lt n).le
  | undefined | string | regex | array | object => cases h

/-! ## Comparison of numeric values -/

variable {a b : Value} {s t : Int} {x y : Extended}

/-- A numeric value that is no wide integer is compared as the number at its place. -/
theorem comparesAsNumber_of_place? (h : a.place? = some s) (hkind : a.kind ≠ .bigint) :
    a.kind.comparesAsNumber = true ∧ a.toNumber.rank? = some s := by
  cases a with
  | null =>
    obtain rfl := Option.some.inj h
    exact ⟨rfl, by decide +kernel⟩
  | bool b =>
    obtain rfl := Option.some.inj h
    exact ⟨rfl, by cases b <;> decide +kernel⟩
  | number n => exact ⟨rfl, h⟩
  | bigint => exact absurd rfl hkind
  | undefined | string | regex | array | object => cases h

/-- The number of a wide integer is the double nearest to it. -/
theorem toNumber_bigint (n : BigInt) : (bigint n).toNumber = Number.ofInt n.val := rfl

/-- One of the values is a wide integer and the other is not, and they stand for the same number. -/
def merges (a b : Value) : Bool :=
  ((a.kind == .bigint) != (b.kind == .bigint)) && a.toNumber.equals b.toNumber

/-- Values that are wide integers alike do not merge. -/
theorem merges_eq_false (h : (a.kind == .bigint) = (b.kind == .bigint)) : a.merges b = false := by
  rw [merges, h, bne_self_eq_false, Bool.false_and]

/-- Values merge both ways. -/
theorem merges_comm (a b : Value) : a.merges b = b.merges a := by
  rw [merges, merges, Number.equals_comm, bne_comm]

/-- A wide integer beside a numeric value that is none compares as it lies to that, unless it is
rounded to that. -/
theorem order?_bigint (n : BigInt) (hb : b.place? = some t) (hkind : b.kind ≠ .bigint) :
    (bigint n).order? b = some (if (bigint n).merges b then .eq
      else compare (n.val * Number.quantaPerOne) t) := by
  obtain ⟨hnumber, ht⟩ := comparesAsNumber_of_place? hb hkind
  obtain ⟨m, hm, _⟩ := Number.exists_rank?_ofInt n.val
  have hmerges : (bigint n).merges b = (Number.ofInt n.val).equals b.toNumber := by
    have hself : ((bigint n).kind == .bigint) = true := rfl
    rw [merges, hself, beq_false_of_ne hkind, toNumber_bigint, Bool.true_bne, Bool.not_false,
      Bool.true_and]
  rw [order?_eq_of_comparesAsNumber (.inr hnumber), hmerges, toNumber_bigint]
  rw [Number.order?_of_rank? hm ht, Number.equals_of_rank? hm ht]
  split
  · rename_i heq
    rw [beq_iff_eq.1 heq]
    exact congrArg some Std.ReflCmp.compare_self
  · rename_i hne
    rw [Number.compare_rank?_ofInt hm (Number.isRank_of_rank? ht) (mt beq_iff_eq.2 hne)]

/-- Wide integers compare as their places lie. -/
theorem order?_bigint_bigint (n m : BigInt) : (bigint n).order? (bigint m) =
    some (compare (n.val * Number.quantaPerOne) (m.val * Number.quantaPerOne)) := by
  have hpos : (0 : Int) < Number.quantaPerOne := Int.natCast_pos.2 Number.quantaPerOne_pos
  refine congrArg some (Number.compare_congr ?_ ?_)
  · exact (mul_lt_mul_iff_of_pos_right hpos).symm
  · exact (mul_left_inj' hpos.ne').symm

/-- Numeric values compare as their places lie, unless a wide integer is rounded to the other
value. -/
theorem order?_eq_of_place? (ha : a.place? = some s) (hb : b.place? = some t) :
    a.order? b = some (if a.merges b then .eq else compare s t) := by
  have hkind : ∀ v : Value, v.kind = .bigint → ∃ n, v = .bigint n := by
    intro v hv
    cases v <;> cases hv
    exact ⟨_, rfl⟩
  by_cases hka : a.kind = .bigint
  · obtain ⟨n, rfl⟩ := hkind a hka
    obtain rfl := Option.some.inj ha
    by_cases hkb : b.kind = .bigint
    · obtain ⟨m, rfl⟩ := hkind b hkb
      obtain rfl := Option.some.inj hb
      have hmerges : (bigint n).merges (bigint m) = false := merges_eq_false rfl
      rw [order?_bigint_bigint, hmerges]
      rfl
    · exact order?_bigint n hb hkb
  · obtain ⟨hnumber, hs⟩ := comparesAsNumber_of_place? ha hka
    by_cases hkb : b.kind = .bigint
    · obtain ⟨m, rfl⟩ := hkind b hkb
      obtain rfl := Option.some.inj hb
      rw [order?_swap, order?_bigint m ha hka, merges_comm, Option.map_some]
      split
      · rfl
      · exact congrArg some Std.OrientedCmp.eq_swap.symm
    · obtain ⟨_, ht⟩ := comparesAsNumber_of_place? hb hkb
      rw [order?_eq_of_comparesAsNumber (.inl hnumber), Number.order?_of_rank? hs ht,
        merges_eq_false ((beq_false_of_ne hka).trans (beq_false_of_ne hkb).symm)]
      rfl

/-- A wide integer has at most 53 significant bits. -/
def Narrow : Value → Prop
  | bigint n => Number.FitsSignificand n.val.natAbs
  | _ => True

/-- A numeric value that is narrow stands for the number at its place. -/
theorem rank?_toNumber (h : a.place? = some s) (hnarrow : a.Narrow) :
    a.toNumber.rank? = some s := by
  by_cases hkind : a.kind = .bigint
  · cases a with
    | bigint n =>
      obtain rfl := Option.some.inj h
      rw [toNumber_bigint]
      refine Number.rank?_ofInt_of_isRank ⟨?_, (natAbs_place_lt n).le⟩
      rw [Number.natAbs_quanta]
      exact Number.fitsSignificand_mul_quantaPerOne hnarrow
    | undefined | null | bool | number | string | regex | array | object => cases hkind
  · exact (comparesAsNumber_of_place? h hkind).2

/-- Numeric values always have an order. It is that of their exact values, but a wide integer
compares equal to every other numeric value that it is rounded to; if it has no more than 53
significant bits, that is none but the one it is equal to. -/
theorem order?_of_extended? {a b : Value} {x y : Extended} (ha : a.extended? = some x)
    (hb : b.extended? = some y) :
    a.order? b = some (if a.merges b then .eq else compare x y) ∧
      (a.Narrow → b.Narrow → a.order? b = some (compare x y)) := by
  rw [extended?_eq_map_place?, Option.map_eq_some_iff] at ha hb
  obtain ⟨s, ha, rfl⟩ := ha
  obtain ⟨t, hb, rfl⟩ := hb
  rw [Extended.compare_ofPlace (natAbs_place_le ha) (natAbs_place_le hb), order?_eq_of_place? ha hb]
  refine ⟨rfl, fun hna hnb => ?_⟩
  split
  · rename_i hmerges
    have hequals := (Bool.and_eq_true_iff.1 hmerges).2
    rw [Number.equals_of_rank? (rank?_toNumber ha hna) (rank?_toNumber hb hnb)] at hequals
    rw [beq_iff_eq.1 hequals]
    exact congrArg some Std.ReflCmp.compare_self.symm
  · rfl

/-- A wide integer beside the number that it is rounded to, and a narrow one beside an infinity. -/
theorem order?_of_extended?_of_integers :
    let odd : BigInt := ⟨9007199254740993, by decide +kernel, by decide +kernel⟩
    let three : BigInt := ⟨3, by decide +kernel, by decide +kernel⟩
    (bigint odd).order? (number (.ofInt 9007199254740992)) = some .eq ∧
      (bigint three).order? (number (.infinite true)) = some .gt := by
  intro odd three
  constructor
  · obtain ⟨y, hy⟩ : ∃ y, (number (.ofInt 9007199254740992)).extended? = some y :=
      Option.isSome_iff_exists.1 (by decide +kernel)
    have h := (order?_of_extended? (a := bigint odd) rfl hy).1
    rwa [if_pos (by decide +kernel)] at h
  · have hnarrow : (bigint three).Narrow :=
      (by decide +kernel : Number.FitsSignificand 3)
    rw [(order?_of_extended? (a := bigint three) (b := number (.infinite true)) rfl rfl).2 hnarrow
      trivial]
    exact congrArg some (compare_gt_iff_gt.2 (Extended.bot_lt_ofRat _))

/-- Above `2 ^ 53` a wide integer compares equal to a number that it is not equal to. -/
theorem order?_ne_compare_extended? :
    ¬ ∀ (a b : Value) (x y : Extended), a.extended? = some x → b.extended? = some y →
      a.order? b = some (compare x y) := by
  intro h
  let odd : BigInt := ⟨9007199254740993, by decide +kernel, by decide +kernel⟩
  let even : Number := .ofInt 9007199254740992
  have hrank : even.rank? = some (9007199254740992 * (Number.quantaPerOne : Int)) := by
    decide +kernel
  have hlt : (9007199254740992 * (Number.quantaPerOne : Int)).natAbs < Number.overflowQuanta := by
    decide +kernel
  have heven : (number even).extended? = some (.ofRat (9007199254740992 : Int)) := by
    rw [extended?, Number.extended?_eq, hrank, Option.map_some, Extended.ofPlace_quanta hlt]
  have horder : (bigint odd).order? (number even) = some .eq := by decide +kernel
  rw [h (bigint odd) (number even) _ _ rfl heven, Option.some.injEq, compare_eq_iff_eq] at horder
  have hlt : Extended.ofRat (9007199254740992 : Int) < .ofRat (9007199254740993 : Int) :=
    Extended.ofRat_lt_ofRat.2 (by norm_num)
  exact hlt.ne horder.symm

end Value

end RecordQuery

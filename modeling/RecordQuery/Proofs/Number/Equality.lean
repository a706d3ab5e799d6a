import RecordQuery.Number.Text

/-!
# Numbers up to the sign of zero

SameValueZero compares ranks, so it is an equivalence, and `sameValueZero_iff_same` lists the ways
in which it holds: only zeros of different sign are told apart by anything finer. Order, equality,
integer part and text cannot tell them apart, and differences of equal numbers are equal again.
-/

namespace RecordQuery.Number

/-- There is a finite magnitude. -/
theorem overflowQuanta_pos : 0 < overflowQuanta :=
  have h : Representable 0 := by decide +kernel
  h.1

/-- Zero has no sign. -/
@[simp] theorem signed_zero (negative : Bool) : signed negative 0 = 0 := by
  cases negative <;> rfl

/-- Signed magnitudes are equal if the magnitudes are, and the signs unless both are zero. -/
theorem signed_inj {s t : Bool} {x y : Nat} (h : signed s x = signed t y) :
    x = y ∧ (s = t ∨ x = 0) := by
  cases s <;> cases t <;> simp [signed] at h ⊢ <;> omega

/-- The magnitude of a signed integer. -/
theorem natAbs_signed (negative : Bool) (m : Nat) : (signed negative m).natAbs = m := by
  cases negative <;> simp [signed]

/-- A multiple of a signed magnitude has its sign. -/
theorem signed_mul (negative : Bool) (m k : Nat) :
    signed negative (m * k) = signed negative m * k := by
  cases negative with
  | false => exact Int.natCast_mul m k
  | true => simp only [signed, if_true, Int.natCast_mul, Int.neg_mul]

/-! ## SameValueZero -/

/-- Numbers are the same when their ranks are. -/
theorem sameValueZero_iff {a b : Number} : a.sameValueZero b = true ↔ a.rank? = b.rank? := by
  rw [sameValueZero, beq_iff_eq]

/-- A number is the same as itself, and so is not-a-number. -/
theorem sameValueZero_refl (n : Number) : n.sameValueZero n = true := sameValueZero_iff.2 rfl

/-- The ways in which two numbers are the same: a zero may change its sign. -/
inductive Same : Number → Number → Prop
  | nan : Same .nan .nan
  | infinite (s : Bool) : Same (.infinite s) (.infinite s)
  | finite (s t : Bool) {q : Nat} (h h' : Representable q) (sign : s = t ∨ q = 0) :
    Same (.finite s q h) (.finite t q h')

/-- Two numbers are the same in one of the ways listed. -/
theorem sameValueZero_iff_same {a b : Number} : a.sameValueZero b = true ↔ Same a b := by
  rw [sameValueZero_iff]
  constructor
  · intro h
    cases a with
    | nan =>
      cases b with
      | nan => exact .nan
      | infinite | finite => cases h
    | infinite s =>
      cases b with
      | nan => cases h
      | infinite t =>
        obtain ⟨_, rfl | h0⟩ := signed_inj (Option.some.inj h)
        · exact .infinite s
        · exact absurd h0 (Nat.ne_of_gt overflowQuanta_pos)
      | finite t q hq => exact absurd (signed_inj (Option.some.inj h)).1 (Nat.ne_of_gt hq.1)
    | finite s q hq =>
      cases b with
      | nan => cases h
      | infinite t => exact absurd (signed_inj (Option.some.inj h)).1 (Nat.ne_of_lt hq.1)
      | finite t q' hq' =>
        obtain ⟨rfl, sign⟩ := signed_inj (Option.some.inj h)
        exact .finite s t hq hq' sign
  · intro h
    cases h with
    | nan | infinite => rfl
    | finite s t _ _ sign =>
      rcases sign with rfl | rfl
      · rfl
      · simp [rank?]

/-- Numbers compare as their ranks. -/
theorem order?_of_rank? {x y : Number} {r s : Int} (hx : x.rank? = some r)
    (hy : y.rank? = some s) : x.order? y = some (compare r s) := by
  rw [order?, hx, hy]

/-- Numbers are equal if their ranks are. -/
theorem equals_of_rank? {x y : Number} {r s : Int} (hx : x.rank? = some r)
    (hy : y.rank? = some s) : x.equals y = (r == s) := by
  rw [equals, hx, hy]

/-- Equality of numbers goes both ways. -/
theorem equals_comm (x y : Number) : x.equals y = y.equals x := by
  rw [equals, equals]
  cases x.rank? with
  | none => cases y.rank? <;> rfl
  | some r =>
    cases y.rank? with
    | none => rfl
    | some s => exact BEq.comm

/-- The order of two numbers depends on their ranks only. -/
theorem order?_congr {a a' b b' : Number} (ha : a.sameValueZero a' = true)
    (hb : b.sameValueZero b' = true) : a.order? b = a'.order? b' := by
  rw [order?, sameValueZero_iff.1 ha, sameValueZero_iff.1 hb, ← order?]

/-- The equality of two numbers depends on their ranks only. -/
theorem equals_congr {a a' b b' : Number} (ha : a.sameValueZero a' = true)
    (hb : b.sameValueZero b' = true) : a.equals b = a'.equals b' := by
  rw [equals, sameValueZero_iff.1 ha, sameValueZero_iff.1 hb, ← equals]

/-- Numbers are equal when they are the same and have a rank. -/
theorem equals_iff {a b : Number} :
    a.equals b = true ↔ a.sameValueZero b = true ∧ a.rank?.isNone = false := by
  rw [equals, sameValueZero_iff]
  cases a.rank? <;> cases b.rank? <;> simp

/-- Zero of either sign has no bits. -/
theorem toInt32_signedZero (negative : Bool) : (signedZero negative).toInt32 = 0 := by
  cases negative <;> decide +kernel

/-- The same number has the same 32 bits. -/
theorem toInt32_congr {a b : Number} (h : a.sameValueZero b = true) : a.toInt32 = b.toInt32 := by
  cases sameValueZero_iff_same.1 h with
  | nan | infinite => rfl
  | finite s t _ _ sign =>
    rcases sign with rfl | rfl
    · rfl
    · exact (toInt32_signedZero s).trans (toInt32_signedZero t).symm

/-- The same number has the same text. -/
theorem text_congr {a b : Number} (h : a.sameValueZero b = true) : a.text = b.text := by
  cases sameValueZero_iff_same.1 h with
  | nan | infinite => rfl
  | finite s t _ _ sign =>
    rcases sign with rfl | rfl
    · rfl
    · simp [text]

/-- The opposites of the same number are the same. -/
theorem neg_congr {a b : Number} (h : a.sameValueZero b = true) :
    a.neg.sameValueZero b.neg = true := by
  cases sameValueZero_iff_same.1 h with
  | nan | infinite => exact sameValueZero_iff.2 rfl
  | finite s t hq hq' sign =>
    exact sameValueZero_iff_same.2 (.finite _ _ hq hq' (sign.imp_left (congrArg not)))

/-- Sums of the same numbers are the same. -/
theorem add_congr {a a' b b' : Number} (ha : a.sameValueZero a' = true)
    (hb : b.sameValueZero b' = true) : (a.add b).sameValueZero (a'.add b') = true := by
  cases sameValueZero_iff_same.1 ha with
  | nan => cases b <;> cases b' <;> rfl
  | infinite s =>
    cases sameValueZero_iff_same.1 hb with
    | nan | infinite | finite => exact sameValueZero_iff.2 rfl
  | finite s s' _ _ sign =>
    cases sameValueZero_iff_same.1 hb with
    | nan => rfl
    | infinite t => exact sameValueZero_iff.2 rfl
    | finite t t' _ _ sign' =>
      have hs : ∀ {s t : Bool} {q : Nat}, s = t ∨ q = 0 → signed s q = signed t q := by
        rintro s t q (rfl | rfl)
        · rfl
        · simp
      simp only [add, hs sign, hs sign']
      split
      · exact sameValueZero_iff.2 (by simp [signedZero, rank?])
      · exact sameValueZero_iff.2 rfl

/-- Differences of the same numbers are the same. -/
theorem sub_congr {a a' b b' : Number} (ha : a.sameValueZero a' = true)
    (hb : b.sameValueZero b' = true) : (a.sub b).sameValueZero (a'.sub b') = true :=
  add_congr ha (neg_congr hb)

end RecordQuery.Number

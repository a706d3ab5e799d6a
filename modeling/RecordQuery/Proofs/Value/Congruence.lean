import RecordQuery.Proofs.Value.Equality
import RecordQuery.Value.Order

/-!
# What equal values have in common

Every observation of a value that filters and rankings make answers alike on equal values: its kind
and type, its text, its number up to the sign of zero, what is found under a key, and how it
compares with other values. For strict equality this is read off `strictEquals_iff`: strict equality
is SameValueZero on values that hold no not-a-number at any depth.
-/

namespace RecordQuery.Value

/-! ## Kind, text and number -/

/-- Equal values are of the same kind. -/
theorem kind_congr {a b : Value} (h : (a == b) = true) : a.kind = b.kind := by
  cases beq_iff_same.1 h <;> rfl

/-- Equal values are absent alike. -/
theorem isNullish_congr {a b : Value} (h : (a == b) = true) : a.isNullish = b.isNullish := by
  rw [isNullish, kind_congr h, ← isNullish]

/-- The texts of items, item by item. -/
theorem itemTexts_eq_map (items : List Value) :
    itemTexts items = items.map fun v => if v.isNullish then "" else v.text := by
  induction items with
  | nil => rfl
  | cons v rest ih => rw [itemTexts, ih, List.map_cons]

/-- Equal values have the same text. -/
theorem text_congr {a b : Value} (h : (a == b) = true) : a.text = b.text := by
  induction a using induct generalizing b with
  | undefined | null | bool | bigint | string | regex => cases beq_iff_same.1 h; rfl
  | number n =>
    cases beq_iff_same.1 h with
    | number h => simpa only [text] using Number.text_congr h
  | array xs ih =>
    cases beq_iff_same.1 h with
    | @array _ ys hitems =>
      have hmap : xs.map (fun v => if v.isNullish then "" else v.text) =
          ys.map fun v => if v.isNullish then "" else v.text := by
        rw [← List.forall₂_eq_eq_eq, List.forall₂_map_left_iff, List.forall₂_map_right_iff]
        refine forall₂_mono_of_mem hitems fun x hx y _ hxy => ?_
        rw [isNullish_congr hxy, ih x hx hxy]
      rw [text, text, itemTexts_eq_map, itemTexts_eq_map, hmap]
  | object => cases beq_iff_same.1 h; rfl

/-- Equal values stand for the same number. -/
theorem toNumber_congr {a b : Value} (h : (a == b) = true) :
    a.toNumber.sameValueZero b.toNumber = true := by
  have htext := text_congr h
  cases beq_iff_same.1 h with
  | undefined | null | bool | bigint | string | regex | object => exact Number.sameValueZero_refl _
  | number h => exact h
  | array =>
    rw [toNumber, toNumber, htext]
    exact Number.sameValueZero_refl _

/-! ## Access -/

/-- What is found in a well-formed value is well formed. -/
theorem wellFormed_get {v : Value} (hv : v.WellFormed) (key : String) :
    (v.get key).WellFormed := by
  cases v with
  | array items =>
    rw [wellFormed_array] at hv
    simp only [get]
    split
    · trivial
    · cases hi : (Text.index? key).bind (items[·]?) with
      | none => simp [atIndex, hi]
      | some v =>
        obtain ⟨i, _, hi'⟩ := Option.bind_eq_some_iff.1 hi
        simpa [atIndex, hi] using hv v (List.mem_of_getElem? hi')
  | object fields =>
    rw [get]
    cases hl : fields.lookup key with
    | none => trivial
    | some v => exact wellFormed_of_lookup hv hl
  | string s =>
    simp only [get]
    split
    · trivial
    · split <;> trivial
  | undefined | null | bool | number | bigint | regex => trivial

/-- Under the same key of equal values stand equal values. -/
theorem get_congr {a b : Value} (ha : a.WellFormed) (hb : b.WellFormed) (h : (a == b) = true)
    (key : String) : (a.get key == b.get key) = true := by
  cases beq_iff_same.1 h with
  | undefined | null | bool | bigint | string | regex => exact beq_refl (wellFormed_get ha key)
  | number => exact beq_refl trivial
  | @array xs ys hitems =>
    simp only [get]
    split
    · rw [hitems.length_eq]
      exact beq_refl trivial
    · cases hi : Text.index? key with
      | none => simpa [atIndex, hi] using beq_refl wellFormed_undefined
      | some i =>
        simp only [atIndex, hi, Option.bind_some]
        rcases Nat.lt_or_ge i xs.length with hlt | hge
        · have hlt' : i < ys.length := hitems.length_eq ▸ hlt
          simpa [hlt, hlt'] using hitems.get hlt hlt'
        · have hge' : ys.length ≤ i := hitems.length_eq ▸ hge
          simpa [hge, hge'] using beq_refl wellFormed_undefined
  | @object xs ys =>
    rw [object_beq_iff (wellFormed_object.1 ha).1 (wellFormed_object.1 hb).1] at h
    rw [get, get]
    cases hl : xs.lookup key with
    | none => simpa [h.lookup_eq_none hl] using beq_refl wellFormed_undefined
    | some v =>
      obtain ⟨w, hw, hvw⟩ := h.exists_of_lookup hl
      simpa [hw] using hvw

/-! ## Strict equality -/

mutual
/-- Not-a-number occurs in the value, at whatever depth. -/
def hasNaN : Value → Bool
  | number n => n.rank?.isNone
  | array items => itemsHaveNaN items
  | object fields => fieldsHaveNaN fields
  | _ => false

/-- Not-a-number occurs in one of the items. -/
def itemsHaveNaN : List Value → Bool
  | [] => false
  | v :: rest => v.hasNaN || itemsHaveNaN rest

/-- Not-a-number occurs in one of the fields. -/
def fieldsHaveNaN : List (String × Value) → Bool
  | [] => false
  | (_, v) :: rest => v.hasNaN || fieldsHaveNaN rest
end

/-- Items hold no not-a-number if none of them does. -/
theorem itemsHaveNaN_eq_false {items : List Value} :
    itemsHaveNaN items = false ↔ ∀ v ∈ items, v.hasNaN = false := by
  induction items with
  | nil => simp [itemsHaveNaN]
  | cons v rest ih => simp [itemsHaveNaN, ih]

/-- Fields hold no not-a-number if none of them does. -/
theorem fieldsHaveNaN_eq_false {fields : List (String × Value)} :
    fieldsHaveNaN fields = false ↔ ∀ field ∈ fields, field.2.hasNaN = false := by
  induction fields with
  | nil => simp [fieldsHaveNaN]
  | cons field rest ih =>
    obtain ⟨key, v⟩ := field
    rw [fieldsHaveNaN, Bool.or_eq_false_iff, ih, List.forall_mem_cons]

/-- Items are strictly equal when they are strictly equal one by one. -/
theorem strictItems_iff {xs ys : List Value} :
    strictItems xs ys = true ↔ List.Forall₂ (fun x y => x.strictEquals y = true) xs ys := by
  induction xs generalizing ys with
  | nil => cases ys <;> simp [strictItems]
  | cons x rest ih =>
    cases ys with
    | nil => simp [strictItems]
    | cons y others => rw [strictItems, Bool.and_eq_true, ih, List.forall₂_cons]

/-- Fields are found strictly among others when each of them has a strictly equal one under its
key. -/
theorem strictFields_iff {xs ys : List (String × Value)} :
    strictFields xs ys = true ↔
      ∀ field ∈ xs, ∃ w, ys.lookup field.1 = some w ∧ field.2.strictEquals w = true := by
  induction xs with
  | nil => simp [strictFields]
  | cons field rest ih =>
    obtain ⟨key, v⟩ := field
    rw [strictFields, Bool.and_eq_true, ih, List.forall_mem_cons]
    refine and_congr_left fun _ => ?_
    cases ys.lookup key <;> simp

/-- Strict equality is SameValueZero between values in which not-a-number does not occur. -/
theorem strictEquals_iff {a b : Value} :
    a.strictEquals b = true ↔ (a == b) = true ∧ a.hasNaN = false := by
  change a.strictEquals b = true ↔ a.same b = true ∧ a.hasNaN = false
  induction a using induct generalizing b with
  | undefined | null | bool | bigint | string | regex =>
    cases b <;> simp [strictEquals, hasNaN]
  | number n =>
    cases b with
    | number m => simp only [strictEquals, same, hasNaN, Number.equals_iff]
    | undefined | null | bool | bigint | string | regex | array | object =>
      simp [strictEquals, same]
  | array xs ih =>
    cases b with
    | array ys =>
      rw [strictEquals, strictItems_iff, same, sameItems_iff, hasNaN, itemsHaveNaN_eq_false,
        and_comm, ← List.forall₂_and_left]
      constructor <;> intro h <;> refine forall₂_mono_of_mem h fun x hx y _ hxy => ?_
      · exact ((ih x hx).1 hxy).symm
      · exact (ih x hx).2 hxy.symm
    | undefined | null | bool | number | bigint | string | regex | object =>
      simp [strictEquals, same]
  | object xs ih =>
    cases b with
    | object ys =>
      rw [strictEquals, same, Bool.and_eq_true, Bool.and_eq_true, strictFields_iff, sameFields_iff,
        hasNaN, fieldsHaveNaN_eq_false, and_assoc, ← forall₂_and]
      refine and_congr_right fun _ => forall₂_congr fun field hf => ?_
      constructor
      · rintro ⟨w, hw, hvw⟩
        obtain ⟨hsame, hnan⟩ := (ih field hf).1 hvw
        exact ⟨⟨w, hw, hsame⟩, hnan⟩
      · rintro ⟨⟨w, hw, hsame⟩, hnan⟩
        exact ⟨w, hw, (ih field hf).2 ⟨hsame, hnan⟩⟩
    | undefined | null | bool | number | bigint | string | regex | array =>
      simp [strictEquals, same]

/-- A value equal to one without not-a-number has none either. -/
theorem hasNaN_eq_false_of_beq {a b : Value} (ha : a.WellFormed) (hb : b.WellFormed)
    (h : (a == b) = true) (hnan : a.hasNaN = false) : b.hasNaN = false := by
  induction a using induct generalizing b with
  | undefined | null | bool | bigint | string | regex => cases beq_iff_same.1 h; rfl
  | number n =>
    cases beq_iff_same.1 h with
    | number hn =>
      rw [hasNaN, ← Number.sameValueZero_iff.1 hn]
      exact hnan
  | array xs ih =>
    cases beq_iff_same.1 h with
    | array hitems =>
      rw [wellFormed_array] at ha hb
      rw [hasNaN, itemsHaveNaN_eq_false] at hnan ⊢
      intro y hy
      obtain ⟨x, hx, hxy⟩ := exists_mem_of_forall₂ hitems hy
      exact ih x hx (ha x hx) (hb y hy) hxy (hnan x hx)
  | object xs ih =>
    cases beq_iff_same.1 h with
    | @object _ ys =>
      have hx := (wellFormed_object.1 ha).1
      have hy := (wellFormed_object.1 hb).1
      have hagree := (object_beq_iff hy hx).1 (beq_symm ha hb h)
      rw [hasNaN, fieldsHaveNaN_eq_false] at hnan ⊢
      intro field hf
      obtain ⟨v, hv, _⟩ := hagree.exists_of_lookup ((Fields.lookup_eq_some_iff hy).2 hf)
      obtain ⟨w, hw, hvw⟩ := ((object_beq_iff hx hy).1 h).exists_of_lookup hv
      rw [(Fields.lookup_eq_some_iff hy).2 hf, Option.some.injEq] at hw
      subst hw
      have hmem := Fields.mem_of_lookup hv
      exact ih _ hmem (wellFormed_of_lookup ha hv) ((wellFormed_object.1 hb).2 field hf) hvw
        (hnan _ hmem)

/-- Not-a-number occurs in equal values alike. -/
theorem hasNaN_congr {a b : Value} (ha : a.WellFormed) (hb : b.WellFormed) (h : (a == b) = true) :
    a.hasNaN = b.hasNaN := by
  have hiff : a.hasNaN = false ↔ b.hasNaN = false :=
    ⟨hasNaN_eq_false_of_beq ha hb h, hasNaN_eq_false_of_beq hb ha (beq_symm ha hb h)⟩
  cases hn : a.hasNaN with
  | false => exact (hiff.1 hn).symm
  | true => exact (eq_true_of_ne_false fun hb => by simp [hiff.2 hb] at hn).symm

/-- Equal values are strictly equal to the same values. -/
theorem strictEquals_congr {a a' b b' : Value} (ha : a.WellFormed) (ha' : a'.WellFormed)
    (hb : b.WellFormed) (hb' : b'.WellFormed) (h : (a == a') = true) (h' : (b == b') = true) :
    a.strictEquals b = a'.strictEquals b' := by
  rw [Bool.eq_iff_iff, strictEquals_iff, strictEquals_iff, hasNaN_congr ha ha' h,
    beq_congr_left ha ha' hb h, beq_congr_right hb hb' ha' h']

/-! ## Order -/

/-- Primitives that are equal, up to the sign of zero. -/
inductive SamePrimitive : Primitive → Primitive → Prop
  | text (s : String) : SamePrimitive (.text s) (.text s)
  | number {a b : Number} (h : a.sameValueZero b = true) : SamePrimitive (.number a) (.number b)
  | bigint (n : BigInt) : SamePrimitive (.bigint n) (.bigint n)

/-- Equal values are compared as the same primitive. -/
theorem samePrimitive_ofValue {a b : Value} (h : (a == b) = true) :
    SamePrimitive (.ofValue a) (.ofValue b) := by
  have htext := text_congr h
  have hnumber := toNumber_congr h
  cases beq_iff_same.1 h with
  | undefined | null | bool | number => exact .number hnumber
  | bigint n => exact .bigint n
  | string s => exact .text s
  | regex p => exact .text _
  | array | object =>
    simp only [Primitive.ofValue, htext]
    exact .text _

/-- The order of primitives does not see the sign of zero. -/
theorem order?_samePrimitive {a a' b b' : Primitive} (ha : SamePrimitive a a')
    (hb : SamePrimitive b b') : a.order? b = a'.order? b' := by
  cases ha with
  | text s =>
    cases hb with
    | text | bigint => rfl
    | number h =>
      simp only [Primitive.order?, Primitive.toNumber]
      exact Number.order?_congr (Number.sameValueZero_refl _) h
  | bigint n =>
    cases hb with
    | text | bigint => rfl
    | number h =>
      simp only [Primitive.order?, Primitive.toNumber]
      exact Number.order?_congr (Number.sameValueZero_refl _) h
  | number h =>
    cases hb with
    | text | bigint =>
      simp only [Primitive.order?, Primitive.toNumber]
      exact Number.order?_congr h (Number.sameValueZero_refl _)
    | number h' =>
      simp only [Primitive.order?, Primitive.toNumber]
      exact Number.order?_congr h h'

/-- Equal values compare alike. -/
theorem order?_congr {a a' b b' : Value} (h : (a == a') = true) (h' : (b == b') = true) :
    a.order? b = a'.order? b' :=
  order?_samePrimitive (samePrimitive_ofValue h) (samePrimitive_ofValue h')

end RecordQuery.Value

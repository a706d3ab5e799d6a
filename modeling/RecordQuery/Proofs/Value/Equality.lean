import RecordQuery.Proofs.Fields
import RecordQuery.Proofs.Number.Equality
import RecordQuery.Proofs.Value.Elements

/-!
# Equality of values

SameValueZero equality of values is an equivalence on well-formed values (`beq_refl`, `beq_symm`,
`beq_trans`). Distinct keys are what makes it one: objects are compared by looking up the fields of
the first in the second, and only where no key comes twice is that the same as agreement under
every key (`object_beq_iff`).
-/

namespace RecordQuery.Value

/-! ## Pointwise lists -/

/-- A pointwise relation may be weakened where it is used, at elements of the two lists. -/
theorem forall₂_mono_of_mem {α β : Type} {r s : α → β → Prop} {xs : List α} {ys : List β}
    (h : List.Forall₂ r xs ys) (hrs : ∀ x ∈ xs, ∀ y ∈ ys, r x y → s x y) :
    List.Forall₂ s xs ys := by
  induction h with
  | nil => exact .nil
  | cons hxy _ ih =>
    simp only [List.forall_mem_cons] at hrs
    exact .cons (hrs.1.1 hxy) (ih fun x hx y hy => (hrs.2 x hx).2 y hy)

/-- Every element of the second list is related to one of the first. -/
theorem exists_mem_of_forall₂ {α β : Type} {r : α → β → Prop} {xs : List α} {ys : List β} {y : β}
    (h : List.Forall₂ r xs ys) (hy : y ∈ ys) : ∃ x ∈ xs, r x y := by
  induction h with
  | nil => cases hy
  | cons hxy _ ih =>
    rcases List.mem_cons.1 hy with rfl | hy
    · exact ⟨_, .head _, hxy⟩
    · obtain ⟨x, hx, hr⟩ := ih hy
      exact ⟨x, .tail _ hx, hr⟩

/-- If each of a list has a companion, there is a list of companions. -/
theorem exists_forall₂ {α β : Type} {r : α → β → Prop} {xs : List α} (h : ∀ x ∈ xs, ∃ y, r x y) :
    ∃ ys, List.Forall₂ r xs ys := by
  induction xs with
  | nil => exact ⟨[], .nil⟩
  | cons x xs ih =>
    rw [List.forall_mem_cons] at h
    obtain ⟨y, hy⟩ := h.1
    obtain ⟨ys, hys⟩ := ih h.2
    exact ⟨y :: ys, .cons hy hys⟩

/-- Pointwise relations compose at the elements of the first list. -/
theorem forall₂_trans_of_mem {α β γ : Type} {r : α → β → Prop} {s : β → γ → Prop}
    {t : α → γ → Prop} {xs : List α} {ys : List β} {zs : List γ} (h : List.Forall₂ r xs ys)
    (h' : List.Forall₂ s ys zs)
    (hrst : ∀ x ∈ xs, ∀ y ∈ ys, ∀ z ∈ zs, r x y → s y z → t x z) : List.Forall₂ t xs zs := by
  induction h generalizing zs with
  | nil => cases h'; exact .nil
  | cons hxy _ ih =>
    cases h' with
    | cons hyz hrest =>
      refine .cons (hrst _ (.head _) _ (.head _) _ (.head _) hxy hyz) (ih hrest ?_)
      exact fun x hx y hy z hz => hrst x (.tail _ hx) y (.tail _ hy) z (.tail _ hz)

/-! ## Equality of containers -/

/-- Arrays are equal when their items are equal one by one. -/
theorem array_beq_iff {xs ys : List Value} :
    (array xs == array ys) = true ↔ List.Forall₂ (fun x y => (x == y) = true) xs ys :=
  sameItems_iff

/-- Well-formed objects are equal when they agree under every key. -/
theorem object_beq_iff {xs ys : List (String × Value)} (hx : (Fields.keys xs).Nodup)
    (hy : (Fields.keys ys).Nodup) :
    (object xs == object ys) = true ↔ Fields.Agree (fun x y => (x == y) = true) xs ys := by
  rw [Fields.agree_iff hx hy, beq_iff_same]
  constructor
  · intro h
    cases h with
    | object length h => exact ⟨length, h⟩
  · rintro ⟨length, h⟩
    exact .object length h

/-- What is found under a key of a well-formed object is well formed. -/
theorem wellFormed_of_lookup {fields : List (String × Value)} {key : String} {v : Value}
    (hf : (object fields).WellFormed) (h : fields.lookup key = some v) : v.WellFormed :=
  (wellFormed_object.1 hf).2 _ (Fields.mem_of_lookup h)

/-! ## Equivalence -/

/-- A well-formed value equals itself. -/
theorem beq_refl {v : Value} (hv : v.WellFormed) : (v == v) = true := by
  induction v using induct with
  | undefined | null | bool | bigint | string | regex => exact beq_iff_same.2 (by constructor)
  | number n => exact n.sameValueZero_refl
  | array items ih =>
    rw [wellFormed_array] at hv
    exact array_beq_iff.2 (List.forall₂_same.2 fun v hmem => ih v hmem (hv v hmem))
  | object fields ih =>
    rw [wellFormed_object] at hv
    rw [object_beq_iff hv.1 hv.1]
    intro key
    cases hl : fields.lookup key with
    | none => exact .none
    | some v =>
      have hmem := Fields.mem_of_lookup hl
      exact .some (ih _ hmem (hv.2 _ hmem))

/-- Equality of well-formed values goes both ways. -/
theorem beq_symm {a b : Value} (ha : a.WellFormed) (hb : b.WellFormed) (h : (a == b) = true) :
    (b == a) = true := by
  induction a using induct generalizing b with
  | undefined | null | bool | bigint | string | regex =>
    cases beq_iff_same.1 h
    exact h
  | number n =>
    cases beq_iff_same.1 h with
    | number h => exact Number.sameValueZero_iff.2 (Number.sameValueZero_iff.1 h).symm
  | array xs ih =>
    cases beq_iff_same.1 h with
    | array hitems =>
      rw [wellFormed_array] at ha hb
      refine array_beq_iff.2 (List.Forall₂.flip (forall₂_mono_of_mem hitems ?_))
      exact fun x hx y hy hxy => ih x hx (ha x hx) (hb y hy) hxy
  | object xs ih =>
    cases beq_iff_same.1 h with
    | @object _ ys =>
      have hx := (wellFormed_object.1 ha).1
      have hy := (wellFormed_object.1 hb).1
      rw [object_beq_iff hx hy] at h
      refine (object_beq_iff hy hx).2 fun key => ?_
      cases hxl : xs.lookup key with
      | none =>
        rw [h.lookup_eq_none hxl]
        exact .none
      | some v =>
        obtain ⟨w, hyl, hvw⟩ := h.exists_of_lookup hxl
        rw [hyl]
        exact .some (ih _ (Fields.mem_of_lookup hxl) (wellFormed_of_lookup ha hxl)
          (wellFormed_of_lookup hb hyl) hvw)

/-- Well-formed values that equal the same value are equal. -/
theorem beq_trans {a b c : Value} (ha : a.WellFormed) (hb : b.WellFormed) (hc : c.WellFormed)
    (hab : (a == b) = true) (hbc : (b == c) = true) : (a == c) = true := by
  induction a using induct generalizing b c with
  | undefined | null | bool | bigint | string | regex =>
    cases beq_iff_same.1 hab
    exact hbc
  | number n =>
    cases beq_iff_same.1 hab with
    | number hn =>
      cases beq_iff_same.1 hbc with
      | number hn' =>
        rw [Number.sameValueZero_iff] at hn hn'
        exact Number.sameValueZero_iff.2 (hn.trans hn')
  | array xs ih =>
    cases beq_iff_same.1 hab with
    | array hxy =>
      cases beq_iff_same.1 hbc with
      | array hyz =>
        rw [wellFormed_array] at ha hb hc
        refine array_beq_iff.2 (forall₂_trans_of_mem hxy hyz ?_)
        exact fun x hx y hy z hz => ih x hx (ha x hx) (hb y hy) (hc z hz)
  | object xs ih =>
    cases beq_iff_same.1 hab with
    | @object _ ys =>
      cases beq_iff_same.1 hbc with
      | @object _ zs =>
        have hx := (wellFormed_object.1 ha).1
        have hy := (wellFormed_object.1 hb).1
        have hz := (wellFormed_object.1 hc).1
        rw [object_beq_iff hx hy] at hab
        rw [object_beq_iff hy hz] at hbc
        refine (object_beq_iff hx hz).2 fun key => ?_
        cases hxl : xs.lookup key with
        | none =>
          rw [hbc.lookup_eq_none (hab.lookup_eq_none hxl)]
          exact .none
        | some v =>
          obtain ⟨w, hyl, hvw⟩ := hab.exists_of_lookup hxl
          obtain ⟨u, hzl, hwu⟩ := hbc.exists_of_lookup hyl
          rw [hzl]
          exact .some (ih _ (Fields.mem_of_lookup hxl) (wellFormed_of_lookup ha hxl)
            (wellFormed_of_lookup hb hyl) (wellFormed_of_lookup hc hzl) hvw hwu)

/-- Equal well-formed values are equal to the same values. -/
theorem beq_congr_left {a a' v : Value} (ha : a.WellFormed) (ha' : a'.WellFormed)
    (hv : v.WellFormed) (h : (a == a') = true) : (a == v) = (a' == v) :=
  Bool.eq_iff_iff.2 ⟨beq_trans ha' ha hv (beq_symm ha ha' h), beq_trans ha ha' hv h⟩

/-- Equal well-formed values are equal to the same values. -/
theorem beq_congr_right {a a' v : Value} (ha : a.WellFormed) (ha' : a'.WellFormed)
    (hv : v.WellFormed) (h : (a == a') = true) : (v == a) = (v == a') :=
  Bool.eq_iff_iff.2 ⟨(beq_trans hv ha ha' · h), (beq_trans hv ha' ha · (beq_symm ha ha' h))⟩

/-- A search in equal items for equal values has the same answer. -/
theorem any_beq_congr {xs ys : List Value} (hx : ∀ x ∈ xs, x.WellFormed)
    (hy : ∀ y ∈ ys, y.WellFormed) {v w : Value} (hv : v.WellFormed) (hw : w.WellFormed)
    (h : List.Forall₂ (fun x y => (x == y) = true) xs ys) (hvw : (v == w) = true) :
    xs.any (· == v) = ys.any (· == w) := by
  induction h with
  | nil => rfl
  | @cons x y _ _ hxy _ ih =>
    rw [List.forall_mem_cons] at hx hy
    rw [List.any_cons, List.any_cons, ih hx.2 hy.2, beq_congr_left hx.1 hy.1 hv hxy,
      beq_congr_right hv hw hy.1 hvw]

end RecordQuery.Value

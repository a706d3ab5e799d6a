import Mathlib.Data.List.Induction

/-!
# Distinct elements and their numbers

`List.eraseDups` keeps the first element of each class of equal ones, so what it keeps of a list it
keeps of a longer one, in the same places (`eraseDups_append`). The place at which an element of a
class is kept is the number of the class (`Numbers`), and where equality is an equivalence two
elements have one number just if they are equal (`Numbers.eq_iff`). Slots and declared sets are
numbered in this way.
-/

namespace RecordQuery

/-- Equality is an equivalence among the elements with a property. -/
structure EquivalenceOn {α : Type} [BEq α] (p : α → Prop) : Prop where
  refl : ∀ {a}, p a → (a == a) = true
  symm : ∀ {a b}, p a → p b → (a == b) = true → (b == a) = true
  trans : ∀ {a b c}, p a → p b → p c → (a == b) = true → (b == c) = true → (a == c) = true

namespace Distinct

variable {α β : Type} [BEq α] [BEq β]

/-! ## Adding one element -/

/-- Erasing on goes from what has been kept. -/
theorem loop_append (xs ys kept : List α) :
    List.eraseDupsBy.loop (· == ·) (xs ++ ys) kept =
      List.eraseDupsBy.loop (· == ·) ys (List.eraseDupsBy.loop (· == ·) xs kept).reverse := by
  induction xs generalizing kept with
  | nil => rw [List.nil_append, List.eraseDupsBy.loop, List.reverse_reverse]
  | cons x rest ih =>
    rw [List.cons_append, List.eraseDupsBy.loop, List.eraseDupsBy.loop]
    cases kept.any (x == ·) with
    | true => exact ih kept
    | false => exact ih (x :: kept)

/-- A further element is kept if nothing that is kept equals it. -/
theorem eraseDups_concat (xs : List α) (a : α) :
    (xs ++ [a]).eraseDups =
      if xs.eraseDups.any (a == ·) then xs.eraseDups else xs.eraseDups ++ [a] := by
  have hkept : List.eraseDupsBy.loop (· == ·) xs [] = xs.eraseDups := rfl
  rw [List.eraseDups, List.eraseDupsBy, loop_append, hkept, List.eraseDupsBy.loop, List.any_reverse]
  cases xs.eraseDups.any (a == ·) with
  | true => simp [List.eraseDupsBy.loop]
  | false => simp [List.eraseDupsBy.loop]

/-- What is kept of a list is kept of a longer one, in the same places. -/
theorem eraseDups_append (xs ys : List α) : xs.eraseDups <+: (xs ++ ys).eraseDups := by
  induction ys generalizing xs with
  | nil => exact (List.append_nil xs).symm ▸ List.prefix_refl _
  | cons y rest ih =>
    have hone : xs.eraseDups <+: (xs ++ [y]).eraseDups := by
      rw [eraseDups_concat]
      split
      · exact List.prefix_refl _
      · exact List.prefix_append _ _
    rw [List.append_cons]
    exact hone.trans (ih _)

/-- Only elements of the list are kept. -/
theorem mem_of_mem_eraseDups {xs : List α} {a : α} (h : a ∈ xs.eraseDups) : a ∈ xs := by
  induction xs using List.reverseRecOn with
  | nil => cases h
  | append_singleton xs x ih =>
    rw [eraseDups_concat] at h
    split at h
    · exact List.mem_append_left _ (ih h)
    · exact (List.mem_append.1 h).elim (List.mem_append_left _ ∘ ih) (List.mem_append_right _)

/-- Nothing that is kept equals what is kept before it. -/
theorem pairwise_eraseDups (xs : List α) :
    xs.eraseDups.Pairwise fun before after => (after == before) = false := by
  induction xs using List.reverseRecOn with
  | nil => exact .nil
  | append_singleton xs x ih =>
    rw [eraseDups_concat]
    split
    · exact ih
    · rename_i hnew
      rw [Bool.not_eq_true, List.any_eq_false] at hnew
      refine List.pairwise_append.2 ⟨ih, List.pairwise_singleton _ _, fun a ha b hb => ?_⟩
      rw [List.mem_singleton.1 hb]
      exact Bool.eq_false_iff.2 (hnew a ha)

/-- Where equality is identity, nothing is kept twice. -/
theorem nodup_eraseDups [LawfulBEq α] (xs : List α) : xs.eraseDups.Nodup :=
  (pairwise_eraseDups xs).imp fun hne => (beq_eq_false_iff_ne.1 hne).symm

/-- Elements may be erased after a partial function that keeps classes apart. -/
theorem eraseDups_filterMap {f : α → Option β}
    (hf : ∀ {a x}, f a = some x → ∀ b, (a == b) = (f b).any (x == ·)) (xs : List α) :
    (xs.filterMap f).eraseDups = xs.eraseDups.filterMap f := by
  induction xs using List.reverseRecOn with
  | nil => rfl
  | append_singleton xs a ih =>
    rw [List.filterMap_append, eraseDups_concat]
    cases hx : f a with
    | none =>
      rw [List.filterMap_cons_none hx, List.filterMap_nil, List.append_nil, ih]
      split
      · rfl
      · rw [List.filterMap_append, List.filterMap_cons_none hx, List.filterMap_nil,
          List.append_nil]
    | some x =>
      have hany : (xs.eraseDups.filterMap f).any (x == ·) = xs.eraseDups.any (a == ·) := by
        rw [List.any_filterMap]
        refine congrArg _ (funext fun b => ?_)
        rw [hf hx]
        cases f b <;> rfl
      rw [List.filterMap_cons_some hx, List.filterMap_nil, eraseDups_concat, ih, hany]
      split
      · rfl
      · rw [List.filterMap_append, List.filterMap_cons_some hx, List.filterMap_nil]

/-! ## Numbers -/

/-- The element belongs to the class with the number, among the classes of the list in the order of
their first elements. -/
def Numbers (xs : List α) (n : Nat) (a : α) : Prop :=
  ∃ kept, xs.eraseDups[n]? = some kept ∧ (kept == a) = true

/-- A class keeps its number when the list goes on. -/
theorem Numbers.append {xs : List α} {n : Nat} {a : α} (h : Numbers xs n a) (ys : List α) :
    Numbers (xs ++ ys) n a := by
  obtain ⟨kept, hn, heq⟩ := h
  obtain ⟨more, hmore⟩ := eraseDups_append xs ys
  refine ⟨kept, ?_, heq⟩
  rw [← hmore, List.getElem?_append_left (List.getElem?_eq_some_iff.1 hn).1]
  exact hn

/-- What is kept in two places is not equal. -/
theorem eq_of_getElem?_eraseDups {p : α → Prop} (h : EquivalenceOn p) {xs : List α}
    (hxs : ∀ x ∈ xs, p x) {n m : Nat} {a b : α} (ha : xs.eraseDups[n]? = some a)
    (hb : xs.eraseDups[m]? = some b) (hab : (a == b) = true) : n = m := by
  have hpa := hxs a (mem_of_mem_eraseDups (List.mem_of_getElem? ha))
  have hpb := hxs b (mem_of_mem_eraseDups (List.mem_of_getElem? hb))
  have hdistinct := List.pairwise_iff_getElem.1 (pairwise_eraseDups xs)
  obtain ⟨hn, rfl⟩ := List.getElem?_eq_some_iff.1 ha
  obtain ⟨hm, rfl⟩ := List.getElem?_eq_some_iff.1 hb
  rcases Nat.lt_trichotomy n m with hlt | rfl | hlt
  · exact absurd (h.symm hpa hpb hab) (Bool.eq_false_iff.1 (hdistinct n m hn hm hlt))
  · rfl
  · exact absurd hab (Bool.eq_false_iff.1 (hdistinct m n hm hn hlt))

/-- Two elements have one number just if they are equal. -/
theorem Numbers.eq_iff {p : α → Prop} (h : EquivalenceOn p) {xs : List α} (hxs : ∀ x ∈ xs, p x)
    {n m : Nat} {a b : α} (hpa : p a) (hpb : p b) (ha : Numbers xs n a) (hb : Numbers xs m b) :
    n = m ↔ (a == b) = true := by
  obtain ⟨kept, hn, hkept⟩ := ha
  obtain ⟨kept', hm, hkept'⟩ := hb
  have hp := hxs kept (mem_of_mem_eraseDups (List.mem_of_getElem? hn))
  have hp' := hxs kept' (mem_of_mem_eraseDups (List.mem_of_getElem? hm))
  constructor
  · rintro rfl
    obtain rfl := Option.some.inj (hn.symm.trans hm)
    exact h.trans hpa hp hpb (h.symm hp hpa hkept) hkept'
  · intro hab
    refine eq_of_getElem?_eraseDups h hxs hn hm ?_
    exact h.trans hp hpa hp' hkept (h.trans hpa hpb hp' hab (h.symm hp' hpb hkept'))

/-! ## Numbers of elements -/

/-- Distinct elements that each equal an element of a list are no more than that has. -/
theorem length_le {p : α → Prop} (h : EquivalenceOn p)
    {xs ys : List α} (hx : ∀ x ∈ xs, p x) (hy : ∀ y ∈ ys, p y)
    (hdistinct : xs.Pairwise fun a b => (b == a) = false)
    (hfound : ∀ x ∈ xs, ∃ y ∈ ys, (y == x) = true) : xs.length ≤ ys.length := by
  induction xs generalizing ys with
  | nil => exact Nat.zero_le _
  | cons x rest ih =>
    rw [List.forall_mem_cons] at hx hfound
    obtain ⟨hnew, hdistinct⟩ := List.pairwise_cons.1 hdistinct
    obtain ⟨⟨y, hmem, hyx⟩, hrest⟩ := hfound
    obtain ⟨before, after, rfl⟩ := List.append_of_mem hmem
    have hpy := hy y hmem
    -- what the rest equals is not this element, so it is left when this is taken away
    have hleft : ∀ z ∈ rest, ∃ w ∈ before ++ after, (w == z) = true := by
      intro z hz
      obtain ⟨w, hw, hwz⟩ := hrest z hz
      refine ⟨w, ?_, hwz⟩
      rcases List.mem_append.1 hw with hw | hw
      · exact List.mem_append_left _ hw
      · rcases List.mem_cons.1 hw with rfl | hw
        · have hpz := hx.2 z hz
          have hzx := h.trans hpz hpy hx.1 (h.symm hpy hpz hwz) hyx
          exact absurd hzx (Bool.eq_false_iff.1 (hnew z hz))
        · exact List.mem_append_right _ hw
    have hpleft : ∀ w ∈ before ++ after, p w := fun w hw =>
      hy w (by
        rcases List.mem_append.1 hw with hw | hw
        · exact List.mem_append_left _ hw
        · exact List.mem_append_right _ (.tail _ hw))
    have hlength := ih hx.2 hpleft hdistinct hleft
    rw [List.length_append] at hlength
    rw [List.length_cons, List.length_append, List.length_cons]
    omega

end Distinct

end RecordQuery

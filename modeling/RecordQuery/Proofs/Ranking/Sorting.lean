import RecordQuery.Proofs.Ranking.StableSort
import RecordQuery.Ranking.Sorting

/-!
# Sorting by insertion and by merging

Whatever the comparison says, sorting loses nothing and adds nothing (`sort_perm`). An element that
is inserted in a list in order leaves it in order (`ordered_insert`) and stands behind those that it
ties with (`tied_insert`), so by a preorder a list is stably sorted when its elements are inserted
one after the other (`stablySorted_byInsertion`). Merging asks the same question, so a list of any
length is stably sorted (`stablySorted_sort`), as it is by the library's merge sort
(`sort_eq_mergeSort`).
-/

namespace RecordQuery.Sorting

variable {α : Type} {cmp : α → α → Ordering} {p : α → Prop} {x : α} {xs sorted : List α}

/-! ## Insertion

What is sorted so far is held from its last element to its first, so it is in order if no element
comes after the ones in front of it.
-/

/-- Inserting adds the element. -/
theorem insert_perm (cmp : α → α → Ordering) (x : α) (xs : List α) :
    (insert cmp x xs).Perm (x :: xs) := by
  induction xs with
  | nil => exact .refl _
  | cons y earlier ih =>
    rw [insert]
    split
    · exact (ih.cons y).trans (.swap x y earlier)
    · exact .refl _

/-- What holds of the element and of those of the list holds of all of them. -/
theorem forall_mem_insert (hx : p x) (hp : ∀ a ∈ xs, p a) : ∀ a ∈ insert cmp x xs, p a := by
  intro a ha
  rcases List.mem_cons.1 ((insert_perm cmp x xs).mem_iff.1 ha) with rfl | hmem
  · exact hx
  · exact hp a hmem

/-- Inserting adds the elements. -/
theorem foldl_insert_perm (cmp : α → α → Ordering) (xs sorted : List α) :
    (xs.foldl (fun sorted x => insert cmp x sorted) sorted).Perm (xs.reverse ++ sorted) := by
  induction xs generalizing sorted with
  | nil => exact .refl _
  | cons x xs ih =>
    rw [List.foldl_cons, List.reverse_cons, List.append_assoc, List.singleton_append]
    exact (ih _).trans ((insert_perm cmp x sorted).append_left _)

/-- What is sorted by insertion is a permutation. -/
theorem byInsertion_perm (cmp : α → α → Ordering) (xs : List α) : (byInsertion cmp xs).Perm xs := by
  have hperm := foldl_insert_perm cmp xs []
  rw [List.append_nil] at hperm
  exact (List.reverse_perm _).trans (hperm.trans (List.reverse_perm xs))

section
variable (h : PreordersOn cmp p)
include h

/-- An element inserted in a list in order leaves it in order. -/
theorem ordered_insert (hx : p x) (hp : ∀ a ∈ sorted, p a)
    (hordered : sorted.Pairwise fun a b => cmp b a ≠ .gt) :
    (insert cmp x sorted).Pairwise fun a b => cmp b a ≠ .gt := by
  induction sorted with
  | nil => exact List.pairwise_singleton _ _
  | cons y earlier ih =>
    obtain ⟨hy, hearlier⟩ := List.pairwise_cons.1 hordered
    obtain ⟨hpy, hpearlier⟩ := List.forall_mem_cons.1 hp
    rw [insert]
    split
    · rename_i hlt
      have hxy : cmp x y ≠ .gt := by simp [hlt]
      exact List.pairwise_cons.2 ⟨forall_mem_insert hxy hy, ih hpearlier hearlier⟩
    · rename_i hge
      have hyx : cmp y x ≠ .gt := by
        rw [h.swap x y hx hpy]
        cases hxy : cmp x y with
        | lt => exact absurd hxy hge
        | eq | gt => decide
      refine List.pairwise_cons.2 ⟨?_, hordered⟩
      intro b hb
      rcases List.mem_cons.1 hb with rfl | hmem
      · exact hyx
      · exact h.trans b y x (hpearlier b hmem) hpy hx (hy b hmem) hyx

/-- An element inserted in a list stands behind those that it ties with. -/
theorem tied_insert (hx : p x) (hp : ∀ a ∈ sorted, p a) {a : α} (ha : p a) :
    tied cmp a (insert cmp x sorted) = tied cmp a (x :: sorted) := by
  induction sorted with
  | nil => rfl
  | cons y earlier ih =>
    obtain ⟨hpy, hpearlier⟩ := List.forall_mem_cons.1 hp
    rw [insert]
    split
    · rename_i hlt
      rw [tied_cons, ih hpearlier, tied_cons, tied_cons, tied_cons]
      by_cases hax : cmp a x = .eq
      · -- what ties with the element does not tie with one that the element goes before
        have hay : cmp a y ≠ .eq := by
          rw [h.compare_congr_left ha hx hpy hax, hlt]
          decide
        rw [if_neg hay, if_neg hay]
      · rw [if_neg hax, if_neg hax]
    · rfl

/-- Elements inserted in a list in order leave it in order. -/
theorem ordered_foldl_insert (hp : ∀ a ∈ xs, p a) (hsorted : ∀ a ∈ sorted, p a)
    (hordered : sorted.Pairwise fun a b => cmp b a ≠ .gt) :
    (xs.foldl (fun sorted x => insert cmp x sorted) sorted).Pairwise
      fun a b => cmp b a ≠ .gt := by
  induction xs generalizing sorted with
  | nil => exact hordered
  | cons x xs ih =>
    obtain ⟨hx, hxs⟩ := List.forall_mem_cons.1 hp
    exact ih hxs (forall_mem_insert hx hsorted) (ordered_insert h hx hsorted hordered)

/-- Elements inserted in a list stand behind those that they tie with. -/
theorem tied_foldl_insert (hp : ∀ a ∈ xs, p a) (hsorted : ∀ a ∈ sorted, p a) {a : α}
    (ha : p a) :
    tied cmp a (xs.foldl (fun sorted x => insert cmp x sorted) sorted) =
      tied cmp a (xs.reverse ++ sorted) := by
  induction xs generalizing sorted with
  | nil => rfl
  | cons x xs ih =>
    obtain ⟨hx, hxs⟩ := List.forall_mem_cons.1 hp
    rw [List.foldl_cons, ih hxs (forall_mem_insert hx hsorted), List.reverse_cons, List.append_assoc,
      List.singleton_append, tied_append, tied_insert h hx hsorted ha, ← tied_append]

end

/-- Inserting the elements one after the other is sorting stably. -/
theorem stablySorted_byInsertion (h : PreordersOn cmp (· ∈ xs)) :
    StablySorted cmp xs (byInsertion cmp xs) := by
  refine ⟨byInsertion_perm cmp xs, ?_, ?_⟩
  · exact List.pairwise_reverse.2 (ordered_foldl_insert h (fun _ => id) (by simp) .nil)
  · intro a ha
    rw [byInsertion, tied_reverse, tied_foldl_insert h (fun _ => id) (by simp) ha,
      List.append_nil, tied_reverse, List.reverse_reverse]

/-! ## Sorting -/

/-- The elements of a sorted list are those of the list, whatever the comparison. -/
theorem sort_perm (cmp : α → α → Ordering) (xs : List α) : (sort cmp xs).Perm xs := by
  rw [sort]
  split
  · exact byInsertion_perm cmp xs
  · exact List.mergeSort_perm xs _

/-- What becomes of a list is settled: by the questions of insertion if it is short, and otherwise
by the comparison, which is a total preorder of its elements. -/
def Settled (cmp : α → α → Ordering) (xs : List α) : Prop :=
  xs.length ≤ insertionLimit ∨ PreordersOn cmp (· ∈ xs)

/-- Merging by questions that have the same answers on the elements gives the same list. -/
theorem mergeSort_congr {le le' : α → α → Bool} (h : ∀ a ∈ xs, ∀ b ∈ xs, le a b = le' a b) :
    xs.mergeSort le = xs.mergeSort le' := by
  have hmap := List.map_mergeSort (f := id) (s := le') h
  rwa [List.map_id, List.map_id] at hmap

/-- By a total preorder of its elements, a list of any length is sorted as the library's merge sort
sorts it. -/
theorem sort_eq_mergeSort (h : PreordersOn cmp (· ∈ xs)) :
    sort cmp xs = xs.mergeSort fun a b => (cmp a b).isLE := by
  rw [sort]
  split
  · exact (stablySorted_byInsertion h).unique h (stablySorted_mergeSort h)
  · refine mergeSort_congr fun a ha b hb => ?_
    rw [h.swap a b ha hb]
    cases cmp a b <;> rfl

/-- By a total preorder of its elements, a list of any length is stably sorted. -/
theorem stablySorted_sort (h : PreordersOn cmp (· ∈ xs)) : StablySorted cmp xs (sort cmp xs) := by
  rw [sort_eq_mergeSort h]
  exact stablySorted_mergeSort h

/-- By a preorder in which only equal elements tie, every permutation of a list is sorted alike. -/
theorem sort_eq_of_perm {ys : List α} (h : PreordersOn cmp (· ∈ xs))
    (heq : ∀ a b, a ∈ xs → b ∈ xs → cmp a b = .eq → a = b) (hperm : ys.Perm xs) :
    sort cmp ys = sort cmp xs := by
  have hxs := stablySorted_sort h
  have hys := stablySorted_sort (h.mono fun a ha => hperm.mem_iff.1 ha)
  have hsorted := hys.perm.trans hperm
  refine List.Perm.eq_of_pairwise ?_ hys.ordered hxs.ordered (hsorted.trans hxs.perm.symm)
  intro a b ha hb hab hba
  have hax : a ∈ xs := hsorted.mem_iff.1 ha
  have hbx : b ∈ xs := hxs.perm.mem_iff.1 hb
  exact heq a b hax hbx (h.eq_of_ne_gt hax hbx hab hba)

/-! ## Lists in order -/

/-- Elements that go before none of those in front of them are inserted where they stand. -/
theorem foldl_insert_of_ordered
    (hordered : (sorted.reverse ++ xs).Pairwise fun a b => cmp b a ≠ .lt) :
    xs.foldl (fun sorted x => insert cmp x sorted) sorted = xs.reverse ++ sorted := by
  induction xs generalizing sorted with
  | nil => rfl
  | cons x xs ih =>
    have hinsert : insert cmp x sorted = x :: sorted := by
      cases sorted with
      | nil => rfl
      | cons y earlier =>
        have hxy := (List.pairwise_append.1 hordered).2.2 y (by simp) x (by simp)
        exact if_neg hxy
    have hordered' : ((x :: sorted).reverse ++ xs).Pairwise fun a b => cmp b a ≠ .lt := by
      rwa [List.reverse_cons, List.append_assoc, List.singleton_append]
    rw [List.foldl_cons, hinsert, ih hordered', List.reverse_cons, List.append_assoc,
      List.singleton_append]

/-- A list in order is left as it is, whatever the comparison. -/
theorem sort_of_ordered (hordered : xs.Pairwise fun a b => cmp b a ≠ .lt) : sort cmp xs = xs := by
  rw [sort]
  split
  · rw [byInsertion, foldl_insert_of_ordered hordered, List.append_nil, List.reverse_reverse]
  · exact List.mergeSort_of_pairwise (hordered.imp bne_iff_ne.2)

/-! ## Sorting what is mapped -/

section
variable {β : Type} {cmp' : β → β → Ordering} {f : α → β} (h : ∀ a b, cmp' (f a) (f b) = cmp a b)
include h

/-- Inserting an image is the image of inserting. -/
theorem insert_map (x : α) (xs : List α) :
    insert cmp' (f x) (xs.map f) = (insert cmp x xs).map f := by
  induction xs with
  | nil => rfl
  | cons y earlier ih =>
    rw [List.map_cons, insert, insert, h]
    split
    · rw [ih, List.map_cons]
    · rfl

/-- Inserting images is the image of inserting. -/
theorem foldl_insert_map (xs sorted : List α) :
    (xs.map f).foldl (fun sorted x => insert cmp' x sorted) (sorted.map f) =
      (xs.foldl (fun sorted x => insert cmp x sorted) sorted).map f := by
  induction xs generalizing sorted with
  | nil => rfl
  | cons x xs ih => rw [List.map_cons, List.foldl_cons, List.foldl_cons, insert_map h, ih]

/-- Images that compare as the elements do are sorted as these are. -/
theorem sort_map (xs : List α) : sort cmp' (xs.map f) = (sort cmp xs).map f := by
  rw [sort, sort, List.length_map]
  split
  · rw [byInsertion, byInsertion, List.map_reverse, ← foldl_insert_map h, List.map_nil]
  · refine (List.map_mergeSort ?_).symm
    intro a _ b _
    rw [h]

end

end RecordQuery.Sorting

import Mathlib.Data.List.Sort

/-!
# Stable sorting by comparisons

A comparison may put some elements in order and not others, so what is known of it is known on a
property (`PreordersOn`). By a comparison that puts the elements of a list in order, there is one
permutation of the list that is in order and keeps the order of elements that tie
(`StablySorted.unique`), and merging finds it (`stablySorted_mergeSort`). A list that is sorted by
one comparison and then by another is sorted by the second with the first to break its ties
(`StablySorted.lex`).
-/

namespace RecordQuery

variable {α β : Type} {cmp cmp₁ cmp₂ : α → α → Ordering} {p : α → Prop}

/-! ## Total preorders -/

/-- The comparison is a total preorder of the elements with the property. -/
structure PreordersOn (cmp : α → α → Ordering) (p : α → Prop) : Prop where
  /-- An element ties with itself. -/
  refl : ∀ a, p a → cmp a a = .eq
  /-- Comparing the other way round reverses the answer. -/
  swap : ∀ a b, p a → p b → cmp b a = (cmp a b).swap
  /-- What does not come after the second, which does not come after the third, does not come after
  the third. -/
  trans : ∀ a b c, p a → p b → p c → cmp a b ≠ .gt → cmp b c ≠ .gt → cmp a c ≠ .gt

/-- A comparison does not answer greater exactly if it answers less or equal. -/
theorem isLE_iff_ne_gt {o : Ordering} : o.isLE = true ↔ o ≠ .gt := by
  cases o <;> simp

/-- Only equal is its own reverse. -/
theorem eq_of_eq_swap {o : Ordering} (h : o = o.swap) : o = .eq := by
  cases o with
  | lt | gt => cases h
  | eq => rfl

/-- A comparison is a preorder of elements as the library has it of the type of these elements. -/
theorem preordersOn_iff_transCmp :
    PreordersOn cmp p ↔ Std.TransCmp fun a b : {a // p a} => cmp a.1 b.1 := by
  constructor
  · intro h
    refine { eq_swap := ?_, isLE_trans := ?_ }
    · intro a b
      exact h.swap b.1 a.1 b.2 a.2
    · intro a b c hab hbc
      rw [isLE_iff_ne_gt] at hab hbc ⊢
      exact h.trans a.1 b.1 c.1 a.2 b.2 c.2 hab hbc
  · intro h
    refine ⟨?_, ?_, ?_⟩
    · intro a ha
      exact eq_of_eq_swap (h.eq_swap (a := ⟨a, ha⟩) (b := ⟨a, ha⟩))
    · intro a b ha hb
      exact h.eq_swap (a := ⟨b, hb⟩) (b := ⟨a, ha⟩)
    · intro a b c ha hb hc hab hbc
      rw [← isLE_iff_ne_gt] at hab hbc ⊢
      exact h.isLE_trans (a := ⟨a, ha⟩) (b := ⟨b, hb⟩) (c := ⟨c, hc⟩) hab hbc

/-- Whether a comparison is a preorder of the elements of a list is decided by trying them all. -/
instance {xs : List α} : Decidable (PreordersOn cmp (· ∈ xs)) :=
  decidable_of_iff
    ((∀ a ∈ xs, cmp a a = .eq) ∧ (∀ a ∈ xs, ∀ b ∈ xs, cmp b a = (cmp a b).swap) ∧
      ∀ a ∈ xs, ∀ b ∈ xs, ∀ c ∈ xs, cmp a b ≠ .gt → cmp b c ≠ .gt → cmp a c ≠ .gt)
    ⟨fun ⟨hrefl, hswap, htrans⟩ => ⟨hrefl, fun a b ha hb => hswap a ha b hb,
        fun a b c ha hb hc => htrans a ha b hb c hc⟩,
      fun h => ⟨h.refl, fun a ha b hb => h.swap a b ha hb,
        fun a ha b hb c hc => h.trans a b c ha hb hc⟩⟩

namespace PreordersOn

/-- A comparison is a preorder of fewer elements. -/
theorem mono {q : α → Prop} (h : PreordersOn cmp p) (hqp : ∀ a, q a → p a) : PreordersOn cmp q := by
  refine ⟨?_, ?_, ?_⟩
  · intro a ha
    exact h.refl a (hqp a ha)
  · intro a b ha hb
    exact h.swap a b (hqp a ha) (hqp b hb)
  · intro a b c ha hb hc
    exact h.trans a b c (hqp a ha) (hqp b hb) (hqp c hc)

/-- What compares like a preorder is one. -/
theorem congr (h : PreordersOn cmp₁ p) (hcmp : ∀ a b, p a → p b → cmp a b = cmp₁ a b) :
    PreordersOn cmp p := by
  refine ⟨?_, ?_, ?_⟩
  · intro a ha
    rw [hcmp a a ha ha]
    exact h.refl a ha
  · intro a b ha hb
    rw [hcmp b a hb ha, hcmp a b ha hb]
    exact h.swap a b ha hb
  · intro a b c ha hb hc hab hbc
    rw [hcmp a b ha hb] at hab
    rw [hcmp b c hb hc] at hbc
    rw [hcmp a c ha hc]
    exact h.trans a b c ha hb hc hab hbc

/-- Comparing keys is a preorder of elements whose keys it is a preorder of. -/
theorem comap {cmp : β → β → Ordering} {q : β → Prop} (h : PreordersOn cmp q) (key : α → β)
    (hkey : ∀ a, p a → q (key a)) : PreordersOn (fun a b => cmp (key a) (key b)) p := by
  refine ⟨?_, ?_, ?_⟩
  · intro a ha
    exact h.refl _ (hkey a ha)
  · intro a b ha hb
    exact h.swap _ _ (hkey a ha) (hkey b hb)
  · intro a b c ha hb hc
    exact h.trans _ _ _ (hkey a ha) (hkey b hb) (hkey c hc)

/-- Comparing keys in an ordered type is a preorder. -/
theorem of_key [Ord β] [Std.TransOrd β] (key : α → β) (p : α → Prop) :
    PreordersOn (fun a b => compare (key a) (key b)) p := by
  have hord : PreordersOn (compare : β → β → Ordering) fun _ => True := by
    refine ⟨?_, ?_, ?_⟩
    · intro a _
      exact Std.ReflCmp.compare_self
    · intro a b _ _
      exact Std.OrientedCmp.eq_swap
    · intro a b c _ _ _ hab hbc
      rw [← isLE_iff_ne_gt] at hab hbc ⊢
      exact Std.TransCmp.isLE_trans hab hbc
  exact hord.comap key fun _ _ => trivial

/-- Letting everything tie is a preorder. -/
theorem tie (p : α → Prop) : PreordersOn (fun _ _ => .eq) p := of_key (fun _ => ()) p

/-- The reverse of a preorder is one. -/
theorem reverse (h : PreordersOn cmp p) : PreordersOn (fun a b => (cmp a b).swap) p := by
  refine ⟨?_, ?_, ?_⟩
  · intro a ha
    rw [h.refl a ha]
    rfl
  · intro a b ha hb
    rw [h.swap a b ha hb]
  · intro a b c ha hb hc hab hbc
    rw [← h.swap a b ha hb] at hab
    rw [← h.swap b c hb hc] at hbc
    rw [← h.swap a c ha hc]
    exact h.trans c b a hc hb ha hbc hab

/-- Breaking the ties of a preorder by another gives a preorder. -/
theorem lex (h₁ : PreordersOn cmp₁ p) (h₂ : PreordersOn cmp₂ p) :
    PreordersOn (fun a b => (cmp₁ a b).then (cmp₂ a b)) p := by
  rw [preordersOn_iff_transCmp] at h₁ h₂ ⊢
  exact inferInstanceAs (Std.TransCmp (compareLex (fun a b : {a // p a} => cmp₁ a.1 b.1)
    fun a b : {a // p a} => cmp₂ a.1 b.1))

/-- Elements neither of which goes after the other tie. -/
theorem eq_of_ne_gt (h : PreordersOn cmp p) {a b : α} (ha : p a) (hb : p b) (hab : cmp a b ≠ .gt)
    (hba : cmp b a ≠ .gt) : cmp a b = .eq := by
  rw [h.swap a b ha hb] at hba
  cases hcmp : cmp a b with
  | lt => simp [hcmp] at hba
  | eq => rfl
  | gt => exact absurd hcmp hab

/-- Elements that tie compare alike with any other. -/
theorem compare_congr_left (h : PreordersOn cmp p) {a b c : α} (ha : p a) (hb : p b) (hc : p c)
    (hab : cmp a b = .eq) : cmp a c = cmp b c := by
  have htrans := preordersOn_iff_transCmp.1 h
  exact htrans.congr_left (a := ⟨a, ha⟩) (b := ⟨b, hb⟩) (c := ⟨c, hc⟩) hab

end PreordersOn

/-! ## Stable sorting -/

/-- The elements of a list that tie with a given one, in their order. -/
def tied (cmp : α → α → Ordering) (a : α) (xs : List α) : List α :=
  xs.filter fun b => cmp a b == .eq

/-- Only the element itself is asked whether it ties. -/
theorem tied_cons (cmp : α → α → Ordering) (a b : α) (xs : List α) :
    tied cmp a (b :: xs) = if cmp a b = .eq then b :: tied cmp a xs else tied cmp a xs := by
  simp [tied, List.filter_cons]

/-- Of two lists those elements tie that tie of either. -/
theorem tied_append (cmp : α → α → Ordering) (a : α) (xs ys : List α) :
    tied cmp a (xs ++ ys) = tied cmp a xs ++ tied cmp a ys :=
  List.filter_append _ _

/-- In reverse the elements that tie stand in reverse. -/
theorem tied_reverse (cmp : α → α → Ordering) (a : α) (xs : List α) :
    tied cmp a xs.reverse = (tied cmp a xs).reverse :=
  List.filter_reverse

/-- With broken ties those elements tie that tie in both orders. -/
theorem tied_lex (cmp₁ cmp₂ : α → α → Ordering) (a : α) (xs : List α) :
    tied (fun a b => (cmp₁ a b).then (cmp₂ a b)) a xs = tied cmp₁ a (tied cmp₂ a xs) := by
  rw [tied, tied, tied, List.filter_filter]
  refine List.filter_congr ?_
  intro b _
  cases cmp₁ a b <;> cases cmp₂ a b <;> rfl

/-- It does not matter in which order is asked first. -/
theorem tied_comm (cmp₁ cmp₂ : α → α → Ordering) (a : α) (xs : List α) :
    tied cmp₁ a (tied cmp₂ a xs) = tied cmp₂ a (tied cmp₁ a xs) := by
  rw [tied, tied, tied, tied, List.filter_filter, List.filter_filter]
  refine List.filter_congr ?_
  intro b _
  exact Bool.and_comm _ _

variable {xs ys : List α}

/-- Sorting a list is sorting its elements as elements of the list. -/
theorem map_mergeSort_attach (cmp : α → α → Ordering) (xs : List α) :
    (xs.attach.mergeSort fun a b => (cmp a.1 b.1).isLE).map Subtype.val =
      xs.mergeSort fun a b => (cmp a b).isLE := by
  rw [List.map_mergeSort (s := fun a b => (cmp a b).isLE) (fun _ _ _ _ => rfl),
    List.attach_map_subtype_val]

section
variable (h : PreordersOn cmp (· ∈ xs))
include h

/-- The comparison is transitive on the elements of the list. -/
theorem isLE_trans_attach (a b c : {a // a ∈ xs}) (hab : (cmp a.1 b.1).isLE = true)
    (hbc : (cmp b.1 c.1).isLE = true) : (cmp a.1 c.1).isLE = true := by
  rw [isLE_iff_ne_gt] at hab hbc ⊢
  exact h.trans a.1 b.1 c.1 a.2 b.2 c.2 hab hbc

/-- The comparison decides between any two elements of the list. -/
theorem isLE_total_attach (a b : {a // a ∈ xs}) :
    ((cmp a.1 b.1).isLE || (cmp b.1 a.1).isLE) = true := by
  rw [h.swap a.1 b.1 a.2 b.2]
  cases cmp a.1 b.1 <;> rfl

/-- A list that is sorted by a preorder of its elements is in order. -/
theorem ordered_mergeSort :
    (xs.mergeSort fun a b => (cmp a b).isLE).Pairwise fun a b => cmp a b ≠ .gt := by
  rw [← map_mergeSort_attach, List.pairwise_map]
  have hsorted := List.pairwise_mergeSort (isLE_trans_attach h) (isLE_total_attach h) xs.attach
  exact hsorted.imp isLE_iff_ne_gt.1

/-- What stands in order in a list stands so in the sorted list. -/
theorem sublist_mergeSort_of_ordered {part : List α} (hpart : part.Sublist xs)
    (hordered : part.Pairwise fun a b => cmp a b ≠ .gt) :
    part.Sublist (xs.mergeSort fun a b => (cmp a b).isLE) := by
  rw [← List.attach_map_subtype_val xs] at hpart
  obtain ⟨kept, hkept, rfl⟩ := List.sublist_map_iff.1 hpart
  rw [List.pairwise_map] at hordered
  rw [← map_mergeSort_attach]
  exact (List.sublist_mergeSort (isLE_trans_attach h) (isLE_total_attach h)
    (hordered.imp isLE_iff_ne_gt.2) hkept).map _

/-- Elements that tie stay in their order when the list is sorted. -/
theorem tied_mergeSort {a : α} (ha : a ∈ xs) :
    tied cmp a (xs.mergeSort fun a b => (cmp a b).isLE) = tied cmp a xs := by
  have hordered : (tied cmp a xs).Pairwise fun b c => cmp b c ≠ .gt := by
    refine List.pairwise_of_forall_mem_list ?_
    intro b hb c hc
    obtain ⟨hbx, hab⟩ := List.mem_filter.1 hb
    obtain ⟨hcx, hac⟩ := List.mem_filter.1 hc
    rw [← h.compare_congr_left ha hbx hcx (eq_of_beq hab), eq_of_beq hac]
    decide
  have hsublist := sublist_mergeSort_of_ordered h List.filter_sublist hordered
  have hagain : tied cmp a (tied cmp a xs) = tied cmp a xs := by
    simp only [tied, List.filter_filter, Bool.and_self]
  have htied := hsublist.filter fun b => cmp a b == .eq
  rw [← tied, ← tied, hagain] at htied
  have hlength := ((List.mergeSort_perm xs fun a b => (cmp a b).isLE).filter fun b =>
    cmp a b == .eq).length_eq
  exact (htied.eq_of_length hlength.symm).symm

end

/-- No element of a list in order goes before the head. -/
theorem ne_gt_of_mem_cons {x : α} (hself : cmp x x = .eq)
    (hx : (x :: xs).Pairwise fun a b => cmp a b ≠ .gt) {b : α} (hb : b ∈ x :: xs) :
    cmp x b ≠ .gt := by
  rcases List.mem_cons.1 hb with rfl | hmem
  · rw [hself]
    decide
  · exact (List.pairwise_cons.1 hx).1 b hmem

/-- Two permutations of a list that are in order and keep the order of elements that tie are one. -/
theorem eq_of_perm_of_ordered (h : PreordersOn cmp (· ∈ xs)) (hperm : xs.Perm ys)
    (hx : xs.Pairwise fun a b => cmp a b ≠ .gt) (hy : ys.Pairwise fun a b => cmp a b ≠ .gt)
    (htied : ∀ a ∈ xs, tied cmp a xs = tied cmp a ys) : xs = ys := by
  induction xs generalizing ys with
  | nil => exact hperm.nil_eq
  | cons x xs ih =>
    cases ys with
    | nil => exact hperm.eq_nil
    | cons y ys =>
      have hxmem : x ∈ y :: ys := hperm.mem_iff.1 (.head _)
      have hymem : y ∈ x :: xs := hperm.mem_iff.2 (.head _)
      -- each of the two heads is a least element, so they tie
      have hxy : cmp x y ≠ .gt := ne_gt_of_mem_cons (h.refl x (.head _)) hx hymem
      have hyx : cmp y x ≠ .gt := ne_gt_of_mem_cons (h.refl y hymem) hy hxmem
      have htie : cmp x y = .eq := h.eq_of_ne_gt (.head _) hymem hxy hyx
      have hhead := htied x (.head _)
      rw [tied_cons, tied_cons, if_pos (h.refl x (.head _)), if_pos htie] at hhead
      obtain ⟨rfl, _⟩ := List.cons.inj hhead
      have hrest : xs = ys := by
        refine ih (h.mono fun a ha => .tail _ ha) (List.perm_cons x |>.1 hperm) hx.of_cons
          hy.of_cons ?_
        intro a ha
        have ha' := htied a (.tail _ ha)
        rw [tied_cons, tied_cons] at ha'
        split at ha'
        · exact (List.cons.inj ha').2
        · exact ha'
      rw [hrest]

/-- The list holds the elements of another one in order, and those that tie as they stand there. -/
structure StablySorted (cmp : α → α → Ordering) (xs sorted : List α) : Prop where
  /-- It is a permutation of the other. -/
  perm : sorted.Perm xs
  /-- No element comes after one that stands behind it. -/
  ordered : sorted.Pairwise fun a b => cmp a b ≠ .gt
  /-- Elements that tie with an element keep their order. -/
  tied_eq : ∀ a ∈ xs, tied cmp a sorted = tied cmp a xs

/-- Sorting by a preorder is stable. -/
theorem stablySorted_mergeSort (h : PreordersOn cmp (· ∈ xs)) :
    StablySorted cmp xs (xs.mergeSort fun a b => (cmp a b).isLE) :=
  ⟨List.mergeSort_perm _ _, ordered_mergeSort h, fun _ ha => tied_mergeSort h ha⟩

namespace StablySorted

variable {zs : List α}

/-- There is one way to sort a list stably by a preorder. -/
theorem unique (h : PreordersOn cmp (· ∈ xs)) (hy : StablySorted cmp xs ys)
    (hz : StablySorted cmp xs zs) : ys = zs := by
  have hmem : ∀ a ∈ ys, a ∈ xs := fun a ha => hy.perm.mem_iff.1 ha
  refine eq_of_perm_of_ordered (h.mono hmem) (hy.perm.trans hz.perm.symm) hy.ordered hz.ordered ?_
  intro a ha
  rw [hy.tied_eq a (hmem a ha), hz.tied_eq a (hmem a ha)]

/-- A list in order is sorted as it is. -/
theorem of_ordered (h : xs.Pairwise fun a b => cmp a b ≠ .gt) : StablySorted cmp xs xs :=
  ⟨.refl _, h, fun _ _ => rfl⟩

/-- A list that is sorted by one comparison and then by a preorder is sorted by the preorder, with
the comparison to break its ties. -/
theorem lex (h₁ : PreordersOn cmp₁ (· ∈ xs)) (hy : StablySorted cmp₂ xs ys)
    (hz : StablySorted cmp₁ ys zs) :
    StablySorted (fun a b => (cmp₁ a b).then (cmp₂ a b)) xs zs := by
  have hperm := hz.perm.trans hy.perm
  refine ⟨hperm, ?_, ?_⟩
  · refine List.pairwise_iff_forall_sublist.2 ?_
    intro a b hab
    have hne := List.pairwise_iff_forall_sublist.1 hz.ordered hab
    cases hcmp : cmp₁ a b with
    | gt => exact absurd hcmp hne
    | lt => simp
    | eq =>
      -- the two tie in the second sorting, so they stand as the first one left them
      have ha : a ∈ xs := hperm.mem_iff.1 (hab.subset (.head _))
      have hpair : [a, b].Sublist (tied cmp₁ a zs) := by
        have hfilter := hab.filter fun c => cmp₁ a c == .eq
        rwa [← tied, ← tied, tied_cons, tied_cons, if_pos (h₁.refl a ha), if_pos hcmp] at hfilter
      rw [hz.tied_eq a (hy.perm.mem_iff.2 ha)] at hpair
      have hpair' := hpair.trans List.filter_sublist
      exact List.pairwise_iff_forall_sublist.1 hy.ordered hpair'
  · intro a ha
    rw [tied_lex, tied_lex]
    calc tied cmp₁ a (tied cmp₂ a zs) = tied cmp₂ a (tied cmp₁ a zs) := tied_comm _ _ _ _
      _ = tied cmp₂ a (tied cmp₁ a ys) := by rw [hz.tied_eq a (hy.perm.mem_iff.2 ha)]
      _ = tied cmp₁ a (tied cmp₂ a ys) := tied_comm _ _ _ _
      _ = tied cmp₁ a (tied cmp₂ a xs) := by rw [hy.tied_eq a ha]

end StablySorted

end RecordQuery

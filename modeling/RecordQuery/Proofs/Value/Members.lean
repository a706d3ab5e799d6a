import RecordQuery.Proofs.Value.Set

/-!
# The members of lists and sets

A search through a list depends only on its members up to equality, and so neither on their order
nor on how often they come (`Value.SameMembers`). The sets of two lists are equal just if each list
has all members of the other (`ValueSet.equals_ofList`): sets are compared by their sizes and by the
members of one of them only, and that is enough since no class has two members in a set.
-/

namespace RecordQuery

/-! ## Lists -/

namespace Value

/-- The items are members of the list, up to equality. -/
def allMembers (items list : List Value) : Bool := items.all fun item => list.any (· == item)

/-- The same values are found in both lists. -/
def SameMembers (xs ys : List Value) : Prop :=
  ∀ v : Value, v.WellFormed → xs.any (· == v) = ys.any (· == v)

/-- Order and repetitions do not count. -/
theorem sameMembers_of_mem_iff {xs ys : List Value} (h : ∀ v, v ∈ xs ↔ v ∈ ys) :
    SameMembers xs ys := by
  intro v _
  rw [Bool.eq_iff_iff, List.any_eq_true, List.any_eq_true]
  simp only [h]

variable {xs xs' ys ys' : List Value}

/-- What holds of equal values alike holds of some member of both lists or of neither. -/
theorem SameMembers.any_eq (h : SameMembers xs xs') (hx : ∀ x ∈ xs, x.WellFormed)
    (hx' : ∀ x ∈ xs', x.WellFormed) {p : Value → Bool}
    (hp : ∀ v w : Value, v.WellFormed → w.WellFormed → (v == w) = true → p v = p w) :
    xs.any p = xs'.any p := by
  have hsubset {xs xs' : List Value} (h : SameMembers xs xs') (hx : ∀ x ∈ xs, x.WellFormed)
      (hx' : ∀ x ∈ xs', x.WellFormed) (hany : xs.any p = true) : xs'.any p = true := by
    obtain ⟨x, hmem, hpx⟩ := List.any_eq_true.1 hany
    have hfound : xs'.any (· == x) = true := by
      rw [← h x (hx x hmem)]
      exact List.any_eq_true.2 ⟨x, hmem, beq_refl (hx x hmem)⟩
    obtain ⟨x', hmem', heq⟩ := List.any_eq_true.1 hfound
    exact List.any_eq_true.2 ⟨x', hmem', (hp x' x (hx' x' hmem') (hx x hmem) heq).trans hpx⟩
  exact Bool.eq_iff_iff.2 ⟨hsubset h hx hx', hsubset (fun v hv => (h v hv).symm) hx' hx⟩

/-- What holds of equal values alike holds of all members of both lists or not of all of either. -/
theorem SameMembers.all_eq (h : SameMembers xs xs') (hx : ∀ x ∈ xs, x.WellFormed)
    (hx' : ∀ x ∈ xs', x.WellFormed) {p : Value → Bool}
    (hp : ∀ v w : Value, v.WellFormed → w.WellFormed → (v == w) = true → p v = p w) :
    xs.all p = xs'.all p := by
  have hany := h.any_eq hx hx' (p := fun v => !p v) fun v w hv hw hvw =>
    congrArg (!·) (hp v w hv hw hvw)
  rw [List.all_eq_not_any_not, List.all_eq_not_any_not, hany]

/-- A list is searched for equal values with the same answer. -/
theorem any_beq_eq_of_beq (hx : ∀ x ∈ xs, x.WellFormed) {v w : Value} (hv : v.WellFormed)
    (hw : w.WellFormed) (h : (v == w) = true) : xs.any (· == v) = xs.any (· == w) :=
  any_beq_congr hx hx hv hw (List.forall₂_same.2 fun x hmem => beq_refl (hx x hmem)) h

/-- Whether items are members of a list depends on the members of both only. -/
theorem allMembers_congr (hx : ∀ x ∈ xs, x.WellFormed) (hx' : ∀ x ∈ xs', x.WellFormed)
    (hy : ∀ y ∈ ys, y.WellFormed) (hxs : SameMembers xs xs') (hys : SameMembers ys ys') :
    allMembers xs ys = allMembers xs' ys' := by
  have hsearch : xs'.all (fun x => ys.any (· == x)) = xs'.all fun x => ys'.any (· == x) := by
    rw [Bool.eq_iff_iff, List.all_eq_true, List.all_eq_true]
    exact forall₂_congr fun x hmem => by rw [hys x (hx' x hmem)]
  have hitems : xs.all (fun x => ys.any (· == x)) = xs'.all fun x => ys.any (· == x) :=
    hxs.all_eq hx hx' fun v w hv hw => any_beq_eq_of_beq hy hv hw
  rw [allMembers, hitems, hsearch, ← allMembers]

end Value

/-! ## Sets -/

namespace ValueSet

/-- Sets are equal if they have as many members and the second has every member of the first. -/
def equals (s t : ValueSet) : Bool := s.size == t.size && s.members.all t.contains

variable {xs ys : List Value}

/-- A set has as many members as entries. -/
theorem size_eq_length (s : ValueSet) : s.size = s.members.length := (List.length_map _).symm

/-- The members of the set of a list are well-formed if its items are. -/
theorem wellFormed_of_mem_members (hx : ∀ x ∈ xs, x.WellFormed) :
    ∀ v ∈ (ofList xs).members, v.WellFormed := fun v hv => hx v (mem_of_mem_members hx hv)

/-- No two members of a set are equal. -/
theorem distinct_members (hx : ∀ x ∈ xs, x.WellFormed) :
    (ofList xs).members.Pairwise fun a b => (b == a) = false := by
  have hwell := wellFormed_of_mem_members hx
  have hcount : ∀ v ∈ (ofList xs).members, (ofList xs).members.countP (· == v) ≤ 1 := by
    intro v hv
    rw [← ofListBy_mixWords, (collects_ofListBy hx).count v (hwell v hv)]
    split <;> decide
  generalize (ofList xs).members = members at hwell hcount
  induction members with
  | nil => exact .nil
  | cons v rest ih =>
    have hself : (v == v) = true := Value.beq_refl (hwell v (.head _))
    refine .cons (fun w hw => ?_) (ih (fun w hw => hwell w (.tail _ hw)) fun w hw => ?_)
    · have hone := hcount v (.head _)
      rw [List.countP_cons, if_pos hself] at hone
      have hnone : rest.countP (· == v) = 0 := by omega
      exact Bool.eq_false_iff.2 (List.countP_eq_zero.1 hnone w hw)
    · have hle := hcount w (.tail _ hw)
      rw [List.countP_cons] at hle
      omega

/-- The members of a set are those of the list that it is made of. -/
theorem sameMembers_members (hx : ∀ x ∈ xs, x.WellFormed) :
    Value.SameMembers (ofList xs).members xs := by
  intro v hv
  rw [Bool.eq_iff_iff]
  constructor
  · intro hany
    obtain ⟨member, hmember, heq⟩ := List.any_eq_true.1 hany
    exact List.any_eq_true.2 ⟨member, mem_of_mem_members hx hmember, heq⟩
  · intro hany
    obtain ⟨x, hmem, heq⟩ := List.any_eq_true.1 hany
    obtain ⟨member, hmember, hmx⟩ := exists_member_of_mem hx hmem
    have hw := wellFormed_of_mem_members hx member hmember
    exact List.any_eq_true.2 ⟨member, hmember, Value.beq_trans hw (hx x hmem) hv hmx heq⟩

/-- A set has all members of another just if its list has all items of the other list. -/
theorem all_contains (hx : ∀ x ∈ xs, x.WellFormed) (hy : ∀ y ∈ ys, y.WellFormed) :
    (ofList xs).members.all (ofList ys).contains = Value.allMembers xs ys := by
  have hsearch : (ofList xs).members.all (ofList ys).contains =
      Value.allMembers (ofList xs).members ys := by
    rw [Value.allMembers, Bool.eq_iff_iff, List.all_eq_true, List.all_eq_true]
    exact forall₂_congr fun v hv => by
      rw [contains_ofList hy (wellFormed_of_mem_members hx v hv)]
  rw [hsearch, Value.allMembers_congr (wellFormed_of_mem_members hx) hx hy
    (sameMembers_members hx) fun _ _ => rfl]

/-- Values all of which are items of a list equal members of the set of that list. -/
theorem exists_member_of_allMembers (hx : ∀ x ∈ xs, x.WellFormed) (hy : ∀ y ∈ ys, y.WellFormed)
    (h : Value.allMembers xs ys = true) :
    ∀ v ∈ (ofList xs).members, ∃ w ∈ (ofList ys).members, (w == v) = true := by
  intro v hv
  have hfound : ys.any (· == v) = true := List.all_eq_true.1 h v (mem_of_mem_members hx hv)
  rw [← sameMembers_members hy v (wellFormed_of_mem_members hx v hv)] at hfound
  exact List.any_eq_true.1 hfound

/-- The set of a list is no larger than that of a list with all its members. -/
theorem size_le (hx : ∀ x ∈ xs, x.WellFormed) (hy : ∀ y ∈ ys, y.WellFormed)
    (h : Value.allMembers xs ys = true) : (ofList xs).size ≤ (ofList ys).size := by
  rw [size_eq_length, size_eq_length]
  exact Distinct.length_le Value.equivalenceOn (wellFormed_of_mem_members hx)
    (wellFormed_of_mem_members hy) (distinct_members hx) (exists_member_of_allMembers hx hy h)

/-- A set that has all members of another and one besides is larger. -/
theorem size_lt (hx : ∀ x ∈ xs, x.WellFormed) (hy : ∀ y ∈ ys, y.WellFormed)
    (h : Value.allMembers xs ys = true) (hmore : Value.allMembers ys xs = false) :
    (ofList xs).size < (ofList ys).size := by
  obtain ⟨y, hmem, hnone⟩ := List.all_eq_false.1 hmore
  obtain ⟨member, hmember, heq⟩ := exists_member_of_mem hy hmem
  have hw := wellFormed_of_mem_members hy member hmember
  -- the member that stands for `y` equals none of the smaller set
  have hnew : ∀ v ∈ (ofList xs).members, (v == member) = false := by
    intro v hv
    refine Bool.eq_false_iff.2 fun hvm => hnone ?_
    have hv' := wellFormed_of_mem_members hx v hv
    exact List.any_eq_true.2
      ⟨v, mem_of_mem_members hx hv, Value.beq_trans hv' hw (hy y hmem) hvm heq⟩
  rw [size_eq_length, size_eq_length, Nat.lt_iff_add_one_le, ← List.length_cons (a := member)]
  refine Distinct.length_le Value.equivalenceOn ?_ (wellFormed_of_mem_members hy)
    (.cons hnew (distinct_members hx)) ?_
  · exact List.forall_mem_cons.2 ⟨hw, wellFormed_of_mem_members hx⟩
  · exact List.forall_mem_cons.2
      ⟨⟨member, hmember, Value.beq_refl hw⟩, exists_member_of_allMembers hx hy h⟩

/-- The sets of two lists are equal just if each list has all members of the other. -/
theorem equals_ofList (hx : ∀ x ∈ xs, x.WellFormed) (hy : ∀ y ∈ ys, y.WellFormed) :
    (ofList xs).equals (ofList ys) = (Value.allMembers xs ys && Value.allMembers ys xs) := by
  rw [equals, all_contains hx hy, Bool.and_comm]
  cases h : Value.allMembers xs ys with
  | false => rfl
  | true =>
    rw [Bool.true_and, Bool.true_and]
    cases hmore : Value.allMembers ys xs with
    | false => exact beq_false_of_ne (Nat.ne_of_lt (size_lt hx hy h hmore))
    | true => exact beq_iff_eq.2 (Nat.le_antisymm (size_le hx hy h) (size_le hy hx hmore))

end ValueSet

end RecordQuery

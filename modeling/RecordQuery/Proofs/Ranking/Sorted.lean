import RecordQuery.Proofs.Ranking.Order
import RecordQuery.Proofs.Ranking.Sorting

/-!
# Sorting by several leaves

Records whose values at every leaf are of the sort that the leaf asks for (`Criterion.Suits`) are
alike there, so the ranking is a total preorder of them, and sorting by it is what a stable sort is
to be (`SortedBy`). It is also the same as sorting by one leaf at a time from the last one to the
first (`stablySorted_foldr_along`), since the first leaf that decides between two records is the
last by which they are sorted.
-/

namespace RecordQuery

/-! ## Records that a leaf suits -/

namespace Criterion

/-- The values are all of the sort that the criterion asks for: values that are there, values that
stand for numbers, and texts or numbers without any of the other. -/
def Suits : Criterion → List Value → Prop
  | text _, values => ∀ v ∈ values, v.isNullish = false
  | difference _, values => ∀ v ∈ values, v.toNumber ≠ .nan
  | order _, values =>
    (∀ v ∈ values, v.kind ∈ [.string, .array, .object, .regex]) ∨
      ∀ v ∈ values, v.kind ∈ [.null, .boolean, .number] ∧ v.toNumber ≠ .nan
  | neutral, _ => True

/-- What is compared by its text is of the family of texts. -/
theorem family_eq_text {v : Value} (h : v.kind ∈ [.string, .array, .object, .regex]) :
    v.family = .text := by
  cases v with
  | string | array | object | regex => rfl
  | undefined | null | bool | number | bigint => simp [Value.kind] at h

/-- What is compared as a number is of the family of numbers, unless it is not one. -/
theorem family_eq_number {v : Value} (h : v.kind ∈ [.null, .boolean, .number])
    (hnan : v.toNumber ≠ .nan) : v.family = .number := by
  have hrank : v.toNumber.rank?.isNone = false := by
    refine Bool.eq_false_iff.2 fun hnone => hnan ?_
    exact Number.rank?_eq_none_iff.1 (Option.isNone_iff_eq_none.1 hnone)
  have hfamily := Primitive.family_number v.toNumber
  rw [hrank] at hfamily
  cases v with
  | null | bool | number => exact hfamily
  | undefined | bigint | string | regex | array | object => simp [Value.kind] at h

/-- Values of the sort that the criterion asks for are alike. -/
theorem Suits.alike {criterion : Criterion} {values : List Value} (h : criterion.Suits values)
    {x y : Value} (hx : x ∈ values) (hy : y ∈ values) : criterion.Alike x y := by
  cases criterion with
  | text direction => exact (h x hx).trans (h y hy).symm
  | difference direction => exact iff_of_false (h x hx) (h y hy)
  | order direction =>
    rcases h with htext | hnumber
    · exact (family_eq_text (htext x hx)).trans (family_eq_text (htext y hy)).symm
    · obtain ⟨hkind, hnan⟩ := hnumber x hx
      obtain ⟨hkind', hnan'⟩ := hnumber y hy
      exact (family_eq_number hkind hnan).trans (family_eq_number hkind' hnan').symm
  | neutral => trivial

end Criterion

/-! ## Sorting -/

namespace Ranking

/-- The list holds the records in the order of the ranking, those that tie as they stood. -/
structure SortedBy (ranking : Ranking) (records sorted : List Value) : Prop where
  /-- The list is a permutation of the records. -/
  perm : sorted.Perm records
  /-- No record goes before one that stands before it. -/
  ordered : sorted.Pairwise fun a b => ranking.compare b a ≠ .lt
  /-- Records that tie with a record keep their order. -/
  stable : ∀ a ∈ records, tied ranking.compare a sorted = tied ranking.compare a records

variable {ranking : Ranking} {records : List Value} {leaves : List (Path × Criterion)}

/-- The sorted records are the records, whatever their ranking says of them. -/
theorem sort_perm (ranking : Ranking) (records : List Value) :
    (ranking.sort records).Perm records :=
  Sorting.sort_perm ranking.compare records

/-- A record without a name ties with those behind it, and still these go before it, so the ranking
is no preorder of them and they do not keep their order. -/
example :
    let byName := along ["name"] (.text .ascending)
    let unnamed : Value := .object [("id", .number (.ofNat 1))]
    let named : Value := .object [("id", .number (.ofNat 2)), ("name", .string "a")]
    byName.compare unnamed named = .eq ∧
      (byName.sort [unnamed, named] == [named, unnamed]) = true := by
  intro byName unnamed named
  decide +kernel

/-- Records that a ranking is a total preorder of are sorted by it. -/
theorem sortedBy_sort (h : PreordersOn ranking.compare (· ∈ records)) :
    ranking.SortedBy records (ranking.sort records) := by
  obtain ⟨hperm, hordered, htied⟩ := Sorting.stablySorted_sort h
  refine ⟨hperm, hordered.imp_of_mem ?_, htied⟩
  intro a b ha hb hab
  rw [h.swap a b (hperm.mem_iff.1 ha) (hperm.mem_iff.1 hb)]
  cases hcmp : ranking.compare a b with
  | gt => exact absurd hcmp hab
  | lt | eq => decide

/-- Records that are sorted by each of several leaves, from the last to the first, are sorted by all
of them. -/
theorem stablySorted_foldr_along
    (h : ∀ leaf ∈ leaves, leaf.2.Suits (records.map leaf.1.partOf)) :
    StablySorted (compareLeaves leaves) records
      (leaves.foldr (fun leaf sorted => (along leaf.1 leaf.2).sort sorted) records) := by
  induction leaves with
  | nil => exact .of_ordered (List.pairwise_of_forall fun _ _ => nofun)
  | cons leaf rest ih =>
    obtain ⟨path, criterion⟩ := leaf
    obtain ⟨hfirst, hrest⟩ := List.forall_mem_cons.1 h
    have hsorted := ih hrest
    have hpreorder := criterion.preordersOn_compare path fun a b ha hb =>
      hfirst.alike (List.mem_map_of_mem ha) (List.mem_map_of_mem hb)
    refine hsorted.lex hpreorder ?_
    have halong : (along path criterion).compare =
        fun a b => criterion.compare (path.partOf a) (path.partOf b) := by
      funext a b
      exact compare_along path criterion a b
    rw [List.foldr_cons, sort, halong]
    exact Sorting.stablySorted_sort (hpreorder.mono fun a ha => hsorted.perm.mem_iff.1 ha)

/-- On records whose values at every leaf are of the sort that it asks for, a specified ranking is a
total preorder, sorting by it is stable, and it is sorting by each leaf alone, from the last to the
first. -/
theorem sort_eq_foldr_along {limit : Nat} {spec : Option Value}
    (hspec : ofSpecification limit spec = .ok ranking)
    (hsuits : ∀ leaf ∈ specifiedLeaves spec, leaf.2.Suits (records.map leaf.1.partOf)) :
    PreordersOn ranking.compare (· ∈ records) ∧
      ranking.SortedBy records (ranking.sort records) ∧
      ranking.sort records = (specifiedLeaves spec).foldr
        (fun leaf sorted => (along leaf.1 leaf.2).sort sorted) records := by
  have hcompare : ranking.compare = compareLeaves (specifiedLeaves spec) := by
    funext a b
    exact compare_ofSpecification hspec a b
  have hpreorder : PreordersOn ranking.compare (· ∈ records) := by
    rw [hcompare]
    refine preordersOn_compareLeaves ?_
    intro leaf hleaf a b ha hb
    exact (hsuits leaf hleaf).alike (List.mem_map_of_mem ha) (List.mem_map_of_mem hb)
  refine ⟨hpreorder, sortedBy_sort hpreorder, ?_⟩
  have hchain := stablySorted_foldr_along hsuits
  rw [← hcompare] at hchain
  exact (Sorting.stablySorted_sort hpreorder).unique hpreorder hchain

/-- Teams by name, the largest of a name first and then those that are done. -/
theorem sort_eq_foldr_along_of_teams :
    let spec : Value := .object [("name", .string "asc"), ("size", .number (.ofInt (-1))),
      ("done", .bool true)]
    let team (name : String) (size : Nat) (done : Bool) : Value :=
      .object [("name", .string name), ("size", .number (.ofNat size)), ("done", .bool done)]
    let teams := [team "red" 2 true, team "blue" 3 false, team "red" 4 true, team "blue" 3 true]
    let byName := along ["name"] (.text .ascending)
    let bySize := along ["size"] (.difference .descending)
    let byDone := along ["done"] (.order .ascending)
    ∃ ranking, ofSpecification 1 (some spec) = .ok ranking ∧
      PreordersOn ranking.compare (· ∈ teams) ∧
      ranking.SortedBy teams (ranking.sort teams) ∧
      ranking.sort teams = byName.sort (bySize.sort (byDone.sort teams)) := by
  intro spec team teams byName bySize byDone
  have hspec : ofSpecification 1 (some spec) =
      .ok (fields [("name", leaf (.ofLeaf (.string "asc"))),
        ("size", leaf (.ofLeaf (.number (.ofInt (-1))))), ("done", leaf (.order .ascending))]) :=
    rfl
  have hleaves : specifiedLeaves (some spec) = [(["name"], .text .ascending),
      (["size"], .difference .descending), (["done"], .order .ascending)] := by
    decide +kernel
  have hname : (Criterion.text .ascending).Suits (teams.map (Path.partOf ["name"])) :=
    show ∀ v ∈ teams.map (Path.partOf ["name"]), v.isNullish = false by decide +kernel
  have hsize : (Criterion.difference .descending).Suits (teams.map (Path.partOf ["size"])) :=
    show ∀ v ∈ teams.map (Path.partOf ["size"]), v.toNumber ≠ .nan by decide +kernel
  have hdone : (Criterion.order .ascending).Suits (teams.map (Path.partOf ["done"])) :=
    .inr (by decide +kernel)
  have hsuits : ∀ leaf ∈ specifiedLeaves (some spec),
      leaf.2.Suits (teams.map leaf.1.partOf) := by
    rw [hleaves]
    simp only [List.forall_mem_cons]
    exact ⟨hname, hsize, hdone, nofun⟩
  obtain ⟨hpreorder, hsorted, hchain⟩ := sort_eq_foldr_along hspec hsuits
  rw [hleaves, List.foldr_cons, List.foldr_cons, List.foldr_cons, List.foldr_nil] at hchain
  exact ⟨_, hspec, hpreorder, hsorted, hchain⟩

end Ranking

end RecordQuery

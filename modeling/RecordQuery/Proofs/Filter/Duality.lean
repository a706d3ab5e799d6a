import RecordQuery.Proofs.Filter.Placed
import RecordQuery.Proofs.Value.Members

/-!
# Duality of the set conditions

The conditions on sets are answered by different means: a set made of the operand, a set made anew
of each record, or a search through it. All of them come down to `Value.allMembers`,
`Value.haveCommon` and a search through one list, and these are dual to one another and depend on
the members of the lists only (`Filter.set_conditions_dual`).
-/

namespace RecordQuery

namespace Value

/-- The lists have an item in common, up to equality. -/
def haveCommon (xs ys : List Value) : Bool := xs.any fun x => ys.any (· == x)

variable {xs xs' ys ys' : List Value}

/-- What lists have in common does not depend on which comes first. -/
theorem haveCommon_comm (hx : ∀ x ∈ xs, x.WellFormed) (hy : ∀ y ∈ ys, y.WellFormed) :
    haveCommon xs ys = haveCommon ys xs := by
  have himp {xs ys : List Value} (hx : ∀ x ∈ xs, x.WellFormed) (hy : ∀ y ∈ ys, y.WellFormed)
      (h : haveCommon xs ys = true) : haveCommon ys xs = true := by
    obtain ⟨x, hxmem, hany⟩ := List.any_eq_true.1 h
    obtain ⟨y, hymem, heq⟩ := List.any_eq_true.1 hany
    have hsymm : (x == y) = true := beq_symm (hy y hymem) (hx x hxmem) heq
    exact List.any_eq_true.2 ⟨y, hymem, List.any_eq_true.2 ⟨x, hxmem, hsymm⟩⟩
  exact Bool.eq_iff_iff.2 ⟨himp hx hy, himp hy hx⟩

/-- Whether lists have a common item depends on the members of both only. -/
theorem haveCommon_congr (hx : ∀ x ∈ xs, x.WellFormed) (hx' : ∀ x ∈ xs', x.WellFormed)
    (hy : ∀ y ∈ ys, y.WellFormed) (hy' : ∀ y ∈ ys', y.WellFormed) (hxs : SameMembers xs xs')
    (hys : SameMembers ys ys') : haveCommon xs ys = haveCommon xs' ys' := by
  have hreplace {xs xs' ys : List Value} (hx : ∀ x ∈ xs, x.WellFormed)
      (hx' : ∀ x ∈ xs', x.WellFormed) (hy : ∀ y ∈ ys, y.WellFormed) (hxs : SameMembers xs xs') :
      haveCommon xs ys = haveCommon xs' ys :=
    hxs.any_eq hx hx' fun v w hv hw => any_beq_eq_of_beq hy hv hw
  rw [hreplace hx hx' hy hxs, haveCommon_comm hx' hy, hreplace hy hy' hx' hys,
    haveCommon_comm hy' hx']

end Value

namespace Filter

open Value

variable {limit : Nat} {path : Path} {xs ys : List Value} {v record : Value}

/-! ## The answers -/

section
variable (hkeys : ∀ key ∈ path, Keyword.ofKey? key = none) (hlimit : path.length ≤ limit)
include hkeys hlimit

/-- The items of a list are asked to be members. -/
theorem answerAt_subset (hy : ∀ y ∈ ys, y.WellFormed) (h : path.LeadsTo record (.array xs)) :
    answerAt limit path "$sub" (.array ys) record = .ok (.ok (allMembers xs ys)) := by
  have hc : (Condition.subset false ys).WellFormed := hy
  rw [← Bool.false_xor (allMembers xs ys)]
  exact answerAt_eq (.subset false) hkeys hlimit rfl hc h

/-- The operands are asked to be members of a list. -/
theorem answerAt_superset (hy : ∀ y ∈ ys, y.WellFormed) (h : path.LeadsTo record (.array xs)) :
    answerAt limit path "$sup" (.array ys) record = .ok (.ok (allMembers ys xs)) := by
  have hc : (Condition.superset false ys).WellFormed := hy
  rw [← Bool.false_xor (allMembers ys xs)]
  exact answerAt_eq (.superset false) hkeys hlimit rfl hc h

/-- A list is asked to have an item in common with the operands. -/
theorem answerAt_overlap (hy : ∀ y ∈ ys, y.WellFormed) (h : path.LeadsTo record (.array xs)) :
    answerAt limit path "$con" (.array ys) record = .ok (.ok (haveCommon xs ys)) := by
  have hc : (Condition.overlap false (.array ys)).WellFormed := wellFormed_array.2 hy
  rw [← Bool.false_xor (haveCommon xs ys)]
  exact answerAt_eq (.overlap false) hkeys hlimit rfl hc h

/-- A value is asked to be a member. -/
theorem answerAt_membership (hy : ∀ y ∈ ys, y.WellFormed) (h : path.LeadsTo record v) :
    answerAt limit path "$in" (.array ys) record = .ok (.ok (ys.any (· == v))) := by
  have hc : (Condition.membership false ys).WellFormed := hy
  rw [← Bool.false_xor (ys.any (· == v))]
  exact answerAt_eq (.membership false) hkeys hlimit rfl hc h

/-- A list is asked to have a value as an item. -/
theorem answerAt_inclusion (hv : v.WellFormed) (h : path.LeadsTo record (.array ys)) :
    answerAt limit path "$incl" v record = .ok (.ok (ys.any (· == v))) := by
  have hc : (Condition.inclusion false v).WellFormed := hv
  rw [← Bool.false_xor (ys.any (· == v))]
  exact answerAt_eq (.inclusion false) hkeys hlimit rfl hc h

/-- A list is a subset of another if each of its items is a member of that, wherever it stands by
itself. -/
theorem answerAt_subset_iff (hy : ∀ y ∈ ys, y.WellFormed) (h : path.LeadsTo record (.array xs)) :
    answerAt limit path "$sub" (.array ys) record = .ok (.ok true) ↔
      ∀ x ∈ xs, ∀ item, path.LeadsTo item x →
        answerAt limit path "$in" (.array ys) item = .ok (.ok true) := by
  have hx := wellFormed_array.1 h.wellFormed
  rw [answerAt_subset hkeys hlimit hy h, Except.ok.injEq, Except.ok.injEq, allMembers,
    List.all_eq_true]
  refine forall₂_congr fun x hmem => ⟨fun hany item hitem => ?_, fun hany => ?_⟩
  · rw [answerAt_membership hkeys hlimit hy hitem, hany]
  · have hplaced := path.leadsTo_under (hx x hmem)
    have hanswer := hany _ hplaced
    rw [answerAt_membership hkeys hlimit hy hplaced] at hanswer
    exact Except.ok.inj (Except.ok.inj hanswer)

/-- A list is a subset and a superset of another just if the two have the same set. -/
theorem answerAt_subset_superset_iff (hy : ∀ y ∈ ys, y.WellFormed)
    (h : path.LeadsTo record (.array xs)) :
    answerAt limit path "$sub" (.array ys) record = .ok (.ok true) ∧
        answerAt limit path "$sup" (.array ys) record = .ok (.ok true) ↔
      (ValueSet.ofList xs).equals (ValueSet.ofList ys) = true := by
  have hx := wellFormed_array.1 h.wellFormed
  rw [answerAt_subset hkeys hlimit hy h, answerAt_superset hkeys hlimit hy h,
    ValueSet.equals_ofList hx hy, Bool.and_eq_true]
  simp only [Except.ok.injEq]

end

/-! ## Duality -/

/-- Both specifications are accepted, and the same is decided. -/
def AnswerAlike (answer answer' : Except CompileError Verdict) : Prop :=
  ∃ holds : Bool, answer = .ok (.ok holds) ∧ answer' = .ok (.ok holds)

/-- The conditions on sets are dual to one another. A list is a subset of another exactly if that is
a superset of it, they have an item in common whichever of them is asked about the other, and a
value is a member of a list exactly if the list has it as an item. The subsets of a list are the
lists of members of it, and the lists that are both a subset and a superset of it are those with the
same set. All this depends only on which values are found in the lists. -/
theorem set_conditions_dual (hkeys : ∀ key ∈ path, Keyword.ofKey? key = none)
    (hlimit : path.length ≤ limit) {a b c : Value} (ha : path.LeadsTo a (.array xs))
    (hb : path.LeadsTo b (.array ys)) (hc : path.LeadsTo c v) :
    let ask := answerAt limit path
    AnswerAlike (ask "$sub" (.array ys) a) (ask "$sup" (.array xs) b) ∧
    AnswerAlike (ask "$con" (.array ys) a) (ask "$con" (.array xs) b) ∧
    AnswerAlike (ask "$in" (.array ys) c) (ask "$incl" v b) ∧
    (ask "$sub" (.array ys) a = .ok (.ok true) ↔
      ∀ x ∈ xs, ∀ item, path.LeadsTo item x → ask "$in" (.array ys) item = .ok (.ok true)) ∧
    (ask "$sub" (.array ys) a = .ok (.ok true) ∧ ask "$sup" (.array ys) a = .ok (.ok true) ↔
      (ValueSet.ofList xs).equals (ValueSet.ofList ys) = true) ∧
    ∀ xs' ys' a' b', path.LeadsTo a' (.array xs') → path.LeadsTo b' (.array ys') →
      SameMembers xs xs' → SameMembers ys ys' →
        AnswerAlike (ask "$sub" (.array ys) a) (ask "$sub" (.array ys') a') ∧
        AnswerAlike (ask "$sup" (.array ys) a) (ask "$sup" (.array ys') a') ∧
        AnswerAlike (ask "$con" (.array ys) a) (ask "$con" (.array ys') a') ∧
        AnswerAlike (ask "$in" (.array ys) c) (ask "$in" (.array ys') c) ∧
        AnswerAlike (ask "$incl" v b) (ask "$incl" v b') ∧
        (ValueSet.ofList xs).equals (ValueSet.ofList ys) =
          (ValueSet.ofList xs').equals (ValueSet.ofList ys') := by
  have hx := wellFormed_array.1 ha.wellFormed
  have hy := wellFormed_array.1 hb.wellFormed
  have hv := hc.wellFormed
  have hsub := answerAt_subset hkeys hlimit hy ha
  have hsup := answerAt_superset hkeys hlimit hy ha
  have hcon := answerAt_overlap hkeys hlimit hy ha
  have hin := answerAt_membership hkeys hlimit hy hc
  have hincl := answerAt_inclusion hkeys hlimit hv hb
  refine ⟨⟨_, hsub, answerAt_superset hkeys hlimit hx hb⟩, ⟨_, hcon, ?_⟩, ⟨_, hin, hincl⟩,
    answerAt_subset_iff hkeys hlimit hy ha, answerAt_subset_superset_iff hkeys hlimit hy ha, ?_⟩
  · rw [haveCommon_comm hx hy]
    exact answerAt_overlap hkeys hlimit hx hb
  · intro xs' ys' a' b' ha' hb' hxs hys
    have hx' := wellFormed_array.1 ha'.wellFormed
    have hy' := wellFormed_array.1 hb'.wellFormed
    have hall := allMembers_congr hx hx' hy hxs hys
    have hall' := allMembers_congr hy hy' hx hys hxs
    refine ⟨⟨_, hsub, ?_⟩, ⟨_, hsup, ?_⟩, ⟨_, hcon, ?_⟩, ⟨_, hin, ?_⟩, ⟨_, hincl, ?_⟩, ?_⟩
    · rw [hall]
      exact answerAt_subset hkeys hlimit hy' ha'
    · rw [hall']
      exact answerAt_superset hkeys hlimit hy' ha'
    · rw [haveCommon_congr hx hx' hy hy' hxs hys]
      exact answerAt_overlap hkeys hlimit hy' ha'
    · rw [hys v hv]
      exact answerAt_membership hkeys hlimit hy' hc
    · rw [hys v hv]
      exact answerAt_inclusion hkeys hlimit hv hb'
    · rw [ValueSet.equals_ofList hx hy, ValueSet.equals_ofList hx' hy', hall, hall']

/-- Lists with not-a-number, zeros of different sign and a nested list have the same set, also in
another order and with repetitions. -/
theorem set_conditions_dual_of_repeated :
    let zero (negative : Bool) : Value := .number (.signedZero negative)
    let nested : Value := .array [.number .nan]
    let xs : List Value := [.number .nan, zero true, nested, .number .nan]
    let ys : List Value := [nested, zero false, .number .nan]
    let xs' : List Value := [nested, .number .nan, zero true]
    let record (items : List Value) : Value := .object [("tags", .array items)]
    let ask := answerAt 1 ["tags"]
    AnswerAlike (ask "$sub" (.array ys) (record xs)) (ask "$sup" (.array xs) (record ys)) ∧
    AnswerAlike (ask "$in" (.array ys) (.object [("tags", zero true)]))
      (ask "$incl" (zero true) (record ys)) ∧
    ask "$sub" (.array ys) (record xs) = .ok (.ok true) ∧
    AnswerAlike (ask "$sup" (.array ys) (record xs)) (ask "$sup" (.array ys) (record xs')) := by
  intro zero nested xs ys xs' record ask
  have hitems {items : List Value} (h : ∀ x ∈ items, x.WellFormed) :
      Path.LeadsTo ["tags"] (record items) (.array items) :=
    Path.leadsTo_under ["tags"] (wellFormed_array.2 h)
  have hnested : nested.WellFormed := ⟨trivial, trivial⟩
  have hxs : ∀ x ∈ xs, x.WellFormed := by simp [xs, hnested, zero, WellFormed]
  have hys : ∀ y ∈ ys, y.WellFormed := by simp [ys, hnested, zero, WellFormed]
  have hxs' : ∀ x ∈ xs', x.WellFormed := by simp [xs', hnested, zero, WellFormed]
  have hzero : Path.LeadsTo ["tags"] (.object [("tags", zero true)]) (zero true) :=
    Path.leadsTo_under ["tags"] trivial
  have hkeys : ∀ key ∈ ["tags"], Keyword.ofKey? key = none := by decide
  have hlimit : ["tags"].length ≤ 1 := Nat.le_refl 1
  obtain ⟨hdual, _, hmember, _, hequal, hsame⟩ :=
    set_conditions_dual hkeys hlimit (hitems hxs) (hitems hys) hzero
  have hsets : (ValueSet.ofList xs).equals (ValueSet.ofList ys) = true := by decide
  have hmem : ∀ v, v ∈ xs ↔ v ∈ xs' := by
    intro v
    simp only [xs, xs', List.mem_cons, List.not_mem_nil, or_false]
    grind
  obtain ⟨_, hsup, _⟩ := hsame xs' ys _ _ (hitems hxs') (hitems hys) (sameMembers_of_mem_iff hmem)
    fun _ _ => rfl
  exact ⟨hdual, hmember, (hequal.2 hsets).1, hsup⟩

end Filter

end RecordQuery

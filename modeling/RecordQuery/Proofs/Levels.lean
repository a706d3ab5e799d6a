import RecordQuery.Filter.Basic
import RecordQuery.Proofs.Query.Reordering
import RecordQuery.Proofs.Value.Normal
import RecordQuery.Ranking.Basic

/-!
# The levels of a specification

Filters and rankings are nested no deeper than one and the same limit, but they do not count alike.
In a specification without keywords a query has a level for every object or array in it, so the
deepest container decides (`Query.cutsOff_ofOperand`); a ranking has a level for every part, bare
values included (`Ranking.cutsOff_ofPart`). The two counts differ by one at most, and they differ
where a bare value lies deeper than every container (`Specification.exceeded_alike_iff`).
-/

namespace RecordQuery

/-! ## Levels -/

namespace Value

mutual
/-- How many keys lead from the root of the value to its deepest part. -/
def height : Value → Nat
  | array items => itemsHeight items
  | object fields => fieldsHeight fields
  | _ => 0

/-- How many keys lead from an array to the deepest part in its items. -/
def itemsHeight : List Value → Nat
  | [] => 0
  | v :: rest => max (v.height + 1) (itemsHeight rest)

/-- How many keys lead from an object to the deepest part in its fields. -/
def fieldsHeight : List (String × Value) → Nat
  | [] => 0
  | (_, v) :: rest => max (v.height + 1) (fieldsHeight rest)
end

mutual
/-- Below the deepest container lie bare values or nothing. -/
theorem height_near_depth : ∀ v : Value, v.height ≤ v.depth ∧ v.depth ≤ v.height + 1
  | array items => by
    have := itemsHeight_near_itemsDepth items
    rw [height, depth]
    omega
  | object fields => by
    have := fieldsHeight_near_fieldsDepth fields
    rw [height, depth]
    omega
  | undefined | null | bool _ | number _ | bigint _ | string _ | regex _ => by simp [height, depth]

/-- Below the deepest container in items lie bare values or nothing. -/
theorem itemsHeight_near_itemsDepth : ∀ items : List Value,
    itemsHeight items ≤ itemsDepth items + 1 ∧ itemsDepth items ≤ itemsHeight items
  | [] => by simp [itemsHeight, itemsDepth]
  | v :: rest => by
    have := height_near_depth v
    have := itemsHeight_near_itemsDepth rest
    rw [itemsHeight, itemsDepth]
    omega

/-- Below the deepest container in fields lie bare values or nothing. -/
theorem fieldsHeight_near_fieldsDepth : ∀ fields : List (String × Value),
    fieldsHeight fields ≤ fieldsDepth fields + 1 ∧ fieldsDepth fields ≤ fieldsHeight fields
  | [] => by simp [fieldsHeight, fieldsDepth]
  | (_, v) :: rest => by
    have := height_near_depth v
    have := fieldsHeight_near_fieldsDepth rest
    rw [fieldsHeight, fieldsDepth]
    omega
end

mutual
/-- No key in the value, at whatever depth, is reserved. -/
def Unreserved : Value → Prop
  | array items => UnreservedItems items
  | object fields => UnreservedFields fields
  | _ => True

/-- No key in any of the items is reserved. -/
def UnreservedItems : List Value → Prop
  | [] => True
  | v :: rest => v.Unreserved ∧ UnreservedItems rest

/-- No key of the fields or in any of them is reserved. -/
def UnreservedFields : List (String × Value) → Prop
  | [] => True
  | (key, v) :: rest => Keyword.ofKey? key = none ∧ v.Unreserved ∧ UnreservedFields rest
end

end Value

/-! ## Limits -/

namespace Specification

variable {α β γ : Type} {limit level : Nat}

/-- What has so many levels is made if the limit allows them, and refused for its depth if not. -/
structure CutsOff (limit level : Nat) (made : Except CompileError α) : Prop where
  accepted : level ≤ limit → ∃ a, made = .ok a
  exceeded : limit < level → made = .error (.depthLimitExceeded limit)

/-- What is made anyway has levels that the limit allows. -/
theorem cutsOff_ok (a : α) (h : level ≤ limit) : CutsOff limit level (.ok a) :=
  ⟨fun _ => ⟨a, rfl⟩, fun hlt => absurd h (Nat.not_le_of_lt hlt)⟩

variable {made : Except CompileError α}

/-- What is refused for its depth has more levels than the limit allows. -/
theorem CutsOff.eq_error_iff (h : CutsOff limit level made) :
    made = .error (.depthLimitExceeded limit) ↔ limit < level := by
  refine ⟨fun herror => Nat.lt_of_not_le fun hle => ?_, h.exceeded⟩
  obtain ⟨a, ha⟩ := h.accepted hle
  cases ha.symm.trans herror

/-- A count of levels may be written otherwise. -/
theorem CutsOff.congr {level' : Nat} (h : CutsOff limit level made) (hlevel : level = level') :
    CutsOff limit level' made :=
  hlevel ▸ h

/-- What is made of a result has its levels. -/
theorem CutsOff.map (h : CutsOff limit level made) (f : α → β) :
    CutsOff limit level (made.map f) := by
  constructor
  · intro hle
    obtain ⟨a, rfl⟩ := h.accepted hle
    exact ⟨f a, rfl⟩
  · intro hlt
    rw [h.exceeded hlt]
    rfl

/-- What is made of two results has as many levels as the deeper of them. -/
theorem CutsOff.map₂ {made' : Except CompileError β} {level' : Nat} (h : CutsOff limit level made)
    (h' : CutsOff limit level' made') (f : α → β → γ) : CutsOff limit (max level level')
      (made >>= fun a => made' >>= fun b => .ok (f a b)) := by
  constructor
  · intro hle
    obtain ⟨a, rfl⟩ := h.accepted (by omega)
    obtain ⟨b, rfl⟩ := h'.accepted (by omega)
    exact ⟨f a b, rfl⟩
  · -- the first result is refused before the second is looked at
    intro hlt
    rcases Nat.lt_or_ge limit level with hfirst | hfirst
    · rw [h.exceeded hfirst]
      rfl
    · obtain ⟨a, rfl⟩ := h.accepted hfirst
      rw [h'.exceeded (by omega)]
      rfl

/-- A part at some depth has a level there. -/
theorem CutsOff.within {depth : Nat} (h : depth ≤ limit → CutsOff limit level made)
    (hdepth : depth ≤ level) : CutsOff limit level (within limit depth made) := by
  unfold Specification.within
  split
  · rename_i hlt
    exact ⟨fun hle => absurd hlt (by omega), fun _ => rfl⟩
  · rename_i hle
    exact h (Nat.le_of_not_lt hle)

end Specification

open Specification

/-! ## Queries -/

namespace Query

variable {limit : Nat}

mutual
/-- A part of a specification without keywords has a level for every container on the way down. -/
theorem cutsOff_ofOperand {depth : Nat} {path : Path} (hdepth : depth ≤ limit) :
    ∀ {v : Value}, v.Unreserved → CutsOff limit (depth + v.depth) (ofOperand limit depth path v)
  | .undefined, _ | .null, _ | .bool _, _ | .number _, _ | .bigint _, _ | .string _, _
  | .regex _, _ => cutsOff_ok _ hdepth
  | .array items, h => by
    rw [Value.depth, ← Nat.add_assoc, Nat.add_right_comm]
    refine CutsOff.within (fun hle => ?_) (by omega)
    exact cutsOff_ofItems hle h
  | .object fields, h => by
    rw [Value.depth, ← Nat.add_assoc, Nat.add_right_comm]
    refine CutsOff.within (fun hle => ?_) (by omega)
    exact cutsOff_ofFields hle h

/-- Fields without keywords have the levels of the deepest of them. -/
theorem cutsOff_ofFields {depth : Nat} {path : Path} (hdepth : depth ≤ limit) :
    ∀ {fields : List (String × Value)}, Value.UnreservedFields fields →
      CutsOff limit (depth + Value.fieldsDepth fields) (ofFields limit depth path fields)
  | [], _ => cutsOff_ok _ hdepth
  | (key, v) :: rest, ⟨hkey, hv, hrest⟩ => by
    have hclause : CutsOff limit (depth + v.depth) (clauseOf limit depth path key v) := by
      simp only [clauseOf, hkey]
      exact (cutsOff_ofOperand hdepth hv).map (Clause.field key)
    rw [ofFields_cons, Value.fieldsDepth, ← Nat.add_max_add_left]
    exact hclause.map₂ (cutsOff_ofFields hdepth hrest) List.cons

/-- Items without keywords have the levels of the deepest of them. -/
theorem cutsOff_ofItems {depth : Nat} {path : Path} (hdepth : depth ≤ limit) :
    ∀ {i : Nat} {items : List Value}, Value.UnreservedItems items →
      CutsOff limit (depth + Value.itemsDepth items) (ofItems limit depth path i items)
  | _, [], _ => cutsOff_ok _ hdepth
  | i, v :: rest, ⟨hv, hrest⟩ => by
    rw [ofItems, Value.itemsDepth, ← Nat.add_max_add_left]
    exact (cutsOff_ofOperand hdepth hv).map₂ (cutsOff_ofItems hdepth hrest)
      fun query => List.cons (.field (Text.decimal i) query)
end

end Query

/-- A filter has a level for every container below the root. -/
theorem Filter.cutsOff_ofSpecification {limit : Nat} {spec : Value} (h : spec.Unreserved) :
    CutsOff limit (spec.depth - 1) (ofSpecification limit spec) := by
  cases spec with
  | undefined | null | bool | number | bigint | string | regex => exact cutsOff_ok _ limit.zero_le
  | array items =>
    have hitems : CutsOff limit (0 + Value.itemsDepth items) (Query.ofItems limit 0 [] 0 items) :=
      Query.cutsOff_ofItems limit.zero_le h
    exact (hitems.map ofQuery).congr (Nat.zero_add _)
  | object fields =>
    have hfields : CutsOff limit (0 + Value.fieldsDepth fields)
        (Query.ofFields limit 0 [] fields) :=
      Query.cutsOff_ofFields limit.zero_le h
    exact (hfields.map ofQuery).congr (Nat.zero_add _)

/-! ## Rankings -/

namespace Ranking

variable {limit : Nat}

mutual
/-- A part of a specification has a level for every key on the way down. -/
theorem cutsOff_ofPart {depth : Nat} :
    ∀ v : Value, CutsOff limit (depth + v.height) (ofPart limit depth v)
  | .undefined | .null | .bool _ | .number _ | .bigint _ | .string _ | .regex _ =>
    .within (cutsOff_ok _) (Nat.le_refl depth)
  | .array items => .within (fun hle => (cutsOff_ofItems hle items).map fields) (by omega)
  | .object parts => .within (fun hle => (cutsOff_ofFields hle parts).map fields) (by omega)

/-- Fields have a level more than the deepest of them. -/
theorem cutsOff_ofFields {depth : Nat} (hdepth : depth ≤ limit) :
    ∀ parts : List (String × Value),
      CutsOff limit (depth + Value.fieldsHeight parts) (ofFields limit (depth + 1) parts)
  | [] => cutsOff_ok _ hdepth
  | (key, v) :: rest => by
    rw [ofFields, Value.fieldsHeight, ← Nat.add_max_add_left]
    exact ((cutsOff_ofPart v).congr (by omega)).map₂ (cutsOff_ofFields hdepth rest)
      fun child => List.cons (key, child)

/-- Items have a level more than the deepest of them. -/
theorem cutsOff_ofItems {depth : Nat} (hdepth : depth ≤ limit) : ∀ {i : Nat} (items : List Value),
    CutsOff limit (depth + Value.itemsHeight items) (ofItems limit (depth + 1) i items)
  | _, [] => cutsOff_ok _ hdepth
  | i, v :: rest => by
    rw [ofItems, Value.itemsHeight, ← Nat.add_max_add_left]
    exact ((cutsOff_ofPart v).congr (by omega)).map₂ (cutsOff_ofItems hdepth rest)
      fun child => List.cons (Text.decimal i, child)
end

/-- A ranking has a level for every part below the root. -/
theorem cutsOff_ofSpecification (spec : Value) :
    CutsOff limit spec.height (ofSpecification limit (some spec)) :=
  (cutsOff_ofPart spec).congr (Nat.zero_add _)

end Ranking

/-! ## Filters beside rankings -/

/-- A specification without keywords is refused for its depth as a filter and as a ranking alike,
unless what lies deepest in it are bare values, one level below the limit. The filter has a level
for every container below the root, and the ranking for every part. -/
theorem Specification.exceeded_alike_iff {spec : Value} (h : spec.Unreserved) (limit : Nat) :
    CutsOff limit (spec.depth - 1) (Filter.ofSpecification limit spec) ∧
    CutsOff limit spec.height (Ranking.ofSpecification limit (some spec)) ∧
    ((Filter.ofSpecification limit spec = .error (.depthLimitExceeded limit) ↔
        Ranking.ofSpecification limit (some spec) = .error (.depthLimitExceeded limit)) ↔
      ¬(spec.depth = limit + 1 ∧ spec.height = limit + 1)) := by
  have hfilter : CutsOff limit (spec.depth - 1) (Filter.ofSpecification limit spec) :=
    Filter.cutsOff_ofSpecification h
  have hranking : CutsOff limit spec.height (Ranking.ofSpecification limit (some spec)) :=
    Ranking.cutsOff_ofSpecification spec
  have hnear := spec.height_near_depth
  refine ⟨hfilter, hranking, ?_⟩
  rw [hfilter.eq_error_iff, hranking.eq_error_iff]
  omega

/-- What lies deepest is an object without fields, below an array below the limit. -/
theorem Specification.exceeded_alike_iff_of_empty_object :
    let spec : Value := .object [("name", .string "Desc"), ("tags", .array [.object []])]
    spec.Unreserved ∧ CutsOff 1 2 (Filter.ofSpecification 1 spec) ∧
      CutsOff 1 2 (Ranking.ofSpecification 1 (some spec)) ∧
      (Filter.ofSpecification 1 spec = .error (.depthLimitExceeded 1) ↔
        Ranking.ofSpecification 1 (some spec) = .error (.depthLimitExceeded 1)) := by
  intro spec
  have hspec : spec.Unreserved := ⟨rfl, trivial, rfl, ⟨trivial, trivial⟩, trivial⟩
  have hdepth : spec.depth = 3 := rfl
  obtain ⟨hfilter, hranking, halike⟩ := exceeded_alike_iff hspec 1
  exact ⟨hspec, hfilter, hranking, halike.2 (by omega)⟩

/-- A filter may have a bare value one level below the limit, and a ranking may not. -/
theorem Specification.not_exceeded_alike :
    let spec : Value := .object [("a", .object [("b", .string "asc")])]
    spec.Unreserved ∧ (∃ filter, Filter.ofSpecification 1 spec = .ok filter) ∧
      Ranking.ofSpecification 1 (some spec) = .error (.depthLimitExceeded 1) := by
  intro spec
  have hspec : spec.Unreserved := ⟨rfl, ⟨rfl, trivial, trivial⟩, trivial⟩
  have hfilter : CutsOff 1 1 (Filter.ofSpecification 1 spec) :=
    Filter.cutsOff_ofSpecification hspec
  have hranking : CutsOff 1 2 (Ranking.ofSpecification 1 (some spec)) :=
    Ranking.cutsOff_ofSpecification spec
  exact ⟨hspec, hfilter.accepted (by omega), hranking.exceeded (by omega)⟩

end RecordQuery

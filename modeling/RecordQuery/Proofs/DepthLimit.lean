import RecordQuery.Filter.Basic
import RecordQuery.Proofs.Query.Grammar
import RecordQuery.Proofs.Query.Reordering
import RecordQuery.Proofs.Value.Normal
import RecordQuery.Ranking.Basic

/-!
# The limit on the depth of specifications

A limit on the depth of a specification only cuts off (`Specification.OnlyCutsOff`): there is a
threshold below which every limit is reported as exceeded, and from which on all limits have one
and the same outcome. A fault of another kind does not show below the threshold although it may lie
in a part that is not too deep, since what is too deep stands before it in the order of the
specification. Computations with a threshold are closed under everything that specifications are
read with, `Specification.within`, mapping and sequencing, so each reader needs one induction over
the specification; `Specification.limit_only_cuts_off` puts queries, filters and rankings together.
-/

namespace RecordQuery

/-- The outcome is not that a limit is exceeded. -/
def Specification.Settled {α : Type} (outcome : Except CompileError α) : Prop :=
  ∀ limit, outcome ≠ .error (.depthLimitExceeded limit)

namespace Specification

variable {α β γ : Type}

/-! ## Thresholds -/

/-- Limits below the threshold are exceeded, and all others have the outcome. -/
structure Threshold (made : Nat → Except CompileError α) (threshold : Nat)
    (outcome : Except CompileError α) : Prop where
  exceeded : ∀ limit < threshold, made limit = .error (.depthLimitExceeded limit)
  reached : ∀ limit, threshold ≤ limit → made limit = outcome
  settled : Settled outcome

/-- There is a threshold, which is not above the bound. -/
def HasThreshold (bound : Nat) (made : Nat → Except CompileError α) : Prop :=
  ∃ threshold ≤ bound, ∃ outcome, Threshold made threshold outcome

variable {bound : Nat} {made : Nat → Except CompileError α}

/-- Results are settled. -/
theorem settled_ok (a : α) : Settled (.ok a) := nofun

/-- What does not depend on the limit has a threshold if it is settled. -/
theorem hasThreshold_of_settled {outcome : Except CompileError α} (h : Settled outcome) :
    HasThreshold bound fun _ => outcome :=
  ⟨0, Nat.zero_le bound, outcome, nofun, fun _ _ => rfl, h⟩

/-- What is allowed at a depth has a threshold. -/
theorem HasThreshold.within (h : HasThreshold bound made) {depth : Nat} (hdepth : depth ≤ bound) :
    HasThreshold bound fun limit => within limit depth (made limit) := by
  obtain ⟨threshold, hbound, outcome, hmade⟩ := h
  refine ⟨max depth threshold, Nat.max_le.2 ⟨hdepth, hbound⟩, outcome, ?_, ?_, hmade.settled⟩
  · intro limit hlimit
    rw [Specification.within]
    split
    · rfl
    · exact hmade.exceeded limit (by omega)
  · intro limit hlimit
    rw [Specification.within, if_neg (by omega)]
    exact hmade.reached limit (by omega)

/-- What goes on from a result has a threshold if all that follows has. -/
theorem HasThreshold.bind {next : Nat → α → Except CompileError β} (h : HasThreshold bound made)
    (hnext : ∀ a, HasThreshold bound fun limit => next limit a) :
    HasThreshold bound fun limit => made limit >>= next limit := by
  obtain ⟨threshold, hbound, outcome, hmade⟩ := h
  cases outcome with
  | error e =>
    -- limits that are high enough meet this error, and what follows it is never asked
    refine ⟨threshold, hbound, .error e, ?_, ?_, ?_⟩
    · intro limit hlimit
      rw [hmade.exceeded limit hlimit]
      rfl
    · intro limit hlimit
      rw [hmade.reached limit hlimit]
      rfl
    · intro limit he
      exact hmade.settled limit (congrArg Except.error (Except.error.inj he))
  | ok a =>
    obtain ⟨threshold', hbound', outcome', hmade'⟩ := hnext a
    refine ⟨max threshold threshold', Nat.max_le.2 ⟨hbound, hbound'⟩, outcome', ?_, ?_,
      hmade'.settled⟩
    · -- a limit below both thresholds is exceeded in the first computation already
      intro limit hlimit
      rcases Nat.lt_or_ge limit threshold with hlt | hge
      · rw [hmade.exceeded limit hlt]
        rfl
      · rw [hmade.reached limit hge]
        exact hmade'.exceeded limit (by omega)
    · intro limit hlimit
      rw [hmade.reached limit (by omega)]
      exact hmade'.reached limit (by omega)

/-- What is made of a result has a threshold. -/
theorem HasThreshold.map (h : HasThreshold bound made) (f : α → β) :
    HasThreshold bound fun limit => (made limit).map f := by
  have hbind : HasThreshold bound fun limit => made limit >>= fun a => .ok (f a) :=
    h.bind fun a => hasThreshold_of_settled (settled_ok (f a))
  exact hbind

/-- What is made of two results has a threshold. -/
theorem HasThreshold.map₂ {made' : Nat → Except CompileError β} (h : HasThreshold bound made)
    (h' : HasThreshold bound made') (f : α → β → γ) :
    HasThreshold bound fun limit => made limit >>= fun a => made' limit >>= fun b => .ok (f a b) :=
  h.bind fun a => h'.bind fun b => hasThreshold_of_settled (settled_ok (f a b))

/-- A limit only cuts off: below a threshold that is not above the bound each limit is exceeded, and
from there on the outcome is one and the same. So an outcome that is settled stays when the limit is
raised. -/
structure OnlyCutsOff (bound : Nat) (made : Nat → Except CompileError α) : Prop where
  threshold : HasThreshold bound made
  raised : ∀ limit, Settled (made limit) → ∀ limit', limit ≤ limit' → made limit' = made limit

/-- A limit with a threshold only cuts off. -/
theorem HasThreshold.onlyCutsOff (h : HasThreshold bound made) : OnlyCutsOff bound made := by
  refine ⟨h, fun limit hsettled limit' hle => ?_⟩
  obtain ⟨threshold, _, outcome, hmade⟩ := h
  have hreached : threshold ≤ limit := by
    refine Nat.le_of_not_lt fun hlt => ?_
    exact hsettled limit (hmade.exceeded limit hlt)
  rw [hmade.reached limit hreached, hmade.reached limit' (Nat.le_trans hreached hle)]

end Specification

open Specification

/-! ## Queries -/

/-- No operand of a condition is refused because a limit is exceeded. -/
theorem Condition.settled_ofOperand (operator : Operator) (path : Path) (v : Value) :
    Settled (ofOperand operator path v) := by
  intro limit h
  have hfault : operator.fault? path v = some (.depthLimitExceeded limit) := by
    rw [← Query.refusal?_ofOperand, Query.refusal?_eq_some]
    exact h
  obtain ⟨demand, _, hdemand⟩ := Option.bind_eq_some_iff.1 hfault
  unfold Demand.fault? at hdemand
  split at hdemand
  · split at hdemand <;> cases hdemand
  · split at hdemand <;> cases hdemand

namespace Query

variable {bound depth : Nat} {path : Path}

/-- Fields have a threshold if each of them has. -/
theorem hasThreshold_ofFields {fields : List (String × Value)}
    (h : ∀ field ∈ fields, HasThreshold bound fun limit =>
      clauseOf limit depth path field.1 field.2) :
    HasThreshold bound fun limit => ofFields limit depth path fields := by
  induction fields with
  | nil => exact hasThreshold_of_settled (settled_ok [])
  | cons field rest ih =>
    obtain ⟨key, v⟩ := field
    rw [List.forall_mem_cons] at h
    simp only [ofFields_cons]
    exact h.1.map₂ (ih h.2) List.cons

/-- Items have a threshold if each of them has. -/
theorem hasThreshold_ofItems {items : List Value}
    (h : ∀ v ∈ items, ∀ path, HasThreshold bound fun limit => ofOperand limit depth path v)
    (i : Nat) : HasThreshold bound fun limit => ofItems limit depth path i items := by
  induction items generalizing i with
  | nil => exact hasThreshold_of_settled (settled_ok [])
  | cons v rest ih =>
    rw [List.forall_mem_cons] at h
    simp only [ofItems]
    exact (h.1 _).map₂ (ih h.2 (i + 1)) fun query => List.cons (.field (Text.decimal i) query)

/-- One of several operands has a threshold if it has one as a query. -/
theorem hasThreshold_memberOf {v : Value}
    (h : HasThreshold bound fun limit => ofOperand limit depth path v) :
    HasThreshold bound fun limit => memberOf limit depth path v := by
  cases v with
  | undefined => exact hasThreshold_of_settled nofun
  | null | bool | number | bigint | string | regex | array | object => exact h

/-- Operands have a threshold if each of them has. -/
theorem hasThreshold_ofOperands {items : List Value}
    (h : ∀ v ∈ items, ∀ path, HasThreshold bound fun limit => ofOperand limit depth path v)
    (i : Nat) : HasThreshold bound fun limit => ofOperands limit depth path i items := by
  induction items generalizing i with
  | nil => exact hasThreshold_of_settled (settled_ok [])
  | cons v rest ih =>
    rw [List.forall_mem_cons] at h
    simp only [ofOperands_cons]
    exact (hasThreshold_memberOf (h.1 _)).map₂ (ih h.2 (i + 1)) List.cons

/-- The clause of a field has a threshold if the value has as a query and under connectives. -/
theorem hasThreshold_clauseOf {key : String} {v : Value}
    (hquery : HasThreshold bound fun limit => ofOperand limit depth (path ++ [key]) v)
    (hoperands : ∀ connective,
      HasThreshold bound fun limit => operandsOf limit depth connective (path ++ [key]) v) :
    HasThreshold bound fun limit => clauseOf limit depth path key v := by
  unfold clauseOf
  cases Keyword.ofKey? key with
  | none => exact hquery.map (Clause.field key)
  | some keyword =>
    cases keyword with
    | condition operator =>
      have hsettled := Condition.settled_ofOperand operator (path ++ [key]) v
      exact (hasThreshold_of_settled hsettled).map Clause.condition
    | logic connective => exact (hoperands connective).map (Clause.logic connective)

/-- A part of a specification has a threshold, as a query and under connectives: limits that allow
all that is nested in it are not exceeded. -/
theorem hasThreshold_ofOperand {v : Value} (hbound : depth + v.depth ≤ bound) :
    (HasThreshold bound fun limit => ofOperand limit depth path v) ∧
      ∀ connective, HasThreshold bound fun limit => operandsOf limit depth connective path v := by
  induction v using Value.induct generalizing depth path with
  | undefined | null | bool | number | bigint | string | regex =>
    exact ⟨hasThreshold_of_settled nofun, fun _ => hasThreshold_of_settled nofun⟩
  | array items ih =>
    rw [Value.depth] at hbound
    have hitem : ∀ v ∈ items, ∀ depth path, depth + Value.itemsDepth items ≤ bound →
        HasThreshold bound fun limit => ofOperand limit depth path v := by
      intro v hv depth path hle
      have := Value.depth_le_itemsDepth hv
      exact (ih v hv (by omega)).1
    constructor
    · refine HasThreshold.within (hasThreshold_ofItems ?_ 0) (by omega)
      exact fun v hv path => hitem v hv _ path (by omega)
    · intro connective
      cases items with
      | nil => exact hasThreshold_of_settled nofun
      | cons first rest =>
        refine hasThreshold_ofOperands ?_ 0
        exact fun v hv path => hitem v hv _ path (by omega)
  | object fields ih =>
    rw [Value.depth] at hbound
    have hquery : HasThreshold bound fun limit => ofOperand limit depth path (.object fields) := by
      refine HasThreshold.within (hasThreshold_ofFields fun field hfield => ?_) (by omega)
      have := Value.depth_le_fieldsDepth hfield
      have hbelow : depth + 1 + field.2.depth ≤ bound := by omega
      exact hasThreshold_clauseOf (ih field hfield hbelow).1 (ih field hfield hbelow).2
    exact ⟨hquery, fun _ => hquery.map fun query => [query]⟩

/-- A specification of a query has a threshold. -/
theorem hasThreshold_ofSpecification (spec : Value) :
    HasThreshold spec.depth fun limit => ofSpecification limit spec := by
  cases spec with
  | object fields =>
    refine hasThreshold_ofFields fun field hfield => ?_
    have := Value.depth_le_fieldsDepth hfield
    have hbound : 0 + field.2.depth ≤ (Value.object fields).depth := by
      rw [Value.depth]
      omega
    exact hasThreshold_clauseOf (hasThreshold_ofOperand hbound).1 (hasThreshold_ofOperand hbound).2
  | array items =>
    refine hasThreshold_ofItems (fun v hv path => ?_) 0
    have := Value.depth_le_itemsDepth hv
    refine (hasThreshold_ofOperand ?_).1
    rw [Value.depth]
    omega
  | undefined | null | bool | number | bigint | string | regex =>
    exact hasThreshold_of_settled nofun

end Query

/-! ## Filters -/

/-- A specification of a filter has a threshold. -/
theorem Filter.hasThreshold_ofSpecification (spec : Value) :
    HasThreshold spec.depth fun limit => ofSpecification limit spec := by
  cases spec with
  | object | array => exact (Query.hasThreshold_ofSpecification _).map ofQuery
  | undefined | null | bool | number | bigint | string | regex =>
    exact hasThreshold_of_settled (settled_ok _)

/-! ## Rankings -/

namespace Ranking

variable {bound depth : Nat}

/-- Fields have a threshold if each of them has. -/
theorem hasThreshold_ofFields {fields : List (String × Value)}
    (h : ∀ field ∈ fields, HasThreshold bound fun limit => ofPart limit depth field.2) :
    HasThreshold bound fun limit => ofFields limit depth fields := by
  induction fields with
  | nil => exact hasThreshold_of_settled (settled_ok [])
  | cons field rest ih =>
    obtain ⟨key, v⟩ := field
    rw [List.forall_mem_cons] at h
    simp only [ofFields]
    exact h.1.map₂ (ih h.2) fun child => List.cons (key, child)

/-- Items have a threshold if each of them has. -/
theorem hasThreshold_ofItems {items : List Value}
    (h : ∀ v ∈ items, HasThreshold bound fun limit => ofPart limit depth v) (i : Nat) :
    HasThreshold bound fun limit => ofItems limit depth i items := by
  induction items generalizing i with
  | nil => exact hasThreshold_of_settled (settled_ok [])
  | cons v rest ih =>
    rw [List.forall_mem_cons] at h
    simp only [ofItems]
    exact h.1.map₂ (ih h.2 (i + 1)) fun child => List.cons (Text.decimal i, child)

/-- A part of a specification has a threshold: limits that allow all that is nested in it are not
exceeded. -/
theorem hasThreshold_ofPart {v : Value} (hbound : depth + v.depth ≤ bound) :
    HasThreshold bound fun limit => ofPart limit depth v := by
  induction v using Value.induct generalizing depth with
  | undefined | null | bool | number | bigint | string | regex =>
    exact (hasThreshold_of_settled (settled_ok _)).within (by omega)
  | array items ih =>
    rw [Value.depth] at hbound
    refine (HasThreshold.map (hasThreshold_ofItems ?_ 0) fields).within (by omega)
    intro v hv
    have := Value.depth_le_itemsDepth hv
    exact ih v hv (by omega)
  | object parts ih =>
    rw [Value.depth] at hbound
    refine (HasThreshold.map (hasThreshold_ofFields ?_) fields).within (by omega)
    intro field hfield
    have := Value.depth_le_fieldsDepth hfield
    exact ih field hfield (by omega)

end Ranking

/-! ## Specifications -/

/-- The limit on the depth of a specification only cuts off, whether a query, a filter or a ranking
is made of it, and no limit cuts off that is not below the depth of the value. -/
theorem Specification.limit_only_cuts_off (spec : Value) :
    (OnlyCutsOff spec.depth fun limit => Query.ofSpecification limit spec) ∧
    (OnlyCutsOff spec.depth fun limit => Filter.ofSpecification limit spec) ∧
    (OnlyCutsOff spec.depth fun limit => Ranking.ofSpecification limit (some spec)) := by
  refine ⟨?_, ?_, ?_⟩
  · exact (Query.hasThreshold_ofSpecification spec).onlyCutsOff
  · exact (Filter.hasThreshold_ofSpecification spec).onlyCutsOff
  · exact (Ranking.hasThreshold_ofPart (Nat.le_of_eq (Nat.zero_add _))).onlyCutsOff

end RecordQuery

import RecordQuery.Proofs.Query.OfSpecification

/-!
# The grammar of specifications

A specification is walked from its root in the order in which it is written, depth first. The walk
stops at sites (`Site`): at the root, at every object or array that is read as a query, at every
operand of an operator or a connective, and at every member of an array of operands. What a site
asks of the part that stands there is local (`Site.Legal`), and so is the error of a site that does
not get it (`Site.fault?`). A specification is accepted exactly if all its sites are legal, and the
error of one that is not accepted is that of the first site that is not (`ofSpecification_iff`).
-/

namespace RecordQuery

/-! ## What operators take -/

namespace Operator

/-- The value is what the operator takes as an operand. -/
def Takes : Operator → Value → Prop
  | membership _, v => v.kind = .array
  | subset _, v => v.kind = .array
  | superset _, v => v.kind = .array
  | existence, v => v.kind = .boolean
  | bits _, v => v.kind = .number
  | type _, v => v.kind = .string
  | pattern _, v =>
    v.kind = .regex ∨ ∃ source p, v = .string source ∧ Pattern.ofSource source = .ok p
  | equality _, _ => True
  | relation _, _ => True
  | inclusion _, _ => True
  | overlap _, _ => True

/-- What the operator demands of its operand, if it does not take everything. -/
def demand? : Operator → Option Demand
  | membership _ => some .array
  | subset _ => some .array
  | superset _ => some .array
  | existence => some .boolean
  | bits _ => some .number
  | type _ => some .string
  | pattern _ => some .pattern
  | equality _ => none
  | relation _ => none
  | inclusion _ => none
  | overlap _ => none

end Operator

/-- The kind that answers a demand. -/
def Demand.kind : Demand → Kind
  | array => .array
  | boolean => .boolean
  | number => .number
  | string => .string
  | pattern => .regex

/-- The error of an operand at a path that is not what the operator demands. -/
def Demand.fault? (operator : Operator) (path : Path) : Demand → Value → Option CompileError
  | pattern, .string source =>
    match Pattern.ofSource source with
    | .ok _ => none
    | .error fault => some (.invalidPattern fault)
  | demand, v =>
    if v.kind = demand.kind then none
    else some (.invalidOperand path operator demand v.kind)

/-- The error of an operand at a path that the operator does not take. -/
def Operator.fault? (operator : Operator) (path : Path) (v : Value) : Option CompileError :=
  operator.demand?.bind fun demand => demand.fault? operator path v

/-- An error of an operand that says where it is says that it is at the operand. -/
theorem Demand.path?_of_fault? (demand : Demand) {operator : Operator} {place : Path} {v : Value}
    {e : CompileError} (h : demand.fault? operator place v = some e) {path : Path}
    (hpath : e.path? = some path) : path = place := by
  unfold fault? at h
  split at h
  · split at h
    · cases h
    · cases h
      cases hpath
  · split at h
    · cases h
    · cases h
      exact (Option.some.inj hpath).symm

/-- An operand has no error exactly if it is taken. -/
theorem Operator.takes_iff {operator : Operator} {path : Path} {v : Value} :
    operator.Takes v ↔ operator.fault? path v = none := by
  have hkind : ∀ demand : Demand, demand ≠ .pattern →
      (v.kind = demand.kind ↔ demand.fault? operator path v = none) := by
    intro demand hne
    rw [Demand.fault?]
    · split <;> simp [*]
    · rintro source hpattern
      exact absurd hpattern hne
  cases operator with
  | membership | subset | superset => exact hkind .array (by decide)
  | existence => exact hkind .boolean (by decide)
  | bits => exact hkind .number (by decide)
  | type => exact hkind .string (by decide)
  | equality | relation | inclusion | overlap => exact iff_of_true trivial rfl
  | pattern negated =>
    cases v with
    | string source =>
      cases hread : Pattern.ofSource source with
      | ok p =>
        refine iff_of_true (.inr ⟨source, p, rfl, hread⟩) ?_
        simp [fault?, demand?, Demand.fault?, hread]
      | error fault =>
        refine iff_of_false ?_ (by simp [fault?, demand?, Demand.fault?, hread])
        rintro (hregex | ⟨_, p, ⟨⟩, hp⟩)
        · cases hregex
        · rw [hread] at hp
          cases hp
    | undefined | null | bool | number | bigint | regex | array | object =>
      simp [Takes, fault?, demand?, Demand.fault?, Demand.kind, Value.kind]

/-! ## Sites -/

namespace Query

/-- What a part of a specification is read as. -/
inductive Role where
  /-- The whole. -/
  | specification
  /-- A query, so many levels below the whole. -/
  | query (depth : Nat)
  /-- The operand of an operator. -/
  | operand (operator : Operator)
  /-- The operand of a connective, or the array of its operands. -/
  | operands (connective : Connective)
  /-- One of the operands in an array. -/
  | member

/-- A part of a specification, where it stands and what it is read as. -/
structure Site where
  path : Path
  role : Role
  part : Value

mutual
/-- The sites of a part one level below `depth`: none if it is a bare value, and otherwise that of a
query and those in it. -/
def partSites (depth : Nat) (path : Path) : Value → List Site
  | .object fields =>
    ⟨path, .query (depth + 1), .object fields⟩ :: fieldSites (depth + 1) path fields
  | .array items =>
    ⟨path, .query (depth + 1), .array items⟩ :: itemSites (depth + 1) path 0 items
  | _ => []

/-- The sites of what stands under a connective of a query at `depth`: an array lists operands. -/
def operandSites (depth : Nat) (path : Path) : Value → List Site
  | .object fields =>
    ⟨path, .query (depth + 1), .object fields⟩ :: fieldSites (depth + 1) path fields
  | .array items => memberSites depth path 0 items
  | _ => []

/-- The sites of the fields of a query at `depth`. -/
def fieldSites (depth : Nat) (path : Path) : List (String × Value) → List Site
  | [] => []
  | (key, v) :: rest =>
    (match Keyword.ofKey? key with
      | some (.condition operator) => [⟨path ++ [key], .operand operator, v⟩]
      | some (.logic connective) =>
        ⟨path ++ [key], .operands connective, v⟩ :: operandSites depth (path ++ [key]) v
      | none => partSites depth (path ++ [key]) v) ++ fieldSites depth path rest

/-- The sites of the items of a query at `depth`, which are its fields, from an index on. -/
def itemSites (depth : Nat) (path : Path) : Nat → List Value → List Site
  | _, [] => []
  | i, v :: rest =>
    partSites depth (path ++ [Text.decimal i]) v ++ itemSites depth path (i + 1) rest

/-- The sites of operands in an array, from an index on. -/
def memberSites (depth : Nat) (path : Path) : Nat → List Value → List Site
  | _, [] => []
  | i, v :: rest =>
    ⟨path ++ [Text.decimal i], .member, v⟩ :: partSites depth (path ++ [Text.decimal i]) v ++
      memberSites depth path (i + 1) rest
end

/-- The sites of a specification in the order of the walk. -/
def sites (spec : Value) : List Site :=
  ⟨[], .specification, spec⟩ ::
    match spec with
    | .object fields => ⟨[], .query 0, spec⟩ :: fieldSites 0 [] fields
    | .array items => ⟨[], .query 0, spec⟩ :: itemSites 0 [] 0 items
    | _ => []

namespace Site

/-- The part is what its role asks for: an object or array as the whole, a query that is nested no
deeper than the limit, an operand that its operator takes, and no undefined or missing operands of
connectives. -/
def Legal (limit : Nat) (site : Site) : Prop :=
  match site.role with
  | .specification => site.part.kind = .object ∨ site.part.kind = .array
  | .query depth => depth ≤ limit
  | .operand operator => operator.Takes site.part
  | .operands _ => site.part.kind ≠ .undefined ∧ site.part ≠ .array []
  | .member => site.part.kind ≠ .undefined

/-- The error of a part that is not what its role asks for. -/
def fault? (limit : Nat) (site : Site) : Option CompileError :=
  match site.role, site.part with
  | .specification, .object _ => none
  | .specification, .array _ => none
  | .specification, .undefined => some (.undefinedSpecification site.path)
  | .specification, v => some (.expectedQuery site.path v.kind)
  | .query depth, _ => if limit < depth then some (.depthLimitExceeded limit) else none
  | .operand operator, v => operator.fault? site.path v
  | .operands connective, .array [] => some (.emptyOperands site.path connective)
  | .operands _, .undefined => some (.undefinedSpecification site.path)
  | .operands _, _ => none
  | .member, .undefined => some (.undefinedSpecification site.path)
  | .member, _ => none

/-- A site has no error exactly if it is legal. -/
theorem legal_iff {limit : Nat} {site : Site} : site.Legal limit ↔ site.fault? limit = none := by
  obtain ⟨path, role, v⟩ := site
  cases role with
  | specification => cases v <;> simp [Legal, fault?, Value.kind]
  | query depth => simp [Legal, fault?]
  | operand operator => exact Operator.takes_iff
  | operands connective =>
    cases v with
    | array items => cases items <;> simp [Legal, fault?, Value.kind]
    | undefined | null | bool | number | bigint | string | regex | object =>
      simp [Legal, fault?, Value.kind]
  | member => cases v <;> simp [Legal, fault?, Value.kind]

/-- An error that says where it is says that it is at the site. -/
theorem path?_of_fault? {limit : Nat} {site : Site} {e : CompileError}
    (h : site.fault? limit = some e) {path : Path} (hpath : e.path? = some path) :
    path = site.path := by
  obtain ⟨place, role, v⟩ := site
  cases role with
  | specification =>
    cases v with
    | object | array => cases h
    | undefined | null | bool | number | bigint | string | regex =>
      cases h
      exact (Option.some.inj hpath).symm
  | query depth =>
    simp only [fault?] at h
    split at h
    · cases h
      cases hpath
    · cases h
  | operand operator =>
    obtain ⟨demand, _, hdemand⟩ := Option.bind_eq_some_iff.1 h
    exact demand.path?_of_fault? hdemand hpath
  | operands connective =>
    cases v with
    | array items =>
      cases items with
      | nil =>
        cases h
        exact (Option.some.inj hpath).symm
      | cons => cases h
    | undefined =>
      cases h
      exact (Option.some.inj hpath).symm
    | null | bool | number | bigint | string | regex | object => cases h
  | member =>
    cases v with
    | undefined =>
      cases h
      exact (Option.some.inj hpath).symm
    | null | bool | number | bigint | string | regex | array | object => cases h

end Site

/-! ## Descents -/

/-- The keys and indices of the path lead from the root of a value down to a part of it. -/
inductive Descent (root : Value) : Path → Value → Prop
  /-- No key leads to the root. -/
  | root : Descent root [] root
  /-- The key of a field leads to the field. -/
  | field {path : Path} {fields : List (String × Value)} {key : String} {v : Value} :
    Descent root path (.object fields) → (key, v) ∈ fields → Descent root (path ++ [key]) v
  /-- The index of an item leads to the item. -/
  | item {path : Path} {items : List Value} {i : Nat} {v : Value} :
    Descent root path (.array items) → items[i]? = some v →
    Descent root (path ++ [Text.decimal i]) v

section
variable {root : Value} {site : Site}

mutual
/-- Every site of a part that a path leads to is the end of a descent. -/
theorem descent_partSites {depth : Nat} {path : Path} : ∀ {v : Value}, Descent root path v →
    site ∈ partSites depth path v → Descent root site.path site.part
  | .object fields, h, hsite => by
    rcases List.mem_cons.1 hsite with rfl | hsite
    · exact h
    · exact descent_fieldSites (fun _ hfield => h.field hfield) hsite
  | .array items, h, hsite => by
    rcases List.mem_cons.1 hsite with rfl | hsite
    · exact h
    · refine descent_itemSites ?_ hsite
      intro j v hj
      rw [Nat.zero_add]
      exact h.item hj
  | .undefined, _, hsite | .null, _, hsite | .bool _, _, hsite | .number _, _, hsite
  | .bigint _, _, hsite | .string _, _, hsite | .regex _, _, hsite => by cases hsite

/-- Every site of what stands under a connective is the end of a descent. -/
theorem descent_operandSites {depth : Nat} {path : Path} : ∀ {v : Value}, Descent root path v →
    site ∈ operandSites depth path v → Descent root site.path site.part
  | .object fields, h, hsite => by
    rcases List.mem_cons.1 hsite with rfl | hsite
    · exact h
    · exact descent_fieldSites (fun _ hfield => h.field hfield) hsite
  | .array items, h, hsite => by
    refine descent_memberSites ?_ hsite
    intro j v hj
    rw [Nat.zero_add]
    exact h.item hj
  | .undefined, _, hsite | .null, _, hsite | .bool _, _, hsite | .number _, _, hsite
  | .bigint _, _, hsite | .string _, _, hsite | .regex _, _, hsite => by cases hsite

/-- Every site of fields that a path leads to is the end of a descent. -/
theorem descent_fieldSites {depth : Nat} {path : Path} : ∀ {fields : List (String × Value)},
    (∀ field ∈ fields, Descent root (path ++ [field.1]) field.2) →
      site ∈ fieldSites depth path fields → Descent root site.path site.part
  | [], _, hsite => by cases hsite
  | (key, v) :: rest, h, hsite => by
    obtain ⟨hfirst, hrest⟩ := List.forall_mem_cons.1 h
    rw [fieldSites] at hsite
    rcases List.mem_append.1 hsite with hsite | hsite
    · generalize Keyword.ofKey? key = keyword at hsite
      match keyword with
      | some (.condition operator) =>
        obtain rfl := List.mem_singleton.1 hsite
        exact hfirst
      | some (.logic connective) =>
        rcases List.mem_cons.1 hsite with rfl | hsite
        · exact hfirst
        · exact descent_operandSites hfirst hsite
      | none => exact descent_partSites hfirst hsite
    · exact descent_fieldSites hrest hsite

/-- Every site of items that a path leads to is the end of a descent. -/
theorem descent_itemSites {depth : Nat} {path : Path} : ∀ {i : Nat} {items : List Value},
    (∀ j v, items[j]? = some v → Descent root (path ++ [Text.decimal (i + j)]) v) →
      site ∈ itemSites depth path i items → Descent root site.path site.part
  | _, [], _, hsite => by cases hsite
  | i, v :: rest, h, hsite => by
    rw [itemSites] at hsite
    rcases List.mem_append.1 hsite with hsite | hsite
    · exact descent_partSites (h 0 v rfl) hsite
    · refine descent_itemSites ?_ hsite
      intro j w hj
      have hw := h (j + 1) w hj
      rwa [← Nat.add_assoc, Nat.add_right_comm] at hw

/-- Every site of operands that a path leads to is the end of a descent. -/
theorem descent_memberSites {depth : Nat} {path : Path} : ∀ {i : Nat} {items : List Value},
    (∀ j v, items[j]? = some v → Descent root (path ++ [Text.decimal (i + j)]) v) →
      site ∈ memberSites depth path i items → Descent root site.path site.part
  | _, [], _, hsite => by cases hsite
  | i, v :: rest, h, hsite => by
    rw [memberSites] at hsite
    rcases List.mem_append.1 hsite with hsite | hsite
    · rcases List.mem_cons.1 hsite with rfl | hsite
      · exact h 0 v rfl
      · exact descent_partSites (h 0 v rfl) hsite
    · refine descent_memberSites ?_ hsite
      intro j w hj
      have hw := h (j + 1) w hj
      rwa [← Nat.add_assoc, Nat.add_right_comm] at hw
end

/-- Every site of a specification is the end of a descent. -/
theorem descent_sites {spec : Value} (h : site ∈ sites spec) :
    Descent spec site.path site.part := by
  rcases List.mem_cons.1 h with rfl | h
  · exact .root
  · cases spec with
    | object fields =>
      rcases List.mem_cons.1 h with rfl | h
      · exact .root
      · exact descent_fieldSites (fun _ hfield => Descent.root.field hfield) h
    | array items =>
      rcases List.mem_cons.1 h with rfl | h
      · exact .root
      · refine descent_itemSites ?_ h
        intro j v hj
        rw [Nat.zero_add]
        exact Descent.root.item hj
    | undefined | null | bool | number | bigint | string | regex => cases h

end

/-! ## Refusals -/

/-- The error of a computation that has one. -/
def refusal? {α : Type} : Except CompileError α → Option CompileError
  | .ok _ => none
  | .error e => some e

section
variable {α β : Type} {x : Except CompileError α} {e : CompileError}

/-- Without an error there is a result. -/
theorem refusal?_eq_none : refusal? x = none ↔ ∃ a, x = .ok a := by
  cases x <;> simp [refusal?]

/-- The error is what the computation ends with. -/
theorem refusal?_eq_some : refusal? x = some e ↔ x = .error e := by
  cases x <;> simp [refusal?]

/-- What is made of a result does not fail. -/
theorem refusal?_map (f : α → β) : refusal? (x.map f) = refusal? x := by
  cases x <;> rfl

/-- What is made of a result at the end does not fail. -/
theorem refusal?_bind_pure (f : α → β) : refusal? (x >>= fun a => pure (f a)) = refusal? x := by
  cases x <;> rfl

/-- The first of two computations that fails gives the error. -/
theorem refusal?_bind {f : α → Except CompileError β} {second : Option CompileError}
    (h : ∀ a, refusal? (f a) = second) : refusal? (x >>= f) = (refusal? x).or second := by
  cases x with
  | ok a => exact h a
  | error e => rfl

/-- What lies too deep fails before it is looked at. -/
theorem refusal?_within (limit depth : Nat) :
    refusal? (Specification.within limit depth x) =
      (if limit < depth then some (.depthLimitExceeded limit) else none).or (refusal? x) := by
  rw [Specification.within]
  split <;> rfl

end

/-- An operand is refused with the error of its operator. -/
theorem refusal?_ofOperand (operator : Operator) (path : Path) (v : Value) :
    refusal? (Condition.ofOperand operator path v) = operator.fault? path v := by
  cases operator with
  | equality | relation | inclusion | overlap => rfl
  | existence | bits | type | membership | subset | superset =>
    rw [Condition.ofOperand, refusal?_map]
    cases v <;> rfl
  | pattern =>
    rw [Condition.ofOperand, refusal?_map]
    cases v with
    | string source =>
      simp only [Condition.patternOf, Operator.fault?, Operator.demand?, Option.bind_some,
        Demand.fault?]
      cases Pattern.ofSource source <;> rfl
    | undefined | null | bool | number | bigint | regex | array | object => rfl

section
variable {limit : Nat}

/-- The first error of some sites. -/
def firstFault? (limit : Nat) (sites : List Site) : Option CompileError :=
  sites.findSome? fun site => site.fault? limit

/-- The error of a site comes before those of the sites behind it. -/
theorem firstFault?_cons (site : Site) (rest : List Site) :
    firstFault? limit (site :: rest) = (site.fault? limit).or (firstFault? limit rest) := by
  rw [firstFault?, List.findSome?_cons]
  cases site.fault? limit <;> rfl

/-- The errors of sites come before those of the sites behind them. -/
theorem firstFault?_append (first second : List Site) :
    firstFault? limit (first ++ second) =
      (firstFault? limit first).or (firstFault? limit second) := by
  rw [firstFault?, List.findSome?_append]
  rfl

mutual
/-- A part is refused with the first error of its sites. -/
theorem refusal?_part {depth : Nat} {path : Path} : ∀ {v : Value},
    refusal? (ofOperand limit depth path v) = firstFault? limit (partSites depth path v)
  | .object fields => by
    rw [ofOperand, refusal?_within, refusal?_fields, partSites, firstFault?_cons]
    rfl
  | .array items => by
    rw [ofOperand, refusal?_within, refusal?_items, partSites, firstFault?_cons]
    rfl
  | .undefined | .null | .bool _ | .number _ | .bigint _ | .string _ | .regex _ => rfl

/-- Fields are refused with the first error of their sites. -/
theorem refusal?_fields {depth : Nat} {path : Path} : ∀ {fields : List (String × Value)},
    refusal? (ofFields limit depth path fields) = firstFault? limit (fieldSites depth path fields)
  | [] => rfl
  | (key, v) :: rest => by
    have hrest : ∀ clause : Clause Condition,
        refusal? (ofFields limit depth path rest >>= fun more => pure (clause :: more)) =
          firstFault? limit (fieldSites depth path rest) := by
      intro clause
      rw [refusal?_bind_pure, refusal?_fields]
    rw [fieldSites, firstFault?_append, ofFields]
    generalize Keyword.ofKey? key = keyword
    match keyword, v with
    | some (.condition operator), v =>
      refine (refusal?_bind hrest).trans (congrArg (Option.or · _) ?_)
      rw [refusal?_map, refusal?_ofOperand, firstFault?_cons]
      exact Option.or_none.symm
    | some (.logic connective), .array [] => rfl
    | some (.logic connective), .array (first :: more) =>
      refine (refusal?_bind hrest).trans (congrArg (Option.or · _) ?_)
      rw [refusal?_map, refusal?_members]
      rfl
    | some (.logic connective), .undefined => rfl
    | some (.logic connective), .object fields =>
      refine (refusal?_bind hrest).trans (congrArg (Option.or · _) ?_)
      rw [refusal?_map, refusal?_part]
      rfl
    | some (.logic connective), .null | some (.logic connective), .bool _
    | some (.logic connective), .number _ | some (.logic connective), .bigint _
    | some (.logic connective), .string _ | some (.logic connective), .regex _ =>
      exact refusal?_bind hrest
    | none, v =>
      refine (refusal?_bind hrest).trans (congrArg (Option.or · _) ?_)
      rw [refusal?_map, refusal?_part]

/-- Items are refused with the first error of their sites. -/
theorem refusal?_items {depth : Nat} {path : Path} : ∀ {i : Nat} {items : List Value},
    refusal? (ofItems limit depth path i items) = firstFault? limit (itemSites depth path i items)
  | _, [] => rfl
  | i, v :: rest => by
    have hrest : ∀ query : Query, refusal? (ofItems limit depth path (i + 1) rest >>= fun more =>
        pure (Clause.field (Text.decimal i) query :: more)) =
          firstFault? limit (itemSites depth path (i + 1) rest) := by
      intro query
      rw [refusal?_bind_pure, refusal?_items]
    rw [ofItems, refusal?_bind hrest, refusal?_part, itemSites, firstFault?_append]

/-- Operands are refused with the first error of their sites. -/
theorem refusal?_members {depth : Nat} {path : Path} : ∀ {i : Nat} {items : List Value},
    refusal? (ofOperands limit depth path i items) =
      firstFault? limit (memberSites depth path i items)
  | _, [] => rfl
  | i, v :: rest => by
    have hrest : ∀ query : Query, refusal? (ofOperands limit depth path (i + 1) rest >>= fun more =>
        pure (query :: more)) = firstFault? limit (memberSites depth path (i + 1) rest) := by
      intro query
      rw [refusal?_bind_pure, refusal?_members]
    have hpart : refusal? (ofOperand limit depth (path ++ [Text.decimal i]) v) =
        firstFault? limit (partSites depth (path ++ [Text.decimal i]) v) := refusal?_part
    rw [memberSites, firstFault?_append, firstFault?_cons]
    cases v with
    | undefined => rfl
    | null | bool | number | bigint | string | regex | array | object =>
      exact (refusal?_bind hrest).trans (congrArg (Option.or · _) hpart)
end

/-- A specification is refused with the first error of its sites. -/
theorem refusal?_ofSpecification (spec : Value) :
    refusal? (ofSpecification limit spec) = firstFault? limit (sites spec) := by
  have hroot : (if limit < 0 then some (CompileError.depthLimitExceeded limit) else none) = none :=
    if_neg (Nat.not_lt_zero limit)
  cases spec with
  | object fields =>
    rw [ofSpecification, refusal?_fields, sites, firstFault?_cons, firstFault?_cons]
    simp only [Site.fault?, hroot, Option.none_or]
  | array items =>
    rw [ofSpecification, refusal?_items, sites, firstFault?_cons, firstFault?_cons]
    simp only [Site.fault?, hroot, Option.none_or]
  | undefined | null | bool | number | bigint | string | regex => rfl

/-- The error is that of the first site that is not legal. A descent leads to the site, and if the
error says where it is, it is at the end of that descent. -/
def FirstFault (limit : Nat) (spec : Value) (e : CompileError) : Prop :=
  ∃ before site after, sites spec = before ++ site :: after ∧ (∀ s ∈ before, s.Legal limit) ∧
    site.fault? limit = some e ∧ Descent spec site.path site.part ∧
    ∀ path, e.path? = some path → path = site.path ∧
      path.location = String.intercalate "." ("$" :: site.path)

/-- A specification is accepted exactly if all its sites are legal, and otherwise refused with the
error of the first that is not. -/
theorem ofSpecification_iff (limit : Nat) (spec : Value) :
    ((∃ query, ofSpecification limit spec = .ok query) ↔ ∀ site ∈ sites spec, site.Legal limit) ∧
      ∀ e, ofSpecification limit spec = .error e ↔ FirstFault limit spec e := by
  constructor
  · rw [← refusal?_eq_none, refusal?_ofSpecification, firstFault?, List.findSome?_eq_none_iff]
    simp only [Site.legal_iff]
  · intro e
    rw [← refusal?_eq_some, refusal?_ofSpecification, firstFault?, List.findSome?_eq_some_iff]
    constructor
    · rintro ⟨before, site, after, hsites, hfault, hbefore⟩
      have hdescent : Descent spec site.path site.part :=
        descent_sites (hsites ▸ List.mem_append_right before (.head after))
      refine ⟨before, site, after, hsites, ?_, hfault, hdescent, ?_⟩
      · intro s hs
        exact Site.legal_iff.2 (hbefore s hs)
      · intro path hpath
        obtain rfl := Site.path?_of_fault? hfault hpath
        exact ⟨rfl, rfl⟩
    · rintro ⟨before, site, after, hsites, hbefore, hfault, _, _⟩
      refine ⟨before, site, after, hsites, hfault, ?_⟩
      intro s hs
      exact Site.legal_iff.1 (hbefore s hs)

end

end Query

end RecordQuery

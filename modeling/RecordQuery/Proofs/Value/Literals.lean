import Mathlib.Data.List.Basic
import RecordQuery.Proofs.Outcome
import RecordQuery.Value.OfJson

/-!
# Pattern literals

An object with a `$regex` text and at most `$flags` besides may stand for a pattern (`candidate?`).
It is a literal if its flags are absent or a text (`literal?`); with anything else under `$flags` it
is a lookalike, which is to be read as the object that it is. `ReplacesPatterns` says what reading
literals of a given form comes to: the value that plain JSON spells out, with a pattern for each
literal, or the first refusal of a literal in the order of the text.

The specification that is read takes lookalikes for literals without flags
(`ofSpecification_replaces`). So it is as it is to be where there are no lookalikes, and only there
(`ofSpecification_replaces_literals`).
-/

namespace RecordQuery

namespace Json

/-! ## Objects that may stand for patterns -/

/-- Induction on plain JSON, with a hypothesis for every item of an array and every field of an
object. -/
@[elab_as_elim]
theorem induct {motive : Json → Prop} (null : motive .null) (bool : ∀ b, motive (.bool b))
    (number : ∀ n, motive (.number n)) (string : ∀ s, motive (.string s))
    (array : ∀ items, (∀ j ∈ items, motive j) → motive (.array items))
    (object : ∀ fields, (∀ field ∈ fields, motive field.2) → motive (.object fields)) (j : Json) :
    motive j :=
  @Json.rec motive (fun items => ∀ j ∈ items, motive j)
    (fun fields => ∀ field ∈ fields, motive field.2) (fun field => motive field.2)
    null bool number string array object
    (fun _ h => nomatch h)
    (fun _ _ hd tl => List.forall_mem_cons.2 ⟨hd, tl⟩)
    (fun _ h => nomatch h)
    (fun _ _ hd tl => List.forall_mem_cons.2 ⟨hd, tl⟩)
    (fun _ _ h => h) j

/-- What an object may stand for a pattern with. -/
structure Candidate where
  /-- The text under `$regex`. -/
  source : String
  /-- What is under `$flags`, if anything is. -/
  flags? : Option Json

/-- The candidate that fields make: a text under `$regex`, and no further key but `$flags`. -/
def candidate? (fields : List (String × Json)) : Option Candidate :=
  if fields.all fun (key, _) => key == "$regex" || key == "$flags" then
    match fields.lookup "$regex" with
    | some (.string source) => some ⟨source, fields.lookup "$flags"⟩
    | _ => none
  else none

/-- The source and the flags of a literal: flags that are absent or a text. -/
def Candidate.texts? (candidate : Candidate) : Option (String × String) :=
  match candidate.flags? with
  | none => some (candidate.source, "")
  | some (.string flags) => some (candidate.source, flags)
  | some _ => none

/-- The candidate is no literal: there is something under `$flags` that is no text. -/
def Candidate.IsLookalike (candidate : Candidate) : Prop := candidate.texts? = none

/-- The source and the flags of the literal that fields make. -/
def literal? (fields : List (String × Json)) : Option (String × String) :=
  (candidate? fields).bind Candidate.texts?

/-- The source and the flags that fields are taken for: those of a literal, and those of a
lookalike as if there were no flags. -/
def taken? (fields : List (String × Json)) : Option (String × String) :=
  (candidate? fields).map fun candidate => candidate.texts?.getD (candidate.source, "")

section
variable {α : Type}

mutual
/-- What the outermost objects of a form amount to, at any depth and in the order of the text. -/
def outermost (form? : List (String × Json) → Option α) : Json → List α
  | .array items => outermostItems form? items
  | .object fields =>
    match form? fields with
    | some a => [a]
    | none => outermostFields form? fields
  | _ => []

/-- What the outermost objects of a form in items amount to. -/
def outermostItems (form? : List (String × Json) → Option α) : List Json → List α
  | [] => []
  | j :: rest => outermost form? j ++ outermostItems form? rest

/-- What the outermost objects of a form in fields amount to. -/
def outermostFields (form? : List (String × Json) → Option α) : List (String × Json) → List α
  | [] => []
  | (_, j) :: rest => outermost form? j ++ outermostFields form? rest
end

/-- The objects in items are those of each item. -/
theorem outermostItems_eq_flatMap (form? : List (String × Json) → Option α) (items : List Json) :
    outermostItems form? items = items.flatMap (outermost form?) := by
  induction items with
  | nil => rfl
  | cons j rest ih => rw [outermostItems, ih, List.flatMap_cons]

/-- The objects in fields are those of each field. -/
theorem outermostFields_eq_flatMap (form? : List (String × Json) → Option α)
    (fields : List (String × Json)) :
    outermostFields form? fields = fields.flatMap fun field => outermost form? field.2 := by
  induction fields with
  | nil => rfl
  | cons field rest ih =>
    obtain ⟨key, j⟩ := field
    rw [outermostFields, ih, List.flatMap_cons]

end

end Json

namespace Value

open Json

/-! ## Values with patterns -/

/-- The pattern with a source and flags, if it is accepted. -/
def accepted? (texts : String × String) : Option Pattern :=
  (Pattern.withFlags texts.1 texts.2).toOption

/-- The fault for which a source and flags are refused, if they are. -/
def refusal? (texts : String × String) : Option Pattern.Fault :=
  match Pattern.withFlags texts.1 texts.2 with
  | .ok _ => none
  | .error fault => some fault

mutual
/-- The value that plain JSON spells out, with a pattern in place of each object of a form. -/
def ofJsonWith (form? : List (String × Json) → Option (String × String)) : Json → Value
  | .array items => .array (ofJsonItemsWith form? items)
  | .object fields =>
    match (form? fields).bind accepted? with
    | some p => .regex p
    | none => .object (ofJsonFieldsWith form? fields)
  | j => ofJson j

/-- The values that plain JSON items spell out, with patterns. -/
def ofJsonItemsWith (form? : List (String × Json) → Option (String × String)) :
    List Json → List Value
  | [] => []
  | j :: rest => ofJsonWith form? j :: ofJsonItemsWith form? rest

/-- The fields that plain JSON fields spell out, with patterns. -/
def ofJsonFieldsWith (form? : List (String × Json) → Option (String × String)) :
    List (String × Json) → List (String × Value)
  | [] => []
  | (key, j) :: rest => (key, ofJsonWith form? j) :: ofJsonFieldsWith form? rest
end

/-- The outcome is plain JSON with a pattern for each object of a form, or the first refusal of such
a pattern in the order of the text. -/
def ReplacesPatterns (form? : List (String × Json) → Option (String × String)) (j : Json)
    (outcome : Except Pattern.Fault Value) : Prop :=
  Yields outcome
    (fun v => (∀ texts ∈ j.outermost form?, (accepted? texts).isSome = true) ∧
      v = ofJsonWith form? j)
    ((j.outermost form?).filterMap refusal?)

section
variable (form? : List (String × Json) → Option (String × String))

/-- Items spell out values one by one. -/
theorem ofJsonItems_eq_map (items : List Json) : ofJsonItems items = items.map ofJson := by
  induction items with
  | nil => rfl
  | cons j rest ih => rw [ofJsonItems, ih, List.map_cons]

/-- Fields spell out values one by one. -/
theorem ofJsonFields_eq_map (fields : List (String × Json)) :
    ofJsonFields fields = fields.map fun (key, j) => (key, ofJson j) := by
  induction fields with
  | nil => rfl
  | cons field rest ih =>
    obtain ⟨key, j⟩ := field
    rw [ofJsonFields, ih, List.map_cons]

/-- Items spell out values with patterns one by one. -/
theorem ofJsonItemsWith_eq_map (items : List Json) :
    ofJsonItemsWith form? items = items.map (ofJsonWith form?) := by
  induction items with
  | nil => rfl
  | cons j rest ih => rw [ofJsonItemsWith, ih, List.map_cons]

/-- Fields spell out values with patterns one by one. -/
theorem ofJsonFieldsWith_eq_map (fields : List (String × Json)) :
    ofJsonFieldsWith form? fields = fields.map fun (key, j) => (key, ofJsonWith form? j) := by
  induction fields with
  | nil => rfl
  | cons field rest ih =>
    obtain ⟨key, j⟩ := field
    rw [ofJsonFieldsWith, ih, List.map_cons]

/-- Where no object is of the form, there are no patterns. -/
theorem ofJsonWith_eq_ofJson {j : Json} (h : j.outermost form? = []) :
    ofJsonWith form? j = ofJson j := by
  induction j using Json.induct with
  | null | bool | number | string => rfl
  | array items ih =>
    rw [outermost, outermostItems_eq_flatMap, List.flatMap_eq_nil_iff] at h
    rw [ofJsonWith, ofJson, ofJsonItemsWith_eq_map, ofJsonItems_eq_map]
    exact congrArg array (List.map_congr_left fun j hj => ih j hj (h j hj))
  | object fields ih =>
    rw [outermost] at h
    cases hform : form? fields with
    | some texts =>
      rw [hform] at h
      cases h
    | none =>
      simp only [hform, outermostFields_eq_flatMap, List.flatMap_eq_nil_iff] at h
      rw [ofJsonWith, hform, ofJson, ofJsonFieldsWith_eq_map, ofJsonFields_eq_map]
      refine congrArg object (List.map_congr_left fun field hfield => ?_)
      exact congrArg (Prod.mk field.1) (ih field hfield (h field hfield))

end

/-! ## What is read -/

/-- The reader takes candidates for the texts of literals, lookalikes included. -/
theorem patternFields?_eq_taken? : patternFields? = taken? := by
  funext fields
  unfold patternFields? taken? candidate?
  by_cases hkeys : (fields.all fun (key, _) => key == "$regex" || key == "$flags") = true
  · rw [if_pos hkeys, if_pos hkeys]
    cases fields.lookup "$regex" with
    | none => rfl
    | some source =>
      cases source with
      | string source =>
        cases fields.lookup "$flags" with
        | none => rfl
        | some flags => cases flags <;> rfl
      | null | bool | number | array | object => cases fields.lookup "$flags" <;> rfl
  · rw [if_neg hkeys, if_neg hkeys, Option.map_none]

/-- The outcome is the given result if all the texts are accepted as patterns, and else the first
refusal among them. -/
def Makes {α : Type} (texts : List (String × String)) (a : α) (outcome : Except Pattern.Fault α) :
    Prop :=
  Yields outcome (fun b => (∀ t ∈ texts, (accepted? t).isSome = true) ∧ b = a)
    (texts.filterMap refusal?)

namespace Makes

variable {α β : Type} {texts more : List (String × String)} {a : α} {bs : List β}

/-- Where no pattern is to be made, none is refused. -/
theorem nothing (a : α) : Makes [] a (.ok a) := by
  refine (Yields.result a).congr fun b => ?_
  exact ⟨fun h => ⟨fun _ hmem => (List.not_mem_nil hmem).elim, h.symm⟩, fun h => h.2.symm⟩

/-- A result may be wrapped. -/
theorem map {outcome : Except Pattern.Fault α} (h : Makes texts a outcome) (f : α → β) :
    Makes texts (f a) (outcome.map f) := by
  refine (Yields.map h f).congr fun b => ?_
  constructor
  · rintro ⟨_, ⟨hall, rfl⟩, rfl⟩
    exact ⟨hall, rfl⟩
  · rintro ⟨hall, rfl⟩
    exact ⟨_, ⟨hall, rfl⟩, rfl⟩

/-- Results are made one after the other, and a refusal among the first comes before all others. -/
theorem cons {first : Except Pattern.Fault α} {rest : Except Pattern.Fault (List β)}
    (h : Makes texts a first) (hrest : Makes more bs rest) (f : α → β) :
    Makes (texts ++ more) (f a :: bs) (do return f (← first) :: (← rest)) := by
  rw [Makes, List.filterMap_append, List.forall_mem_append]
  refine (Yields.bind h fun a' _ => Yields.bind_pure hrest (f a' :: ·)).congr fun b => ?_
  constructor
  · rintro ⟨_, ⟨htexts, rfl⟩, _, ⟨hmore, rfl⟩, rfl⟩
    exact ⟨⟨htexts, hmore⟩, rfl⟩
  · rintro ⟨⟨htexts, hmore⟩, rfl⟩
    exact ⟨_, ⟨htexts, rfl⟩, _, ⟨hmore, rfl⟩, rfl⟩

end Makes

section
variable {form? : List (String × Json) → Option (String × String)}

/-- Items are read one after the other. -/
theorem makes_ofSpecificationItems {items : List Json}
    (h : ∀ j ∈ items, ReplacesPatterns form? j (ofSpecification j)) :
    Makes (outermostItems form? items) (ofJsonItemsWith form? items)
      (ofSpecificationItems items) := by
  induction items with
  | nil => exact .nothing []
  | cons j rest ih =>
    rw [List.forall_mem_cons] at h
    exact .cons h.1 (ih h.2) id

/-- Fields are read one after the other. -/
theorem makes_ofSpecificationFields {fields : List (String × Json)}
    (h : ∀ field ∈ fields, ReplacesPatterns form? field.2 (ofSpecification field.2)) :
    Makes (outermostFields form? fields) (ofJsonFieldsWith form? fields)
      (ofSpecificationFields fields) := by
  induction fields with
  | nil => exact .nothing []
  | cons field rest ih =>
    obtain ⟨key, j⟩ := field
    rw [List.forall_mem_cons] at h
    exact .cons h.1 (ih h.2) (Prod.mk key)

end

/-- A pattern is accepted or refused. -/
theorem withFlags_yields (texts : String × String) :
    Yields ((Pattern.withFlags texts.1 texts.2).map regex)
      (fun v => ∃ p, accepted? texts = some p ∧ v = regex p) (refusal? texts).toList := by
  unfold accepted? refusal?
  cases Pattern.withFlags texts.1 texts.2 with
  | ok p => exact (Yields.result (regex p)).congr fun v => by simp [Except.toOption, eq_comm]
  | error fault => exact (Yields.fault fault []).congr fun v => by simp [Except.toOption]

/-- The specification that is read has patterns for candidates, with the flags of a lookalike left
out. -/
theorem ofSpecification_replaces (j : Json) : ReplacesPatterns taken? j (ofSpecification j) := by
  induction j using Json.induct with
  | null | bool | number | string => exact Makes.nothing _
  | array items ih =>
    rw [ReplacesPatterns, outermost, ofSpecification, ofJsonWith]
    exact (makes_ofSpecificationItems ih).map array
  | object fields ih =>
    rw [ReplacesPatterns, outermost, ofSpecification, ofJsonWith, patternFields?_eq_taken?]
    cases taken? fields with
    | some texts =>
      have hfaults : [texts].filterMap refusal? = (refusal? texts).toList := by
        cases hrefusal : refusal? texts <;> simp [hrefusal]
      rw [List.forall_mem_singleton, hfaults]
      refine (withFlags_yields texts).congr fun v => ?_
      cases haccepted : accepted? texts with
      | some p => simp [haccepted]
      | none => simp
    | none => exact (makes_ofSpecificationFields ih).map object

/-! ## Lookalikes -/

/-- No object that may stand for a pattern is a lookalike. -/
def NoLookalikes (j : Json) : Prop :=
  ∀ candidate ∈ j.outermost candidate?, ¬ candidate.IsLookalike

/-- There are no lookalikes in an array if there are none in its items. -/
theorem noLookalikes_array {items : List Json} :
    NoLookalikes (.array items) ↔ ∀ j ∈ items, NoLookalikes j := by
  rw [NoLookalikes, outermost, outermostItems_eq_flatMap, List.forall_mem_flatMap]
  rfl

/-- There are no lookalikes in an object that is no candidate if there are none in its fields. -/
theorem noLookalikes_object {fields : List (String × Json)} (h : candidate? fields = none) :
    NoLookalikes (.object fields) ↔ ∀ field ∈ fields, NoLookalikes field.2 := by
  rw [NoLookalikes, outermost, h]
  dsimp only
  rw [outermostFields_eq_flatMap, List.forall_mem_flatMap]
  rfl

/-- A candidate is the only one in its object. -/
theorem noLookalikes_candidate {fields : List (String × Json)} {candidate : Candidate}
    (h : candidate? fields = some candidate) :
    NoLookalikes (.object fields) ↔ ¬ candidate.IsLookalike := by
  rw [NoLookalikes, outermost, h]
  exact List.forall_mem_singleton

/-- What is no candidate is neither taken for a literal nor is it one. -/
theorem forms_of_candidate?_eq_none {fields : List (String × Json)} (h : candidate? fields = none) :
    taken? fields = none ∧ literal? fields = none := by
  rw [taken?, literal?, h]
  exact ⟨rfl, rfl⟩

/-- A candidate is taken for its texts, if it is a literal, and else for its source alone. -/
theorem forms_of_candidate?_eq_some {fields : List (String × Json)} {candidate : Candidate}
    (h : candidate? fields = some candidate) :
    taken? fields = some (candidate.texts?.getD (candidate.source, "")) ∧
      literal? fields = candidate.texts? := by
  rw [taken?, literal?, h]
  exact ⟨rfl, rfl⟩

/-- Without lookalikes the literals are what is taken for one. -/
theorem outermost_taken? {j : Json} (h : NoLookalikes j) :
    j.outermost taken? = j.outermost literal? := by
  induction j using Json.induct with
  | null | bool | number | string => rfl
  | array items ih =>
    rw [noLookalikes_array] at h
    rw [outermost, outermost, outermostItems_eq_flatMap, outermostItems_eq_flatMap]
    exact List.flatMap_congr fun j hj => ih j hj (h j hj)
  | object fields ih =>
    rw [outermost, outermost]
    cases hcandidate : candidate? fields with
    | some candidate =>
      obtain ⟨htaken, hliteral⟩ := forms_of_candidate?_eq_some hcandidate
      rw [noLookalikes_candidate hcandidate, Candidate.IsLookalike] at h
      obtain ⟨texts, htexts⟩ := Option.ne_none_iff_exists'.1 h
      rw [htaken, hliteral, htexts, Option.getD_some]
    | none =>
      obtain ⟨htaken, hliteral⟩ := forms_of_candidate?_eq_none hcandidate
      rw [noLookalikes_object hcandidate] at h
      rw [htaken, hliteral]
      dsimp only
      rw [outermostFields_eq_flatMap, outermostFields_eq_flatMap]
      exact List.flatMap_congr fun field hfield => ih field hfield (h field hfield)

/-- If all that is taken for a literal is accepted, then the value is the one with the literals
only where there are no lookalikes. -/
theorem ofJsonWith_taken?_iff {j : Json}
    (h : ∀ texts ∈ j.outermost taken?, (accepted? texts).isSome = true) :
    ofJsonWith taken? j = ofJsonWith literal? j ↔ NoLookalikes j := by
  induction j using Json.induct with
  | null | bool | number | string =>
    exact iff_of_true rfl fun _ hmem => (List.not_mem_nil hmem).elim
  | array items ih =>
    rw [outermost, outermostItems_eq_flatMap, List.forall_mem_flatMap] at h
    rw [ofJsonWith, ofJsonWith, array.injEq, ofJsonItemsWith_eq_map, ofJsonItemsWith_eq_map,
      List.map_inj_left, noLookalikes_array]
    exact forall₂_congr fun j hj => ih j hj (h j hj)
  | object fields ih =>
    rw [outermost] at h
    rw [ofJsonWith, ofJsonWith]
    cases hcandidate : candidate? fields with
    | some candidate =>
      obtain ⟨htaken, hliteral⟩ := forms_of_candidate?_eq_some hcandidate
      rw [htaken, List.forall_mem_singleton] at h
      obtain ⟨p, hp⟩ := Option.isSome_iff_exists.1 h
      rw [noLookalikes_candidate hcandidate, htaken, hliteral, Option.bind_some, hp,
        Candidate.IsLookalike]
      -- a lookalike is a pattern on the one side and an object on the other
      cases htexts : candidate.texts? with
      | none => exact iff_of_false nofun fun hnot => hnot rfl
      | some texts =>
        rw [htexts, Option.getD_some] at hp
        rw [Option.bind_some, hp]
        exact iff_of_true rfl nofun
    | none =>
      obtain ⟨htaken, hliteral⟩ := forms_of_candidate?_eq_none hcandidate
      simp only [htaken, outermostFields_eq_flatMap, List.forall_mem_flatMap] at h
      rw [htaken, hliteral, Option.bind_none, object.injEq, ofJsonFieldsWith_eq_map,
        ofJsonFieldsWith_eq_map, List.map_inj_left, noLookalikes_object hcandidate]
      refine forall₂_congr fun field hfield => ?_
      rw [← ih field hfield (h field hfield), Prod.mk.injEq]
      exact and_iff_right rfl

/-- Patterns are read where candidates are, with the flags of a lookalike left out. So exactly the
literals are read as patterns where there are no lookalikes, and a value that is read of anything
else is another one than the literals make. -/
theorem ofSpecification_replaces_literals (j : Json) :
    ReplacesPatterns taken? j (ofSpecification j) ∧
      (NoLookalikes j → ReplacesPatterns literal? j (ofSpecification j)) ∧
      ∀ v, ofSpecification j = .ok v → (v = ofJsonWith literal? j ↔ NoLookalikes j) := by
  have hreplaces := ofSpecification_replaces j
  refine ⟨hreplaces, fun h => ?_, fun v hv => ?_⟩
  · rw [ReplacesPatterns, ← outermost_taken? h]
    refine Yields.congr hreplaces fun v => and_congr_right fun haccepted => ?_
    rw [(ofJsonWith_taken?_iff haccepted).2 h]
  · obtain ⟨haccepted, rfl⟩ := (hreplaces.ok v).1 hv
    exact ofJsonWith_taken?_iff haccepted

/-- A `$regex` text with a number as its flags. -/
def lookalike : Json := .object [("$regex", .string "a"), ("$flags", .number (.unsigned 5))]

/-- The lookalike is not read as the object that it is. -/
theorem not_replacesPatterns_lookalike :
    ¬ ReplacesPatterns literal? lookalike (ofSpecification lookalike) := by
  intro h
  have hkind : (ofSpecification lookalike).toOption.map kind = some .regex := by decide +kernel
  obtain ⟨v, hv, hregex⟩ := Option.map_eq_some_iff.1 hkind
  obtain ⟨_, rfl⟩ := (h.ok v).1 (toOption_eq_some.1 hv)
  cases hregex

end Value

end RecordQuery

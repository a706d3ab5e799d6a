import RecordQuery.Proofs.Json.Building
import RecordQuery.Proofs.Value.Literals

/-!
# Records and specifications read alike

A record is read directly, and a specification by way of plain JSON. Both come to the same value
(`read?_eq_map_ofJson`), which is the one that the text spells: every key of an object stands where
it first came, with the value that came last, at every depth (`Spells`). So a specification without
pattern literals is the record of the same text, unless it has lookalikes
(`read?_agrees_unless_lookalikes`).
-/

namespace RecordQuery

namespace Json

/-- Plain JSON with every entry of an object, repeated keys included. -/
def verbatim : Builder Json := { plain with object := .object }

/-- The JSON that a text consists of, with repeated keys. -/
def verbatim? (text : String) : Option Json := verbatim.read? depthLimit text

end Json

namespace Value

open Json

/-- The entries of the text spell the value: in an object every key stands where it first came, with
the value of the entry that came last. -/
inductive Spells : Json → Value → Prop
  | null : Spells .null .null
  | bool (b : Bool) : Spells (.bool b) (.bool b)
  | number (n : Numeral) : Spells (.number n) (.number n.toNumber)
  | string (s : String) : Spells (.string s) (.string s)
  | array {items : List Json} {vs : List Value} (h : List.Forall₂ Spells items vs) :
    Spells (.array items) (.array vs)
  | object {entries : List (String × Json)} {fields : List (String × Value)}
    (keys : Fields.keys fields = (Fields.keys entries).eraseDups)
    (values : ∀ key j v, entries.reverse.lookup key = some j → fields.lookup key = some v →
      Spells j v) :
    Spells (.object entries) (.object fields)

/-! ## The three readings -/

/-- Plain JSON is made into the value that is made at once. -/
theorem plain_related : plain.Related (fun j v => ofJson j = v) builder where
  null := rfl
  bool _ := rfl
  number _ := rfl
  string _ := rfl
  array {items vs} h := by
    rw [← List.forall₂_map_left_iff, List.forall₂_eq_eq_eq] at h
    rw [← h]
    exact congrArg array (ofJsonItems_eq_map items)
  object {entries entries'} h := by
    have hfields : ofJsonFields (Fields.ofEntries entries) = Fields.ofEntries entries' := by
      rw [h.ofEntries.eq_map, ofJsonFields_eq_map]
    exact congrArg object hfields

/-- The entries of a text spell the value that is made of them. -/
theorem verbatim_related : verbatim.Related Spells builder where
  null := .null
  bool := .bool
  number {n} _ := .number n
  string := .string
  array := .array
  object {entries entries'} h := by
    refine .object ?_ fun key j v hj hv => ?_
    · rw [Fields.keys_ofEntries, h.keys_eq]
    · have hvalues := h.reverse.lookup key
      rw [← Fields.lookup_ofEntries entries', hj, hv] at hvalues
      cases hvalues with
      | some hjv => exact hjv

/-- A record is what the plain JSON of its text spells out, and there is none where that is not
JSON. -/
theorem read?_eq_map_ofJson (text : String) : read? text = (Json.read? text).map ofJson :=
  plain_related.read?_eq_map depthLimit text

/-- A record is spelled by its text. -/
theorem spells_of_read? {text : String} {v : Value} (h : read? text = some v) :
    ∃ j, verbatim? text = some j ∧ Spells j v := by
  have hread := verbatim_related.read? depthLimit text
  rw [read?] at h
  rw [h] at hread
  cases hj : verbatim.read? depthLimit text with
  | none =>
    rw [hj] at hread
    cases hread
  | some j =>
    rw [hj] at hread
    cases hread with
    | some hspells => exact ⟨j, hj, hspells⟩

/-- Without literals a specification is plain JSON just if it has no lookalikes. -/
theorem ofSpecification_eq_ofJson_iff {j : Json} (h : j.outermost literal? = []) :
    ofSpecification j = .ok (ofJson j) ↔ NoLookalikes j := by
  have hreplaces := ofSpecification_replaces j
  rw [← ofJsonWith_eq_ofJson literal? h]
  constructor
  · intro hok
    obtain ⟨haccepted, heq⟩ := (hreplaces.ok _).1 hok
    exact (ofJsonWith_taken?_iff haccepted).1 heq.symm
  · intro hlookalikes
    have hnone : j.outermost taken? = [] := (outermost_taken? hlookalikes).trans h
    have haccepted : ∀ texts ∈ j.outermost taken?, (accepted? texts).isSome = true := by
      rw [hnone]
      exact fun _ hmem => (List.not_mem_nil hmem).elim
    exact (hreplaces.ok _).2
      ⟨haccepted, ((ofJsonWith_taken?_iff haccepted).2 hlookalikes).symm⟩

/-- A text is a record just if it is plain JSON, and then the record is what that spells out: every
key at its first place and with its last value, at every depth. A specification of the same text
without pattern literals is the same value, unless it has lookalikes. -/
theorem read?_agrees_unless_lookalikes (text : String) :
    read? text = (Json.read? text).map ofJson ∧
      (∀ v, read? text = some v → ∃ j, verbatim? text = some j ∧ Spells j v) ∧
      ∀ j, Json.read? text = some j → j.outermost literal? = [] →
        (ofSpecification j = .ok (ofJson j) ↔ NoLookalikes j) :=
  ⟨read?_eq_map_ofJson text, fun _ => spells_of_read?, fun _ _ => ofSpecification_eq_ofJson_iff⟩

/-- The text of a lookalike is one record and another specification, although it has no literal. -/
theorem read?_disagrees_on_lookalike :
    ∃ j, Json.read? "\x7b\"$regex\":\"a\",\"$flags\":5\x7d" = some j ∧
      j.outermost literal? = [] ∧ ofSpecification j ≠ .ok (ofJson j) := by
  have hread : (Json.read? "\x7b\"$regex\":\"a\",\"$flags\":5\x7d").any (fun j =>
      (j.outermost literal?).isEmpty &&
        (ofSpecification j).toOption.map kind != some (ofJson j).kind) = true := by
    decide +kernel
  obtain ⟨j, hj, hboth⟩ := (Option.any_eq_true _ _).1 hread
  rw [Bool.and_eq_true, List.isEmpty_iff, bne_iff_ne] at hboth
  refine ⟨j, hj, hboth.1, fun hok => hboth.2 ?_⟩
  rw [hok]
  rfl

end Value

end RecordQuery

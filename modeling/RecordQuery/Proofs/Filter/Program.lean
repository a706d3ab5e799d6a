import RecordQuery.Proofs.Filter.Meaning
import RecordQuery.Proofs.Source.Program

/-!
# The source of a filter as a program

The source of a filter is the text of a program (`Written`): the fragments that its declarations
carry, and a level whose tests express the conditions of the query and that is judged as the filter
is. `exists_written` gives the program for the filter of a query.
-/

namespace RecordQuery

open Source

namespace Context

variable {context : Context} {parts : List Fragment} {path : Path} {form : Form} {c : Condition}

/-- The fragments are carried by the declarations of the context. -/
def Carries (context : Context) (parts : List Fragment) : Prop :=
  List.Forall₂ context.Accounts context.declarations parts

/-- Carried fragments are valid. -/
theorem Carries.valid (h : context.Carries parts) : ∀ part ∈ parts, part.Valid := by
  intro part hpart
  obtain ⟨d, _, haccounts⟩ := Value.exists_mem_of_forall₂ h hpart
  exact haccounts.fragment.1

/-- Declarations have the texts of the fragments that they carry. -/
theorem Carries.text (h : context.Carries parts) :
    List.Forall₂ (fun d (part : Fragment) => d.fragment = part.text) context.declarations parts :=
  h.imp fun _ _ haccounts => haccounts.fragment.2

/-- A declaration with the text of a fragment carries the fragment, in the same place. -/
theorem Carries.part (h : context.Carries parts) {i : Nat} {d : Declaration}
    (hi : context.declarations[i]? = some d) {part : Fragment} (hpart : part.Valid)
    (htext : d.fragment = part.text) : parts[i]? = some part := by
  obtain ⟨hlt, rfl⟩ := List.getElem?_eq_some_iff.1 hi
  have hlt' : i < parts.length := h.length_eq ▸ hlt
  obtain ⟨hvalid, hcarried⟩ := (h.get hlt hlt').fragment
  rw [List.getElem?_eq_getElem hlt']
  exact congrArg some (Fragment.text_injective hvalid hpart (hcarried.symm.trans htext))

/-- The fragment of a bound set is carried in its place. -/
theorem Binds.part (hparts : context.Carries parts) {binding : Binding} {literals : List Token}
    {items : List Value} (h : Binds context binding literals items) :
    parts[binding.index]? = some (.items literals) :=
  hparts.part h.declared (valid_items h.denotes) rfl

/-- A literal is a token that is scanned, and no mark. -/
theorem Denotes.unmarked {token : Token} {v : Value} (h : context.Denotes token v) :
    token.Valid ∧ ∀ c, token ≠ .mark c := by
  refine ⟨h.valid, ?_⟩
  rintro c rfl
  exact h.ne_mark

/-- A form that expresses a condition is valid. -/
theorem Expresses.valid (h : context.Expresses path form c) : form.Valid := by
  cases h with
  | equality _ hd | relation _ hd | pattern _ hd | inclusion _ hd | single _ _ hd =>
    exact List.forall_mem_singleton.2 hd.unmarked
  | existence | bits | type => nofun
  | membership | subset | overlap => exact List.forall_mem_singleton.2 ⟨trivial, nofun⟩
  | superset _ hd =>
    refine List.forall_mem_append.2 ⟨fun token htoken => ?_, ?_⟩
    · obtain ⟨v, _, hv⟩ := Value.exists_mem_of_forall₂ hd.flip htoken
      exact hv.unmarked
    · exact List.forall_mem_singleton.2 ⟨trivial, nofun⟩

/-- The carried fragments give the path of a form that does not mention it. -/
theorem Expresses.placed (hparts : context.Carries parts) (h : context.Expresses path form c) :
    form.Placed parts path := by
  cases h with
  | superset _ _ hi => exact hparts.part hi trivial rfl
  | equality | relation | existence | pattern | inclusion | bits | type | membership | subset
  | overlap | single => trivial

end Context

namespace Filter

open Context

/-- The source of the filter is that of a program with the fragments and the expression given. Its
tests express the conditions, and the expression is judged as the filter is. -/
structure Written (filter : Filter) (conditions : List (Path × Condition)) (parts : List Fragment)
    (level? : Option (List Term)) : Prop where
  carries : filter.context.Carries parts
  source : filter.source.toList = render (program (bodiesOf parts) (expressionOf level?))
  states : ∀ level ∈ level?, level ≠ [] ∧ States .empty filter.context conditions level
  judged : ∀ level ∈ level?, ∀ record : Value, record.WellFormed →
    LevelJudged (filter.context.Judges record) level (filter.fits record)
  nothing : level? = none → filter = ⟨none, .empty⟩

variable {filter : Filter} {conditions : List (Path × Condition)} {parts : List Fragment}
  {level? : Option (List Term)}

/-- The context of a written filter is valid. -/
theorem Written.valid (h : Written filter conditions parts level?) : filter.context.Valid := by
  cases level? with
  | none =>
    rw [h.nothing rfl]
    exact valid_empty
  | some level => exact (h.states level rfl).2.uses.valid

/-- The tests of a written filter are legible. -/
theorem Written.legible (h : Written filter conditions parts level?) :
    ∀ level ∈ level?, Legible parts (levelLeaves level) := by
  intro level hlevel leaf hleaf
  obtain ⟨c, _, hexpresses⟩ := (h.states level hlevel).2.expressed leaf hleaf
  exact ⟨hexpresses.valid, hexpresses.placed h.carries⟩

/-- The program of a filter is readable. -/
theorem Written.readable (h : Written filter conditions parts level?) :
    Readable (program (bodiesOf parts) (expressionOf level?)) := by
  refine readable_program h.carries.valid ?_
  intro level hlevel leaf hleaf
  exact (h.legible level hlevel leaf hleaf).1

/-- The filter of a query is written for the conditions of the query. -/
theorem exists_written {query : Query} (hw : Clause.WellFormedLevel query) :
    ∃ parts level,
      Written (ofQuery query) (Clause.levelConditions [] query) parts (some level) := by
  obtain ⟨level, hrenders, hspells⟩ := ofQuery_spec hw
  obtain ⟨parts, hparts⟩ := Value.exists_forall₂ hrenders.states.uses.valid.declaration
  refine ⟨parts, level, hparts, render_program (Carries.text hparts) ?_, ?_, ?_, nofun⟩
  · rw [returned_some]
    simp [hspells.2]
  · rintro _ ⟨⟩
    exact ⟨hspells.1, hrenders.states⟩
  · rintro _ ⟨⟩ record hrecord
    rw [hrenders.holds record hrecord]
    exact hrenders.judged (.refl _) record

/-- The filter without a specification is written for no conditions. -/
theorem written_nothing : Written ⟨none, .empty⟩ [] [] none :=
  ⟨.nil, rfl, nofun, nofun, fun _ => rfl⟩

end Filter

end RecordQuery

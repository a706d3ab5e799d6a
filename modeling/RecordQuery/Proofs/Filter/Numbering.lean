import RecordQuery.Proofs.Distinct
import RecordQuery.Proofs.Filter.Context

/-!
# The numbers of slots and sets

A context keeps values and declares sets as they come, one for each class of equal ones, so it can
be told from what has been written out so far (`Tracks`): its slots are the distinct ones of the
values that are not written inline, and its declarations are made from the distinct sources of sets.
Writing a value adds to the former (`Tracks.literal`) and registering a set to the latter
(`Tracks.registerList`, `Tracks.registerPerRecord`), and the place that is handed out is the number
of the source. Sets are looked up by text, which is as good as by source: equal values are written
by one token (`Tracks.token_eq`), and a token is not written for others.
-/

namespace RecordQuery

open Source Distinct

/-- Values are kept in slots if they are wide integers, patterns, arrays or objects. -/
def Value.isKept (v : Value) : Bool :=
  match v.kind with
  | .bigint | .regex | .array | .object => true
  | .undefined | .null | .boolean | .number | .string => false

/-! ## Sources of sets -/

/-- What the members of a declared set are taken from. -/
inductive SetSource where
  /-- A list of operands, the same for all records. -/
  | items (values : List Value)
  /-- The part of each record that a path leads to. -/
  | part (path : Path)

namespace SetSource

instance : BEq SetSource where
  beq
    | items xs, items ys => xs == ys
    | part path, part path' => path == path'
    | _, _ => false

/-- Operands are well formed. -/
def WellFormed : SetSource → Prop
  | items values => (Value.array values).WellFormed
  | part _ => True

/-- The ways in which two sources are equal: operands are equal one by one, and there are as many,
or the paths are the same. -/
inductive Same : SetSource → SetSource → Prop
  | items {xs ys : List Value} (h : List.Forall₂ (fun x y => (x == y) = true) xs ys) :
    Same (.items xs) (.items ys)
  | part (path : Path) : Same (.part path) (.part path)

/-- Lists of values are equal when their values are equal one by one. -/
theorem items_beq_iff {xs ys : List Value} :
    (xs == ys) = true ↔ List.Forall₂ (fun x y => (x == y) = true) xs ys := by
  induction xs generalizing ys with
  | nil => cases ys <;> simp
  | cons x rest ih =>
    cases ys with
    | nil => simp
    | cons y others => rw [List.cons_beq_cons, Bool.and_eq_true, ih, List.forall₂_cons]

/-- Two sources are equal in one of the ways listed. -/
theorem beq_iff_same {s t : SetSource} : (s == t) = true ↔ Same s t := by
  constructor
  · intro h
    cases s with
    | items xs =>
      cases t with
      | items ys => exact .items (items_beq_iff.1 h)
      | part => cases h
    | part path =>
      cases t with
      | items => cases h
      | part path' => exact eq_of_beq (show (path == path') = true from h) ▸ .part path
  · intro h
    cases h with
    | items h => exact items_beq_iff.2 h
    | part path => exact beq_self_eq_true path

/-- Equality is an equivalence among well-formed sources: lists of operands are compared as the
arrays of them. -/
theorem equivalenceOn : EquivalenceOn WellFormed where
  refl {s} hs := by
    cases s with
    | items xs => exact beq_iff_same.2 (.items (Value.array_beq_iff.1 (Value.beq_refl hs)))
    | part path => exact beq_iff_same.2 (.part path)
  symm {s t} hs ht h := by
    cases beq_iff_same.1 h with
    | items hitems =>
      have hxy := Value.array_beq_iff.2 hitems
      exact beq_iff_same.2 (.items (Value.array_beq_iff.1 (Value.beq_symm hs ht hxy)))
    | part path => exact h
  trans {s t u} hs ht hu h h' := by
    cases beq_iff_same.1 h with
    | items hxy =>
      cases beq_iff_same.1 h' with
      | items hyz =>
        have hxz := Value.beq_trans hs ht hu (Value.array_beq_iff.2 hxy) (Value.array_beq_iff.2 hyz)
        exact beq_iff_same.2 (.items (Value.array_beq_iff.1 hxz))
    | part path => exact h'

/-- The operands that are listed. -/
def items? : SetSource → Option (List Value)
  | items values => some values
  | part _ => none

/-- The path to the part. -/
def path? : SetSource → Option Path
  | items _ => none
  | part path => some path

/-- There are as many distinct sources as distinct lists of operands and distinct paths. -/
theorem length_eraseDups (sources : List SetSource) :
    sources.eraseDups.length =
      (sources.filterMap items?).eraseDups.length + (sources.filterMap path?).eraseDups.length := by
  have hsplit : ∀ sources : List SetSource,
      sources.length = (sources.filterMap items?).length + (sources.filterMap path?).length := by
    intro sources
    induction sources with
    | nil => rfl
    | cons source rest ih =>
      cases source with
      | items =>
        rw [List.length_cons, ih]
        exact (Nat.succ_add _ _).symm
      | part =>
        rw [List.length_cons, ih]
        rfl
  rw [hsplit, ← eraseDups_filterMap, ← eraseDups_filterMap]
  · intro s path hs t
    cases s with
    | items => cases hs
    | part => cases hs; cases t <;> rfl
  · intro s values hs t
    cases s with
    | items => cases hs; cases t <;> rfl
    | part => cases hs

end SetSource

namespace Context

variable {before after context : Context}

/-! ## The record of what is written out -/

/-- The declaration is made from the source: its fragment is of literals that denote the operands,
or of the path. -/
inductive Declares (context : Context) : Declaration → SetSource → Prop
  | shared {literals : List Token} {items : List Value} (set : ValueSet)
    (h : List.Forall₂ context.Denotes literals items) :
    Declares context (.shared (Fragment.items literals).text set) (.items items)
  | perRecord (path : Path) :
    Declares context (.perRecord (Fragment.part path).text) (.part path)

/-- A declaration is made from its source in a grown context, too. -/
theorem Declares.mono (h : before.Extends after) {d : Declaration} {source : SetSource}
    (hd : before.Declares d source) : after.Declares d source := by
  cases hd with
  | shared set hdenotes => exact .shared set (denotes_mono h hdenotes)
  | perRecord path => exact .perRecord path

/-- The values and sources are those that have come so far: slots keep the distinct ones of the
values that are not written inline, and declarations are made from the distinct sources. -/
structure Tracks (context : Context) (values : List Value) (sources : List SetSource) : Prop where
  valid : context.Valid
  values_wellFormed : ∀ v ∈ values, v.WellFormed
  sources_wellFormed : ∀ source ∈ sources, source.WellFormed
  slots : context.slots = (values.filter Value.isKept).eraseDups
  declarations : List.Forall₂ context.Declares context.declarations sources.eraseDups

/-- Nothing has been written out in the empty context. -/
theorem tracks_empty : Tracks .empty [] [] := ⟨valid_empty, nofun, nofun, rfl, .nil⟩

variable {values : List Value} {sources : List SetSource}

/-! ## Tokens of equal values -/

/-- Values are kept if they are not written inline. -/
theorem isKept_eq (v : Value) : v.isKept = (inlineToken? v).isNone := by
  cases v <;> rfl

/-- Equal values are written inline alike. -/
theorem inlineToken?_congr {v w : Value} (h : (v == w) = true) :
    inlineToken? v = inlineToken? w := by
  cases Value.beq_iff_same.1 h with
  | number hn => rw [inlineToken?, inlineToken?, Number.text_congr hn]
  | undefined | null | bool | bigint | string | regex | array | object => rfl

/-- Equal values are denoted by one token, since no two slots keep equal values. -/
theorem Tracks.token_eq (h : context.Tracks values sources) {token token' : Token} {v w : Value}
    (hv : v.WellFormed) (hw : w.WellFormed) (hdv : context.Denotes token v)
    (hdw : context.Denotes token' w) (hvw : (v == w) = true) : token = token' := by
  cases hdv with
  | inline ht =>
    cases hdw with
    | inline ht' =>
      rw [inlineToken?_congr hvw, ht'] at ht
      exact (Option.some.inj ht).symm
    | slot hnone => simp [inlineToken?_congr hvw, hnone] at ht
  | slot hnone hi heq =>
    cases hdw with
    | inline ht' => simp [← inlineToken?_congr hvw, hnone] at ht'
    | slot _ hi' heq' =>
      rw [h.slots] at hi hi'
      have hkept : ∀ v ∈ values.filter Value.isKept, v.WellFormed := fun v hmem =>
        h.values_wellFormed v (List.mem_filter.1 hmem).1
      rw [(Numbers.eq_iff Value.equivalenceOn hkept hv hw ⟨_, hi, heq⟩ ⟨_, hi', heq'⟩).2 hvw]

/-- Lists of equal values are denoted by one list of tokens. -/
theorem Tracks.literals_eq (h : context.Tracks values sources) {literals literals' : List Token}
    {xs ys : List Value} (hx : ∀ x ∈ xs, x.WellFormed) (hy : ∀ y ∈ ys, y.WellFormed)
    (hdx : List.Forall₂ context.Denotes literals xs)
    (hdy : List.Forall₂ context.Denotes literals' ys)
    (hxy : List.Forall₂ (fun x y => (x == y) = true) xs ys) : literals = literals' := by
  induction hxy generalizing literals literals' with
  | nil =>
    cases hdx
    cases hdy
    rfl
  | cons heq _ ih =>
    cases hdx with
    | cons hd hrest =>
      cases hdy with
      | cons hd' hrest' =>
        rw [List.forall_mem_cons] at hx hy
        rw [h.token_eq hx.1 hy.1 hd hd' heq, ih hx.2 hy.2 hrest hrest']

/-! ## Writing values -/

/-- A value gets a new slot if none keeps an equal one. -/
theorem slots_scope (context : Context) (v : Value) :
    (context.scope v).2.slots =
      if context.slots.any (· == v) then context.slots else context.slots ++ [v] := by
  rw [scope]
  cases hfound : context.slotOf? v with
  | some found =>
    obtain ⟨kept, i⟩ := found
    rw [slotOf?] at hfound
    have hmem := List.mem_of_getElem? (List.mem_zipIdx_iff_getElem?.1
      (List.mem_of_find?_eq_some hfound))
    have heq := List.find?_some hfound
    rw [if_pos (List.any_eq_true.2 ⟨kept, hmem, heq⟩)]
  | none =>
    have hnone : context.slots.any (· == v) = false := by
      rw [List.any_eq_false]
      intro kept hmem
      obtain ⟨i, hi⟩ := List.getElem?_of_mem hmem
      exact List.find?_eq_none.1 hfound (kept, i) (List.mem_zipIdx_iff_getElem?.2 hi)
    rw [hnone]
    rfl

/-- The slots are the distinct ones of the values. -/
structure Keeps (context : Context) (values : List Value) : Prop where
  wellFormed : ∀ v ∈ values, v.WellFormed
  slots : context.slots = values.eraseDups

/-- Keeping a value adds a slot if no equal one is kept. -/
theorem Keeps.scope {values : List Value} (h : context.Keeps values) {v : Value}
    (hv : v.WellFormed) : Keeps (context.scope v).2 (values ++ [v]) := by
  refine ⟨List.forall_mem_append.2 ⟨h.wellFormed, List.forall_mem_singleton.2 hv⟩, ?_⟩
  -- the search compares what is kept with the value, and erasing does it the other way round
  have hany : context.slots.any (· == v) = values.eraseDups.any (v == ·) := by
    rw [h.slots, Bool.eq_iff_iff, List.any_eq_true, List.any_eq_true]
    refine exists_congr fun kept => and_congr_right fun hmem => ?_
    have hkept := h.wellFormed kept (mem_of_mem_eraseDups hmem)
    exact ⟨Value.beq_symm hkept hv, Value.beq_symm hv hkept⟩
  rw [slots_scope, eraseDups_concat, hany, h.slots]

/-- Writing a value keeps it if it is not written inline. -/
theorem Keeps.literal {values : List Value} (h : context.Keeps values) {v : Value}
    (hv : v.WellFormed) : Keeps (context.literal v).2 (values ++ [v].filter Value.isKept) := by
  rw [Context.literal, inlineText?_eq, List.filter_singleton, isKept_eq]
  cases inlineToken? v with
  | some token => exact (List.append_nil values).symm ▸ h
  | none => exact h.scope hv

/-- A value that is written out is kept with those before it. -/
theorem Tracks.literal (h : context.Tracks values sources) {v : Value} (hv : v.WellFormed) :
    Tracks (context.literal v).2 (values ++ [v]) sources := by
  obtain ⟨token, _, hwrites⟩ := literal_spec h.valid hv
  have hvalues := List.forall_mem_append.2 ⟨h.values_wellFormed, List.forall_mem_singleton.2 hv⟩
  have hkeeps : context.Keeps (values.filter Value.isKept) :=
    ⟨fun v hmem => h.values_wellFormed v (List.mem_filter.1 hmem).1, h.slots⟩
  refine ⟨hwrites.valid, hvalues, h.sources_wellFormed, ?_, ?_⟩
  · rw [List.filter_append]
    exact (hkeeps.literal hv).slots
  · rw [hwrites.declarations]
    exact h.declarations.imp fun _ _ => Declares.mono hwrites.growth

/-- Values that are written out are kept with those before them. -/
theorem Tracks.list (h : context.Tracks values sources) {items : List Value}
    (hw : ∀ v ∈ items, v.WellFormed) :
    Tracks (context.list items).2 (values ++ items) sources := by
  change Tracks (context.literalTexts items).2 (values ++ items) sources
  induction items generalizing context values with
  | nil =>
    rw [List.append_nil]
    exact h
  | cons v rest ih =>
    rw [List.forall_mem_cons] at hw
    rw [List.append_cons]
    exact ih (h.literal hw.1) hw.2

/-! ## Registering sets -/

/-- A source that is declared already has the number of its declaration. -/
theorem Tracks.known (h : context.Tracks values sources) {source : SetSource}
    (hs : source.WellFormed) {n : Nat} {d : Declaration} (hd : context.declarations[n]? = some d)
    (hsame : ∀ declared, declared.WellFormed → context.Declares d declared →
      (declared == source) = true) :
    Tracks context values (sources ++ [source]) ∧ Numbers (sources ++ [source]) n source := by
  obtain ⟨hlt, rfl⟩ := List.getElem?_eq_some_iff.1 hd
  have hlt' : n < sources.eraseDups.length := h.declarations.length_eq ▸ hlt
  have hmem : sources.eraseDups[n] ∈ sources.eraseDups := List.getElem_mem hlt'
  have hdeclared := h.sources_wellFormed _ (mem_of_mem_eraseDups hmem)
  have heq := hsame _ hdeclared (h.declarations.get hlt hlt')
  have hknown : sources.eraseDups.any (source == ·) = true :=
    List.any_eq_true.2 ⟨_, hmem, SetSource.equivalenceOn.symm hdeclared hs heq⟩
  have hsources : (sources ++ [source]).eraseDups = sources.eraseDups := by
    rw [eraseDups_concat, if_pos hknown]
  have hsingle := List.forall_mem_singleton.2 hs
  have hwellFormed := List.forall_mem_append.2 ⟨h.sources_wellFormed, hsingle⟩
  refine ⟨⟨h.valid, h.values_wellFormed, hwellFormed, h.slots, hsources ▸ h.declarations⟩, _, ?_,
    heq⟩
  rw [hsources]
  exact List.getElem?_eq_getElem hlt'

/-- A source that is not declared yet gets the next number. -/
theorem Tracks.declare (h : context.Tracks values sources) {source : SetSource}
    (hs : source.WellFormed) {d : Declaration} (hd : context.Declares d source)
    (hvalid : Valid { context with declarations := context.declarations ++ [d] })
    (hnew : ∀ d' ∈ context.declarations, ∀ declared, declared.WellFormed →
      context.Declares d' declared → (source == declared) = false) :
    Tracks { context with declarations := context.declarations ++ [d] } values
        (sources ++ [source]) ∧
      Numbers (sources ++ [source]) context.declarations.length source := by
  have hunknown : sources.eraseDups.any (source == ·) = false := by
    rw [List.any_eq_false]
    intro declared hmem
    obtain ⟨d', hmem', hdeclares⟩ := Value.exists_mem_of_forall₂ h.declarations hmem
    exact Bool.eq_false_iff.1
      (hnew d' hmem' declared (h.sources_wellFormed _ (mem_of_mem_eraseDups hmem)) hdeclares)
  have hsources : (sources ++ [source]).eraseDups = sources.eraseDups ++ [source] := by
    rw [eraseDups_concat, hunknown]
    rfl
  have hgrowth : context.Extends { context with declarations := context.declarations ++ [d] } :=
    ⟨List.prefix_refl _, List.prefix_append _ _⟩
  have hsingle := List.forall_mem_singleton.2 hs
  have hwellFormed := List.forall_mem_append.2 ⟨h.sources_wellFormed, hsingle⟩
  refine ⟨⟨hvalid, h.values_wellFormed, hwellFormed, h.slots, ?_⟩, source, ?_,
    SetSource.equivalenceOn.refl hs⟩
  · rw [hsources]
    exact List.rel_append (h.declarations.imp fun _ _ => Declares.mono hgrowth)
      (.cons (hd.mono hgrowth) .nil)
  · rw [hsources, h.declarations.length_eq]
    exact List.getElem?_concat_length

/-- A shared set that is not found is not declared under the fragment. -/
theorem not_mem_of_shared? {fragment : String} (h : context.shared? fragment = none)
    (set : ValueSet) : .shared fragment set ∉ context.declarations := by
  intro hmem
  obtain ⟨i, hi⟩ := List.getElem?_of_mem hmem
  have hnone := List.findSome?_eq_none_iff.1 h (_, i) (List.mem_zipIdx_iff_getElem?.2 hi)
  simp at hnone

/-- A place that is not found for each record is not declared under the fragment. -/
theorem not_mem_of_perRecord? {fragment : String} (h : context.perRecord? fragment = none) :
    .perRecord fragment ∉ context.declarations := by
  intro hmem
  obtain ⟨i, hi⟩ := List.getElem?_of_mem hmem
  have hnone := List.findSome?_eq_none_iff.1 h (_, i) (List.mem_zipIdx_iff_getElem?.2 hi)
  simp at hnone

/-- The set of literals is declared for the class of the values that they denote. -/
theorem Tracks.register (h : context.Tracks values sources) {literals : List Token}
    {items : List Value} (hw : ∀ v ∈ items, v.WellFormed)
    (hdenotes : List.Forall₂ context.Denotes literals items) :
    let (binding, after) := context.register (Fragment.items literals).text fun _ =>
      ValueSet.ofList items
    Tracks after values (sources ++ [.items items]) ∧
      Numbers (sources ++ [.items items]) binding.index (.items items) := by
  have hs : (SetSource.items items).WellFormed := Value.wellFormed_array.2 hw
  rw [register_eq]
  cases hfound : context.shared? (Fragment.items literals).text with
  | some binding =>
    refine h.known hs (declared_of_shared? hfound) fun declared hdeclared hdeclares => ?_
    generalize hd : Declaration.shared _ _ = d at hdeclares
    cases hdeclares with
    | perRecord => cases hd
    | shared set hdenotes' =>
      injection hd with htext
      cases Fragment.text_injective (valid_items hdenotes) (valid_items hdenotes') htext
      have hdeclared := Value.wellFormed_array.1 hdeclared
      have hitems := beq_of_denotes h.valid hdeclared hw hdenotes' hdenotes
      exact SetSource.beq_iff_same.2 (.items hitems)
  | none =>
    refine h.declare hs (.shared _ hdenotes) (h.valid.declare (.shared hdenotes hw)).1
      fun d hmem declared hdeclared hdeclares => Bool.eq_false_iff.2 fun heq => ?_
    cases SetSource.beq_iff_same.1 heq with
    | items hitems =>
      cases hdeclares with
      | shared set hdenotes' =>
        have hdeclared := Value.wellFormed_array.1 hdeclared
        cases h.literals_eq hw hdeclared hdenotes hdenotes' hitems
        exact not_mem_of_shared? hfound set hmem

/-- The set of a list of values is declared for the class of the list. -/
theorem Tracks.registerList (h : context.Tracks values sources) {items : List Value}
    (hw : ∀ v ∈ items, v.WellFormed) :
    let (binding, after) := context.registerList items
    Tracks after (values ++ items) (sources ++ [.items items]) ∧
      Numbers (sources ++ [.items items]) binding.index (.items items) := by
  obtain ⟨literals, htext, hdenotes, _⟩ := list_spec h.valid hw
  have hregister := (h.list hw).register hw hdenotes
  rw [Fragment.text, ← htext] at hregister
  exact hregister

/-- The set of a part is declared for the path of the part. -/
theorem Tracks.registerPerRecord (h : context.Tracks values sources) (path : Path) :
    let (index, after) := context.registerPerRecord (Fragment.part path).text
    Tracks after values (sources ++ [.part path]) ∧
      Numbers (sources ++ [.part path]) index (.part path) := by
  have hs : (SetSource.part path).WellFormed := trivial
  rw [Context.registerPerRecord]
  cases hfound : context.perRecord? (Fragment.part path).text with
  | some index =>
    refine h.known hs (declared_of_perRecord? hfound) fun declared _ hdeclares => ?_
    generalize hd : Declaration.perRecord _ = d at hdeclares
    cases hdeclares with
    | shared => cases hd
    | perRecord path' =>
      injection hd with htext
      cases Fragment.text_injective (f := .part path) (g := .part path') trivial trivial htext
      exact SetSource.equivalenceOn.refl hs
  | none =>
    refine h.declare hs (.perRecord path) (h.valid.declare (.perRecord path)).1
      fun d hmem declared _ hdeclares => Bool.eq_false_iff.2 fun heq => ?_
    cases SetSource.beq_iff_same.1 heq with
    | part =>
      cases hdeclares
      exact not_mem_of_perRecord? hfound hmem

end Context

end RecordQuery

import RecordQuery.Proofs.Filter.Program
import RecordQuery.Proofs.Source.Contents

/-!
# The source of a filter is sealed

Whatever keys and texts a specification has, they stand in the source of its filter between quotes
only (`Sealed`, `exists_sealed`): the source is scanned as the lines of the declarations and an
expression, its quoted texts are field names, type names and operands of the query, and the names in
it are exactly those of the declarations and the slots of the filter. What a name, a numeral or a
quoted text in the source goes back to is said by `Context.Knows`.
-/

namespace RecordQuery

open Source

namespace Clause

/-- The keys of the leaf's path are of the path or the texts given, and the texts of its condition
are of those texts. -/
def DrawnFrom (path : Path) (texts : List String) (leaf : Path × Condition) : Prop :=
  (∀ key ∈ leaf.1, key ∈ path ∨ key ∈ texts) ∧ leaf.2.texts ⊆ texts

/-- What is drawn from texts is drawn from more of them. -/
theorem DrawnFrom.mono {path : Path} {texts texts' : List String} {leaf : Path × Condition}
    (h : DrawnFrom path texts leaf) (hsub : texts ⊆ texts') : DrawnFrom path texts' leaf :=
  ⟨fun key hkey => (h.1 key hkey).imp_right fun hmem => hsub hmem, fun _ hs => hsub (h.2 hs)⟩

/-- At the top, all keys are of the texts. -/
theorem DrawnFrom.path_subset {texts : List String} {leaf : Path × Condition}
    (h : DrawnFrom [] texts leaf) : leaf.1 ⊆ texts := by
  intro key hkey
  rcases h.1 key hkey with hmem | hmem
  · cases hmem
  · exact hmem

/-- A key that ends the path may be one of the texts. -/
theorem DrawnFrom.of_append {path : Path} {key : String} {texts : List String}
    {leaf : Path × Condition} (h : DrawnFrom (path ++ [key]) texts leaf) :
    DrawnFrom path (key :: texts) leaf := by
  refine ⟨fun k hk => ?_, fun s hs => .tail _ (h.2 hs)⟩
  rcases h.1 k hk with hmem | hmem
  · rcases List.mem_append.1 hmem with hmem | hmem
    · exact .inl hmem
    · exact .inr (List.mem_singleton.1 hmem ▸ .head _)
  · exact .inr (.tail _ hmem)

mutual
/-- The conditions of a clause are drawn from its texts. -/
theorem conditions_texts (path : Path) : ∀ (clause : Clause Condition),
    ∀ leaf ∈ clause.conditions path, DrawnFrom path clause.texts leaf
  | condition _ => List.forall_mem_singleton.2 ⟨fun _ => .inl, List.Subset.refl _⟩
  | logic _ operands => queriesConditions_texts path operands
  | field key query => fun leaf hleaf =>
    (levelConditions_texts (path ++ [key]) query leaf hleaf).of_append

/-- The conditions of clauses are drawn from their texts. -/
theorem levelConditions_texts (path : Path) : ∀ (clauses : List (Clause Condition)),
    ∀ leaf ∈ levelConditions path clauses, DrawnFrom path (levelTexts clauses) leaf
  | [] => nofun
  | clause :: rest => List.forall_mem_append.2
    ⟨fun leaf hleaf => (conditions_texts path clause leaf hleaf).mono
      (List.subset_append_left _ _),
    fun leaf hleaf => (levelConditions_texts path rest leaf hleaf).mono
      (List.subset_append_right _ _)⟩

/-- The conditions of queries are drawn from their texts. -/
theorem queriesConditions_texts (path : Path) : ∀ (queries : List (List (Clause Condition))),
    ∀ leaf ∈ queriesConditions path queries, DrawnFrom path (queriesTexts queries) leaf
  | [] => nofun
  | query :: rest => List.forall_mem_append.2
    ⟨fun leaf hleaf => (levelConditions_texts path query leaf hleaf).mono
      (List.subset_append_left _ _),
    fun leaf hleaf => (queriesConditions_texts path rest leaf hleaf).mono
      (List.subset_append_right _ _)⟩
end

end Clause

namespace Context

variable {context : Context} {parts : List Fragment} {path : Path} {form : Form} {c : Condition}
  {texts : List String}

/-- The token is no mark, and what it stands for is known: a text is one of those given, a name is
one of the context, and a numeral is the text of a number or of a mask. -/
def Knows (context : Context) (texts : List String) : Token → Prop
  | .quoted s => s ∈ texts
  | .declared index => index < context.declarations.length
  | .slot index => index < context.slots.length
  | .numeral text =>
    (∃ n : Number, text = n.text) ∨ ∃ mask : Int32, text = Text.integer mask.toInt
  | .word _ => True
  | .mark _ => False

/-- Literals are known. -/
theorem Denotes.knows {token : Token} {v : Value} (h : context.Denotes token v)
    (htexts : v.ownTexts ⊆ texts) : context.Knows texts token := by
  cases h with
  | slot _ hi => exact (List.getElem?_eq_some_iff.1 hi).1
  | inline ht =>
    cases v with
    | undefined | null | bool => cases ht; trivial
    | number n => cases ht; exact .inl ⟨n, rfl⟩
    | string s => cases ht; exact htexts (.head _)
    | bigint | regex | array | object => cases ht

/-- Lists of literals are known. -/
theorem knows_literals {literals : List Token} {items : List Value}
    (h : List.Forall₂ context.Denotes literals items)
    (htexts : items.flatMap Value.ownTexts ⊆ texts) :
    ∀ token ∈ literals, context.Knows texts token := by
  intro token htoken
  obtain ⟨v, hv, hdenotes⟩ := Value.exists_mem_of_forall₂ h.flip htoken
  exact hdenotes.knows fun s hs => htexts (List.mem_flatMap.2 ⟨v, hv, hs⟩)

/-- The name of a bound set is known. -/
theorem Binds.knows {binding : Binding} {literals : List Token} {items : List Value}
    (h : Binds context binding literals items) :
    context.Knows texts (.declared binding.index) :=
  (List.getElem?_eq_some_iff.1 h.declared).1

/-- What a test of a condition shows is known. -/
theorem Expresses.knows (h : context.Expresses path form c) (hpath : path ⊆ texts)
    (htexts : c.texts ⊆ texts) : ∀ token ∈ form.contents path, context.Knows texts token := by
  have hkeys : ∀ token ∈ path.map Token.quoted, context.Knows texts token := by
    intro token htoken
    obtain ⟨key, hkey, rfl⟩ := List.mem_map.1 htoken
    exact hpath hkey
  have hmention : ∀ mention, context.Knows texts mention →
      ∀ token ∈ path.map Token.quoted ++ [mention], context.Knows texts token :=
    fun mention hmention => List.forall_mem_append.2 ⟨hkeys, List.forall_mem_singleton.2 hmention⟩
  cases h with
  | equality _ hd | relation _ hd | inclusion _ hd => exact hmention _ (hd.knows htexts)
  | pattern _ hd => exact hmention _ (hd.knows (List.nil_subset _))
  | existence => exact List.forall_mem_append.2 ⟨hkeys, nofun⟩
  | bits _ mask => exact hmention _ (.inr ⟨mask, rfl⟩)
  | type _ name => exact hmention _ (htexts (.head _))
  | membership _ hb | subset _ hb | overlap _ hb => exact hmention _ hb.knows
  | superset _ hd hi =>
    exact List.forall_mem_append.2 ⟨knows_literals hd htexts,
      List.forall_mem_singleton.2 (List.getElem?_eq_some_iff.1 hi).1⟩
  | @single _ _ operand hoperand hd =>
    refine hmention _ (hd.knows ?_)
    cases operand with
    | array items => exact absurd rfl (hoperand items)
    | undefined | null | bool | number | bigint | string | regex | object => exact htexts

/-- What is declared for a test of a condition is known. -/
theorem Expresses.knows_part (hparts : context.Carries parts) (h : context.Expresses path form c)
    (hpath : path ⊆ texts) (htexts : c.texts ⊆ texts) {index : Nat}
    (hindex : .declared index ∈ form.mentions) :
    ∃ part, parts[index]? = some part ∧ ∀ token ∈ part.contents, context.Knows texts token := by
  have hliteral : ∀ {v : Value}, ¬ context.Denotes (.declared index) v := by
    rintro v (ht | _)
    cases v <;> cases ht
  cases h with
  | equality _ hd | relation _ hd | inclusion _ hd | single _ _ hd =>
    exact absurd (List.mem_singleton.1 hindex ▸ hd) hliteral
  | pattern => cases List.mem_singleton.1 hindex
  | existence | bits | type => cases hindex
  | membership _ hb | subset _ hb | overlap _ hb =>
    cases List.mem_singleton.1 hindex
    exact ⟨_, hb.part hparts, knows_literals hb.denotes htexts⟩
  | superset _ hd hi =>
    rcases List.mem_append.1 hindex with hindex | hindex
    · obtain ⟨v, _, hv⟩ := Value.exists_mem_of_forall₂ hd.flip hindex
      exact absurd hv hliteral
    · cases List.mem_singleton.1 hindex
      refine ⟨.part path, hparts.part hi trivial rfl, fun token htoken => ?_⟩
      obtain ⟨key, hkey, rfl⟩ := List.mem_map.1 htoken
      exact hpath hkey

end Context

namespace Filter

open Context

/-- The source of the filter is the program with the lines and the expression given, and nothing in
it but the templates is anything but a text of those given between quotes, a name of the filter, or
the text of a number. -/
structure Sealed (filter : Filter) (texts : List String) (bodies : List (List Token))
    (expression : List Token) : Prop where
  /-- The source is the tokens one after the other, and they are what scanning it finds. -/
  source : filter.source.toList = render (program bodies expression)
  scanned : scan filter.source = some (program bodies expression)
  /-- Each declaration has a line. -/
  lines : bodies.length = filter.declarations
  unbroken : ∀ tokens ∈ expression :: bodies, '\n' ∉ render tokens
  /-- Quoted texts are those given. -/
  quoted : ∀ s, .quoted s ∈ program bodies expression → s ∈ texts
  /-- The names in the expression are those of all declarations. -/
  declared : ∀ n, .declared n ∈ expression ↔ n < filter.declarations
  /-- The names of slots are those of all slots. -/
  slot : ∀ n, .slot n ∈ program bodies expression ↔ n < filter.slots
  /-- Numerals are texts of numbers or of masks. -/
  numeral : ∀ text, .numeral text ∈ program bodies expression →
    (∃ n : Number, text = n.text) ∨ ∃ mask : Int32, text = Text.integer mask.toInt
  /-- Other words and marks are those of the templates. -/
  word : ∀ w, .word w ∈ program bodies expression → w ∈ words
  mark : ∀ c, .mark c ∈ program bodies expression → c ∈ marks

section
variable {filter : Filter} {query : Query} {parts : List Fragment} {level : List Term}

/-- What the tests of a written filter show is known. -/
theorem Written.knows_leaves
    (h : Written filter (Clause.levelConditions [] query) parts (some level)) :
    ∀ token ∈ leafContents (levelLeaves level),
      filter.context.Knows (Clause.levelTexts query) token := by
  intro token htoken
  obtain ⟨leaf, hleaf, htoken⟩ := List.mem_flatMap.1 htoken
  obtain ⟨c, hc, hexpresses⟩ := (h.states level rfl).2.expressed leaf hleaf
  have hdrawn := Clause.levelConditions_texts [] query _ hc
  exact hexpresses.knows hdrawn.path_subset hdrawn.2 token htoken

/-- What the declarations of a written filter are made of is known: each is mentioned by a test. -/
theorem Written.knows_parts
    (h : Written filter (Clause.levelConditions [] query) parts (some level)) :
    ∀ part ∈ parts, ∀ token ∈ part.contents,
      filter.context.Knows (Clause.levelTexts query) token := by
  intro part hpart
  have hstates := (h.states level rfl).2
  obtain ⟨i, hlt, rfl⟩ := List.getElem_of_mem hpart
  have hmention := hstates.uses.declared i (Nat.zero_le _) (h.carries.length_eq ▸ hlt)
  obtain ⟨leaf, hleaf, hmention⟩ := List.mem_flatMap.1 hmention
  obtain ⟨c, hc, hexpresses⟩ := hstates.expressed leaf hleaf
  have hdrawn := Clause.levelConditions_texts [] query _ hc
  obtain ⟨part, hpart, hknows⟩ := hexpresses.knows_part h.carries hdrawn.path_subset hdrawn.2
    hmention
  rw [List.getElem?_eq_getElem hlt] at hpart
  cases hpart
  exact hknows

/-- Entries of the program of a written filter are known. -/
theorem Written.knows (h : Written filter (Clause.levelConditions [] query) parts (some level))
    {token : Token} (hentry : token.Entry)
    (htoken : token ∈ program (bodiesOf parts) (expressionOf (some level))) :
    filter.context.Knows (Clause.levelTexts query) token := by
  rcases (mem_program hentry _ _).1 htoken with ⟨body, hbody, htoken⟩ | htoken
  · obtain ⟨part, hpart, rfl⟩ := List.mem_map.1 hbody
    rcases (part.mem_onto hentry.toForeign).1 htoken with htoken | htoken
    · exact h.knows_parts part hpart token htoken
    · cases htoken
  · rcases (mem_levelOnto hentry.toForeign level).1 htoken with htoken | htoken
    · exact h.knows_leaves token htoken
    · cases htoken

/-- Names that tests mention stand in the expression. -/
theorem mem_expressionOf {token : Token} (hforeign : token.Foreign)
    (h : token ∈ levelMentions level) : token ∈ expressionOf (some level) := by
  obtain ⟨leaf, hleaf, htoken⟩ := List.mem_flatMap.1 h
  exact (mem_levelOnto hforeign level).2
    (.inl (List.mem_flatMap.2 ⟨leaf, hleaf, leaf.2.mentions_subset leaf.1 htoken⟩))

/-- Every slot of a written filter is named in its program. -/
theorem Written.slot_mem {conditions : List (Path × Condition)}
    (h : Written filter conditions parts (some level)) {n : Nat} (hn : n < filter.slots) :
    .slot n ∈ program (bodiesOf parts) (expressionOf (some level)) := by
  have hentry := entry_slot n
  rw [mem_program hentry]
  rcases (h.states level rfl).2.uses.slot n (Nat.zero_le _) hn with
    hmention | ⟨d, hd, literals, haccounts, hmem⟩
  · exact .inr (mem_expressionOf hentry.toForeign hmention)
  · obtain ⟨part, hpart, hcarried⟩ := Value.exists_mem_of_forall₂ h.carries.flip hd
    have htext : part.text = (Fragment.items literals).text :=
      hcarried.fragment.2.symm.trans haccounts.fragment.2
    obtain rfl := Fragment.text_injective hcarried.fragment.1 haccounts.fragment.1 htext
    exact .inl ⟨_, List.mem_map.2 ⟨_, hpart, rfl⟩,
      (Fragment.mem_onto hentry.toForeign _).2 (.inl hmem)⟩

/-- Lines and expression of a written filter have no line break in them. -/
theorem Written.unbroken
    (h : Written filter (Clause.levelConditions [] query) parts (some level)) :
    ∀ tokens ∈ expressionOf (some level) :: bodiesOf parts, '\n' ∉ render tokens := by
  have hnewline := foreign_newline
  refine List.forall_mem_cons.2 ⟨newline_not_mem_render ?_ ?_, fun body hbody => ?_⟩
  · refine fun token htoken => valid_of_readable h.readable token (List.mem_append_right _ ?_)
    simp [returned, htoken]
  · intro hmem
    rcases (mem_levelOnto hnewline level).1 hmem with hmem | hmem
    · exact h.knows_leaves _ hmem
    · cases hmem
  · obtain ⟨part, hpart, rfl⟩ := List.mem_map.1 hbody
    refine newline_not_mem_render
      (valid_of_readable ((Fragment.readable_onto (h.carries.valid part hpart)).2 trivial)) ?_
    intro hmem
    rcases (part.mem_onto hnewline).1 hmem with hmem | hmem
    · exact h.knows_parts part hpart _ hmem
    · cases hmem

/-- A written filter is sealed. -/
theorem Written.sealed
    (h : Written filter (Clause.levelConditions [] query) parts (some level)) :
    Sealed filter (Clause.levelTexts query) (bodiesOf parts) (expressionOf (some level)) where
  source := h.source
  scanned := scan_render h.readable h.source
  lines := by rw [bodiesOf, List.length_map, declarations, h.carries.length_eq]
  unbroken := h.unbroken
  quoted s hs := h.knows (entry_quoted s) hs
  declared n := by
    have hforeign := foreign_declared n
    constructor
    · intro hmem
      rcases (mem_levelOnto hforeign level).1 hmem with hmem | hmem
      · exact h.knows_leaves _ hmem
      · cases hmem
    · exact fun hn => mem_expressionOf hforeign
        ((h.states level rfl).2.uses.declared n (Nat.zero_le _) hn)
  slot n := ⟨h.knows (entry_slot n), h.slot_mem⟩
  numeral text htext := h.knows (entry_numeral text) htext
  word w hw := valid_of_readable h.readable _ hw
  mark c hc := valid_of_readable h.readable _ hc

end

/-- The filter without a specification is sealed: it has no texts and no names. -/
theorem sealed_nothing : Sealed ⟨none, .empty⟩ [] [] (expressionOf none) where
  source := written_nothing.source
  scanned := scan_render written_nothing.readable written_nothing.source
  lines := rfl
  unbroken := by simp [expressionOf]
  quoted s hs := by simp [program, preamble, returned, expressionOf] at hs
  declared n := by simp [expressionOf, declarations, empty]
  slot n := by simp [program, preamble, returned, expressionOf, slots, empty]
  numeral text htext := by simp [program, preamble, returned, expressionOf] at htext
  word w hw := valid_of_readable written_nothing.readable _ hw
  mark c hc := valid_of_readable written_nothing.readable _ hc

/-- The source of every filter is sealed, with the field names, type names and text operands of the
query of its specification, all of which the specification has. -/
theorem exists_sealed {limit : Nat} {spec : Value} {filter : Filter} (hspec : spec.WellFormed)
    (h : ofSpecification limit spec = .ok filter) :
    ∃ texts bodies expression, filter.Sealed texts bodies expression ∧ texts ⊆ spec.texts ∧
      ((spec = .undefined ∧ texts = []) ∨
        ∃ query, Specification.Asks limit spec query ∧ texts = Clause.levelTexts query) := by
  rcases ofSpecification_spec h with ⟨rfl, rfl⟩ | ⟨query, hasks, rfl⟩
  · exact ⟨_, _, _, sealed_nothing, List.nil_subset _, .inl ⟨rfl, rfl⟩⟩
  · obtain ⟨hw, htexts⟩ := hasks.takenFrom hspec
    obtain ⟨parts, level, hwritten⟩ := exists_written hw
    exact ⟨_, _, _, hwritten.sealed, htexts, .inr ⟨query, hasks, rfl⟩⟩

/-- Keys and texts that look like names, quotes and line breaks are sealed like any others. -/
theorem exists_sealed_of_lookalikes :
    let spec : Value := .object [("\"]", .object [("v$0", .object
      [("$sup", .array [.string "scope[0]", .object []]), ("$type", .string "\n\"\\")])])]
    ∃ filter, ofSpecification 2 spec = .ok filter ∧
      ∃ texts bodies expression, filter.Sealed texts bodies expression ∧ texts ⊆ spec.texts ∧
        ((spec = .undefined ∧ texts = []) ∨
          ∃ query, Specification.Asks 2 spec query ∧ texts = Clause.levelTexts query) := by
  intro spec
  have hspec : spec.WellFormed := by
    simp [spec, Value.WellFormed, Value.WellFormedFields, Value.WellFormedItems]
  refine ⟨_, rfl, ?_⟩
  exact exists_sealed hspec rfl

end Filter

end RecordQuery

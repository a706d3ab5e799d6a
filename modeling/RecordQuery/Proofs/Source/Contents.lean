import RecordQuery.Proofs.Source.Program

/-!
# What stands in a program

Beside the words and marks of the templates, an expression consists of what its tests show
(`mem_levelOnto`), and a declared fragment of what it is made of (`Fragment.mem_onto`). So the
names, numerals and quoted texts of a program are those of its tests and fragments (`mem_program`),
and line breaks end its declarations and nothing else (`newline_not_mem_render`).
-/

namespace RecordQuery.Source

/-- The token is none of the words and marks that templates for expressions are made of. -/
structure Token.Foreign (token : Token) : Prop where
  mark : ∀ c, c ≠ '\n' → token ≠ .mark c
  word : ∀ w, token ≠ .word w

/-- What a fragment is made of. -/
def Fragment.contents : Fragment → List Token
  | items literals => literals
  | part path => path.map .quoted

/-- What a test on what a path leads to shows. -/
def Form.contents (path : Path) : Form → List Token
  | type _ name => path.map .quoted ++ [.quoted name]
  | bits _ mask => path.map .quoted ++ [maskToken mask]
  | superset _ literals index => literals ++ [.declared index]
  | form => path.map .quoted ++ form.mentions

/-- What tests show. -/
def leafContents (leaves : List (Path × Form)) : List Token :=
  leaves.flatMap fun leaf => leaf.2.contents leaf.1

/-- What a test mentions is shown. -/
theorem Form.mentions_subset (path : Path) (form : Form) : form.mentions ⊆ form.contents path := by
  cases form with
  | type | bits => exact List.nil_subset _
  | superset => exact List.Subset.refl _
  | equality | relation | existence | pattern | inclusion | membership | subset | overlap =>
    exact List.subset_append_right _ _

/-- What both lists of tests show is shown by them joined. -/
theorem mem_leafContents_append {first second : List (Path × Form)} {token : Token} :
    token ∈ leafContents (first ++ second) ↔
      token ∈ leafContents first ∨ token ∈ leafContents second := by
  rw [leafContents, List.flatMap_append, List.mem_append, leafContents, leafContents]

variable {token : Token} {rest : List Token}

/-! ## Phrases -/

/-- A path shows its keys. -/
theorem mem_pathOnto (h : token.Foreign) (path : Path) :
    token ∈ pathOnto path rest ↔ token ∈ path.map Token.quoted ∨ token ∈ rest := by
  have haccesses : token ∈ accessesOnto path rest ↔
      token ∈ path.map Token.quoted ∨ token ∈ rest := by
    induction path with
    | nil => simp [accessesOnto]
    | cons key path ih => simp [accessesOnto, ih, h.mark, or_assoc]
  rw [pathOnto, List.mem_cons, haccesses]
  simp [h.word]

/-- A list shows its literals. -/
theorem mem_listOnto (h : token.Foreign) (literals : List Token) :
    token ∈ listOnto literals rest ↔ token ∈ literals ∨ token ∈ rest := by
  have hmore : ∀ ts : List Token,
      token ∈ moreOnto ts (.mark ']' :: rest) ↔ token ∈ ts ∨ token ∈ rest := by
    intro ts
    induction ts with
    | nil => simp [moreOnto, h.mark]
    | cons next ts ih => simp [moreOnto, ih, h.mark, or_assoc]
  cases literals with
  | nil => simp [listOnto, itemsOnto, h.mark]
  | cons next ts => simp [listOnto, itemsOnto, hmore, h.mark, or_assoc]

/-- A fragment shows what it is made of. -/
theorem Fragment.mem_onto (h : token.Foreign) (fragment : Fragment) :
    token ∈ fragment.onto rest ↔ token ∈ fragment.contents ∨ token ∈ rest := by
  cases fragment with
  | items literals => simp [onto, contents, mem_listOnto h, h.mark, h.word]
  | part path => simp [onto, contents, mem_pathOnto h, h.mark, h.word]

/-! ## Tests -/

/-- A negation shows nothing. -/
theorem mem_signOnto (h : token.Foreign) (negated : Bool) :
    token ∈ signOnto negated rest ↔ token ∈ rest := by
  cases negated <;> simp [signOnto, h.mark]

/-- A comparison for identity shows nothing. -/
theorem mem_identityOnto (h : token.Foreign) (negated : Bool) :
    token ∈ identityOnto negated rest ↔ token ∈ rest := by
  cases negated <;> simp [identityOnto, h.mark]

/-- A relation shows nothing. -/
theorem mem_relationOnto (h : token.Foreign) (r : Relation) :
    token ∈ relationOnto r rest ↔ token ∈ rest := by
  cases r <;> simp [relationOnto, h.mark]

/-- A test on elements shows the name of a declaration. -/
theorem mem_elementwiseOnto (h : token.Foreign) (quantifier : String) (index : Nat) :
    token ∈ elementwiseOnto quantifier index rest ↔ token = .declared index ∨ token ∈ rest := by
  simp [elementwiseOnto, h.mark, h.word]

/-- A test stands for what it shows. -/
theorem Form.mem_onto (h : token.Foreign) (path : Path) (form : Form) :
    token ∈ form.onto path rest ↔ token ∈ form.contents path ∨ token ∈ rest := by
  cases form with
  | equality negated operand =>
    simp [onto, contents, mentions, mem_pathOnto h, mem_identityOnto h, h.mark, or_assoc]
  | relation r operand =>
    simp [onto, contents, mentions, mem_pathOnto h, mem_relationOnto h, h.mark, or_assoc]
  | existence expected =>
    simp [onto, contents, mentions, mem_pathOnto h, mem_identityOnto h, h.mark, h.word]
  | pattern negated slot =>
    simp [onto, contents, mentions, mem_signOnto h, mem_pathOnto h, h.mark, h.word, or_assoc]
    exact or_left_comm
  | inclusion negated operand =>
    simp [onto, contents, mentions, mem_signOnto h, mem_pathOnto h, h.mark, h.word, or_assoc]
  | bits negated mask =>
    simp [onto, contents, mem_signOnto h, mem_pathOnto h, mem_identityOnto h, h.mark, or_assoc]
  | type negated name =>
    simp [onto, contents, mem_pathOnto h, mem_identityOnto h, h.mark, h.word, or_assoc]
  | membership negated index =>
    simp [onto, contents, mentions, mem_signOnto h, mem_pathOnto h, h.mark, h.word, or_assoc]
    exact or_left_comm
  | subset negated index =>
    simp [onto, contents, mentions, mem_signOnto h, mem_pathOnto h, mem_elementwiseOnto h,
      or_assoc]
  | superset negated literals index =>
    simp [onto, contents, mem_signOnto h, mem_listOnto h, mem_elementwiseOnto h, or_assoc]
  | overlap negated index =>
    simp [onto, contents, mentions, mem_signOnto h, mem_pathOnto h, mem_elementwiseOnto h,
      or_assoc]

/-! ## Levels -/

mutual
/-- A term stands for what its tests show. -/
theorem Term.mem_onto {token : Token} (h : token.Foreign) : ∀ (term : Term) {rest : List Token},
    token ∈ term.onto rest ↔ token ∈ leafContents term.leaves ∨ token ∈ rest
  | .truth, rest => by simp [Term.onto, Term.leaves, leafContents, h.word]
  | .test path form, rest => by simp [Term.onto, Term.leaves, leafContents, form.mem_onto h]
  | .group negated alternatives, rest => by
    rw [Term.onto, mem_signOnto h, List.mem_cons, mem_alternativesOnto h, List.mem_cons,
      Term.leaves]
    simp [h.mark]

/-- A level stands for what its tests show. -/
theorem mem_levelOnto {token : Token} (h : token.Foreign) :
    ∀ (level : List Term) {rest : List Token},
    token ∈ levelOnto level rest ↔ token ∈ leafContents (levelLeaves level) ∨ token ∈ rest
  | [], rest => by simp [levelOnto, levelLeaves, leafContents]
  | term :: more, rest => by
    rw [levelOnto, Term.mem_onto h, mem_moreTermsOnto h, levelLeaves, mem_leafContents_append,
      or_assoc]

/-- Terms behind others stand for what their tests show. -/
theorem mem_moreTermsOnto {token : Token} (h : token.Foreign) :
    ∀ (level : List Term) {rest : List Token},
    token ∈ moreTermsOnto level rest ↔ token ∈ leafContents (levelLeaves level) ∨ token ∈ rest
  | [], rest => by simp [moreTermsOnto, levelLeaves, leafContents]
  | term :: more, rest => by
    rw [levelLeaves, mem_leafContents_append, or_assoc, ← mem_moreTermsOnto h more,
      ← Term.mem_onto h, moreTermsOnto]
    simp [h.mark]

/-- Alternatives stand for what their tests show. -/
theorem mem_alternativesOnto {token : Token} (h : token.Foreign) :
    ∀ (levels : List (List Term)) {rest : List Token},
    token ∈ alternativesOnto levels rest ↔
      token ∈ leafContents (alternativesLeaves levels) ∨ token ∈ rest
  | [], rest => by simp [alternativesOnto, alternativesLeaves, leafContents]
  | level :: more, rest => by
    rw [alternativesOnto, mem_levelOnto h, mem_moreAlternativesOnto h, alternativesLeaves,
      mem_leafContents_append, or_assoc]

/-- Levels behind others stand for what their tests show. -/
theorem mem_moreAlternativesOnto {token : Token} (h : token.Foreign) :
    ∀ (levels : List (List Term)) {rest : List Token},
    token ∈ moreAlternativesOnto levels rest ↔
      token ∈ leafContents (alternativesLeaves levels) ∨ token ∈ rest
  | [], rest => by simp [moreAlternativesOnto, alternativesLeaves, leafContents]
  | level :: more, rest => by
    rw [alternativesLeaves, mem_leafContents_append, or_assoc, ← mem_moreAlternativesOnto h more,
      ← mem_levelOnto h, moreAlternativesOnto]
    simp [h.mark]
end

/-! ## Programs -/

/-- The token is quoted, a numeral or the name of a slot. -/
structure Token.Entry (token : Token) : Prop extends token.Foreign where
  newline : token ≠ .mark '\n'
  declared : ∀ index, token ≠ .declared index

/-- A quoted text is an entry. -/
theorem entry_quoted (s : String) : (Token.quoted s).Entry := ⟨⟨nofun, nofun⟩, nofun, nofun⟩

/-- The name of a slot is an entry. -/
theorem entry_slot (index : Nat) : (Token.slot index).Entry := ⟨⟨nofun, nofun⟩, nofun, nofun⟩

/-- A numeral is an entry. -/
theorem entry_numeral (text : String) : (Token.numeral text).Entry :=
  ⟨⟨nofun, nofun⟩, nofun, nofun⟩

/-- The name of a declaration stands in no template. -/
theorem foreign_declared (index : Nat) : (Token.declared index).Foreign := ⟨nofun, nofun⟩

/-- A line break stands in no template for expressions. -/
theorem foreign_newline : (Token.mark '\n').Foreign :=
  ⟨fun _ hc heq => hc (Token.mark.inj heq).symm, nofun⟩

/-- The entries of declarations are those of what is declared. -/
theorem mem_preamble (h : token.Entry) (bodies : List (List Token)) (index : Nat) :
    token ∈ preamble index bodies ↔ ∃ body ∈ bodies, token ∈ body := by
  induction bodies generalizing index with
  | nil => simp [preamble]
  | cons body more ih => simp [preamble, ih, h.mark, h.word, h.newline, h.declared]

/-- The entries of a program are those of what it declares and of what it returns. -/
theorem mem_program (h : token.Entry) (bodies : List (List Token)) (expression : List Token) :
    token ∈ program bodies expression ↔
      (∃ body ∈ bodies, token ∈ body) ∨ token ∈ expression := by
  rw [program, List.mem_append, mem_preamble h]
  simp [returned, h.mark, h.word]

/-- Readable tokens are tokens that are scanned. -/
theorem valid_of_readable {tokens : List Token} (h : Readable tokens) :
    ∀ token ∈ tokens, token.Valid := by
  induction tokens with
  | nil => nofun
  | cons token rest ih => exact List.forall_mem_cons.2 ⟨h.1, ih h.2.2⟩

/-- A line break stands in no token but itself. -/
theorem Token.newline_not_mem_text (h : token.Valid) (hne : token ≠ .mark '\n') :
    '\n' ∉ token.text.toList := by
  have hdecimal : ∀ n, '\n' ∉ (Text.decimal n).toList := by
    intro n hmem
    rw [Text.decimal, String.toList_ofList] at hmem
    cases Number.digits_toDigits n _ hmem
  cases token with
  | quoted s => exact Text.newline_not_mem_quote s
  | declared index => simp [text, Context.declaredName, hdecimal]
  | slot index => simp [text, Context.slotText, hdecimal]
  | numeral t =>
    intro hmem
    rcases h with hword | ⟨_, hchars⟩
    · cases (numberWord_spec hword).2.1 _ hmem
    · cases hchars _ hmem
  | word w =>
    intro hmem
    cases (word_spec h).2.1 _ hmem
  | mark c =>
    intro hmem
    rw [text, String.toList_ofList, List.mem_singleton] at hmem
    exact hne (congrArg Token.mark hmem.symm)

/-- A line break stands in tokens only as one of them. -/
theorem newline_not_mem_render {tokens : List Token} (h : ∀ token ∈ tokens, token.Valid)
    (hne : .mark '\n' ∉ tokens) : '\n' ∉ render tokens := by
  intro hmem
  obtain ⟨token, htoken, hchar⟩ := List.mem_flatMap.1 hmem
  refine token.newline_not_mem_text (h token htoken) ?_ hchar
  rintro rfl
  exact hne htoken

end RecordQuery.Source

import RecordQuery.Proofs.Source.Phrase

/-!
# Forms of tests

A form is what the source of a test shows: the template, the sign of a negation, and the tokens that
the template is filled with. `onto` spells it out on what a path leads to, in front of what follows,
and the text is the source of the test (`Form.Spells`). Forms with valid literals are readable
(`Form.readable_onto`).
-/

namespace RecordQuery.Source

/-- What the source of a test shows. -/
inductive Form where
  | equality (negated : Bool) (operand : Token)
  | relation (r : Relation) (operand : Token)
  | existence (expected : Bool)
  | pattern (negated : Bool) (slot : Nat)
  | inclusion (negated : Bool) (operand : Token)
  | bits (negated : Bool) (mask : Int32)
  | type (negated : Bool) (name : String)
  | membership (negated : Bool) (index : Nat)
  | subset (negated : Bool) (index : Nat)
  | superset (negated : Bool) (literals : List Token) (index : Nat)
  | overlap (negated : Bool) (index : Nat)

/-- The sign of a negation, if there is one. -/
def signOnto (negated : Bool) (rest : List Token) : List Token :=
  if negated then .mark '!' :: rest else rest

/-- The sign of a comparison for identity. -/
def identityOnto (negated : Bool) (rest : List Token) : List Token :=
  .mark (if negated then '!' else '=') :: .mark '=' :: .mark '=' :: rest

/-- The sign of a relation. -/
def relationOnto (r : Relation) (rest : List Token) : List Token :=
  match r with
  | .greater => .mark '>' :: rest
  | .greaterOrEqual => .mark '>' :: .mark '=' :: rest
  | .less => .mark '<' :: rest
  | .lessOrEqual => .mark '<' :: .mark '=' :: rest

/-- A test that all or some elements are members of a declared set. -/
def elementwiseOnto (quantifier : String) (index : Nat) (rest : List Token) : List Token :=
  .mark '.' :: .word quantifier :: .mark '(' :: .mark '(' :: .word "value" :: .mark ')' ::
    .mark ' ' :: .mark '=' :: .mark '>' :: .mark ' ' :: .declared index :: .mark '.' ::
    .word "has" :: .mark '(' :: .word "value" :: .mark ')' :: .mark ')' :: rest

/-- The numeral of a mask. -/
def maskToken (mask : Int32) : Token := .numeral (Text.integer mask.toInt)

namespace Form

/-- The form spelled out on what a path leads to. -/
def onto (path : Path) (form : Form) (rest : List Token) : List Token :=
  match form with
  | equality negated operand =>
    .mark '(' :: pathOnto path (.mark ' ' ::
      identityOnto negated (.mark ' ' :: operand :: .mark ')' :: rest))
  | relation r operand =>
    .mark '(' :: pathOnto path (.mark ' ' ::
      relationOnto r (.mark ' ' :: operand :: .mark ')' :: rest))
  | existence expected =>
    .mark '(' :: .mark '(' :: pathOnto path (.mark ' ' :: identityOnto true (.mark ' ' ::
      .word "undefined" :: .mark ' ' :: .mark '&' :: .mark '&' :: .mark ' ' ::
      pathOnto path (.mark ' ' :: identityOnto true (.mark ' ' :: .word "null" :: .mark ')' ::
      .mark ' ' :: identityOnto false (.mark ' ' ::
      .word (if expected then "true" else "false") :: .mark ')' :: rest)))))
  | pattern negated slot =>
    signOnto negated (.slot slot :: .mark '.' :: .word "test" :: .mark '(' :: .mark '\'' ::
      .mark '\'' :: .mark ' ' :: .mark '+' :: .mark ' ' :: pathOnto path (.mark ')' :: rest))
  | inclusion negated operand =>
    signOnto negated (pathOnto path (.mark '.' :: .word "includes" :: .mark '(' :: operand ::
      .mark ')' :: rest))
  | bits negated mask =>
    signOnto negated (.mark '(' :: .mark '(' :: pathOnto path (.mark ' ' :: .mark '&' ::
      .mark ' ' :: maskToken mask :: .mark ')' :: .mark ' ' ::
      identityOnto false (.mark ' ' :: maskToken mask :: .mark ')' :: rest)))
  | type negated name =>
    .mark '(' :: .word "typeof" :: .mark ' ' :: pathOnto path (.mark ' ' ::
      identityOnto negated (.mark ' ' :: .quoted name :: .mark ')' :: rest))
  | membership negated index =>
    signOnto negated (.declared index :: .mark '.' :: .word "has" :: .mark '(' ::
      pathOnto path (.mark ')' :: rest))
  | subset negated index =>
    signOnto negated (pathOnto path (elementwiseOnto "every" index rest))
  | superset negated literals index =>
    signOnto negated (listOnto literals (elementwiseOnto "every" index rest))
  | overlap negated index =>
    signOnto negated (pathOnto path (elementwiseOnto "some" index rest))

/-- The tokens that refer to a context or are literals. -/
def mentions : Form → List Token
  | equality _ operand => [operand]
  | relation _ operand => [operand]
  | existence _ => []
  | pattern _ slot => [.slot slot]
  | inclusion _ operand => [operand]
  | bits _ _ => []
  | type _ _ => []
  | membership _ index => [.declared index]
  | subset _ index => [.declared index]
  | superset _ literals index => literals ++ [.declared index]
  | overlap _ index => [.declared index]

/-- The literals of the form are tokens that are scanned, and no marks. -/
def Valid (form : Form) : Prop := ∀ token ∈ form.mentions, token.Valid ∧ ∀ c, token ≠ .mark c

/-- The source of the test, on what the path leads to, is the text of the form. -/
def Spells (path : Path) (form : Form) (test : Test) : Prop :=
  ∀ rest, render (form.onto path rest) =
    (test.source (path.expression Clause.recordVariable)).toList ++ render rest

end Form

/-- The text of a negation. -/
@[simp] theorem render_signOnto (negated : Bool) (rest : List Token) :
    render (signOnto negated rest) = (Test.negationSign negated).toList ++ render rest := by
  cases negated <;> simp [signOnto, Test.negationSign]

/-- The text of a comparison for identity. -/
@[simp] theorem render_identityOnto (negated : Bool) (rest : List Token) :
    render (identityOnto negated rest) = (Test.identitySign negated).toList ++ render rest := by
  cases negated <;> simp [identityOnto, Test.identitySign]

/-- The text of a relation. -/
@[simp] theorem render_relationOnto (r : Relation) (rest : List Token) :
    render (relationOnto r rest) = r.sign.toList ++ render rest := by
  cases r <;> simp [relationOnto, Relation.sign]

/-- The text of a test on elements. -/
theorem render_elementwiseOnto (quantifier : String) (index : Nat) (rest : List Token)
    (elements : String) :
    elements.toList ++ render (elementwiseOnto quantifier index rest) =
      (Test.elementwise elements quantifier (Context.declaredName index)).toList ++
        render rest := by
  simp [elementwiseOnto, Test.elementwise, Token.text]

namespace Form

variable {path : Path} {negated : Bool}

attribute [local simp] onto Test.source

/-- The source of an equality. -/
theorem spells_equality {operand : Literal} {token : Token} (h : operand.text = token.text) :
    Spells path (.equality negated token) (.equality negated operand) := by
  intro rest
  simp [h]

/-- The source of a relation. -/
theorem spells_relation {r : Relation} {operand : Literal} {token : Token}
    (h : operand.text = token.text) : Spells path (.relation r token) (.relation r operand) := by
  intro rest
  simp [h]

/-- The source of a test for existence. -/
theorem spells_existence {expected : Bool} :
    Spells path (.existence expected) (.existence expected) := by
  intro rest
  cases expected <;> simp [Test.identitySign]

/-- The source of a match. -/
theorem spells_pattern {operand : Literal} {slot : Nat} {p : Pattern}
    (h : operand.text = (Token.slot slot).text) :
    Spells path (.pattern negated slot) (.pattern negated operand p) := by
  intro rest
  simp [h]

/-- The source of an inclusion. -/
theorem spells_inclusion {operator : Operator} {operand : Literal} {token : Token}
    (h : operand.text = token.text) :
    Spells path (.inclusion negated token) (.inclusion negated operator operand) := by
  intro rest
  simp [h]

/-- The source of a test of bits. -/
theorem spells_bits {mask : Int32} :
    Spells path (.bits negated mask) (.bits negated mask) := by
  intro rest
  simp [Test.identitySign, maskToken, Token.text]

/-- The source of a test of type. -/
theorem spells_type {name : String} : Spells path (.type negated name) (.type negated name) := by
  intro rest
  simp [Token.text]

/-- The source of a membership. -/
theorem spells_membership {binding : Binding} :
    Spells path (.membership negated binding.index) (.membership negated binding) := by
  intro rest
  simp [Binding.name, Token.text]

/-- The source of a test that all elements are members. -/
theorem spells_subset {binding : Binding} :
    Spells path (.subset negated binding.index) (.subset negated binding) := by
  intro rest
  rw [onto, render_signOnto, render_pathOnto, render_elementwiseOnto, Test.source]
  simp [Binding.name]

/-- The source of a test that all of a list are elements. -/
theorem spells_superset {list : String} {literals : List Token} {index : Nat} {items : List Value}
    (h : list = listText literals) :
    Spells path (.superset negated literals index) (.superset negated list index items) := by
  intro rest
  rw [onto, render_signOnto, render_listOnto, render_elementwiseOnto, Test.source, h]
  simp

/-- The source of a test that some element is a member. -/
theorem spells_overlap {binding : Binding} :
    Spells path (.overlap negated binding.index) (.overlap negated binding) := by
  intro rest
  rw [onto, render_signOnto, render_pathOnto, render_elementwiseOnto, Test.source]
  simp [Binding.name]

end Form

/-! ## What follows a form -/

/-- More tokens may follow a negation. -/
@[simp] theorem signOnto_append (negated : Bool) (rest more : List Token) :
    signOnto negated rest ++ more = signOnto negated (rest ++ more) := by
  cases negated <;> rfl

/-- More tokens may follow a comparison for identity. -/
@[simp] theorem identityOnto_append (negated : Bool) (rest more : List Token) :
    identityOnto negated rest ++ more = identityOnto negated (rest ++ more) :=
  rfl

/-- More tokens may follow the sign of a relation. -/
@[simp] theorem relationOnto_append (r : Relation) (rest more : List Token) :
    relationOnto r rest ++ more = relationOnto r (rest ++ more) := by
  cases r <;> rfl

/-- More tokens may follow a test on elements. -/
@[simp] theorem elementwiseOnto_append (quantifier : String) (index : Nat)
    (rest more : List Token) :
    elementwiseOnto quantifier index rest ++ more =
      elementwiseOnto quantifier index (rest ++ more) :=
  rfl

/-- More tokens may follow a form. -/
theorem Form.onto_append (path : Path) (form : Form) (rest more : List Token) :
    form.onto path rest ++ more = form.onto path (rest ++ more) := by
  cases form <;> simp [onto]

/-! ## Readable forms -/

/-- What is readable behind a sign of negation is readable with it. -/
@[simp] theorem readable_signOnto {negated : Bool} {rest : List Token} :
    Readable (signOnto negated rest) ↔ Readable rest := by
  cases negated <;> simp [signOnto, marks]

/-- What follows a comparison for identity is readable by itself. -/
@[simp] theorem readable_identityOnto {negated : Bool} {rest : List Token} :
    Readable (identityOnto negated rest) ↔ Readable rest := by
  cases negated <;> simp [identityOnto, marks]

/-- What follows a relation is readable by itself. -/
@[simp] theorem readable_relationOnto {r : Relation} {rest : List Token} :
    Readable (relationOnto r rest) ↔ Readable rest := by
  cases r <;> simp [relationOnto, marks]

/-- What follows a test on elements is readable by itself. -/
theorem readable_elementwiseOnto {quantifier : String} (h : quantifier ∈ words) (index : Nat)
    (rest : List Token) : Readable (elementwiseOnto quantifier index rest) ↔ Readable rest := by
  simp [elementwiseOnto, marks, h, show "value" ∈ words by decide, show "has" ∈ words by decide]

/-- A test on elements may stand behind a path. -/
theorem readable_pathOnto_elementwiseOnto {path : Path} {quantifier : String}
    (h : quantifier ∈ words) (index : Nat) (rest : List Token) :
    Readable (pathOnto path (elementwiseOnto quantifier index rest)) ↔ Readable rest := by
  have helementwise := readable_elementwiseOnto h index rest
  rw [elementwiseOnto] at helementwise ⊢
  rw [readable_pathOnto, helementwise]

/-- The text of an integer is scanned as one token. -/
theorem valid_maskToken (mask : Int32) : (maskToken mask).Valid := by
  have hdigits := Number.digits_toDigits mask.toInt.natAbs
  obtain ⟨c, cs, hcs⟩ := List.exists_cons_of_ne_nil
    (Nat.toDigits_ne_nil : Nat.toDigits 10 mask.toInt.natAbs ≠ [])
  have hc : c.isDigit = true := hdigits c (hcs ▸ .head _)
  have hchars : ∀ c ∈ Nat.toDigits 10 mask.toInt.natAbs, isNumberChar c = true := by
    intro c hc
    rw [isNumberChar, hdigits.numeral c hc, Bool.true_or]
  refine .inr ?_
  rw [Text.integer, Text.decimal]
  split
  · simp only [String.toList_append, String.toList_ofList]
    exact ⟨⟨'-', rfl, .inr rfl⟩, List.forall_mem_cons.2 ⟨rfl, hchars⟩⟩
  · rw [String.toList_ofList]
    exact ⟨⟨c, by rw [hcs]; rfl, .inl hc⟩, hchars⟩

/-- A form with valid literals is readable in front of what is. -/
theorem Form.readable_onto {path : Path} {form : Form} (h : form.Valid) {rest : List Token} :
    Readable (form.onto path rest) ↔ Readable rest := by
  have hclose : isNumberChar ')' = false := by decide
  have hevery : "every" ∈ words := by decide
  have hsome : "some" ∈ words := by decide
  cases form with
  | equality negated operand =>
    have hoperand := (h operand (.head _)).1
    simp [onto, marks, readable_cons_of_isNumberChar hoperand hclose]
  | relation r operand =>
    have hoperand := (h operand (.head _)).1
    simp [onto, marks, readable_cons_of_isNumberChar hoperand hclose]
  | existence expected => cases expected <;> simp [onto, marks, words]
  | pattern negated slot => simp [onto, marks, words]
  | inclusion negated operand =>
    have hoperand := (h operand (.head _)).1
    simp [onto, marks, words, readable_cons_of_isNumberChar hoperand hclose]
  | bits negated mask =>
    simp [onto, marks, readable_cons_of_isNumberChar (valid_maskToken mask) hclose]
  | type negated name => simp [onto, marks, words]
  | membership negated index => simp [onto, marks, words]
  | subset negated index => simp [onto, readable_pathOnto_elementwiseOnto hevery]
  | superset negated literals index =>
    have hliterals : ∀ token ∈ literals, token.Valid := fun token ht =>
      (h token (List.mem_append_left _ ht)).1
    simp [onto, readable_listOnto hliterals, readable_elementwiseOnto hevery]
  | overlap negated index => simp [onto, readable_pathOnto_elementwiseOnto hsome]

end RecordQuery.Source

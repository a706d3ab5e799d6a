import RecordQuery.Proofs.Source.Form

/-!
# Terms of compiled source

The expression that a filter returns is a level: terms with `&&` between them. A term is the word
for truth, a test, or levels with `||` between them in parentheses. Levels of queries that are
nested in each other without parentheses are one level here, so that a level is what a reader of the
source makes of it. A level with valid forms is readable (`readable_levelOnto`).
-/

namespace RecordQuery.Source

/-- A term of a level. -/
inductive Term where
  /-- What holds of everything. -/
  | truth
  /-- A test on what a path leads to. -/
  | test (path : Path) (form : Form)
  /-- One of several levels holds, or none of them does. -/
  | group (negated : Bool) (alternatives : List (List Term))

mutual
/-- A term in front of what follows. -/
def Term.onto : Term → List Token → List Token
  | .truth, rest => .word "true" :: rest
  | .test path form, rest => form.onto path rest
  | .group negated alternatives, rest =>
    signOnto negated (.mark '(' :: alternativesOnto alternatives (.mark ')' :: rest))

/-- Terms with `&&` between them. -/
def levelOnto : List Term → List Token → List Token
  | [], rest => rest
  | term :: more, rest => term.onto (moreTermsOnto more rest)

/-- Terms with `&&` before each of them. -/
def moreTermsOnto : List Term → List Token → List Token
  | [], rest => rest
  | term :: more, rest =>
    .mark ' ' :: .mark '&' :: .mark '&' :: .mark ' ' :: term.onto (moreTermsOnto more rest)

/-- Levels with `||` between them. -/
def alternativesOnto : List (List Term) → List Token → List Token
  | [], rest => rest
  | level :: more, rest => levelOnto level (moreAlternativesOnto more rest)

/-- Levels with `||` before each of them. -/
def moreAlternativesOnto : List (List Term) → List Token → List Token
  | [], rest => rest
  | level :: more, rest =>
    .mark ' ' :: .mark '|' :: .mark '|' :: .mark ' ' ::
      levelOnto level (moreAlternativesOnto more rest)
end

mutual
/-- The tests in a term. -/
def Term.leaves : Term → List (Path × Form)
  | .truth => []
  | .test path form => [(path, form)]
  | .group _ alternatives => alternativesLeaves alternatives

/-- The tests in a level. -/
def levelLeaves : List Term → List (Path × Form)
  | [] => []
  | term :: more => term.leaves ++ levelLeaves more

/-- The tests in several levels. -/
def alternativesLeaves : List (List Term) → List (Path × Form)
  | [] => []
  | level :: more => levelLeaves level ++ alternativesLeaves more
end

mutual
/-- Groups have alternatives, and alternatives have terms. -/
def Term.Proper : Term → Prop
  | .group _ alternatives => alternatives ≠ [] ∧ ProperAlternatives alternatives
  | _ => True

/-- Groups in the level have alternatives, and alternatives have terms. -/
def ProperLevel : List Term → Prop
  | [] => True
  | term :: more => term.Proper ∧ ProperLevel more

/-- The levels have terms and are proper. -/
def ProperAlternatives : List (List Term) → Prop
  | [] => True
  | level :: more => (level ≠ [] ∧ ProperLevel level) ∧ ProperAlternatives more
end

/-- What the tests of a level mention. -/
def levelMentions (level : List Term) : List Token :=
  (levelLeaves level).flatMap fun leaf => leaf.2.mentions

/-- The tests of joined levels are those of both. -/
@[simp] theorem levelLeaves_append (first second : List Term) :
    levelLeaves (first ++ second) = levelLeaves first ++ levelLeaves second := by
  induction first with
  | nil => rfl
  | cons term more ih => rw [List.cons_append, levelLeaves, levelLeaves, ih, List.append_assoc]

/-- Joined levels mention what both mention. -/
theorem levelMentions_append (first second : List Term) :
    levelMentions (first ++ second) = levelMentions first ++ levelMentions second := by
  rw [levelMentions, levelLeaves_append, List.flatMap_append, levelMentions, levelMentions]

/-- Joined levels are proper when both are. -/
theorem properLevel_append {first second : List Term} :
    ProperLevel (first ++ second) ↔ ProperLevel first ∧ ProperLevel second := by
  induction first with
  | nil => exact (and_iff_right trivial).symm
  | cons term more ih => rw [List.cons_append, ProperLevel, ProperLevel, ih, and_assoc]

/-- Terms behind others go on behind them. -/
theorem moreTermsOnto_append (first second : List Term) (rest : List Token) :
    moreTermsOnto (first ++ second) rest = moreTermsOnto first (moreTermsOnto second rest) := by
  induction first with
  | nil => rfl
  | cons term more ih => rw [List.cons_append, moreTermsOnto, moreTermsOnto, ih]

/-- A level behind another goes on behind it. -/
theorem levelOnto_append {first : List Term} (h : first ≠ []) (second : List Term)
    (rest : List Token) :
    levelOnto (first ++ second) rest = levelOnto first (moreTermsOnto second rest) := by
  obtain ⟨term, more, rfl⟩ := List.exists_cons_of_ne_nil h
  rw [List.cons_append, levelOnto, levelOnto, moreTermsOnto_append]

/-- Terms behind others are a level behind a conjunction. -/
theorem moreTermsOnto_eq {level : List Term} (h : level ≠ []) (rest : List Token) :
    moreTermsOnto level rest =
      .mark ' ' :: .mark '&' :: .mark '&' :: .mark ' ' :: levelOnto level rest := by
  obtain ⟨term, more, rfl⟩ := List.exists_cons_of_ne_nil h
  rw [moreTermsOnto, levelOnto]

mutual
/-- More tokens may follow a term. -/
theorem Term.onto_append : ∀ (term : Term) (rest more : List Token),
    term.onto rest ++ more = term.onto (rest ++ more)
  | .truth, _, _ => rfl
  | .test path form, rest, more => form.onto_append path rest more
  | .group negated alternatives, rest, more => by
    simp only [Term.onto, signOnto_append, List.cons_append, alternativesOnto_append]

/-- More tokens may follow a level. -/
theorem levelOnto_append_rest : ∀ (level : List Term) (rest more : List Token),
    levelOnto level rest ++ more = levelOnto level (rest ++ more)
  | [], _, _ => rfl
  | term :: terms, rest, more => by
    rw [levelOnto, Term.onto_append, moreTermsOnto_append_rest, levelOnto]

/-- More tokens may follow terms behind others. -/
theorem moreTermsOnto_append_rest : ∀ (level : List Term) (rest more : List Token),
    moreTermsOnto level rest ++ more = moreTermsOnto level (rest ++ more)
  | [], _, _ => rfl
  | term :: terms, rest, more => by
    simp only [moreTermsOnto, List.cons_append, Term.onto_append, moreTermsOnto_append_rest terms]

/-- More tokens may follow alternatives. -/
theorem alternativesOnto_append : ∀ (levels : List (List Term)) (rest more : List Token),
    alternativesOnto levels rest ++ more = alternativesOnto levels (rest ++ more)
  | [], _, _ => rfl
  | level :: levels, rest, more => by
    rw [alternativesOnto, levelOnto_append_rest, moreAlternativesOnto_append, alternativesOnto]

/-- More tokens may follow levels behind others. -/
theorem moreAlternativesOnto_append : ∀ (levels : List (List Term)) (rest more : List Token),
    moreAlternativesOnto levels rest ++ more = moreAlternativesOnto levels (rest ++ more)
  | [], _, _ => rfl
  | level :: levels, rest, more => by
    simp only [moreAlternativesOnto, List.cons_append, levelOnto_append_rest,
      moreAlternativesOnto_append levels]
end

/-- The tests of several levels are those of the levels joined. -/
theorem alternativesLeaves_eq (levels : List (List Term)) :
    alternativesLeaves levels = levelLeaves levels.flatten := by
  induction levels with
  | nil => rfl
  | cons level more ih => rw [alternativesLeaves, List.flatten_cons, levelLeaves_append, ih]

/-- Levels with terms are proper alternatives if they are proper when joined. -/
theorem properAlternatives_of_flatten {levels : List (List Term)}
    (hne : ∀ level ∈ levels, level ≠ []) (h : ProperLevel levels.flatten) :
    ProperAlternatives levels := by
  induction levels with
  | nil => trivial
  | cons level more ih =>
    rw [List.forall_mem_cons] at hne
    rw [List.flatten_cons, properLevel_append] at h
    exact ⟨⟨hne.1, h.1⟩, ih hne.2 h.2⟩

/-! ## Readable levels -/

/-- Every test of the leaves is valid. -/
def ValidLeaves (leaves : List (Path × Form)) : Prop := ∀ leaf ∈ leaves, leaf.2.Valid

/-- Leaves are valid when both parts are. -/
theorem validLeaves_append {first second : List (Path × Form)} :
    ValidLeaves (first ++ second) ↔ ValidLeaves first ∧ ValidLeaves second :=
  List.forall_mem_append

/-- The tokens begin with a mark. -/
def BeginsWithMark (tokens : List Token) : Prop := ∃ c rest, tokens = .mark c :: rest

/-- Terms behind others begin with a mark where what follows does. -/
theorem beginsWithMark_moreTermsOnto (terms : List Term) {rest : List Token}
    (h : BeginsWithMark rest) : BeginsWithMark (moreTermsOnto terms rest) := by
  cases terms with
  | nil => exact h
  | cons => exact ⟨_, _, rfl⟩

/-- Levels behind others begin with a mark where what follows does. -/
theorem beginsWithMark_moreAlternativesOnto (levels : List (List Term)) {rest : List Token}
    (h : BeginsWithMark rest) : BeginsWithMark (moreAlternativesOnto levels rest) := by
  cases levels with
  | nil => exact h
  | cons => exact ⟨_, _, rfl⟩

mutual
/-- A term with valid forms is readable in front of a mark that is. -/
theorem Term.readable_onto {rest : List Token} (hrest : BeginsWithMark rest) : ∀ {term : Term},
    ValidLeaves term.leaves → (Readable (term.onto rest) ↔ Readable rest)
  | .truth, _ => by
    obtain ⟨c, rest, rfl⟩ := hrest
    simp [Term.onto, words]
  | .test path form, h => by
    rw [Term.onto, Form.readable_onto (h _ (.head _))]
  | .group negated alternatives, h => by
    have halternatives : Readable (alternativesOnto alternatives (.mark ')' :: rest)) ↔
        Readable (.mark ')' :: rest) := readable_alternativesOnto ⟨_, _, rfl⟩ h
    rw [Term.onto, readable_signOnto, readable_mark, halternatives]
    simp [marks]

/-- A level with valid forms is readable in front of a mark that is. -/
theorem readable_levelOnto {rest : List Token} (hrest : BeginsWithMark rest) :
    ∀ {level : List Term}, ValidLeaves (levelLeaves level) →
    (Readable (levelOnto level rest) ↔ Readable rest)
  | [], _ => Iff.rfl
  | term :: more, h => by
    rw [levelLeaves, validLeaves_append] at h
    rw [levelOnto, Term.readable_onto (beginsWithMark_moreTermsOnto more hrest) h.1,
      readable_moreTermsOnto hrest h.2]

/-- Terms behind others are readable in front of a mark that is. -/
theorem readable_moreTermsOnto {rest : List Token} (hrest : BeginsWithMark rest) :
    ∀ {level : List Term}, ValidLeaves (levelLeaves level) →
    (Readable (moreTermsOnto level rest) ↔ Readable rest)
  | [], _ => Iff.rfl
  | term :: more, h => by
    rw [levelLeaves, validLeaves_append] at h
    have hterm := Term.readable_onto (beginsWithMark_moreTermsOnto more hrest) h.1
    simp [moreTermsOnto, marks, hterm, readable_moreTermsOnto hrest h.2]

/-- Alternatives with valid forms are readable in front of a mark that is. -/
theorem readable_alternativesOnto {rest : List Token} (hrest : BeginsWithMark rest) :
    ∀ {levels : List (List Term)}, ValidLeaves (alternativesLeaves levels) →
    (Readable (alternativesOnto levels rest) ↔ Readable rest)
  | [], _ => Iff.rfl
  | level :: more, h => by
    rw [alternativesLeaves, validLeaves_append] at h
    rw [alternativesOnto, readable_levelOnto (beginsWithMark_moreAlternativesOnto more hrest) h.1,
      readable_moreAlternativesOnto hrest h.2]

/-- Levels behind others are readable in front of a mark that is. -/
theorem readable_moreAlternativesOnto {rest : List Token} (hrest : BeginsWithMark rest) :
    ∀ {levels : List (List Term)}, ValidLeaves (alternativesLeaves levels) →
    (Readable (moreAlternativesOnto levels rest) ↔ Readable rest)
  | [], _ => Iff.rfl
  | level :: more, h => by
    rw [alternativesLeaves, validLeaves_append] at h
    have hlevel := readable_levelOnto (beginsWithMark_moreAlternativesOnto more hrest) h.1
    simp [moreAlternativesOnto, marks, hlevel, readable_moreAlternativesOnto hrest h.2]
end

end RecordQuery.Source

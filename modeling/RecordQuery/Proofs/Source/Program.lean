import Mathlib.Data.List.Forall2
import RecordQuery.Filter.Basic
import RecordQuery.Proofs.Source.Unambiguous

/-!
# Whole sources

The source of a filter declares fragments, one a line, and returns an expression: a level, or the
word for what fits nothing. `program` puts its tokens together, `render_program` says that they are
the text that a filter has, `readable_program` that they are readable, and `program_inj` that
fragments and expression are determined by them.
-/

namespace RecordQuery.Source

/-- The lines that declare what the given tokens make, from an index on. -/
def preamble : Nat → List (List Token) → List Token
  | _, [] => []
  | index, body :: more =>
    .word "const" :: .mark ' ' :: .declared index :: .mark ' ' :: .mark '=' :: .mark ' ' ::
      (body ++ .mark ';' :: .mark '\n' :: preamble (index + 1) more)

/-- The statement that returns an expression. -/
def returned (expression : List Token) : List Token :=
  .word "return" :: .mark ' ' :: (expression ++ [.mark ';'])

/-- A whole source: declarations, and the statement that returns the expression. -/
def program (bodies : List (List Token)) (expression : List Token) : List Token :=
  preamble 0 bodies ++ returned expression

/-- The tokens of fragments. -/
def bodiesOf (parts : List Fragment) : List (List Token) := parts.map fun part => part.onto []

/-- The tokens of an expression: a level, or what fits nothing. -/
def expressionOf : Option (List Term) → List Token
  | some level => levelOnto level []
  | none => [.word "false"]

/-- A fragment in a line is followed by the end of the line and the other lines. -/
theorem preamble_cons (index : Nat) (part : Fragment) (more : List Fragment) (rest : List Token) :
    preamble index (bodiesOf (part :: more)) ++ rest =
      .word "const" :: .mark ' ' :: .declared index :: .mark ' ' :: .mark '=' :: .mark ' ' ::
        part.onto (.mark ';' :: .mark '\n' :: (preamble (index + 1) (bodiesOf more) ++ rest)) := by
  simp [bodiesOf, preamble, Fragment.onto_append]

/-- A level that is returned is followed by the end of the statement. -/
theorem returned_some (level : List Term) :
    returned (expressionOf (some level)) =
      .word "return" :: .mark ' ' :: levelOnto level [.mark ';'] := by
  rw [returned, expressionOf, levelOnto_append_rest, List.nil_append]

/-! ## The text of a program -/

/-- The text of declarations. -/
theorem render_preamble {declarations : List Declaration} {parts : List Fragment}
    (h : List.Forall₂ (fun d (part : Fragment) => d.fragment = part.text) declarations parts)
    (index : Nat) (rest : List Token) :
    render (preamble index (bodiesOf parts) ++ rest) =
      (Context.linesFrom index declarations).toList ++ render rest := by
  induction h generalizing index with
  | nil => rfl
  | cons hpart _ ih =>
    rw [preamble_cons, Context.linesFrom, hpart]
    simp [ih, Token.text]

/-- The text of a program is the source of a filter. -/
theorem render_program {filter : Filter} {parts : List Fragment} {level? : Option (List Term)}
    (hparts : List.Forall₂ (fun d (part : Fragment) => d.fragment = part.text)
      filter.context.declarations parts)
    (hlevel : render (returned (expressionOf level?)) =
      ("return " ++ filter.expression ++ ";").toList) :
    filter.source.toList = render (program (bodiesOf parts) (expressionOf level?)) := by
  rw [program, render_preamble hparts, hlevel, Filter.source, Context.source]
  simp

/-! ## Readable programs -/

/-- Declarations of valid fragments are readable in front of what is. -/
theorem readable_preamble {parts : List Fragment} (h : ∀ part ∈ parts, part.Valid) (index : Nat)
    {rest : List Token} :
    Readable (preamble index (bodiesOf parts) ++ rest) ↔ Readable rest := by
  induction parts generalizing index with
  | nil => rfl
  | cons part more ih =>
    rw [List.forall_mem_cons] at h
    rw [preamble_cons]
    simp [words, marks, Fragment.readable_onto h.1, ih h.2]

/-- A program of valid fragments and valid tests is readable. -/
theorem readable_program {parts : List Fragment} {level? : Option (List Term)}
    (hparts : ∀ part ∈ parts, part.Valid)
    (hlevel : ∀ level ∈ level?, ValidLeaves (levelLeaves level)) :
    Readable (program (bodiesOf parts) (expressionOf level?)) := by
  rw [program, readable_preamble hparts]
  have hend : Readable [.mark ';'] := readable_mark.2 ⟨by decide, trivial⟩
  cases level? with
  | none => simp [returned, expressionOf, words, marks, hend]
  | some level =>
    have hmark : BeginsWithMark [.mark ';'] := ⟨_, _, rfl⟩
    rw [returned_some]
    simp [words, marks, (readable_levelOnto hmark (hlevel level rfl)).2 hend]

/-! ## What a program is determined by -/

/-- Declared fragments and what is returned are determined by the tokens. -/
theorem preamble_inj {parts parts' : List Fragment} (h : ∀ part ∈ parts, part.Valid)
    (h' : ∀ part ∈ parts', part.Valid) {index : Nat} {expression expression' : List Token}
    (heq : preamble index (bodiesOf parts) ++ returned expression =
      preamble index (bodiesOf parts') ++ returned expression') :
    parts = parts' ∧ expression = expression' := by
  induction parts generalizing parts' index with
  | nil =>
    cases parts' with
    | nil =>
      have hend := (List.cons.inj (List.cons.inj heq).2).2
      exact ⟨rfl, List.append_cancel_right hend⟩
    | cons part' more' =>
      rw [preamble_cons] at heq
      exact absurd (Token.word.inj (List.cons.inj heq).1) (by decide)
  | cons part more ih =>
    cases parts' with
    | nil =>
      rw [preamble_cons] at heq
      exact absurd (Token.word.inj (List.cons.inj heq).1) (by decide)
    | cons part' more' =>
      rw [List.forall_mem_cons] at h h'
      rw [preamble_cons, preamble_cons] at heq
      simp only [List.cons.injEq, true_and] at heq
      obtain ⟨rfl, hmore⟩ := Fragment.onto_inj h.1 h'.1 heq
      simp only [List.cons.injEq, true_and] at hmore
      obtain ⟨rfl, hexpression⟩ := ih h.2 h'.2 hmore
      exact ⟨rfl, hexpression⟩

/-- What fits nothing is no level. -/
theorem false_ne_levelOnto {parts : List Fragment} {level : List Term} (hne : level ≠ [])
    (hproper : ProperLevel level) (hlegible : Legible parts (levelLeaves level))
    (rest rest' : List Token) : Token.word "false" :: rest ≠ levelOnto level rest' := by
  obtain ⟨term, more, rfl⟩ := List.exists_cons_of_ne_nil hne
  rw [levelLeaves, legible_append] at hlegible
  intro h
  have hread := readTest?_term hproper.1 hlegible.1 (moreTermsOnto more rest')
  rw [levelOnto] at h
  rw [← h] at hread
  cases term with
  | test => cases hread
  | truth => exact absurd (Token.word.inj (List.cons.inj h).1) (by decide)
  | group negated => cases negated <;> cases h

/-- The expression of legible tests is determined by the tokens. -/
theorem expressionOf_inj {parts : List Fragment} {level? level?' : Option (List Term)}
    (h : ∀ level ∈ level?, level ≠ [] ∧ ProperLevel level ∧ Legible parts (levelLeaves level))
    (h' : ∀ level ∈ level?', level ≠ [] ∧ ProperLevel level ∧ Legible parts (levelLeaves level))
    (heq : expressionOf level? = expressionOf level?') : level? = level?' := by
  cases level? with
  | none =>
    cases level?' with
    | none => rfl
    | some level' =>
      obtain ⟨hne, hproper, hlegible⟩ := h' level' rfl
      exact absurd heq (false_ne_levelOnto hne hproper hlegible [] [])
  | some level =>
    obtain ⟨hne, hproper, hlegible⟩ := h level rfl
    cases level?' with
    | none => exact absurd heq.symm (false_ne_levelOnto hne hproper hlegible [] [])
    | some level' =>
      obtain ⟨hne', hproper', hlegible'⟩ := h' level' rfl
      have hstops : Stops [] := nofun
      rw [(levelOnto_inj hne hne' hproper hproper' hlegible hlegible' hstops hstops heq).1]

end RecordQuery.Source

import RecordQuery.Filter.Clause
import RecordQuery.Proofs.Source.Token

/-!
# Phrases of compiled source

The parts that templates are filled with, as tokens in front of what follows: the expression for
what a path leads to, lists of literals, and the fragments that make sets of either. Each phrase has
the text that compilation writes and is readable in front of what is. Paths and lists are read back
from their tokens (`readPath?_pathOnto`, `readItems_itemsOnto`), so a fragment is determined by its
text (`Fragment.text_injective`).
-/

namespace RecordQuery.Source

/-! ## Paths -/

/-- The accesses to the keys of a path. -/
def accessesOnto : Path → List Token → List Token
  | [], rest => rest
  | key :: path, rest =>
    .mark '?' :: .mark '.' :: .mark '[' :: .quoted key :: .mark ']' :: accessesOnto path rest

/-- The expression for what a path leads to. -/
def pathOnto (path : Path) (rest : List Token) : List Token :=
  .word "data" :: accessesOnto path rest

/-- The text of the expression for what a path leads to. -/
@[simp] theorem render_pathOnto (path : Path) (rest : List Token) :
    render (pathOnto path rest) =
      (path.expression Clause.recordVariable).toList ++ render rest := by
  have haccesses : ∀ (path : Path) (root : String),
      (path.expression root).toList ++ render rest =
        root.toList ++ render (accessesOnto path rest) := by
    intro path
    induction path with
    | nil => intro root; rfl
    | cons key path ih =>
      intro root
      rw [Path.expression, List.foldl_cons, ← Path.expression, ih]
      simp [Path.access, accessesOnto, Token.text]
  rw [haccesses, pathOnto, render_cons]
  rfl

/-- More tokens may follow the expression for what a path leads to. -/
@[simp] theorem pathOnto_append (path : Path) (rest more : List Token) :
    pathOnto path rest ++ more = pathOnto path (rest ++ more) := by
  have haccesses : accessesOnto path rest ++ more = accessesOnto path (rest ++ more) := by
    induction path with
    | nil => rfl
    | cons key path ih => simp [accessesOnto, ih]
  rw [pathOnto, List.cons_append, haccesses, pathOnto]

/-- A path may stand in front of a mark. -/
@[simp] theorem readable_pathOnto {path : Path} {c : Char} {rest : List Token} :
    Readable (pathOnto path (.mark c :: rest)) ↔ Readable (.mark c :: rest) := by
  have haccesses : ∀ path : Path,
      Readable (accessesOnto path (.mark c :: rest)) ↔ Readable (.mark c :: rest) := by
    intro path
    induction path with
    | nil => rfl
    | cons key path ih =>
      rw [accessesOnto]
      simp [ih, marks]
  rw [← haccesses path]
  cases path with
  | nil => simp [pathOnto, accessesOnto, words]
  | cons key path => simp [pathOnto, accessesOnto, words]

/-- The accesses at the front of tokens, and what follows them. -/
def readAccesses : List Token → Path × List Token
  | .mark '?' :: _ :: _ :: .quoted key :: _ :: rest =>
    (key :: (readAccesses rest).1, (readAccesses rest).2)
  | tokens => ([], tokens)

/-- The path of the expression at the front of tokens, and what follows it. -/
def readPath? : List Token → Option (Path × List Token)
  | .word "data" :: rest => some (readAccesses rest)
  | _ => none

/-- The accesses to the keys of a path are read as the path. -/
theorem readAccesses_accessesOnto {c : Char} (hc : c ≠ '?') (path : Path) (rest : List Token) :
    readAccesses (accessesOnto path (.mark c :: rest)) = (path, .mark c :: rest) := by
  induction path with
  | nil =>
    rw [accessesOnto]
    unfold readAccesses
    split
    · rename_i heq
      cases heq
      exact absurd rfl hc
    · rfl
  | cons key path ih => rw [accessesOnto, readAccesses, ih]

/-- The expression for a part is read as its path. -/
theorem readPath?_pathOnto {c : Char} (hc : c ≠ '?') (path : Path) (rest : List Token) :
    readPath? (pathOnto path (.mark c :: rest)) = some (path, .mark c :: rest) := by
  rw [pathOnto, readPath?, readAccesses_accessesOnto hc]

/-! ## Lists -/

/-- Literals with a comma before each of them. -/
def moreOnto : List Token → List Token → List Token
  | [], rest => rest
  | token :: more, rest => .mark ',' :: token :: moreOnto more rest

/-- Literals with commas between them. -/
def itemsOnto : List Token → List Token → List Token
  | [], rest => rest
  | token :: more, rest => token :: moreOnto more rest

/-- A list of literals. -/
def listOnto (literals rest : List Token) : List Token :=
  .mark '[' :: itemsOnto literals (.mark ']' :: rest)

/-- The text of a list of literals. -/
def listText (literals : List Token) : String :=
  "[" ++ String.intercalate "," (literals.map Token.text) ++ "]"

/-- The text of a list of literals. -/
@[simp] theorem render_listOnto (literals rest : List Token) :
    render (listOnto literals rest) = (listText literals).toList ++ render rest := by
  have hmore : ∀ (more : List Token) (token : Token) (rest : List Token),
      render (token :: moreOnto more rest) =
        (String.intercalate "," ((token :: more).map Token.text)).toList ++ render rest := by
    intro more
    induction more with
    | nil => simp [moreOnto]
    | cons next more ih =>
      intro token rest
      rw [moreOnto, render_cons, render_cons, ih]
      simp [String.intercalate_cons_cons]
  rw [listOnto, render_cons, listText]
  cases literals with
  | nil => simp [itemsOnto]
  | cons token more => simp [itemsOnto, hmore, -render_cons, render_cons (.mark ']')]

/-- More tokens may follow a list. -/
@[simp] theorem listOnto_append (literals rest more : List Token) :
    listOnto literals rest ++ more = listOnto literals (rest ++ more) := by
  have hmore : ∀ ts : List Token,
      moreOnto ts (.mark ']' :: rest) ++ more = moreOnto ts (.mark ']' :: (rest ++ more)) := by
    intro ts
    induction ts with
    | nil => rfl
    | cons token ts ih => simp [moreOnto, ih]
  cases literals with
  | nil => rfl
  | cons token ts => simp [listOnto, itemsOnto, hmore]

/-- A list of tokens is readable in front of what is. -/
theorem readable_listOnto {literals rest : List Token} (h : ∀ token ∈ literals, token.Valid) :
    Readable (listOnto literals rest) ↔ Readable rest := by
  have hmore : ∀ (more : List Token) (token : Token), token.Valid → (∀ token ∈ more, token.Valid) →
      (Readable (token :: moreOnto more (.mark ']' :: rest)) ↔ Readable rest) := by
    intro more
    induction more with
    | nil =>
      intro token htoken _
      rw [moreOnto, readable_cons_of_isNumberChar htoken (by decide)]
      simp [marks]
    | cons next more ih =>
      intro token htoken h
      rw [List.forall_mem_cons] at h
      rw [moreOnto, readable_cons_of_isNumberChar htoken (by decide), readable_mark,
        ih next h.1 h.2]
      simp [marks]
  rw [listOnto, readable_mark]
  cases literals with
  | nil => simp [itemsOnto, marks]
  | cons token more =>
    rw [List.forall_mem_cons] at h
    rw [itemsOnto, hmore more token h.1 h.2]
    simp [marks]

/-- The literals behind commas at the front of tokens, and what follows the list. -/
def readMore : List Token → List Token × List Token
  | .mark ',' :: token :: rest => (token :: (readMore rest).1, (readMore rest).2)
  | tokens => ([], tokens.drop 1)

/-- The literals at the front of tokens, and what follows the list. -/
def readItems : List Token → List Token × List Token
  | .mark _ :: rest => ([], rest)
  | token :: rest => (token :: (readMore rest).1, (readMore rest).2)
  | [] => ([], [])

/-- Literals behind commas are read up to the end of the list. -/
theorem readMore_moreOnto (literals rest : List Token) :
    readMore (moreOnto literals (.mark ']' :: rest)) = (literals, rest) := by
  induction literals with
  | nil => rfl
  | cons token more ih => rw [moreOnto, readMore, ih]

/-- Literals are read up to the end of the list, as no literal is a mark. -/
theorem readItems_itemsOnto {literals : List Token} (h : ∀ c, .mark c ∉ literals)
    (rest : List Token) :
    readItems (itemsOnto literals (.mark ']' :: rest)) = (literals, rest) := by
  cases literals with
  | nil => rfl
  | cons token more =>
    have hmore := readMore_moreOnto more rest
    cases token with
    | mark c => exact absurd (.head _) (h c)
    | quoted | declared | slot | numeral | word =>
      rw [itemsOnto, readItems, hmore]
      simp

/-! ## Fragments -/

/-- What a declared set is made of. -/
inductive Fragment where
  /-- A list of literals. -/
  | items (literals : List Token)
  /-- The part that a path leads to. -/
  | part (path : Path)

namespace Fragment

/-- The fragment as tokens. -/
def onto (fragment : Fragment) (rest : List Token) : List Token :=
  .word "new" :: .mark ' ' :: .word "Set" :: .mark '(' ::
    match fragment with
    | items literals => listOnto literals (.mark ')' :: rest)
    | part path => pathOnto path (.mark ')' :: rest)

/-- The fragment as text. -/
def text : Fragment → String
  | items literals => ValueSet.fragment (listText literals)
  | part path => ValueSet.fragment (path.expression Clause.recordVariable)

/-- The literals of the fragment are tokens that are scanned, and no marks. -/
def Valid : Fragment → Prop
  | items literals => (∀ token ∈ literals, token.Valid) ∧ ∀ c, .mark c ∉ literals
  | part _ => True

/-- The text of a fragment. -/
@[simp] theorem render_onto (fragment : Fragment) (rest : List Token) :
    render (fragment.onto rest) = fragment.text.toList ++ render rest := by
  cases fragment with
  | items literals => simp [onto, text, ValueSet.fragment]
  | part path => simp [onto, text, ValueSet.fragment]

/-- More tokens may follow a fragment. -/
theorem onto_append (fragment : Fragment) (rest more : List Token) :
    fragment.onto rest ++ more = fragment.onto (rest ++ more) := by
  cases fragment <;> simp [onto]

/-- A fragment is readable in front of what is. -/
theorem readable_onto {fragment : Fragment} (h : fragment.Valid) {rest : List Token} :
    Readable (fragment.onto rest) ↔ Readable rest := by
  cases fragment with
  | items literals => simp [onto, words, marks, readable_listOnto h.1]
  | part path => simp [onto, words, marks]

/-- A fragment and what follows it are determined by the tokens. -/
theorem onto_inj {f g : Fragment} (hf : f.Valid) (hg : g.Valid) {rest rest' : List Token}
    (h : f.onto rest = g.onto rest') : f = g ∧ rest = rest' := by
  simp only [onto, List.cons.injEq, true_and] at h
  cases f with
  | items ts =>
    cases g with
    | items us =>
      have hread := readItems_itemsOnto hf.2 (.mark ')' :: rest)
      rw [(List.cons.inj h).2, readItems_itemsOnto hg.2] at hread
      cases hread
      exact ⟨rfl, rfl⟩
    | part path => cases (List.cons.inj h).1
  | part path =>
    cases g with
    | items us => cases (List.cons.inj h).1
    | part path' =>
      change pathOnto path (.mark ')' :: rest) = pathOnto path' (.mark ')' :: rest') at h
      have hclose : ')' ≠ '?' := by decide
      have hread := readPath?_pathOnto hclose path rest
      rw [h, readPath?_pathOnto hclose] at hread
      cases hread
      exact ⟨rfl, rfl⟩

/-- A fragment is determined by its text. -/
theorem text_injective {f g : Fragment} (hf : f.Valid) (hg : g.Valid) (h : f.text = g.text) :
    f = g := by
  have hrender : render (f.onto []) = render (g.onto []) := by rw [render_onto, render_onto, h]
  have hnil : Readable [] := trivial
  exact (onto_inj hf hg (render_injective ((readable_onto hf).2 hnil) ((readable_onto hg).2 hnil)
    hrender)).1

end Fragment

end RecordQuery.Source

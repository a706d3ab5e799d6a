import RecordQuery.Proofs.Source.Reading
import RecordQuery.Proofs.Source.Term

/-!
# Levels are determined by their tokens

A level is written without parentheses, and so is what it is a part of. Still its tokens leave no
choice (`levelOnto_inj`): a test is read as it was spelled out, and a group is never read as a test,
as what begins a level is neither what is compared nor what is tested for bits or existence
(`readTest?_group`). Where a level ends is known by what follows (`Stops`).
-/

namespace RecordQuery.Source

/-! ## What a level begins with -/

/-- Alternatives begin with a term. -/
theorem exists_alternativesOnto_eq {alternatives : List (List Term)} (hne : alternatives ≠ [])
    (h : ProperAlternatives alternatives) (rest : List Token) :
    ∃ term more, term.Proper ∧ alternativesOnto alternatives rest = Term.onto term more := by
  obtain ⟨level, levels, rfl⟩ := List.exists_cons_of_ne_nil hne
  obtain ⟨term, terms, rfl⟩ := List.exists_cons_of_ne_nil h.1.1
  exact ⟨term, moreTermsOnto terms (moreAlternativesOnto levels rest), h.1.2.1, rfl⟩

/-- A part that a method is called on is followed by the method. -/
theorem readPath?_method {negated : Bool} {path path' : Path} {w : String}
    {more behind : List Token}
    (h : readPath? (signOnto negated (pathOnto path (.mark '.' :: .word w :: more))) =
      some (path', behind)) : ∃ w more, behind = .mark '.' :: .word w :: more := by
  cases negated with
  | true => cases h
  | false =>
    change readPath? (pathOnto path _) = _ at h
    rw [readPath?_pathOnto (by decide)] at h
    cases h
    exact ⟨_, _, rfl⟩

/-- A part at the beginning of a term is followed by a method. -/
theorem readPath?_onto {term : Term} {path : Path} {rest behind : List Token}
    (h : readPath? (term.onto rest) = some (path, behind)) :
    ∃ w more, behind = .mark '.' :: .word w :: more := by
  cases term with
  | truth => cases h
  | group negated alternatives => cases negated <;> cases h
  | test path form =>
    cases form with
    | equality | relation | existence | type => cases h
    | pattern negated | bits negated | membership negated | superset negated =>
      cases negated <;> cases h
    | inclusion | subset | overlap => exact readPath?_method h

/-- A part in parentheses that a method is called on is no test. -/
theorem readBody?_open_method (parts : List Fragment) (negated negated' : Bool) (path : Path)
    (w : String) (more : List Token) :
    readBody? parts negated
      (.mark '(' :: signOnto negated' (pathOnto path (.mark '.' :: .word w :: more))) = none := by
  cases negated' with
  | true => rfl
  | false =>
    change (readPath? (pathOnto path _) >>= _) = _
    rw [readPath?_pathOnto (by decide)]
    rfl

/-- A term in parentheses is no test. -/
theorem readBody?_open (parts : List Fragment) (negated : Bool) {term : Term} (h : term.Proper)
    (rest : List Token) : readBody? parts negated (.mark '(' :: term.onto rest) = none := by
  have hspace : ' ' ≠ '?' := by decide
  cases term with
  | truth => rfl
  | group sign alternatives =>
    cases sign with
    | true => rfl
    | false =>
      obtain ⟨first, more, _, heq⟩ := exists_alternativesOnto_eq h.1 h.2 (.mark ')' :: rest)
      change (readPath? (alternativesOnto alternatives (.mark ')' :: rest)) >>= _) = _
      rw [heq]
      cases hfirst : readPath? (first.onto more) with
      | none => rfl
      | some read =>
        obtain ⟨path, behind⟩ := read
        obtain ⟨w, tail, rfl⟩ := readPath?_onto hfirst
        rfl
  | test path form =>
    cases form with
    | equality sign operand =>
      change (readPath? (pathOnto path _) >>= _) = _
      rw [readPath?_pathOnto hspace]
      -- the operand may be a word, but what follows it tells it from a test for existence
      cases sign with
      | true => cases operand <;> rfl
      | false => rfl
    | relation r operand =>
      change (readPath? (pathOnto path _) >>= _) = _
      rw [readPath?_pathOnto hspace]
      cases r <;> rfl
    | existence | type => rfl
    | pattern sign | bits sign | membership sign | superset sign => cases sign <;> rfl
    | inclusion | subset | overlap => exact readBody?_open_method parts negated _ path _ _

/-- A group is no test. -/
theorem readTest?_group (parts : List Fragment) (negated : Bool)
    {alternatives : List (List Term)} (hne : alternatives ≠ [])
    (h : ProperAlternatives alternatives) (rest : List Token) :
    readTest? parts ((Term.group negated alternatives).onto rest) = none := by
  obtain ⟨first, more, hfirst, heq⟩ := exists_alternativesOnto_eq hne h (.mark ')' :: rest)
  rw [Term.onto, readTest?_signOnto _ _ (by decide), heq]
  exact readBody?_open parts negated hfirst more

/-! ## What a level is determined by -/

/-- The tests are valid, and the declared fragments give the paths that are not in their text. -/
def Legible (parts : List Fragment) (leaves : List (Path × Form)) : Prop :=
  ∀ leaf ∈ leaves, leaf.2.Valid ∧ leaf.2.Placed parts leaf.1

/-- Leaves are legible when both parts are. -/
theorem legible_append {parts : List Fragment} {first second : List (Path × Form)} :
    Legible parts (first ++ second) ↔ Legible parts first ∧ Legible parts second :=
  List.forall_mem_append

/-- The path and the form of a term that is a test. -/
def Term.test? : Term → Option (Path × Form)
  | test path form => some (path, form)
  | _ => none

/-- A term is read as the test that it is, if it is one. -/
theorem readTest?_term {parts : List Fragment} {term : Term} (h : term.Proper)
    (hlegible : Legible parts term.leaves) (rest : List Token) :
    readTest? parts (term.onto rest) = term.test?.map fun leaf => (leaf.1, leaf.2, rest) := by
  cases term with
  | truth => rfl
  | group negated alternatives => exact readTest?_group parts negated h.1 h.2 rest
  | test path form =>
    obtain ⟨hvalid, hplaced⟩ := hlegible _ (.head _)
    exact readTest?_onto hvalid hplaced rest

/-- A sign is determined by what it stands in front of. -/
theorem signOnto_inj {negated negated' : Bool} {c : Char} (hc : c ≠ '!') {rest rest' : List Token}
    (h : signOnto negated (.mark c :: rest) = signOnto negated' (.mark c :: rest')) :
    negated = negated' ∧ rest = rest' := by
  cases negated with
  | false =>
    cases negated' with
    | false => exact ⟨rfl, (List.cons.inj h).2⟩
    | true => exact absurd (Token.mark.inj (List.cons.inj h).1) hc
  | true =>
    cases negated' with
    | false => exact absurd (Token.mark.inj (List.cons.inj h).1).symm hc
    | true => exact ⟨rfl, (List.cons.inj (List.cons.inj h).2).2⟩

/-- The tokens do not go on with a conjunction. -/
def Stops (tokens : List Token) : Prop := ∀ more, tokens ≠ .mark ' ' :: .mark '&' :: more

/-- Alternatives do not go on with a conjunction. -/
theorem stops_moreAlternativesOnto (levels : List (List Term)) (rest : List Token) :
    Stops (moreAlternativesOnto levels (.mark ')' :: rest)) := by
  cases levels with
  | nil => nofun
  | cons => nofun

mutual
/-- A term and what follows it are determined by the tokens. -/
theorem Term.onto_inj {parts : List Fragment} : ∀ {t u : Term} {rest rest' : List Token},
    t.Proper → u.Proper → Legible parts t.leaves → Legible parts u.leaves →
    t.onto rest = u.onto rest' → t = u ∧ rest = rest'
  | t, u, rest, rest', ht, hu, hlt, hlu, h => by
    have hread := readTest?_term ht hlt rest
    rw [h, readTest?_term hu hlu] at hread
    match t, u, ht, hu, hlt, hlu, h, hread with
    | .truth, .truth, _, _, _, _, h, _ => exact ⟨rfl, (List.cons.inj h).2⟩
    | .test path form, .test path' form', _, _, _, _, _, hread =>
      cases hread
      exact ⟨rfl, rfl⟩
    | .group negated alternatives, .group negated' alternatives', ht, hu, hlt, hlu, h, _ =>
      obtain ⟨rfl, hopen⟩ := signOnto_inj (by decide) h
      obtain ⟨rfl, hrest⟩ := alternativesOnto_inj ht.1 hu.1 ht.2 hu.2 hlt hlu hopen
      exact ⟨rfl, hrest⟩
    | .test path form, .truth, _, _, _, _, _, hread => cases hread
    | .test path form, .group _ _, _, _, _, _, _, hread => cases hread
    | .truth, .test path form, _, _, _, _, _, hread => cases hread
    | .group _ _, .test path form, _, _, _, _, _, hread => cases hread
    | .truth, .group negated _, _, _, _, _, h, _ => cases negated <;> cases h
    | .group negated _, .truth, _, _, _, _, h, _ => cases negated <;> cases h

/-- Terms behind others, up to what does not go on with a conjunction, are determined by the
tokens. -/
theorem moreTermsOnto_inj {parts : List Fragment} : ∀ {ts us : List Term} {rest rest' : List Token},
    ProperLevel ts → ProperLevel us → Legible parts (levelLeaves ts) →
    Legible parts (levelLeaves us) → Stops rest → Stops rest' →
    moreTermsOnto ts rest = moreTermsOnto us rest' → ts = us ∧ rest = rest'
  | [], [], _, _, _, _, _, _, _, _, h => ⟨rfl, h⟩
  | [], _ :: _, _, _, _, _, _, _, hstops, _, h => absurd h (hstops _)
  | _ :: _, [], _, _, _, _, _, _, _, hstops, h => absurd h.symm (hstops _)
  | t :: ts, u :: us, _, _, ht, hu, hlt, hlu, hstops, hstops', h => by
    rw [levelLeaves, legible_append] at hlt hlu
    simp only [moreTermsOnto, List.cons.injEq, true_and] at h
    obtain ⟨rfl, hmore⟩ := Term.onto_inj ht.1 hu.1 hlt.1 hlu.1 h
    obtain ⟨rfl, hrest⟩ := moreTermsOnto_inj ht.2 hu.2 hlt.2 hlu.2 hstops hstops' hmore
    exact ⟨rfl, hrest⟩

/-- A level, up to what does not go on with a conjunction, is determined by the tokens. -/
theorem levelOnto_inj {parts : List Fragment} : ∀ {ts us : List Term} {rest rest' : List Token},
    ts ≠ [] → us ≠ [] → ProperLevel ts → ProperLevel us → Legible parts (levelLeaves ts) →
    Legible parts (levelLeaves us) → Stops rest → Stops rest' →
    levelOnto ts rest = levelOnto us rest' → ts = us ∧ rest = rest'
  | [], _, _, _, hne, _, _, _, _, _, _, _, _ => absurd rfl hne
  | _, [], _, _, _, hne, _, _, _, _, _, _, _ => absurd rfl hne
  | t :: ts, u :: us, _, _, _, _, ht, hu, hlt, hlu, hstops, hstops', h => by
    rw [levelLeaves, legible_append] at hlt hlu
    obtain ⟨rfl, hmore⟩ := Term.onto_inj ht.1 hu.1 hlt.1 hlu.1 h
    obtain ⟨rfl, hrest⟩ := moreTermsOnto_inj ht.2 hu.2 hlt.2 hlu.2 hstops hstops' hmore
    exact ⟨rfl, hrest⟩

/-- Alternatives in parentheses are determined by the tokens. -/
theorem alternativesOnto_inj {parts : List Fragment} :
    ∀ {ts us : List (List Term)} {rest rest' : List Token}, ts ≠ [] → us ≠ [] →
    ProperAlternatives ts → ProperAlternatives us → Legible parts (alternativesLeaves ts) →
    Legible parts (alternativesLeaves us) →
    alternativesOnto ts (.mark ')' :: rest) = alternativesOnto us (.mark ')' :: rest') →
    ts = us ∧ rest = rest'
  | [], _, _, _, hne, _, _, _, _, _, _ => absurd rfl hne
  | _, [], _, _, _, hne, _, _, _, _, _ => absurd rfl hne
  | t :: ts, u :: us, _, _, _, _, ht, hu, hlt, hlu, h => by
    rw [alternativesLeaves, legible_append] at hlt hlu
    obtain ⟨rfl, hmore⟩ := levelOnto_inj ht.1.1 hu.1.1 ht.1.2 hu.1.2 hlt.1 hlu.1
      (stops_moreAlternativesOnto ts _) (stops_moreAlternativesOnto us _) h
    obtain ⟨rfl, hrest⟩ := moreAlternativesOnto_inj ht.2 hu.2 hlt.2 hlu.2 hmore
    exact ⟨rfl, hrest⟩

/-- Levels behind others are determined by the tokens up to the closing parenthesis. -/
theorem moreAlternativesOnto_inj {parts : List Fragment} :
    ∀ {ts us : List (List Term)} {rest rest' : List Token},
    ProperAlternatives ts → ProperAlternatives us → Legible parts (alternativesLeaves ts) →
    Legible parts (alternativesLeaves us) →
    moreAlternativesOnto ts (.mark ')' :: rest) = moreAlternativesOnto us (.mark ')' :: rest') →
    ts = us ∧ rest = rest'
  | [], [], _, _, _, _, _, _, h => ⟨rfl, (List.cons.inj h).2⟩
  | [], _ :: _, _, _, _, _, _, _, h => by cases h
  | _ :: _, [], _, _, _, _, _, _, h => by cases h
  | t :: ts, u :: us, _, _, ht, hu, hlt, hlu, h => by
    rw [alternativesLeaves, legible_append] at hlt hlu
    simp only [moreAlternativesOnto, List.cons.injEq, true_and] at h
    obtain ⟨rfl, hmore⟩ := levelOnto_inj ht.1.1 hu.1.1 ht.1.2 hu.1.2 hlt.1 hlu.1
      (stops_moreAlternativesOnto ts _) (stops_moreAlternativesOnto us _) h
    obtain ⟨rfl, hrest⟩ := moreAlternativesOnto_inj ht.2 hu.2 hlt.2 hlu.2 hmore
    exact ⟨rfl, hrest⟩
end

end RecordQuery.Source

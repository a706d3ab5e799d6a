import RecordQuery.Json.Reader
import RecordQuery.Proofs.Number.JsonText
import RecordQuery.Proofs.Text.Quoted

/-!
# Runs of the JSON reader

`Parses` says that the reader, in some state, comes to the end of a text with a value: one rule for
a character between tokens, and one for a token. It needs no count of characters, since each rule
takes some (`Parses.read?`). Runs are put together from the back: what a piece of text does to the
state is stated in front of any text that is parsed from the state after it.
-/

namespace RecordQuery.Json

variable {α : Type} {b : Builder α} {limit : Nat}

/-- The text, read on from a state, completes a value. -/
inductive Parses (b : Builder α) (limit : Nat) : State α → List Char → α → Prop
  /-- The value is complete outside all containers. -/
  | done (v : α) : Parses b limit (.next v []) [] v
  /-- A character between tokens does not count. -/
  | space {s : State α} {c : Char} {rest : List Char} {v : α} (hc : isSpace c = true)
    (h : Parses b limit s rest v) : Parses b limit s (c :: rest) v
  /-- A token changes the state. -/
  | token {s s' : State α} {c : Char} {cs rest : List Char} {t : Token} {v : α}
    (hc : isSpace c = false) (ht : readToken (c :: cs) = some (t, rest))
    (hlength : rest.length ≤ cs.length) (hs : State.step b limit s t = some s')
    (h : Parses b limit s' rest v) : Parses b limit s (c :: cs) v

/-- The tokens of a text that is parsed take the state to the value. -/
theorem Parses.tokens {s : State α} {cs : List Char} {v : α} (h : Parses b limit s cs v) :
    ∃ tokens : List Token, tokens.foldlM (State.step b limit) s = some (.next v []) ∧
      ∀ taken fuel, cs.length ≤ fuel →
        tokensAfter taken fuel cs = some (taken.reverse ++ tokens) := by
  induction h with
  | done v =>
    refine ⟨[], rfl, fun taken fuel _ => ?_⟩
    rw [tokensAfter, List.append_nil]
  | space hc _ ih =>
    obtain ⟨tokens, hfold, hscan⟩ := ih
    refine ⟨tokens, hfold, fun taken fuel hfuel => ?_⟩
    obtain ⟨fuel, rfl⟩ := Nat.exists_eq_add_one_of_ne_zero (Nat.ne_zero_of_lt hfuel)
    rw [tokensAfter, if_pos hc]
    exact hscan taken fuel (Nat.le_of_succ_le_succ hfuel)
  | @token s s' c cs rest t v hc ht hlength hs _ ih =>
    obtain ⟨tokens, hfold, hscan⟩ := ih
    refine ⟨t :: tokens, ?_, fun taken fuel hfuel => ?_⟩
    · rw [List.foldlM_cons, hs]
      exact hfold
    · obtain ⟨fuel, rfl⟩ := Nat.exists_eq_add_one_of_ne_zero (Nat.ne_zero_of_lt hfuel)
      have hrest : rest.length ≤ fuel := Nat.le_trans hlength (Nat.le_of_succ_le_succ hfuel)
      rw [tokensAfter, if_neg (by simp [hc]), ht]
      simp only [hscan (t :: taken) fuel hrest, List.reverse_cons, List.append_assoc,
        List.singleton_append]

/-- A text that is parsed from the start is read. -/
theorem Parses.read? {text : String} {v : α} (h : Parses b limit (.value []) text.toList v) :
    b.read? limit text = some v := by
  obtain ⟨tokens, hfold, hscan⟩ := h.tokens
  have htokens : tokens? text.toList = some tokens := hscan [] _ (Nat.le_refl _)
  rw [Builder.read?, htokens, Option.bind_some, Builder.ofTokens?, hfold]

/-! ## Pieces of text -/

section
variable {s s' : State α} {v : α} {rest : List Char}

/-- Characters between tokens do not count. -/
theorem Parses.spaces {cs : List Char} (hcs : ∀ c ∈ cs, isSpace c = true)
    (h : Parses b limit s rest v) : Parses b limit s (cs ++ rest) v := by
  induction cs with
  | nil => exact h
  | cons c more ih =>
    rw [List.forall_mem_cons] at hcs
    exact .space hcs.1 (ih hcs.2)

/-- A mark is a token. -/
theorem Parses.mark {c : Char} {t : Token} (hc : isSpace c = false)
    (ht : readToken (c :: rest) = some (t, rest)) (hs : State.step b limit s t = some s')
    (h : Parses b limit s' rest v) : Parses b limit s (c :: rest) v :=
  .token hc ht (Nat.le_refl _) hs h

/-- A quoted text is a token. -/
theorem Parses.quoted {text : String} (hs : State.step b limit s (.string text) = some s')
    (h : Parses b limit s' rest v) :
    Parses b limit s ((Text.quote text).toList ++ rest) v := by
  have hread := readString_quoteChars [] text.toList rest
  rw [List.reverse_nil, List.nil_append, String.ofList_toList] at hread
  rw [Text.toList_quote, List.cons_append, List.append_assoc, List.singleton_append]
  refine .token (by decide) ?_ ?_ hs h
  · rw [readToken, hread, Option.map_some]
  · rw [List.length_append, List.length_cons]
    omega

/-- What begins like a number is read as one. -/
theorem readToken_of_number {c : Char} (cs : List Char) (hc : c.isDigit = true ∨ c = '-') :
    readToken (c :: cs) = (readNumber (c :: cs)).map fun (n, rest) => (.number n, rest) := by
  unfold readToken
  split
  case h_11 => rfl
  all_goals
    rename_i heq
    obtain ⟨rfl, _⟩ := List.cons.inj heq
    exact absurd hc (by decide)

/-- What begins like a number is no space. -/
theorem isSpace_of_number {c : Char} (hc : c.isDigit = true ∨ c = '-') : isSpace c = false := by
  refine Bool.eq_false_iff.2 fun hspace => ?_
  simp only [isSpace, Bool.or_eq_true, beq_iff_eq] at hspace
  rcases hspace with ((rfl | rfl) | rfl) | rfl <;> exact absurd hc (by decide)

/-- A number is a token. -/
theorem Parses.number {cs : List Char} {numeral : Numeral} (hcs : NumberText cs)
    (hread : readNumber (cs ++ rest) = some (numeral, rest))
    (hs : State.step b limit s (.number numeral) = some s') (h : Parses b limit s' rest v) :
    Parses b limit s (cs ++ rest) v := by
  obtain ⟨c, more, rfl, hc⟩ := hcs.head
  rw [List.cons_append] at hread ⊢
  refine .token (isSpace_of_number hc) ?_ ?_ hs h
  · rw [readToken_of_number _ hc, hread, Option.map_some]
  · rw [List.length_append]
    omega

end

end RecordQuery.Json

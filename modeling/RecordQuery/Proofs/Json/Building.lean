import RecordQuery.Json.Reader
import RecordQuery.Proofs.Entries

/-!
# One reading for all builders

The reader never looks into what it builds: which tokens a text has, and whether they make a value,
does not depend on the builder. So if two builders make related things of related parts
(`Builder.Related`), then either both read a text as related things or neither reads it
(`Builder.Related.read?`). The step lemma is `State.step_rel`, for states whose open containers hold
related parts. With a function as the relation the one reading is the image of the other
(`Builder.Related.read?_eq_map`), and what is read has every property that the builder keeps
(`Builder.Keeps.of_read?`).
-/

namespace RecordQuery.Json

variable {α β : Type} {r : α → β → Prop} {b : Builder α} {b' : Builder β}

/-! ## Related builders -/

/-- The reader reads the numeral somewhere. -/
def Numeral.Written (n : Numeral) : Prop := ∃ cs rest, readNumber cs = some (n, rest)

/-- Two builders make related things of related parts. -/
structure Builder.Related (r : α → β → Prop) (b : Builder α) (b' : Builder β) : Prop where
  null : r b.null b'.null
  bool : ∀ t, r (b.bool t) (b'.bool t)
  number : ∀ {n}, Numeral.Written n → r (b.number n) (b'.number n)
  string : ∀ s, r (b.string s) (b'.string s)
  array : ∀ {items items'}, List.Forall₂ r items items' → r (b.array items) (b'.array items')
  object : ∀ {entries entries'}, Fields.Pointwise r entries entries' →
    r (b.object entries) (b'.object entries')

/-! ## Related states -/

/-- Open containers whose parts are related. -/
inductive Frame.Rel (r : α → β → Prop) : Frame α → Frame β → Prop
  | array {items items'} (h : List.Forall₂ r items items') : Rel r (.array items) (.array items')
  | object {entries entries'} (h : Fields.Pointwise r entries entries') (key : String) :
    Rel r (.object entries key) (.object entries' key)

/-- States that wait for the same thing in related containers. -/
inductive State.Rel (r : α → β → Prop) : State α → State β → Prop
  | value {outer outer'} (houter : List.Forall₂ (Frame.Rel r) outer outer') :
    Rel r (.value outer) (.value outer')
  | firstItem {outer outer'} (houter : List.Forall₂ (Frame.Rel r) outer outer') :
    Rel r (.firstItem outer) (.firstItem outer')
  | key {entries entries' outer outer'} (mayClose : Bool)
    (hentries : Fields.Pointwise r entries entries')
    (houter : List.Forall₂ (Frame.Rel r) outer outer') :
    Rel r (.key mayClose entries outer) (.key mayClose entries' outer')
  | colon {entries entries' outer outer'} (hentries : Fields.Pointwise r entries entries')
    (key : String) (houter : List.Forall₂ (Frame.Rel r) outer outer') :
    Rel r (.colon entries key outer) (.colon entries' key outer')
  | next {v w outer outer'} (hv : r v w) (houter : List.Forall₂ (Frame.Rel r) outer outer') :
    Rel r (.next v outer) (.next w outer')

/-- A token whose numeral, if it is a number, is read somewhere. -/
def Token.Written (token : Token) : Prop := ∀ n, token = .number n → n.Written

/-! ## One token -/

/-- Where a value may begin, a token leads to related states or to none. -/
theorem State.begin_rel (h : b.Related r b') (limit : Nat) {outer : List (Frame α)}
    {outer' : List (Frame β)} (houter : List.Forall₂ (Frame.Rel r) outer outer') {token : Token}
    (htoken : token.Written) :
    Option.Rel (State.Rel r) (begin b limit outer token) (begin b' limit outer' token) := by
  cases token with
  | null => exact .some (.next h.null houter)
  | bool t => exact .some (.next (h.bool t) houter)
  | number n => exact .some (.next (h.number (htoken n rfl)) houter)
  | string s => exact .some (.next (h.string s) houter)
  | openArray =>
    rw [begin, begin, houter.length_eq]
    split
    · exact .some (.firstItem houter)
    · exact .none
  | openObject =>
    rw [begin, begin, houter.length_eq]
    split
    · exact .some (.key true .nil houter)
    · exact .none
  | closeArray | closeObject | comma | colon => exact .none

/-- A token leads from related states to related states or to none. -/
theorem State.step_rel (h : b.Related r b') (limit : Nat) {s : State α} {s' : State β}
    (hs : State.Rel r s s') {token : Token} (htoken : token.Written) :
    Option.Rel (State.Rel r) (step b limit s token) (step b' limit s' token) := by
  cases hs with
  | value houter => exact begin_rel h limit houter htoken
  | firstItem houter =>
    have hitem := begin_rel h limit (.cons (.array .nil) houter) htoken
    cases token with
    | closeArray => exact .some (.next (h.array .nil) houter)
    | openArray | openObject | closeObject | comma | colon | null | bool | number | string =>
      exact hitem
  | key mayClose hentries houter =>
    cases token with
    | string name => cases mayClose <;> exact .some (.colon hentries name houter)
    | closeObject =>
      cases mayClose with
      | true => exact .some (.next (h.object .nil) houter)
      | false => exact .none
    | openArray | closeArray | openObject | comma | colon | null | bool | number =>
      cases mayClose <;> exact .none
  | colon hentries key houter =>
    cases token with
    | colon => exact .some (.value (.cons (.object hentries key) houter))
    | openArray | closeArray | openObject | closeObject | comma | null | bool | number | string =>
      exact .none
  | next hv houter =>
    cases houter with
    | nil => cases token <;> exact .none
    | cons hframe houter =>
      cases hframe with
      | array hitems =>
        cases token with
        | comma => exact .some (.value (.cons (.array (.cons hv hitems)) houter))
        | closeArray => exact .some (.next (h.array (List.rel_reverse (.cons hv hitems))) houter)
        | openArray | openObject | closeObject | colon | null | bool | number | string =>
          exact .none
      | object hentries key =>
        cases token with
        | comma => exact .some (.key false (.cons ⟨rfl, hv⟩ hentries) houter)
        | closeObject =>
          exact .some (.next (h.object (List.rel_reverse (.cons ⟨rfl, hv⟩ hentries))) houter)
        | openArray | closeArray | openObject | colon | null | bool | number | string =>
          exact .none

/-! ## All tokens of a text -/

/-- The token at the front of a text is one that is read there. -/
theorem readToken_written {cs rest : List Char} {token : Token}
    (h : readToken cs = some (token, rest)) : token.Written := by
  rintro n rfl
  unfold readToken at h
  -- only what no other token begins with is read as a number
  split at h <;>
    simp only [Option.map_eq_some_iff, Option.some.injEq, Prod.mk.injEq, reduceCtorEq, false_and,
      and_false, exists_false, Token.number.injEq] at h
  obtain ⟨_, hread, rfl, _⟩ := h
  exact ⟨_, _, hread⟩

/-- All tokens of a text are read in it. -/
theorem tokensAfter_written {taken tokens : List Token} {fuel : Nat} {cs : List Char}
    (htaken : ∀ token ∈ taken, token.Written) (h : tokensAfter taken fuel cs = some tokens) :
    ∀ token ∈ tokens, token.Written := by
  fun_induction tokensAfter taken fuel cs with
  | case1 taken =>
    obtain rfl := Option.some.inj h
    exact fun token htoken => htaken token (List.mem_reverse.1 htoken)
  | case2 => cases h
  | case3 _ _ _ _ _ ih => exact ih htaken h
  | case4 taken fuel c rest hspace token rest' hread ih =>
    exact ih (List.forall_mem_cons.2 ⟨readToken_written hread, htaken⟩) h
  | case5 => cases h

/-- Tokens lead from related states to related states or to none. -/
theorem State.steps_rel (h : b.Related r b') (limit : Nat) {tokens : List Token}
    (htokens : ∀ token ∈ tokens, token.Written) {s : State α} {s' : State β}
    (hs : State.Rel r s s') :
    Option.Rel (State.Rel r) (tokens.foldlM (step b limit) s)
      (tokens.foldlM (step b' limit) s') := by
  induction tokens generalizing s s' with
  | nil => exact .some hs
  | cons token rest ih =>
    rw [List.forall_mem_cons] at htokens
    rw [List.foldlM_cons, List.foldlM_cons]
    have hstep := step_rel h limit hs htokens.1
    generalize step b limit s token = next?, step b' limit s' token = next?' at hstep
    cases hstep with
    | none => exact .none
    | some hnext => exact ih htokens.2 hnext

namespace Builder.Related

/-- Tokens denote related things or nothing. -/
theorem ofTokens? (h : b.Related r b') (limit : Nat) {tokens : List Token}
    (htokens : ∀ token ∈ tokens, token.Written) :
    Option.Rel r (b.ofTokens? limit tokens) (b'.ofTokens? limit tokens) := by
  rw [Builder.ofTokens?, Builder.ofTokens?]
  have hsteps := State.steps_rel h limit htokens (.value .nil)
  generalize tokens.foldlM (State.step b limit) (.value []) = last?,
    tokens.foldlM (State.step b' limit) (.value []) = last?' at hsteps
  cases hsteps with
  | none => exact .none
  | some hlast =>
    cases hlast with
    | value | firstItem | key | colon => exact .none
    | next hv houter =>
      cases houter with
      | nil => exact .some hv
      | cons => exact .none

/-- Two builders that make related things of related parts read every text as related things, or
both do not read it. -/
theorem read? (h : b.Related r b') (limit : Nat) (text : String) :
    Option.Rel r (b.read? limit text) (b'.read? limit text) := by
  rw [Builder.read?, Builder.read?]
  cases htokens : tokens? text.toList with
  | none => exact .none
  | some tokens =>
    have hwritten := tokensAfter_written (fun _ h => (List.not_mem_nil h).elim) htokens
    exact ofTokens? h limit hwritten

/-- What one builder reads is the image of what the other reads, if all that is built is. -/
theorem read?_eq_map {f : α → β} (h : b.Related (fun v w => f v = w) b') (limit : Nat)
    (text : String) : b'.read? limit text = (b.read? limit text).map f := by
  have hread := h.read? limit text
  generalize b.read? limit text = v?, b'.read? limit text = w? at hread ⊢
  cases hread with
  | none => rfl
  | some hvw => rw [Option.map_some, hvw]

end Builder.Related

/-! ## Properties of what is built -/

/-- What the builder makes has a property if its parts have it. -/
structure Builder.Keeps (p : α → Prop) (b : Builder α) : Prop where
  null : p b.null
  bool : ∀ t, p (b.bool t)
  number : ∀ {n}, Numeral.Written n → p (b.number n)
  string : ∀ s, p (b.string s)
  array : ∀ {items}, (∀ v ∈ items, p v) → p (b.array items)
  object : ∀ {entries : Fields α}, (∀ entry ∈ entries, p entry.2) → p (b.object entries)

/-- A relation to anything that says something of the first only says it of all of them. -/
theorem forall_mem_of_forall₂ {γ δ : Type} {p : γ → Prop} {xs : List γ} {ys : List δ}
    (h : List.Forall₂ (fun x _ => p x) xs ys) : ∀ x ∈ xs, p x :=
  have hboth : List.Forall₂ (fun x _ => p x ∧ True) xs ys := h.imp fun _ _ hp => ⟨hp, trivial⟩
  ((List.forall₂_and_left xs ys).1 hboth).1

namespace Builder.Keeps

variable {p : α → Prop}

/-- A property of the first of two things relates them. -/
theorem related (h : b.Keeps p) : b.Related (fun v _ => p v) b where
  null := h.null
  bool := h.bool
  number := h.number
  string := h.string
  array hitems := h.array (forall_mem_of_forall₂ hitems)
  object hentries := h.object (forall_mem_of_forall₂ (hentries.imp fun _ _ hentry => hentry.2))

/-- All that is read has the property. -/
theorem of_read? (h : b.Keeps p) {limit : Nat} {text : String} {v : α}
    (hv : b.read? limit text = some v) : p v := by
  have hread := h.related.read? limit text
  rw [hv] at hread
  cases hread with
  | some hp => exact hp

end Builder.Keeps

end RecordQuery.Json

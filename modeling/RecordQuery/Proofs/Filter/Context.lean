import RecordQuery.Proofs.Query.Verdict
import RecordQuery.Proofs.Source.Phrase
import RecordQuery.Proofs.Value.Set

/-!
# What a context hands out

A context only grows at its ends (`Extends`), so a place that it has handed out goes on to denote
what it denoted. `Denotes` relates a literal to the values that it is written for: an inline text
denotes one value up to the sign of zero, and the name of a slot whatever equals what is kept there.
Since a list of literals can be read back from its text (`Fragment.text_injective`), a text that a
shared set is declared under denotes one list of values up to equality. `Valid` is the invariant of
compilation: every declared set is the set of some values that its fragment denotes.
-/

namespace RecordQuery

open Source

namespace Context

/-! ## Growth -/

/-- The second context has what the first has, in the same places. -/
structure Extends (before after : Context) : Prop where
  slots : before.slots <+: after.slots
  declarations : before.declarations <+: after.declarations

variable {before after context : Context}

/-- A context extends itself. -/
theorem Extends.refl (context : Context) : context.Extends context :=
  ⟨List.prefix_refl _, List.prefix_refl _⟩

/-- What is kept is kept on. -/
theorem Extends.trans (h : before.Extends context) (h' : context.Extends after) :
    before.Extends after :=
  ⟨h.slots.trans h'.slots, h.declarations.trans h'.declarations⟩

/-- A slot keeps its value. -/
theorem Extends.slot (h : before.Extends after) {i : Nat} {v : Value}
    (hi : before.slots[i]? = some v) : after.slots[i]? = some v := by
  obtain ⟨more, hmore⟩ := h.slots
  rw [← hmore, List.getElem?_append_left (List.getElem?_eq_some_iff.1 hi).1]
  exact hi

/-- A declaration keeps its place. -/
theorem Extends.declaration (h : before.Extends after) {i : Nat} {d : Declaration}
    (hi : before.declarations[i]? = some d) : after.declarations[i]? = some d := by
  obtain ⟨more, hmore⟩ := h.declarations
  rw [← hmore, List.getElem?_append_left (List.getElem?_eq_some_iff.1 hi).1]
  exact hi

/-! ## Literals -/

/-- The token of a value that can be written inline. -/
def inlineToken? : Value → Option Token
  | .undefined => some (.word "undefined")
  | .null => some (.word "null")
  | .bool b => some (.word (if b then "true" else "false"))
  | .number n => some (.numeral n.text)
  | .string s => some (.quoted s)
  | _ => none

/-- An inline text is the text of a token. -/
theorem inlineText?_eq (v : Value) : inlineText? v = (inlineToken? v).map Token.text := by
  cases v <;> rfl

/-- The token is a literal for the value. -/
inductive Denotes (context : Context) : Token → Value → Prop
  | inline {token : Token} {v : Value} (h : inlineToken? v = some token) : Denotes context token v
  | slot {i : Nat} {kept v : Value} (hv : inlineToken? v = none)
    (hi : context.slots[i]? = some kept) (h : (kept == v) = true) : Denotes context (.slot i) v

/-- A literal denotes in a grown context what it denoted. -/
theorem Denotes.mono (h : before.Extends after) {token : Token} {v : Value}
    (hv : before.Denotes token v) : after.Denotes token v := by
  cases hv with
  | inline ht => exact .inline ht
  | slot hinline hi heq => exact .slot hinline (h.slot hi) heq

/-- The text of a number is scanned as one token. -/
theorem valid_numeral_text (n : Number) : (Token.numeral n.text).Valid := by
  cases n with
  | nan => exact .inl (by decide)
  | infinite negative =>
    cases negative with
    | false => exact .inl (by decide)
    | true => exact .inr ⟨⟨'-', rfl, .inr rfl⟩, List.all_eq_true.1 rfl⟩
  | finite negative q hq =>
    refine .inr ⟨Number.exists_first_text negative hq, fun c hc => ?_⟩
    rw [isNumberChar, Number.numeral_text negative hq c hc, Bool.true_or]

/-- A literal is a token that is scanned. -/
theorem Denotes.valid {token : Token} {v : Value} (h : context.Denotes token v) : token.Valid := by
  cases h with
  | slot => trivial
  | inline ht =>
    cases v with
    | undefined | null => cases ht; exact show _ ∈ words by decide
    | bool b =>
      cases ht
      cases b <;> exact show _ ∈ words by decide
    | number n => cases ht; exact valid_numeral_text n
    | string s => cases ht; trivial
    | bigint | regex | array | object => cases ht

/-- No literal is a mark. -/
theorem Denotes.ne_mark {c : Char} {v : Value} : ¬ context.Denotes (.mark c) v := by
  intro h
  cases h with
  | inline ht => cases v <;> cases ht

/-- Values with the same inline token are equal. -/
theorem beq_of_inlineToken?_eq {v w : Value} {token : Token} (hv : inlineToken? v = some token)
    (hw : inlineToken? w = some token) : (v == w) = true := by
  have hbool : ∀ b : Bool, (if b then "true" else "false") ≠ "undefined" ∧
      (if b then "true" else "false") ≠ "null" := by decide
  have hinj : ∀ b c : Bool, (if b then "true" else "false") =
      (if c then "true" else "false") → b = c := by decide
  cases v with
  | bigint | regex | array | object => cases hv
  | undefined =>
    cases hv
    cases w with
    | undefined => rfl
    | bool b => exact absurd (Token.word.inj (Option.some.inj hw)) (hbool b).1
    | null => exact absurd (Token.word.inj (Option.some.inj hw)) (by decide)
    | number | string | bigint | regex | array | object => cases hw
  | null =>
    cases hv
    cases w with
    | null => rfl
    | bool b => exact absurd (Token.word.inj (Option.some.inj hw)) (hbool b).2
    | undefined => exact absurd (Token.word.inj (Option.some.inj hw)) (by decide)
    | number | string | bigint | regex | array | object => cases hw
  | bool b =>
    cases hv
    cases w with
    | bool c =>
      rw [hinj c b (Token.word.inj (Option.some.inj hw))]
      exact Value.beq_refl trivial
    | undefined => exact absurd (Token.word.inj (Option.some.inj hw)).symm (hbool b).1
    | null => exact absurd (Token.word.inj (Option.some.inj hw)).symm (hbool b).2
    | number | string | bigint | regex | array | object => cases hw
  | number n =>
    cases hv
    cases w with
    | number m =>
      exact Number.sameValueZero_of_text_eq (Token.numeral.inj (Option.some.inj hw)).symm
    | undefined | null | bool | string | bigint | regex | array | object => cases hw
  | string s =>
    cases hv
    cases w with
    | string t =>
      rw [Token.quoted.inj (Option.some.inj hw)]
      exact Value.beq_refl trivial
    | undefined | null | bool | number | bigint | regex | array | object => cases hw

/-- What one literal denotes is equal, also in two contexts whose slots are equal. -/
theorem Denotes.beq {other : Context} (hcontext : ∀ v ∈ context.slots, v.WellFormed)
    (hother : ∀ v ∈ other.slots, v.WellFormed)
    (hslots : List.Forall₂ (fun v w => (v == w) = true) context.slots other.slots)
    {token : Token} {v w : Value} (hv : v.WellFormed) (hw : w.WellFormed)
    (h : context.Denotes token v) (h' : other.Denotes token w) : (v == w) = true := by
  cases h with
  | inline ht =>
    cases h' with
    | inline ht' => exact beq_of_inlineToken?_eq ht ht'
    | slot => cases v <;> cases ht
  | @slot i kept _ _ hi heq =>
    cases h' with
    | inline ht' => cases w <;> cases ht'
    | @slot _ kept' _ _ hi' heq' =>
      obtain ⟨hlt, rfl⟩ := List.getElem?_eq_some_iff.1 hi
      obtain ⟨hlt', rfl⟩ := List.getElem?_eq_some_iff.1 hi'
      have hkept := hslots.get hlt hlt'
      have hk := hcontext _ (List.getElem_mem hlt)
      have hk' := hother _ (List.getElem_mem hlt')
      exact Value.beq_trans hv hk hw (Value.beq_symm hk hv heq)
        (Value.beq_trans hk hk' hw hkept heq')

/-! ## The invariant -/

/-- The fragment that a declaration carries, and for a shared set values that the fragment denotes
and that the set was made of. -/
inductive Accounts (context : Context) : Declaration → Fragment → Prop
  | shared {literals : List Token} {items : List Value}
    (h : List.Forall₂ context.Denotes literals items) (hw : ∀ v ∈ items, v.WellFormed) :
    Accounts context (.shared (Fragment.items literals).text (ValueSet.ofList items))
      (.items literals)
  | perRecord (path : Path) :
    Accounts context (.perRecord (Fragment.part path).text) (.part path)

/-- Slots hold well-formed values, and every declaration is accounted for. -/
structure Valid (context : Context) : Prop where
  slot : ∀ v ∈ context.slots, v.WellFormed
  declaration : ∀ d ∈ context.declarations, ∃ fragment, context.Accounts d fragment

/-- A list of literals denotes in a grown context what it denoted. -/
theorem denotes_mono (h : before.Extends after) {literals : List Token} {items : List Value}
    (hitems : List.Forall₂ before.Denotes literals items) :
    List.Forall₂ after.Denotes literals items :=
  hitems.imp fun _ _ => Denotes.mono h

/-- A declaration is accounted for in a grown context as it was. -/
theorem Accounts.mono (h : before.Extends after) {d : Declaration} {fragment : Fragment}
    (hd : before.Accounts d fragment) : after.Accounts d fragment := by
  cases hd with
  | shared hitems hw => exact .shared (denotes_mono h hitems) hw
  | perRecord path => exact .perRecord path

/-- Literals are valid in fragments. -/
theorem valid_items {literals : List Token} {items : List Value}
    (h : List.Forall₂ context.Denotes literals items) : (Fragment.items literals).Valid := by
  have hmem : ∀ token ∈ literals, ∃ v, context.Denotes token v := by
    intro token ht
    obtain ⟨v, _, hv⟩ := Value.exists_mem_of_forall₂ h.flip ht
    exact ⟨v, hv⟩
  refine ⟨fun token ht => ?_, fun c hc => ?_⟩
  · obtain ⟨v, hv⟩ := hmem token ht
    exact hv.valid
  · obtain ⟨v, hv⟩ := hmem _ hc
    exact hv.ne_mark

/-- The fragment of a declaration is a valid one, and its text is the one declared. -/
theorem Accounts.fragment {d : Declaration} {fragment : Fragment}
    (h : context.Accounts d fragment) : fragment.Valid ∧ d.fragment = fragment.text := by
  cases h with
  | shared hitems hw => exact ⟨valid_items hitems, rfl⟩
  | perRecord path => exact ⟨trivial, rfl⟩

/-- A declaration carries the fragment that has its text. -/
theorem Valid.accounts (h : context.Valid) {d : Declaration} (hd : d ∈ context.declarations)
    {fragment : Fragment} (hfragment : fragment.Valid) (htext : d.fragment = fragment.text) :
    context.Accounts d fragment := by
  obtain ⟨carried, haccounts⟩ := h.declaration d hd
  obtain ⟨hvalid, hcarried⟩ := haccounts.fragment
  rwa [← Fragment.text_injective hvalid hfragment (hcarried.symm.trans htext)]

/-- The empty context is valid. -/
theorem valid_empty : Valid .empty := ⟨nofun, nofun⟩

/-! ## Writing literals -/

/-- What writing literals does to a context: it grows in valid slots, and the literals name the new
ones. -/
structure Writes (before after : Context) (literals : List Token) : Prop where
  growth : before.Extends after
  valid : after.Valid
  declarations : after.declarations = before.declarations
  slot : ∀ i, before.slots.length ≤ i → i < after.slots.length → .slot i ∈ literals

/-- Writing nothing leaves the context as it is. -/
theorem Writes.nil (h : context.Valid) : Writes context context [] :=
  ⟨.refl context, h, rfl, fun _ hle hlt => absurd hlt (Nat.not_lt_of_ge hle)⟩

/-- Literals are written one after the other. -/
theorem Writes.append {ts us : List Token} (h : Writes before context ts)
    (h' : Writes context after us) : Writes before after (ts ++ us) := by
  refine ⟨h.growth.trans h'.growth, h'.valid, h'.declarations.trans h.declarations, ?_⟩
  intro i hle hlt
  rcases Nat.lt_or_ge i context.slots.length with hi | hi
  · exact List.mem_append_left _ (h.slot i hle hi)
  · exact List.mem_append_right _ (h'.slot i hi hlt)

/-- The literal is written by the token, and what stands behind it equals the value. -/
structure Stands (context : Context) (literal : Literal) (token : Token) (v : Value) : Prop where
  text : literal.text = token.text
  denotes : context.Denotes token v
  equal : (literal.value == v) = true
  wellFormed : literal.value.WellFormed

/-- A context that more is kept in is valid. -/
theorem Valid.keep (h : context.Valid) {v : Value} (hv : v.WellFormed) :
    Valid { context with slots := context.slots ++ [v] } ∧
      context.Extends { context with slots := context.slots ++ [v] } := by
  have hextends : context.Extends { context with slots := context.slots ++ [v] } :=
    ⟨List.prefix_append _ _, List.prefix_refl _⟩
  refine ⟨⟨fun w hw => ?_, fun d hd => ?_⟩, hextends⟩
  · rcases List.mem_append.1 hw with hw | hw
    · exact h.slot w hw
    · exact List.mem_singleton.1 hw ▸ hv
  · obtain ⟨fragment, hfragment⟩ := h.declaration d hd
    exact ⟨fragment, hfragment.mono hextends⟩

/-- A value is written by the name of a slot that holds an equal one. -/
theorem scope_spec (h : context.Valid) {v : Value} (hv : v.WellFormed)
    (hinline : inlineToken? v = none) :
    ∃ token, Stands (context.scope v).2 (context.scope v).1 token v ∧
      Writes context (context.scope v).2 [token] := by
  rw [scope]
  cases hfound : context.slotOf? v with
  | some found =>
    obtain ⟨kept, i⟩ := found
    rw [slotOf?] at hfound
    have heq := List.find?_some hfound
    have hi : context.slots[i]? = some kept :=
      List.mem_zipIdx_iff_getElem?.1 (List.mem_of_find?_eq_some hfound)
    have hkept := h.slot kept (List.mem_of_getElem? hi)
    exact ⟨.slot i, ⟨rfl, .slot hinline hi heq, heq, hkept⟩, .refl context, h, rfl,
      fun _ hle hlt => absurd hlt (Nat.not_lt_of_ge hle)⟩
  | none =>
    obtain ⟨hvalid, hextends⟩ := h.keep hv
    refine ⟨.slot context.slots.length, ⟨rfl, ?_, Value.beq_refl hv, hv⟩, hextends, hvalid, rfl, ?_⟩
    · exact .slot hinline (by simp) (Value.beq_refl hv)
    · intro i hle hlt
      have hi : i = context.slots.length := by
        simp only [List.length_append, List.length_singleton] at hlt
        omega
      rw [hi]
      exact .head _

/-- A value is written by a literal that denotes it. -/
theorem literal_spec (h : context.Valid) {v : Value} (hv : v.WellFormed) :
    ∃ token, Stands (context.literal v).2 (context.literal v).1 token v ∧
      Writes context (context.literal v).2 [token] := by
  rw [literal, inlineText?_eq]
  cases hinline : inlineToken? v with
  | none => exact scope_spec h hv hinline
  | some token =>
    exact ⟨token, ⟨rfl, .inline hinline, Value.beq_refl hv, hv⟩, .refl context, h, rfl,
      fun _ hle hlt => absurd hlt (Nat.not_lt_of_ge hle)⟩

/-- Values are written by literals that denote them. -/
theorem literalTexts_spec (h : context.Valid) {items : List Value}
    (hw : ∀ v ∈ items, v.WellFormed) :
    ∃ literals, (context.literalTexts items).1 = literals.map Token.text ∧
      List.Forall₂ (context.literalTexts items).2.Denotes literals items ∧
      Writes context (context.literalTexts items).2 literals := by
  induction items generalizing context with
  | nil => exact ⟨[], rfl, .nil, .nil h⟩
  | cons v rest ih =>
    rw [List.forall_mem_cons] at hw
    obtain ⟨token, hstands, hwrites⟩ := literal_spec h hw.1
    obtain ⟨literals, htexts, hdenotes, hrest⟩ := ih hwrites.valid hw.2
    refine ⟨token :: literals, ?_, .cons (hstands.denotes.mono hrest.growth) hdenotes,
      hwrites.append hrest⟩
    rw [literalTexts, List.map_cons, ← hstands.text, ← htexts]

/-- A list is written by literals that denote its values. -/
theorem list_spec (h : context.Valid) {items : List Value} (hw : ∀ v ∈ items, v.WellFormed) :
    ∃ literals, (context.list items).1 = listText literals ∧
      List.Forall₂ (context.list items).2.Denotes literals items ∧
      Writes context (context.list items).2 literals := by
  obtain ⟨literals, htexts, hdenotes, hwrites⟩ := literalTexts_spec h hw
  refine ⟨literals, ?_, hdenotes, hwrites⟩
  rw [list, listText, ← htexts]

/-! ## Registering sets -/

/-- What compiling something that mentions the given tokens does to a context: it grows and stays
valid, new declarations are mentioned, and new slots are mentioned or named by the list of a
declared set. -/
structure Uses (before after : Context) (mentions : List Token) : Prop where
  growth : before.Extends after
  valid : after.Valid
  slot : ∀ i, before.slots.length ≤ i → i < after.slots.length → .slot i ∈ mentions ∨
    ∃ d ∈ after.declarations, ∃ literals, after.Accounts d (.items literals) ∧ .slot i ∈ literals
  declared : ∀ i, before.declarations.length ≤ i → i < after.declarations.length →
    .declared i ∈ mentions

/-- Literals are used where they are written. -/
theorem Writes.uses {literals : List Token} (h : Writes before after literals) :
    Uses before after literals := by
  refine ⟨h.growth, h.valid, fun i hle hlt => .inl (h.slot i hle hlt), fun i hle hlt => ?_⟩
  rw [h.declarations] at hlt
  exact absurd hlt (Nat.not_lt_of_ge hle)

/-- Using nothing leaves the context as it is. -/
theorem Uses.nil (h : context.Valid) : Uses context context [] := (Writes.nil h).uses

/-- Things are compiled one after the other. -/
theorem Uses.append {ts us : List Token} (h : Uses before context ts) (h' : Uses context after us) :
    Uses before after (ts ++ us) := by
  refine ⟨h.growth.trans h'.growth, h'.valid, fun i hle hlt => ?_, fun i hle hlt => ?_⟩
  · rcases Nat.lt_or_ge i context.slots.length with hi | hi
    · rcases h.slot i hle hi with hmem | ⟨d, hd, literals, haccounts, hmem⟩
      · exact .inl (List.mem_append_left _ hmem)
      · exact .inr ⟨d, h'.growth.declarations.mem hd, literals, haccounts.mono h'.growth, hmem⟩
    · exact (h'.slot i hi hlt).imp_left (List.mem_append_right _)
  · rcases Nat.lt_or_ge i context.declarations.length with hi | hi
    · exact List.mem_append_left _ (h.declared i hle hi)
    · exact List.mem_append_right _ (h'.declared i hi hlt)

/-- The context that a declaration is added to. -/
theorem Valid.declare (h : context.Valid) {d : Declaration} {fragment : Fragment}
    (hd : context.Accounts d fragment) :
    Valid { context with declarations := context.declarations ++ [d] } ∧
      context.Extends { context with declarations := context.declarations ++ [d] } := by
  have hgrowth : context.Extends { context with declarations := context.declarations ++ [d] } :=
    ⟨List.prefix_refl _, List.prefix_append _ _⟩
  refine ⟨⟨h.slot, fun d' hd' => ?_⟩, hgrowth⟩
  rcases List.mem_append.1 hd' with hd' | hd'
  · obtain ⟨fragment', hfragment⟩ := h.declaration d' hd'
    exact ⟨fragment', hfragment.mono hgrowth⟩
  · exact ⟨fragment, List.mem_singleton.1 hd' ▸ hd.mono hgrowth⟩

/-- A declaration that is added has a place of its own. -/
theorem uses_declare (h : context.Valid) {d : Declaration} {fragment : Fragment}
    (hd : context.Accounts d fragment) :
    Uses context { context with declarations := context.declarations ++ [d] }
      [.declared context.declarations.length] := by
  obtain ⟨hvalid, hgrowth⟩ := h.declare hd
  refine ⟨hgrowth, hvalid, fun i hle hlt => absurd hlt (Nat.not_lt_of_ge hle), fun i hle hlt => ?_⟩
  have hi : i = context.declarations.length := by
    simp only [List.length_append, List.length_singleton] at hlt
    omega
  rw [hi]
  exact .head _

/-- Mentioning what is known leaves the context as it is. -/
theorem uses_known (h : context.Valid) (mentions : List Token) : Uses context context mentions :=
  ⟨.refl context, h, fun _ hle hlt => absurd hlt (Nat.not_lt_of_ge hle),
    fun _ hle hlt => absurd hlt (Nat.not_lt_of_ge hle)⟩

/-- The binding names a declared set of values that equal the given ones, which the literals of its
fragment denote. -/
structure Binds (context : Context) (binding : Binding) (literals : List Token)
    (items : List Value) : Prop where
  declared : context.declarations[binding.index]? =
    some (.shared (Fragment.items literals).text binding.set)
  denotes : List.Forall₂ context.Denotes literals items
  stored : ∃ stored, binding.set = ValueSet.ofList stored ∧ (∀ v ∈ stored, v.WellFormed) ∧
    List.Forall₂ (fun v w => (v == w) = true) stored items

/-- Values that one list of literals denotes are equal one by one. -/
theorem beq_of_denotes (h : context.Valid) {literals : List Token} {vs ws : List Value}
    (hv : ∀ v ∈ vs, v.WellFormed) (hw : ∀ w ∈ ws, w.WellFormed)
    (hvs : List.Forall₂ context.Denotes literals vs)
    (hws : List.Forall₂ context.Denotes literals ws) :
    List.Forall₂ (fun v w => (v == w) = true) vs ws := by
  refine Value.forall₂_trans_of_mem hvs.flip hws fun v hmem token _ w hmem' hdv hdw => ?_
  have hslots : List.Forall₂ (fun v w => (v == w) = true) context.slots context.slots :=
    List.forall₂_same.2 fun v hmem => Value.beq_refl (h.slot v hmem)
  exact Denotes.beq h.slot h.slot hslots (hv v hmem) (hw w hmem') hdv hdw

/-- A shared set that is found is declared under the fragment. -/
theorem declared_of_shared? {fragment : String} {binding : Binding}
    (h : context.shared? fragment = some binding) :
    context.declarations[binding.index]? = some (.shared fragment binding.set) := by
  obtain ⟨⟨d, i⟩, hmem, hfound⟩ := List.exists_of_findSome?_eq_some h
  have hi : context.declarations[i]? = some d := List.mem_zipIdx_iff_getElem?.1 hmem
  cases d with
  | perRecord => cases hfound
  | shared declared set =>
    simp only at hfound
    split at hfound
    · rename_i hdeclared
      cases hfound
      exact hdeclared ▸ hi
    · cases hfound

/-- A place that is found for each record is declared under the fragment. -/
theorem declared_of_perRecord? {fragment : String} {index : Nat}
    (h : context.perRecord? fragment = some index) :
    context.declarations[index]? = some (.perRecord fragment) := by
  obtain ⟨⟨d, i⟩, hmem, hfound⟩ := List.exists_of_findSome?_eq_some h
  have hi : context.declarations[i]? = some d := List.mem_zipIdx_iff_getElem?.1 hmem
  cases d with
  | shared => cases hfound
  | perRecord declared =>
    simp only at hfound
    split at hfound
    · rename_i hdeclared
      cases hfound
      exact hdeclared ▸ hi
    · cases hfound

/-- A shared set that is found for a list of literals was made of values that they denote. -/
theorem stored_of_shared? (h : context.Valid) {literals : List Token}
    (hliterals : (Fragment.items literals).Valid) {binding : Binding}
    (hfound : context.shared? (Fragment.items literals).text = some binding) :
    ∃ stored, binding.set = ValueSet.ofList stored ∧ (∀ v ∈ stored, v.WellFormed) ∧
      List.Forall₂ context.Denotes literals stored := by
  have haccounts := h.accounts (List.mem_of_getElem? (declared_of_shared? hfound)) hliterals rfl
  generalize hd : Declaration.shared _ _ = d at haccounts
  cases haccounts with
  | @shared _ stored hdenotes hstored =>
    injection hd with _ hset
    exact ⟨stored, hset, hstored, hdenotes⟩

/-- A shared set is found, or built and declared. -/
theorem register_eq (context : Context) (fragment : String) (build : Unit → ValueSet) :
    context.register fragment build =
      match context.shared? fragment with
      | some binding => (binding, context)
      | none => (⟨context.declarations.length, build ()⟩, { context with
        declarations := context.declarations ++ [.shared fragment (build ())] }) := by
  unfold register registerM
  cases context.shared? fragment <;> rfl

/-- The set of a list of literals is found or declared. -/
theorem register_spec (h : context.Valid) {literals : List Token} {items : List Value}
    (hw : ∀ v ∈ items, v.WellFormed) (hitems : List.Forall₂ context.Denotes literals items) :
    let (binding, after) := context.register (Fragment.items literals).text fun _ =>
      ValueSet.ofList items
    Binds after binding literals items ∧ Uses context after [.declared binding.index] := by
  rw [register_eq]
  cases hfound : context.shared? (Fragment.items literals).text with
  | some binding =>
    obtain ⟨stored, hset, hstored, hdenotes⟩ := stored_of_shared? h (valid_items hitems) hfound
    exact ⟨⟨declared_of_shared? hfound, hitems, stored, hset, hstored,
      beq_of_denotes h hstored hw hdenotes hitems⟩, uses_known h _⟩
  | none =>
    have haccounts := Accounts.shared hitems hw
    have hdenotes := denotes_mono (h.declare haccounts).2 hitems
    refine ⟨⟨by simp, hdenotes, items, rfl, hw, ?_⟩, uses_declare h haccounts⟩
    exact List.forall₂_same.2 fun v hmem => Value.beq_refl (hw v hmem)

/-- The set of a list of values is found or declared. -/
theorem registerList_spec (h : context.Valid) {items : List Value}
    (hw : ∀ v ∈ items, v.WellFormed) :
    let (binding, after) := context.registerList items
    ∃ literals, Binds after binding literals items ∧
      Uses context after [.declared binding.index] := by
  obtain ⟨literals, htext, hdenotes, hwrites⟩ := list_spec h hw
  have hregister := register_spec hwrites.valid hw hdenotes
  rw [Fragment.text, ← htext] at hregister
  obtain ⟨hbinds, huses⟩ := hregister
  refine ⟨literals, hbinds, hwrites.growth.trans huses.growth, huses.valid,
    fun i hle hlt => ?_, fun i hle hlt => ?_⟩
  · rcases Nat.lt_or_ge i (context.list items).2.slots.length with hi | hi
    · -- the list names the slot, and it is declared whether it is new or not
      have hmem := List.mem_of_getElem? hbinds.declared
      exact .inr ⟨_, hmem, literals,
        huses.valid.accounts hmem (valid_items hdenotes) rfl, hwrites.slot i hle hi⟩
    · exact huses.slot i hi hlt
  · refine huses.declared i ?_ hlt
    rwa [hwrites.declarations]

/-- The place of the set of a part is found or declared. -/
theorem registerPerRecord_spec (h : context.Valid) (path : Path) :
    let (index, after) := context.registerPerRecord (Fragment.part path).text
    after.declarations[index]? = some (.perRecord (Fragment.part path).text) ∧
      Uses context after [.declared index] := by
  rw [registerPerRecord]
  cases hfound : context.perRecord? (Fragment.part path).text with
  | some index => exact ⟨declared_of_perRecord? hfound, uses_known h _⟩
  | none => exact ⟨by simp, uses_declare h (.perRecord path)⟩

/-! ## Bound sets -/

/-- A bound set holds a value if a search through the values finds one that equals it, or that
equals a value equal to it. -/
theorem Binds.contains_eq {binding : Binding} {literals : List Token} {items : List Value}
    (h : Binds context binding literals items) (hw : ∀ v ∈ items, v.WellFormed) {v v' : Value}
    (hv : v.WellFormed) (hv' : v'.WellFormed) (heq : (v == v') = true) :
    binding.set.contains v = items.any (· == v') := by
  obtain ⟨stored, hset, hstored, hequal⟩ := h.stored
  rw [hset, ValueSet.contains_ofList hstored hv,
    Value.any_beq_congr hstored hw hv hv' hequal heq]

/-- A text occurs with a member of a bound set if it occurs with one of the values. -/
theorem Binds.any_text_eq {binding : Binding} {literals : List Token} {items : List Value}
    (h : Binds context binding literals items) (s : String) :
    (binding.set.members.any fun v => Text.occursIn v.text s) =
      items.any fun v => Text.occursIn v.text s := by
  obtain ⟨stored, hset, hstored, hequal⟩ := h.stored
  have hstoreds : (stored.any fun v => Text.occursIn v.text s) =
      items.any fun v => Text.occursIn v.text s :=
    Value.any_congr hequal fun v _ w _ hvw => by rw [Value.text_congr hvw]
  rw [← hstoreds, hset, Bool.eq_iff_iff, List.any_eq_true, List.any_eq_true]
  constructor
  · rintro ⟨v, hmem, hv⟩
    exact ⟨v, ValueSet.mem_of_mem_members hstored hmem, hv⟩
  · rintro ⟨v, hmem, hv⟩
    obtain ⟨w, hw, hwv⟩ := ValueSet.exists_member_of_mem hstored hmem
    exact ⟨w, hw, Value.text_congr hwv ▸ hv⟩

end Context

end RecordQuery

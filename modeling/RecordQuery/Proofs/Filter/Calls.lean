import RecordQuery.Proofs.Filter.Numbering

/-!
# Runs of calls on a context

A session is a context with the calls that have been made on it since it was empty, and with what
came of each. What a context holds is a matter of the calls alone (`Session.Accounted`): its slots
are the distinct ones of the values that were to be kept, and its declarations those of the
registrations, in the order of arrival. Every call keeps this up (`Session.Accounted.call`), and all
that was handed out goes on to be right, because a context only grows at its ends. What it comes to
for the caller is listed in `Session.Consistent`.
-/

namespace RecordQuery

open Distinct

/-! ## Registrations -/

/-- What is registered: a fragment by one of the two functions. -/
inductive Registration where
  | shared (fragment : String)
  | perRecord (fragment : String)
deriving DecidableEq

namespace Registration

/-- The fragment that is registered. -/
def fragment : Registration → String
  | shared fragment => fragment
  | perRecord fragment => fragment

/-- The fragment, if it makes a shared set. -/
def shared? : Registration → Option String
  | shared fragment => some fragment
  | perRecord _ => none

/-- The fragment, if it makes a set for each record. -/
def perRecord? : Registration → Option String
  | shared _ => none
  | perRecord fragment => some fragment

/-- There are as many distinct registrations as distinct fragments of the one sort and of the
other. -/
theorem length_eraseDups (registrations : List Registration) :
    registrations.eraseDups.length =
      (registrations.filterMap shared?).eraseDups.length +
        (registrations.filterMap perRecord?).eraseDups.length := by
  have hsplit : ∀ registrations : List Registration, registrations.length =
      (registrations.filterMap shared?).length + (registrations.filterMap perRecord?).length := by
    intro registrations
    induction registrations with
    | nil => rfl
    | cons registration rest ih =>
      cases registration with
      | shared =>
        simp only [List.length_cons, List.filterMap_cons, shared?, perRecord?, ih]
        omega
      | perRecord =>
        simp only [List.length_cons, List.filterMap_cons, shared?, perRecord?, ih]
        omega
  rw [hsplit, ← eraseDups_filterMap, ← eraseDups_filterMap]
  · intro r fragment hr r'
    cases r with
    | shared => cases hr
    | perRecord =>
      cases hr
      cases r' <;> simp [perRecord?]
  · intro r fragment hr r'
    cases r with
    | perRecord => cases hr
    | shared =>
      cases hr
      cases r' <;> simp [shared?]

end Registration

/-- What a declaration was registered as. -/
def Declaration.registration : Declaration → Registration
  | shared fragment _ => .shared fragment
  | perRecord fragment => .perRecord fragment

namespace Context

/-! ## Calls -/

/-- A call on a context. The builder of a shared set is told by the set that it makes. -/
inductive Call where
  | scope (v : Value)
  | literal (v : Value)
  | list (items : List Value)
  | register (fragment : String) (made : ValueSet)
  | registerPerRecord (fragment : String)

namespace Call

/-- The values of the call are well formed. -/
def WellFormed : Call → Prop
  | scope v => v.WellFormed
  | literal v => v.WellFormed
  | list items => ∀ v ∈ items, v.WellFormed
  | register _ _ => True
  | registerPerRecord _ => True

/-- The values that the call wants kept in slots. -/
def keeps : Call → List Value
  | scope v => [v]
  | literal v => [v].filter Value.isKept
  | list items => items.filter Value.isKept
  | register _ _ => []
  | registerPerRecord _ => []

/-- What the call registers. -/
def registration? : Call → Option Registration
  | scope _ => none
  | literal _ => none
  | list _ => none
  | register fragment _ => some (.shared fragment)
  | registerPerRecord fragment => some (.perRecord fragment)

/-- The fragment that the call registers for a shared set. -/
def shared? : Call → Option String
  | register fragment _ => some fragment
  | _ => none

/-- The fragment that the call registers for each record. -/
def perRecord? : Call → Option String
  | registerPerRecord fragment => some fragment
  | _ => none

/-- Values that are kept are well formed. -/
theorem WellFormed.keeps {call : Call} (h : call.WellFormed) : ∀ v ∈ call.keeps, v.WellFormed := by
  intro v hv
  cases call with
  | scope w => exact List.mem_singleton.1 hv ▸ h
  | literal w => exact List.mem_singleton.1 (List.mem_filter.1 hv).1 ▸ h
  | list items => exact h v (List.mem_filter.1 hv).1
  | register | registerPerRecord => cases hv

end Call

/-- A call and what came of it, which for a shared set includes whether its builder was run. -/
inductive Event where
  | scope (v : Value) (written : Literal)
  | literal (v : Value) (written : Literal)
  | list (items : List Value) (text : String)
  | register (fragment : String) (made : ValueSet) (binding : Binding) (built : Bool)
  | registerPerRecord (fragment : String) (index : Nat)

namespace Event

/-- The call that something came of. -/
def call : Event → Call
  | scope v _ => .scope v
  | literal v _ => .literal v
  | list items _ => .list items
  | register fragment made _ _ => .register fragment made
  | registerPerRecord fragment _ => .registerPerRecord fragment

/-- The name of a set that came of the call. -/
def name? : Event → Option String
  | register _ _ binding _ => some binding.name
  | registerPerRecord _ index => some (declaredName index)
  | _ => none

/-- The value that the call kept in a slot, and the literal that refers to it. -/
def kept? : Event → Option (Value × Literal)
  | scope v written => some (v, written)
  | literal v written => if v.isKept then some (v, written) else none
  | _ => none

end Event

/-- What comes of a call, and the context after it. A builder sets a mark when it is run. -/
def perform (context : Context) : Call → Event × Context
  | .scope v =>
    let (literal, context) := context.scope v
    (.scope v literal, context)
  | .literal v =>
    let (literal, context) := context.literal v
    (.literal v literal, context)
  | .list items =>
    let (text, context) := context.list items
    (.list items text, context)
  | .register fragment made =>
    let builder : Unit → StateM Bool ValueSet := fun _ => do
      set true
      return made
    let ((binding, context), built) := Id.run ((context.registerM fragment builder).run false)
    (.register fragment made binding built, context)
  | .registerPerRecord fragment =>
    let (index, context) := context.registerPerRecord fragment
    (.registerPerRecord fragment index, context)

variable {before context after : Context}

/-! ## What references mean -/

/-- The literal refers to a slot, and what is kept there stands behind it and equals the value. -/
def Refers (context : Context) (literal : Literal) (v : Value) : Prop :=
  ∃ i, literal.text = slotText i ∧ context.slots[i]? = some literal.value ∧
    (literal.value == v) = true

/-- The literal is the inline text of the value, or refers to a slot if there is none. -/
def Stated (context : Context) (literal : Literal) (v : Value) : Prop :=
  match inlineText? v with
  | some text => literal = ⟨text, v⟩
  | none => context.Refers literal v

/-- What came of the call is right: literals state their values, the text of a list is made of such
literals, and places of sets are those of their declarations. -/
def Event.Holds (context : Context) : Event → Prop
  | scope v written => context.Refers written v
  | literal v written => context.Stated written v
  | list items text => ∃ literals : List Literal, List.Forall₂ context.Stated literals items ∧
    text = "[" ++ String.intercalate "," (literals.map Literal.text) ++ "]"
  | register fragment _ binding _ =>
    context.declarations[binding.index]? = some (.shared fragment binding.set)
  | registerPerRecord fragment index => context.declarations[index]? = some (.perRecord fragment)

/-- A literal refers in a grown context to what it referred to. -/
theorem Refers.mono (h : before.Extends after) {literal : Literal} {v : Value}
    (hv : before.Refers literal v) : after.Refers literal v := by
  obtain ⟨i, htext, hi, heq⟩ := hv
  exact ⟨i, htext, h.slot hi, heq⟩

/-- A literal states in a grown context what it stated. -/
theorem Stated.mono (h : before.Extends after) {literal : Literal} {v : Value}
    (hv : before.Stated literal v) : after.Stated literal v := by
  unfold Stated at hv ⊢
  split at hv
  · exact hv
  · exact hv.mono h

/-- What was right goes on to be right in a grown context. -/
theorem Event.Holds.mono (h : before.Extends after) {event : Event} (hevent : event.Holds before) :
    event.Holds after := by
  cases event with
  | scope v written => exact Refers.mono h hevent
  | literal v written => exact Stated.mono h hevent
  | list items text =>
    obtain ⟨literals, hliterals, htext⟩ := hevent
    exact ⟨literals, hliterals.imp fun _ _ => Stated.mono h, htext⟩
  | register | registerPerRecord => exact h.declaration hevent

/-! ## What a call does -/

/-- Writing a list keeps what is not written inline. -/
theorem Keeps.list {values : List Value} (h : context.Keeps values) {items : List Value}
    (hitems : ∀ v ∈ items, v.WellFormed) :
    Keeps (context.list items).2 (values ++ items.filter Value.isKept) := by
  change Keeps (context.literalTexts items).2 _
  induction items generalizing context values with
  | nil => exact (List.append_nil values).symm ▸ h
  | cons v rest ih =>
    rw [List.forall_mem_cons] at hitems
    have hrest := ih (h.literal hitems.1) hitems.2
    rw [List.append_assoc, ← List.filter_append] at hrest
    exact hrest

/-- Keeping a value leaves what is there in its place, and the literal refers to the value. -/
theorem scope_refers (context : Context) (v : Value) :
    context.Extends (context.scope v).2 ∧
      (context.scope v).2.declarations = context.declarations ∧
      (v.WellFormed → Refers (context.scope v).2 (context.scope v).1 v) := by
  rw [scope]
  cases hfound : context.slotOf? v with
  | some found =>
    obtain ⟨kept, i⟩ := found
    rw [slotOf?] at hfound
    have hi : context.slots[i]? = some kept :=
      List.mem_zipIdx_iff_getElem?.1 (List.mem_of_find?_eq_some hfound)
    have heq := List.find?_some hfound
    exact ⟨.refl context, rfl, fun _ => ⟨i, rfl, hi, heq⟩⟩
  | none =>
    refine ⟨⟨List.prefix_append _ _, List.prefix_refl _⟩, rfl, fun hv => ?_⟩
    exact ⟨context.slots.length, rfl, List.getElem?_concat_length, Value.beq_refl hv⟩

/-- Writing a value leaves what is there in its place, and the literal states the value. -/
theorem literal_stated (context : Context) (v : Value) :
    context.Extends (context.literal v).2 ∧
      (context.literal v).2.declarations = context.declarations ∧
      (v.WellFormed → Stated (context.literal v).2 (context.literal v).1 v) := by
  unfold literal Stated
  cases inlineText? v with
  | some text => exact ⟨.refl context, rfl, fun _ => rfl⟩
  | none => exact scope_refers context v

/-- Writing a list leaves what is there in its place, and its text is made of literals that state
its values. -/
theorem list_stated (context : Context) (items : List Value) :
    context.Extends (context.list items).2 ∧
      (context.list items).2.declarations = context.declarations ∧
      ((∀ v ∈ items, v.WellFormed) →
        ∃ literals : List Literal, List.Forall₂ (context.list items).2.Stated literals items ∧
          (context.list items).1 =
            "[" ++ String.intercalate "," (literals.map Literal.text) ++ "]") := by
  have htexts : context.Extends (context.literalTexts items).2 ∧
      (context.literalTexts items).2.declarations = context.declarations ∧
      ((∀ v ∈ items, v.WellFormed) → ∃ literals : List Literal,
        List.Forall₂ (context.literalTexts items).2.Stated literals items ∧
          (context.literalTexts items).1 = literals.map Literal.text) := by
    induction items generalizing context with
    | nil => exact ⟨.refl context, rfl, fun _ => ⟨[], .nil, rfl⟩⟩
    | cons v rest ih =>
      obtain ⟨hgrowth, hdeclarations, hstated⟩ := literal_stated context v
      obtain ⟨hgrowth', hdeclarations', hrest⟩ := ih (context.literal v).2
      refine ⟨hgrowth.trans hgrowth', hdeclarations'.trans hdeclarations, fun hw => ?_⟩
      rw [List.forall_mem_cons] at hw
      obtain ⟨literals, hliterals, htexts⟩ := hrest hw.2
      refine ⟨(context.literal v).1 :: literals, .cons ((hstated hw.1).mono hgrowth') hliterals, ?_⟩
      rw [literalTexts, List.map_cons, ← htexts]
  obtain ⟨hgrowth, hdeclarations, hstated⟩ := htexts
  refine ⟨hgrowth, hdeclarations, fun hw => ?_⟩
  obtain ⟨literals, hliterals, htexts⟩ := hstated hw
  refine ⟨literals, hliterals, ?_⟩
  rw [← htexts]
  rfl

/-- The declarations are of the distinct ones of the registrations. -/
def Registers (context : Context) (registrations : List Registration) : Prop :=
  context.declarations.map Declaration.registration = registrations.eraseDups

/-- A registration that is declared already is not declared again. -/
theorem Registers.known {registrations : List Registration} (h : context.Registers registrations)
    {d : Declaration} {i : Nat} (hd : context.declarations[i]? = some d) :
    context.Registers (registrations ++ [d.registration]) := by
  have hmem : d.registration ∈ registrations.eraseDups :=
    h ▸ List.mem_map_of_mem (List.mem_of_getElem? hd)
  have hany : registrations.eraseDups.any (d.registration == ·) = true :=
    List.any_eq_true.2 ⟨_, hmem, beq_self_eq_true _⟩
  rw [Registers, eraseDups_concat, if_pos hany]
  exact h

/-- A registration that is not declared yet is declared last. -/
theorem Registers.declare {registrations : List Registration} (h : context.Registers registrations)
    {d : Declaration} (hnew : d.registration ∉ context.declarations.map Declaration.registration) :
    Registers { context with declarations := context.declarations ++ [d] }
      (registrations ++ [d.registration]) := by
  have hany : ¬ registrations.eraseDups.any (d.registration == ·) = true := by
    rw [List.any_eq_true]
    rintro ⟨other, hmem, heq⟩
    rw [h, eq_of_beq heq] at hnew
    exact hnew hmem
  rw [Registers, eraseDups_concat, if_neg hany, List.map_append, h]
  rfl

/-- What a call does: it leaves what is there in its place, keeps values and registers fragments,
and what comes of it is right. A builder is run if its fragment is not declared yet. -/
structure Performed (context : Context) (call : Call) (event : Event) (after : Context) : Prop where
  call_eq : event.call = call
  growth : context.Extends after
  keeps : ∀ {values : List Value}, context.Keeps values → call.WellFormed →
    after.Keeps (values ++ call.keeps)
  registers : ∀ {registrations : List Registration}, context.Registers registrations →
    after.Registers (registrations ++ call.registration?.toList)
  holds : call.WellFormed → event.Holds after
  built : ∀ fragment made binding built, event = .register fragment made binding built →
    (built = true ↔ .shared fragment ∉ context.declarations.map Declaration.registration) ∧
      (built = true → binding.set = made)

/-- Slots say nothing about declarations. -/
theorem Registers.of_eq {registrations : List Registration} (h : context.Registers registrations)
    (hdeclarations : after.declarations = context.declarations) :
    after.Registers (registrations ++ []) := by
  rw [List.append_nil, Registers, hdeclarations]
  exact h

/-- Declarations say nothing about slots. -/
theorem Keeps.of_eq {values : List Value} (h : context.Keeps values)
    (hslots : after.slots = context.slots) : after.Keeps (values ++ []) := by
  rw [List.append_nil]
  exact ⟨h.wellFormed, hslots.trans h.slots⟩

/-- A registered set is the one that is declared, or its builder is run and it is declared. -/
theorem perform_register (context : Context) (fragment : String) (made : ValueSet) :
    context.perform (.register fragment made) =
      match context.shared? fragment with
      | some binding => (.register fragment made binding false, context)
      | none => (.register fragment made ⟨context.declarations.length, made⟩ true,
        { context with declarations := context.declarations ++ [.shared fragment made] }) := by
  rw [perform, registerM]
  cases context.shared? fragment <;> rfl

/-- A call does what it is to do. -/
theorem performed (context : Context) (call : Call) :
    Performed context call (context.perform call).1 (context.perform call).2 := by
  cases call with
  | scope v =>
    obtain ⟨hgrowth, hdeclarations, hrefers⟩ := scope_refers context v
    refine ⟨rfl, hgrowth, fun h hv => h.scope hv, fun h => h.of_eq hdeclarations, hrefers, ?_⟩
    rintro _ _ _ _ ⟨⟩
  | literal v =>
    obtain ⟨hgrowth, hdeclarations, hstated⟩ := literal_stated context v
    refine ⟨rfl, hgrowth, fun h hv => h.literal hv, fun h => h.of_eq hdeclarations, hstated, ?_⟩
    rintro _ _ _ _ ⟨⟩
  | list items =>
    obtain ⟨hgrowth, hdeclarations, hstated⟩ := list_stated context items
    refine ⟨rfl, hgrowth, fun h hw => h.list hw, fun h => h.of_eq hdeclarations, hstated, ?_⟩
    rintro _ _ _ _ ⟨⟩
  | register fragment made =>
    rw [perform_register]
    cases hfound : context.shared? fragment with
    | some binding =>
      have hdeclared := declared_of_shared? hfound
      refine ⟨rfl, .refl context, fun h _ => h.of_eq rfl, fun h => h.known hdeclared,
        fun _ => hdeclared, ?_⟩
      intro _ _ _ _ hevent
      cases hevent
      refine ⟨iff_of_false Bool.false_ne_true (not_not_intro ?_),
        fun hbuilt => absurd hbuilt Bool.false_ne_true⟩
      exact List.mem_map_of_mem (List.mem_of_getElem? hdeclared)
    | none =>
      have hnew : .shared fragment ∉ context.declarations.map Declaration.registration := by
        intro hmem
        obtain ⟨d, hd, hregistration⟩ := List.mem_map.1 hmem
        cases d with
        | perRecord => cases hregistration
        | shared declared set =>
          cases hregistration
          exact not_mem_of_shared? hfound set hd
      refine ⟨rfl, ⟨List.prefix_refl _, List.prefix_append _ _⟩, fun h _ => h.of_eq rfl,
        fun h => h.declare hnew, fun _ => List.getElem?_concat_length, ?_⟩
      intro _ _ _ _ hevent
      cases hevent
      exact ⟨iff_of_true rfl hnew, fun _ => rfl⟩
  | registerPerRecord fragment =>
    rw [perform, registerPerRecord]
    cases hfound : context.perRecord? fragment with
    | some index =>
      have hdeclared := declared_of_perRecord? hfound
      refine ⟨rfl, .refl context, fun h _ => h.of_eq rfl, fun h => h.known hdeclared,
        fun _ => hdeclared, ?_⟩
      rintro _ _ _ _ ⟨⟩
    | none =>
      have hnew : .perRecord fragment ∉ context.declarations.map Declaration.registration := by
        intro hmem
        obtain ⟨d, hd, hregistration⟩ := List.mem_map.1 hmem
        cases d with
        | shared => cases hregistration
        | perRecord declared =>
          cases hregistration
          exact not_mem_of_perRecord? hfound hd
      refine ⟨rfl, ⟨List.prefix_refl _, List.prefix_append _ _⟩, fun h _ => h.of_eq rfl,
        fun h => h.declare hnew, fun _ => List.getElem?_concat_length, ?_⟩
      rintro _ _ _ _ ⟨⟩

/-! ## Sessions -/

/-- A context, and the calls on it since it was empty with what came of them. -/
structure Session where
  events : List Event
  context : Context

namespace Session

/-- The session after a further call. -/
def call (session : Session) (call : Call) : Session :=
  let (event, context) := session.context.perform call
  ⟨session.events ++ [event], context⟩

/-- The session of calls made one after another on an empty context. -/
def ofCalls (calls : List Call) : Session := calls.foldl call ⟨[], .empty⟩

/-- A further call is made on the session of those before it. -/
theorem ofCalls_concat (calls : List Call) (next : Call) :
    ofCalls (calls ++ [next]) = (ofCalls calls).call next := by
  rw [ofCalls, List.foldl_append, List.foldl_cons, List.foldl_nil, ← ofCalls]

/-- What a session comes to is told by its calls: its context keeps and declares what they asked
for, all that came of them is right, and a builder was run if nothing before it had registered its
fragment. -/
structure Accounted (session : Session) (calls : List Call) : Prop where
  calls_eq : session.events.map Event.call = calls
  keeps : session.context.Keeps (calls.flatMap Call.keeps)
  registers : session.context.Registers (calls.filterMap Call.registration?)
  holds : ∀ event ∈ session.events, event.Holds session.context
  built : ∀ {first fragment made binding built rest},
    session.events = first ++ .register fragment made binding built :: rest →
    (built = true ↔
      .shared fragment ∉ first.filterMap fun event => event.call.registration?) ∧
      (built = true → binding.set = made)

/-- Nothing has come of no calls. -/
theorem accounted_nil : Accounted (ofCalls []) [] :=
  ⟨rfl, ⟨nofun, rfl⟩, rfl, nofun, fun h => by simp [ofCalls] at h⟩

/-- A call keeps the account. -/
theorem Accounted.call {session : Session} {calls : List Call} (h : session.Accounted calls)
    {next : Call} (hnext : next.WellFormed) :
    Accounted (session.call next) (calls ++ [next]) := by
  have hperformed := performed session.context next
  refine ⟨?_, ?_, ?_, ?_, ?_⟩
  · rw [Session.call, List.map_append, h.calls_eq, List.map_singleton, hperformed.call_eq]
  · rw [List.flatMap_append, List.flatMap_singleton]
    exact hperformed.keeps h.keeps hnext
  · have hregisters := hperformed.registers h.registers
    have hsingle : [next].filterMap Call.registration? = next.registration?.toList := by
      cases hnone : next.registration? <;> simp [hnone]
    rw [List.filterMap_append, hsingle]
    exact hregisters
  · intro event hevent
    rcases List.mem_append.1 hevent with hevent | hevent
    · exact (h.holds event hevent).mono hperformed.growth
    · exact List.mem_singleton.1 hevent ▸ hperformed.holds hnext
  · intro first fragment made binding built rest hevents
    rcases List.eq_nil_or_concat rest with rfl | ⟨more, last, rfl⟩
    · -- the registration is the call that has just been made
      obtain ⟨hfirst, hlast⟩ := List.append_inj' hevents rfl
      obtain ⟨hiff, hset⟩ := hperformed.built _ _ _ _ (List.singleton_inj.1 hlast)
      refine ⟨hiff.trans (not_congr ?_), hset⟩
      rw [h.registers, ← h.calls_eq, hfirst, List.filterMap_map]
      exact List.mem_eraseDups
    · rw [List.concat_eq_append, ← List.cons_append, ← List.append_assoc] at hevents
      exact h.built (List.append_inj' hevents rfl).1

/-- A run of calls keeps the account, whatever they are and however many. -/
theorem accounted_ofCalls {calls : List Call} (h : ∀ call ∈ calls, call.WellFormed) :
    Accounted (ofCalls calls) calls := by
  induction calls using List.reverseRecOn with
  | nil => exact accounted_nil
  | append_singleton calls next ih =>
    obtain ⟨hcalls, hnext⟩ := List.forall_mem_append.1 h
    rw [ofCalls_concat]
    exact (ih hcalls).call (hnext next (.head _))

/-- Further calls add to what came of those before, and to the context. -/
theorem ofCalls_append (calls more : List Call) :
    (ofCalls calls).events <+: (ofCalls (calls ++ more)).events ∧
      (ofCalls calls).context.Extends (ofCalls (calls ++ more)).context := by
  induction more using List.reverseRecOn with
  | nil =>
    rw [List.append_nil]
    exact ⟨List.prefix_refl _, .refl _⟩
  | append_singleton more next ih =>
    rw [← List.append_assoc, ofCalls_concat]
    have hperformed := performed (ofCalls (calls ++ more)).context next
    exact ⟨ih.1.trans (List.prefix_append _ _), ih.2.trans hperformed.growth⟩

/-! ## What callers are promised -/

/-- The text that declares the registrations, one a line, with the places as names. -/
def linesOf (registrations : List Registration) : String :=
  String.join (registrations.zipIdx.map fun (registration, i) =>
    "const v$" ++ Text.decimal i ++ " = " ++ registration.fragment ++ ";\n")

/-- What a session comes to for the caller. -/
structure Consistent (session : Session) (calls : List Call) : Prop where
  /-- Something came of each call, in order. -/
  calls_eq : session.events.map Event.call = calls
  /-- No two slots keep equal values. -/
  distinct : ∀ {i j : Nat} {v w : Value}, session.context.slots[i]? = some v →
    session.context.slots[j]? = some w → (v == w) = true → i = j
  /-- Slots keep the first of each class of values that were to be kept, in the order of arrival. -/
  slots : session.context.slots = (calls.flatMap Call.keeps).eraseDups
  /-- Literals refer to slots that keep what is behind them, which equals the value given, texts of
  lists are made of such references, and names are those of the declarations of their sets. -/
  holds : ∀ event ∈ session.events, event.Holds session.context
  /-- Two values that are kept have one reference and one value behind it just if they are equal. -/
  kept : ∀ {event event' v w written written'}, event ∈ session.events →
    event' ∈ session.events → event.kept? = some (v, written) →
    event'.kept? = some (w, written') → (written = written' ↔ (v == w) = true)
  /-- There is a declaration for each distinct fragment given to the one function and for each
  given to the other. -/
  declarations : session.context.declarations.length =
    (calls.filterMap Call.shared?).eraseDups.length +
      (calls.filterMap Call.perRecord?).eraseDups.length
  /-- The source declares them line by line in the order of their first registration. -/
  source : session.context.source = linesOf (calls.filterMap Call.registration?).eraseDups
  /-- Each registration comes with the name of its place among the distinct ones. -/
  named : ∀ event ∈ session.events, ∀ registration, event.call.registration? = some registration →
    ∃ i, event.name? = some ("v$" ++ Text.decimal i) ∧
      (calls.filterMap Call.registration?).eraseDups[i]? = some registration
  /-- Two registrations have one name just if they are of one fragment by one function. -/
  named_iff : ∀ event ∈ session.events, ∀ event' ∈ session.events, ∀ registration registration',
    event.call.registration? = some registration →
    event'.call.registration? = some registration' →
    (event.name? = event'.name? ↔ registration = registration')
  /-- A builder is run just if its fragment was never registered for a shared set before. Its set
  is the one that comes of this and of every later registration, whose builders are not run. -/
  built : ∀ {first fragment made binding built rest},
    session.events = first ++ .register fragment made binding built :: rest →
    (built = true ↔ ∀ made' binding' built',
      .register fragment made' binding' built' ∉ first) ∧
    (built = true → binding.set = made ∧ ∀ made' binding' built',
      .register fragment made' binding' built' ∈ rest → binding' = binding ∧ built' = false)

section
variable {session : Session} {calls : List Call}

/-- A value that was kept is well formed, and its literal refers to it. -/
theorem Accounted.kept (h : session.Accounted calls) {event : Event}
    (hevent : event ∈ session.events) {v : Value} {written : Literal}
    (hkept : event.kept? = some (v, written)) :
    v.WellFormed ∧ session.context.Refers written v := by
  have hholds := h.holds event hevent
  have hcall : event.call ∈ calls := h.calls_eq ▸ List.mem_map_of_mem hevent
  have hkeeps : ∀ w ∈ event.call.keeps, w.WellFormed := fun w hw =>
    h.keeps.wellFormed w (List.mem_flatMap.2 ⟨_, hcall, hw⟩)
  cases event with
  | list | register | registerPerRecord => cases hkept
  | scope w written' =>
    cases hkept
    exact ⟨hkeeps v (.head _), hholds⟩
  | literal w written' =>
    rw [Event.kept?] at hkept
    split at hkept
    · rename_i hv
      cases hkept
      refine ⟨hkeeps v (List.mem_filter.2 ⟨.head _, hv⟩), ?_⟩
      -- what is kept has no inline text, so the literal can only refer to it
      rw [isKept_eq, Option.isNone_iff_eq_none] at hv
      simpa only [Event.Holds, Stated, inlineText?_eq, hv, Option.map_none] using hholds
    · cases hkept

/-- The slots of a session keep no value twice. -/
theorem Accounted.distinct (h : session.Accounted calls) {i j : Nat} {v w : Value}
    (hi : session.context.slots[i]? = some v) (hj : session.context.slots[j]? = some w)
    (hvw : (v == w) = true) : i = j := by
  rw [h.keeps.slots] at hi hj
  exact eq_of_getElem?_eraseDups Value.equivalenceOn h.keeps.wellFormed hi hj hvw

/-- Literals of kept values are the same just if the values are equal. -/
theorem Accounted.written_eq_iff (h : session.Accounted calls) {event event' : Event}
    (hevent : event ∈ session.events) (hevent' : event' ∈ session.events) {v w : Value}
    {written written' : Literal} (hkept : event.kept? = some (v, written))
    (hkept' : event'.kept? = some (w, written')) : written = written' ↔ (v == w) = true := by
  obtain ⟨hv, i, htext, hi, heq⟩ := h.kept hevent hkept
  obtain ⟨hw, j, htext', hj, heq'⟩ := h.kept hevent' hkept'
  have hslot : ∀ v ∈ session.context.slots, v.WellFormed := fun v hmem =>
    h.keeps.wellFormed v (mem_of_mem_eraseDups (h.keeps.slots ▸ hmem))
  have hbehind := hslot _ (List.mem_of_getElem? hi)
  have hbehind' := hslot _ (List.mem_of_getElem? hj)
  constructor
  · rintro rfl
    exact Value.beq_trans hv hbehind hw (Value.beq_symm hbehind hv heq) heq'
  · intro hvw
    have hslots := Value.beq_trans hbehind hv hbehind' heq
      (Value.beq_trans hv hw hbehind' hvw (Value.beq_symm hbehind' hw heq'))
    obtain rfl := h.distinct hi hj hslots
    have hvalue : written.value = written'.value := Option.some.inj (hi.symm.trans hj)
    cases written
    cases written'
    simp_all

/-- There are as many declarations as distinct fragments of the two functions. -/
theorem Accounted.length_declarations (h : session.Accounted calls) :
    session.context.declarations.length =
      (calls.filterMap Call.shared?).eraseDups.length +
        (calls.filterMap Call.perRecord?).eraseDups.length := by
  have hshared : (calls.filterMap Call.registration?).filterMap Registration.shared? =
      calls.filterMap Call.shared? := by
    rw [List.filterMap_filterMap]
    refine congrArg (List.filterMap · calls) (funext fun call => ?_)
    cases call <;> rfl
  have hperRecord : (calls.filterMap Call.registration?).filterMap Registration.perRecord? =
      calls.filterMap Call.perRecord? := by
    rw [List.filterMap_filterMap]
    refine congrArg (List.filterMap · calls) (funext fun call => ?_)
    cases call <;> rfl
  rw [← hshared, ← hperRecord, ← Registration.length_eraseDups, ← h.registers, List.length_map]

/-- The lines of declarations are those of what they were registered as. -/
theorem source_eq_linesOf (context : Context) :
    context.source = linesOf (context.declarations.map Declaration.registration) := by
  have hconst : "const v$" = "const " ++ "v$" := rfl
  have hlines : ∀ (declarations : List Declaration) (n : Nat), linesFrom n declarations =
      String.join (((declarations.map Declaration.registration).zipIdx n).map fun (r, i) =>
        "const v$" ++ Text.decimal i ++ " = " ++ r.fragment ++ ";\n") := by
    intro declarations
    induction declarations with
    | nil => exact fun _ => String.join_nil.symm
    | cons d rest ih =>
      intro n
      have hfragment : d.fragment = d.registration.fragment := by cases d <;> rfl
      rw [linesFrom, ih, List.map_cons, List.zipIdx_cons, List.map_cons, String.join_cons,
        declaredName, hfragment]
      simp only [hconst, String.append_assoc]
  exact hlines context.declarations 0

/-- Each registration has the name of its place among the distinct ones. -/
theorem Accounted.named (h : session.Accounted calls) {event : Event}
    (hevent : event ∈ session.events) {registration : Registration}
    (hregistration : event.call.registration? = some registration) :
    ∃ i, event.name? = some (declaredName i) ∧
      (calls.filterMap Call.registration?).eraseDups[i]? = some registration := by
  have hholds := h.holds event hevent
  rw [← h.registers]
  cases event with
  | scope | literal | list => cases hregistration
  | register fragment made binding built =>
    cases hregistration
    refine ⟨binding.index, rfl, ?_⟩
    rw [List.getElem?_map, hholds]
    rfl
  | registerPerRecord fragment index =>
    cases hregistration
    refine ⟨index, rfl, ?_⟩
    rw [List.getElem?_map, hholds]
    rfl

/-- Names of places are as different as the places. -/
theorem declaredName_inj {i j : Nat} (h : declaredName i = declaredName j) : i = j := by
  have hdigits := String.ofList_injective ((String.append_right_inj _).1 h)
  have hvalue := congrArg (Nat.ofDigitChars 10 · 0) hdigits
  simpa only [Nat.ofDigitChars_ten_toDigits] using hvalue

/-- Registrations have one name just if they are the same. -/
theorem Accounted.name_eq_iff (h : session.Accounted calls) {event event' : Event}
    (hevent : event ∈ session.events) (hevent' : event' ∈ session.events)
    {registration registration' : Registration}
    (hregistration : event.call.registration? = some registration)
    (hregistration' : event'.call.registration? = some registration') :
    event.name? = event'.name? ↔ registration = registration' := by
  obtain ⟨i, hname, hi⟩ := h.named hevent hregistration
  obtain ⟨j, hname', hj⟩ := h.named hevent' hregistration'
  rw [hname, hname', Option.some.injEq]
  constructor
  · intro heq
    obtain rfl := declaredName_inj heq
    exact Option.some.inj (hi.symm.trans hj)
  · rintro rfl
    have hlt := (List.getElem?_eq_some_iff.1 hi).1
    rw [(List.getElem?_inj hlt (nodup_eraseDups _)).1 (hi.trans hj.symm)]

/-- Shared sets of one fragment are one, with one name. -/
theorem Accounted.binding_eq (h : session.Accounted calls) {fragment : String}
    {made made' : ValueSet} {binding binding' : Binding} {built built' : Bool}
    (hevent : .register fragment made binding built ∈ session.events)
    (hevent' : .register fragment made' binding' built' ∈ session.events) :
    binding = binding' := by
  have hname := (h.name_eq_iff hevent hevent' rfl rfl).2 rfl
  have hindex : binding.index = binding'.index := declaredName_inj (Option.some.inj hname)
  have hdeclared := h.holds _ hevent
  have hdeclared' := h.holds _ hevent'
  simp only [Event.Holds, hindex] at hdeclared hdeclared'
  have hset := Option.some.inj (hdeclared.symm.trans hdeclared')
  cases binding
  cases binding'
  simp_all

/-- A fragment was registered for a shared set if something came of it. -/
theorem mem_registrations_iff {events : List Event} {fragment : String} :
    .shared fragment ∈ events.filterMap (fun event => event.call.registration?) ↔
      ∃ made binding built, .register fragment made binding built ∈ events := by
  rw [List.mem_filterMap]
  constructor
  · rintro ⟨event, hevent, hregistration⟩
    cases event with
    | register declared made binding built =>
      cases hregistration
      exact ⟨made, binding, built, hevent⟩
    | scope | literal | list | registerPerRecord => cases hregistration
  · rintro ⟨made, binding, built, hevent⟩
    exact ⟨_, hevent, rfl⟩

/-- Builders are run for new fragments only, and their sets come of all later registrations. -/
theorem Accounted.builders (h : session.Accounted calls) {first rest : List Event}
    {fragment : String} {made : ValueSet} {binding : Binding} {built : Bool}
    (hevents : session.events = first ++ .register fragment made binding built :: rest) :
    (built = true ↔ ∀ made' binding' built',
      .register fragment made' binding' built' ∉ first) ∧
    (built = true → binding.set = made ∧ ∀ made' binding' built',
      .register fragment made' binding' built' ∈ rest → binding' = binding ∧ built' = false) := by
  obtain ⟨hiff, hset⟩ := h.built hevents
  rw [mem_registrations_iff] at hiff
  refine ⟨by simpa only [not_exists] using hiff, fun hbuilt => ⟨hset hbuilt, ?_⟩⟩
  intro made' binding' built' hmem
  have hevent : .register fragment made binding built ∈ session.events := by
    rw [hevents]
    exact List.mem_append_right _ (.head _)
  have hevent' : .register fragment made' binding' built' ∈ session.events := by
    rw [hevents]
    exact List.mem_append_right _ (.tail _ hmem)
  refine ⟨h.binding_eq hevent' hevent, ?_⟩
  obtain ⟨middle, last, rfl⟩ := List.append_of_mem hmem
  rw [← List.cons_append, ← List.append_assoc] at hevents
  have hlater := (h.built hevents).1
  rw [mem_registrations_iff] at hlater
  refine Bool.eq_false_iff.2 fun hbuilt' => hlater.1 hbuilt' ⟨made, binding, built, ?_⟩
  exact List.mem_append_right _ (.head _)

end

/-- Whatever calls are made on an empty context, and however many, it stays consistent, and what
further calls do leaves in place what is there. -/
theorem consistent_ofCalls (calls : List Call) (h : ∀ call ∈ calls, call.WellFormed) :
    Consistent (ofCalls calls) calls ∧
      ∀ more : List Call, (ofCalls calls).events <+: (ofCalls (calls ++ more)).events ∧
        (ofCalls calls).context.Extends (ofCalls (calls ++ more)).context := by
  have hcalls := accounted_ofCalls h
  refine ⟨?_, ofCalls_append calls⟩
  exact {
    calls_eq := hcalls.calls_eq
    distinct := hcalls.distinct
    slots := hcalls.keeps.slots
    holds := hcalls.holds
    kept := fun hevent hevent' => hcalls.written_eq_iff hevent hevent'
    declarations := hcalls.length_declarations
    source := by rw [source_eq_linesOf, hcalls.registers]
    named := fun _ hevent _ => hcalls.named hevent
    named_iff := fun _ hevent _ hevent' _ _ => hcalls.name_eq_iff hevent hevent'
    built := hcalls.builders }

/-- A run that keeps equal objects with their keys in different orders, and registers one fragment
by both functions and again. -/
theorem consistent_ofCalls_of_mixed :
    let keyed : Value := .object [("a", .null), ("b", .bool true)]
    let reordered : Value := .object [("b", .bool true), ("a", .null)]
    let calls : List Call := [.scope keyed, .register "new Set([1])" .empty,
      .list [.null, reordered, .bigint ⟨7, by decide, by decide⟩],
      .registerPerRecord "new Set([1])", .literal reordered,
      .register "new Set([1])" (.ofList [.null])]
    Consistent (ofCalls calls) calls ∧
      ∀ more : List Call, (ofCalls calls).events <+: (ofCalls (calls ++ more)).events ∧
        (ofCalls calls).context.Extends (ofCalls (calls ++ more)).context := by
  intro keyed reordered calls
  refine consistent_ofCalls calls ?_
  simp [calls, Call.WellFormed, keyed, reordered, Value.WellFormed, Value.WellFormedFields]

/-- A fragment that is registered again is not declared again. -/
example :
    (ofCalls [.register "new Set([1])" .empty, .registerPerRecord "new Set(data)",
      .register "new Set([1])" .empty]).context.source =
        "const v$0 = new Set([1]);\nconst v$1 = new Set(data);\n" := by
  decide

end Session

end Context
end RecordQuery

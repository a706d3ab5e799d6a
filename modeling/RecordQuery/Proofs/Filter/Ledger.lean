import RecordQuery.Filter.Ledger
import RecordQuery.Proofs.Filter.Calls

/-!
# Ledgers against contexts

A ledger stands for a context if its counter, its lines, its caches and its index say of the slots
and of the declarations what a search through these says (`Ledger.Represents`). Every call keeps
this up and has the same answer as on the context (`Represents.perform`), so every run of calls on
an empty ledger has answers, and they are those of the session of these calls
(`Ledger.run_eq_ofCalls`). That values are found by their digests rests on equal values having
equal ones (`Value.words_congr`).
-/

namespace RecordQuery

/-- Where a cache says of a key what a search says, it says so with a further key in both, if that
is not found by the search and has the digest of all keys that it equals. -/
theorem Cache.find?_insert {κ α β : Type} [BEq κ] {digest : κ → UInt64} {cache : Cache κ α}
    {found : κ → Option β} {f : β → α} {key key' : κ}
    (h : cache.find? digest key' = (found key').map f)
    (hdigest : (key == key') = true → digest key = digest key')
    (hnew : (key == key') = true → found key' = none) (b : β) :
    (cache.insert digest key (f b)).find? digest key' =
      ((found key').or (if key == key' then some b else none)).map f := by
  rw [find?, insert, List.findSome?_cons]
  dsimp only
  cases hkey : key == key' with
  | false =>
    rw [Bool.and_false, if_neg Bool.false_ne_true, if_neg Bool.false_ne_true, Option.or_none, ← h]
    rfl
  | true =>
    rw [hdigest hkey, beq_self_eq_true, hnew hkey]
    rfl

/-- Equal values have equal digests. -/
theorem Value.digest_congr {v w : Value} (hv : v.WellFormed) (hw : w.WellFormed)
    (h : (v == w) = true) : v.digest = w.digest :=
  congrArg mixWords (words_congr hv hw h)

/-- A shared set under the name of its declaration. -/
def Binding.named (binding : Binding) : NamedSet := ⟨binding.name, binding.set⟩

namespace Context

/-! ## Searches in grown contexts -/

section
variable (context : Context)

/-- A further slot is found by the values that it equals, if no slot before it is. -/
theorem slotOf?_keep (v w : Value) :
    slotOf? { context with slots := context.slots ++ [v] } w =
      (context.slotOf? w).or (if v == w then some (v, context.slots.length) else none) := by
  rw [slotOf?, List.zipIdx_append, List.find?_append]
  simp [slotOf?, List.find?_singleton]

/-- A further declaration is found by its fragment if it shares a set and none before it is. -/
theorem shared?_declare (d : Declaration) (fragment : String) :
    shared? { context with declarations := context.declarations ++ [d] } fragment =
      (context.shared? fragment).or
        (match d with
        | .shared declared set =>
          if declared == fragment then some ⟨context.declarations.length, set⟩ else none
        | .perRecord _ => none) := by
  rw [shared?, List.zipIdx_append, List.findSome?_append]
  cases d <;> simp [shared?]

/-- A further declaration is found by its fragment if it is for each record and none before it
is. -/
theorem perRecord?_declare (d : Declaration) (fragment : String) :
    perRecord? { context with declarations := context.declarations ++ [d] } fragment =
      (context.perRecord? fragment).or
        (match d with
        | .shared _ _ => none
        | .perRecord declared =>
          if declared == fragment then some context.declarations.length else none) := by
  rw [perRecord?, List.zipIdx_append, List.findSome?_append]
  cases d <;> simp [perRecord?]

end

/-- What a caller is told. -/
inductive Reply where
  | literal (written : Literal)
  | list (text : String)
  | set (named : NamedSet) (built : Bool)
  | name (name : String)

/-- What the caller is told of what came of a call. -/
def Event.reply : Event → Reply
  | scope _ written => .literal written
  | literal _ written => .literal written
  | list _ text => .list text
  | register _ _ binding built => .set binding.named built
  | registerPerRecord _ index => .name (declaredName index)

variable {context : Context}

/-- If no slot is found by a value, none is found by a value that equals it. -/
theorem slotOf?_eq_none_of_beq (hslots : ∀ kept ∈ context.slots, kept.WellFormed) {v w : Value}
    (hv : v.WellFormed) (hw : w.WellFormed) (hvw : (v == w) = true)
    (h : context.slotOf? v = none) : context.slotOf? w = none := by
  rw [slotOf?, List.find?_eq_none] at h ⊢
  intro slot hslot hkept
  have hmem : slot.1 ∈ context.slots := List.mem_of_getElem? (List.mem_zipIdx_iff_getElem?.1 hslot)
  have hwf := hslots slot.1 hmem
  exact h slot hslot (Value.beq_trans hwf hw hv hkept (Value.beq_symm hv hw hvw))

end Context

namespace Ledger

open Context

/-! ## Calls -/

/-- What a call on a ledger answers, and the ledger after it. A builder sets a mark when it is
run. -/
def perform (ledger : Ledger) : Call → Option (Reply × Ledger)
  | .scope v => (ledger.scope v).map fun (written, after) => (.literal written, after)
  | .literal v => (ledger.literal v).map fun (written, after) => (.literal written, after)
  | .list items => (ledger.list items).map fun (text, after) => (.list text, after)
  | .register fragment made =>
    let builder : Unit → StateM Bool ValueSet := fun _ => do
      set true
      return made
    let ((named, after), built) := Id.run ((ledger.registerM fragment builder).run false)
    some (.set named built, after)
  | .registerPerRecord fragment =>
    let (name, after) := ledger.registerPerRecord fragment
    some (.name name, after)

/-- A registered set is the one under its fragment, or its builder is run and it is put there. -/
theorem perform_register (ledger : Ledger) (fragment : String) (made : ValueSet) :
    ledger.perform (.register fragment made) =
      match ledger.bindings.find? Text.digest fragment with
      | some named => some (.set named false, ledger)
      | none =>
        let (name, after) := ledger.declare fragment
        some (.set ⟨name, made⟩ true, { after with
          bindings := after.bindings.insert Text.digest fragment ⟨name, made⟩ }) := by
  rw [perform, registerM]
  cases ledger.bindings.find? Text.digest fragment <;> rfl

/-! ## Representation -/

/-- The lines of declarations, in which they have the names of their places. -/
def linesOf (declarations : List Declaration) : List String :=
  declarations.zipIdx.map fun (d, i) => line (declaredName i) d.fragment

/-- The ledger stands for the context: all that it has at hand is what a search through the slots
and declarations finds. -/
structure Represents (ledger : Ledger) (context : Context) : Prop where
  counter : ledger.counter = context.declarations.length
  declarations : ledger.declarations = linesOf context.declarations
  bindings : ∀ fragment, ledger.bindings.find? Text.digest fragment =
    (context.shared? fragment).map Binding.named
  perRecord : ∀ fragment, ledger.perRecord.find? Text.digest fragment =
    (context.perRecord? fragment).map declaredName
  slots : ledger.slots = context.slots
  slotIndex : ∀ v : Value, v.WellFormed → ledger.slotIndex.find? Value.digest v =
    (context.slotOf? v).map Prod.snd
  /-- The values in slots are well formed, so that equality among them is an equivalence. -/
  wellFormed : ∀ v ∈ context.slots, v.WellFormed

/-- The empty ledger stands for the empty context. -/
theorem represents_empty : Ledger.empty.Represents Context.empty :=
  ⟨rfl, rfl, fun _ => rfl, fun _ => rfl, rfl, fun _ _ => rfl, nofun⟩

namespace Represents

variable {ledger : Ledger} {context : Context} (h : ledger.Represents context)
include h

/-- A ledger declares what its context does. -/
theorem source_eq : ledger.source = context.source := by
  have hlines : ∀ (declarations : List Declaration) (n : Nat),
      String.join (((declarations.zipIdx n).map fun (d, i) =>
        line (declaredName i) d.fragment).map (· ++ "\n")) = linesFrom n declarations := by
    intro declarations
    induction declarations with
    | nil => exact fun _ => String.join_nil
    | cons d rest ih =>
      intro n
      have hend : ";\n" = ";" ++ "\n" := rfl
      rw [List.zipIdx_cons, List.map_cons, List.map_cons, String.join_cons, ih, linesFrom, hend]
      simp only [line, String.append_assoc]
  rw [source, h.declarations]
  exact hlines context.declarations 0

/-- A value that is kept has the same slot in both. -/
theorem scope {v : Value} (hv : v.WellFormed) :
    ∃ after, ledger.scope v = some ((context.scope v).1, after) ∧
      after.Represents (context.scope v).2 := by
  rw [Ledger.scope, Context.scope, h.slotIndex v hv]
  cases hfound : context.slotOf? v with
  | some found =>
    obtain ⟨kept, i⟩ := found
    rw [slotOf?] at hfound
    have hi : ledger.slots[i]? = some kept := by
      rw [h.slots]
      exact List.mem_zipIdx_iff_getElem?.1 (List.mem_of_find?_eq_some hfound)
    refine ⟨ledger, ?_, h⟩
    simp only [Option.map_some, hi]
  | none =>
    simp only [Option.map_none, h.slots]
    refine ⟨_, rfl, { h with slots := rfl, slotIndex := ?_, wellFormed := ?_ }⟩
    · intro w hw
      rw [slotOf?_keep]
      exact Cache.find?_insert (h.slotIndex w hw) (Value.digest_congr hv hw)
        (fun hvw => slotOf?_eq_none_of_beq h.wellFormed hv hw hvw hfound)
        (v, context.slots.length)
    · exact List.forall_mem_append.2 ⟨h.wellFormed, List.forall_mem_singleton.2 hv⟩

/-- A value is written alike by both. -/
theorem literal {v : Value} (hv : v.WellFormed) :
    ∃ after, ledger.literal v = some ((context.literal v).1, after) ∧
      after.Represents (context.literal v).2 := by
  rw [Ledger.literal, Context.literal]
  cases inlineText? v with
  | some text => exact ⟨ledger, rfl, h⟩
  | none => exact h.scope hv

/-- Values are written alike by both. -/
theorem literalTexts {items : List Value} (hitems : ∀ v ∈ items, v.WellFormed) :
    ∃ after, ledger.literalTexts items = some ((context.literalTexts items).1, after) ∧
      after.Represents (context.literalTexts items).2 := by
  induction items generalizing ledger context with
  | nil => exact ⟨ledger, rfl, h⟩
  | cons v rest ih =>
    obtain ⟨hv, hrest⟩ := List.forall_mem_cons.1 hitems
    obtain ⟨next, hnext, hrepresents⟩ := h.literal hv
    obtain ⟨after, hafter, hrepresents'⟩ := ih hrepresents hrest
    refine ⟨after, ?_, hrepresents'⟩
    rw [Ledger.literalTexts, hnext, Option.bind_eq_bind, Option.bind_some]
    dsimp only
    rw [hafter]
    rfl

/-- A list is written alike by both. -/
theorem list {items : List Value} (hitems : ∀ v ∈ items, v.WellFormed) :
    ∃ after, ledger.list items = some ((context.list items).1, after) ∧
      after.Represents (context.list items).2 := by
  obtain ⟨after, hafter, hrepresents⟩ := h.literalTexts hitems
  refine ⟨after, ?_, hrepresents⟩
  rw [Ledger.list, hafter]
  rfl

/-- The next name is that of the place at which a declaration is added. -/
theorem declare (d : Declaration) :
    ledger.declare d.fragment = (declaredName context.declarations.length,
      { ledger with
        counter := (context.declarations ++ [d]).length
        declarations := linesOf (context.declarations ++ [d]) }) := by
  rw [Ledger.declare, h.counter, h.declarations, linesOf, linesOf, List.zipIdx_append,
    List.map_append, List.length_append]
  simp

/-- A shared set is the same in both, under the same name, and built in both or in neither. -/
theorem register (fragment : String) (made : ValueSet) :
    ∃ after, ledger.perform (.register fragment made) =
        some ((context.perform (.register fragment made)).1.reply, after) ∧
      after.Represents (context.perform (.register fragment made)).2 := by
  rw [Ledger.perform_register, Context.perform_register, h.bindings]
  cases hfound : context.shared? fragment with
  | some binding => exact ⟨ledger, rfl, h⟩
  | none =>
    have hdeclare := h.declare (.shared fragment made)
    rw [Declaration.fragment] at hdeclare
    simp only [Option.map_none, hdeclare]
    refine ⟨_, rfl, { h with
      counter := rfl, declarations := rfl, bindings := ?_, perRecord := ?_ }⟩
    · intro fragment'
      rw [shared?_declare]
      exact Cache.find?_insert (h.bindings fragment') (fun heq => by rw [eq_of_beq heq])
        (fun heq => eq_of_beq heq ▸ hfound) ⟨context.declarations.length, made⟩
    · intro fragment'
      rw [perRecord?_declare, Option.or_none]
      exact h.perRecord fragment'

/-- A set for each record has the same name in both. -/
theorem registerPerRecord (fragment : String) :
    ∃ after, ledger.registerPerRecord fragment =
        (declaredName (context.registerPerRecord fragment).1, after) ∧
      after.Represents (context.registerPerRecord fragment).2 := by
  rw [Ledger.registerPerRecord, Context.registerPerRecord, h.perRecord]
  cases hfound : context.perRecord? fragment with
  | some index => exact ⟨ledger, rfl, h⟩
  | none =>
    have hdeclare := h.declare (.perRecord fragment)
    rw [Declaration.fragment] at hdeclare
    simp only [Option.map_none, hdeclare]
    refine ⟨_, rfl, { h with
      counter := rfl, declarations := rfl, bindings := ?_, perRecord := ?_ }⟩
    · intro fragment'
      rw [shared?_declare, Option.or_none]
      exact h.bindings fragment'
    · intro fragment'
      rw [perRecord?_declare]
      exact Cache.find?_insert (h.perRecord fragment') (fun heq => by rw [eq_of_beq heq])
        (fun heq => eq_of_beq heq ▸ hfound) context.declarations.length

/-- A call has the same answer in both, and leaves a ledger that stands for the context. -/
theorem perform {call : Call} (hcall : call.WellFormed) :
    ∃ after, ledger.perform call = some ((context.perform call).1.reply, after) ∧
      after.Represents (context.perform call).2 := by
  cases call with
  | scope v =>
    obtain ⟨after, hafter, hrepresents⟩ := h.scope hcall
    exact ⟨after, by rw [Ledger.perform, hafter]; rfl, hrepresents⟩
  | literal v =>
    obtain ⟨after, hafter, hrepresents⟩ := h.literal hcall
    exact ⟨after, by rw [Ledger.perform, hafter]; rfl, hrepresents⟩
  | list items =>
    obtain ⟨after, hafter, hrepresents⟩ := h.list hcall
    exact ⟨after, by rw [Ledger.perform, hafter]; rfl, hrepresents⟩
  | register fragment made => exact h.register fragment made
  | registerPerRecord fragment =>
    obtain ⟨after, hafter, hrepresents⟩ := h.registerPerRecord fragment
    exact ⟨after, by rw [Ledger.perform, hafter]; rfl, hrepresents⟩

end Represents

/-! ## Runs of calls -/

/-- The answers to calls made one after another on an empty ledger, and the ledger after them. -/
def run (calls : List Call) : Option (List Reply × Ledger) :=
  calls.foldlM (fun (replies, ledger) call =>
    (ledger.perform call).map fun (reply, after) => (replies ++ [reply], after)) ([], .empty)

/-- Every run of calls has answers on a ledger, those of the session of these calls, and leaves a
ledger that stands for the context of the session. -/
theorem run_represents {calls : List Call} (hcalls : ∀ call ∈ calls, call.WellFormed) :
    ∃ ledger, run calls = some ((Session.ofCalls calls).events.map Event.reply, ledger) ∧
      ledger.Represents (Session.ofCalls calls).context := by
  induction calls using List.reverseRecOn with
  | nil => exact ⟨.empty, rfl, represents_empty⟩
  | append_singleton calls next ih =>
    obtain ⟨hbefore, hnext⟩ := List.forall_mem_append.1 hcalls
    obtain ⟨ledger, hrun, hrepresents⟩ := ih hbefore
    obtain ⟨after, hafter, hrepresents'⟩ := hrepresents.perform (hnext next (.head _))
    refine ⟨after, ?_, Session.ofCalls_concat calls next ▸ hrepresents'⟩
    rw [run] at hrun
    rw [run, List.foldlM_append, hrun, Session.ofCalls_concat, Session.call, List.map_append]
    simp [hafter]

/-- A ledger after a run of calls tells a caller what the context of their session does: the answers
to the calls, the source, and how many declarations and slots there are. -/
theorem run_eq_ofCalls {calls : List Call} (hcalls : ∀ call ∈ calls, call.WellFormed) :
    let session := Session.ofCalls calls
    ∃ ledger, run calls = some (session.events.map Event.reply, ledger) ∧
      ledger.source = session.context.source ∧
      ledger.declarations.length = session.context.declarations.length ∧
      ledger.slots = session.context.slots := by
  intro session
  obtain ⟨ledger, hrun, hrepresents⟩ := run_represents hcalls
  refine ⟨ledger, hrun, hrepresents.source_eq, ?_, hrepresents.slots⟩
  rw [hrepresents.declarations, linesOf, List.length_map, List.length_zipIdx]

end Ledger

end RecordQuery

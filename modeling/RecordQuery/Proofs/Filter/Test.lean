import RecordQuery.Proofs.Filter.Context
import RecordQuery.Proofs.Query.Verdict
import RecordQuery.Proofs.Source.Form

/-!
# Compiled conditions

`test_spec` says all there is to say about compiling one condition in a valid context: the test has
the verdict of the condition on every value, although what it holds may only equal the operand; its
source is the text of a form; and the form expresses the condition in the context that is left
behind and in any that extends it (`Expresses`).
-/

namespace RecordQuery

open Source

namespace Context

variable {before after context : Context} {path : Path}

/-- The form says on the part at the path what the condition asks, where names are those of the
context. -/
inductive Expresses (context : Context) (path : Path) : Form → Condition → Prop
  | equality (negated : Bool) {token : Token} {operand : Value}
    (h : context.Denotes token operand) :
    Expresses context path (.equality negated token) (.equality negated operand)
  | relation (r : Relation) {token : Token} {operand : Value} (h : context.Denotes token operand) :
    Expresses context path (.relation r token) (.relation r operand)
  | existence (expected : Bool) : Expresses context path (.existence expected) (.existence expected)
  | pattern (negated : Bool) {slot : Nat} {p : Pattern}
    (h : context.Denotes (.slot slot) (.regex p)) :
    Expresses context path (.pattern negated slot) (.pattern negated p)
  | inclusion (negated : Bool) {token : Token} {operand : Value}
    (h : context.Denotes token operand) :
    Expresses context path (.inclusion negated token) (.inclusion negated operand)
  | bits (negated : Bool) (mask : Int32) :
    Expresses context path (.bits negated mask) (.bits negated mask)
  | type (negated : Bool) (name : String) :
    Expresses context path (.type negated name) (.type negated name)
  | membership (negated : Bool) {index : Nat} {set : ValueSet} {literals : List Token}
    {items : List Value} (h : Binds context ⟨index, set⟩ literals items) :
    Expresses context path (.membership negated index) (.membership negated items)
  | subset (negated : Bool) {index : Nat} {set : ValueSet} {literals : List Token}
    {items : List Value} (h : Binds context ⟨index, set⟩ literals items) :
    Expresses context path (.subset negated index) (.subset negated items)
  | superset (negated : Bool) {literals : List Token} {items : List Value} {index : Nat}
    (h : List.Forall₂ context.Denotes literals items)
    (hi : context.declarations[index]? = some (.perRecord (Fragment.part path).text)) :
    Expresses context path (.superset negated literals index) (.superset negated items)
  | overlap (negated : Bool) {index : Nat} {set : ValueSet} {literals : List Token}
    {items : List Value} (h : Binds context ⟨index, set⟩ literals items) :
    Expresses context path (.overlap negated index) (.overlap negated (.array items))
  /-- An overlap with a single value is written as an inclusion. -/
  | single (negated : Bool) {token : Token} {operand : Value}
    (hoperand : ∀ items, operand ≠ .array items) (h : context.Denotes token operand) :
    Expresses context path (.inclusion negated token) (.overlap negated operand)

/-- A binding names in a grown context what it named. -/
theorem Binds.mono (h : before.Extends after) {binding : Binding} {literals : List Token}
    {items : List Value} (hb : Binds before binding literals items) :
    Binds after binding literals items :=
  ⟨h.declaration hb.declared, denotes_mono h hb.denotes, hb.stored⟩

/-- A form expresses in a grown context what it expressed. -/
theorem Expresses.mono (h : before.Extends after) {form : Form} {c : Condition}
    (hc : before.Expresses path form c) : after.Expresses path form c := by
  cases hc with
  | equality negated hd => exact .equality negated (hd.mono h)
  | relation r hd => exact .relation r (hd.mono h)
  | existence expected => exact .existence expected
  | pattern negated hd => exact .pattern negated (hd.mono h)
  | inclusion negated hd => exact .inclusion negated (hd.mono h)
  | bits negated mask => exact .bits negated mask
  | type negated name => exact .type negated name
  | membership negated hb => exact .membership negated (hb.mono h)
  | subset negated hb => exact .subset negated (hb.mono h)
  | superset negated hd hi => exact .superset negated (denotes_mono h hd) (h.declaration hi)
  | overlap negated hb => exact .overlap negated (hb.mono h)
  | single negated hoperand hd => exact .single negated hoperand (hd.mono h)

/-- What compiling a condition in a context on the part at a path amounts to. -/
structure Compiles (before after : Context) (path : Path) (c : Condition) (test : Test)
    (form : Form) : Prop where
  expresses : after.Expresses path form c
  spells : form.Spells path test
  uses : Uses before after form.mentions
  holds : ∀ v : Value, v.WellFormed → test.holds v = c.holds v

/-- Compiling a condition that is tested against a literal. -/
theorem literal_compiles (h : context.Valid) {operand : Value} (hw : operand.WellFormed)
    {c : Condition} {test : Literal → Test} {form : Token → Form}
    (hexpresses : ∀ {after : Context} {token : Token}, after.Denotes token operand →
      after.Expresses path (form token) c)
    (hspells : ∀ {literal : Literal} {token : Token}, literal.text = token.text →
      (form token).Spells path (test literal))
    (hmentions : ∀ token, (form token).mentions = [token])
    (hholds : ∀ {literal : Literal}, literal.value.WellFormed → (literal.value == operand) = true →
      ∀ v : Value, v.WellFormed → (test literal).holds v = c.holds v) :
    ∃ token, Compiles context (context.literal operand).2 path c
      (test (context.literal operand).1) (form token) := by
  obtain ⟨token, hstands, hwrites⟩ := literal_spec h hw
  refine ⟨token, hexpresses hstands.denotes, hspells hstands.text, ?_,
    hholds hstands.wellFormed hstands.equal⟩
  rw [hmentions]
  exact hwrites.uses

/-- An overlap with a single value is compiled as an inclusion. -/
theorem test_overlap {negated : Bool} {operand : Value} (h : ∀ items, operand ≠ .array items)
    (context : Context) (expression : String) :
    context.test expression (.overlap negated operand) =
      (.inclusion negated (.overlap negated) (context.literal operand).1,
        (context.literal operand).2) := by
  cases operand with
  | array items => exact absurd rfl (h items)
  | undefined | null | bool | number | bigint | string | regex | object => rfl

/-- Compiling a condition gives a test with its verdict and a form that expresses it. -/
theorem test_spec (h : context.Valid) (path : Path) {c : Condition} (hc : c.WellFormed) :
    let (test, after) := context.test (path.expression Clause.recordVariable) c
    ∃ form, Compiles context after path c test form := by
  cases c with
  | equality negated operand =>
    obtain ⟨token, hcompiles⟩ := literal_compiles h hc (Expresses.equality negated)
      Form.spells_equality (fun _ => rfl) fun hw heq v hv => by
        rw [Test.holds, Condition.holds,
          Value.strictEquals_congr hv hv hw hc (Value.beq_refl hv) heq]
    exact ⟨_, hcompiles⟩
  | relation r operand =>
    obtain ⟨token, hcompiles⟩ := literal_compiles h hc (Expresses.relation r)
      Form.spells_relation (fun _ => rfl) fun hw heq v hv => by
        rw [Test.holds, Condition.holds, Value.related_congr (Value.beq_refl hv) heq]
    exact ⟨_, hcompiles⟩
  | existence expected =>
    exact ⟨_, .existence expected, Form.spells_existence, .nil h, fun _ _ => rfl⟩
  | pattern negated p =>
    obtain ⟨token, hstands, hwrites⟩ := literal_spec h (Value.wellFormed_regex p)
    have hdenotes := hstands.denotes
    have htext := hstands.text
    cases hdenotes with
    | inline hinline => cases hinline
    | slot =>
      exact ⟨_, .pattern negated hstands.denotes, Form.spells_pattern htext, hwrites.uses,
        fun _ _ => rfl⟩
  | inclusion negated operand =>
    obtain ⟨token, hcompiles⟩ := literal_compiles h hc (Expresses.inclusion negated)
      Form.spells_inclusion (fun _ => rfl) fun hw heq v hv => by
        rw [Test.holds, Condition.holds,
          Value.includes_congr hv hv hw hc (Value.beq_refl hv) heq]
    exact ⟨_, hcompiles⟩
  | bits negated mask => exact ⟨_, .bits negated mask, Form.spells_bits, .nil h, fun _ _ => rfl⟩
  | type negated name => exact ⟨_, .type negated name, Form.spells_type, .nil h, fun _ _ => rfl⟩
  | membership negated items =>
    obtain ⟨literals, hbinds, huses⟩ := registerList_spec h hc
    refine ⟨_, .membership negated hbinds, Form.spells_membership, huses, fun v hv => ?_⟩
    rw [Test.holds, Condition.holds, hbinds.contains_eq hc hv hv (Value.beq_refl hv)]
  | subset negated items =>
    obtain ⟨literals, hbinds, huses⟩ := registerList_spec h hc
    refine ⟨_, .subset negated hbinds, Form.spells_subset, huses, fun v hv => ?_⟩
    rw [Test.holds, Condition.holds,
      Value.allItemsIn_congr hv hv (Value.beq_refl hv) (hbinds.contains_eq hc)]
  | superset negated items =>
    obtain ⟨literals, htext, hdenotes, hwrites⟩ := list_spec h hc
    obtain ⟨hi, huses⟩ := registerPerRecord_spec hwrites.valid path
    refine ⟨_, .superset negated (denotes_mono huses.growth hdenotes) hi,
      Form.spells_superset htext, hwrites.uses.append huses, fun v hv => ?_⟩
    rw [Test.holds, Condition.holds]
    rcases Value.elements_congr hv hv (Value.beq_refl hv) (.superset negated) with
      ⟨present, _, helements, _, hpresent, _⟩ | ⟨e, helements, _⟩
    · have hcontains : items.all (ValueSet.ofList present).contains =
          items.all fun item => present.any (· == item) := by
        rw [Bool.eq_iff_iff, List.all_eq_true, List.all_eq_true]
        exact forall₂_congr fun item hmem => by
          rw [ValueSet.contains_ofList hpresent (hc item hmem)]
      rw [helements]
      simp only [hcontains]
    · rw [helements]
  | overlap negated operand =>
    by_cases harray : ∃ items, operand = .array items
    · obtain ⟨items, rfl⟩ := harray
      have hitems := Value.wellFormed_array.1 hc
      obtain ⟨literals, hbinds, huses⟩ := registerList_spec h hitems
      refine ⟨_, .overlap negated hbinds, Form.spells_overlap, huses, fun v hv => ?_⟩
      rw [Test.holds, Condition.holds, Value.overlapsWith_congr hv hv (Value.beq_refl hv)
        (hbinds.contains_eq hitems) hbinds.any_text_eq]
    · have hoperand : ∀ items, operand ≠ .array items := fun items he => harray ⟨items, he⟩
      obtain ⟨token, hcompiles⟩ := literal_compiles h hc (Expresses.single negated hoperand)
        Form.spells_inclusion (fun _ => rfl) fun {literal} hw heq v hv => by
          rw [Condition.holds_overlap hoperand, ← Value.includes_congr hv hv hw hc
            (Value.beq_refl hv) heq (.overlap negated)]
          exact (rfl : (Test.inclusion negated (.overlap negated) literal).holds v = _)
      rw [test_overlap hoperand]
      exact ⟨_, hcompiles⟩

end Context

end RecordQuery

import RecordQuery.Proofs.Filter.Program

/-!
# The source determines the filter

Filters with the same source and equal slots fit the same records (`fits_alike_of_source_eq`), and
fail on the same records for the same reason. The sources are the texts of one program, which has
one reading, and one form expresses only conditions that are judged alike (`Expresses.alike`): they
are the same up to equal operands, but for an overlap with a single value, which is written as an
inclusion.
-/

namespace RecordQuery

open Source

/-- An inclusion has the same verdict for every operator, but for the operator in the error. -/
theorem Value.includes_alike (v operand : Value) (o o' : Operator) :
    Verdict.Alike (v.includes o operand) (v.includes o' operand) := by
  cases v with
  | array | string => exact .ok _
  | undefined | null | bool | number | bigint | regex | object =>
    exact .error (.notIncludable o o' _)

namespace Context

variable {context other : Context} {parts : List Fragment}

/-- The contexts are valid, carry the same fragments, and have equal slots. -/
structure Matches (context other : Context) (parts : List Fragment) : Prop where
  valid : context.Valid
  valid' : other.Valid
  carries : context.Carries parts
  carries' : other.Carries parts
  slots : List.Forall₂ (fun v w => (v == w) = true) context.slots other.slots

/-- Values that a literal denotes in matching contexts are equal. -/
theorem Matches.beq (h : Matches context other parts) {token : Token} {v w : Value}
    (hv : v.WellFormed) (hw : w.WellFormed) (hd : context.Denotes token v)
    (hd' : other.Denotes token w) : (v == w) = true :=
  Denotes.beq h.valid.slot h.valid'.slot h.slots hv hw hd hd'

/-- Values that a list of literals denotes in matching contexts are equal one by one. -/
theorem Matches.forall₂_beq (h : Matches context other parts) {literals : List Token}
    {vs ws : List Value} (hv : ∀ v ∈ vs, v.WellFormed) (hw : ∀ w ∈ ws, w.WellFormed)
    (hd : List.Forall₂ context.Denotes literals vs) (hd' : List.Forall₂ other.Denotes literals ws) :
    List.Forall₂ (fun v w => (v == w) = true) vs ws :=
  Value.forall₂_trans_of_mem hd.flip hd' fun v hmem _ _ w hmem' hvd hwd =>
    h.beq (hv v hmem) (hw w hmem') hvd hwd

/-- Sets that are bound in one place of matching contexts are of values that are equal one by one.
-/
theorem Matches.forall₂_beq_of_binds (h : Matches context other parts) {index : Nat}
    {set set' : ValueSet} {literals literals' : List Token} {vs ws : List Value}
    (hv : ∀ v ∈ vs, v.WellFormed) (hw : ∀ w ∈ ws, w.WellFormed)
    (hb : Binds context ⟨index, set⟩ literals vs) (hb' : Binds other ⟨index, set'⟩ literals' ws) :
    List.Forall₂ (fun v w => (v == w) = true) vs ws := by
  have hpart := hb.part h.carries
  rw [hb'.part h.carries'] at hpart
  cases hpart
  exact h.forall₂_beq hv hw hb.denotes hb'.denotes

/-- Conditions that one form expresses in matching contexts are judged alike. -/
theorem Expresses.alike (h : Matches context other parts) {path : Path} {form : Form}
    {c c' : Condition} (hc : c.WellFormed) (hc' : c'.WellFormed)
    (hform : context.Expresses path form c) (hform' : other.Expresses path form c') {v : Value}
    (hv : v.WellFormed) : Verdict.Alike (c.holds v) (c'.holds v) := by
  have hrefl : (v == v) = true := Value.beq_refl hv
  have hsame : Condition.Same c c' → Verdict.Alike (c.holds v) (c'.holds v) := by
    intro hsame
    rw [Condition.holds_congr hc hc' hv hv hsame hrefl]
    exact .refl _
  have hincludes : ∀ {negated : Bool} {o o' : Operator} {x y : Value}, x.WellFormed →
      y.WellFormed → (x == y) = true → Verdict.Alike ((v.includes o x).negateIf negated)
        ((v.includes o' y).negateIf negated) := by
    intro _ _ _ _ _ hx hy hxy
    rw [Value.includes_congr hv hv hx hy hrefl hxy]
    exact (Value.includes_alike v _ _ _).negateIf _
  cases hform with
  | equality negated hd =>
    cases hform' with
    | equality _ hd' => exact hsame (.equality negated (h.beq hc hc' hd hd'))
  | relation r hd =>
    cases hform' with
    | relation _ hd' => exact hsame (.relation r (h.beq hc hc' hd hd'))
  | existence expected =>
    cases hform' with
    | existence => exact hsame (.existence expected)
  | pattern negated hd =>
    cases hform' with
    | pattern _ hd' =>
      have hregex := h.beq (Value.wellFormed_regex _) (Value.wellFormed_regex _) hd hd'
      cases Value.beq_iff_same.1 hregex
      exact hsame (.pattern negated _)
  | inclusion negated hd =>
    cases hform' with
    | inclusion _ hd' => exact hsame (.inclusion negated (h.beq hc hc' hd hd'))
    | single _ hoperand hd' =>
      rw [Condition.holds_overlap hoperand]
      exact hincludes hc hc' (h.beq hc hc' hd hd')
  | bits negated mask =>
    cases hform' with
    | bits => exact hsame (.bits negated mask)
  | type negated name =>
    cases hform' with
    | type => exact hsame (.type negated name)
  | membership negated hb =>
    cases hform' with
    | membership _ hb' => exact hsame (.membership negated (h.forall₂_beq_of_binds hc hc' hb hb'))
  | subset negated hb =>
    cases hform' with
    | subset _ hb' => exact hsame (.subset negated (h.forall₂_beq_of_binds hc hc' hb hb'))
  | superset negated hd =>
    cases hform' with
    | superset _ hd' => exact hsame (.superset negated (h.forall₂_beq hc hc' hd hd'))
  | overlap negated hb =>
    cases hform' with
    | overlap _ hb' =>
      have hitems := h.forall₂_beq_of_binds (Value.wellFormed_array.1 hc)
        (Value.wellFormed_array.1 hc') hb hb'
      exact hsame (.overlap negated (Value.beq_iff_same.2 (.array hitems)))
  | single negated hoperand hd =>
    cases hform' with
    | single _ _ hd' => exact hsame (.overlap negated (h.beq hc hc' hd hd'))
    | inclusion _ hd' =>
      rw [Condition.holds_overlap hoperand]
      exact hincludes hc hc' (h.beq hc hc' hd hd')

/-- Matching contexts judge every test alike. -/
theorem Matches.judgeAlike (h : Matches context other parts) {root : Value}
    (hroot : root.WellFormed) : JudgeAlike (context.Judges root) (other.Judges root) := by
  rintro path form _ _ ⟨c, hc, hform, rfl⟩ ⟨c', hc', hform', rfl⟩
  exact hform.alike h hc hc' hform' (Path.wellFormed_partOf hroot path)

end Context

namespace Filter

open Context

/-- Written filters with the same source and equal slots fit alike. -/
theorem Written.alike {filter filter' : Filter} {conditions conditions' : List (Path × Condition)}
    {parts parts' : List Fragment} {level? level?' : Option (List Term)}
    (h : Written filter conditions parts level?) (h' : Written filter' conditions' parts' level?')
    (hsource : filter.source = filter'.source)
    (hslots : List.Forall₂ (fun v w => (v == w) = true) filter.context.slots filter'.context.slots)
    {record : Value} (hrecord : record.WellFormed) :
    Verdict.Alike (filter.fits record) (filter'.fits record) := by
  have hprogram : render (program (bodiesOf parts) (expressionOf level?)) =
      render (program (bodiesOf parts') (expressionOf level?')) := by
    rw [← h.source, hsource, h'.source]
  obtain ⟨rfl, hexpression⟩ := preamble_inj h.carries.valid h'.carries.valid
    (render_injective h.readable h'.readable hprogram)
  have hlevel : level? = level?' := expressionOf_inj
    (fun level hl => ⟨(h.states level hl).1, (h.states level hl).2.proper, h.legible level hl⟩)
    (fun level hl => ⟨(h'.states level hl).1, (h'.states level hl).2.proper, h'.legible level hl⟩)
    hexpression
  subst hlevel
  cases level? with
  | none =>
    rw [h.nothing rfl, h'.nothing rfl]
    exact .refl _
  | some level =>
    have hmatches : Matches filter.context filter'.context parts :=
      ⟨h.valid, h'.valid, h.carries, h'.carries, hslots⟩
    exact (h.judged level rfl record hrecord).alike (hmatches.judgeAlike hrecord)
      (h'.judged level rfl record hrecord)

/-- Every filter that is specified is written. -/
theorem exists_written_of_ofSpecification {limit : Nat} {spec : Value} {filter : Filter}
    (hspec : spec.WellFormed) (h : ofSpecification limit spec = .ok filter) :
    ∃ conditions parts level?, Written filter conditions parts level? := by
  rcases ofSpecification_spec h with ⟨_, rfl⟩ | ⟨query, hasks, rfl⟩
  · exact ⟨_, _, _, written_nothing⟩
  · obtain ⟨parts, level, hwritten⟩ := exists_written (hasks.takenFrom hspec).1
    exact ⟨_, _, _, hwritten⟩

/-- Filters with the same source, and with slots that are equal one by one, fit the same records,
and fail on a record with the same error but for the operator that it names. -/
theorem fits_alike_of_source_eq {limit limit' : Nat} {spec spec' : Value} {filter filter' : Filter}
    (hspec : spec.WellFormed) (hspec' : spec'.WellFormed)
    (h : ofSpecification limit spec = .ok filter) (h' : ofSpecification limit' spec' = .ok filter')
    (hsource : filter.source = filter'.source)
    (hslots : List.Forall₂ (fun v w => (v == w) = true) filter.context.slots filter'.context.slots)
    {record : Value} (hrecord : record.WellFormed) :
    Verdict.Alike (filter.fits record) (filter'.fits record) := by
  obtain ⟨_, _, _, hwritten⟩ := exists_written_of_ofSpecification hspec h
  obtain ⟨_, _, _, hwritten'⟩ := exists_written_of_ofSpecification hspec' h'
  exact hwritten.alike hwritten' hsource hslots hrecord

/-- An inclusion and an overlap with a single value have one source, and slots for objects that
differ in the sign of a zero. -/
theorem fits_alike_of_source_eq_of_single :
    let operand (negative : Bool) : Value := .object [("k", .number (.signedZero negative))]
    let spec : Value := .object [("a", .object [("$con", operand false)])]
    let spec' : Value := .object [("a", .object [("$incl", operand true)])]
    ∃ filter filter', ofSpecification 1 spec = .ok filter ∧ ofSpecification 1 spec' = .ok filter' ∧
      filter.source = filter'.source ∧
      ∀ record : Value, record.WellFormed →
        Verdict.Alike (filter.fits record) (filter'.fits record) := by
  intro operand spec spec'
  have hspec : spec.WellFormed := by
    simp [spec, operand, Value.WellFormed, Value.WellFormedFields]
  have hspec' : spec'.WellFormed := by
    simp [spec', operand, Value.WellFormed, Value.WellFormedFields]
  have hfilter : ofSpecification 1 spec = .ok _ := rfl
  have hfilter' : ofSpecification 1 spec' = .ok _ := rfl
  have hslots : List.Forall₂ (fun v w => (v == w) = true) [operand false] [operand true] :=
    .cons (by decide) .nil
  refine ⟨_, _, hfilter, hfilter', rfl, fun record hrecord => ?_⟩
  exact fits_alike_of_source_eq hspec hspec' hfilter hfilter' rfl hslots hrecord

end Filter

end RecordQuery

import RecordQuery.Proofs.Query.OfSpecification
import RecordQuery.Proofs.Value.Congruence
import RecordQuery.Query.Meaning

/-!
# Verdicts on equal values

No condition tells equal values apart, neither as the value under test nor as its operand:
`Condition.holds_congr` says that conditions whose operands are equal have the same verdict, errors
included, on equal values. It rests on one such statement for each sort of condition.
-/

namespace RecordQuery

namespace Value

variable {v v' w w' : Value}

/-- Equal values lie so to equal operands. -/
theorem related_congr (h : (v == v') = true) (h' : (w == w') = true) (r : Relation) :
    v.related r w = v'.related r w' := by
  rw [related, order?_congr h h', ← related]

/-- Equal values exist alike. -/
theorem existsAs_congr (h : (v == v') = true) (expected : Bool) :
    v.existsAs expected = v'.existsAs expected := by
  rw [existsAs, isNullish_congr h, ← existsAs]

/-- Equal values match the same patterns. -/
theorem matchesPattern_congr (h : (v == v') = true) (p : Pattern) :
    v.matchesPattern p = v'.matchesPattern p := by
  rw [matchesPattern, text_congr h, ← matchesPattern]

/-- Equal values are of the same types. -/
theorem isOfType_congr (h : (v == v') = true) (name : String) :
    v.isOfType name = v'.isOfType name := by
  rw [isOfType, kind_congr h, ← isOfType]

/-- Equal values have the same bits. -/
theorem hasBits_congr (h : (v == v') = true) (operator : Operator) (mask : Int32) :
    v.hasBits operator mask = v'.hasBits operator mask := by
  have hbits : v.toNumber.toInt32 = v'.toNumber.toInt32 := Number.toInt32_congr (toNumber_congr h)
  cases beq_iff_same.1 h with
  | bigint => rfl
  | undefined | null | bool | number | string | regex | array | object =>
    simp only [hasBits, hbits]

/-- A property that equal values share holds of all of equal items alike. -/
theorem all_congr {xs ys : List Value} {f g : Value → Bool}
    (h : List.Forall₂ (fun x y => (x == y) = true) xs ys)
    (hfg : ∀ x ∈ xs, ∀ y ∈ ys, (x == y) = true → f x = g y) : xs.all f = ys.all g := by
  induction h with
  | nil => rfl
  | cons hxy _ ih =>
    rw [List.all_cons, List.all_cons, hfg _ (.head _) _ (.head _) hxy,
      ih fun x hx y hy => hfg x (.tail _ hx) y (.tail _ hy)]

/-- A property that equal values share holds of some of equal items alike. -/
theorem any_congr {xs ys : List Value} {f g : Value → Bool}
    (h : List.Forall₂ (fun x y => (x == y) = true) xs ys)
    (hfg : ∀ x ∈ xs, ∀ y ∈ ys, (x == y) = true → f x = g y) : xs.any f = ys.any g := by
  induction h with
  | nil => rfl
  | cons hxy _ ih =>
    rw [List.any_cons, List.any_cons, hfg _ (.head _) _ (.head _) hxy,
      ih fun x hx y hy => hfg x (.tail _ hx) y (.tail _ hy)]

/-- Equal values include equal operands alike. -/
theorem includes_congr (hv : v.WellFormed) (hv' : v'.WellFormed) (hw : w.WellFormed)
    (hw' : w'.WellFormed) (h : (v == v') = true) (h' : (w == w') = true) (operator : Operator) :
    v.includes operator w = v'.includes operator w' := by
  have htext := text_congr h'
  cases beq_iff_same.1 h with
  | array hitems =>
    rw [wellFormed_array] at hv hv'
    simp only [includes, any_beq_congr hv hv' hw hw' hitems h']
  | string => simp only [includes, htext]
  | undefined | null | bool | number | bigint | regex | object => rfl

/-- Membership tests that agree on equal values have the same verdict on all items of equal
values. -/
theorem allItemsIn_congr (hv : v.WellFormed) (hv' : v'.WellFormed) (h : (v == v') = true)
    {f g : Value → Bool}
    (hfg : ∀ {x y : Value}, x.WellFormed → y.WellFormed → (x == y) = true → f x = g y)
    (operator : Operator) : v.allItemsIn operator f = v'.allItemsIn operator g := by
  cases beq_iff_same.1 h with
  | array hitems =>
    rw [wellFormed_array] at hv hv'
    simp only [allItemsIn, all_congr hitems fun x hx y hy => hfg (hv x hx) (hv' y hy)]
  | undefined | null | bool | number | bigint | string | regex | object => rfl

/-- Membership tests that agree on equal values, with members that have the same texts, have the
same verdict on overlaps of equal values. -/
theorem overlapsWith_congr (hv : v.WellFormed) (hv' : v'.WellFormed) (h : (v == v') = true)
    {f g : Value → Bool}
    (hfg : ∀ {x y : Value}, x.WellFormed → y.WellFormed → (x == y) = true → f x = g y)
    {xs ys : List Value}
    (htexts : ∀ s : String, (xs.any fun x => Text.occursIn x.text s) =
      ys.any fun y => Text.occursIn y.text s) (operator : Operator) :
    v.overlapsWith operator f xs = v'.overlapsWith operator g ys := by
  cases beq_iff_same.1 h with
  | array hitems =>
    rw [wellFormed_array] at hv hv'
    simp only [overlapsWith, any_congr hitems fun x hx y hy => hfg (hv x hx) (hv' y hy)]
  | string => simp only [overlapsWith, htexts]
  | undefined | null | bool | number | bigint | regex | object => rfl

/-- Equal values have equal elements, or the same error. -/
theorem elements_congr (hv : v.WellFormed) (hv' : v'.WellFormed) (h : (v == v') = true)
    (operator : Operator) :
    (∃ xs ys, v.elements operator = .ok xs ∧ v'.elements operator = .ok ys ∧
      (∀ x ∈ xs, x.WellFormed) ∧ (∀ y ∈ ys, y.WellFormed) ∧
      List.Forall₂ (fun x y => (x == y) = true) xs ys) ∨
    ∃ e, v.elements operator = .error e ∧ v'.elements operator = .error e := by
  have hrefl : ∀ xs : List Value, (∀ x ∈ xs, x.WellFormed) →
      List.Forall₂ (fun x y => (x == y) = true) xs xs := fun xs hx =>
    List.forall₂_same.2 fun x hmem => beq_refl (hx x hmem)
  cases beq_iff_same.1 h with
  | array hitems =>
    rw [wellFormed_array] at hv hv'
    exact .inl ⟨_, _, rfl, rfl, hv, hv', hitems⟩
  | string s =>
    have hchars : ∀ x ∈ s.toList.map fun c => string (String.ofList [c]), x.WellFormed := by
      intro x hx
      obtain ⟨c, _, rfl⟩ := List.mem_map.1 hx
      exact wellFormed_string _
    exact .inl ⟨_, _, rfl, rfl, hchars, hchars, hrefl _ hchars⟩
  | undefined | null => exact .inl ⟨_, _, rfl, rfl, nofun, nofun, .nil⟩
  | bool | number | bigint | regex | object => exact .inr ⟨_, rfl, rfl⟩

end Value

namespace Condition

/-- The conditions are of one sort and have equal operands. -/
inductive Same : Condition → Condition → Prop
  | equality (negated : Bool) {v w : Value} (h : (v == w) = true) :
    Same (equality negated v) (equality negated w)
  | relation (r : Relation) {v w : Value} (h : (v == w) = true) : Same (relation r v) (relation r w)
  | existence (expected : Bool) : Same (existence expected) (existence expected)
  | pattern (negated : Bool) (p : Pattern) : Same (pattern negated p) (pattern negated p)
  | inclusion (negated : Bool) {v w : Value} (h : (v == w) = true) :
    Same (inclusion negated v) (inclusion negated w)
  | bits (negated : Bool) (mask : Int32) : Same (bits negated mask) (bits negated mask)
  | type (negated : Bool) (name : String) : Same (type negated name) (type negated name)
  | membership (negated : Bool) {xs ys : List Value}
    (h : List.Forall₂ (fun x y => (x == y) = true) xs ys) :
    Same (membership negated xs) (membership negated ys)
  | subset (negated : Bool) {xs ys : List Value}
    (h : List.Forall₂ (fun x y => (x == y) = true) xs ys) :
    Same (subset negated xs) (subset negated ys)
  | superset (negated : Bool) {xs ys : List Value}
    (h : List.Forall₂ (fun x y => (x == y) = true) xs ys) :
    Same (superset negated xs) (superset negated ys)
  | overlap (negated : Bool) {v w : Value} (h : (v == w) = true) :
    Same (overlap negated v) (overlap negated w)

/-- A condition with well-formed operands is the same as itself. -/
theorem Same.refl {c : Condition} (hc : c.WellFormed) : Same c c := by
  have hitems : ∀ {xs : List Value}, (∀ x ∈ xs, x.WellFormed) →
      List.Forall₂ (fun x y => (x == y) = true) xs xs := fun hx =>
    List.forall₂_same.2 fun x hmem => Value.beq_refl (hx x hmem)
  cases c with
  | equality negated => exact .equality negated (Value.beq_refl hc)
  | relation r => exact .relation r (Value.beq_refl hc)
  | existence expected => exact .existence expected
  | pattern negated p => exact .pattern negated p
  | inclusion negated => exact .inclusion negated (Value.beq_refl hc)
  | bits negated mask => exact .bits negated mask
  | type negated name => exact .type negated name
  | membership negated => exact .membership negated (hitems hc)
  | subset negated => exact .subset negated (hitems hc)
  | superset negated => exact .superset negated (hitems hc)
  | overlap negated => exact .overlap negated (Value.beq_refl hc)

/-- A condition whose operand is one value for overlap holds as an inclusion does. -/
theorem holds_overlap {negated : Bool} {operand : Value} (h : ∀ items, operand ≠ .array items)
    (v : Value) : (overlap negated operand).holds v =
      (v.includes (.overlap negated) operand).negateIf negated := by
  cases operand with
  | array items => exact absurd rfl (h items)
  | undefined | null | bool | number | bigint | string | regex | object => rfl

/-- Conditions with equal operands have the same verdict on equal values. -/
theorem holds_congr {c c' : Condition} {v v' : Value} (hc : c.WellFormed) (hc' : c'.WellFormed)
    (hv : v.WellFormed) (hv' : v'.WellFormed) (h : Same c c') (hvv : (v == v') = true) :
    c.holds v = c'.holds v' := by
  cases h with
  | equality negated h => rw [holds, holds, Value.strictEquals_congr hv hv' hc hc' hvv h]
  | relation r h => rw [holds, holds, Value.related_congr hvv h]
  | existence expected => rw [holds, holds, Value.existsAs_congr hvv]
  | pattern negated p => rw [holds, holds, Value.matchesPattern_congr hvv]
  | inclusion negated h => rw [holds, holds, Value.includes_congr hv hv' hc hc' hvv h]
  | bits negated mask => rw [holds, holds, Value.hasBits_congr hvv]
  | type negated name => rw [holds, holds, Value.isOfType_congr hvv]
  | membership negated h => rw [holds, holds, Value.any_beq_congr hc hc' hv hv' h hvv]
  | subset negated h =>
    rw [holds, holds, Value.allItemsIn_congr hv hv' hvv fun hx hy hxy =>
      Value.any_beq_congr hc hc' hx hy h hxy]
  | superset negated h =>
    rw [holds, holds]
    rcases Value.elements_congr hv hv' hvv (.superset negated) with
      ⟨xs, ys, hxs, hys, hx, hy, hxy⟩ | ⟨e, he, he'⟩
    · rw [hxs, hys]
      simp only [Value.all_congr h fun a ha b hb hab =>
        Value.any_beq_congr hx hy (hc a ha) (hc' b hb) hxy hab]
    · rw [he, he']
  | @overlap negated a b h =>
    by_cases harray : ∃ items, a = .array items
    · obtain ⟨xs, rfl⟩ := harray
      cases Value.beq_iff_same.1 h with
      | @array _ ys hitems =>
        have hx := Value.wellFormed_array.1 hc
        have hy := Value.wellFormed_array.1 hc'
        rw [holds, holds, Value.overlapsWith_congr hv hv' hvv fun ha hb hab =>
          Value.any_beq_congr hx hy ha hb hitems hab]
        exact fun s => Value.any_congr hitems fun x _ y _ hxy => by rw [Value.text_congr hxy]
    · have ha : ∀ items, a ≠ .array items := fun items he => harray ⟨items, he⟩
      have hb : ∀ items, b ≠ .array items := by
        intro items he
        subst he
        cases Value.beq_iff_same.1 h with
        | array => exact ha _ rfl
      rw [holds_overlap ha, holds_overlap hb, Value.includes_congr hv hv' hc hc' hvv h]

end Condition

namespace Clause

mutual
/-- A clause has the same verdict on equal values. -/
theorem holds_congr {v v' : Value} (hv : v.WellFormed) (hv' : v'.WellFormed)
    (h : (v == v') = true) :
    ∀ {clause : Clause Condition}, clause.WellFormed →
      clause.holds Condition.holds v = clause.holds Condition.holds v'
  | condition _, hw => Condition.holds_congr hw hw hv hv' (.refl hw) h
  | logic .and _, hw => everyQueryHolds_congr hv hv' h hw.2
  | logic .or _, hw => someQueryHolds_congr hv hv' h hw.2
  | logic .nor _, hw =>
    congrArg (Verdict.negateIf true) (someQueryHolds_congr hv hv' h hw.2)
  | logic .nand _, hw =>
    congrArg (Verdict.negateIf true) (everyQueryHolds_congr hv hv' h hw.2)
  | field key _, hw =>
    allHold_congr (Value.wellFormed_get hv key) (Value.wellFormed_get hv' key)
      (Value.get_congr hv hv' h key) hw

/-- Clauses have the same verdict on equal values. -/
theorem allHold_congr {v v' : Value} (hv : v.WellFormed) (hv' : v'.WellFormed)
    (h : (v == v') = true) :
    ∀ {clauses : List (Clause Condition)}, WellFormedLevel clauses →
      allHold Condition.holds clauses v = allHold Condition.holds clauses v'
  | [], _ => rfl
  | _ :: _, hw => congrArg₂ Verdict.both (holds_congr hv hv' h hw.1) (allHold_congr hv hv' h hw.2)

/-- Queries that are all to hold have the same verdict on equal values. -/
theorem everyQueryHolds_congr {v v' : Value} (hv : v.WellFormed) (hv' : v'.WellFormed)
    (h : (v == v') = true) :
    ∀ {queries : List (List (Clause Condition))}, WellFormedQueries queries →
      everyQueryHolds Condition.holds queries v = everyQueryHolds Condition.holds queries v'
  | [], _ => rfl
  | _ :: _, hw =>
    congrArg₂ Verdict.both (allHold_congr hv hv' h hw.1) (everyQueryHolds_congr hv hv' h hw.2)

/-- Queries one of which is to hold have the same verdict on equal values. -/
theorem someQueryHolds_congr {v v' : Value} (hv : v.WellFormed) (hv' : v'.WellFormed)
    (h : (v == v') = true) :
    ∀ {queries : List (List (Clause Condition))}, WellFormedQueries queries →
      someQueryHolds Condition.holds queries v = someQueryHolds Condition.holds queries v'
  | [], _ => rfl
  | _ :: _, hw =>
    congrArg₂ Verdict.either (allHold_congr hv hv' h hw.1) (someQueryHolds_congr hv hv' h hw.2)
end

end Clause

end RecordQuery

import Mathlib.Data.List.Forall2
import RecordQuery.Value.Equality
import RecordQuery.Value.Access

/-!
# Values by their elements

A value is a tree whose arrays and objects hold further values, and the functions on values recurse
through the lists of items and of fields. Here those list recursions are read element by element:
`Value.induct` is induction with one hypothesis for every item and every field, `wellFormed_array`
and `wellFormed_object` say what well-formedness asks of the elements, and `beq_iff_same` lists
the ways in which two values can be equal.
-/

namespace RecordQuery.Value

/-! ## Induction -/

/-- Induction on values, with a hypothesis for every item of an array and every field of an
object. -/
@[elab_as_elim]
theorem induct {motive : Value → Prop}
    (undefined : motive .undefined) (null : motive .null) (bool : ∀ b, motive (.bool b))
    (number : ∀ n, motive (.number n)) (bigint : ∀ n, motive (.bigint n))
    (string : ∀ s, motive (.string s)) (regex : ∀ p, motive (.regex p))
    (array : ∀ items, (∀ v ∈ items, motive v) → motive (.array items))
    (object : ∀ fields, (∀ field ∈ fields, motive field.2) → motive (.object fields)) (v : Value) :
    motive v :=
  @Value.rec motive (fun items => ∀ v ∈ items, motive v)
    (fun fields => ∀ field ∈ fields, motive field.2) (fun field => motive field.2)
    undefined null bool number bigint string regex array object
    (fun _ h => nomatch h)
    (fun _ _ hd tl v hv => by
      rcases List.mem_cons.1 hv with rfl | hv
      · exact hd
      · exact tl v hv)
    (fun _ h => nomatch h)
    (fun _ _ hd tl field hf => by
      rcases List.mem_cons.1 hf with rfl | hf
      · exact hd
      · exact tl field hf)
    (fun _ _ h => h) v

/-! ## Well-formedness -/

/-- Items are well formed when each of them is. -/
theorem wellFormedItems_iff {items : List Value} :
    WellFormedItems items ↔ ∀ v ∈ items, v.WellFormed := by
  induction items with
  | nil => simp [WellFormedItems]
  | cons v rest ih => simp [WellFormedItems, ih]

/-- Fields are well formed when the value of each of them is. -/
theorem wellFormedFields_iff {fields : List (String × Value)} :
    WellFormedFields fields ↔ ∀ field ∈ fields, field.2.WellFormed := by
  induction fields with
  | nil => simp [WellFormedFields]
  | cons field rest ih =>
    obtain ⟨key, v⟩ := field
    rw [WellFormedFields, ih, List.forall_mem_cons]

/-- An array is well formed when its items are. -/
@[simp] theorem wellFormed_array {items : List Value} :
    (array items).WellFormed ↔ ∀ v ∈ items, v.WellFormed := by
  rw [WellFormed, wellFormedItems_iff]

/-- An object is well formed when its keys are distinct and the values of its fields are well
formed. -/
@[simp] theorem wellFormed_object {fields : List (String × Value)} :
    (object fields).WellFormed ↔
      (Fields.keys fields).Nodup ∧ ∀ field ∈ fields, field.2.WellFormed := by
  rw [WellFormed, wellFormedFields_iff, Fields.keys]

@[simp] theorem wellFormed_undefined : undefined.WellFormed := trivial
@[simp] theorem wellFormed_null : null.WellFormed := trivial
@[simp] theorem wellFormed_bool (b : Bool) : (bool b).WellFormed := trivial
@[simp] theorem wellFormed_number (n : Number) : (number n).WellFormed := trivial
@[simp] theorem wellFormed_bigint (n : BigInt) : (bigint n).WellFormed := trivial
@[simp] theorem wellFormed_string (s : String) : (string s).WellFormed := trivial
@[simp] theorem wellFormed_regex (p : Pattern) : (regex p).WellFormed := trivial

/-! ## Equality -/

/-- Items are equal when they are equal one by one. -/
theorem sameItems_iff {xs ys : List Value} :
    sameItems xs ys = true ↔ List.Forall₂ (fun x y => (x == y) = true) xs ys := by
  induction xs generalizing ys with
  | nil => cases ys <;> simp [sameItems]
  | cons x rest ih =>
    cases ys with
    | nil => simp [sameItems]
    | cons y others =>
      rw [sameItems, Bool.and_eq_true, ih, List.forall₂_cons]
      rfl

/-- Fields are found among others when each of them has an equal one under its key. -/
theorem sameFields_iff {xs ys : List (String × Value)} :
    sameFields xs ys = true ↔
      ∀ field ∈ xs, ∃ w, ys.lookup field.1 = some w ∧ (field.2 == w) = true := by
  induction xs with
  | nil => simp [sameFields]
  | cons field rest ih =>
    obtain ⟨key, v⟩ := field
    rw [sameFields, Bool.and_eq_true, ih, List.forall_mem_cons]
    refine and_congr_left fun _ => ?_
    cases ys.lookup key with
    | none => simp
    | some w => simp [BEq.beq]

/-- The ways in which two values are equal. -/
inductive Same : Value → Value → Prop
  | undefined : Same undefined undefined
  | null : Same null null
  | bool (b : Bool) : Same (bool b) (bool b)
  | number {a b : Number} (h : a.sameValueZero b = true) : Same (number a) (number b)
  | bigint (n : BigInt) : Same (bigint n) (bigint n)
  | string (s : String) : Same (string s) (string s)
  | regex (p : Pattern) : Same (regex p) (regex p)
  | array {xs ys : List Value} (h : List.Forall₂ (fun x y => (x == y) = true) xs ys) :
    Same (array xs) (array ys)
  | object {xs ys : List (String × Value)} (length : xs.length = ys.length)
    (h : ∀ field ∈ xs, ∃ w, ys.lookup field.1 = some w ∧ (field.2 == w) = true) :
    Same (object xs) (object ys)

/-- Two values are equal in one of the ways listed. -/
theorem beq_iff_same {a b : Value} : (a == b) = true ↔ Same a b := by
  change a.same b = true ↔ Same a b
  constructor
  · intro h
    cases a <;> cases b <;> simp only [same, Bool.false_eq_true] at h
    case undefined.undefined => exact .undefined
    case null.null => exact .null
    case bool.bool => exact eq_of_beq h ▸ .bool _
    case number.number => exact .number h
    case bigint.bigint => exact eq_of_beq h ▸ .bigint _
    case string.string => exact eq_of_beq h ▸ .string _
    case regex.regex => exact eq_of_beq h ▸ .regex _
    case array.array => exact .array (sameItems_iff.1 h)
    case object.object =>
      rw [Bool.and_eq_true] at h
      exact .object (eq_of_beq h.1) (sameFields_iff.1 h.2)
  · intro h
    cases h with
    | undefined | null => rfl
    | bool | bigint | string | regex => exact beq_self_eq_true _
    | number h => exact h
    | array h => exact sameItems_iff.2 h
    | object length h =>
      rw [same, Bool.and_eq_true]
      exact ⟨beq_iff_eq.2 length, sameFields_iff.2 h⟩

end RecordQuery.Value

import RecordQuery.Proofs.Ranking.StableSort
import RecordQuery.Proofs.Number.Sign
import RecordQuery.Value.Order

/-!
# The order of values

Comparing two values the other way round reverses the answer, whatever they are (`order?_swap`).
Beyond that the order is one of families: texts, wide integers, numbers, and what is not ordered at
all. Among the values of a family it is a total preorder if those without order are taken to tie
(`preordersOn_order`); across families it is not transitive.
-/

namespace RecordQuery

/-! ## The other way round -/

/-- Numbers compare the other way round in reverse. -/
theorem Number.order?_swap (x y : Number) : y.order? x = (x.order? y).map Ordering.swap := by
  rw [order?, order?]
  cases x.rank? with
  | none => cases y.rank? <;> rfl
  | some r =>
    cases y.rank? with
    | none => rfl
    | some s => exact congrArg some Std.OrientedCmp.eq_swap

/-- Primitives compare the other way round in reverse. -/
theorem Primitive.order?_swap (p q : Primitive) : q.order? p = (p.order? q).map Ordering.swap := by
  -- beside a wide integer a text is read as one, if it can be
  have hread : ∀ (f g : BigInt → Ordering) (read : Option BigInt), (∀ n, f n = (g n).swap) →
      read.map f = (read.map g).map Ordering.swap := by
    intro f g read h
    cases read with
    | none => rfl
    | some n => exact congrArg some (h n)
  cases p with
  | text a =>
    cases q with
    | text b => exact congrArg some Std.OrientedCmp.eq_swap
    | number => simpa only [order?] using Number.order?_swap _ _
    | bigint b => exact hread _ _ (bigint? a) fun _ => Std.OrientedCmp.eq_swap
  | number =>
    cases q with
    | text | number | bigint => simpa only [order?] using Number.order?_swap _ _
  | bigint a =>
    cases q with
    | text b => exact hread _ _ (bigint? b) fun _ => Std.OrientedCmp.eq_swap
    | number => simpa only [order?] using Number.order?_swap _ _
    | bigint b => exact congrArg some Std.OrientedCmp.eq_swap

/-- Values compare the other way round in reverse. -/
theorem Value.order?_swap (x y : Value) : y.order? x = (x.order? y).map Ordering.swap :=
  Primitive.order?_swap _ _

/-! ## Families -/

/-- What a value is compared with as one of its kind. -/
inductive Family where
  /-- Texts and what is compared by its text. -/
  | text
  /-- Numbers and what is compared as one. -/
  | number
  /-- Wide integers. -/
  | bigint
  /-- Not-a-number, which has no order. -/
  | unordered
deriving DecidableEq

namespace Primitive

/-- The family of a primitive. -/
def family : Primitive → Family
  | text _ => .text
  | number .nan => .unordered
  | number _ => .number
  | bigint _ => .bigint

/-- A number is of the ordered family if it has a rank. -/
theorem family_number (n : Number) :
    (number n).family = if n.rank?.isNone then .unordered else .number := by
  cases n <;> rfl

/-- The text that is compared, which is empty unless the primitive is one. -/
def ownText : Primitive → String
  | text s => s
  | _ => ""

/-- The integer that is compared, which is zero unless the primitive has one. -/
def place : Primitive → Int
  | text _ => 0
  | number n => n.rank?.getD 0
  | bigint n => n.val

/-- Primitives of a family compare by their texts and places. -/
theorem order?_of_family_eq {p q : Primitive} (h : p.family = q.family) :
    (p.order? q).getD .eq =
      (compare p.ownText q.ownText).then (compare p.place q.place) := by
  have htie : compare "" "" = .eq := Std.ReflCmp.compare_self
  cases p with
  | text a =>
    cases q with
    | text b => exact Ordering.then_eq.symm
    | number m => cases m <;> cases h
    | bigint => cases h
  | number n =>
    cases q with
    | text => cases n <;> cases h
    | number m =>
      simp only [family_number] at h
      simp only [order?, toNumber, Number.order?, ownText, place, htie, Ordering.then]
      cases hn : n.rank? with
      | none =>
        cases hm : m.rank? with
        | none => rfl
        | some s => simp [hn, hm] at h
      | some r =>
        cases hm : m.rank? with
        | none => simp [hn, hm] at h
        | some s => rfl
    | bigint => cases n <;> cases h
  | bigint a =>
    cases q with
    | text => cases h
    | number m => cases m <;> cases h
    | bigint b => simp only [order?, ownText, place, htie, Option.getD_some, Ordering.then]

/-- The order of the primitives of elements is a total preorder of elements of one family. -/
theorem preordersOn_order {α : Type} {p : α → Prop} (key : α → Primitive)
    (h : ∀ x y, p x → p y → (key x).family = (key y).family) :
    PreordersOn (fun x y => ((key x).order? (key y)).getD .eq) p := by
  have htext := PreordersOn.of_key (fun x => (key x).ownText) p
  have hplace := PreordersOn.of_key (fun x => (key x).place) p
  refine (htext.lex hplace).congr ?_
  intro x y hx hy
  exact order?_of_family_eq (h x y hx hy)

end Primitive

/-- The family of a value. -/
def Value.family (v : Value) : Family := (Primitive.ofValue v).family

end RecordQuery

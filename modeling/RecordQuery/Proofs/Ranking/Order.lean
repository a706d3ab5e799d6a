import RecordQuery.Proofs.Ranking.Leaves
import RecordQuery.Proofs.Ranking.StableSort
import RecordQuery.Proofs.Value.Order

/-!
# The order of a ranking

A criterion puts values of one class in order: by texts those that are there, by difference those
that are numbers, by the relational order those of a family (`Criterion.Alike`). Across classes it
lets a value tie with others that do not tie with each other, and a text criterion looks only at
whether the first of two values is there. So a ranking is a total preorder of records that are alike
at every leaf (`preordersOn_compareLeaves`), and not of all records.
-/

namespace RecordQuery

/-! ## Directions -/

namespace Direction

/-- The order in the direction. -/
def orient : Direction → Ordering → Ordering
  | ascending, o => o
  | descending, o => o.swap

/-- The sign of a score in a direction. -/
theorem sign_apply (direction : Direction) (n : Number) :
    (direction.apply n).sign = direction.orient n.sign := by
  cases direction with
  | ascending => rfl
  | descending => exact Number.sign_neg n

/-- What ties does so in either direction. -/
theorem orient_eq (direction : Direction) : direction.orient .eq = .eq := by
  cases direction <;> rfl

/-- The reverse is the reverse in either direction. -/
theorem orient_swap (direction : Direction) (o : Ordering) :
    direction.orient o.swap = (direction.orient o).swap := by
  cases direction <;> rfl

end Direction

/-- A preorder in either direction is one. -/
theorem PreordersOn.orient {α : Type} {cmp : α → α → Ordering} {p : α → Prop}
    (h : PreordersOn cmp p) (direction : Direction) :
    PreordersOn (fun x y => direction.orient (cmp x y)) p := by
  cases direction with
  | ascending => exact h
  | descending => exact h.reverse

/-- The order of texts is a total preorder. -/
theorem Text.preordersOn_collate : PreordersOn Text.collate fun _ => True := by
  have hfold := PreordersOn.of_key Text.fold fun _ => True
  have hreverse : PreordersOn (fun a b : String => compare b a) fun _ => True := by
    refine (PreordersOn.of_key id fun _ => True).reverse.congr ?_
    intro a b _ _
    exact Std.OrientedCmp.eq_swap
  exact hfold.lex hreverse

/-! ## Criteria -/

namespace Criterion

variable {x y : Value}

/-- The sign of the score of an ordering is the ordering. -/
theorem sign_scoreOf (o : Ordering) : (scoreOf o).sign = o := by
  cases o with
  | lt => exact Number.sign_ofInt (-1)
  | eq => rfl
  | gt => exact Number.sign_ofInt 1

/-- By texts, values compare as their texts do unless the first is not there. -/
theorem compare_text (direction : Direction) (x y : Value) : (text direction).compare x y =
    if x.isNullish then .eq else direction.orient (Text.collate x.text y.text) := by
  rw [compare, score]
  split
  · rfl
  · rw [direction.sign_apply, sign_scoreOf]

/-- By difference, values compare as the numbers that they stand for. -/
theorem compare_difference (direction : Direction) (x y : Value) :
    (difference direction).compare x y =
      direction.orient ((x.toNumber.order? y.toNumber).getD .eq) := by
  rw [← Number.sign_sub, compare, score]
  split
  · rename_i hnan
    rw [hnan]
    exact direction.orient_eq.symm
  · exact direction.sign_apply _

/-- By order, values compare as they are ordered. -/
theorem compare_order (direction : Direction) (x y : Value) :
    (order direction).compare x y = direction.orient ((x.order? y).getD .eq) := by
  rw [compare, score]
  cases x.order? y with
  | none => exact direction.orient_eq.symm
  | some o => exact (direction.sign_apply _).trans (congrArg direction.orient (sign_scoreOf o))

/-- A word for a direction asks for the order of texts in it. -/
theorem ofLeaf_word {word : String} {direction : Direction}
    (hword : directionOf? word = some direction) : ofLeaf (.string word) = text direction := by
  rw [ofLeaf, hword]
  rfl

/-- Two values are of one class under the criterion. -/
def Alike : Criterion → Value → Value → Prop
  | text _, x, y => x.isNullish = y.isNullish
  | difference _, x, y => x.toNumber = .nan ↔ y.toNumber = .nan
  | order _, x, y => x.family = y.family
  | neutral, _, _ => True

/-- Being of one class goes both ways. -/
theorem Alike.symm {criterion : Criterion} (h : criterion.Alike x y) : criterion.Alike y x := by
  cases criterion with
  | text | order => exact Eq.symm h
  | difference => exact Iff.symm h
  | neutral => trivial

/-- What is of the class of a value of a class is of that class. -/
theorem Alike.trans {criterion : Criterion} {z : Value} (h : criterion.Alike x y)
    (h' : criterion.Alike y z) : criterion.Alike x z := by
  cases criterion with
  | text | order => exact Eq.trans h h'
  | difference => exact Iff.trans h h'
  | neutral => trivial

/-- Values compare the other way round in reverse, by texts only if both are there or neither. -/
theorem compare_swap (criterion : Criterion)
    (h : ∀ direction, criterion = text direction → x.isNullish = y.isNullish) :
    criterion.compare y x = (criterion.compare x y).swap := by
  cases criterion with
  | text direction =>
    rw [compare_text, compare_text, h direction rfl]
    split
    · rfl
    · rw [← direction.orient_swap]
      exact congrArg direction.orient
        (Text.preordersOn_collate.swap x.text y.text trivial trivial)
  | difference direction =>
    rw [compare_difference, compare_difference, Number.order?_swap, ← direction.orient_swap]
    cases x.toNumber.order? y.toNumber <;> rfl
  | order direction =>
    rw [compare_order, compare_order, Value.order?_swap, ← direction.orient_swap]
    cases x.order? y <;> rfl
  | neutral => rfl

/-- A criterion is a total preorder of records whose parts are of one class. -/
theorem preordersOn_compare (criterion : Criterion) {p : Value → Prop} (path : Path)
    (h : ∀ a b, p a → p b → criterion.Alike (path.partOf a) (path.partOf b)) :
    PreordersOn (fun a b => criterion.compare (path.partOf a) (path.partOf b)) p := by
  cases criterion with
  | text direction =>
    -- parts that are not there all tie, as one text does with itself
    let key (a : Value) : String :=
      if (path.partOf a).isNullish then "" else (path.partOf a).text
    refine ((Text.preordersOn_collate.comap key fun _ _ => trivial).orient direction).congr ?_
    intro a b ha hb
    have halike : (path.partOf a).isNullish = (path.partOf b).isNullish := h a b ha hb
    rw [compare_text]
    cases hnull : (path.partOf a).isNullish with
    | true =>
      rw [hnull] at halike
      simp only [key, hnull, ← halike, if_true]
      rw [Text.preordersOn_collate.refl "" trivial, direction.orient_eq]
    | false =>
      rw [hnull] at halike
      simp [key, hnull, ← halike]
  | difference direction =>
    let key (a : Value) : Primitive := .number (path.partOf a).toNumber
    have hfamily : ∀ a b, p a → p b → (key a).family = (key b).family := by
      intro a b ha hb
      have halike : (path.partOf a).toNumber = .nan ↔ (path.partOf b).toNumber = .nan :=
        h a b ha hb
      rw [← Number.rank?_eq_none_iff, ← Number.rank?_eq_none_iff] at halike
      rw [Primitive.family_number, Primitive.family_number]
      simp only [Option.isNone_iff_eq_none, halike]
    refine ((Primitive.preordersOn_order key hfamily).orient direction).congr ?_
    intro a b _ _
    exact compare_difference direction _ _
  | order direction =>
    let key (a : Value) : Primitive := .ofValue (path.partOf a)
    refine ((Primitive.preordersOn_order key h).orient direction).congr ?_
    intro a b _ _
    exact compare_order direction _ _
  | neutral => exact PreordersOn.tie p

end Criterion

/-! ## Rankings -/

namespace Ranking

variable {leaves : List (Path × Criterion)}

/-- Records compare the other way round in reverse if at every text criterion both have a value or
neither does. -/
theorem compareLeaves_swap {a b : Value}
    (h : ∀ leaf ∈ leaves, ∀ direction, leaf.2 = .text direction →
      (leaf.1.partOf a).isNullish = (leaf.1.partOf b).isNullish) :
    compareLeaves leaves b a = (compareLeaves leaves a b).swap := by
  induction leaves with
  | nil => rfl
  | cons leaf rest ih =>
    obtain ⟨path, criterion⟩ := leaf
    obtain ⟨hfirst, hrest⟩ := List.forall_mem_cons.1 h
    rw [compareLeaves, compareLeaves, criterion.compare_swap hfirst, ih hrest, Ordering.swap_then]

/-- Records compare with themselves as equal. -/
theorem compareLeaves_self (leaves : List (Path × Criterion)) (a : Value) :
    compareLeaves leaves a a = .eq :=
  eq_of_eq_swap (compareLeaves_swap fun _ _ _ _ => rfl)

/-- Criteria one after the other are a total preorder of records that are alike at each. -/
theorem preordersOn_compareLeaves {p : Value → Prop}
    (h : ∀ leaf ∈ leaves, ∀ a b, p a → p b →
      leaf.2.Alike (leaf.1.partOf a) (leaf.1.partOf b)) : PreordersOn (compareLeaves leaves) p := by
  induction leaves with
  | nil => exact PreordersOn.tie p
  | cons leaf rest ih =>
    obtain ⟨path, criterion⟩ := leaf
    obtain ⟨hfirst, hrest⟩ := List.forall_mem_cons.1 h
    exact (criterion.preordersOn_compare path hfirst).lex (ih hrest)

/-- A specified ranking lets a record tie with itself. It compares two records the other way round
in reverse if they have values at the same text leaves. And it is transitive on three records whose
values at every leaf are of one class. -/
theorem compare_self_swap_trans {limit : Nat} {spec : Option Value} {ranking : Ranking}
    (hspec : ofSpecification limit spec = .ok ranking) (a b c : Value) :
    ranking.compare a a = .eq ∧
      ((∀ leaf ∈ specifiedLeaves spec, ∀ direction, leaf.2 = .text direction →
          (leaf.1.partOf a).isNullish = (leaf.1.partOf b).isNullish) →
        ranking.compare b a = (ranking.compare a b).swap) ∧
      ((∀ leaf ∈ specifiedLeaves spec, leaf.2.Alike (leaf.1.partOf a) (leaf.1.partOf b) ∧
          leaf.2.Alike (leaf.1.partOf b) (leaf.1.partOf c)) →
        ranking.compare a b ≠ .gt → ranking.compare b c ≠ .gt → ranking.compare a c ≠ .gt) := by
  simp only [compare_ofSpecification hspec]
  refine ⟨compareLeaves_self _ a, compareLeaves_swap, ?_⟩
  intro halike
  have hpreorder : PreordersOn (compareLeaves (specifiedLeaves spec)) fun x =>
      ∀ leaf ∈ specifiedLeaves spec, leaf.2.Alike (leaf.1.partOf x) (leaf.1.partOf b) := by
    refine preordersOn_compareLeaves ?_
    intro leaf hleaf x y hx hy
    exact (hx leaf hleaf).trans (hy leaf hleaf).symm
  refine hpreorder.trans a b c ?_ ?_ ?_
  · intro leaf hleaf
    exact (halike leaf hleaf).1
  · intro leaf hleaf
    exact (halike leaf hleaf).1.symm.trans (halike leaf hleaf).1
  · intro leaf hleaf
    exact (halike leaf hleaf).2.symm

/-- Three people by name and then by age. -/
theorem compare_self_swap_trans_of_people :
    let spec : Value := .object [("name", .string "asc"), ("age", .number (.ofNat 1))]
    let person (name : String) (age : Nat) : Value :=
      .object [("name", .string name), ("age", .number (.ofNat age))]
    ∃ ranking, ofSpecification 1 (some spec) = .ok ranking ∧
      ranking.compare (person "Ann" 3) (person "Ann" 3) = .eq ∧
      ranking.compare (person "bob" 2) (person "Ann" 3) =
        (ranking.compare (person "Ann" 3) (person "bob" 2)).swap ∧
      ranking.compare (person "Ann" 3) (person "bob" 5) ≠ .gt := by
  intro spec person
  have hspec : ofSpecification 1 (some spec) =
      .ok (fields [("name", leaf (.ofLeaf (.string "asc"))),
        ("age", leaf (.ofLeaf (.number (.ofNat 1))))]) := rfl
  have hleaves : specifiedLeaves (some spec) =
      [(["name"], .text .ascending), (["age"], .difference .ascending)] := by
    decide +kernel
  have hname : ∀ (a b : String) (m n : Nat), (Path.partOf ["name"] (person a m)).isNullish =
      (Path.partOf ["name"] (person b n)).isNullish := fun _ _ _ _ => rfl
  have hage : (Path.partOf ["age"] (person "Ann" 3)).toNumber ≠ .nan ∧
      (Path.partOf ["age"] (person "bob" 2)).toNumber ≠ .nan ∧
      (Path.partOf ["age"] (person "bob" 5)).toNumber ≠ .nan := by
    decide +kernel
  obtain ⟨hself, hswap, htrans⟩ :=
    compare_self_swap_trans hspec (person "Ann" 3) (person "bob" 2) (person "bob" 5)
  rw [hleaves] at hswap htrans
  refine ⟨_, hspec, hself, hswap ?_, htrans ?_ (by decide +kernel) (by decide +kernel)⟩
  · intro leaf hleaf direction htext
    rcases List.mem_pair.1 hleaf with rfl | rfl
    · exact hname ..
    · cases htext
  · intro leaf hleaf
    rcases List.mem_pair.1 hleaf with rfl | rfl
    · exact ⟨hname .., hname ..⟩
    · exact ⟨iff_of_false hage.1 hage.2.1, iff_of_false hage.2.1 hage.2.2⟩

/-- Across classes a ranking need not be a preorder. By texts a record without a value ties with
one that goes before it; by difference what is no number ties with numbers that differ; and by order
texts are compared as texts, but beside a number as numbers. -/
theorem compare_across_classes :
    let name := leaf (.text .ascending)
    let size := leaf (.difference .ascending)
    let rank := leaf (.order .ascending)
    let number (n : Nat) : Value := .number (.ofNat n)
    (ofSpecification 256 (some (.string "asc")) = .ok name ∧
      name.compare .null (.string "a") = .eq ∧ name.compare (.string "a") .null = .lt) ∧
    (ofSpecification 256 (some (number 1)) = .ok size ∧
      size.compare (number 1) (.string "x") = .eq ∧ size.compare (.string "x") (number 0) = .eq ∧
      size.compare (number 1) (number 0) = .gt) ∧
    ofSpecification 256 (some (.bool true)) = .ok rank ∧
      rank.compare (.string "10") (.string "9") = .lt ∧
      rank.compare (.string "9") (number 9) = .eq ∧
      rank.compare (.string "10") (number 9) = .gt := by
  intro name size rank number
  have hname : Criterion.ofLeaf (.string "asc") = .text .ascending := by decide +kernel
  have hsize : Criterion.ofLeaf (number 1) = .difference .ascending := by decide +kernel
  refine ⟨⟨?_, by decide +kernel, by decide +kernel⟩,
    ⟨?_, by decide +kernel, by decide +kernel, by decide +kernel⟩,
    rfl, by decide +kernel, by decide +kernel, by decide +kernel⟩
  · exact congrArg (fun criterion => Except.ok (leaf criterion)) hname
  · exact congrArg (fun criterion => Except.ok (leaf criterion)) hsize

end Ranking

end RecordQuery

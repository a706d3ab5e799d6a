import RecordQuery.Proofs.Value.Congruence
import RecordQuery.Ranking.Basic

/-!
# Rankings of equal values

The score of two values is a number (`rank?_score`) that does not tell equal values apart
(`score_congr`), so neither does their order.
-/

namespace RecordQuery

namespace Criterion

/-- The score in a direction of a number is a number. -/
theorem rank?_apply (direction : Direction) {n : Number} (h : n.rank?.isNone = false) :
    (direction.apply n).rank?.isNone = false := by
  cases direction with
  | ascending => exact h
  | descending =>
    cases n with
    | nan => exact h
    | infinite | finite => rfl

/-- The score of an ordering is a number. -/
theorem rank?_scoreOf (o : Ordering) : (scoreOf o).rank?.isNone = false := by
  have hint : ∀ n : Int, (Number.ofInt n).rank?.isNone = false := by
    intro n
    rw [Number.ofInt, Number.ofQuanta]
    split <;> rfl
  cases o with
  | lt => exact hint (-1)
  | eq => rfl
  | gt => exact hint 1

/-- The score of two values is a number. -/
theorem rank?_score (criterion : Criterion) (x y : Value) :
    (criterion.score x y).rank?.isNone = false := by
  cases criterion with
  | text direction =>
    rw [score]
    split
    · rfl
    · exact rank?_apply direction (rank?_scoreOf _)
  | difference direction =>
    rw [score]
    split
    · rfl
    · rename_i d hd
      refine rank?_apply direction ?_
      cases hd' : x.toNumber.sub y.toNumber with
      | nan => exact absurd hd' hd
      | infinite | finite => rfl
  | order direction =>
    rw [score]
    split
    · exact rank?_apply direction (rank?_scoreOf _)
    · rfl
  | neutral => rfl

variable {x x' y y' : Value}

/-- The same scores are the same in a direction. -/
theorem apply_congr (direction : Direction) {a b : Number} (h : a.sameValueZero b = true) :
    (direction.apply a).sameValueZero (direction.apply b) = true := by
  cases direction with
  | ascending => exact h
  | descending => exact Number.neg_congr h

/-- The scores of equal values are the same. -/
theorem score_congr (criterion : Criterion) (hx : (x == x') = true) (hy : (y == y') = true) :
    (criterion.score x y).sameValueZero (criterion.score x' y') = true := by
  cases criterion with
  | text direction =>
    rw [score, score, Value.isNullish_congr hx, Value.text_congr hx, Value.text_congr hy]
    exact Number.sameValueZero_refl _
  | difference direction =>
    have hsub := Number.sub_congr (Value.toNumber_congr hx) (Value.toNumber_congr hy)
    rw [score, score]
    generalize x.toNumber.sub y.toNumber = d, x'.toNumber.sub y'.toNumber = d' at hsub
    cases Number.sameValueZero_iff_same.1 hsub with
    | nan => exact Number.sameValueZero_refl _
    | infinite s => exact Number.sameValueZero_refl _
    | finite s t => exact apply_congr direction hsub
  | order direction =>
    rw [score, score, Value.order?_congr hx hy]
    exact Number.sameValueZero_refl _
  | neutral => exact Number.sameValueZero_refl _

end Criterion

namespace Ranking

mutual
/-- The score of two values is a number. -/
theorem rank?_score : ∀ (ranking : Ranking) (x y : Value), (ranking.score x y).rank?.isNone = false
  | leaf criterion, x, y => criterion.rank?_score x y
  | fields children, x, y => rank?_scoreFields children x y

/-- The score of two values by fields is a number. -/
theorem rank?_scoreFields : ∀ (children : List (String × Ranking)) (x y : Value),
    (scoreFields children x y).rank?.isNone = false
  | [], _, _ => rfl
  | (key, child) :: rest, x, y => by
    rw [scoreFields]
    split
    · exact rank?_scoreFields rest x y
    · exact rank?_score child (x.get key) (y.get key)
end

mutual
/-- The scores of equal values are the same. -/
theorem score_congr : ∀ (ranking : Ranking) {x x' y y' : Value}, x.WellFormed → x'.WellFormed →
    y.WellFormed → y'.WellFormed → (x == x') = true → (y == y') = true →
    (ranking.score x y).sameValueZero (ranking.score x' y') = true
  | leaf criterion, _, _, _, _, _, _, _, _, hx, hy => criterion.score_congr hx hy
  | fields children, _, _, _, _, hwx, hwx', hwy, hwy', hx, hy =>
    scoreFields_congr children hwx hwx' hwy hwy' hx hy

/-- The scores of equal values by fields are the same. -/
theorem scoreFields_congr : ∀ (children : List (String × Ranking)) {x x' y y' : Value},
    x.WellFormed → x'.WellFormed → y.WellFormed → y'.WellFormed → (x == x') = true →
    (y == y') = true → (scoreFields children x y).sameValueZero (scoreFields children x' y') = true
  | [], _, _, _, _, _, _, _, _, _, _ => Number.sameValueZero_refl .zero
  | (key, child) :: rest, x, x', y, y', hwx, hwx', hwy, hwy', hx, hy => by
    have hfirst := score_congr child (Value.wellFormed_get hwx key) (Value.wellFormed_get hwx' key)
      (Value.wellFormed_get hwy key) (Value.wellFormed_get hwy' key)
      (Value.get_congr hwx hwx' hx key) (Value.get_congr hwy hwy' hy key)
    rw [scoreFields, scoreFields, Number.equals_congr hfirst (Number.sameValueZero_refl .zero)]
    split
    · exact scoreFields_congr rest hwx hwx' hwy hwy' hx hy
    · exact hfirst
end

/-- Equal values are in the same order with equal values. -/
theorem compare_congr (ranking : Ranking) {x x' y y' : Value} (hwx : x.WellFormed)
    (hwx' : x'.WellFormed) (hwy : y.WellFormed) (hwy' : y'.WellFormed) (hx : (x == x') = true)
    (hy : (y == y') = true) : ranking.compare x y = ranking.compare x' y' := by
  have hscore := ranking.score_congr hwx hwx' hwy hwy' hx hy
  rw [compare, compare, Number.order?_congr hscore (Number.sameValueZero_refl .zero)]

end Ranking

end RecordQuery

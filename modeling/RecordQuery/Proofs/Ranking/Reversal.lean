import RecordQuery.Proofs.Ranking.Leaves

/-!
# Reversed rankings

Of two sort specifications whose directions are all opposite (`Specification.Flipped`) one is
accepted if the other is, and its ranking is the other's with every criterion reversed
(`ofPart_flipped`). A reversed criterion has the opposite score whatever the two values are: where
it cannot tell them apart the score is zero, which is its own opposite (`Criterion.score_reverse`).
So the first of several scores that decides is the opposite one too (`score_reverse`), and no use is
made of the ranking being a consistent order, which it need not be.
-/

namespace RecordQuery

/-! ## Specifications -/

namespace Specification

/-- The words that stand for directions, in lower case, each with one for the opposite. -/
def oppositeWords : List (String × String) :=
  [("asc", "desc"), ("desc", "asc"), ("1", "-1"), ("-1", "1")]

/-- The value is a leaf that stands for no direction. -/
def Undirected : Value → Prop
  | .string word => word.map Char.toLower ∉ oppositeWords.map Prod.fst
  | .number n => n.equals (.ofInt 1) = false ∧ n.equals (.ofInt (-1)) = false
  | .bool _ | .array _ | .object _ => False
  | .undefined | .null | .bigint _ | .regex _ => True

/-- The leaves stand for opposite directions, or are one leaf that stands for none. -/
inductive FlippedLeaf : Value → Value → Prop
  | word {word word' : String}
      (h : (word.map Char.toLower, word'.map Char.toLower) ∈ oppositeWords) :
      FlippedLeaf (.string word) (.string word')
  | number {n : Number} (h : n.equals (.ofInt 1) = true ∨ n.equals (.ofInt (-1)) = true) :
      FlippedLeaf (.number n) (.number n.neg)
  | bool (b : Bool) : FlippedLeaf (.bool b) (.bool !b)
  | other {v : Value} (h : Undirected v) : FlippedLeaf v v

mutual
/-- The parts of specifications are the same but for directions, which are all opposite. -/
inductive Flipped : Value → Value → Prop
  | leaf {v v' : Value} (h : FlippedLeaf v v') : Flipped v v'
  | array {items items' : List Value} (h : FlippedItems items items') :
      Flipped (.array items) (.array items')
  | object {parts parts' : List (String × Value)} (h : FlippedFields parts parts') :
      Flipped (.object parts) (.object parts')

/-- The items are the same but for directions. -/
inductive FlippedItems : List Value → List Value → Prop
  | nil : FlippedItems [] []
  | cons {v v' : Value} {rest rest' : List Value} (h : Flipped v v')
      (hrest : FlippedItems rest rest') : FlippedItems (v :: rest) (v' :: rest')

/-- The fields are the same but for directions. -/
inductive FlippedFields : List (String × Value) → List (String × Value) → Prop
  | nil : FlippedFields [] []
  | cons {key : String} {v v' : Value} {rest rest' : List (String × Value)} (h : Flipped v v')
      (hrest : FlippedFields rest rest') : FlippedFields ((key, v) :: rest) ((key, v') :: rest')
end

/-- A word that stands for a direction has an opposite. -/
theorem exists_oppositeWord {word : String} (h : word ∈ oppositeWords.map Prod.fst) :
    ∃ word' : String, (word, word'.map Char.toLower) ∈ oppositeWords := by
  simp only [oppositeWords, List.map_cons, List.map_nil, List.mem_cons, List.not_mem_nil,
    or_false] at h
  rcases h with rfl | rfl | rfl | rfl
  · exact ⟨"desc", by decide +kernel⟩
  · exact ⟨"asc", by decide +kernel⟩
  · exact ⟨"-1", by decide +kernel⟩
  · exact ⟨"1", by decide +kernel⟩

mutual
/-- The directions of every part can be flipped. -/
theorem exists_flipped : ∀ v : Value, ∃ v', Flipped v v'
  | .undefined | .null | .bigint _ | .regex _ => ⟨_, .leaf (.other trivial)⟩
  | .bool b => ⟨_, .leaf (.bool b)⟩
  | .number n => by
    by_cases h : n.equals (.ofInt 1) = true ∨ n.equals (.ofInt (-1)) = true
    · exact ⟨_, .leaf (.number h)⟩
    · rw [not_or, Bool.not_eq_true, Bool.not_eq_true] at h
      exact ⟨_, .leaf (.other h)⟩
  | .string word => by
    by_cases h : word.map Char.toLower ∈ oppositeWords.map Prod.fst
    · obtain ⟨word', h⟩ := exists_oppositeWord h
      exact ⟨_, .leaf (.word h)⟩
    · exact ⟨_, .leaf (.other h)⟩
  | .array items => by
    obtain ⟨items', h⟩ := exists_flippedItems items
    exact ⟨_, .array h⟩
  | .object parts => by
    obtain ⟨parts', h⟩ := exists_flippedFields parts
    exact ⟨_, .object h⟩

/-- The directions of all items can be flipped. -/
theorem exists_flippedItems : ∀ items : List Value, ∃ items', FlippedItems items items'
  | [] => ⟨_, .nil⟩
  | v :: rest => by
    obtain ⟨v', h⟩ := exists_flipped v
    obtain ⟨rest', hrest⟩ := exists_flippedItems rest
    exact ⟨_, .cons h hrest⟩

/-- The directions of all fields can be flipped. -/
theorem exists_flippedFields : ∀ parts : List (String × Value), ∃ parts', FlippedFields parts parts'
  | [] => ⟨_, .nil⟩
  | (_, v) :: rest => by
    obtain ⟨v', h⟩ := exists_flipped v
    obtain ⟨rest', hrest⟩ := exists_flippedFields rest
    exact ⟨_, .cons h hrest⟩
end

/-- What is made of the result is made if the bound allows the depth. -/
theorem within_map {α β : Type} (limit depth : Nat) (made : Except CompileError α) (f : α → β) :
    within limit depth (made.map f) = (within limit depth made).map f := by
  unfold within
  split <;> rfl

end Specification

open Specification

/-! ## Criteria -/

/-- The other direction. -/
def Direction.opposite : Direction → Direction
  | ascending => descending
  | descending => ascending

/-- A score in the other direction is the opposite score. -/
theorem Direction.apply_opposite (direction : Direction) (n : Number) :
    direction.opposite.apply n = (direction.apply n).neg := by
  cases direction with
  | ascending => rfl
  | descending => exact n.neg_neg.symm

namespace Criterion

/-- The criterion in the other direction. -/
def reverse : Criterion → Criterion
  | text direction => text direction.opposite
  | difference direction => difference direction.opposite
  | order direction => order direction.opposite
  | neutral => neutral

/-- The score in the other direction is the opposite one. -/
theorem score_reverse (criterion : Criterion) (x y : Value) :
    (criterion.reverse.score x y).sameValueZero (criterion.score x y).neg = true := by
  cases criterion with
  | text direction =>
    rw [reverse, score, score]
    split
    · exact Number.zero_same_neg
    · rw [direction.apply_opposite]
      exact Number.sameValueZero_refl _
  | difference direction =>
    rw [reverse, score, score]
    split
    · exact Number.zero_same_neg
    · rw [direction.apply_opposite]
      exact Number.sameValueZero_refl _
  | order direction =>
    rw [reverse, score, score]
    split
    · rw [direction.apply_opposite]
      exact Number.sameValueZero_refl _
    · exact Number.zero_same_neg
  | neutral => exact Number.zero_same_neg

/-- Opposite words stand for opposite directions. -/
theorem directionOf?_opposite {word word' : String}
    (h : (word.map Char.toLower, word'.map Char.toLower) ∈ oppositeWords) :
    ∃ direction, directionOf? word = some direction ∧
      directionOf? word' = some direction.opposite := by
  simp only [oppositeWords, List.mem_cons, Prod.mk.injEq, List.not_mem_nil, or_false] at h
  rw [directionOf?, directionOf?]
  rcases h with ⟨h, h'⟩ | ⟨h, h'⟩ | ⟨h, h'⟩ | ⟨h, h'⟩ <;> rw [h, h']
  · exact ⟨.ascending, rfl, rfl⟩
  · exact ⟨.descending, rfl, rfl⟩
  · exact ⟨.ascending, rfl, rfl⟩
  · exact ⟨.descending, rfl, rfl⟩

/-- A word that stands for no direction lets all values tie. -/
theorem directionOf?_eq_none {word : String}
    (h : word.map Char.toLower ∉ oppositeWords.map Prod.fst) : directionOf? word = none := by
  simp only [oppositeWords, List.map_cons, List.map_nil, List.mem_cons, List.not_mem_nil, or_false,
    not_or] at h
  obtain ⟨hasc, hdesc, hone, hminus⟩ := h
  simp [directionOf?, hasc, hdesc, hone, hminus]

/-- The opposite of a number stands for the opposite direction. -/
theorem ofLeaf_neg (n : Number) : ofLeaf (.number n.neg) = (ofLeaf (.number n)).reverse := by
  have hopposite : Number.ofInt (-1) = (Number.ofInt 1).neg := by decide +kernel
  have hone : n.neg.equals (.ofInt 1) = n.equals (.ofInt (-1)) := by
    rw [hopposite, ← Number.neg_equals_neg n, Number.neg_neg]
  have hminus : n.neg.equals (.ofInt (-1)) = n.equals (.ofInt 1) := by
    rw [hopposite, Number.neg_equals_neg]
  rw [ofLeaf, ofLeaf, hone, hminus]
  cases hpos : n.equals (.ofInt 1) with
  | false => cases n.equals (.ofInt (-1)) <;> rfl
  | true =>
    -- a number that is one is not its opposite too
    have hneg : n.equals (.ofInt (-1)) = false := by
      have hrank := Number.sameValueZero_iff.1 (Number.equals_iff.1 hpos).1
      rw [Number.equals, hrank]
      decide +kernel
    rw [hneg]
    rfl

/-- Leaves that stand for opposite directions stand for reversed criteria. -/
theorem ofLeaf_flipped {v v' : Value} (h : FlippedLeaf v v') : ofLeaf v' = (ofLeaf v).reverse := by
  cases h with
  | word h =>
    obtain ⟨direction, hword, hword'⟩ := directionOf?_opposite h
    rw [ofLeaf, ofLeaf, hword, hword']
    rfl
  | number h => exact ofLeaf_neg _
  | bool b => cases b <;> rfl
  | other h =>
    cases v with
    | string word =>
      rw [ofLeaf, directionOf?_eq_none h]
      rfl
    | number n =>
      rw [ofLeaf, h.1, h.2]
      rfl
    | bool | array | object => exact h.elim
    | undefined | null | bigint | regex => rfl

end Criterion

/-! ## Rankings -/

namespace Ranking

mutual
/-- The ranking with every criterion reversed. -/
def reverse : Ranking → Ranking
  | leaf criterion => leaf criterion.reverse
  | fields children => fields (reverseFields children)

/-- The rankings of fields with every criterion reversed. -/
def reverseFields : List (String × Ranking) → List (String × Ranking)
  | [] => []
  | (key, child) :: rest => (key, child.reverse) :: reverseFields rest
end

mutual
/-- The score of two values under the reversed ranking is the opposite one. -/
theorem score_reverse : ∀ (ranking : Ranking) (x y : Value),
    (ranking.reverse.score x y).sameValueZero (ranking.score x y).neg = true
  | leaf criterion, x, y => criterion.score_reverse x y
  | fields children, x, y => scoreFields_reverse children x y

/-- The score of two values by reversed fields is the opposite one. -/
theorem scoreFields_reverse : ∀ (children : List (String × Ranking)) (x y : Value),
    (scoreFields (reverseFields children) x y).sameValueZero (scoreFields children x y).neg = true
  | [], _, _ => Number.zero_same_neg
  | (key, child) :: rest, x, y => by
    have hfirst := score_reverse child (x.get key) (y.get key)
    -- the first field is undecided in both or in neither
    rw [reverseFields, scoreFields, scoreFields, Number.equals_zero_congr hfirst,
      Number.neg_equals_zero]
    split
    · exact scoreFields_reverse rest x y
    · exact hfirst
end

/-- The reversed ranking has the opposite score, as a number. -/
theorem score_reverse_equals (ranking : Ranking) (x y : Value) :
    (ranking.reverse.score x y).equals (ranking.score x y).neg = true :=
  Number.equals_iff.2 ⟨ranking.score_reverse x y, ranking.reverse.rank?_score x y⟩

/-- The reversed ranking puts two values the other way round. -/
theorem compare_reverse (ranking : Ranking) (x y : Value) :
    ranking.reverse.compare x y = (ranking.compare x y).swap := by
  rw [compare_eq_sign, compare_eq_sign, ← Number.sign_neg, Number.sign, Number.sign,
    Number.order?_congr (ranking.score_reverse x y) (Number.sameValueZero_refl .zero)]

variable {limit : Nat}

/-- A leaf of the opposite direction asks for the reversed criterion. -/
theorem ofPart_flippedLeaf {depth : Nat} {v v' : Value} (h : FlippedLeaf v v') :
    ofPart limit depth v' = (ofPart limit depth v).map reverse := by
  have hwithin : within limit depth (.ok (leaf (.ofLeaf v'))) =
      (within limit depth (.ok (leaf (.ofLeaf v)))).map reverse := by
    rw [← within_map, Criterion.ofLeaf_flipped h]
    rfl
  cases h with
  | word | number | bool => exact hwithin
  | other h =>
    cases v with
    | array | object => exact h.elim
    | undefined | null | bool | number | bigint | string | regex => exact hwithin

mutual
/-- A part with the opposite directions asks for the reversed ranking. -/
theorem ofPart_flipped {depth : Nat} : ∀ {v v' : Value}, Flipped v v' →
    ofPart limit depth v' = (ofPart limit depth v).map reverse
  | _, _, .leaf h => ofPart_flippedLeaf h
  | _, _, .array h => by
    rw [ofPart, ofPart, ofItems_flipped h, ← within_map]
    cases ofItems limit (depth + 1) 0 _ <;> rfl
  | _, _, .object h => by
    rw [ofPart, ofPart, ofFields_flipped h, ← within_map]
    cases ofFields limit (depth + 1) _ <;> rfl

/-- Items with the opposite directions ask for the reversed rankings. -/
theorem ofItems_flipped {depth : Nat} : ∀ {i : Nat} {items items' : List Value},
    FlippedItems items items' →
      ofItems limit depth i items' = (ofItems limit depth i items).map reverseFields
  | _, _, _, .nil => rfl
  | i, v :: rest, _, .cons h hrest => by
    rw [ofItems, ofItems, ofPart_flipped h, ofItems_flipped hrest]
    cases ofPart limit depth v with
    | error => rfl
    | ok child => cases ofItems limit depth (i + 1) rest <;> rfl

/-- Fields with the opposite directions ask for the reversed rankings. -/
theorem ofFields_flipped {depth : Nat} : ∀ {parts parts' : List (String × Value)},
    FlippedFields parts parts' →
      ofFields limit depth parts' = (ofFields limit depth parts).map reverseFields
  | _, _, .nil => rfl
  | (_, v) :: rest, _, .cons h hrest => by
    rw [ofFields, ofFields, ofPart_flipped h, ofFields_flipped hrest]
    cases ofPart limit depth v with
    | error => rfl
    | ok child => cases ofFields limit depth rest <;> rfl
end

/-- A specification with the opposite directions is accepted or refused alike, and asks for the
reversed ranking. -/
theorem ofSpecification_flipped {spec spec' : Option Value} (h : Option.Rel Flipped spec spec') :
    ofSpecification limit spec' = (ofSpecification limit spec).map reverse := by
  cases h with
  | none => rfl
  | some h => exact ofPart_flipped h

/-- In a specified ranking the directions can be flipped, and however they are spelt then, the
specification is still accepted, the score of any two values is the opposite number, and their order
is the reverse. -/
theorem reversed_of_flipped {spec : Option Value} {ranking : Ranking}
    (hspec : ofSpecification limit spec = .ok ranking) :
    (∃ spec', Option.Rel Flipped spec spec') ∧
    ∀ spec', Option.Rel Flipped spec spec' →
      ∃ ranking', ofSpecification limit spec' = .ok ranking' ∧
        ∀ x y, (ranking'.score x y).equals (ranking.score x y).neg = true ∧
          ranking'.compare x y = (ranking.compare x y).swap := by
  constructor
  · cases spec with
    | none => exact ⟨none, .none⟩
    | some v =>
      obtain ⟨v', h⟩ := exists_flipped v
      exact ⟨some v', .some h⟩
  · intro spec' h
    refine ⟨ranking.reverse, ?_, fun x y =>
      ⟨ranking.score_reverse_equals x y, ranking.compare_reverse x y⟩⟩
    rw [ofSpecification_flipped h, hspec]
    rfl

/-- Two words, a number and a truth value, of which one word stands for no direction. -/
theorem reversed_of_flipped_of_mixed :
    let spec : Value := .object
      [("name", .string "Asc"), ("at", .array [.number (.ofInt (-1)), .bool true]),
        ("tag", .string "up")]
    let spec' : Value := .object
      [("name", .string "DESC"), ("at", .array [.number (.ofInt 1), .bool false]),
        ("tag", .string "up")]
    ∃ ranking ranking', ofSpecification 2 (some spec) = .ok ranking ∧
      ofSpecification 2 (some spec') = .ok ranking' ∧
      ∀ x y, (ranking'.score x y).equals (ranking.score x y).neg = true ∧
        ranking'.compare x y = (ranking.compare x y).swap := by
  intro spec spec'
  obtain ⟨ranking, hspec⟩ : ∃ ranking, ofSpecification 2 (some spec) = .ok ranking := ⟨_, rfl⟩
  have hopposite : Number.ofInt 1 = (Number.ofInt (-1)).neg := by decide +kernel
  have hnumber : FlippedLeaf (.number (.ofInt (-1))) (.number (.ofInt 1)) := by
    rw [hopposite]
    exact .number (.inr (by decide +kernel))
  have hname : FlippedLeaf (.string "Asc") (.string "DESC") := .word (by decide +kernel)
  have htag : Undirected (.string "up") := by
    rw [Undirected]
    decide +kernel
  have hat : FlippedItems [.number (.ofInt (-1)), .bool true] [.number (.ofInt 1), .bool false] :=
    .cons (.leaf hnumber) (.cons (.leaf (.bool true)) .nil)
  have hflipped : Flipped spec spec' :=
    .object (.cons (.leaf hname) (.cons (.array hat) (.cons (.leaf (.other htag)) .nil)))
  obtain ⟨ranking', hspec', hreverse⟩ := (reversed_of_flipped hspec).2 (some spec') (.some hflipped)
  exact ⟨ranking, ranking', hspec, hspec', hreverse⟩

end Ranking

end RecordQuery

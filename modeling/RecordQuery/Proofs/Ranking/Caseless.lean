import RecordQuery.Proofs.Ranking.Order
import RecordQuery.Proofs.Text.Lowercase

/-!
# Ranking by texts without regard to case

A leaf that ranks by texts puts records in the order of the lowercase of their texts
(`Ranking.compare_of_lowered`), if the texts are folded to it, as those without letters of title
case are. Other texts can come out in the reverse order (`Ranking.compare_titlecase`).
-/

namespace RecordQuery

namespace Text

variable {a b : String}

/-- The text with the lesser lowercase is less, if both are folded to their lowercase. -/
theorem collate_lt (ha : Foldable a) (hb : Foldable b) (h : lowered a < lowered b) :
    collate a b = .lt := by
  have hcompare : compare (lowered a) (lowered b) = .lt := if_pos h
  rw [collate, fold_eq_lowered_iff.2 ha, fold_eq_lowered_iff.2 hb, hcompare]
  rfl

/-- The text with the greater lowercase is greater, if both are folded to their lowercase. -/
theorem collate_gt (ha : Foldable a) (hb : Foldable b) (h : lowered b < lowered a) :
    collate a b = .gt := by
  have hcompare : compare (lowered a) (lowered b) = .gt :=
    Std.OrientedCmp.gt_of_lt (if_pos h)
  rw [collate, fold_eq_lowered_iff.2 ha, fold_eq_lowered_iff.2 hb, hcompare]
  rfl

end Text

namespace Ranking

variable {limit : Nat} {spec : Option Value} {ranking : Ranking} {path : Path} {word : String}
  {rest : List (Path × Value)} {x y : Value} {a b : String}

/-- A leaf in front that ranks by texts in a direction decides as texts collate, if they do not
tie. -/
theorem compare_of_first_leaf_oriented {direction : Direction}
    (h : ofSpecification limit spec = .ok ranking)
    (hleaves : Specification.leaves spec = (path, .string word) :: rest)
    (hword : Criterion.directionOf? word = some direction) (hx : path.partOf x = .string a)
    (hy : path.partOf y = .string b) (hne : Text.collate a b ≠ .eq) :
    ranking.compare x y = direction.orient (Text.collate a b) := by
  have hfirst : (Criterion.text direction).compare (.string a) (.string b) =
      direction.orient (Text.collate a b) := by
    rw [Criterion.compare_text]
    rfl
  rw [compare_ofSpecification h, specifiedLeaves, hleaves, List.map_cons, criterionOf,
    Criterion.ofLeaf_word hword, compareLeaves, hx, hy, hfirst]
  cases hcollate : Text.collate a b with
  | lt | gt => cases direction <;> rfl
  | eq => exact absurd hcollate hne

/-- A leaf in front that ranks by texts decides as texts collate, if they do not tie. -/
theorem compare_of_first_leaf (h : ofSpecification limit spec = .ok ranking)
    (hleaves : Specification.leaves spec = (path, .string word) :: rest)
    (hword : Criterion.directionOf? word = some .ascending) (hx : path.partOf x = .string a)
    (hy : path.partOf y = .string b) (hne : Text.collate a b ≠ .eq) :
    ranking.compare x y = Text.collate a b :=
  compare_of_first_leaf_oriented h hleaves hword hx hy hne

/-- Two texts stand where a specification has its first leaf, and the leaf ranks by texts. A text is
folded to its lowercase exactly if it has an uppercase character or no letter of title case, and if
both are, then the record whose text has the lesser lowercase goes before the other. -/
theorem compare_of_lowered (h : ofSpecification limit spec = .ok ranking)
    (hleaves : Specification.leaves spec = (path, .string word) :: rest)
    (hword : Criterion.directionOf? word = some .ascending) (hx : path.partOf x = .string a)
    (hy : path.partOf y = .string b) :
    (Text.fold a = Text.lowered a ↔ Text.Foldable a) ∧
    (Text.fold b = Text.lowered b ↔ Text.Foldable b) ∧
    (Text.Foldable a → Text.Foldable b →
      (Text.lowered a < Text.lowered b → ranking.compare x y = .lt) ∧
        (Text.lowered b < Text.lowered a → ranking.compare x y = .gt)) := by
  refine ⟨Text.fold_eq_lowered_iff, Text.fold_eq_lowered_iff, fun ha hb => ?_⟩
  have hdecides := compare_of_first_leaf h hleaves hword hx hy
  constructor
  · intro hlt
    have hcollate := Text.collate_lt ha hb hlt
    rw [hdecides (by rw [hcollate]; exact nofun), hcollate]
  · intro hgt
    have hcollate := Text.collate_gt ha hb hgt
    rw [hdecides (by rw [hcollate]; exact nofun), hcollate]

/-- A name with an uppercase character behind a letter of title case, and one in small letters. -/
theorem compare_of_lowered_of_names :
    let spec : Value := .object [("name", .string "ASC"), ("age", .number (.ofInt 1))]
    let x : Value := .object [("name", .string "ǅA")]
    let y : Value := .object [("name", .string "ǆb")]
    ∃ ranking, ofSpecification 1 (some spec) = .ok ranking ∧
      ranking.compare x y = .lt ∧ ranking.compare y x = .gt := by
  intro spec x y
  have hupper : Text.Foldable "ǅA" := .inl (by decide +kernel)
  have hsmall : Text.Foldable "ǆb" := .inr (by decide +kernel)
  have hlt : Text.lowered "ǅA" < Text.lowered "ǆb" := by decide +kernel
  have hword : Criterion.directionOf? "ASC" = some .ascending := by decide +kernel
  have hleaves : Specification.leaves (some spec) =
      (["name"], .string "ASC") :: [(["age"], .number (.ofInt 1))] := rfl
  obtain ⟨ranking, hranking⟩ : ∃ ranking, ofSpecification 1 (some spec) = .ok ranking := ⟨_, rfl⟩
  refine ⟨ranking, hranking, ?_, ?_⟩
  · obtain ⟨-, -, h⟩ := compare_of_lowered (x := x) (y := y) hranking hleaves hword rfl rfl
    exact (h hupper hsmall).1 hlt
  · obtain ⟨-, -, h⟩ := compare_of_lowered (x := y) (y := x) hranking hleaves hword rfl rfl
    exact (h hsmall hupper).2 hlt

/-- A letter of title case goes behind the small letter of another, although its lowercase goes
before that. -/
theorem compare_titlecase :
    Text.lowered "ᾈ" < Text.lowered "ᾁ" ∧
    ∃ ranking, ofSpecification 0 (some (.string "asc")) = .ok ranking ∧
      ranking.compare (.string "ᾈ") (.string "ᾁ") = .gt := by
  refine ⟨by decide +kernel, _, rfl, by decide +kernel⟩

end Ranking

end RecordQuery

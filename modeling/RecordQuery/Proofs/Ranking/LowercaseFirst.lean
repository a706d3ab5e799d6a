import RecordQuery.Proofs.Ranking.Caseless
import RecordQuery.Proofs.Text.Falling

/-!
# Lowercase against capitals

Records whose texts differ in case only are ranked by the code points of the texts, in reverse. That
puts the lowercase of a text before the text wherever the first capital in it comes before its small
letter, as most do. Where the small letter comes first in the order of code points, the capitals are
put before it (`Ranking.compare_with_lowered`, `Ranking.compare_sharp_s`).
-/

namespace RecordQuery.Ranking

variable {limit : Nat} {spec : Option Value} {ranking : Ranking} {path : Path} {word : String}
  {direction : Direction} {rest : List (Path × Value)} {x y : Value} {s : String}

/-- A text with an uppercase character and its lowercase stand where a specification has its first
leaf, and the leaf ranks by texts. If the text is not its own lowercase, then the first character
that lowercase changes decides: in ascending order the lowercase goes before the text, unless that
character falls, and then behind it, and in descending order the other way round. -/
theorem compare_with_lowered (h : ofSpecification limit spec = .ok ranking)
    (hleaves : Specification.leaves spec = (path, .string word) :: rest)
    (hword : Criterion.directionOf? word = some direction)
    (hx : path.partOf x = .string (Text.lowered s)) (hy : path.partOf y = .string s)
    (hupper : s.toList.any Text.isUppercase = true) (hne : Text.lowered s ≠ s) :
    ∃ c, s.toList.find? Text.changes = some c ∧
      (Text.falls c = false → ranking.compare x y = direction.orient .lt ∧
        ranking.compare y x = direction.orient .gt) ∧
      (Text.falls c = true → ranking.compare x y = direction.orient .gt ∧
        ranking.compare y x = direction.orient .lt) := by
  obtain ⟨c, hfirst⟩ := Text.exists_first_change hne
  have hcollate := Text.collate_lowered (.inl hupper) hfirst
  have hswap : Text.collate s (Text.lowered s) = (Text.collate (Text.lowered s) s).swap :=
    Text.preordersOn_collate.swap (Text.lowered s) s trivial trivial
  have hxy := compare_of_first_leaf_oriented h hleaves hword hx hy
  have hyx := compare_of_first_leaf_oriented h hleaves hword hy hx
  refine ⟨c, hfirst, fun hfalls => ?_, fun hfalls => ?_⟩
  · rw [hfalls, if_neg Bool.false_ne_true] at hcollate
    rw [hswap, hcollate] at hyx
    rw [hcollate] at hxy
    exact ⟨hxy nofun, hyx nofun⟩
  · rw [hfalls, if_pos rfl] at hcollate
    rw [hswap, hcollate] at hyx
    rw [hcollate] at hxy
    exact ⟨hxy nofun, hyx nofun⟩

/-- A Greek name, which ends in a capital sigma, and in descending order a French one, whose first
capital falls. -/
theorem compare_with_lowered_of_names :
    let greek : Value := .string "ΟΔΥΣΣΕΥΣ"
    let french (name : String) : Value := .object [("name", .string name)]
    (∃ ranking, ofSpecification 0 (some (.string "asc")) = .ok ranking ∧
      ranking.compare (.string "οδυσσευς") greek = .lt) ∧
    ∃ ranking, ofSpecification 1 (some (.object [("name", .string "desc")])) = .ok ranking ∧
      ranking.compare (french "l'haÿ") (french "l'haŸ") = .lt := by
  intro greek french
  have hword : Criterion.directionOf? "asc" = some .ascending := by decide +kernel
  have hword' : Criterion.directionOf? "desc" = some .descending := by decide +kernel
  have hgreek : Text.lowered "ΟΔΥΣΣΕΥΣ" = "οδυσσευς" := by decide +kernel
  have hfrench : Text.lowered "l'haŸ" = "l'haÿ" := by decide +kernel
  constructor
  · obtain ⟨ranking, hranking⟩ :
        ∃ ranking, ofSpecification 0 (some (.string "asc")) = .ok ranking :=
      ⟨_, rfl⟩
    have hx : Path.partOf [] (.string "οδυσσευς") = .string (Text.lowered "ΟΔΥΣΣΕΥΣ") :=
      congrArg Value.string hgreek.symm
    have hy : Path.partOf [] greek = .string "ΟΔΥΣΣΕΥΣ" := rfl
    obtain ⟨c, hfirst, hrises, -⟩ := compare_with_lowered hranking rfl hword hx hy
      (by decide +kernel) (by decide +kernel)
    refine ⟨ranking, hranking, ?_⟩
    have hchange : "ΟΔΥΣΣΕΥΣ".toList.find? Text.changes = some 'Ο' := by decide +kernel
    rw [hchange] at hfirst
    obtain rfl := Option.some.inj hfirst
    exact (hrises (by decide +kernel)).1
  · obtain ⟨ranking, hranking⟩ :
        ∃ ranking, ofSpecification 1 (some (.object [("name", .string "desc")])) = .ok ranking :=
      ⟨_, rfl⟩
    have hx : Path.partOf ["name"] (french "l'haÿ") = .string (Text.lowered "l'haŸ") :=
      congrArg Value.string hfrench.symm
    have hy : Path.partOf ["name"] (french "l'haŸ") = .string "l'haŸ" := rfl
    obtain ⟨c, hfirst, -, hfalls⟩ := compare_with_lowered hranking rfl hword' hx hy
      (by decide +kernel) (by decide +kernel)
    refine ⟨ranking, hranking, ?_⟩
    have hchange : "l'haŸ".toList.find? Text.changes = some 'Ÿ' := by decide +kernel
    rw [hchange] at hfirst
    obtain rfl := Option.some.inj hfirst
    exact (hfalls (by decide +kernel)).1

/-- The capital sharp s goes before the small one, which is its lowercase. -/
theorem compare_sharp_s :
    "ẞ".toList.any Text.isUppercase = true ∧ Text.lowered "ẞ" = "ß" ∧
    ∃ ranking, ofSpecification 0 (some (.string "asc")) = .ok ranking ∧
      ranking.compare (.string "ß") (.string "ẞ") = .gt := by
  refine ⟨by decide +kernel, by decide +kernel, _, rfl, by decide +kernel⟩

end RecordQuery.Ranking

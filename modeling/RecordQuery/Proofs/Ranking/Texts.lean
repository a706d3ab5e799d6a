import RecordQuery.Proofs.Ranking.Order
import RecordQuery.Proofs.Ranking.Sorting

/-!
# Ranking texts

Texts that tie by their folded keys are told apart by their code points, so only a text itself ties
with it (`Text.collate_eq_iff`) and the order of texts is linear. A list in a linear order is the
only permutation of its elements in that order, so sorting does not depend on how they stood
(`Sorting.sort_eq_of_perm`), and a ranking by texts in either direction puts every permutation of a
list of texts into one order (`Ranking.sort_texts`).
-/

namespace RecordQuery

/-! ## The order of texts -/

namespace Text

variable {a b c : String}

/-- Texts compare the other way round in reverse. -/
theorem collate_swap (a b : String) : collate b a = (collate a b).swap :=
  preordersOn_collate.swap a b trivial trivial

/-- Only a text itself ties with a text: if the keys are equal, the code points decide. -/
theorem collate_eq_iff : collate a b = .eq ↔ a = b := by
  constructor
  · intro h
    obtain ⟨-, hcodes⟩ := Ordering.then_eq_eq.1 h
    exact (Std.LawfulEqCmp.eq_of_compare hcodes).symm
  · rintro rfl
    exact preordersOn_collate.refl a trivial

/-- A text before one that is before a third is before the third. -/
theorem collate_trans (hab : collate a b = .lt) (hbc : collate b c = .lt) : collate a c = .lt := by
  have hac : collate a c ≠ .gt :=
    preordersOn_collate.trans a b c trivial trivial trivial (by simp [hab]) (by simp [hbc])
  cases hcmp : collate a c with
  | lt => rfl
  | gt => exact absurd hcmp hac
  | eq =>
    -- then the third is the first, and it cannot stand on both sides of the second
    obtain rfl := collate_eq_iff.1 hcmp
    rw [collate_swap, hab] at hbc
    cases hbc

end Text

/-- Only equal orderings are equal in a direction. -/
theorem Direction.orient_eq_eq_iff (direction : Direction) {o : Ordering} :
    direction.orient o = .eq ↔ o = .eq := by
  cases direction <;> cases o <;> decide

/-! ## Sorting texts -/

namespace Ranking

/-- A word for a direction, alone, ranks by texts in that direction. -/
theorem ofSpecification_word (limit : Nat) {word : String} {direction : Direction}
    (hword : Criterion.directionOf? word = some direction) :
    ofSpecification limit (some (.string word)) = .ok (leaf (.text direction)) := by
  simp only [ofSpecification, ofPart, Criterion.ofLeaf_word hword]
  exact if_neg (Nat.not_lt_zero limit)

/-- Texts compare as they collate, in the direction. -/
theorem compare_string (direction : Direction) (a b : String) :
    (leaf (.text direction)).compare (.string a) (.string b) =
      direction.orient (Text.collate a b) :=
  Criterion.compare_text direction (.string a) (.string b)

/-- Sorting texts as values is sorting the texts. -/
theorem sort_map_string (direction : Direction) (texts : List String) :
    (leaf (.text direction)).sort (texts.map .string) =
      (Sorting.sort (fun a b => direction.orient (Text.collate a b)) texts).map .string :=
  Sorting.sort_map (compare_string direction) texts

/-- Texts are in a strict linear order: they compare in reverse the other way round, what is before
a text is before all that the text is before, and only the text itself ties with it. So the ranking
that a word for a direction specifies sorts all permutations of a list of texts to one list, which
holds the texts in that order. -/
theorem sort_texts :
    ((∀ a b, Text.collate b a = (Text.collate a b).swap) ∧
      (∀ a b c, Text.collate a b = .lt → Text.collate b c = .lt → Text.collate a c = .lt) ∧
      ∀ a b, Text.collate a b = .eq ↔ a = b) ∧
    ∀ limit word direction, Criterion.directionOf? word = some direction →
      ∃ ranking, ofSpecification limit (some (.string word)) = .ok ranking ∧
        ∀ texts : List String, ∃ sorted : List String, sorted.Perm texts ∧
          (sorted.Pairwise fun a b => direction.orient (Text.collate a b) ≠ .gt) ∧
          ∀ others : List String, others.Perm texts →
            ranking.sort (others.map .string) = sorted.map .string := by
  refine ⟨⟨Text.collate_swap, fun _ _ _ => Text.collate_trans, fun _ _ => Text.collate_eq_iff⟩, ?_⟩
  intro limit word direction hword
  refine ⟨leaf (.text direction), ofSpecification_word limit hword, ?_⟩
  intro texts
  have hpreorder : PreordersOn (fun a b => direction.orient (Text.collate a b)) (· ∈ texts) :=
    (Text.preordersOn_collate.orient direction).mono fun _ _ => trivial
  obtain ⟨hsorted, hordered, -⟩ := Sorting.stablySorted_sort hpreorder
  refine ⟨_, hsorted, hordered, ?_⟩
  intro others hperm
  rw [sort_map_string, Sorting.sort_eq_of_perm hpreorder ?_ hperm]
  intro a b _ _ htie
  exact Text.collate_eq_iff.1 ((direction.orient_eq_eq_iff).1 htie)

/-- Names in two cases of their letters and the folded form of one, upwards and downwards. -/
theorem sort_texts_of_names :
    let names := ["Émile", "zoë", "Zoë", "émile", "EMILE"]
    let others := ["émile", "Zoë", "EMILE", "zoë", "Émile"]
    ∃ upwards downwards, ofSpecification 0 (some (.string "asc")) = .ok upwards ∧
      ofSpecification 0 (some (.string "desc")) = .ok downwards ∧
      upwards.sort (others.map .string) = upwards.sort (names.map .string) ∧
      downwards.sort (others.map .string) = downwards.sort (names.map .string) := by
  intro names others
  have hperm : others.Perm names := by decide +kernel
  obtain ⟨-, hsorts⟩ := sort_texts
  obtain ⟨upwards, hup, hsortup⟩ := hsorts 0 "asc" .ascending (by decide +kernel)
  obtain ⟨downwards, hdown, hsortdown⟩ := hsorts 0 "desc" .descending (by decide +kernel)
  obtain ⟨_, -, -, hupwards⟩ := hsortup names
  obtain ⟨_, -, -, hdownwards⟩ := hsortdown names
  refine ⟨upwards, downwards, hup, hdown, ?_, ?_⟩
  · rw [hupwards others hperm, hupwards names (.refl _)]
  · rw [hdownwards others hperm, hdownwards names (.refl _)]

end Ranking

end RecordQuery

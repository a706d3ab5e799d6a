import RecordQuery.Ranking.Collation

/-!
# Texts without regard to case

Collation folds a text to its lowercase, but only if it has an uppercase character. There are
letters that have a lowercase without being uppercase, the letters of title case
(`lowercaseChar_of_not_uppercase`). So a text is folded to its lowercase exactly if it has an
uppercase character or no letter of title case (`fold_eq_lowered_iff`).
-/

namespace RecordQuery.Text

/-! ## Title case -/

/-- The code points of the letters of title case, which begin with a capital and go on small. -/
def titlecasePoints : List Nat :=
  [0x01C5, 0x01C8, 0x01CB, 0x01F2] ++ List.range' 0x1F88 8 ++ List.range' 0x1F98 8
    ++ List.range' 0x1FA8 8 ++ [0x1FBC, 0x1FCC, 0x1FFC]

/-- A letter of title case. -/
def isTitlecase (c : Char) : Bool := titlecasePoints.contains c.toNat

/-- The members of a stretch. -/
def CaseStretch.members (s : CaseStretch) : List Nat :=
  List.range' s.first ((s.last - s.first) / s.step + 1) s.step

/-- The members are what a stretch contains. -/
theorem CaseStretch.mem_members {s : CaseStretch} {point : Nat} (h : s.contains point = true) :
    point ∈ s.members := by
  simp only [contains, Bool.and_eq_true, decide_eq_true_eq, beq_iff_eq] at h
  obtain ⟨⟨hfirst, hlast⟩, hstep⟩ := h
  rw [members, List.mem_range']
  refine ⟨(point - s.first) / s.step, ?_, ?_⟩
  · exact Nat.lt_succ_of_le (Nat.div_le_div_right (by omega))
  · have := Nat.div_add_mod (point - s.first) s.step
    omega

/-- Of the stretches of a sorted table, those that have a part between two points. -/
def around {α : Type} (first last : α → Nat) (low high : Nat) (stretches : List α) : List α :=
  (stretches.dropWhile fun s => (last s).blt low).takeWhile fun s => (first s).ble high

/-- What lies around points is in the table. -/
theorem mem_of_mem_around {α : Type} {first last : α → Nat} {low high : Nat} {stretches : List α}
    {s : α} (h : s ∈ around first last low high stretches) : s ∈ stretches :=
  (List.dropWhile_suffix _).mem ((List.takeWhile_prefix _).mem h)

/-- The stretches of uppercase characters that a stretch overlaps with. -/
def CaseStretch.uppercase (s : CaseStretch) : List (Nat × Nat × Nat) :=
  around (·.1) (·.2.1) s.first s.last uppercaseStretches

/-- What has a lowercase is uppercase or of title case. -/
theorem cased_of_mem_lowercaseStretches : ∀ s ∈ lowercaseStretches, ∀ point ∈ s.members,
    (s.uppercase.any fun (first, last, step) =>
      first ≤ point && point ≤ last && (point - first) % step == 0) = true ∨
      point ∈ titlecasePoints := by
  have htable : (lowercaseStretches.all fun s => s.members.all fun point =>
      (s.uppercase.any fun (first, last, step) =>
        first ≤ point && point ≤ last && (point - first) % step == 0) ||
        titlecasePoints.contains point) = true := by
    decide +kernel
  simpa only [List.all_eq_true, Bool.or_eq_true, List.contains_iff_mem] using htable

/-- The lowercase of a letter of title case is another letter. -/
theorem lowercaseChar_of_mem_titlecasePoints : ∀ point ∈ titlecasePoints,
    lowercaseChar (Char.ofNat point) ≠ [Char.ofNat point] := by
  have hmoved : (titlecasePoints.all fun point =>
      lowercaseChar (Char.ofNat point) != [Char.ofNat point]) = true := by
    decide
  simpa only [List.all_eq_true, bne_iff_ne] using hmoved

/-! ## Characters -/

/-- A character that is no uppercase one has one lowercase character, and that is another exactly
for the letters of title case. -/
theorem lowercaseChar_of_not_uppercase {c : Char} (h : isUppercase c = false) :
    ∃ d, lowercaseChar c = [d] ∧ (d = c ↔ isTitlecase c = false) := by
  have hdotted : c ≠ '\u0130' := by
    rintro rfl
    revert h
    decide
  have hsame : isTitlecase c = true → lowercaseChar c ≠ [c] := by
    intro htitle
    have hpoint := lowercaseChar_of_mem_titlecasePoints c.toNat (List.contains_iff_mem.1 htitle)
    rwa [Char.ofNat_toNat] at hpoint
  unfold lowercaseChar at hsame ⊢
  rw [if_neg hdotted] at hsame ⊢
  cases hfind : lowercaseStretches.find? (·.contains c.toNat) with
  | none =>
    rw [hfind] at hsame
    refine ⟨c, rfl, iff_of_true rfl ?_⟩
    exact eq_false_of_ne_true fun htitle => hsame htitle rfl
  | some stretch =>
    rw [hfind] at hsame
    have hcontains : stretch.contains c.toNat = true := by simpa using List.find?_some hfind
    have hmem := CaseStretch.mem_members hcontains
    have htitle : isTitlecase c = true := by
      rcases cased_of_mem_lowercaseStretches stretch (List.mem_of_find?_eq_some hfind) _ hmem with
        hupper | htitle
      · obtain ⟨stretch', hmem', hin⟩ := List.any_eq_true.1 hupper
        have hupper : isUppercase c = true :=
          List.any_eq_true.2 ⟨stretch', mem_of_mem_around hmem', hin⟩
        rw [h] at hupper
        cases hupper
      · exact List.contains_iff_mem.2 htitle
    refine ⟨_, rfl, iff_of_false ?_ ?_⟩
    · exact fun heq => hsame htitle (congrArg (fun d => [d]) heq)
    · rw [htitle]
      exact Bool.noConfusion

/-! ## Texts -/

/-- A text without uppercase characters is its own lowercase exactly if it has no letter of title
case. -/
theorem lowercaseAfter_eq_self_iff {cs : List Char} (before : List Char)
    (h : ∀ c ∈ cs, isUppercase c = false) :
    lowercaseAfter before cs = cs ↔ ∀ c ∈ cs, isTitlecase c = false := by
  induction cs generalizing before with
  | nil => exact iff_of_true rfl nofun
  | cons c rest ih =>
    rw [List.forall_mem_cons] at h ⊢
    have hsigma : c ≠ 'Σ' := by
      rintro rfl
      exact absurd h.1 (by decide)
    obtain ⟨d, hd, hiff⟩ := lowercaseChar_of_not_uppercase h.1
    rw [lowercaseAfter, if_neg hsigma, hd, List.singleton_append, List.cons_eq_cons, ih _ h.2, hiff]

/-- The full lowercase of a text. -/
def lowered (s : String) : String := String.ofList (lowercase s.toList)

/-- The text has an uppercase character or no letter of title case. -/
def Foldable (s : String) : Prop :=
  s.toList.any isUppercase = true ∨ s.toList.any isTitlecase = false

/-- The texts that are folded to their lowercase are the foldable ones. -/
theorem fold_eq_lowered_iff {s : String} : fold s = lowered s ↔ Foldable s := by
  rw [fold, Foldable]
  split
  · rename_i hupper
    exact iff_of_true rfl (.inl hupper)
  · rename_i hupper
    rw [Bool.not_eq_true, List.any_eq_false] at hupper
    have hnone : ∀ c ∈ s.toList, isUppercase c = false := fun c hc =>
      eq_false_of_ne_true (hupper c hc)
    have hnot : ¬ s.toList.any isUppercase = true := by simpa using hnone
    rw [or_iff_right hnot, lowered, eq_comm, ← String.toList_inj, String.toList_ofList, lowercase,
      lowercaseAfter_eq_self_iff [] hnone, List.any_eq_false]
    simp

end RecordQuery.Text

import Mathlib.Data.List.Chain
import RecordQuery.Proofs.Text.Lowercase

/-!
# A text against its lowercase

Lowercase leaves nothing that it would change (`not_changes_of_mem_lowercaseAfter`), so a text and its
lowercase are folded to the same text, and collation puts them in the reverse order of their code
points. The two part at the first character that lowercase changes. Most capitals come before their
small letters, so that the lowercase goes first; but the lowercase of some capitals begins before
them (`falls`), and a text whose first change is at one of these goes before its lowercase
(`collate_lowered`).
-/

namespace RecordQuery.Text

/-- Lowercase changes the character. -/
def changes (c : Char) : Bool := lowercaseChar c != [c]

/-- The lowercase of the character begins before it in the order of code points. -/
def falls (c : Char) : Bool := (lowercaseChar c).head?.any (· < c)

/-! ## Sorted tables -/

section
variable {α : Type} {first last : α → Nat} {low high : Nat} {stretches : List α} {s : α}

/-- Of a sorted table everything that begins early enough is taken. -/
theorem mem_takeWhile_first (hsorted : stretches.Pairwise fun s t => first s ≤ first t)
    (hs : s ∈ stretches) (h : first s ≤ high) :
    s ∈ stretches.takeWhile fun s => (first s).ble high := by
  induction stretches with
  | nil => cases hs
  | cons t rest ih =>
    obtain ⟨hfirst, hrest⟩ := List.pairwise_cons.1 hsorted
    have hle : first t ≤ high := by
      rcases List.mem_cons.1 hs with rfl | hmem
      · exact h
      · exact Nat.le_trans (hfirst s hmem) h
    have htaken : (first t).ble high = true := Nat.ble_eq_true_of_le hle
    rw [List.takeWhile_cons, htaken]
    rcases List.mem_cons.1 hs with rfl | hmem
    · exact .head _
    · exact .tail _ (ih hrest hmem)

/-- Whatever has a part between two points lies around them, if the table is sorted. -/
theorem mem_around (hsorted : stretches.Pairwise fun s t => first s ≤ first t)
    (hs : s ∈ stretches) (hlow : low ≤ last s) (hhigh : first s ≤ high) :
    s ∈ around first last low high stretches := by
  have hkept : s ∈ stretches.dropWhile fun s => (last s).blt low := by
    rw [← List.takeWhile_append_dropWhile (p := fun s => (last s).blt low) (l := stretches)] at hs
    refine (List.mem_append.1 hs).resolve_left fun hskipped => ?_
    have hbefore : (last s).blt low = true := List.all_eq_true.1 List.all_takeWhile s hskipped
    rw [Nat.blt_eq] at hbefore
    exact absurd hlow (Nat.not_le.2 hbefore)
  exact mem_takeWhile_first (hsorted.sublist (List.dropWhile_sublist _)) hkept hhigh

end

/-! ## Lowercase characters -/

/-- The code point that a stretch moves a member to. -/
def CaseStretch.image (s : CaseStretch) (point : Nat) : Nat := ((point : Int) + s.shift).toNat

/-- The stretches that the image of a stretch overlaps with. -/
def CaseStretch.reached (s : CaseStretch) : List CaseStretch :=
  around (·.first) (·.last) (s.image s.first) (s.image s.last) lowercaseStretches

/-- The table is sorted, and what it moves is not moved again: it is in no stretch, and it is not
the dotted capital I. -/
theorem lowercaseStretches_spec :
    (lowercaseStretches.Pairwise fun s t => s.first ≤ t.first) ∧
    ∀ s ∈ lowercaseStretches, (s.image s.last < 0x0130 ∨ 0x0130 < s.image s.first) ∧
      ∀ t ∈ s.reached, ∀ point ∈ s.members, t.contains (s.image point) = false := by
  have hsorted : (lowercaseStretches.map (·.first)).IsChain (· ≤ ·) := by decide +kernel
  have hmoved : (lowercaseStretches.all fun s =>
      (decide (s.image s.last < 0x0130) || decide (0x0130 < s.image s.first)) &&
      s.reached.all fun t => s.members.all fun point => !t.contains (s.image point)) = true := by
    decide +kernel
  refine ⟨List.pairwise_map.1 (List.isChain_iff_pairwise.1 hsorted), ?_⟩
  simpa only [List.all_eq_true, Bool.and_eq_true, Bool.or_eq_true, decide_eq_true_eq,
    Bool.not_eq_true'] using hmoved

/-- The lowercase characters that no stretch leads to are not changed either, nor is the character
that stands for a code point that is none. -/
theorem not_changes_of_mem_others :
    ∀ c ∈ ['\x00', 'i', '\u0307', 'ς', 'σ'], changes c = false := by
  have hothers : (['\x00', 'i', '\u0307', 'ς', 'σ'].all fun c => !changes c) = true := by decide
  simpa only [List.all_eq_true, Bool.not_eq_true'] using hothers

/-- The capital sigma is changed, and does not fall. -/
theorem changes_sigma : changes 'Σ' = true ∧ falls 'Σ' = false := by decide

/-- A member is moved between the images of the first and the last. -/
theorem CaseStretch.image_bounds {s : CaseStretch} {point : Nat} (h : s.contains point = true) :
    s.image s.first ≤ s.image point ∧ s.image point ≤ s.image s.last := by
  simp only [contains, Bool.and_eq_true, decide_eq_true_eq] at h
  unfold image
  omega

/-- The image of a member is in no stretch. -/
theorem CaseStretch.contains_image {s t : CaseStretch} {point : Nat} (hs : s ∈ lowercaseStretches)
    (ht : t ∈ lowercaseStretches) (hpoint : s.contains point = true) :
    t.contains (s.image point) = false := by
  refine Bool.eq_false_iff.2 fun hin => ?_
  obtain ⟨hlow, hhigh⟩ := image_bounds hpoint
  have hbounds := hin
  simp only [contains, Bool.and_eq_true, decide_eq_true_eq] at hbounds
  obtain ⟨hsorted, hmoved⟩ := lowercaseStretches_spec
  have hreached : t ∈ s.reached :=
    mem_around hsorted ht (Nat.le_trans hlow hbounds.1.2) (Nat.le_trans hbounds.1.1 hhigh)
  rw [(hmoved s hs).2 t hreached point (mem_members hpoint)] at hin
  cases hin

/-- The image of a member is its own lowercase. -/
theorem changes_image {s : CaseStretch} (hs : s ∈ lowercaseStretches) {point : Nat}
    (hpoint : s.contains point = true) : changes (Char.ofNat (s.image point)) = false := by
  by_cases hvalid : (s.image point).isValidChar
  · have htoNat : (Char.ofNat (s.image point)).toNat = s.image point := by
      rw [Char.ofNat, dif_pos hvalid]
      rfl
    have hnone : lowercaseStretches.find? (·.contains (s.image point)) = none := by
      refine List.find?_eq_none.2 fun t ht => ?_
      rw [CaseStretch.contains_image hs ht hpoint]
      exact Bool.false_ne_true
    have hdotted : Char.ofNat (s.image point) ≠ '\u0130' := by
      intro heq
      have himage : s.image point = 0x0130 := by
        rw [← htoNat, heq]
        rfl
      have hbounds := CaseStretch.image_bounds hpoint
      have hne := (lowercaseStretches_spec.2 s hs).1
      omega
    rw [changes, lowercaseChar, if_neg hdotted, htoNat, hnone]
    simp
  · rw [Char.ofNat, dif_neg hvalid]
    exact not_changes_of_mem_others '\x00' (.head _)

/-- Lowercase does not change the lowercase of a character. -/
theorem not_changes_of_mem_lowercaseChar {c d : Char} (h : d ∈ lowercaseChar c) :
    changes d = false := by
  unfold lowercaseChar at h
  split at h
  · have hdecomposed : ['i', '\u0307'] ⊆ ['\x00', 'i', '\u0307', 'ς', 'σ'] := by decide
    exact not_changes_of_mem_others d (hdecomposed h)
  · rename_i hdotted
    split at h
    · rename_i stretch hfind
      rw [List.mem_singleton.1 h]
      exact changes_image (List.mem_of_find?_eq_some hfind) (by simpa using List.find?_some hfind)
    · rename_i hfind
      rw [List.mem_singleton.1 h, changes, lowercaseChar, if_neg hdotted, hfind]
      simp

/-- A character that is not changed is its lowercase, and no capital sigma. -/
theorem lowercaseChar_of_not_changes {c : Char} (h : changes c = false) :
    lowercaseChar c = [c] ∧ c ≠ 'Σ' := by
  refine ⟨by simpa [changes] using h, ?_⟩
  rintro rfl
  rw [changes_sigma.1] at h
  cases h

/-- The lowercase of a character that is changed begins before it or behind it. -/
theorem head?_lowercaseChar {c : Char} (h : changes c = true) :
    ∃ d ds, lowercaseChar c = d :: ds ∧ if falls c then d < c else c < d := by
  obtain ⟨d, ds, hlowered, hne⟩ : ∃ d ds, lowercaseChar c = d :: ds ∧ d ≠ c := by
    rw [changes, bne_iff_ne] at h
    unfold lowercaseChar at h ⊢
    split
    · rename_i hdotted
      exact ⟨_, _, rfl, by rw [hdotted]; decide⟩
    · rename_i hdotted
      rw [if_neg hdotted] at h
      split
      · rename_i stretch hfind
        rw [hfind] at h
        exact ⟨_, _, rfl, fun heq => h (congrArg (fun d => [d]) heq)⟩
      · rename_i hfind
        rw [hfind] at h
        exact absurd rfl h
  refine ⟨d, ds, hlowered, ?_⟩
  have hfalls : falls c = decide (d < c) := by
    rw [falls, hlowered]
    rfl
  rw [hfalls]
  split
  · rename_i hlt
    exact of_decide_eq_true hlt
  · rename_i hlt
    have hle : c ≤ d := Char.not_lt.1 (by simpa using hlt)
    exact Std.lt_of_le_of_ne hle hne.symm

/-! ## Texts -/

variable {before cs : List Char} {c : Char}

/-- Lowercase changes nothing of what it has made. -/
theorem not_changes_of_mem_lowercaseAfter :
    ∀ d ∈ lowercaseAfter before cs, changes d = false := by
  induction cs generalizing before with
  | nil => exact nofun
  | cons c rest ih =>
    intro d hd
    rw [lowercaseAfter] at hd
    rcases List.mem_append.1 hd with hd | hd
    · split at hd
      · rw [List.mem_singleton.1 hd]
        split
        · exact not_changes_of_mem_others 'ς' (by decide)
        · exact not_changes_of_mem_others 'σ' (by decide)
      · exact not_changes_of_mem_lowercaseChar hd
    · exact ih d hd

/-- A character that is not changed stays in front of the lowercase of the rest. -/
theorem lowercaseAfter_cons_of_not_changes (rest : List Char) (h : changes c = false) :
    lowercaseAfter before (c :: rest) = c :: lowercaseAfter (c :: before) rest := by
  obtain ⟨hchar, hsigma⟩ := lowercaseChar_of_not_changes h
  rw [lowercaseAfter, if_neg hsigma, hchar, List.singleton_append]

/-- A text of which nothing is changed is its lowercase. -/
theorem lowercaseAfter_of_not_changes (h : ∀ c ∈ cs, changes c = false) :
    lowercaseAfter before cs = cs := by
  induction cs generalizing before with
  | nil => rfl
  | cons c rest ih =>
    rw [List.forall_mem_cons] at h
    rw [lowercaseAfter_cons_of_not_changes rest h.1, ih h.2]

/-- Where a character is changed, the lowercase parts from the text. -/
theorem head?_lowercaseAfter (before rest : List Char) (h : changes c = true) :
    ∃ d ds, lowercaseAfter before (c :: rest) = d :: ds ∧ if falls c then d < c else c < d := by
  rw [lowercaseAfter]
  split
  · rename_i hsigma
    subst hsigma
    have hforms : 'Σ' < 'ς' ∧ 'Σ' < 'σ' := by decide
    refine ⟨_, _, rfl, ?_⟩
    rw [changes_sigma.2, if_neg Bool.false_ne_true]
    split
    · exact hforms.1
    · exact hforms.2
  · obtain ⟨d, ds, hlowered, horder⟩ := head?_lowercaseChar h
    exact ⟨d, _, by rw [hlowered, List.cons_append], horder⟩

/-- The characters of a text go behind those of its lowercase if the first that is changed falls,
and else before them. -/
theorem lowercaseAfter_order (h : cs.find? changes = some c) :
    if falls c then lowercaseAfter before cs < cs else cs < lowercaseAfter before cs := by
  induction cs generalizing before with
  | nil => cases h
  | cons first rest ih =>
    rw [List.find?_cons] at h
    cases hfirst : changes first with
    | true =>
      rw [hfirst] at h
      obtain rfl : first = c := Option.some.inj h
      obtain ⟨d, ds, hlowered, horder⟩ := head?_lowercaseAfter before rest hfirst
      rw [hlowered, List.cons_lt_cons_iff, List.cons_lt_cons_iff]
      split at horder
      · rename_i hfalls
        rw [if_pos hfalls]
        exact .inl horder
      · rename_i hrises
        rw [if_neg hrises]
        exact .inl horder
    | false =>
      rw [hfirst] at h
      rw [lowercaseAfter_cons_of_not_changes rest hfirst, List.cons_lt_cons_self,
        List.cons_lt_cons_self]
      exact ih h

/-- A text goes behind its lowercase or before it as the first character that is changed says. -/
theorem lowered_order {s : String} (h : s.toList.find? changes = some c) :
    if falls c then lowered s < s else s < lowered s := by
  rw [String.lt_iff, String.lt_iff, lowered, String.toList_ofList]
  exact lowercaseAfter_order h

/-- A text that is not its own lowercase has a character that is changed. -/
theorem exists_first_change {s : String} (h : lowered s ≠ s) :
    ∃ c, s.toList.find? changes = some c := by
  refine Option.isSome_iff_exists.1 (Option.isSome_iff_ne_none.2 fun hnone => h ?_)
  have hself : lowercase s.toList = s.toList := lowercaseAfter_of_not_changes fun c hc =>
    eq_false_of_ne_true (List.find?_eq_none.1 hnone c hc)
  rw [lowered, hself, String.ofList_toList]

/-- The lowercase of a text is folded to itself. -/
theorem fold_lowered (s : String) : fold (lowered s) = lowered s := by
  rw [fold]
  split
  · have hself : lowercase (lowered s).toList = (lowered s).toList := by
      rw [lowered, String.toList_ofList]
      exact lowercaseAfter_of_not_changes not_changes_of_mem_lowercaseAfter
    rw [hself, String.ofList_toList]
  · rfl

/-- The comparison of texts is by their order. -/
theorem compare_of_lt {s t : String} (h : s < t) : compare s t = .lt := if_pos h

/-- A text and its lowercase collate in the reverse order of their code points. -/
theorem collate_lowered_eq {s : String} (h : Foldable s) :
    collate (lowered s) s = compare s (lowered s) := by
  have hself : compare (lowered s) (lowered s) = .eq := Std.ReflCmp.compare_self
  rw [collate, fold_lowered, fold_eq_lowered_iff.2 h, hself, Ordering.eq_then]

/-- The lowercase of a text collates before the text, unless the first character that is changed
falls: then it collates behind it. -/
theorem collate_lowered {s : String} (h : Foldable s) (hfirst : s.toList.find? changes = some c) :
    collate (lowered s) s = if falls c then .gt else .lt := by
  have horder := lowered_order hfirst
  rw [collate_lowered_eq h]
  split at horder
  · rename_i hfalls
    rw [if_pos hfalls]
    exact Std.OrientedCmp.gt_of_lt (compare_of_lt horder)
  · rename_i hrises
    rw [if_neg hrises]
    exact compare_of_lt horder

end RecordQuery.Text

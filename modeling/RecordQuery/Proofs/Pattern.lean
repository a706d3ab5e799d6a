import RecordQuery.Pattern
import RecordQuery.Proofs.Number.DecimalText

/-!
# The literal form of patterns

A pattern is read back from its literal form `/source/flags`, and whatever is read as a pattern is
the literal form of that (`Pattern.ofLiteral_text_and_back`). The source may hold slashes, but no
flag is one, so that the last slash of a literal is where the source ends
(`Pattern.splitLastSlash?_eq_some_iff`).
-/

namespace RecordQuery.Pattern

variable {cs before behind : List Char} {source flags text : String} {p : Pattern}

/-! ## Literals -/

/-- The last slash stands between the parts, and there is none in what is behind it. -/
theorem splitLastSlash?_eq_some_iff :
    splitLastSlash? cs = some (before, behind) ↔ cs = before ++ '/' :: behind ∧ '/' ∉ behind := by
  constructor
  · intro h
    have hparts := List.takeWhile_append_dropWhile (p := (· != '/')) (l := cs.reverse)
    have hstop := List.head?_dropWhile_not (· != '/') cs.reverse
    have hbehind : ∀ c ∈ cs.reverse.takeWhile (· != '/'), (c != '/') = true :=
      fun c hc => List.all_eq_true.1 List.all_takeWhile c hc
    unfold splitLastSlash? at h
    split at h
    · cases h
    · rename_i slash rest hdrop
      cases h
      rw [hdrop] at hparts hstop
      obtain rfl : slash = '/' := by simpa using hstop
      constructor
      · generalize cs.reverse.takeWhile (· != '/') = taken at hparts
        rw [← List.reverse_inj, ← hparts]
        simp
      · intro hmem
        exact bne_iff_ne.1 (hbehind '/' (List.mem_reverse.1 hmem)) rfl
  · rintro ⟨rfl, hslash⟩
    have hbehind : ∀ c ∈ behind.reverse, (c != '/') = true := by
      intro c hc
      rw [bne_iff_ne]
      rintro rfl
      exact hslash (List.mem_reverse.1 hc)
    have hhead : ∀ c ∈ ('/' :: before.reverse).head?, (c != '/') = false := by simp
    have hreverse :
        (before ++ '/' :: behind).reverse = behind.reverse ++ '/' :: before.reverse := by simp
    obtain ⟨htake, hdrop⟩ := Number.takeWhile_append_of_head? hbehind hhead
    rw [splitLastSlash?, hreverse, htake, hdrop]
    simp

/-- The characters of a literal. -/
theorem toList_literal (source flags : String) :
    (literal source flags).toList = '/' :: (source.toList ++ '/' :: flags.toList) := by
  simp [literal]

/-- What is read of a text is the pattern of its parts, if it is a literal. -/
theorem ofLiteral_eq_ok_iff : ofLiteral text = .ok p ↔
    ∃ source flags, text = literal source flags ∧ '/' ∉ flags.toList ∧
      withFlags source flags = .ok p := by
  constructor
  · intro h
    unfold ofLiteral at h
    split at h
    · rename_i rest htext
      split at h
      · rename_i before behind hsplit
        obtain ⟨rfl, hslash⟩ := splitLastSlash?_eq_some_iff.1 hsplit
        refine ⟨String.ofList before, String.ofList behind, ?_, ?_, h⟩
        · rw [← String.toList_inj, toList_literal, htext, String.toList_ofList,
            String.toList_ofList]
        · rwa [String.toList_ofList]
      · cases h
    · cases h
  · rintro ⟨source, flags, rfl, hslash, h⟩
    have hsplit : splitLastSlash? (source.toList ++ '/' :: flags.toList) =
        some (source.toList, flags.toList) := splitLastSlash?_eq_some_iff.2 ⟨rfl, hslash⟩
    simp only [ofLiteral, toList_literal, hsplit, String.ofList_toList]
    exact h

/-! ## Patterns -/

/-- The flags that a pattern may have. -/
def knownFlags : List Char := ['i', 'm', 's', 'g', 'y', 'u', 'd', 'v']

/-- Flags are accepted only if they are known. -/
theorem mem_knownFlags_of_readingFlags {reading reading' : Regex.Flags}
    (h : readingFlags reading cs = .ok reading') : ∀ flag ∈ cs, flag ∈ knownFlags := by
  fun_induction readingFlags reading cs with
  | case1 => exact nofun
  | case2 _ _ ih | case3 _ _ ih | case4 _ _ ih | case5 _ _ ih | case6 _ _ ih | case7 _ _ ih
  | case8 _ _ ih | case9 _ _ ih => exact List.forall_mem_cons.2 ⟨by decide, ih h⟩
  | case10 => cases h

/-- A pattern is made of its source and flags, and of no others. -/
theorem withFlags_eq_ok_iff :
    withFlags source flags = .ok p ↔ p.source = source ∧ p.flags = flags := by
  constructor
  · intro h
    unfold withFlags at h
    split at h
    · cases h
      exact ⟨rfl, rfl⟩
    · cases h
  · rintro ⟨rfl, rfl⟩
    unfold withFlags
    split
    · exact congrArg Except.ok (ext_texts rfl rfl)
    · rename_i hfault
      rw [p.exprOf_eq] at hfault
      cases hfault

/-- No flag of a pattern is a slash. -/
theorem slash_not_mem_flags (p : Pattern) : '/' ∉ p.flags.toList := by
  have hexpr := p.exprOf_eq
  unfold exprOf at hexpr
  split at hexpr
  · cases hexpr
  · rename_i reading hreading
    intro hmem
    have hknown : '/' ∈ knownFlags := mem_knownFlags_of_readingFlags hreading '/' hmem
    exact absurd hknown (by decide)

/-- A pattern is read back from its literal form, with the source and flags that it was made of. And
whatever is read as a pattern is the literal form of that pattern. -/
theorem ofLiteral_text_and_back :
    (∀ source flags p, withFlags source flags = .ok p →
      ofLiteral p.text = .ok p ∧ p.source = source ∧ p.flags = flags) ∧
    ∀ text p, ofLiteral text = .ok p → p.text = text := by
  constructor
  · intro source flags p h
    obtain ⟨hsource, hflags⟩ := withFlags_eq_ok_iff.1 h
    refine ⟨ofLiteral_eq_ok_iff.2 ?_, hsource, hflags⟩
    exact ⟨p.source, p.flags, rfl, slash_not_mem_flags p, withFlags_eq_ok_iff.2 ⟨rfl, rfl⟩⟩
  · intro text p h
    obtain ⟨source, flags, rfl, -, hp⟩ := ofLiteral_eq_ok_iff.1 h
    obtain ⟨rfl, rfl⟩ := withFlags_eq_ok_iff.1 hp
    rfl

/-- A source that holds a slash and ends in one. -/
theorem ofLiteral_text_and_back_of_slashes :
    (∃ p, withFlags "a/b/" "gi" = .ok p ∧ ofLiteral p.text = .ok p ∧ p.source = "a/b/" ∧
      p.flags = "gi") ∧
    ∃ p, ofLiteral "/a/b//gi" = .ok p ∧ p.text = "/a/b//gi" := by
  obtain ⟨hread, hback⟩ := ofLiteral_text_and_back
  have hmade : (withFlags "a/b/" "gi").isOk = true := by decide +kernel
  have hliteral : (ofLiteral "/a/b//gi").isOk = true := by decide +kernel
  constructor
  · cases hp : withFlags "a/b/" "gi" with
    | ok p => exact ⟨p, rfl, hread "a/b/" "gi" p hp⟩
    | error fault =>
      rw [hp] at hmade
      cases hmade
  · cases hp : ofLiteral "/a/b//gi" with
    | ok p => exact ⟨p, rfl, hback "/a/b//gi" p hp⟩
    | error fault =>
      rw [hp] at hliteral
      cases hliteral

end RecordQuery.Pattern

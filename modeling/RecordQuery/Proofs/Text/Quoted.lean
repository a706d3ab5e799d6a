import RecordQuery.Json.Token
import RecordQuery.Text.Quoted

/-!
# Quoted text reads back

What stands between the quotes of a quoted text reads as the text (`readString_quoteChars`),
whatever follows the closing quote. No line break stands in a quoted text (`newline_not_mem_quote`).
-/

namespace RecordQuery

namespace Text

/-- The letter behind a backslash denotes the character that it was chosen for. -/
theorem unescape?_escapeLetter? {c letter : Char} (h : escapeLetter? c = some letter) :
    Json.unescape? letter = some c ∧ letter ≠ 'u' := by
  unfold escapeLetter? at h
  split at h
  case h_8 => cases h
  all_goals
    cases h
    exact ⟨rfl, by decide⟩

/-- The four digits of a control character denote it. -/
theorem unit?_hexDigit {n : Nat} (h : n < 0x20) :
    Json.unit? '0' '0' (hexDigit (n / 16)) (hexDigit n) = some n := by
  have hall : ∀ n : Fin 0x20,
      Json.unit? '0' '0' (hexDigit (n.val / 16)) (hexDigit n.val) = some n.val := by decide
  exact hall ⟨n, h⟩

/-- A character that stands for itself inside quotes is neither the quote nor the backslash. -/
theorem ne_of_escapeLetter?_eq_none {c : Char} (h : escapeLetter? c = none) :
    c ≠ '"' ∧ c ≠ '\\' := by
  constructor
  · rintro rfl
    cases h
  · rintro rfl
    cases h

end Text

namespace Json

/-- A quoted character reads as the character. -/
theorem readString_quoteChar (taken : List Char) (c : Char) (rest : List Char) :
    readString taken none (Text.quoteChar c ++ rest) = readString (c :: taken) none rest := by
  rw [Text.quoteChar]
  split
  · rename_i letter h
    obtain ⟨hletter, hu⟩ := Text.unescape?_escapeLetter? h
    exact readString.eq_4 taken letter rest c (fun _ _ _ _ _ h _ => hu h) hletter
  · rename_i h
    obtain ⟨hquote, hslash⟩ := Text.ne_of_escapeLetter?_eq_none h
    split
    · rename_i hlt
      have hhigh : isHighHalf c.toNat = false := by simp [isHighHalf]; omega
      have hlow : isLowHalf c.toNat = false := by simp [isLowHalf]; omega
      have hread := readString.eq_2 taken _ _ _ _ rest _ (Text.unit?_hexDigit hlt)
      rw [hhigh, hlow, Char.ofNat_toNat] at hread
      exact hread
    · rename_i hge
      have hread := readString.eq_7 taken none c rest (fun _ _ _ _ _ h _ => hslash h)
        (fun _ _ h _ => hslash h) hquote
      rw [if_neg (by simpa [hslash] using hge)] at hread
      exact hread

/-- What is quoted reads as it was, up to the closing quote. -/
theorem readString_quoteChars (taken cs rest : List Char) :
    readString taken none (Text.quoteChars cs ++ '"' :: rest) =
      some (String.ofList (taken.reverse ++ cs), rest) := by
  induction cs generalizing taken with
  | nil => simp [Text.quoteChars, readString.eq_6]
  | cons c cs ih =>
    have hcons : Text.quoteChars (c :: cs) = Text.quoteChar c ++ Text.quoteChars cs :=
      List.flatMap_cons
    rw [hcons, List.append_assoc, readString_quoteChar, ih]
    simp

end Json

namespace Text

/-- The characters of a quoted text. -/
theorem toList_quote (s : String) : (quote s).toList = '"' :: (quoteChars s.toList ++ ['"']) := by
  rw [quote, String.toList_ofList, List.cons_append]

/-- A character as it stands inside quotes is written without control characters. -/
theorem toNat_ge_of_mem_quoteChar {c d : Char} (h : d ∈ quoteChar c) : 0x20 ≤ d.toNat := by
  have hdigit : ∀ n : Fin 16, 0x20 ≤ (Nat.digitChar n.val).toNat := by decide
  have hhex : ∀ n, 0x20 ≤ (hexDigit n).toNat := fun n =>
    hdigit ⟨n % 16, Nat.mod_lt _ (by decide)⟩
  rw [quoteChar] at h
  split at h
  · rename_i letter hletter
    have hge : 0x20 ≤ letter.toNat := by
      unfold escapeLetter? at hletter
      split at hletter <;> cases hletter <;> decide
    simp only [List.mem_cons, List.not_mem_nil, or_false] at h
    rcases h with rfl | rfl
    · decide
    · exact hge
  · split at h
    · simp only [List.mem_cons, List.not_mem_nil, or_false] at h
      rcases h with rfl | rfl | rfl | rfl | rfl | rfl
      · decide
      · decide
      · decide
      · decide
      · exact hhex _
      · exact hhex _
    · rw [List.mem_singleton.1 h]
      omega

/-- None of the characters is a control character. -/
def Visible (cs : List Char) : Prop := ∀ c ∈ cs, 0x20 ≤ c.toNat

instance : DecidablePred Visible := List.decidableBAll fun c : Char => 0x20 ≤ c.toNat

variable {xs ys : List Char}

/-- Texts without control characters may be joined. -/
theorem visible_append : Visible (xs ++ ys) ↔ Visible xs ∧ Visible ys := List.forall_mem_append

/-- A line break is a control character. -/
theorem Visible.newline_not_mem (h : Visible xs) : '\n' ∉ xs := fun hmem =>
  absurd (h '\n' hmem) (by decide)

/-- A carriage return is a control character. -/
theorem Visible.return_not_mem (h : Visible xs) : '\r' ∉ xs := fun hmem =>
  absurd (h '\r' hmem) (by decide)

/-- Quoted text has no control characters. -/
theorem visible_quote (s : String) : Visible (quote s).toList := by
  rw [toList_quote]
  refine List.forall_mem_cons.2 ⟨by decide, visible_append.2 ⟨?_, ?_⟩⟩
  · intro d hd
    obtain ⟨c, _, hc⟩ := List.mem_flatMap.1 hd
    exact toNat_ge_of_mem_quoteChar hc
  · exact List.forall_mem_singleton.2 (by decide)

/-- No line break stands in a quoted text. -/
theorem newline_not_mem_quote (s : String) : '\n' ∉ (quote s).toList :=
  (visible_quote s).newline_not_mem

end Text

end RecordQuery

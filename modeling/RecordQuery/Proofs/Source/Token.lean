import RecordQuery.Filter.Context
import RecordQuery.Proofs.Number.ReadBack
import RecordQuery.Proofs.Text.Quoted

/-!
# Tokens of compiled source

Compiled source is a sequence of tokens: quoted texts, names of declarations and of slots, numerals,
and the words and marks of the templates. `scan` takes a text apart from left to right, each quoted
text as one token, and refuses anything else. `scan_render` says that it finds the tokens that a
text was put together from, provided that no token runs into the next one (`Readable`). So tokens
are determined by their text, and nothing that a caller wrote is read as anything but what stands
between quotes.
-/

namespace RecordQuery.Source

/-- A token of compiled source. -/
inductive Token where
  /-- A text between quotes. -/
  | quoted (s : String)
  /-- The name of a declaration. -/
  | declared (index : Nat)
  /-- The name of a slot. -/
  | slot (index : Nat)
  /-- The text of a number. -/
  | numeral (text : String)
  /-- A word of the templates. -/
  | word (text : String)
  /-- A mark of the templates. -/
  | mark (c : Char)
deriving DecidableEq

/-- The words of the templates. -/
def words : List String :=
  ["const", "new", "Set", "return", "data", "undefined", "null", "true", "false", "typeof", "every",
    "some", "value", "has", "includes", "test"]

/-- The words that are texts of numbers. -/
def numberWords : List String := ["NaN", "Infinity"]

/-- The marks of the templates; a line break ends a declaration. -/
def marks : List Char :=
  [' ', '(', ')', '[', ']', '.', ',', ';', '?', '!', '=', '<', '>', '&', '|', '+', '\'', '\n']

/-- The character may stand in the text of a number. -/
def isNumberChar (c : Char) : Bool := Number.isNumeralChar c || c.isAlpha

/-- The text of a token. -/
def Token.text : Token → String
  | quoted s => Text.quote s
  | declared index => Context.declaredName index
  | slot index => Context.slotText index
  | numeral text => text
  | word text => text
  | mark c => String.ofList [c]

/-- The characters of tokens one after the other. -/
def render (tokens : List Token) : List Char := tokens.flatMap fun token => token.text.toList

/-! ## Scanning -/

/-- The index behind an opening character. -/
def scanIndex? (opening : Char) : List Char → Option (Nat × List Char)
  | [] => none
  | c :: rest =>
    if c = opening ∧ (Number.spanDigits rest).1 ≠ [] then
      some (Number.digitsValue (Number.spanDigits rest).1, (Number.spanDigits rest).2)
    else none

/-- The token that begins with a run of letters, and what follows it. -/
def scanLetters? (letters rest : List Char) : Option (Token × List Char) :=
  if letters = ['v'] then
    (scanIndex? '$' rest).map fun (index, rest) => (.declared index, rest)
  else if letters = ['s', 'c', 'o', 'p', 'e'] then
    match scanIndex? '[' rest with
    | some (index, ']' :: rest) => some (.slot index, rest)
    | _ => none
  else if String.ofList letters ∈ numberWords then some (.numeral (String.ofList letters), rest)
  else if String.ofList letters ∈ words then some (.word (String.ofList letters), rest)
  else none

/-- The token at the front of a text, and what follows it. -/
def next? : List Char → Option (Token × List Char)
  | [] => none
  | c :: rest =>
    if c = '"' then
      (Json.readString [] none rest).map fun (s, rest) => (.quoted s, rest)
    else if c.isAlpha then
      scanLetters? ((c :: rest).takeWhile Char.isAlpha) ((c :: rest).dropWhile Char.isAlpha)
    else if c.isDigit || c == '-' then
      some (.numeral (String.ofList ((c :: rest).takeWhile isNumberChar)),
        (c :: rest).dropWhile isNumberChar)
    else if c ∈ marks then some (.mark c, rest)
    else none

/-- The tokens of a text of at most `fuel` characters. -/
def scanWith : Nat → List Char → Option (List Token)
  | _, [] => some []
  | 0, _ :: _ => none
  | fuel + 1, c :: cs =>
    match next? (c :: cs) with
    | some (token, rest) => (scanWith fuel rest).map (token :: ·)
    | none => none

/-- The tokens of a text, from left to right. -/
def scan (source : String) : Option (List Token) := scanWith source.toList.length source.toList

/-! ## Texts that are read as they were written -/

/-- The token is one that is scanned: numerals and words are those of numbers and templates. -/
def Token.Valid : Token → Prop
  | numeral text => text ∈ numberWords ∨
    (∃ c ∈ text.toList.head?, c.isDigit = true ∨ c = '-') ∧
      ∀ c ∈ text.toList, isNumberChar c = true
  | word text => text ∈ words
  | mark c => c ∈ marks
  | _ => True

/-- The character would be read as part of the token if it stood behind. -/
def Token.runsInto : Token → Char → Bool
  | declared _, c => c.isDigit
  | numeral _, c => isNumberChar c
  | word _, c => c.isAlpha
  | _, _ => false

/-- No token runs into what follows it. -/
def Readable : List Token → Prop
  | [] => True
  | token :: rest =>
    token.Valid ∧ (∀ c ∈ (render rest).head?, token.runsInto c = false) ∧ Readable rest

/-- An index is scanned behind its opening character. -/
theorem scanIndex?_decimal {opening : Char} {index : Nat} {rest : List Char}
    (hrest : ∀ c ∈ rest.head?, c.isDigit = false) :
    scanIndex? opening (opening :: ((Text.decimal index).toList ++ rest)) = some (index, rest) := by
  have hdigits := Number.digits_toDigits index
  have hvalue : Number.digitsValue (Nat.toDigits 10 index) = index := Nat.ofDigitChars_ten_toDigits
  rw [Text.decimal, String.toList_ofList, scanIndex?, Number.spanDigits_append hdigits hrest,
    if_pos ⟨rfl, Nat.toDigits_ne_nil⟩, hvalue]

/-- A word of the templates is made of letters and is not the beginning of a name. -/
theorem word_spec {w : String} (h : w ∈ words) :
    w.toList ≠ [] ∧ (∀ c ∈ w.toList, c.isAlpha = true) ∧ w.toList ≠ ['v'] ∧
      w.toList ≠ ['s', 'c', 'o', 'p', 'e'] ∧ w ∉ numberWords := by
  have hall : ∀ w ∈ words, w.toList ≠ [] ∧ w.toList.all Char.isAlpha = true ∧
      w.toList ≠ ['v'] ∧ w.toList ≠ ['s', 'c', 'o', 'p', 'e'] ∧ w ∉ numberWords := by decide
  obtain ⟨hne, hletters, hrest⟩ := hall w h
  exact ⟨hne, List.all_eq_true.1 hletters, hrest⟩

/-- A word for a number is made of letters and is not the beginning of a name. -/
theorem numberWord_spec {w : String} (h : w ∈ numberWords) :
    w.toList ≠ [] ∧ (∀ c ∈ w.toList, c.isAlpha = true) ∧ w.toList ≠ ['v'] ∧
      w.toList ≠ ['s', 'c', 'o', 'p', 'e'] := by
  have hall : ∀ w ∈ numberWords, w.toList ≠ [] ∧ w.toList.all Char.isAlpha = true ∧
      w.toList ≠ ['v'] ∧ w.toList ≠ ['s', 'c', 'o', 'p', 'e'] := by decide
  obtain ⟨hne, hletters, hrest⟩ := hall w h
  exact ⟨hne, List.all_eq_true.1 hletters, hrest⟩

/-- A mark of the templates begins no other token. -/
theorem mark_spec {c : Char} (h : c ∈ marks) :
    c ≠ '"' ∧ c.isAlpha = false ∧ c.isDigit = false ∧ c ≠ '-' := by
  have hall : (marks.all fun c => c != '"' && !c.isAlpha && !c.isDigit && c != '-') = true := rfl
  simpa [and_assoc] using List.all_eq_true.1 hall c h

/-- A digit is no letter. -/
theorem isAlpha_eq_false_of_isDigit {c : Char} (h : c.isDigit = true) : c.isAlpha = false := by
  have hdigit : c.val.toNat ≤ 57 := (Char.isDigit_iff_toNat.1 h).2
  have hbelow : ∀ bound : UInt32, 57 < bound.toNat → ¬ c.val ≥ bound := by
    intro bound hbound hge
    have := UInt32.le_iff_toNat_le.1 hge
    omega
  have hupper : c.isUpper = false := decide_eq_false fun hc => hbelow _ (by decide) hc.1
  have hlower : c.isLower = false :=
    Bool.and_eq_false_iff.2 (.inl (decide_eq_false (hbelow _ (by decide))))
  exact Bool.or_eq_false_iff.2 ⟨hupper, hlower⟩

/-- A run of letters is scanned as one. -/
theorem next?_letters {letters rest : List Char} (hne : letters ≠ [])
    (h : ∀ c ∈ letters, c.isAlpha = true) (hrest : ∀ c ∈ rest.head?, c.isAlpha = false) :
    next? (letters ++ rest) = scanLetters? letters rest := by
  obtain ⟨c, cs, rfl⟩ := List.exists_cons_of_ne_nil hne
  have hc := h c (.head _)
  have hquote : c ≠ '"' := by
    rintro rfl
    cases hc
  obtain ⟨htake, hdrop⟩ := Number.takeWhile_append_of_head? h hrest
  rw [List.cons_append] at htake hdrop ⊢
  rw [next?, if_neg hquote, if_pos hc, htake, hdrop]

/-- The token at the front of its text is the token. -/
theorem next?_text {token : Token} {rest : List Char} (hvalid : token.Valid)
    (hrest : ∀ c ∈ rest.head?, token.runsInto c = false) :
    next? (token.text.toList ++ rest) = some (token, rest) := by
  cases token with
  | quoted s =>
    rw [Token.text, Text.toList_quote, List.cons_append, List.append_assoc, List.singleton_append,
      next?, if_pos rfl, Json.readString_quoteChars]
    simp
  | declared index =>
    have htext : (Token.declared index).text.toList ++ rest =
        ['v'] ++ '$' :: ((Text.decimal index).toList ++ rest) := by
      simp [Token.text, Context.declaredName]
    have hletters : ∀ c ∈ ['v'], c.isAlpha = true := List.all_eq_true.1 rfl
    rw [htext, next?_letters (by simp) hletters (by simp), scanLetters?, if_pos rfl,
      scanIndex?_decimal hrest]
    rfl
  | slot index =>
    have htext : (Token.slot index).text.toList ++ rest =
        ['s', 'c', 'o', 'p', 'e'] ++ '[' :: ((Text.decimal index).toList ++ ']' :: rest) := by
      simp [Token.text, Context.slotText]
    have hletters : ∀ c ∈ ['s', 'c', 'o', 'p', 'e'], c.isAlpha = true := List.all_eq_true.1 rfl
    rw [htext, next?_letters (by simp) hletters (by simp), scanLetters?, if_neg (by decide),
      if_pos rfl, scanIndex?_decimal (by simp)]
    rfl
  | numeral text =>
    have hletter : ∀ c ∈ rest.head?, c.isAlpha = false := fun c hc =>
      (Bool.or_eq_false_iff.1 (hrest c hc)).2
    rcases hvalid with hword | ⟨⟨c, hc, hfirst⟩, hchars⟩
    · obtain ⟨hne, hletters, hv, hscope⟩ := numberWord_spec hword
      rw [Token.text, next?_letters hne hletters hletter, scanLetters?, if_neg hv, if_neg hscope,
        String.ofList_toList, if_pos hword]
    · obtain ⟨cs, hcs⟩ := List.head?_eq_some_iff.1 hc
      have hquote : c ≠ '"' := by
        rintro rfl
        revert hfirst
        decide
      have halpha : c.isAlpha = false := by
        rcases hfirst with hdigit | rfl
        · exact isAlpha_eq_false_of_isDigit hdigit
        · decide
      have hnumeral : (c.isDigit || c == '-') = true := by simpa using hfirst
      obtain ⟨htake, hdrop⟩ := Number.takeWhile_append_of_head? hchars hrest
      rw [hcs, List.cons_append] at htake hdrop
      rw [Token.text, hcs, List.cons_append, next?, if_neg hquote, if_neg (by simp [halpha]),
        if_pos hnumeral, htake, hdrop, ← hcs, String.ofList_toList]
  | word text =>
    obtain ⟨hne, hletters, hv, hscope, hnumber⟩ := word_spec hvalid
    rw [Token.text, next?_letters hne hletters hrest, scanLetters?, if_neg hv, if_neg hscope,
      String.ofList_toList, if_neg hnumber,
      if_pos (show text ∈ words from hvalid)]
  | mark c =>
    obtain ⟨hquote, hletter, hdigit, hminus⟩ := mark_spec hvalid
    rw [Token.text, String.toList_ofList, List.singleton_append, next?, if_neg hquote,
      if_neg (by simp [hletter]), if_neg (by simp [hdigit, hminus]),
      if_pos (show c ∈ marks from hvalid)]

/-- Every token has a text. -/
theorem Token.text_ne_nil {token : Token} (h : token.Valid) : token.text.toList ≠ [] := by
  cases token with
  | quoted s => simp [text, Text.toList_quote]
  | declared index => simp [text, Context.declaredName]
  | slot index => simp [text, Context.slotText]
  | numeral t =>
    rcases h with hword | ⟨⟨c, hc, _⟩, _⟩
    · exact (numberWord_spec hword).1
    · intro hnil
      rw [text] at hnil
      rw [hnil] at hc
      cases hc
  | word t => exact (word_spec h).1
  | mark c => simp [text]

/-- Scanning with enough fuel finds the tokens that a text was put together from. -/
theorem scanWith_render {tokens : List Token} (h : Readable tokens) {fuel : Nat}
    (hfuel : (render tokens).length ≤ fuel) : scanWith fuel (render tokens) = some tokens := by
  induction tokens generalizing fuel with
  | nil => rw [render, List.flatMap_nil, scanWith]
  | cons token rest ih =>
    obtain ⟨hvalid, hends, hrest⟩ := h
    have hnext := next?_text hvalid hends
    have hcons : render (token :: rest) = token.text.toList ++ render rest := List.flatMap_cons
    rw [hcons] at hfuel ⊢
    obtain ⟨c, cs, hcs⟩ := List.exists_cons_of_ne_nil (Token.text_ne_nil hvalid)
    rw [hcs, List.cons_append] at hnext hfuel ⊢
    simp only [List.length_cons, List.length_append] at hfuel
    obtain ⟨fuel, rfl⟩ : ∃ n, fuel = n + 1 := ⟨fuel - 1, by omega⟩
    rw [scanWith, hnext]
    simp only
    rw [ih hrest (by omega), Option.map_some]

/-- Scanning finds the tokens that a text was put together from. -/
theorem scan_render {tokens : List Token} (h : Readable tokens) {source : String}
    (hsource : source.toList = render tokens) : scan source = some tokens := by
  rw [scan, hsource]
  exact scanWith_render h (Nat.le_refl _)

/-- Readable tokens are determined by their text. -/
theorem render_injective {ts us : List Token} (ht : Readable ts) (hu : Readable us)
    (h : render ts = render us) : ts = us := by
  have hts := scanWith_render ht (Nat.le_refl _)
  rw [h, scanWith_render hu (Nat.le_refl _)] at hts
  exact (Option.some.inj hts).symm

/-! ## Tokens one by one -/

section
variable {c : Char} {rest : List Token}

/-- No tokens have no characters. -/
@[simp] theorem render_nil : render [] = [] := rfl

/-- The characters of tokens, token by token. -/
@[simp] theorem render_cons (token : Token) :
    render (token :: rest) = token.text.toList ++ render rest :=
  List.flatMap_cons

/-- The text of a mark. -/
@[simp] theorem toList_text_mark : (Token.mark c).text.toList = [c] := String.toList_ofList

/-- The text of a word. -/
@[simp] theorem text_word (w : String) : (Token.word w).text = w := rfl

/-- What follows a mark is readable by itself. -/
@[simp] theorem readable_mark : Readable (.mark c :: rest) ↔ c ∈ marks ∧ Readable rest := by
  simp [Readable, Token.Valid, Token.runsInto]

/-- What follows a quoted text is readable by itself. -/
@[simp] theorem readable_quoted {s : String} : Readable (.quoted s :: rest) ↔ Readable rest := by
  simp [Readable, Token.Valid, Token.runsInto]

/-- What follows the name of a slot is readable by itself. -/
@[simp] theorem readable_slot {index : Nat} : Readable (.slot index :: rest) ↔ Readable rest := by
  simp [Readable, Token.Valid, Token.runsInto]

/-- A token in front of a mark that it does not run into. -/
theorem readable_cons_mark {token : Token} (hc : c ∈ marks → token.runsInto c = false) :
    Readable (token :: .mark c :: rest) ↔ token.Valid ∧ Readable (.mark c :: rest) := by
  have hhead : (render (.mark c :: rest)).head? = some c := by simp
  rw [Readable, hhead]
  constructor
  · exact fun h => ⟨h.1, h.2.2⟩
  · rintro ⟨hvalid, hrest⟩
    refine ⟨hvalid, fun d hd => ?_, hrest⟩
    rw [← Option.some.inj hd]
    exact hc (readable_mark.1 hrest).1

/-- A word may stand in front of a mark. -/
@[simp] theorem readable_word {w : String} :
    Readable (.word w :: .mark c :: rest) ↔ w ∈ words ∧ Readable (.mark c :: rest) :=
  readable_cons_mark fun h => (mark_spec h).2.1

/-- The name of a declaration may stand in front of a mark. -/
@[simp] theorem readable_declared {index : Nat} :
    Readable (.declared index :: .mark c :: rest) ↔ Readable (.mark c :: rest) := by
  have hends : c ∈ marks → (Token.declared index).runsInto c = false := fun h =>
    (mark_spec h).2.2.1
  rw [readable_cons_mark hends]
  exact and_iff_right trivial

/-- Any token may stand in front of a mark that does not occur in numbers. -/
theorem readable_cons_of_isNumberChar {token : Token} (h : token.Valid)
    (hc : isNumberChar c = false) :
    Readable (token :: .mark c :: rest) ↔ Readable (.mark c :: rest) := by
  rw [readable_cons_mark fun hmark => ?_]
  · exact and_iff_right h
  · cases token with
    | declared => exact (mark_spec hmark).2.2.1
    | word => exact (mark_spec hmark).2.1
    | numeral => exact hc
    | quoted | slot | mark => rfl

end

end RecordQuery.Source

import RecordQuery.Proofs.Source.Form

/-!
# Reading tests

The source of a test is read back: `readTest?` finds the path, the form and what follows, given the
fragments that are declared. The path of a superset test is not in its text, but in the fragment
that its name stands for (`Placed`). `readTest?_onto` says that what is spelled out is read as it
was, so that no two tests share their tokens.
-/

namespace RecordQuery.Source

/-! ## Reading -/

/-- The name in the test of elements at the front of tokens, and what follows the test. -/
def readElements? (tokens : List Token) : Option (Nat × List Token) :=
  match tokens.drop 10 with
  | .declared index :: rest => some (index, rest.drop 6)
  | _ => none

/-- The mask that a numeral stands for. -/
def readMask (text : String) : Int32 :=
  match text.toList with
  | '-' :: digits => .ofInt (-Number.digitsValue digits)
  | digits => .ofInt (Number.digitsValue digits)

/-- The test that goes on behind a part, and what follows it. -/
def readMethod? (negated : Bool) (path : Path) (tokens : List Token) :
    Option (Path × Form × List Token) :=
  match tokens with
  | _ :: .word "includes" :: _ :: operand :: _ :: rest =>
    some (path, .inclusion negated operand, rest)
  | _ :: .word "every" :: _ =>
    (readElements? tokens).map fun (index, rest) => (path, .subset negated index, rest)
  | _ => (readElements? tokens).map fun (index, rest) => (path, .overlap negated index, rest)

/-- The comparison that goes on behind a part, and what follows it. -/
def readComparison? (path : Path) : List Token → Option (Path × Form × List Token)
  | _ :: .mark '!' :: _ :: _ :: _ :: operand :: _ :: rest =>
    some (path, .equality true operand, rest)
  | _ :: .mark '=' :: _ :: _ :: _ :: operand :: _ :: rest =>
    some (path, .equality false operand, rest)
  | _ :: .mark '>' :: .mark '=' :: _ :: operand :: _ :: rest =>
    some (path, .relation .greaterOrEqual operand, rest)
  | _ :: .mark '>' :: _ :: operand :: _ :: rest => some (path, .relation .greater operand, rest)
  | _ :: .mark '<' :: .mark '=' :: _ :: operand :: _ :: rest =>
    some (path, .relation .lessOrEqual operand, rest)
  | _ :: .mark '<' :: _ :: operand :: _ :: rest => some (path, .relation .less operand, rest)
  | _ => none

/-- The test of bits or of existence that goes on behind a part, and what follows it. -/
def readNested? (negated : Bool) (path : Path) : List Token → Option (Path × Form × List Token)
  | _ :: .mark '&' :: _ :: .numeral text :: rest =>
    some (path, .bits negated (readMask text), rest.drop 8)
  | _ :: .mark '!' :: _ :: _ :: _ :: .word _ :: .mark ' ' :: rest => do
    let (_, rest) ← readPath? (rest.drop 3)
    match rest.drop 12 with
    | .word w :: _ :: rest => some (path, .existence (w = "true"), rest)
    | _ => none
  | _ => none

/-- The test of type that goes on behind a part, and what follows it. -/
def readType? (path : Path) : List Token → Option (Path × Form × List Token)
  | _ :: .mark c :: _ :: _ :: _ :: .quoted name :: _ :: rest =>
    some (path, .type (c = '!') name, rest)
  | _ => none

/-- The test at the front of tokens, but for the sign of a negation, and what follows it. -/
def readBody? (parts : List Fragment) (negated : Bool) :
    List Token → Option (Path × Form × List Token)
  | .slot slot :: tokens => do
    let (path, rest) ← readPath? (tokens.drop 8)
    some (path, .pattern negated slot, rest.drop 1)
  | .declared index :: tokens => do
    let (path, rest) ← readPath? (tokens.drop 3)
    some (path, .membership negated index, rest.drop 1)
  | .mark '[' :: tokens => do
    let (literals, rest) := readItems tokens
    let (index, rest) ← readElements? rest
    match parts[index]? with
    | some (.part path) => some (path, .superset negated literals index, rest)
    | _ => none
  | .mark '(' :: .mark '(' :: tokens => do
    let (path, rest) ← readPath? tokens
    readNested? negated path rest
  | .mark '(' :: .word "typeof" :: _ :: tokens => do
    let (path, rest) ← readPath? tokens
    readType? path rest
  | .mark '(' :: tokens => do
    let (path, rest) ← readPath? tokens
    readComparison? path rest
  | tokens => do
    let (path, rest) ← readPath? tokens
    readMethod? negated path rest

/-- The test at the front of tokens, and what follows it. -/
def readTest? (parts : List Fragment) : List Token → Option (Path × Form × List Token)
  | .mark '!' :: tokens => readBody? parts true tokens
  | tokens => readBody? parts false tokens

/-! ## What is spelled out is read -/

/-- A test of elements is read as the name in it. -/
theorem readElements?_elementwiseOnto (quantifier : String) (index : Nat) (rest : List Token) :
    readElements? (elementwiseOnto quantifier index rest) = some (index, rest) := rfl

/-- The text of an integer is read as the integer. -/
theorem readMask_integer (mask : Int32) : readMask (Text.integer mask.toInt) = mask := by
  have hvalue : Number.digitsValue (Nat.toDigits 10 mask.toInt.natAbs) = mask.toInt.natAbs :=
    Nat.ofDigitChars_ten_toDigits
  have htext : (Text.integer mask.toInt).toList =
      if mask.toInt < 0 then '-' :: Nat.toDigits 10 mask.toInt.natAbs
      else Nat.toDigits 10 mask.toInt.natAbs := by
    rw [Text.integer, Text.decimal]
    split <;> simp
  rw [readMask, htext]
  split
  · rename_i digits heq
    split at heq
    · cases heq
      have hint : -(mask.toInt.natAbs : Int) = mask.toInt := by omega
      rw [hvalue, hint, Int32.ofInt_toInt]
    · have hmem : '-' ∈ Nat.toDigits 10 mask.toInt.natAbs := heq ▸ List.mem_cons_self
      cases Number.digits_toDigits _ _ hmem
  · rename_i hsign
    split at hsign
    · exact absurd rfl (hsign _)
    · have hint : (mask.toInt.natAbs : Int) = mask.toInt := by omega
      rw [if_neg ‹_›, hvalue, hint, Int32.ofInt_toInt]

/-- The sign of a negation is read in front of what does not begin with one. -/
theorem readTest?_signOnto (parts : List Fragment) (negated : Bool) {token : Token}
    (h : token ≠ .mark '!') (rest : List Token) :
    readTest? parts (signOnto negated (token :: rest)) =
      readBody? parts negated (token :: rest) := by
  cases negated with
  | true => rfl
  | false =>
    rw [signOnto, if_neg (by decide), readTest?]
    rintro _ ⟨⟩
    exact h rfl

/-- The declared fragments give the path of a test that does not mention it. -/
def Form.Placed (parts : List Fragment) (path : Path) : Form → Prop
  | superset _ _ index => parts[index]? = some (.part path)
  | _ => True

/-- A test is read as it was spelled out. -/
theorem readTest?_onto {parts : List Fragment} {path : Path} {form : Form} (hvalid : form.Valid)
    (hplaced : form.Placed parts path) (rest : List Token) :
    readTest? parts (form.onto path rest) = some (path, form, rest) := by
  have hspace : ' ' ≠ '?' := by decide
  have hclose : ')' ≠ '?' := by decide
  have hdot : '.' ≠ '?' := by decide
  have hdata : Token.word "data" ≠ .mark '!' := by simp
  cases form with
  | equality negated operand =>
    change (readPath? (pathOnto path _) >>= _) = _
    rw [readPath?_pathOnto hspace]
    cases negated <;> rfl
  | relation r operand =>
    change (readPath? (pathOnto path _) >>= _) = _
    rw [readPath?_pathOnto hspace]
    cases r <;> rfl
  | existence expected =>
    change (readPath? (pathOnto path _) >>= _) = _
    rw [readPath?_pathOnto hspace, Option.bind_eq_bind, Option.bind_some]
    change (readPath? (pathOnto path _) >>= _) = _
    rw [readPath?_pathOnto hspace]
    cases expected <;> rfl
  | pattern negated slot =>
    have hslot : Token.slot slot ≠ .mark '!' := by simp
    rw [Form.onto, readTest?_signOnto _ _ hslot]
    change (readPath? (pathOnto path _) >>= _) = _
    rw [readPath?_pathOnto hclose]
    rfl
  | inclusion negated operand =>
    rw [Form.onto, pathOnto, readTest?_signOnto _ _ hdata]
    change (readPath? (pathOnto path _) >>= _) = _
    rw [readPath?_pathOnto hdot]
    rfl
  | bits negated mask =>
    rw [Form.onto, readTest?_signOnto _ _ (by decide)]
    change (readPath? (pathOnto path _) >>= _) = _
    rw [readPath?_pathOnto hspace]
    change some (path, Form.bits negated (readMask (Text.integer mask.toInt)), rest) = _
    rw [readMask_integer]
  | type negated name =>
    change (readPath? (pathOnto path _) >>= _) = _
    rw [readPath?_pathOnto hspace]
    cases negated <;> rfl
  | membership negated index =>
    have hdeclared : Token.declared index ≠ .mark '!' := by simp
    rw [Form.onto, readTest?_signOnto _ _ hdeclared]
    change (readPath? (pathOnto path _) >>= _) = _
    rw [readPath?_pathOnto hclose]
    rfl
  | subset negated index =>
    rw [Form.onto, pathOnto, readTest?_signOnto _ _ hdata]
    change (readPath? (pathOnto path _) >>= _) = _
    rw [elementwiseOnto, readPath?_pathOnto hdot]
    rfl
  | superset negated literals index =>
    have hliterals : ∀ c, .mark c ∉ literals := fun c hmem =>
      (hvalid _ (List.mem_append_left _ hmem)).2 c rfl
    rw [Form.Placed] at hplaced
    rw [Form.onto, listOnto, readTest?_signOnto _ _ (by decide), readBody?,
      readItems_itemsOnto hliterals]
    change (readElements? (elementwiseOnto _ _ _) >>= _) = _
    rw [readElements?_elementwiseOnto, Option.bind_eq_bind, Option.bind_some]
    simp only [hplaced]
  | overlap negated index =>
    rw [Form.onto, pathOnto, readTest?_signOnto _ _ hdata]
    change (readPath? (pathOnto path _) >>= _) = _
    rw [elementwiseOnto, readPath?_pathOnto hdot]
    rfl

end RecordQuery.Source

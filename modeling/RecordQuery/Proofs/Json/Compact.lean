import RecordQuery.Proofs.Json.RoundTrip
import RecordQuery.Proofs.Number.Accepted
import RecordQuery.Proofs.Text.Quoted

/-!
# Compact texts

The text of every well-formed value is read again wherever there is room for it
(`Json.exists_readsAs`), if not as the same value: digits may be taken for another double than the
nearest. The compact text of a value is the same at every level, has no control character in it, so
that it stays on one line, and begins with a character that says whether the value is an array.
-/

namespace RecordQuery

namespace Json

variable (limit : Nat) (form : Form)

/-! ## Reading again -/

/-- The text of every value whose objects hold no key twice is read as some value. -/
theorem exists_readsAs {w : Value} (hw : w.WellFormed) : ∃ w', ReadsAs limit form w w' := by
  induction w using Value.induct with
  | undefined | null | bool | bigint | string | regex =>
    exact ⟨_, reads_of_wellFormed hw fun _ hn => absurd hn List.not_mem_nil⟩
  | number n =>
    cases n with
    | finite negative q hq =>
      obtain ⟨numeral, hread⟩ := Number.accepted_json negative hq
      exact ⟨_, reads_finite hq hread⟩
    | nan | infinite => exact ⟨_, reads_not_finite rfl⟩
  | array items ih =>
    rw [Value.wellFormed_array] at hw
    obtain ⟨values, hvalues⟩ := Value.exists_forall₂ fun w hmem => ih w hmem (hw w hmem)
    exact ⟨_, reads_array hvalues⟩
  | object fields ih =>
    rw [Value.wellFormed_object] at hw
    have hfields : ∀ field ∈ Value.definedFields fields,
        ∃ entry, FieldReadsAs limit form field entry := by
      intro field hfield
      have hmem := (List.mem_filter.1 hfield).1
      obtain ⟨value, hvalue⟩ := ih field hmem (hw.2 field hmem)
      exact ⟨(field.1, value), rfl, hvalue⟩
    obtain ⟨entries, hentries⟩ := Value.exists_forall₂ hfields
    exact ⟨_, reads_object hw.1 hentries⟩

end Json

namespace Value

/-! ## Levels -/

/-- On one line a value is written the same at every level. -/
theorem jsonAt_compact (v : Value) (level : Nat) : v.jsonAt .compact level = v.json .compact := by
  rw [json]
  induction v using induct generalizing level with
  | undefined | null | bool | bigint | string | regex | number => rfl
  | array items ih =>
    have hitems : items.map (jsonAt .compact (level + 1)) = items.map (jsonAt .compact (0 + 1)) :=
      List.map_congr_left fun w hw => (ih w hw _).trans (ih w hw _).symm
    rw [jsonAt, jsonAt, jsonItems_eq_map, jsonItems_eq_map, hitems]
    rfl
  | object fields ih =>
    have hfields : (definedFields fields).map (fieldText .compact (level + 1)) =
        (definedFields fields).map (fieldText .compact (0 + 1)) := by
      refine List.map_congr_left fun field hfield => ?_
      have hmem := (List.mem_filter.1 hfield).1
      rw [fieldText, fieldText, ih field hmem, ← ih field hmem (0 + 1)]
    rw [jsonAt, jsonAt, jsonFields_eq_map, jsonFields_eq_map, hfields]
    rfl

/-- The text of an array has those of its items between brackets. -/
theorem json_compact_array (items : List Value) : (array items).json .compact =
    "[" ++ String.intercalate "," (items.map (json .compact)) ++ "]" := by
  have hitems : items.map (jsonAt .compact (0 + 1)) = items.map (json .compact) :=
    List.map_congr_left fun w _ => w.jsonAt_compact _
  rw [json, jsonAt, jsonItems_eq_map, hitems]
  cases items with
  | nil => rfl
  | cons first rest =>
    rw [List.map_cons, Json.Form.enclose, if_neg (by simp), Json.Form.break, Json.Form.break]
    simp only [String.append_empty]

end Value

/-! ## Characters -/

namespace Text

/-- What is put together of parts without control characters has none. -/
theorem visible_intercalate {separator : String} {parts : List String}
    (hs : Visible separator.toList) (hparts : ∀ part ∈ parts, Visible part.toList) :
    Visible (String.intercalate separator parts).toList := by
  induction parts with
  | nil => exact nofun
  | cons part rest ih =>
    rw [List.forall_mem_cons] at hparts
    cases rest with
    | nil =>
      rw [String.intercalate_singleton]
      exact hparts.1
    | cons second more =>
      rw [String.intercalate_cons_cons, String.toList_append, String.toList_append]
      exact visible_append.2 ⟨visible_append.2 ⟨hparts.1, hs⟩, ih hparts.2⟩

end Text

open Text

/-- A number is written with the characters of numbers. -/
theorem Json.NumberText.numeral {cs : List Char} (h : Json.NumberText cs) : Number.Numeral cs := by
  obtain ⟨negative, exponent, hw, hf⟩ := h
  rename_i whole fraction
  have hfraction : Number.Numeral (fractionText fraction) := by
    unfold fractionText
    split
    · exact nofun
    · exact Number.numeral_cons.2 ⟨rfl, hf.numeral⟩
  have hexponent : Number.Numeral (exponentText exponent) := by
    cases exponent with
    | none => exact nofun
    | some x =>
      refine Number.numeral_cons.2 ⟨rfl, Number.numeral_cons.2 ⟨?_, ?_⟩⟩
      · split <;> rfl
      · exact (Number.digits_toDigits _).numeral
  exact (Number.numeral_append.2
    ⟨hw.digits.numeral, Number.numeral_append.2 ⟨hfraction, hexponent⟩⟩).withSign

/-- The text of a number has no control characters. -/
theorem Number.visible_json (n : Number) : Visible n.json.toList := by
  cases n with
  | finite negative q hq =>
    intro c hc
    exact Nat.le_trans (by decide)
      (toNat_of_isNumeralChar ((numberText_json negative hq).numeral c hc)).1
  | nan | infinite => exact (by decide : Visible "null".toList)

namespace Value

/-- A container on one line has no control characters if its parts have none. -/
theorem visible_enclose {level : Nat} {opening closing : String} {parts : List String}
    (hopening : Visible opening.toList) (hclosing : Visible closing.toList)
    (hparts : ∀ part ∈ parts, Visible part.toList) :
    Visible (Json.Form.enclose .compact level opening closing parts).toList := by
  rw [Json.Form.enclose]
  split
  · rw [String.toList_append]
    exact visible_append.2 ⟨hopening, hclosing⟩
  · have hcomma : Visible ",".toList := by decide
    have hjoined := visible_intercalate hcomma hparts
    simp only [Json.Form.break, String.append_empty, String.toList_append]
    exact visible_append.2 ⟨visible_append.2 ⟨hopening, hjoined⟩, hclosing⟩

/-- The compact text of a value has no control characters. -/
theorem visible_json (v : Value) : Visible (v.json .compact).toList := by
  rw [json]
  generalize 0 = level
  induction v using induct generalizing level with
  | undefined | null => exact (by decide : Visible "null".toList)
  | bool b =>
    have hboth : ∀ b : Bool, Visible (if b then "true" else "false").toList := by decide
    exact hboth b
  | number n => exact n.visible_json
  | bigint | string | regex => exact visible_quote _
  | array items ih =>
    rw [jsonAt, jsonItems_eq_map]
    exact visible_enclose (by decide) (by decide)
      (List.forall_mem_map.2 fun w hw => ih w hw _)
  | object fields ih =>
    rw [jsonAt, jsonFields_eq_map]
    refine visible_enclose (by decide) (by decide) (List.forall_mem_map.2 fun field hfield => ?_)
    have hvalue := ih field (List.mem_filter.1 hfield).1 (level + 1)
    rw [fieldText, String.toList_append, String.toList_append]
    exact visible_append.2 ⟨visible_append.2 ⟨visible_quote _, by decide⟩, hvalue⟩

/-- The text of a value begins with a character that is no blank, and with an opening bracket only
if the value is an array. -/
theorem exists_head_json (form : Json.Form) (v : Value) : ∃ c rest,
    (v.json form).toList = c :: rest ∧ isBlank c = false ∧
      (c = '[' → ∃ items, v = .array items) := by
  have hnull : "null".toList = ['n', 'u', 'l', 'l'] := rfl
  cases v with
  | undefined | null =>
    rw [json, jsonAt, hnull]
    exact ⟨'n', _, rfl, by decide, fun h => absurd h (by decide)⟩
  | bool b =>
    rw [json, jsonAt]
    cases b with
    | true => exact ⟨'t', ['r', 'u', 'e'], rfl, by decide, fun h => absurd h (by decide)⟩
    | false =>
      exact ⟨'f', ['a', 'l', 's', 'e'], rfl, by decide, fun h => absurd h (by decide)⟩
  | number n =>
    rw [json, jsonAt]
    cases n with
    | finite negative q hq =>
      have htext := Number.numberText_json negative hq
      obtain ⟨c, rest, hcs, hc⟩ := htext.head
      have hnumeral := htext.numeral c (hcs ▸ .head _)
      refine ⟨c, rest, hcs, Number.isBlank_eq_false hnumeral, ?_⟩
      rintro rfl
      cases hnumeral
    | nan | infinite => exact ⟨'n', _, hnull, by decide, fun h => absurd h (by decide)⟩
  | bigint | string | regex =>
    rw [json, jsonAt, toList_quote]
    exact ⟨'"', _, rfl, by decide, fun h => absurd h (by decide)⟩
  | array items =>
    obtain ⟨rest, hrest⟩ := Json.exists_toList_enclose form 0 "[" "]"
      (jsonItems form (0 + 1) items)
    rw [json, jsonAt, hrest]
    exact ⟨'[', rest, rfl, by decide, fun _ => ⟨items, rfl⟩⟩
  | object fields =>
    obtain ⟨rest, hrest⟩ := Json.exists_toList_enclose form 0 "\x7b" "\x7d"
      (jsonFields form (0 + 1) fields)
    rw [json, jsonAt, hrest]
    exact ⟨'\x7b', rest, rfl, by decide, fun h => absurd h (by decide)⟩

end Value

end RecordQuery

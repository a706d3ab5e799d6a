import RecordQuery.Proofs.Fields
import RecordQuery.Proofs.Json.Parsing
import RecordQuery.Proofs.Value.Normal

/-!
# JSON texts read back

The text of a value, in either layout, is read as its normal form, with the keys in the same order.
What the text of a value does to the reader is stated in front of any text that may follow it
(`ReadsAs`) and proved by induction on the value (`reads_of_wellFormed`). The reader opens no more
containers than the value nests, so it is enough that the value nests no deeper than the limit, and
each number must be read as the double nearest to its digits. A normal form is written like the
value, so that writing, reading and writing again gives the first text (`Value.read?_json`). Numbers
without point and exponent are always read so (`Value.read?_json_of_unpointed`).
-/

namespace RecordQuery

namespace Json

variable {α : Type} {b : Builder α} {limit : Nat}

/-! ## States that wait for a value -/

/-- A value may begin in the open containers, and at most the end of an array may come instead. -/
def Awaits (b : Builder α) (limit : Nat) (s : State α) (outer : List (Frame α)) : Prop :=
  ∀ t : Token, t ≠ .closeArray → State.step b limit s t = State.begin b limit outer t

/-- A value may begin where one is due. -/
theorem awaits_value (outer : List (Frame α)) : Awaits b limit (.value outer) outer :=
  fun _ _ => rfl

/-- A value may begin behind the opening bracket of an array. -/
theorem awaits_firstItem (outer : List (Frame α)) :
    Awaits b limit (.firstItem outer) (.array [] :: outer) := by
  intro t ht
  cases t with
  | closeArray => exact absurd rfl ht
  | openArray | openObject | closeObject | comma | colon | null | bool | number | string => rfl

/-! ## Breaks and words -/

/-- Nothing but spaces stands in a break. -/
theorem isSpace_of_mem_break {form : Form} {level : Nat} :
    ∀ c ∈ (form.break level).toList, isSpace c = true := by
  intro c hc
  cases form with
  | compact => cases hc
  | pretty =>
    simp only [Form.break, String.toList_append, String.toList_ofList, List.mem_append] at hc
    rcases hc with hc | hc
    · rw [List.mem_singleton.1 hc]
      rfl
    · rw [(List.mem_replicate.1 hc).2]
      rfl

/-- Nothing but spaces stands between a colon and a value. -/
theorem exists_colon (form : Form) :
    ∃ spaces, form.colon.toList = ':' :: spaces ∧ ∀ c ∈ spaces, isSpace c = true := by
  cases form with
  | compact => exact ⟨[], rfl, nofun⟩
  | pretty => exact ⟨[' '], rfl, List.forall_mem_singleton.2 rfl⟩

/-- Spaces end a number. -/
theorem follows_spaces {spaces : List Char} (h : ∀ c ∈ spaces, isSpace c = true) :
    Follows spaces := by
  intro c hc
  have hspace := h c (List.mem_of_mem_head? hc)
  simp only [isSpace, Bool.or_eq_true, beq_iff_eq] at hspace
  rcases hspace with ((rfl | rfl) | rfl) | rfl <;> decide

/-- A comma ends a number. -/
theorem follows_comma (rest : List Char) : Follows (',' :: rest) := by
  intro c hc
  obtain rfl := Option.some.inj hc
  decide

/-- The end of a container ends a number, on the same line or on the next. -/
theorem follows_break {c : Char} (hc : c = ']' ∨ c = '\x7d') (form : Form) (level : Nat)
    (rest : List Char) : Follows ((form.break level).toList ++ c :: rest) := by
  intro d hd
  cases form with
  | compact =>
    obtain rfl : c = d := Option.some.inj hd
    rcases hc with rfl | rfl <;> decide
  | pretty =>
    obtain rfl : '\n' = d := by simpa [Form.break] using hd
    decide

section
variable {s s' : State α} {v : α} {rest : List Char}

/-- The null literal is a token. -/
theorem Parses.null (hs : State.step b limit s .null = some s') (h : Parses b limit s' rest v) :
    Parses b limit s ("null".toList ++ rest) v :=
  .token (by decide) rfl (by simp; omega) hs h

/-- The truth literals are tokens. -/
theorem Parses.bool {t : Bool} (hs : State.step b limit s (.bool t) = some s')
    (h : Parses b limit s' rest v) :
    Parses b limit s ((if t then "true" else "false").toList ++ rest) v := by
  cases t with
  | true => exact .token (by decide) rfl (by simp; omega) hs h
  | false => exact .token (by decide) rfl (by simp; omega) hs h

end

/-! ## Texts of values -/

/-- The text of the value is read as another value wherever one may begin, unless it is nested too
deep there, and what follows is read after it. -/
def ReadsAs (limit : Nat) (form : Form) (w w' : Value) : Prop :=
  ∀ ⦃level : Nat⦄ ⦃s : State Value⦄ ⦃outer : List (Frame Value)⦄ ⦃rest : List Char⦄ ⦃v : Value⦄,
    Awaits Value.builder limit s outer → outer.length + w.depth ≤ limit → Follows rest →
    Parses Value.builder limit (.next w' outer) rest v →
    Parses Value.builder limit s ((w.jsonAt form level).toList ++ rest) v

/-- The value of a field is read as that of an entry under the same key. -/
def FieldReadsAs (limit : Nat) (form : Form) (field entry : String × Value) : Prop :=
  field.1 = entry.1 ∧ ReadsAs limit form field.2 entry.2

section
variable {form : Form} {level : Nat} {s : State Value} {outer : List (Frame Value)}
  {rest : List Char} {v : Value}

/-- The items of an array are read one after another, up to its end. -/
theorem parses_items {first : Value} {items values done : List Value}
    (hreads : List.Forall₂ (ReadsAs limit form) (first :: items) values)
    (hdepth : ∀ w ∈ first :: items, outer.length + 1 + w.depth ≤ limit)
    (hs : Awaits Value.builder limit s (.array done :: outer))
    (h : Parses Value.builder limit (.next (.array (done.reverse ++ values)) outer) rest v) :
    Parses Value.builder limit s
      ((String.intercalate ("," ++ form.break (level + 1))
        ((first :: items).map (Value.jsonAt form (level + 1)))).toList ++
          ((form.break level).toList ++ ']' :: rest)) v := by
  induction items generalizing first values done s with
  | nil =>
    obtain ⟨value, _, hfirst, hnil, rfl⟩ := List.forall₂_cons_left_iff.1 hreads
    cases hnil
    rw [List.map_singleton, String.intercalate_singleton]
    refine hfirst hs (hdepth first (.head _)) (follows_break (.inl rfl) _ _ _) ?_
    refine .spaces isSpace_of_mem_break (.mark (by decide) rfl rfl ?_)
    rw [List.reverse_cons]
    exact h
  | cons second more ih =>
    obtain ⟨value, values, hfirst, hmore, rfl⟩ := List.forall₂_cons_left_iff.1 hreads
    rw [List.forall_mem_cons] at hdepth
    have hcomma : ",".toList = [','] := rfl
    rw [List.map_cons, List.map_cons, String.intercalate_cons_cons, ← List.map_cons]
    simp only [String.toList_append, List.append_assoc, hcomma, List.singleton_append]
    refine hfirst hs hdepth.1 (follows_comma _) ?_
    refine .mark (by decide) rfl rfl (.spaces isSpace_of_mem_break ?_)
    refine ih hmore hdepth.2 (awaits_value _) ?_
    rw [List.reverse_cons, List.append_assoc]
    exact h

/-- A field is read as its value, once its key has been read. -/
theorem parses_field {field entry : String × Value} {done : List (String × Value)}
    {mayClose : Bool} (hreads : FieldReadsAs limit form field entry)
    (hdepth : outer.length + 1 + field.2.depth ≤ limit) (hrest : Follows rest)
    (h : Parses Value.builder limit (.next entry.2 (.object done entry.1 :: outer)) rest v) :
    Parses Value.builder limit (.key mayClose done outer)
      ((Value.fieldText form level field).toList ++ rest) v := by
  obtain ⟨spaces, hcolon, hspaces⟩ := exists_colon form
  rw [← hreads.1] at h
  rw [Value.fieldText]
  simp only [String.toList_append, List.append_assoc, hcolon, List.cons_append]
  have hkey : State.step Value.builder limit (.key mayClose done outer) (.string field.1) =
      some (.colon done field.1 outer) := by
    cases mayClose <;> rfl
  refine .quoted hkey (.mark (by decide) rfl rfl (.spaces hspaces ?_))
  exact hreads.2 (awaits_value _) hdepth hrest h

/-- The fields of an object are read one after another, up to its end. -/
theorem parses_fields {first : String × Value} {fields entries done : List (String × Value)}
    {mayClose : Bool}
    (hreads : List.Forall₂ (FieldReadsAs limit form) (first :: fields) entries)
    (hdepth : ∀ field ∈ first :: fields, outer.length + 1 + field.2.depth ≤ limit)
    (h : Parses Value.builder limit (.next (Value.ofEntries (done.reverse ++ entries)) outer)
      rest v) :
    Parses Value.builder limit (.key mayClose done outer)
      ((String.intercalate ("," ++ form.break (level + 1))
        ((first :: fields).map (Value.fieldText form (level + 1)))).toList ++
          ((form.break level).toList ++ '\x7d' :: rest)) v := by
  induction fields generalizing first entries done mayClose with
  | nil =>
    obtain ⟨entry, _, hfirst, hnil, rfl⟩ := List.forall₂_cons_left_iff.1 hreads
    cases hnil
    rw [List.map_singleton, String.intercalate_singleton]
    refine parses_field hfirst (hdepth first (.head _)) (follows_break (.inr rfl) _ _ _) ?_
    refine .spaces isSpace_of_mem_break (.mark (by decide) rfl rfl ?_)
    rw [List.reverse_cons]
    exact h
  | cons second more ih =>
    obtain ⟨entry, entries, hfirst, hmore, rfl⟩ := List.forall₂_cons_left_iff.1 hreads
    rw [List.forall_mem_cons] at hdepth
    have hcomma : ",".toList = [','] := rfl
    rw [List.map_cons, List.map_cons, String.intercalate_cons_cons, ← List.map_cons]
    simp only [String.toList_append, List.append_assoc, hcomma, List.singleton_append]
    refine parses_field hfirst hdepth.1 (follows_comma _) ?_
    refine .mark (by decide) rfl rfl (.spaces isSpace_of_mem_break ?_)
    refine ih hmore hdepth.2 ?_
    rw [List.reverse_cons, List.append_assoc]
    exact h

/-- A container without parts is two brackets. -/
theorem enclose_nil (opening closing : String) :
    form.enclose level opening closing [] = opening ++ closing :=
  rfl

/-- The characters of a container with parts. -/
theorem toList_enclose (opening closing part : String) (parts : List String) :
    (form.enclose level opening closing (part :: parts)).toList =
      opening.toList ++ ((form.break (level + 1)).toList ++
        ((String.intercalate ("," ++ form.break (level + 1)) (part :: parts)).toList ++
          ((form.break level).toList ++ closing.toList))) := by
  rw [Form.enclose, if_neg (by simp)]
  simp only [String.toList_append, List.append_assoc]

/-- A container begins with its opening bracket. -/
theorem exists_toList_enclose (form : Form) (level : Nat) (opening closing : String)
    (parts : List String) :
    ∃ rest, (form.enclose level opening closing parts).toList = opening.toList ++ rest := by
  cases parts with
  | nil => exact ⟨closing.toList, by rw [enclose_nil, String.toList_append]⟩
  | cons part parts => exact ⟨_, toList_enclose opening closing part parts⟩

/-- The text of an array is read if those of its items are. -/
theorem reads_array {items values : List Value}
    (hitems : List.Forall₂ (ReadsAs limit form) items values) :
    ReadsAs limit form (.array items) (.array values) := by
  intro level s outer rest v hs hdepth hrest h
  rw [Value.depth] at hdepth
  have hopen : State.step Value.builder limit s .openArray = some (.firstItem outer) := by
    rw [hs .openArray (by simp), State.begin, if_pos (by omega)]
  have hopening : "[".toList = ['['] := rfl
  have hclosing : "]".toList = [']'] := rfl
  rw [Value.jsonAt, Value.jsonItems_eq_map]
  cases items with
  | nil =>
    cases hitems
    rw [List.map_nil, enclose_nil]
    exact .mark (by decide) rfl hopen (.mark (by decide) rfl rfl h)
  | cons first items =>
    have hdeep : ∀ w ∈ first :: items, outer.length + 1 + w.depth ≤ limit := by
      intro w hw
      have hle := Value.depth_le_itemsDepth hw
      omega
    rw [List.map_cons, toList_enclose, ← List.map_cons, hopening, hclosing]
    simp only [List.append_assoc, List.cons_append, List.nil_append]
    refine .mark (by decide) rfl hopen (.spaces isSpace_of_mem_break ?_)
    exact parses_items hitems hdeep (awaits_firstItem outer) h

/-- Entries have the keys of the fields that they are read from. -/
theorem keys_eq_of_reads {fields entries : List (String × Value)}
    (h : List.Forall₂ (FieldReadsAs limit form) fields entries) :
    Fields.keys entries = Fields.keys fields := by
  rw [Fields.keys, Fields.keys, eq_comm, ← List.forall₂_eq_eq_eq, List.forall₂_map_left_iff,
    List.forall₂_map_right_iff]
  exact h.imp fun _ _ hfield => hfield.1

/-- The text of an object is read if those of its fields are. -/
theorem reads_object {fields entries : List (String × Value)} (hkeys : (Fields.keys fields).Nodup)
    (hfields : List.Forall₂ (FieldReadsAs limit form) (Value.definedFields fields) entries) :
    ReadsAs limit form (.object fields) (.object entries) := by
  intro level s outer rest v hs hdepth hrest h
  rw [Value.depth] at hdepth
  have hopen : State.step Value.builder limit s .openObject = some (.key true [] outer) := by
    rw [hs .openObject (by simp), State.begin, if_pos (by omega)]
  have hopening : "\x7b".toList = ['\x7b'] := rfl
  have hclosing : "\x7d".toList = ['\x7d'] := rfl
  have hdefined : ∀ field ∈ Value.definedFields fields, field ∈ fields := fun field hfield =>
    (List.mem_filter.1 hfield).1
  have hentries : (Fields.keys entries).Nodup := by
    rw [keys_eq_of_reads hfields]
    exact hkeys.sublist (List.filter_sublist.map Prod.fst)
  rw [Value.jsonAt, Value.jsonFields_eq_map]
  cases hparts : Value.definedFields fields with
  | nil =>
    rw [hparts] at hfields
    cases hfields
    rw [List.map_nil, enclose_nil]
    exact .mark (by decide) rfl hopen (.mark (by decide) rfl rfl h)
  | cons first parts =>
    rw [hparts] at hfields hdefined
    have hdeep : ∀ field ∈ first :: parts, outer.length + 1 + field.2.depth ≤ limit := by
      intro field hfield
      have hle := Value.depth_le_fieldsDepth (hdefined field hfield)
      omega
    rw [List.map_cons, toList_enclose, ← List.map_cons, hopening, hclosing]
    simp only [List.append_assoc, List.cons_append, List.nil_append]
    refine .mark (by decide) rfl hopen (.spaces isSpace_of_mem_break ?_)
    refine parses_fields hfields hdeep ?_
    rw [List.reverse_nil, List.nil_append, Value.ofEntries, Fields.ofEntries_eq_self hentries]
    exact h

/-- The text of a finite number is read as what its digits are taken for. -/
theorem reads_finite {negative : Bool} {q : Nat} (hq : Number.Representable q) {numeral : Numeral}
    (hread : ∀ rest, Follows rest →
      readNumber ((Number.json (.finite negative q hq)).toList ++ rest) = some (numeral, rest)) :
    ReadsAs limit form (.number (.finite negative q hq)) (.number numeral.toNumber) := by
  intro level s outer rest v hs _ hrest h
  rw [Value.jsonAt]
  exact .number (Number.numberText_json negative hq) (hread rest hrest) (hs _ (by simp)) h

/-- The text of a number that is not finite is that of null. -/
theorem reads_not_finite {n : Number} (hn : n.json = "null") :
    ReadsAs limit form (.number n) .null := by
  intro level s outer rest v hs _ _ h
  rw [Value.jsonAt, hn]
  exact .null (hs _ (by simp)) h

/-- The text of a number is read as what JSON says of it, if its digits are read as the double
nearest to them. -/
theorem reads_number {n : Number} (hn : n.ReadsNearest) :
    ReadsAs limit form (.number n) n.normal := by
  cases n with
  | finite negative q hq =>
    obtain ⟨numeral, hnumeral, hread⟩ := Number.read_json hn
    have hmade : Value.number numeral.toNumber =
        Value.number (.finite (negative && q != 0) q hq) :=
      congrArg Value.number hnumeral
    rw [Number.normal, ← hmade]
    exact reads_finite hq hread
  | nan | infinite => exact reads_not_finite rfl

/-- The text of every value whose objects hold no key twice is read, if the digits of its numbers
are. -/
theorem reads_of_wellFormed {w : Value} (hw : w.WellFormed)
    (hnumbers : ∀ n ∈ w.numbers, n.ReadsNearest) : ReadsAs limit form w w.normal := by
  induction w using Value.induct with
  | undefined | null =>
    intro level s outer rest v hs _ _ h
    exact .null (hs .null (by simp)) h
  | bool t =>
    intro level s outer rest v hs _ _ h
    exact .bool (hs (.bool t) (by simp)) h
  | bigint | string | regex =>
    intro level s outer rest v hs _ _ h
    exact .quoted (hs (.string _) (by simp)) h
  | number n => exact reads_number (hnumbers n (.head _))
  | array items ih =>
    rw [Value.wellFormed_array] at hw
    rw [Value.normal, Value.normalItems_eq_map]
    refine reads_array (List.forall₂_map_right_iff.2 (List.forall₂_same.2 fun w hmem => ?_))
    exact ih w hmem (hw w hmem) fun n hn =>
      hnumbers n (Value.numbers_subset_itemsNumbers hmem hn)
  | object fields ih =>
    rw [Value.wellFormed_object] at hw
    rw [Value.normal, Value.normalFields_eq_map]
    refine reads_object hw.1 (List.forall₂_map_right_iff.2 (List.forall₂_same.2 fun field h => ?_))
    have hmem := (List.mem_filter.1 h).1
    exact ⟨rfl, ih field hmem (hw.2 field hmem) fun n hn =>
      hnumbers n (Value.numbers_subset_fieldsNumbers hmem hn)⟩

end

end Json

namespace Value

/-- A text that is read wherever a value may begin is read from its beginning to its end, spaces
behind it included. -/
theorem read?_append_of_reads {form : Json.Form} {v w : Value}
    (h : Json.ReadsAs Json.depthLimit form v w) (hdepth : v.depth ≤ Json.depthLimit)
    {spaces : String} (hspaces : ∀ c ∈ spaces.toList, Json.isSpace c = true) :
    read? (v.json form ++ spaces) = some w := by
  have hdone : Json.Parses builder Json.depthLimit (.next w []) spaces.toList w := by
    rw [← List.append_nil spaces.toList]
    exact .spaces hspaces (.done _)
  have hparses : Json.Parses builder Json.depthLimit (.value []) (v.json form ++ spaces).toList
      w := by
    rw [json, String.toList_append]
    refine h (Json.awaits_value []) ?_ (Json.follows_spaces hspaces) hdone
    rwa [List.length_nil, Nat.zero_add]
  exact hparses.read?

/-- A text that is read wherever a value may begin is read from its beginning to its end. -/
theorem read?_of_reads {form : Json.Form} {v w : Value}
    (h : Json.ReadsAs Json.depthLimit form v w) (hdepth : v.depth ≤ Json.depthLimit) :
    read? (v.json form) = some w := by
  have hread : read? (v.json form ++ "") = some w := read?_append_of_reads h hdepth nofun
  rwa [String.append_empty] at hread

/-- A record whose numbers are written without point and exponent is read back. -/
theorem read?_json_of_unpointed (form : Json.Form) {v : Value} (hw : v.WellFormed)
    (hdepth : v.depth ≤ Json.depthLimit) (hnumbers : ∀ n ∈ v.numbers, n.Unpointed) :
    read? (v.json form) = some v.normal :=
  read?_of_reads (Json.reads_of_wellFormed hw fun n hn =>
    Number.readsNearest_of_unpointed (hnumbers n hn)) hdepth

/-- The text of a value that nests no deeper than the limit is read as the normal form of the value,
with its keys in order, and what was read is written, in either layout, like the value. The numbers
of the value are assumed to be read as the doubles nearest to their digits. -/
theorem read?_json (form : Json.Form) {v : Value} (hw : v.WellFormed)
    (hdepth : v.depth ≤ Json.depthLimit) (hnumbers : ∀ n ∈ v.numbers, n.ReadsNearest) :
    read? (v.json form) = some v.normal ∧
      ∀ form' : Json.Form, (read? (v.json form)).map (json form') = some (v.json form') := by
  have hread : read? (v.json form) = some v.normal :=
    read?_of_reads (Json.reads_of_wellFormed hw hnumbers) hdepth
  refine ⟨hread, fun form' => ?_⟩
  rw [hread, Option.map_some, json, jsonAt_normal, json]

/-- A record with everything that JSON cannot say is read back without it: an undefined field
between others, a negative zero, numbers that are not finite, a wide integer and a pattern. -/
theorem read?_json_of_nested :
    let pattern : Pattern := ⟨"a.c", "i", _, rfl⟩
    let wide : BigInt := ⟨18446744073709551616, by decide, by decide⟩
    let items : List Value := [.number (.signedZero true), .number .nan,
      .number (.infinite true), .number (.ofDecimal false 3 (-1)), .number (.ofNat (Nat.pow 2 60)),
      .undefined, .array [], .object []]
    let v : Value := .object [("first \"key\"\n", .bigint wide), ("gone", .undefined),
      ("items", .array items), ("pattern", .regex pattern)]
    v.WellFormed ∧ v.depth ≤ Json.depthLimit ∧ (∀ n ∈ v.numbers, n.ReadsNearest) ∧
      read? (v.json .pretty) = some v.normal ∧
      ∀ form : Json.Form, (read? (v.json .pretty)).map (json form) = some (v.json form) := by
  intro pattern wide items v
  have hw : v.WellFormed := by
    simp [v, items, WellFormed, WellFormedFields, WellFormedItems]
  have hdepth : v.depth ≤ Json.depthLimit := by decide
  have hnumbers : ∀ n ∈ v.numbers, n.ReadsNearest := by decide +kernel
  exact ⟨hw, hdepth, hnumbers, read?_json .pretty hw hdepth hnumbers⟩

end Value

end RecordQuery

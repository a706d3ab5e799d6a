import Mathlib.Data.List.TakeWhile
import RecordQuery.Proofs.CommandLine.Again
import RecordQuery.Proofs.Json.Compact

/-!
# Records on lines

Records that stand on lines in their compact texts are read as the array of these texts is, whatever
line ends and blank lines are used (`readRecords_lines`): a line break never cuts through a compact
text, and the first line that is not blank shows that the text is no array. A text on lines is
refused at its first line that is neither blank nor JSON, blank lines counted
(`head?_lineFaults`).
-/

namespace RecordQuery

/-! ## Blanks -/

namespace Text

/-- A text is trimmed to nothing just if it is blank. -/
theorem isEmpty_trim_iff {cs : List Char} :
    (trim cs).isEmpty = true ↔ ∀ c ∈ cs, isBlank c = true := by
  rw [trim, List.isEmpty_reverse, List.isEmpty_iff, List.dropWhile_eq_nil_iff, trimStart]
  constructor
  · intro h c hc
    rw [← List.takeWhile_append_dropWhile (p := isBlank) (l := cs)] at hc
    rcases List.mem_append.1 hc with hc | hc
    · exact List.all_eq_true.1 List.all_takeWhile c hc
    · exact h c (List.mem_reverse.2 hc)
  · intro h c hc
    exact h c ((List.dropWhile_suffix _).mem (List.mem_reverse.1 hc))

end Text

namespace CommandLine

open Text Value

/-! ## Splitting a text into lines -/

variable {cs rest before : List Char}

/-- What stands before a line feed is a line. -/
theorem linesAfter_append (before rest : List Char) (h : '\n' ∉ cs) :
    linesAfter before (cs ++ '\n' :: rest) = endLine (cs.reverse ++ before) :: lines rest := by
  induction cs generalizing before with
  | nil => rfl
  | cons c cs ih =>
    rw [List.mem_cons, not_or] at h
    have hstep : linesAfter before (c :: (cs ++ '\n' :: rest)) =
        linesAfter (c :: before) (cs ++ '\n' :: rest) := by
      rw [linesAfter]
      exact fun heq => h.1 heq.symm
    rw [List.cons_append, hstep, ih _ h.2, List.reverse_cons, List.append_assoc,
      List.singleton_append]

/-- What has no line feed is one line, if it is not empty. -/
theorem linesAfter_last (before : List Char) (h : '\n' ∉ cs) :
    linesAfter before cs =
      if (cs.reverse ++ before).isEmpty then [] else [(cs.reverse ++ before).reverse] := by
  induction cs generalizing before with
  | nil => rfl
  | cons c cs ih =>
    rw [List.mem_cons, not_or] at h
    have hstep : linesAfter before (c :: cs) = linesAfter (c :: before) cs := by
      rw [linesAfter]
      exact fun heq => h.1 heq.symm
    rw [hstep, ih _ h.2, List.reverse_cons, List.append_assoc, List.singleton_append]

/-- A line that ends loses a carriage return at most. -/
theorem mem_of_mem_endLine {c : Char} (h : c ∈ endLine before) : c ∈ before := by
  unfold endLine at h
  split at h
  · exact .tail _ (List.mem_reverse.1 h)
  · exact List.mem_reverse.1 h

/-- Without a carriage return a line stays as it is. -/
theorem endLine_reverse (h : '\r' ∉ cs) : endLine cs.reverse = cs := by
  unfold endLine
  split
  · rename_i before heq
    exact absurd (List.mem_reverse.1 (heq ▸ .head before)) h
  · exact List.reverse_reverse cs

/-! ## Texts on lines -/

/-- A line end. -/
inductive LineEnd : List Char → Prop
  | feed : LineEnd ['\n']
  | returnFeed : LineEnd ['\r', '\n']

/-- What a line holds: one record in its compact text, or nothing but blanks and no record. -/
inductive LineOf : List Char → List Value → Prop
  | record (v : Value) : LineOf (v.json .compact).toList [v]
  | blank {cs : List Char} (hblank : ∀ c ∈ cs, isBlank c = true) (hline : '\n' ∉ cs) : LineOf cs []

/-- The records stand on the lines of a text, in their order. The last line needs no end. -/
inductive OnLines : List Char → List Value → Prop
  | last {cs : List Char} {records : List Value} (hline : LineOf cs records) : OnLines cs records
  | line {cs ending rest : List Char} {records more : List Value} (hline : LineOf cs records)
    (hend : LineEnd ending) (hrest : OnLines rest more) :
    OnLines (cs ++ (ending ++ rest)) (records ++ more)

variable {records : List Value}

/-- The characters of a record on its line. -/
def lineText (v : Value) : List Char := (v.json .compact).toList

/-- No line feed stands on a line. -/
theorem LineOf.newline_not_mem (h : LineOf cs records) : '\n' ∉ cs := by
  cases h with
  | record v => exact (visible_json v).newline_not_mem
  | blank _ hline => exact hline

/-- One line is filled or not. -/
theorem filledLines_cons (line : List Char) (more : List (List Char)) :
    filledLines (line :: more) = filledLines [line] ++ filledLines more := by
  rw [filledLines, filledLines, filledLines, ← List.filter_append, List.singleton_append]

/-- A blank line is not filled. -/
theorem filledLines_blank (h : ∀ c ∈ cs, isBlank c = true) : filledLines [cs] = [] := by
  rw [filledLines, List.filter_cons_of_neg, List.filter_nil]
  rw [isEmpty_trim_iff.2 h]
  decide

/-- The line of a record is filled. -/
theorem filledLines_lineText (v : Value) : filledLines [lineText v] = [lineText v] := by
  obtain ⟨c, rest, htext, hc, _⟩ := exists_head_json .compact v
  have hfilled : ¬ (trim (lineText v)).isEmpty = true := by
    intro hempty
    rw [isEmpty_trim_iff, lineText, htext, List.forall_mem_cons, hc] at hempty
    exact absurd hempty.1 Bool.false_ne_true
  rw [filledLines, List.filter_cons_of_pos, List.filter_nil]
  rwa [Bool.not_eq_true', ← Bool.not_eq_true]

/-- A line is filled with its record. -/
theorem LineOf.filledLines_eq (h : LineOf cs records) :
    filledLines [cs] = records.map lineText := by
  cases h with
  | record v => exact filledLines_lineText v
  | blank hblank => exact filledLines_blank hblank

/-- A line that ends in either way is split off, and it is filled with its record. -/
theorem LineOf.split {ending : List Char} (h : LineOf cs records) (hend : LineEnd ending) :
    ∃ line, lines (cs ++ (ending ++ rest)) = line :: lines rest ∧
      filledLines [line] = records.map lineText := by
  cases hend with
  | feed =>
    refine ⟨endLine cs.reverse, ?_, ?_⟩
    · have hsplit := linesAfter_append [] rest h.newline_not_mem
      rwa [List.append_nil] at hsplit
    · cases h with
      | record v =>
        rw [endLine_reverse (visible_json v).return_not_mem]
        exact filledLines_lineText v
      | blank hblank =>
        exact filledLines_blank fun c hc => hblank c (List.mem_reverse.1 (mem_of_mem_endLine hc))
  | returnFeed =>
    refine ⟨cs, ?_, h.filledLines_eq⟩
    have hfeed : '\n' ∉ cs ++ ['\r'] := by
      rw [List.mem_append, not_or]
      exact ⟨h.newline_not_mem, by decide⟩
    have hsplit := linesAfter_append [] rest hfeed
    rw [List.append_nil, List.reverse_append, List.append_assoc] at hsplit
    exact hsplit.trans (congrArg (· :: lines rest) (List.reverse_reverse cs))

/-- The lines of a text that are filled are those of the records. -/
theorem OnLines.filledLines_eq (h : OnLines cs records) :
    filledLines (lines cs) = records.map lineText := by
  induction h with
  | @last cs records hline =>
    have hlast := linesAfter_last [] hline.newline_not_mem
    rw [List.append_nil, List.reverse_reverse, List.isEmpty_reverse] at hlast
    rw [← hline.filledLines_eq, lines, hlast]
    cases cs with
    | nil => rfl
    | cons c cs => rfl
  | line hline hend _ ih =>
    obtain ⟨line, hsplit, hfilled⟩ := hline.split hend
    rw [hsplit, filledLines_cons, hfilled, ih, List.map_append]

/-! ## The first line that is not blank -/

/-- A line end is blank. -/
theorem LineEnd.isBlank {ending : List Char} (h : LineEnd ending) :
    ∀ c ∈ ending, isBlank c = true := by
  cases h <;> exact List.all_eq_true.1 rfl

/-- Blanks in front are trimmed. -/
theorem trimStart_append (h : ∀ c ∈ cs, isBlank c = true) :
    trimStart (cs ++ rest) = trimStart rest :=
  List.dropWhile_append_of_pos h

/-- In front of a record nothing is trimmed. -/
theorem trimStart_lineText (v : Value) (rest : List Char) :
    trimStart (lineText v ++ rest) = lineText v ++ rest := by
  obtain ⟨c, more, htext, hc, _⟩ := exists_head_json .compact v
  rw [lineText, htext, List.cons_append, trimStart,
    List.dropWhile_cons_of_neg (Bool.eq_false_iff.1 hc)]

/-- A text begins with its first record, but for blanks. -/
theorem OnLines.trimStart_eq {first : Value} {more : List Value}
    (h : OnLines cs (first :: more)) : ∃ rest, trimStart cs = lineText first ++ rest := by
  generalize hrecords : first :: more = records at h
  induction h generalizing more with
  | last hline =>
    cases hline with
    | record v =>
      obtain ⟨rfl, _⟩ := List.cons.inj hrecords
      exact ⟨[], by rw [← trimStart_lineText, List.append_nil, lineText]⟩
    | blank => cases hrecords
  | @line cs ending rest records more hline hend _ ih =>
    cases hline with
    | record v =>
      obtain ⟨rfl, _⟩ := List.cons.inj hrecords
      exact ⟨_, trimStart_lineText first _⟩
    | blank hblank =>
      obtain ⟨rest, hrest⟩ := ih hrecords
      exact ⟨rest, by rw [trimStart_append hblank, trimStart_append hend.isBlank, hrest]⟩

/-- A text that does not begin with an opening bracket, but for blanks, has its records on lines. -/
theorem readRecords_eq_recordsFrom {text : String} {c : Char}
    (h : trimStart text.toList = c :: rest) (hc : c ≠ '[') :
    readRecords text = recordsFrom 1 (lines text.toList) := by
  rw [readRecords, h]
  split
  · rename_i heq
    cases heq
  · rename_i heq
    exact absurd (List.cons.inj heq).1 hc
  · rfl

/-! ## Faults -/

/-- The line is neither blank nor JSON by itself. -/
def Unreadable (line : List Char) : Prop :=
  ¬ (trim line).isEmpty ∧ Value.read? (String.ofList line) = none

/-- A line is at fault just if it is neither blank nor JSON. -/
theorem lineFault?_eq_some_iff {line : List Char} {number : Nat} {failure : Failure} :
    lineFault? (line, number) = some failure ↔
      Unreadable line ∧ failure = ⟨[.line number], .json⟩ := by
  rw [lineFault?, Unreadable]
  split
  · rename_i hfine
    refine iff_of_false nofun ?_
    rintro ⟨⟨hfilled, hnone⟩, _⟩
    rcases hfine with hblank | hsome
    · exact hfilled hblank
    · rw [hnone] at hsome
      cases hsome
  · rename_i hfault
    rw [not_or, Option.not_isSome_iff_eq_none] at hfault
    rw [Option.some.injEq, and_iff_right hfault, eq_comm]

/-- The line with the index is neither blank nor JSON, and none before it is so. -/
def FirstUnreadable (lines : List (List Char)) (i : Nat) : Prop :=
  (∃ line, lines[i]? = some line ∧ Unreadable line) ∧
    ∀ j < i, ∀ line, lines[j]? = some line → ¬ Unreadable line

/-- The first line is the first unreadable one if it is unreadable. -/
theorem firstUnreadable_cons_of_pos {line : List Char} (h : Unreadable line)
    (more : List (List Char)) (i : Nat) : FirstUnreadable (line :: more) i ↔ i = 0 := by
  constructor
  · intro hfirst
    by_contra hne
    exact hfirst.2 0 (Nat.pos_of_ne_zero hne) line rfl h
  · rintro rfl
    exact ⟨⟨line, rfl, h⟩, fun j hj => absurd hj (Nat.not_lt_zero j)⟩

/-- If the first line is readable, the first unreadable one is that of the rest. -/
theorem firstUnreadable_cons_of_neg {line : List Char} (h : ¬ Unreadable line)
    (more : List (List Char)) (i : Nat) :
    FirstUnreadable (line :: more) i ↔ ∃ k, i = k + 1 ∧ FirstUnreadable more k := by
  constructor
  · rintro ⟨⟨fault, hfault, hunreadable⟩, hbefore⟩
    cases i with
    | zero =>
      obtain rfl := Option.some.inj hfault
      exact absurd hunreadable h
    | succ k =>
      exact ⟨k, rfl, ⟨fault, hfault, hunreadable⟩, fun j hj => hbefore (j + 1) (by omega)⟩
  · rintro ⟨k, rfl, hfault, hbefore⟩
    refine ⟨hfault, fun j hj before hget => ?_⟩
    cases j with
    | zero =>
      obtain rfl := Option.some.inj hget
      exact h
    | succ j => exact hbefore j (by omega) before hget

/-- The first fault is that of the first unreadable line, under its number. -/
theorem head?_lineFaults {number : Nat} {lines : List (List Char)} {failure : Failure} :
    (lineFaults number lines).head? = some failure ↔
      ∃ i, FirstUnreadable lines i ∧ failure = ⟨[.line (number + i)], .json⟩ := by
  induction lines generalizing number with
  | nil =>
    refine iff_of_false nofun ?_
    rintro ⟨i, ⟨⟨line, hline, _⟩, _⟩, _⟩
    cases hline
  | cons line rest ih =>
    rw [lineFaults, List.zipIdx_cons]
    by_cases h : Unreadable line
    · rw [List.filterMap_cons_some (lineFault?_eq_some_iff.2 ⟨h, rfl⟩), List.head?_cons,
        Option.some.injEq]
      simp only [firstUnreadable_cons_of_pos h, exists_eq_left, Nat.add_zero]
      exact eq_comm
    · have hnone : lineFault? (line, number) = none :=
        Option.eq_none_iff_forall_ne_some.2 fun failure hfailure =>
          h (lineFault?_eq_some_iff.1 hfailure).1
      rw [List.filterMap_cons_none hnone, ← lineFaults, ih]
      simp only [firstUnreadable_cons_of_neg h]
      constructor
      · rintro ⟨k, hk, rfl⟩
        exact ⟨k + 1, ⟨k, rfl, hk⟩, by rw [Nat.add_assoc, Nat.add_comm 1]⟩
      · rintro ⟨_, ⟨k, rfl, hk⟩, rfl⟩
        exact ⟨k, hk, by rw [Nat.add_assoc, Nat.add_comm 1]⟩

/-- There is a first unreadable line if there is one. -/
theorem exists_firstUnreadable {lines : List (List Char)} {line : List Char} (hmem : line ∈ lines)
    (h : Unreadable line) : ∃ i, FirstUnreadable lines i := by
  classical
  have hexists : ∃ i : Nat, ∃ line, lines[i]? = some line ∧ Unreadable line := by
    obtain ⟨i, hi⟩ := List.mem_iff_getElem?.1 hmem
    exact ⟨i, line, hi, h⟩
  refine ⟨Nat.find hexists, Nat.find_spec hexists, fun j hj before hget hbefore => ?_⟩
  exact Nat.find_min hexists hj ⟨before, hget, hbefore⟩

/-! ## Reading records -/

/-- Records on lines are read as the array of their compact texts. -/
theorem readRecords_lines {text : String} {first : Value} {more : List Value}
    (h : OnLines text.toList (first :: more))
    (hrecords : ∀ v ∈ first :: more, v.WellFormed ∧ v.depth < Json.depthLimit)
    (hfirst : ∀ items, first ≠ .array items) :
    ∃ values,
      List.Forall₂ (fun v w => Value.read? (v.json .compact) = some w) (first :: more) values ∧
      readRecords text = .ok values ∧
      readRecords ((Value.array (first :: more)).json .compact) = .ok values := by
  obtain ⟨values, hreads⟩ := exists_forall₂ fun v hv =>
    Json.exists_readsAs Json.depthLimit .compact (hrecords v hv).1
  have hread : List.Forall₂ (fun v w => Value.read? (v.json .compact) = some w)
      (first :: more) values :=
    forall₂_mono_of_mem hreads fun v hv w _ hvw => read?_of_reads hvw (hrecords v hv).2.le
  refine ⟨values, hread, ?_, ?_⟩
  · obtain ⟨rest, htrimmed⟩ := h.trimStart_eq
    obtain ⟨c, tail, htext, _, hc⟩ := exists_head_json .compact first
    rw [lineText, htext, List.cons_append] at htrimmed
    have hbracket : c ≠ '[' := fun heq => by
      obtain ⟨items, hitems⟩ := hc heq
      exact hfirst items hitems
    rw [readRecords_eq_recordsFrom htrimmed hbracket, (recordsFrom_yields 1 _).ok,
      h.filledLines_eq, List.forall₂_map_left_iff]
    refine hread.imp fun v w hvw => ?_
    rwa [LineHolds, lineText, String.ofList_toList]
  · have hbehind : ∀ c ∈ "".toList, Json.isSpace c = true := List.forall_mem_nil _
    have harray := readRecords_array_of_reads hreads (fun v hv => (hrecords v hv).2) hbehind
    rwa [String.append_empty] at harray

/-- Records are read alike on lines and in an array, and faults name their lines. Take records that
nest at most 126 deep, of which the first is no array, and a text that has them on its lines, with
any line ends and blank lines: it is read as the array of their compact texts is. And a text that
begins with anything but an opening bracket is refused just if a line of it is neither blank nor
JSON by itself; the failure names the first such line, blank lines counted. -/
theorem readRecords_lines_and_faults :
    (∀ (text : String) (first : Value) (more : List Value), OnLines text.toList (first :: more) →
      (∀ v ∈ first :: more, v.WellFormed ∧ v.depth ≤ 126) → (∀ items, first ≠ .array items) →
      ∃ values,
        List.Forall₂ (fun v w => Value.read? (v.json .compact) = some w) (first :: more) values ∧
        readRecords text = .ok values ∧
        readRecords ("[" ++ String.intercalate "," ((first :: more).map (Value.json .compact)) ++
          "]") = .ok values) ∧
    ∀ (text : String) (c : Char) (rest : List Char), trimStart text.toList = c :: rest → c ≠ '[' →
      ((∃ failure, readRecords text = .error failure) ↔
        ∃ line ∈ lines text.toList, Unreadable line) ∧
      ∀ failure, readRecords text = .error failure →
        ∃ i, FirstUnreadable (lines text.toList) i ∧ failure = ⟨[.line (1 + i)], .json⟩ := by
  constructor
  · intro text first more h hrecords hfirst
    rw [← json_compact_array]
    exact readRecords_lines h (fun v hv => ⟨(hrecords v hv).1, Nat.lt_succ_of_le (hrecords v hv).2⟩)
      hfirst
  · intro text c rest htrimmed hc
    have herror : ∀ failure, readRecords text = .error failure ↔
        ∃ i, FirstUnreadable (lines text.toList) i ∧ failure = ⟨[.line (1 + i)], .json⟩ := by
      intro failure
      rw [readRecords_eq_recordsFrom htrimmed hc, (recordsFrom_yields 1 _).error, head?_lineFaults]
    refine ⟨⟨?_, ?_⟩, fun failure => (herror failure).1⟩
    · rintro ⟨failure, hfailure⟩
      obtain ⟨i, ⟨⟨line, hline, hunreadable⟩, _⟩, _⟩ := (herror failure).1 hfailure
      exact ⟨line, List.mem_of_getElem? hline, hunreadable⟩
    · rintro ⟨line, hmem, hunreadable⟩
      obtain ⟨i, hi⟩ := exists_firstUnreadable hmem hunreadable
      exact ⟨_, (herror _).2 ⟨i, hi, rfl⟩⟩

/-- A record with a line feed in a text and one with a fraction, behind a blank line and with both
line ends; and a line that is no JSON behind a blank one. -/
theorem readRecords_lines_and_faults_of_blank :
    (∃ values, readRecords " \n\x7b\"s\":\"a\\nb\"\x7d\r\n\t\r\n[0.5]" = .ok values ∧
      readRecords "[\x7b\"s\":\"a\\nb\"\x7d,[0.5]]" = .ok values) ∧
    readRecords "\x7b\"n\": 1\x7d\n\noops\n" = .error ⟨[.line 3], .json⟩ := by
  obtain ⟨hread, hfault⟩ := readRecords_lines_and_faults
  constructor
  · let first : Value := .object [("s", .string "a\nb")]
    let second : Value := .array [.number (.ofDecimal false 5 (-1))]
    have hlines : OnLines ([' '] ++ (['\n'] ++ (lineText first ++ (['\r', '\n'] ++
        (['\t'] ++ (['\r', '\n'] ++ lineText second)))))) [first, second] :=
      .line (.blank (List.all_eq_true.1 rfl) (by decide)) .feed (.line (.record first) .returnFeed
        (.line (.blank (List.all_eq_true.1 rfl) (by decide)) .returnFeed (.last (.record second))))
    have htext : [' '] ++ (['\n'] ++ (lineText first ++ (['\r', '\n'] ++ (['\t'] ++
        (['\r', '\n'] ++ lineText second))))) =
        " \n\x7b\"s\":\"a\\nb\"\x7d\r\n\t\r\n[0.5]".toList := by
      decide +kernel
    have harray : "[" ++ String.intercalate "," ([first, second].map (Value.json .compact)) ++ "]" =
        "[\x7b\"s\":\"a\\nb\"\x7d,[0.5]]" := by
      decide +kernel
    have hrecords : ∀ v ∈ [first, second], v.WellFormed ∧ v.depth ≤ 126 := by
      simp [first, second, WellFormed, WellFormedFields, WellFormedItems, Value.depth, itemsDepth,
        fieldsDepth]
    rw [htext] at hlines
    have hfirst : ∀ items, first ≠ .array items := fun _ h => Value.noConfusion h
    obtain ⟨values, _, htexts⟩ := hread _ first [second] hlines hrecords hfirst
    rw [harray] at htexts
    exact ⟨values, htexts⟩
  · let text := "\x7b\"n\": 1\x7d\n\noops\n"
    have htrimmed : trimStart text.toList = '\x7b' :: "\"n\": 1\x7d\n\noops\n".toList := by
      decide +kernel
    have hlines : lines text.toList = ["\x7b\"n\": 1\x7d".toList, [], "oops".toList] := by
      decide +kernel
    have hjson : (Value.read? (String.ofList "\x7b\"n\": 1\x7d".toList)).isNone = false := by
      decide +kernel
    have hread : ¬ Unreadable "\x7b\"n\": 1\x7d".toList := fun h => by
      rw [h.2] at hjson
      cases hjson
    have hblank : ¬ Unreadable [] := fun h => h.1 rfl
    have hnone : (Value.read? (String.ofList "oops".toList)).isNone = true := by decide +kernel
    have hoops : Unreadable "oops".toList :=
      ⟨by decide +kernel, Option.isNone_iff_eq_none.1 hnone⟩
    have hfirst : ∀ i, FirstUnreadable (lines text.toList) i ↔ i = 2 := by
      intro i
      simp only [hlines, firstUnreadable_cons_of_neg hread, firstUnreadable_cons_of_neg hblank,
        firstUnreadable_cons_of_pos hoops]
      simp
    obtain ⟨hrefused, hnamed⟩ := hfault text '\x7b' _ htrimmed (by decide)
    have hmem : "oops".toList ∈ lines text.toList := by
      rw [hlines]
      exact List.mem_cons_of_mem _ (List.mem_cons_of_mem _ (.head _))
    obtain ⟨failure, hfailure⟩ := hrefused.2 ⟨_, hmem, hoops⟩
    obtain ⟨i, hi, rfl⟩ := hnamed failure hfailure
    obtain rfl := (hfirst i).1 hi
    exact hfailure

end CommandLine

end RecordQuery

import RecordQuery.Proofs.CommandLine.Run
import RecordQuery.Proofs.EqualRecords
import RecordQuery.Proofs.Json.RoundTrip
import RecordQuery.Proofs.Value.Recorded

/-!
# Running again

A run that gets its own output back writes it once more. The output is a JSON array, so it is read
as one, and its records are those that were written up to the signs of zeros
(`readRecords_json_array`). The filter and the ranking do not tell these apart: every record fits
again (`selects_normal`), and records in order stay as they are (`sort_normal`). What is written of
them is the same text (`report_again`).
-/

namespace RecordQuery

open Value

/-! ## Records that are read and written -/

namespace CommandLine

/-- A record of a text was read. -/
theorem recorded_of_readRecords {text : String} {records : List Value}
    (h : readRecords text = .ok records) : ∀ record ∈ records, record.Recorded := by
  have hholds := ((readRecords_yields text).ok records).1 h
  generalize shape text = shape at hholds
  cases shape with
  | blank =>
    obtain rfl := hholds
    exact fun _ hmem => (List.not_mem_nil hmem).elim
  | array text => exact recorded_array.1 (recorded_of_read? hholds)
  | lined lines =>
    intro record hrecord
    obtain ⟨line, _, hline⟩ := exists_mem_of_forall₂ hholds hrecord
    exact recorded_of_read? hline

/-- The records of texts were read. -/
theorem HaveRecords.recorded {texts : List (Option String × String)} {parts : List (List Value)}
    (h : HaveRecords texts parts) : ∀ record ∈ parts.flatten, record.Recorded := by
  intro record hrecord
  obtain ⟨part, hpart, hmem⟩ := List.mem_flatten.1 hrecord
  obtain ⟨text, _, htext⟩ := exists_mem_of_forall₂ h hpart
  exact recorded_of_readRecords htext record hmem

/-- A text that begins with an opening bracket is an array. -/
theorem readRecords_eq_of_bracket {text : String} {rest : List Char} {items : List Value}
    (htext : text.toList = '[' :: rest) (hread : Value.read? text = some (.array items)) :
    readRecords text = .ok items := by
  have htrimmed : Text.trimStart text.toList = '[' :: rest := by
    rw [htext, Text.trimStart, List.dropWhile_cons_of_neg (by decide)]
  have hwhole : String.ofList ('[' :: rest) = text := by rw [← htext, String.ofList_toList]
  rw [readRecords, htrimmed]
  simp only [hwhole, hread]

/-- What is written of an array begins with an opening bracket. -/
theorem exists_toList_json_array (form : Json.Form) (records : List Value) (behind : String) :
    ∃ rest, ((Value.array records).json form ++ behind).toList = '[' :: rest := by
  obtain ⟨rest, hrest⟩ := Json.exists_toList_enclose form 0 "[" "]"
    (jsonItems form (0 + 1) records)
  have hopening : "[".toList = ['['] := rfl
  rw [Value.json, Value.jsonAt, String.toList_append, hrest, hopening, List.append_assoc,
    List.singleton_append]
  exact ⟨_, rfl⟩

/-- What is written of records is read as the values that their texts are read as. -/
theorem readRecords_array_of_reads {form : Json.Form} {records values : List Value}
    (hreads : List.Forall₂ (Json.ReadsAs Json.depthLimit form) records values)
    (hdepth : ∀ record ∈ records, record.depth < Json.depthLimit) {behind : String}
    (hbehind : ∀ c ∈ behind.toList, Json.isSpace c = true) :
    readRecords ((Value.array records).json form ++ behind) = .ok values := by
  obtain ⟨rest, hrest⟩ := exists_toList_json_array form records behind
  have hitems : itemsDepth records ≤ Json.depthLimit - 1 :=
    itemsDepth_le fun record hrecord => Nat.le_sub_one_of_lt (hdepth record hrecord)
  have hnested : (Value.array records).depth ≤ Json.depthLimit := by
    rw [Value.depth]
    exact Nat.add_le_of_le_sub (by decide) hitems
  refine readRecords_eq_of_bracket hrest ?_
  exact read?_append_of_reads (Json.reads_array hreads) hnested hbehind

/-- What is written of records is read as what JSON says of them. -/
theorem readRecords_json_array (form : Json.Form) {records : List Value}
    (hrecorded : ∀ record ∈ records, record.Recorded)
    (hdepth : ∀ record ∈ records, record.depth < Json.depthLimit)
    (hnumbers : ∀ record ∈ records, ∀ n ∈ record.numbers, n.ReadsNearest) :
    readRecords ((Value.array records).json form ++ "\n") = .ok (records.map Value.normal) := by
  have hspace : ∀ c ∈ "\n".toList, Json.isSpace c = true := List.all_eq_true.1 rfl
  refine readRecords_array_of_reads ?_ hdepth hspace
  refine List.forall₂_map_right_iff.2 (List.forall₂_same.2 fun record hmem => ?_)
  exact Json.reads_of_wellFormed (hrecorded record hmem).wellFormed (hnumbers record hmem)

end CommandLine

/-! ## Selecting and sorting again -/

variable {limit : Nat} {filter : Filter} {ranking : Ranking} {records : List Value}

/-- A filter selects what JSON says of a record just if it selects the record. -/
theorem Filter.selects_normal {spec record : Value} (hspec : spec.WellFormed)
    (h : Filter.ofSpecification limit spec = .ok filter) (hrecord : record.Recorded) :
    filter.selects record.normal = filter.selects record := by
  have hnormal := wellFormed_normal hrecord.wellFormed
  rw [selects, ← Filter.fits_congr hspec h hrecord.wellFormed hnormal hrecord.normal, ← selects]

/-- Records that a ranking has sorted stay in order when JSON has its say. -/
theorem Ranking.sort_normal (hrecorded : ∀ record ∈ records, record.Recorded)
    (h : PreordersOn ranking.compare (· ∈ records)) :
    ranking.sort ((ranking.sort records).map normal) = (ranking.sort records).map normal := by
  have hmem : ∀ record ∈ ranking.sort records, record.Recorded := fun record hrecord =>
    hrecorded record ((ranking.sort_perm _).mem_iff.1 hrecord)
  -- sorting leaves a list in order as it is, so it is left that the list is still in order
  refine Sorting.sort_of_ordered (List.pairwise_map.2 ?_)
  refine (sortedBy_sort h).ordered.imp_of_mem fun {a b} ha hb hab => ?_
  have hcompare : ranking.compare b a = ranking.compare b.normal a.normal :=
    ranking.compare_congr (hmem b hb).wellFormed (wellFormed_normal (hmem b hb).wellFormed)
      (hmem a ha).wellFormed (wellFormed_normal (hmem a ha).wellFormed) (hmem b hb).normal
      (hmem a ha).normal
  rwa [← hcompare]

/-- Without a specification all records tie. -/
theorem Ranking.preordersOn_neutral (p : Value → Prop) :
    PreordersOn (Ranking.leaf .neutral).compare p :=
  (PreordersOn.tie p).congr fun _ _ _ _ => rfl

namespace CommandLine

/-- The filter of an option is specified by a well-formed value. -/
theorem exists_of_filterOf? {text? : Option String} (h : filterOf? limit text? = some filter) :
    ∃ spec, spec.WellFormed ∧ Filter.ofSpecification limit spec = .ok filter := by
  obtain ⟨spec, hspec, hfilter⟩ := Option.bind_eq_some_iff.1 h
  refine ⟨spec, ?_, toOption_eq_some.1 hfilter⟩
  cases text? with
  | none =>
    obtain rfl := Option.some.inj hspec
    exact wellFormed_object.2 ⟨.nil, nofun⟩
  | some text =>
    obtain ⟨j, hj, hread⟩ := Option.bind_eq_some_iff.1 hspec
    exact wellFormed_ofSpecification hj (toOption_eq_some.1 hread)

/-! ## Runs on their own output -/

/-- The arguments ask for a second run on standard input, with the same options. -/
structure Arguments.Repeats (again first : Arguments) : Prop where
  filter_eq : again.filter? = first.filter?
  sort_eq : again.sort? = first.sort?
  compact_eq : again.compact = first.compact
  maxDepth_eq : again.maxDepth? = first.maxDepth?
  explain_eq : again.explain = false
  files_eq : again.files = []

section
variable (arguments : Arguments) (limit : Nat) (read : String → Option String) (input : Option String)

/-- The records that a run selects: those in its texts that fit the filter. -/
def selected : List Value :=
  match filterOf? limit arguments.filter? with
  | some filter => (recordsIn (textsFor arguments read input)).filter filter.selects
  | none => []

/-- The ranking that the sort option asks for, if it is given, is a total preorder of the records
that are selected. -/
def RanksSelected : Prop :=
  ∀ ranking, arguments.sort?.isSome = true → rankingOf? limit arguments.sort? = some ranking →
    PreordersOn ranking.compare (· ∈ selected arguments limit read input)

end

section
variable {arguments again : Arguments} {read : String → Option String} {input : Option String}
  {parts : List (List Value)} (h : Answers arguments read input limit filter ranking parts)
include h

/-- What is selected are the records of the texts that fit. -/
theorem Answers.selected_eq :
    selected arguments limit read input = parts.flatten.filter filter.selects := by
  rw [selected, h.filter_eq, recordsIn_eq h.records]

/-- The records that are selected are in order, if a ranking is asked for, and else tie. -/
theorem Answers.preordersOn (hranks : RanksSelected arguments limit read input) :
    PreordersOn ranking.compare (· ∈ selected arguments limit read input) := by
  cases hsort : arguments.sort? with
  | some text => exact hranks ranking (by rw [hsort]; rfl) h.ranking_eq
  | none =>
    have hneutral := h.ranking_eq
    rw [hsort] at hneutral
    obtain rfl : ranking = .leaf .neutral := (Option.some.inj hneutral).symm
    exact Ranking.preordersOn_neutral _

/-- The answer is what is written of the records that are selected. -/
theorem Answers.written_eq (hrepeats : again.Repeats arguments) :
    (arguments.job filter ranking).written parts.flatten =
      (Value.array (ranking.sort (selected arguments limit read input))).json again.form ++
        "\n" := by
  have hform : again.form = arguments.form := by
    rw [Arguments.form, hrepeats.compact_eq, ← Arguments.form]
  rw [Job.written, h.selected_eq, hform]
  rfl

/-- The records that are selected were read. -/
theorem Answers.recorded :
    ∀ record ∈ selected arguments limit read input, record.Recorded := by
  rw [h.selected_eq]
  exact fun record hrecord => h.records.recorded record (List.mem_filter.1 hrecord).1

/-- What JSON says of a record that is selected is selected. -/
theorem Answers.selects_normal {record : Value}
    (hrecord : record ∈ selected arguments limit read input) :
    filter.selects record.normal = true := by
  obtain ⟨spec, hspec, hfilter⟩ := exists_of_filterOf? h.filter_eq
  rw [Filter.selects_normal hspec hfilter (h.recorded record hrecord)]
  rw [h.selected_eq] at hrecord
  exact (List.mem_filter.1 hrecord).2

/-- A run on the output of a run has an answer: it reads what JSON says of the records that were
written. -/
theorem Answers.repeated (hrepeats : again.Repeats arguments)
    (hdepth : ∀ record ∈ selected arguments limit read input, record.depth < Json.depthLimit)
    (hnumbers : ∀ record ∈ selected arguments limit read input, ∀ n ∈ record.numbers,
      n.ReadsNearest) (read' : String → Option String) :
    Answers again read' ((arguments.job filter ranking).written parts.flatten) limit filter ranking
      [(ranking.sort (selected arguments limit read input)).map normal] := by
  have hmem : ∀ record ∈ ranking.sort (selected arguments limit read input),
      record ∈ selected arguments limit read input := fun record hrecord =>
    (ranking.sort_perm _).mem_iff.1 hrecord
  have htexts : textsFor again read' ((arguments.job filter ranking).written parts.flatten) =
      [(none, (arguments.job filter ranking).written parts.flatten)] := by
    rw [textsFor, hrepeats.files_eq]
    rfl
  -- the options, the files, the records of the input, and a verdict on each of them
  refine ⟨⟨?_, ?_⟩, ?_, ?_, ?_⟩
  · rw [hrepeats.filter_eq, h.filter_eq]
  · rw [hrepeats.sort_eq, h.ranking_eq]
  · refine ⟨?_, fun _ => rfl⟩
    rw [hrepeats.files_eq]
    exact List.forall_mem_nil _
  · rw [htexts, h.written_eq hrepeats]
    refine .cons (readRecords_json_array again.form ?_ ?_ ?_) .nil
    · exact fun record hrecord => h.recorded record (hmem record hrecord)
    · exact fun record hrecord => hdepth record (hmem record hrecord)
    · exact fun record hrecord => hnumbers record (hmem record hrecord)
  · rw [List.flatten_singleton, List.forall_mem_map]
    intro record hrecord
    have hselects := h.selects_normal (hmem record hrecord)
    exact ⟨true, toOption_eq_some.1 (beq_iff_eq.1 hselects)⟩

/-- What a run writes of its own output is that output. -/
theorem Answers.written_repeated (hrepeats : again.Repeats arguments)
    (hranks : RanksSelected arguments limit read input) :
    (again.job filter ranking).written
        [(ranking.sort (selected arguments limit read input)).map normal].flatten =
      (arguments.job filter ranking).written parts.flatten := by
  have hall : ((ranking.sort (selected arguments limit read input)).map normal).filter
      filter.selects = (ranking.sort (selected arguments limit read input)).map normal := by
    rw [List.filter_eq_self, List.forall_mem_map]
    exact fun record hrecord => h.selects_normal ((ranking.sort_perm _).mem_iff.1 hrecord)
  have hsort := Ranking.sort_normal h.recorded (h.preordersOn hranks)
  have hnormal : Value.array ((ranking.sort (selected arguments limit read input)).map normal) =
      (Value.array (ranking.sort (selected arguments limit read input))).normal := by
    rw [normal, normalItems_eq_map]
  rw [h.written_eq hrepeats, List.flatten_singleton, Job.written]
  dsimp only [Arguments.job]
  rw [hall, hsort, hnormal, json, jsonAt_normal, ← json]

end

/-- A run on the output of a good run, with the same options, is good and has the same output, if
the records in the output nest less deep than texts may and the ranking that the sort option asks
for, if it is given, is a total preorder of them. The digits of their numbers are assumed to be read
as the doubles nearest to them. -/
theorem report_again {args args' : List String} {arguments again : Arguments}
    (hargs : Arguments.read args = .ok arguments) (hargs' : Arguments.read args' = .ok again)
    (hrepeats : again.Repeats arguments) (hexplain : arguments.explain = false)
    (setting? : Option String) (read read' : String → Option String) (input : Option String)
    (hgood : (report args setting? read input).exitCode = 0)
    (hdepth : ∀ record ∈ selected arguments (maxDepth arguments setting?) read input,
      record.depth ≤ 126)
    (hranks : RanksSelected arguments (maxDepth arguments setting?) read input)
    (hnumbers : ∀ record ∈ selected arguments (maxDepth arguments setting?) read input,
      ∀ n ∈ record.numbers, n.ReadsNearest) :
    report args' setting? read' (report args setting? read input).out =
      ⟨0, (report args setting? read input).out, depthWarning setting?⟩ := by
  have hyields := output_yields_answer arguments read input setting? hexplain
  rw [report_eq hargs] at hgood ⊢
  obtain ⟨text, hanswer⟩ := (exitCode_eq_zero_iff hyields _).1 hgood
  have hout := out_eq hyields (depthWarning setting?) hanswer
  obtain ⟨filter, ranking, parts, hanswers, rfl⟩ := hanswer
  have hlimit : maxDepth again setting? = maxDepth arguments setting? := by
    rw [maxDepth, hrepeats.maxDepth_eq, ← maxDepth]
  have hrepeated := hanswers.repeated hrepeats
    (fun record hrecord => Nat.lt_succ_of_le (hdepth record hrecord)) hnumbers read'
  have hyields' := output_yields_answer again read'
    ((arguments.job filter ranking).written parts.flatten) setting? hrepeats.explain_eq
  rw [hlimit] at hyields'
  have hagain := (hyields'.ok _).2
    ⟨filter, ranking, _, hrepeated, hanswers.written_repeated hrepeats hranks⟩
  rw [hout, report_eq hargs', hagain, Report.ofOutcome]

/-- The first run reads lines and drops one of them, and the second reads the array that the first
has written, in which a negative zero has lost its sign. -/
theorem report_again_of_lines :
    let filter := "\x7b\"n\": \x7b\"$gt\": -1\x7d\x7d"
    let sort := "\x7b\"n\": -1\x7d"
    let args := ["--filter", filter, "--sort", sort, "-c", "a.ndjson"]
    let args' := ["-f", filter, "-s", sort, "-c"]
    let arguments : Arguments :=
      ⟨some filter, some sort, none, false, true, false, false, ["a.ndjson"]⟩
    let again : Arguments := ⟨some filter, some sort, none, false, true, false, false, []⟩
    let read (_ : String) : Option String :=
      some ("\x7b\"n\": -0, \"s\": [\"x\"]\x7d\n\x7b\"n\": -7\x7d\n\n" ++
        "\x7b\"n\": 0\x7d\n\x7b\"n\": 2\x7d")
    let left := report args none read ""
    Arguments.read args = .ok arguments ∧ Arguments.read args' = .ok again ∧
      again.Repeats arguments ∧ left.exitCode = 0 ∧
      report args' none (fun _ => none) left.out = ⟨0, left.out, ""⟩ := by
  intro filter sort args args' arguments again read left
  have hargs : Arguments.read args = .ok arguments := toOption_eq_some.1 (by decide +kernel)
  have hargs' : Arguments.read args' = .ok again := toOption_eq_some.1 (by decide +kernel)
  have hrepeats : again.Repeats arguments := ⟨rfl, rfl, rfl, rfl, rfl, rfl⟩
  have hgood : left.exitCode = 0 := by decide +kernel
  have hdepth : ∀ record ∈ selected arguments (maxDepth arguments none) read "",
      record.depth ≤ 126 := by
    decide +kernel
  have hnumbers : ∀ record ∈ selected arguments (maxDepth arguments none) read "",
      ∀ n ∈ record.numbers, n.ReadsNearest := by
    decide +kernel
  have hranks : RanksSelected arguments (maxDepth arguments none) read "" := by
    have hall : (rankingOf? (maxDepth arguments none) arguments.sort?).all (fun ranking =>
        decide (PreordersOn ranking.compare
          (· ∈ selected arguments (maxDepth arguments none) read ""))) = true := by
      decide +kernel
    intro ranking _ hranking
    rw [hranking] at hall
    exact of_decide_eq_true hall
  exact ⟨hargs, hargs', hrepeats, hgood,
    report_again hargs hargs' hrepeats rfl none read (fun _ => none) "" hgood hdepth hranks
      hnumbers⟩

end CommandLine

end RecordQuery

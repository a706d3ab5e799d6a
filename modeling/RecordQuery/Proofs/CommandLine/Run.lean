import RecordQuery.CommandLine.Report
import RecordQuery.Proofs.CommandLine.Records
import RecordQuery.Proofs.Ranking.Sorted

/-!
# Runs from end to end

A run answers all or nothing. All that can be wrong with it is listed in the order in which it
counts (`faults`): the specifications, the files or standard input, the records in them, and the
verdicts on the records. Each part of the run is described by what it succeeds with and by its piece
of the list, and the run by putting these together (`output_yields_explanation`,
`output_yields_answer`). What the program leaves behind follows (`report_all_or_nothing`): the
answer and exit code 0 if the list is empty, and otherwise no output, exit code 1 and the first
failure of the list.
-/

namespace RecordQuery

namespace CommandLine

/-- The error of an outcome, if it is one. -/
def errors {ε α : Type} : Except ε α → List ε
  | .ok _ => []
  | .error e => [e]

/-- An outcome is its result, or else its error. -/
theorem yields_errors {ε α : Type} (outcome : Except ε α) :
    Yields outcome (outcome = .ok ·) (errors outcome) := by
  refine ⟨fun a => Iff.rfl, fun e => ?_⟩
  cases outcome <;> simp [errors]

/-! ## Specifications -/

/-- The specification in the text of an option, if it is JSON and its patterns are accepted. -/
def specification? (text : String) : Option Value :=
  (Json.read? text).bind fun j => (Value.ofSpecification j).toOption

/-- The text of an option is no JSON. -/
def jsonFaults (occasion : Occasion) (text : String) : List Failure :=
  if (Json.read? text).isNone then [⟨[occasion], .json⟩] else []

/-- The text of an option is JSON with a pattern that is refused. -/
def patternFaults (occasion : Occasion) (text : String) : List Failure :=
  (Json.read? text).toList.flatMap fun j =>
    (errors (Value.ofSpecification j)).map fun fault =>
      ⟨[occasion], .error (.compile (.invalidPattern fault))⟩

/-- The text of an option has a specification, or is no JSON, or has a pattern that is refused. -/
theorem readSpecification_yields (occasion : Occasion) (text : String) :
    Yields (readSpecification occasion text) (specification? text = some ·)
      (jsonFaults occasion text ++ patternFaults occasion text) := by
  unfold readSpecification specification? jsonFaults patternFaults
  cases Json.read? text with
  | none => exact (Yields.fault _ _).congr fun v => by simp
  | some j =>
    simp only [Option.isNone_some, Bool.false_eq_true, if_false, List.nil_append,
      Option.toList_some, List.flatMap_singleton, Option.bind_some]
    have h := ((yields_errors (Value.ofSpecification j)).mapError fun fault =>
      (⟨[occasion], .error (.compile (.invalidPattern fault))⟩ : Failure)).congr fun v =>
        toOption_eq_some.symm
    generalize Value.ofSpecification j = outcome at h ⊢
    cases outcome <;> exact h

/-- The compilation of a specification fails with the error. -/
def compileFault (e : CompileError) : Failure := ⟨[], .error (.compile e)⟩

/-- The specification of a filter, if the option has one. Without the option every record fits. -/
def filterSpecification? : Option String → Option Value
  | some text => specification? text
  | none => some (.object [])

/-- The specification of a ranking, if the option has one. Without the option there is none. -/
def rankingSpecification? : Option String → Option (Option Value)
  | some text => (specification? text).map some
  | none => some none

/-- The filter that the text of the option specifies. -/
def filterOf? (limit : Nat) (text? : Option String) : Option Filter :=
  (filterSpecification? text?).bind fun v => (Filter.ofSpecification limit v).toOption

/-- The ranking that the text of the option specifies. -/
def rankingOf? (limit : Nat) (text? : Option String) : Option Ranking :=
  (rankingSpecification? text?).bind fun v? => (Ranking.ofSpecification limit v?).toOption

/-- What is wrong with the text of an option, if it is given. -/
def optionFaults (occasion : Occasion) (text? : Option String) : List Failure :=
  text?.toList.flatMap fun text => jsonFaults occasion text ++ patternFaults occasion text

/-- What is wrong with the filter option: its JSON, its patterns, its compilation. -/
def filterFaults (limit : Nat) (text? : Option String) : List Failure :=
  optionFaults .filterOption text? ++ (filterSpecification? text?).toList.flatMap fun v =>
    (errors (Filter.ofSpecification limit v)).map compileFault

/-- What is wrong with the sort option: its JSON, its patterns, its compilation. -/
def rankingFaults (limit : Nat) (text? : Option String) : List Failure :=
  optionFaults .sortOption text? ++ (rankingSpecification? text?).toList.flatMap fun v? =>
    (errors (Ranking.ofSpecification limit v?)).map compileFault

/-- A specification that is there is compiled or is at fault. -/
theorem compile_yields {σ α : Type} {outcome : Except Failure σ} {spec? : Option σ}
    {faults : List Failure} (h : Yields outcome (spec? = some ·) faults)
    (compile : σ → Except CompileError α) {next : σ → Except Failure α}
    (hnext : ∀ spec, next spec = (compile spec).mapError compileFault) :
    Yields (outcome >>= next) ((spec?.bind fun spec => (compile spec).toOption) = some ·)
      (faults ++ spec?.toList.flatMap fun spec => (errors (compile spec)).map compileFault) := by
  have hcompile : ∀ spec, spec? = some spec →
      Yields (next spec) ((compile spec).toOption = some ·)
        (spec?.toList.flatMap fun spec => (errors (compile spec)).map compileFault) := by
    intro spec hspec
    rw [hnext, hspec, Option.toList_some, List.flatMap_singleton]
    exact ((yields_errors (compile spec)).mapError compileFault).congr fun a =>
      toOption_eq_some.symm
  exact (h.bind hcompile).congr fun a => by rw [Option.bind_eq_some_iff]

/-- The text of an option specifies something or is at fault. -/
theorem option_yields (occasion : Occasion) (text : String) :
    Yields (readSpecification occasion text) (specification? text = some ·)
      (optionFaults occasion (some text)) := by
  rw [optionFaults, Option.toList_some, List.flatMap_singleton]
  exact readSpecification_yields occasion text

/-- The filter option specifies a filter or is at fault. -/
theorem readFilter_yields (limit : Nat) (text? : Option String) :
    Yields (readFilter limit text?) (filterOf? limit text? = some ·)
      (filterFaults limit text?) := by
  unfold readFilter
  cases text? with
  | none =>
    have hspec : Yields (.ok (.object [])) (filterSpecification? none = some ·)
        (optionFaults .filterOption none) :=
      (Yields.result _).congr fun v => by rw [filterSpecification?, Option.some.injEq]
    refine compile_yields hspec (Filter.ofSpecification limit) fun v => ?_
    beta_reduce
    cases Filter.ofSpecification limit v <;> rfl
  | some text =>
    have hspec := option_yields .filterOption text
    refine compile_yields hspec (Filter.ofSpecification limit) fun v => ?_
    beta_reduce
    cases Filter.ofSpecification limit v <;> rfl

/-- The sort option specifies a ranking or is at fault. -/
theorem readRanking_yields (limit : Nat) (text? : Option String) :
    Yields (readRanking limit text?) (rankingOf? limit text? = some ·)
      (rankingFaults limit text?) := by
  unfold readRanking
  cases text? with
  | none =>
    have hspec : Yields (.ok none) (rankingSpecification? none = some ·)
        (optionFaults .sortOption none) :=
      (Yields.result _).congr fun v? => by rw [rankingSpecification?, Option.some.injEq]
    refine compile_yields hspec (Ranking.ofSpecification limit) fun v? => ?_
    beta_reduce
    cases Ranking.ofSpecification limit v? <;> rfl
  | some text =>
    have hspec : Yields ((readSpecification .sortOption text).map some)
        (rankingSpecification? (some text) = some ·) (optionFaults .sortOption (some text)) := by
      refine ((option_yields .sortOption text).map some).congr fun v? => ?_
      rw [rankingSpecification?, Option.map_eq_some_iff]
    refine compile_yields hspec (Ranking.ofSpecification limit) fun v? => ?_
    beta_reduce
    cases Ranking.ofSpecification limit v? <;> rfl

/-! ## Jobs -/

/-- The form that the arguments ask for. -/
def Arguments.form (arguments : Arguments) : Json.Form :=
  if arguments.compact then .compact else .pretty

/-- What the run does with records by a filter and a ranking. -/
def Arguments.job (arguments : Arguments) (filter : Filter) (ranking : Ranking) : Job :=
  ⟨filter, ranking, arguments.sort?.isSome, arguments.form⟩

/-- The options specify a filter and a ranking. -/
structure Specify (arguments : Arguments) (limit : Nat) (filter : Filter) (ranking : Ranking) :
    Prop where
  filter_eq : filterOf? limit arguments.filter? = some filter
  ranking_eq : rankingOf? limit arguments.sort? = some ranking

/-- What is wrong with the options, the filter option first. -/
def optionsFaults (arguments : Arguments) (limit : Nat) : List Failure :=
  filterFaults limit arguments.filter? ++ rankingFaults limit arguments.sort?

/-- The options specify a job or are at fault. -/
theorem prepare_yields (arguments : Arguments) (limit : Nat) :
    Yields (prepare arguments limit)
      (fun job => ∃ filter ranking, Specify arguments limit filter ranking ∧
        arguments.job filter ranking = job)
      (optionsFaults arguments limit) := by
  have hfilter := readFilter_yields limit arguments.filter?
  have hranking := readRanking_yields limit arguments.sort?
  have hjob := hfilter.bind fun filter _ => hranking.bind_pure (arguments.job filter)
  refine hjob.congr fun job => ?_
  constructor
  · rintro ⟨filter, hfilter, ranking, hranking, rfl⟩
    exact ⟨filter, ranking, ⟨hfilter, hranking⟩, rfl⟩
  · rintro ⟨filter, ranking, hspecify, rfl⟩
    exact ⟨filter, hspecify.filter_eq, ranking, hspecify.ranking_eq, rfl⟩

/-! ## Texts -/

/-- The failure of a file that cannot be read. -/
def openingFault? (read : String → Option String) (file : String) : Option Failure :=
  if (read file).isSome then none else some ⟨[.opening file], .unreadable⟩

/-- A file that can be read, with its text. -/
def opened? (read : String → Option String) (file : String) : Option (Option String × String) :=
  (read file).map fun text => (some file, text)

/-- The texts of all files are read, or the first that cannot be read is at fault. -/
theorem textsOf_yields (read : String → Option String) (files : List String) :
    Yields (Id.run (textsOf (fun file => pure (read file)) files))
      (fun texts => (∀ file ∈ files, (read file).isSome = true) ∧
        texts = files.filterMap (opened? read))
      (files.filterMap (openingFault? read)) := by
  induction files with
  | nil => exact (Yields.result []).congr fun texts => ⟨fun h => ⟨nofun, h.symm⟩, fun h => h.2.symm⟩
  | cons file rest ih =>
    rw [textsOf]
    simp only [List.forall_mem_cons]
    cases hread : read file with
    | none =>
      have hfault : openingFault? read file = some ⟨[.opening file], .unreadable⟩ :=
        if_neg (by simp [hread])
      rw [List.filterMap_cons_some hfault]
      exact (Yields.fault _ _).congr fun texts => by simp
    | some text =>
      have hfault : openingFault? read file = none := if_pos (by simp [hread])
      have hopened : opened? read file = some (some file, text) := by rw [opened?, hread]; rfl
      rw [List.filterMap_cons_none hfault, List.filterMap_cons_some hopened]
      refine (ih.map ((some file, text) :: ·)).congr fun texts => ?_
      constructor
      · rintro ⟨more, ⟨hrest, rfl⟩, rfl⟩
        exact ⟨⟨rfl, hrest⟩, rfl⟩
      · rintro ⟨⟨_, hrest⟩, rfl⟩
        exact ⟨_, ⟨hrest, rfl⟩, rfl⟩

/-- The failure of standard input that cannot be read. -/
def inputFault? (input : Option String) : Option Failure :=
  if input.isSome then none else some ⟨[], .unreadable⟩

/-- Standard input, if it can be read, with its text. -/
def entered? (input : Option String) : Option (Option String × String) :=
  input.map fun text => (none, text)

/-- The text on standard input is read, or it is at fault. -/
theorem textOfInput_yields (input : Option String) :
    Yields (Id.run (textOfInput (pure input)))
      (fun texts => input.isSome = true ∧ texts = (entered? input).toList)
      (inputFault? input).toList := by
  cases input with
  | none => exact (Yields.fault _ []).congr fun texts => by simp
  | some text =>
    exact (Yields.result _).congr fun texts => ⟨fun h => ⟨rfl, h.symm⟩, fun h => h.2.symm⟩

/-- What the arguments ask to be read can be read: all files, or standard input if no file is
given. -/
structure Readable (arguments : Arguments) (read : String → Option String)
    (input : Option String) : Prop where
  files : ∀ file ∈ arguments.files, (read file).isSome = true
  input : arguments.files = [] → input.isSome = true

/-- The texts that records are read from: those of the files that can be read, or that on standard
input if no file is given. -/
def textsFor (arguments : Arguments) (read : String → Option String) (input : Option String) :
    List (Option String × String) :=
  if arguments.files.isEmpty then (entered? input).toList
  else arguments.files.filterMap (opened? read)

/-- The failures of what cannot be read: files in order, or standard input if no file is given. -/
def readingFaults (arguments : Arguments) (read : String → Option String)
    (input : Option String) : List Failure :=
  if arguments.files.isEmpty then (inputFault? input).toList
  else arguments.files.filterMap (openingFault? read)

/-- All texts are read, or the first that cannot be read is at fault. -/
theorem contents_yields (arguments : Arguments) (read : String → Option String)
    (input : Option String) :
    Yields (Id.run (contents arguments (fun file => pure (read file)) (pure input)))
      (fun texts => Readable arguments read input ∧ texts = textsFor arguments read input)
      (readingFaults arguments read input) := by
  unfold contents textsFor readingFaults
  cases hfiles : arguments.files with
  | nil =>
    refine (textOfInput_yields input).congr fun texts => and_congr_left fun _ => ?_
    refine ⟨fun hinput => ⟨?_, fun _ => hinput⟩, fun hreadable => hreadable.input hfiles⟩
    rw [hfiles]
    exact List.forall_mem_nil _
  | cons file rest =>
    refine (textsOf_yields read (file :: rest)).congr fun texts => and_congr_left fun _ => ?_
    refine ⟨fun hall => ⟨hfiles ▸ hall, fun hnil => ?_⟩, fun hreadable => hfiles ▸ hreadable.files⟩
    rw [hfiles] at hnil
    cases hnil

/-! ## Records -/

/-- What is wrong with the records of a text. -/
def recordFaults : Option String × String → List Failure
  | (file?, text) => (shape text).faults.map (Failure.on (.records file?))

/-- The texts have these records, text by text. -/
def HaveRecords (texts : List (Option String × String)) (parts : List (List Value)) : Prop :=
  List.Forall₂ (fun text part => readRecords text.2 = .ok part) texts parts

/-- The records of all texts are read in order, or the first text with a fault is at fault. -/
theorem recordsOf_yields (texts : List (Option String × String)) :
    Yields (Job.recordsOf texts) (fun records => ∃ parts, HaveRecords texts parts ∧
      parts.flatten = records) (texts.flatMap recordFaults) := by
  induction texts with
  | nil => exact (Yields.result []).congr fun records => by simp [HaveRecords]
  | cons head rest ih =>
    obtain ⟨file?, text⟩ := head
    have hfirst : Yields ((readRecords text).mapError (Failure.on (.records file?)))
        (readRecords text = .ok ·) (recordFaults (file?, text)) :=
      ((readRecords_yields text).mapError _).congr fun part =>
        ((readRecords_yields text).ok part).symm
    rw [Job.recordsOf, List.flatMap_cons]
    refine (hfirst.bind fun part _ => ih.bind_pure (part ++ ·)).congr fun records => ?_
    simp only [HaveRecords, List.forall₂_cons_left_iff]
    constructor
    · rintro ⟨part, hpart, _, ⟨parts, hparts, rfl⟩, rfl⟩
      exact ⟨part :: parts, ⟨part, parts, hpart, hparts, rfl⟩, List.flatten_cons⟩
    · rintro ⟨_, ⟨part, parts, hpart, hparts, rfl⟩, rfl⟩
      exact ⟨part, hpart, _, ⟨parts, hparts, rfl⟩, List.flatten_cons.symm⟩

/-- The records in texts, without those of a text that is at fault. -/
def recordsIn (texts : List (Option String × String)) : List Value :=
  texts.flatMap fun text => (readRecords text.2).toOption.getD []

/-- The records in texts without a fault are all of theirs. -/
theorem recordsIn_eq {texts : List (Option String × String)} {parts : List (List Value)}
    (h : HaveRecords texts parts) : recordsIn texts = parts.flatten := by
  induction h with
  | nil => rfl
  | cons hpart _ ih =>
    rw [recordsIn, List.flatMap_cons, hpart, List.flatten_cons, ← ih]
    rfl

end CommandLine

/-! ## Verdicts -/

/-- The filter says of the record that it fits. -/
def Filter.selects (filter : Filter) (record : Value) : Bool :=
  (filter.fits record).toOption == some true

namespace CommandLine

/-- Verdicts are given on all records and those that fit are kept, or the first record on which
none is given is at fault. -/
theorem select_yields (filter : Filter) (records : List Value) :
    Yields (filter.select records)
      (fun kept => (∀ record ∈ records, ∃ b, filter.fits record = .ok b) ∧
        records.filter filter.selects = kept)
      (records.flatMap fun record => errors (filter.fits record)) := by
  induction records with
  | nil => exact (Yields.result []).congr fun kept => ⟨fun h => ⟨nofun, h⟩, fun h => h.2⟩
  | cons record rest ih =>
    have hrest : ∀ b : Bool, Yields
        (filter.select rest >>= fun more => pure (if b then record :: more else more)) _ _ :=
      fun b => ih.bind_pure fun more => if b then record :: more else more
    rw [Filter.select, List.flatMap_cons, List.forall_mem_cons]
    refine ((yields_errors (filter.fits record)).bind fun b _ => hrest b).congr fun kept => ?_
    have hkeep : ∀ b, filter.fits record = .ok b →
        (record :: rest).filter filter.selects =
          if b then record :: rest.filter filter.selects else rest.filter filter.selects := by
      intro b hb
      rw [List.filter_cons, Filter.selects, hb]
      cases b <;> rfl
    constructor
    · rintro ⟨b, hb, _, ⟨hall, rfl⟩, rfl⟩
      exact ⟨⟨⟨b, hb⟩, hall⟩, hkeep b hb⟩
    · rintro ⟨⟨⟨b, hb⟩, hall⟩, rfl⟩
      exact ⟨b, hb, _, ⟨hall, rfl⟩, (hkeep b hb).symm⟩

/-- The filter fails on a record with the error. -/
def verdictFault (e : EvalError) : Failure := ⟨[], .error (.eval e)⟩

/-- What is wrong with the verdicts of a filter on records. -/
def verdictFaults (filter : Filter) (records : List Value) : List Failure :=
  (records.flatMap fun record => errors (filter.fits record)).map verdictFault

/-- What a job writes of records: those that fit, in order. -/
def Job.written (job : Job) (records : List Value) : String :=
  (Value.array (job.ranking.sort (records.filter job.filter.selects))).json job.form ++ "\n"

/-- The texts have records, on all of which a verdict is given, and this is what the job writes. -/
def Job.AnswersWith (job : Job) (texts : List (Option String × String)) (text : String) : Prop :=
  ∃ parts, HaveRecords texts parts ∧
    (∀ record ∈ parts.flatten, ∃ b, job.filter.fits record = .ok b) ∧
    job.written parts.flatten = text

/-- A job answers if the texts have records on all of which a verdict is given. -/
theorem answer_yields (job : Job) (texts : List (Option String × String)) :
    Yields (job.answer texts) (job.AnswersWith texts)
      (texts.flatMap recordFaults ++ verdictFaults job.filter (recordsIn texts)) := by
  have hanswer : ∀ records : List Value,
      (∃ parts, HaveRecords texts parts ∧ parts.flatten = records) →
      Yields
        ((job.filter.select records).mapError verdictFault >>= fun selected =>
          pure ((Value.array (job.ranking.sort selected)).json job.form ++ "\n"))
        (fun text => (∀ record ∈ records, ∃ b, job.filter.fits record = .ok b) ∧
          job.written records = text)
        (verdictFaults job.filter (recordsIn texts)) := by
    rintro _ ⟨parts, hparts, rfl⟩
    rw [recordsIn_eq hparts]
    refine (((select_yields job.filter _).mapError verdictFault).bind_pure _).congr fun text => ?_
    constructor
    · rintro ⟨_, ⟨hall, rfl⟩, rfl⟩
      exact ⟨hall, rfl⟩
    · rintro ⟨hall, rfl⟩
      exact ⟨_, ⟨hall, rfl⟩, rfl⟩
  have heq : job.answer texts = Job.recordsOf texts >>= fun records =>
      (job.filter.select records).mapError verdictFault >>= fun selected =>
        pure ((Value.array (job.ranking.sort selected)).json job.form ++ "\n") := by
    unfold Job.answer
    congr 1
    funext records
    cases job.filter.select records <;> rfl
  rw [heq]
  refine ((recordsOf_yields texts).bind hanswer).congr fun text => ?_
  constructor
  · rintro ⟨_, ⟨parts, hparts, rfl⟩, hall, rfl⟩
    exact ⟨parts, hparts, hall, rfl⟩
  · rintro ⟨parts, hparts, hall, rfl⟩
    exact ⟨_, ⟨parts, hparts, rfl⟩, hall, rfl⟩

/-! ## Runs -/

section
variable (arguments : Arguments) (read : String → Option String) (input : Option String)

/-- What is wrong with an answer, once there is a filter: what cannot be read, texts without
records, and records without a verdict. -/
def answerFaults (filter : Filter) : List Failure :=
  readingFaults arguments read input ++
    ((textsFor arguments read input).flatMap recordFaults ++
      verdictFaults filter (recordsIn (textsFor arguments read input)))

/-- A job answers if all texts can be read and it answers them. -/
theorem answer_contents_yields (job : Job) :
    Yields (Id.run (contents arguments (fun file => pure (read file)) (pure input)) >>= job.answer)
      (fun text => Readable arguments read input ∧
        job.AnswersWith (textsFor arguments read input) text)
      (answerFaults arguments read input job.filter) := by
  have htexts : ∀ texts : List (Option String × String),
      Readable arguments read input ∧ texts = textsFor arguments read input →
      Yields (job.answer texts) (job.AnswersWith (textsFor arguments read input))
        ((textsFor arguments read input).flatMap recordFaults ++
          verdictFaults job.filter (recordsIn (textsFor arguments read input))) := by
    rintro _ ⟨_, rfl⟩
    exact answer_yields _ _
  refine ((contents_yields arguments read input).bind htexts).congr fun text => ?_
  constructor
  · rintro ⟨_, ⟨hreadable, _⟩, htext⟩
    exact ⟨hreadable, htext⟩
  · rintro ⟨hreadable, htext⟩
    exact ⟨_, ⟨hreadable, rfl⟩, htext⟩

/-- All that can be wrong with a run, in the order in which it counts: the filter option, the sort
option, and, unless the run only explains these, the files in order or standard input, the texts in
order and the records in order. -/
def faults (limit : Nat) : List Failure :=
  optionsFaults arguments limit ++
    if arguments.explain then []
    else (filterOf? limit arguments.filter?).toList.flatMap (answerFaults arguments read input)

/-- The run has an answer: there are a filter and a ranking, all texts can be read and have records,
and on all of these a verdict is given. -/
structure Answers (limit : Nat) (filter : Filter) (ranking : Ranking) (parts : List (List Value)) :
    Prop extends Specify arguments limit filter ranking where
  readable : Readable arguments read input
  records : HaveRecords (textsFor arguments read input) parts
  verdicts : ∀ record ∈ parts.flatten, ∃ b, filter.fits record = .ok b

/-- A run prepares a job, and then explains it or reads texts and answers. -/
theorem output_eq (setting? : Option String) :
    output arguments setting? read input =
      prepare arguments (maxDepth arguments setting?) >>= fun job =>
        if arguments.explain then .ok job.explanation
        else Id.run (contents arguments (fun file => pure (read file)) (pure input)) >>=
          job.answer := by
  unfold output perform
  cases prepare arguments (maxDepth arguments setting?) with
  | error failure => rfl
  | ok job => cases arguments.explain <;> rfl

/-- A run that answers gives what its job writes of the records, or is at fault. -/
theorem output_yields_answer (setting? : Option String) (h : arguments.explain = false) :
    Yields (output arguments setting? read input)
      (fun text => ∃ filter ranking parts,
        Answers arguments read input (maxDepth arguments setting?) filter ranking parts ∧
          (arguments.job filter ranking).written parts.flatten = text)
      (faults arguments read input (maxDepth arguments setting?)) := by
  have hanswer : ∀ job : Job,
      (∃ filter ranking, Specify arguments (maxDepth arguments setting?) filter ranking ∧
        arguments.job filter ranking = job) →
      Yields
        (Id.run (contents arguments (fun file => pure (read file)) (pure input)) >>= job.answer)
        (fun text => Readable arguments read input ∧
          job.AnswersWith (textsFor arguments read input) text)
        ((filterOf? (maxDepth arguments setting?) arguments.filter?).toList.flatMap
          (answerFaults arguments read input)) := by
    rintro _ ⟨filter, ranking, hspecify, rfl⟩
    rw [hspecify.filter_eq, Option.toList_some, List.flatMap_singleton]
    exact answer_contents_yields arguments read input (arguments.job filter ranking)
  rw [output_eq, faults]
  simp only [h, Bool.false_eq_true, if_false]
  refine ((prepare_yields arguments _).bind hanswer).congr fun text => ?_
  constructor
  · rintro ⟨_, ⟨filter, ranking, hspecify, rfl⟩, hreadable, parts, hrecords, hverdicts, rfl⟩
    exact ⟨filter, ranking, parts, ⟨hspecify, hreadable, hrecords, hverdicts⟩, rfl⟩
  · rintro ⟨filter, ranking, parts, hanswers, rfl⟩
    exact ⟨_, ⟨filter, ranking, hanswers.toSpecify, rfl⟩, hanswers.readable, parts,
      hanswers.records, hanswers.verdicts, rfl⟩

end

/-! ## What the program leaves behind -/

/-- The program with arguments that lead to a run leaves behind the outcome of the run. -/
theorem report_eq {args : List String} {arguments : Arguments}
    (hargs : Arguments.read args = .ok arguments) (setting? : Option String)
    (read : String → Option String) (input : Option String) :
    report args setting? read input =
      .ofOutcome (depthWarning setting?) (output arguments setting? read input) := by
  unfold report program
  rw [hargs]
  rfl

section
variable {outcome : Except Failure String} {Good : String → Prop} {faults : List Failure}
  (h : Yields outcome Good faults) (warning : String)
include h

/-- The exit code is 0 just if there is a good outcome. -/
theorem exitCode_eq_zero_iff :
    (Report.ofOutcome warning outcome).exitCode = 0 ↔ ∃ text, Good text := by
  cases outcome with
  | ok text => exact iff_of_true rfl ⟨text, (h.ok text).1 rfl⟩
  | error failure =>
    have hcode : (Report.ofOutcome warning (.error failure)).exitCode = 1 := rfl
    rw [hcode]
    refine iff_of_false (by decide) ?_
    rintro ⟨text, htext⟩
    cases (h.ok text).2 htext

/-- A good outcome is written. -/
theorem out_eq {text : String} (htext : Good text) :
    (Report.ofOutcome warning outcome).out = text := by
  rw [(h.ok text).2 htext, Report.ofOutcome]

end

/-- The sort option is at fault before the file that cannot be read, and standard input, which
cannot be read either, is not asked for. -/
example : report ["-s", "[", "gone.json"] none (fun _ => none) none =
    ⟨1, "", "invalid --sort\nthe text is not valid JSON\n"⟩ := by
  decide +kernel

end CommandLine

end RecordQuery

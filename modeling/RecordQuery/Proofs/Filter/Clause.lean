import RecordQuery.Proofs.Filter.Test
import RecordQuery.Proofs.Source.Judgement
import RecordQuery.Proofs.Value.Part

/-!
# Compiled clauses

Clauses are compiled one after the other in a context that only grows, so what `test_spec` says of a
condition holds of it in whatever context the whole compilation ends with. `compile_spec` carries it
through clauses, lists of clauses and lists of queries, one mutual induction for all three: the
compiled clauses have the verdicts of the clauses, and their source is the text of a level that is
judged as the clauses are.
-/

namespace RecordQuery

open Source

namespace Clause

variable {α : Type}

mutual
/-- The conditions of a clause at a path, with the paths that they stand at. -/
def conditions (path : Path) : Clause α → List (Path × α)
  | condition c => [(path, c)]
  | logic _ operands => queriesConditions path operands
  | field key query => levelConditions (path ++ [key]) query

/-- The conditions of clauses at a path. -/
def levelConditions (path : Path) : List (Clause α) → List (Path × α)
  | [] => []
  | clause :: rest => clause.conditions path ++ levelConditions path rest

/-- The conditions of queries at a path. -/
def queriesConditions (path : Path) : List (List (Clause α)) → List (Path × α)
  | [] => []
  | query :: rest => levelConditions path query ++ queriesConditions path rest
end

end Clause

/-! ## Texts of levels -/

namespace Source

/-- The level has terms, and its text is the one given. -/
def LevelSpells (level : List Term) (text : String) : Prop :=
  level ≠ [] ∧ ∀ rest, render (levelOnto level rest) = text.toList ++ render rest

/-- Terms behind others are written behind a conjunction. -/
theorem LevelSpells.more {level : List Term} {text : String} (h : LevelSpells level text)
    (rest : List Token) :
    render (moreTermsOnto level rest) = " && ".toList ++ (text.toList ++ render rest) := by
  rw [moreTermsOnto_eq h.1]
  simp [h.2]

/-- Levels with a conjunction between them are one level. -/
theorem levelSpells_flatten {levels : List (List Term)} {texts : List String}
    (h : List.Forall₂ LevelSpells levels texts) (hne : texts ≠ []) :
    LevelSpells levels.flatten (String.intercalate " && " texts) := by
  induction h with
  | nil => exact absurd rfl hne
  | @cons level text levels texts hlevel hrest ih =>
    refine ⟨by simp [hlevel.1], fun rest => ?_⟩
    rw [List.flatten_cons, levelOnto_append hlevel.1, hlevel.2]
    cases hrest with
    | nil => simp [moreTermsOnto]
    | cons =>
      rw [(ih (by simp)).more, String.intercalate_cons_cons]
      simp

/-- Levels with a disjunction between them are alternatives. -/
theorem render_alternativesOnto {levels : List (List Term)} {texts : List String}
    (h : List.Forall₂ LevelSpells levels texts) (rest : List Token) :
    render (alternativesOnto levels rest) =
      (String.intercalate " || " texts).toList ++ render rest := by
  have hmore : ∀ {level : List Term} {text : String} {levels : List (List Term)}
      {texts : List String}, LevelSpells level text → List.Forall₂ LevelSpells levels texts →
      render (levelOnto level (moreAlternativesOnto levels rest)) =
        (String.intercalate " || " (text :: texts)).toList ++ render rest := by
    intro level text levels texts hlevel hrest
    induction hrest generalizing level text with
    | nil => rw [moreAlternativesOnto, hlevel.2, String.intercalate_singleton]
    | cons hnext _ ih =>
      rw [moreAlternativesOnto, hlevel.2, String.intercalate_cons_cons]
      simp [ih hnext]
  cases h with
  | nil => simp [alternativesOnto]
  | cons hlevel hrest => exact hmore hlevel hrest

/-- The level of a query, from the levels of its clauses: an empty query is true. -/
def queryLevel (levels : List (List Term)) : List Term :=
  if levels.isEmpty then [.truth] else levels.flatten

/-- The text of the level of a query. -/
theorem levelSpells_queryLevel {levels : List (List Term)} {texts : List String}
    (h : List.Forall₂ LevelSpells levels texts) :
    LevelSpells (queryLevel levels) (Clause.conjunction texts) := by
  cases h with
  | nil => exact ⟨by simp [queryLevel], fun rest => by
      simp [queryLevel, levelOnto, moreTermsOnto, Term.onto, Clause.conjunction]⟩
  | cons hlevel hrest => exact levelSpells_flatten (.cons hlevel hrest) (by simp)

/-- A group of one level is written like its text in parentheses. -/
theorem levelSpells_group {negated : Bool} {levels : List (List Term)} {text : String}
    (h : ∀ rest, render (alternativesOnto levels rest) = text.toList ++ render rest) :
    LevelSpells [.group negated levels] (Test.negationSign negated ++ "(" ++ text ++ ")") := by
  refine ⟨by simp, fun rest => ?_⟩
  rw [levelOnto, moreTermsOnto, Term.onto, render_signOnto, render_cons, h]
  simp

end Source

/-! ## Compilation -/

namespace Context

variable {before after context : Context} {path : Path}

/-- The verdict of a test on a part of the root, where names are those of the context. -/
def Judges (context : Context) (root : Value) (path : Path) (form : Form) (a : Verdict) : Prop :=
  ∃ c : Condition, c.WellFormed ∧ context.Expresses path form c ∧ a = c.holds (path.partOf root)

/-- The tests of the level are forms of the conditions, and the context has grown by what they
mention. -/
structure States (before after : Context) (conditions : List (Path × Condition))
    (level : List Term) : Prop where
  uses : Uses before after (levelMentions level)
  expressed : ∀ leaf ∈ levelLeaves level,
    ∃ c, (leaf.1, c) ∈ conditions ∧ after.Expresses leaf.1 leaf.2 c
  proper : ProperLevel level

/-- Levels for conditions one after the other. -/
theorem States.append {cs cs' : List (Path × Condition)} {first second : List Term}
    (h : States before context cs first) (h' : States context after cs' second) :
    States before after (cs ++ cs') (first ++ second) := by
  refine ⟨levelMentions_append first second ▸ h.uses.append h'.uses, fun leaf hleaf => ?_,
    properLevel_append.2 ⟨h.proper, h'.proper⟩⟩
  rw [levelLeaves_append] at hleaf
  rcases List.mem_append.1 hleaf with hleaf | hleaf
  · obtain ⟨c, hc, hexpresses⟩ := h.expressed leaf hleaf
    exact ⟨c, List.mem_append_left _ hc, hexpresses.mono h'.uses.growth⟩
  · obtain ⟨c, hc, hexpresses⟩ := h'.expressed leaf hleaf
    exact ⟨c, List.mem_append_right _ hc, hexpresses⟩

/-- Alternatives in parentheses are about what the alternatives are about. -/
theorem States.group {cs : List (Path × Condition)} {alternatives : List (List Term)}
    (h : States before after cs alternatives.flatten) (hne : alternatives ≠ [])
    (hlevels : ∀ level ∈ alternatives, level ≠ []) (negated : Bool) :
    States before after cs [.group negated alternatives] := by
  have hleaves : levelLeaves [.group negated alternatives] = levelLeaves alternatives.flatten := by
    rw [levelLeaves, levelLeaves, Term.leaves, alternativesLeaves_eq, List.append_nil]
  refine ⟨?_, hleaves ▸ h.expressed, ⟨hne, properAlternatives_of_flatten hlevels h.proper⟩, trivial⟩
  rw [levelMentions, hleaves]
  exact h.uses

/-- Nothing is stated without conditions. -/
theorem States.nil (h : context.Valid) : States context context [] [] := ⟨.nil h, nofun, trivial⟩

/-- What compilation makes of clauses at a path: a level for their conditions, and verdicts that are
theirs on every value, and that the level is judged by whatever the context grows into. -/
structure Renders (before after : Context) (path : Path) (conditions : List (Path × Condition))
    (tested asked : Value → Verdict) (level : List Term) : Prop where
  states : States before after conditions level
  holds : ∀ v : Value, v.WellFormed → tested v = asked v
  judged : ∀ {final : Context}, after.Extends final → ∀ root,
    LevelJudged (final.Judges root) level (asked (path.partOf root))

/-- Clauses are compiled one after the other. -/
theorem Renders.both {cs cs' : List (Path × Condition)}
    {tested tested' asked asked' : Value → Verdict} {first second : List Term}
    (h : Renders before context path cs tested asked first)
    (h' : Renders context after path cs' tested' asked' second) :
    Renders before after path (cs ++ cs') (fun v => (tested v).both (tested' v))
      (fun v => (asked v).both (asked' v)) (first ++ second) := by
  refine ⟨h.states.append h'.states, fun v hv => ?_, fun hfinal root => ?_⟩
  · simp only [h.holds v hv, h'.holds v hv]
  · exact (h.judged (h'.states.uses.growth.trans hfinal) root).append (h'.judged hfinal root)

end Context

namespace Clause

open Context

/-- A query is written as one level, which is true of everything if there are no clauses. -/
theorem renders_queryLevel {before after : Context} {path : Path}
    {conditions : List (Path × Condition)} {tested asked : Value → Verdict}
    {levels : List (List Term)}
    (h : Renders before after path conditions tested asked levels.flatten) :
    Renders before after path conditions tested asked (queryLevel levels) := by
  cases levels with
  | cons => exact h
  | nil =>
    refine ⟨⟨h.states.uses, nofun, trivial, trivial⟩, h.holds, fun hfinal root => ?_⟩
    have hjudged := h.judged hfinal root
    rw [List.flatten_nil, LevelJudged] at hjudged
    rw [hjudged]
    exact levelJudged_singleton rfl

/-- A group of one level is a conjunction in parentheses. -/
theorem renders_every {before after : Context} {path : Path}
    {conditions : List (Path × Condition)} {tested asked : Value → Verdict} {level : List Term}
    {text : String} (h : Renders before after path conditions tested asked level)
    (hspells : LevelSpells level text) (negated : Bool) :
    Renders before after path conditions (fun v => (tested v).negateIf negated)
        (fun v => (asked v).negateIf negated) [.group negated [level]] ∧
      LevelSpells [.group negated [level]] (Test.negationSign negated ++ "(" ++ text ++ ")") := by
  refine ⟨⟨States.group ?_ (by simp) (by simpa using hspells.1) negated, fun v hv => ?_,
    fun hfinal root => ?_⟩, levelSpells_group fun rest => hspells.2 rest⟩
  · simpa using h.states
  · simp only [h.holds v hv]
  · exact levelJudged_singleton ⟨_, someJudged_singleton (h.judged hfinal root), rfl⟩

/-- A group of several levels is a disjunction in parentheses. -/
theorem renders_some {before after : Context} {path : Path} {conditions : List (Path × Condition)}
    {tested asked : Value → Verdict} {levels : List (List Term)} {texts : List String}
    (h : States before after conditions levels.flatten)
    (htexts : List.Forall₂ LevelSpells levels texts) (hne : texts ≠ [])
    (hholds : ∀ v : Value, v.WellFormed → tested v = asked v)
    (hjudged : ∀ {final : Context}, after.Extends final → ∀ root,
      SomeJudged (final.Judges root) levels (asked (path.partOf root))) (negated : Bool) :
    Renders before after path conditions (fun v => (tested v).negateIf negated)
        (fun v => (asked v).negateIf negated) [.group negated levels] ∧
      LevelSpells [.group negated levels]
        (Test.negationSign negated ++ "(" ++ String.intercalate " || " texts ++ ")") := by
  have hlevels : ∀ level ∈ levels, level ≠ [] := by
    intro level hmem
    obtain ⟨text, _, hspells⟩ := Value.exists_mem_of_forall₂ htexts.flip hmem
    exact hspells.1
  have hlevelsne : levels ≠ [] := by
    rintro rfl
    cases htexts
    exact hne rfl
  refine ⟨⟨h.group hlevelsne hlevels negated, fun v hv => ?_, fun hfinal root => ?_⟩,
    levelSpells_group (render_alternativesOnto htexts)⟩
  · simp only [hholds v hv]
  · exact levelJudged_singleton ⟨_, hjudged hfinal root, rfl⟩

/-- Compiled operands have sources. -/
theorem querySources_ne_nil {path : Path} {context : Context}
    {operands : List (List (Clause Condition))} (h : operands ≠ []) :
    querySources path (compileQueries path context operands).1 ≠ [] := by
  cases operands with
  | nil => exact absurd rfl h
  | cons query rest => exact List.cons_ne_nil _ _

mutual
/-- A compiled clause has the verdict of the clause, and its source is the text of a level that
states it. -/
theorem compile_spec {context : Context} (h : context.Valid) (path : Path) :
    ∀ {clause : Clause Condition}, clause.WellFormed →
      let (compiled, after) := clause.compile path context
      ∃ level, Renders context after path (clause.conditions path) (compiled.holds Test.holds)
          (clause.holds Condition.holds) level ∧ LevelSpells level (compiled.source path)
  | condition c, hw => by
    obtain ⟨form, hcompiles⟩ := test_spec h path hw
    have hleaves : levelLeaves [.test path form] = [(path, form)] := rfl
    refine ⟨[.test path form], ⟨⟨?_, ?_, trivial, trivial⟩, hcompiles.holds, fun hfinal root => ?_⟩,
      by simp, hcompiles.spells⟩
    · rw [levelMentions, hleaves, List.flatMap_singleton]
      exact hcompiles.uses
    · rw [hleaves]
      exact List.forall_mem_singleton.2 ⟨c, .head _, hcompiles.expresses⟩
    · exact levelJudged_singleton ⟨c, hw, hcompiles.expresses.mono hfinal, rfl⟩
  | logic connective operands, hw => by
    obtain ⟨levels, htexts, hrenders, hsome, hsomeJudged⟩ := compileQueries_spec h path hw.2
    have hne : querySources path (compileQueries path context operands).1 ≠ [] :=
      querySources_ne_nil hw.1
    have hall := renders_every hrenders (levelSpells_flatten htexts hne)
    have hany := renders_some hrenders.states htexts hne hsome hsomeJudged
    cases connective with
    | and =>
      have hand := hall false
      simp only [Verdict.negateIf_false] at hand
      exact ⟨_, hand⟩
    | or =>
      have hor := hany false
      simp only [Verdict.negateIf_false] at hor
      exact ⟨_, hor⟩
    | nor => exact ⟨_, hany true⟩
    | nand => exact ⟨_, hall true⟩
  | field key query, hw => by
    obtain ⟨levels, hrenders, htexts⟩ := compileAll_spec h (path ++ [key]) hw
    have hquery := renders_queryLevel hrenders
    refine ⟨queryLevel levels, ⟨hquery.states, fun v hv => ?_, fun hfinal root => ?_⟩,
      levelSpells_queryLevel htexts⟩
    · exact hquery.holds _ (Value.wellFormed_get hv key)
    · have hjudged := hquery.judged hfinal root
      rwa [Path.partOf_append_singleton] at hjudged

/-- Compiled clauses have the verdicts of the clauses, and each is the text of a level. -/
theorem compileAll_spec {context : Context} (h : context.Valid) (path : Path) :
    ∀ {clauses : List (Clause Condition)}, WellFormedLevel clauses →
      let (compiled, after) := compileAll path context clauses
      ∃ levels : List (List Term), Renders context after path (levelConditions path clauses)
          (allHold Test.holds compiled) (allHold Condition.holds clauses) levels.flatten ∧
        List.Forall₂ LevelSpells levels (sources path compiled)
  | [], _ => ⟨[], ⟨.nil h, fun _ _ => rfl, fun _ _ => rfl⟩, .nil⟩
  | clause :: rest, hw => by
    obtain ⟨level, hclause, hspells⟩ := compile_spec h path hw.1
    obtain ⟨levels, hrest, htexts⟩ := compileAll_spec hclause.states.uses.valid path hw.2
    exact ⟨level :: levels, hclause.both hrest, .cons hspells htexts⟩

/-- Compiled queries have the verdicts of the queries, and each is the text of a level. -/
theorem compileQueries_spec {context : Context} (h : context.Valid) (path : Path) :
    ∀ {operands : List (List (Clause Condition))}, WellFormedQueries operands →
      let (compiled, after) := compileQueries path context operands
      ∃ levels : List (List Term), List.Forall₂ LevelSpells levels (querySources path compiled) ∧
        Renders context after path (queriesConditions path operands)
          (everyQueryHolds Test.holds compiled) (everyQueryHolds Condition.holds operands)
          levels.flatten ∧
        (∀ v : Value, v.WellFormed →
          someQueryHolds Test.holds compiled v = someQueryHolds Condition.holds operands v) ∧
        ∀ {final : Context}, after.Extends final → ∀ root, SomeJudged (final.Judges root) levels
          (someQueryHolds Condition.holds operands (path.partOf root))
  | [], _ => ⟨[], .nil, ⟨.nil h, fun _ _ => rfl, fun _ _ => rfl⟩, fun _ _ => rfl, fun _ _ => rfl⟩
  | query :: rest, hw => by
    obtain ⟨levels, hrenders, htexts⟩ := compileAll_spec h path hw.1
    have hquery := renders_queryLevel hrenders
    obtain ⟨more, hmore, hevery, hsome, hjudged⟩ :=
      compileQueries_spec hquery.states.uses.valid path hw.2
    refine ⟨queryLevel levels :: more, .cons (levelSpells_queryLevel htexts) hmore,
      hquery.both hevery, fun v hv => ?_, fun hfinal root => ?_⟩
    · exact congrArg₂ Verdict.either (hquery.holds v hv) (hsome v hv)
    · exact ⟨_, _, hquery.judged (hevery.states.uses.growth.trans hfinal) root,
        hjudged hfinal root, rfl⟩
end

end Clause

end RecordQuery

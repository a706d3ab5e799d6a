import RecordQuery.Proofs.Source.Term
import RecordQuery.Query.Verdict

/-!
# What a level says

A level is judged from left to right like the queries that it stands for, once it is known how its
tests may be judged. `LevelJudged.alike` says that a level leaves no choice: if every test is judged
alike by two judges, so is every level, where verdicts that differ at most in the operator that an
error names count as alike (`Verdict.Alike`).
-/

namespace RecordQuery

/-! ## Verdicts that are alike -/

/-- Errors of the same sort on values of the same kind; the operators may differ. -/
inductive EvalError.Alike : EvalError → EvalError → Prop
  | notAnArray (o o' : Operator) (found : Kind) : Alike (.notAnArray o found) (.notAnArray o' found)
  | notIterable (o o' : Operator) (found : Kind) :
    Alike (.notIterable o found) (.notIterable o' found)
  | notIncludable (o o' : Operator) (found : Kind) :
    Alike (.notIncludable o found) (.notIncludable o' found)
  | bigintMix (o o' : Operator) : Alike (.bigintMix o) (.bigintMix o')

namespace Verdict

/-- The same answer, or errors that differ at most in the operator. -/
inductive Alike : Verdict → Verdict → Prop
  | ok (b : Bool) : Alike (.ok b) (.ok b)
  | error {e e' : EvalError} (h : e.Alike e') : Alike (.error e) (.error e')

/-- A verdict is like itself. -/
theorem Alike.refl (a : Verdict) : Alike a a := by
  cases a with
  | ok b => exact .ok b
  | error e =>
    refine .error ?_
    cases e with
    | notAnArray o found => exact .notAnArray o o found
    | notIterable o found => exact .notIterable o o found
    | notIncludable o found => exact .notIncludable o o found
    | bigintMix o => exact .bigintMix o o

variable {a a' b b' : Verdict}

/-- Alike verdicts combine alike when both are to fit. -/
theorem Alike.both (h : Alike a a') (h' : Alike b b') : Alike (a.both b) (a'.both b') := by
  cases h with
  | ok x =>
    cases x with
    | true => exact h'
    | false => exact .ok false
  | error he => exact .error he

/-- Alike verdicts combine alike when one is to fit. -/
theorem Alike.either (h : Alike a a') (h' : Alike b b') : Alike (a.either b) (a'.either b') := by
  cases h with
  | ok x =>
    cases x with
    | true => exact .ok true
    | false => exact h'
  | error he => exact .error he

/-- The opposites of alike verdicts are alike. -/
theorem Alike.negateIf (negated : Bool) (h : Alike a a') :
    Alike (a.negateIf negated) (a'.negateIf negated) := by
  cases h with
  | ok x => exact .ok _
  | error he => exact .error he

/-- What is not negated is as it was. -/
theorem negateIf_false (a : Verdict) : a.negateIf false = a := by
  cases a with
  | error => rfl
  | ok b => cases b <;> rfl

/-- What always fits makes no difference behind a verdict. -/
theorem both_true (a : Verdict) : a.both (.ok true) = a := by
  cases a with
  | error => rfl
  | ok x => cases x <;> rfl

/-- What never fits makes no difference behind a verdict. -/
theorem either_false (a : Verdict) : a.either (.ok false) = a := by
  cases a with
  | error => rfl
  | ok x => cases x <;> rfl

end Verdict

namespace Source

/-! ## Judging levels -/

mutual
/-- The term may be judged so, where `judge` says how tests may be judged. -/
def Term.Judged (judge : Path → Form → Verdict → Prop) : Term → Verdict → Prop
  | .truth, a => a = .ok true
  | .test path form, a => judge path form a
  | .group negated alternatives, a => ∃ b, SomeJudged judge alternatives b ∧ a = b.negateIf negated

/-- The terms may be judged so together, from left to right. -/
def LevelJudged (judge : Path → Form → Verdict → Prop) : List Term → Verdict → Prop
  | [], a => a = .ok true
  | term :: more, a => ∃ b c, term.Judged judge b ∧ LevelJudged judge more c ∧ a = b.both c

/-- One of the levels may be judged so, from left to right. -/
def SomeJudged (judge : Path → Form → Verdict → Prop) : List (List Term) → Verdict → Prop
  | [], a => a = .ok false
  | level :: more, a =>
    ∃ b c, LevelJudged judge level b ∧ SomeJudged judge more c ∧ a = b.either c
end

variable {judge judge' : Path → Form → Verdict → Prop}

/-- Joined levels are judged one after the other. -/
theorem LevelJudged.append {first second : List Term} {a b : Verdict}
    (h : LevelJudged judge first a) (h' : LevelJudged judge second b) :
    LevelJudged judge (first ++ second) (a.both b) := by
  induction first generalizing a with
  | nil =>
    rw [LevelJudged] at h
    exact h ▸ h'
  | cons term more ih =>
    obtain ⟨c, d, hc, hd, rfl⟩ := h
    exact ⟨c, d.both b, hc, ih hd, Verdict.both_assoc c d b⟩

/-- A level of one term is judged as the term. -/
theorem levelJudged_singleton {term : Term} {a : Verdict} (h : term.Judged judge a) :
    LevelJudged judge [term] a :=
  ⟨a, .ok true, h, rfl, (Verdict.both_true a).symm⟩

/-- One level is judged as the level. -/
theorem someJudged_singleton {level : List Term} {a : Verdict} (h : LevelJudged judge level a) :
    SomeJudged judge [level] a :=
  ⟨a, .ok false, h, rfl, (Verdict.either_false a).symm⟩

/-- The judges judge every test alike. -/
def JudgeAlike (judge judge' : Path → Form → Verdict → Prop) : Prop :=
  ∀ path form a b, judge path form a → judge' path form b → Verdict.Alike a b

mutual
/-- Judges of tests that agree judge a term alike. -/
theorem Term.Judged.alike (h : JudgeAlike judge judge') : ∀ {term : Term} {a b : Verdict},
    term.Judged judge a → term.Judged judge' b → Verdict.Alike a b
  | .truth, _, _, ha, hb => by
    rw [Term.Judged] at ha hb
    exact ha ▸ hb ▸ .ok true
  | .test _ _, _, _, ha, hb => h _ _ _ _ ha hb
  | .group negated _, _, _, ⟨_, ha, rfl⟩, ⟨_, hb, rfl⟩ =>
    (SomeJudged.alike h ha hb).negateIf negated

/-- Judges of tests that agree judge a level alike. -/
theorem LevelJudged.alike (h : JudgeAlike judge judge') : ∀ {level : List Term} {a b : Verdict},
    LevelJudged judge level a → LevelJudged judge' level b → Verdict.Alike a b
  | [], _, _, ha, hb => by
    rw [LevelJudged] at ha hb
    exact ha ▸ hb ▸ .ok true
  | _ :: _, _, _, ⟨_, _, ha, hc, rfl⟩, ⟨_, _, hb, hd, rfl⟩ =>
    (Term.Judged.alike h ha hb).both (LevelJudged.alike h hc hd)

/-- Judges of tests that agree judge alternatives alike. -/
theorem SomeJudged.alike (h : JudgeAlike judge judge') :
    ∀ {levels : List (List Term)} {a b : Verdict}, SomeJudged judge levels a →
    SomeJudged judge' levels b → Verdict.Alike a b
  | [], _, _, ha, hb => by
    rw [SomeJudged] at ha hb
    exact ha ▸ hb ▸ .ok false
  | _ :: _, _, _, ⟨_, _, ha, hc, rfl⟩, ⟨_, _, hb, hd, rfl⟩ =>
    (LevelJudged.alike h ha hb).either (SomeJudged.alike h hc hd)
end

end Source

end RecordQuery

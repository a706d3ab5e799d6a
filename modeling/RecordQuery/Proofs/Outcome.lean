import Mathlib.Logic.Basic

/-!
# Outcomes and their faults

A computation that stops at the first thing that is wrong is described by what it succeeds with and
by the list of all that can be wrong, in order (`Yields`). The lists of steps that follow one
another are joined (`Yields.bind`), so that the list for a whole run says in which order its faults
count.
-/

namespace RecordQuery

variable {ε ε' α β : Type}

/-- A result is what is left of an outcome without its error. -/
theorem toOption_eq_some {outcome : Except ε α} {a : α} :
    outcome.toOption = some a ↔ outcome = .ok a := by
  cases outcome <;> simp [Except.toOption]

/-- The outcome is one of the good results, or else the first of the faults. -/
structure Yields (outcome : Except ε α) (Good : α → Prop) (faults : List ε) : Prop where
  /-- It is a result just if that is good. -/
  ok : ∀ a, outcome = .ok a ↔ Good a
  /-- It is an error just if that is the first fault. -/
  error : ∀ e, outcome = .error e ↔ faults.head? = some e

namespace Yields

variable {outcome : Except ε α} {Good : α → Prop} {faults : List ε}

/-- A result without faults. -/
theorem result (a : α) : Yields (.ok a : Except ε α) (a = ·) [] := by
  constructor <;> simp

/-- A fault without results. Others may come after it. -/
theorem fault (e : ε) (more : List ε) :
    Yields (.error e : Except ε α) (fun _ => False) (e :: more) := by
  constructor <;> simp

/-- Good results may be described otherwise. -/
theorem congr {Good' : α → Prop} (h : Yields outcome Good faults) (hgood : ∀ a, Good a ↔ Good' a) :
    Yields outcome Good' faults :=
  ⟨fun a => (h.ok a).trans (hgood a), h.error⟩

/-- There is a good result just if there are no faults. -/
theorem faults_eq_nil_iff (h : Yields outcome Good faults) : faults = [] ↔ ∃ a, Good a := by
  cases outcome with
  | ok a =>
    refine iff_of_true ?_ ⟨a, (h.ok a).1 rfl⟩
    cases faults with
    | nil => rfl
    | cons e rest => cases (h.error e).2 rfl
  | error e =>
    refine iff_of_false ?_ ?_
    · rintro rfl
      cases (h.error e).1 rfl
    · rintro ⟨a, ha⟩
      cases (h.ok a).2 ha

/-- There is one good result at most. -/
theorem unique (h : Yields outcome Good faults) {a a' : α} (ha : Good a) (ha' : Good a') :
    a = a' :=
  Except.ok.inj (((h.ok a).2 ha).symm.trans ((h.ok a').2 ha'))

/-- The faults of a second step count after those of the first. -/
theorem bind {next : α → Except ε β} {Fine : α → β → Prop} {more : List ε}
    (h : Yields outcome Good faults) (hnext : ∀ a, Good a → Yields (next a) (Fine a) more) :
    Yields (outcome >>= next) (fun b => ∃ a, Good a ∧ Fine a b) (faults ++ more) := by
  cases outcome with
  | error e =>
    have hhead : (faults ++ more).head? = some e := by
      rw [List.head?_append, (h.error e).1 rfl, Option.some_or]
    constructor
    · intro b
      refine iff_of_false nofun ?_
      rintro ⟨a, ha, _⟩
      cases (h.ok a).2 ha
    · intro e'
      rw [hhead, Option.some.injEq]
      exact ⟨fun heq => Except.error.inj heq, fun heq => congrArg _ heq⟩
  | ok a =>
    have ha : Good a := (h.ok a).1 rfl
    have hnone : faults = [] := h.faults_eq_nil_iff.2 ⟨a, ha⟩
    rw [hnone, List.nil_append]
    constructor
    · intro b
      refine ((hnext a ha).ok b).trans ⟨fun hb => ⟨a, ha, hb⟩, ?_⟩
      rintro ⟨a', ha', hb⟩
      rwa [h.unique ha ha']
    · exact (hnext a ha).error

/-- What is made of the result changes the results. -/
theorem bind_pure (h : Yields outcome Good faults) (f : α → β) :
    Yields (outcome >>= fun a => pure (f a)) (fun b => ∃ a, Good a ∧ f a = b) faults := by
  have hbind := h.bind fun a _ => result (f a)
  rwa [List.append_nil] at hbind

/-- A function of the result changes the results. -/
theorem map (h : Yields outcome Good faults) (f : α → β) :
    Yields (outcome.map f) (fun b => ∃ a, Good a ∧ f a = b) faults := by
  have hpure := h.bind_pure f
  cases outcome <;> exact hpure

/-- A function of the error changes the faults. -/
theorem mapError (h : Yields outcome Good faults) (f : ε → ε') :
    Yields (outcome.mapError f) Good (faults.map f) := by
  cases outcome with
  | ok a =>
    have hnone : faults = [] := h.faults_eq_nil_iff.2 ⟨a, (h.ok a).1 rfl⟩
    have hmap : (Except.ok a : Except ε α).mapError f = .ok a := rfl
    rw [hmap]
    constructor
    · intro b
      rw [← h.ok b]
      simp
    · simp [hnone]
  | error e =>
    have hmap : (Except.error e : Except ε α).mapError f = .error (f e) := rfl
    rw [hmap]
    constructor
    · intro b
      rw [← h.ok b]
      simp
    · simp [List.head?_map, (h.error e).1 rfl]

end Yields

end RecordQuery

import Mathlib.Data.List.Perm.Subperm
import RecordQuery.Fields

/-!
# Fields by their lookups

Fields whose keys are distinct are determined by what is found under each key: `lookup_eq_some_iff`
says that a field is found exactly if it is there, and `agree_iff` that two such lists of fields
agree under every key exactly if they are equally long and what the first holds is found in the
second. Agreeing fields have the same keys up to order (`Agree.keys_perm`).
-/

namespace RecordQuery.Fields

variable {α β : Type} {r : α → β → Prop} {xs : Fields α} {ys : Fields β}

/-- What is found under a key is a field. -/
theorem mem_of_lookup {key : String} {v : α} (h : xs.lookup key = some v) : (key, v) ∈ xs := by
  obtain ⟨before, after, rfl, _⟩ := List.lookup_eq_some_iff.1 h
  simp

/-- A key is there if something is found under it. -/
theorem mem_keys_iff_lookup {key : String} : key ∈ keys xs ↔ (xs.lookup key).isSome = true := by
  induction xs with
  | nil => simp [keys]
  | cons field rest ih =>
    obtain ⟨k, v⟩ := field
    simp only [keys, List.map_cons, List.mem_cons] at ih ⊢
    rw [ih, List.lookup_cons]
    by_cases hk : key = k
    · simp [hk]
    · simp [hk, beq_eq_false_iff_ne.2 hk]

/-- Where keys are distinct, a field is found under its key. -/
theorem lookup_eq_some_iff (hx : (keys xs).Nodup) {key : String} {v : α} :
    xs.lookup key = some v ↔ (key, v) ∈ xs := by
  refine ⟨mem_of_lookup, fun h => ?_⟩
  induction xs with
  | nil => cases h
  | cons field rest ih =>
    obtain ⟨k, w⟩ := field
    rw [keys, List.map_cons, List.nodup_cons] at hx
    rw [List.lookup_cons]
    rcases List.mem_cons.1 h with h | h
    · injection h with hk hv
      simp [hk, hv]
    · have hne : key ≠ k := fun hk => hx.1 (hk ▸ List.mem_map.2 ⟨(key, v), h, rfl⟩)
      rw [beq_eq_false_iff_ne.2 hne]
      exact ih hx.2 h

/-- A new key goes to the end. -/
theorem put_of_not_mem {key : String} (v : α) (h : key ∉ keys xs) :
    put key v xs = xs ++ [(key, v)] := by
  induction xs with
  | nil => rfl
  | cons field rest ih =>
    obtain ⟨k, w⟩ := field
    rw [keys, List.map_cons, List.mem_cons, not_or] at h
    rw [put, if_neg (Ne.symm h.1), ih h.2, List.cons_append]

/-- Entries with distinct keys are what they leave behind. -/
theorem ofEntries_eq_self (h : (keys xs).Nodup) : ofEntries xs = xs := by
  suffices ∀ ys : Fields α, (keys (ys ++ xs)).Nodup →
      xs.foldl (fun fields entry => put entry.1 entry.2 fields) ys = ys ++ xs from this [] h
  clear h
  induction xs with
  | nil => exact fun ys _ => (List.append_nil ys).symm
  | cons entry rest ih =>
    obtain ⟨key, v⟩ := entry
    intro ys h
    have hnew : key ∉ keys ys := by
      rw [keys, List.map_append, List.nodup_append] at h
      intro hmem
      exact h.2.2 key hmem key (.head _) rfl
    rw [List.append_cons] at h ⊢
    rw [List.foldl_cons]
    dsimp only
    rw [put_of_not_mem v hnew]
    exact ih _ h

/-- The two lists of fields have related values, or none, under every key. -/
def Agree (r : α → β → Prop) (xs : Fields α) (ys : Fields β) : Prop :=
  ∀ key, Option.Rel r (xs.lookup key) (ys.lookup key)

/-- What is found in the one has a related value in the other. -/
theorem Agree.exists_of_lookup (h : Agree r xs ys) {key : String} {v : α}
    (hv : xs.lookup key = some v) : ∃ w, ys.lookup key = some w ∧ r v w := by
  have hr := h key
  rw [hv] at hr
  generalize ys.lookup key = found at hr
  cases hr with
  | some hvw => exact ⟨_, rfl, hvw⟩

/-- What is found in the other has a related value in the one. -/
theorem Agree.exists_of_lookup_right (h : Agree r xs ys) {key : String} {w : β}
    (hw : ys.lookup key = some w) : ∃ v, xs.lookup key = some v ∧ r v w := by
  have hr := h key
  rw [hw] at hr
  generalize xs.lookup key = found at hr
  cases hr with
  | some hvw => exact ⟨_, rfl, hvw⟩

/-- Where nothing is found in the one, nothing is found in the other. -/
theorem Agree.lookup_eq_none (h : Agree r xs ys) {key : String} (hx : xs.lookup key = none) :
    ys.lookup key = none := by
  have hr := h key
  rw [hx] at hr
  generalize ys.lookup key = found at hr
  cases hr
  rfl

/-- Agreeing fields have the same keys. -/
theorem Agree.mem_keys (h : Agree r xs ys) {key : String} : key ∈ keys xs ↔ key ∈ keys ys := by
  rw [mem_keys_iff_lookup, mem_keys_iff_lookup]
  have hr := h key
  generalize xs.lookup key = a, ys.lookup key = b at hr
  cases hr <;> simp

/-- Agreeing fields with distinct keys have the same keys up to order. -/
theorem Agree.keys_perm (h : Agree r xs ys) (hx : (keys xs).Nodup) (hy : (keys ys).Nodup) :
    (keys xs).Perm (keys ys) :=
  (List.perm_ext_iff_of_nodup hx hy).2 fun _ => h.mem_keys

/-- Fields with distinct keys agree with others exactly if there are as many of both and every
field of the one has a related one under its key in the other. -/
theorem agree_iff (hx : (keys xs).Nodup) (hy : (keys ys).Nodup) :
    Agree r xs ys ↔ xs.length = ys.length ∧
      ∀ field ∈ xs, ∃ w, ys.lookup field.1 = some w ∧ r field.2 w := by
  constructor
  · intro h
    refine ⟨by simpa [keys] using (h.keys_perm hx hy).length_eq, fun field hf => ?_⟩
    exact h.exists_of_lookup ((lookup_eq_some_iff hx).2 hf)
  · rintro ⟨length, h⟩ key
    -- the keys of the first are among those of the second, and there are as many of them
    have subset : keys xs ⊆ keys ys := by
      intro k hk
      obtain ⟨field, hf, rfl⟩ := List.mem_map.1 hk
      obtain ⟨w, hw, _⟩ := h field hf
      exact List.mem_map.2 ⟨_, mem_of_lookup hw, rfl⟩
    have perm : (keys xs).Perm (keys ys) :=
      (List.subperm_of_subset hx subset).perm_of_length_le (by simp [keys, length])
    cases hl : xs.lookup key with
    | some v =>
      obtain ⟨w, hw, hvw⟩ := h _ (mem_of_lookup hl)
      exact hw ▸ .some hvw
    | none =>
      have hkey : key ∉ keys ys := by
        intro hk
        rw [← perm.mem_iff, mem_keys_iff_lookup, hl] at hk
        cases hk
      rw [mem_keys_iff_lookup, Option.not_isSome_iff_eq_none] at hkey
      exact hkey ▸ .none

end RecordQuery.Fields

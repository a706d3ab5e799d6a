import Mathlib.Data.List.Forall2
import RecordQuery.Proofs.Distinct
import RecordQuery.Proofs.Fields

/-!
# What entries leave behind

Entries that are put one after the other leave each key where it first came (`keys_ofEntries`) with
the value that came last under it (`lookup_ofEntries`). Only the keys decide where a value goes, so
entries that are related one by one leave fields behind that are related one by one
(`Pointwise.ofEntries`).
-/

namespace RecordQuery.Fields

variable {α β : Type} {r : α → β → Prop} {xs : Fields α} {ys : Fields β}

/-! ## Keys and values -/

/-- One more entry is put into what the others left behind. -/
theorem ofEntries_concat (entries : Fields α) (key : String) (v : α) :
    ofEntries (entries ++ [(key, v)]) = put key v (ofEntries entries) := by
  rw [ofEntries, List.foldl_append, List.foldl_cons, List.foldl_nil, ← ofEntries]

/-- A key that is there stays where it is, and a new one goes to the end. -/
theorem keys_put (key : String) (v : α) (fields : Fields α) :
    (put key v fields).keys = if key ∈ fields.keys then fields.keys else fields.keys ++ [key] := by
  induction fields with
  | nil => simp [put, keys]
  | cons field rest ih =>
    obtain ⟨k, w⟩ := field
    rw [put]
    by_cases hk : k = key
    · simp [hk, keys]
    · simp only [keys, List.map_cons, List.mem_cons, Ne.symm hk, hk, if_false, false_or] at ih ⊢
      rw [ih]
      by_cases hmem : key ∈ rest.map Prod.fst <;> simp [hmem]

/-- What is found under a key is the first value that stands there. -/
theorem lookup_cons (k key : String) (v : α) (rest : Fields α) :
    List.lookup k ((key, v) :: rest) = if k = key then some v else rest.lookup k := by
  rw [List.lookup_cons]
  by_cases hk : k = key
  · rw [beq_iff_eq.2 hk, if_pos hk]
  · rw [beq_eq_false_iff_ne.2 hk, if_neg hk]

/-- A value is found under the key that it was put under, and nothing else changes. -/
theorem lookup_put (key k : String) (v : α) (fields : Fields α) :
    (put key v fields).lookup k = if k = key then some v else fields.lookup k := by
  induction fields with
  | nil => rw [put, lookup_cons]
  | cons field rest ih =>
    obtain ⟨k', w⟩ := field
    rw [put]
    by_cases hkey : k' = key
    · rw [if_pos hkey, lookup_cons, lookup_cons, hkey]
      split <;> rfl
    · rw [if_neg hkey, lookup_cons, lookup_cons, ih]
      by_cases hk : k = k'
      · rw [if_pos hk, if_pos hk, if_neg (hk ▸ hkey)]
      · rw [if_neg hk, if_neg hk]

/-- Each key stands where it first came. -/
theorem keys_ofEntries (entries : Fields α) :
    (ofEntries entries).keys = (keys entries).eraseDups := by
  induction entries using List.reverseRecOn with
  | nil => rfl
  | append_singleton entries entry ih =>
    obtain ⟨key, v⟩ := entry
    have hkeys : keys (entries ++ [(key, v)]) = keys entries ++ [key] := List.map_append
    rw [ofEntries_concat, keys_put, hkeys, Distinct.eraseDups_concat, ih]
    simp

/-- Under each key is the value that came last. -/
theorem lookup_ofEntries (entries : Fields α) (key : String) :
    (ofEntries entries).lookup key = entries.reverse.lookup key := by
  induction entries using List.reverseRecOn with
  | nil => rfl
  | append_singleton entries entry ih =>
    obtain ⟨k, v⟩ := entry
    rw [ofEntries_concat, lookup_put, ih, List.reverse_append, List.reverse_singleton,
      List.singleton_append, lookup_cons]

/-- What is left behind was put. -/
theorem mem_of_mem_ofEntries {entries : Fields α} {field : String × α}
    (h : field ∈ ofEntries entries) : field ∈ entries := by
  obtain ⟨key, v⟩ := field
  have hlookup := (lookup_eq_some_iff (nodup_keys_ofEntries entries)).2 h
  rw [lookup_ofEntries] at hlookup
  exact List.mem_reverse.1 (mem_of_lookup hlookup)

/-! ## Related entries -/

/-- The fields are related one by one: the keys are the same, and the values are related. -/
def Pointwise (r : α → β → Prop) (xs : Fields α) (ys : Fields β) : Prop :=
  List.Forall₂ (fun x y => x.1 = y.1 ∧ r x.2 y.2) xs ys

namespace Pointwise

/-- Fields that are related one by one have the same keys. -/
theorem keys_eq (h : Pointwise r xs ys) : xs.keys = ys.keys := by
  induction h with
  | nil => rfl
  | cons hxy _ ih => rw [keys, List.map_cons, hxy.1, ← keys, ih, keys, keys, List.map_cons]

/-- Under a key both have related values, or none. -/
theorem lookup (h : Pointwise r xs ys) (key : String) :
    Option.Rel r (xs.lookup key) (ys.lookup key) := by
  induction h with
  | nil => exact .none
  | @cons x y xs ys hxy _ ih =>
    obtain ⟨k, v⟩ := x
    obtain ⟨k', w⟩ := y
    obtain ⟨rfl, hvw⟩ := hxy
    rw [lookup_cons, lookup_cons]
    split
    · exact .some hvw
    · exact ih

/-- Fields that are related one by one are so from the last to the first. -/
theorem reverse (h : Pointwise r xs ys) : Pointwise r xs.reverse ys.reverse := List.rel_reverse h

/-- Related values may be put under a key. -/
theorem put (h : Pointwise r xs ys) (key : String) {v : α} {w : β} (hvw : r v w) :
    Pointwise r (put key v xs) (put key w ys) := by
  induction h with
  | nil => exact .cons ⟨rfl, hvw⟩ .nil
  | @cons x y xs ys hxy hrest ih =>
    obtain ⟨k, v'⟩ := x
    obtain ⟨k', w'⟩ := y
    obtain ⟨rfl, hvw'⟩ := hxy
    rw [Fields.put, Fields.put]
    split
    · exact .cons ⟨rfl, hvw⟩ hrest
    · exact .cons ⟨rfl, hvw'⟩ ih

/-- Related entries leave related fields behind. -/
theorem ofEntries (h : Pointwise r xs ys) : Pointwise r (ofEntries xs) (ofEntries ys) := by
  suffices ∀ {before : Fields α} {before' : Fields β}, Pointwise r before before' →
      Pointwise r (xs.foldl (fun fields entry => Fields.put entry.1 entry.2 fields) before)
        (ys.foldl (fun fields entry => Fields.put entry.1 entry.2 fields) before') from this .nil
  induction h with
  | nil => exact fun hbefore => hbefore
  | @cons x y xs ys hxy _ ih =>
    obtain ⟨k, v⟩ := x
    obtain ⟨k', w⟩ := y
    obtain ⟨rfl, hvw⟩ := hxy
    exact fun hbefore => ih (hbefore.put k hvw)

/-- Fields that are related to their images under a function are those images. -/
theorem eq_map {f : α → β} (h : Pointwise (fun v w => f v = w) xs ys) :
    ys = xs.map fun (key, v) => (key, f v) := by
  induction h with
  | nil => rfl
  | @cons x y xs ys hxy _ ih =>
    obtain ⟨k, v⟩ := x
    obtain ⟨k', w⟩ := y
    obtain ⟨rfl, rfl⟩ := hxy
    rw [List.map_cons, ih]

end Pointwise

end RecordQuery.Fields

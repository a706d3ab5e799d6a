/-!
# Fields

The fields of an object, in the order in which their keys first came. `put` keeps every key there
once: a repeated key keeps its place and takes the new value.
-/

namespace RecordQuery

/-- Values under keys, in order. -/
abbrev Fields (α : Type) := List (String × α)

namespace Fields

variable {α : Type}

/-- The fields with a value under a key. A key that is there keeps its place; a new one goes to
the end. -/
def put (key : String) (value : α) : Fields α → Fields α
  | [] => [(key, value)]
  | (k, v) :: rest => if k = key then (k, value) :: rest else (k, v) :: put key value rest

/-- The fields that a list of entries leaves behind, put one after the other. -/
def ofEntries (entries : List (String × α)) : Fields α :=
  entries.foldl (fun fields (key, value) => put key value fields) []

/-- The keys in order. -/
def keys (fields : Fields α) : List String := fields.map Prod.fst

/-- A key is there after a value was put under it, and the others stay. -/
theorem mem_keys_put {key k : String} {value : α} {fields : Fields α} :
    k ∈ (put key value fields).keys ↔ k = key ∨ k ∈ fields.keys := by
  induction fields with
  | nil => simp [put, keys]
  | cons field rest ih =>
    obtain ⟨k', v'⟩ := field
    unfold put
    split
    · rename_i h
      subst h
      simp [keys]
    · simp only [keys, List.map_cons, List.mem_cons] at ih ⊢
      rw [ih]
      exact or_left_comm

/-- Putting a value keeps the keys distinct. -/
theorem nodup_keys_put {key : String} {value : α} {fields : Fields α} (h : fields.keys.Nodup) :
    (put key value fields).keys.Nodup := by
  induction fields with
  | nil => simp [put, keys]
  | cons field rest ih =>
    obtain ⟨k', v'⟩ := field
    simp only [keys, List.map_cons, List.nodup_cons] at h
    unfold put
    split
    · simpa [keys] using h
    · rename_i hne
      simp only [keys, List.map_cons, List.nodup_cons]
      refine ⟨fun hmem => ?_, ih h.2⟩
      rcases mem_keys_put.1 hmem with hk | hk
      · exact hne hk
      · exact h.1 hk

/-- The fields made of any entries have distinct keys. -/
theorem nodup_keys_ofEntries (entries : List (String × α)) : (ofEntries entries).keys.Nodup := by
  suffices ∀ fields : Fields α, fields.keys.Nodup →
      (entries.foldl (fun fields (key, value) => put key value fields) fields).keys.Nodup from
    this [] (by simp [keys])
  induction entries with
  | nil => exact fun _ h => h
  | cons entry rest ih => exact fun _ h => ih _ (nodup_keys_put h)

end Fields

end RecordQuery

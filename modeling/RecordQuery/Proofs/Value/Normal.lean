import RecordQuery.Json.Writer
import RecordQuery.Proofs.Number.JsonText
import RecordQuery.Proofs.Value.Elements

/-!
# Normal forms

What JSON cannot say is lost when a value is written; what is left is the normal form of the value.
A value and its normal form have the same text (`jsonAt_normal`). The recursions through lists of
items and fields are read here element by element, those of the writer included: undefined fields
are left out first, and every other field is written for itself.
-/

namespace RecordQuery

/-- What JSON says of a number: there are no numbers but finite ones, and one zero. -/
def Number.normal : Number → Value
  | .finite negative quanta h => .number (.finite (negative && quanta != 0) quanta h)
  | _ => .null

namespace Value

/-! ## Definitions -/

mutual
/-- What JSON says of a value: undefined is null, wide integers and patterns are texts, and fields
that are undefined are left out. -/
def normal : Value → Value
  | undefined => null
  | null => null
  | bool b => bool b
  | number n => n.normal
  | bigint n => string n.text
  | string s => string s
  | regex p => string p.text
  | array items => array (normalItems items)
  | object fields => object (normalFields fields)

/-- What JSON says of items. -/
def normalItems : List Value → List Value
  | [] => []
  | v :: rest => v.normal :: normalItems rest

/-- What JSON says of fields. -/
def normalFields : List (String × Value) → List (String × Value)
  | [] => []
  | (key, v) :: rest =>
    if v.isUndefined then normalFields rest else (key, v.normal) :: normalFields rest
end

mutual
/-- How many containers lie in one another. -/
def depth : Value → Nat
  | array items => itemsDepth items + 1
  | object fields => fieldsDepth fields + 1
  | _ => 0

/-- How many containers lie in one another in items. -/
def itemsDepth : List Value → Nat
  | [] => 0
  | v :: rest => max v.depth (itemsDepth rest)

/-- How many containers lie in one another in fields. -/
def fieldsDepth : List (String × Value) → Nat
  | [] => 0
  | (_, v) :: rest => max v.depth (fieldsDepth rest)
end

mutual
/-- The numbers in a value. -/
def numbers : Value → List Number
  | number n => [n]
  | array items => itemsNumbers items
  | object fields => fieldsNumbers fields
  | _ => []

/-- The numbers in items. -/
def itemsNumbers : List Value → List Number
  | [] => []
  | v :: rest => v.numbers ++ itemsNumbers rest

/-- The numbers in fields. -/
def fieldsNumbers : List (String × Value) → List Number
  | [] => []
  | (_, v) :: rest => v.numbers ++ fieldsNumbers rest
end

/-! ## Elements -/

/-- Items are normal one by one. -/
theorem normalItems_eq_map (items : List Value) : normalItems items = items.map normal := by
  induction items with
  | nil => rfl
  | cons v rest ih => rw [normalItems, ih, List.map_cons]

/-- The fields that are defined. -/
def definedFields (fields : List (String × Value)) : List (String × Value) :=
  fields.filter fun (_, v) => !v.isUndefined

/-- A field is among the defined ones if it is defined. -/
theorem definedFields_cons (key : String) (v : Value) (rest : List (String × Value)) :
    definedFields ((key, v) :: rest) =
      if v.isUndefined then definedFields rest else (key, v) :: definedFields rest := by
  cases hundefined : v.isUndefined <;> simp [definedFields, hundefined]

/-- Defined fields are normal one by one. -/
theorem normalFields_eq_map (fields : List (String × Value)) :
    normalFields fields = (definedFields fields).map fun (key, v) => (key, v.normal) := by
  induction fields with
  | nil => rfl
  | cons field rest ih =>
    obtain ⟨key, v⟩ := field
    rw [normalFields, ih, definedFields_cons]
    cases v.isUndefined <;> rfl

/-- Items nest no deeper than all of them. -/
theorem depth_le_itemsDepth {items : List Value} {v : Value} (h : v ∈ items) :
    v.depth ≤ itemsDepth items := by
  induction items with
  | nil => cases h
  | cons w rest ih =>
    rw [itemsDepth]
    rcases List.mem_cons.1 h with rfl | h
    · exact Nat.le_max_left _ _
    · exact Nat.le_trans (ih h) (Nat.le_max_right _ _)

/-- Items nest no deeper than a bound that holds for each of them. -/
theorem itemsDepth_le {items : List Value} {n : Nat} (h : ∀ v ∈ items, v.depth ≤ n) :
    itemsDepth items ≤ n := by
  induction items with
  | nil => exact Nat.zero_le n
  | cons v rest ih =>
    rw [List.forall_mem_cons] at h
    exact Nat.max_le.2 ⟨h.1, ih h.2⟩

/-- Fields nest no deeper than all of them. -/
theorem depth_le_fieldsDepth {fields : List (String × Value)} {field : String × Value}
    (h : field ∈ fields) : field.2.depth ≤ fieldsDepth fields := by
  induction fields with
  | nil => cases h
  | cons other rest ih =>
    obtain ⟨key, w⟩ := other
    rw [fieldsDepth]
    rcases List.mem_cons.1 h with rfl | h
    · exact Nat.le_max_left _ _
    · exact Nat.le_trans (ih h) (Nat.le_max_right _ _)

/-- The numbers of an item are numbers of the items. -/
theorem numbers_subset_itemsNumbers {items : List Value} {v : Value} (h : v ∈ items) :
    v.numbers ⊆ itemsNumbers items := by
  induction items with
  | nil => cases h
  | cons w rest ih =>
    rw [itemsNumbers]
    rcases List.mem_cons.1 h with rfl | h
    · exact List.subset_append_left _ _
    · exact List.subset_append_of_subset_right _ (ih h)

/-- The numbers of a field are numbers of the fields. -/
theorem numbers_subset_fieldsNumbers {fields : List (String × Value)} {field : String × Value}
    (h : field ∈ fields) : field.2.numbers ⊆ fieldsNumbers fields := by
  induction fields with
  | nil => cases h
  | cons other rest ih =>
    obtain ⟨key, w⟩ := other
    rw [fieldsNumbers]
    rcases List.mem_cons.1 h with rfl | h
    · exact List.subset_append_left _ _
    · exact List.subset_append_of_subset_right _ (ih h)

/-- The fields that JSON keeps have distinct keys if the fields have. -/
theorem nodup_keys_normalFields {fields : List (String × Value)}
    (h : (Fields.keys fields).Nodup) : (Fields.keys (normalFields fields)).Nodup := by
  have hkeys : Fields.keys (normalFields fields) = Fields.keys (definedFields fields) := by
    rw [normalFields_eq_map, Fields.keys, Fields.keys, List.map_map]
    rfl
  rw [hkeys]
  exact h.sublist (List.filter_sublist.map Prod.fst)

/-- What JSON says of a well-formed value is well formed. -/
theorem wellFormed_normal {v : Value} (h : v.WellFormed) : v.normal.WellFormed := by
  induction v using induct with
  | undefined | null | bool | bigint | string | regex => trivial
  | number n => cases n <;> trivial
  | array items ih =>
    rw [wellFormed_array] at h
    rw [normal, wellFormed_array, normalItems_eq_map, List.forall_mem_map]
    exact fun v hv => ih v hv (h v hv)
  | object fields ih =>
    rw [wellFormed_object] at h
    rw [normal, wellFormed_object]
    refine ⟨nodup_keys_normalFields h.1, ?_⟩
    rw [normalFields_eq_map, List.forall_mem_map]
    intro field hfield
    have hmem := (List.mem_filter.1 hfield).1
    exact ih field hmem (h.2 field hmem)

/-! ## Texts of containers -/

/-- The text of a field. -/
def fieldText (form : Json.Form) (level : Nat) (field : String × Value) : String :=
  Text.quote field.1 ++ form.colon ++ field.2.jsonAt form level

/-- Items are written one by one. -/
theorem jsonItems_eq_map (form : Json.Form) (level : Nat) (items : List Value) :
    jsonItems form level items = items.map (jsonAt form level) := by
  induction items with
  | nil => rfl
  | cons v rest ih => rw [jsonItems, ih, List.map_cons]

/-- Defined fields are written one by one. -/
theorem jsonFields_eq_map (form : Json.Form) (level : Nat) (fields : List (String × Value)) :
    jsonFields form level fields = (definedFields fields).map (fieldText form level) := by
  induction fields with
  | nil => rfl
  | cons field rest ih =>
    obtain ⟨key, v⟩ := field
    rw [jsonFields, ih, definedFields_cons]
    cases v.isUndefined <;> rfl

/-! ## Texts of normal forms -/

/-- What JSON says is defined. -/
theorem isUndefined_normal (v : Value) : v.normal.isUndefined = false := by
  cases v with
  | number n => cases n <;> rfl
  | undefined | null | bool | bigint | string | regex | array | object => rfl

/-- The fields that JSON keeps are defined. -/
theorem definedFields_normalFields (fields : List (String × Value)) :
    definedFields (normalFields fields) = normalFields fields := by
  rw [definedFields, List.filter_eq_self, normalFields_eq_map]
  intro field hfield
  obtain ⟨⟨key, v⟩, _, rfl⟩ := List.mem_map.1 hfield
  simp [isUndefined_normal]

/-- A number is written like what JSON says of it. -/
theorem jsonAt_normal_number (form : Json.Form) (n : Number) (level : Nat) :
    n.normal.jsonAt form level = n.json := by
  cases n with
  | nan => rfl
  | infinite negative => rfl
  | finite negative q hq =>
    rw [Number.normal, jsonAt]
    by_cases hzero : q = 0
    · subst hzero
      rw [Number.json_zero, Number.json_zero]
    · rw [bne_iff_ne.2 hzero, Bool.and_true]

/-- A value and its normal form have the same text. -/
theorem jsonAt_normal (form : Json.Form) (v : Value) (level : Nat) :
    v.normal.jsonAt form level = v.jsonAt form level := by
  induction v using induct generalizing level with
  | undefined | null | bool | bigint | string | regex => rfl
  | number n => exact jsonAt_normal_number form n level
  | array items ih =>
    have hparts : (normalItems items).map (jsonAt form (level + 1)) =
        items.map (jsonAt form (level + 1)) := by
      rw [normalItems_eq_map, List.map_map]
      exact List.map_congr_left fun w hw => ih w hw (level + 1)
    rw [normal, jsonAt, jsonAt, jsonItems_eq_map, jsonItems_eq_map, hparts]
  | object fields ih =>
    have hparts : (normalFields fields).map (fieldText form (level + 1)) =
        (definedFields fields).map (fieldText form (level + 1)) := by
      rw [normalFields_eq_map, List.map_map]
      refine List.map_congr_left fun field hfield => ?_
      have hvalue := ih field (List.mem_filter.1 hfield).1 (level + 1)
      rw [Function.comp_apply, fieldText, fieldText, hvalue]
    rw [normal, jsonAt, jsonAt, jsonFields_eq_map, jsonFields_eq_map, definedFields_normalFields,
      hparts]

end Value

end RecordQuery

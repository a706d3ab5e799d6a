import Mathlib.Data.List.Induction
import RecordQuery.Proofs.Distinct
import RecordQuery.Proofs.Value.Congruence
import RecordQuery.Value.Set

/-!
# Sets against lists

A set compares a value only with the members of the same digest. That this loses no member rests on
`words_congr`: equal values have the same words, whatever the order of their fields. Then a set made
of a list has one member for each class of the list (`Collects`, kept by each insertion), holds just
what a search through the list finds (`contains_ofList`), and its members stand for the values of
the list (`exists_member_of_mem`, `mem_of_mem_members`). None of this depends on how words are mixed
(`equality_words_lawful`).
-/

namespace RecordQuery

/-! ## Digests -/

/-- The same number has the same word. -/
theorem Number.word_congr {a b : Number} (h : a.sameValueZero b = true) : a.word = b.word := by
  cases sameValueZero_iff_same.1 h with
  | nan | infinite => rfl
  | finite s t _ _ sign =>
    rcases sign with rfl | rfl
    · rfl
    · simp [word]

namespace Value

variable {mix : List UInt64 → UInt64}

/-- The words of items, item by item. -/
theorem itemWords_eq_flatMap (items : List Value) :
    itemWords mix items = items.flatMap (words mix) := by
  induction items with
  | nil => rfl
  | cons v rest ih => rw [itemWords, ih, List.flatMap_cons]

/-- The word of entries combines one word for each of them. -/
theorem entriesWord_eq_foldr (fields : List (String × Value)) :
    entriesWord mix fields = (fields.map fun field =>
      mix (Text.words field.1 ++ field.2.words mix)).foldr (· ^^^ ·) 0 := by
  induction fields with
  | nil => rfl
  | cons field rest ih =>
    obtain ⟨key, v⟩ := field
    rw [entriesWord, ih, List.map_cons, List.foldr_cons]

/-- Where keys are distinct, a list made of the fields is made of the keys and what is found under
them. -/
theorem map_eq_map_keys {α : Type} {fields : List (String × Value)}
    (hf : (Fields.keys fields).Nodup) (f : String → Value → α) :
    fields.map (fun field => f field.1 field.2) =
      (Fields.keys fields).map fun key => f key ((fields.lookup key).getD undefined) := by
  rw [Fields.keys, List.map_map]
  refine List.map_congr_left fun field hmem => ?_
  simp [(Fields.lookup_eq_some_iff hf).2 hmem]

/-- Equal values have the same words. -/
theorem words_congr {a b : Value} (ha : a.WellFormed) (hb : b.WellFormed) (h : (a == b) = true) :
    a.words mix = b.words mix := by
  induction a using induct generalizing b with
  | undefined | null | bool | bigint | string | regex => cases beq_iff_same.1 h; rfl
  | number n =>
    cases beq_iff_same.1 h with
    | number hn => rw [words, words, Number.word_congr hn]
  | array xs ih =>
    cases beq_iff_same.1 h with
    | @array _ ys hitems =>
      rw [wellFormed_array] at ha hb
      have hwords : xs.map (words mix) = ys.map (words mix) := by
        rw [← List.forall₂_eq_eq_eq, List.forall₂_map_left_iff, List.forall₂_map_right_iff]
        exact forall₂_mono_of_mem hitems fun x hx y hy => ih x hx (ha x hx) (hb y hy)
      rw [words, words, itemWords_eq_flatMap, itemWords_eq_flatMap, hitems.length_eq,
        List.flatMap_def, List.flatMap_def, hwords]
  | object xs ih =>
    cases beq_iff_same.1 h with
    | @object _ ys length =>
      have hx := (wellFormed_object.1 ha).1
      have hy := (wellFormed_object.1 hb).1
      rw [object_beq_iff hx hy] at h
      let word (key : String) (v : Value) : UInt64 := mix (Text.words key ++ v.words mix)
      have hkeys : (Fields.keys xs).map (fun key => word key ((xs.lookup key).getD undefined)) =
          (Fields.keys xs).map fun key => word key ((ys.lookup key).getD undefined) := by
        refine List.map_congr_left fun key hkey => ?_
        obtain ⟨v, hv⟩ := Option.isSome_iff_exists.1 (Fields.mem_keys_iff_lookup.1 hkey)
        obtain ⟨w, hw, hvw⟩ := h.exists_of_lookup hv
        simp only [hv, hw, Option.getD_some, word]
        rw [ih _ (Fields.mem_of_lookup hv) (wellFormed_of_lookup ha hv)
          (wellFormed_of_lookup hb hw) hvw]
      -- exclusive or forgets the order in which the keys stand
      have hperm : (xs.map fun field => word field.1 field.2).Perm
          (ys.map fun field => word field.1 field.2) := by
        rw [map_eq_map_keys hx word, map_eq_map_keys hy word, hkeys]
        exact (h.keys_perm hx hy).map _
      have hcomm : LeftCommutative (fun x y : UInt64 => x ^^^ y) :=
        ⟨fun x y z => by rw [← UInt64.xor_assoc, UInt64.xor_comm x y, UInt64.xor_assoc]⟩
      rw [words, words, entriesWord_eq_foldr, entriesWord_eq_foldr, length]
      exact congrArg (fun word => [_, _, word]) (hperm.foldr_eq 0)

end Value

/-! ## Sets -/

namespace ValueSet

section
variable (mix : List UInt64 → UInt64)

/-- The set has a member equal to the value, where the digest of a value is made of its words by
the mixing function. -/
def containsBy (s : ValueSet) (v : Value) : Bool :=
  s.entries.any fun (d, member) => d == mix (v.words mix) && member == v

/-- The set with the value as a member, unless an equal one is found by its digest. -/
def insertBy (s : ValueSet) (v : Value) : ValueSet :=
  if s.containsBy mix v then s else ⟨(mix (v.words mix), v) :: s.entries⟩

/-- The set of the values in a list, found by their digests. -/
def ofListBy (values : List Value) : ValueSet := values.foldl (insertBy mix) empty

/-- Values are found by the digests of `mixWords`. -/
theorem containsBy_mixWords : containsBy Value.mixWords = contains := rfl

/-- Sets are made with the digests of `mixWords`. -/
theorem ofListBy_mixWords : ofListBy Value.mixWords = ofList := rfl

/-- The set keeps members of a list with their digests, and one of each class of the list. -/
structure Collects (s : ValueSet) (values : List Value) : Prop where
  /-- A member is kept with its digest. -/
  digest : ∀ entry ∈ s.entries, entry.1 = mix (entry.2.words mix)
  /-- A member comes from the list. -/
  subset : s.members ⊆ values
  /-- One member equals a value if the list has an equal one, and else none does. -/
  count : ∀ x : Value, x.WellFormed →
    s.members.countP (· == x) = if values.any (· == x) then 1 else 0

end

variable {mix : List UInt64 → UInt64} {s : ValueSet} {values : List Value}

/-- A set holds a value if the list that it collects has an equal one. -/
theorem Collects.contains_eq (h : s.Collects mix values) (hw : ∀ v ∈ values, v.WellFormed)
    {v : Value} (hv : v.WellFormed) : s.containsBy mix v = values.any (· == v) := by
  rw [Bool.eq_iff_iff, containsBy, List.any_eq_true]
  simp only [Bool.and_eq_true, beq_iff_eq]
  constructor
  · rintro ⟨⟨d, member⟩, hmem, _, heq⟩
    exact List.any_eq_true.2 ⟨member, h.subset (List.mem_map_of_mem hmem), heq⟩
  · intro hany
    have hone : 0 < s.members.countP (· == v) := by
      rw [h.count v hv, if_pos hany]
      exact Nat.one_pos
    obtain ⟨member, hmember, heq⟩ := List.countP_pos_iff.1 hone
    obtain ⟨⟨d, member⟩, hmem, rfl⟩ := List.mem_map.1 hmember
    have hwords : member.words mix = v.words mix :=
      Value.words_congr (hw _ (h.subset hmember)) hv heq
    exact ⟨(d, member), hmem, (h.digest _ hmem).trans (congrArg mix hwords), heq⟩

/-- Inserting a value adds it to the list that is collected. -/
theorem Collects.insert (h : s.Collects mix values) (hw : ∀ v ∈ values, v.WellFormed) {v : Value}
    (hv : v.WellFormed) : (s.insertBy mix v).Collects mix (values ++ [v]) := by
  have hany : ∀ x : Value, (values ++ [v]).any (· == x) = (values.any (· == x) || v == x) := by
    intro x
    rw [List.any_append, List.any_cons, List.any_nil, Bool.or_false]
  have hself : List.Forall₂ (fun w w' => (w == w') = true) values values :=
    List.forall₂_same.2 fun w hmem => Value.beq_refl (hw w hmem)
  have hclass : ∀ x : Value, x.WellFormed → (v == x) = true →
      values.any (· == x) = values.any (· == v) := fun x hx hvx =>
    (Value.any_beq_congr hw hw hv hx hself hvx).symm
  rw [insertBy, h.contains_eq hw hv]
  cases hold : values.any (· == v) with
  | true =>
    refine ⟨h.digest, List.subset_append_of_subset_left _ h.subset, fun x hx => ?_⟩
    rw [if_pos rfl, h.count x hx, hany]
    cases hvx : v == x with
    | false => rw [Bool.or_false]
    | true => rw [hclass x hx hvx, hold, Bool.true_or]
  | false =>
    refine ⟨?_, ?_, fun x hx => ?_⟩
    · exact List.forall_mem_cons.2 ⟨rfl, h.digest⟩
    · exact List.cons_subset.2 ⟨by simp, List.subset_append_of_subset_left _ h.subset⟩
    · rw [if_neg Bool.false_ne_true, members, List.map_cons, ← members, List.countP_cons,
        h.count x hx, hany]
      cases hvx : v == x with
      | false => rw [Bool.or_false, if_neg Bool.false_ne_true, Nat.add_zero]
      | true => rw [hclass x hx hvx, hold]; rfl

/-- The set of a list collects it. -/
theorem collects_ofListBy (hw : ∀ v ∈ values, v.WellFormed) :
    (ofListBy mix values).Collects mix values := by
  induction values using List.reverseRecOn with
  | nil => exact ⟨nofun, nofun, fun _ _ => rfl⟩
  | append_singleton values v ih =>
    rw [List.forall_mem_append, List.forall_mem_singleton] at hw
    rw [ofListBy, List.foldl_append, ← ofListBy]
    exact (ih hw.1).insert hw.1 hw.2

/-- The set of a list holds what a search through the list finds. -/
theorem contains_ofList (hw : ∀ v ∈ values, v.WellFormed) {v : Value} (hv : v.WellFormed) :
    (ofList values).contains v = values.any (· == v) := by
  rw [← containsBy_mixWords, ← ofListBy_mixWords]
  exact (collects_ofListBy hw).contains_eq hw hv

/-- A member of the set of a list is a value of the list. -/
theorem mem_of_mem_members (hw : ∀ v ∈ values, v.WellFormed) {v : Value}
    (h : v ∈ (ofList values).members) : v ∈ values :=
  (collects_ofListBy hw).subset h

/-- A value of a list equals a member of the set of the list. -/
theorem exists_member_of_mem (hw : ∀ v ∈ values, v.WellFormed) {v : Value}
    (h : v ∈ values) : ∃ member ∈ (ofList values).members, (member == v) = true := by
  have hany : values.any (· == v) = true :=
    List.any_eq_true.2 ⟨v, h, Value.beq_refl (hw v h)⟩
  refine List.countP_pos_iff.1 ?_
  rw [← ofListBy_mixWords, (collects_ofListBy hw).count v (hw v h), if_pos hany]
  exact Nat.one_pos

end ValueSet

/-! ## Equality and words -/

/-- Equality is an equivalence among well-formed values. -/
theorem Value.equivalenceOn : EquivalenceOn Value.WellFormed where
  refl := beq_refl
  symm := beq_symm
  trans := beq_trans

/-- Equality and words go together, whatever entries are mixed with: equality is an equivalence,
equal values have the same words, and the set of a list has one member for each class of equal
values in the list, which is found by its digest. -/
theorem equality_words_lawful (mix : List UInt64 → UInt64) :
    EquivalenceOn Value.WellFormed ∧
      (∀ a b : Value, a.WellFormed → b.WellFormed → (a == b) = true →
        a.words mix = b.words mix) ∧
      ∀ values : List Value, (∀ v ∈ values, v.WellFormed) →
        let s := ValueSet.ofListBy mix values
        s.members ⊆ values ∧ ∀ x : Value, x.WellFormed →
          s.members.countP (· == x) = (if values.any (· == x) then 1 else 0) ∧
            s.containsBy mix x = values.any (· == x) := by
  refine ⟨Value.equivalenceOn, fun _ _ => Value.words_congr, fun values hw => ?_⟩
  have hcollects : (ValueSet.ofListBy mix values).Collects mix values :=
    ValueSet.collects_ofListBy hw
  exact ⟨hcollects.subset, fun x hx => ⟨hcollects.count x hx, hcollects.contains_eq hw hx⟩⟩

/-- Not-a-number, both zeros, and an object of these in two orders make three classes. -/
theorem equality_words_lawful_of_variants :
    let zero (negative : Bool) : Value := .number (.signedZero negative)
    let nan : Value := .number .nan
    let values := [nan, zero true, .object [("a", nan), ("b", zero true)], zero false, nan]
    let reordered : Value := .object [("b", zero false), ("a", nan)]
    (∀ v ∈ values, v.WellFormed) ∧ reordered.WellFormed ∧
      (ValueSet.ofList values).members.countP (· == reordered) = 1 ∧
      (ValueSet.ofList values).contains reordered = true := by
  intro zero nan values reordered
  have hw : ∀ v ∈ values, v.WellFormed := by
    simp [values, nan, zero, Value.WellFormed, Value.WellFormedFields]
  have hreordered : reordered.WellFormed := by
    simp [reordered, nan, zero, Value.WellFormed, Value.WellFormedFields]
  obtain ⟨_, _, hset⟩ := equality_words_lawful Value.mixWords
  obtain ⟨hcount, hcontains⟩ := (hset values hw).2 reordered hreordered
  have hany : values.any (· == reordered) = true := by decide +kernel
  rw [hany] at hcount hcontains
  exact ⟨hw, hreordered, hcount, hcontains⟩

end RecordQuery

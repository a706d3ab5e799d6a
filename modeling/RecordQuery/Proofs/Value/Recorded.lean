import RecordQuery.Proofs.Json.Building
import RecordQuery.Proofs.Value.Equality
import RecordQuery.Proofs.Value.Literals
import RecordQuery.Proofs.Value.Normal

/-!
# Values that are read

A numeral in a text denotes a finite number, so JSON loses nothing of a record but the sign of a
zero: every record is well formed and equal to its normal form (`recorded_of_read?`). A
specification that is read is well formed too, patterns included (`wellFormed_ofSpecification`).
-/

namespace RecordQuery

/-! ## Numerals -/

namespace Number

/-- The number is finite. -/
inductive IsFinite : Number → Prop
  | finite (negative : Bool) {quanta : Nat} (h : Representable quanta) :
    IsFinite (.finite negative quanta h)

/-- Neighbouring doubles are no further apart at an integer than the integer is from zero. -/
theorem spacing_one_le (num : Nat) : spacing num 1 ≤ num + 1 := by
  rw [spacing, Nat.div_one, Nat.pow_eq]
  rcases Nat.eq_zero_or_pos num with rfl | hpos
  · decide
  · calc 2 ^ (num.log2 - 52) ≤ 2 ^ num.log2 := Nat.pow_le_pow_right (by omega) (by omega)
      _ ≤ num := Nat.log2_self_le (Nat.ne_of_gt hpos)
      _ ≤ num + 1 := Nat.le_succ num

/-- Rounding an integer at most doubles it. -/
theorem nearestQuanta_one_le (num : Nat) : nearestQuanta num 1 ≤ 2 * num + 1 := by
  rw [nearestQuanta, Nat.one_mul]
  calc roundHalfEven num (spacing num 1) * spacing num 1
      ≤ (num / spacing num 1 + 1) * spacing num 1 := Nat.mul_le_mul_right _ (roundHalfEven_le _ _)
    _ = num / spacing num 1 * spacing num 1 + spacing num 1 := by rw [Nat.add_mul, Nat.one_mul]
    _ ≤ num + (num + 1) := Nat.add_le_add (Nat.div_mul_le_self _ _) (spacing_one_le num)
    _ = 2 * num + 1 := by omega

/-- An integer of 64 bits does not overflow. -/
theorem nearestQuanta_lt_overflowQuanta {m : Nat} (h : m ≤ 2 ^ 64) :
    nearestQuanta (m * quantaPerOne) 1 < overflowQuanta := by
  have hpos := quantaPerOne_pos
  -- one more than twice the integer is far below what overflows
  obtain ⟨room, hroom, hoverflow⟩ :
      ∃ room, 2 ^ 66 ≤ room ∧ overflowQuanta = room * quantaPerOne := by
    refine ⟨_, ?_, overflowQuanta_eq_mul⟩
    have hle : 66 ≤ 1024 := by decide
    generalize 1024 = n at hle ⊢
    exact Nat.pow_le_pow_right (by decide) hle
  have hsmall : 2 * m + 1 < room := by omega
  calc nearestQuanta (m * quantaPerOne) 1 ≤ 2 * (m * quantaPerOne) + 1 := nearestQuanta_one_le _
    _ ≤ 2 * (m * quantaPerOne) + quantaPerOne := Nat.add_le_add_left hpos _
    _ = (2 * m + 1) * quantaPerOne := by rw [Nat.add_mul, Nat.mul_assoc, Nat.one_mul]
    _ < room * quantaPerOne := Nat.mul_lt_mul_of_pos_right hsmall hpos
    _ = overflowQuanta := hoverflow.symm

/-- A quotient that rounds to less than what overflows is finite. -/
theorem isFinite_ofQuanta {negative : Bool} {num den : Nat}
    (h : nearestQuanta num den < overflowQuanta) : (ofQuanta negative num den).IsFinite := by
  rw [ofQuanta, dif_pos h]
  exact .finite _ _

/-- An integer of 64 bits is within the range of doubles. -/
theorem isFinite_ofQuanta_of_le {negative : Bool} {m : Nat} (h : m ≤ 2 ^ 64) :
    (ofQuanta negative (m * quantaPerOne) 1).IsFinite :=
  isFinite_ofQuanta (nearestQuanta_lt_overflowQuanta h)

/-- A scaled significand is a number. -/
theorem ofScaled_ne_nan (negative : Bool) (significand : Nat) (exponent : Int) :
    ofScaled negative significand exponent ≠ .nan := by
  rw [ofScaled]
  split
  · exact nofun
  · split
    · exact nofun
    · dsimp only
      split <;> exact ofQuanta_ne_nan _ _ _

/-- A finite number is what JSON says of it, up to the sign of zero. -/
theorem IsFinite.beq_normal {n : Number} (h : n.IsFinite) :
    (Value.number n == n.normal) = true := by
  cases h with
  | @finite negative q hq =>
    have hsign : signed negative q = signed (negative && q != 0) q := by
      by_cases hzero : q = 0
      · subst hzero
        rw [signed_zero, signed_zero]
      · rw [bne_iff_ne.2 hzero, Bool.and_true]
    have hrank : rank? (.finite negative q hq) = rank? (.finite (negative && q != 0) q hq) :=
      congrArg some hsign
    exact sameValueZero_iff.2 hrank

end Number

namespace Json

/-- A number with a point, an exponent or many digits is finite, or is refused. -/
theorem doubleNumeral_isFinite {negative : Bool} {whole fraction : List Char} {exponent : Int}
    {n : Numeral} (h : doubleNumeral negative whole fraction exponent = some n) :
    n.toNumber.IsFinite := by
  unfold doubleNumeral at h
  dsimp only at h
  generalize hvalue : Number.ofScaled _ _ _ = value at h
  have hnan : value ≠ .nan := hvalue ▸ Number.ofScaled_ne_nan _ _ _
  cases value with
  | nan => exact absurd rfl hnan
  | infinite => cases h
  | finite =>
    rw [← Option.some.inj h]
    exact .finite _ _

/-- An integer is finite. -/
theorem integerNumeral_isFinite {negative : Bool} {digits : List Char} {n : Numeral}
    (h : integerNumeral negative digits = some n) : n.toNumber.IsFinite := by
  unfold integerNumeral at h
  dsimp only at h
  split at h
  · obtain rfl := Option.some.inj h
    rw [Numeral.toNumber, Number.ofNat]
    exact Number.isFinite_ofQuanta_of_le (Nat.le_of_lt (UInt64.toNat_lt _))
  · split at h
    · obtain rfl := Option.some.inj h
      rw [Numeral.toNumber, Number.ofInt]
      refine Number.isFinite_ofQuanta_of_le ?_
      have hlow := Int64.le_toInt (Int64.ofInt (-(Number.digitsValue digits : Int)))
      have hhigh := Int64.toInt_lt (Int64.ofInt (-(Number.digitsValue digits : Int)))
      omega
    · exact doubleNumeral_isFinite h

/-- Every numeral in a text denotes a finite number. -/
theorem Numeral.Written.isFinite {n : Numeral} (h : n.Written) : n.toNumber.IsFinite := by
  obtain ⟨cs, rest, h⟩ := h
  have hunsigned : ∃ negative cs, readUnsigned negative cs = some (n, rest) := by
    unfold readNumber at h
    split at h
    · exact ⟨_, _, h⟩
    · exact ⟨_, _, h⟩
  obtain ⟨negative, cs, h⟩ := hunsigned
  simp only [readUnsigned, Option.pure_def, Option.bind_eq_bind] at h
  split at h
  · cases h
  · simp only [Option.bind_eq_some_iff] at h
    obtain ⟨_, _, _, _, h⟩ := h
    split at h
    · obtain ⟨numeral, hnumeral, heq⟩ := Option.bind_eq_some_iff.1 h
      cases heq
      exact integerNumeral_isFinite hnumeral
    · obtain ⟨numeral, hnumeral, heq⟩ := Option.bind_eq_some_iff.1 h
      cases heq
      exact doubleNumeral_isFinite hnumeral

end Json

/-! ## Records -/

namespace Value

open Json

/-- A value that a text can be read as: no key comes twice in it, and JSON loses nothing of it but
the signs of zeros. -/
structure Recorded (v : Value) : Prop where
  wellFormed : v.WellFormed
  normal : (v == v.normal) = true

/-- What is read is defined. -/
theorem Recorded.defined {v : Value} (h : v.Recorded) : v.isUndefined = false := by
  cases v with
  | undefined => cases h.normal
  | null | bool | number | bigint | string | regex | array | object => rfl

/-- An array is read just if its items are. -/
theorem recorded_array {items : List Value} :
    (array items).Recorded ↔ ∀ v ∈ items, v.Recorded := by
  have hnormal : (array items == (array items).normal) = true ↔
      ∀ v ∈ items, (v == v.normal) = true := by
    rw [normal, normalItems_eq_map, array_beq_iff, List.forall₂_map_right_iff, List.forall₂_same]
  constructor
  · intro h v hv
    exact ⟨wellFormed_array.1 h.wellFormed v hv, hnormal.1 h.normal v hv⟩
  · intro h
    exact ⟨wellFormed_array.2 fun v hv => (h v hv).wellFormed,
      hnormal.2 fun v hv => (h v hv).normal⟩

/-- An object of values that are read is equal to its normal form. -/
theorem recorded_object {fields : List (String × Value)} (hkeys : (Fields.keys fields).Nodup)
    (h : ∀ field ∈ fields, field.2.Recorded) : (object fields).Recorded := by
  refine ⟨wellFormed_object.2 ⟨hkeys, fun field hf => (h field hf).wellFormed⟩, ?_⟩
  have hdefined : definedFields fields = fields := by
    rw [definedFields, List.filter_eq_self]
    intro field hf
    exact congrArg (!·) (h field hf).defined
  have hnodup := nodup_keys_normalFields hkeys
  rw [normal]
  rw [normalFields_eq_map, hdefined] at hnodup ⊢
  refine beq_iff_same.2 (.object (List.length_map _).symm fun field hf => ?_)
  refine ⟨field.2.normal, ?_, (h field hf).normal⟩
  exact (Fields.lookup_eq_some_iff hnodup).2 (List.mem_map.2 ⟨field, hf, rfl⟩)

/-- Records are well formed, and what JSON says of them. -/
theorem builder_keeps_recorded : builder.Keeps Recorded where
  null := ⟨trivial, rfl⟩
  bool t := ⟨trivial, beq_self_eq_true t⟩
  number hn := ⟨trivial, hn.isFinite.beq_normal⟩
  string s := ⟨trivial, beq_self_eq_true s⟩
  array := recorded_array.2
  object hentries := recorded_object (Fields.nodup_keys_ofEntries _) fun _ hf =>
    hentries _ (Fields.mem_of_mem_ofEntries hf)

/-- What is read as a record is one. -/
theorem recorded_of_read? {text : String} {v : Value} (h : read? text = some v) : v.Recorded :=
  builder_keeps_recorded.of_read? h

/-! ## Specifications -/

/-- Plain JSON with patterns is well formed. -/
theorem plain_keeps_wellFormed (form? : List (String × Json) → Option (String × String)) :
    plain.Keeps fun j => (ofJsonWith form? j).WellFormed where
  null := trivial
  bool _ := trivial
  number _ := trivial
  string _ := trivial
  array {items} h := by
    have hitems : ∀ v ∈ items.map (ofJsonWith form?), v.WellFormed := List.forall_mem_map.2 h
    rw [← ofJsonItemsWith_eq_map] at hitems
    exact wellFormed_array.2 hitems
  object {entries} h := by
    change (ofJsonWith form? (.object (Fields.ofEntries entries))).WellFormed
    rw [ofJsonWith]
    split
    · trivial
    · rw [wellFormed_object, ofJsonFieldsWith_eq_map]
      constructor
      · rw [Fields.keys, List.map_map]
        exact Fields.nodup_keys_ofEntries entries
      · rw [List.forall_mem_map]
        exact fun field hf => h field (Fields.mem_of_mem_ofEntries hf)

/-- A specification that is read is well formed. -/
theorem wellFormed_ofSpecification {text : String} {j : Json} {v : Value}
    (hj : Json.read? text = some j) (hv : ofSpecification j = .ok v) : v.WellFormed := by
  obtain ⟨_, rfl⟩ := ((ofSpecification_replaces j).ok v).1 hv
  exact (plain_keeps_wellFormed taken?).of_read? hj

end Value

end RecordQuery

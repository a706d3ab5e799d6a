import RecordQuery.Text.Units

/-!
# Texts read unit by unit

A character is never half of a pair, so a character of one unit is what its unit is read as. The two
halves of a pair are surrogates, each read as the replacement character. So reading the units of a
text one at a time gives the text with two replacements for every character above U+FFFF
(`map_ofUnit_units`).
-/

namespace RecordQuery.Text

/-- What the units of a character are read as alone: the character, or two replacements. -/
def apart (c : Char) : List Char := if c.toNat ≤ 0xFFFF then [c] else [replacement, replacement]

/-- A unit is read as the character of its number, if that is no surrogate. -/
theorem ofUnit_toUInt16 {n : Nat} (h : n ≤ 0xFFFF) :
    ofUnit n.toUInt16 = if 0xD800 ≤ n ∧ n ≤ 0xDFFF then replacement else Char.ofNat n := by
  have hnat : n.toUInt16.toNat = n := UInt16.toNat_ofNat_of_lt' (Nat.lt_succ_of_le h)
  simp [ofUnit, isSurrogate, hnat]

/-- The code point of a character is no surrogate. -/
theorem toNat_valid (c : Char) : c.toNat < 0xD800 ∨ 0xDFFF < c.toNat ∧ c.toNat < 0x110000 :=
  c.valid

/-- The units of a character, read one at a time. -/
theorem map_ofUnit_unitsOf (c : Char) : (unitsOf c).map ofUnit = apart c := by
  have hvalid := toNat_valid c
  rw [unitsOf, apart]
  split
  · rename_i hone
    have hle : c.toNat ≤ 0xFFFF := Nat.le_of_lt_succ hone
    rw [List.map_singleton, ofUnit_toUInt16 hle, if_neg (by omega), Char.ofNat_toNat, if_pos hle]
  · rename_i htwo
    have hupper : (c.toNat - 0x10000) / 0x400 < 0x400 := by omega
    have hlower : (c.toNat - 0x10000) % 0x400 < 0x400 := Nat.mod_lt _ (by decide)
    simp only [List.map_cons, List.map_nil]
    rw [ofUnit_toUInt16 (by omega), ofUnit_toUInt16 (by omega), if_pos (by omega),
      if_pos (by omega), if_neg (by omega)]

/-- The units of a text, read one at a time. -/
theorem map_ofUnit_units (cs : List Char) : (units cs).map ofUnit = cs.flatMap apart := by
  rw [units, List.map_flatMap]
  exact congrArg (cs.flatMap ·) (funext map_ofUnit_unitsOf)

/-- A text without characters above U+FFFF is read as it is. -/
theorem flatMap_apart_eq_self {cs : List Char} (h : ∀ c ∈ cs, c.toNat ≤ 0xFFFF) :
    cs.flatMap apart = cs := by
  induction cs with
  | nil => rfl
  | cons c rest ih =>
    obtain ⟨hc, hrest⟩ := List.forall_mem_cons.1 h
    rw [List.flatMap_cons, ih hrest, apart, if_pos hc]
    rfl

end RecordQuery.Text

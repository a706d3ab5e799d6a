/-!
# Text in 16-bit units

Length and position count 16-bit units. A character below U+10000 is one unit. Any other is a pair
of surrogates, which hold the upper and the lower ten bits of its distance from U+10000. A unit read
alone is the character that it encodes; half of a pair encodes none and is read as the replacement
character.
-/

namespace RecordQuery.Text

/-- What stands for a unit that is no character of its own. -/
def replacement : Char := '\uFFFD'

/-- The units of a character. -/
def unitsOf (c : Char) : List UInt16 :=
  if c.toNat < 0x10000 then [c.toNat.toUInt16]
  else
    let above := c.toNat - 0x10000
    [(0xD800 + above / 0x400).toUInt16, (0xDC00 + above % 0x400).toUInt16]

/-- The units of a text. -/
def units (cs : List Char) : List UInt16 := cs.flatMap unitsOf

/-- The unit is half of a pair. -/
def isSurrogate (unit : UInt16) : Bool := 0xD800 ≤ unit.toNat && unit.toNat ≤ 0xDFFF

/-- The character that a unit is read as alone. -/
def ofUnit (unit : UInt16) : Char :=
  if isSurrogate unit then replacement else Char.ofNat unit.toNat

end RecordQuery.Text

import RecordQuery.Proofs.Filter.Placed
import RecordQuery.Proofs.Number.Wrapping

/-!
# Conditions on bits

A condition on bits compares the numbers of a value and of a mask as 32 bits. These are the bits of
the integer parts modulo `2 ^ 32` (`Number.testBit_residue`), whatever the numbers are, so that the
condition asks whether every bit of the mask is one of the value, and a mask that joins two others
asks for both (`Filter.bits_of_integer_parts`).
-/

namespace RecordQuery

/-! ## Bits of numbers -/

namespace Number

/-- The integer part modulo `2 ^ 32`. -/
def residue (n : Number) : Nat := (n.truncate % 2 ^ 32).toNat

/-- The bits that a number is wrapped to are those of its residue. -/
theorem testBit_residue (n : Number) (k : Nat) :
    n.residue.testBit k = n.toInt32.toBitVec.getLsbD k := by
  have hbits : n.toInt32.toBitVec = BitVec.ofInt 32 n.truncate := by
    rw [toInt32_eq, Int32.toBitVec_ofInt]
  have hnat : (BitVec.ofInt 32 n.truncate).toNat = n.residue := BitVec.toNat_ofInt n.truncate
  rw [hbits, ← BitVec.testBit_toNat, hnat]

/-- An integer of 32 bits is what its number is wrapped to. -/
theorem toInt32_ofInt (k : Int32) : (ofInt k.toInt).toInt32 = k := by
  have hlow : -(2 ^ 31) ≤ k.toInt := Int32.minValue_le_toInt k
  have hhigh : k.toInt ≤ 2 ^ 31 - 1 := Int32.toInt_le k
  have hwhole : IsWhole (ofInt k.toInt) k.toInt := isWhole_ofInt (by omega)
  rw [toInt32_eq, hwhole.truncate, Int32.ofInt_toInt]

end Number

/-- All bits of a mask are found if each of them is. -/
theorem and_beq_self_iff {bits mask : Int32} : (bits &&& mask == mask) = true ↔
    ∀ k, mask.toBitVec.getLsbD k = true → bits.toBitVec.getLsbD k = true := by
  rw [beq_iff_eq, ← Int32.toBitVec_inj, Int32.toBitVec_and]
  constructor
  · intro h k hk
    rw [← h, BitVec.getLsbD_and, Bool.and_eq_true] at hk
    exact hk.1
  · intro h
    refine BitVec.eq_of_getLsbD_eq fun k _ => ?_
    rw [BitVec.getLsbD_and, Bool.and_eq_right_iff_imp]
    exact h k

/-- All bits of a joined mask are found if those of both are. -/
theorem and_or_beq_self (bits mask mask' : Int32) :
    (bits &&& (mask ||| mask') == mask ||| mask') =
      ((bits &&& mask == mask) && (bits &&& mask' == mask')) := by
  rw [Bool.eq_iff_iff, Bool.and_eq_true, and_beq_self_iff, and_beq_self_iff, and_beq_self_iff]
  simp only [Int32.toBitVec_or, BitVec.getLsbD_or, Bool.or_eq_true, or_imp, forall_and]

/-! ## Filters -/

namespace Filter

variable {limit : Nat} {path : Path} {record v : Value}

/-- The number of a value is asked to have the bits of a mask. -/
theorem answerAt_bits (hkeys : ∀ key ∈ path, Keyword.ofKey? key = none)
    (hlimit : path.length ≤ limit) (h : path.LeadsTo record v) (hkind : v.kind ≠ .bigint)
    (m : Number) : answerAt limit path "$bits" (.number m) record =
      .ok (.ok (v.toNumber.toInt32 &&& m.toInt32 == m.toInt32)) := by
  have hc : (Condition.bits false m.toInt32).WellFormed := trivial
  have hbits : v.hasBits (.bits false) m.toInt32 =
      .ok (v.toNumber.toInt32 &&& m.toInt32 == m.toInt32) := by
    cases v with
    | bigint => exact absurd rfl hkind
    | undefined | null | bool | number | string | regex | array | object => rfl
  have hoperand : Condition.ofOperand (.bits false) [(Operator.bits false).name] (.number m) =
      .ok (.bits false m.toInt32) := rfl
  have hanswer := answerAt_eq (.bits false) hkeys hlimit hoperand hc h
  rw [Condition.holds, hbits, Verdict.negateIf, Bool.false_xor] at hanswer
  exact hanswer

/-- What a finite number is wrapped to is the one integer of 32 bits that is congruent modulo
`2 ^ 32` to the integer part of its exact value, and every other number is wrapped to zero. So a
condition on bits holds of a value, unless that is a wide integer, exactly if every bit of the
integer part of the mask modulo `2 ^ 32` is one of the number of the value. And for a mask whose
bits are those of two masks, as there is one for every 32 bits, it holds exactly if it holds for
both. -/
theorem bits_of_integer_parts :
    (∀ (n : Number) (x : ℚ), n.extended? = some (.ofRat x) →
      n.truncate = Number.towardZero x ∧
        ∀ k : Int32, k.toInt ≡ Number.towardZero x [ZMOD 2 ^ 32] ↔ k = n.toInt32) ∧
    (∀ n : Number, (∀ x, n.extended? ≠ some (.ofRat x)) → n.truncate = 0 ∧ n.toInt32 = 0) ∧
    (∀ k : Int32, (Number.ofInt k.toInt).toInt32 = k) ∧
    ∀ (limit : Nat) (path : Path) (record v : Value),
      (∀ key ∈ path, Keyword.ofKey? key = none) → path.length ≤ limit →
      path.LeadsTo record v → v.kind ≠ .bigint →
      let ask (m : Number) := answerAt limit path "$bits" (.number m) record
      (∀ m, ∃ holds : Bool, ask m = .ok (.ok holds) ∧ (holds = true ↔
        ∀ k, m.residue.testBit k = true → v.toNumber.residue.testBit k = true)) ∧
      ∀ m m' joined : Number, joined.toInt32 = m.toInt32 ||| m'.toInt32 →
        ∃ holds holds' : Bool, ask m = .ok (.ok holds) ∧ ask m' = .ok (.ok holds') ∧
          ask joined = .ok (.ok (holds && holds')) := by
  refine ⟨fun n x hx => ?_, fun n hn => ?_, Number.toInt32_ofInt, ?_⟩
  · have htruncate := Number.truncate_eq hx
    refine ⟨htruncate, fun k => ?_⟩
    rw [Number.toInt32_eq, htruncate]
    exact Number.modEq_toInt_iff
  · have htruncate := Number.truncate_eq_zero hn
    refine ⟨htruncate, ?_⟩
    rw [Number.toInt32_eq, htruncate]
    rfl
  · intro limit path record v hkeys hlimit hleads hkind ask
    have hask := answerAt_bits hkeys hlimit hleads hkind
    refine ⟨fun m => ⟨_, hask m, ?_⟩, fun m m' joined hjoined => ⟨_, _, hask m, hask m', ?_⟩⟩
    · simp only [and_beq_self_iff, Number.testBit_residue]
    · rw [← and_or_beq_self, ← hjoined]
      exact hask joined

/-- A mask with the highest bit, and a negative number of more than 32 bits. -/
theorem bits_of_integer_parts_of_flags :
    let flags : Number := .ofInt (-(2 ^ 32 + 3))
    let ask (m : Number) := answerAt 1 ["flags"] "$bits" (.number m)
      (.object [("flags", .number flags)])
    flags.truncate = Number.towardZero (-(2 ^ 32 + 3) : Int) ∧ Number.nan.toInt32 = 0 ∧
    ask (.ofNat 1) = .ok (.ok true) ∧
    ∃ holds : Bool, ask (.ofNat (2 ^ 31)) = .ok (.ok holds) ∧
      ask (.ofNat (2 ^ 31 + 1)) = .ok (.ok holds) := by
  intro flags ask
  obtain ⟨hfinite, hinfinite, -, hasks⟩ := bits_of_integer_parts
  have hflags : flags.extended? = some (.ofRat (-(2 ^ 32 + 3) : Int)) :=
    (Number.isWhole_ofInt (by decide)).extended?
  have hkeys : ∀ key ∈ ["flags"], Keyword.ofKey? key = none := by decide
  have hleads : Path.LeadsTo ["flags"] (.object [("flags", .number flags)]) (.number flags) :=
    Path.leadsTo_under ["flags"] trivial
  obtain ⟨hmask, hjoined⟩ := hasks 1 ["flags"] _ _ hkeys (Nat.le_refl 1) hleads nofun
  have hone : ask (.ofNat 1) = .ok (.ok true) := by
    obtain ⟨holds, hask, hiff⟩ := hmask (.ofNat 1)
    have hresidue : (Number.ofNat 1).residue = 1 := by decide +kernel
    have hbit : flags.residue.testBit 0 = true := by decide +kernel
    rw [hresidue] at hiff
    have hholds : holds = true := by
      refine hiff.2 fun k hk => ?_
      obtain rfl := Nat.testBit_one_eq_true_iff_self_eq_zero.1 hk
      exact hbit
    rw [← hholds]
    exact hask
  refine ⟨(hfinite _ _ hflags).1, (hinfinite .nan nofun).2, hone, ?_⟩
  obtain ⟨holds, holds', hm, hm', hask⟩ :=
    hjoined (.ofNat 1) (.ofNat (2 ^ 31)) (.ofNat (2 ^ 31 + 1)) (by decide +kernel)
  obtain rfl : true = holds := Except.ok.inj (Except.ok.inj (hone.symm.trans hm))
  exact ⟨holds', hm', hask⟩

end Filter

end RecordQuery

import Mathlib.Data.Int.ConditionallyCompleteOrder
import Mathlib.Order.Compare
import RecordQuery.Proofs.Number.Closest
import RecordQuery.Proofs.Number.Sign

/-!
# Exact values of numbers

Every number but not-a-number has an exact value, a rational or an infinity, and its rank is the
place of that on a line on which the exact values have the same order (`Number.extended?_eq`,
`Extended.compare_ofPlace`). An integer has a place on the line too, and the double nearest to it
lies to every double other than itself as the integer does (`Number.compare_rank?_ofInt`).
-/

namespace RecordQuery

namespace Number

/-! ## Rounding along the line of ranks -/

/-- The place on the line of ranks is one of an infinity or of a finite double. -/
def IsRank (s : Int) : Prop := FitsSignificand s.natAbs ∧ s.natAbs ≤ overflowQuanta

/-- An infinity lies at a power of two. -/
theorem fitsSignificand_overflowQuanta : FitsSignificand overflowQuanta := by decide +kernel

/-- Every number but not-a-number has such a place. -/
theorem isRank_of_rank? {n : Number} {s : Int} (h : n.rank? = some s) : IsRank s := by
  cases n with
  | nan => cases h
  | infinite negative =>
    obtain rfl := Option.some.inj h
    rw [IsRank, natAbs_signed]
    exact ⟨fitsSignificand_overflowQuanta, le_rfl⟩
  | finite negative q hq =>
    obtain rfl := Option.some.inj h
    rw [IsRank, natAbs_signed]
    exact ⟨hq.2, hq.1.le⟩

/-- The magnitude of the double nearest to an integer does not pass another magnitude. -/
theorem exists_rank?_ofInt (n : Int) : ∃ m : Nat, (ofInt n).rank? = some (signed (n < 0) m) ∧
    ∀ p : Nat, FitsSignificand p → p ≤ overflowQuanta →
      (n.natAbs * quantaPerOne ≤ p → m ≤ p) ∧ (p ≤ n.natAbs * quantaPerOne → p ≤ m) := by
  have hclosest := closest_nearestQuanta Nat.one_pos (n.natAbs * quantaPerOne)
  rw [Nat.cast_one, div_one] at hclosest
  have hle {p : Nat} (hp : FitsSignificand p) (h : n.natAbs * quantaPerOne ≤ p) :
      nearestQuanta (n.natAbs * quantaPerOne) 1 ≤ p :=
    hclosest.le_of_le hp (Nat.cast_le.2 h)
  have hge {p : Nat} (hp : FitsSignificand p) (h : p ≤ n.natAbs * quantaPerOne) :
      p ≤ nearestQuanta (n.natAbs * quantaPerOne) 1 :=
    hclosest.ge_of_ge hp (Nat.cast_le.2 h)
  rw [ofInt, ofQuanta]
  split
  · exact ⟨_, rfl, fun p hp _ => ⟨hle hp, hge hp⟩⟩
  · rename_i hover
    refine ⟨_, rfl, fun p hp hpover => ⟨fun h => ?_, fun _ => hpover⟩⟩
    exact (Nat.not_lt.1 hover).trans (hle hp h)

/-- A signed magnitude lies to a place as another does that is on the same side of its magnitude. -/
theorem compare_signed_of_bounds {negative : Bool} {m k : Nat} {s : Int}
    (hle : k ≤ s.natAbs → m ≤ s.natAbs) (hge : s.natAbs ≤ k → s.natAbs ≤ m)
    (hne : signed negative m ≠ s) :
    compare (signed negative m) s = compare (signed negative k) s := by
  cases negative <;> simp only [signed, if_true, Bool.false_eq_true, if_false] at hne ⊢ <;>
    exact compare_congr (by omega) (by omega)

/-- An integer in quanta is its magnitude in quanta with its sign. -/
theorem signed_quanta (n : Int) : signed (n < 0) (n.natAbs * quantaPerOne) = n * quantaPerOne := by
  rw [signed_mul, signed_natAbs]

/-- The magnitude of an integer in quanta. -/
theorem natAbs_quanta (n : Int) : (n * quantaPerOne).natAbs = n.natAbs * quantaPerOne := by
  rw [Int.natAbs_mul, Int.natAbs_natCast]

/-- The double nearest to an integer lies to every other place of a double as the integer does. -/
theorem compare_rank?_ofInt {n : Int} {r s : Int} (hr : (ofInt n).rank? = some r) (hs : IsRank s)
    (hne : r ≠ s) : compare r s = compare (n * quantaPerOne) s := by
  obtain ⟨m, hm, hbounds⟩ := exists_rank?_ofInt n
  obtain ⟨hle, hge⟩ := hbounds s.natAbs hs.1 hs.2
  obtain rfl := Option.some.inj (hm.symm.trans hr)
  rw [← signed_quanta]
  exact compare_signed_of_bounds hle hge hne

/-- A magnitude with 53 significant bits has as many if it is doubled again and again. -/
theorem fitsSignificand_two_pow_mul {m : Nat} (h : FitsSignificand m) (k : Nat) :
    FitsSignificand (m * 2 ^ k) := by
  rcases Nat.eq_zero_or_pos m with rfl | hm
  · rw [Nat.zero_mul]
    exact h
  · have hlog : (m * 2 ^ k).log2 < m.log2 + 1 + k := by
      rw [Nat.log2_lt (Nat.mul_pos hm (Nat.two_pow_pos k)).ne', Nat.pow_add]
      exact Nat.mul_lt_mul_of_pos_right Nat.lt_log2_self (Nat.two_pow_pos k)
    have hdvd : 2 ^ (m.log2 - 52) * 2 ^ k ∣ m * 2 ^ k := Nat.mul_dvd_mul_right h _
    rw [← Nat.pow_add] at hdvd
    exact (Nat.pow_dvd_pow 2 (by omega)).trans hdvd

/-- As many bits suffice to count it in quanta. -/
theorem fitsSignificand_mul_quantaPerOne {m : Nat} (h : FitsSignificand m) :
    FitsSignificand (m * quantaPerOne) := by
  unfold quantaPerOne
  generalize 1074 = places
  exact fitsSignificand_two_pow_mul h places

/-- An integer that has the place of a double is rounded to that. -/
theorem rank?_ofInt_of_isRank {n : Int} (h : IsRank (n * quantaPerOne)) :
    (ofInt n).rank? = some (n * quantaPerOne) := by
  obtain ⟨m, hm, hbounds⟩ := exists_rank?_ofInt n
  rw [IsRank, natAbs_quanta] at h
  obtain ⟨hle, hge⟩ := hbounds _ h.1 h.2
  rw [hm, ← signed_quanta, Nat.le_antisymm (hle le_rfl) (hge le_rfl)]

end Number

/-! ## Exact values -/

/-- The rationals between two infinities. -/
abbrev Extended := WithBot (WithTop ℚ)

namespace Extended

/-- A rational. -/
def ofRat (x : ℚ) : Extended := ((x : WithTop ℚ) : Extended)

/-- What has a place on the line of ranks. -/
def ofPlace (s : Int) : Extended :=
  if Number.overflowQuanta ≤ s then ⊤
  else if s ≤ -Number.overflowQuanta then ⊥
  else ofRat (s / Number.quantaPerOne)

/-- Rationals keep their order. -/
theorem ofRat_lt_ofRat {x y : ℚ} : ofRat x < ofRat y ↔ x < y := by
  rw [ofRat, ofRat, WithBot.coe_lt_coe, WithTop.coe_lt_coe]

/-- The negative infinity is less than every rational. -/
theorem bot_lt_ofRat (x : ℚ) : ⊥ < ofRat x := WithBot.bot_lt_coe _

/-- Every rational is less than the positive infinity. -/
theorem ofRat_lt_top (x : ℚ) : ofRat x < ⊤ := by
  rw [ofRat, ← WithBot.coe_top, WithBot.coe_lt_coe]
  exact WithTop.coe_lt_top x

/-- Up to the infinities the greater place is that of the greater value. -/
theorem ofPlace_strictMonoOn :
    StrictMonoOn ofPlace {s | s.natAbs ≤ Number.overflowQuanta} := by
  intro s hs t ht hst
  have hpos : (0 : ℚ) < Number.quantaPerOne := Nat.cast_pos.2 Number.quantaPerOne_pos
  have hover := Number.overflowQuanta_pos
  simp only [Set.mem_ofPred_eq] at hs ht
  unfold ofPlace
  -- the lesser is not the positive infinity, nor the greater the negative one
  rw [if_neg (by omega : ¬ (Number.overflowQuanta : Int) ≤ s),
    if_neg (by omega : ¬ t ≤ -(Number.overflowQuanta : Int))]
  split <;> split
  · exact bot_lt_top
  · exact bot_lt_ofRat _
  · exact ofRat_lt_top _
  · rw [ofRat_lt_ofRat, div_lt_div_iff_of_pos_right hpos]
    exact_mod_cast hst

/-- Places compare as what has them. -/
theorem compare_ofPlace {s t : Int} (hs : s.natAbs ≤ Number.overflowQuanta)
    (ht : t.natAbs ≤ Number.overflowQuanta) :
    compare (ofPlace s) (ofPlace t) = compare s t := by
  rw [← cmp_eq_compare, ← cmp_eq_compare]
  exact ofPlace_strictMonoOn.cmp_map_eq hs ht

/-- The place of the positive infinity. -/
theorem ofPlace_overflowQuanta : ofPlace Number.overflowQuanta = ⊤ := if_pos le_rfl

/-- The place of the negative infinity. -/
theorem ofPlace_neg_overflowQuanta : ofPlace (-Number.overflowQuanta) = ⊥ := by
  have hover := Number.overflowQuanta_pos
  rw [ofPlace, if_neg (by omega), if_pos le_rfl]

/-- A rational between the finite places has its place. -/
theorem ofPlace_of_lt {s : Int} (h : s.natAbs < Number.overflowQuanta) :
    ofPlace s = ofRat (s / Number.quantaPerOne) := by
  rw [ofPlace, if_neg (by omega), if_neg (by omega)]

/-- The place of an integer. -/
theorem ofPlace_quanta {n : Int} (h : (n * Number.quantaPerOne).natAbs < Number.overflowQuanta) :
    ofPlace (n * Number.quantaPerOne) = ofRat n := by
  have hne : (Number.quantaPerOne : ℚ) ≠ 0 := Nat.cast_ne_zero.2 Number.quantaPerOne_pos.ne'
  rw [ofPlace_of_lt h, Int.cast_mul, Int.cast_natCast, mul_div_cancel_right₀ _ hne]

end Extended

/-- The exact value of a number, which not-a-number has none of. -/
def Number.extended? : Number → Option Extended
  | .nan => none
  | .infinite negative => some (if negative then ⊥ else ⊤)
  | .finite negative quanta _ => some (.ofRat (signed negative quanta / quantaPerOne))

/-- The rank of a number is the place of its exact value. -/
theorem Number.extended?_eq (n : Number) : n.extended? = n.rank?.map Extended.ofPlace := by
  cases n with
  | nan => rfl
  | infinite negative =>
    cases negative with
    | false => exact congrArg some Extended.ofPlace_overflowQuanta.symm
    | true => exact congrArg some Extended.ofPlace_neg_overflowQuanta.symm
  | finite negative quanta h =>
    have hlt : (signed negative quanta).natAbs < overflowQuanta := by
      rw [natAbs_signed]
      exact h.1
    rw [extended?, rank?, Option.map_some, Extended.ofPlace_of_lt hlt]

end RecordQuery

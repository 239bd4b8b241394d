/-
Whole numbers in binary.

A number of double precision has 53 binary digits, so that every whole number up to `2 ^ 53` is one
of them, and no digit is lost when it is read (`ofInt?_is`). Rounding a number that is whole changes
nothing (`Is.roundAway`).
-/
import ControlPlane.Number.Binary
import Mathlib.Tactic.Ring

set_option autoImplicit false

namespace ControlPlane

namespace Binary

variable {f : BinaryFormat} {x : Binary f} {n : Int}

/-! ## Numbers that are whole -/

/-- The number is a whole one. -/
structure Is (x : Binary f) (n : Int) : Prop where
  /-- The magnitude is. -/
  ratio : x.ratio.1 = n.natAbs * x.ratio.2
  /-- The sign is that of the whole number, unless that is zero. -/
  sign : n ≠ 0 → x.negative = decide (n < 0)

/-- A ratio has a positive denominator. -/
theorem ratio_pos (x : Binary f) : 0 < x.ratio.2 := by
  unfold ratio
  split
  · exact Nat.one_pos
  · exact Nat.pow_pos Nat.two_pos

/-- A whole number is the nearest one to itself. -/
theorem Is.roundAway (h : x.Is n) : x.roundAway = n := by
  have hpos := x.ratio_pos
  have hquotient : (2 * x.ratio.1 + x.ratio.2) / (2 * x.ratio.2) = n.natAbs := by
    have hsum : 2 * x.ratio.1 + x.ratio.2 = x.ratio.2 + 2 * x.ratio.2 * n.natAbs := by
      rw [h.ratio]
      ring
    rw [hsum, Nat.add_mul_div_left _ _ (by omega), Nat.div_eq_of_lt (by omega), Nat.zero_add]
  have hround : x.roundAway =
      if x.negative then -(((2 * x.ratio.1 + x.ratio.2) / (2 * x.ratio.2) : Nat) : Int)
      else ((2 * x.ratio.1 + x.ratio.2) / (2 * x.ratio.2) : Nat) := rfl
  rw [hround, hquotient]
  by_cases hn : n = 0
  · simp [hn]
  · rw [h.sign hn]
    by_cases hneg : n < 0
    · simp only [hneg, decide_true, if_true]
      omega
    · simp only [hneg, decide_false, Bool.false_eq_true, if_false]
      omega

/-! ## Reading them -/

theorem twoTo_eq (k : Nat) : Integer.twoTo k = 2 ^ k := rfl

/-- To scale by a negative exponent is to multiply. -/
theorem scaled_up (num den k : Nat) : scaled num den (-(k : Int)) = (num * 2 ^ k, den) := by
  cases k with
  | zero => simp [scaled, twoTo_eq]
  | succ k =>
      have hneg : ¬ (0 : Int) ≤ -((k + 1 : Nat) : Int) := by omega
      rw [scaled, if_neg hneg, Int.neg_neg, Int.toNat_natCast, twoTo_eq]

/-- A quotient by one is not rounded. -/
theorem roundQuotient_one (num : Nat) : roundQuotient num 1 = num := by
  simp [roundQuotient, Nat.mod_one]

/-- A whole number of at most 53 binary digits is filled up with zeros. -/
theorem ofRatio_digits (negative : Bool) {m k : Nat} (hlow : 2 ^ 52 ≤ m * 2 ^ k)
    (hhigh : m * 2 ^ k < 2 ^ 53) (hk : (m.log2 : Int) - 52 = -(k : Int)) :
    ofRatio .double negative m 1 = some ⟨negative, m * 2 ^ k, -(k : Int)⟩ := by
  have hm : m ≠ 0 := by
    rintro rfl
    omega
  have hguess : (m.log2 : Int) - ((1 : Nat).log2 : Int) -
      ((BinaryFormat.double.precision : Int) - 1) = -(k : Int) := by
    have hlog : (1 : Nat).log2 = 0 := by decide
    have hprecision : BinaryFormat.double.precision = 53 := rfl
    rw [hlog, hprecision]
    omega
  have hunit : unitExponent .double m 1 = -(k : Int) := by
    have hfull : ¬ m * 2 ^ k < 1 * Integer.twoTo (BinaryFormat.double.precision - 1) := by
      have hprecision : Integer.twoTo (BinaryFormat.double.precision - 1) = 2 ^ 52 := rfl
      omega
    have hleast : BinaryFormat.double.least = -1074 := rfl
    rw [unitExponent, hguess, scaled_up]
    dsimp only
    rw [if_neg hfull, hleast]
    omega
  have hnext : m * 2 ^ k ≠ Integer.twoTo BinaryFormat.double.precision := by
    have hprecision : Integer.twoTo BinaryFormat.double.precision = 2 ^ 53 := rfl
    omega
  have hfits : ¬ BinaryFormat.double.greatest < -(k : Int) := by
    have hgreatest : BinaryFormat.double.greatest = 971 := rfl
    omega
  have hnonzero : m * 2 ^ k ≠ 0 := by omega
  rw [ofRatio, if_neg hm, hunit]
  dsimp only
  rw [scaled_up]
  dsimp only
  rw [roundQuotient_one, if_neg hnext]
  dsimp only
  rw [if_neg hfits, if_neg hnonzero]

/-- Every whole number up to `2 ^ 53` is a number of double precision. -/
theorem ofRatio_whole (negative : Bool) {m : Nat} (hm : m ≠ 0) (hle : m ≤ 2 ^ 53) :
    ∃ x, ofRatio .double negative m 1 = some x ∧ x.ratio.1 = m * x.ratio.2 ∧
      x.negative = negative := by
  have hlow := Nat.log2_self_le hm
  have hhigh := @Nat.lt_log2_self m
  by_cases hlog : m.log2 ≤ 52
  · obtain ⟨k, hk⟩ := Nat.exists_eq_add_of_le hlog
    have hpow : 2 ^ m.log2 * 2 ^ k = 2 ^ 52 := by rw [← Nat.pow_add, ← hk]
    have hpos : 0 < 2 ^ k := Nat.pow_pos Nat.two_pos
    have hfilled : 2 ^ 52 ≤ m * 2 ^ k := hpow ▸ Nat.mul_le_mul_right _ hlow
    have hbounded : m * 2 ^ k < 2 ^ 53 := by
      have hmul := Nat.mul_lt_mul_of_pos_right hhigh hpos
      rw [Nat.pow_succ, Nat.mul_right_comm, hpow] at hmul
      omega
    refine ⟨_, ofRatio_digits negative hfilled hbounded (by omega), ?_, rfl⟩
    cases k with
    | zero => simp [ratio, twoTo_eq]
    | succ k =>
        have hneg : ¬ (0 : Int) ≤ -((k + 1 : Nat) : Int) := by omega
        rw [ratio, if_neg hneg, Int.neg_neg, Int.toNat_natCast, twoTo_eq]
  · -- only the greatest one has another digit, and that is zero
    have hmax : m = 2 ^ 53 := by
      have hpow : 2 ^ 53 ≤ 2 ^ m.log2 := Nat.pow_le_pow_right Nat.two_pos (by omega)
      omega
    subst hmax
    refine ⟨⟨negative, 2 ^ 52, 1⟩, ?_, by simp [ratio, twoTo_eq], rfl⟩
    cases negative <;> decide +kernel

/-- A whole number up to `2 ^ 53` is read as it is. -/
theorem ofInt?_is (hn : n.natAbs ≤ 2 ^ 53) :
    ((ofInt? .double n).getD default).Is n := by
  by_cases hzero : n = 0
  · subst hzero
    exact ⟨by decide +kernel, fun h => absurd rfl h⟩
  · obtain ⟨x, hx, hratio, hnegative⟩ := ofRatio_whole (decide (n < 0)) (by omega) hn
    rw [ofInt?, hx, Option.getD_some]
    exact ⟨hratio, fun _ => hnegative⟩

end Binary

end ControlPlane

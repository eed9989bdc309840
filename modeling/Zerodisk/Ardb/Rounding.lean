import Zerodisk.Ardb.GoFloat
import Mathlib.Data.Rat.Floor
import Mathlib.Algebra.Order.Field.Power
import Mathlib.Tactic.Linarith
import Mathlib.Tactic.Positivity
import Mathlib.Tactic.FieldSimp
import Mathlib.Tactic.Ring
import Mathlib.Tactic.NormNum
import Mathlib.Tactic.GCongr

/-!
# What the float64 operations compute

A `GoFloat` stands for its mantissa times a power of two. Every operation
computes its exact result as a fraction and rounds it with `ofFraction`; this
module bounds what rounding does to a non-negative result `x`: the mantissa has
53 bits, the result is never below a natural of at most 53 bits that lies below
`x`, and never above `x` by more than one part in `2^52`. Integers below `2^53`
convert exactly, and `int64` of a non-negative float below `2^63` is its floor.
The jump hash needs nothing else.
-/

namespace Zerodisk
namespace Ardb

/-! ## Binary length and rounding to an integer -/

theorem bitLengthAux_zero : ∀ fuel, bitLengthAux fuel 0 = 0
  | 0 => rfl
  | _ + 1 => rfl

theorem bitLengthAux_bounds : ∀ (fuel n : Nat), n ≤ fuel →
    n < 2 ^ bitLengthAux fuel n ∧ (0 < n → 2 ^ (bitLengthAux fuel n - 1) ≤ n)
  | 0, n, small => by simp only [bitLengthAux]; omega
  | fuel + 1, n, small => by
    by_cases zero : n = 0
    · subst zero; simp [bitLengthAux]
    obtain ⟨upper, lower⟩ := bitLengthAux_bounds fuel (n / 2) (by omega)
    rw [bitLengthAux, if_neg zero, Nat.add_sub_cancel, Nat.pow_succ]
    refine ⟨by omega, fun _ => ?_⟩
    by_cases one : n / 2 = 0
    · rw [one, bitLengthAux_zero]; simp; omega
    · have := lower (by omega)
      have positive : bitLengthAux fuel (n / 2) ≠ 0 := fun zero => by rw [zero] at upper; simp at upper; omega
      calc 2 ^ bitLengthAux fuel (n / 2) = 2 ^ (bitLengthAux fuel (n / 2) - 1) * 2 := by
            rw [← Nat.pow_succ]; congr 1; omega
        _ ≤ n := by omega

/-- `2 ^ (bitLength n - 1) ≤ n < 2 ^ bitLength n`, as powers of two in `ℚ`. -/
theorem bitLength_bounds {n : Nat} (positive : 0 < n) :
    (n : ℚ) < 2 ^ (bitLength n : Int) ∧ 2 ^ ((bitLength n : Int) - 1) ≤ (n : ℚ) := by
  obtain ⟨upper, lower⟩ := bitLengthAux_bounds n n le_rfl
  have lower := lower positive
  have atLeastOne : 1 ≤ bitLength n := by
    by_contra zero
    simp only [bitLength, Nat.not_le, Nat.lt_one_iff] at zero
    rw [zero] at upper
    omega
  refine ⟨?_, ?_⟩
  · rw [zpow_natCast]; exact_mod_cast upper
  · rw [show (bitLength n : Int) - 1 = ((bitLength n - 1 : Nat) : Int) by omega, zpow_natCast]
    exact_mod_cast lower

theorem roundHalfEven_bounds (num den : Nat) :
    num / den ≤ roundHalfEven num den ∧ roundHalfEven num den ≤ num / den + 1 := by
  dsimp only [roundHalfEven]
  split_ifs <;> omega

theorem roundHalfEven_one (num : Nat) : roundHalfEven num 1 = num := by
  simp [roundHalfEven, Nat.mod_one]

theorem two_zpow_toNat {shift : Int} (nonneg : 0 ≤ shift) : (2 : ℚ) ^ shift.toNat = 2 ^ shift := by
  rw [← zpow_natCast, Int.toNat_of_nonneg nonneg]

theorem scaleFraction_div (num den : Nat) (shift : Int) :
    ((scaleFraction num den shift).1 : ℚ) / (scaleFraction num den shift).2 = num / den / 2 ^ shift := by
  unfold scaleFraction
  split
  · next nonneg =>
    push_cast
    rw [two_zpow_toNat nonneg, div_div]
  · next negative =>
    push_cast
    rw [two_zpow_toNat (by omega), zpow_neg]
    ring

theorem scaleFraction_floor (num den : Nat) (shift : Int) :
    (scaleFraction num den shift).1 / (scaleFraction num den shift).2 = ⌊(num / den : ℚ) / 2 ^ shift⌋₊ := by
  rw [← scaleFraction_div num den shift, Nat.floor_div_eq_div]

theorem two_zpow_pos (e : Int) : (0 : ℚ) < 2 ^ e := zpow_pos two_pos e

theorem two_le_two_zpow {e : Int} (pos : 0 < e) : (2 : ℚ) ≤ 2 ^ e := by
  simpa using zpow_le_zpow_right₀ one_le_two (show (1 : Int) ≤ e by omega)

/-- The first exponent `ofFraction` tries puts `num / den` in `(2^52, 2^54)`. -/
theorem guess_window {num den : Nat} (numPos : 0 < num) (denPos : 0 < den) :
    2 ^ 52 < (num / den : ℚ) / 2 ^ ((bitLength num : Int) - bitLength den - 53) ∧
      (num / den : ℚ) / 2 ^ ((bitLength num : Int) - bitLength den - 53) < 2 ^ 54 := by
  obtain ⟨numBelow, numAbove⟩ := bitLength_bounds numPos
  obtain ⟨denBelow, denAbove⟩ := bitLength_bounds denPos
  have denQ : (0 : ℚ) < den := by exact_mod_cast denPos
  have scale := two_zpow_pos ((bitLength num : Int) - bitLength den - 53)
  rw [div_div, lt_div_iff₀ (mul_pos denQ scale), div_lt_iff₀ (mul_pos denQ scale)]
  constructor
  · calc (2 : ℚ) ^ 52 * (den * 2 ^ ((bitLength num : Int) - bitLength den - 53))
        < 2 ^ 52 * (2 ^ (bitLength den : Int) * 2 ^ ((bitLength num : Int) - bitLength den - 53)) := by
          gcongr
      _ = 2 ^ ((bitLength num : Int) - 1) := by
          rw [← zpow_add₀ two_ne_zero, ← zpow_natCast, ← zpow_add₀ two_ne_zero]; congr 1; push_cast; ring
      _ ≤ num := numAbove
  · calc (num : ℚ) < 2 ^ (bitLength num : Int) := numBelow
      _ = 2 ^ 54 * (2 ^ ((bitLength den : Int) - 1) * 2 ^ ((bitLength num : Int) - bitLength den - 53)) := by
          rw [← zpow_add₀ two_ne_zero, ← zpow_natCast, ← zpow_add₀ two_ne_zero]; congr 1; push_cast; ring
      _ ≤ 2 ^ 54 * (den * 2 ^ ((bitLength num : Int) - bitLength den - 53)) := by
          gcongr

/-- The exponent `ofFraction` picks puts `num / den` in `[2^52, 2^53)`. -/
theorem ofFraction_normal (negative : Bool) {num den : Nat} (numPos : 0 < num) (denPos : 0 < den) :
    2 ^ 52 ≤ (num / den : ℚ) / 2 ^ (GoFloat.ofFraction negative num den).exponent ∧
      (num / den : ℚ) / 2 ^ (GoFloat.ofFraction negative num den).exponent < 2 ^ 53 := by
  obtain ⟨above, below⟩ := guess_window numPos denPos
  simp only [GoFloat.ofFraction, if_neg numPos.ne', scaleFraction_floor]
  split_ifs with big
  · have floorBelow := Nat.floor_le (div_nonneg (div_nonneg (Nat.cast_nonneg num) (Nat.cast_nonneg den))
      (two_zpow_pos ((bitLength num : Int) - bitLength den - 53)).le)
    have big' : (2 : ℚ) ^ 53 ≤ ⌊(num / den : ℚ) / 2 ^ ((bitLength num : Int) - bitLength den - 53)⌋₊ := by
      exact_mod_cast big
    rw [zpow_add₀ two_ne_zero, zpow_one, ← div_div, le_div_iff₀ two_pos, div_lt_iff₀ two_pos]
    exact ⟨(by norm_num : (2 : ℚ) ^ 52 * 2 = 2 ^ 53).trans_le (big'.trans floorBelow),
      below.trans_eq (by norm_num)⟩
  · refine ⟨above.le, ?_⟩
    have := (Nat.floor_lt (div_nonneg (div_nonneg (Nat.cast_nonneg num) (Nat.cast_nonneg den))
      (two_zpow_pos _).le)).mp (Nat.lt_of_not_le big)
    exact_mod_cast this

namespace GoFloat

/-- The rational number a float stands for. -/
def value (f : GoFloat) : ℚ := (if f.negative then -(f.mantissa : ℚ) else f.mantissa) * 2 ^ f.exponent

theorem value_of_nonneg {f : GoFloat} (nonneg : f.negative = false) : f.value = f.mantissa * 2 ^ f.exponent := by
  simp [value, nonneg]

@[simp] theorem ofFraction_negative (negative : Bool) (num den : Nat) :
    (ofFraction negative num den).negative = negative := by
  unfold ofFraction
  split <;> rfl

theorem ofFraction_mantissa (negative : Bool) {num den : Nat} (nonzero : num ≠ 0) :
    (ofFraction negative num den).mantissa =
      roundHalfEven (scaleFraction num den (ofFraction negative num den).exponent).1
        (scaleFraction num den (ofFraction negative num den).exponent).2 := by
  unfold ofFraction
  simp only [if_neg nonzero]

theorem ofFraction_zero (negative : Bool) (den : Nat) : ofFraction negative 0 den = ⟨negative, 0, 0⟩ := rfl

/-- The mantissa is the scaled fraction rounded: its floor, or one more. -/
theorem ofFraction_mantissa_bounds (negative : Bool) {num den : Nat} (nonzero : num ≠ 0) :
    ⌊(num / den : ℚ) / 2 ^ (ofFraction negative num den).exponent⌋₊ ≤ (ofFraction negative num den).mantissa ∧
      (ofFraction negative num den).mantissa ≤ ⌊(num / den : ℚ) / 2 ^ (ofFraction negative num den).exponent⌋₊ + 1 := by
  rw [ofFraction_mantissa negative nonzero, ← scaleFraction_floor]
  exact roundHalfEven_bounds _ _

/-- Rounding never goes below a natural of at most 53 bits below the exact value. -/
theorem ofFraction_value_ge {num den : Nat} (denPos : 0 < den) {v : Nat} (small : v ≤ 2 ^ 53)
    (below : (v : ℚ) ≤ num / den) : (v : ℚ) ≤ (ofFraction false num den).value := by
  by_cases zero : num = 0
  · subst zero
    simp only [Nat.cast_zero, zero_div] at below
    simp [ofFraction_zero, value, below]
  set e := (ofFraction false num den).exponent
  obtain ⟨normalLow, _⟩ := ofFraction_normal false (Nat.pos_of_ne_zero zero) denPos
  obtain ⟨floorLow, _⟩ := ofFraction_mantissa_bounds false zero
  rw [value_of_nonneg (ofFraction_negative false num den)]
  have scaleEq : (num / den : ℚ) / 2 ^ e = num / den * 2 ^ (-e) := by rw [zpow_neg, div_eq_mul_inv]
  rcases le_or_lt e 0 with nonpos | pos
  · have scaled : ((v * 2 ^ (-e).toNat : Nat) : ℚ) ≤ (num / den : ℚ) / 2 ^ e := by
      push_cast
      rw [two_zpow_toNat (by omega), scaleEq]
      exact mul_le_mul_of_nonneg_right below (two_zpow_pos _).le
    have := (Nat.le_floor scaled).trans floorLow
    have cast : (v : ℚ) * 2 ^ (-e) ≤ (ofFraction false num den).mantissa := by
      rw [← two_zpow_toNat (by omega)]; exact_mod_cast this
    calc (v : ℚ) = v * 2 ^ (-e) * 2 ^ e := by
          rw [mul_assoc, ← zpow_add₀ two_ne_zero, neg_add_cancel, zpow_zero, mul_one]
      _ ≤ (ofFraction false num den).mantissa * 2 ^ e := by gcongr
  · have twoLe := two_le_two_zpow pos
    have mantissaLow : (2 : ℚ) ^ 52 ≤ (ofFraction false num den).mantissa := by
      have := (Nat.le_floor (by exact_mod_cast normalLow : ((2 ^ 52 : Nat) : ℚ) ≤ _)).trans floorLow
      exact_mod_cast this
    calc (v : ℚ) ≤ 2 ^ 52 * 2 := by norm_num; exact_mod_cast small
      _ ≤ (ofFraction false num den).mantissa * 2 ^ e := by gcongr

/-- Rounding never goes above the exact value by more than one part in `2^52`. -/
theorem ofFraction_value_le {num den : Nat} (denPos : 0 < den) :
    (ofFraction false num den).value ≤ num / den + num / den / 2 ^ 52 := by
  by_cases zero : num = 0
  · subst zero
    simp [ofFraction_zero, value]
  set e := (ofFraction false num den).exponent
  obtain ⟨normalLow, _⟩ := ofFraction_normal false (Nat.pos_of_ne_zero zero) denPos
  obtain ⟨_, floorHigh⟩ := ofFraction_mantissa_bounds false zero
  rw [value_of_nonneg (ofFraction_negative false num den)]
  have nonneg : (0 : ℚ) ≤ (num / den : ℚ) / 2 ^ e := by positivity
  have mantissaHigh : ((ofFraction false num den).mantissa : ℚ) ≤
      (num / den : ℚ) / 2 ^ e + (num / den : ℚ) / 2 ^ e / 2 ^ 52 := by
    have floorLe := Nat.floor_le nonneg
    have oneLe : (1 : ℚ) ≤ (num / den : ℚ) / 2 ^ e / 2 ^ 52 := by
      rw [le_div_iff₀ (by positivity), one_mul]; exact normalLow
    have : ((ofFraction false num den).mantissa : ℚ) ≤ ⌊(num / den : ℚ) / 2 ^ e⌋₊ + 1 := by
      exact_mod_cast floorHigh
    exact this.trans (add_le_add floorLe oneLe)
  calc ((ofFraction false num den).mantissa : ℚ) * 2 ^ e
      ≤ ((num / den : ℚ) / 2 ^ e + (num / den : ℚ) / 2 ^ e / 2 ^ 52) * 2 ^ e := by gcongr
    _ = num / den + num / den / 2 ^ 52 := by
      rw [add_mul, div_right_comm _ (2 ^ e), div_mul_cancel₀ _ (two_zpow_pos e).ne',
        div_mul_cancel₀ _ (two_zpow_pos e).ne']

/-- A positive integer below `2^53` converts exactly. -/
theorem ofInt_exact {n : Nat} (positive : 0 < n) (small : n < 2 ^ 53) :
    (ofInt n).negative = false ∧ (ofInt n).value = n := by
  have convert : ofInt n = ofFraction false n 1 := by
    rw [ofInt, Int.natAbs_ofNat, decide_eq_false (by omega)]
  rw [convert]
  refine ⟨ofFraction_negative _ _ _, ?_⟩
  set e := (ofFraction false n 1).exponent
  obtain ⟨normalLow, _⟩ := ofFraction_normal false positive Nat.one_pos
  have nonpos : e ≤ 0 := by
    by_contra pos
    have twoLe := two_le_two_zpow (not_le.mp pos)
    have : (n : ℚ) / 1 / 2 ^ e ≤ n / 2 := by
      rw [div_one]; exact div_le_div_of_nonneg_left (Nat.cast_nonneg n) two_pos twoLe
    have : (n : ℚ) < 2 ^ 53 := by exact_mod_cast small
    linarith
  have unitDen : (scaleFraction n 1 e).2 = 1 := by
    unfold scaleFraction
    split
    · simp [show e.toNat = 0 by omega]
    · rfl
  have exact := scaleFraction_div n 1 e
  rw [unitDen, Nat.cast_one, div_one, div_one] at exact
  rw [value_of_nonneg (ofFraction_negative _ _ _), ofFraction_mantissa false positive.ne', unitDen,
    roundHalfEven_one, exact, div_mul_cancel₀ _ (two_zpow_pos e).ne']

/-- The exact product `mul` rounds. -/
theorem mul_exact (a b : GoFloat) :
    ((scaleFraction (a.mantissa * b.mantissa) 1 (-(a.exponent + b.exponent))).1 : ℚ) /
        (scaleFraction (a.mantissa * b.mantissa) 1 (-(a.exponent + b.exponent))).2 =
      a.mantissa * 2 ^ a.exponent * (b.mantissa * 2 ^ b.exponent) := by
  rw [scaleFraction_div, Nat.cast_one, div_one, zpow_neg, div_inv_eq_mul, zpow_add₀ two_ne_zero]
  push_cast
  ring

/-- The exact quotient `div` rounds. -/
theorem div_exact (a b : GoFloat) :
    ((scaleFraction a.mantissa b.mantissa (b.exponent - a.exponent)).1 : ℚ) /
        (scaleFraction a.mantissa b.mantissa (b.exponent - a.exponent)).2 =
      a.mantissa * 2 ^ a.exponent / (b.mantissa * 2 ^ b.exponent) := by
  rw [scaleFraction_div, zpow_sub₀ two_ne_zero, div_div_div_eq]

theorem scaleFraction_snd_pos (num : Nat) {den : Nat} (shift : Int) (positive : 0 < den) :
    0 < (scaleFraction num den shift).2 := by
  unfold scaleFraction
  split <;> positivity

/-- `int64` of a non-negative float below `2^63` is its floor. -/
theorem toInt64_of_nonneg {f : GoFloat} (nonneg : f.negative = false) (small : f.value < 2 ^ 63) :
    f.toInt64 = ⌊f.value⌋₊ := by
  have floorEq : (scaleFraction f.mantissa 1 (-f.exponent)).1 / (scaleFraction f.mantissa 1 (-f.exponent)).2 =
      ⌊f.value⌋₊ := by
    rw [scaleFraction_floor, value_of_nonneg nonneg, Nat.cast_one, div_one, zpow_neg, div_inv_eq_mul]
  have floorSmall : ⌊f.value⌋₊ < 2 ^ 63 := by
    rw [Nat.floor_lt (by rw [value_of_nonneg nonneg]; positivity)]
    exact_mod_cast small
  unfold toInt64
  simp only [nonneg, Bool.false_eq_true, if_false]
  rw [← Int.ofNat_ediv, floorEq, if_pos ⟨by omega, by omega⟩]

/-- A product of non-negative floats lies between every natural of at most 53
bits below the exact product and one part in `2^52` above it. -/
theorem mul_bounds {a b : GoFloat} (aNonneg : a.negative = false) (bNonneg : b.negative = false)
    {v : Nat} (small : v ≤ 2 ^ 53) (below : (v : ℚ) ≤ a.value * b.value) :
    (mul a b).negative = false ∧ (v : ℚ) ≤ (mul a b).value ∧
      (mul a b).value ≤ a.value * b.value + a.value * b.value / 2 ^ 52 := by
  have exact := mul_exact a b
  rw [← value_of_nonneg aNonneg, ← value_of_nonneg bNonneg] at exact
  have unsigned : (a.negative != b.negative) = false := by rw [aNonneg, bNonneg]; rfl
  have denPos := scaleFraction_snd_pos (a.mantissa * b.mantissa) (-(a.exponent + b.exponent)) Nat.one_pos
  unfold mul
  simp only [unsigned]
  refine ⟨ofFraction_negative _ _ _, ofFraction_value_ge denPos small (exact ▸ below), ?_⟩
  rw [← exact]
  exact ofFraction_value_le denPos

/-- A quotient of non-negative floats, by a nonzero one, lies between every
natural of at most 53 bits below the exact quotient and one part in `2^52`
above it. -/
theorem div_bounds {a b : GoFloat} (aNonneg : a.negative = false) (bNonneg : b.negative = false)
    (bNonzero : 0 < b.mantissa) {v : Nat} (small : v ≤ 2 ^ 53) (below : (v : ℚ) ≤ a.value / b.value) :
    (div a b).negative = false ∧ (v : ℚ) ≤ (div a b).value ∧
      (div a b).value ≤ a.value / b.value + a.value / b.value / 2 ^ 52 := by
  have exact := div_exact a b
  rw [← value_of_nonneg aNonneg, ← value_of_nonneg bNonneg] at exact
  have unsigned : (a.negative != b.negative) = false := by rw [aNonneg, bNonneg]; rfl
  have denPos := scaleFraction_snd_pos a.mantissa (b.exponent - a.exponent) bNonzero
  unfold div
  simp only [unsigned]
  refine ⟨ofFraction_negative _ _ _, ofFraction_value_ge denPos small (exact ▸ below), ?_⟩
  rw [← exact]
  exact ofFraction_value_le denPos

/-- A float with a positive value has a positive mantissa. -/
theorem mantissa_pos_of_value_pos {f : GoFloat} (nonneg : f.negative = false) (positive : 0 < f.value) :
    0 < f.mantissa := by
  rw [value_of_nonneg nonneg] at positive
  by_contra zero
  simp only [Nat.not_lt, Nat.le_zero] at zero
  simp [zero] at positive

end GoFloat

end Ardb
end Zerodisk

import Mathlib.Algebra.Group.Nat.Defs
import EntityGate.Number.Binary64

/-!
# Integers among doubles

An integer is never rounded to something that is not a number, and the positive integers up to
`2 ^ 53` are doubles themselves: see `Binary64.rounded_magnitude_of_lt` for their words. So no
smaller integer is rounded to the same double: see `Binary64.order_key_lt`.
-/

namespace EntityGate.Binary64

/-! ## Words -/

theorem to_nat_bits (isNegative : Bool) (magnitude : Nat) :
    (ofMagnitude isNegative magnitude).bits.toNat =
      (if isNegative then 2 ^ 63 else 0) + magnitude % 2 ^ 63 := by
  have hlt := Nat.mod_lt magnitude (y := 2 ^ 63) (by decide)
  unfold ofMagnitude
  rw [UInt64.toNat_ofNat']
  refine Nat.mod_eq_of_lt ?_
  cases isNegative with
  | false => simp only [Bool.false_eq_true, if_false]; omega
  | true => simp only [if_true]; omega

theorem magnitude_of_magnitude (isNegative : Bool) {magnitude : Nat} (h : magnitude < 2 ^ 63) :
    (ofMagnitude isNegative magnitude).magnitude = magnitude := by
  rw [Binary64.magnitude, to_nat_bits]
  cases isNegative with
  | false => simp only [Bool.false_eq_true, if_false]; omega
  | true => simp only [if_true]; omega

theorem negative_of_magnitude (isNegative : Bool) (magnitude : Nat) :
    (ofMagnitude isNegative magnitude).negative = isNegative := by
  have hlt := Nat.mod_lt magnitude (y := 2 ^ 63) (by decide)
  rw [negative, to_nat_bits]
  cases isNegative with
  | false => simp only [Bool.false_eq_true, if_false, decide_eq_false_iff_not]; omega
  | true => simp only [if_true, decide_eq_true_eq]; omega

theorem rounded_magnitude_le (numerator denominator : Nat) :
    roundedMagnitude numerator denominator ≤ infiniteMagnitude := by
  unfold roundedMagnitude
  split
  · exact Nat.zero_le _
  · exact Nat.min_le_right _ _

theorem magnitude_of_int (value : Int) :
    (ofInt value).magnitude = roundedMagnitude value.natAbs 1 := by
  have hle := rounded_magnitude_le value.natAbs 1
  have hinfinite : infiniteMagnitude < 2 ^ 63 := by decide
  exact magnitude_of_magnitude _ (by omega)

@[simp] theorem is_nan_of_int (value : Int) : (ofInt value).isNaN = false := by
  have hle := rounded_magnitude_le value.natAbs 1
  rw [isNaN, magnitude_of_int, decide_eq_false_iff_not]
  omega

theorem order_key_of_int (value : Int) : (ofInt value).orderKey =
    if value < 0 then -(roundedMagnitude value.natAbs 1 : Int)
    else roundedMagnitude value.natAbs 1 := by
  have hnegative : (ofInt value).negative = decide (value < 0) := negative_of_magnitude _ _
  rw [orderKey, magnitude_of_int, hnegative]
  simp only [decide_eq_true_eq]

theorem compare_of_int (value other : Int) :
    (ofInt value).compare? (ofInt other) =
      some (compare (ofInt value).orderKey (ofInt other).orderKey) := by
  simp [compare?]

/-! ## Small integers -/

theorem round_quotient_one (numerator : Nat) : roundQuotient numerator 1 = numerator := by
  simp [roundQuotient, Nat.mod_one]

theorem unit_exponent_of_nat {number : Nat} (hpos : number ≠ 0) (hlt : number < 2 ^ 53) :
    unitExponent number 1 = (number.log2 : Int) - 52 := by
  have hreached : 2 ^ number.log2 ≤ number := Nat.log2_self_le hpos
  have hlog : number.log2 < 53 := (Nat.log2_lt hpos).mpr hlt
  have hone : Nat.log2 1 = 0 := by decide
  have hsign : ¬ ((number.log2 : Int) < 0) := by omega
  have hreached' : 1 * Nat.pow 2 ((number.log2 : Int)).natAbs ≤ number := by
    simpa using hreached
  unfold unitExponent
  simp only [hone, Int.natCast_zero, Int.sub_zero, if_neg hsign, decide_eq_true hreached', if_pos]
  omega

/-- A number moved to the left until it fills a significand. -/
theorem significand_bounds {number : Nat} (hpos : number ≠ 0) (hlt : number < 2 ^ 53) :
    2 ^ 52 ≤ number * 2 ^ (52 - number.log2) ∧ number * 2 ^ (52 - number.log2) < 2 ^ 53 := by
  have hlog : number.log2 < 53 := (Nat.log2_lt hpos).mpr hlt
  constructor
  · calc 2 ^ 52 = 2 ^ number.log2 * 2 ^ (52 - number.log2) := by
          rw [← Nat.pow_add]
          congr 1
          omega
      _ ≤ number * 2 ^ (52 - number.log2) := Nat.mul_le_mul_right _ (Nat.log2_self_le hpos)
  · calc number * 2 ^ (52 - number.log2)
        < 2 ^ (number.log2 + 1) * 2 ^ (52 - number.log2) :=
          Nat.mul_lt_mul_of_pos_right Nat.lt_log2_self (Nat.two_pow_pos _)
      _ = 2 ^ 53 := by
          rw [← Nat.pow_add]
          congr 1
          omega

/-- The significand of a number that fits into one is the number, moved to the left. -/
theorem rounded_magnitude_of_lt {number : Nat} (hpos : number ≠ 0) (hlt : number < 2 ^ 53) :
    roundedMagnitude number 1 =
      (number.log2 + 1022) * 2 ^ 52 + number * 2 ^ (52 - number.log2) := by
  have hlog : number.log2 < 53 := (Nat.log2_lt hpos).mpr hlt
  have hbound := (significand_bounds hpos hlt).2
  have hsignificand :
      (if (number.log2 : Int) - 52 < 0 then
          roundQuotient (number * Nat.pow 2 ((number.log2 : Int) - 52).natAbs) 1
        else roundQuotient number (1 * Nat.pow 2 ((number.log2 : Int) - 52).natAbs)) =
        number * 2 ^ (52 - number.log2) := by
    split
    · next hsign =>
      rw [round_quotient_one]
      have habs : ((number.log2 : Int) - 52).natAbs = 52 - number.log2 := by omega
      rw [habs]
      rfl
    · next hsign =>
      have habs : ((number.log2 : Int) - 52).natAbs = 0 := by omega
      have hnone : 52 - number.log2 = 0 := by omega
      rw [habs, hnone]
      exact (round_quotient_one number).trans (Nat.mul_one number).symm
  have hplace : ((number.log2 : Int) - 52 + 1074).toNat = number.log2 + 1022 := by omega
  have hfinite : (number.log2 + 1022) * 2 ^ 52 + number * 2 ^ (52 - number.log2) ≤
      infiniteMagnitude := by
    have hinfinite : infiniteMagnitude = 2047 * 2 ^ 52 := by decide
    omega
  unfold roundedMagnitude
  rw [if_neg hpos]
  simp only [unit_exponent_of_nat hpos hlt, hsignificand, hplace]
  exact Nat.min_eq_left hfinite

/-- Natural numbers that are doubles have words in their order. -/
theorem rounded_magnitude_lt {number other : Nat} (hlt : number < other) (hle : other ≤ 2 ^ 53) :
    roundedMagnitude number 1 < roundedMagnitude other 1 := by
  have hlast : roundedMagnitude (2 ^ 53) 1 = 1076 * 2 ^ 52 := by decide
  have hother : other ≠ 0 := by omega
  by_cases hzero : number = 0
  · rw [hzero]
    show 0 < _
    by_cases hedge : other = 2 ^ 53
    · rw [hedge, hlast]
      decide
    · rw [rounded_magnitude_of_lt hother (by omega)]
      omega
  · have hbound := (significand_bounds hzero (by omega)).2
    have hlog : number.log2 < 53 := (Nat.log2_lt hzero).mpr (by omega)
    rw [rounded_magnitude_of_lt hzero (by omega)]
    by_cases hedge : other = 2 ^ 53
    · rw [hedge, hlast]
      omega
    · have hbound' := (significand_bounds hother (by omega)).1
      rw [rounded_magnitude_of_lt hother (by omega)]
      -- The larger number has more bits, or as many and a larger significand.
      have hmono : number.log2 ≤ other.log2 :=
        (Nat.le_log2 hother).mpr (Nat.le_trans (Nat.log2_self_le hzero) (Nat.le_of_lt hlt))
      rcases Nat.lt_or_eq_of_le hmono with hbits | hbits
      · omega
      · rw [hbits]
        have hmoved := Nat.mul_lt_mul_of_pos_right hlt (Nat.two_pow_pos (52 - other.log2))
        omega

/-- A smaller integer is rounded to a smaller double than a positive integer that is a double. -/
theorem order_key_lt {value other : Int} (hlt : value < other) (hpos : 0 < other)
    (hle : other ≤ 2 ^ 53) : (ofInt value).orderKey < (ofInt other).orderKey := by
  rw [order_key_of_int, order_key_of_int, if_neg (by omega : ¬ other < 0)]
  split
  · have hword := rounded_magnitude_lt (by omega : 0 < other.natAbs) (by omega)
    omega
  · have hword := rounded_magnitude_lt (by omega : value.natAbs < other.natAbs) (by omega)
    omega

/-- No smaller integer is rounded to the same double. -/
theorem compare_of_int_lt {value other : Int} (hlt : value < other) (hpos : 0 < other)
    (hle : other ≤ 2 ^ 53) : (ofInt value).compare? (ofInt other) = some .lt := by
  rw [compare_of_int, Int.compare_eq_lt.mpr (order_key_lt hlt hpos hle)]

end EntityGate.Binary64

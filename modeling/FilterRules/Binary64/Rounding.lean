/-
  FilterRules — rounding to binary64.

  A quotient of two naturals is rounded to the nearest binary64 number, a tie
  going to the even fraction.

  * `halfEven` rounds a quotient to a natural;
  * `floorLog2` is the binary order of magnitude of a quotient;
  * `roundMagnitude` gives the magnitude of the nearest number: the quotient
    is scaled so that its integer part has 53 bits (fewer near zero, where the
    exponent cannot fall below `-1074`) and rounded there.  A carry out of the
    fraction moves into the exponent, as the words of one sign are consecutive;
  * `ofInt` rounds an integer;
  * `mul` and `div` are the product and the quotient of finite numbers, each
    rounded once.
-/
import FilterRules.Binary64.Basic

namespace FilterRules.Binary64

/-- The quotient rounded to the nearest natural, a tie to the even one. -/
def halfEven (num den : Nat) : Nat :=
  let q := num / den
  let r := num % den
  if 2 * r < den then q
  else if den < 2 * r then q + 1
  else if q % 2 = 0 then q else q + 1

/-- The largest `k` with `2 ^ k ≤ num / den`, for positive `num` and `den`. -/
def floorLog2 (num den : Nat) : Int :=
  let k : Int := (num.log2 : Int) - (den.log2 : Int)
  let reached : Bool :=
    if 0 ≤ k then decide (den <<< k.toNat ≤ num) else decide (den ≤ num <<< (-k).toNat)
  if reached then k else k - 1

/-- The exponent of the last bit that a number of the size of the quotient can
    hold. -/
def ulpExponent (num den : Nat) : Int := max (floorLog2 num den - 52) (-1074)

/-- The magnitude of the binary64 number nearest to a positive quotient.  Past
    the largest finite number it reaches or passes the infinity. -/
def roundMagnitude (num den : Nat) : Nat :=
  let e := ulpExponent num den
  let m := if 0 ≤ e then halfEven num (den <<< e.toNat) else halfEven (num <<< (-e).toNat) den
  ((e + 1074).toNat <<< 52) + m

/-- The binary64 number nearest to a natural below the range's end. -/
def ofNat (negative : Bool) (n : Nat) : Binary64 :=
  if n = 0 then ofMagnitude negative 0 else ofMagnitude negative (roundMagnitude n 1)

/-- The binary64 number nearest to an integer. -/
def ofInt (n : Int) : Binary64 := ofNat (decide (n < 0)) n.natAbs

/-! ## Arithmetic -/

/-- The magnitude nearest to `num / den * 2 ^ exponent`, an infinity past the range. -/
def roundScaled (num den : Nat) (exponent : Int) : Nat :=
  if num = 0 then 0
  else min infinityMagnitude
    (if 0 ≤ exponent then roundMagnitude (num <<< exponent.toNat) den
      else roundMagnitude num (den <<< (-exponent).toNat))

/-- The product of two finite numbers. -/
def mul (x y : Binary64) : Binary64 :=
  ofMagnitude (x.isNegative != y.isNegative)
    (roundScaled (x.significand * y.significand) 1 (x.exponent + y.exponent))

/-- The quotient of two finite numbers, of which the second is not zero. -/
def div (x y : Binary64) : Binary64 :=
  ofMagnitude (x.isNegative != y.isNegative)
    (roundScaled x.significand y.significand (x.exponent - y.exponent))

end FilterRules.Binary64

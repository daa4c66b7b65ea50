/-
  FilterRules — the binary64 numbers of decimals.

  A decimal is `digits * 10 ^ exponent`.  Two numbers belong to it:

  * `decimalMagnitude` is the magnitude of the nearest number; there is none when
    that number would be infinite.  A decimal whose exponent puts it far outside
    the range is settled without writing the power of ten out: `digits` is below
    `2 ^ (log2 digits + 1)`, so below `10 ^ -(log2 digits + 400)` the value is
    under `10 ^ -399`;
  * `ofParts` is the number that the decimal is read as: `digits` is rounded and
    then multiplied or divided by the rounded power of ten (`scale`).  Each step
    rounds, so that this need not be the nearest number.
-/
import FilterRules.Binary64.Rounding

namespace FilterRules.Binary64

/-! ## The nearest number -/

/-- The value `num / den` of `digits * 10 ^ exponent`. -/
def decimalRatio (digits : Nat) (exponent : Int) : Nat × Nat :=
  if 0 ≤ exponent then (digits * Nat.pow 10 exponent.toNat, 1)
  else (digits, Nat.pow 10 (-exponent).toNat)

/-- The magnitude nearest to `digits * 10 ^ exponent`, if it is finite. -/
def decimalMagnitude (digits : Nat) (exponent : Int) : Option Nat :=
  if digits = 0 then some 0
  else if 400 < exponent then none
  else if exponent < -(400 + (digits.log2 : Int)) then some 0
  else
    let m := roundMagnitude (decimalRatio digits exponent).1 (decimalRatio digits exponent).2
    if m < infinityMagnitude then some m else none

/-! ## The number that is read -/

/-- The positive infinity. -/
def infinity : Binary64 := ofMagnitude false infinityMagnitude

/-- The exponent of the greatest power of ten that is a finite number. -/
def greatestPower : Nat := 308

/-- The number nearest to a power of ten. -/
def powerOfTen (exponent : Nat) : Binary64 := ofNat false (Nat.pow 10 exponent)

/-- Divides by the greatest power of ten, `times` times, and then by `10 ^ last`;
    a zero is left as it is. -/
def scaleDown (last : Nat) : (times : Nat) → Binary64 → Binary64
  | 0, x => x.div (powerOfTen last)
  | times + 1, x =>
    if x.isZero then x else scaleDown last times (x.div (powerOfTen greatestPower))

/-- Multiplies or divides by a power of ten. -/
def scale (x : Binary64) (exponent : Int) : Binary64 :=
  if exponent < 0 then
    let times := ((-exponent).toNat - 1) / greatestPower
    scaleDown ((-exponent).toNat - greatestPower * times) times x
  else if exponent ≤ greatestPower then x.mul (powerOfTen exponent.toNat)
  else if x.isZero then x
  else infinity

/-- The number that a signed decimal is read as; it is infinite past the range. -/
def ofParts (negative : Bool) (digits : Nat) (exponent : Int) : Binary64 :=
  (ofNat negative digits).scale exponent

end FilterRules.Binary64

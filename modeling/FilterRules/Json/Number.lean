/-
  FilterRules — the numbers of JSON.

  A number is an integer that fits 64 bits, signed or unsigned, or a finite
  binary64 number; the bounds are part of the type.  An integer and a float are
  different numbers even where they stand for the same value: `1` is written
  back as `1` and `1.0` as `1.0`.

  * `ofInt?` and `ofFloat?` check the bounds;
  * `ofDigits?` is the integer of a literal, and `ofParts?` the float that a decimal
    is read as;
  * `render` writes a number.
-/
import FilterRules.Decimal.Notation

namespace FilterRules.Json

/-- A JSON number. -/
inductive Number where
  /-- An integer between the least signed and the largest unsigned 64-bit one. -/
  | integer (n : Int) (fits : -0x8000000000000000 ≤ n ∧ n < 0x10000000000000000)
  /-- A finite binary64 number. -/
  | float (x : Binary64) (finite : x.isFinite = true)
  deriving DecidableEq

namespace Number

/-- The number of an integer that fits. -/
def ofInt? (n : Int) : Option Number :=
  if h : -0x8000000000000000 ≤ n ∧ n < 0x10000000000000000 then some (.integer n h) else none

/-- The number of a finite float. -/
def ofFloat? (x : Binary64) : Option Number :=
  if h : x.isFinite = true then some (.float x h) else none

/-- The float that `digits * 10 ^ exponent` is read as, if it is finite. -/
def ofParts? (negative : Bool) (digits : Nat) (exponent : Int) : Option Number :=
  ofFloat? (Binary64.ofParts negative digits exponent)

/-- The integer of a literal without point and exponent, if one fits; `-0` is none,
    since no integer keeps its sign. -/
def ofDigits? (negative : Bool) (digits : Nat) : Option Number :=
  if negative then if digits = 0 then none else ofInt? (-(digits : Int))
  else ofInt? digits

/-- The text of an integer in decimal. -/
def renderInt (n : Int) : List Char :=
  if n < 0 then '-' :: Nat.toDigits 10 n.natAbs else Nat.toDigits 10 n.natAbs

/-- The text of a number. -/
def render : Number → List Char
  | .integer n _ => renderInt n
  | .float x _ => Decimal.render Decimal.Style.json x

end Number

end FilterRules.Json

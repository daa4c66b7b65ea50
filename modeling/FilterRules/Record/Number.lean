/-
  FilterRules — the numbers of records.

  A number of a record is a signed or an unsigned 64-bit integer or a binary64
  number.  Integers are compared exactly, whatever their kind; where a float takes
  part, both sides are compared as floats.

  * `Number.compare` is that order, which says nothing about a NaN, and
    `Number.compareSigned` the order of a signed and an unsigned integer;
  * `Number.same` is equality of kind and value;
  * `Number.ofJson` is the number of a JSON number, unsigned where it can be.
-/
import FilterRules.Json.Number

namespace FilterRules

/-- A number of a record. -/
inductive Number where
  | signed (n : Int64)
  | unsigned (n : UInt64)
  | float (x : Binary64)
  deriving DecidableEq, Repr

namespace Number

/-- The number of a JSON number: unsigned, else signed, else a float. -/
def ofJson : Json.Number → Number
  | .integer n _ => if 0 ≤ n then .unsigned (UInt64.ofNat n.toNat) else .signed (Int64.ofInt n)
  | .float x _ => .float x

/-- The float nearest to a number. -/
def toFloat : Number → Binary64
  | .signed n => Binary64.ofInt n.toInt
  | .unsigned n => Binary64.ofInt (n.toNat : Int)
  | .float x => x

/-- The order of a signed and an unsigned integer: what is negative stands before all that is
    unsigned, and what is not is the unsigned integer of the same bits. -/
def compareSigned (m : Int64) (n : UInt64) : Ordering :=
  if m < 0 then .lt else Ord.compare m.toUInt64 n

/-- The order of two numbers. -/
def compare : (a b : Number) → Option Ordering
  | .signed m, .signed n => some (Ord.compare m n)
  | .unsigned m, .unsigned n => some (Ord.compare m n)
  | .signed m, .unsigned n => some (compareSigned m n)
  | .unsigned m, .signed n => some (compareSigned n m).swap
  | a, b => a.toFloat.compare b.toFloat

/-- Whether two numbers are of one kind and equal. -/
def same : Number → Number → Bool
  | .signed m, .signed n => m == n
  | .unsigned m, .unsigned n => m == n
  | .float x, .float y => x.equal y
  | _, _ => false

/-- Whether one number stands before another. -/
def isLess (a b : Number) : Bool := a.compare b == some .lt

/-- Whether one number stands before another or level with it. -/
def isLessOrEqual (a b : Number) : Bool := a.compare b == some .lt || a.compare b == some .eq

end Number

end FilterRules

/-
  FilterRules — the binary64 numbers, as their 64-bit words.

  A word is a sign bit, eleven exponent bits and 52 fraction bits.  Nothing
  here runs the machine's floating point: every test and every order is
  arithmetic on the word, so that a statement about numbers is a statement
  about `Nat` and `Int`.

  * `magnitude` is the word without its sign; `isNaN` and `isFinite` are bounds
    on it, since the words of one sign are ordered as the numbers they stand for;
  * `ofMagnitude` puts a sign to a magnitude, and gives back both
    (`magnitude_ofMagnitude`, `isNegative_ofMagnitude`);
  * `rank` is the place of a number on the line, as an integer (both zeros at
    `0`), and `compare` orders by rank, saying nothing about a NaN;
  * `significand` and `exponent` give the value `significand * 2 ^ exponent` of
    a finite magnitude.
-/

namespace FilterRules

/-- A binary64 number, given by its word. -/
structure Binary64 where
  /-- The word: sign, exponent, fraction, from the highest bit down. -/
  bits : UInt64
  deriving DecidableEq, Repr

namespace Binary64

/-! ## The parts of a word -/

/-- The word of the positive infinity: all exponent bits set, no fraction. -/
def infinityMagnitude : Nat := 0x7ff0000000000000

/-- The word without its sign bit. -/
def magnitude (x : Binary64) : Nat := x.bits.toNat % 0x8000000000000000

/-- Whether the sign bit is set. -/
def isNegative (x : Binary64) : Bool := decide (0x8000000000000000 ≤ x.bits.toNat)

/-- The words above an infinity are no numbers. -/
def isNaN (x : Binary64) : Bool := decide (infinityMagnitude < x.magnitude)

/-- The words below an infinity are the finite numbers. -/
def isFinite (x : Binary64) : Bool := decide (x.magnitude < infinityMagnitude)

/-- Both words of zero. -/
def isZero (x : Binary64) : Bool := x.magnitude == 0

/-- The word with the given sign and magnitude. -/
def ofMagnitude (negative : Bool) (magnitude : Nat) : Binary64 :=
  ⟨UInt64.ofNat (if negative then 0x8000000000000000 + magnitude else magnitude)⟩

theorem magnitude_ofMagnitude {m : Nat} (negative : Bool) (h : m < 0x8000000000000000) :
    (ofMagnitude negative m).magnitude = m := by
  simp only [ofMagnitude, magnitude]
  cases negative <;> simp <;> omega

theorem isNegative_ofMagnitude {m : Nat} (negative : Bool) (h : m < 0x8000000000000000) :
    (ofMagnitude negative m).isNegative = negative := by
  simp only [ofMagnitude, isNegative]
  cases negative <;> simp <;> omega

/-- The integer `m` of the value `m * 2 ^ e`: the fraction, with the leading
    one that all but the smallest magnitudes leave out. -/
def significand (x : Binary64) : Nat :=
  if x.magnitude < 0x10000000000000 then x.magnitude
  else 0x10000000000000 + x.magnitude % 0x10000000000000

/-- The exponent `e` of the value `m * 2 ^ e`. -/
def exponent (x : Binary64) : Int :=
  if x.magnitude < 0x10000000000000 then -1074
  else (x.magnitude / 0x10000000000000 : Nat) - 1075

/-! ## Order -/

/-- The place on the line: the magnitude with its sign, so that both zeros
    stand at `0`. -/
def rank (x : Binary64) : Int :=
  if x.isNegative then -(x.magnitude : Int) else x.magnitude

/-- The order of two numbers; a NaN stands in no order to anything. -/
def compare (x y : Binary64) : Option Ordering :=
  if x.isNaN || y.isNaN then none else some (Ord.compare x.rank y.rank)

/-- Equality of numbers: both zeros are equal, a NaN equals nothing. -/
def equal (x y : Binary64) : Bool := x.compare y == some .eq

/-- The word in 16 hexadecimal digits, lower case. -/
def toHex (x : Binary64) : String :=
  let digits := (Nat.toDigits 16 x.bits.toNat).map Char.toLower
  String.ofList (List.replicate (16 - digits.length) '0' ++ digits)

end Binary64

end FilterRules

/-
  FilterRules — scanning a JSON text: numbers.

  A number is read by the grammar first and then given its value.

  * `Numeral` is a number as it is written, and `Numeral.value?` the float that it
    is read as.  Digits are read up to 64 bits; the others before the point only
    count, and those behind it are left out;
  * `scanNumber` reads a number behind its sign.  What has neither point nor
    exponent is an integer if one fits.  An exponent beyond 31 bits is settled as
    soon as the digit that passes the bound has been read.
-/
import FilterRules.Json.Scanner.Basic

namespace FilterRules.Json

/-- The value of a run of decimal digits. -/
def digitsValue (digits : List Char) : Nat :=
  digits.foldl (fun n d => 10 * n + (d.toNat - '0'.toNat)) 0

/-- The parts of a number as they are written. -/
structure Numeral where
  negative : Bool
  whole : List Char
  fraction : List Char
  exponent : Int

/-- The largest number that digits are read to. -/
def greatestSignificand : Nat := 0xffffffffffffffff

/-- Reads digits on top of `n` up to the first that takes it past the bound, and
    gives the digits from there on. -/
def takeDigits (n : Nat) : List Char → Nat × List Char
  | [] => (n, [])
  | c :: cs =>
    let next := 10 * n + (c.toNat - '0'.toNat)
    if greatestSignificand < next then (n, c :: cs) else takeDigits next cs

/-- The digits of a numeral that are read, as one number, with the power of ten
    that it is multiplied by. -/
def Numeral.parts (n : Numeral) : Nat × Int :=
  let (digits, whole) := takeDigits 0 n.whole
  let (digits, fraction) := takeDigits digits n.fraction
  (digits, n.exponent + whole.length - (n.fraction.length - fraction.length : Nat))

/-- The float that a numeral is read as. -/
def Numeral.value? (n : Numeral) : Option Number :=
  Number.ofParts? n.negative n.parts.1 n.parts.2

/-- The largest exponent that is read to its end. -/
def greatestExponent : Nat := 0x7fffffff

/-- Reads the digits of an exponent on top of `n`.  There is no value when a
    digit takes it past the bound; the text is then left behind that digit. -/
def scanExponentDigits (n : Nat) : List Char → Option Nat × List Char
  | [] => (some n, [])
  | c :: cs =>
    if c.isDigit then
      let next := 10 * n + (c.toNat - '0'.toNat)
      if greatestExponent < next then (none, cs) else scanExponentDigits next cs
    else (some n, c :: cs)

/-- The sign of an exponent, and the text behind it. -/
def scanSign : List Char → Bool × List Char
  | '+' :: cs => (false, cs)
  | '-' :: cs => (true, cs)
  | cs => (false, cs)

/-- The float of a numeral that ends before `cs`. -/
def finishFloat (n : Numeral) (cs : List Char) : Except Fault (Scanned Number) :=
  match n.value? with
  | some value => .ok (value, cs)
  | none => .error (.before cs .numberOutOfRange)

/-- Reads an exponent behind its letter. -/
def scanExponent (negative : Bool) (whole fraction : List Char) (cs : List Char) :
    Except Fault (Scanned Number) :=
  let (down, cs) := scanSign cs
  match cs with
  | [] => .error (.at [] .endInValue)
  | c :: _ =>
    if !c.isDigit then .error (.at cs .invalidNumber)
    else
      match scanExponentDigits 0 cs with
      | (some e, rest) =>
        finishFloat ⟨negative, whole, fraction, if down then -(e : Int) else e⟩ rest
      | (none, rest) =>
        if (Numeral.parts ⟨negative, whole, fraction, 0⟩).1 ≠ 0 ∧ !down then
          .error (.before rest .numberOutOfRange)
        else finishFloat ⟨negative, ['0'], [], 0⟩ (rest.dropWhile Char.isDigit)

/-- Reads a fraction behind its point. -/
def scanFraction (negative : Bool) (whole : List Char) (cs : List Char) :
    Except Fault (Scanned Number) :=
  let fraction := cs.takeWhile Char.isDigit
  let rest := cs.dropWhile Char.isDigit
  if fraction.isEmpty then
    .error (.at rest (if rest.isEmpty then .endInValue else .invalidNumber))
  else
    match rest with
    | 'e' :: rest | 'E' :: rest => scanExponent negative whole fraction rest
    | _ => finishFloat ⟨negative, whole, fraction, 0⟩ rest

/-- Reads what follows the digits before the point. -/
def scanAfterWhole (negative : Bool) (whole : List Char) : Scanner Number
  | '.' :: cs => scanFraction negative whole cs
  | 'e' :: cs | 'E' :: cs => scanExponent negative whole [] cs
  | cs =>
    match Number.ofDigits? negative (digitsValue whole) with
    | some value => .ok (value, cs)
    | none => finishFloat ⟨negative, whole, [], 0⟩ cs

/-- Reads a number behind its sign.  A leading zero stands alone. -/
def scanNumber (negative : Bool) : Scanner Number
  | [] => .error (.at [] .endInValue)
  | '0' :: cs =>
    match cs with
    | c :: rest =>
      if c.isDigit then .error (.at (c :: rest) .invalidNumber)
      else scanAfterWhole negative ['0'] (c :: rest)
    | [] => scanAfterWhole negative ['0'] []
  | c :: cs =>
    if c.isDigit then
      scanAfterWhole negative ((c :: cs).takeWhile Char.isDigit) ((c :: cs).dropWhile Char.isDigit)
    else .error (.at (c :: cs) .invalidNumber)

end FilterRules.Json

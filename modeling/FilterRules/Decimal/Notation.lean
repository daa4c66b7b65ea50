/-
  FilterRules — how a binary64 number is written.

  A number is written with its shortest digits: positionally, always with a
  point, from `0.00001` up to below `10 ^ 16`, and otherwise with one digit
  before the point (and none after it, nor the point, if there is only one
  digit) and an exponent that always has a sign.

  * `Style` holds the bounds of the positional range, and `Style.json` their
    values;
  * `positional` and `exponential` are the two forms of a run of digits;
  * `render` writes a finite number; both zeros are positional.
-/
import FilterRules.Decimal.Shortest

namespace FilterRules.Decimal

/-- Where numbers are written positionally: the powers of ten of the first
    digit from `low` to `high`, both included. -/
structure Style where
  low : Int
  high : Int

/-- Positional from `10 ^ -5` to below `10 ^ 16`. -/
def Style.json : Style := ⟨-5, 15⟩

/-- The digits of a positive natural without the zeros at its end, and how many
    zeros those are. -/
def significantDigits (n : Nat) : List Char × Nat :=
  let reversed := (Nat.toDigits 10 n).reverse
  ((reversed.dropWhile (· == '0')).reverse, (reversed.takeWhile (· == '0')).length)

/-- The run `digits` with the point after the first `point` digits; zeros fill
    the places on either side that the run does not reach. -/
def positional (digits : List Char) (point : Int) : List Char :=
  if point ≤ 0 then '0' :: '.' :: (List.replicate (-point).toNat '0' ++ digits)
  else
    let whole := digits.take point.toNat
    let fraction := digits.drop point.toNat
    whole ++ List.replicate (point.toNat - whole.length) '0' ++
      '.' :: (if fraction.isEmpty then ['0'] else fraction)

/-- The run `digits` with one digit before the point and an exponent. -/
def exponential (digits : List Char) (exponent : Int) : List Char :=
  let sign := if exponent < 0 then '-' else '+'
  digits.take 1 ++ (if (digits.drop 1).isEmpty then [] else '.' :: digits.drop 1) ++
    'e' :: sign :: Nat.toDigits 10 exponent.natAbs

/-- The text of a positive decimal. -/
def Scientific.render (style : Style) (d : Scientific) : List Char :=
  let (digits, zeros) := significantDigits d.digits
  let point : Int := d.exponent + zeros + digits.length
  if style.low ≤ point - 1 ∧ point - 1 ≤ style.high then positional digits point
  else exponential digits (point - 1)

/-- The text of a finite number. -/
def render (style : Style) (x : Binary64) : List Char :=
  let body := if x.isZero then ['0', '.', '0'] else (shortest x).render style
  if x.isNegative then '-' :: body else body

end FilterRules.Decimal

/-
  FilterRules — the shortest decimal that rounds to a binary64 number.

  Of the decimals that round to a given magnitude, the ones with the fewest
  digits are wanted, and of these the one nearest to the exact value.

  * `decimalExponent` is the power of ten of the first digit of a quotient;
  * `candidates` are the two neighbours of the exact value on the grid of
    decimals with `n` digits: if any decimal of the grid rounds to the number,
    one of these two does;
  * `shortest` takes the first grid, from one digit to seventeen, with a
    neighbour that rounds to the number, the nearer one if both do, the even one
    on a tie; `exact` writes the value out in full where no grid answers.
-/
import FilterRules.Binary64.Decimal

namespace FilterRules.Decimal

/-- A positive decimal `digits * 10 ^ exponent`. -/
structure Scientific where
  digits : Nat
  exponent : Int
  deriving DecidableEq, Repr

/-- The least `k` from `start` on with `den ≤ num * 10 ^ k`, searched for
    `steps` steps. -/
def leadingZeros (num den : Nat) : (steps start : Nat) → Nat
  | 0, k => k
  | steps + 1, k => if den ≤ num * Nat.pow 10 k then k else leadingZeros num den steps (k + 1)

/-- The power of ten of the first digit of a positive quotient; the smallest
    binary64 number is above `10 ^ -400`. -/
def decimalExponent (num den : Nat) : Int :=
  if den ≤ num then ((Nat.toDigits 10 (num / den)).length : Int) - 1
  else -(leadingZeros num den 400 1 : Nat)

/-- The value of a magnitude as a quotient. -/
def ratio (x : Binary64) : Nat × Nat :=
  if 0 ≤ x.exponent then (x.significand <<< x.exponent.toNat, 1)
  else (x.significand, 1 <<< (-x.exponent).toNat)

/-- The quotient counted in units of `10 ^ exponent`, as a quotient. -/
def inUnits (num den : Nat) (exponent : Int) : Nat × Nat :=
  if 0 ≤ exponent then (num, den * Nat.pow 10 exponent.toNat)
  else (num * Nat.pow 10 (-exponent).toNat, den)

/-- Whether a decimal rounds to the magnitude of `x`. -/
def roundsTo (x : Binary64) (d : Scientific) : Bool :=
  Binary64.decimalMagnitude d.digits d.exponent == some x.magnitude

/-- Of the neighbours of the value of `x` on the grid with step `10 ^ exponent`
    those that round to `x`, the better one first: the nearer, on a tie the even. -/
def candidates (x : Binary64) (exponent : Int) : List Scientific :=
  let (num, den) := inUnits (ratio x).1 (ratio x).2 exponent
  let below := num / den
  let rest := num % den
  let belowFirst : Bool := 2 * rest < den || (2 * rest == den && below % 2 == 0)
  let grid := if belowFirst then [below, below + 1] else [below + 1, below]
  (grid.map (⟨·, exponent⟩)).filter (roundsTo x)

/-- The value in full: a power of two in the denominator is turned into the
    same power of ten. -/
def exact (x : Binary64) : Scientific :=
  if 0 ≤ x.exponent then ⟨x.significand <<< x.exponent.toNat, 0⟩
  else ⟨x.significand * Nat.pow 5 (-x.exponent).toNat, x.exponent⟩

/-- The first decimal that rounds to `x` on the grids of `count`, `count + 1`, …
    digits, `grids` of them. -/
def firstOnGrids (x : Binary64) (first : Int) : (grids count : Nat) → Scientific
  | 0, _ => exact x
  | grids + 1, count =>
    match candidates x (first - (count : Int) + 1) with
    | d :: _ => d
    | [] => firstOnGrids x first grids (count + 1)

/-- The shortest decimal that rounds to the magnitude of a finite nonzero
    number. -/
def shortest (x : Binary64) : Scientific :=
  firstOnGrids x (decimalExponent (ratio x).1 (ratio x).2) 17 1

end FilterRules.Decimal

import ScopeMeter.Binary64.Basic

/-!
# The shortest decimal form of a double

Of all decimal numbers that a reader would round back to a double, the one with the fewest digits
is shown, and of several the nearest. The search goes through the decimal grids of one, two, …
seventeen digits, and looks on each only at the two neighbours of the exact value.
-/

namespace ScopeMeter.Binary64

/-- A positive decimal number `d.ddd · 10 ^ exponent`, its first and last digit not zero. -/
structure Decimal where
  digits : List Char
  exponent : Int
  deriving DecidableEq, Repr

/-- The exponent of the first decimal digit of the rational `num / den`. -/
def decimalExponent (num den : Nat) : Int :=
  if den ≤ num then Int.ofNat (Nat.toDigits 10 (num / den)).length - 1
  else
    let k := (Nat.toDigits 10 (den / num)).length - 1
    if den ≤ num * tenTo k then -Int.ofNat k else -Int.ofNat (k + 1)

/-- The rationals that round to a double: the double, the ends of the interval around it, all over
one denominator, and whether the ends belong to it. -/
structure RoundingInterval where
  value : Nat
  low : Nat
  high : Nat
  denominator : Nat
  closed : Bool

/-- The interval of a double that is not zero. Its lower half is half as long where the doubles
below lie twice as close. -/
def roundingInterval (x : Binary64) : RoundingInterval :=
  let gap := if x.mantissa = twoTo 52 ∧ leastExponent < x.exponent then 1 else 2
  let e := x.exponent - 2
  let scale := twoTo e.toNat
  { value := 4 * x.mantissa * scale
    low := (4 * x.mantissa - gap) * scale
    high := (4 * x.mantissa + 2) * scale
    denominator := twoTo (-e).toNat
    closed := x.mantissa % 2 = 0 }

/-- Whether a whole number of grid steps `10 ^ grid` lies in the interval. -/
def RoundingInterval.contains (i : RoundingInterval) (grid : Int) (steps : Nat) : Bool :=
  let up := tenTo (-grid).toNat
  let point := steps * (i.denominator * tenTo grid.toNat)
  if i.closed then i.low * up ≤ point && point ≤ i.high * up
  else i.low * up < point && point < i.high * up

/-- The neighbour of the value on the grid `10 ^ grid` that rounds back to it, the nearer of two. -/
def RoundingInterval.onGrid (i : RoundingInterval) (grid : Int) : Option Nat :=
  let num := i.value * tenTo (-grid).toNat
  let den := i.denominator * tenTo grid.toNat
  let below := num / den
  match i.contains grid below, i.contains grid (below + 1) with
  | true, true => some (roundDiv num den)
  | true, false => some below
  | false, true => some (below + 1)
  | false, false => none

/-- Goes through the grids from `digits` digits on, `more` grids at most. -/
def RoundingInterval.search (i : RoundingInterval) (exponent : Int) (digits : Nat) :
    Nat → Nat × Int
  | 0 => (0, 0)
  | more + 1 =>
    let grid := exponent - Int.ofNat digits + 1
    match i.onGrid grid with
    | some steps => (steps, grid)
    | none => i.search exponent (digits + 1) more

/-- The shortest decimal number that reads back as a double that is not zero, its sign aside. -/
def shortest (x : Binary64) : Decimal :=
  let i := x.roundingInterval
  let (steps, grid) := i.search (decimalExponent i.value i.denominator) 1 17
  let digits := Nat.toDigits 10 steps
  { digits := (digits.reverse.dropWhile (· = '0')).reverse
    exponent := grid + Int.ofNat digits.length - 1 }

/-- The digits around a decimal point, without an exponent; a whole number has no point. -/
def Decimal.positional (d : Decimal) : List Char :=
  if d.exponent < 0 then
    ['0', '.'] ++ List.replicate ((-d.exponent).toNat - 1) '0' ++ d.digits
  else
    let whole := d.exponent.toNat + 1
    if d.digits.length ≤ whole then
      d.digits ++ List.replicate (whole - d.digits.length) '0'
    else d.digits.take whole ++ '.' :: d.digits.drop whole

/-- One digit before the point, and the exponent with its sign. -/
def Decimal.scientific (d : Decimal) : List Char :=
  let fraction := d.digits.drop 1
  let point := if fraction.isEmpty then [] else '.' :: fraction
  let sign := if d.exponent < 0 then '-' else '+'
  d.digits.take 1 ++ point ++ 'e' :: sign :: Nat.toDigits 10 d.exponent.natAbs

/-- The sign of a double before a text. -/
def signed (x : Binary64) (text : List Char) : String :=
  String.ofList (if x.negative then '-' :: text else text)

/-- The shortest text without an exponent. -/
def plainText (x : Binary64) : String :=
  x.signed (if x.isZero then ['0'] else x.shortest.positional)

end ScopeMeter.Binary64

/-!
# Double precision numbers

A finite double is a whole number below `2 ^ 53` times a power of two. The operations compute the
exact rational result and round it once, to the nearest double and on a tie to the even one, which
is what the IEEE 754 operations are.
-/

namespace ScopeMeter

/-- The finite double `± mantissa · 2 ^ exponent`. -/
structure Binary64 where
  negative : Bool
  mantissa : Nat
  exponent : Int
  deriving DecidableEq, Repr

namespace Binary64

/-- The exponent of the smallest doubles. -/
def leastExponent : Int := -1074

/-- The exponent of the largest doubles. -/
def greatestExponent : Int := 971

/-- A power of two. -/
def twoTo (k : Nat) : Nat := Nat.pow 2 k

/-- A power of ten. -/
def tenTo (k : Nat) : Nat := Nat.pow 10 k

/-- The quotient rounded to the nearest whole number, on a tie to the even one. -/
def roundDiv (num den : Nat) : Nat :=
  let q := num / den
  let twice := 2 * (num % den)
  if twice < den then q else if den < twice then q + 1 else q + q % 2

/-- The exponent at which the rational `num / den` has 53 binary digits, or the least one. -/
def fittingExponent (num den : Nat) : Int :=
  let guess : Int := Int.ofNat num.log2 - Int.ofNat den.log2 - 52
  let scaled := num * twoTo (-guess).toNat / (den * twoTo guess.toNat)
  max leastExponent (if scaled < twoTo 52 then guess - 1 else guess)

/-- The double nearest to the rational `num / den`; `none` when it is too large to be finite. -/
def ofRatio (negative : Bool) (num den : Nat) : Option Binary64 :=
  if num = 0 then some ⟨negative, 0, leastExponent⟩
  else
    let e := fittingExponent num den
    let m := roundDiv (num * twoTo (-e).toNat) (den * twoTo e.toNat)
    let (m, e) := if m = twoTo 53 then (twoTo 52, e + 1) else (m, e)
    if e ≤ greatestExponent then some ⟨negative, m, e⟩ else none

def isZero (x : Binary64) : Bool := x.mantissa = 0

/-- The double nearest to a natural number. -/
def ofNat? (n : Nat) : Option Binary64 := ofRatio false n 1

/-- The double nearest to an integer. -/
def ofInt? (n : Int) : Option Binary64 := ofRatio (decide (n < 0)) n.natAbs 1

/-- The product of two doubles. -/
def mul (x y : Binary64) : Option Binary64 :=
  let e := x.exponent + y.exponent
  ofRatio (x.negative != y.negative) (x.mantissa * y.mantissa * twoTo e.toNat) (twoTo (-e).toNat)

/-- The quotient of two doubles, the second one not zero. -/
def div (x y : Binary64) : Option Binary64 :=
  let e := x.exponent - y.exponent
  ofRatio (x.negative != y.negative) (x.mantissa * twoTo e.toNat) (y.mantissa * twoTo (-e).toNat)

def neg (x : Binary64) : Binary64 := { x with negative := !x.negative }

/-- The largest power of ten that is a finite double. -/
def greatestPower : Nat := 308

/-- Divides by a power of ten in steps that stay finite. -/
def divPower (x : Binary64) (k : Nat) : Option Binary64 :=
  if k ≤ greatestPower then do
    x.div (← ofNat? (tenTo k))
  else if x.isZero then some x
  else do
    divPower (← x.div (← ofNat? (tenTo greatestPower))) (k - greatestPower)
termination_by k
decreasing_by simp_all [greatestPower]; omega

/-- Multiplies by a power of ten. -/
def mulPower (x : Binary64) (k : Nat) : Option Binary64 :=
  if k ≤ greatestPower then do
    x.mul (← ofNat? (tenTo k))
  else if x.isZero then some x
  else none

/-- The double that `digits · 10 ^ exponent` is read as: the digits are rounded first and scaled
afterwards. `none` when it is too large to be finite. -/
def ofDecimal (digits : Nat) (exponent : Int) : Option Binary64 := do
  let x ← ofNat? digits
  if 0 ≤ exponent then x.mulPower exponent.toNat else x.divPower (-exponent).toNat

end Binary64

end ScopeMeter

import ScopeMeter.Json.Reader.Basic

/-!
# Reading JSON: numbers

A number with a fraction or an exponent, a negative zero and an integer outside
`-2 ^ 63 .. 2 ^ 64 - 1` is a double; a number too large for a double is refused.
-/

namespace ScopeMeter.Json

/-- The largest number whose digits are kept. -/
def digitLimit : Nat := UInt64.size - 1

/-- The largest exponent whose digits are kept. -/
def exponentLimit : Nat := 0x7FFFFFFF

/-- Reads digits behind `n` as long as the value stays within `limit`: the value, the number of
digits read, and the rest of the text. -/
def absorbDigits (limit n : Nat) : List Char → Nat → Nat × Nat × List Char
  | [], count => (n, count, [])
  | c :: cs, count =>
    if c.isDigit then
      let next := 10 * n + (c.toNat - '0'.toNat)
      if next ≤ limit then absorbDigits limit next cs (count + 1) else (n, count, c :: cs)
    else (n, count, c :: cs)

/-- Whether a text starts with a digit. -/
def startsWithDigit (cs : List Char) : Bool := cs.head?.any Char.isDigit

/-- The double that the digits `n` and a decimal exponent stand for. -/
def real? (negative : Bool) (n : Nat) (exponent : Int) : Option Json :=
  (Binary64.ofDecimal n exponent).map fun x => .real (if negative then x.neg else x)

/-- Ends a double in front of the rest of the text. -/
def endReal (negative : Bool) (n : Nat) (exponent : Int) (rest : List Char) :
    Reading (Taken Json) :=
  match real? negative n exponent with
  | some v => .ok (v, rest)
  | none => stopAt .tooLarge rest

/-- Reads the sign of an exponent: whether it is negative. -/
def readExponentSign : List Char → Bool × List Char
  | '+' :: cs => (false, cs)
  | '-' :: cs => (true, cs)
  | cs => (false, cs)

/-- Reads an exponent after its letter. One beyond `exponentLimit` leaves zero or nothing that a
double can hold. -/
def readExponentDigits (negative : Bool) (n : Nat) (exponent : Int) (cs : List Char) :
    Reading (Taken Json) :=
  let (down, cs) := readExponentSign cs
  if cs.isEmpty then stopAt .endInValue []
  else if !startsWithDigit cs then stopPast .badNumber cs
  else
    let (shift, _, rest) := absorbDigits exponentLimit 0 cs 0
    if startsWithDigit rest then
      if n ≠ 0 && !down then stopPast .tooLarge rest
      else endReal negative 0 0 (rest.dropWhile Char.isDigit)
    else
      endReal negative n (if down then exponent - Int.ofNat shift else exponent + Int.ofNat shift)
        rest

/-- Whether a text starts with the letter of an exponent. -/
def startsWithExponent (cs : List Char) : Bool := cs.head?.any fun c => c = 'e' || c = 'E'

/-- Reads what may follow the digits of a double: an exponent. -/
def readExponent (negative : Bool) (n : Nat) (exponent : Int) (cs : List Char) :
    Reading (Taken Json) :=
  if startsWithExponent cs then readExponentDigits negative n exponent (cs.drop 1)
  else endReal negative n exponent cs

/-- Reads what may follow the whole digits of a double: a fraction and an exponent. -/
def readFraction (negative : Bool) (n : Nat) (exponent : Int) (cs : List Char) :
    Reading (Taken Json) :=
  match cs with
  | '.' :: rest =>
    if rest.isEmpty then stopAt .endInValue []
    else if !startsWithDigit rest then stopPast .badNumber rest
    else
      let (n, count, rest) := absorbDigits digitLimit n rest 0
      readExponent negative n (exponent - Int.ofNat count) (rest.dropWhile Char.isDigit)
  | cs => readExponent negative n exponent cs

/-- The value of an integer; an integer out of range and the negative zero are doubles. -/
def endInteger (negative : Bool) (n : Nat) (rest : List Char) : Reading (Taken Json) :=
  if !negative then .ok (.int (Int.ofNat n), rest)
  else if n = 0 || 0x8000000000000000 < n then endReal true n 0 rest
  else .ok (.int (-Int.ofNat n), rest)

/-- Reads a number after its sign. -/
def readUnsigned (negative : Bool) (cs : List Char) : Reading (Taken Json) :=
  match cs with
  | [] => stopAt .endInValue []
  | c :: rest =>
    if !c.isDigit then stopPast .badNumber cs
    else if c = '0' && startsWithDigit rest then stopPast .badNumber rest
    else
      let (n, _, rest) := absorbDigits digitLimit 0 cs 0
      let dropped := (rest.takeWhile Char.isDigit).length
      let rest := rest.dropWhile Char.isDigit
      if dropped = 0 && rest.head? ≠ some '.' && !startsWithExponent rest then
        endInteger negative n rest
      else readFraction negative n (Int.ofNat dropped) rest

end ScopeMeter.Json

/-!
# Numbers in texts

Words are written in hexadecimal digits.

A decimal number is read from an optional sign and at least one of the digits `0` to `9`; leading
zeros are allowed and nothing else is. A minus sign is refused where only natural numbers are
wanted. The reader goes from left to right and reports the first thing that is wrong, so a text
with more digits than fit reports that before any later character is looked at.
-/

namespace ScopeMeter.Text

/-- The number in lower-case hexadecimal digits. -/
def hexLower (n : Nat) : String := String.ofList (Nat.toDigits 16 n)

/-- The number in upper-case hexadecimal digits. -/
def hexUpper (n : Nat) : String := String.ofList ((Nat.toDigits 16 n).map Char.toUpper)

/-- The number in lower-case hexadecimal digits, at least `width` of them. -/
def hexPadded (width n : Nat) : String :=
  let digits := Nat.toDigits 16 n
  String.ofList (List.replicate (width - digits.length) '0' ++ digits)

end ScopeMeter.Text

namespace ScopeMeter.Decimal

/-- Why a text is not a number of the wanted range. -/
inductive Fault
  | empty
  | invalidDigit
  | tooLarge
  | tooSmall
  deriving DecidableEq, Repr

/-- What is told to the user. -/
def Fault.message : Fault → String
  | .empty => "cannot parse integer from empty string"
  | .invalidDigit => "invalid digit found in string"
  | .tooLarge => "number too large to fit in target type"
  | .tooSmall => "number too small to fit in target type"

/-- The value of a digit. -/
def digitValue (c : Char) : Nat := c.toNat - '0'.toNat

/-- Reads digits behind a number `n` read so far, as long as the value is at most `limit`. -/
def readDigits (limit : Nat) : Nat → List Char → Except Fault Nat
  | n, [] => .ok n
  | n, c :: cs =>
    if c.isDigit then
      let next := 10 * n + digitValue c
      if next ≤ limit then readDigits limit next cs else .error .tooLarge
    else .error .invalidDigit

/-- Reads a natural number that is at most `limit`. -/
def readNat (limit : Nat) : List Char → Except Fault Nat
  | [] => .error .empty
  | ['+'] => .error .invalidDigit
  | '+' :: cs => readDigits limit 0 cs
  | cs => readDigits limit 0 cs

/-- Reads an integer from `-limit - 1` to `limit`. -/
def readInt (limit : Nat) : List Char → Except Fault Int
  | ['-'] => .error .invalidDigit
  | '-' :: cs =>
    match readDigits (limit + 1) 0 cs with
    | .ok n => .ok (-n)
    | .error .tooLarge => .error .tooSmall
    | .error fault => .error fault
  | cs => (readNat limit cs).map Int.ofNat

end ScopeMeter.Decimal

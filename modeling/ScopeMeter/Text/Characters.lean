import ScopeMeter.Text.HiddenRanges

/-!
# White space and quotation

White space is what has the Unicode property `White_Space`; texts from files are read without it
at their ends.

A text is shown between quotation marks on one line of visible characters: quotation marks and
backslashes are escaped, and every character that does not show by itself is written by its code
point.
-/

namespace ScopeMeter.Text

/-- The ranges of the property `White_Space`. -/
def blankRanges : List (Nat × Nat) :=
  [(0x9, 0xD), (0x20, 0x20), (0x85, 0x85), (0xA0, 0xA0), (0x1680, 0x1680), (0x2000, 0x200A),
   (0x2028, 0x2029), (0x202F, 0x202F), (0x205F, 0x205F), (0x3000, 0x3000)]

/-- Whether a character is white space. -/
def isBlank (c : Char) : Bool :=
  blankRanges.any fun r => r.1 ≤ c.toNat && c.toNat ≤ r.2

/-- Every character that core calls white space has the property. -/
theorem isBlank_of_isWhitespace {c : Char} (h : c.isWhitespace = true) : isBlank c = true := by
  simp only [Char.isWhitespace, Bool.or_eq_true, decide_eq_true_eq] at h
  rcases h with ((rfl | rfl) | rfl) | rfl <;> decide

/-- Drops white space at the end. -/
def trimEndChars (cs : List Char) : List Char :=
  (cs.reverse.dropWhile isBlank).reverse

/-- Drops white space at both ends. -/
def trimChars (cs : List Char) : List Char :=
  trimEndChars (cs.dropWhile isBlank)

/-- The text without the white space at its end. -/
def trimEnd (s : String) : String := String.ofList (trimEndChars s.toList)

/-- Whether a character does not show by itself: a binary search in `hiddenRanges`. -/
def isHidden (c : Char) : Bool :=
  search c.toNat 0 hiddenRanges.size hiddenRanges.size
where
  /-- Looks for `n` among the ranges from `low` on and below `high`. -/
  search (n low high : Nat) : Nat → Bool
    | 0 => false
    | fuel + 1 =>
      if low < high then
        let middle := (low + high) / 2
        match hiddenRanges[middle]? with
        | none => false
        | some (first, last) =>
          if n < first then search n low middle fuel
          else if last < n then search n (middle + 1) high fuel
          else true
      else false

/-- One character between quotation marks. -/
def quoteChar (c : Char) : List Char :=
  match c with
  | '\x00' => ['\\', '0']
  | '\t' => ['\\', 't']
  | '\n' => ['\\', 'n']
  | '\r' => ['\\', 'r']
  | '\"' => ['\\', '\"']
  | '\\' => ['\\', '\\']
  | c =>
    if isHidden c then ['\\', 'u', '\x7b'] ++ Nat.toDigits 16 c.toNat ++ ['\x7d'] else [c]

/-- The text between quotation marks. -/
def quoted (s : String) : String :=
  String.ofList ('\"' :: s.toList.flatMap quoteChar ++ ['\"'])

end ScopeMeter.Text

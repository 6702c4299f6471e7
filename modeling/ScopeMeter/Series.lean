import ScopeMeter.Keyed

/-!
# Result series

A series holds the samples of one name in the order in which they were taken. Summing it up
replaces the samples since the last time by their sum, so a series is the sums so far and the
samples still to be summed up. Sums wrap around at 64 bits.
-/

namespace ScopeMeter

/-- The sum of some values, wrapping around. -/
def wrappingSum (values : List Int64) : Int64 := values.foldl (· + ·) 0

structure Series where
  /-- The sums of the blocks that were summed up. -/
  settled : List Int64 := []
  /-- The samples since then. -/
  pending : List Int64 := []
  deriving DecidableEq, Repr

namespace Series

instance : Inhabited Series := ⟨{}⟩

/-- A series of samples none of which is summed up. -/
def ofValues (values : List Int64) : Series := { pending := values }

def values (s : Series) : List Int64 := s.settled ++ s.pending

def size (s : Series) : Nat := s.values.length

def isEmpty (s : Series) : Bool := s.values.isEmpty

def last? (s : Series) : Option Int64 := s.values.getLast?

/-- The sum of all values. -/
def total (s : Series) : Int64 := wrappingSum s.values

def append (s : Series) (values : List Int64) : Series :=
  { s with pending := s.pending ++ values }

def push (s : Series) (value : Int64) : Series := s.append [value]

/-- Replaces the samples since the last time by their sum. -/
def summarize (s : Series) : Series :=
  if s.pending.isEmpty then s
  else { settled := s.settled ++ [wrappingSum s.pending], pending := [] }

/-- Forgets the values, with what was summed up of them. -/
def clear (_ : Series) : Series := {}

end Series

/-- Result series by name. -/
abbrev SeriesMap := Keyed Series

end ScopeMeter

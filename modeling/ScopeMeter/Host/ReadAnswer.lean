import ScopeMeter.Host.CallFault

/-!
# What a read of a group returns

A read fills a buffer of 65 words with the count of the group's values and then the values in the
order in which the counters were opened, and returns the number of bytes it wrote. The count is
what the kernel claims; how many values are there follows from both.
-/

namespace ScopeMeter

/-- The words of the buffer that a read may fill. -/
def readBufferWords : Nat := 65

/-- The outcome of a read that did not fail. -/
structure ReadAnswer where
  /-- How many bytes were written. -/
  bytes : Nat
  /-- The words in the buffer; those behind them are zero. -/
  words : List UInt64
  deriving DecidableEq, Repr

/-- The first `size` of some values, filled up with zeros. -/
def fillZeros (size : Nat) (values : List UInt64) : List UInt64 :=
  values.take size ++ List.replicate (size - values.length) 0

theorem length_fillZeros (size : Nat) (values : List UInt64) :
    (fillZeros size values).length = size := by
  rw [fillZeros, List.length_append, List.length_take, List.length_replicate]
  omega

namespace ReadAnswer

/-- How many values an answer holds: no more than were written whole, and no more than claimed. -/
def available (a : ReadAnswer) : Nat := min (a.bytes / 8 - 1) (a.words.headD 0).toNat

/-- The claimed count and the values, as many as there is room for. -/
def decode (a : ReadAnswer) (handle room : Nat) : Except CallFault (UInt64 × List UInt64) :=
  if a.bytes < 8 then .error (.shortRead handle a.bytes)
  else .ok (a.words.headD 0, fillZeros room ((a.words.drop 1).take a.available))

end ReadAnswer

end ScopeMeter

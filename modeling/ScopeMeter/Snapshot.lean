/-!
# Snapshots

A snapshot holds the values of a group's counters at one moment, at most 32 of them. Asked for a
value it does not hold it answers zero.
-/

namespace ScopeMeter

/-- The most counters that a group holds. -/
def maxCounters : Nat := 32

structure Snapshot where
  values : List Int64
  bounded : values.length ≤ maxCounters
  deriving DecidableEq

namespace Snapshot

/-- The snapshot of some values; those beyond the bound are dropped. -/
def ofValues (values : List Int64) : Snapshot :=
  ⟨values.take maxCounters, by rw [List.length_take]; exact Nat.min_le_left _ _⟩

/-- The snapshot without values. -/
def empty : Snapshot := ⟨[], by simp⟩

instance : Inhabited Snapshot := ⟨empty⟩

/-- As many zeros, up to the bound. -/
def zeroed (size : Nat) : Snapshot :=
  ⟨List.replicate (min size maxCounters) 0, by
    rw [List.length_replicate]; exact Nat.min_le_right _ _⟩

def size (s : Snapshot) : Nat := s.values.length

def isEmpty (s : Snapshot) : Bool := s.values.isEmpty

/-- The value of a counter; zero for one that is not covered. -/
def value (s : Snapshot) (index : Nat) : Int64 := s.values[index]?.getD 0

/-- The snapshot as if the counters had been zeroed right after `read` was taken. -/
def rebased (s read : Snapshot) : Snapshot :=
  ⟨s.values.mapIdx fun i v => v - read.value i, by simpa using s.bounded⟩

theorem size_rebased (s read : Snapshot) : (s.rebased read).size = s.size := by
  simp [size, rebased]

theorem value_rebased (s read : Snapshot) (index : Nat) (h : index < s.size) :
    (s.rebased read).value index = s.value index - read.value index := by
  simp only [size] at h
  simp [value, rebased, h]

end Snapshot

end ScopeMeter

import ScopeMeter.Series

/-!
# Totals and lengths of series

Appending a value adds it to the total of a series, and summing a series up leaves the total as it
is.  The length of a series splits into the sums so far and the samples still to be summed up:
`Series.shape`.  What an operation does to the shape does not depend on the values.
-/

namespace ScopeMeter

theorem toInt64_zero : (0 : UInt64).toInt64 = 0 := rfl

theorem foldl_add (start : Int64) (values : List Int64) :
    values.foldl (· + ·) start = start + wrappingSum values := by
  unfold wrappingSum
  induction values generalizing start with
  | nil => simp
  | cons v values ih => rw [List.foldl_cons, ih, List.foldl_cons, ih (0 + v), Int64.zero_add,
      Int64.add_assoc]

theorem wrappingSum_append (xs ys : List Int64) :
    wrappingSum (xs ++ ys) = wrappingSum xs + wrappingSum ys := by
  calc wrappingSum (xs ++ ys) = ys.foldl (· + ·) (wrappingSum xs) := List.foldl_append
    _ = wrappingSum xs + wrappingSum ys := foldl_add ..

theorem wrappingSum_singleton (v : Int64) : wrappingSum [v] = v := Int64.zero_add v

namespace Series

/-- How many sums a series holds, and how many samples still to be summed up. -/
def shape (s : Series) : Nat × Nat := (s.settled.length, s.pending.length)

theorem total_eq (s : Series) : s.total = wrappingSum s.settled + wrappingSum s.pending :=
  wrappingSum_append ..

theorem total_push (s : Series) (v : Int64) : (s.push v).total = s.total + v := by
  simp only [total_eq, push, append, wrappingSum_append, wrappingSum_singleton, Int64.add_assoc]

/-- Summing up preserves the total. -/
theorem total_summarize (s : Series) : s.summarize.total = s.total := by
  unfold summarize
  split
  · rfl
  · simp only [total_eq, wrappingSum_append, wrappingSum_singleton]
    exact Int64.add_zero _

theorem size_eq (s : Series) : s.size = s.shape.1 + s.shape.2 := List.length_append

theorem shape_append (s : Series) (values : List Int64) :
    (s.append values).shape = (s.shape.1, s.shape.2 + values.length) := by
  simp only [shape, append, List.length_append]

/-- What summing up does to a shape: the samples that wait become one more sum. -/
def settle (shape : Nat × Nat) : Nat × Nat :=
  if shape.2 = 0 then shape else (shape.1 + 1, 0)

theorem shape_summarize (s : Series) : s.summarize.shape = settle s.shape := by
  unfold summarize settle shape
  cases pending : s.pending <;> simp [pending]

theorem size_append (s : Series) (values : List Int64) :
    (s.append values).size = s.size + values.length := by
  rw [size_eq, size_eq, shape_append, Nat.add_assoc]

/-- Summing up makes no series longer. -/
theorem size_summarize_le (s : Series) : s.summarize.size ≤ s.size := by
  rw [size_eq, size_eq, shape_summarize]
  unfold settle
  split <;> omega

end Series

end ScopeMeter

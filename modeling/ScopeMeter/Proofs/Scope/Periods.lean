import Mathlib
import ScopeMeter.Proofs.Scope.Invocations

/-!
# Tallies of several periods behind each other

The sums of scopes are kept by slot, and at the end of each period they are appended to the series
of the scopes.  So the position of a value in a series is the slot of a scope in the first period
with an invocation, and means nothing in the later ones.  `Indexed` says that a series reads as if
positions meant slots throughout.  That is so when the later periods add nothing (`Settled`), and
for counts of invocations it is so only then (`indexed_iff_settled`).
-/

namespace ScopeMeter

/-- The values at the positions below the shared slot are the sums of an amount over the invocations
of the slots. -/
def Indexed (amount : Invocation → Int64) (values : List Int64) (vs : List Invocation) : Prop :=
  ∀ i < overflowSlot, values[i]?.getD 0 = slotSum amount vs i

/-- The periods behind the first one with an invocation. -/
def laterPeriods (periods : List (List Invocation)) : List (List Invocation) :=
  (periods.dropWhile List.isEmpty).tail

/-- Behind the first period with an invocation nothing is added to the slots below the shared
one. -/
def Settled (amount : Invocation → Int64) (periods : List (List Invocation)) : Prop :=
  ∀ later ∈ laterPeriods periods, ∀ i < overflowSlot, slotSum amount later i = 0

/-- The tallies of periods behind each other. -/
def tallies (amount : Invocation → Int64) (periods : List (List Invocation)) : List Int64 :=
  (periods.map (tallied amount)).flatten

variable {amount : Invocation → Int64} {p : Invocation → Bool} {vs : List Invocation}
  {periods : List (List Invocation)}

theorem tallies_cons (amount : Invocation → Int64) (vs : List Invocation)
    (periods : List (List Invocation)) :
    tallies amount (vs :: periods) = tallied amount vs ++ tallies amount periods := rfl

theorem tallies_concat (amount : Invocation → Int64) (periods : List (List Invocation))
    (vs : List Invocation) :
    tallies amount (periods ++ [vs]) = tallies amount periods ++ tallied amount vs := by
  rw [tallies, List.map_append, List.flatten_append, List.map_singleton, List.flatten_singleton,
    tallies]

theorem getD_append (xs ys : List Int64) (i : Nat) :
    (xs ++ ys)[i]?.getD 0 =
      if i < xs.length then xs[i]?.getD 0 else ys[i - xs.length]?.getD 0 := by
  split
  next inside => rw [List.getElem?_append_left inside]
  next outside => rw [List.getElem?_append_right (Nat.le_of_not_lt outside)]

/-- What stands at a position of the tallies stood at that position or before it in one of them. -/
theorem getD_tallies (amount : Invocation → Int64) (periods : List (List Invocation)) (i : Nat) :
    (tallies amount periods)[i]?.getD 0 = 0 ∨
      ∃ vs ∈ periods, ∃ slot ≤ i, (tallies amount periods)[i]?.getD 0 = slotSum amount vs slot := by
  induction periods generalizing i with
  | nil => exact .inl rfl
  | cons vs periods ih =>
    rw [tallies_cons, getD_append]
    split
    next => exact .inr ⟨vs, List.mem_cons_self, i, Nat.le_refl i, getD_tallied amount vs i⟩
    next =>
      rcases ih (i - (tallied amount vs).length) with zero | ⟨ws, member, slot, before, is⟩
      · exact .inl zero
      · exact .inr ⟨ws, List.mem_cons_of_mem _ member, slot,
          Nat.le_trans before (Nat.sub_le ..), is⟩

theorem slotSum_flatten_eq_zero {slot : Nat}
    (none : ∀ vs ∈ periods, slotSum amount vs slot = 0) :
    slotSum amount periods.flatten slot = 0 := by
  induction periods with
  | nil => rfl
  | cons vs periods ih =>
    rw [List.forall_mem_cons] at none
    rw [List.flatten_cons, slotSum_append, none.1, ih none.2]
    rfl

/-- Periods without an invocation leave no trace. -/
theorem tallies_dropWhile (amount : Invocation → Int64) (periods : List (List Invocation)) :
    tallies amount (periods.dropWhile List.isEmpty) = tallies amount periods ∧
      (periods.dropWhile List.isEmpty).flatten = periods.flatten := by
  induction periods with
  | nil => exact ⟨rfl, rfl⟩
  | cons vs periods ih =>
    cases vs with
    | nil => exact ih
    | cons v vs => exact ⟨rfl, rfl⟩

/-- If the later periods add nothing, positions mean slots. -/
theorem Settled.indexed (settled : Settled amount periods) :
    Indexed amount (tallies amount periods) periods.flatten := by
  obtain ⟨same, flat⟩ := tallies_dropWhile amount periods
  unfold Settled laterPeriods at settled
  rw [← same, ← flat]
  cases cut : periods.dropWhile List.isEmpty with
  | nil => exact fun _ _ => rfl
  | cons vs later =>
    rw [cut] at settled
    have settled : ∀ ws ∈ later, ∀ i < overflowSlot, slotSum amount ws i = 0 := settled
    intro i below
    rw [tallies_cons, getD_append, length_tallied, List.flatten_cons, slotSum_append,
      slotSum_flatten_eq_zero fun ws member => settled ws member i below, Int64.add_zero]
    split
    next => exact getD_tallied amount vs i
    next outside =>
      rw [slotSum_of_reach_le (Nat.le_of_not_lt outside)]
      rcases getD_tallies amount later (i - reach vs) with zero | ⟨ws, member, slot, before, is⟩
      · exact zero
      · rw [is]
        exact settled ws member slot (by omega)

/-! ## Counts -/

/-- The amount that counts the invocations of a kind. -/
def indicator (p : Invocation → Bool) (v : Invocation) : Int64 := if p v then 1 else 0

/-- How many invocations of a slot are of a kind. -/
def countOf (p : Invocation → Bool) (vs : List Invocation) (slot : Nat) : Nat :=
  vs.countP fun v => v.slot = slot && p v

theorem slotSum_indicator (p : Invocation → Bool) (vs : List Invocation) (slot : Nat) :
    slotSum (indicator p) vs slot = Int64.ofNat (countOf p vs slot) := by
  induction vs with
  | nil => rfl
  | cons v vs ih =>
    have cut := slotSum_append (indicator p) [v] vs slot
    rw [List.singleton_append, ih, slotSum_singleton] at cut
    rw [cut, countOf, countOf, List.countP_cons, indicator]
    by_cases same : v.slot = slot
    · cases kind : p v with
      | true => simp [same, Int64.ofNat_add, Int64.add_comm]
      | false => simp [same]
    · simp [same]

theorem countOf_le_flatten (member : vs ∈ periods) (slot : Nat) :
    countOf p vs slot ≤ countOf p periods.flatten slot :=
  (List.sublist_flatten_of_mem member).countP_le

/-- A number that fits is zero if adding it changes nothing. -/
theorem eq_zero_of_ofNat_add {m n : Nat} (fits : m + n < 2 ^ 64)
    (same : Int64.ofNat m = Int64.ofNat m + Int64.ofNat n) : n = 0 := by
  have zero : Int64.ofNat n = 0 := by
    rw [← Int64.add_right_inj (Int64.ofNat m), Int64.add_zero]
    exact same.symm
  have bits := congrArg (fun v => v.toBitVec.toNat) zero
  simp at bits
  omega

/-- If positions of counts mean slots, nothing is counted behind a period with an invocation: to a
slot within its reach the count would be too small, and behind its reach a count for a smaller slot
would stand. -/
theorem countOf_eq_zero_of_indexed {later : List (List Invocation)} (first : 0 < reach vs)
    (fits : (vs :: later).flatten.length < 2 ^ 64)
    (indexed : Indexed (indicator p) (tallies (indicator p) (vs :: later)) (vs :: later).flatten)
    {i : Nat} (below : i < overflowSlot) : countOf p later.flatten i = 0 := by
  rw [List.flatten_cons, List.length_append] at fits
  induction i using Nat.strongRecOn with
  | ind i ih =>
    have read := indexed i below
    rw [tallies_cons, getD_append, length_tallied, List.flatten_cons, slotSum_append] at read
    have counts : countOf p vs i ≤ vs.length := List.countP_le_length
    have counts' : countOf p later.flatten i ≤ later.flatten.length := List.countP_le_length
    split at read
    next inside =>
      rw [getD_tallied, slotSum_indicator, slotSum_indicator] at read
      exact eq_zero_of_ofNat_add (by omega) read
    next outside =>
      have zero : (tallies (indicator p) later)[i - reach vs]?.getD 0 = 0 := by
        rcases getD_tallies (indicator p) later (i - reach vs) with
          zero | ⟨ws, member, slot, before, is⟩
        · exact zero
        · have part := countOf_le_flatten (p := p) member slot
          rw [ih slot (by omega) (by omega)] at part
          rw [is, slotSum_indicator, Nat.eq_zero_of_le_zero part]
          rfl
      rw [zero, slotSum_of_reach_le (Nat.le_of_not_lt outside), slotSum_indicator] at read
      exact eq_zero_of_ofNat_add (m := 0) (by omega) read

/-- Positions of counts mean slots exactly if the later periods add nothing. -/
theorem indexed_iff_settled (fits : periods.flatten.length < 2 ^ 64) :
    Indexed (indicator p) (tallies (indicator p) periods) periods.flatten ↔
      Settled (indicator p) periods := by
  refine ⟨?_, Settled.indexed⟩
  intro indexed
  obtain ⟨same, flat⟩ := tallies_dropWhile (indicator p) periods
  rw [← same, ← flat] at indexed
  rw [← flat] at fits
  intro ws member i below
  unfold laterPeriods at member
  cases cut : periods.dropWhile List.isEmpty with
  | nil =>
    rw [cut] at member
    cases member
  | cons vs later =>
    rw [cut] at indexed fits member
    have nonempty : vs ≠ [] := by
      have head := List.head?_dropWhile_not List.isEmpty periods
      rw [cut] at head
      simpa using head
    have first : 0 < reach vs := Nat.pos_of_ne_zero fun none => nonempty (reach_eq_zero_iff.mp none)
    have part := countOf_le_flatten (p := p) member i
    rw [List.tail_cons, countOf_eq_zero_of_indexed first fits indexed below] at part
    rw [slotSum_indicator, Nat.eq_zero_of_le_zero part]
    rfl

end ScopeMeter

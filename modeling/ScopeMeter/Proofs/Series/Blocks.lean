import Mathlib.Data.List.DropRight
import ScopeMeter.Proofs.Series

/-!
# Blocks of a series

A history of a series is cut into blocks: what was pushed up to a summing up, since the summing up
before it.  The values of the series are the sums of the blocks, empty ones left out, and behind
them what was pushed since (`values_run`).  Only the acts since the last clear count
(`run_sinceClear`); over such acts the blocks are followed from the front, where the samples that
wait already are the beginning of the first block (`run_of_uncleared`).
-/

namespace ScopeMeter.Series

/-- What may be done to a series. -/
inductive Act
  | push (value : Int64)
  | summarize
  | clear
  deriving DecidableEq

/-- The value that an act pushes. -/
def Act.value? : Act → Option Int64
  | .push v => some v
  | .summarize | .clear => none

/-- The series after an act. -/
def next (s : Series) : Act → Series
  | .push v => s.push v
  | .summarize => s.summarize
  | .clear => s.clear

/-- The series after some acts. -/
def run (s : Series) (acts : List Act) : Series := acts.foldl next s

variable {s : Series} {acts : List Act}

theorem run_cons (s : Series) (a : Act) (acts : List Act) :
    s.run (a :: acts) = (s.next a).run acts := rfl

theorem run_append (s : Series) (earlier later : List Act) :
    s.run (earlier ++ later) = (s.run earlier).run later := List.foldl_append

/-- A series that starts with some values is as if they had been pushed. -/
theorem run_map_push (s : Series) (values : List Int64) :
    s.run (values.map .push) = s.append values := by
  induction values generalizing s with
  | nil => simp [run, append]
  | cons v values ih => simp [run_cons, next, ih, push, append]

/-! ## Blocks -/

/-- The acts since the last clear. -/
def sinceClear (acts : List Act) : List Act := acts.rtakeWhile (· ≠ .clear)

/-- What some acts push. -/
def pushed (acts : List Act) : List Int64 := acts.filterMap Act.value?

/-- What is pushed before, between and after the acts that sum up. -/
def spans (acts : List Act) : List (List Int64) := (acts.splitOn .summarize).map pushed

/-- What was pushed since the last clear, up to each summing up. -/
def blocks (acts : List Act) : List (List Int64) := (spans (sinceClear acts)).dropLast

/-- What was pushed since the last clear and the last summing up. -/
def opened (acts : List Act) : List Int64 := (spans (sinceClear acts)).getLastD []

/-- The sums of the blocks that are not empty. -/
def sums (blocks : List (List Int64)) : List Int64 := (blocks.filter (· ≠ [])).map wrappingSum

theorem sums_cons (block : List Int64) (blocks : List (List Int64)) :
    sums (block :: blocks) = (if block = [] then [] else [wrappingSum block]) ++ sums blocks := by
  unfold sums
  split
  next empty => simp [empty]
  next filled => simp [filled]

/-- The spans of some acts, the first one taken up from the samples that wait. -/
def follow (waiting : List Int64) (acts : List Act) : List (List Int64) :=
  (spans acts).modifyHead (waiting ++ ·)

theorem follow_nil (acts : List Act) : follow [] acts = spans acts := by
  unfold follow
  cases spans acts <;> rfl

theorem follow_push (waiting : List Int64) (v : Int64) (acts : List Act) :
    follow waiting (.push v :: acts) = follow (waiting ++ [v]) acts := by
  have taken : spans (.push v :: acts) = (spans acts).modifyHead (v :: ·) := by
    unfold spans
    rw [List.splitOn_cons_eq_if_modifyHead, if_neg (by simp)]
    cases acts.splitOn .summarize <;> rfl
  unfold follow
  rw [taken, List.modifyHead_modifyHead]
  congr 1
  funext span
  exact List.append_cons waiting v span

theorem follow_summarize (waiting : List Int64) (acts : List Act) :
    follow waiting (.summarize :: acts) = waiting :: follow [] acts := by
  have cut : spans (.summarize :: acts) = [] :: spans acts := by
    unfold spans
    rw [List.splitOn_cons_eq_if_modifyHead, if_pos (by simp)]
    rfl
  rw [follow_nil, follow, cut, List.modifyHead_cons, List.append_nil]

theorem follow_ne_nil (waiting : List Int64) (acts : List Act) : follow waiting acts ≠ [] := by
  simp [follow, spans, List.splitOn_ne_nil]

/-! ## Histories -/

theorem summarize_eq (s : Series) :
    s.summarize =
      { settled := s.settled ++ (if s.pending = [] then [] else [wrappingSum s.pending]),
        pending := [] } := by
  obtain ⟨settled, pending⟩ := s
  unfold summarize
  cases pending <;> simp

/-- Over acts that clear nothing, the samples that wait are the beginning of the first block. -/
theorem run_of_uncleared (uncleared : .clear ∉ acts) (s : Series) :
    s.run acts =
      { settled := s.settled ++ sums (follow s.pending acts).dropLast,
        pending := (follow s.pending acts).getLastD [] } := by
  induction acts generalizing s with
  | nil => simp [run, follow, spans, pushed, sums]
  | cons a acts ih =>
    have later : .clear ∉ acts := fun member => uncleared (List.mem_cons_of_mem a member)
    rw [run_cons, ih later]
    cases a with
    | push v => rw [follow_push, next, push, append]
    | summarize =>
      obtain ⟨first, rest, further⟩ := List.exists_cons_of_ne_nil (follow_ne_nil [] acts)
      have waits : s.summarize.pending = [] := by rw [summarize_eq]
      rw [follow_summarize, next, waits, further, List.dropLast_cons_cons, sums_cons, summarize_eq,
        List.append_assoc]
      rfl
    | clear => exact absurd List.mem_cons_self uncleared

/-- What was done before the last clear is forgotten. -/
theorem run_sinceClear (acts : List Act) :
    run {} acts = run {} (sinceClear acts) := by
  induction acts using List.reverseRecOn with
  | nil => rfl
  | append_singleton acts a ih =>
    unfold sinceClear at ih ⊢
    rw [run_append, ih]
    by_cases cleared : a = .clear
    · rw [cleared, List.rtakeWhile_concat_neg _ _ _ (by simp)]
      rfl
    · rw [List.rtakeWhile_concat_pos _ _ _ (by simp [cleared]), run_append]

theorem uncleared_sinceClear (acts : List Act) : .clear ∉ sinceClear acts := by
  intro member
  simpa using List.mem_rtakeWhile_imp member

theorem run_eq (acts : List Act) :
    run {} acts = { settled := sums (blocks acts), pending := opened acts } := by
  rw [run_sinceClear, run_of_uncleared (uncleared_sinceClear acts)]
  have fresh : ({} : Series).pending = [] := rfl
  rw [fresh, follow_nil]
  rfl

/-- What a series adds up to is what was pushed, in blocks or not. -/
theorem total_run (uncleared : .clear ∉ acts) (s : Series) :
    (s.run acts).total = s.total + wrappingSum (pushed acts) := by
  induction acts generalizing s with
  | nil => exact (Int64.add_zero _).symm
  | cons a acts ih =>
    have later : .clear ∉ acts := fun member => uncleared (List.mem_cons_of_mem a member)
    rw [run_cons, ih later]
    cases a with
    | push v =>
      have split : pushed (.push v :: acts) = [v] ++ pushed acts := rfl
      rw [next, total_push, split, wrappingSum_append, wrappingSum_singleton, Int64.add_assoc]
    | summarize =>
      rw [next, total_summarize]
      rfl
    | clear => exact absurd List.mem_cons_self uncleared

/-- A series holds the sums of the blocks of its history, in order, and behind them what was
pushed since the last summing up.  Summing up replaces just these last values, by their sum, and
does it once; it changes no total and makes no series longer.  A sum stands until the series is
cleared. -/
theorem values_run (initial : List Int64) (acts : List Act) :
    let s := (ofValues initial).run acts
    let history := initial.map Act.push ++ acts
    let settled := sums (blocks history)
    s.settled = settled ∧ s.values = settled ++ opened history ∧
    s.summarize.values =
      settled ++ (if opened history = [] then [] else [wrappingSum (opened history)]) ∧
    s.summarize.summarize = s.summarize ∧
    s.summarize.total = s.total ∧ s.total = wrappingSum (pushed (sinceClear history)) ∧
    s.summarize.size ≤ s.size ∧
    ∀ later, .clear ∉ later → settled <+: (s.run later).values := by
  intro s history settled
  have reached : s = { settled := settled, pending := opened history } := by
    have started : ofValues initial = run {} (initial.map .push) := (run_map_push {} initial).symm
    calc s = (run {} (initial.map .push)).run acts := congrArg (run · acts) started
      _ = run {} history := (run_append ..).symm
      _ = _ := run_eq history
  have summed := summarize_eq s
  refine ⟨?_, ?_, ?_, ?_, total_summarize s, ?_, ?_, ?_⟩
  · rw [reached]
  · rw [reached, values]
  · rw [summed, values, List.append_nil, reached]
  · rw [summarize_eq s.summarize, summed]
    simp
  · have added := total_run (uncleared_sinceClear history) {}
    rw [← run_sinceClear, run_eq, ← reached] at added
    exact added.trans (Int64.zero_add _)
  · exact size_summarize_le s
  · intro later uncleared
    rw [run_of_uncleared uncleared, values, reached, List.append_assoc]
    exact List.prefix_append ..

example :
    let acts : List Act :=
      [.push 1, .clear, .summarize, .push 2, .push 3, .summarize, .summarize, .push 4]
    blocks acts = [[], [2, 3], []] ∧ opened acts = [4] ∧ (run {} acts).values = [5, 4] := by
  decide

end ScopeMeter.Series

import Mathlib.Data.List.Sort
import ScopeMeter.Thread.Listing

/-!
# Threads of a task directory

If the names of a task directory spell different numbers, its threads are listed in ascending order
of their numbers (`Thread.ascending_list`), and they are those with a readable name
(`Thread.mem_list_iff`).  Together these two say what the list is, so it does not matter in which
order the directory comes (`Thread.list_of_perm`).
-/

namespace ScopeMeter.Thread

open Files

/-- A thread of a directory: its number is spelled by the name of an entry, and its name is the
text of the file `comm` in there, without the white space at its end. -/
def IsListed (files : Node) (taskDir : String) (entries : List (String × Node)) (t : Thread) :
    Prop :=
  ∃ e ∈ entries, tid? e.1 = some t.tid ∧
    ∃ text, files.readText (join (join taskDir e.1) "comm") = .ok text ∧
      t.name = Text.trimEnd text

/-- The names that spell numbers spell different ones. -/
def DistinctNumbers (entries : List (String × Node)) : Prop :=
  (entries.filterMap fun e => tid? e.1).Nodup

def Ascending (threads : List Thread) : Prop := threads.Pairwise fun a b => a.tid < b.tid

variable {files files' : Node} {taskDir : String} {entries entries' : List (String × Node)}
  {threads : List Thread}

theorem ofEntry?_eq_some_iff {name : String} {t : Thread} :
    ofEntry? files taskDir name = some t ↔ tid? name = some t.tid ∧
      ∃ text, files.readText (join (join taskDir name) "comm") = .ok text ∧
        t.name = Text.trimEnd text := by
  unfold ofEntry?
  constructor
  · intro found
    split at found
    next tid text spelled read =>
      cases found
      exact ⟨spelled, text, read, rfl⟩
    · cases found
  · rintro ⟨spelled, text, read, named⟩
    obtain ⟨tid, name⟩ := t
    cases named
    rw [spelled, read]
    rfl

theorem exists_of_list (found : list files taskDir = .ok threads) :
    ∃ entries, files.list taskDir = .ok entries := by
  unfold list at found
  split at found
  · cases found
  next entries listed => exact ⟨entries, listed⟩

theorem exists_list (listed : files.list taskDir = .ok entries) :
    ∃ threads, list files taskDir = .ok threads := by
  unfold list
  rw [listed]
  exact ⟨_, rfl⟩

theorem mem_list_iff (listed : files.list taskDir = .ok entries)
    (found : list files taskDir = .ok threads) {t : Thread} :
    t ∈ threads ↔ IsListed files taskDir entries t := by
  unfold list at found
  rw [listed] at found
  cases found
  rw [(List.mergeSort_perm _ _).mem_iff, List.mem_filterMap]
  constructor
  · rintro ⟨e, member, is⟩
    exact ⟨e, member, ofEntry?_eq_some_iff.mp is⟩
  · rintro ⟨e, member, is⟩
    exact ⟨e, member, ofEntry?_eq_some_iff.mpr is⟩

/-- The numbers of the threads are among those that the names spell. -/
theorem sublist_tids (files : Node) (taskDir : String) (entries : List (String × Node)) :
    ((entries.filterMap fun e => ofEntry? files taskDir e.1).map (·.tid)).Sublist
      (entries.filterMap fun e => tid? e.1) := by
  induction entries with
  | nil => exact .slnil
  | cons e entries ih =>
    cases found : ofEntry? files taskDir e.1 with
    | none =>
      cases spelled : tid? e.1 with
      | none => simpa only [List.filterMap_cons, found, spelled] using ih
      | some tid => simpa only [List.filterMap_cons, found, spelled] using ih.cons tid
    | some t =>
      have spelled := (ofEntry?_eq_some_iff.mp found).1
      simpa only [List.filterMap_cons, found, spelled, List.map_cons] using ih.cons_cons t.tid

theorem ascending_list (listed : files.list taskDir = .ok entries)
    (distinct : DistinctNumbers entries) (found : list files taskDir = .ok threads) :
    Ascending threads := by
  unfold list at found
  rw [listed] at found
  cases found
  let read := entries.filterMap fun e => ofEntry? files taskDir e.1
  have sorted : (read.mergeSort fun a b => decide (a.tid ≤ b.tid)).Pairwise
      fun a b => decide (a.tid ≤ b.tid) = true :=
    @List.pairwise_mergeSort Thread (fun a b => decide (a.tid ≤ b.tid))
      (fun a b c first second =>
        decide_eq_true (Int32.le_trans (of_decide_eq_true first) (of_decide_eq_true second)))
      (fun a b => by simpa using Int32.le_total a.tid b.tid) read
  have apart : (read.map (·.tid)).Nodup := (sublist_tids files taskDir entries).nodup distinct
  have apart : ((read.mergeSort fun a b => decide (a.tid ≤ b.tid)).map (·.tid)).Nodup :=
    ((List.mergeSort_perm read _).map _).nodup_iff.mpr apart
  exact sorted.imp₂ (fun a b le ne => Int32.lt_of_le_of_ne (of_decide_eq_true le) ne)
    (List.pairwise_map.mp apart)

theorem Ascending.nodup_tids (ascending : Ascending threads) : (threads.map (·.tid)).Nodup := by
  rw [List.nodup_iff_pairwise_ne, List.pairwise_map]
  apply ascending.imp
  intro a b less same
  rw [same] at less
  exact Int32.lt_irrefl less

/-- Threads in ascending order are known by which they are. -/
theorem Ascending.eq_of_mem_iff {threads' : List Thread} (ascending : Ascending threads)
    (ascending' : Ascending threads') (same : ∀ t, t ∈ threads ↔ t ∈ threads') :
    threads = threads' := by
  have : Std.Irrefl fun a b : Thread => a.tid < b.tid := ⟨fun _ => Int32.lt_irrefl⟩
  have : Std.Antisymm fun a b : Thread => a.tid < b.tid :=
    ⟨fun _ _ less less' => absurd less' (Int32.lt_asymm less)⟩
  exact List.Pairwise.eq_of_mem_iff ascending ascending' same

/-- The order in which the directory lists its entries makes no difference. -/
theorem list_of_perm (listed : files.list taskDir = .ok entries)
    (listed' : files'.list taskDir = .ok entries') (distinct : DistinctNumbers entries)
    (perm : entries'.Perm entries)
    (same : ∀ e ∈ entries, files'.readText (join (join taskDir e.1) "comm") =
      files.readText (join (join taskDir e.1) "comm")) :
    list files' taskDir = list files taskDir := by
  have distinct' : DistinctNumbers entries' := (perm.filterMap _).nodup_iff.mpr distinct
  obtain ⟨threads, found⟩ := exists_list listed
  obtain ⟨threads', found'⟩ := exists_list listed'
  rw [found, found', Ascending.eq_of_mem_iff (ascending_list listed distinct found)
    (ascending_list listed' distinct' found')]
  intro t
  rw [mem_list_iff listed found, mem_list_iff listed' found']
  constructor
  · rintro ⟨e, member, spelled, text, read, named⟩
    exact ⟨e, perm.mem_iff.mpr member, spelled, text, (same e member).trans read, named⟩
  · rintro ⟨e, member, spelled, text, read, named⟩
    have member := perm.mem_iff.mp member
    exact ⟨e, member, spelled, text, (same e member).symm.trans read, named⟩

end ScopeMeter.Thread

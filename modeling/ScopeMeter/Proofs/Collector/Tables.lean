import ScopeMeter.Proofs.Collector.Planned
import ScopeMeter.Proofs.Report.TableNames

/-!
# Tables of a collector

Each table is written to a file of its own as long as no two bindings clash (`Binding.Clash`): the
name of one is that of the other with the first digits of its number, or the binding of the
interconnect is named like the thread that has the number of the process.  Of tables with one name
the last one stays, and writing succeeds all the same (`Engine.tables_written`).
-/

namespace ScopeMeter

/-! ## Files that are written one after the other -/

namespace Collector

open Files Node

variable {name dir : String} {entries : List (String × Node)} {tables : List (String × String)}
  {root root' : Node}

/-- The entries of a directory after some files were written into it. -/
def filed (entries : List (String × Node)) (tables : List (String × String)) :
    List (String × Node) :=
  tables.foldl (fun entries t => putEntry t.1 (.file (some t.2)) entries) entries

theorem lookupEntry_filed_of_ne (apart : ∀ t ∈ tables, t.1 ≠ name) :
    lookupEntry name (filed entries tables) = lookupEntry name entries := by
  induction tables generalizing entries with
  | nil => rfl
  | cons t tables ih =>
    rw [List.forall_mem_cons] at apart
    exact (ih apart.2).trans ((lookupEntry_putEntry ..).trans (if_neg apart.1))

/-- Of files with one name the last one stays. -/
theorem lookupEntry_filed {front back : List (String × String)} {t : String × String}
    (last : ∀ t' ∈ back, t'.1 ≠ t.1) :
    lookupEntry t.1 (filed entries (front ++ t :: back)) = some (.file (some t.2)) := by
  unfold filed
  rw [List.foldl_append, List.foldl_cons]
  exact (lookupEntry_filed_of_ne last).trans ((lookupEntry_putEntry ..).trans (if_pos rfl))

/-- Each name has one entry. -/
theorem names_filed (distinct : (entries.map Prod.fst).Nodup) (tables : List (String × String)) :
    ((filed entries tables).map Prod.fst).Nodup ∧
      ∀ n, n ∈ (filed entries tables).map Prod.fst ↔
        n ∈ entries.map Prod.fst ∨ n ∈ tables.map Prod.fst := by
  induction tables generalizing entries with
  | nil => exact ⟨distinct, fun n => by simp only [List.map_nil, List.not_mem_nil, or_false]; rfl⟩
  | cons t tables ih =>
    have put := map_fst_putEntry t.1 (.file (some t.2)) entries
    have distinct' : ((putEntry t.1 (.file (some t.2)) entries).map Prod.fst).Nodup := by
      rw [put]
      split
      · exact distinct
      next absent => exact List.nodup_append_comm.mp (List.nodup_cons.mpr ⟨absent, distinct⟩)
    obtain ⟨nodup, mem⟩ := ih distinct'
    refine ⟨nodup, fun n => (mem n).trans ?_⟩
    rw [put, List.map_cons, List.mem_cons]
    split
    next present =>
      constructor
      · exact fun old => old.imp_right .inr
      · rintro (old | rfl | new)
        · exact .inl old
        · exact .inl present
        · exact .inr new
    · rw [List.mem_append, List.mem_singleton, or_assoc]

/-- There are as many entries as names, and as many as files if no name is used twice. -/
theorem length_filed (tables : List (String × String)) :
    (filed [] tables).length ≤ tables.length ∧
      ((filed [] tables).length = tables.length ↔ (tables.map Prod.fst).Nodup) := by
  have none : (([] : List (String × Node)).map Prod.fst).Nodup := List.nodup_nil
  obtain ⟨nodup, mem⟩ := names_filed none tables
  have perm : ((filed [] tables).map Prod.fst).Perm (tables.map Prod.fst).dedup := by
    rw [List.perm_ext_iff_of_nodup nodup (List.nodup_dedup _)]
    intro n
    rw [mem, List.mem_dedup, List.map_nil]
    exact or_iff_right List.not_mem_nil
  have length := perm.length_eq
  rw [List.length_map] at length
  have sublist := List.dedup_sublist (tables.map Prod.fst)
  rw [length]
  constructor
  · exact sublist.length_le.trans (Nat.le_of_eq (List.length_map ..))
  · constructor
    · intro same
      have all := sublist.eq_of_length (same.trans (List.length_map ..).symm)
      exact List.dedup_eq_self.mp all
    · intro distinct
      rw [List.dedup_eq_self.mpr distinct, List.length_map]

/-- Files that were all written into a directory are its entries. -/
theorem list_writeAll (listed : root.list dir = .ok entries) (only : OnlyFiles entries)
    (down : ∀ t ∈ tables, StepsDown t.1) (written : writeAll dir tables root = (.ok (), root')) :
    root'.list dir = .ok (filed entries tables) ∧ OnlyFiles (filed entries tables) ∧
      ∀ t ∈ tables, FileName dir t.1 := by
  induction tables generalizing root entries with
  | nil =>
    cases written
    exact ⟨listed, only, List.forall_mem_nil _⟩
  | cons t tables ih =>
    obtain ⟨name, text⟩ := t
    rw [List.forall_mem_cons] at down ⊢
    unfold writeAll at written
    split at written
    next tree put =>
      obtain ⟨file, listed'⟩ := list_writeText listed only down.1 put
      obtain ⟨listed'', only'', files⟩ := ih listed' (only.putEntry name text) down.2 written
      exact ⟨listed'', only'', file, files⟩
    · cases written

/-- Files whose names fit are all written, also under one name. -/
theorem exists_writeAll (listed : root.list dir = .ok entries) (only : OnlyFiles entries)
    (fit : ∀ t ∈ tables, FileName dir t.1) :
    ∃ root', writeAll dir tables root = (.ok (), root') := by
  induction tables generalizing root entries with
  | nil => exact ⟨root, rfl⟩
  | cons t tables ih =>
    obtain ⟨name, text⟩ := t
    rw [List.forall_mem_cons] at fit
    obtain ⟨tree, put⟩ := exists_writeText listed only fit.1 text
    obtain ⟨_, listed'⟩ := list_writeText listed only fit.1.down put
    obtain ⟨root', rest⟩ := ih listed' (only.putEntry name text) fit.2
    refine ⟨root', ?_⟩
    rw [writeAll, put]
    exact rest

theorem forall_mem_tables {c : Collector} {pid : Int32} {P : String → Prop} :
    (∀ t ∈ c.tables pid, P t.1) ↔ ∀ b ∈ c.bindings, P (b.tableName pid) := by
  rw [tables, List.forall_mem_map]

/-- An empty directory gets a file for each binding exactly if their tables have different names. -/
theorem length_filed_tables (c : Collector) (pid : Int32) :
    (filed [] (c.tables pid)).length ≤ c.bindings.length ∧
      ((filed [] (c.tables pid)).length = c.bindings.length ↔
        (c.bindings.map (·.tableName pid)).Nodup) := by
  have names : (c.tables pid).map Prod.fst = c.bindings.map (·.tableName pid) := List.map_map
  have size : (c.tables pid).length = c.bindings.length := List.length_map ..
  rw [← names, ← size]
  exact length_filed (c.tables pid)

theorem writeTables_eq_ok_iff {c : Collector} {pid : Int32} :
    c.writeTables pid dir root = (.ok (), root') ↔
      writeAll dir (c.tables pid) root = (.ok (), root') := by
  unfold writeTables
  split
  next tree all =>
    rw [all]
    exact ⟨fun ok => by cases ok; rfl, fun ok => by cases ok; rfl⟩
  next fault tree fails =>
    rw [fails]
    exact iff_of_false nofun nofun

section Export

variable {c : Collector} {pid : Int32} (listed : root.list dir = .ok entries)
  (only : OnlyFiles entries) (down : ∀ b ∈ c.bindings, StepsDown (b.tableName pid))

include listed only down

theorem list_writeTables (written : c.writeTables pid dir root = (.ok (), root')) :
    root'.list dir = .ok (filed entries (c.tables pid)) ∧ OnlyFiles (filed entries (c.tables pid)) ∧
      ∀ b ∈ c.bindings, FileName dir (b.tableName pid) := by
  obtain ⟨listed', only', files⟩ :=
    list_writeAll listed only (forall_mem_tables.mpr down) (writeTables_eq_ok_iff.mp written)
  exact ⟨listed', only', forall_mem_tables.mp files⟩

/-- The tables are all written exactly if their names fit. -/
theorem exists_writeTables_iff : (∃ root', c.writeTables pid dir root = (.ok (), root')) ↔
    ∀ b ∈ c.bindings, FileName dir (b.tableName pid) := by
  constructor
  · rintro ⟨root', written⟩
    exact (list_writeTables listed only down written).2.2
  · intro fit
    obtain ⟨root', written⟩ := exists_writeAll listed only (forall_mem_tables.mpr fit)
    exact ⟨root', writeTables_eq_ok_iff.mpr written⟩

/-- A table is read back unless a later one has its name. -/
theorem readText_writeTables (written : c.writeTables pid dir root = (.ok (), root'))
    {front back : List Binding} {b : Binding} (split : c.bindings = front ++ b :: back)
    (last : ∀ b' ∈ back, b'.tableName pid ≠ b.tableName pid) :
    root'.readText (join dir (b.tableName pid)) = .ok (Table.text b.results) := by
  obtain ⟨listed', _, files⟩ := list_writeTables listed only down written
  obtain ⟨here, at_⟩ := list_eq_ok_iff.mp listed'
  let table (b : Binding) := (b.tableName pid, Table.text b.results)
  have tables : c.tables pid = front.map table ++ table b :: back.map table :=
    (congrArg (List.map table) split).trans List.map_append
  have last' : ∀ t ∈ back.map table, t.1 ≠ (table b).1 := List.forall_mem_map.mpr last
  rw [tables] at at_
  rw [split] at files
  exact at_.readText (files b (List.mem_append_right _ List.mem_cons_self))
    (lookupEntry_filed last')

end Export

end Collector

/-! ## Clashes -/

namespace Binding

variable {b b' : Binding} {pid : Int32}

/-- The name of the second binding goes on with the first digits of the number of the first one;
or the first one is of the whole machine, and the second one has its stem and the number of the
process. -/
def Overruns (pid : Int32) (b b' : Binding) : Prop :=
  (∃ d, d ≠ "" ∧ b'.stem = b.stem ++ d ∧ b.number pid = d ++ b'.number pid) ∨
    (b.tid = none ∧ b'.tid = some pid ∧ b'.stem = b.stem)

/-- The tables of two bindings get one name. -/
def Clash (pid : Int32) (b b' : Binding) : Prop := b.Overruns pid b' ∨ b'.Overruns pid b

theorem Overruns.runsInto (overruns : b.Overruns pid b') : b.RunsInto pid b' := by
  rcases overruns with ⟨d, _, stem, number⟩ | ⟨whole, own, stem⟩
  · exact ⟨d, stem, number⟩
  · refine ⟨"", by rw [stem, String.append_empty], ?_⟩
    rw [String.empty_append, number_eq_iff, whole, own]
    rfl

/-- Bindings that run into each other clash, unless they are for one thread and of one class. -/
theorem RunsInto.clash (runs : b.RunsInto pid b')
    (apart : b.tid = b'.tid → b.stem ≠ b'.stem) : b.Clash pid b' := by
  obtain ⟨d, stem, number⟩ := runs
  by_cases empty : d = ""
  · -- Stems and numbers are the same, so exactly one of the two is of the whole machine.
    subst empty
    rw [String.append_empty] at stem
    rw [String.empty_append, number_eq_iff] at number
    cases tid : b.tid with
    | some t =>
      cases tid' : b'.tid with
      | some t' =>
        rw [tid, tid'] at number
        exact absurd stem.symm (apart (by rw [tid, tid']; exact congrArg some number))
      | none =>
        rw [tid, tid'] at number
        exact .inr (.inr ⟨tid', tid.trans (congrArg some number), stem.symm⟩)
    | none =>
      cases tid' : b'.tid with
      | some t' =>
        rw [tid, tid'] at number
        exact .inl (.inr ⟨tid, tid'.trans (congrArg some number.symm), stem⟩)
      | none => exact absurd stem.symm (apart (tid.trans tid'.symm))
  · exact .inl (.inl ⟨d, empty, stem, number⟩)

theorem clash_iff (apart : b.tid = b'.tid → b.stem ≠ b'.stem) :
    b.tableName pid = b'.tableName pid ↔ b.Clash pid b' := by
  rw [tableName_eq_iff]
  constructor
  · rintro (runs | runs)
    · exact runs.clash apart
    · exact (runs.clash fun same => (apart same.symm).symm).symm
  · exact Or.imp Overruns.runsInto Overruns.runsInto

end Binding

/-! ## Runs -/

/-- The names of the task directory spell different thread numbers. -/
def Site.Distinct (site : Site) : Prop :=
  ∀ entries, site.files.list site.taskDir = .ok entries → Thread.DistinctNumbers entries

/-- The thread numbers that the names of the task directory spell. -/
def Site.numbers (site : Site) : Except Files.Fault (List Int32) :=
  (site.files.list site.taskDir).map fun entries => entries.filterMap fun e => Thread.tid? e.1

theorem Site.distinct_of_numbers {site : Site} {numbers : List Int32}
    (listed : site.numbers = .ok numbers) (nodup : numbers.Nodup) : site.Distinct := by
  intro entries list
  rw [Site.numbers, list] at listed
  have are : (entries.filterMap fun e => Thread.tid? e.1) = numbers := Except.ok.inj listed
  rw [Thread.DistinctNumbers, are]
  exact nodup

namespace Engine

variable {e : Engine}

/-- The bindings are those of a plan for threads with numbers of their own. -/
def Numbered (e : Engine) : Prop := ∃ threads process, Thread.Ascending threads ∧
  e.bindings.map Binding.spec = e.collector.plan.bindingSpecs threads process

theorem Numbered.next (numbered : e.Numbered) {a : Act}
    (distinct : ∀ site, a = .init site → site.Distinct) : (e.next a).Numbered := by
  rcases e.next_cases a with ⟨moved, plan⟩ | ⟨none, plan⟩ | ⟨_, site, specs, is, found, opened⟩
  · obtain ⟨threads, process, ascending, specs⟩ := numbered
    refine ⟨threads, process, ascending, ?_⟩
    rw [Binding.map_spec_of_moved moved, plan, specs]
  · refine ⟨[], "", List.Pairwise.nil, ?_⟩
    rw [none, plan]
    rfl
  · obtain ⟨threads, ascending, planned⟩ := Plan.exists_ascending _ (distinct site is) found
    exact ⟨threads, site.processName, ascending, (Plan.map_spec_of_opened opened).trans planned⟩

theorem Numbered.run (numbered : e.Numbered) {acts : List Act}
    (distinct : ∀ site, .init site ∈ acts → site.Distinct) : (e.run acts).Numbered := by
  induction acts generalizing e with
  | nil => exact numbered
  | cons a acts ih =>
    refine ih (numbered.next fun site is => ?_) fun site member => ?_
    · exact distinct site (is ▸ List.mem_cons_self)
    · exact distinct site (List.mem_cons_of_mem _ member)

theorem numbered_fresh (name : String) (config : Json) (perApi : Bool) (h : Host) :
    (fresh name config perApi h).Numbered :=
  ⟨[], "", List.Pairwise.nil, rfl⟩

/-- No two bindings are for one thread and have one stem. -/
theorem Numbered.apart (numbered : e.Numbered) :
    e.bindings.Pairwise fun b b' => b.tid = b'.tid → b.stem ≠ b'.stem := by
  obtain ⟨threads, process, ascending, specs⟩ := numbered
  have subjects := e.collector.plan.nodup_subjects_bindingSpecs ascending process
  rw [← specs, List.map_map, List.nodup_iff_pairwise_ne, List.pairwise_map] at subjects
  apply subjects.imp_of_mem
  intro b b' member member' ne tid stem
  have planned : ∀ b ∈ e.bindings, b.spec ∈ e.collector.plan.bindingSpecs threads process := by
    rw [← specs]
    exact fun b member => List.mem_map_of_mem member
  have name : b.name = b'.name :=
    Plan.name_eq_of_tid ascending (planned b member) (planned b' member') tid
  have suffix : b.device.suffix = b'.device.suffix := by
    rw [Binding.stem, Binding.stem, name] at stem
    exact (String.append_right_inj _).mp stem
  have device : b.device = b'.device :=
    Plan.device_eq_of_suffix (planned b member) (planned b' member') tid suffix
  exact ne (congrArg₂ Prod.mk tid device)

open Files in
/-- After every run of a collector at places whose threads have numbers of their own: the tables of
two bindings get one name exactly if these clash.  Into a directory that holds only files all
tables are written whenever their names fit there, clashes or not.  Then the table of each binding
that clashes with no later one is read back from its file; and if the directory was empty, it now
holds at most as many files as there are bindings, and as many exactly if no two bindings clash. -/
theorem tables_written (name : String) (config : Json) (perApi : Bool) (h : Host)
    (acts : List Act) (distinct : ∀ site, .init site ∈ acts → site.Distinct) (pid : Int32) :
    let c := ((fresh name config perApi h).run acts).collector
    let bs := c.bindings
    bs.Pairwise (fun b b' => b.tableName pid = b'.tableName pid ↔ b.Clash pid b') ∧
    ∀ (dir : String) (files : Node) (before : List (String × Node)),
      (∀ b ∈ bs, '/' ∉ b.name.toList) → files.list dir = .ok before → OnlyFiles before →
      ((∃ files', c.writeTables pid dir files = (.ok (), files')) ↔
        ∀ b ∈ bs, Node.FileName dir (b.tableName pid)) ∧
      ∀ files', c.writeTables pid dir files = (.ok (), files') →
        ∃ after, files'.list dir = .ok after ∧ OnlyFiles after ∧
          (∀ front b back, bs = front ++ b :: back → (∀ b' ∈ back, ¬b.Clash pid b') →
            files'.readText (join dir (b.tableName pid)) = .ok (Table.text b.results)) ∧
          (before = [] → after.length ≤ bs.length ∧
            (after.length = bs.length ↔ bs.Pairwise fun b b' => ¬b.Clash pid b')) := by
  intro c bs
  have numbered : Numbered ((fresh name config perApi h).run acts) :=
    (numbered_fresh name config perApi h).run distinct
  have names : bs.Pairwise fun b b' => b.tableName pid = b'.tableName pid ↔ b.Clash pid b' :=
    numbered.apart.imp Binding.clash_iff
  refine ⟨names, fun dir files before plain listed only => ?_⟩
  have down : ∀ b ∈ bs, Node.StepsDown (b.tableName pid) := fun b member =>
    Binding.stepsDown_tableName (plain b member) pid
  refine ⟨Collector.exists_writeTables_iff listed only down, fun files' written => ?_⟩
  obtain ⟨listed', only', _⟩ := Collector.list_writeTables listed only down written
  refine ⟨Collector.filed before (c.tables pid), listed', only', ?_, ?_⟩
  · intro front b back split free
    apply Collector.readText_writeTables listed only down written split
    intro b' later same
    rw [split] at names
    have clashes := List.rel_of_pairwise_cons (List.pairwise_append.mp names).2.1 later
    exact free b' later (clashes.mp same.symm)
  · rintro rfl
    obtain ⟨le, eq_iff⟩ := c.length_filed_tables pid
    refine ⟨le, eq_iff.trans ?_⟩
    rw [List.nodup_iff_pairwise_ne, List.pairwise_map]
    constructor
    · exact fun apart => names.imp₂ (fun b b' clashes ne clash => ne (clashes.mpr clash)) apart
    · exact fun free => names.imp₂ (fun b b' clashes free same => free (clashes.mp same)) free

/-- A round of a thread of the workload, one of the background, and the interconnect. -/
def sampleExport : List Act :=
  [.init sampleTask, .start, .outside (.tick 101 none [10, 3]), .collect 1, .stop]

theorem distinct_sampleTask : sampleTask.Distinct := by
  have listed : sampleTask.numbers = .ok [101, 102] := by cbv
  exact Site.distinct_of_numbers listed (by decide)

/-- A place to write to. -/
def sampleOutput : Files.Node := .dir [("out", .dir [])]

theorem reached_sampleExport :
    ((fresh "perf" sampleThreads false {}).run sampleExport).collector.bindings.map (fun b =>
      (b.name, b.tableName 4242)) = [("patrace-1", "patrace-1101.csv"),
        ("mali-cmar", "mali-cmar102.csv"), ("app", "app-booker-ci4242.csv")] := by
  cbv

/-- Names of tables that fit into the place. -/
theorem fileName_out {bs : List Binding} {tables : List String}
    (are : bs.map (·.tableName 4242) = tables)
    (fit : ∀ n ∈ tables, '/' ∉ n.toList ∧ '\x00' ∉ n.toList ∧ Files.Node.StepsDown n ∧
      n.utf8ByteSize ≤ Files.nameLimit) :
    ∀ b ∈ bs, Files.Node.FileName "/out" (b.tableName 4242) := by
  subst are
  rw [List.forall_mem_map] at fit
  intro b member
  obtain ⟨plain, free, down, fits⟩ := fit b member
  have path : Files.join "/out" (b.tableName 4242) = "/out/" ++ b.tableName 4242 := by
    have last : "/out".endsWith "/" = false := by cbv
    rw [Files.join_relative (by decide) down.relative, last]
    rfl
  refine ⟨plain, down, fits, ?_⟩
  rw [path, Files.Node.checkPath_eq_ok_iff, String.toList_append, String.utf8ByteSize_append]
  refine ⟨?_, ?_, (Nat.add_le_add_left fits _).trans (by decide)⟩
  · rw [List.mem_append, not_or]
    exact ⟨by decide, free⟩
  · intro empty
    have chars := congrArg String.toList empty
    rw [String.toList_append] at chars
    cases chars

/-- Names without a slash. -/
theorem plain_of_names {bs : List Binding} {names : List String} (are : bs.map (·.name) = names)
    (plain : ∀ n ∈ names, '/' ∉ n.toList) : ∀ b ∈ bs, '/' ∉ b.name.toList := by
  subst are
  rw [List.forall_mem_map] at plain
  exact plain

theorem list_sampleOutput : sampleOutput.list "/out" = .ok [] := by cbv

theorem tables_written_sampleExport :
    let c := ((fresh "perf" sampleThreads false {}).run sampleExport).collector
    (∀ site, .init site ∈ sampleExport → site.Distinct) ∧
      ∃ files' after, c.writeTables 4242 "/out" sampleOutput = (.ok (), files') ∧
        files'.list "/out" = .ok after ∧ after.length = 3 ∧
        ∃ b, c.bindings[0]? = some b ∧ b.tableName 4242 = "patrace-1101.csv" ∧
          files'.readText (Files.join "/out" "patrace-1101.csv") = .ok (Table.text b.results) := by
  intro c
  have distinct : ∀ site, .init site ∈ sampleExport → site.Distinct := by
    intro site member
    simp only [sampleExport, List.mem_cons, Act.init.injEq, reduceCtorEq, List.not_mem_nil,
      or_false] at member
    rw [member]
    exact distinct_sampleTask
  have titles := congrArg (List.map Prod.fst) reached_sampleExport
  have tables := congrArg (List.map Prod.snd) reached_sampleExport
  rw [List.map_map] at titles tables
  have tables : c.bindings.map (·.tableName 4242) = _ := tables
  have plain : ∀ b ∈ c.bindings, '/' ∉ b.name.toList := plain_of_names titles (by decide)
  obtain ⟨names, exports⟩ := tables_written "perf" sampleThreads false {} sampleExport distinct 4242
  obtain ⟨writes, stays⟩ := exports "/out" sampleOutput [] plain list_sampleOutput
    (List.forall_mem_nil _)
  have fit : ∀ b ∈ c.bindings, Files.Node.FileName "/out" (b.tableName 4242) :=
    fileName_out tables (by decide)
  obtain ⟨files', written⟩ := writes.mpr fit
  obtain ⟨after, listed', _, back, size⟩ := stays files' written
  have free : c.bindings.Pairwise fun b b' => ¬b.Clash 4242 b' := by
    have apart : (c.bindings.map (·.tableName 4242)).Nodup := by
      rw [tables]
      decide
    rw [List.nodup_iff_pairwise_ne, List.pairwise_map] at apart
    exact names.imp₂ (fun b b' clashes ne clash => ne (clashes.mpr clash)) apart
  have three : c.bindings.length = 3 :=
    (List.length_map ..).symm.trans (congrArg List.length tables)
  obtain ⟨b, rest, split, is, _⟩ := List.map_eq_cons_iff.mp tables
  have split : c.bindings = b :: rest := split
  have first : b.tableName 4242 = "patrace-1101.csv" := is
  refine ⟨distinct, files', after, written, listed', ((size rfl).2.mpr free).trans three, b,
    by rw [split]; rfl, first, ?_⟩
  rw [← first]
  rw [split] at free
  exact back [] b rest split fun b' later => List.rel_of_pairwise_cons free later

/-- Two threads of the workload; the name of the second one is that of the first one with the first
digit of its number. -/
def sampleNamesakes : Site :=
  { sampleTask with
    files := .dir [("task", .dir [("23", .dir [("comm", .file (some "patrace-1\n"))]),
      ("3", .dir [("comm", .file (some "patrace-12\n"))])])] }

theorem distinct_sampleNamesakes : sampleNamesakes.Distinct := by
  have listed : sampleNamesakes.numbers = .ok [23, 3] := by cbv
  exact Site.distinct_of_numbers listed (by decide)

def sampleOverlap : List Act :=
  [.init sampleNamesakes, .start, .outside (.tick 23 none [10, 4]),
    .outside (.tick 3 none [700, 50]), .collect 1, .stop]

/-- The tables of both threads are written to one file, and nothing tells of it. -/
theorem lost_table_sampleOverlap :
    let c := ((fresh "perf" sampleThreads false {}).run sampleOverlap).collector
    sampleNamesakes.Distinct ∧ (∀ b ∈ c.bindings, '/' ∉ b.name.toList) ∧
      c.bindings.map (fun b => (b.tid, b.tableName 4242, (b.series "misses").values)) =
        [(some 3, "patrace-123.csv", [50]), (some 23, "patrace-123.csv", [4]),
          (none, "app-booker-ci4242.csv", [])] ∧
      ∃ files' after, c.writeTables 4242 "/out" sampleOutput = (.ok (), files') ∧
        files'.list "/out" = .ok after ∧ after.length < c.bindings.length := by
  intro c
  have all : c.bindings.map (fun b =>
      (b.name, b.tid, b.tableName 4242, (b.series "misses").values)) =
      [("patrace-12", some 3, "patrace-123.csv", [50]),
        ("patrace-1", some 23, "patrace-123.csv", [4]),
        ("app", none, "app-booker-ci4242.csv", [])] := by
    simp only [c]
    cbv
  have reached := congrArg (List.map fun e => e.2) all
  have titles := congrArg (List.map fun e => e.1) all
  have tables := congrArg (List.map fun e => e.2.2.1) all
  rw [List.map_map] at reached titles tables
  have tables : c.bindings.map (·.tableName 4242) = _ := tables
  have plain : ∀ b ∈ c.bindings, '/' ∉ b.name.toList := plain_of_names titles (by decide)
  have fit := fileName_out tables (by decide)
  have only : Files.OnlyFiles [] := List.forall_mem_nil _
  have down : ∀ b ∈ c.bindings, Files.Node.StepsDown (b.tableName 4242) := fun b member =>
    (fit b member).down
  obtain ⟨files', written⟩ := (Collector.exists_writeTables_iff list_sampleOutput only down).mpr fit
  obtain ⟨listed, _⟩ := Collector.list_writeTables list_sampleOutput only down written
  refine ⟨distinct_sampleNamesakes, plain, reached, files', _, written, listed, ?_⟩
  obtain ⟨le, eq_iff⟩ := c.length_filed_tables 4242
  refine Nat.lt_of_le_of_ne le fun all => ?_
  have nodup := eq_iff.mp all
  rw [tables] at nodup
  exact absurd nodup (by decide)

end Engine

end ScopeMeter

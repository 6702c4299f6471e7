import ScopeMeter.Plan.Discovery
import ScopeMeter.Proofs.Plan.WellFormed
import ScopeMeter.Proofs.Thread.Listing

/-!
# Planned bindings

Every binding that a plan needs has events to open (`Tidy.opens`), because no group of a plan is
empty; and those that follow a thread have one.  `Config.discover_plan` tells the bindings
of a plan one by one: no two of them are for the same thread and the same class, and each opens the
group of its own device.
-/

namespace ScopeMeter

namespace Thread

variable {t : Thread} {allThread : Bool}

/-- No name starts like that of a workload thread and like that of a background thread. -/
theorem not_isBackground_of_isReplay {name : String} (replay : isReplay name) :
    isBackground name = false := by
  obtain ⟨rest, named⟩ := String.startsWith_string_iff.mp replay
  rw [Bool.eq_false_iff]
  intro background
  obtain ⟨start, known, starts⟩ := List.any_eq_true.mp background
  obtain ⟨rest', named'⟩ := String.startsWith_string_iff.mp starts
  rw [← named] at named'
  simp only [backgroundStarts, List.mem_cons, List.not_mem_nil, or_false] at known
  rcases known with rfl | rfl
  · cases (List.cons.inj named').1
  · cases (List.cons.inj named').1

theorem role?_eq_replay_iff : t.role? allThread = some .replay ↔ isReplay t.name := by
  unfold role?
  split
  next replay => exact iff_of_true rfl replay
  next other =>
    refine iff_of_false ?_ other
    split <;> nofun

theorem role?_eq_background_iff :
    t.role? allThread = some .background ↔ allThread = true ∧ isBackground t.name := by
  unfold role?
  split
  next replay =>
    refine iff_of_false nofun ?_
    rw [not_isBackground_of_isReplay replay]
    exact fun both => Bool.false_ne_true both.2
  next =>
    rw [← Bool.and_eq_true]
    split
    next counted => exact iff_of_true rfl counted
    next uncounted => exact iff_of_false nofun uncounted

theorem role?_cases {role : Role} (counted : t.role? allThread = some role) :
    role = .replay ∨ role = .background ∧ allThread = true := by
  unfold role? at counted
  split at counted
  · exact .inl (Option.some.inj counted).symm
  · split at counted
    next both => exact .inr ⟨(Option.some.inj counted).symm, (Bool.and_eq_true_iff.mp both).1⟩
    · cases counted

end Thread

theorem DeviceClass.ofKey_injective : Function.Injective ofKey := by
  intro key key' same
  unfold ofKey at same
  split at same
  next is =>
    split at same
    next is' => rw [is, is']
    next => cases same
  next =>
    split at same
    next => cases same
    next =>
      cases same
      rfl

theorem Keyed.nodup_keys {α : Type} (m : Keyed α) : m.keys.Nodup := by
  apply m.ascending_keys.imp
  intro key key' less same
  rw [same] at less
  exact String.lt_irrefl _ less

/-- What a binding counts: a thread, or none, and a class. -/
def BindingSpec.subject (s : BindingSpec) : Option Int32 × DeviceClass := (s.tid, s.device)

namespace Plan

variable {p : Plan} {threads : List Thread} {process : String} {spec : BindingSpec}

/-- A binding of threads is one of a thread in its role for a device key. -/
theorem mem_roleSpecs {role : Role} : spec ∈ p.roleSpecs threads role ↔
    ∃ t ∈ threads, t.role? p.allThread = some role ∧
      ∃ key ∈ p.deviceEvents.keys, spec = ⟨some t.tid, t.name, role, .ofKey key⟩ := by
  simp only [roleSpecs, threadSpecs, List.mem_flatMap, List.mem_filter, List.mem_map,
    decide_eq_true_eq, and_assoc, @eq_comm _ _ spec]

theorem mem_interconnectSpecs : spec ∈ p.interconnectSpecs process ↔
    p.interconnectEvents ≠ [] ∧ spec = ⟨none, process, .interconnect, .interconnect⟩ := by
  unfold interconnectSpecs
  split
  next none => exact iff_of_false List.not_mem_nil fun some => some.1 (List.isEmpty_iff.mp none)
  next some =>
    rw [List.mem_singleton]
    exact ⟨fun is => ⟨fun none => some (List.isEmpty_iff.mpr none), is⟩, And.right⟩

/-- A binding is one of a thread for a device key, of a coherent subsystem unit, or of the
interconnect, and the units of the whole machine come without threads. -/
theorem bindingSpecs_cases (planned : spec ∈ p.bindingSpecs threads process) :
    (p.cspmuEvents.isEmpty = true ∧ ∃ t ∈ threads, ∃ role, t.role? p.allThread = some role ∧
      ∃ key ∈ p.deviceEvents.keys, spec = ⟨some t.tid, t.name, role, .ofKey key⟩) ∨
    (p.cspmuEvents.isEmpty = false ∧
      ∃ device ∈ p.cspmuEvents.keys, spec = ⟨none, process, .cspmu, .cspmu device⟩) ∨
    (p.cspmuEvents.isEmpty = true ∧ p.interconnectEvents ≠ [] ∧
      spec = ⟨none, process, .interconnect, .interconnect⟩) := by
  unfold bindingSpecs at planned
  split at planned
  next none =>
    rw [List.mem_append, List.mem_append, mem_roleSpecs, mem_roleSpecs, mem_interconnectSpecs]
      at planned
    rcases planned with (⟨t, member, counted, is⟩ | ⟨t, member, counted, is⟩) | interconnect
    · exact .inl ⟨none, t, member, _, counted, is⟩
    · exact .inl ⟨none, t, member, _, counted, is⟩
    · exact .inr (.inr ⟨none, interconnect⟩)
  next units =>
    obtain ⟨device, member, is⟩ := List.mem_map.mp planned
    exact .inr (.inl ⟨Bool.eq_false_iff.mpr units, device, member, is.symm⟩)

/-- The events of a device key are those of its class. -/
theorem eventsFor_ofKey (p : Plan) (key : String) :
    p.eventsFor (.ofKey key) = (p.deviceEvents.get? key).getD [] := by
  unfold DeviceClass.ofKey
  split
  next same =>
    subst same
    rfl
  next => rfl

/-- A binding has events to open: the group of its device key, of its coherent subsystem unit, or
of the interconnect. -/
def Opens (p : Plan) (spec : BindingSpec) : Prop :=
  p.eventsFor spec.device ≠ [] ∧
    ((∃ key, spec.device = .ofKey key ∧
        p.deviceEvents.get? key = some (p.eventsFor spec.device)) ∨
      (∃ device, spec.device = .cspmu device ∧
        p.cspmuEvents.get? device = some (p.eventsFor spec.device)) ∨
      (spec.device = .interconnect ∧ p.eventsFor spec.device = p.interconnectEvents))

theorem Tidy.opens (tidy : p.Tidy) (planned : spec ∈ p.bindingSpecs threads process) :
    p.Opens spec := by
  rcases bindingSpecs_cases planned with ⟨_, _, _, _, _, key, listed, rfl⟩ |
    ⟨_, device, listed, rfl⟩ | ⟨_, filled, rfl⟩
  · obtain ⟨group, found⟩ := Keyed.exists_get?_of_mem_keys listed
    rw [Opens, eventsFor_ofKey, found]
    exact ⟨(tidy.device key group found).1, .inl ⟨key, rfl, found⟩⟩
  · obtain ⟨group, found⟩ := Keyed.exists_get?_of_mem_keys listed
    rw [Opens, eventsFor, found]
    exact ⟨(tidy.cspmu device group found).1, .inr (.inl ⟨device, rfl, found⟩)⟩
  · exact ⟨filled, .inr (.inr ⟨rfl, rfl⟩)⟩

theorem isThreadBound_ofKey (key : String) : (DeviceClass.ofKey key).isThreadBound = true := by
  unfold DeviceClass.ofKey
  split <;> rfl

/-- A binding that follows a thread has one. -/
theorem exists_tid_of_isThreadBound (planned : spec ∈ p.bindingSpecs threads process)
    (bound : spec.device.isThreadBound) : ∃ tid, spec.tid = some tid := by
  rcases bindingSpecs_cases planned with ⟨_, t, _, _, _, _, _, rfl⟩ | ⟨_, _, _, rfl⟩ | ⟨_, _, rfl⟩
  · exact ⟨t.tid, rfl⟩
  · cases bound
  · cases bound

/-- A binding that follows a thread is one of the workload or, if background threads are counted,
of the background; any other one is of a unit of the whole machine. -/
theorem role_of_mem_bindingSpecs (planned : spec ∈ p.bindingSpecs threads process) :
    (spec.device.isThreadBound = true ∧
      (spec.role = .replay ∨ spec.role = .background ∧ p.allThread = true)) ∨
    (spec.device.isThreadBound = false ∧
      ((spec.role = .cspmu ∧ ∃ device, spec.device = .cspmu device) ∨
        (spec.role = .interconnect ∧ spec.device = .interconnect))) := by
  rcases bindingSpecs_cases planned with ⟨_, t, _, role, counted, key, _, rfl⟩ |
    ⟨_, device, _, rfl⟩ | ⟨_, _, rfl⟩
  · refine .inl ⟨isThreadBound_ofKey key, ?_⟩
    rcases Thread.role?_cases counted with rfl | ⟨rfl, allThread⟩
    · exact .inl rfl
    · exact .inr ⟨rfl, allThread⟩
  · exact .inr ⟨rfl, .inl ⟨rfl, device, rfl⟩⟩
  · exact .inr ⟨rfl, .inr ⟨rfl, rfl⟩⟩

/-- Without events of coherent subsystem units, discovery looks at the threads. -/
theorem discover_of_ok {p : Plan} {files : Files.Node} {taskDir : String} {threads : List Thread}
    (none : p.cspmuEvents.isEmpty = true) (listed : Thread.list files taskDir = .ok threads)
    (process : String) :
    p.discover files taskDir process = .ok (p.bindingSpecs threads process) := by
  rw [discover, if_pos none, listed]

theorem discover_of_error {p : Plan} {files : Files.Node} {taskDir : String} {fault : Files.Fault}
    (none : p.cspmuEvents.isEmpty = true) (fails : Thread.list files taskDir = .error fault)
    (process : String) : p.discover files taskDir process = .error (.file fault) := by
  rw [discover, if_pos none, fails]

/-- Discovery succeeds when the threads can be listed, or are not needed. -/
theorem discover_cases (p : Plan) (files : Files.Node) (taskDir process : String) :
    (∃ threads, p.discover files taskDir process = .ok (p.bindingSpecs threads process) ∧
      (p.cspmuEvents.isEmpty = false ∨ Thread.list files taskDir = .ok threads)) ∨
    (∃ e, p.discover files taskDir process = .error e ∧ p.cspmuEvents.isEmpty = true ∧
      ∀ threads, Thread.list files taskDir ≠ .ok threads) := by
  cases units : p.cspmuEvents.isEmpty with
  | false =>
    refine .inl ⟨[], ?_, .inl rfl⟩
    rw [discover, units]
    rfl
  | true =>
    cases listed : Thread.list files taskDir with
    | ok threads => exact .inl ⟨threads, discover_of_ok units listed process, .inr rfl⟩
    | error fault => exact .inr ⟨.file fault, discover_of_error units listed process, rfl, nofun⟩

/-- What is discovered in a directory whose names spell different numbers are the bindings for
threads in ascending order. -/
theorem exists_ascending {files : Files.Node} {taskDir : String} {specs : List BindingSpec}
    (p : Plan)
    (distinct : ∀ entries, files.list taskDir = .ok entries → Thread.DistinctNumbers entries)
    (discovered : p.discover files taskDir process = .ok specs) :
    ∃ threads, Thread.Ascending threads ∧ specs = p.bindingSpecs threads process := by
  rcases p.discover_cases files taskDir process with ⟨threads, ok, units | listed⟩ |
    ⟨e, fails, _⟩
  · -- Coherent subsystem units have bindings without threads.
    refine ⟨[], List.Pairwise.nil, ?_⟩
    rw [Except.ok.inj (discovered.symm.trans ok)]
    simp only [bindingSpecs, units]
    rfl
  · obtain ⟨entries, directory⟩ := Thread.exists_of_list listed
    exact ⟨threads, Thread.ascending_list directory (distinct entries directory) listed,
      Except.ok.inj (discovered.symm.trans ok)⟩
  · cases discovered.symm.trans fails

theorem exists_threads {files : Files.Node} {taskDir : String} {specs : List BindingSpec}
    {p : Plan} (discovered : p.discover files taskDir process = .ok specs) :
    ∃ threads, specs = p.bindingSpecs threads process := by
  rcases p.discover_cases files taskDir process with ⟨threads, ok, _⟩ | ⟨e, fails, _⟩
  · exact ⟨threads, Except.ok.inj (discovered.symm.trans ok)⟩
  · cases discovered.symm.trans fails

/-! ## Which bindings a plan needs -/

/-- Threads with different numbers have different subjects, and so have the keys of a thread. -/
theorem nodup_subjects {ts : List Thread} (apart : (ts.map (·.tid)).Nodup) (p : Plan)
    (role : Role) : ((ts.flatMap (p.threadSpecs role)).map BindingSpec.subject).Nodup := by
  rw [List.map_flatMap, List.nodup_flatMap]
  constructor
  · intro t _
    rw [threadSpecs, List.map_map]
    exact p.deviceEvents.nodup_keys.map fun key key' same =>
      DeviceClass.ofKey_injective (congrArg Prod.snd same)
  · apply (List.pairwise_map.mp (List.nodup_iff_pairwise_ne.mp apart)).imp
    intro t t' ne
    rw [Function.onFun, List.disjoint_left]
    intro pair old new
    simp only [threadSpecs, List.map_map, List.mem_map, Function.comp_apply] at old new
    obtain ⟨_, _, rfl⟩ := old
    obtain ⟨_, _, same⟩ := new
    exact ne (Option.some.inj (congrArg Prod.fst same)).symm

/-- No two bindings of a plan are for the same thread and the same class, when no two threads have
one number. -/
theorem nodup_subjects_of_nodup_tids (apart : (threads.map (·.tid)).Nodup) (p : Plan)
    (process : String) : ((p.bindingSpecs threads process).map BindingSpec.subject).Nodup := by
  have role : ∀ role, ((p.roleSpecs threads role).map BindingSpec.subject).Nodup := by
    intro role
    exact nodup_subjects ((List.filter_sublist.map _).nodup apart) p role
  -- A thread has one role, and threads with one number are one thread.
  have roles : List.Disjoint ((p.roleSpecs threads .replay).map BindingSpec.subject)
      ((p.roleSpecs threads .background).map BindingSpec.subject) := by
    rw [List.disjoint_left]
    intro subject replay background
    obtain ⟨s, listed, rfl⟩ := List.mem_map.mp replay
    obtain ⟨s', listed', same⟩ := List.mem_map.mp background
    obtain ⟨t, member, counted, _, _, rfl⟩ := mem_roleSpecs.mp listed
    obtain ⟨t', member', counted', _, _, rfl⟩ := mem_roleSpecs.mp listed'
    have number : t'.tid = t.tid := Option.some.inj (congrArg Prod.fst same)
    have thread : t' = t := List.inj_on_of_nodup_map apart member' member number
    rw [thread, counted] at counted'
    cases counted'
  have whole : List.Disjoint ((p.roleSpecs threads .replay ++ p.roleSpecs threads .background).map
      BindingSpec.subject) ((p.interconnectSpecs process).map BindingSpec.subject) := by
    rw [List.disjoint_left]
    intro subject thread unit
    obtain ⟨s, listed, rfl⟩ := List.mem_map.mp thread
    obtain ⟨s', listed', same⟩ := List.mem_map.mp unit
    obtain ⟨_, rfl⟩ := mem_interconnectSpecs.mp listed'
    have number : s.tid = none := (congrArg Prod.fst same).symm
    rcases List.mem_append.mp listed with replay | background
    · obtain ⟨_, _, _, _, _, rfl⟩ := mem_roleSpecs.mp replay
      cases number
    · obtain ⟨_, _, _, _, _, rfl⟩ := mem_roleSpecs.mp background
      cases number
  unfold bindingSpecs
  split
  · rw [List.map_append]
    refine List.Nodup.append ?_ ?_ whole
    · rw [List.map_append]
      exact List.Nodup.append (role .replay) (role .background) roles
    · unfold interconnectSpecs
      split
      · exact List.nodup_nil
      · exact List.nodup_singleton _
  · rw [cspmuSpecs, List.map_map]
    exact p.cspmuEvents.nodup_keys.map fun device device' same =>
      DeviceClass.cspmu.inj (congrArg Prod.snd same)

theorem nodup_subjects_bindingSpecs (ascending : Thread.Ascending threads) (p : Plan)
    (process : String) : ((p.bindingSpecs threads process).map BindingSpec.subject).Nodup :=
  p.nodup_subjects_of_nodup_tids ascending.nodup_tids process

theorem roleSpecs_replay (p : Plan) (threads : List Thread) :
    p.roleSpecs threads .replay = (threads.filter fun t => t.name.startsWith "patrace-").flatMap
      fun t => p.deviceEvents.keys.map fun key => ⟨some t.tid, t.name, .replay, .ofKey key⟩ := by
  have counted : (threads.filter fun t => decide (t.role? p.allThread = some .replay)) =
      threads.filter fun t => t.name.startsWith "patrace-" := by
    apply List.filter_congr
    intro t _
    rw [Bool.eq_iff_iff, decide_eq_true_iff, Thread.role?_eq_replay_iff]
    rfl
  rw [roleSpecs, counted]
  rfl

theorem roleSpecs_background (p : Plan) (threads : List Thread) :
    p.roleSpecs threads .background = if p.allThread then
      (threads.filter fun t => t.name.startsWith "mali-" || t.name.startsWith "ANGLE-").flatMap
        fun t => p.deviceEvents.keys.map fun key => ⟨some t.tid, t.name, .background, .ofKey key⟩
      else [] := by
  have counted : (threads.filter fun t => decide (t.role? p.allThread = some .background)) =
      threads.filter fun t => p.allThread &&
        (t.name.startsWith "mali-" || t.name.startsWith "ANGLE-") := by
    apply List.filter_congr
    intro t _
    rw [Bool.eq_iff_iff, decide_eq_true_iff, Thread.role?_eq_background_iff, Bool.and_eq_true,
      Thread.isBackground, Thread.backgroundStarts, List.any_cons, List.any_cons, List.any_nil,
      Bool.or_false]
  rw [roleSpecs, counted]
  cases p.allThread with
  | false =>
    simp only [Bool.false_and, List.filter_false]
    rfl
  | true =>
    rw [if_pos rfl]
    rfl

end Plan

/-- Discovery returns exactly the bindings that a plan needs.  If the plan has groups of coherent
subsystem units, these are one binding for each unit, and the threads are not looked at.  Otherwise
each thread of the workload, in the order of the numbers, has one binding for each device key; then
come those of the background threads, if they are counted, and the one of the interconnect, if it
has events.  The order of the directory makes no difference, no two bindings are for the same
thread and the same class, and each opens the group of its own device, which is not empty. -/
theorem Config.discover_plan (c : Config) (registry : Registry) (perApi : Bool)
    (pmuBits : Option Nat) (files : Files.Node) (taskDir process : String)
    (distinct : ∀ entries, files.list taskDir = .ok entries → Thread.DistinctNumbers entries) :
    let p := (c.plan registry perApi pmuBits).1
    let found := p.discover files taskDir process
    let each (role : Role) (t : Thread) : List BindingSpec :=
      p.deviceEvents.keys.map fun key => ⟨some t.tid, t.name, role, .ofKey key⟩
    (p.deviceEvents.keys.Pairwise (· < ·) ∧ p.cspmuEvents.keys.Pairwise (· < ·)) ∧
    (p.cspmuEvents.isEmpty = false → found =
      .ok (p.cspmuEvents.keys.map fun device => ⟨none, process, .cspmu, .cspmu device⟩)) ∧
    (p.cspmuEvents.isEmpty = true →
      (∀ fault, files.list taskDir = .error fault → found = .error (.file fault)) ∧
      ∀ entries, files.list taskDir = .ok entries → ∃ threads : List Thread,
        Thread.Ascending threads ∧ (∀ t, t ∈ threads ↔ Thread.IsListed files taskDir entries t) ∧
        found = .ok (
          (threads.filter fun t => t.name.startsWith "patrace-").flatMap (each .replay) ++
          (if p.allThread then (threads.filter fun t =>
              t.name.startsWith "mali-" || t.name.startsWith "ANGLE-").flatMap (each .background)
            else []) ++
          if p.interconnectEvents.isEmpty then []
            else [⟨none, process, .interconnect, .interconnect⟩])) ∧
    (∀ entries files' entries', files.list taskDir = .ok entries →
      files'.list taskDir = .ok entries' → entries'.Perm entries →
      (∀ e ∈ entries, files'.readText (Files.join (Files.join taskDir e.1) "comm") =
        files.readText (Files.join (Files.join taskDir e.1) "comm")) →
      p.discover files' taskDir process = found) ∧
    ∀ specs, found = .ok specs →
      (specs.map fun s => (s.tid, s.device)).Nodup ∧ ∀ spec ∈ specs, p.Opens spec := by
  intro p found each
  have tidy : p.Tidy := c.tidy_plan registry perApi pmuBits
  refine ⟨⟨p.deviceEvents.ascending_keys, p.cspmuEvents.ascending_keys⟩, ?_, ?_, ?_, ?_⟩
  · intro units
    simp only [found, Plan.discover, Plan.bindingSpecs, units]
    rfl
  · intro none
    constructor
    · intro fault fails
      apply Plan.discover_of_error none
      rw [Thread.list, fails]
    · intro entries listed
      obtain ⟨threads, threadsFound⟩ := Thread.exists_list listed
      refine ⟨threads, Thread.ascending_list listed (distinct entries listed) threadsFound,
        fun t => Thread.mem_list_iff listed threadsFound, ?_⟩
      have discovers : found = _ := Plan.discover_of_ok none threadsFound process
      rw [discovers]
      simp only [Plan.bindingSpecs, if_pos none, Plan.roleSpecs_replay, Plan.roleSpecs_background,
        Plan.interconnectSpecs]
      rfl
  · intro entries files' entries' listed listed' perm same
    simp only [found, Plan.discover,
      Thread.list_of_perm listed listed' (distinct entries listed) perm same]
  · intro specs discovered
    obtain ⟨threads, ascending, rfl⟩ := p.exists_ascending distinct discovered
    exact ⟨p.nodup_subjects_bindingSpecs ascending process, fun spec planned => tidy.opens planned⟩

/-- A task directory out of order: a thread that has ended, one of the background, two of the
workload, and something else. -/
def sampleTasks : List (String × Files.Node) := [("41", .dir []),
  ("300", .dir [("comm", .file (some "patrace-2\n"))]), ("notes", .file (some "patrace-9\n")),
  ("102", .dir [("comm", .file (some "mali-cmar\n"))]),
  ("7", .dir [("comm", .file (some "patrace-1 \n"))])]

def sampleCounted : Config := { events := [
  .arr [.str "misses", .int 3, .int 4, .null, .null, .null, .null, .null, .null, .null, .null],
  .arr [.str "flits", .int 3, .int 14, .null, .null, .null, .null, .int 1, .null, .null, .null]] }

theorem Config.discover_plan_sampleTasks :
    let files : Files.Node := .dir sampleTasks
    let p := (sampleCounted.plan ⟨.dir [], "/"⟩ false none).1
    Thread.DistinctNumbers sampleTasks ∧
    p.discover files "/" "app" = .ok [⟨some 7, "patrace-1", .replay, .single⟩,
      ⟨some 300, "patrace-2", .replay, .single⟩, ⟨some 102, "mali-cmar", .background, .single⟩,
      ⟨none, "app", .interconnect, .interconnect⟩] ∧
    p.discover (.dir sampleTasks.reverse) "/" "app" = p.discover files "/" "app" := by
  intro files p
  have listed : (Files.Node.dir sampleTasks).list "/" = .ok sampleTasks := by cbv
  have listed' : (Files.Node.dir sampleTasks.reverse).list "/" = .ok sampleTasks.reverse := by cbv
  have numbers : (sampleTasks.filterMap fun e => Thread.tid? e.1) = [41, 300, 102, 7] := by cbv
  have distinct : Thread.DistinctNumbers sampleTasks := by
    rw [Thread.DistinctNumbers, numbers]
    decide
  have same : ∀ e ∈ sampleTasks,
      (Files.Node.dir sampleTasks.reverse).readText
        (Files.join (Files.join "/" e.1) "comm") =
      (Files.Node.dir sampleTasks).readText (Files.join (Files.join "/" e.1) "comm") := by
    intro e member
    simp only [sampleTasks, List.mem_cons, List.not_mem_nil, or_false] at member
    rcases member with rfl | rfl | rfl | rfl | rfl <;> cbv
  obtain ⟨_, _, _, reordered, _⟩ := sampleCounted.discover_plan ⟨.dir [], "/"⟩ false none files "/"
    "app" (fun entries found => by cases listed.symm.trans found; exact distinct)
  exact ⟨distinct, by cbv, reordered _ _ _ listed listed' sampleTasks.reverse_perm same⟩

end ScopeMeter

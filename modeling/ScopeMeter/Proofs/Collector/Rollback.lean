import ScopeMeter.Proofs.Collector.Idle

/-!
# Starts that are taken back

A start that fails at a binding has started those in front of it, and stops them all again, whether
the kernel refuses one of these stops or not; the bindings behind are not touched.  The calls are
exactly those (`Collector.startAll_at`), and only groups whose stop was refused are left switched
on.  The collector itself is as before, since its bindings are idle (`Engine.failed_start`).
-/

namespace ScopeMeter

/-! ## The calls of a start and of a stop -/

/-- The open counter that a call is about. -/
def CallRecord.target? : CallRecord → Option Nat
  | controlled _ handle _ | read handle _ => some handle
  | _ => none

namespace Group

/-- The calls that start a group. -/
def startCalls (g : Group) : List CallRecord :=
  match g.leader? with
  | some leader => [.controlled .reset leader none, .controlled .enable leader none]
  | none => []

/-- The calls of a start of the group that the kernel refuses, at the first call or at the
second. -/
inductive RefusedStart (g : Group) : List CallRecord → Prop
  | reset {leader : Nat} (opened : g.leader? = some leader) (number : Errno) :
    RefusedStart g [.controlled .reset leader (some number)]
  | enable {leader : Nat} (opened : g.leader? = some leader) (number : Errno) :
    RefusedStart g [.controlled .reset leader none, .controlled .enable leader (some number)]

/-- A call that stops the group, whether it succeeds or not. -/
def StopCall (g : Group) (call : CallRecord) : Prop :=
  ∃ leader outcome, g.leader? = some leader ∧ call = .controlled .disable leader outcome

variable {g : Group} {leader : Nat}

theorem target_startCalls {call : CallRecord} (member : call ∈ g.startCalls) :
    call.target? = g.leader? := by
  unfold startCalls at member
  cases opened : g.leader? with
  | none =>
    rw [opened] at member
    cases member
  | some leader =>
    rw [opened] at member
    rcases List.mem_cons.mp member with rfl | member
    · rfl
    · rw [List.mem_singleton.mp member]
      rfl

theorem RefusedStart.target {refused : List CallRecord} (starts : g.RefusedStart refused)
    {call : CallRecord} (member : call ∈ refused) : call.target? = g.leader? := by
  cases starts with
  | reset opened number =>
    rw [List.mem_singleton.mp member]
    exact opened.symm
  | enable opened number =>
    rcases List.mem_cons.mp member with rfl | member
    · exact opened.symm
    · rw [List.mem_singleton.mp member]
      exact opened.symm

theorem StopCall.target {call : CallRecord} (stop : g.StopCall call) :
    call.target? = g.leader? := by
  obtain ⟨leader, outcome, opened, rfl⟩ := stop
  exact opened.symm

/-- A start makes its two calls, or one of them is refused. -/
theorem start_made (opened : g.leader? = some leader) (h : Host) :
    ((g.start h).1 = .ok () ∧ (g.start h).2.trace = h.trace ++ g.startCalls) ∨
    ∃ e refused, (g.start h).1 = .error e ∧ g.RefusedStart refused ∧
      (g.start h).2.trace = h.trace ++ refused := by
  unfold start startCalls
  simp only [opened, controlAll]
  rcases h.control_made .reset leader with ⟨fault, number, failed, made⟩ | ⟨ok, made⟩
  · rcases reset : h.control .reset leader with ⟨result, h'⟩
    rw [reset] at failed made
    cases failed
    exact .inr ⟨_, _, rfl, .reset opened number, made.trace⟩
  · rcases reset : h.control .reset leader with ⟨result, h'⟩
    rw [reset] at ok made
    cases ok
    dsimp only
    rcases h'.control_made .enable leader with ⟨fault, number, failed, made'⟩ | ⟨ok, made'⟩
    · rcases enable : h'.control .enable leader with ⟨result, h''⟩
      rw [enable] at failed made'
      cases failed
      exact .inr ⟨_, _, rfl, .enable opened number, (made.trans made').trace⟩
    · rcases enable : h'.control .enable leader with ⟨result, h''⟩
      rw [enable] at ok made'
      cases ok
      exact .inl ⟨rfl, (made.trans made').trace⟩

theorem stop_host (opened : g.leader? = some leader) (h : Host) :
    (g.stop h).2 = (h.control .disable leader).2 := by
  unfold stop
  simp only [opened, controlAll]
  rcases h.control .disable leader with ⟨_ | _, h'⟩ <;> rfl

/-- A stop makes its call, and switches the group off unless that is refused. -/
theorem stop_made (opened : g.leader? = some leader) (h : Host) :
    ∃ call, g.StopCall call ∧ (g.stop h).2.trace = h.trace ++ [call] ∧
      ∀ on, h.Running on →
        (g.stop h).2.Running fun other => on other ∧ call ≠ .controlled .disable other none := by
  rw [stop_host opened]
  rcases h.control_made .disable leader with ⟨fault, number, failed, made⟩ | ⟨ok, made⟩
  · refine ⟨_, ⟨leader, some number, opened, rfl⟩, made.trace, ?_⟩
    intro on running
    rcases h.control_cases .disable leader with ⟨_, _, unchanged⟩ | ⟨ok, _⟩
    · exact (running.of_unchanged unchanged).congr fun other => ⟨fun is => ⟨is, nofun⟩, And.left⟩
    · cases failed.symm.trans ok
  · refine ⟨_, ⟨leader, none, opened, rfl⟩, made.trace, ?_⟩
    intro on running
    refine (running.disable_ok ok).congr fun other => and_congr_right fun _ => not_congr ?_
    rw [CallRecord.controlled.injEq]
    exact ⟨fun same => ⟨rfl, same.symm, rfl⟩, fun same => same.2.1.symm⟩

end Group

/-! ## Starting all bindings, up to one that fails -/

namespace Collector

variable {started front back bs : List Binding} {b : Binding} {h : Host}

/-- What is started behind bindings that could all be started. -/
theorem startAll_append (ok : (startAll started front h).result = true) (back : List Binding) :
    startAll started (front ++ back) h =
      startAll (started ++ front) back (startAll started front h).host := by
  induction front generalizing started h with
  | nil =>
    rw [List.append_nil]
    rfl
  | cons b front ih =>
    rw [List.cons_append, startAll]
    rw [startAll] at ok ⊢
    rcases begun : b.start h with ⟨result, h'⟩
    rw [begun] at ok
    cases result with
    | error e => cases ok
    | ok _ =>
      have rest : startAll (started ++ [b]) (front ++ back) h' = _ := ih ok
      rwa [List.append_assoc, List.singleton_append] at rest

/-- A start of bindings that fails does so at one of them, behind some that could be started. -/
theorem exists_of_startAll (failed : (startAll started bs h).result = false) :
    ∃ front b back, bs = front ++ b :: back ∧ (startAll started front h).result = true ∧
      ∃ e, (b.start (startAll started front h).host).1 = .error e := by
  induction bs generalizing started h with
  | nil => cases failed
  | cons b bs ih =>
    rw [startAll] at failed
    rcases begun : b.start h with ⟨result, h'⟩
    rw [begun] at failed
    cases result with
    | error e => exact ⟨[], b, bs, rfl, rfl, e, congrArg Prod.fst begun⟩
    | ok _ =>
      obtain ⟨front, c, back, rfl, ok, e, refused⟩ := ih failed
      refine ⟨b :: front, c, back, rfl, ?_⟩
      rw [startAll, begun]
      exact ⟨ok, e, refused⟩

/-- When all bindings could be started, the calls are those of one group behind the other, and
these groups are switched on. -/
theorem startAll_made (opened : ∀ b ∈ bs, ∃ leader, b.group.leader? = some leader)
    (ok : (startAll started bs h).result = true) :
    (startAll started bs h).host.trace = h.trace ++ bs.flatMap (·.group.startCalls) ∧
      ∀ on, h.Running on → (startAll started bs h).host.Running fun leader =>
        on leader ∨ some leader ∈ bs.map (·.group.leader?) := by
  induction bs generalizing started h with
  | nil =>
    refine ⟨(List.append_nil _).symm, fun on running => running.congr fun leader => ?_⟩
    exact ⟨.inl, fun either => either.resolve_right List.not_mem_nil⟩
  | cons b bs ih =>
    obtain ⟨leader, opens⟩ := opened b List.mem_cons_self
    have calls := Group.start_made opens h
    have switches := fun on (running : h.Running on) => b.group.running_start running
    rw [startAll] at ok ⊢
    rcases begun : b.start h with ⟨result, h'⟩
    have start : b.group.start h = (result, h') := begun
    rw [start] at calls switches
    rw [begun] at ok
    cases result with
    | error e => cases ok
    | ok _ =>
      obtain ⟨trace, running⟩ := ih (fun b' mem => opened b' (List.mem_cons_of_mem _ mem)) ok
      rcases calls with ⟨_, first⟩ | ⟨e, _, failed, _⟩
      · dsimp only at first ⊢
        refine ⟨?_, ?_⟩
        · rw [trace, first, List.flatMap_cons, List.append_assoc]
        · intro on was
          rcases switches on was with ⟨_, now⟩ | ⟨e, failed, _⟩
          · refine (running _ now).congr fun other => ?_
            rw [List.map_cons, List.mem_cons, or_assoc, eq_comm (a := some other)]
          · cases failed
      · cases failed

/-- When bindings are stopped, each of them is, and the groups are switched off whose stop is not
refused. -/
theorem stopAll_made (opened : ∀ b ∈ bs, ∃ leader, b.group.leader? = some leader) (h : Host) :
    ∃ undone, List.Forall₂ (fun b call => b.group.StopCall call) bs undone ∧
      (stopAll bs h).host.trace = h.trace ++ undone ∧
      ∀ on, h.Running on → (stopAll bs h).host.Running fun leader =>
        on leader ∧ .controlled .disable leader none ∉ undone := by
  unfold stopAll
  generalize (fun (b : Binding) e => Notice.stopFailed b.name e) = notice
  induction bs generalizing h with
  | nil =>
    refine ⟨[], .nil, (List.append_nil _).symm, fun on running => running.congr fun leader => ?_⟩
    exact ⟨fun is => ⟨is, List.not_mem_nil⟩, And.left⟩
  | cons b bs ih =>
    obtain ⟨leader, opens⟩ := opened b List.mem_cons_self
    obtain ⟨call, stop, trace, off⟩ := Group.stop_made opens h
    have noted : (b.stop h).host.Unchanged (stepHost Binding.stop notice b h) :=
      unchanged_stepHost b h
    have silent : (stepHost Binding.stop notice b h).trace = (b.group.stop h).2.trace := by
      unfold stepHost
      split <;> rfl
    obtain ⟨undone, stops, rest, offs⟩ := ih
      (fun b' mem => opened b' (List.mem_cons_of_mem _ mem)) (stepHost Binding.stop notice b h)
    rw [sweep_cons]
    refine ⟨call :: undone, .cons stop stops, ?_, ?_⟩
    · rw [rest, silent, trace, List.append_assoc, List.singleton_append]
    · intro on running
      refine (offs _ ((off on running).of_unchanged noted)).congr fun other => ?_
      rw [List.mem_cons, not_or, and_assoc, ne_comm (a := call)]

/-- The calls of a start that fails at a binding: those that start the bindings in front of it,
those of its own start up to the one that is refused, and then one stop for each binding in front
of it. -/
structure FailedStart (front : List Binding) (b : Binding) (calls undone : List CallRecord) :
    Prop where
  stops : List.Forall₂ (fun c call => c.group.StopCall call) front undone
  made : ∃ refused, b.group.RefusedStart refused ∧
    calls = front.flatMap (·.group.startCalls) ++ refused ++ undone

/-- All of them are calls on these bindings. -/
theorem FailedStart.target {calls undone : List CallRecord}
    (fails : FailedStart front b calls undone) :
    ∀ call ∈ calls, call.target? ∈ (front ++ [b]).map (·.group.leader?) := by
  obtain ⟨stops, refused, refuses, rfl⟩ := fails
  have listed : ∀ {call : CallRecord} {c : Binding}, c ∈ front ++ [b] →
      call.target? = c.group.leader? → call.target? ∈ (front ++ [b]).map (·.group.leader?) := by
    intro call c member target
    exact List.mem_map.mpr ⟨c, member, target.symm⟩
  intro call member
  rw [List.mem_append, List.mem_append] at member
  rcases member with (starts | refusal) | undoes
  · obtain ⟨c, mem, calls⟩ := List.mem_flatMap.mp starts
    exact listed (List.mem_append_left _ mem) (Group.target_startCalls calls)
  · exact listed (List.mem_append_right _ List.mem_cons_self) (refuses.target refusal)
  · obtain ⟨c, mem, stop⟩ := exists_of_mem_right stops undoes
    exact listed (List.mem_append_left _ mem) stop.target

/-- A start that fails at a binding makes the calls of such a start.  Of the groups that it has
switched on, those stay on whose stop is refused. -/
theorem startAll_at (opened : ∀ c ∈ front ++ [b], ∃ leader, c.group.leader? = some leader)
    (begun : (startAll [] front h).result = true) {e : Error}
    (failed : (b.start (startAll [] front h).host).1 = .error e) (back : List Binding) :
    let after := startAll [] (front ++ b :: back) h
    after.result = false ∧ ∃ calls undone, FailedStart front b calls undone ∧
      after.host.trace = h.trace ++ calls ∧
      ∀ on, h.Running on → after.host.Running fun leader =>
        (on leader ∨ some leader ∈ front.map (·.group.leader?)) ∧
          .controlled .disable leader none ∉ undone := by
  intro after
  have fronts : ∀ c ∈ front, ∃ leader, c.group.leader? = some leader := fun c mem =>
    opened c (List.mem_append_left _ mem)
  obtain ⟨leader, opens⟩ := opened b (List.mem_append_right _ List.mem_cons_self)
  obtain ⟨first, running⟩ := startAll_made fronts begun
  have calls := Group.start_made opens (startAll [] front h).host
  have switches := fun on (was : (startAll [] front h).host.Running on) =>
    b.group.running_start was
  rcases start : b.start (startAll [] front h).host with ⟨result, k⟩
  have group : b.group.start (startAll [] front h).host = (result, k) := start
  rw [group] at calls switches
  rw [start] at failed
  cases failed
  let noted := k.note (.startFailed b.name e)
  obtain ⟨undone, stops, last, off⟩ := stopAll_made fronts noted
  have become : after =
      ⟨false, (stopAll front noted).next ++ b :: back, (stopAll front noted).host⟩ := by
    have rest : after = _ := startAll_append begun (b :: back)
    rw [rest, List.nil_append, startAll, start]
  rcases calls with ⟨ok, _⟩ | ⟨_, refused, _, refuses, middle⟩
  · cases ok
  · rw [become]
    refine ⟨rfl, _, undone, ⟨stops, refused, refuses, rfl⟩, ?_, ?_⟩
    · have before : noted.trace = k.trace := rfl
      rw [last, before, middle, first, List.append_assoc, List.append_assoc, List.append_assoc]
    · intro on was
      rcases switches _ (running on was) with ⟨ok, _⟩ | ⟨_, _, still⟩
      · cases ok
      · exact off _ (still.of_unchanged (Host.unchanged_note ..))

end Collector

/-! ## A collector whose start fails -/

namespace Engine

/-- A start fails at a binding: those in front of it can be started, and then it cannot. -/
structure FailsAt (e : Engine) (front : List Binding) (b : Binding) (back : List Binding) :
    Prop where
  bindings : e.bindings = front ++ b :: back
  begun : (Collector.startAll [] front e.host).result = true
  failed : ∃ error, (b.start (Collector.startAll [] front e.host).host).1 = .error error

variable {e : Engine} {front back : List Binding} {b : Binding}

/-- A start that fails at a binding makes the calls of such a start, none of them on a binding
behind that one; and of the groups up to there only those in front of it can be left on. -/
theorem FailsAt.startAll (valid : e.Valid) (fails : e.FailsAt front b back) :
    let after := Collector.startAll [] e.bindings e.host
    after.result = false ∧ ∃ calls undone, Collector.FailedStart front b calls undone ∧
      after.host.trace = e.host.trace ++ calls ∧
      (∀ call ∈ calls, ∀ c ∈ back, call.target? ≠ c.group.leader?) ∧
      (∀ leader ∈ front.map (·.group.leader?), ∀ c ∈ b :: back, leader ≠ c.group.leader?) ∧
      ∀ on, e.host.Running on → after.host.Running fun leader =>
        (on leader ∨ some leader ∈ front.map (·.group.leader?)) ∧
          .controlled .disable leader none ∉ undone := by
  obtain ⟨bindings, begun, _, failed⟩ := fails
  have opened : ∀ c ∈ front ++ [b], ∃ leader, c.group.leader? = some leader := by
    intro c member
    have known : c ∈ e.bindings := by
      rw [bindings, List.append_cons]
      exact List.mem_append_left _ member
    obtain ⟨_, leader, holds⟩ := valid.owned.holds c known
    exact ⟨leader, holds.opened⟩
  have apart : ∀ {first second : List Binding}, e.bindings = first ++ second →
      ∀ leader ∈ first.map (·.group.leader?), ∀ c ∈ second, leader ≠ c.group.leader? := by
    intro first second parts leader leads c behind
    have distinct := valid.owned.apart
    rw [parts, List.map_append, List.nodup_append] at distinct
    exact distinct.2.2 _ leads _ (List.mem_map_of_mem behind)
  intro after
  have split : after = Collector.startAll [] (front ++ b :: back) e.host := by rw [← bindings]
  rw [split]
  obtain ⟨result, calls, undone, failedStart, trace, running⟩ :=
    Collector.startAll_at opened begun failed back
  refine ⟨result, calls, undone, failedStart, trace, ?_, apart bindings, running⟩
  intro call member
  exact apart (bindings.trans (List.append_cons ..)) _ (failedStart.target call member)

/-- A start of a collector that is prepared and not started fails just if its bindings cannot all
be started, and then leaves the collector as it is. -/
theorem Rested.answer_start (rested : e.Rested) (unstarted : e.collector.state ≠ .started)
    (prepared : e.collector.state ≠ .uninitialized) :
    let after := Collector.startAll [] e.bindings e.host
    e.answer .start = after.result ∧
      (after.result = false → e.next .start = ⟨e.collector, after.host⟩) := by
  intro after
  have bindings : after.next = e.bindings :=
    Collector.next_startAll (rested unstarted) e.host
  rcases e.start_cases with ⟨started, _⟩ | ⟨unprepared, _⟩ |
    ⟨_, _, ⟨ok, answer, _⟩ | ⟨fails, answer, next⟩⟩
  · exact absurd started unstarted
  · exact absurd unprepared prepared
  · refine ⟨answer.trans ok.symm, fun failed => ?_⟩
    cases ok.symm.trans failed
  · refine ⟨answer.trans fails.symm, fun _ => ?_⟩
    have next : e.next .start = ⟨{ e.collector with bindings := after.next }, after.host⟩ := next
    rw [next, bindings]
    rfl

/-- Whatever was done with a collector before: when it is prepared and not started, and no counter
is switched on, a start fails just if it fails at one of the bindings.  Then nothing about the
collector has changed, and no counter was opened or closed; the bindings in front of that one were
started and stopped again, each of them whether or not other stops are refused, and no call was
made on those behind it; and only the groups in front of it whose stop was refused are on. -/
theorem failed_start {h : Host} (sound : h.Sound) (name : String) (config : Json) (perApi : Bool)
    (acts : List Act) :
    let e := (fresh name config perApi h).run acts
    let e' := e.next .start
    (e.collector.state = .initialized ∨ e.collector.state = .stopped) →
    (∀ c ∈ e.host.counters, c.enabled = false) →
      (e.answer .start = false ↔ ∃ front b back, e.FailsAt front b back) ∧
      ∀ front b back, e.FailsAt front b back →
        e'.collector = e.collector ∧ e'.host.identities = e.host.identities ∧
        ∃ calls undone, Collector.FailedStart front b calls undone ∧
          e'.host.trace = e.host.trace ++ calls ∧
          (∀ call ∈ calls, ∀ c ∈ back, call.target? ≠ c.group.leader?) ∧
          (∀ leader ∈ front.map (·.group.leader?), ∀ c ∈ b :: back, leader ≠ c.group.leader?) ∧
          ∀ c ∈ e'.host.counters, c.enabled = true ↔
            some c.leader ∈ front.map (·.group.leader?) ∧
              .controlled .disable c.leader none ∉ undone := by
  intro e e' idle off
  have begun := valid_fresh name config perApi sound
  have valid : e.Valid := begun.run acts
  have rested : e.Rested := (rested_fresh name config perApi h).run begun acts
  have unstarted : e.collector.state ≠ .started := by
    rcases idle with is | is <;> rw [is] <;> nofun
  have prepared : e.collector.state ≠ .uninitialized := by
    rcases idle with is | is <;> rw [is] <;> nofun
  obtain ⟨answer, next⟩ := rested.answer_start unstarted prepared
  refine ⟨⟨?_, ?_⟩, ?_⟩
  · intro refused
    obtain ⟨front, b, back, bindings, started, failed⟩ :=
      Collector.exists_of_startAll (answer.symm.trans refused)
    exact ⟨front, b, back, bindings, started, failed⟩
  · rintro ⟨front, b, back, fails⟩
    exact answer.trans (fails.startAll valid).1
  · intro front b back fails
    obtain ⟨result, calls, undone, failedStart, trace, behind, apart, running⟩ :=
      fails.startAll valid
    have become : e' = _ := next result
    have stood : e.host.Running fun _ => False := fun c live =>
      iff_of_false (by rw [off c live]; nofun) id
    have same := Collector.sameCounters_startAll [] e.bindings e.host
    rw [become]
    refine ⟨rfl, same.identities, calls, undone, failedStart, trace, behind, apart, ?_⟩
    exact (running _ stood).congr fun leader => and_congr_left fun _ => by rw [false_or]

/-- Four units of the coherent subsystem. -/
def sampleFleet : Site :=
  { sampleSite with
    files := .dir [("east", .dir [("type", .file (some "8\n"))]),
      ("north", .dir [("type", .file (some "9\n"))]),
      ("south", .dir [("type", .file (some "10\n"))]),
      ("west", .dir [("type", .file (some "11\n"))])] }

def sampleFleetDocument : Json :=
  .arr [.null, .null, .arr [sampleUnit "east" "reads" 3, sampleUnit "north" "reads" 3,
    sampleUnit "south" "reads" 3, sampleUnit "west" "reads" 3]]

/-- The start of the third unit is to fail, and then the stop of the first. -/
def sampleRefusals : List Act :=
  [.init sampleFleet,
    .outside (.fault { call := .control .enable, skip := 2, effect := .fail 28 }),
    .outside (.fault { call := .control .disable, effect := .fail 5 })]

theorem failed_start_sampleRefusals :
    let e := (fresh "perf" sampleFleetDocument false {}).run sampleRefusals
    e.collector.state = .initialized ∧ (∀ c ∈ e.host.counters, c.enabled = false) ∧
      e.answer .start = false ∧ (e.next .start).collector = e.collector ∧
      ((e.next .start).host.counters.map fun c => (c.leader, c.enabled)) =
        [(1000, true), (1001, false), (1002, false), (1003, false)] ∧
      ∃ front b back, e.FailsAt front b back ∧ some 1000 ∈ front.map (·.group.leader?) := by
  intro e
  have reached : (e.collector.state, e.host.counters.map (·.enabled), e.answer .start,
      (e.next .start).host.counters.map fun c => (c.leader, c.enabled)) =
      (.initialized, [false, false, false, false], false,
        [(1000, true), (1001, false), (1002, false), (1003, false)]) := by
    simp only [e]
    cbv
  rw [Prod.mk.injEq, Prod.mk.injEq, Prod.mk.injEq] at reached
  obtain ⟨state, switches, refused, after⟩ := reached
  have off : ∀ c ∈ e.host.counters, c.enabled = false := by
    intro c live
    have listed : c.enabled ∈ e.host.counters.map (·.enabled) := List.mem_map_of_mem live
    rw [switches] at listed
    simpa using listed
  obtain ⟨fails, taken⟩ :=
    failed_start (.of_counters_eq_nil rfl) "perf" sampleFleetDocument false sampleRefusals
      (.inl state) off
  obtain ⟨front, b, back, failsAt⟩ := fails.mp refused
  obtain ⟨same, _, _, _, _, _, _, _, on⟩ := taken front b back failsAt
  have first : (1000, true) ∈ (e.next .start).host.counters.map fun c => (c.leader, c.enabled) := by
    rw [after]
    exact List.mem_cons_self
  obtain ⟨c, live, is⟩ := List.mem_map.mp first
  obtain ⟨leader, enabled⟩ := Prod.mk.inj is
  have started := ((on c live).mp enabled).1
  rw [leader] at started
  exact ⟨state, off, refused, same, after, front, b, back, failsAt, started⟩

end Engine

end ScopeMeter

import Mathlib
import ScopeMeter.Proofs.Collector.Run

/-!
# No count is lost or counted twice

What an event has in its series and what its counter still holds make up its ledger.  A round
moves the count from the counter into the series; a read that fails leaves it on the counter for a
later round.  So from a start on the ledger grows by exactly what ticks add to the counter, over
every run in which what is read is read whole and then zeroed (`total_add_counted`).
-/

namespace ScopeMeter

theorem Snapshot.value_zeroed (size index : Nat) : (zeroed size).value index = 0 := by
  rw [value, zeroed, List.getElem?_replicate]
  split <;> rfl

/-- Whether the next collection of the group, as far as it can read, reads the whole group and
zeroes it. -/
def Group.collectsWhole (g : Group) (h : Host) : Bool :=
  g.readsWhole h &&
    match g.read h with
    | (.ok _, h) => g.leader?.all fun leader => (h.control .reset leader).1.isOk
    | (.error _, _) => true

theorem Group.reset_of_collectsWhole {g : Group} {h : Host} (whole : g.collectsWhole h)
    {snap : Snapshot} (read : (g.read h).1 = .ok snap) {leader : Nat}
    (opened : g.leader? = some leader) : ((g.read h).2.control .reset leader).1 = .ok () := by
  unfold collectsWhole at whole
  rcases eq : g.read h with ⟨result, h'⟩
  rw [eq] at whole read
  cases read
  rw [opened, Bool.and_eq_true] at whole
  dsimp only [Option.all_some] at whole ⊢
  cases reset : (h'.control .reset leader).1 with
  | ok _ => rfl
  | error fault =>
    rw [reset] at whole
    cases whole.2

namespace Binding

variable {b b' : Binding} {h h' : Host} {leader index : Nat} {name : String}

/-- What the series of an event has taken up, and what the counter at its position still holds. -/
def ledger (b : Binding) (h : Host) (name : String) (index : Nat) : Int64 :=
  (b.series name).total + (b.group.counted h index).toInt64

theorem ledger_eq (sound : h.Sound) (holds : b.group.Holds h leader) (name : String)
    (index : Nat) :
    b.ledger h name index = (b.series name).total + (h.count leader index).toInt64 := by
  rw [ledger, holds.counted_eq sound]

theorem ledger_summarize (b : Binding) (h : Host) (name : String) (index : Nat) :
    b.summarize.ledger h name index = b.ledger h name index := by
  rw [ledger, ledger, series_summarize, Series.total_summarize]
  rfl

/-- A round takes up what the counters hold, or nothing when they cannot be read. -/
theorem ledger_collect (holds : b.group.Holds h leader) (fitted : b.Fitted)
    (distinct : b.eventNames.Nodup) (named : b.eventNames[index]? = some name) (now : Int64)
    (whole : b.group.collectsWhole h) :
    ((b.collect now h).next.series name).total +
        ((b.collect now h).host.count leader index).toInt64 =
      (b.series name).total + (h.count leader index).toInt64 := by
  obtain ⟨_, unchanged, clocks, next⟩ := b.collect_eq now h
  have pushed : (b.collect now h).next.series name =
      (b.series name).push ((b.roundOf (b.group.collect now h).result).value index) := by
    rw [next, series]
    exact congrArg (Option.getD · {}) (get?_addRound distinct named _)
  rw [pushed, Series.total_push, unchanged.count]
  rcases b.group.collect_cases now h with ⟨_, _, failed, _, still⟩ |
    ⟨snap, leader', read, leads, ok, ⟨zeroed, _, host⟩ | ⟨unzeroed, _⟩⟩
  · rw [failed, roundOf, Snapshot.value_zeroed, Int64.add_zero, still.count]
  · cases holds.opened.symm.trans leads
    have member := fitted.index_lt named
    have readsWhole : b.group.readsWhole h := by
      rw [Group.collectsWhole, Bool.and_eq_true] at whole
      exact whole.1
    have value := Group.value_of_read holds readsWhole read member
    rw [ok, host, Host.count_reset zeroed, roundOf, value, toInt64_zero, Int64.add_zero]
  · exact absurd (Group.reset_of_collectsWhole whole read leads) unzeroed

end Binding

namespace Engine

variable {e : Engine} {h : Host} {k index : Nat} {b : Binding} {name : String}

/-- The machine at the turn of the binding at a position when a round is taken. -/
def turn (e : Engine) (now : Int64) (k : Nat) : Host :=
  Collector.hostAt (fun b => b.collect now) (fun b e => .readFailed b.name e) e.bindings e.host k

/-- Whether an act neither stops nor closes the collector and, when it takes a round, what can be
read of a group is read whole and then zeroed. -/
def undisturbed (e : Engine) : Act → Bool
  | .stop | .deinit => false
  | .collect now => (List.range e.bindings.length).all fun k =>
      e.bindings[k]?.all fun b => b.group.collectsWhole (e.turn now k)
  | _ => true

/-- What an act adds to the counter at a position of a binding. -/
def gain (e : Engine) (k index : Nat) : Act → UInt64
  | .outside (.tick tid type amounts) =>
    (e.bindings[k]?.map fun b => b.group.share e.host tid type amounts index).getD 0
  | _ => 0

/-- What ticks add to the counter at a position of a binding in the course of a run. -/
def ticked (k index : Nat) : Engine → List Act → UInt64
  | _, [] => 0
  | e, a :: acts => e.gain k index a + (e.next a).ticked k index acts

theorem collectsWhole_of_undisturbed {now : Int64} (quiet : e.undisturbed (.collect now))
    (bound : e.bindings[k]? = some b) : b.group.collectsWhole (e.turn now k) := by
  simp only [undisturbed, List.all_eq_true, List.mem_range] at quiet
  have all := quiet k (List.getElem?_eq_some_iff.1 bound).1
  rwa [bound] at all

/-- One act on a started collector brings the ledger of an event what it adds to its counter. -/
structure Booked (e e' : Engine) (k : Nat) (b : Binding) (index : Nat) (name : String)
    (amount : UInt64) : Prop where
  started : e'.collector.state = .started
  ledger : ∃ b', e'.bindings[k]? = some b' ∧ b'.eventNames = b.eventNames ∧
    b'.ledger e'.host name index = b.ledger e.host name index + amount.toInt64

theorem Booked.of_unchanged (e e' : Engine) (state : e'.collector.state = .started)
    (bindings : e'.bindings = e.bindings) (unchanged : e.host.Unchanged e'.host)
    (bound : e.bindings[k]? = some b) (index : Nat) (name : String) :
    Booked e e' k b index name 0 := by
  refine ⟨state, b, by rw [bindings, bound], rfl, ?_⟩
  rw [toInt64_zero, Int64.add_zero, Binding.ledger, Binding.ledger, Group.counted, Group.counted]
  have find : e'.host.find? = e.host.find? := by
    funext handle
    rw [Host.find?, Host.find?, unchanged.counters]
  rw [find]

/-- A sweep is booked like the operation on the binding alone. -/
theorem Booked.of_sweep (valid : e.Valid) (started : e.collector.state = .started)
    {op : Binding → Host → Outcome Binding (Except Error Unit)} (isLocal : Collector.IsLocal op)
    {notice : Binding → Error → Notice} (bound : e.bindings[k]? = some b) {h : Host}
    (turn : h = Collector.hostAt op notice e.bindings e.host k)
    (conserves : ∀ leader, b.group.Holds h leader →
      ((op b h).next.series name).total + ((op b h).host.count leader index).toInt64 =
        (b.series name).total + (h.count leader index).toInt64) :
    Booked e ⟨{ e.collector with bindings := (Collector.sweep op notice e.bindings e.host).next },
      (Collector.sweep op notice e.bindings e.host).host⟩ k b index name 0 := by
  obtain ⟨_, leader, holds⟩ := valid.owned.holds b (List.mem_of_getElem? bound)
  obtain ⟨same, before, after⟩ :=
    isLocal.sweep_at notice valid.owned.apart bound holds.opened e.host
  rw [← turn] at same before after
  have make := isLocal.make b h
  have swept := isLocal.sameCounters_sweep notice e.bindings e.host
  have next : (Collector.sweep op notice e.bindings e.host).next[k]? = some (op b h).next := by
    rw [turn]
    exact Collector.sweep_getElem? bound
  refine ⟨started, _, next, make.eventNames, ?_⟩
  have holds' := (holds.of_members make.members).of_same swept
  rw [Binding.ledger_eq valid.owned.sound holds,
    Binding.ledger_eq (valid.owned.sound.of_same swept) holds', after,
    conserves leader (holds.of_same same), before, toInt64_zero, Int64.add_zero]

/-- The ledger of an event grows by what an undisturbed act adds to its counter. -/
theorem Valid.booked (valid : e.Valid) (started : e.collector.state = .started) {a : Act}
    (quiet : e.undisturbed a) (bound : e.bindings[k]? = some b) (distinct : b.eventNames.Nodup)
    (named : b.eventNames[index]? = some name) :
    Booked e (e.next a) k b index name (e.gain k index a) := by
  have collecting : e.collector.collecting := valid.collecting.mpr started
  obtain ⟨fitted, leader, holds⟩ := valid.owned.holds b (List.mem_of_getElem? bound)
  have same : Booked e e k b index name 0 :=
    .of_unchanged e e started rfl (.refl _) bound index name
  cases a with
  | stop => cases quiet
  | deinit => cases quiet
  | init site =>
    rcases e.init_cases site with ⟨_, next⟩ | ⟨unprepared, _⟩
    · rw [next]
      exact .of_unchanged e ⟨e.collector, e.host.note _⟩ started rfl (Host.unchanged_note ..) bound
        index name
    · cases started.symm.trans unprepared
  | start =>
    rcases e.start_cases with ⟨_, _, next⟩ | ⟨unprepared, _⟩ | ⟨idle, _⟩
    · rw [next]
      exact same
    · cases started.symm.trans unprepared
    · exact absurd started idle
  | collect now =>
    rw [next_collect, if_pos collecting]
    have whole := collectsWhole_of_undisturbed quiet bound
    exact .of_sweep valid started (Collector.isLocal_collect now) bound rfl fun leader holds =>
      Binding.ledger_collect holds fitted distinct named now whole
  | scope call id mask tid =>
    rw [next_scope, if_pos collecting]
    apply Booked.of_sweep valid started (Collector.isLocal_scopeStep call id mask tid) bound rfl
    intro leader _
    obtain ⟨unchanged, _, results⟩ := Collector.scopeStep_cases call id mask tid b
      (Collector.hostAt _ _ e.bindings e.host k)
    rw [Binding.series, results, unchanged.count, Binding.series]
  | clear =>
    rw [next_clear, if_pos collecting]
    exact same
  | summarize =>
    refine ⟨started, b.summarize, ?_, rfl, ?_⟩
    · exact (List.getElem?_map ..).trans (congrArg (Option.map Binding.summarize) bound)
    · have gained : e.gain k index .summarize = 0 := rfl
      rw [gained, toInt64_zero, Int64.add_zero]
      exact b.ledger_summarize e.host name index
  | postprocess => exact ⟨started, same.ledger⟩
  | outside stimulus =>
    cases stimulus with
    | clock samples =>
      exact .of_unchanged e (e.next (.outside (.clock samples))) started rfl
        ⟨rfl, rfl, List.prefix_rfl⟩ bound index name
    | fault rule =>
      exact .of_unchanged e (e.next (.outside (.fault rule))) started rfl
        ⟨rfl, rfl, List.prefix_rfl⟩ bound index name
    | tick tid type amounts =>
      have member := fitted.index_lt named
      have counters := e.host.sameCounters_tick tid type amounts
      refine ⟨started, b, bound, rfl, ?_⟩
      show b.ledger (e.host.tick tid type amounts) name index = _
      rw [Binding.ledger_eq valid.owned.sound holds,
        Binding.ledger_eq (valid.owned.sound.of_same counters) (holds.of_same counters),
        holds.count_tick valid.owned.sound member, gain, bound, Option.map_some, Option.getD_some,
        UInt64.toInt64_add, Int64.add_assoc]

theorem Valid.booked_run (valid : e.Valid) (started : e.collector.state = .started)
    {acts : List Act} (quiet : e.Along (fun e a => e.undisturbed a) acts)
    (bound : e.bindings[k]? = some b) (distinct : b.eventNames.Nodup)
    (named : b.eventNames[index]? = some name) :
    Booked e (e.run acts) k b index name (e.ticked k index acts) := by
  induction acts generalizing e b with
  | nil => exact .of_unchanged e e started rfl (.refl _) bound index name
  | cons a acts ih =>
    obtain ⟨started', b₁, bound₁, names₁, ledger₁⟩ :=
      valid.booked started quiet.1 bound distinct named
    have rest := ih (valid.next a) started' quiet.2 bound₁ (by rwa [names₁]) (by rwa [names₁])
    obtain ⟨started'', b₂, bound₂, names₂, ledger₂⟩ := rest
    refine ⟨started'', b₂, bound₂, names₂.trans names₁, ?_⟩
    rw [run_cons, ledger₂, ledger₁, ticked, UInt64.toInt64_add, Int64.add_assoc]

/-- A start that succeeds leaves no count, unless the collector was started already. -/
theorem Valid.counted_start (valid : e.Valid) (starts : e.answer .start = true)
    (bound : (e.next .start).bindings[k]? = some b) (index : Nat) :
    (e.next .start).collector.state = .started ∧
      b.group.counted (e.next .start).host index =
        if e.collector.state = .started then b.group.counted e.host index else 0 := by
  have after := (valid.next .start).owned
  obtain ⟨_, leader, holds⟩ := after.holds b (List.mem_of_getElem? bound)
  rw [holds.counted_eq after.sound]
  rcases e.start_cases with ⟨started, _, same⟩ | ⟨_, fails, _⟩ |
    ⟨idle, _, ⟨ok, _, next⟩ | ⟨_, fails, _⟩⟩
  · rw [same] at bound holds ⊢
    rw [if_pos started, holds.counted_eq valid.owned.sound]
    exact ⟨started, rfl⟩
  · cases starts.symm.trans fails
  · obtain ⟨kept, zero, _⟩ := Collector.startAll_ok ok valid.owned.apart
    rw [next] at bound ⊢
    refine ⟨rfl, ?_⟩
    rw [if_neg idle]
    apply zero leader
    refine List.mem_map.2 ⟨b, ?_, holds.opened⟩
    have member : b ∈ (Collector.startAll [] e.bindings e.host).next := List.mem_of_getElem? bound
    rwa [kept] at member
  · cases starts.symm.trans fails

/-- Of a collector with which anything was done before and which then could be started: over every
run in which it is neither stopped nor closed and what is read is read whole and zeroed, whichever
reads fail, what the series of an event has grown by and what its counter still holds make up what
ticks have added to the counter.  A collector that was started already brings what it held then. -/
theorem total_add_counted (sound : h.Sound) (name : String) (config : Json) (perApi : Bool)
    (before acts : List Act) :
    let ready := (fresh name config perApi h).run before
    let begun := ready.next .start
    let after := begun.run acts
    ready.answer .start = true → begun.Along (fun e a => e.undisturbed a) acts →
      ∀ (k : Nat) (b : Binding), begun.bindings[k]? = some b → b.eventNames.Nodup →
        ∀ (index : Nat) (event : String), b.eventNames[index]? = some event →
          ∃ b', after.bindings[k]? = some b' ∧ b'.eventNames = b.eventNames ∧
            (b'.series event).total - (b.series event).total +
                (b'.group.counted after.host index).toInt64 =
              (begun.ticked k index acts + if ready.collector.state = .started then
                b.group.counted ready.host index else 0).toInt64 := by
  intro ready begun after starts quiet k b bound distinct index event named
  have valid : ready.Valid := (valid_fresh name config perApi sound).run before
  obtain ⟨started, counted⟩ := valid.counted_start starts bound index
  obtain ⟨_, b', bound', names, grown⟩ :=
    (valid.next .start).booked_run started quiet bound distinct named
  refine ⟨b', bound', names, ?_⟩
  rw [← counted, UInt64.toInt64_add]
  simp only [Binding.ledger] at grown
  grind

/-- A round that cannot be read, and one that takes up what both have counted. -/
def sampleRounds : List Act :=
  [.outside (.tick (-1) none [5, 6]),
    .outside (.fault { call := .reading, effect := .fail .noSpace }), .collect 1,
    .outside (.tick (-1) none [7, 8]), .collect 2, .summarize, .outside (.tick (-1) none [2])]

theorem total_add_counted_sampleRounds :
    let ready := sampleEngine.run [.init sampleSite]
    let begun := ready.next .start
    let after := begun.run sampleRounds
    ready.answer .start = true ∧ begun.Along (fun e a => e.undisturbed a) sampleRounds ∧
      ∃ b b', begun.bindings[0]? = some b ∧ after.bindings[0]? = some b' ∧
        b.eventNames = ["flits", "stalls"] ∧
        (b'.series "stalls").total - (b.series "stalls").total +
            (b'.group.counted after.host 1).toInt64 =
          (begun.ticked 0 1 sampleRounds + if ready.collector.state = .started then
            b.group.counted ready.host 1 else 0).toInt64 := by
  intro ready begun after
  have opened : begun.bindings[0]?.map (·.eventNames) = some ["flits", "stalls"] := by
    simp only [begun, ready]
    cbv
  obtain ⟨b, bound, names⟩ := Option.map_eq_some_iff.1 opened
  have starts : ready.answer .start = true := by
    simp only [ready]
    cbv
  have quiet : begun.Along (fun e a => e.undisturbed a) sampleRounds := by
    refine ⟨rfl, rfl, ?_, rfl, ?_, rfl, rfl, trivial⟩
    · simp only [begun, ready]
      cbv
    · simp only [begun, ready]
      cbv
  obtain ⟨b', bound', _, total⟩ := total_add_counted (.of_counters_eq_nil rfl) _ _ _
    [.init sampleSite] sampleRounds starts quiet 0 b bound (by rw [names]; decide) 1 "stalls"
    (by rw [names]; rfl)
  exact ⟨starts, quiet, b, b', bound, bound', names, total⟩

end Engine

end ScopeMeter

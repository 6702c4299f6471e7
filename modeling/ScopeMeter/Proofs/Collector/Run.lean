import ScopeMeter.Proofs.Collector.Sweep

/-!
# Runs of a collector

An engine is a collector together with the machine that counts for it, `Engine.next` one step of
it and `Engine.run` a series of steps.  Whatever is done with an engine and whichever calls fail,
it is `Valid`: the groups of its bindings are open, each with live counters of its own (`Owned`),
and rounds are taken exactly while it is started.
-/

namespace ScopeMeter

/-! ## Owning counters -/

/-- The group of each binding is open, and no two bindings share one. -/
structure Owned (bs : List Binding) (h : Host) : Prop where
  sound : h.Sound
  holds : ∀ b ∈ bs, b.Fitted ∧ ∃ leader, b.group.Holds h leader
  apart : (bs.map (·.group.leader?)).Nodup

variable {bs bs' opened : List Binding} {h h' : Host}

theorem owned_nil (sound : h.Sound) : Owned [] h :=
  ⟨sound, fun _ member => absurd member List.not_mem_nil, .nil⟩

theorem leaders_of_sameMake (make : List.Forall₂ Binding.SameMake bs bs') :
    bs'.map (·.group.leader?) = bs.map (·.group.leader?) := by
  induction make with
  | nil => rfl
  | cons head _ ih =>
    rw [List.map_cons, List.map_cons, ih, Group.leader?, head.members, Group.leader?]

theorem Owned.of_sameMake (owned : Owned bs h) (make : List.Forall₂ Binding.SameMake bs bs')
    (same : h.SameCounters h') : Owned bs' h' := by
  have leaders := leaders_of_sameMake make
  refine ⟨owned.sound.of_same same, ?_, by rw [leaders]; exact owned.apart⟩
  intro b' member
  obtain ⟨b, mem, make⟩ := Collector.exists_of_mem_right make member
  obtain ⟨fitted, leader, holds⟩ := owned.holds b mem
  exact ⟨fitted.of_sameMake make, leader, (holds.of_members make.members).of_same same⟩

theorem Owned.of_same (owned : Owned bs h) (same : h.SameCounters h') : Owned bs h' :=
  owned.of_sameMake (List.forall₂_same.2 fun b _ => .refl b) same

/-- The leaders of open groups have been handed out. -/
theorem Owned.leader_lt (owned : Owned bs h) {leader : Nat}
    (member : some leader ∈ bs.map (·.group.leader?)) : leader < h.nextHandle := by
  obtain ⟨b, mem, leads⟩ := List.mem_map.1 member
  obtain ⟨_, leader', holds⟩ := owned.holds b mem
  cases holds.opened.symm.trans leads
  obtain ⟨c, live, rfl, _⟩ := holds.exists_leader
  exact owned.sound.handle_lt c live

/-- A group that is opened now has a leader of its own. -/
theorem Owned.concat (owned : Owned bs h) {b : Binding} (fitted : b.Fitted)
    (holds : b.group.Holds h' h.nextHandle)
    (opening : Host.Opening h h.nextHandle b.group.members h') : Owned (bs ++ [b]) h' := by
  refine ⟨opening.sound, ?_, ?_⟩
  · intro b' member
    rcases List.mem_append.1 member with old | new
    · obtain ⟨fitted, leader, kept⟩ := owned.holds b' old
      have older := owned.leader_lt (List.mem_map.2 ⟨b', old, kept.opened⟩)
      have group := opening.group_of_lt older
      exact ⟨fitted, leader, kept.opened, by rw [group]; exact kept.handles, kept.size_le⟩
    · rw [List.mem_singleton.1 new]
      exact ⟨fitted, _, holds⟩
  · rw [List.map_append, List.map_singleton, holds.opened]
    apply List.Nodup.append owned.apart (List.nodup_singleton _)
    intro leader old new
    rw [List.mem_singleton.1 new] at old
    exact Nat.lt_irrefl _ (owned.leader_lt old)

/-- A sweep of a local operation leaves bindings that own their counters. -/
theorem Owned.sweep (owned : Owned bs h)
    {op : Binding → Host → Outcome Binding (Except Error Unit)} (isLocal : Collector.IsLocal op)
    (notice : Binding → Error → Notice) :
    Owned (Collector.sweep op notice bs h).next (Collector.sweep op notice bs h).host :=
  owned.of_sameMake (isLocal.sameMake_sweep bs h) (isLocal.sameCounters_sweep notice bs h)

/-! ## Closing and opening -/

theorem Host.Sound.closeBindings (sound : h.Sound) (bs : List Binding) :
    (Collector.closeBindings bs h).Sound := by
  induction bs generalizing h with
  | nil => exact sound
  | cons b bs ih => exact ih (sound.closeAll _)

namespace Collector

/-- Bindings that could all be opened own their counters; in any case the machine stays sound. -/
theorem openAll_owned (plan : Plan) (owned : Owned opened h) (specs : List BindingSpec) :
    (openAll plan opened specs h).2.Sound ∧
      ∀ bs, (openAll plan opened specs h).1 = .ok bs →
        Owned bs (openAll plan opened specs h).2 := by
  induction specs generalizing opened h with
  | nil =>
    refine ⟨owned.sound, ?_⟩
    intro bs ok
    cases ok
    exact owned
  | cons spec specs ih =>
    unfold openAll
    rcases spec.binding.init_cases owned.sound (plan.eventsFor spec.device) with
      ⟨e, failed, restored⟩ | ⟨ok, fitted, _, _, holds, opening⟩
    · simp only [failed]
      have sound := (owned.sound.of_restored restored).of_same (Host.unchanged_note _
        (.openFailed spec.name spec.device.label e)).same
      exact ⟨sound.closeAll _, nofun⟩
    · simp only [ok]
      exact ih (owned.concat fitted holds opening)

/-- Preparing a collector fails, or opens bindings that own their counters. -/
theorem prepare_cases (c : Collector) (site : Site) (sound : h.Sound) :
    (c.prepare site h).2.Sound ∧
      ∀ plan bs, (c.prepare site h).1 = .ok (plan, bs) → Owned bs (c.prepare site h).2 := by
  unfold prepare
  split
  · exact ⟨sound, nofun⟩
  next config _ =>
    dsimp only
    generalize noted : h.noteAll (_ ++ _) = h₁
    have sound₁ : h₁.Sound := by
      rw [← noted]
      exact sound.of_same (Host.unchanged_noteAll ..).same
    split
    · exact ⟨sound₁, nofun⟩
    next specs _ =>
      have opens := openAll_owned (config.plan site.registry c.perApi none).1 (owned_nil sound₁)
        specs
      split
      next bindings h' eq =>
        rw [eq] at opens
        refine ⟨opens.1, ?_⟩
        intro plan bs ok
        cases ok
        exact opens.2 _ rfl
      next e h' eq =>
        rw [eq] at opens
        exact ⟨opens.1, nofun⟩

/-- A collector that is started stays as it is, one that is not prepared cannot be started; any
other one starts all bindings, or stops again those that it could start. -/
theorem start_cases (c : Collector) (h : Host) :
    (c.state = .started ∧ c.start h = ⟨true, c, h⟩) ∨
    (c.state = .uninitialized ∧ c.start h = ⟨false, c, h.note (.startedBeforeInit c.name)⟩) ∨
    (c.state ≠ .started ∧ c.state ≠ .uninitialized ∧
      (((startAll [] c.bindings h).result = true ∧
        c.start h = ⟨true, { c with
          bindings := (startAll [] c.bindings h).next, state := .started, collecting := true },
          (startAll [] c.bindings h).host⟩) ∨
      ((startAll [] c.bindings h).result = false ∧
        c.start h = ⟨false, { c with bindings := (startAll [] c.bindings h).next },
          (startAll [] c.bindings h).host⟩))) := by
  unfold start
  cases state : c.state with
  | started => exact .inl ⟨rfl, rfl⟩
  | uninitialized => exact .inr (.inl ⟨rfl, rfl⟩)
  | initialized =>
    refine .inr (.inr ⟨nofun, nofun, ?_⟩)
    cases result : (startAll [] c.bindings h).result with
    | true => exact .inl ⟨rfl, if_pos result⟩
    | false => exact .inr ⟨rfl, if_neg (by rw [result]; nofun)⟩
  | stopped =>
    refine .inr (.inr ⟨nofun, nofun, ?_⟩)
    cases result : (startAll [] c.bindings h).result with
    | true => exact .inl ⟨rfl, if_pos result⟩
    | false => exact .inr ⟨rfl, if_neg (by rw [result]; nofun)⟩

end Collector

/-! ## Engines -/

structure Engine where
  collector : Collector
  host : Host

namespace Engine

inductive Act
  | init (site : Site)
  | deinit
  | start
  | stop
  | collect (now : Int64)
  | scope (call : ScopeCall) (id : UInt16) (mask : ScopeMask) (tid : Int32)
  | clear
  | summarize
  | postprocess
  | outside (stimulus : Stimulus)

/-- What an act answers and what it leaves behind. -/
def perform (e : Engine) : Act → Outcome Collector Bool
  | .init site => e.collector.init site e.host
  | .deinit => e.collector.deinit e.host
  | .start => e.collector.start e.host
  | .stop => e.collector.stop e.host
  | .collect now => e.collector.collect now e.host
  | .scope call id mask tid => e.collector.scope call id mask tid e.host
  | .clear => ⟨true, e.collector.clear, e.host⟩
  | .summarize => ⟨true, e.collector.summarize, e.host⟩
  | .postprocess => ⟨true, e.collector.postprocess, e.host⟩
  | .outside stimulus => ⟨true, e.collector, e.host.meet stimulus⟩

def answer (e : Engine) (a : Act) : Bool := (e.perform a).result

def next (e : Engine) (a : Act) : Engine := ⟨(e.perform a).next, (e.perform a).host⟩

def run (e : Engine) (acts : List Act) : Engine := acts.foldl next e

@[simp] theorem run_cons (e : Engine) (a : Act) (acts : List Act) :
    e.run (a :: acts) = (e.next a).run acts := rfl

/-- `P` holds at each step of a run. -/
def Along (P : Engine → Act → Prop) : Engine → List Act → Prop
  | _, [] => True
  | e, a :: acts => P e a ∧ (e.next a).Along P acts

/-- A collector that nothing was done with yet. -/
def fresh (name : String) (config : Json) (perApi : Bool) (h : Host) : Engine :=
  ⟨{ name, config, perApi }, h⟩

/-- A place without threads, and a collector whose configuration asks for two events of the
interconnect. -/
def sampleSite : Site :=
  { files := .dir [], deviceDir := "/", taskDir := "/", processName := "app" }

def sampleEntry (name : String) (code : Int) : Json :=
  .arr [.str name, .int code, .int 14, .null, .null, .null, .null, .int 1, .null, .null, .null]

def sampleEngine : Engine :=
  fresh "perf" (.arr [.null, .null, .arr [sampleEntry "flits" 3, sampleEntry "stalls" 4]]) false {}

def bindings (e : Engine) : List Binding := e.collector.bindings

/-! ## What each act does -/

/-- A collector is prepared once; when that fails it stays as it is. -/
theorem init_cases (e : Engine) (site : Site) :
    let ready := e.collector.prepare site e.host
    (e.collector.state ≠ .uninitialized ∧
      e.next (.init site) =
        ⟨e.collector, e.host.note (.alreadyInitialized e.collector.name)⟩) ∨
    (e.collector.state = .uninitialized ∧
      ((∃ plan bindings, ready.1 = .ok (plan, bindings) ∧
        e.next (.init site) =
          ⟨{ e.collector with plan, bindings, state := .initialized }, ready.2⟩) ∨
      (∃ error, ready.1 = .error error ∧
        e.next (.init site) =
          ⟨e.collector, ready.2.note (.initFailed e.collector.name error)⟩))) := by
  intro ready
  unfold next
  simp only [perform, Collector.init]
  by_cases unprepared : e.collector.state = .uninitialized
  · right
    refine ⟨unprepared, ?_⟩
    rw [if_pos unprepared]
    split
    next plan bindings h' eq =>
      have is : ready = (.ok (plan, bindings), h') := eq
      rw [is]
      exact .inl ⟨plan, bindings, rfl, rfl⟩
    next error h' eq =>
      have is : ready = (.error error, h') := eq
      rw [is]
      exact .inr ⟨error, rfl, rfl⟩
  · left
    rw [if_neg unprepared]
    exact ⟨unprepared, rfl⟩

theorem answer_init_eq (e : Engine) (site : Site) :
    e.answer (.init site) = (decide (e.collector.state = .uninitialized) &&
      (e.collector.prepare site e.host).1.isOk) := by
  unfold answer
  simp only [perform, Collector.init]
  split
  next unprepared =>
    rw [decide_eq_true unprepared, Bool.true_and]
    rcases e.collector.prepare site e.host with ⟨_ | ⟨_, _⟩, _⟩ <;> rfl
  next prepared => rw [decide_eq_false prepared, Bool.false_and]

theorem start_cases (e : Engine) :
    let step := Collector.startAll [] e.bindings e.host
    (e.collector.state = .started ∧ e.answer .start = true ∧ e.next .start = e) ∨
    (e.collector.state = .uninitialized ∧ e.answer .start = false ∧
      e.next .start = ⟨e.collector, e.host.note (.startedBeforeInit e.collector.name)⟩) ∨
    (e.collector.state ≠ .started ∧ e.collector.state ≠ .uninitialized ∧
      ((step.result = true ∧ e.answer .start = true ∧
        e.next .start = ⟨{ e.collector with
          bindings := step.next, state := .started, collecting := true }, step.host⟩) ∨
      (step.result = false ∧ e.answer .start = false ∧
        e.next .start = ⟨{ e.collector with bindings := step.next }, step.host⟩))) := by
  intro step
  unfold answer next
  simp only [perform]
  rcases e.collector.start_cases e.host with ⟨started, same⟩ | ⟨unprepared, same⟩ |
    ⟨idle, prepared, ⟨ok, become⟩ | ⟨fails, become⟩⟩
  · rw [same]
    exact .inl ⟨started, rfl, rfl⟩
  · rw [same]
    exact .inr (.inl ⟨unprepared, rfl, rfl⟩)
  · rw [become]
    exact .inr (.inr ⟨idle, prepared, .inl ⟨ok, rfl, rfl⟩⟩)
  · rw [become]
    exact .inr (.inr ⟨idle, prepared, .inr ⟨fails, rfl, rfl⟩⟩)

theorem next_stop (e : Engine) :
    let step := Collector.stopAll e.bindings e.host
    e.next .stop = if e.collector.state = .started then
      ⟨{ e.collector with bindings := step.next, state := .stopped, collecting := false },
        step.host⟩ else e := by
  unfold next
  simp only [perform, Collector.stop]
  split <;> rfl

theorem next_collect (e : Engine) (now : Int64) :
    let step := Collector.sweep (fun b => b.collect now) (fun b e => .readFailed b.name e)
      e.bindings e.host
    e.next (.collect now) = if e.collector.collecting then
      ⟨{ e.collector with bindings := step.next }, step.host⟩ else e := by
  unfold next
  simp only [perform, Collector.collect]
  split <;> rfl

theorem next_scope (e : Engine) (call : ScopeCall) (id : UInt16) (mask : ScopeMask) (tid : Int32) :
    let step := Collector.sweep (Collector.scopeStep call id mask tid)
      (fun b e => .scopeFailed call id b.name b.device.label e) e.bindings e.host
    e.next (.scope call id mask tid) = if e.collector.collecting then
      ⟨{ e.collector with bindings := step.next }, step.host⟩ else e := by
  unfold next
  simp only [perform, Collector.scope]
  split <;> rfl

theorem next_clear (e : Engine) :
    e.next .clear = if e.collector.collecting then e else
      ⟨{ e.collector with
        bindings := e.bindings.map Binding.clear, summarized := false, result := .null },
        e.host⟩ := by
  unfold next
  simp only [perform, Collector.clear]
  split <;> rfl

/-! ## What every act keeps -/

/-- The bindings own their counters, there are none before the collector is prepared, and rounds
are taken exactly while it is started. -/
structure Valid (e : Engine) : Prop where
  owned : Owned e.bindings e.host
  unprepared : e.collector.state = .uninitialized → e.bindings = []
  collecting : e.collector.collecting ↔ e.collector.state = .started

variable {e : Engine}

theorem valid_fresh (name : String) (config : Json) (perApi : Bool) (sound : h.Sound) :
    (fresh name config perApi h).Valid :=
  ⟨owned_nil sound, fun _ => rfl, iff_of_false nofun nofun⟩

theorem Valid.init (valid : e.Valid) (site : Site) : (e.next (.init site)).Valid := by
  obtain ⟨sound, opens⟩ := e.collector.prepare_cases site valid.owned.sound
  rcases e.init_cases site with ⟨_, next⟩ | ⟨unprepared, ⟨plan, bindings, ready, next⟩ |
    ⟨error, _, next⟩⟩
  · rw [next]
    exact ⟨valid.owned.of_same (Host.unchanged_note ..).same, valid.unprepared, valid.collecting⟩
  · have idle : ¬e.collector.collecting := by
      rw [valid.collecting, unprepared]
      nofun
    rw [next]
    exact ⟨opens plan bindings ready, nofun, iff_of_false idle nofun⟩
  · have none := valid.unprepared unprepared
    have owned : Owned [] ((e.collector.prepare site e.host).2.note
        (.initFailed e.collector.name error)) :=
      owned_nil (sound.of_same (Host.unchanged_note ..).same)
    rw [next]
    exact ⟨by rwa [← none] at owned, fun _ => none, valid.collecting⟩

theorem Valid.start (valid : e.Valid) : (e.next .start).Valid := by
  have make := Collector.sameMake_startAll [] e.bindings e.host
  have owned := valid.owned.of_sameMake make (Collector.sameCounters_startAll [] e.bindings e.host)
  rcases e.start_cases with ⟨_, _, same⟩ | ⟨_, _, same⟩ |
    ⟨_, prepared, ⟨_, _, next⟩ | ⟨_, _, next⟩⟩
  · rw [same]
    exact valid
  · rw [same]
    exact ⟨valid.owned.of_same (Host.unchanged_note ..).same, valid.unprepared, valid.collecting⟩
  · rw [next]
    exact ⟨owned, nofun, iff_of_true rfl rfl⟩
  · rw [next]
    exact ⟨owned, fun unprepared => absurd unprepared prepared, valid.collecting⟩

theorem Valid.stop (valid : e.Valid) : (e.next .stop).Valid := by
  rw [next_stop]
  split
  · exact ⟨Owned.sweep valid.owned Collector.isLocal_stop _, nofun, iff_of_false nofun nofun⟩
  · exact valid

/-- A sweep while the collector is started keeps the engine valid. -/
theorem Valid.sweep (valid : e.Valid) (collecting : e.collector.collecting)
    {op : Binding → Host → Outcome Binding (Except Error Unit)} (isLocal : Collector.IsLocal op)
    (notice : Binding → Error → Notice) :
    Valid ⟨{ e.collector with bindings := (Collector.sweep op notice e.bindings e.host).next },
      (Collector.sweep op notice e.bindings e.host).host⟩ := by
  refine ⟨Owned.sweep valid.owned isLocal notice, ?_, valid.collecting⟩
  intro unprepared
  rw [valid.collecting, unprepared] at collecting
  cases collecting

/-- So does an operation on every binding that leaves the machine alone. -/
theorem Valid.map (valid : e.Valid) {e' : Engine} (f : Binding → Binding)
    (make : ∀ b : Binding, b.SameMake (f b)) (bindings : e'.bindings = e.bindings.map f)
    (host : e'.host = e.host) (state : e'.collector.state = e.collector.state)
    (collecting : e'.collector.collecting = e.collector.collecting) : e'.Valid := by
  have owned : Owned (e.bindings.map f) e.host := by
    apply valid.owned.of_sameMake _ (.refl _)
    exact List.forall₂_map_right_iff.2 (List.forall₂_same.2 fun b _ => make b)
  refine ⟨by rwa [bindings, host], ?_, by rw [collecting, state, valid.collecting]⟩
  intro unprepared
  rw [bindings, valid.unprepared (state.symm.trans unprepared), List.map_nil]

/-- What an act leaves behind is valid whatever it answers. -/
theorem Valid.next (valid : e.Valid) (a : Act) : (e.next a).Valid := by
  cases a with
  | init site => exact valid.init site
  | start => exact valid.start
  | stop => exact valid.stop
  | deinit =>
    exact ⟨owned_nil (valid.owned.sound.closeBindings _), fun _ => rfl, iff_of_false nofun nofun⟩
  | collect now =>
    rw [next_collect]
    split
    next collecting => exact valid.sweep collecting (Collector.isLocal_collect now) _
    next => exact valid
  | scope call id mask tid =>
    rw [next_scope]
    split
    next collecting => exact valid.sweep collecting (Collector.isLocal_scopeStep call id mask tid) _
    next => exact valid
  | clear =>
    rw [next_clear]
    split
    · exact valid
    · exact valid.map Binding.clear (fun _ => ⟨rfl, rfl, rfl, rfl, rfl⟩) rfl rfl rfl rfl
  | summarize =>
    exact valid.map Binding.summarize (fun _ => ⟨rfl, rfl, rfl, rfl, rfl⟩) rfl rfl rfl rfl
  | postprocess => exact ⟨valid.owned, valid.unprepared, valid.collecting⟩
  | outside stimulus =>
    exact ⟨valid.owned.of_same (e.host.sameCounters_meet stimulus), valid.unprepared,
      valid.collecting⟩

theorem Valid.run (valid : e.Valid) (acts : List Act) : (e.run acts).Valid := by
  induction acts generalizing e with
  | nil => exact valid
  | cons a acts ih => exact ih (valid.next a)

end Engine

end ScopeMeter

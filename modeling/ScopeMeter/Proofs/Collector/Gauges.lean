import ScopeMeter.Proofs.Collector.Tables
import ScopeMeter.Proofs.Report.Gauges

/-!
# Gauges of a collector

An exporter publishes the latest rounds of a collector as gauges.  The labels of a gauge tell the
thread and the class of its binding, so no two bindings of a plan share one
(`Engine.OfDistinctThreads.apart`).  As long as the labels in play are told apart by the marks
under which gauges are kept, a gauge shows after every update the last value of its own series, and
every other gauge what it showed before (`Exporter.gauges_follow`).  Where there is one gauge for
each tuple of labels, the labels always are; where gauges are kept under fingerprints, two threads
may share one.
-/

namespace ScopeMeter

/-! ## What labels tell -/

theorem DeviceClass.label_ofKey (key : String) : (ofKey key).label = key := by
  unfold ofKey
  split
  next is => exact is.symm
  next => rfl

/-- No number is written as the label of the bindings without a thread. -/
theorem repr_ne_all (i : Int) : i.repr ≠ "all" := by
  have digits : ∀ n : Nat, n.repr ≠ "all" := by
    intro n same
    have letter : 'a' ∈ Nat.toDigits 10 n := by
      rw [← String.toList_ofList (l := Nat.toDigits 10 n), ← Nat.repr_eq_ofList_toDigits, same]
      decide
    exact absurd (Nat.isDigit_of_mem_toDigits (by decide) (by decide) letter) (by decide)
  rw [Int.repr_eq_if]
  split
  · exact digits _
  · intro same
    have first := congrArg String.toList same
    rw [String.toList_append] at first
    cases first

namespace Binding

variable {b b' : Binding} {name name' : String}

theorem tid_eq_of_gaugeLabels (same : b.gaugeLabels name = b'.gaugeLabels name') :
    b.tid = b'.tid := by
  have text := congrArg GaugeLabels.tid same
  simp only [gaugeLabels] at text
  cases number : b.tid with
  | none =>
    cases number' : b'.tid with
    | none => rfl
    | some tid' =>
      rw [number, number'] at text
      exact absurd text.symm (repr_ne_all _)
  | some tid =>
    cases number' : b'.tid with
    | none =>
      rw [number, number'] at text
      exact absurd text (repr_ne_all _)
    | some tid' =>
      rw [number, number'] at text
      rw [Int32.toInt_inj.mp (Int.repr_injective text)]

/-- The labels of the gauges of a binding, one for each event. -/
def labels (b : Binding) : List GaugeLabels := b.eventNames.map b.gaugeLabels

/-- What is published of a binding: for each event the last value of its series, if it has one. -/
def published (b : Binding) : List (GaugeLabels × Int64) :=
  b.eventNames.filterMap fun name => (b.series name).last?.map fun value =>
    (b.gaugeLabels name, value)

theorem Moved.labels_eq (moved : b.Moved b') : b'.labels = b.labels := by
  have spec := moved.spec_eq
  have names := moved.sameMake.eventNames
  simp only [Binding.spec, BindingSpec.mk.injEq] at spec
  obtain ⟨tid, name, _, device⟩ := spec
  have gauge : b'.gaugeLabels = b.gaugeLabels := by
    funext event
    simp only [gaugeLabels, tid, name, device]
  rw [labels, labels, names, gauge]

theorem last?_series (b : Binding) (name : String) :
    (b.series name).last? = (b.results.get? name).bind Series.last? := by
  unfold series
  cases b.results.get? name <;> rfl

theorem observeBy_eq {κ : Type} [DecidableEq κ] (mark : GaugeLabels → κ) (b : Binding)
    (g : Gauges) : g.observeBy mark b = g.setAll mark b.published := by
  unfold Gauges.observeBy Gauges.setAll published
  rw [List.foldl_filterMap]
  congr 1
  funext g name
  rw [last?_series, Gauges.observeEvent]
  cases (b.results.get? name).bind Series.last? <;> rfl

theorem mem_published {l : GaugeLabels} {value : Int64} : (l, value) ∈ b.published ↔
    ∃ name ∈ b.eventNames, (b.series name).last? = some value ∧ b.gaugeLabels name = l := by
  simp only [published, List.mem_filterMap, Option.map_eq_some_iff, Prod.mk.injEq]
  constructor
  · rintro ⟨name, member, value, last, labels, rfl⟩
    exact ⟨name, member, last, labels⟩
  · rintro ⟨name, member, last, labels⟩
    exact ⟨name, member, value, last, labels, rfl⟩

end Binding

/-- The classes of the bindings of one thread, or of the whole machine, have different labels. -/
theorem Plan.device_eq_of_label {p : Plan} {threads : List Thread} {process : String}
    {s s' : BindingSpec} (planned : s ∈ p.bindingSpecs threads process)
    (planned' : s' ∈ p.bindingSpecs threads process) (tid : s.tid = s'.tid)
    (label : s.device.label = s'.device.label) : s.device = s'.device := by
  rcases bindingSpecs_cases planned with ⟨_, _, _, _, _, key, _, rfl⟩ | ⟨units, _, _, rfl⟩ |
    ⟨none, _, rfl⟩ <;>
  rcases bindingSpecs_cases planned' with ⟨_, _, _, _, _, key', _, rfl⟩ | ⟨units', _, _, rfl⟩ |
    ⟨none', _, rfl⟩
  · rw [DeviceClass.label_ofKey, DeviceClass.label_ofKey] at label
    exact congrArg DeviceClass.ofKey label
  · cases tid
  · cases tid
  · cases tid
  · exact congrArg DeviceClass.cspmu label
  · cases units.symm.trans none'
  · cases tid
  · cases none.symm.trans units'
  · rfl

namespace Engine

variable {e : Engine}

/-- The bindings are those of a plan for threads with numbers of their own. -/
def OfDistinctThreads (e : Engine) : Prop :=
  ∃ threads process, (threads.map (·.tid)).Nodup ∧
    e.bindings.map Binding.spec = e.collector.plan.bindingSpecs threads process

/-- So they are whenever the places had threads with numbers of their own. -/
theorem Numbered.ofDistinctThreads (numbered : e.Numbered) : e.OfDistinctThreads := by
  obtain ⟨threads, process, ascending, specs⟩ := numbered
  exact ⟨threads, process, ascending.nodup_tids, specs⟩

theorem ofDistinctThreads_of_distinct (name : String) (config : Json) (perApi : Bool) (h : Host)
    {site : Site} (distinct : site.Distinct) :
    ((fresh name config perApi h).run [.init site, .start]).OfDistinctThreads := by
  refine ((numbered_fresh ..).run ?_).ofDistinctThreads
  intro site' member
  simp only [List.mem_cons, Act.init.injEq, reduceCtorEq, List.not_mem_nil, or_false] at member
  rw [member]
  exact distinct

/-- No two bindings have a gauge in common. -/
theorem OfDistinctThreads.apart (ofThreads : e.OfDistinctThreads) :
    e.bindings.Pairwise fun b b' => ∀ name name', b.gaugeLabels name ≠ b'.gaugeLabels name' := by
  obtain ⟨threads, process, distinct, specs⟩ := ofThreads
  have subjects := e.collector.plan.nodup_subjects_of_nodup_tids distinct process
  rw [← specs, List.map_map, List.nodup_iff_pairwise_ne, List.pairwise_map] at subjects
  have planned : ∀ b ∈ e.bindings, b.spec ∈ e.collector.plan.bindingSpecs threads process := by
    rw [← specs]
    exact fun b member => List.mem_map_of_mem member
  apply subjects.imp_of_mem
  intro b b' member member' ne name name' same
  have tid : b.tid = b'.tid := Binding.tid_eq_of_gaugeLabels same
  have device : b.device = b'.device :=
    Plan.device_eq_of_label (planned b member) (planned b' member') tid
      (congrArg GaugeLabels.device same)
  exact ne (congrArg₂ Prod.mk tid device)

/-- What is published under some labels is of one binding and one event. -/
theorem OfDistinctThreads.unique (ofThreads : e.OfDistinctThreads) {b b' : Binding}
    (member : b ∈ e.bindings) (member' : b' ∈ e.bindings) {name name' : String}
    (same : b.gaugeLabels name = b'.gaugeLabels name') : b = b' ∧ name = name' := by
  refine ⟨?_, congrArg GaugeLabels.series same⟩
  have symmetric : Std.Symm fun b b' : Binding =>
      ∀ name name', b.gaugeLabels name ≠ b'.gaugeLabels name' :=
    ⟨fun _ _ apart name name' same => apart name' name same.symm⟩
  by_contra other
  exact ofThreads.apart.forall member member' other name name' same

/-- The labels of the gauges of all bindings. -/
def labels (e : Engine) : List GaugeLabels := e.bindings.flatMap Binding.labels

/-- Preparing and closing apart, no act changes the labels. -/
theorem labels_next (e : Engine) {a : Act} (opens : ∀ site, a ≠ .init site) (closes : a ≠ .deinit) :
    (e.next a).labels = e.labels := by
  have moved := e.moved_next opens closes
  unfold labels
  generalize e.bindings = before at moved ⊢
  generalize (e.next a).bindings = after at moved ⊢
  induction moved with
  | nil => rfl
  | cons head _ ih => rw [List.flatMap_cons, List.flatMap_cons, ih, head.labels_eq]

theorem OfDistinctThreads.next (ofThreads : e.OfDistinctThreads) {a : Act}
    (opens : ∀ site, a ≠ .init site) (closes : a ≠ .deinit) : (e.next a).OfDistinctThreads := by
  obtain ⟨threads, process, distinct, specs⟩ := ofThreads
  refine ⟨threads, process, distinct, ?_⟩
  rw [Binding.map_spec_of_moved (e.moved_next opens closes), specs,
    (e.kept_next opens closes).plan]

/-- What an update publishes. -/
def published (e : Engine) : List (GaugeLabels × Int64) := e.bindings.flatMap Binding.published

theorem observeBy_eq {κ : Type} [DecidableEq κ] (mark : GaugeLabels → κ) (e : Engine)
    (g : Gauges) : e.collector.observeBy mark g = g.setAll mark e.published := by
  have each : Gauges.observeBy mark = fun (g : Gauges) b => g.setAll mark b.published := by
    funext g b
    exact b.observeBy_eq mark g
  unfold Collector.observeBy published Gauges.setAll
  rw [List.foldl_flatMap, each]
  rfl

theorem mem_published {l : GaugeLabels} {value : Int64} : (l, value) ∈ e.published ↔
    ∃ b ∈ e.bindings, ∃ name ∈ b.eventNames,
      (b.series name).last? = some value ∧ b.gaugeLabels name = l := by
  simp only [published, List.mem_flatMap, Binding.mem_published]

theorem labels_published (e : Engine) : Gauges.labels e.published ⊆ e.labels := by
  intro l member
  obtain ⟨⟨_, value⟩, listed, rfl⟩ := List.mem_map.mp member
  obtain ⟨b, mem, name, named, _, labels⟩ := mem_published.mp listed
  exact List.mem_flatMap.mpr ⟨b, mem, List.mem_map.mpr ⟨name, named, labels⟩⟩

end Engine

/-! ## Exporters -/

/-- A collector whose latest rounds are published as gauges. -/
structure Exporter where
  engine : Engine
  gauges : Gauges

namespace Exporter

inductive Act
  | engine (a : Engine.Act)
  | update

section Marks

variable {κ : Type} [DecidableEq κ] (mark : GaugeLabels → κ)

def next (x : Exporter) : Act → Exporter
  | .engine a => { x with engine := x.engine.next a }
  | .update => { x with gauges := x.engine.collector.observeBy mark x.gauges }

def run (x : Exporter) (acts : List Act) : Exporter := acts.foldl (next mark) x

end Marks

/-- The act neither prepares the collector nor closes it. -/
def Act.KeepsOpen : Act → Prop
  | .engine (.init _) | .engine .deinit => False
  | _ => True

variable {κ : Type} {mark : GaugeLabels → κ} {x : Exporter}

/-- The bindings are of threads with numbers of their own, and the labels of their gauges and of
those set so far are told apart by their marks. -/
structure Tracks (mark : GaugeLabels → κ) (x : Exporter) : Prop where
  threads : x.engine.OfDistinctThreads
  separated : Gauges.Separated mark (x.gauges.labels ++ x.engine.labels)

/-- An update sets no gauge whose labels are not in play. -/
theorem labels_published_subset (x : Exporter) :
    x.gauges.labels ++ Gauges.labels x.engine.published ⊆ x.gauges.labels ++ x.engine.labels :=
  List.append_subset.mpr ⟨List.subset_append_left _ _,
    List.Subset.trans x.engine.labels_published (List.subset_append_right _ _)⟩

variable [DecidableEq κ]

theorem Tracks.next (tracks : x.Tracks mark) {a : Act} (keeps : a.KeepsOpen) :
    (x.next mark a).Tracks mark := by
  cases a with
  | engine a =>
    have opens : ∀ site, a ≠ .init site := by
      rintro site rfl
      exact keeps
    have closes : a ≠ .deinit := by
      rintro rfl
      exact keeps
    have labels := x.engine.labels_next opens closes
    refine ⟨tracks.threads.next opens closes, ?_⟩
    simp only [Exporter.next, labels]
    exact tracks.separated
  | update =>
    refine ⟨tracks.threads, tracks.separated.mono ?_⟩
    simp only [Exporter.next, x.engine.observeBy_eq]
    apply List.append_subset.mpr
    refine ⟨?_, List.subset_append_right _ _⟩
    exact List.Subset.trans (Gauges.labels_setAll ..) x.labels_published_subset

theorem Tracks.run (tracks : x.Tracks mark) {acts : List Act} (keeps : ∀ a ∈ acts, a.KeepsOpen) :
    (x.run mark acts).Tracks mark := by
  induction acts generalizing x with
  | nil => exact tracks
  | cons a acts ih =>
    exact ih (tracks.next (keeps a List.mem_cons_self)) fun a' mem =>
      keeps a' (List.mem_cons_of_mem _ mem)

/-- Of a collector whose bindings are of threads with numbers of their own, as long as it is not
closed: no two bindings have a gauge in common.  After every update the gauge of each event whose
series has a value shows the last value of that very series, for all bindings at once, and every
other gauge shows what it did before.  This holds whatever marks gauges are known by, as long as
these tell the labels in play apart.  Where there is one gauge for each tuple of labels, the labels
are their own marks, which always do (`Gauges.Separated.of_injective`); the gauges of
`Collector.observe` are known by their fingerprints. -/
theorem gauges_follow {e : Engine} (ofThreads : e.OfDistinctThreads) {g : Gauges}
    (separated : Gauges.Separated mark (g.labels ++ e.labels)) {acts : List Act}
    (keeps : ∀ a ∈ acts, a.KeepsOpen) :
    let x := run mark ⟨e, g⟩ acts
    let bs := x.engine.bindings
    (bs.Pairwise fun b b' => ∀ name name', b.gaugeLabels name ≠ b'.gaugeLabels name') ∧
      (∀ b ∈ bs, ∀ name ∈ b.eventNames, ∀ value, (b.series name).last? = some value →
        (x.next mark .update).gauges.get? (b.gaugeLabels name) = some value) ∧
      ∀ l, (∀ b ∈ bs, ∀ name ∈ b.eventNames, b.gaugeLabels name = l →
          (b.series name).last? = none) →
        (x.next mark .update).gauges.get? l = x.gauges.get? l := by
  intro x bs
  have tracks : x.Tracks mark := Tracks.run ⟨ofThreads, separated⟩ keeps
  have published := tracks.separated.mono x.labels_published_subset
  have updated : (x.next mark .update).gauges = x.gauges.setAll mark x.engine.published :=
    x.engine.observeBy_eq mark x.gauges
  rw [updated]
  refine ⟨tracks.threads.apart, ?_, ?_⟩
  · intro b member name named value last
    apply Gauges.get?_setAll_of_mem published
    · exact Engine.mem_published.mpr ⟨b, member, name, named, last, rfl⟩
    · intro other listed
      obtain ⟨b', member', name', _, last', same⟩ := Engine.mem_published.mp listed
      obtain ⟨rfl, rfl⟩ := tracks.threads.unique member' member same
      exact Option.some.inj (last'.symm.trans last)
  · intro l absent
    apply Gauges.get?_setAll_of_notMem published
    intro set
    obtain ⟨⟨_, value⟩, listed, rfl⟩ := List.mem_map.mp set
    obtain ⟨b, member, name, named, last, same⟩ := Engine.mem_published.mp listed
    cases (absent b member name named same).symm.trans last

/-- A started collector with three bindings. -/
def sampleStarted : Engine :=
  (Engine.fresh "perf" Engine.sampleThreads false {}).run [.init Engine.sampleTask, .start]

/-- Two rounds, the first of them published, and the summing up of both. -/
def sampleUpdates : List Act :=
  [.engine (.outside (.tick 101 none [10, 3])), .engine (.collect 1), .update,
    .engine (.outside (.tick 101 none [4, 1])), .engine (.collect 2), .engine .summarize]

/-- A gauge of a thread that is gone. -/
def sampleGauges : Gauges := [(⟨"single", "misses", "patrace-0", "99"⟩, 7)]

/-- A started collector of two threads whose names, each run together with the number of its
thread, are one text. -/
def sampleSharing : Engine :=
  (Engine.fresh "perf" Engine.sampleThreads false {}).run [.init Engine.sampleNamesakes, .start]

/-- A round of both threads. -/
def sampleRound : List Act :=
  [.engine (.outside (.tick 23 none [10, 4])), .engine (.outside (.tick 3 none [700, 50])),
    .engine (.collect 1)]

theorem labels_sampleStarted : sampleStarted.labels =
    [⟨"single", "CPUCycleCount", "patrace-1", "101"⟩, ⟨"single", "misses", "patrace-1", "101"⟩,
      ⟨"single", "CPUCycleCount", "mali-cmar", "102"⟩, ⟨"single", "misses", "mali-cmar", "102"⟩,
      ⟨"booker-ci", "flits", "app", "all"⟩] := by
  cbv

theorem labels_sampleSharing : sampleSharing.labels =
    [⟨"single", "CPUCycleCount", "patrace-12", "3"⟩, ⟨"single", "misses", "patrace-12", "3"⟩,
      ⟨"single", "CPUCycleCount", "patrace-1", "23"⟩, ⟨"single", "misses", "patrace-1", "23"⟩,
      ⟨"booker-ci", "flits", "app", "all"⟩] := by
  cbv

/-- What the rounds and their summing up leave to be published. -/
theorem published_sampleUpdates : (sampleStarted.run
      [.outside (.tick 101 none [10, 3]), .collect 1, .outside (.tick 101 none [4, 1]), .collect 2,
        .summarize]).published =
    [(⟨"single", "CPUCycleCount", "patrace-1", "101"⟩, 14),
      (⟨"single", "misses", "patrace-1", "101"⟩, 4),
      (⟨"single", "CPUCycleCount", "mali-cmar", "102"⟩, 0),
      (⟨"single", "misses", "mali-cmar", "102"⟩, 0),
      (⟨"booker-ci", "flits", "app", "all"⟩, 0)] := by
  cbv

theorem published_sampleRound : (sampleSharing.run
      [.outside (.tick 23 none [10, 4]), .outside (.tick 3 none [700, 50]), .collect 1]).published =
    [(⟨"single", "CPUCycleCount", "patrace-12", "3"⟩, 700),
      (⟨"single", "misses", "patrace-12", "3"⟩, 50),
      (⟨"single", "CPUCycleCount", "patrace-1", "23"⟩, 10),
      (⟨"single", "misses", "patrace-1", "23"⟩, 4),
      (⟨"booker-ci", "flits", "app", "all"⟩, 0)] := by
  cbv

/-- Gauges that show the last value of each series show what is published. -/
theorem forall_published {e : Engine} {g : Gauges}
    (shows : ∀ b ∈ e.bindings, ∀ name ∈ b.eventNames, ∀ value,
      (b.series name).last? = some value → g.get? (b.gaugeLabels name) = some value) :
    ∀ p ∈ e.published, g.get? p.1 = some p.2 := by
  intro p listed
  obtain ⟨b, member, name, named, last, is⟩ := Engine.mem_published.mp listed
  rw [← is]
  exact shows b member name named p.2 last

/-- Gauges known by their fingerprints follow threads whose labels these tell apart; gauges known by
their labels follow others as well. -/
theorem gauges_follow_sampleUpdates :
    let x := run GaugeLabels.fingerprint ⟨sampleStarted, sampleGauges⟩ sampleUpdates
    let y := run id ⟨sampleSharing, []⟩ sampleRound
    (sampleStarted.OfDistinctThreads ∧
      Gauges.Separated GaugeLabels.fingerprint (sampleGauges.labels ++ sampleStarted.labels) ∧
      (∀ a ∈ sampleUpdates, a.KeepsOpen) ∧
      (x.next GaugeLabels.fingerprint .update).gauges.get?
        ⟨"single", "misses", "patrace-1", "101"⟩ = some 4) ∧
    sampleSharing.OfDistinctThreads ∧
      ¬Gauges.Separated GaugeLabels.fingerprint sampleSharing.labels ∧
      (∀ a ∈ sampleRound, a.KeepsOpen) ∧
      (y.next id .update).gauges.get? ⟨"single", "misses", "patrace-12", "3"⟩ = some 50 ∧
      (y.next id .update).gauges.get? ⟨"single", "misses", "patrace-1", "23"⟩ = some 4 := by
  intro x y
  have ofThreads : sampleStarted.OfDistinctThreads :=
    Engine.ofDistinctThreads_of_distinct _ _ _ _ Engine.distinct_sampleTask
  have ofThreads' : sampleSharing.OfDistinctThreads :=
    Engine.ofDistinctThreads_of_distinct _ _ _ _ Engine.distinct_sampleNamesakes
  have separated :
      Gauges.Separated GaugeLabels.fingerprint (sampleGauges.labels ++ sampleStarted.labels) := by
    rw [labels_sampleStarted]
    decide +kernel
  have separated' : Gauges.Separated id (Gauges.labels [] ++ sampleSharing.labels) :=
    .of_injective Function.injective_id _
  have shared : ¬Gauges.Separated GaugeLabels.fingerprint sampleSharing.labels := by
    rw [labels_sampleSharing]
    exact Gauges.not_separated_of_joined_eq (.tail _ (.head _))
      (.tail _ (.tail _ (.tail _ (.head _)))) (by decide) (by decide)
  have keeps : ∀ a ∈ sampleUpdates, a.KeepsOpen := by simp [sampleUpdates, Act.KeepsOpen]
  have keeps' : ∀ a ∈ sampleRound, a.KeepsOpen := by simp [sampleRound, Act.KeepsOpen]
  obtain ⟨_, shows, _⟩ := gauges_follow ofThreads separated keeps
  obtain ⟨_, shows', _⟩ := gauges_follow ofThreads' separated' keeps'
  have published := forall_published shows
  have published' := forall_published shows'
  have listed : x.engine.published = _ := published_sampleUpdates
  have listed' : y.engine.published = _ := published_sampleRound
  rw [listed] at published
  rw [listed'] at published'
  exact ⟨⟨ofThreads, separated, keeps, published _ (.tail _ (.head _))⟩, ofThreads', shared, keeps',
    published' _ (.tail _ (.head _)), published' _ (.tail _ (.tail _ (.tail _ (.head _))))⟩

end Exporter

end ScopeMeter

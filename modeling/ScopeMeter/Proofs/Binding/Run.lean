import ScopeMeter.Proofs.Binding

/-!
# Runs of a binding

A rig is a binding together with the machine that counts for it.  `Rig.next` is one step of a rig,
an operation on the binding or something that happens to the machine from outside, and `Rig.run` a
series of steps.  A rig whose group was opened stays open along every run (`Opened.run`).
-/

namespace ScopeMeter

structure Rig where
  binding : Binding
  host : Host

namespace Rig

inductive Act
  | start
  | stop
  | collect (now : Int64)
  | scopeStart (id : UInt16) (mask : ScopeMask)
  | scopeStop (id : UInt16) (mask : ScopeMask) (isOwn : Bool)
  | summarize
  | clear
  | outside (stimulus : Stimulus)
  deriving DecidableEq

/-- What an act answers and what it leaves behind. -/
def perform (r : Rig) : Act → Outcome Binding (Except Error Unit)
  | .start => ⟨(r.binding.start r.host).1, r.binding, (r.binding.start r.host).2⟩
  | .stop => r.binding.stop r.host
  | .collect now => r.binding.collect now r.host
  | .scopeStart id mask => r.binding.scopeStart id mask r.host
  | .scopeStop id mask isOwn => r.binding.scopeStop id mask isOwn r.host
  | .summarize => ⟨.ok (), r.binding.summarize, r.host⟩
  | .clear => ⟨.ok (), r.binding.clear, r.host⟩
  | .outside stimulus => ⟨.ok (), r.binding, r.host.meet stimulus⟩

def answer (r : Rig) (a : Act) : Except Error Unit := (r.perform a).result

def next (r : Rig) (a : Act) : Rig := ⟨(r.perform a).next, (r.perform a).host⟩

def run (r : Rig) (acts : List Act) : Rig := acts.foldl next r

@[simp] theorem run_nil (r : Rig) : r.run [] = r := rfl

@[simp] theorem run_cons (r : Rig) (a : Act) (acts : List Act) :
    r.run (a :: acts) = (r.next a).run acts := rfl

/-- Whether an act succeeds. -/
def succeeds (r : Rig) (a : Act) : Bool := (r.answer a).isOk

/-- `P` holds at each step of a run. -/
def Along (P : Rig → Act → Prop) : Rig → List Act → Prop
  | _, [] => True
  | r, a :: acts => P r a ∧ (r.next a).Along P acts

instance decidableAlong (P : Rig → Act → Prop) [∀ r a, Decidable (P r a)] :
    ∀ (r : Rig) (acts : List Act), Decidable (r.Along P acts)
  | _, [] => isTrue trivial
  | r, a :: acts =>
    have := decidableAlong P (r.next a) acts
    inferInstanceAs (Decidable (P r a ∧ (r.next a).Along P acts))

/-- A binding whose group is opened for events. -/
def opening (b : Binding) (events : List Event) (h : Host) : Rig :=
  ⟨(b.init events h).next, (b.init events h).host⟩

/-- A thread that is to be measured, and two events to measure it with. -/
def sampleThread : Binding :=
  { tid := some 7, name := "worker", role := .replay, device := .single }

def sampleEvents : List Event :=
  [{ name := "cycles", type := 0, config := 0 }, { name := "misses", type := 0, config := 3 }]

/-- The group of the binding is open, and the binding is made for it. -/
structure Opened (r : Rig) (leader size : Nat) : Prop where
  sound : r.host.Sound
  holds : r.binding.group.Holds r.host leader
  fitted : r.binding.Fitted
  size_eq : r.binding.group.size = size

variable {r : Rig} {leader size : Nat}

/-- A binding whose group could be opened, one counter for each event. -/
theorem opened_of_init {b : Binding} {events : List Event} {h : Host} (sound : h.Sound)
    (ok : (b.init events h).result = .ok ()) :
    (opening b events h).Opened h.nextHandle events.length := by
  rcases b.init_cases sound events with ⟨e, failed, _⟩ | ⟨_, fitted, size, _, holds, opening⟩
  · cases failed.symm.trans ok
  · exact ⟨opening.sound, holds, fitted, size⟩

theorem sameMake_perform (r : Rig) (a : Act) : r.binding.SameMake (r.perform a).next := by
  cases a with
  | start => exact .refl _
  | stop => exact r.binding.sameMake_stop r.host
  | collect now => exact r.binding.sameMake_collect now r.host
  | scopeStart id mask => exact r.binding.sameMake_scopeStart id mask r.host
  | scopeStop id mask isOwn => exact r.binding.sameMake_scopeStop id mask isOwn r.host
  | summarize => exact ⟨rfl, rfl, rfl, rfl, rfl⟩
  | clear => exact ⟨rfl, rfl, rfl, rfl, rfl⟩
  | outside stimulus => exact .refl _

theorem sameCounters_perform (r : Rig) (a : Act) : r.host.SameCounters (r.perform a).host := by
  cases a with
  | start => exact r.binding.group.sameCounters_start r.host
  | stop => exact r.binding.sameCounters_stop r.host
  | collect now => exact r.binding.sameCounters_collect now r.host
  | scopeStart id mask => exact (r.binding.scopeStart_cases id mask r.host).1.same
  | scopeStop id mask isOwn => exact (r.binding.scopeStop_cases id mask isOwn r.host).1.same
  | summarize => exact .refl _
  | clear => exact .refl _
  | outside stimulus => exact r.host.sameCounters_meet stimulus

theorem Opened.next (opened : r.Opened leader size) (a : Act) :
    (r.next a).Opened leader size := by
  have make := r.sameMake_perform a
  have counters := r.sameCounters_perform a
  have sizes : (r.next a).binding.group.size = r.binding.group.size :=
    congrArg List.length make.members
  refine ⟨opened.sound.of_same counters, ?_, opened.fitted.of_sameMake make,
    sizes.trans opened.size_eq⟩
  exact (opened.holds.of_members make.members).of_same counters

theorem Opened.run (opened : r.Opened leader size) (acts : List Act) :
    (r.run acts).Opened leader size := by
  induction acts generalizing r with
  | nil => exact opened
  | cons a acts ih => exact ih (opened.next a)

end Rig

end ScopeMeter

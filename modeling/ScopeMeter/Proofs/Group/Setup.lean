import ScopeMeter.Group
import ScopeMeter.Proofs.Host.Calls

/-!
# The calls that open a group

A group is opened event by event, the first one as the leader of the others, and then zeroed and
stopped.  When all calls succeed these are exactly the calls of `groupCalls`, and the machine has
one counter more for each event (`countersFrom`); otherwise one of the calls failed, or the number
of events was out of bounds (`Group.init_made`).
-/

namespace ScopeMeter

/-- The members that events become from a handle on. -/
def membersFrom (handle : Nat) (events : List Event) : List Member :=
  (events.zipIdx handle).map fun e => ⟨e.1.name, e.2⟩

/-- The counters that events become from a handle on. -/
def countersFrom (leader : Nat) (tid : Int32) (handle : Nat) (events : List Event) :
    List LiveCounter :=
  (events.zipIdx handle).map fun e =>
    { handle := e.2, leader, tid, type := e.1.type, config := e.1.config }

/-- The call that opens an event, alone or in the group of a leader: family, code, width,
inheritance and exclusions are those of the event. -/
def eventOpen (tid cpu : Int32) (leader : Option Nat) (e : Event) (handle : Nat) : CallRecord :=
  .opened
    { type := e.type
      config := e.config
      wide := e.width = .bits64
      inherit := e.inherited
      excludeUser := e.excludeUser
      excludeKernel := e.excludeKernel }
    tid cpu leader handle

/-- The calls that open the siblings of a leader from a handle on. -/
def siblingOpens (leader : Nat) (tid cpu : Int32) (handle : Nat) (events : List Event) :
    List CallRecord :=
  (events.zipIdx handle).map fun e => eventOpen tid cpu (some leader) e.1 e.2

/-- The calls that open a group from a handle on: the first event without a group, all others in
the group of the first. -/
def groupOpens (tid cpu : Int32) (handle : Nat) : List Event → List CallRecord
  | [] => []
  | first :: rest =>
    eventOpen tid cpu none first handle :: siblingOpens handle tid cpu (handle + 1) rest

/-- The calls that open a group, zero it and stop it. -/
def groupCalls (tid cpu : Int32) (handle : Nat) (events : List Event) : List CallRecord :=
  groupOpens tid cpu handle events ++
    [.controlled .reset handle none, .controlled .disable handle none]

/-- A group can have these events: there are some, and not too many. -/
def Openable (events : List Event) : Prop := events ≠ [] ∧ events.length ≤ maxCounters

theorem length_countersFrom (leader : Nat) (tid : Int32) (handle : Nat)
    (events : List Event) : (countersFrom leader tid handle events).length = events.length := by
  simp [countersFrom]

theorem names_membersFrom (handle : Nat) (events : List Event) :
    (membersFrom handle events).map (·.name) = events.map (·.name) := by
  induction events generalizing handle with
  | nil => rfl
  | cons e events ih => exact congrArg (e.name :: ·) (ih (handle + 1))

theorem zip_handles_membersFrom (handle : Nat) (events : List Event) :
    ((membersFrom handle events).map (·.handle)).zip events =
      (events.zipIdx handle).map fun e => (e.2, e.1) := by
  induction events generalizing handle with
  | nil => rfl
  | cons e events ih => exact congrArg ((handle, e) :: ·) (ih (handle + 1))

namespace Group

/-- Opening siblings makes a call that fails, or all calls that open them. -/
theorem openSiblings_made (leader : Nat) (tid cpu : Int32) (events : List Event)
    (opened : List Member) (h : Host) :
    let after := openSiblings leader tid cpu events opened h
    (∃ e calls, after.1 = .error e ∧ h.Made after.2 calls ∧ Foiled calls) ∨
    (after.1 = .ok (opened ++ membersFrom h.nextHandle events) ∧
      h.Made after.2 (siblingOpens leader tid cpu h.nextHandle events) ∧
      h.Grown after.2 (countersFrom leader tid h.nextHandle events)) := by
  induction events generalizing opened h with
  | nil =>
    exact .inr ⟨congrArg Except.ok (List.append_nil opened).symm, .refl h, .refl h⟩
  | cons e events ih =>
    intro after
    have step := h.openCounter_made e.attributes tid cpu (some leader)
    have become : after = openSiblings leader tid cpu (e :: events) opened h := rfl
    unfold openSiblings at become
    rcases eq : h.openCounter e.attributes tid cpu (some leader) with ⟨result, h'⟩
    rw [eq] at step become
    rcases step with ⟨fault, number, failed, made⟩ | ⟨ok, made, grown⟩
    · cases failed
      rw [become]
      exact .inl ⟨_, _, rfl, made.of_eq rfl rfl, foiled_singleton nofun⟩
    · cases ok
      dsimp only at become made grown
      have next : h'.nextHandle = h.nextHandle + 1 := grown.nextHandle
      have rest := ih (opened ++ [⟨e.name, h.nextHandle⟩]) h'
      rw [← become, next] at rest
      rcases rest with ⟨e', calls, failed, made', foiled⟩ | ⟨ok, made', grown'⟩
      · exact .inl ⟨e', _, failed, made.trans made', foiled.append_left _⟩
      · refine .inr ⟨?_, ?_, ?_⟩
        · rw [ok, List.append_assoc]
          rfl
        · exact made.trans made'
        · exact grown.trans grown'

/-- Opening all members makes a call that fails, or all calls that open them. -/
theorem openMembers_made (first : Event) (rest : List Event) (tid cpu : Int32) (h : Host) :
    let after := openMembers first rest tid cpu h
    (∃ e calls, after.1 = .error e ∧ h.Made after.2 calls ∧ Foiled calls) ∨
    (after.1 = .ok (membersFrom h.nextHandle (first :: rest)) ∧
      h.Made after.2 (groupOpens tid cpu h.nextHandle (first :: rest)) ∧
      h.Grown after.2 (countersFrom h.nextHandle tid h.nextHandle (first :: rest))) := by
  intro after
  have step := h.openCounter_made first.attributes tid cpu none
  have become : after = openMembers first rest tid cpu h := rfl
  unfold openMembers at become
  rcases eq : h.openCounter first.attributes tid cpu none with ⟨result, h'⟩
  rw [eq] at step become
  rcases step with ⟨fault, number, failed, made⟩ | ⟨ok, made, grown⟩
  · cases failed
    rw [become]
    exact .inl ⟨_, _, rfl, made, foiled_singleton nofun⟩
  · cases ok
    dsimp only at become made grown
    have next : h'.nextHandle = h.nextHandle + 1 := grown.nextHandle
    have siblings := openSiblings_made h.nextHandle tid cpu rest [⟨first.name, h.nextHandle⟩] h'
    rw [← become, next] at siblings
    rcases siblings with ⟨e, calls, failed, made', foiled⟩ | ⟨ok, made', grown'⟩
    · exact .inl ⟨e, _, failed, made.trans made', foiled.append_left _⟩
    · exact .inr ⟨ok, made.trans made', grown.trans grown'⟩

/-- Zeroing and stopping a new group makes a call that fails, or both calls. -/
theorem quiesce_made (leader : Nat) (members : List Member) (h : Host) :
    let after := quiesce leader members h
    (∃ e calls, after.1 = .error e ∧ h.Made after.2 calls ∧ Foiled calls) ∨
    (after.1 = .ok () ∧
      h.Made after.2 [.controlled .reset leader none, .controlled .disable leader none] ∧
      h.Grown after.2 []) := by
  intro after
  have zeroes := h.control_made .reset leader
  have grown : h.Grown (h.control .reset leader).2 [] := h.grown_control leader nofun
  have become : after = quiesce leader members h := rfl
  unfold quiesce at become
  rcases reset : h.control .reset leader with ⟨result, h'⟩
  rw [reset] at zeroes grown become
  rcases zeroes with ⟨fault, number, failed, made⟩ | ⟨ok, made⟩
  · cases failed
    rw [become]
    exact .inl ⟨_, _, rfl, made.of_eq rfl rfl, foiled_singleton nofun⟩
  · cases ok
    dsimp only at become
    have stops := h'.control_made .disable leader
    have grown' : h'.Grown (h'.control .disable leader).2 [] := h'.grown_control leader nofun
    rcases disable : h'.control .disable leader with ⟨result, h''⟩
    rw [disable] at stops grown' become
    rcases stops with ⟨fault, number, failed, made'⟩ | ⟨ok, made'⟩
    · cases failed
      have foiled : Foiled [.controlled .disable leader (some number)] := foiled_singleton nofun
      rw [become]
      exact .inl ⟨_, _, rfl, (made.trans made').of_eq rfl rfl, foiled.append_left _⟩
    · cases ok
      rw [become]
      exact .inr ⟨rfl, made.trans made', grown.trans grown'⟩

/-- Opening a group makes a call that fails, unless the number of events is out of bounds; or it
makes exactly the calls that open the group. -/
theorem init_made {g : Group} (unopened : g.members = []) (events : List Event)
    (tid cpu : Option Int32) (h : Host) :
    let after := g.init events tid cpu h
    (∃ e calls, after.result = .error e ∧ h.Made after.host calls ∧
      (Openable events → Foiled calls)) ∨
    (after.result = .ok () ∧ Openable events ∧
      after.next = { members := membersFrom h.nextHandle events, scope := {} } ∧
      h.Made after.host (groupCalls (tid.getD (-1)) (cpu.getD (-1)) h.nextHandle events) ∧
      h.Grown after.host (countersFrom h.nextHandle (tid.getD (-1)) h.nextHandle events)) := by
  intro after
  have become : after = g.init events tid cpu h := rfl
  unfold init at become
  rw [unopened, if_neg (by simp)] at become
  cases events with
  | nil =>
    rw [become]
    exact .inl ⟨_, [], rfl, .refl h, fun openable => absurd rfl openable.1⟩
  | cons first rest =>
    dsimp only at become
    split at become
    next many =>
      rw [become]
      exact .inl ⟨_, [], rfl, .refl h, fun openable => absurd openable.2 (Nat.not_le.mpr many)⟩
    next fits =>
      have openable : Openable (first :: rest) := ⟨List.cons_ne_nil _ _, Nat.not_lt.mp fits⟩
      have opens := openMembers_made first rest (tid.getD (-1)) (cpu.getD (-1)) h
      rcases eq : openMembers first rest (tid.getD (-1)) (cpu.getD (-1)) h with ⟨result, h'⟩
      rw [eq] at opens become
      rcases opens with ⟨e, calls, failed, made, foiled⟩ | ⟨ok, made, grown⟩
      · cases failed
        rw [become]
        exact .inl ⟨e, calls, rfl, made, fun _ => foiled⟩
      · cases ok
        have leads : ((membersFrom h.nextHandle (first :: rest)).head?.map (·.handle)).getD 0 =
            h.nextHandle := rfl
        dsimp only at become
        rw [leads] at become
        have quiets := quiesce_made h.nextHandle (membersFrom h.nextHandle (first :: rest)) h'
        rcases eq' : quiesce h.nextHandle (membersFrom h.nextHandle (first :: rest)) h' with
          ⟨result, h''⟩
        rw [eq'] at quiets become
        rcases quiets with ⟨e, calls, failed, made', foiled⟩ | ⟨ok, made', still⟩
        · cases failed
          rw [become]
          exact .inl ⟨e, _, rfl, made.trans made', fun _ => foiled.append_left _⟩
        · cases ok
          rw [become]
          have grown := grown.trans still
          rw [List.append_nil] at grown
          exact .inr ⟨rfl, openable, rfl, made.trans made', grown⟩

end Group

end ScopeMeter

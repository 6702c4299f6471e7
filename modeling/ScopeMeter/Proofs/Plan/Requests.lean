import ScopeMeter.Plan.Build

/-!
# Requested events

What a configuration asks for, told from the fields of its entries alone: `Entry.isAccepted` says
which entries count, and `Entry.requests` which events they ask for and in which groups.  A plan
is made by serving these requests one by one (`Config.plan_cases`).
-/

namespace ScopeMeter

/-- The group that an event is for. -/
inductive Target
  /-- The group of each thread on a device; without one, on the default device. -/
  | thread (device : Option String)
  | interconnect
  | cspmu (device : String)
  deriving DecidableEq

/-- An event placed in a group. -/
def Target.placement : Target → Event → Placement
  | .thread none, event => .default event
  | .thread (some device), event => .device device event
  | .interconnect, event => .interconnect [event] []
  | .cspmu device, event => .cspmu device event

namespace Entry

/-- How many bits the counter of an entry needs. -/
def wantedBits (e : Entry) : Nat := if Flag.orElse e.wide false then 64 else 32

/-- Whether an entry counts: it has a name of its own, names a counter family or a device, needs as
many bits as are required, and its device can be looked up. -/
def isAccepted (context : PlanContext) (e : Entry) : Bool :=
  e.name ∉ ["SUM", "CCthread", "device"] && (e.type.isSome || e.rawDevice.isSome) &&
    context.requiredBits.all (· = e.wantedBits) &&
    e.device.all fun device => (context.registry.resolve device).isOk

/-- The event that an entry asks for. -/
def wanted (e : Entry) (context : PlanContext) : Event where
  name := e.name
  type := match e.device with
    | some device => (context.registry.resolve device).toOption.getD 0
    | none => e.type.getD 0
  config := e.config
  excludeUser := Flag.orElse e.excludeUser false
  excludeKernel := Flag.orElse e.excludeKernel false
  width := if Flag.orElse e.wide false then .bits64 else .bits32
  inherited := context.inherited
  device := e.device.getD defaultDevice
  interconnect := Flag.orElse e.interconnect false
  cspmu := Flag.orElse e.cspmu false

/-- The events that an entry asks for, each with its group. -/
def requests (context : PlanContext) (e : Entry) : List (Target × Event) :=
  match e.device with
  | some device =>
    if Flag.orElse e.cspmu false then
      [(.cspmu device, { e.wanted context with name := device ++ "_" ++ e.name })]
    else [(.thread (some device), e.wanted context)]
  | none =>
    if Flag.orElse e.interconnect false then
      if Flag.orElse e.byNodeId false then
        e.nodeIds.map fun node => (.interconnect,
          { e.wanted context with
            name := e.name ++ "_node" ++ toString node.toNat
            config := (Descriptor.ofEvent e.nodeKind e.config (some node)).toWord })
      else [(.interconnect,
        { e.wanted context with
          config := (Descriptor.ofEvent e.nodeKind e.config none).toWord })]
    else [(.thread none, e.wanted context)]

end Entry

namespace Config

/-- What the entries of a configuration are judged by. -/
def context (c : Config) (registry : Registry) (perApi : Bool) (pmuBits : Option Nat) :
    PlanContext :=
  { registry
    inherited := Flag.orElse c.inherit true
    requiredBits := if perApi then pmuBits else none }

/-- The entries that count, in the order of the document. -/
def accepted (c : Config) (registry : Registry) (perApi : Bool) (pmuBits : Option Nat) :
    List Entry :=
  (c.events.filterMap Entry.ofJson?).filter (Entry.isAccepted (c.context registry perApi pmuBits))

/-- What a configuration asks for. -/
def requests (c : Config) (registry : Registry) (perApi : Bool) (pmuBits : Option Nat) :
    List (Target × Event) :=
  (c.accepted registry perApi pmuBits).flatMap (Entry.requests (c.context registry perApi pmuBits))

/-- The reserved set that takes the place of the entries. -/
def reserved? (c : Config) : Option (List Event) :=
  c.set.bind fun number => ReservedSet.events? number c.inherited

end Config

namespace Entry

variable {e : Entry} {context : PlanContext}

theorem bits_width (e : Entry) : e.width.bits = e.wantedBits := by
  unfold width wantedBits
  split <;> rfl

theorem isAccepted_iff : e.isAccepted context ↔
    e.name ∉ reservedNames ∧ (e.type.isNone && e.rawDevice.isNone) = false ∧
      e.mismatch? context.requiredBits = none ∧
      ∀ device, e.device = some device → ∃ type, context.registry.resolve device = .ok type := by
  have width : context.requiredBits.all (· = e.wantedBits) ↔
      e.mismatch? context.requiredBits = none := by
    unfold mismatch?
    rw [← e.bits_width]
    cases context.requiredBits with
    | none => simp
    | some bits =>
      simp only [Option.all_some, decide_eq_true_eq, Option.filter_some]
      by_cases same : bits = e.width.bits
      · simp [same]
      · simp [same, Ne.symm same]
  have resolved : (e.device.all fun device => (context.registry.resolve device).isOk) ↔
      ∀ device, e.device = some device → ∃ type, context.registry.resolve device = .ok type := by
    cases e.device with
    | none => simp
    | some device =>
      cases found : context.registry.resolve device <;> simp [found, Except.isOk, Except.toBool]
  have named : reservedNames = ["SUM", "CCthread", "device"] := rfl
  unfold isAccepted
  rw [named, Bool.and_eq_true, Bool.and_eq_true, Bool.and_eq_true, width, resolved]
  cases e.type <;> cases e.rawDevice <;> simp [and_assoc]

/-- An entry without a device asks for events of the interconnect, or for one of the default
device. -/
theorem placeDefault_requests (context : PlanContext) (nowhere : e.device = none) :
    (e.placeDefault context.inherited = .default (e.wanted context) ∧
      e.requests context = [(.thread none, e.wanted context)]) ∨
    ∃ events notices, e.placeDefault context.inherited = .interconnect events notices ∧
      e.requests context = events.map fun event => (Target.interconnect, event) := by
  have event : e.event context.inherited = e.wanted context := by
    simp only [Entry.event, wanted, width, nowhere, Option.getD_none]
  unfold placeDefault requests
  simp only [nowhere]
  by_cases member : Flag.orElse e.interconnect false
  · refine .inr ⟨_, _, if_pos member, ?_⟩
    rw [if_pos member, nodeEvents, event, targets]
    by_cases listed : Flag.orElse e.byNodeId false
    · rw [if_pos listed, if_pos listed, List.map_map, List.map_map]
      rfl
    · rw [if_neg listed, if_neg listed]
      rfl
  · rw [if_neg member, event]
    exact .inl ⟨if_neg member, rfl⟩

/-- An entry with a device asks for one event. -/
theorem placeOn_requests {device : String} {type : UInt32} (on : e.device = some device)
    (found : context.registry.resolve device = .ok type) :
    ∃ target event, e.placeOn context.inherited device type = target.placement event ∧
      e.requests context = [(target, event)] := by
  have event : { e.event context.inherited with type, device } = e.wanted context := by
    simp only [Entry.event, wanted, width, on, found, Option.getD_some, Except.toOption]
  unfold placeOn requests
  simp only [on]
  by_cases unit : Flag.orElse e.cspmu false
  · refine ⟨.cspmu device, { e.wanted context with name := device ++ "_" ++ e.name }, ?_, ?_⟩
    · have renamed := congrArg (fun event => { event with name := cspmuName device e.name }) event
      exact (if_pos unit).trans (congrArg (Placement.cspmu device) renamed)
    · rw [if_pos unit]
  · refine ⟨.thread (some device), e.wanted context, ?_, ?_⟩
    · rw [event]
      exact if_neg unit
    · rw [if_neg unit]

/-- What an entry asks for has its name, or a longer one with an underscore. -/
theorem name_requests {r : Target × Event} (asked : r ∈ e.requests context) :
    r.2.name = e.name ∨ ∃ front back, r.2.name = front ++ "_" ++ back := by
  unfold requests at asked
  split at asked
  next device _ =>
    split at asked
    · rw [List.mem_singleton.mp asked]
      exact .inr ⟨device, e.name, rfl⟩
    · rw [List.mem_singleton.mp asked]
      exact .inl rfl
  · split at asked
    · split at asked
      · obtain ⟨node, _, rfl⟩ := List.mem_map.mp asked
        refine .inr ⟨e.name, "node" ++ toString node.toNat, ?_⟩
        have split : "_node" = "_" ++ "node" := rfl
        rw [split, String.append_assoc, String.append_assoc, String.append_assoc]
      · rw [List.mem_singleton.mp asked]
        exact .inl rfl
    · rw [List.mem_singleton.mp asked]
      exact .inl rfl

/-- An entry that counts is placed where it asks to be. -/
theorem place_of_isAccepted (accepted : e.isAccepted context) :
    (∃ target event, e.place context = .ok (target.placement event) ∧
      e.requests context = [(target, event)]) ∨
    ∃ events notices, e.place context = .ok (.interconnect events notices) ∧
      e.requests context = events.map fun event => (Target.interconnect, event) := by
  obtain ⟨named, family, fits, resolved⟩ := isAccepted_iff.mp accepted
  unfold place
  rw [if_neg named, if_neg (by rw [family]; nofun), fits]
  cases on : e.device with
  | none =>
    rcases placeDefault_requests context on with ⟨placed, asked⟩ |
      ⟨events, notices, placed, asked⟩
    · exact .inl ⟨.thread none, e.wanted context, congrArg Except.ok placed, asked⟩
    · exact .inr ⟨events, notices, congrArg Except.ok placed, asked⟩
  | some device =>
    obtain ⟨type, found⟩ := resolved device on
    obtain ⟨target, event, placed, asked⟩ := placeOn_requests on found
    simp only [found]
    exact .inl ⟨target, event, congrArg Except.ok placed, asked⟩

/-- Any other entry is skipped. -/
theorem place_of_not_isAccepted (skipped : ¬e.isAccepted context) :
    ∃ notice, e.place context = .error notice := by
  rw [isAccepted_iff] at skipped
  unfold place
  split
  · exact ⟨_, rfl⟩
  next named =>
    split
    · exact ⟨_, rfl⟩
    next family =>
      split
      · exact ⟨_, rfl⟩
      next fits =>
        rw [Bool.not_eq_true] at family
        split
        next nowhere =>
          refine absurd ⟨named, family, fits, ?_⟩ skipped
          intro device on
          cases nowhere.symm.trans on
        next device on =>
          split
          next type found =>
            refine absurd ⟨named, family, fits, ?_⟩ skipped
            intro device' on'
            cases on.symm.trans on'
            exact ⟨type, found⟩
          · exact ⟨_, rfl⟩

end Entry

namespace Draft

/-- Two drafts that differ in what was noted at most. -/
structure Alike (d d' : Draft) : Prop where
  plan : d.plan = d'.plan
  leaderPlaced : d.leaderPlaced = d'.leaderPlaced

/-- Serves one request. -/
def serve (d : Draft) (r : Target × Event) : Draft := d.add (r.1.placement r.2)

variable {d d' d'' : Draft}

theorem Alike.refl (d : Draft) : Alike d d := ⟨rfl, rfl⟩

theorem Alike.trans (first : Alike d d') (second : Alike d' d'') : Alike d d'' :=
  ⟨first.plan.trans second.plan, first.leaderPlaced.trans second.leaderPlaced⟩

theorem Alike.add (alike : Alike d d') (p : Placement) : Alike (d.add p) (d'.add p) := by
  obtain ⟨plan, leaderPlaced, notices⟩ := d
  obtain ⟨plan', leaderPlaced', notices'⟩ := d'
  obtain ⟨same, same'⟩ := alike
  dsimp only at same same'
  subst same same'
  cases p <;> exact ⟨rfl, rfl⟩

theorem Alike.foldl_serve (alike : Alike d d') (rs : List (Target × Event)) :
    Alike (rs.foldl serve d) (rs.foldl serve d') := by
  induction rs generalizing d d' with
  | nil => exact alike
  | cons r rs ih => exact ih (alike.add _)

/-- Events of the interconnect are served together as they are one by one. -/
theorem alike_add_interconnect (d : Draft) (events : List Event) (notices : List Notice) :
    Alike (d.add (.interconnect events notices))
      ((events.map fun event => (Target.interconnect, event)).foldl serve d) := by
  induction events generalizing d notices with
  | nil => exact ⟨rfl, rfl⟩
  | cons event events ih =>
    rw [List.map_cons, List.foldl_cons]
    have first : Alike (d.add (.interconnect (event :: events) notices))
        ((d.serve (.interconnect, event)).add (.interconnect events [])) := ⟨rfl, rfl⟩
    exact first.trans (ih _ _)

/-- An entry that counts puts its events where it asks to. -/
theorem alike_take_of_isAccepted {raw : Json} {e : Entry} {context : PlanContext}
    (decoded : Entry.ofJson? raw = some e) (accepted : e.isAccepted context) (d : Draft)
    (index : Nat) : Alike (d.take context (raw, index)) ((e.requests context).foldl serve d) := by
  unfold take placeEntry
  simp only [decoded]
  rcases e.place_of_isAccepted accepted with ⟨target, event, placed, asked⟩ |
    ⟨events, notices, placed, asked⟩
  · simp only [placed]
    rw [asked]
    exact .refl _
  · simp only [placed]
    rw [asked]
    exact d.alike_add_interconnect events notices

/-- Any other entry changes nothing. -/
theorem alike_take_of_skipped {raw : Json} {context : PlanContext}
    (skipped : ∀ e, Entry.ofJson? raw = some e → ¬e.isAccepted context) (d : Draft) (index : Nat) :
    Alike (d.take context (raw, index)) d := by
  unfold take placeEntry
  cases decoded : Entry.ofJson? raw with
  | none => exact ⟨rfl, rfl⟩
  | some e =>
    obtain ⟨notice, skips⟩ := e.place_of_not_isAccepted (skipped e decoded)
    simp only [skips]
    exact ⟨rfl, rfl⟩

/-- Taking entries serves the requests of those that count. -/
theorem alike_foldl_take (context : PlanContext) (raws : List Json) (d : Draft) (offset : Nat) :
    Alike ((raws.zipIdx offset).foldl (take context) d)
      ((((raws.filterMap Entry.ofJson?).filter (Entry.isAccepted context)).flatMap
        (Entry.requests context)).foldl serve d) := by
  induction raws generalizing d offset with
  | nil => exact .refl d
  | cons raw raws ih =>
    rw [List.zipIdx_cons, List.foldl_cons]
    have rest := ih (d.take context (raw, offset)) (offset + 1)
    by_cases counts : ∃ e, Entry.ofJson? raw = some e ∧ e.isAccepted context
    · obtain ⟨e, decoded, accepted⟩ := counts
      rw [List.filterMap_cons_some decoded, List.filter_cons_of_pos accepted, List.flatMap_cons,
        List.foldl_append]
      exact rest.trans ((alike_take_of_isAccepted decoded accepted d offset).foldl_serve _)
    · have skipped : ∀ e, Entry.ofJson? raw = some e → ¬e.isAccepted context :=
        fun e decoded accepted => counts ⟨e, decoded, accepted⟩
      have kept : ((raw :: raws).filterMap Entry.ofJson?).filter (Entry.isAccepted context) =
          (raws.filterMap Entry.ofJson?).filter (Entry.isAccepted context) := by
        cases decoded : Entry.ofJson? raw with
        | none => rw [List.filterMap_cons_none decoded]
        | some e =>
          rw [List.filterMap_cons_some decoded, List.filter_cons_of_neg (skipped e decoded)]
      rw [kept]
      exact rest.trans ((alike_take_of_skipped skipped d offset).foldl_serve _)

end Draft

/-- The plan of a configuration: a reserved set alone, or what serving all requests makes. -/
theorem Config.plan_cases (c : Config) (registry : Registry) (perApi : Bool)
    (pmuBits : Option Nat) :
    let blank : Plan := { allThread := c.countsBackground perApi, inherited := c.inherited }
    (∃ events, c.reserved? = some events ∧ (c.plan registry perApi pmuBits).1 =
      { blank with deviceEvents := Keyed.empty.insert defaultDevice events }) ∨
    (c.reserved? = none ∧ (c.plan registry perApi pmuBits).1 =
      ((c.requests registry perApi pmuBits).foldl Draft.serve { plan := blank }).plan) := by
  intro blank
  unfold plan
  cases set : c.reserved? with
  | some events =>
    rw [reserved?] at set
    simp only [set]
    exact .inl ⟨events, rfl, rfl⟩
  | none =>
    rw [reserved?] at set
    simp only [set]
    have alike := Draft.alike_foldl_take (c.context registry perApi pmuBits) c.events
      { plan := blank } 0
    exact .inr ⟨trivial, alike.plan⟩

end ScopeMeter

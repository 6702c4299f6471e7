import Mathlib
import ScopeMeter.Proofs.Plan.Origins

/-!
# Counter families

Each element of the event list puts events behind the groups of the elements before it
(`Config.contribution`), and a plan is what comes without the list followed by these, in the order
of the list.  `Config.families_plan` tells the counter family of each such event from the entry
that brings it: the family of its device, or else the number it gives.

A configuration is `Founded` if every event has a family that its entry asks for.  One kind of
entry stands against it.  An entry that names the empty device has named a device when the entry
is checked and none when its family is looked up; without a number it gets family 0, as if it had
asked for that.
-/

namespace ScopeMeter

/-- The counter family that an entry asks for: that of its device, or else the number it gives. -/
def Entry.family? (registry : Registry) (e : Entry) : Option UInt32 :=
  match e.device with
  | some device => (registry.resolve device).toOption
  | none => e.type

/-- An entry without a number that names the empty device. -/
def Entry.IsBlank (e : Entry) : Prop := e.type = none ∧ e.rawDevice = some ""

namespace Config

/-- The configuration with so many elements of its event list. -/
def upTo (c : Config) (n : Nat) : Config := { c with events := c.events.take n }

/-- The entry at a position of the event list. -/
def entryAt? (c : Config) (i : Nat) : Option Entry := c.events[i]?.bind Entry.ofJson?

/-- What the element at a position of the event list puts behind the group of a class. -/
def contribution (c : Config) (registry : Registry) (perApi : Bool) (pmuBits : Option Nat)
    (kind : DeviceClass) (i : Nat) : List Event :=
  (((c.upTo (i + 1)).plan registry perApi pmuBits).1.eventsFor kind).drop
    (((c.upTo i).plan registry perApi pmuBits).1.eventsFor kind).length

/-- Every event of the list, the leader apart, has the number of its own entry or the family of the
device that the entry names, and an entry that gives neither brings no event. -/
structure Founded (c : Config) (registry : Registry) (perApi : Bool) (pmuBits : Option Nat) :
    Prop where
  family : ∀ kind i, ∀ event ∈ c.contribution registry perApi pmuBits kind i,
    (∃ width, event = cycleLeader width c.inherited) ∨
      ∃ e, c.entryAt? i = some e ∧ (e.type = some event.type ∨
        ∃ device, e.rawDevice = some device ∧ device ≠ "" ∧
          registry.resolve device = .ok event.type)
  skipped : ∀ kind i e, c.entryAt? i = some e → e.type = none → e.device = none →
    c.contribution registry perApi pmuBits kind i = []

end Config

namespace Entry

variable {e : Entry} {context : PlanContext}

theorem device_eq_some_iff {device : String} :
    e.device = some device ↔ e.rawDevice = some device ∧ device ≠ "" := by
  rw [Entry.device, Option.filter_eq_some_iff]
  simp

theorem IsBlank.device (blank : e.IsBlank) : e.device = none := by
  rw [Entry.device, blank.2]
  rfl

/-- What an entry asks for has the family of its device, or else its number or 0. -/
theorem type_wanted (e : Entry) (context : PlanContext) :
    (e.wanted context).type = (e.family? context.registry).getD 0 := by
  unfold wanted family?
  cases e.device <;> rfl

theorem type_requests {r : Target × Event} (asked : r ∈ e.requests context) :
    r.2.type = (e.family? context.registry).getD 0 := by
  rw [← type_wanted]
  unfold requests at asked
  split at asked
  · split at asked <;> rw [List.mem_singleton.mp asked]
  · split at asked
    · split at asked
      · obtain ⟨node, _, rfl⟩ := List.mem_map.mp asked
        rfl
      · rw [List.mem_singleton.mp asked]
    · rw [List.mem_singleton.mp asked]

/-- An entry that counts asks for a family, or it is blank. -/
theorem family_of_isAccepted (accepted : e.isAccepted context) :
    (∃ type, e.family? context.registry = some type) ∨
      (e.IsBlank ∧ e.family? context.registry = none) := by
  obtain ⟨_, family, _, resolved⟩ := isAccepted_iff.mp accepted
  cases on : e.device with
  | some device =>
    obtain ⟨type, found⟩ := resolved device on
    refine .inl ⟨type, ?_⟩
    unfold family?
    rw [on]
    exact congrArg Except.toOption found
  | none =>
    have asked : e.family? context.registry = e.type := by rw [family?, on]
    rw [asked]
    cases typed : e.type with
    | some type => exact .inl ⟨type, rfl⟩
    | none =>
      refine .inr ⟨⟨typed, ?_⟩, rfl⟩
      cases raw : e.rawDevice with
      | none =>
        rw [typed, raw] at family
        cases family
      | some device =>
        by_cases empty : device = ""
        · rw [empty]
        · cases on.symm.trans (device_eq_some_iff.mpr ⟨raw, empty⟩)

/-- A blank entry asks for what it would ask for with the number 0. -/
theorem IsBlank.asks_for_zero (blank : e.IsBlank) (context : PlanContext) :
    e.isAccepted context = { e with type := some 0 }.isAccepted context ∧
      e.requests context = { e with type := some 0 }.requests context := by
  obtain ⟨_, _, _, _, _, _, _, _, _, _, _, _⟩ := e
  obtain ⟨untyped, named⟩ := blank
  dsimp only at untyped named
  subst untyped named
  exact ⟨rfl, rfl⟩

end Entry

namespace Config

variable {c : Config} {registry : Registry} {perApi : Bool} {pmuBits : Option Nat}
  {kind : DeviceClass} {i : Nat} {event : Event}

/-! ## One element after the other -/

/-- A longer list only makes groups longer, by what its further elements ask for. -/
theorem grown_plan (c : Config) (l₁ l₂ : List Json) (kind : DeviceClass) :
    ∃ new, ({ c with events := l₁ ++ l₂ }.plan registry perApi pmuBits).1.eventsFor kind =
        ({ c with events := l₁ }.plan registry perApi pmuBits).1.eventsFor kind ++ new ∧
      ∀ event ∈ new, ∃ r ∈ { c with events := l₂ }.requests registry perApi pmuBits,
        Brings c.inherited kind r event := by
  rcases plan_cases { c with events := l₁ } registry perApi pmuBits with
    ⟨events, set, made⟩ | ⟨unset, made⟩ <;>
  rcases plan_cases { c with events := l₁ ++ l₂ } registry perApi pmuBits with
    ⟨events', set', made'⟩ | ⟨unset', made'⟩
  · cases set.symm.trans set'
    rw [made, made']
    exact ⟨[], (List.append_nil _).symm, fun _ member => nomatch member⟩
  · cases set.symm.trans unset'
  · cases unset.symm.trans set'
  · rw [made, made', requests_append, List.foldl_append]
    obtain ⟨new, grown, brought⟩ := Draft.grown_foldl_serve _ _ kind
    refine ⟨new, grown, ?_⟩
    rw [(Draft.settings_foldl_serve _ _).2] at brought
    exact brought

theorem upTo_succ (c : Config) (i : Nat) :
    c.upTo (i + 1) = { c with events := c.events.take i ++ c.events[i]?.toList } :=
  congrArg (fun events => { c with events }) List.take_add_one

/-- What an element puts behind a group comes after what the elements before it have put there. -/
theorem eventsFor_upTo_succ (c : Config) (kind : DeviceClass) (i : Nat) :
    ((c.upTo (i + 1)).plan registry perApi pmuBits).1.eventsFor kind =
      ((c.upTo i).plan registry perApi pmuBits).1.eventsFor kind ++
        c.contribution registry perApi pmuBits kind i := by
  obtain ⟨new, grown, _⟩ := c.grown_plan (c.events.take i) c.events[i]?.toList kind
  rw [contribution, upTo_succ, grown, upTo, List.drop_left]

theorem eventsFor_upTo (c : Config) (kind : DeviceClass) (n : Nat) :
    ((c.upTo n).plan registry perApi pmuBits).1.eventsFor kind =
      ({ c with events := [] }.plan registry perApi pmuBits).1.eventsFor kind ++
        (List.range n).flatMap (c.contribution registry perApi pmuBits kind) := by
  induction n with
  | zero => rw [List.range_zero, List.flatMap_nil, List.append_nil, upTo, List.take_zero]
  | succ n ih =>
    rw [eventsFor_upTo_succ, ih, List.range_succ, List.flatMap_append, List.flatMap_singleton,
      List.append_assoc]

/-- An event comes from an entry that counts, which asks for it or brings the leader along. -/
theorem entry_of_mem_contribution
    (member : event ∈ c.contribution registry perApi pmuBits kind i) :
    ∃ e, c.entryAt? i = some e ∧ e.isAccepted (c.context registry perApi pmuBits) ∧
      ∃ r ∈ e.requests (c.context registry perApi pmuBits), Brings c.inherited kind r event := by
  obtain ⟨new, grown, brought⟩ := c.grown_plan (c.events.take i) c.events[i]?.toList kind
  have here : c.contribution registry perApi pmuBits kind i = new := by
    rw [contribution, upTo_succ, grown, upTo, List.drop_left]
  obtain ⟨r, asked, brings⟩ := brought event (here ▸ member)
  obtain ⟨e, counted, asks⟩ := List.mem_flatMap.mp asked
  obtain ⟨listed, accepted⟩ := List.mem_filter.mp counted
  obtain ⟨raw, there, decoded⟩ := List.mem_filterMap.mp listed
  have entry : c.entryAt? i = some e := by
    rw [entryAt?, Option.mem_toList.mp there]
    exact decoded
  exact ⟨e, entry, accepted, r, asks, brings⟩

/-- An element that is no entry that counts puts nothing behind any group. -/
theorem contribution_eq_nil {e : Entry} (entry : c.entryAt? i = some e)
    (skipped : ¬e.isAccepted (c.context registry perApi pmuBits)) (kind : DeviceClass) :
    c.contribution registry perApi pmuBits kind i = [] := by
  apply List.eq_nil_iff_forall_not_mem.mpr
  intro event member
  obtain ⟨e', entry', accepted, _⟩ := entry_of_mem_contribution member
  cases entry.symm.trans entry'
  exact skipped accepted

/-- An event is the leader, or it has the family that its entry asks for, or 0 if the entry is
blank. -/
theorem family_of_mem_contribution
    (member : event ∈ c.contribution registry perApi pmuBits kind i) :
    ∃ e, c.entryAt? i = some e ∧ e.isAccepted (c.context registry perApi pmuBits) ∧
      ((Target.thread none).isFor kind ∧ (∃ width, event = cycleLeader width c.inherited) ∨
        e.family? registry = some event.type ∨ e.IsBlank ∧ event.type = 0) := by
  obtain ⟨e, entry, accepted, r, asks, brings⟩ := entry_of_mem_contribution member
  refine ⟨e, entry, accepted, ?_⟩
  cases brings with
  | leader reached => exact .inl ⟨reached, _, rfl⟩
  | asked _ =>
    have typed : event.type = (e.family? registry).getD 0 := Entry.type_requests asks
    rcases Entry.family_of_isAccepted accepted with ⟨type, family⟩ | ⟨blank, family⟩
    · have found : e.family? registry = some type := family
      rw [found, Option.getD_some] at typed
      exact .inr (.inl (by rw [found, typed]))
    · have none : e.family? registry = none := family
      rw [none, Option.getD_none] at typed
      exact .inr (.inr ⟨blank, typed⟩)

/-- All families are asked for exactly if no blank entry brings an event. -/
theorem founded_iff : c.Founded registry perApi pmuBits ↔
    ∀ kind i e, c.entryAt? i = some e → e.IsBlank →
      c.contribution registry perApi pmuBits kind i = [] := by
  constructor
  · intro founded kind i e entry blank
    exact founded.skipped kind i e entry blank.1 blank.device
  intro kept
  refine ⟨?_, ?_⟩
  · intro kind i event member
    obtain ⟨e, entry, _, ⟨_, leads⟩ | family | ⟨blank, _⟩⟩ := family_of_mem_contribution member
    · exact .inl leads
    · refine .inr ⟨e, entry, ?_⟩
      unfold Entry.family? at family
      split at family
      next device on =>
        obtain ⟨named, nonempty⟩ := Entry.device_eq_some_iff.mp on
        cases found : registry.resolve device with
        | error => cases (congrArg Except.toOption found).symm.trans family
        | ok type =>
          cases (congrArg Except.toOption found).symm.trans family
          exact .inr ⟨device, named, nonempty, found⟩
      next => exact .inl family
    · rw [kept kind i e entry blank] at member
      cases member
  · intro kind i e entry untyped nowhere
    by_cases accepted : e.isAccepted (c.context registry perApi pmuBits)
    · have none : e.family? registry = none := by rw [Entry.family?, nowhere, untyped]
      rcases Entry.family_of_isAccepted accepted with ⟨type, family⟩ | ⟨blank, _⟩
      · cases none.symm.trans family
      · exact kept kind i e entry blank
    · exact contribution_eq_nil entry accepted kind

/-- One element asks for what its entry asks for, if that counts. -/
theorem requests_singleton {raw : Json} {e : Entry} (decoded : Entry.ofJson? raw = some e) :
    { c with events := [raw] }.requests registry perApi pmuBits =
      if e.isAccepted (c.context registry perApi pmuBits) then
        e.requests (c.context registry perApi pmuBits)
      else [] := by
  have listed : { c with events := [raw] }.accepted registry perApi pmuBits =
      [e].filter (Entry.isAccepted (c.context registry perApi pmuBits)) := by
    rw [accepted, List.filterMap_cons_some decoded]
    rfl
  rw [requests, listed]
  split
  next counts =>
    rw [List.filter_cons_of_pos counts]
    exact List.flatMap_singleton _ _
  next skipped =>
    rw [List.filter_cons_of_neg skipped]
    rfl

/-- A blank entry in the event list is taken like the entry with the number 0. -/
theorem plan_of_isBlank {l₁ l₂ : List Json} {raw raw' : Json} {e : Entry}
    (decoded : Entry.ofJson? raw = some e) (blank : e.IsBlank)
    (decoded' : Entry.ofJson? raw' = some { e with type := some 0 }) :
    ({ c with events := l₁ ++ [raw] ++ l₂ }.plan registry perApi pmuBits).1 =
      ({ c with events := l₁ ++ [raw'] ++ l₂ }.plan registry perApi pmuBits).1 := by
  apply plan_of_requests
  have alike : { c with events := [raw] }.requests registry perApi pmuBits =
      { c with events := [raw'] }.requests registry perApi pmuBits := by
    obtain ⟨accepted, requests⟩ := blank.asks_for_zero (c.context registry perApi pmuBits)
    rw [requests_singleton decoded, requests_singleton decoded', accepted, requests]
  rw [requests_append, requests_append, requests_append, requests_append, alike]

/-- What an event list brings.  A group is what it is without the list, followed by what each
element puts there.  Each of these events comes from an entry that counts: it is the leader of the
default group, it has the family that the entry asks for, or the entry is blank and it has
family 0.  So all families are asked for exactly if no blank entry brings an event, and a blank
entry is taken like the entry with the number 0. -/
theorem families_plan (c : Config) (registry : Registry) (perApi : Bool) (pmuBits : Option Nat) :
    let brought := c.contribution registry perApi pmuBits
    (∀ kind, (c.plan registry perApi pmuBits).1.eventsFor kind =
      ({ c with events := [] }.plan registry perApi pmuBits).1.eventsFor kind ++
        (List.range c.events.length).flatMap (brought kind)) ∧
    (∀ kind i, ∀ event ∈ brought kind i, ∃ e, c.entryAt? i = some e ∧
      e.isAccepted (c.context registry perApi pmuBits) ∧
        ((Target.thread none).isFor kind ∧ (∃ width, event = cycleLeader width c.inherited) ∨
          e.family? registry = some event.type ∨ e.IsBlank ∧ event.type = 0)) ∧
    (c.Founded registry perApi pmuBits ↔
      ∀ kind i e, c.entryAt? i = some e → e.IsBlank → brought kind i = []) ∧
    ∀ l₁ l₂ raw raw' e, Entry.ofJson? raw = some e → e.IsBlank →
      Entry.ofJson? raw' = some { e with type := some 0 } →
      ({ c with events := l₁ ++ [raw] ++ l₂ }.plan registry perApi pmuBits).1 =
        ({ c with events := l₁ ++ [raw'] ++ l₂ }.plan registry perApi pmuBits).1 := by
  intro brought
  refine ⟨?_, ?_, founded_iff, ?_⟩
  · intro kind
    have whole : c.upTo c.events.length = c := by rw [upTo, List.take_length]
    have listed : ((c.upTo c.events.length).plan registry perApi pmuBits).1.eventsFor kind = _ :=
      c.eventsFor_upTo kind c.events.length
    rwa [whole] at listed
  · exact fun kind i event member => family_of_mem_contribution member
  · exact fun l₁ l₂ raw raw' e decoded blank decoded' => plan_of_isBlank decoded blank decoded'

/-- An entry that names the empty device, with a number or without. -/
def sampleBlank (type : Json) : Json :=
  .obj [("config", .int 3), ("device", .str ""), ("name", .str "A"), ("type", type)]

/-- Without a number the entry is taken like the one with the number 0, behind one of a device. -/
theorem families_plan_sampleBlank :
    let unit := sampleUnitEntry "B" "dsu"
    ({ events := [unit] ++ [sampleBlank .null] ++ [] } : Config).plan sampleUnit false none =
        (sampleUnitPlan ([unit] ++ [sampleBlank (.int 0)] ++ []), []) ∧
      (sampleUnitPlan ([unit] ++ [sampleBlank .null] ++ [])).deviceEvents.keys =
        ["dsu", "single"] := by
  intro unit
  obtain ⟨_, _, _, alike⟩ := families_plan {} sampleUnit false none
  have decoded : Entry.ofJson? (sampleBlank .null) =
      some { name := "A", config := 3, rawDevice := some "" } := by
    cbv
  have decoded' : Entry.ofJson? (sampleBlank (.int 0)) =
      some { name := "A", config := 3, type := some 0, rawDevice := some "" } := by
    cbv
  have same := alike [unit] [] (sampleBlank .null) (sampleBlank (.int 0)) _ decoded ⟨rfl, rfl⟩
    decoded'
  have silent : (({ events := [unit] ++ [sampleBlank .null] ++ [] } : Config).plan sampleUnit false
      none).2 = [] := by
    simp only [unit]
    cbv
  refine ⟨Prod.ext same silent, ?_⟩
  simp only [unit]
  cbv

/-- A document with an entry that names the empty device and no number is not founded: the entry
brings the leader and an event. -/
theorem not_founded_sampleBlank :
    ∃ c e, load (.obj [("event", .arr [sampleBlank .null])]) = .ok c ∧ c.entryAt? 0 = some e ∧
      e.type = none ∧ e.device = none ∧ ¬c.Founded sampleUnit false none := by
  let c : Config := { events := [sampleBlank .null] }
  have entry : c.entryAt? 0 = some { name := "A", config := 3, rawDevice := some "" } := by
    simp only [c]
    cbv
  refine ⟨c, _, rfl, entry, rfl, rfl, ?_⟩
  intro founded
  have brought : (c.contribution sampleUnit false none .single 0).map (·.name) =
      ["CPUCycleCount", "A"] := by
    simp only [c]
    cbv
  rw [founded.skipped .single 0 _ entry rfl rfl] at brought
  cases brought

end Config

end ScopeMeter

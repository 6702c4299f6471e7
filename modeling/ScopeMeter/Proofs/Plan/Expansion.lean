import Mathlib
import ScopeMeter.Proofs.Interconnect.Descriptor
import ScopeMeter.Proofs.Plan.Groups

/-!
# Interconnect events node by node

An entry of the interconnect may list the numbers of the nodes that it is about.  Then it asks for
one event on each of them, and of a number that is listed again only the first event counts, as the
events are told apart by their names and the name tells the number (`nodeEventName_injective`).
What such an entry adds to the group is `Draft.take_listed`.
-/

namespace ScopeMeter

open BitField

/-! ## Events named by what they are made from -/

/-- Only the first occurrence of an element stays. -/
theorem eraseDups_concat {α : Type} [DecidableEq α] (xs : List α) (x : α) :
    (xs ++ [x]).eraseDups = if x ∈ xs then xs.eraseDups else xs.eraseDups ++ [x] := by
  rw [List.eraseDups_append]
  split
  next again =>
    have none : [x].removeAll xs = [] := by simp [List.removeAll, again]
    rw [none, List.eraseDups_nil, List.append_nil]
  next first =>
    have all : [x].removeAll xs = [x] := by simp [List.removeAll, first]
    rw [all]
    rfl

/-- Events that are put behind a group one by one, each named by what it is made from: those stay
whose name the group does not have, one for each of what they are made from. -/
theorem foldl_addUnique_map {α : Type} [DecidableEq α] (made : α → Event)
    (named : Function.Injective fun x => (made x).name) (group : List Event) (xs : List α) :
    (xs.map made).foldl addUnique group = group ++
      (xs.eraseDups.filter fun x => group.all fun e => e.name ≠ (made x).name).map made := by
  induction xs using List.reverseRecOn with
  | nil => exact (List.append_nil group).symm
  | append_singleton xs x ih =>
    rw [List.map_append, List.foldl_append, ih, List.map_singleton, List.foldl_cons,
      List.foldl_nil, eraseDups_concat]
    by_cases taken : ∃ e ∈ group, e.name = (made x).name
    · obtain ⟨e, member, same⟩ := taken
      have stale : (group.all fun e => e.name ≠ (made x).name) = false :=
        List.all_eq_false.mpr ⟨e, member, by simpa using same⟩
      rw [addUnique_of_mem (List.mem_append_left _ member) same]
      split
      · rfl
      · rw [List.filter_append, List.filter_singleton, stale]
        simp
    · have fresh : (group.all fun e => e.name ≠ (made x).name) = true := by
        rw [List.all_eq_true]
        intro e member
        exact decide_eq_true fun same => taken ⟨e, member, same⟩
      by_cases again : x ∈ xs
      · have stays : made x ∈ group ++ (xs.eraseDups.filter fun x =>
            group.all fun e => e.name ≠ (made x).name).map made := by
          apply List.mem_append_right
          apply List.mem_map_of_mem
          exact List.mem_filter.mpr ⟨List.mem_eraseDups.mpr again, fresh⟩
        rw [addUnique_of_mem stays rfl, if_pos again]
      · have other : ∀ e ∈ group ++ (xs.eraseDups.filter fun x =>
            group.all fun e => e.name ≠ (made x).name).map made, e.name ≠ (made x).name := by
          intro e member same
          rcases List.mem_append.mp member with old | new
          · exact taken ⟨e, old, same⟩
          · obtain ⟨y, kept, rfl⟩ := List.mem_map.mp new
            rw [named same] at kept
            exact again (List.mem_eraseDups.mp (List.mem_filter.mp kept).1)
        rw [addUnique_of_fresh other, if_neg again, List.filter_append, List.filter_singleton,
          fresh, List.map_append, List.append_assoc]
        rfl

/-! ## Nodes -/

/-- The name of the event on a node tells the number of the node. -/
theorem nodeEventName_injective (name : String) :
    Function.Injective (Entry.nodeEventName name) := by
  intro node node' same
  have digits := (String.append_right_inj _).mp same
  exact UInt64.toNat_inj.mp (Nat.repr_injective digits)

/-- The invalid node type is what stands for a name that no kind has. -/
theorem NodeType.resolve_name (t : NodeType) : resolve t.name = t := by
  cases t <;> decide

theorem NodeType.resolve_of_unknown {name : String} (unknown : ∀ t : NodeType, t.name ≠ name) :
    resolve name = invalid := by
  have none : ofName? name = none := by
    apply List.find?_eq_none.mpr
    intro t _
    simpa using unknown t
  rw [resolve, none]
  rfl

namespace Entry

variable {e : Entry}

/-- The event that an entry asks for on one node. -/
def nodeEvent (e : Entry) (inherited : Bool) (node : UInt64) : Event :=
  { e.event inherited with
    name := nodeEventName e.name node
    config := (e.descriptor (some node)).toWord }

theorem nodeKind_of_named {t : NodeType} (named : e.nodeType = some t.name) : e.nodeKind = t := by
  rw [nodeKind, named]
  exact t.resolve_name

/-- A name that is missing stands for the invalid node type like one that no kind has. -/
theorem nodeKind_of_unknown (unknown : ∀ t : NodeType, e.nodeType ≠ some t.name) :
    e.nodeKind = .invalid := by
  apply NodeType.resolve_of_unknown
  intro t same
  cases given : e.nodeType with
  | none =>
    rw [given] at same
    cases t <;> exact absurd same (by decide)
  | some name =>
    rw [given, Option.getD_some] at same
    exact unknown t (by rw [given, same])

/-- Which node an event is on shows in bits 32 to 47 of its code only. -/
theorem bit_config_nodeEvent (e : Entry) (inherited : Bool) (node node' : UInt64) {i : Nat}
    (outside : i < 32 ∨ 47 < i) :
    bit (e.nodeEvent inherited node).config i = bit (e.nodeEvent inherited node').config i := by
  have clear : ∀ v, bit (BitField.place v 32 16) i = false := by
    intro v
    rw [bit_place (by decide), Bool.and_eq_false_iff, decide_eq_false_iff_not]
    left
    omega
  simp only [nodeEvent, Descriptor.toWord, descriptor, Descriptor.ofEvent, bit_or, clear,
    Option.isSome_some]

theorem ofWord_config_nodeEvent (e : Entry) (inherited : Bool) (node : UInt64) :
    Descriptor.ofWord (e.nodeEvent inherited node).config = e.descriptor (some node) :=
  Descriptor.ofWord_toWord _

theorem toNat_eventId (e : Entry) (node : Option UInt64) :
    (e.descriptor node).eventId.toNat = e.config.toNat % 256 := by
  have low : (field e.config 0 8).toNat = e.config.toNat % 256 := toNat_field_zero e.config 8
  have cut : (e.descriptor node).eventId.toNat = (field e.config 0 8).toNat % 256 :=
    UInt64.toNat_toUInt8 _
  rw [cut, low, Nat.mod_mod]

theorem toNat_nodeId (e : Entry) (node : UInt64) :
    (e.descriptor (some node)).nodeId.toNat = node.toNat % 65536 := by
  have low : (field node 0 16).toNat = node.toNat % 65536 := toNat_field_zero node 16
  have cut : (e.descriptor (some node)).nodeId.toNat = (field node 0 16).toNat % 65536 :=
    UInt64.toNat_toUInt16 _
  rw [cut, low, Nat.mod_mod]

/-- Events on two nodes have one code if the numbers of the nodes agree in their low 16 bits. -/
theorem config_nodeEvent_eq_iff (e : Entry) (inherited : Bool) (node node' : UInt64) :
    (e.nodeEvent inherited node).config = (e.nodeEvent inherited node').config ↔
      node.toNat % 65536 = node'.toNat % 65536 := by
  rw [← toNat_nodeId e, ← toNat_nodeId e]
  constructor
  · intro same
    have parts := congrArg Descriptor.ofWord same
    rw [ofWord_config_nodeEvent, ofWord_config_nodeEvent] at parts
    rw [parts]
  · intro same
    have parts : e.descriptor (some node) = e.descriptor (some node') := by
      have id : (e.descriptor (some node)).nodeId = (e.descriptor (some node')).nodeId :=
        UInt16.toNat_inj.mp same
      unfold descriptor Descriptor.ofEvent at id ⊢
      dsimp only at id ⊢
      rw [id]
      rfl
    rw [nodeEvent, nodeEvent, parts]

theorem nodeEvents_listed (listed : Flag.orElse e.byNodeId false = true) (inherited : Bool) :
    e.nodeEvents inherited = e.nodeIds.map (e.nodeEvent inherited) := by
  rw [nodeEvents, targets, if_pos listed, List.map_map]
  rfl

/-- An entry that counts and has no device is placed by what it says of itself. -/
theorem place_of_nowhere {context : PlanContext} (accepted : e.isAccepted context)
    (nowhere : e.device = none) : e.place context = .ok (e.placeDefault context.inherited) := by
  obtain ⟨named, family, fits, _⟩ := isAccepted_iff.mp accepted
  rw [place, if_neg named, if_neg (by rw [family]; nofun), fits, nowhere]

end Entry

theorem fst_addAllUnique (group events : List Event) :
    (addAllUnique group events).1 = events.foldl addUnique group := by
  induction events generalizing group with
  | nil => rfl
  | cons event events ih => exact ih _

/-- An entry of the interconnect that lists nodes adds to the events of the interconnect, and
changes nothing else of the plan: one event for each node whose event has no name of the group yet,
in the order in which the nodes are listed first.  The event on a node is that of the entry but for
its name and its code.  The code says what is asked of which node, and tells two nodes apart just as
far as its 16 bits for the node do. -/
theorem Draft.take_listed {context : PlanContext} {raw : Json} {e : Entry}
    (decoded : Entry.ofJson? raw = some e) (accepted : e.isAccepted context)
    (nowhere : e.device = none) (member : Flag.orElse e.interconnect false = true)
    (listed : Flag.orElse e.byNodeId false = true) (d : Draft) (index : Nat) :
    let name (node : UInt64) := e.name ++ "_node" ++ toString node.toNat
    let group := d.plan.interconnectEvents
    let fresh (node : UInt64) := group.all fun old => old.name ≠ name node
    ∃ on : UInt64 → Event,
      (d.take context (raw, index)).plan =
        { d.plan with interconnectEvents := group ++ (e.nodeIds.eraseDups.filter fresh).map on } ∧
      (∀ node, on node =
        { e.event context.inherited with name := name node, config := (on node).config }) ∧
      (∀ node, let asked := Descriptor.ofWord (on node).config
        (∀ t : NodeType, e.nodeType = some t.name → asked.nodeType = t.code) ∧
        ((∀ t : NodeType, e.nodeType ≠ some t.name) → asked.nodeType = 0) ∧
        asked.eventId.toNat = e.config.toNat % 256 ∧ asked.byNodeId = true ∧
        asked.nodeId.toNat = node.toNat % 65536) ∧
      ∀ node node',
        (∀ i, i < 32 ∨ 47 < i → bit (on node).config i = bit (on node').config i) ∧
        ((on node).config = (on node').config ↔ node.toNat % 65536 = node'.toNat % 65536) := by
  intro name group fresh
  refine ⟨e.nodeEvent context.inherited, ?_, fun _ => rfl, ?_, ?_⟩
  · have placed : e.place context = .ok (.interconnect
        (e.nodeIds.map (e.nodeEvent context.inherited)) e.nodeNotices) := by
      rw [Entry.place_of_nowhere accepted nowhere, ← Entry.nodeEvents_listed listed]
      exact congrArg Except.ok (if_pos member)
    have grown := foldl_addUnique_map (e.nodeEvent context.inherited)
      (nodeEventName_injective e.name) group e.nodeIds
    rw [← fst_addAllUnique] at grown
    unfold Draft.take placeEntry
    simp only [decoded, placed]
    exact congrArg (fun events => { d.plan with interconnectEvents := events }) grown
  · intro node asked
    have read : asked = e.descriptor (some node) := e.ofWord_config_nodeEvent context.inherited node
    rw [read]
    refine ⟨?_, ?_, e.toNat_eventId _, rfl, e.toNat_nodeId node⟩
    · intro t named
      exact congrArg NodeType.code (Entry.nodeKind_of_named named)
    · intro unknown
      exact congrArg NodeType.code (Entry.nodeKind_of_unknown unknown)
  · intro node node'
    exact ⟨fun i outside => e.bit_config_nodeEvent context.inherited node node' outside,
      e.config_nodeEvent_eq_iff context.inherited node node'⟩

/-- An entry that lists a node twice, one whose event the group has, and two whose numbers agree in
their low 16 bits. -/
def sampleNodes : Entry where
  name := "flits"
  config := 0x142
  type := some 9
  excludeUser := some (.bool true)
  interconnect := some (.int 1)
  nodeType := some "HNF"
  byNodeId := some (.bool true)
  nodeIds := [8, 65544, 8, 7]

def sampleNodesText : Json :=
  .arr [.str "flits", .int 0x142, .int 9, .null, .bool true, .null, .null, .int 1, .null,
    .str "HNF", .bool true, .arr [.int 8, .int 65544, .int 8, .int 7]]

/-- A plan that counts the event on one of the nodes already. -/
def sampleNodeGroup : Draft :=
  { plan := { interconnectEvents := [{ name := "flits_node7", type := 9, config := 0 }] } }

def sampleNowhere : PlanContext := ⟨⟨.dir [], "/"⟩, true, none⟩

theorem Draft.take_listed_sampleNodes :
    Entry.ofJson? sampleNodesText = some sampleNodes ∧ sampleNodes.isAccepted sampleNowhere ∧
    sampleNodes.device = none ∧ Flag.orElse sampleNodes.interconnect false = true ∧
    Flag.orElse sampleNodes.byNodeId false = true ∧
    ∃ first second : Event,
      (sampleNodeGroup.take sampleNowhere (sampleNodesText, 0)).plan.interconnectEvents =
        sampleNodeGroup.plan.interconnectEvents ++ [first, second] ∧
      first.name = "flits_node8" ∧ second.name = "flits_node65544" ∧
      first.config = second.config ∧ first.type = 9 ∧ first.excludeUser = true ∧
      (Descriptor.ofWord first.config).nodeType = NodeType.hnf.code ∧
      (Descriptor.ofWord first.config).eventId.toNat = 0x42 ∧
      (Descriptor.ofWord second.config).nodeId.toNat = 8 := by
  have decoded : Entry.ofJson? sampleNodesText = some sampleNodes := by cbv
  have accepted : sampleNodes.isAccepted sampleNowhere := by cbv
  obtain ⟨on, plan, made, asked, codes⟩ :=
    Draft.take_listed decoded accepted rfl rfl rfl sampleNodeGroup 0
  have fresh : sampleNodes.nodeIds.eraseDups.filter (fun node =>
      sampleNodeGroup.plan.interconnectEvents.all fun old =>
        old.name ≠ sampleNodes.name ++ "_node" ++ toString node.toNat) = [8, 65544] := by
    cbv
  rw [fresh] at plan
  refine ⟨decoded, accepted, rfl, rfl, rfl, on 8, on 65544, ?_, ?_, ?_, ?_, ?_, ?_,
    ?_, ?_, ?_⟩
  · rw [plan]
    rfl
  · rw [made]
    cbv
  · rw [made]
    cbv
  · exact (codes 8 65544).2.mpr rfl
  · rw [made]
    rfl
  · rw [made]
    rfl
  · exact (asked 8).1 .hnf rfl
  · exact (asked 8).2.2.1
  · exact (asked 65544).2.2.2.2

end ScopeMeter

import ScopeMeter.Plan.Build
import ScopeMeter.Proofs.Json.Alike

/-!
# Spellings of flags

A flag is spelled by a boolean or by an integer. Documents are `Config.Respelled` when they are the
same but for spellings of flags that say the same: flags of the document or of any of its entries,
where these are written out or embedded as texts, in objects or in arrays.

`Config.plan_load_of_respelled` says that nothing depends on the spelling. The decoded flags still
show it, so decoding relates the configurations and entries only up to `settled` flags, and what is
planned is the same because every flag is read through `Flag.enabled`.
-/

namespace ScopeMeter

/-! ## Flags -/

namespace Flag

/-- The value that spells a flag. -/
def toJson : Flag → Json
  | .bool b => .bool b
  | .int n => .int n.toInt

/-- The flag that a value of an entry spells when the entry is unpacked. -/
def unpacked? (v : Json) : Option Flag := (Json.unpack v).toOption.bind ofJson?

/-- The boolean spelling of a flag. -/
def settled (f : Flag) : Flag := .bool f.enabled

@[simp]
theorem orElse_map_settled (flag : Option Flag) (default : Bool) :
    orElse (flag.map settled) default = orElse flag default := by
  cases flag <;> rfl

/-- Flags of a field, which may be missing, that are the same but for their spelling. -/
def Alike (flag flag' : Option Flag) : Prop := flag.map settled = flag'.map settled

theorem Alike.refl (flag : Option Flag) : Alike flag flag := rfl

theorem Alike.of_enabled {f f' : Flag} (enabled : f.enabled = f'.enabled) :
    Alike (some f) (some f') := by
  simp [Alike, settled, enabled]

theorem Alike.orElse_eq {flag flag' : Option Flag} (h : Alike flag flag') (default : Bool) :
    orElse flag default = orElse flag' default := by
  rw [← orElse_map_settled flag, h, orElse_map_settled]

/-- The values of a field that are equal or, where the field is one of the `flags`, spell flags
that say the same. -/
inductive Respelled (flag? : Json → Option Flag) (flags : List String) (name : String) :
    Json → Json → Prop
  | same (v : Json) : Respelled flag? flags name v v
  | flag {v v' : Json} {f f' : Flag} (isFlag : name ∈ flags) (spelled : flag? v = some f)
      (spelled' : flag? v' = some f') (enabled : f.enabled = f'.enabled) :
      Respelled flag? flags name v v'

@[simp]
theorem ofJson?_toJson (f : Flag) : ofJson? f.toJson = some f := by
  cases f with
  | bool b => rfl
  | int n =>
    have below : n.toInt < 0x8000000000000000 := Int64.toInt_lt n
    simp [toJson, ofJson?, Json.int64?, below]

@[simp]
theorem unpacked?_toJson (f : Flag) : unpacked? f.toJson = some f := by
  have plain : Json.unpack f.toJson = .ok f.toJson := by cases f <;> rfl
  simp [unpacked?, plain, Except.toOption]

variable {flag? : Json → Option Flag} {flags : List String} {name : String} {v v' : Json}

/-- Any two spellings of flags that say the same may take each other's place. -/
theorem Respelled.of_enabled {f f' : Flag} (reads : ∀ f : Flag, flag? f.toJson = some f)
    (isFlag : name ∈ flags) (enabled : f.enabled = f'.enabled) :
    Respelled flag? flags name f.toJson f'.toJson :=
  .flag isFlag (reads f) (reads f') enabled

theorem Respelled.eq_of_notMem (h : Respelled flag? flags name v v') (notFlag : name ∉ flags) :
    v = v' := by
  cases h with
  | same => rfl
  | flag isFlag => exact absurd isFlag notFlag

/-- Respelled values of an entry unpack to respelled values. -/
theorem Respelled.unpack (h : Respelled unpacked? flags name v v') :
    Agree (Respelled ofJson? flags name) (Json.unpack v) (Json.unpack v') := by
  cases h with
  | same => exact Agree.refl .same _
  | flag isFlag spelled spelled' enabled =>
    unfold unpacked? at spelled spelled'
    cases unpacked : Json.unpack v with
    | error _ => simp [unpacked, Except.toOption] at spelled
    | ok w =>
      cases unpacked' : Json.unpack v' with
      | error _ => simp [unpacked', Except.toOption] at spelled'
      | ok w' =>
        rw [unpacked] at spelled
        rw [unpacked'] at spelled'
        exact .ok (.flag isFlag spelled spelled' enabled)

end Flag

/-! ## Entries -/

namespace Entry

/-- The fields of an entry in the order of its array. -/
def order : List String :=
  ["name", "config", "type", "device", "excludeUser", "excludeKernel", "counterLen64bit",
    "booker-ci", "CSPMU", "nodetype", "bynodeid", "nodeid"]

/-- The flags of an entry. -/
def flags : List String :=
  ["excludeUser", "excludeKernel", "counterLen64bit", "booker-ci", "CSPMU", "bynodeid"]

/-- Unpacked entries that are the same but for spellings of flags. -/
def Alike : Json → Json → Prop := Json.Alike order (Flag.Respelled Flag.ofJson? flags)

/-- Entries of a document that are the same but for spellings of flags. -/
inductive Respelled : Json → Json → Prop
  | plain {v v' : Json} (h : Json.Alike order (Flag.Respelled Flag.unpacked? flags) v v') :
      Respelled v v'
  | embedded {text text' : String} {v v' : Json} (read : Json.read text = .ok v)
      (read' : Json.read text' = .ok v') (alike : Alike v v') :
      Respelled (.obj [(Json.embeddingName, .str text)]) (.obj [(Json.embeddingName, .str text')])

theorem Respelled.unpack {v v' : Json} (h : Respelled v v') :
    Agree Alike (Json.unpack v) (Json.unpack v') := by
  cases h with
  | plain h =>
    refine Json.agree_unpack (fun _ _ _ related => related.unpack) h fun _ _ related => ?_
    exact related.eq_of_notMem (by decide)
  | embedded read read' alike =>
    simp only [Json.unpack, if_true, Json.unpackText, read, read', List.length_nil]
    exact .ok alike

/-- An entry with its flags in the boolean spelling. -/
def settled (e : Entry) : Entry :=
  { e with
    excludeUser := e.excludeUser.map Flag.settled
    excludeKernel := e.excludeKernel.map Flag.settled
    wide := e.wide.map Flag.settled
    interconnect := e.interconnect.map Flag.settled
    cspmu := e.cspmu.map Flag.settled
    byNodeId := e.byNodeId.map Flag.settled }

/-- An entry is placed by what its flags say. -/
@[simp]
theorem place_settled (e : Entry) (context : PlanContext) :
    e.settled.place context = e.place context := by
  have width : e.settled.width = e.width := by simp [settled, Entry.width]
  have event (inherited : Bool) : e.settled.event inherited = e.event inherited := by
    simp [settled, Entry.event, Entry.width]
  have targets : e.settled.targets = e.targets := by simp [settled, Entry.targets]
  have default : e.settled.placeDefault = e.placeDefault := by
    funext inherited
    simp only [placeDefault, nodeEvents, nodeNotices, event, targets]
    rfl
  have placeOn : e.settled.placeOn = e.placeOn := by
    funext inherited device type
    simp only [Entry.placeOn, event]
    rfl
  simp only [place, mismatch?, width, default, placeOn]
  rfl

/-- An array is read as the object of its named elements, unless it is too short or too long. -/
theorem ofArray?_eq (items : List Json) :
    ofArray? items =
      if 11 ≤ items.length ∧ items.length ≤ 12 then ofObject? (.obj (order.zip items))
      else none := by
  unfold ofArray?
  split
  next name config type device excludeUser excludeKernel wide interconnect cspmu nodeType byNodeId
      rest =>
    by_cases long : 1 < rest.length
    · rw [if_pos long, if_neg (by simp; omega)]
    · rw [if_neg long, if_pos (by simp; omega)]
      rcases rest with _ | ⟨nodes, _ | ⟨_, _⟩⟩
      · simp [ofObject?, optional, Json.field?, order, lookupEntry]
      · simp [ofObject?, optional, Json.field?, order, lookupEntry]
      · simp at long
  next short =>
    refine (if_neg fun bounds => ?_).symm
    obtain ⟨long, -⟩ := bounds
    -- Eleven elements are what the pattern wants.
    rcases items with _ | ⟨_, _ | ⟨_, _ | ⟨_, _ | ⟨_, _ | ⟨_, _ | ⟨_, _ | ⟨_, _ | ⟨_, _ | ⟨_,
      _ | ⟨_, _ | ⟨_, _⟩⟩⟩⟩⟩⟩⟩⟩⟩⟩⟩
    case cons.cons.cons.cons.cons.cons.cons.cons.cons.cons.cons =>
      exact short _ _ _ _ _ _ _ _ _ _ _ _ rfl
    all_goals simp at long

/-- A flag's field that is respelled is read as the same flag but for its spelling. -/
theorem rel_optional_flag {v v' : Json} {name : String}
    (h : Option.Rel (Flag.Respelled Flag.ofJson? flags name) (v.field? name) (v'.field? name)) :
    Option.Rel Flag.Alike (optional Flag.ofJson? v name) (optional Flag.ofJson? v' name) := by
  have written {w : Json} {f : Flag} (spelled : Flag.ofJson? w = some f) :
      nullable Flag.ofJson? w = some (some f) := by
    cases w <;> simp_all [nullable, Flag.ofJson?, Json.int64?]
  unfold optional
  generalize v.field? name = look at h
  generalize v'.field? name = look' at h
  cases h with
  | none => exact .some rfl
  | some h =>
    cases h with
    | same => exact rel_refl Flag.Alike.refl _
    | flag _ spelled spelled' enabled =>
      simp only [written spelled, written spelled']
      exact .some (.of_enabled enabled)

/-- Objects with respelled fields are read as the same entry but for the spellings of its flags. -/
theorem rel_ofObject? {v v' : Json}
    (h : ∀ name, Option.Rel (Flag.Respelled Flag.ofJson? flags name) (v.field? name)
      (v'.field? name)) :
    Option.Rel (fun e e' => e.settled = e'.settled) (ofObject? v) (ofObject? v') := by
  have plain (name : String) (notFlag : name ∉ flags) : v.field? name = v'.field? name := by
    have related := h name
    generalize v.field? name = look at related
    generalize v'.field? name = look' at related
    cases related with
    | none => rfl
    | some h => exact congrArg some (h.eq_of_notMem notFlag)
  have same {α : Type} (x : Option α) : Option.Rel Eq x x := rel_refl (fun _ => rfl) x
  have flag (name : String) := rel_optional_flag (h name)
  unfold ofObject?
  simp only [optional, plain "name" (by decide), plain "config" (by decide),
    plain "type" (by decide), plain "device" (by decide), plain "nodetype" (by decide),
    plain "nodeid" (by decide)]
  -- One step for each field, in the order in which the fields are read.
  refine rel_bind (same _) fun name => rel_bind (same _) fun config => ?_
  refine rel_bind (same _) fun type => rel_bind (same _) fun device => ?_
  refine rel_bind (flag _) fun excludeUser => rel_bind (flag _) fun excludeKernel => ?_
  refine rel_bind (flag _) fun wide => rel_bind (flag _) fun interconnect => ?_
  refine rel_bind (flag _) fun cspmu => rel_bind (same _) fun nodeType => ?_
  refine rel_bind (flag _) fun byNodeId => rel_bind (same _) fun nodeIds => ?_
  subst_vars
  exact .some (by simp_all [settled, Flag.Alike])

/-- Alike values are read as the same entry but for the spellings of its flags. -/
theorem Alike.ofJson? {v v' : Json} (h : Alike v v') :
    (ofJson? v).map settled = (ofJson? v').map settled := by
  have settled_eq {x y : Option Entry}
      (h : Option.Rel (fun e e' => e.settled = e'.settled) x y) :
      x.map settled = y.map settled := by
    cases h with
    | none => rfl
    | some h => exact congrArg some h
  cases h with
  | same => rfl
  | obj h => exact settled_eq (rel_ofObject? h.lookupEntry)
  | arr h =>
    simp only [Entry.ofJson?, ofArray?_eq, h.length_eq]
    split
    · exact settled_eq (rel_ofObject? h.fieldsAlike_zip.lookupEntry)
    · rfl

end Entry

/-- Alike entries are placed alike, or skipped with the same notice. -/
theorem placeEntry_eq_of_alike {v v' : Json} (h : Entry.Alike v v') (context : PlanContext)
    (index : Nat) : placeEntry context index v = placeEntry context index v' := by
  have decoded := h.ofJson?
  unfold placeEntry
  cases read : Entry.ofJson? v with
  | none =>
    rw [read, Option.map_none, eq_comm, Option.map_eq_none_iff] at decoded
    rw [decoded]
  | some e =>
    rw [read, Option.map_some, eq_comm, Option.map_eq_some_iff] at decoded
    obtain ⟨e', read', settled⟩ := decoded
    rw [read']
    exact (Entry.place_settled e context).symm.trans
      ((congrArg (Entry.place · context) settled.symm).trans (Entry.place_settled e' context))

theorem foldl_take_eq_of_alike {R : Nat → Json → Json → Prop} {items items' : List Json}
    (h : Json.ItemsAlike R items items') (alike : ∀ i v v', R i v v' → Entry.Alike v v')
    (context : PlanContext) (start : Nat) (d : Draft) :
    (items.zipIdx start).foldl (Draft.take context) d =
      (items'.zipIdx start).foldl (Draft.take context) d := by
  induction h generalizing start d with
  | nil => rfl
  | @cons _ v v' _ _ head _ ih =>
    have taken : d.take context (v, start) = d.take context (v', start) := by
      simp only [Draft.take, placeEntry_eq_of_alike (alike 0 v v' head) context start]
    simp only [List.zipIdx_cons, List.foldl_cons, taken]
    exact ih (fun i => alike (i + 1)) (start + 1) _

/-! ## Documents -/

namespace Config

/-- The fields of a document in the order of its array. -/
def order : List String := ["set", "inherit", "event", "allthread"]

/-- The flags of a document. -/
def flags : List String := ["inherit", "allthread"]

/-- The values of a field of a document that are the same but for spellings of flags. -/
inductive FieldRespelled (name : String) : Json → Json → Prop
  | field {v v' : Json} (h : Flag.Respelled Flag.ofJson? flags name v v') :
      FieldRespelled name v v'
  | events {items items' : List Json} (named : name = "event")
      (h : Json.ItemsAlike (fun _ => Entry.Respelled) items items') :
      FieldRespelled name (.arr items) (.arr items')

/-- Documents that are the same but for spellings of flags. -/
def Respelled : Json → Json → Prop := Json.Alike order FieldRespelled

/-- Configurations that are the same but for spellings of flags. -/
structure Alike (c c' : Config) : Prop where
  set : c.set = c'.set
  inherit : Flag.Alike c.inherit c'.inherit
  events : Json.ItemsAlike (fun _ => Entry.Alike) c.events c'.events
  allThread : Flag.Alike c.allThread c'.allThread

/-- Alike configurations have the same plan and the same notices. -/
theorem Alike.plan_eq {c c' : Config} (h : Alike c c') (registry : Registry) (perApi : Bool)
    (pmuBits : Option Nat) : c.plan registry perApi pmuBits = c'.plan registry perApi pmuBits := by
  have inherited : c.inherited = c'.inherited := h.inherit.orElse_eq true
  have background : c.countsBackground perApi = c'.countsBackground perApi :=
    h.allThread.orElse_eq (!perApi)
  unfold Config.plan
  simp only [h.set, inherited, background,
    foldl_take_eq_of_alike h.events fun _ _ _ alike => alike]

/-! ### Decoding -/

variable {look look' : Option Json}

theorem agree_set (h : Option.Rel (FieldRespelled "set") look look') :
    Agree Eq (optional decodeSet none look) (optional decodeSet none look') := by
  cases h with
  | none => exact .ok rfl
  | some h =>
    cases h with
    | field h =>
      rw [h.eq_of_notMem (by decide)]
      exact Agree.refl (fun _ => rfl) _
    | events named => exact absurd named (by decide)

theorem agree_flag {name : String} (notEvents : name ≠ "event")
    (h : Option.Rel (FieldRespelled name) look look') :
    Agree Flag.Alike (optional decodeFlag none look) (optional decodeFlag none look') := by
  have written {w : Json} {f : Flag} (spelled : Flag.ofJson? w = some f) :
      decodeFlag w = .ok (some f) := by
    cases w <;> simp_all [decodeFlag, Flag.ofJson?, Json.int64?]
  cases h with
  | none => exact .ok rfl
  | some h =>
    cases h with
    | events named => exact absurd named notEvents
    | field h =>
      cases h with
      | same => exact Agree.refl Flag.Alike.refl _
      | flag _ spelled spelled' enabled =>
        simp only [optional, written spelled, written spelled']
        exact .ok (.of_enabled enabled)

theorem agree_events (h : Option.Rel (FieldRespelled "event") look look') :
    Agree (Json.ItemsAlike fun _ => Entry.Alike) (optional decodeEvents [] look)
      (optional decodeEvents [] look') := by
  have same (items : List Json) : Json.ItemsAlike (fun _ => Entry.Alike) items items :=
    .refl (fun _ => .same) items
  cases h with
  | none => exact .ok .nil
  | some h =>
    cases h with
    | field h =>
      rw [h.eq_of_notMem (by decide)]
      exact Agree.refl same _
    | events _ h =>
      have unpacked := Json.agree_unpackItems h fun _ _ _ respelled => respelled.unpack
      simp only [optional, decodeEvents]
      generalize Json.unpackItems _ = x at unpacked
      generalize Json.unpackItems _ = y at unpacked
      cases unpacked with
      | error fault => exact .error _
      | ok alike => exact .ok alike

/-- Respelled documents fail to decode for the same reason, or are decoded as configurations that
are the same but for spellings of flags. -/
theorem Respelled.ofJson {v v' : Json} (h : Respelled v v') :
    Agree Alike (ofJson v) (ofJson v') := by
  have refl (c : Config) : Alike c c := ⟨rfl, rfl, .refl (fun _ => .same) _, rfl⟩
  cases h with
  | same => exact Agree.refl refl _
  | obj h =>
    have field (name : String) := h.lookupEntry name
    refine (agree_flag (by decide) (field "allthread")).bind fun allThread => ?_
    refine (agree_events (field "event")).bind fun events => ?_
    refine (agree_flag (by decide) (field "inherit")).bind fun inherit => ?_
    exact (agree_set (field "set")).bind fun set => .ok ⟨set, inherit, events, allThread⟩
  | @arr items items' h =>
    simp only [Config.ofJson, ofArray, h.length_eq]
    refine (agree_set (h.getElem? 0)).bind fun set => ?_
    refine (agree_flag (by decide) (h.getElem? 1)).bind fun inherit => ?_
    refine (agree_events (h.getElem? 2)).bind fun events => ?_
    refine (agree_flag (by decide) (h.getElem? 3)).bind fun allThread => ?_
    by_cases long : 4 < items.length
    · simp only [long, if_true]
      exact .error _
    · simp only [long, if_false]
      exact .ok ⟨set, inherit, events, allThread⟩

theorem Respelled.load {v v' : Json} (h : Respelled v v') : Agree Alike (load v) (load v') := by
  have decoded := h.ofJson
  unfold Config.load
  generalize Config.ofJson v = x at decoded
  generalize Config.ofJson v' = y at decoded
  cases decoded with
  | error fault => exact .error _
  | ok alike => exact .ok alike

/-- Nothing depends on the spelling of flags: of respelled documents neither can be loaded, for the
same reason, or both can, and then they have the same plan and the same notices, whatever devices
are there, in either mode and for every width of the unit. -/
theorem plan_load_of_respelled {v v' : Json} (h : Respelled v v') (registry : Registry)
    (perApi : Bool) (pmuBits : Option Nat) :
    (load v).map (fun c => c.plan registry perApi pmuBits) =
      (load v').map fun c => c.plan registry perApi pmuBits := by
  exact h.load.map_eq fun alike => alike.plan_eq registry perApi pmuBits

/-- An entry that spells its flags as `t` and `f`, as an object. -/
def sampleObject (t f : Flag) : Json :=
  .obj
    [("CSPMU", f.toJson), ("config", .int 3), ("counterLen64bit", t.toJson), ("name", .str "A"),
      ("type", .int 0)]

/-- An entry that spells its flags as `t` and `f`, as an array. -/
def sampleArray (t f : Flag) : Json :=
  .arr
    [.str "B", .int 1, .int 4, .null, t.toJson, f.toJson, f.toJson, f.toJson, f.toJson, .null,
      f.toJson]

/-- A document with these entries that spells its own flags in the same way. -/
def sampleSpelled (t f : Flag) : Json :=
  .obj
    [("allthread", f.toJson), ("event", .arr [sampleObject t f, sampleArray t f]),
      ("inherit", t.toJson)]

theorem respelled_sampleSpelled {t t' f f' : Flag} (yes : t.enabled = t'.enabled)
    (no : f.enabled = f'.enabled) : Respelled (sampleSpelled t f) (sampleSpelled t' f') := by
  have object : Entry.Respelled (sampleObject t f) (sampleObject t' f') := .plain <| .obj <|
    .cons ⟨rfl, .of_enabled Flag.unpacked?_toJson (by simp [Entry.flags]) no⟩ <|
    .cons ⟨rfl, .same _⟩ <|
    .cons ⟨rfl, .of_enabled Flag.unpacked?_toJson (by simp [Entry.flags]) yes⟩ <|
    .cons ⟨rfl, .same _⟩ <|
    .cons ⟨rfl, .same _⟩ .nil
  have array : Entry.Respelled (sampleArray t f) (sampleArray t' f') := .plain <| .arr <|
    .cons (.same _) <| .cons (.same _) <| .cons (.same _) <| .cons (.same _) <|
    .cons (.of_enabled Flag.unpacked?_toJson (by decide) yes) <|
    .cons (.of_enabled Flag.unpacked?_toJson (by decide) no) <|
    .cons (.of_enabled Flag.unpacked?_toJson (by decide) no) <|
    .cons (.of_enabled Flag.unpacked?_toJson (by decide) no) <|
    .cons (.of_enabled Flag.unpacked?_toJson (by decide) no) <| .cons (.same _) <|
    .cons (.of_enabled Flag.unpacked?_toJson (by decide) no) .nil
  exact .obj <|
    .cons ⟨rfl, .field (.of_enabled Flag.ofJson?_toJson (by simp [flags]) no)⟩ <|
    .cons ⟨rfl, .events rfl (.cons object (.cons array .nil))⟩ <|
    .cons ⟨rfl, .field (.of_enabled Flag.ofJson?_toJson (by simp [flags]) yes)⟩ .nil

/-- Both spellings are of documents that load, and the 64-bit counters that the first entry asks
for are planned. -/
theorem plan_load_of_respelled_sampleSpelled :
    let words := sampleSpelled (.bool true) (.bool false)
    let numbers := sampleSpelled (.int (-7)) (.int 0)
    Respelled words numbers ∧
      (∃ c, load words = .ok c ∧
        ((c.plan ⟨.dir [], "/"⟩ false none).1.eventsFor .single).map (fun e => (e.name, e.width)) =
          [("CPUCycleCount", .bits64), ("A", .bits64), ("B", .bits32)]) ∧
      ∀ registry perApi pmuBits,
        (load words).map (fun c => c.plan registry perApi pmuBits) =
          (load numbers).map fun c => c.plan registry perApi pmuBits := by
  intro words numbers
  have respelled : Respelled words numbers := respelled_sampleSpelled (by decide) (by decide)
  exact ⟨respelled, ⟨_, rfl, by decide +kernel⟩, plan_load_of_respelled respelled⟩

end Config

end ScopeMeter

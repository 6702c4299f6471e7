/-!
# Maps kept in key order

`Keyed α` is a finite map from names to values, stored as the list of its entries in strictly
increasing order of the names. The order is part of the type, so two maps that answer every look-up
alike are equal (`Keyed.ext_get?`), and a listing of a map always comes in name order.
-/

namespace ScopeMeter

variable {α β : Type}

/-- Entries in strictly increasing order of their names. -/
def KeyOrdered (entries : List (String × α)) : Prop :=
  entries.Pairwise fun a b => a.1 < b.1

/-- Puts `value` under `key`, in place of what stood there. -/
def insertEntry (key : String) (value : α) : List (String × α) → List (String × α)
  | [] => [(key, value)]
  | (k, v) :: rest =>
    if key < k then (key, value) :: (k, v) :: rest
    else if key = k then (key, value) :: rest
    else (k, v) :: insertEntry key value rest

theorem mem_insertEntry {key : String} {value : α} {e : String × α}
    {entries : List (String × α)} (h : e ∈ insertEntry key value entries) :
    e = (key, value) ∨ e ∈ entries := by
  induction entries with
  | nil => simpa [insertEntry] using h
  | cons head rest ih =>
    obtain ⟨k, v⟩ := head
    unfold insertEntry at h
    split at h
    · simpa using h
    · split at h
      · rcases List.mem_cons.1 h with h | h
        · exact .inl h
        · exact .inr (List.mem_cons_of_mem _ h)
      · rcases List.mem_cons.1 h with h | h
        · exact .inr (by simp [h])
        · exact (ih h).imp_right (List.mem_cons_of_mem _)

theorem KeyOrdered.insertEntry {entries : List (String × α)} (ordered : KeyOrdered entries)
    (key : String) (value : α) : KeyOrdered (insertEntry key value entries) := by
  induction entries with
  | nil => simp [ScopeMeter.insertEntry, KeyOrdered]
  | cons head rest ih =>
    obtain ⟨k, v⟩ := head
    obtain ⟨below, tail⟩ := List.pairwise_cons.1 ordered
    unfold ScopeMeter.insertEntry
    split
    next before =>
      refine List.pairwise_cons.2 ⟨fun e he => ?_, ordered⟩
      rcases List.mem_cons.1 he with rfl | he
      · exact before
      · exact String.lt_trans before (below e he)
    next notBefore =>
      split
      next same =>
        subst same
        exact List.pairwise_cons.2 ⟨below, tail⟩
      next different =>
        have after : k < key := by grind
        refine List.pairwise_cons.2 ⟨fun e he => ?_, ih tail⟩
        rcases mem_insertEntry he with rfl | he
        · exact after
        · exact below e he

/-- The value under `key`. -/
def lookupEntry (key : String) : List (String × α) → Option α
  | [] => none
  | (k, v) :: rest => if k = key then some v else lookupEntry key rest

theorem lookupEntry_insertEntry (key k : String) (value : α) (entries : List (String × α)) :
    lookupEntry k (insertEntry key value entries) =
      if key = k then some value else lookupEntry k entries := by
  induction entries with
  | nil => simp [insertEntry, lookupEntry]
  | cons head rest ih =>
    obtain ⟨k', v⟩ := head
    unfold insertEntry
    split
    · simp [lookupEntry]
    · split
      next same => subst same; by_cases h : key = k <;> simp [lookupEntry, h]
      next different =>
        simp only [lookupEntry, ih]
        by_cases h : key = k
        · subst h; simp [Ne.symm different]
        · simp [h]

theorem lookupEntry_eq_none {key : String} {entries : List (String × α)}
    (absent : ∀ e ∈ entries, e.1 ≠ key) : lookupEntry key entries = none := by
  induction entries with
  | nil => rfl
  | cons head rest ih =>
    obtain ⟨k, v⟩ := head
    rw [lookupEntry, if_neg (absent (k, v) (by simp))]
    exact ih fun e he => absent e (List.mem_cons_of_mem _ he)

theorem exists_lookupEntry {key : String} {entries : List (String × α)}
    (listed : key ∈ entries.map Prod.fst) : ∃ value, lookupEntry key entries = some value := by
  induction entries with
  | nil => cases listed
  | cons head rest ih =>
    obtain ⟨k, v⟩ := head
    rw [lookupEntry]
    by_cases same : k = key
    · exact ⟨v, if_pos same⟩
    · rw [if_neg same]
      exact ih ((List.mem_cons.1 listed).resolve_left fun eq => same eq.symm)

/-- A map from names to values, its entries in name order. -/
structure Keyed (α : Type) where
  entries : List (String × α)
  ordered : KeyOrdered entries

namespace Keyed

instance [DecidableEq α] : DecidableEq (Keyed α) := fun a b =>
  if h : a.entries = b.entries then
    isTrue (by cases a; cases b; cases h; rfl)
  else
    isFalse fun same => h (congrArg entries same)

/-- The map without entries. -/
def empty : Keyed α := ⟨[], List.Pairwise.nil⟩

instance : Inhabited (Keyed α) := ⟨empty⟩

def isEmpty (m : Keyed α) : Bool := m.entries.isEmpty

def get? (m : Keyed α) (key : String) : Option α := lookupEntry key m.entries

def keys (m : Keyed α) : List String := m.entries.map Prod.fst

def values (m : Keyed α) : List α := m.entries.map Prod.snd

/-- Puts `value` under `key`, in place of what stood there. -/
def insert (m : Keyed α) (key : String) (value : α) : Keyed α :=
  ⟨insertEntry key value m.entries, m.ordered.insertEntry key value⟩

/-- Puts `f old` under `key`, where `old` is what stood there, or `initial` if nothing did. -/
def update (m : Keyed α) (key : String) (initial : α) (f : α → α) : Keyed α :=
  m.insert key (f ((m.get? key).getD initial))

/-- Applies `f` to every value. -/
def map (f : α → β) (m : Keyed α) : Keyed β :=
  ⟨m.entries.map fun e => (e.1, f e.2), by
    simpa only [KeyOrdered, List.pairwise_map] using m.ordered⟩

/-- The map with the given entries; of two entries of one name the later one counts. -/
def ofList (entries : List (String × α)) : Keyed α :=
  entries.foldl (fun m e => m.insert e.1 e.2) empty

@[simp] theorem get?_empty (key : String) : (empty : Keyed α).get? key = none := rfl

@[simp] theorem get?_insert (m : Keyed α) (key k : String) (value : α) :
    (m.insert key value).get? k = if key = k then some value else m.get? k :=
  lookupEntry_insertEntry key k value m.entries

@[simp] theorem get?_update (m : Keyed α) (key k : String) (initial : α) (f : α → α) :
    (m.update key initial f).get? k =
      if key = k then some (f ((m.get? key).getD initial)) else m.get? k :=
  get?_insert m key k _

@[simp] theorem get?_map (f : α → β) (m : Keyed α) (key : String) :
    (m.map f).get? key = (m.get? key).map f := by
  obtain ⟨entries, _⟩ := m
  show lookupEntry key (entries.map fun e => (e.1, f e.2)) = (lookupEntry key entries).map f
  induction entries with
  | nil => rfl
  | cons head rest ih =>
    obtain ⟨k, v⟩ := head
    by_cases h : k = key
    · simp [lookupEntry, h]
    · simpa [lookupEntry, h] using ih ((List.pairwise_cons.1 ‹_›).2)

/-- The names of a map come in order. -/
theorem ascending_keys (m : Keyed α) : m.keys.Pairwise (· < ·) := List.pairwise_map.mpr m.ordered

/-- A name that is listed has a value. -/
theorem exists_get?_of_mem_keys {m : Keyed α} {key : String} (listed : key ∈ m.keys) :
    ∃ value, m.get? key = some value :=
  exists_lookupEntry listed

/-- Exactly the names that are listed have a value. -/
theorem mem_keys_iff {m : Keyed α} {key : String} : key ∈ m.keys ↔ (m.get? key).isSome := by
  constructor
  · intro listed
    obtain ⟨value, found⟩ := exists_get?_of_mem_keys listed
    rw [found, Option.isSome_some]
  · intro found
    apply Decidable.byContradiction
    intro absent
    have none : m.get? key = none := lookupEntry_eq_none fun e listed is =>
      absent (List.mem_map.2 ⟨e, listed, is⟩)
    rw [none] at found
    cases found

/-- Maps in name order are equal once they answer every look-up alike. -/
theorem ext_get? {a b : Keyed α} (same : ∀ key, a.get? key = b.get? key) : a = b := by
  obtain ⟨xs, hx⟩ := a
  obtain ⟨ys, hy⟩ := b
  have entries : xs = ys := by
    replace same : ∀ key, lookupEntry key xs = lookupEntry key ys := same
    induction xs generalizing ys with
    | nil =>
      cases ys with
      | nil => rfl
      | cons y ys => simpa [lookupEntry] using same y.1
    | cons x xs ih =>
      cases ys with
      | nil => simpa [lookupEntry] using same x.1
      | cons y ys =>
        obtain ⟨k, v⟩ := x
        obtain ⟨l, w⟩ := y
        obtain ⟨belowX, tailX⟩ := List.pairwise_cons.1 hx
        obtain ⟨belowY, tailY⟩ := List.pairwise_cons.1 hy
        have keys : k = l := by
          by_cases less : k < l
          · have absent : lookupEntry k ((l, w) :: ys) = none :=
              lookupEntry_eq_none fun e he => by
                rcases List.mem_cons.1 he with rfl | he
                · grind
                · have := belowY e he
                  grind
            exact absurd ((same k).trans absent) (by simp [lookupEntry])
          · by_cases greater : l < k
            · have absent : lookupEntry l ((k, v) :: xs) = none :=
                lookupEntry_eq_none fun e he => by
                  rcases List.mem_cons.1 he with rfl | he
                  · grind
                  · have := belowX e he
                    grind
              exact absurd ((same l).symm.trans absent) (by simp [lookupEntry])
            · grind
        subst keys
        have heads : v = w := by simpa [lookupEntry] using same k
        subst heads
        have tails : xs = ys := ih tailX ys tailY fun key => by
          by_cases h : k = key
          · subst h
            rw [lookupEntry_eq_none fun e he => by have := belowX e he; grind,
              lookupEntry_eq_none fun e he => by have := belowY e he; grind]
          · simpa [lookupEntry, h] using same key
        rw [tails]
  subst entries
  rfl

end Keyed

end ScopeMeter

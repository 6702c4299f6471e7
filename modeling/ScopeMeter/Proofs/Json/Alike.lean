import ScopeMeter.Json.Embedding
import Mathlib.Data.List.Forall2

/-!
# Values that differ in their fields

A decoder knows its fields by name, or by their place in an array. `Json.Alike` says that two
values are the same but for fields that are related. Alike objects answer a look-up alike, an array
is alike another exactly as the object of its named elements is, and alike values unpack to alike
values, or for the same reason not at all.
-/

namespace ScopeMeter

/-- Two outcomes that are the same failure, or successes that are related. -/
inductive Agree {ε α β : Type} (R : α → β → Prop) : Except ε α → Except ε β → Prop
  | error (e : ε) : Agree R (.error e) (.error e)
  | ok {a : α} {b : β} (h : R a b) : Agree R (.ok a) (.ok b)

section Outcomes

variable {ε α β γ δ : Type} {R : α → β → Prop} {S : γ → δ → Prop}

theorem Agree.refl {R : α → α → Prop} (same : ∀ a, R a a) : (x : Except ε α) → Agree R x x
  | .error e => .error e
  | .ok a => .ok (same a)

theorem Agree.bind {x : Except ε α} {y : Except ε β} {f : α → Except ε γ} {g : β → Except ε δ}
    (h : Agree R x y) (next : ∀ {a b}, R a b → Agree S (f a) (g b)) :
    Agree S (x >>= f) (y >>= g) := by
  cases h with
  | error e => exact .error e
  | ok h => exact next h

theorem Agree.map_eq {x : Except ε α} {y : Except ε β} {f : α → γ} {g : β → γ}
    (h : Agree R x y) (eq : ∀ {a b}, R a b → f a = g b) : x.map f = y.map g := by
  cases h with
  | error e => rfl
  | ok h => exact congrArg Except.ok (eq h)

theorem rel_refl {R : α → α → Prop} (same : ∀ a, R a a) : (x : Option α) → Option.Rel R x x
  | none => .none
  | some a => .some (same a)

theorem rel_bind {x : Option α} {y : Option β} {f : α → Option γ} {g : β → Option δ}
    (h : Option.Rel R x y) (next : ∀ {a b}, R a b → Option.Rel S (f a) (g b)) :
    Option.Rel S (x >>= f) (y >>= g) := by
  cases h with
  | none => exact .none
  | some h => exact next h

end Outcomes

namespace Json

/-- Lists of equally many values, those at the same place related. -/
inductive ItemsAlike : (Nat → Json → Json → Prop) → List Json → List Json → Prop
  | nil {R} : ItemsAlike R [] []
  | cons {R v v' items items'} (head : R 0 v v')
      (tail : ItemsAlike (fun i => R (i + 1)) items items') :
      ItemsAlike R (v :: items) (v' :: items')

/-- Fields of the same names in the same order, those of one name related. -/
def FieldsAlike (R : String → Json → Json → Prop) :
    List (String × Json) → List (String × Json) → Prop :=
  List.Forall₂ fun field field' => field.1 = field'.1 ∧ R field.1 field.2 field'.2

/-- Values that are the same but for related fields. The elements of an array are fields, too,
which are named by their `order`. -/
inductive Alike (order : List String) (R : String → Json → Json → Prop) : Json → Json → Prop
  | same (v : Json) : Alike order R v v
  | arr {items items'} (h : ItemsAlike (fun i => R (order.getD i "")) items items') :
      Alike order R (.arr items) (.arr items')
  | obj {fields fields'} (h : FieldsAlike R fields fields') :
      Alike order R (.obj fields) (.obj fields')

theorem ItemsAlike.refl {R : Nat → Json → Json → Prop} (same : ∀ i v, R i v v) (items : List Json) :
    ItemsAlike R items items := by
  induction items generalizing R with
  | nil => exact .nil
  | cons v _ ih => exact .cons (same 0 v) (ih fun i => same (i + 1))

/-! ## Look-ups -/

theorem ItemsAlike.length_eq {R : Nat → Json → Json → Prop} {items items' : List Json}
    (h : ItemsAlike R items items') : items'.length = items.length := by
  induction h with
  | nil => rfl
  | cons _ _ ih => simp [ih]

theorem ItemsAlike.getElem? {R : Nat → Json → Json → Prop} {items items' : List Json}
    (h : ItemsAlike R items items') (i : Nat) : Option.Rel (R i) items[i]? items'[i]? := by
  induction h generalizing i with
  | nil => exact .none
  | cons head _ ih =>
    cases i with
    | zero => exact .some head
    | succ i => exact ih i

variable {R S : String → Json → Json → Prop}

theorem FieldsAlike.lookupEntry {fields fields' : List (String × Json)}
    (h : FieldsAlike R fields fields') (name : String) :
    Option.Rel (R name) (lookupEntry name fields) (lookupEntry name fields') := by
  induction h with
  | nil => exact .none
  | @cons field field' _ _ head _ ih =>
    obtain ⟨k, v⟩ := field
    obtain ⟨_, v'⟩ := field'
    obtain ⟨rfl, related⟩ := head
    unfold ScopeMeter.lookupEntry
    by_cases same : k = name
    · subst same
      simpa using Option.Rel.some related
    · simpa [same] using ih

/-- The elements of alike arrays are alike fields under their names. -/
theorem ItemsAlike.fieldsAlike_zip {items items' : List Json} {order : List String}
    (h : ItemsAlike (fun i => R (order.getD i "")) items items') :
    FieldsAlike R (order.zip items) (order.zip items') := by
  induction order generalizing items items' with
  | nil => exact .nil
  | cons name order ih =>
    cases h with
    | nil => exact .nil
    | cons head tail => exact .cons ⟨rfl, head⟩ (ih tail)

/-! ## Unpacking -/

/-- Values that are related element by element unpack alike. -/
theorem agree_unpackItems {P Q : Nat → Json → Json → Prop} {items items' : List Json}
    (h : ItemsAlike P items items')
    (unpacked : ∀ i v v', P i v v' → Agree (Q i) (unpack v) (unpack v')) :
    Agree (ItemsAlike Q) (unpackItems items) (unpackItems items') := by
  induction h generalizing Q with
  | nil => exact .ok .nil
  | cons head _ ih =>
    unfold unpackItems
    exact (unpacked 0 _ _ head).bind fun related =>
      (ih fun i => unpacked (i + 1)).bind fun rest => .ok (.cons related rest)

section Fields

variable (unpacked : ∀ name v v', R name v v' → Agree (S name) (unpack v) (unpack v'))
include unpacked

theorem agree_unpackFields {fields fields' : List (String × Json)}
    (h : FieldsAlike R fields fields') :
    Agree (FieldsAlike S) (unpackFields fields) (unpackFields fields') := by
  induction h with
  | nil => exact .ok .nil
  | @cons field field' _ _ head _ ih =>
    obtain ⟨name, v⟩ := field
    obtain ⟨_, v'⟩ := field'
    obtain ⟨rfl, related⟩ := head
    unfold unpackFields
    exact (unpacked name v v' related).bind fun related =>
      ih.bind fun rest => .ok (.cons ⟨rfl, related⟩ rest)

/-- Alike values unpack to alike values, or fail alike, when related fields do and an embedded text
is related to itself only. -/
theorem agree_unpack {order : List String} {v v' : Json} (h : Alike order R v v')
    (embedding : ∀ v v', R embeddingName v v' → v = v') :
    Agree (Alike order S) (unpack v) (unpack v') := by
  cases h with
  | same v => exact Agree.refl .same _
  | arr h =>
    exact (agree_unpackItems h fun i => unpacked (order.getD i "")).bind fun items =>
      .ok (.arr items)
  | obj h =>
    cases h with
    | nil => exact .ok (.obj .nil)
    | @cons field field' _ _ head tail =>
      obtain ⟨name, v⟩ := field
      obtain ⟨_, v'⟩ := field'
      obtain ⟨rfl, related⟩ := head
      unfold unpack
      by_cases embedded : name = embeddingName
      · subst embedded
        obtain rfl := embedding v v' related
        simp only [if_true, tail.length_eq]
        exact Agree.refl .same _
      · simp only [embedded, if_false]
        exact (unpacked name v v' related).bind fun related =>
          (agree_unpackFields unpacked tail).bind fun rest =>
            .ok (.obj (.cons ⟨rfl, related⟩ rest))

end Fields

end Json

end ScopeMeter

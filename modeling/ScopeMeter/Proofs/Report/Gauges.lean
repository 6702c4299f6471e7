import ScopeMeter.Gauges

/-!
# What gauges show

A gauge is found by its labels and set by their mark.  Where different labels have different marks
(`Gauges.Separated`), each of them has a gauge of its own: setting it changes what is shown under
its labels and nothing else (`Gauges.get?_set`).  After several gauges were set, each shows what it
was set to, and all others show what they did (`Gauges.get?_setAll_of_mem`,
`Gauges.get?_setAll_of_notMem`).  Labels that are their own mark are always separated; fingerprints
separate some labels and others not.
-/

namespace ScopeMeter.Gauges

/-- The labels of the gauges. -/
def labels (g : Gauges) : List GaugeLabels := g.map Prod.fst

variable {κ : Type} {mark : GaugeLabels → κ} {ls ls' : List GaugeLabels}

/-- No two of these labels have one mark. -/
def Separated (mark : GaugeLabels → κ) (ls : List GaugeLabels) : Prop :=
  ∀ l ∈ ls, ∀ m ∈ ls, mark l = mark m → l = m

instance [DecidableEq κ] : Decidable (Separated mark ls) :=
  inferInstanceAs (Decidable (∀ l ∈ ls, ∀ m ∈ ls, mark l = mark m → l = m))

/-- Marks that tell all labels apart separate any of them. -/
theorem Separated.of_injective (injective : Function.Injective mark) (ls : List GaugeLabels) :
    Separated mark ls :=
  fun _ _ _ _ same => injective same

theorem Separated.mono (separated : Separated mark ls) (part : ls' ⊆ ls) : Separated mark ls' :=
  fun l hl m hm => separated l (part hl) m (part hm)

theorem separated_head {g entries : Gauges} {e : GaugeLabels × Int64}
    (separated : Separated mark (g.labels ++ labels (e :: entries))) :
    Separated mark (e.1 :: g.labels) := by
  apply separated.mono
  exact List.cons_subset.mpr ⟨List.mem_append_right _ List.mem_cons_self,
    List.subset_append_left _ _⟩

/-- Fingerprints do not separate labels that spell one text when they are run together. -/
theorem not_separated_of_joined_eq {l m : GaugeLabels} (hl : l ∈ ls) (hm : m ∈ ls) (other : l ≠ m)
    (same : l.joined = m.joined) : ¬Separated GaugeLabels.fingerprint ls :=
  fun separated => other (separated l hl m hm (GaugeLabels.fingerprint_eq_of_joined_eq same))

example : ¬Separated GaugeLabels.fingerprint [⟨"single", "misses", "patrace-1", "23"⟩,
    ⟨"single", "misses", "patrace-12", "3"⟩] :=
  not_separated_of_joined_eq (.head _) (.tail _ (.head _)) (by decide) (by decide)

variable [DecidableEq κ] {g : Gauges} {l m : GaugeLabels} {value : Int64}

theorem knows_iff : g.knows mark l = true ↔ ∃ k ∈ g.labels, mark k = mark l := by
  rw [knows, List.any_eq_true]
  constructor
  · intro known
    obtain ⟨entry, member, same⟩ := known
    exact ⟨entry.1, List.mem_map_of_mem member, of_decide_eq_true same⟩
  · intro marked
    obtain ⟨_, member, same⟩ := marked
    obtain ⟨entry, mem, rfl⟩ := List.mem_map.mp member
    exact ⟨entry, mem, decide_eq_true same⟩

theorem isSome_get?_iff : (g.get? l).isSome ↔ l ∈ g.labels := by
  induction g with
  | nil => exact iff_of_false nofun List.not_mem_nil
  | cons entry rest ih =>
    rw [get?, labels, List.map_cons, List.mem_cons, eq_comm (a := l)]
    split
    next here => exact iff_of_true rfl (.inl here)
    next other => exact ih.trans (or_iff_right other).symm

/-! ## Setting one gauge -/

theorem labels_change (mark : GaugeLabels → κ) (l : GaugeLabels) (value : Int64) (g : Gauges) :
    (g.change mark l value).labels = g.labels := by
  rw [labels, change, List.map_map, labels]
  apply List.map_congr_left
  intro entry _
  simp only [Function.comp_apply]
  split <;> rfl

theorem mem_labels_add : m ∈ (g.add l value).labels ↔ m = l ∨ m ∈ g.labels := by
  induction g with
  | nil => simp [add, labels]
  | cons entry rest ih =>
    unfold add
    split
    · exact List.mem_cons
    · simp only [labels, List.map_cons, List.mem_cons] at ih ⊢
      rw [ih, or_left_comm]

/-- Setting a gauge brings up no labels but its own. -/
theorem mem_labels_set (member : m ∈ (g.set mark l value).labels) : m = l ∨ m ∈ g.labels := by
  unfold set at member
  split at member
  · rw [labels_change] at member
    exact .inr member
  · exact mem_labels_add.mp member

theorem get?_change (separated : Separated mark (l :: g.labels)) (value : Int64)
    (m : GaugeLabels) : (g.change mark l value).get? m =
      if l = m then (g.get? m).map fun _ => value else g.get? m := by
  induction g with
  | nil => split <;> rfl
  | cons entry rest ih =>
    obtain ⟨k, v⟩ := entry
    have tail := ih (separated.mono (List.cons_subset_cons l (List.subset_cons_self k _)))
    have marked : mark k = mark l ↔ k = l := by
      constructor
      · exact separated k (List.mem_cons_of_mem _ List.mem_cons_self) l List.mem_cons_self
      · intro same
        rw [same]
    have head : change mark l value ((k, v) :: rest) =
        (if k = l then (k, value) else (k, v)) :: change mark l value rest := by
      simp only [change, List.map_cons, marked]
    rw [head]
    by_cases same : k = l
    · subst same
      by_cases here : k = m
      · simp [get?, here]
      · simp [get?, here, tail]
    · by_cases here : k = m
      · subst here
        simp [get?, same, Ne.symm same]
      · simp [get?, same, here, tail]

theorem get?_add (absent : l ∉ g.labels) (value : Int64) (m : GaugeLabels) :
    (g.add l value).get? m = if l = m then some value else g.get? m := by
  induction g with
  | nil => rfl
  | cons entry rest ih =>
    obtain ⟨k, v⟩ := entry
    rw [labels, List.map_cons, List.mem_cons, not_or] at absent
    unfold add
    split
    · rfl
    · rw [get?, get?, ih absent.2]
      split
      next here =>
        rw [if_neg]
        rintro rfl
        exact absent.1 here.symm
      next => rfl

/-- Setting a gauge changes what is shown under its labels and nothing else. -/
theorem get?_set (separated : Separated mark (l :: g.labels)) (value : Int64) (m : GaugeLabels) :
    (g.set mark l value).get? m = if l = m then some value else g.get? m := by
  unfold set
  split
  next known =>
    obtain ⟨k, member, same⟩ := knows_iff.mp known
    cases separated k (List.mem_cons_of_mem _ member) l List.mem_cons_self same
    rw [get?_change separated]
    split
    next here =>
      subst here
      obtain ⟨old, shown⟩ := Option.isSome_iff_exists.mp (isSome_get?_iff.mpr member)
      rw [shown]
      rfl
    next => rfl
  next unknown => exact get?_add (fun member => unknown (knows_iff.mpr ⟨l, member, rfl⟩)) value m

/-! ## Setting several gauges -/

/-- Sets gauges one after the other. -/
def setAll (mark : GaugeLabels → κ) (g : Gauges) (entries : List (GaugeLabels × Int64)) : Gauges :=
  entries.foldl (fun g e => g.set mark e.1 e.2) g

variable {entries : List (GaugeLabels × Int64)}

/-- Setting the first of some gauges brings up no labels but theirs. -/
theorem labels_set_append (mark : GaugeLabels → κ) (g : Gauges) (e : GaugeLabels × Int64)
    (entries : List (GaugeLabels × Int64)) :
    (g.set mark e.1 e.2).labels ++ labels entries ⊆ g.labels ++ labels (e :: entries) := by
  have whole : labels (e :: entries) = e.1 :: labels entries := rfl
  intro m member
  rw [whole, List.mem_append, List.mem_cons]
  rcases List.mem_append.mp member with old | new
  · rcases mem_labels_set old with own | old
    · exact .inr (.inl own)
    · exact .inl old
  · exact .inr (.inr new)

theorem labels_setAll (mark : GaugeLabels → κ) (g : Gauges) (entries : List (GaugeLabels × Int64)) :
    (g.setAll mark entries).labels ⊆ g.labels ++ labels entries := by
  induction entries generalizing g with
  | nil => exact List.subset_append_left _ _
  | cons e entries ih =>
    exact List.Subset.trans (ih (g.set mark e.1 e.2)) (labels_set_append mark g e entries)

/-- After the first of some gauges is set, what is left to be set is separated as before. -/
theorem separated_set {e : GaugeLabels × Int64}
    (separated : Separated mark (g.labels ++ labels (e :: entries))) :
    Separated mark ((g.set mark e.1 e.2).labels ++ labels entries) :=
  separated.mono (labels_set_append mark g e entries)

/-- Gauges that are not set show what they did. -/
theorem get?_setAll_of_notMem (separated : Separated mark (g.labels ++ labels entries))
    (absent : m ∉ labels entries) : (g.setAll mark entries).get? m = g.get? m := by
  induction entries generalizing g with
  | nil => rfl
  | cons e entries ih =>
    have whole : labels (e :: entries) = e.1 :: labels entries := rfl
    rw [whole, List.mem_cons, not_or] at absent
    have rest : (g.setAll mark (e :: entries)).get? m = (g.set mark e.1 e.2).get? m :=
      ih (separated_set separated) absent.2
    rw [rest, get?_set (separated_head separated), if_neg (Ne.symm absent.1)]

/-- A gauge that is always set to one value shows it. -/
theorem get?_setAll_of_mem (separated : Separated mark (g.labels ++ labels entries))
    (member : (m, value) ∈ entries) (unique : ∀ other, (m, other) ∈ entries → other = value) :
    (g.setAll mark entries).get? m = some value := by
  induction entries generalizing g with
  | nil => cases member
  | cons e entries ih =>
    have whole : g.setAll mark (e :: entries) = (g.set mark e.1 e.2).setAll mark entries := rfl
    have later := separated_set separated
    rw [whole]
    by_cases again : m ∈ labels entries
    · obtain ⟨⟨_, other⟩, mem, rfl⟩ := List.mem_map.mp again
      have same := unique other (List.mem_cons_of_mem _ mem)
      exact ih later (same ▸ mem) fun other mem => unique other (List.mem_cons_of_mem _ mem)
    · have first : (m, value) = e := by
        refine (List.mem_cons.mp member).resolve_right fun mem => again ?_
        exact List.mem_map_of_mem mem
      rw [get?_setAll_of_notMem later again, get?_set (separated_head separated), ← first,
        if_pos rfl]

end ScopeMeter.Gauges

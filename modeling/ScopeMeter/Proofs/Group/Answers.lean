import ScopeMeter.Proofs.Group

/-!
# What a group makes of an answer

What a read of a group gives is decided by the answer of the kernel alone (`Group.reading`,
`Group.read_eq`), and the answer may be anything: short, cut inside a word, or with a claim that no
group can meet.  `ReadAnswer.decode?` and `Group.reading?` are the same computations with each
subtraction, addition, index and slice checked, and they come to nothing where a check fails.  No
check ever does (`ReadAnswer.decode?_eq`, `Group.reading?_eq`).  A reading is an error if the call
failed or not even the count was written, and otherwise has one value for each member: the word that
was written and claimed for it, or zero (`Group.exists_reading`).
-/

namespace ScopeMeter

/-! ## Checked operations -/

/-- A subtraction that must not fall below zero. -/
def subtract? (a b : Nat) : Option Nat := if b ≤ a then some (a - b) else none

/-- An addition that must not reach the size of a word. -/
def add? (a b : Nat) : Option Nat := if a + b < UInt64.size then some (a + b) else none

/-- The values from one index up to another; both must be in order and within the values. -/
def slice? {α : Type} (values : List α) (start stop : Nat) : Option (List α) :=
  if start ≤ stop ∧ stop ≤ values.length then some ((values.take stop).drop start) else none

/-- What a part becomes when others are copied over it; there must be as many of both. -/
def copy? {α : Type} (target source : List α) : Option (List α) :=
  if source.length = target.length then some source else none

namespace ReadAnswer

/-- The word at an index of the buffer. -/
def word (a : ReadAnswer) (index : Nat) : UInt64 := a.words[index]?.getD 0

/-- The claimed count and the values from a buffer of 65 words, with every step checked. -/
def decode? (a : ReadAnswer) (handle room : Nat) :
    Option (Except CallFault (UInt64 × List UInt64)) :=
  let buffer := fillZeros readBufferWords a.words
  let target := List.replicate room 0
  if a.bytes < 8 then some (.error (.shortRead handle a.bytes))
  else do
    let count ← buffer[0]?
    let written ← subtract? (a.bytes / 8) 1
    let copied := min (min written count.toNat) room
    let front ← slice? target 0 copied
    let stop ← add? copied 1
    let source ← slice? buffer 1 stop
    let front ← copy? front source
    some (.ok (count, front ++ target.drop copied))

variable {a : ReadAnswer}

theorem headD_words (a : ReadAnswer) : a.words.headD 0 = a.word 0 := by
  cases words : a.words <;> simp [word, words]

/-- What is decoded at a position is the word behind the count if it is available, and else zero. -/
theorem getElem?_decoded {room index : Nat} (covered : index < room) :
    (fillZeros room ((a.words.drop 1).take a.available))[index]? =
      some (if index < a.available then a.word (index + 1) else 0) := by
  rw [getElem?_fillZeros _ covered, List.getElem?_take]
  split
  · rw [List.getElem?_drop, Nat.add_comm]
    rfl
  · rfl

/-- What is copied out of the buffer, with the rest of the room behind it, is what is decoded. -/
theorem copied_eq {room copied : Nat} (is : copied = min a.available room)
    (fits : copied < readBufferWords) :
    ((fillZeros readBufferWords a.words).take (copied + 1)).drop 1 ++
        (List.replicate room 0).drop copied =
      fillZeros room ((a.words.drop 1).take a.available) := by
  have size : (fillZeros readBufferWords a.words).length = readBufferWords := length_fillZeros ..
  have source : (((fillZeros readBufferWords a.words).take (copied + 1)).drop 1).length =
      copied := by
    rw [List.length_drop, List.length_take, size]
    omega
  apply List.ext_getElem?
  intro i
  by_cases covered : i < room
  · rw [getElem?_decoded covered]
    by_cases front : i < copied
    · rw [List.getElem?_append_left (by omega), List.getElem?_drop,
        List.getElem?_take_of_lt (by omega), getElem?_fillZeros _ (by omega), if_pos (by omega),
        Nat.add_comm]
      rfl
    · rw [List.getElem?_append_right (by omega), source, List.getElem?_drop,
        List.getElem?_replicate, if_pos (by omega), if_neg (by omega)]
  · rw [List.getElem?_eq_none, List.getElem?_eq_none]
    · rw [length_fillZeros]
      omega
    · rw [List.length_append, source, List.length_drop, List.length_replicate]
      omega

/-- Only words that were written whole are decoded. -/
theorem decode_congr {words : List UInt64}
    (same : words.take (a.bytes / 8) = a.words.take (a.bytes / 8)) (handle room : Nat) :
    { a with words }.decode handle room = a.decode handle room := by
  unfold decode
  by_cases short : a.bytes < 8
  · rw [if_pos short, if_pos short]
  · rw [if_neg short, if_neg short]
    have at_count : ∀ words : List UInt64,
        words.headD 0 = ((words.take (a.bytes / 8))[0]?).getD 0 := by
      intro words
      rw [List.getElem?_take_of_lt (by omega)]
      cases words <;> rfl
    have behind : ∀ (words : List UInt64) (count : Nat),
        (words.drop 1).take (min (a.bytes / 8 - 1) count) =
          ((words.take (a.bytes / 8)).drop 1).take (min (a.bytes / 8 - 1) count) := by
      intro words count
      rw [List.drop_take, List.take_take, Nat.min_eq_left (Nat.min_le_left _ _)]
    have count : words.headD 0 = a.words.headD 0 := by rw [at_count, same, ← at_count]
    simp only [available, count]
    rw [behind, same, ← behind]

/-- No check of a decoding fails, whatever was claimed and however much room there is. -/
theorem decode?_eq (fits : a.bytes ≤ 8 * readBufferWords) (handle room : Nat) :
    a.decode? handle room = some (a.decode handle room) := by
  unfold decode? decode
  by_cases short : a.bytes < 8
  · rw [if_pos short, if_pos short]
  · rw [if_neg short, if_neg short]
    have words : readBufferWords = 65 := rfl
    have size : (fillZeros readBufferWords a.words).length = 65 := length_fillZeros ..
    have count : (fillZeros readBufferWords a.words)[0]? = some (a.words.headD 0) := by
      rw [getElem?_fillZeros _ (by decide), headD_words]
      rfl
    have written : subtract? (a.bytes / 8) 1 = some (a.bytes / 8 - 1) := if_pos (by omega)
    generalize is : min (min (a.bytes / 8 - 1) (a.words.headD 0).toNat) room = copied
    -- No more than 64 values were written, so the slice ends within the 65 words.
    have small : copied < readBufferWords := by omega
    have target : slice? (List.replicate room (0 : UInt64)) 0 copied =
        some (List.replicate copied 0) := by
      rw [slice?, if_pos (by rw [List.length_replicate]; omega), List.take_replicate,
        List.drop_zero, Nat.min_eq_left (by omega)]
    have stop : add? copied 1 = some (copied + 1) := if_pos (by
      have : UInt64.size = 18446744073709551616 := rfl
      omega)
    have source : slice? (fillZeros readBufferWords a.words) 1 (copied + 1) =
        some (((fillZeros readBufferWords a.words).take (copied + 1)).drop 1) :=
      if_pos (by omega)
    have front : copy? (List.replicate copied (0 : UInt64))
        (((fillZeros readBufferWords a.words).take (copied + 1)).drop 1) =
        some (((fillZeros readBufferWords a.words).take (copied + 1)).drop 1) := by
      refine if_pos ?_
      rw [List.length_drop, List.length_take, size, List.length_replicate]
      omega
    simp only [count, written, is, target, stop, source, front, Option.bind_eq_bind,
      Option.bind_some, copied_eq is.symm small]

end ReadAnswer

namespace Group

/-- What a group makes of an answer. -/
def reading (g : Group) (leader : Nat) : Except Errno ReadAnswer → Except Error Snapshot
  | .error number => .error (.call (.readFailed leader number))
  | .ok a =>
    match a.decode leader maxCounters with
    | .error fault => .error (.call fault)
    | .ok (_, values) => .ok (.ofValues ((values.take g.size).map (·.toInt64)))

/-- A read is decided by the answer alone. -/
theorem read_eq {g : Group} {leader : Nat} (opened : g.leader? = some leader) (h : Host) :
    (g.read h).1 = g.reading leader (h.readRaw leader).1 := by
  unfold read Host.readGroup reading
  simp only [opened]
  generalize h.readRaw leader = raw
  obtain ⟨answer, h'⟩ := raw
  cases answer with
  | error number => rfl
  | ok a =>
    dsimp only
    cases a.decode leader maxCounters with
    | error fault => rfl
    | ok told => rfl

/-- The values of a reading out of the 32 slots that they are kept in, with every step checked. -/
def reading? (g : Group) (leader : Nat) :
    Except Errno ReadAnswer → Option (Except Error (List Int64))
  | .error number => some (.error (.call (.readFailed leader number)))
  | .ok a => do
    match ← a.decode? leader maxCounters with
    | .error fault => some (.error (.call fault))
    | .ok (_, values) =>
      let slots := (values.take g.size).map (·.toInt64) ++ List.replicate (maxCounters - g.size) 0
      let held ← slice? slots 0 g.size
      some (.ok held)

variable {g : Group}

/-- An answer with a count gives one value for each member. -/
theorem exists_reading (sized : g.size ≤ maxCounters) (leader : Nat) {a : ReadAnswer}
    (counts : 8 ≤ a.bytes) :
    ∃ snap, g.reading leader (.ok a) = .ok snap ∧ snap.size = g.size ∧
      ∀ i < g.size, snap.value i =
        if i < min (a.word 0).toNat (a.bytes / 8 - 1) then (a.word (i + 1)).toInt64 else 0 := by
  refine ⟨_, by rw [reading, ReadAnswer.decode, if_neg (Nat.not_lt.mpr counts)], ?_, ?_⟩
  · rw [Snapshot.size, Snapshot.ofValues, List.length_take, List.length_map, List.length_take,
      length_fillZeros]
    omega
  · intro i member
    have covered : i < maxCounters := Nat.lt_of_lt_of_le member sized
    have same : (i < a.available) = (i < min (a.word 0).toNat (a.bytes / 8 - 1)) := by
      rw [ReadAnswer.available, ReadAnswer.headD_words, Nat.min_comm]
    rw [Snapshot.value, Snapshot.ofValues, List.getElem?_take_of_lt covered, List.getElem?_map,
      List.getElem?_take_of_lt member, ReadAnswer.getElem?_decoded covered, Option.map_some,
      Option.getD_some]
    simp only [same, apply_ite UInt64.toInt64]
    rfl

/-- No check of a reading fails. -/
theorem reading?_eq (sized : g.size ≤ maxCounters) (leader : Nat)
    {raw : Except Errno ReadAnswer} (fits : ∀ a, raw = .ok a → a.bytes ≤ 8 * readBufferWords) :
    g.reading? leader raw = some ((g.reading leader raw).map Snapshot.values) := by
  cases raw with
  | error number => rfl
  | ok a =>
    simp only [reading?, reading, ReadAnswer.decode?_eq (fits a rfl), Option.bind_eq_bind,
      Option.bind_some]
    cases decoded : a.decode leader maxCounters with
    | error fault => rfl
    | ok told =>
      obtain ⟨count, values⟩ := told
      have length : values.length = maxCounters := ReadAnswer.length_of_decode decoded
      have front : ((values.take g.size).map (·.toInt64)).length = g.size := by
        rw [List.length_map, List.length_take]
        omega
      have held : slice? ((values.take g.size).map (·.toInt64) ++
          List.replicate (maxCounters - g.size) 0) 0 g.size =
          some ((values.take g.size).map (·.toInt64)) := by
        rw [slice?, if_pos (by rw [List.length_append, front]; omega), List.drop_zero,
          List.take_append_of_le_length (Nat.le_of_eq front.symm),
          List.take_of_length_le (Nat.le_of_eq front)]
      simp only [held, Option.bind_some, Except.map, Snapshot.ofValues,
        List.take_of_length_le (Nat.le_trans (Nat.le_of_eq front) sized)]

/-- Whatever is answered to a read of the group, all checks hold; there is an error if the call
failed or not even the count was written; and otherwise there is one value for each member, the word
that was written whole and claimed for it, or zero.  No other word matters. -/
structure ReadsSafely (g : Group) (leader : Nat) : Prop where
  checked : ∀ raw : Except Errno ReadAnswer,
    (∀ a, raw = .ok a → a.bytes ≤ 8 * readBufferWords) →
    g.reading? leader raw = some ((g.reading leader raw).map Snapshot.values)
  failed : ∀ number, g.reading leader (.error number) = .error (.call (.readFailed leader number))
  short : ∀ a : ReadAnswer, a.bytes < 8 →
    g.reading leader (.ok a) = .error (.call (.shortRead leader a.bytes))
  shaped : ∀ a : ReadAnswer, 8 ≤ a.bytes →
    ∃ snap, g.reading leader (.ok a) = .ok snap ∧ snap.size = g.size ∧
      ∀ i < g.size, snap.value i =
        if i < min (a.word 0).toNat (a.bytes / 8 - 1) then (a.word (i + 1)).toInt64 else 0
  whole : ∀ (a : ReadAnswer) (words : List UInt64),
    words.take (a.bytes / 8) = a.words.take (a.bytes / 8) →
    g.reading leader (.ok { a with words }) = g.reading leader (.ok a)

theorem readsSafely (sized : g.size ≤ maxCounters) (leader : Nat) : g.ReadsSafely leader where
  checked _ fits := reading?_eq sized leader fits
  failed _ := rfl
  short a short := by rw [reading, ReadAnswer.decode, if_pos short]
  shaped _ counts := exists_reading sized leader counts
  whole a words same := by
    rw [reading, ReadAnswer.decode_congr same]
    rfl

/-- A read that nothing disturbs delivers what each counter of the group has counted. -/
theorem Holds.delivers {h : Host} {leader : Nat} (holds : g.Holds h leader)
    (calm : (h.fire .reading (h.subjectOf leader)).1 = none) :
    ∃ snap, (g.read h).1 = .ok snap ∧ snap.size = g.size ∧
      ∀ i < g.size, ∃ c ∈ h.counters, c.leader = leader ∧ g.handles[i]? = some c.handle ∧
        snap.value i = c.value.toInt64 := by
  have many : (h.group leader).length = g.size := holds.length_group
  have sized : g.size < readBufferWords := Nat.lt_of_le_of_lt holds.size_le (by decide)
  have answered := Host.readRaw_undisturbed calm (many ▸ sized)
  have whole : g.readsWhole h := by
    rw [readsWhole, holds.opened, Option.all_some, Host.readsWhole, answered]
    exact decide_eq_true rfl
  have counts : 8 ≤ (ReadAnswer.whole (h.group leader)).bytes := by
    simp only [ReadAnswer.whole]
    omega
  obtain ⟨snap, read, covered, -⟩ := exists_reading holds.size_le leader counts
  rw [← answered, ← read_eq holds.opened] at read
  refine ⟨snap, read, covered, ?_⟩
  intro i member
  have inside : i < (h.group leader).length := many ▸ member
  obtain ⟨live, leads⟩ := List.mem_filter.mp (List.getElem_mem inside)
  refine ⟨(h.group leader)[i], live, of_decide_eq_true leads, ?_, ?_⟩
  · rw [← holds.handles, List.getElem?_map, List.getElem?_eq_getElem inside, Option.map_some]
  · rw [value_of_read holds whole read member, Host.count, List.getElem?_eq_getElem inside,
      Option.map_some, Option.getD_some]

end Group

end ScopeMeter

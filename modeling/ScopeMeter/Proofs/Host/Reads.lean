import ScopeMeter.Proofs.Host.Groups

/-!
# Reads that return the whole group

`Host.readsWhole` says of a machine that its next read of a group fails or returns every value of
the group under its true count.  What is decoded from such a read are the counts of the group,
position by position, and zeros behind them.
-/

namespace ScopeMeter

theorem getElem?_fillZeros {size index : Nat} (values : List UInt64) (covered : index < size) :
    (fillZeros size values)[index]? = some (values[index]?.getD 0) := by
  unfold fillZeros
  by_cases inside : index < values.length
  · have front : index < (values.take size).length := by
      rw [List.length_take]
      omega
    rw [List.getElem?_append_left front, List.getElem?_take_of_lt covered,
      List.getElem?_eq_getElem inside, Option.getD_some]
  · have back : (values.take size).length ≤ index := by
      rw [List.length_take]
      omega
    rw [List.getElem?_append_right back, List.getElem?_replicate, List.length_take, if_pos,
      List.getElem?_eq_none (by omega), Option.getD_none]
    omega

namespace ReadAnswer

/-- The answer that is neither cut nor told with another count. -/
def whole (counters : List LiveCounter) : ReadAnswer where
  bytes := 8 * (counters.length + 1)
  words := UInt64.ofNat counters.length :: counters.map (·.value)

theorem available_whole {counters : List LiveCounter} (fits : counters.length < UInt64.size) :
    (whole counters).available = counters.length := by
  have told : (UInt64.ofNat counters.length).toNat = counters.length :=
    UInt64.toNat_ofNat_of_lt' fits
  simp only [available, whole, List.headD_cons, told]
  omega

theorem decode_whole {counters : List LiveCounter} (fits : counters.length < UInt64.size)
    (handle room : Nat) :
    (whole counters).decode handle room =
      .ok (UInt64.ofNat counters.length, fillZeros room (counters.map (·.value))) := by
  unfold decode
  have long : ¬(whole counters).bytes < 8 := by
    simp only [whole]
    omega
  rw [if_neg long, available_whole fits]
  simp only [whole, List.headD_cons, List.drop_succ_cons, List.drop_zero]
  rw [List.take_of_length_le (by simp)]

/-- What is decoded fills all the room there is. -/
theorem length_of_decode {a : ReadAnswer} {handle room : Nat} {told : UInt64}
    {values : List UInt64} (ok : a.decode handle room = .ok (told, values)) :
    values.length = room := by
  unfold decode at ok
  split at ok
  · cases ok
  · cases ok
    exact length_fillZeros ..

end ReadAnswer

namespace Host

variable {h : Host} {leader room : Nat}

/-- Whether the next read of a group fails or returns the whole group. -/
def readsWhole (h : Host) (leader : Nat) : Bool :=
  match (h.readRaw leader).1 with
  | .ok answer => answer = .whole (h.group leader)
  | .error _ => true

/-- An answer fits the buffer. -/
theorem bytes_le_of_readRaw {answer : ReadAnswer} (ok : (h.readRaw leader).1 = .ok answer) :
    answer.bytes ≤ 8 * readBufferWords := by
  unfold readRaw at ok
  rcases met : h.fire .reading (h.subjectOf leader) with ⟨effect, h'⟩
  simp only [met] at ok
  split at ok
  · cases ok
  · split at ok <;> split at ok <;> cases ok <;> exact Nat.le_of_not_lt ‹_›

/-- A read that no planned fault meets returns the whole group, if the buffer holds it. -/
theorem readRaw_undisturbed (calm : (h.fire .reading (h.subjectOf leader)).1 = none)
    (fits : (h.group leader).length < readBufferWords) :
    (h.readRaw leader).1 = .ok (.whole (h.group leader)) := by
  rcases met : h.fire .reading (h.subjectOf leader) with ⟨effect, h'⟩
  obtain rfl : effect = none := by rwa [met] at calm
  have group : h'.group leader = h.group leader := by
    rw [Host.group, (unchanged_of_fire met).counters, Host.group]
  simp only [readRaw, met, Option.getD_none, group, List.length_map, Nat.min_self]
  rw [if_neg (by omega)]
  rfl

/-- A read of a group fills all the room there is. -/
theorem length_of_readGroup (h : Host) {told : UInt64} {values : List UInt64}
    (ok : (h.readGroup leader room).1 = .ok (told, values)) : values.length = room := by
  unfold readGroup at ok
  split at ok
  · cases ok
  next answer h' eq => exact ReadAnswer.length_of_decode ok

/-- A read that returns the whole group gives the counts of the group. -/
theorem values_of_readGroup (whole : h.readsWhole leader) {told : UInt64} {values : List UInt64}
    (ok : (h.readGroup leader room).1 = .ok (told, values)) :
    values = fillZeros room ((h.group leader).map (·.value)) := by
  unfold readGroup at ok
  unfold readsWhole at whole
  rcases raw : h.readRaw leader with ⟨result, h'⟩
  rw [raw] at ok whole
  cases result with
  | error number => cases ok
  | ok answer =>
    have eq : answer = .whole (h.group leader) := by simpa using whole
    have answered : (h.readRaw leader).1 = .ok answer := by rw [raw]
    have bound := bytes_le_of_readRaw answered
    subst eq
    simp only [ReadAnswer.whole, readBufferWords] at bound
    have fits : (h.group leader).length < UInt64.size := by
      have : UInt64.size = 18446744073709551616 := rfl
      omega
    simp only [ReadAnswer.decode_whole fits, Except.ok.injEq, Prod.mk.injEq] at ok
    exact ok.2.symm

end Host

end ScopeMeter

import Mathlib.Algebra.Group.Nat.Defs
import ScopeMeter.BitField

/-!
# Bits of fields

`bit w i` is bit `i` of a word, and words with the same bits are the same.  Taking a field out of
a word moves its bits down (`bit_field`), and placing a value moves its low bits up (`bit_place`).
So a field holds what was placed into it (`field_place`) and nothing of what was placed into a
field apart from it (`field_place_of_apart`).
-/

namespace ScopeMeter.BitField

/-- Bit `i` of a word. -/
def bit (w : UInt64) (i : Nat) : Bool := w.toNat.testBit i

variable {v w : UInt64} {shift width : Nat}

theorem eq_of_bit (same : ∀ i, bit v i = bit w i) : v = w :=
  UInt64.toNat_inj.mp (Nat.eq_of_testBit_eq same)

/-- A word has 64 bits. -/
theorem bit_of_le {i : Nat} (beyond : 64 ≤ i) (w : UInt64) : bit w i = false := by
  apply Nat.testBit_lt_two_pow
  exact Nat.lt_of_lt_of_le w.toNat_lt (Nat.pow_le_pow_right Nat.two_pos beyond)

theorem bit_zero (i : Nat) : bit 0 i = false := Nat.zero_testBit i

theorem bit_or (v w : UInt64) (i : Nat) : bit (v ||| w) i = (bit v i || bit w i) := by
  rw [bit, UInt64.toNat_or, Nat.testBit_or, bit, bit]

theorem bit_and (v w : UInt64) (i : Nat) : bit (v &&& w) i = (bit v i && bit w i) := by
  rw [bit, UInt64.toNat_and, Nat.testBit_and, bit, bit]

theorem toNat_shift (inside : shift < 64) : (UInt64.ofNat shift).toNat % 64 = shift := by
  rw [UInt64.toNat_ofNat_of_lt' (Nat.lt_trans inside (by decide)), Nat.mod_eq_of_lt inside]

theorem bit_shiftLeft (inside : shift < 64) (w : UInt64) (i : Nat) :
    bit (w <<< UInt64.ofNat shift) i = (decide (i < 64 ∧ shift ≤ i) && bit w (i - shift)) := by
  rw [bit, UInt64.toNat_shiftLeft, toNat_shift inside, Nat.testBit_mod_two_pow,
    Nat.testBit_shiftLeft, ← Bool.and_assoc, Bool.decide_and, bit]

theorem bit_shiftRight (inside : shift < 64) (w : UInt64) (i : Nat) :
    bit (w >>> UInt64.ofNat shift) i = bit w (shift + i) := by
  rw [bit, UInt64.toNat_shiftRight, toNat_shift inside, Nat.testBit_shiftRight, bit]

theorem toNat_mask (width : Nat) : (mask width).toNat = 2 ^ min width 64 - 1 := by
  unfold mask
  split
  next full => rw [Nat.min_eq_right full]; rfl
  next short =>
    have inside : width < 64 := Nat.lt_of_not_le short
    have power : ((1 : UInt64) <<< UInt64.ofNat width).toNat = 2 ^ width := by
      rw [UInt64.toNat_shiftLeft, toNat_shift inside, UInt64.toNat_one, Nat.one_shiftLeft,
        Nat.mod_eq_of_lt (Nat.pow_lt_pow_right (by decide) inside)]
    have positive : (1 : UInt64) ≤ 1 <<< UInt64.ofNat width := by
      rw [UInt64.le_iff_toNat_le, power]
      exact Nat.one_le_two_pow
    rw [UInt64.toNat_sub_of_le _ _ positive, power, UInt64.toNat_one,
      Nat.min_eq_left (Nat.le_of_lt inside)]

theorem bit_mask (width i : Nat) : bit (mask width) i = decide (i < width ∧ i < 64) := by
  rw [bit, toNat_mask, Nat.testBit_two_pow_sub_one]
  exact decide_eq_decide.mpr Nat.lt_min

/-- Masking keeps a word that is no wider than the mask. -/
theorem and_mask_of_lt (narrow : w.toNat < 2 ^ width) : w &&& mask width = w := by
  apply eq_of_bit
  intro i
  rw [bit_and, bit_mask]
  by_cases within : i < width ∧ i < 64
  · rw [decide_eq_true within, Bool.and_true]
  · have clear : bit w i = false := by
      by_cases low : i < width
      · exact bit_of_le (by omega) w
      · apply Nat.testBit_lt_two_pow
        exact Nat.lt_of_lt_of_le narrow (Nat.pow_le_pow_right Nat.two_pos (Nat.le_of_not_lt low))
    rw [clear, Bool.false_and]

/-! ## Fields -/

theorem bit_field (inside : shift < 64) (w : UInt64) (width i : Nat) :
    bit (field w shift width) i = (decide (i < width) && bit w (shift + i)) := by
  rw [field, bit_and, bit_shiftRight inside, bit_mask]
  by_cases beyond : i < 64
  · simp [beyond, Bool.and_comm]
  · simp [bit_of_le (by omega : 64 ≤ shift + i)]

theorem bit_place (inside : shift < 64) (v : UInt64) (width i : Nat) :
    bit (place v shift width) i =
      (decide (i < 64 ∧ shift ≤ i ∧ i < shift + width) && bit v (i - shift)) := by
  rw [place, bit_shiftLeft inside, bit_and, bit_mask, Bool.and_comm (bit v _), ← Bool.and_assoc,
    ← Bool.decide_and]
  congr 1
  apply decide_eq_decide.mpr
  omega

/-- A field holds the low bits of what was placed into it. -/
theorem field_place (fits : shift + width ≤ 64) (inside : shift < 64) (v : UInt64) :
    field (place v shift width) shift width = v &&& mask width := by
  apply eq_of_bit
  intro i
  rw [bit_field inside, bit_place inside, bit_and, bit_mask, Nat.add_sub_cancel_left,
    ← Bool.and_assoc, ← Bool.decide_and, Bool.and_comm (bit v i)]
  congr 1
  apply decide_eq_decide.mpr
  omega

/-- A field holds nothing of what was placed into a field apart from it. -/
theorem field_place_of_apart {shift' width' : Nat} (inside : shift < 64) (inside' : shift' < 64)
    (apart : shift + width ≤ shift' ∨ shift' + width' ≤ shift) (v : UInt64) :
    field (place v shift width) shift' width' = 0 := by
  apply eq_of_bit
  intro i
  rw [bit_field inside', bit_place inside, ← Bool.and_assoc, ← Bool.decide_and, bit_zero,
    Bool.and_eq_false_iff, decide_eq_false_iff_not]
  left
  omega

theorem field_or (inside : shift < 64) (v w : UInt64) (width : Nat) :
    field (v ||| w) shift width = field v shift width ||| field w shift width := by
  apply eq_of_bit
  intro i
  simp only [bit_field inside, bit_or, Bool.and_or_distrib_left]

/-- Putting a field back where it was taken leaves the bits of the field. -/
theorem bit_place_field (inside : shift < 64) (w : UInt64) (width i : Nat) :
    bit (place (field w shift width) shift width) i =
      (decide (shift ≤ i ∧ i < shift + width) && bit w i) := by
  rw [bit_place inside, bit_field inside]
  by_cases covered : i < 64 ∧ shift ≤ i ∧ i < shift + width
  · have back : shift + (i - shift) = i := by omega
    have low : i - shift < width := by omega
    simp [covered, back, low]
  · rw [decide_eq_false covered, Bool.false_and]
    apply Eq.symm
    rw [Bool.and_eq_false_iff, decide_eq_false_iff_not]
    by_cases beyond : i < 64
    · left
      exact fun within => covered ⟨beyond, within⟩
    · right
      exact bit_of_le (Nat.le_of_not_lt beyond) w

/-- Two words agree in a field exactly when they agree in its bits. -/
theorem field_eq_iff (inside : shift < 64) (v w : UInt64) (width : Nat) :
    field v shift width = field w shift width ↔
      ∀ i, shift ≤ i → i < shift + width → bit v i = bit w i := by
  constructor
  · intro same i low high
    have bits := congrArg (bit · (i - shift)) same
    simp only [bit_field inside] at bits
    rwa [Nat.add_sub_cancel' low, decide_eq_true (by omega), Bool.true_and, Bool.true_and] at bits
  · intro bits
    apply eq_of_bit
    intro i
    rw [bit_field inside, bit_field inside]
    by_cases low : i < width
    · rw [bits (shift + i) (Nat.le_add_right ..) (Nat.add_lt_add_left low shift)]
    · rw [decide_eq_false low, Bool.false_and, Bool.false_and]

/-- The lowest field of a word is what the word leaves when it is divided by the field's size. -/
theorem toNat_field_zero (w : UInt64) (width : Nat) :
    (field w 0 width).toNat = w.toNat % 2 ^ width := by
  apply Nat.eq_of_testBit_eq
  intro i
  have low := bit_field (by decide : 0 < 64) w width i
  rw [Nat.zero_add] at low
  rw [Nat.testBit_mod_two_pow]
  exact low

/-- What is taken out of a field is no wider than the field. -/
theorem toNat_field_lt (w : UInt64) (shift : Nat) {width : Nat} (short : width < 64) :
    (field w shift width).toNat < 2 ^ width := by
  have small : (mask width).toNat < 2 ^ width := by
    rw [toNat_mask, Nat.min_eq_left (Nat.le_of_lt short)]
    exact Nat.sub_one_lt (Nat.ne_of_gt (Nat.two_pow_pos width))
  rw [field, UInt64.toNat_and]
  exact Nat.lt_of_le_of_lt Nat.and_le_right small

end ScopeMeter.BitField

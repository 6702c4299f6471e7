import ScopeMeter.Interconnect.Descriptor
import ScopeMeter.Proofs.BitField

/-!
# Descriptors and their words

A descriptor is read back from its word, and of a word that a descriptor was read from just the
bits that belong to a field come back (`Descriptor.words_lossless`).  Both follow from what the
fields of a word hold: the word of a descriptor holds its parts, none of them anything of another
one (`fields_toWord`), and the descriptor of a word has all of the fields (`toWord_ofWord`).
-/

namespace ScopeMeter.Descriptor

open BitField

/-- The bit belongs to a field of descriptors. -/
def Used (i : Nat) : Prop := i ≤ 23 ∨ i = 31 ∨ 32 ≤ i ∧ i ≤ 47

instance : DecidablePred Used := fun i =>
  inferInstanceAs (Decidable (i ≤ 23 ∨ i = 31 ∨ 32 ≤ i ∧ i ≤ 47))

/-! ## From descriptors to words -/

theorem fields_toWord (d : Descriptor) :
    field d.toWord 0 16 = d.nodeType.toUInt64 ∧ field d.toWord 16 8 = d.eventId.toUInt64 ∧
      field d.toWord 31 1 = (if d.byNodeId then 1 else 0) ∧
      field d.toWord 32 16 = d.nodeId.toUInt64 := by
  have type : d.nodeType.toUInt64 &&& mask 16 = d.nodeType.toUInt64 :=
    and_mask_of_lt d.nodeType.toNat_lt
  have event : d.eventId.toUInt64 &&& mask 8 = d.eventId.toUInt64 :=
    and_mask_of_lt d.eventId.toNat_lt
  have flag : (if d.byNodeId then 1 else 0 : UInt64) &&& mask 1 = if d.byNodeId then 1 else 0 := by
    cases d.byNodeId <;> rfl
  have node : d.nodeId.toUInt64 &&& mask 16 = d.nodeId.toUInt64 :=
    and_mask_of_lt d.nodeId.toNat_lt
  simp (disch := omega) only [toWord, field_or, field_place, field_place_of_apart, type, event,
    flag, node, UInt64.or_zero, UInt64.zero_or, and_self]

theorem ofWord_toWord (d : Descriptor) : ofWord d.toWord = d := by
  obtain ⟨type, event, flag, node⟩ := d.fields_toWord
  obtain ⟨nodeType, eventId, byNodeId, nodeId⟩ := d
  simp only [ofWord, type, event, flag, node, UInt16.toUInt16_toUInt64, UInt8.toUInt8_toUInt64]
  cases byNodeId <;> rfl

/-! ## From words to descriptors -/

theorem toWord_ofWord (w : UInt64) :
    (ofWord w).toWord = place (field w 0 16) 0 16 ||| place (field w 16 8) 16 8 |||
      place (field w 31 1) 31 1 ||| place (field w 32 16) 32 16 := by
  have wide : ∀ shift, (field w shift 16).toUInt16.toUInt64 = field w shift 16 := by
    intro shift
    have narrow := toNat_field_lt w shift (show 16 < 64 by decide)
    rw [← UInt64.toNat_inj, UInt16.toNat_toUInt64, UInt64.toNat_toUInt16,
      Nat.mod_eq_of_lt narrow]
  have type : (ofWord w).nodeType.toUInt64 = field w 0 16 := wide 0
  have event : (ofWord w).eventId.toUInt64 = field w 16 8 := by
    have narrow := toNat_field_lt w 16 (show 8 < 64 by decide)
    rw [ofWord, ← UInt64.toNat_inj, UInt8.toNat_toUInt64, UInt64.toNat_toUInt8,
      Nat.mod_eq_of_lt narrow]
  have flag : (if (ofWord w).byNodeId then 1 else 0 : UInt64) = field w 31 1 := by
    have read : (ofWord w).byNodeId = (field w 31 1 != 0) := rfl
    have narrow := toNat_field_lt w 31 (show 1 < 64 by decide)
    rw [read]
    by_cases clear : field w 31 1 = 0
    · rw [clear]
      rfl
    · have one : field w 31 1 = 1 := by
        rw [← UInt64.toNat_inj] at clear ⊢
        simp only [UInt64.toNat_zero, UInt64.toNat_one] at clear ⊢
        omega
      rw [one]
      rfl
  have node : (ofWord w).nodeId.toUInt64 = field w 32 16 := wide 32
  rw [toWord, type, event, flag, node]

/-- Of a word that a descriptor was read from, the bits of the fields come back. -/
theorem bit_toWord_ofWord (w : UInt64) (i : Nat) :
    bit (ofWord w).toWord i = (decide (Used i) && bit w i) := by
  rw [toWord_ofWord]
  simp (disch := decide) only [bit_or, bit_place_field, ← Bool.and_or_distrib_right,
    ← Bool.decide_or]
  congr 1
  apply decide_eq_decide.mpr
  unfold Used
  omega

/-- Descriptors and words are the same but for the bits that belong to no field.  A descriptor is
read back from its word, which has no bit set outside the fields; a word comes back from its
descriptor with just the bits outside the fields cleared.  So different descriptors have different
words, and they differ in the fields in which their words do. -/
theorem words_lossless :
    (∀ d : Descriptor, ofWord d.toWord = d ∧ ∀ i, bit d.toWord i = true → Used i) ∧
    (∀ w i, bit (ofWord w).toWord i = (decide (Used i) && bit w i)) ∧
    Function.Injective toWord ∧
    ∀ d d' : Descriptor,
      let agree (first last : Nat) := ∀ i, first ≤ i → i ≤ last → bit d.toWord i = bit d'.toWord i
      (d.nodeType = d'.nodeType ↔ agree 0 15) ∧ (d.eventId = d'.eventId ↔ agree 16 23) ∧
      (d.byNodeId = d'.byNodeId ↔ agree 31 31) ∧ (d.nodeId = d'.nodeId ↔ agree 32 47) := by
  refine ⟨?_, bit_toWord_ofWord, ?_, ?_⟩
  · intro d
    refine ⟨d.ofWord_toWord, ?_⟩
    intro i stands
    have bits := bit_toWord_ofWord d.toWord i
    rw [d.ofWord_toWord, stands, Bool.and_true] at bits
    exact of_decide_eq_true bits.symm
  · exact Function.LeftInverse.injective ofWord_toWord
  · intro d d' agree
    have fields : ∀ {shift width : Nat}, shift < 64 → 0 < width →
        (field d.toWord shift width = field d'.toWord shift width ↔
          agree shift (shift + width - 1)) := by
      intro shift width inside wide
      rw [field_eq_iff inside]
      exact forall_congr' fun i => forall_congr' fun _ => imp_congr (by omega) .rfl
    obtain ⟨type, event, flag, node⟩ := d.fields_toWord
    obtain ⟨type', event', flag', node'⟩ := d'.fields_toWord
    refine ⟨?_, ?_, ?_, ?_⟩
    · rw [← UInt16.toUInt64_inj, ← type, ← type']
      exact fields (by decide) (by decide)
    · rw [← UInt8.toUInt64_inj, ← event, ← event']
      exact fields (by decide) (by decide)
    · have flags : d.byNodeId = d'.byNodeId ↔
          (if d.byNodeId then 1 else 0 : UInt64) = if d'.byNodeId then 1 else 0 := by
        cases d.byNodeId <;> cases d'.byNodeId <;> decide
      rw [flags, ← flag, ← flag']
      exact fields (by decide) (by decide)
    · rw [← UInt16.toUInt64_inj, ← node, ← node']
      exact fields (by decide) (by decide)

end ScopeMeter.Descriptor

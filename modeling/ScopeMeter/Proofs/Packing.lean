import Mathlib.Data.List.Pairwise
import ScopeMeter.Interconnect.Descriptor
import ScopeMeter.Proofs.BitField

/-!
# Words packed from fields

Some values are packed into one word by placing each of them into a field of its own.  When no bit
belongs to two of the fields, each field gives back the low bits of its value (`pack_lossless`).
The bit view carries the argument: a bit of the packed word is the bit of the one value whose
field covers it (`bit_pack_of_covers`), so nothing of a value gets into the fields beside it,
however wide the value is.  The words of descriptors are packed in this way
(`Descriptor.toWord_packed`).
-/

namespace ScopeMeter.BitField

/-- A value and the field it is placed into. -/
structure Part where
  shift : Nat
  width : Nat
  value : UInt64

namespace Part

variable {p q : Part}

/-- The field lies within a word. -/
def Fits (p : Part) : Prop := p.shift < 64 ∧ p.shift + p.width ≤ 64

/-- Bit `i` belongs to the field. -/
def Covers (p : Part) (i : Nat) : Prop := p.shift ≤ i ∧ i < p.shift + p.width

/-- No bit belongs to both fields. -/
def Apart (p q : Part) : Prop := ∀ i, p.Covers i → ¬ q.Covers i

instance : DecidablePred Fits := fun _ => inferInstanceAs (Decidable (_ ∧ _))

instance (p : Part) : DecidablePred p.Covers := fun _ => inferInstanceAs (Decidable (_ ∧ _))

/-- A field without bits lies apart from every other one, even in the middle of it. -/
theorem apart_iff :
    p.Apart q ↔ p.width = 0 ∨ q.width = 0 ∨ p.shift + p.width ≤ q.shift ∨
      q.shift + q.width ≤ p.shift := by
  constructor
  · intro apart
    -- Two runs of bits that meet have the later of their first bits in common.
    have first := apart (max p.shift q.shift)
    simp only [Covers] at first
    omega
  · intro outside i covered covered'
    obtain ⟨low, high⟩ := covered
    obtain ⟨low', high'⟩ := covered'
    omega

instance : DecidableRel Apart := fun _ _ => decidable_of_iff _ apart_iff.symm

instance : Std.Symm Apart := ⟨fun _ _ apart i covered' covered => apart i covered covered'⟩

/-- The value in its field, with all other bits clear. -/
def word (p : Part) : UInt64 := place p.value p.shift p.width

theorem bit_word (fits : p.Fits) (i : Nat) :
    bit p.word i = (decide (p.Covers i) && bit p.value (i - p.shift)) := by
  obtain ⟨inside, ends⟩ := fits
  rw [word, bit_place inside]
  congr 1
  apply decide_eq_decide.mpr
  unfold Covers
  omega

end Part

/-- The word that holds every part. -/
def pack (parts : List Part) : UInt64 := parts.foldr (fun p w => p.word ||| w) 0

theorem pack_cons (p : Part) (parts : List Part) : pack (p :: parts) = p.word ||| pack parts := rfl

variable {parts : List Part}

theorem bit_pack (fits : ∀ p ∈ parts, p.Fits) (i : Nat) :
    bit (pack parts) i =
      parts.any fun p => decide (p.Covers i) && bit p.value (i - p.shift) := by
  induction parts with
  | nil => exact bit_zero i
  | cons p parts ih =>
    obtain ⟨fit, fits⟩ := List.forall_mem_cons.mp fits
    rw [pack_cons, bit_or, Part.bit_word fit, ih fits, List.any_cons]

/-- A bit of the packed word is the bit of the one value whose field covers it. -/
theorem bit_pack_of_covers (fits : ∀ p ∈ parts, p.Fits) (apart : parts.Pairwise Part.Apart)
    {p : Part} (member : p ∈ parts) {i : Nat} (covered : p.Covers i) :
    bit (pack parts) i = bit p.value (i - p.shift) := by
  rw [bit_pack fits, Bool.eq_iff_iff, List.any_eq_true]
  constructor
  · intro ⟨q, member', found⟩
    obtain ⟨covered', stands⟩ := Bool.and_eq_true_iff.mp found
    by_cases same : p = q
    · rw [same]
      exact stands
    · exact absurd (of_decide_eq_true covered') (apart.forall member member' same i covered)
  · intro stands
    exact ⟨p, member, Bool.and_eq_true_iff.mpr ⟨decide_eq_true covered, stands⟩⟩

/-- Fields that lie apart lose nothing of what is packed into them.  Each of them gives back the
low bits of its value, and the bits that belong to none of them are clear. -/
theorem pack_lossless (fits : ∀ p ∈ parts, p.Fits) (apart : parts.Pairwise Part.Apart) :
    (∀ p ∈ parts,
      (field (pack parts) p.shift p.width).toNat = p.value.toNat % 2 ^ p.width) ∧
    ∀ i, (∀ p ∈ parts, ¬ p.Covers i) → bit (pack parts) i = false := by
  constructor
  · intro p member
    apply Nat.eq_of_testBit_eq
    intro i
    have taken := bit_field (fits p member).1 (pack parts) p.width i
    rw [Nat.testBit_mod_two_pow]
    refine taken.trans ?_
    by_cases low : i < p.width
    · have covered : p.Covers (p.shift + i) := by
        unfold Part.Covers
        omega
      rw [bit_pack_of_covers fits apart member covered, Nat.add_sub_cancel_left, bit]
    · rw [decide_eq_false low, Bool.false_and, Bool.false_and]
  · intro i uncovered
    rw [bit_pack fits, List.any_eq_false]
    intro p member
    rw [decide_eq_false (uncovered p member), Bool.false_and]
    exact Bool.false_ne_true

/-- Parts of which two are wider than their fields, one has a field without bits inside the field
of another, and one ends at the last bit of a word. -/
def sampleParts : List Part :=
  [⟨16, 8, 0x1FF⟩, ⟨20, 0, 0xFFFF⟩, ⟨0, 16, 0x12345⟩, ⟨31, 1, 1⟩, ⟨48, 16, 0x8001⟩]

/-- A part that fills the word, and one without bits. -/
def sampleWhole : List Part := [⟨0, 64, 0xFEDCBA9876543210⟩, ⟨63, 0, 1⟩]

theorem pack_lossless_sampleParts :
    (∀ p ∈ sampleParts, p.Fits) ∧ sampleParts.Pairwise Part.Apart ∧
    pack sampleParts = 0x8001000080FF2345 ∧
    (∀ p ∈ sampleParts,
      (field (pack sampleParts) p.shift p.width).toNat = p.value.toNat % 2 ^ p.width) ∧
    bit (pack sampleParts) 24 = false ∧
    ∀ p ∈ sampleWhole,
      (field (pack sampleWhole) p.shift p.width).toNat = p.value.toNat % 2 ^ p.width := by
  have fits : ∀ p ∈ sampleParts, p.Fits := by decide
  have apart : sampleParts.Pairwise Part.Apart := by decide
  have fits' : ∀ p ∈ sampleWhole, p.Fits := by decide
  have apart' : sampleWhole.Pairwise Part.Apart := by decide
  obtain ⟨held, clear⟩ := pack_lossless fits apart
  refine ⟨fits, apart, by decide, held, clear 24 (by decide), ?_⟩
  exact (pack_lossless fits' apart').1

end ScopeMeter.BitField

namespace ScopeMeter.Descriptor

open BitField

/-- The parts of a descriptor in their fields. -/
def parts (d : Descriptor) : List Part :=
  [⟨0, 16, d.nodeType.toUInt64⟩, ⟨16, 8, d.eventId.toUInt64⟩,
    ⟨31, 1, if d.byNodeId then 1 else 0⟩, ⟨32, 16, d.nodeId.toUInt64⟩]

/-- The word of a descriptor is packed from its parts, and their fields lie apart. -/
theorem toWord_packed (d : Descriptor) :
    (∀ p ∈ d.parts, p.Fits) ∧ d.parts.Pairwise Part.Apart ∧ d.toWord = pack d.parts := by
  refine ⟨?_, ?_, ?_⟩
  · simp [parts, Part.Fits]
  · simp [parts, Part.apart_iff]
  · simp only [toWord, parts, pack, Part.word, List.foldr_cons, List.foldr_nil, UInt64.or_assoc,
      UInt64.or_zero]

end ScopeMeter.Descriptor

/-!
# Bit fields of a word

A field of a 64-bit word is a run of `width` bits whose lowest bit is bit `shift`. `place` puts a
value into a field and `field` takes it out; a value wider than its field loses its high bits.
-/

namespace ScopeMeter.BitField

/-- The word whose low `width` bits are set; a word has no more than 64. -/
def mask (width : Nat) : UInt64 :=
  if 64 ≤ width then 0xFFFFFFFFFFFFFFFF else (1 <<< UInt64.ofNat width) - 1

/-- The `width` bits of `value` from bit `shift` on. -/
def field (value : UInt64) (shift width : Nat) : UInt64 :=
  (value >>> UInt64.ofNat shift) &&& mask width

/-- The low `width` bits of `value`, moved to bit `shift`. -/
def place (value : UInt64) (shift width : Nat) : UInt64 :=
  (value &&& mask width) <<< UInt64.ofNat shift

end ScopeMeter.BitField

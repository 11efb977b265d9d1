import Mathlib.Algebra.Group.Nat.Defs
import Mathlib.Data.Nat.Basic
import Mathlib.Tactic.Common

namespace WebVPN.Library

/-!
# Library — little-endian machine integers

The byte order of `encoding/binary`'s `LittleEndian`: the four bytes of a 32-bit word and
the two bytes of a 16-bit word, least significant byte first.  `uint32_putUint32` and
`putUint32_uint32` say that writing and reading a 32-bit word are inverse to each other.
-/

/-- The four bytes of `v`, least significant first. -/
def putUint32 (v : UInt32) : List UInt8 :=
  [UInt8.ofNat v.toNat, UInt8.ofNat (v.toNat / 2 ^ 8), UInt8.ofNat (v.toNat / 2 ^ 16),
    UInt8.ofNat (v.toNat / 2 ^ 24)]

/-- The 32-bit word with the bytes `b₀ b₁ b₂ b₃`, least significant first. -/
def uint32 (b₀ b₁ b₂ b₃ : UInt8) : UInt32 :=
  UInt32.ofNat (b₀.toNat + b₁.toNat * 2 ^ 8 + b₂.toNat * 2 ^ 16 + b₃.toNat * 2 ^ 24)

/-- The 16-bit word with the bytes `b₀ b₁`, least significant first. -/
def uint16 (b₀ b₁ : UInt8) : UInt16 :=
  UInt16.ofNat (b₀.toNat + b₁.toNat * 2 ^ 8)

@[simp] theorem length_putUint32 (v : UInt32) : (putUint32 v).length = 4 := rfl

/-- Reading back a word that was written. -/
theorem uint32_putUint32 (v : UInt32) :
    uint32 (UInt8.ofNat v.toNat) (UInt8.ofNat (v.toNat / 2 ^ 8))
      (UInt8.ofNat (v.toNat / 2 ^ 16)) (UInt8.ofNat (v.toNat / 2 ^ 24)) = v := by
  apply UInt32.toNat_inj.mp
  have hv : v.toNat < 2 ^ 32 := UInt32.toNat_lt v
  simp only [uint32, UInt32.toNat_ofNat', UInt8.toNat_ofNat']
  omega

/-- Writing a word that was read gives its bytes back. -/
theorem putUint32_uint32 (b₀ b₁ b₂ b₃ : UInt8) :
    putUint32 (uint32 b₀ b₁ b₂ b₃) = [b₀, b₁, b₂, b₃] := by
  have h₀ := UInt8.toNat_lt b₀
  have h₁ := UInt8.toNat_lt b₁
  have h₂ := UInt8.toNat_lt b₂
  have h₃ := UInt8.toNat_lt b₃
  have hw : (uint32 b₀ b₁ b₂ b₃).toNat
      = b₀.toNat + b₁.toNat * 2 ^ 8 + b₂.toNat * 2 ^ 16 + b₃.toNat * 2 ^ 24 := by
    simp only [uint32, UInt32.toNat_ofNat']
    omega
  simp only [putUint32, hw, List.cons.injEq, and_true]
  refine ⟨?_, ?_, ?_, ?_⟩ <;>
    · apply UInt8.toNat_inj.mp
      rw [UInt8.toNat_ofNat']
      omega

end WebVPN.Library

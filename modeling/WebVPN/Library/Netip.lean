import Mathlib.Data.Nat.Basic

namespace WebVPN.Library

/-!
# Library — addresses and prefixes

IP addresses and CIDR prefixes with the operations of Go's `net/netip`, at the level of
bits.  An IPv4 address and its IPv4-mapped IPv6 form are different addresses; `Addr.unmap`
takes the second to the first.  An IPv6 address may carry a zone, and no prefix contains
an address with one.

* `agree` — two addresses of one family have the same leading bits;
* `Prefix` — a prefix carries the bound on its length, so that a longer one cannot be built;
* `Prefix.contains_masked` — masking a prefix does not change what it contains;
* `Prefix.contains_trans` — the containment of prefixes: what lies in a prefix lies in every
  shorter prefix that contains the first one's address.
-/

/-! ### Addresses -/

/-- An IP address; `zero` is the zero value, which is not a valid address. -/
inductive Addr
  | zero
  | v4 (a : BitVec 32)
  | v6 (a : BitVec 128) (zone : String)
deriving DecidableEq, Repr

/-- An IPv6 address with an IPv4 address embedded after `::ffff:`. -/
def Addr.is4In6 : Addr → Bool
  | .v6 a _ => a >>> 32 == 0xffff#128
  | _ => false

/-- Remove the IPv4-mapped prefix, if there is one. -/
def Addr.unmap : Addr → Addr
  | .v6 a zone => if a >>> 32 == 0xffff#128 then .v4 (a.truncate 32) else .v6 a zone
  | addr => addr

/-- 127.0.0.0/8 and ::1; a mapped address counts as the address it wraps. -/
def Addr.isLoopback (addr : Addr) : Bool :=
  match addr.unmap with
  | .zero => false
  | .v4 a => a >>> 24 == 127#32
  | .v6 a _ => a == 1#128

/-! ### Leading bits -/

/-- Two words of `w` bits have the same `n` leading bits. -/
def agree {w : Nat} (n : Nat) (a b : BitVec w) : Bool := a >>> (w - n) == b >>> (w - n)

/-- Keep the `n` leading bits and clear the rest. -/
def leading {w : Nat} (n : Nat) (a : BitVec w) : BitVec w := (a >>> (w - n)) <<< (w - n)

section Bits

variable {w : Nat} {m n : Nat} {a b c : BitVec w}

theorem agree_iff : agree n a b = true ↔ ∀ i, w - n ≤ i → a.getLsbD i = b.getLsbD i := by
  unfold agree
  rw [beq_iff_eq]
  constructor
  · intro h i hi
    have hbit := congrArg (fun x => x.getLsbD (i - (w - n))) h
    simpa [BitVec.getLsbD_ushiftRight, Nat.add_sub_cancel' hi] using hbit
  · intro h
    apply BitVec.eq_of_getLsbD_eq
    intro i _
    rw [BitVec.getLsbD_ushiftRight, BitVec.getLsbD_ushiftRight]
    exact h _ (Nat.le_add_right _ _)

theorem agree_symm (h : agree n a b = true) : agree n b a = true := by
  rw [agree_iff] at h ⊢
  exact fun i hi => (h i hi).symm

theorem agree_trans (h : agree n a b = true) (h' : agree n b c = true) :
    agree n a c = true := by
  rw [agree_iff] at h h' ⊢
  exact fun i hi => (h i hi).trans (h' i hi)

/-- Words that agree on more bits agree on fewer. -/
theorem agree_mono (hmn : m ≤ n) (h : agree n a b = true) : agree m a b = true := by
  rw [agree_iff] at h ⊢
  intro i hi
  exact h i (by omega)

/-- Clearing the other bits leaves the leading ones. -/
theorem agree_leading (n : Nat) (a : BitVec w) : agree n (leading n a) a = true := by
  rw [agree_iff]
  intro i hi
  unfold leading
  rw [BitVec.getLsbD_shiftLeft, BitVec.getLsbD_ushiftRight]
  by_cases hw : i < w
  · simp [hw, Nat.not_lt.mpr hi, Nat.add_sub_cancel' hi]
  · simp [hw, BitVec.getLsbD_of_ge a i (Nat.le_of_not_lt hw)]

end Bits

/-! ### Prefixes -/

/-- A network: an address without a zone and the number of its bits that count. -/
inductive Prefix
  | v4 (a : BitVec 32) (bits : Nat) (hbits : bits ≤ 32)
  | v6 (a : BitVec 128) (bits : Nat) (hbits : bits ≤ 128)
deriving DecidableEq, Repr

namespace Prefix

theorem eight_le : 8 ≤ 32 := by decide

theorem ten_le : 10 ≤ 32 := by decide

/-- The address of the prefix, as it was written. -/
def addr : Prefix → Addr
  | .v4 a _ _ => .v4 a
  | .v6 a _ _ => .v6 a ""

/-- The length of the prefix. -/
def bits : Prefix → Nat
  | .v4 _ n _ => n
  | .v6 _ n _ => n

/-- The canonical form: the bits that do not count are cleared. -/
def masked : Prefix → Prefix
  | .v4 a n h => .v4 (leading n a) n h
  | .v6 a n h => .v6 (leading n a) n h

/-- The network includes the address.  The families must be equal, and an address with a
    zone is in no network. -/
def contains : Prefix → Addr → Bool
  | .v4 a n _, .v4 b => agree n a b
  | .v6 a n _, .v6 b zone => zone == "" && agree n a b
  | _, _ => false

/-- Masking a prefix does not change what it contains. -/
theorem contains_masked (p : Prefix) (addr : Addr) : p.masked.contains addr = p.contains addr := by
  have hbits : ∀ {w : Nat} (n : Nat) (a b : BitVec w), agree n (leading n a) b = agree n a b := by
    intro w n a b
    rw [Bool.eq_iff_iff]
    constructor
    · exact agree_trans (agree_symm (agree_leading n a))
    · exact agree_trans (agree_leading n a)
  cases p with
  | v4 a n h =>
    cases addr with
    | v4 b => exact hbits n a b
    | zero => rfl
    | v6 => rfl
  | v6 a n h =>
    cases addr with
    | v6 b zone => simp only [masked, contains, hbits]
    | zero => rfl
    | v4 => rfl

/-- **Containment of prefixes.**  If a prefix is no longer than `p` and contains the address
    of `p`, it contains everything `p` contains. -/
theorem contains_trans {outer p : Prefix} {addr : Addr} (hbits : outer.bits ≤ p.bits)
    (houter : outer.contains p.addr = true) (hp : p.contains addr = true) :
    outer.contains addr = true := by
  cases outer with
  | v4 a m hm =>
    cases p with
    | v6 => cases houter
    | v4 b n hn =>
      cases addr with
      | zero => cases hp
      | v6 => cases hp
      | v4 c => exact agree_trans houter (agree_mono hbits hp)
  | v6 a m hm =>
    cases p with
    | v4 => cases houter
    | v6 b n hn =>
      cases addr with
      | zero => cases hp
      | v4 => cases hp
      | v6 c zone =>
        simp only [contains, addr, Bool.and_eq_true] at houter hp ⊢
        exact ⟨hp.1, agree_trans houter.2 (agree_mono hbits hp.2)⟩

end Prefix

end WebVPN.Library

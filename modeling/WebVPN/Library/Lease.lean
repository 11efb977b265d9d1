import Mathlib.Data.Int.Order.Basic
import Mathlib.Order.MinMax

namespace WebVPN.Library

/-!
# Library — renewable leases with an absolute limit

A lease is granted at some time, renewed by every use, and ends at the first of three
moments: a fixed while after the last renewal, a fixed while after the grant, or its
revocation.

* `Lease.InForce` — the law of the lease, one condition for each of the three;
* `Lease.expiry`, `Lease.inForce_iff` — the one deadline that an implementation stores;
* `Lease.read`, `Lease.read_cons` — the lease that a history describes, and how one more
  event changes it.
-/

/-- How long a lease lasts after a renewal, and after the grant. -/
structure Terms where
  idle : Int
  absolute : Int
deriving DecidableEq, Repr

/-- When it was granted and renewed, and whether it was revoked. -/
structure Lease where
  granted : Int
  renewed : Int
  revoked : Bool
deriving DecidableEq, Repr

namespace Lease

variable (terms : Terms) (l : Lease)

/-- Not revoked, and neither limit is reached. -/
def InForce (now : Int) : Prop :=
  l.revoked = false ∧ now < l.granted + terms.absolute ∧ now < l.renewed + terms.idle

instance (now : Int) : Decidable (l.InForce terms now) :=
  inferInstanceAs (Decidable (_ ∧ _ ∧ _))

/-- The earlier of the two limits. -/
def expiry : Int := min (l.renewed + terms.idle) (l.granted + terms.absolute)

theorem inForce_iff (now : Int) :
    l.InForce terms now ↔ l.revoked = false ∧ now < l.expiry terms := by
  unfold InForce expiry
  rw [lt_min_iff, and_comm (a := now < l.granted + terms.absolute)]

/-- A lease that has ended stays ended. -/
theorem not_inForce_mono {now later : Int} (hle : now ≤ later) (h : ¬ l.InForce terms now) :
    ¬ l.InForce terms later := by
  rintro ⟨hrevoked, habsolute, hidle⟩
  exact h ⟨hrevoked, lt_of_le_of_lt hle habsolute, lt_of_le_of_lt hle hidle⟩

variable {ε : Type} (granted : Int) (renewal : ε → Option Int) (revocation : ε → Bool)

/-- The lease granted at some time, after a history of events, the latest first. -/
def read (h : List ε) : Lease where
  granted := granted
  renewed := (h.findSome? renewal).getD granted
  revoked := h.any revocation

/-- An event that renews. -/
theorem read_cons_renewed {e : ε} {t : Int} (hrenewal : renewal e = some t) (h : List ε) :
    read granted renewal revocation (e :: h) =
      ⟨granted, t, revocation e || (read granted renewal revocation h).revoked⟩ := by
  simp [read, hrenewal]

/-- An event that does not renew. -/
theorem read_cons_kept {e : ε} (hrenewal : renewal e = none) (h : List ε) :
    read granted renewal revocation (e :: h) =
      { read granted renewal revocation h with
        revoked := revocation e || (read granted renewal revocation h).revoked } := by
  simp [read, hrenewal]

end Lease

end WebVPN.Library

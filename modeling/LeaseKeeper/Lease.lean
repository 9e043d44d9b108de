import LeaseKeeper.Fault
import LeaseKeeper.Span
import LeaseKeeper.Text.Quoted
/-!
Leases: time-bound grants on a secret, in whole seconds as the store reports them.
-/
namespace LeaseKeeper

/-- An empty id means that there is no lease, or only a time to live. -/
structure Lease where
  id : String
  seconds : Nat
  renewable : Bool
  deriving DecidableEq, Repr, Inhabited

namespace Lease

def none : Lease := ⟨"", 0, false⟩

/-- A lease over `span`, rounded down to seconds. Only a lease with an id can be renewable. -/
def of (id : String) (span : Nat) (renewable : Bool) : Except Fault Lease :=
  if id.isEmpty && renewable then
    .error (.invalidArgument "a renewable lease requires a lease id")
  else .ok ⟨id, Span.toSeconds span, renewable⟩

def ofTtl (span : Nat) : Lease := ⟨"", Span.toSeconds span, false⟩

def hasId (lease : Lease) : Bool := !lease.id.isEmpty

def isNone (lease : Lease) : Bool := lease.id.isEmpty && lease.seconds == 0

def span (lease : Lease) : Nat := Span.seconds lease.seconds

/-- The store can extend the lease, and must be told when it is no longer wanted. -/
def isRevocable (lease : Lease) : Bool := lease.hasId && lease.renewable

theorem isRevocable_iff {lease : Lease} :
    lease.isRevocable = true ↔ lease.id ≠ "" ∧ lease.renewable = true := by
  simp [isRevocable, hasId]

def text (lease : Lease) : String :=
  Text.labelled "Lease" [("lease_id", Text.quoted lease.id),
    ("lease_duration_secs", toString lease.seconds), ("renewable", Text.bool lease.renewable)]

end Lease

/-- How long a lease is left alone: it is renewed `threshold` before it runs out, but never sooner
than `floor`. -/
def renewalDelay (span floor threshold : Nat) : Nat := max floor (span - threshold)

def defaultFloor : Nat := Span.seconds 10

def defaultThreshold : Nat := Span.seconds 60

theorem floor_le_renewalDelay (span floor threshold : Nat) :
    floor ≤ renewalDelay span floor threshold := Nat.le_max_left _ _

end LeaseKeeper

import LeaseKeeper.Lease
import LeaseKeeper.Strategy
/-!
When leases and session tokens are renewed, as spans.
-/
namespace LeaseKeeper

structure LeasePolicy where
  /-- No renewal comes sooner than this after the one before it. -/
  floor : Nat
  threshold : Nat
  strategy : Strategy
  deriving DecidableEq, Repr, Inhabited

namespace LeasePolicy

def default : LeasePolicy := ⟨defaultFloor, defaultThreshold, .dropOnError⟩

def text (policy : LeasePolicy) : String :=
  Text.labelled "LeaseSettings" [("min_renewal", Span.text policy.floor),
    ("expiry_threshold", Span.text policy.threshold), ("strategy", policy.strategy.label)]

def delay (policy : LeasePolicy) (lease : Lease) : Nat :=
  renewalDelay lease.span policy.floor policy.threshold

end LeasePolicy

structure SessionPolicy where
  lead : Nat
  /-- A token with less validity left is not handed out. -/
  threshold : Nat
  deriving DecidableEq, Repr, Inhabited

def SessionPolicy.default : SessionPolicy := ⟨Span.seconds 5, Span.seconds 7⟩

end LeaseKeeper

import LeaseKeeper.Event
import LeaseKeeper.Strategy
/-!
A source: the properties of one secret, kept in step with the events of its leases. Reads go on
with the last good data when a lease is given up or revoked.
-/
namespace LeaseKeeper

inductive SourceState where
  | uninitialized
  | active
  | errored
  | revoked
  deriving DecidableEq, Repr, Inhabited

def SourceState.label : SourceState → String
  | uninitialized => "Uninitialized"
  | active => "Active"
  | errored => "Errored"
  | revoked => "Revoked"

structure Source where
  secret : Secret
  start : String
  strategy : Strategy
  properties : TextMap String
  state : SourceState
  leaseListener : Nat
  faultListener : Nat
  deriving DecidableEq, Repr

namespace Source

def adopt (s : Source) (data : TextMap String) : Source :=
  { s with properties := data.withStart s.start, state := .active }

def seed (s : Source) (data : TextMap String) : Source :=
  if s.state = .uninitialized then s.adopt data else s

def hear (s : Source) (e : LeaseEvent) : Source :=
  if e.secret = s.secret then
    match e with
    | .created _ _ data => s.adopt data
    | .afterRenewed _ _ => if s.state = .errored then { s with state := .active } else s
    | .beforeRevocation _ _ | .afterRevocation _ _ => { s with state := .revoked }
    | .expired _ _ | .notFound _ => s
  else s

def hearFault (s : Source) (secret : Secret) (fault : Fault) : Source :=
  if secret = s.secret ∧ s.state = .active ∧ s.strategy.shouldDrop fault then
    { s with state := .errored }
  else s

def close (s : Source) : Source :=
  if s.state = .uninitialized then s else { s with state := .revoked }

def text (s : Source) : String :=
  Text.labelled "LeaseAwareSecretSource" [("requested", s.secret.debugText),
    ("state", s.state.label),
    ("properties", "[" ++ ", ".intercalate (s.properties.keys.map Text.quoted) ++ "]")]

end Source
end LeaseKeeper

import LeaseKeeper.Lease
import LeaseKeeper.Secret
import LeaseKeeper.TextMap
/-!
What listeners are told about the leases of a secret.
-/
namespace LeaseKeeper

inductive LeaseEvent where
  | created (secret : Secret) (lease : Lease) (data : TextMap String)
  | afterRenewed (secret : Secret) (lease : Lease)
  | beforeRevocation (secret : Secret) (lease : Lease)
  | afterRevocation (secret : Secret) (lease : Lease)
  | expired (secret : Secret) (lease : Lease)
  | notFound (secret : Secret)
  deriving DecidableEq, Repr

namespace LeaseEvent

def name : LeaseEvent → String
  | created _ _ _ => "Created"
  | afterRenewed _ _ => "AfterRenewed"
  | beforeRevocation _ _ => "BeforeRevocation"
  | afterRevocation _ _ => "AfterRevocation"
  | expired _ _ => "Expired"
  | notFound _ => "NotFound"

def secret : LeaseEvent → Secret
  | created s _ _ | afterRenewed s _ | beforeRevocation s _ | afterRevocation s _ | expired s _
  | notFound s => s

def lease? : LeaseEvent → Option Lease
  | created _ l _ | afterRenewed _ l | beforeRevocation _ l | afterRevocation _ l | expired _ l =>
    some l
  | notFound _ => none

end LeaseEvent
end LeaseKeeper

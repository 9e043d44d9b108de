import LeaseKeeper.Fault
/-!
What becomes of a lease whose renewal failed.
-/
namespace LeaseKeeper

inductive Strategy where
  | dropOnError
  | retainOnError
  | retainOnIoError
  deriving DecidableEq, Repr, Inhabited

namespace Strategy

def shouldDrop : Strategy → Fault → Bool
  | dropOnError, _ => true
  | retainOnError, _ => false
  | retainOnIoError, fault => !fault.isIo

def text : Strategy → String
  | dropOnError => "drop"
  | retainOnError => "retain"
  | retainOnIoError => "retain-on-io"

def longText : Strategy → String
  | dropOnError => "drop-on-error"
  | retainOnError => "retain-on-error"
  | retainOnIoError => "retain-on-io-error"

def label : Strategy → String
  | dropOnError => "DropOnError"
  | retainOnError => "RetainOnError"
  | retainOnIoError => "RetainOnIoError"

def all : List Strategy := [dropOnError, retainOnError, retainOnIoError]

def ofLongText? (s : String) : Option Strategy := all.find? fun x => x.longText == s

def lowerAscii (s : String) : String := s.map Char.toLower

/-- Either spelling, in ASCII letters of either case. -/
def ofText? (s : String) : Option Strategy :=
  let lower := lowerAscii s
  all.find? fun x => x.text == lower || x.longText == lower

def unknown (s : String) : String := "Unknown lease strategy: " ++ s

theorem shouldDrop_replicate (strategy : Strategy) (fault : Fault) :
    strategy.shouldDrop fault.replicate = strategy.shouldDrop fault := by
  cases strategy <;> simp [shouldDrop, Fault.isIo_replicate]

end Strategy
end LeaseKeeper

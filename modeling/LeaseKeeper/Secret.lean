import LeaseKeeper.Text.Quoted
/-!
Secrets asked for: a path in the store and how it is kept fresh.
-/
namespace LeaseKeeper

inductive Mode where
  | renew
  | rotate
  deriving DecidableEq, Repr, Inhabited

def Mode.text : Mode → String
  | renew => "renew"
  | rotate => "rotate"

def Mode.label : Mode → String
  | renew => "Renew"
  | rotate => "Rotate"

structure Secret where
  path : String
  mode : Mode
  deriving DecidableEq, Repr, Inhabited

namespace Secret

def trimSlashes (path : String) : String :=
  let front := path.toList.dropWhile (· == '/')
  String.ofList (front.reverse.dropWhile (· == '/')).reverse

def of (path : String) (mode : Mode) : Secret := ⟨trimSlashes path, mode⟩

def isRotating (secret : Secret) : Bool := secret.mode == .rotate

def text (secret : Secret) : String := secret.mode.text ++ ":" ++ secret.path

def debugText (secret : Secret) : String :=
  Text.labelled "RequestedSecret" [("path", Text.quoted secret.path), ("mode", secret.mode.label)]

end Secret
end LeaseKeeper

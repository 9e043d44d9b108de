import LeaseKeeper.Response
/-!
Session tokens and the answers about them. Tokens are hidden in every written form.
-/
namespace LeaseKeeper

structure Hidden where
  exposed : String
  deriving DecidableEq, Repr, Inhabited

namespace Hidden

def isEmpty (h : Hidden) : Bool := h.exposed.isEmpty

def text (_ : Hidden) : String := redacted

def debugText (name : String) (_ : Hidden) : String := name ++ "(" ++ redacted ++ ")"

def toValue (_ : Hidden) : Json.Value := .text redacted

def ofValue? (v : Json.Value) : Option Hidden := v.asText?.map Hidden.mk

end Hidden

/-- A token with its validity. A zero `ttl` means that the issuer reported none. -/
structure LoginToken where
  token : Hidden
  ttl : Nat
  renewable : Bool
  deriving DecidableEq, Repr, Inhabited

def LoginToken.of (token : Hidden) : LoginToken := ⟨token, 0, false⟩

/-- What the store says about a token. A zero `ttl` means that it never expires. -/
structure TokenLookup where
  ttl : Nat
  renewable : Bool
  deriving DecidableEq, Repr, Inhabited

end LeaseKeeper

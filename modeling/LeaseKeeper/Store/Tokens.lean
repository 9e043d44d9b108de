import LeaseKeeper.Login
import LeaseKeeper.Session.Step
import LeaseKeeper.Store.Endpoint
/-!
Logging in, and what a token can ask about itself; these requests have no time limit. An address
that cannot be read and a header that cannot be sent break the call off instead of failing it.
-/
namespace LeaseKeeper.Store

open Http Json

inductive Attempt (α : Type) where
  | ended (result : Except Fault α)
  | broken

/-- Where token requests go: the address, with its path after the version. -/
def tokenUrl (base : Url) (path : String) : Url :=
  let inner := if base.path = "/" then "" else base.path ++ "/"
  { base with
    path := Url.pathText ("/v1" ++ inner ++ "/" ++ path).toList
    fragment := none }

def refused : Fault := .connectionFailed "An error occurred with the request"

def setupFault (e : Endpoint) (base : Url) : Option Fault :=
  if !base.isHttp then
    some (.configError
      ("Invalid Vault configuration: Invalid scheme for HTTP URL: " ++ base.scheme))
  else e.unreadable.map fun path =>
    .connectionFailed ("Failed to create Vault client: Error reading file: " ++ path)

def apiErrors? (body : String) : Option (List String) := do
  let v ← (readShaped (.record [("errors", .any)]) body).toOption
  let members ← v.members? ["errors"]
  member (Value.asList? Value.asText?) members "errors"

def askAboutToken {m : Type → Type} [Monad m] {α : Type} (send : Transport m) (e : Endpoint)
    (token : Option Hidden) (method : Method) (path : String) (body : Option Value)
    (read? : String → Option α) : m (Attempt α) :=
  match Url.parse? e.base with
  | none => pure .broken
  | some base =>
    match setupFault e base with
    | some fault => pure (.ended (.error fault))
    | none =>
      let url := tokenUrl base path
      let exposed := ((token <|> e.ambientToken).map Hidden.exposed).filter (!·.isEmpty)
      if !url.isRequestable then pure (.ended (.error refused))
      else if !(exposed.all isHeaderText) || !(e.namespacePath.all isHeaderText) then pure .broken
      else do
        match ← send ⟨method, url, exposed, e.namespacePath, body, none⟩ with
        | .unreachable => return .ended (.error refused)
        | .answered answer =>
          if 200 ≤ answer.status ∧ answer.status ≤ 208 then
            match read? answer.body with
            | some a => return .ended (.ok a)
            | none => return .ended (.error refused)
          else match apiErrors? answer.body with
            | some errors => return .ended (.error (Fault.ofErrors answer.status errors))
            | none => return .ended (.error refused)

/-! ### Bodies -/

def texts? : Value → Option (List String) := Value.asList? Value.asText?

def textMap? : Value → Option (List String)
  | .record fields => fields.mapM fun entry => entry.2.asText?
  | _ => none

def envelopeNames : List String :=
  ["request_id", "lease_id", "lease_duration", "renewable", "data", "warnings", "auth",
    "wrap_info"]

def envelope? (body : String) : Option (List (String × Value)) := do
  let v ← (readShaped (.record (envelopeNames.map (·, .any))) body).toOption
  let members ← v.members? envelopeNames
  let _ ← member Value.asText? members "request_id"
  let _ ← member Value.asText? members "lease_id"
  let _ ← member (Value.asNat? 4294967295) members "lease_duration"
  let _ ← member Value.asBool? members "renewable"
  return members

def authNames : List String :=
  ["client_token", "accessor", "policies", "token_policies", "metadata", "lease_duration",
    "renewable", "entity_id", "token_type", "orphan"]

def auth? (v : Value) : Option LoginToken := do
  let members ← v.members? authNames
  let token ← member Value.asText? members "client_token"
  let _ ← ["accessor", "entity_id", "token_type"].mapM (member Value.asText? members)
  let _ ← ["policies", "token_policies"].mapM (member texts? members)
  let _ ← optional textMap? members "metadata"
  let seconds ← member (Value.asNat? maxWord) members "lease_duration"
  let renewable ← member Value.asBool? members "renewable"
  let _ ← member Value.asBool? members "orphan"
  return ⟨⟨token⟩, Span.seconds seconds, renewable⟩

def loginToken? (body : String) : Option LoginToken := do
  let members ← envelope? body
  let data ← optional (fun _ => (none : Option Unit)) members "data"
  match data with
  | none => member auth? members "auth"
  | some _ => none

def lookupNames : List String :=
  ["accessor", "creation_time", "creation_ttl", "display_name", "entity_id", "expire_time",
    "explicit_max_ttl", "id", "identity_policies", "issue_time", "meta", "num_uses", "orphan",
    "path", "policies", "renewable", "ttl"]

def lookupData? (v : Value) : Option TokenLookup := do
  let members ← v.members? lookupNames
  let _ ← ["accessor", "display_name", "entity_id", "id", "issue_time", "path"].mapM
    (member Value.asText? members)
  let _ ← ["creation_time", "creation_ttl", "explicit_max_ttl", "num_uses"].mapM
    (member (Value.asNat? maxWord) members)
  let _ ← optional Value.asText? members "expire_time"
  let _ ← optional texts? members "identity_policies"
  let _ ← optional textMap? members "meta"
  let _ ← member Value.asBool? members "orphan"
  let _ ← member texts? members "policies"
  let seconds ← member (Value.asNat? maxWord) members "ttl"
  let renewable ← member Value.asBool? members "renewable"
  return ⟨Span.seconds seconds, renewable⟩

def tokenLookup? (body : String) : Option TokenLookup := do
  let members ← envelope? body
  member lookupData? members "data"

/-! ### Calls -/

variable {m : Type → Type} [Monad m] (send : Transport m) (e : Endpoint)

def renewSelf (token : Hidden) : m (Attempt LoginToken) :=
  askAboutToken send e (some token) .post "auth/token/renew-self" none loginToken?

def lookUpSelf (token : Hidden) : m (Attempt TokenLookup) :=
  askAboutToken send e (some token) .get "auth/token/lookup-self" none tokenLookup?

def revokeSelf (token : Hidden) : m (Attempt Unit) :=
  askAboutToken send e (some token) .post "auth/token/revoke-self" none fun _ => some ()

def logIn : Login → m (Attempt LoginToken)
  | .staticToken token => pure (.ended (.ok (.of token)))
  | .approle mount roleId secretId =>
    let body := Value.record [("role_id", .text roleId), ("secret_id", .text secretId.exposed)]
    askAboutToken send e none .post ("auth/" ++ mount ++ "/login") (some body) loginToken?

def Attempt.reply {α : Type} (make : Except Fault α → TokenReply) : Attempt α → Option TokenReply
  | .ended result => some (make result)
  | .broken => none

def answerCall (login : Login) : TokenCall → m (Option TokenReply)
  | .login => do return (← logIn send e login).reply .loggedIn
  | .renew token => do return (← renewSelf send e token).reply .renewed
  | .lookUp token => do return (← lookUpSelf send e token).reply .lookedUp
  | .revoke token => do return (← revokeSelf send e token).reply .revoked

end LeaseKeeper.Store

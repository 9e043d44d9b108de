import LeaseKeeper.Http.Exchange
import LeaseKeeper.Settings.Basic
import LeaseKeeper.Token
/-!
Where the store is, and reading and renewing leased secrets there. A path counts from its first
character that is not a slash.
-/
namespace LeaseKeeper.Store

open Http Json

structure Endpoint where
  address : String
  namespacePath : Option String
  timeoutSeconds : Nat
  ambientToken : Option Hidden
  unreadable : Option String
  deriving DecidableEq, Repr

namespace Endpoint

def ofSettings (settings : StoreSettings) : Except Fault Endpoint :=
  if settings.address.isEmpty then .error (.configError "Vault address cannot be empty")
  else .ok ⟨settings.address, settings.namespacePath, settings.timeoutSeconds, none, none⟩

def text (e : Endpoint) : String :=
  Text.labelled "VaultLeaseOperations" [("address", Text.quoted e.address),
    ("namespace", match e.namespacePath with
      | some path => "Some(" ++ Text.quoted path ++ ")"
      | none => "None")]

def base (e : Endpoint) : String :=
  String.ofList (e.address.toList.reverse.dropWhile (· == '/')).reverse

/-- What cannot be sent is reported like a failed connection. -/
def request (e : Endpoint) (token : Hidden) (method : Method) (path : String)
    (body : Option Value) : Except Fault Request :=
  let relative := String.ofList (path.toList.dropWhile (· == '/'))
  match Url.parse? (e.base ++ "/v1/" ++ relative) with
  | none => .error (.connectionFailed "builder error")
  | some url =>
    if !isHeaderText token.exposed || !(e.namespacePath.all isHeaderText) then
      .error (.connectionFailed "builder error")
    else if !url.isHttp || !url.isRequestable then
      .error (.connectionFailed ("builder error for url (" ++ url.text ++ ")"))
    else .ok ⟨method, url, some token.exposed, e.namespacePath, body, some e.timeoutSeconds⟩

end Endpoint

/-! ### Answers -/

def unreachable (request : Request) : Fault :=
  .connectionFailed ("error sending request for url (" ++ request.url.text ++ ")")

def undecodable (request : Request) : Fault :=
  .internal ("Malformed response from Vault: error decoding response body for url (" ++
    request.url.text ++ ")")

def exchange {m : Type → Type} [Monad m] {α : Type} (send : Transport m)
    (request : Except Fault Request) (read : Request → Answer → Except Fault α) :
    m (Except Fault α) :=
  match request with
  | .error fault => pure (.error fault)
  | .ok request => do
    match ← send request with
    | .unreachable => return .error (unreachable request)
    | .answered answer => return read request answer

/-- The store's own words for what went wrong, if it has any that can be read. -/
def errorsOf (body : String) : List String :=
  let shape : Reader.Shape := .record [("errors", .any)]
  match readShaped shape body with
  | .error _ => []
  | .ok v =>
    ((v.members? ["errors"]).bind fun members =>
      memberOr (Value.asList? Value.asText?) [] members "errors").getD []

def accepted (path : String) (answer : Answer) : Except Fault String :=
  if 200 ≤ answer.status ∧ answer.status ≤ 299 then .ok answer.body
  else
    let errors := errorsOf answer.body
    let message := if errors.isEmpty then statusText answer.status else "; ".intercalate errors
    if answer.status = 404 then .error (.notFound path)
    else if answer.status = 401 ∨ answer.status = 403 then .error (.authenticationFailed message)
    else .error (.backendError answer.status message)

/-! ### Secrets and their leases -/

variable {m : Type → Type} [Monad m] (send : Transport m) (e : Endpoint) (token : Hidden)

def fetch (path : String) : m (Except Fault Response) :=
  exchange send (e.request token .get path none) fun request answer => do
    let body ← accepted path answer
    match Response.read? body with
    | some response => .ok response
    | none => .error (undecodable request)

def renewPath : String := "sys/leases/renew"

def revokePath : String := "sys/leases/revoke"

/-- The lease in the answer to a renewal; without an id there is none. -/
def renewed? (body : String) : Option (Except Fault Lease) := do
  let names := ["lease_id", "lease_duration", "renewable"]
  let shape : Reader.Shape := .record (names.map (·, .any))
  let v ← (readShaped shape body).toOption
  let members ← v.members? names
  let id ← memberOr Value.asText? "" members "lease_id"
  let seconds ← memberOr (Value.asNat? maxWord) 0 members "lease_duration"
  let renewable ← memberOr Value.asBool? false members "renewable"
  return if id.isEmpty then .ok Lease.none else Lease.of id (Span.seconds seconds) renewable

def renew (lease : Lease) (increment : Option Nat) : m (Except Fault Lease) :=
  let body := Value.record (("lease_id", .text lease.id) ::
    increment.toList.map fun seconds => ("increment", .ofNat seconds))
  exchange send (e.request token .put renewPath (some body)) fun request answer => do
    let body ← accepted renewPath answer
    (renewed? body).getD (.error (undecodable request))

def revoke (lease : Lease) : m (Except Fault Unit) :=
  let body := Value.record [("lease_id", .text lease.id)]
  exchange send (e.request token .put revokePath (some body)) fun _ answer => do
    let _ ← accepted revokePath answer
    .ok ()

end LeaseKeeper.Store

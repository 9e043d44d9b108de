import LeaseKeeper.Flatten
import LeaseKeeper.Lease
import LeaseKeeper.Json.Reader
/-!
The store's answer to a read: data with the terms of its lease. A wrapping token never leaves the
program in writing.
-/
namespace LeaseKeeper

open Json

def redacted : String := "[REDACTED]"

structure WrapInfo where
  token : Option String
  ttl : Nat
  creationTime : Option String
  creationPath : Option String
  deriving DecidableEq, Repr

structure Response where
  requestId : String
  leaseId : String
  leaseDuration : Nat
  renewable : Bool
  data : Option Value
  warnings : Option (List String)
  wrapInfo : Option WrapInfo
  deriving DecidableEq, Repr

def memberOr {α : Type} (read : Value → Option α) (default : α) (members : List (String × Value))
    (name : String) : Option α :=
  match members.lookup name with
  | none => some default
  | some v => read v

namespace WrapInfo

def names : List String := ["token", "ttl", "creation_time", "creation_path"]

def ofValue? (v : Value) : Option WrapInfo := do
  let members ← v.members? names
  let token ← memberOr (Value.asOption? Value.asText?) none members "token"
  let ttl ← memberOr (Value.asNat? maxWord) 0 members "ttl"
  let creationTime ← memberOr (Value.asOption? Value.asText?) none members "creation_time"
  let creationPath ← memberOr (Value.asOption? Value.asText?) none members "creation_path"
  return ⟨token, ttl, creationTime, creationPath⟩

def toValue (info : WrapInfo) : Value :=
  .ofFields [("token", .ofOption (fun _ => .text redacted) info.token), ("ttl", .ofNat info.ttl),
    ("creation_time", .ofOption .text info.creationTime),
    ("creation_path", .ofOption .text info.creationPath)]

def redact (info : WrapInfo) : WrapInfo := { info with token := info.token.map fun _ => redacted }

end WrapInfo

namespace Response

def names : List String :=
  ["request_id", "lease_id", "lease_duration", "renewable", "data", "warnings", "wrap_info"]

def shape : Reader.Shape :=
  .record [("request_id", .any), ("lease_id", .any), ("lease_duration", .any), ("renewable", .any),
    ("data", .any), ("warnings", .any), ("wrap_info", .record (WrapInfo.names.map (·, .any)))]

def ofValue? (v : Value) : Option Response := do
  let members ← v.members? names
  let requestId ← memberOr Value.asText? "" members "request_id"
  let leaseId ← memberOr Value.asText? "" members "lease_id"
  let leaseDuration ← memberOr (Value.asNat? maxWord) 0 members "lease_duration"
  let renewable ← memberOr Value.asBool? false members "renewable"
  let data ← memberOr (Value.asOption? some) none members "data"
  let warnings ← memberOr (Value.asOption? (Value.asList? Value.asText?)) none members "warnings"
  let wrapInfo ← memberOr (Value.asOption? WrapInfo.ofValue?) none members "wrap_info"
  return ⟨requestId, leaseId, leaseDuration, renewable, data, warnings, wrapInfo⟩

def read? (source : String) : Option Response :=
  match readShaped shape source with
  | .ok v => ofValue? v
  | .error _ => none

def toValue (r : Response) : Value :=
  .ofFields [("request_id", .text r.requestId), ("lease_id", .text r.leaseId),
    ("lease_duration", .ofNat r.leaseDuration), ("renewable", .bool r.renewable),
    ("data", .ofOption id r.data), ("warnings", .ofOption .texts r.warnings),
    ("wrap_info", .ofOption WrapInfo.toValue r.wrapInfo)]

def redact (r : Response) : Response := { r with wrapInfo := r.wrapInfo.map WrapInfo.redact }

def flattened (r : Response) : TextMap String :=
  match r.data with
  | some data => Flatten.flatten data
  | none => []

/-- The lease of an answer. One without an id is a time to live only. -/
def lease (r : Response) : Lease :=
  if r.leaseId.isEmpty then ⟨"", r.leaseDuration, false⟩
  else ⟨r.leaseId, r.leaseDuration, r.renewable⟩

end Response
end LeaseKeeper

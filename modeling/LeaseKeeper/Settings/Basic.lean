import LeaseKeeper.Json.Reader
import LeaseKeeper.Policy
/-!
The program's settings and their JSON form, from which credentials are left out in writing.
-/
namespace LeaseKeeper

open Json

structure AppRole where
  roleId : String
  secretId : String
  mount : String
  deriving DecidableEq, Repr, Inhabited

structure StoreSettings where
  address : String
  token : Option String
  namespacePath : Option String
  approle : Option AppRole
  timeoutSeconds : Nat
  deriving DecidableEq, Repr, Inhabited

structure LeaseTimes where
  floorSeconds : Nat
  thresholdSeconds : Nat
  strategy : Strategy
  deriving DecidableEq, Repr, Inhabited

structure SessionTimes where
  leadSeconds : Nat
  thresholdSeconds : Nat
  deriving DecidableEq, Repr, Inhabited

structure Reporting where
  metricsOn : Bool
  metricsPort : Nat
  serviceName : String
  logLevel : String
  jsonLogging : Bool
  deriving DecidableEq, Repr, Inhabited

structure Settings where
  store : StoreSettings
  lease : LeaseTimes
  session : SessionTimes
  reporting : Reporting
  deriving DecidableEq, Repr, Inhabited

def defaultMount : String := "approle"

def StoreSettings.default : StoreSettings := ⟨"http://127.0.0.1:8200", none, none, none, 30⟩

def LeaseTimes.default : LeaseTimes := ⟨10, 60, .dropOnError⟩

def SessionTimes.default : SessionTimes := ⟨5, 7⟩

def Reporting.default : Reporting := ⟨false, 9090, "vault-lease", "info", false⟩

def LeaseTimes.policy (times : LeaseTimes) : LeasePolicy :=
  ⟨Span.seconds times.floorSeconds, Span.seconds times.thresholdSeconds, times.strategy⟩

def SessionTimes.policy (times : SessionTimes) : SessionPolicy :=
  ⟨Span.seconds times.leadSeconds, Span.seconds times.thresholdSeconds⟩

/-- Where metrics are served; port zero serves none. -/
def Reporting.bindAddress (reporting : Reporting) : Option String :=
  if reporting.metricsPort = 0 then none else some ("0.0.0.0:" ++ toString reporting.metricsPort)

def Reporting.servesMetrics (reporting : Reporting) : Bool :=
  reporting.metricsOn && reporting.bindAddress.isSome

/-! ### JSON form -/

def member {α : Type} (read : Value → Option α) (members : List (String × Value)) (name : String) :
    Option α :=
  (members.lookup name).bind read

def optional {α : Type} (read : Value → Option α) (members : List (String × Value))
    (name : String) : Option (Option α) :=
  match members.lookup name with
  | none => some none
  | some v => v.asOption? read

/-- The bare name, or an object with the name as its one key and null under it. -/
def Strategy.ofValue? : Value → Option Strategy
  | .text s => ofLongText? s
  | .record [(s, .null)] => ofLongText? s
  | _ => none

namespace AppRole

def names : List String := ["role_id", "secret_id", "mount"]

def ofValue? (v : Value) : Option AppRole := do
  let members ← v.members? names
  let roleId ← member Value.asText? members "role_id"
  let secretId ← member Value.asText? members "secret_id"
  let mount ← match members.lookup "mount" with
    | none => some defaultMount
    | some v => v.asText?
  return ⟨roleId, secretId, mount⟩

def toValue (approle : AppRole) : Value :=
  .record [("role_id", .text approle.roleId), ("mount", .text approle.mount)]

end AppRole

namespace StoreSettings

def names : List String :=
  ["address", "token", "namespace", "approle", "request_timeout_seconds"]

def ofValue? (v : Value) : Option StoreSettings := do
  let members ← v.members? names
  let address ← member Value.asText? members "address"
  let token ← optional Value.asText? members "token"
  let namespacePath ← optional Value.asText? members "namespace"
  let approle ← optional AppRole.ofValue? members "approle"
  let timeoutSeconds ← member (Value.asNat? maxWord) members "request_timeout_seconds"
  return ⟨address, token, namespacePath, approle, timeoutSeconds⟩

def toValue (store : StoreSettings) : Value :=
  .record [("address", .text store.address), ("namespace", .ofOption .text store.namespacePath),
    ("approle", .ofOption AppRole.toValue store.approle),
    ("request_timeout_seconds", .ofNat store.timeoutSeconds)]

end StoreSettings

namespace LeaseTimes

def names : List String := ["min_renewal_seconds", "expiry_threshold_seconds", "strategy"]

def ofValue? (v : Value) : Option LeaseTimes := do
  let members ← v.members? names
  let floorSeconds ← member (Value.asNat? maxWord) members "min_renewal_seconds"
  let thresholdSeconds ← member (Value.asNat? maxWord) members "expiry_threshold_seconds"
  let strategy ← member Strategy.ofValue? members "strategy"
  return ⟨floorSeconds, thresholdSeconds, strategy⟩

def toValue (times : LeaseTimes) : Value :=
  .record [("min_renewal_seconds", .ofNat times.floorSeconds),
    ("expiry_threshold_seconds", .ofNat times.thresholdSeconds),
    ("strategy", .text times.strategy.longText)]

end LeaseTimes

namespace SessionTimes

def names : List String := ["refresh_before_expiry_seconds", "expiry_threshold_seconds"]

def ofValue? (v : Value) : Option SessionTimes := do
  let members ← v.members? names
  let leadSeconds ← member (Value.asNat? maxWord) members "refresh_before_expiry_seconds"
  let thresholdSeconds ← member (Value.asNat? maxWord) members "expiry_threshold_seconds"
  return ⟨leadSeconds, thresholdSeconds⟩

def toValue (times : SessionTimes) : Value :=
  .record [("refresh_before_expiry_seconds", .ofNat times.leadSeconds),
    ("expiry_threshold_seconds", .ofNat times.thresholdSeconds)]

end SessionTimes

namespace Reporting

def names : List String :=
  ["enable_metrics", "metrics_port", "service_name", "log_level", "json_logging"]

def ofValue? (v : Value) : Option Reporting := do
  let members ← v.members? names
  let metricsOn ← member Value.asBool? members "enable_metrics"
  let metricsPort ← member (Value.asNat? 65535) members "metrics_port"
  let serviceName ← member Value.asText? members "service_name"
  let logLevel ← member Value.asText? members "log_level"
  let jsonLogging ← member Value.asBool? members "json_logging"
  return ⟨metricsOn, metricsPort, serviceName, logLevel, jsonLogging⟩

def toValue (reporting : Reporting) : Value :=
  .record [("enable_metrics", .bool reporting.metricsOn),
    ("metrics_port", .ofNat reporting.metricsPort), ("service_name", .text reporting.serviceName),
    ("log_level", .text reporting.logLevel), ("json_logging", .bool reporting.jsonLogging)]

end Reporting

namespace Settings

def names : List String := ["vault", "lease", "session", "observability"]

def flat (names : List String) : Reader.Shape := .record (names.map (·, .any))

def shape : Reader.Shape :=
  .record [("vault", .record (StoreSettings.names.map fun name =>
      (name, if name = "approle" then flat AppRole.names else .any))),
    ("lease", flat LeaseTimes.names), ("session", flat SessionTimes.names),
    ("observability", flat Reporting.names)]

def ofValue? (v : Value) : Option Settings := do
  let members ← v.members? names
  let store ← member StoreSettings.ofValue? members "vault"
  let lease ← member LeaseTimes.ofValue? members "lease"
  let session ← member SessionTimes.ofValue? members "session"
  let reporting ← member Reporting.ofValue? members "observability"
  return ⟨store, lease, session, reporting⟩

def read? (source : String) : Option Settings :=
  match readShaped shape source with
  | .ok v => ofValue? v
  | .error _ => none

def toValue (s : Settings) : Value :=
  .record [("vault", s.store.toValue), ("lease", s.lease.toValue),
    ("session", s.session.toValue), ("observability", s.reporting.toValue)]

end Settings
end LeaseKeeper

import LeaseKeeper.Settings.Basic
/-!
Settings from named variables. An empty variable counts as unset, and a number or a strategy that
cannot be read leaves the default.
-/
namespace LeaseKeeper

abbrev Variables := String → Option String

namespace Variables

def first (vars : Variables) (names : List String) : Option String :=
  (names.filterMap vars).find? fun value => !value.isEmpty

def readOr {α : Type} (vars : Variables) (name : String) (read : String → Option α) (default : α) :
    α :=
  ((vars name).bind read).getD default

/-- Set to `1` or, in any case, `true`. -/
def flagOr (vars : Variables) (name : String) (default : Bool) : Bool :=
  match vars name with
  | none => default
  | some s => Strategy.lowerAscii s == "true" || s == "1"

def digits? (limit : Nat) : Nat → List Char → Option Nat
  | value, [] => some value
  | value, c :: cs =>
    if c.isDigit then
      let next := value * 10 + (c.toNat - '0'.toNat)
      if next ≤ limit then digits? limit next cs else none
    else none

/-- Decimal digits with at most a plus sign before them, up to `limit`. -/
def nat? (limit : Nat) (s : String) : Option Nat :=
  match s.toList with
  | [] => none
  | ['+'] => none
  | '+' :: cs => digits? limit 0 cs
  | cs => digits? limit 0 cs

end Variables

namespace Settings

open Variables

def certificateVariable : String := "VAULT_CACERT"

def variableNames : List String := [
  "VAULT_ADDR", "VAULT_TOKEN", "VAULT_NAMESPACE",
  "VAULT_LEASE_VAULT_ADDR", "VAULT_LEASE_VAULT_TOKEN", "VAULT_LEASE_VAULT_NAMESPACE",
  "VAULT_LEASE_APPROLE_ROLE_ID", "VAULT_LEASE_APPROLE_SECRET_ID", "VAULT_LEASE_APPROLE_MOUNT",
  "VAULT_LEASE_VAULT_TIMEOUT_SECONDS",
  "VAULT_LEASE_MIN_RENEWAL_SECONDS", "VAULT_LEASE_EXPIRY_THRESHOLD_SECONDS",
  "VAULT_LEASE_STRATEGY",
  "VAULT_LEASE_SESSION_REFRESH_BEFORE_EXPIRY_SECONDS",
  "VAULT_LEASE_SESSION_EXPIRY_THRESHOLD_SECONDS",
  "VAULT_LEASE_ENABLE_METRICS", "VAULT_LEASE_METRICS_PORT", "VAULT_LEASE_SERVICE_NAME",
  "VAULT_LEASE_LOG_LEVEL", "VAULT_LEASE_JSON_LOGGING", certificateVariable]

def approleOfVariables (vars : Variables) : Option AppRole :=
  match vars.first ["VAULT_LEASE_APPROLE_ROLE_ID"],
    vars.first ["VAULT_LEASE_APPROLE_SECRET_ID"] with
  | some roleId, some secretId =>
    some ⟨roleId, secretId, (vars.first ["VAULT_LEASE_APPROLE_MOUNT"]).getD defaultMount⟩
  | _, _ => none

def storeOfVariables (vars : Variables) : StoreSettings where
  address :=
    (vars.first ["VAULT_LEASE_VAULT_ADDR", "VAULT_ADDR"]).getD StoreSettings.default.address
  token := vars.first ["VAULT_LEASE_VAULT_TOKEN", "VAULT_TOKEN"]
  namespacePath := vars.first ["VAULT_LEASE_VAULT_NAMESPACE", "VAULT_NAMESPACE"]
  approle := approleOfVariables vars
  timeoutSeconds :=
    vars.readOr "VAULT_LEASE_VAULT_TIMEOUT_SECONDS" (nat? Json.maxWord)
      StoreSettings.default.timeoutSeconds

def leaseOfVariables (vars : Variables) : LeaseTimes where
  floorSeconds :=
    vars.readOr "VAULT_LEASE_MIN_RENEWAL_SECONDS" (nat? Json.maxWord)
      LeaseTimes.default.floorSeconds
  thresholdSeconds :=
    vars.readOr "VAULT_LEASE_EXPIRY_THRESHOLD_SECONDS" (nat? Json.maxWord)
      LeaseTimes.default.thresholdSeconds
  strategy := vars.readOr "VAULT_LEASE_STRATEGY" Strategy.ofText? LeaseTimes.default.strategy

def sessionOfVariables (vars : Variables) : SessionTimes where
  leadSeconds :=
    vars.readOr "VAULT_LEASE_SESSION_REFRESH_BEFORE_EXPIRY_SECONDS" (nat? Json.maxWord)
      SessionTimes.default.leadSeconds
  thresholdSeconds :=
    vars.readOr "VAULT_LEASE_SESSION_EXPIRY_THRESHOLD_SECONDS" (nat? Json.maxWord)
      SessionTimes.default.thresholdSeconds

def reportingOfVariables (vars : Variables) : Reporting where
  metricsOn := vars.flagOr "VAULT_LEASE_ENABLE_METRICS" Reporting.default.metricsOn
  metricsPort := vars.readOr "VAULT_LEASE_METRICS_PORT" (nat? 65535) Reporting.default.metricsPort
  serviceName := (vars.first ["VAULT_LEASE_SERVICE_NAME"]).getD Reporting.default.serviceName
  logLevel := (vars.first ["VAULT_LEASE_LOG_LEVEL"]).getD Reporting.default.logLevel
  jsonLogging := vars.flagOr "VAULT_LEASE_JSON_LOGGING" Reporting.default.jsonLogging

def ofVariables (vars : Variables) : Settings where
  store := storeOfVariables vars
  lease := leaseOfVariables vars
  session := sessionOfVariables vars
  reporting := reportingOfVariables vars

end Settings
end LeaseKeeper

import LeaseKeeper.Settings.Basic
import LeaseKeeper.SetupError
/-!
Which settings the program runs with. Rules for single fields are reported together; rules that
join fields are looked at only when all of those hold, and the first broken one is reported.
-/
namespace LeaseKeeper.Settings

def fieldRule (name : String) (holds : Bool) (message : String) : List (String × Findings) :=
  if holds then [] else [(name, .messages [some message])]

/-- A nested structure appears only with a finding in it. -/
def nestedRule (name : String) (entries : List (String × Findings)) : List (String × Findings) :=
  if entries.isEmpty then [] else [(name, .fields entries)]

def within (low high n : Nat) : Bool := low ≤ n && n ≤ high

def approleFindings (approle : AppRole) : List (String × Findings) :=
  fieldRule "role_id" (!approle.roleId.isEmpty) "AppRole role_id cannot be empty" ++
  fieldRule "secret_id" (!approle.secretId.isEmpty) "AppRole secret_id cannot be empty"

def storeFindings (store : StoreSettings) : List (String × Findings) :=
  fieldRule "address" (!store.address.isEmpty) "Vault address cannot be empty" ++
  nestedRule "approle" ((store.approle.map approleFindings).getD []) ++
  fieldRule "request_timeout_seconds" (within 1 300 store.timeoutSeconds)
    "Vault request timeout must be between 1 and 300 seconds"

def leaseFindings (times : LeaseTimes) : List (String × Findings) :=
  fieldRule "min_renewal_seconds" (within 1 3600 times.floorSeconds)
    "Minimum renewal must be between 1 and 3600 seconds" ++
  fieldRule "expiry_threshold_seconds" (within 0 86400 times.thresholdSeconds)
    "Expiry threshold must be at most 86400 seconds"

def sessionFindings (times : SessionTimes) : List (String × Findings) :=
  fieldRule "refresh_before_expiry_seconds" (within 0 3600 times.leadSeconds)
    "Refresh lead time must be at most 3600 seconds" ++
  fieldRule "expiry_threshold_seconds" (within 1 3600 times.thresholdSeconds)
    "Token expiry threshold must be between 1 and 3600 seconds"

def reportingFindings (reporting : Reporting) : List (String × Findings) :=
  fieldRule "service_name" (!reporting.serviceName.isEmpty) "Service name cannot be empty" ++
  fieldRule "log_level" (!reporting.logLevel.isEmpty) "Log level cannot be empty"

def findings (s : Settings) : List (String × Findings) :=
  nestedRule "vault" (storeFindings s.store) ++
  nestedRule "lease" (leaseFindings s.lease) ++
  nestedRule "session" (sessionFindings s.session) ++
  nestedRule "observability" (reportingFindings s.reporting)

def hasScheme (address : String) : Bool :=
  address.startsWith "http://" || address.startsWith "https://"

def hasToken (store : StoreSettings) : Bool :=
  match store.token with
  | some token => !token.isEmpty
  | none => false

def jointError? (s : Settings) : Option SetupError :=
  if !hasScheme s.store.address then
    some (.validation "Vault address must start with 'http://' or 'https://'"
      (some "vault.address"))
  else if !hasToken s.store && s.store.approle.isNone then
    some (.validation
      "No Vault authentication configured: set VAULT_LEASE_VAULT_TOKEN or AppRole credentials" none)
  else if s.session.thresholdSeconds ≤ s.session.leadSeconds then
    some (.validation "Session refresh_before_expiry must be shorter than expiry_threshold"
      (some "session.refresh_before_expiry_seconds"))
  else none

def validate (s : Settings) : Except SetupError Unit :=
  if !(findings s).isEmpty then .error (Findings.error (findings s))
  else match jointError? s with
    | some e => .error e
    | none => .ok ()

end LeaseKeeper.Settings

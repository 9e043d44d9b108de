import LeaseKeeper.Secret
/-!
What the program counts, and how many leases are alive.
-/
namespace LeaseKeeper

inductive Measure where
  | renewal (mode : Mode) (ok : Bool)
  | revocation (ok : Bool)
  | rotation (ok : Bool)
  | login (method : String) (ok : Bool)
  | refresh (ok : Bool)
  | activeLeases
  deriving DecidableEq, Repr

namespace Measure

def status (ok : Bool) : String × String := ("status", if ok then "success" else "error")

def name : Measure → String
  | renewal _ true => "vault_lease_renewals_total"
  | renewal _ false => "vault_lease_renewal_failures_total"
  | revocation _ => "vault_lease_revocations_total"
  | rotation _ => "vault_lease_rotations_total"
  | login _ _ => "vault_session_logins_total"
  | refresh _ => "vault_session_refreshes_total"
  | activeLeases => "vault_leases_active"

def labels : Measure → List (String × String)
  | renewal mode _ => [("mode", mode.text)]
  | revocation ok | rotation ok | refresh ok => [status ok]
  | login method ok => [("method", method), status ok]
  | activeLeases => []

def text (m : Measure) : String :=
  match m.labels with
  | [] => m.name
  | labels => m.name ++ "\x7b" ++ ",".intercalate (labels.map fun (k, v) => k ++ "=" ++ v) ++ "\x7d"

end Measure

/-- A count, or for `activeLeases` the level last set, of everything measured so far. -/
abbrev Metrics := List (Measure × Nat)

namespace Metrics

def count (metrics : Metrics) (m : Measure) : Metrics :=
  match metrics with
  | [] => [(m, 1)]
  | (k, n) :: rest => if k = m then (k, n + 1) :: rest else (k, n) :: count rest m

def set (metrics : Metrics) (m : Measure) (level : Nat) : Metrics :=
  match metrics with
  | [] => [(m, level)]
  | (k, n) :: rest => if k = m then (k, level) :: rest else (k, n) :: set rest m level

/-! ### The page that is served -/

def families : List (String × String × String) := [
  ("vault_lease_renewals_total", "counter", "Successful lease renewals by renewal mode"),
  ("vault_lease_renewal_failures_total", "counter", "Failed lease renewals by renewal mode"),
  ("vault_lease_revocations_total", "counter", "Lease revocations by outcome"),
  ("vault_lease_rotations_total", "counter", "Rotating secrets fetched again before expiry"),
  ("vault_session_logins_total", "counter", "Logins by authentication method and outcome"),
  ("vault_session_refreshes_total", "counter",
    "Background session token refreshes by outcome"),
  ("vault_leases_active", "gauge", "Lineages currently holding a lease")]

def labelText (label : String × String) : String :=
  let escaped := label.2.toList.flatMap fun c =>
    if c = '\n' then ['\\', 'n'] else if c = '"' ∨ c = '\\' then ['\\', c] else [c]
  label.1 ++ "=\"" ++ String.ofList escaped ++ "\""

/-- The number of active leases is served from the start. -/
def served (metrics : Metrics) : Metrics :=
  if metrics.any (·.1 == .activeLeases) then metrics else metrics.set .activeLeases 0

def page (metrics : Metrics) (service : String) : String :=
  String.join (families.map fun (name, kind, meaning) =>
    let lines := (metrics.served.filter fun (m, _) => m.name == name).map fun (m, n) =>
      name ++ "\x7b" ++ ",".intercalate ((("service", service) :: m.labels).map labelText) ++
        "\x7d " ++ toString n ++ "\n"
    if lines.isEmpty then ""
    else "# HELP " ++ name ++ " " ++ meaning ++ "\n# TYPE " ++ name ++ " " ++ kind ++ "\n" ++
      String.join lines ++ "\n")

end Metrics
end LeaseKeeper

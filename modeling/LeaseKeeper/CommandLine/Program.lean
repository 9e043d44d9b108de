import LeaseKeeper.About
import LeaseKeeper.CommandLine.Arguments
import LeaseKeeper.CommandLine.Watch
import LeaseKeeper.Settings.Validation
import LeaseKeeper.Settings.Variables
/-!
The program as a whole, in whatever world it runs: what it prints, what it complains about, and the
code it ends with.
-/
namespace LeaseKeeper.CommandLine

open Http Json Store

structure World (m : Type → Type) where
  vars : Variables
  canRead : String → m Bool
  send : Transport m
  serve : Nat → m Bool
  publish : String → m Unit
  wait : Option Nat → m (Option Nat)

structure Ending where
  exitCode : Nat
  output : String
  complaint : String
  deriving DecidableEq, Repr

namespace Ending

def success (output : String) : Ending := ⟨0, output, ""⟩

def causesText (causes : List String) : String :=
  match causes with
  | [] => ""
  | [cause] => "\n\nCaused by:\n    " ++ cause
  | _ => "\n\nCaused by:" ++ String.join (causes.zipIdx.map fun (cause, i) =>
      "\n    " ++ toString i ++ ": " ++ cause)

def failure (message : String) (causes : List String) : Ending :=
  ⟨1, "", "Error: " ++ message ++ causesText causes ++ "\n"⟩

def ofFault (context : String) (fault : Fault) : Ending :=
  failure context (fault.message :: fault.cause.toList)

def ofSetupError (context : String) (e : SetupError) : Ending :=
  failure context (e.message :: e.cause.toList)

def broken : Ending := ⟨101, "", "the store cannot be called\n"⟩

/-- What is left of an ending where a client may have been broken on the way to it. -/
def after (client : Client) (ending : Ending) : Ending :=
  if client.broken then { broken with output := ending.output } else ending

end Ending

def help : String :=
  "Keeps HashiCorp Vault secret leases renewed\n\n" ++
  "Usage: vault-lease [OPTIONS] <COMMAND>\n\n" ++
  "Commands:\n" ++
  "  watch   Lease secrets and keep them renewed until interrupted\n" ++
  "  read    Fetch a secret once and print its lease and property names\n" ++
  "  config  Print the resolved configuration (credentials omitted)\n" ++
  "  help    Print this message or the help of the given subcommand(s)\n\n" ++
  "Options:\n" ++
  "      --vault-addr <VAULT_ADDR>  Vault address override\n" ++
  "  -v, --verbose                  Enable verbose logging\n" ++
  "  -h, --help                     Print help\n" ++
  "  -V, --version                  Print version\n"

namespace UsageError

def text : UsageError → String
  | helpWanted | helpForNothing => help
  | versionWanted => About.name ++ " " ++ About.version ++ "\n"
  | unknownSubcommand => "error: unrecognized subcommand\n"
  | missingSubcommand => "error: a subcommand is required\n"
  | unknownArgument => "error: unexpected argument\n"
  | missingArgument => "error: a required argument was not provided\n"
  | missingValue => "error: a value is required\n"
  | surplusValue => "error: unexpected value\n"
  | repeated => "error: an argument cannot be used multiple times\n"

def ending (e : UsageError) : Ending :=
  if e.exitCode = 0 then .success e.text else ⟨e.exitCode, "", e.text⟩

end UsageError

def settingsOf (vars : Variables) (invocation : Invocation) : Settings :=
  let s := Settings.ofVariables vars
  let s := match invocation.storeAddress with
    | some address => { s with store := { s.store with address } }
    | none => s
  if invocation.verbose then { s with reporting := { s.reporting with logLevel := "debug" } } else s

def readOutput (path : String) (response : Response) : Value :=
  let lease := response.lease
  .record [("path", .text path), ("lease_id", .text lease.id),
    ("lease_duration_secs", .ofNat lease.seconds), ("renewable", .bool lease.renewable),
    ("keys", .texts response.flattened.keys)]

/-- The secrets to watch: those to be renewed, then those to be rotated. -/
def requested (renewable rotating : List String) : List Secret :=
  renewable.map (Secret.of · .renew) ++ rotating.map (Secret.of · .rotate)

variable {m : Type → Type} [Monad m] (world : World m)

def unreadable : m (Option String) :=
  match world.vars Settings.certificateVariable with
  | none => return none
  | some path => do return if ← world.canRead path then none else some path

def connect (s : Settings) : m (Except Ending Client) :=
  match s.validate with
  | .error e => return .error (.ofSetupError "Invalid configuration" e)
  | .ok _ =>
    match Login.ofSettings s.store, Endpoint.ofSettings s.store with
    | none, _ => return .error (.failure "No Vault authentication configured" [])
    | some _, .error fault => return .error (.failure fault.message fault.cause.toList)
    | some login, .ok endpoint => do
      let ambientToken : Option Hidden := (world.vars "VAULT_TOKEN").map fun token => ⟨token⟩
      let endpoint := { endpoint with ambientToken, unreadable := ← unreadable world }
      return .ok (.new endpoint login s.session.policy)

def runRead (s : Settings) (path : String) (revokes : Bool) : m Ending := do
  match ← connect world s with
  | .error ending => return ending
  | .ok client =>
    let (client, token) ← client.token world.send
    if client.broken then return .broken
    let result ← match token with
      | .error fault => pure (.error fault)
      | .ok token => fetch world.send client.endpoint token path
    match result with
    | .error fault =>
      return .after (← client.leave world.send) (.ofFault ("Failed to read " ++ path) fault)
    | .ok response =>
      let lease := response.lease
      let client ← if revokes && lease.hasId then do
          let (client, token) ← client.token world.send
          if let .ok token := token then
            let _ ← revoke world.send client.endpoint token lease
          pure client
        else pure client
      return .after (← client.leave world.send)
        (.success ((readOutput path response).pretty ++ "\n"))

def rest (reporting : Reporting) (watch : Watch) : m (Option Nat) := do
  if reporting.servesMetrics then
    world.publish ((watch.keeper.metrics ++ watch.client.session.metrics).page
      reporting.serviceName)
  world.wait watch.due?

def runWatch (s : Settings) (secrets : List Secret) (failFast : Bool) (start : String) :
    m Ending := do
  if secrets.isEmpty then
    return .failure "Nothing to watch: pass at least one --renewable or --rotating path" []
  match ← connect world s with
  | .error ending => return ending
  | .ok client =>
    let (watch, fault) ← (Watch.new client s.lease.policy).bindAll world.send failFast start secrets
    if watch.client.broken then return .broken
    match fault with
    | some fault =>
      return .after (← watch.leave world.send).client (.ofFault "Initial secret fetch failed" fault)
    | none =>
      let watch ← watch.linger world.send (rest world s.reporting) Timeline.ample
      return .after (← watch.closeSources.leave world.send).client (.success "")

def reportingFault (reporting : Reporting) : m (Option SetupError) := do
  if !reporting.servesMetrics then return none
  if ← world.serve reporting.metricsPort then
    world.publish (Metrics.page [] reporting.serviceName)
    return none
  else
    return some (.config ("Failed to initialize metrics exporter: " ++
      "failed to create HTTP listener: Address already in use (os error 98)") none)

def run (words : List String) : m Ending :=
  match parse words with
  | .error e => return e.ending
  | .ok invocation => do
    let s := settingsOf world.vars invocation
    match ← reportingFault world s.reporting with
    | some e => return .ofSetupError "Failed to initialize observability" e
    | none =>
      match invocation.command with
      | .config => return .success (s.toValue.pretty ++ "\n")
      | .read path revokes => runRead world s path revokes
      | .watch renewable rotating failFast start =>
        runWatch world s (requested renewable rotating) failFast (start.getD "")

end LeaseKeeper.CommandLine

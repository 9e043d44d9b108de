import LeaseKeeper.Scripted
import LeaseKeeper.Session.Step
import LeaseKeeper.Table
import LeaseKeeper.Timeline
/-!
A session played through against a scripted store on a clock that moves only when asked, or while a
request is waited for. Everything due is done before the next request.
-/
namespace LeaseKeeper

/-- A renewed token; without a token of its own it is the one that was renewed. -/
structure Renewed where
  token : Option Hidden
  ttl : Nat
  renewable : Bool

structure TokenScript where
  /-- Of these three lists the last answer repeats. -/
  logins : List (Scripted LoginToken)
  renewals : List (Scripted Renewed)
  lookups : List (Scripted TokenLookup)
  revocations : List (Scripted Unit)

namespace TokenScript

def missing {α : Type} : Scripted α := ⟨0, .error (.internal "no scripted outcome")⟩

def take (s : TokenScript) : TokenCall → TokenScript × Nat × TokenReply
  | .login =>
    let (next, logins) := Scripted.takeLasting missing s.logins
    ({ s with logins }, next.delay, .loggedIn next.result)
  | .renew token =>
    let (next, renewals) := Scripted.takeLasting missing s.renewals
    let result := next.result.map fun r => LoginToken.mk (r.token.getD token) r.ttl r.renewable
    ({ s with renewals }, next.delay, .renewed result)
  | .lookUp _ =>
    let (next, lookups) := Scripted.takeLasting missing s.lookups
    ({ s with lookups }, next.delay, .lookedUp next.result)
  | .revoke _ =>
    let (next, revocations) := Scripted.takeOnce ⟨0, .ok ()⟩ s.revocations
    ({ s with revocations }, next.delay, .revoked next.result)

end TokenScript

structure SessionRehearsal where
  session : Session
  script : TokenScript
  agenda : List (Nat × SessionEvent)
  ready : List SessionEvent
  seen : Nat
  returns : Table Nat (Nat × SessionAnswer)
  groups : List (List Nat)

namespace SessionRehearsal

def new (policy : SessionPolicy) (issuer : Issuer) (script : TokenScript) : SessionRehearsal :=
  ⟨.new policy issuer, script, [], [], 0, [], []⟩

def abandon (s : Session) (tickets : List Nat) : Session :=
  let isGone : Party → Bool
    | .reader ticket | .revoker ticket => tickets.contains ticket
    | .refresher _ => false
  let left := { s with queue := s.queue.filter (!isGone ·) }
  if s.turn.any fun turn => isGone turn.party then left.release else left

/-- A request that crashes takes those along that were made together with it. -/
def crash (r : SessionRehearsal) (ticket : Nat) : SessionRehearsal :=
  { r with session := abandon r.session (r.groups.filter (·.contains ticket)).flatten }

def absorbEntry (r : SessionRehearsal) (time : Nat) : SessionEntry → SessionRehearsal
  | .call call =>
    let (script, delay, reply) := r.script.take call
    if delay = 0 then { r with script, ready := r.ready ++ [.answer reply] }
    else { r with script, agenda := r.agenda ++ [(time + delay, .answer reply)] }
  | .armed generation due => { r with agenda := r.agenda ++ [(due, .fire generation)] }
  | .granted _ => { r with ready := r.ready ++ [.enter] }
  | .returned ticket answer =>
    let r := { r with returns := r.returns.put ticket (time, answer) }
    match answer with
    | .crashed => r.crash ticket
    | _ => r
  | .event _ => r

def absorb (r : SessionRehearsal) : SessionRehearsal :=
  let size := r.session.journal.length
  let fresh := (r.session.journal.take (size - r.seen)).reverse
  fresh.foldl (fun r (time, entry) => r.absorbEntry time entry) { r with seen := size }

def step (r : SessionRehearsal) (event : SessionEvent) : SessionRehearsal :=
  { r with session := r.session.step event }

def settle : (fuel : Nat) → SessionRehearsal → SessionRehearsal
  | 0, r => r
  | fuel + 1, r =>
    let r := r.absorb
    match r.ready with
    | [] => r
    | event :: ready => settle fuel ({ r with ready }.step event)

def sweep (r : SessionRehearsal) : SessionRehearsal :=
  (r.session.waits.map Prod.fst).foldl (fun r generation => r.step (.stop generation)) r

def act (r : SessionRehearsal) (event : SessionEvent) : SessionRehearsal :=
  ((r.step event).settle Timeline.ample).sweep

def moveTo (r : SessionRehearsal) (time : Nat) : SessionRehearsal :=
  r.step (.pass (time - r.session.now))

def next (r : SessionRehearsal) : Option (Timeline.Due SessionRehearsal) :=
  match Timeline.soonest r.agenda with
  | none => none
  | some (index, time) =>
    match r.agenda[index]? with
    | none => none
    | some (_, event) =>
      some ⟨time, fun _ => ({ r with agenda := r.agenda.eraseIdx index }.moveTo time).act event⟩

def catchUp (r : SessionRehearsal) : SessionRehearsal :=
  Timeline.runUntil next r.session.now Timeline.ample r

def pass (r : SessionRehearsal) (span : Nat) : SessionRehearsal :=
  let limit := r.session.now + span
  (Timeline.runUntil next limit Timeline.ample r).moveTo limit

def outcome? (r : SessionRehearsal) (tickets : List Nat) : Option (Nat × List SessionAnswer) :=
  let ends := tickets.filterMap r.returns.find?
  match ends.find? fun (_, answer) => answer matches .crashed with
  | some (time, answer) => some (time, [answer])
  | none =>
    if ends.length = tickets.length then
      some ((ends.map Prod.fst).foldl max 0, ends.map Prod.snd)
    else none

def await (tickets : List Nat) : (fuel : Nat) → SessionRehearsal → SessionRehearsal
  | 0, r => r
  | fuel + 1, r =>
    if (r.outcome? tickets).isSome then r
    else
      match r.next with
      | none => r
      | some due => await tickets fuel (due.run ())

/-- Makes the same request under several tickets, one after the other unless one has crashed. -/
def make (r : SessionRehearsal) (tickets : List Nat) (request : SessionRequest) :
    SessionRehearsal :=
  tickets.foldl (fun r ticket =>
    match r.outcome? tickets with
    | some (_, [.crashed]) => r
    | _ => r.act (.request ticket request)) { r with groups := tickets :: r.groups }

def spawn (r : SessionRehearsal) (tickets : List Nat) (request : SessionRequest) :
    SessionRehearsal :=
  (r.make tickets request).catchUp

def perform (r : SessionRehearsal) (tickets : List Nat) (request : SessionRequest) :
    SessionRehearsal :=
  (await tickets Timeline.ample (r.make tickets request)).catchUp

def listen (r : SessionRehearsal) : SessionRehearsal × Nat :=
  let s := r.session
  ({ r with session := { s with listeners := s.listeners.add () } }, s.listeners.issued)

def unlisten (r : SessionRehearsal) (id : Nat) : SessionRehearsal × Bool :=
  let s := r.session
  ({ r with session := { s with listeners := s.listeners.remove id } }, s.listeners.contains id)

def observers (r : SessionRehearsal) : Nat := r.session.listeners.size

end SessionRehearsal
end LeaseKeeper

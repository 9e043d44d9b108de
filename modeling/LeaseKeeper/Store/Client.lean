import LeaseKeeper.Session.Step
import LeaseKeeper.Store.Tokens
import LeaseKeeper.Table
import LeaseKeeper.Timeline
/-!
A session with the store over a transport. Calls are answered one after the other as the session
makes them, so that nothing is under way between two requests.
-/
namespace LeaseKeeper.Store

open Http

structure Client where
  endpoint : Endpoint
  login : Login
  session : Session
  seen : Nat
  alarms : List (Nat × Nat)
  answers : Table Nat SessionAnswer
  ticket : Nat
  broken : Bool

namespace Client

def new (endpoint : Endpoint) (login : Login) (policy : SessionPolicy) : Client :=
  ⟨endpoint, login, .new policy (.ofLogin login), 0, [], [], 0, false⟩

def step (c : Client) (event : SessionEvent) : Client := { c with session := c.session.step event }

variable {m : Type → Type} [Monad m] (send : Transport m)

def follow (c : Client) : Nat × SessionEntry → m Client
  | (_, .call call) => do
    match ← answerCall send c.endpoint c.login call with
    | some reply => return c.step (.answer reply)
    | none => return { c with broken := true }
  | (_, .granted _) => return c.step .enter
  | (_, .armed generation due) => return { c with alarms := c.alarms ++ [(due, generation)] }
  | (_, .returned ticket answer) => return { c with answers := c.answers.put ticket answer }
  | (_, .event _) => return c

def settle : (fuel : Nat) → Client → m Client
  | 0, c => return c
  | fuel + 1, c => do
    let size := c.session.journal.length
    if size = c.seen then return c
    let fresh := (c.session.journal.take (size - c.seen)).reverse
    settle fuel (← fresh.foldlM (follow send) { c with seen := size })

def ask (c : Client) (request : SessionRequest) : m Client :=
  settle send Timeline.ample
    { c.step (.request c.ticket request) with ticket := c.ticket + 1 }

def token (c : Client) : m (Client × Except Fault Hidden) := do
  let after ← ask send c .token
  match after.answers.find? c.ticket with
  | some (.token result) => return (after, result)
  | _ => return ({ after with broken := true }, .error (.internal "the session gave no token"))

def leave (c : Client) : m Client := ask send c .revoke

def moveTo (now : Nat) : (fuel : Nat) → Client → m Client
  | 0, c => return c
  | fuel + 1, c => do
    let c := c.step (.pass (now - c.session.now))
    match c.alarms.find? (·.1 ≤ now) with
    | none => return c
    | some (due, generation) =>
      let fired := { c with alarms := c.alarms.erase (due, generation) }.step (.fire generation)
      moveTo now fuel (← settle send Timeline.ample fired)

end Client
end LeaseKeeper.Store

import LeaseKeeper.Keeper.Step
import LeaseKeeper.Store.Client
/-!
A keeper at work on a store: every call it makes is answered over the transport with the session's
token, and its renewals happen when they are due.
-/
namespace LeaseKeeper.CommandLine

open Http Store

structure Watch where
  keeper : Keeper
  client : Client
  seen : Nat
  alarms : List (Nat × KeeperEvent)
  answers : Table Nat KeeperAnswer
  ticket : Nat

namespace Watch

def new (client : Client) (policy : LeasePolicy) : Watch := ⟨.new policy, client, 0, [], [], 0⟩

def step (w : Watch) (event : KeeperEvent) : Watch := { w with keeper := w.keeper.step event }

variable {m : Type → Type} [Monad m] (send : Transport m)

def reply (w : Watch) (secret : Secret) (errand : Errand) : m (Watch × Reply) := do
  let (client, token) ← w.client.token send
  let w := { w with client }
  let endpoint := client.endpoint
  match errand, token with
  | .fetch, .error fault => return (w, .fetched (.error fault))
  | .renew _, .error fault => return (w, .renewed (.error fault))
  | .revoke _ _, .error fault => return (w, .revoked (.error fault))
  | .fetch, .ok token => return (w, .fetched (← fetch send endpoint token secret.path))
  | .renew lease, .ok token =>
    return (w, .renewed (← renew send endpoint token lease (some lease.seconds)))
  | .revoke lease _, .ok token => return (w, .revoked (← revoke send endpoint token lease))

def follow (w : Watch) : Nat × Entry → m Watch
  | (_, .call secret purpose errand) => do
    let (w, reply) ← w.reply send secret errand
    return w.step (.answer secret purpose reply)
  | (_, .armed secret line generation due) =>
    return { w with alarms := w.alarms ++ [(due, .fire secret line generation)] }
  | (_, .returned ticket answer) => return { w with answers := w.answers.put ticket answer }
  | (_, .event _) => return w
  | (_, .fault _ _ _) => return w

/-- Answers every call, and those that follow from the answers, before the next fetch has its
turn. -/
def settle : (fuel : Nat) → Watch → m Watch
  | 0, w => return w
  | fuel + 1, w => do
    let size := w.keeper.journal.length
    if w.client.broken then return w
    if size = w.seen then
      match w.keeper.turn? with
      | none => return w
      | some event => settle fuel (w.step event)
    else
      let fresh := (w.keeper.journal.take (size - w.seen)).reverse
      settle fuel (← fresh.foldlM (follow send) { w with seen := size })

def perform (w : Watch) (operation : Operation) : m (Watch × Option KeeperAnswer) := do
  let after ← settle send Timeline.ample
    { w.step (.request w.ticket operation) with ticket := w.ticket + 1 }
  return (after, after.answers.find? w.ticket)

/-- Binds a source to each secret in turn, up to the first fault that is to be returned. -/
def bindAll (failFast : Bool) (start : String) : List Secret → Watch → m (Watch × Option Fault)
  | [], w => return (w, none)
  | secret :: rest, w => do
    match ← w.perform send (.bind secret failFast start) with
    | (w, some (.bound (.error fault))) => return (w, some fault)
    | (w, _) => if w.client.broken then return (w, none) else bindAll failFast start rest w

def leave (w : Watch) : m Watch := do
  let (w, _) ← w.perform send .destroy
  return { w with client := ← w.client.leave send }

def closeSources (w : Watch) : Watch :=
  (w.keeper.sources.map Prod.fst).foldl (fun w id => w.step (.closeSource id)) w

def due? (w : Watch) : Option Nat :=
  ((w.alarms.map Prod.fst) ++ (w.client.alarms.map Prod.fst)).min?

def moveTo (now : Nat) : (fuel : Nat) → Watch → m Watch
  | 0, w => return w
  | fuel + 1, w => do
    let w := { w with client := ← w.client.moveTo send now Timeline.ample }
    let w := w.step (.pass (now - w.keeper.now))
    match Timeline.soonest w.alarms with
    | none => return w
    | some (index, time) =>
      match w.alarms[index]? with
      | none => return w
      | some (_, event) =>
        if time ≤ now then
          let fired := { w with alarms := w.alarms.eraseIdx index }.step event
          moveTo now fuel (← settle send Timeline.ample fired)
        else return w

/-- Keeps going until `rest`, which waits for what is due next, has no time to give. -/
def linger (rest : Watch → m (Option Nat)) : (fuel : Nat) → Watch → m Watch
  | 0, w => return w
  | fuel + 1, w => do
    match ← rest w with
    | none => return w
    | some now => linger rest fuel (← w.moveTo send now Timeline.ample)

end Watch
end LeaseKeeper.CommandLine

import LeaseKeeper.Keeper.Step
import LeaseKeeper.Scripted
import LeaseKeeper.Timeline
/-!
A keeper played through against a scripted store on a clock that moves only when asked, or while an
operation is waited for. Everything due is done before the next request; of two things due at once
the one arranged first goes first.
-/
namespace LeaseKeeper

structure StoreScript where
  fetches : Table String (List (Scripted Response))
  /-- By lease id. When it runs out, a lease is extended by its own duration. -/
  renewals : Table String (List (Scripted Lease))
  revocations : Table String (List (Scripted Unit))

namespace StoreScript

def takeFetch (s : StoreScript) (path : String) : StoreScript × Scripted Response :=
  match s.fetches.find? path with
  | none => (s, ⟨0, .error (.notFound path)⟩)
  | some answers =>
    let (next, left) := Scripted.takeLasting ⟨0, .error (.notFound path)⟩ answers
    ({ s with fetches := s.fetches.put path left }, next)

def takeRenewal (s : StoreScript) (lease : Lease) : StoreScript × Scripted Lease :=
  let (next, left) := Scripted.takeOnce ⟨0, Lease.of lease.id lease.span true⟩
    ((s.renewals.find? lease.id).getD [])
  ({ s with renewals := s.renewals.put lease.id left }, next)

def takeRevocation (s : StoreScript) (lease : Lease) : StoreScript × Scripted Unit :=
  let (next, left) := Scripted.takeOnce ⟨0, .ok ()⟩ ((s.revocations.find? lease.id).getD [])
  ({ s with revocations := s.revocations.put lease.id left }, next)

def take (s : StoreScript) (secret : Secret) : Errand → StoreScript × Nat × Reply
  | .fetch =>
    let (s, x) := s.takeFetch secret.path
    (s, x.delay, .fetched x.result)
  | .renew lease =>
    let (s, x) := s.takeRenewal lease
    (s, x.delay, .renewed x.result)
  | .revoke lease _ =>
    let (s, x) := s.takeRevocation lease
    (s, x.delay, .revoked x.result)

end StoreScript

structure KeeperRehearsal where
  keeper : Keeper
  script : StoreScript
  agenda : List (Nat × KeeperEvent)
  ready : List KeeperEvent
  seen : Nat
  returns : Table Nat (Nat × KeeperAnswer)

namespace KeeperRehearsal

def new (policy : LeasePolicy) (script : StoreScript) : KeeperRehearsal :=
  ⟨.new policy, script, [], [], 0, []⟩

def absorbEntry (r : KeeperRehearsal) (time : Nat) : Entry → KeeperRehearsal
  | .call secret purpose errand =>
    let (script, delay, reply) := r.script.take secret errand
    let event := KeeperEvent.answer secret purpose reply
    if delay = 0 then { r with script, ready := r.ready ++ [event] }
    else { r with script, agenda := r.agenda ++ [(time + delay, event)] }
  | .armed secret line generation due =>
    { r with agenda := r.agenda ++ [(due, .fire secret line generation)] }
  | .returned ticket answer => { r with returns := r.returns.put ticket (time, answer) }
  | .event _ | .fault _ _ _ => r

def absorb (r : KeeperRehearsal) : KeeperRehearsal :=
  let size := r.keeper.journal.length
  let fresh := (r.keeper.journal.take (size - r.seen)).reverse
  let waiting := r.ready
  let r := fresh.foldl (fun r (time, entry) => r.absorbEntry time entry)
    { r with ready := [], seen := size }
  { r with ready := r.ready ++ waiting }

def step (r : KeeperRehearsal) (event : KeeperEvent) : KeeperRehearsal :=
  { r with keeper := r.keeper.step event }

/-- Gives all answers that need no time, the newest call's first. When there is none, the next fetch
has its turn. -/
def settle : (fuel : Nat) → KeeperRehearsal → KeeperRehearsal
  | 0, r => r
  | fuel + 1, r =>
    let r := r.absorb
    match r.ready, r.keeper.turn? with
    | event :: ready, _ => settle fuel ({ r with ready }.step event)
    | [], some event => settle fuel (r.step event)
    | [], none => r

def sweep (r : KeeperRehearsal) : KeeperRehearsal :=
  let cancelled := r.keeper.rooms.flatMap fun (secret, room) =>
    room.lines.zipIdx.flatMap fun (line, number) =>
      line.waits.filterMap fun (generation, _) =>
        if line.lineage.isCancelled generation then some (KeeperEvent.stop secret number generation)
        else none
  cancelled.foldl step r

def act (r : KeeperRehearsal) (event : KeeperEvent) : KeeperRehearsal :=
  ((r.step event).settle Timeline.ample).sweep

def moveTo (r : KeeperRehearsal) (time : Nat) : KeeperRehearsal :=
  r.step (.pass (time - r.keeper.now))

def next (r : KeeperRehearsal) : Option (Timeline.Due KeeperRehearsal) :=
  match Timeline.soonest r.agenda with
  | none => none
  | some (index, time) =>
    match r.agenda[index]? with
    | none => none
    | some (_, event) =>
      some ⟨time, fun _ => ({ r with agenda := r.agenda.eraseIdx index }.moveTo time).act event⟩

def catchUp (r : KeeperRehearsal) : KeeperRehearsal :=
  Timeline.runUntil next r.keeper.now Timeline.ample r

def pass (r : KeeperRehearsal) (span : Nat) : KeeperRehearsal :=
  let limit := r.keeper.now + span
  (Timeline.runUntil next limit Timeline.ample r).moveTo limit

def await (ticket : Nat) : (fuel : Nat) → KeeperRehearsal → KeeperRehearsal
  | 0, r => r
  | fuel + 1, r =>
    if (r.returns.find? ticket).isSome then r
    else
      match r.next with
      | none => r
      | some due => await ticket fuel (due.run ())

def spawn (r : KeeperRehearsal) (ticket : Nat) (operation : Operation) : KeeperRehearsal :=
  (r.act (.request ticket operation)).catchUp

def perform (r : KeeperRehearsal) (ticket : Nat) (operation : Operation) : KeeperRehearsal :=
  (await ticket Timeline.ample (r.act (.request ticket operation))).catchUp

def listen (r : KeeperRehearsal) : KeeperRehearsal × Nat × Nat :=
  let k := r.keeper
  ({ r with keeper := { k with
      leaseListeners := k.leaseListeners.add .observer
      faultListeners := k.faultListeners.add (.observer false) } },
    k.leaseListeners.issued, k.faultListeners.issued)

def unlisten (r : KeeperRehearsal) (pair : Nat × Nat) : KeeperRehearsal × Bool × Bool :=
  let k := r.keeper
  ({ r with keeper := { k with
      leaseListeners := k.leaseListeners.remove pair.1
      faultListeners := k.faultListeners.remove pair.2 } },
    k.leaseListeners.contains pair.1, k.faultListeners.contains pair.2)

def observers (r : KeeperRehearsal) : Nat :=
  r.keeper.leaseListeners.entries.countP fun (_, listener) => listener == .observer

end KeeperRehearsal
end LeaseKeeper

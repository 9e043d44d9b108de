import LeaseKeeper.Keeper.Binding
/-!
The keeper from one store answer, timer or request to the next. Everything between two of these
happens at once; an event that does not fit the state is refused and changes nothing.
-/
namespace LeaseKeeper

inductive Reply where
  | fetched (result : Except Fault Response)
  | renewed (result : Except Fault Lease)
  | revoked (result : Except Fault Unit)

inductive Operation where
  | add (secret : Secret)
  | remove (secret : Secret)
  | start
  | destroy
  | renew (secret : Secret)
  | rotate (secret : Secret)
  | bind (secret : Secret) (failFast : Bool) (start : String)

inductive KeeperEvent where
  | request (ticket : Nat) (operation : Operation)
  /-- A start gets round to a secret. -/
  | ask (secret : Secret) (ticket : Nat)
  | answer (secret : Secret) (purpose : Purpose) (reply : Reply)
  | fire (secret : Secret) (line generation : Nat)
  | stop (secret : Secret) (line generation : Nat)
  | pass (span : Nat)
  | closeSource (id : Nat)
  | dropSource (id : Nat)
  | disown

namespace Keeper

/-! ### How activities end -/

def endTimer (k : Keeper) (secret : Secret) (number generation : Nat)
    (result : Except Fault Lease) : Keeper :=
  let room := k.room secret
  match room.lines[number]? with
  | none => k
  | some line =>
    match line.lineage.conclude k.policy.strategy k.policy.floor k.policy.threshold k.now generation
        Lease.renewable result with
    | (lineage, .wait next delay) => k.arm secret number { line with lineage } next delay
    | (lineage, .stop) => k.setRoom secret (room.setLine number { line with lineage })
    | (lineage, .crash) => k.setRoom secret (room.setLine number { line with lineage })

def endRenew (k : Keeper) (ticket : Nat) (secret : Secret) (result : Except Fault Lease) : Keeper :=
  match result with
  | .error fault => k.complete ticket (.lease (.error fault))
  | .ok lease =>
    match k.schedule secret lease with
    | (k, .overflow) => k.crash ticket
    | (k, _) => k.complete ticket (.lease (.ok lease))

/-- The last of several concurrent activities of one operation ends it. -/
def endShared (k : Keeper) (ticket : Nat) : Keeper :=
  if k.hasTicket ticket then k else k.complete ticket .done

def endRenewal (k : Keeper) (secret : Secret) (purpose : Purpose) (result : Except Fault Lease) :
    Keeper :=
  match purpose with
  | .renew ticket => k.endRenew ticket secret result
  | .timer number generation => k.endTimer secret number generation result
  | _ => k

def isOk {α : Type} : Except Fault α → Bool
  | .ok _ => true
  | .error _ => false

/-- A fetch ends. All but those of a registration and of a start count as rotations. -/
def endFetch (k : Keeper) (secret : Secret) (purpose : Purpose) (result : Except Fault Lease) :
    Keeper :=
  let rotated := k.count (.rotation (isOk result))
  match purpose with
  | .register ticket => k.complete ticket (.flag true)
  | .start ticket => k.endShared ticket
  | .rotate ticket => rotated.complete ticket (.lease result)
  | .renew ticket => rotated.endRenew ticket secret result
  | .timer number generation => rotated.endTimer secret number generation result
  | .remove ticket => k.complete ticket (.flag true)
  | .destroy ticket => k.endShared ticket

/-- A lease that nobody owns is revoked before its fetch ends; one the store cannot revoke is
dropped. -/
def abandon (k : Keeper) (secret : Secret) (purpose : Purpose) (lease : Lease)
    (result : Except Fault Lease) : Keeper :=
  if lease.isRevocable then k.revoke secret purpose lease result
  else k.endFetch secret purpose result

/-! ### Store answers -/

def ask (k : Keeper) (secret : Secret) (ticket : Nat) : Keeper :=
  if (k.room secret).unasked.contains ticket then
    (k.setRoom secret ((k.room secret).ask ticket)).note (.call secret (.start ticket) .fetch)
  else k

def fetched (k : Keeper) (secret : Secret) (purpose : Purpose) : Except Fault Response → Keeper
  | .error fault =>
    let k := if fault.isNotFound then k.emit (.notFound secret) else k
    let (k, fault) := k.report secret Lease.none fault
    k.endFetch secret purpose (.error fault)
  | .ok response =>
    let lease := response.lease
    if !k.started then k.abandon secret purpose lease (.ok Lease.none)
    else
      let data := response.flattened
      let k := k.setRoom secret { k.room secret with data := some data }
      match (k.emit (.created secret lease data)).schedule secret lease with
      | (k, .kept) => k.endFetch secret purpose (.ok lease)
      | (k, .refused) => k.abandon secret purpose lease (.ok lease)
      | (k, .overflow) =>
        match purpose.ticket? with
        | some ticket => k.crash ticket
        | none => k

/-- A lease extended far enough is the answer; else a rotating secret is fetched again, and any
other expires. -/
def renewed (k : Keeper) (secret : Secret) (purpose : Purpose) (lease : Lease) :
    Except Fault Lease → Keeper
  | .error fault =>
    let (k, fault) := (k.count (.renewal secret.mode false)).report secret lease fault
    k.endRenewal secret purpose (.error fault)
  | .ok next =>
    let k := k.count (.renewal secret.mode true)
    let k := if next.hasId then k.emit (.afterRenewed secret next) else k
    if !next.hasId || k.policy.threshold ≤ next.span then k.endRenewal secret purpose (.ok next)
    else if secret.isRotating then k.call secret purpose .fetch
    else
      let k := k.setRoom secret { k.room secret with data := none }
      (k.emit (.expired secret next)).endRenewal secret purpose (.ok Lease.none)

def revoked (k : Keeper) (secret : Secret) (purpose : Purpose) (lease : Lease)
    (result : Except Fault Lease) : Except Fault Unit → Keeper
  | .ok _ =>
    ((k.count (.revocation true)).emit (.afterRevocation secret lease)).endFetch secret purpose
      result
  | .error fault =>
    ((k.count (.revocation false)).report secret lease fault).1.endFetch secret purpose result

def answer (k : Keeper) (secret : Secret) (purpose : Purpose) (reply : Reply) : Keeper :=
  let room := k.room secret
  match room.flight? purpose with
  | none => k
  | some flight =>
    let landed := k.setRoom secret (room.dropFlight purpose)
    match flight.errand, reply with
    | .fetch, .fetched result => landed.fetched secret purpose result
    | .renew lease, .renewed result => landed.renewed secret purpose lease result
    | .revoke lease after, .revoked result => landed.revoked secret purpose lease after result
    | _, _ => k

/-! ### Timers -/

/-- A timer runs out. With nobody left who could reach the keeper the lease is given up. -/
def fire (k : Keeper) (secret : Secret) (number generation : Nat) : Keeper :=
  let room := k.room secret
  match room.lines[number]? with
  | none => k
  | some line =>
    match line.waits.lookup generation with
    | none => k
    | some due =>
      if due ≤ k.now then
        let waits := line.waits.filter (·.1 != generation)
        match line.lineage.fire generation with
        | (lineage, none) => k.setRoom secret (room.setLine number ⟨lineage, waits⟩)
        | (lineage, some lease) =>
          let claimed := k.setRoom secret (room.setLine number ⟨lineage, waits⟩)
          if k.isHeld then claimed.renewOrFetch secret (.timer number generation) lease
          else claimed.endTimer secret number generation (.ok Lease.none)
      else k

def stop (k : Keeper) (secret : Secret) (number generation : Nat) : Keeper :=
  let room := k.room secret
  match room.lines[number]? with
  | none => k
  | some line =>
    if line.lineage.isCancelled generation then
      k.setRoom secret (room.setLine number
        { line with waits := line.waits.filter (·.1 != generation) })
    else k

/-! ### Requests -/

def request (k : Keeper) (ticket : Nat) : Operation → Keeper
  | .add secret =>
    match k.add ticket secret with
    | (k, some added) => k.complete ticket (.flag added)
    | (k, none) => k
  | .remove secret =>
    match k.remove ticket secret with
    | (k, some removed) => k.complete ticket (.flag removed)
    | (k, none) => k
  | .start =>
    match k.start ticket with
    | (k, true) => k.complete ticket .done
    | (k, false) => k
  | .destroy =>
    match k.destroy ticket with
    | (k, true) => k.complete ticket .done
    | (k, false) => k
  | .renew secret =>
    match k.renew ticket secret with
    | (k, some fault) => k.complete ticket (.lease (.error fault))
    | (k, none) => k
  | .rotate secret =>
    match k.rotate ticket secret with
    | (k, some fault) => k.complete ticket (.lease (.error fault))
    | (k, none) => k
  | .bind secret failFast start => k.bind ticket secret failFast start

def step (k : Keeper) : KeeperEvent → Keeper
  | .request ticket operation => k.request ticket operation
  | .ask secret ticket => k.ask secret ticket
  | .answer secret purpose reply => k.answer secret purpose reply
  | .fire secret line generation => k.fire secret line generation
  | .stop secret line generation => k.stop secret line generation
  | .pass span => { k with now := k.now + span }
  | .closeSource id => k.closeSource id
  | .dropSource id => k.dropSource id
  | .disown => { k with owned := false }

def turn? (k : Keeper) : Option KeeperEvent :=
  k.rooms.findSome? fun (secret, room) => room.unasked.head?.map (.ask secret)

def run (k : Keeper) (events : List KeeperEvent) : Keeper := events.foldl step k

end Keeper
end LeaseKeeper

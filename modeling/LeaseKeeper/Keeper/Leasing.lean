import LeaseKeeper.Keeper.State
/-!
What the keeper's operations do up to their first store call.
-/
namespace LeaseKeeper.Keeper

/-- A lease is scheduled when the store can renew it, or when its secret can be fetched again
before it runs out. -/
def isSchedulable (secret : Secret) (lease : Lease) : Bool :=
  lease.isRevocable || (secret.isRotating && lease.seconds != 0)

inductive Scheduling where
  | kept
  | refused
  | overflow
  deriving DecidableEq, Repr

/-- Makes a lease the secret's current one. A lease that cannot be scheduled leaves the secret
without one. -/
def schedule (k : Keeper) (secret : Secret) (lease : Lease) : Keeper × Scheduling :=
  let room := k.room secret
  match room.lineNumber?, room.line? with
  | some number, some line =>
    if !k.started then (k, .refused)
    else if isSchedulable secret lease then
      match line.lineage.install k.now lease with
      | (lineage, none) => (k.setRoom secret (room.setLine number { line with lineage }), .overflow)
      | (lineage, some generation) =>
        let k := k.arm secret number { line with lineage } generation (k.policy.delay lease)
        (k.setGauge k.activeCount, .kept)
    else
      let disabled := { line with lineage := line.lineage.disable.1 }
      let k := k.setRoom secret (room.setLine number disabled)
      (k.setGauge k.activeCount, .kept)
  | _, _ => (k, .refused)

def renewOrFetch (k : Keeper) (secret : Secret) (purpose : Purpose) (lease : Lease) : Keeper :=
  if secret.isRotating && !lease.isRevocable then k.call secret purpose .fetch
  else k.call secret purpose (.renew lease)

/-! ### Operations

Each gives its answer when it needs no store call, and `none` while a call is under way. -/

def add (k : Keeper) (ticket : Nat) (secret : Secret) : Keeper × Option Bool :=
  let room := k.room secret
  if room.registered then (k, some false)
  else
    let opened := k.setRoom secret
      { room with lines := room.lines ++ [⟨.new, []⟩], registered := true }
    if opened.started then (opened.call secret (.register ticket) .fetch, none)
    else (opened, some true)

def vacate (k : Keeper) (secret : Secret) : Keeper × Option Lease :=
  let room := k.room secret
  match room.lineNumber?, room.line? with
  | some number, some line =>
    let (lineage, lease) := line.lineage.disable
    (k.setRoom secret (room.setLine number { line with lineage }), lease)
  | _, _ => (k, none)

def remove (k : Keeper) (ticket : Nat) (secret : Secret) : Keeper × Option Bool :=
  if (k.room secret).registered then
    let (k, lease) := k.vacate secret
    let k := k.setRoom secret { k.room secret with registered := false, data := none }
    match lease with
    | some lease =>
      if lease.isRevocable then (k.revoke secret (.remove ticket) lease (.ok lease), none)
      else (k, some true)
    | none => (k, some true)
  else (k, some false)

/-- Has every registered secret fetched, unless the keeper runs already. True when nothing is to be
waited for. The store is asked for one secret after the other, and an answer that is there at once
is dealt with before the next one is asked for. -/
def start (k : Keeper) (ticket : Nat) : Keeper × Bool :=
  if k.started then (k, true)
  else
    let secrets := k.registered
    let started := { k with started := true }
    (secrets.foldl (fun k secret => k.promise secret ticket) started, secrets.isEmpty)

def unregistered (secret : Secret) : Fault :=
  .invalidArgument ("Secret is not registered: " ++ secret.text)

def renew (k : Keeper) (ticket : Nat) (secret : Secret) : Keeper × Option Fault :=
  if (k.room secret).registered then
    match k.current secret with
    | some lease =>
      if lease.hasId then (k.renewOrFetch secret (.renew ticket) lease, none)
      else (k, some (.invalidArgument ("No lease to renew for " ++ secret.text)))
    | none => (k, some (.invalidArgument ("No lease to renew for " ++ secret.text)))
  else (k, some (unregistered secret))

def rotate (k : Keeper) (ticket : Nat) (secret : Secret) : Keeper × Option Fault :=
  if !(k.room secret).registered then (k, some (unregistered secret))
  else if !k.started then
    (k, some (.invalidArgument ("Container is not running, cannot rotate " ++ secret.text)))
  else (k.call secret (.rotate ticket) .fetch, none)

/-- Stops all renewals and revokes what the store can revoke. True when there is nothing to wait
for. -/
def destroy (k : Keeper) (ticket : Nat) : Keeper × Bool :=
  let stopped := { k with started := false }
  let (vacated, leases) := stopped.registered.foldl (fun (k, leases) secret =>
    match k.vacate secret with
    | (k, some lease) => (k, leases ++ [(secret, lease)])
    | (k, none) => (k, leases)) (stopped, ([] : List (Secret × Lease)))
  let cleared := { vacated with
    rooms := vacated.rooms.map fun entry : Secret × Room =>
      (entry.1, { entry.2 with data := none }) }
  let revocable := leases.filter (·.2.isRevocable)
  (revocable.foldl (fun k (secret, lease) => k.revoke secret (.destroy ticket) lease (.ok lease))
    (cleared.setGauge 0), revocable.isEmpty)

end LeaseKeeper.Keeper

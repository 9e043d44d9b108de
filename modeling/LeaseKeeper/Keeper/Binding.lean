import LeaseKeeper.Keeper.Leasing
/-!
Binding a source to a secret: register it, start the keeper or bring the source up to date, and
give the source out, or the fault of its fetch where that was asked for.
-/
namespace LeaseKeeper.Keeper

def silence (k : Keeper) (id : Nat) : Keeper :=
  match k.sources.find? id with
  | none => k
  | some source =>
    { k with
      leaseListeners := k.leaseListeners.remove source.leaseListener
      faultListeners := k.faultListeners.remove source.faultListener }

def dropSource (k : Keeper) (id : Nat) : Keeper :=
  let k := k.silence id
  { k with sources := k.sources.erase id }

def closeSource (k : Keeper) (id : Nat) : Keeper := (k.silence id).tellSource id Source.close

/-- Ends a capture. Its fault is a copy when somebody else holds it too. -/
def release (k : Keeper) (ticket : Nat) : Keeper × Option Fault :=
  match k.captures.find? ticket with
  | none => (k, none)
  | some capture =>
    let captures := k.captures.erase ticket
    let fault := capture.first.map fun caught =>
      let shared := caught.kept || captures.any fun (_, other) =>
        match other.first with
        | some c => c.report == caught.report
        | none => false
      if shared then caught.fault.replicate else caught.fault
    ({ k with captures, faultListeners := k.faultListeners.remove capture.listener }, fault)

def setStage (k : Keeper) (ticket : Nat) (b : Binding) : Keeper :=
  { k with binds := k.binds.put ticket b }

def failBind (k : Keeper) (ticket : Nat) (fault : Fault) : Keeper :=
  let k := k.dropSource ticket
  { k with binds := k.binds.erase ticket }.note (.returned ticket (.bound (.error fault)))

def finishBind (k : Keeper) (ticket : Nat) : Keeper :=
  let size := ((k.sources.find? ticket).map (·.properties.length)).getD 0
  { k with binds := k.binds.erase ticket }.note (.returned ticket (.bound (.ok size)))

def bindFetched (k : Keeper) (ticket : Nat) (b : Binding) : Keeper :=
  match k.release ticket with
  | (k, some fault) =>
    if b.failFast then
      if b.added then
        match k.remove ticket b.secret with
        | (k, none) => k.setStage ticket { b with stage := .removing fault }
        | (k, some _) => k.failBind ticket fault
      else k.failBind ticket fault
    else k.finishBind ticket
  | (k, none) => k.finishBind ticket

def bindAdded (k : Keeper) (ticket : Nat) (b : Binding) : Keeper :=
  let waiting := { b with stage := .fetching }
  if !k.started then
    match k.start ticket with
    | (k, true) => k.bindFetched ticket b
    | (k, false) => k.setStage ticket waiting
  else if !b.added then
    match k.data b.secret with
    | some data => (k.tellSource ticket (·.seed data)).bindFetched ticket b
    | none =>
      match k.rotate ticket b.secret with
      | (k, some _) => k.bindFetched ticket b
      | (k, none) => k.setStage ticket waiting
  else k.bindFetched ticket b

/-- Starts a bind under a ticket, which is also the number of its source. -/
def bind (k : Keeper) (ticket : Nat) (secret : Secret) (failFast : Bool) (start : String) :
    Keeper :=
  let source : Source := ⟨secret, start, k.policy.strategy, [], .uninitialized,
    k.leaseListeners.issued, k.faultListeners.issued⟩
  let leaseListeners := k.leaseListeners.add (.source ticket)
  let faultListeners := k.faultListeners.add (.source ticket)
  let capture : Capture := ⟨secret, faultListeners.issued, none⟩
  let k := { k with
    leaseListeners
    faultListeners := faultListeners.add (.capture ticket)
    sources := k.sources.put ticket source
    captures := k.captures.put ticket capture }
  match k.add ticket secret with
  | (k, none) => k.setStage ticket ⟨secret, failFast, true, .adding⟩
  | (k, some added) => k.bindAdded ticket ⟨secret, failFast, added, .adding⟩

def complete (k : Keeper) (ticket : Nat) (answer : KeeperAnswer) : Keeper :=
  match k.binds.find? ticket with
  | none => k.note (.returned ticket answer)
  | some b =>
    match b.stage with
    | .adding => k.bindAdded ticket b
    | .fetching => k.bindFetched ticket b
    | .removing fault => k.failBind ticket fault

/-- An operation dies where it stands, with every store call it had under way. -/
def crash (k : Keeper) (ticket : Nat) : Keeper :=
  let k := { k with
    rooms := k.rooms.map fun entry : Secret × Room => (entry.1, entry.2.dropTicket ticket) }
  match k.binds.find? ticket with
  | none => k.note (.returned ticket .crashed)
  | some _ =>
    let k := (k.release ticket).1.dropSource ticket
    { k with binds := k.binds.erase ticket }.note (.returned ticket .crashed)

end LeaseKeeper.Keeper

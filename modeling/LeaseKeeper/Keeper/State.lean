import LeaseKeeper.Lineage
import LeaseKeeper.Listeners.Registry
import LeaseKeeper.Metrics
import LeaseKeeper.Response
import LeaseKeeper.Source
import LeaseKeeper.Table
/-!
The keeper of leases: its registered secrets, the store calls under way for each of them, its
listeners, and a journal of everything it did. A call under way is a value that says for what
purpose it was made and what is asked of the store, so that its answer can come at any time.
-/
namespace LeaseKeeper

inductive Errand where
  | fetch
  | renew (lease : Lease)
  /-- After the revocation the activity ends with `result`. -/
  | revoke (lease : Lease) (result : Except Fault Lease)

/-- On whose behalf the store is asked: an operation, known by its ticket, or the renewal task of a
generation. -/
inductive Purpose where
  | register (ticket : Nat)
  | start (ticket : Nat)
  | rotate (ticket : Nat)
  | renew (ticket : Nat)
  | remove (ticket : Nat)
  | destroy (ticket : Nat)
  | timer (line generation : Nat)
  deriving DecidableEq, Repr

def Purpose.ticket? : Purpose → Option Nat
  | register t | start t | rotate t | renew t | remove t | destroy t => some t
  | timer _ _ => none

structure Flight where
  purpose : Purpose
  errand : Errand

/-- A line of leases with the renewal tasks that wait for a timer: generation and time. -/
structure Line where
  lineage : Lineage
  waits : List (Nat × Nat)
  deriving DecidableEq, Repr

/-- Everything about one secret. Each registration opens a new line; the last one counts while the
secret is registered, and tasks of earlier ones may still be about. -/
structure Room where
  lines : List Line
  registered : Bool
  data : Option (TextMap String)
  flights : List Flight
  /-- The starts whose fetch has yet to have its turn. -/
  unasked : List Nat

namespace Room

def empty : Room := ⟨[], false, none, [], []⟩

def lineNumber? (r : Room) : Option Nat := if r.registered then some (r.lines.length - 1) else none

def line? (r : Room) : Option Line := r.lineNumber?.bind (r.lines[·]?)

def current (r : Room) : Option Lease := r.line?.bind (·.lineage.current)

def isActive (r : Room) : Bool :=
  match r.line? with
  | some line => line.lineage.isActive
  | none => false

def setLine (r : Room) (number : Nat) (line : Line) : Room :=
  { r with lines := r.lines.set number line }

def awaitsTurn (r : Room) : Purpose → Bool
  | .start ticket => r.unasked.contains ticket
  | _ => false

/-- The flight that an answer may be for, which is none before the store is asked. -/
def flight? (r : Room) (purpose : Purpose) : Option Flight :=
  if r.awaitsTurn purpose then none else r.flights.find? (·.purpose == purpose)

def promise (r : Room) (ticket : Nat) : Room :=
  { r with flights := r.flights ++ [⟨.start ticket, .fetch⟩], unasked := r.unasked ++ [ticket] }

def ask (r : Room) (ticket : Nat) : Room :=
  { r with unasked := r.unasked.filter (· != ticket) }

def dropFlight (r : Room) (purpose : Purpose) : Room :=
  { r with flights := r.flights.filter (·.purpose != purpose) }

def hasTicket (r : Room) (ticket : Nat) : Bool :=
  r.flights.any (·.purpose.ticket? == some ticket)

def dropTicket (r : Room) (ticket : Nat) : Room :=
  { r with
    flights := r.flights.filter (·.purpose.ticket? != some ticket)
    unasked := r.unasked.filter (· != ticket) }

end Room

inductive LeaseListener where
  | observer
  | source (id : Nat)
  deriving DecidableEq, Repr

inductive FaultListener where
  | observer (keeps : Bool)
  | source (id : Nat)
  | capture (ticket : Nat)
  deriving DecidableEq, Repr

structure Caught where
  report : Nat
  fault : Fault
  kept : Bool
  deriving DecidableEq, Repr

structure Capture where
  secret : Secret
  listener : Nat
  first : Option Caught
  deriving DecidableEq, Repr

inductive BindStage where
  | adding
  | fetching
  | removing (fault : Fault)
  deriving DecidableEq, Repr

structure Binding where
  secret : Secret
  failFast : Bool
  added : Bool
  stage : BindStage
  deriving DecidableEq, Repr

inductive KeeperAnswer where
  | done
  | flag (value : Bool)
  | lease (result : Except Fault Lease)
  | bound (result : Except Fault Nat)
  | crashed

inductive Entry where
  | call (secret : Secret) (purpose : Purpose) (errand : Errand)
  | armed (secret : Secret) (line generation due : Nat)
  | event (e : LeaseEvent)
  | fault (secret : Secret) (lease : Lease) (fault : Fault)
  | returned (ticket : Nat) (answer : KeeperAnswer)

structure Keeper where
  policy : LeasePolicy
  now : Nat
  started : Bool
  owned : Bool
  rooms : Table Secret Room
  leaseListeners : Listeners.Registry LeaseListener
  faultListeners : Listeners.Registry FaultListener
  sources : Table Nat Source
  captures : Table Nat Capture
  binds : Table Nat Binding
  reports : Nat
  metrics : Metrics
  journal : List (Nat × Entry)

namespace Keeper

def new (policy : LeasePolicy) : Keeper :=
  ⟨policy, 0, false, true, [], .empty, .empty, [], [], [], 0, [], []⟩

def room (k : Keeper) (secret : Secret) : Room := (k.rooms.find? secret).getD .empty

def setRoom (k : Keeper) (secret : Secret) (room : Room) : Keeper :=
  { k with rooms := k.rooms.put secret room }

def note (k : Keeper) (entry : Entry) : Keeper := { k with journal := (k.now, entry) :: k.journal }

def registered (k : Keeper) : List Secret :=
  (k.rooms.filter (·.2.registered)).map Prod.fst

def current (k : Keeper) (secret : Secret) : Option Lease := (k.room secret).current

def data (k : Keeper) (secret : Secret) : Option (TextMap String) := (k.room secret).data

def activeCount (k : Keeper) : Nat := k.rooms.countP (·.2.isActive)

def hasTicket (k : Keeper) (ticket : Nat) : Bool := k.rooms.any (·.2.hasTicket ticket)

/-- Somebody can still reach the keeper: its owner, a source, or a call under way. -/
def isHeld (k : Keeper) : Bool :=
  k.owned || !k.sources.isEmpty || k.rooms.any fun (_, room) => !room.flights.isEmpty

def text (k : Keeper) : String :=
  Text.labelled "SecretLeaseContainer" [("settings", k.policy.text),
    ("lineages", toString k.registered.length), ("started", Text.bool k.started)]

/-! ### Listeners -/

def tellSource (k : Keeper) (id : Nat) (f : Source → Source) : Keeper :=
  { k with sources := k.sources.adjust id f }

def emit (k : Keeper) (e : LeaseEvent) : Keeper :=
  k.leaseListeners.entries.foldl (fun k (_, listener) =>
    match listener with
    | .observer => k
    | .source id => k.tellSource id (·.hear e)) (k.note (.event e))

def catchFault (k : Keeper) (ticket : Nat) (secret : Secret) (caught : Caught) : Keeper × Bool :=
  match k.captures.find? ticket with
  | none => (k, false)
  | some capture =>
    if capture.secret = secret ∧ capture.first.isNone then
      ({ k with captures := k.captures.put ticket { capture with first := some caught } }, true)
    else (k, false)

def keepsFaults (k : Keeper) : Bool :=
  k.faultListeners.entries.any fun (_, listener) =>
    match listener with
    | .observer keeps => keeps
    | _ => false

/-- Publishes a fault and hands it back, as a copy when a listener holds it. -/
def report (k : Keeper) (secret : Secret) (lease : Lease) (fault : Fault) : Keeper × Fault :=
  let caught : Caught := ⟨k.reports, fault, k.keepsFaults⟩
  let start := { k with reports := k.reports + 1 }.note (.fault secret lease fault)
  let (k, held) := k.faultListeners.entries.foldl (fun (k, held) (_, listener) =>
    match listener with
    | .observer keeps => (k, held || keeps)
    | .source id => (k.tellSource id (·.hearFault secret fault), held)
    | .capture ticket =>
      let (k, took) := k.catchFault ticket secret caught
      (k, held || took)) (start, false)
  (k, if held then fault.replicate else fault)

/-! ### Store calls and timers -/

def call (k : Keeper) (secret : Secret) (purpose : Purpose) (errand : Errand) : Keeper :=
  let room := k.room secret
  (k.setRoom secret { room with flights := room.flights ++ [⟨purpose, errand⟩] }).note
    (.call secret purpose errand)

def promise (k : Keeper) (secret : Secret) (ticket : Nat) : Keeper :=
  k.setRoom secret ((k.room secret).promise ticket)

def arm (k : Keeper) (secret : Secret) (number : Nat) (line : Line) (generation delay : Nat) :
    Keeper :=
  let due := k.now + delay
  let waiting := { line with waits := line.waits ++ [(generation, due)] }
  (k.setRoom secret ((k.room secret).setLine number waiting)).note
    (.armed secret number generation due)

def count (k : Keeper) (m : Measure) : Keeper := { k with metrics := k.metrics.count m }

def setGauge (k : Keeper) (level : Nat) : Keeper :=
  { k with metrics := k.metrics.set .activeLeases level }

def revoke (k : Keeper) (secret : Secret) (purpose : Purpose) (lease : Lease)
    (result : Except Fault Lease) : Keeper :=
  (k.emit (.beforeRevocation secret lease)).call secret purpose (.revoke lease result)

end Keeper
end LeaseKeeper

import LeaseKeeper.Policy
/-!
One line of leases for one secret: the current lease, the timers registered for it, and the
generations handed out. A timer and a renewal answer act only while the generation they were made
for is still in the slot.
-/
namespace LeaseKeeper

inductive Phase where
  | scheduled
  | renewing
  /-- The lease is kept only to be reported or revoked. -/
  | dormant
  deriving DecidableEq, Repr, Inhabited

structure Held where
  generation : Nat
  lease : Lease
  phase : Phase
  /-- When the lease runs out, counted from its installation. -/
  deadline : Nat
  deriving DecidableEq, Repr, Inhabited

structure Lineage where
  slot : Option Held
  timers : List Nat
  cancelled : List Nat
  issued : Nat
  deriving DecidableEq, Repr, Inhabited

inductive Next where
  | stop
  | wait (generation delay : Nat)
  | crash
  deriving DecidableEq, Repr

namespace Lineage

def new : Lineage := ⟨none, [], [], 0⟩

def current (l : Lineage) : Option Lease := l.slot.map Held.lease

def isLeased (l : Lineage) : Bool := l.slot.isSome

def isActive (l : Lineage) : Bool :=
  match l.slot with
  | some held => held.phase != .dormant
  | none => false

def pending (l : Lineage) : Nat := l.timers.length

def deadline? (now span : Nat) : Option Nat :=
  if now + span ≤ Span.clockEnd then some (now + span) else none

def isCancelled (l : Lineage) (generation : Nat) : Bool := l.cancelled.contains generation

def cancel (l : Lineage) (generation : Nat) : Lineage :=
  if l.timers.contains generation then
    { l with
      timers := l.timers.filter (· != generation)
      cancelled := generation :: l.cancelled }
  else l

def issue (l : Lineage) (withTimer : Bool) : Lineage :=
  { l with
    issued := l.issued + 1
    timers := if withTimer then (l.issued + 1) :: l.timers else l.timers }

/-- Makes `lease` current with a pending timer, whatever was current. The timer is registered before
the deadline is known, so a lease that outlasts the clock leaves it behind and changes nothing
else. -/
def install (l : Lineage) (now : Nat) (lease : Lease) : Lineage × Option Nat :=
  let issued := l.issue true
  match deadline? now lease.span with
  | none => (issued, none)
  | some deadline =>
    let placed := { issued with slot := some ⟨issued.issued, lease, .scheduled, deadline⟩ }
    match l.slot with
    | none => (placed, some issued.issued)
    | some old => (placed.cancel old.generation, some issued.issued)

/-- Cancels every timer and forgets the current lease, which is handed back. -/
def disable (l : Lineage) : Lineage × Option Lease :=
  ({ l with slot := none, timers := [], cancelled := l.timers ++ l.cancelled }, l.current)

def unregister (l : Lineage) (generation : Nat) : Lineage :=
  { l with timers := l.timers.filter (· != generation) }

def claim (l : Lineage) (generation : Nat) : Lineage × Option Lease :=
  match l.slot with
  | some held =>
    if held.generation = generation ∧ held.phase = .scheduled then
      ({ l with slot := some { held with phase := .renewing } }, some held.lease)
    else (l, none)
  | none => (l, none)

def fire (l : Lineage) (generation : Nat) : Lineage × Option Lease :=
  (l.unregister generation).claim generation

def claimed? (l : Lineage) (claimed : Nat) : Option Held :=
  l.slot.filter fun held => held.generation == claimed && held.phase == .renewing

def advance (l : Lineage) (claimed now : Nat) (lease : Lease) (reschedule : Bool) (delay : Nat) :
    Lineage × Next :=
  match l.claimed? claimed with
  | none => (l, .stop)
  | some _ =>
    let issued := l.issue reschedule
    match deadline? now lease.span with
    | none => (issued, .crash)
    | some deadline =>
      if reschedule then
        ({ issued with slot := some ⟨issued.issued, lease, .scheduled, deadline⟩ },
          .wait issued.issued delay)
      else ({ issued with slot := some ⟨issued.issued, lease, .dormant, deadline⟩ }, .stop)

/-- Keeps the claimed lease for another attempt, unless it runs out first. -/
def retain (l : Lineage) (claimed now retryIn : Nat) : Lineage × Next :=
  match l.claimed? claimed with
  | none => (l, .stop)
  | some held =>
    match deadline? now retryIn with
    | none => (l, .crash)
    | some retryAt =>
      if held.deadline ≤ retryAt then
        ({ l with slot := some { held with phase := .dormant } }, .stop)
      else
        let issued := l.issue true
        let scheduled := { held with generation := issued.issued, phase := .scheduled }
        ({ issued with slot := some scheduled }, .wait issued.issued retryIn)

def settle (l : Lineage) (claimed : Nat) (forget : Bool) : Lineage :=
  match l.slot with
  | some held =>
    if held.generation = claimed then
      { l with slot := if forget then none else some { held with phase := .dormant } }
    else l
  | none => l

def conclude (l : Lineage) (strategy : Strategy) (floor threshold now claimed : Nat)
    (reschedule : Lease → Bool) : Except Fault Lease → Lineage × Next
  | .ok next =>
    if next.hasId then
      l.advance claimed now next (reschedule next) (renewalDelay next.span floor threshold)
    else (l.settle claimed true, .stop)
  | .error fault =>
    if strategy.shouldDrop fault then (l.settle claimed false, .stop)
    else l.retain claimed now floor

def text (l : Lineage) (name : String) (strategy : Strategy) : String :=
  Text.labelled "LeaseRenewalScheduler" [("lineage", Text.quoted name),
    ("strategy", strategy.label), ("pending_timers", toString l.pending)]

end Lineage
end LeaseKeeper

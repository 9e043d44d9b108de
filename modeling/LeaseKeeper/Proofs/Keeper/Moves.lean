import LeaseKeeper.Keeper.Step
import LeaseKeeper.Proofs.Keeper.Aside
import Mathlib.Logic.Relation

/-!
The single moves that every step of a keeper is made of, each with what is known when it is made.
What every move keeps, every run keeps. A lease is scheduled and data is published only in a step
that found the keeper running; these moves carry the proposition `live`.
-/
namespace LeaseKeeper.Keeper

open Lineage

def fired (k : Keeper) (secret : Secret) (number : Nat) (line : Line) (lineage : Lineage)
    (generation : Nat) : Keeper :=
  k.setRoom secret ((k.room secret).setLine number
    ⟨lineage, line.waits.filter (·.1 != generation)⟩)

def relined (k : Keeper) (secret : Secret) (number : Nat) (line : Line) (lineage : Lineage) :
    Keeper :=
  k.setRoom secret ((k.room secret).setLine number { line with lineage })

theorem lines_setLine_of_ne (k : Keeper) (secret : Secret) {number other : Nat}
    (differ : number ≠ other) (line : Line) :
    ((k.setRoom secret ((k.room secret).setLine number line)).room secret).lines[other]? =
      (k.room secret).lines[other]? := by
  rw [room_setRoom_self, Room.setLine_lines, if_neg differ]

theorem lineNumber_arm (k : Keeper) (secret : Secret) (number : Nat) (line : Line)
    (generation delay : Nat) (other : Secret) :
    ((k.arm secret number line generation delay).room other).lineNumber? =
      (k.room other).lineNumber? := by
  refine read_setRoom Room.lineNumber? ?_ other
  exact Room.setLine_lineNumber? _ _ _

def asked (k : Keeper) (secret : Secret) (ticket : Nat) : Keeper :=
  (k.setRoom secret ((k.room secret).ask ticket)).note (.call secret (.start ticket) .fetch)

theorem ask_of_waiting {k : Keeper} {secret : Secret} {ticket : Nat}
    (waiting : (k.room secret).unasked.contains ticket = true) :
    k.ask secret ticket = k.asked secret ticket := if_pos waiting

theorem room_asked (k : Keeper) (secret : Secret) (ticket : Nat) :
    (k.asked secret ticket).room secret = (k.room secret).ask ticket :=
  room_setRoom_self k secret _

section
variable {k : Keeper} {secret : Secret} {number : Nat} {old : Line}
  (found : (k.room secret).lines[number]? = some old)
include found

theorem lines_setLine (line : Line) :
    ((k.setRoom secret ((k.room secret).setLine number line)).room secret).lines[number]? =
      some line := by
  rw [room_setRoom_self]
  exact Room.setLine_lines_self found line

theorem lines_fired (lineage : Lineage) (generation : Nat) :
    ((k.fired secret number old lineage generation).room secret).lines[number]? =
      some ⟨lineage, old.waits.filter (·.1 != generation)⟩ := lines_setLine found _

theorem lines_relined (lineage : Lineage) :
    ((k.relined secret number old lineage).room secret).lines[number]? =
      some { old with lineage } := lines_setLine found _

theorem lines_arm (lineage : Lineage) (generation delay : Nat) :
    ((k.arm secret number { old with lineage } generation delay).room secret).lines[number]? =
      some ⟨lineage, old.waits ++ [(generation, k.now + delay)]⟩ := lines_setLine found _

end

inductive Move (live : Prop) (k : Keeper) : Keeper → Prop where
  | aside (k' : Keeper) (aside : Aside k k') : Move live k k'
  | called (secret : Secret) (purpose : Purpose) (errand : Errand) :
      Move live k (k.call secret purpose errand)
  | promised (secret : Secret) (ticket : Nat) : Move live k (k.promise secret ticket)
  | asked (secret : Secret) (ticket : Nat) : Move live k (k.asked secret ticket)
  | landed (secret : Secret) (purpose : Purpose)
      (prompt : (k.room secret).awaitsTurn purpose = false) :
      Move live k (k.setRoom secret ((k.room secret).dropFlight purpose))
  | crashed (ticket : Nat) : Move live k (k.mapRooms (·.dropTicket ticket))
  | passed (span : Nat) : Move live k { k with now := k.now + span }
  | disowned : Move live k { k with owned := false }
  | opened (secret : Secret) (absent : (k.room secret).registered = false) :
      Move live k (k.setRoom secret
        { k.room secret with
          lines := (k.room secret).lines ++ [⟨.new, []⟩]
          registered := true })
  | forgotten (secret : Secret) (present : (k.room secret).registered = true) :
      Move live k (k.without secret)
  | begun (idle : k.started = false) : Move live k { k with started := true }
  | emptied (k' : Keeper) (stopped : k'.started = false)
      (rooms : ∀ secret, k'.room secret = { (k.room secret).vacated with data := none })
      (policy : k'.policy = k.policy) (now : k'.now = k.now) (owned : k'.owned = k.owned)
      (journal : k'.journal = k.journal) : Move live k k'
  | published (secret : Secret) (lease : Lease) (data : TextMap String) (running : live)
      (started : k.started = true) :
      Move live k ((k.setRoom secret { k.room secret with data := some data }).emit
        (.created secret lease data))
  | expired (secret : Secret) : Move live k (k.setRoom secret { k.room secret with data := none })
  | installed (secret : Secret) (lease : Lease) (number : Nat) (line : Line) (deadline : Nat)
      (running : live) (started : k.started = true)
      (schedulable : isSchedulable secret lease = true)
      (numbered : (k.room secret).lineNumber? = some number)
      (found : (k.room secret).lines[number]? = some line)
      (fits : deadline? k.now lease.span = some deadline) :
      Move live k (k.arm secret number
        { line with lineage := line.lineage.replaced lease deadline } (line.lineage.issued + 1)
        (k.policy.delay lease))
  | outlasted (secret : Secret) (lease : Lease) (number : Nat) (line : Line) (running : live)
      (started : k.started = true) (numbered : (k.room secret).lineNumber? = some number)
      (found : (k.room secret).lines[number]? = some line)
      (overflow : deadline? k.now lease.span = none) :
      Move live k (k.relined secret number line (line.lineage.issue true))
  | disabled (secret : Secret) (lease : Lease) (number : Nat) (line : Line) (running : live)
      (started : k.started = true) (unschedulable : isSchedulable secret lease = false)
      (numbered : (k.room secret).lineNumber? = some number)
      (found : (k.room secret).lines[number]? = some line) :
      Move live k (k.relined secret number line line.lineage.disable.1)
  | claimed (secret : Secret) (number generation due : Nat) (line : Line) (held : Held)
      (found : (k.room secret).lines[number]? = some line)
      (waiting : line.waits.lookup generation = some due) (ripe : due ≤ k.now)
      (before : line.lineage.slot = some held) (own : held.generation = generation)
      (scheduled : held.phase = .scheduled) :
      Move live k (k.fired secret number line
        { line.lineage.unregister generation with slot := some { held with phase := .renewing } }
        generation)
  | missed (secret : Secret) (number generation due : Nat) (line : Line)
      (found : (k.room secret).lines[number]? = some line)
      (waiting : line.waits.lookup generation = some due) (ripe : due ≤ k.now)
      (moved : ∀ held, line.lineage.slot = some held → held.generation = generation →
        held.phase ≠ .scheduled) :
      Move live k (k.fired secret number line (line.lineage.unregister generation) generation)
  | noticed (secret : Secret) (number generation : Nat) (line : Line)
      (found : (k.room secret).lines[number]? = some line)
      (cancelled : line.lineage.isCancelled generation = true) :
      Move live k (k.fired secret number line line.lineage generation)
  | resumed (secret : Secret) (number generation next delay : Nat) (line : Line)
      (result : Except Fault Lease) (after : Lineage)
      (found : (k.room secret).lines[number]? = some line)
      (ending : Ending line.lineage k.policy.strategy k.policy.floor k.policy.threshold k.now
        generation Lease.renewable result after (.wait next delay)) :
      Move live k (k.arm secret number { line with lineage := after } next delay)
  | concluded (secret : Secret) (number generation : Nat) (line : Line)
      (result : Except Fault Lease) (after : Lineage) (next : Next)
      (found : (k.room secret).lines[number]? = some line)
      (ending : Ending line.lineage k.policy.strategy k.policy.floor k.policy.threshold k.now
        generation Lease.renewable result after next)
      (final : ∀ generation delay, next ≠ .wait generation delay) :
      Move live k (k.relined secret number line after)

abbrev Moves (live : Prop) : Keeper → Keeper → Prop := Relation.ReflTransGen (Move live)

theorem emptied_move {live : Prop} (k : Keeper) : Move live k k.emptied := by
  obtain ⟨rooms, frame⟩ := emptied_frame k
  refine .emptied _ ?_ (room_emptied k) ?_ ?_ ?_ ?_
  · exact congrArg Keeper.started frame
  · exact (congrArg Keeper.policy frame :)
  · exact (congrArg Keeper.now frame :)
  · exact (congrArg Keeper.owned frame :)
  · exact (congrArg Keeper.journal frame :)

namespace Moves

variable {live : Prop} {k k' : Keeper}

theorem none (k : Keeper) : Moves live k k := .refl

theorem one (move : Move live k k') : Moves live k k' := .single move

theorem of_aside (aside : Aside k k') : Moves live k k' := .single (.aside k' aside)

theorem before_aside {k'' : Keeper} (moves : Moves live k k') (aside : Aside k' k'') :
    Moves live k k'' := moves.tail (.aside k'' aside)

end Moves

theorem Moves.keep {live : Prop} {P : Keeper → Prop}
    (each : ∀ k k', Move live k k' → P k → P k') {k k' : Keeper} (moves : Moves live k k')
    (holds : P k) : P k' := by
  induction moves with
  | refl => exact holds
  | tail _ last ih => exact each _ _ last ih

/-- The journal only grows. -/
theorem Move.journal {live : Prop} {k k' : Keeper} (move : Move live k k') :
    ∃ fresh, k'.journal = fresh ++ k.journal := by
  cases move with
  | aside k' aside => exact aside.journal.imp fun _ => And.left
  | called => exact ⟨[_], rfl⟩
  | asked => exact ⟨[_], rfl⟩
  | emptied k' stopped rooms policy now owned journal => exact ⟨[], journal⟩
  | published secret lease data =>
    obtain ⟨fresh, journal, _⟩ := (emit_tells (k.setRoom secret
      { k.room secret with data := some data }) (.created secret lease data)).journal
    exact ⟨fresh ++ [_], journal.trans (List.append_cons _ _ _)⟩
  | installed => exact ⟨[_], rfl⟩
  | resumed => exact ⟨[_], rfl⟩
  | _ => exact ⟨[], rfl⟩

theorem Moves.journal {live : Prop} {k k' : Keeper} (moves : Moves live k k') :
    ∃ fresh, k'.journal = fresh ++ k.journal := by
  refine moves.keep (P := fun k' => ∃ fresh, k'.journal = fresh ++ k.journal) ?_ ⟨[], rfl⟩
  rintro k₁ k₂ move ⟨early, before⟩
  obtain ⟨late, after⟩ := move.journal
  exact ⟨late ++ early, by rw [after, before, List.append_assoc]⟩

end LeaseKeeper.Keeper

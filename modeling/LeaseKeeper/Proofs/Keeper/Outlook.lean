import LeaseKeeper.Proofs.Keeper.Stocked

/-!
What is to be expected of a secret's lease, its generation apart: the lease, its phase, its end, and
when the timer is due that it waits for. A lease that is scheduled gets the same outlook whichever
way it came, since no task waits yet under a generation that was not handed out.
-/
namespace LeaseKeeper

open Lineage

structure Outlook where
  lease : Lease
  phase : Phase
  deadline : Nat
  due : Option Nat
  deriving DecidableEq, Repr

namespace Line

def outlook (line : Line) : Option Outlook :=
  line.lineage.slot.map fun held =>
    ⟨held.lease, held.phase, held.deadline, line.waits.lookup held.generation⟩

def Fresh (line : Line) : Prop := ∀ entry ∈ line.waits, entry.1 ≤ line.lineage.issued

variable {line : Line}

theorem outlook_of_slot {held : Held} (slot : line.lineage.slot = some held) :
    line.outlook =
      some ⟨held.lease, held.phase, held.deadline, line.waits.lookup held.generation⟩ := by
  simp [outlook, slot]

theorem Fresh.later (fresh : line.Fresh) {lineage : Lineage}
    (issued : line.lineage.issued ≤ lineage.issued) : Line.Fresh { line with lineage } := by
  intro entry member
  exact Nat.le_trans (fresh entry member) issued

theorem Fresh.leave (fresh : line.Fresh) {lineage : Lineage}
    (issued : line.lineage.issued ≤ lineage.issued) (generation : Nat) :
    Line.Fresh ⟨lineage, line.waits.filter (·.1 != generation)⟩ := by
  intro entry member
  exact Nat.le_trans (fresh entry (List.mem_filter.mp member).1) issued

theorem Fresh.wait (fresh : line.Fresh) {lineage : Lineage}
    (issued : line.lineage.issued ≤ lineage.issued) {generation : Nat}
    (bound : generation ≤ lineage.issued) (due : Nat) :
    Line.Fresh ⟨lineage, line.waits ++ [(generation, due)]⟩ := by
  intro entry member
  rcases List.mem_append.mp member with old | new
  · exact Nat.le_trans (fresh entry old) issued
  · rw [List.mem_singleton.mp new]
    exact bound

theorem Fresh.lookup_wait (fresh : line.Fresh) {generation : Nat}
    (new : line.lineage.issued < generation) (due : Nat) :
    (line.waits ++ [(generation, due)]).lookup generation = some due := by
  have absent : line.waits.lookup generation = none := by
    refine List.lookup_eq_none_iff.mpr ?_
    intro entry member
    have bound := fresh entry member
    have differ : generation ≠ entry.1 := by omega
    simpa using differ
  simp [List.lookup_append, absent]

end Line

theorem Lineage.Ending.wait_le {l : Lineage} {strategy : Strategy} {floor threshold now g : Nat}
    {reschedule : Lease → Bool} {result : Except Fault Lease} {after : Lineage}
    {generation delay : Nat}
    (ending : Ending l strategy floor threshold now g reschedule result after
      (.wait generation delay)) : generation ≤ after.issued := by
  cases ending <;> simp [issue]

namespace Room

def Fresh (r : Room) : Prop :=
  ∀ (number : Nat) (line : Line), r.lines[number]? = some line → line.Fresh

variable {r : Room}

theorem Fresh.of_lines (fresh : r.Fresh) {other : Room} (lines : other.lines = r.lines) :
    other.Fresh := by
  intro number line found
  exact fresh number line (lines ▸ found)

theorem Fresh.setLine (fresh : r.Fresh) {number : Nat} {line : Line} (here : line.Fresh) :
    (r.setLine number line).Fresh := by
  intro other found_line found
  rw [setLine_lines] at found
  split at found
  · obtain ⟨_, _, rfl⟩ := Option.map_eq_some_iff.mp found
    exact here
  · exact fresh other found_line found

theorem Fresh.open (fresh : r.Fresh) :
    Fresh { r with lines := r.lines ++ [⟨.new, []⟩], registered := true } := by
  intro number line found
  rcases List.mem_append.mp (List.mem_of_getElem? found) with old | new
  · obtain ⟨place, present⟩ := List.getElem?_of_mem old
    exact fresh place line present
  · obtain rfl := List.mem_singleton.mp new
    intro entry member
    cases member

theorem Fresh.vacated (fresh : r.Fresh) : r.vacated.Fresh := by
  cases used : r.line? with
  | none =>
    rw [vacated_of_no_line used]
    exact fresh
  | some line =>
    obtain ⟨number, numbered, found⟩ := line?_eq_some used
    rw [vacated_of_line numbered found]
    apply fresh.setLine
    exact (fresh number line found).later (Nat.le_refl _)

def outlook (r : Room) : Option Outlook := r.line?.bind Line.outlook

structure Uses (r : Room) (number : Nat) (line : Line) : Prop where
  used : r.lineNumber? = some number
  found : r.lines[number]? = some line

variable {number : Nat} {line : Line}

theorem Uses.line? (uses : r.Uses number line) : r.line? = some line :=
  (line?_of_number uses.used).trans uses.found

theorem Uses.outlook (uses : r.Uses number line) : r.outlook = line.outlook := by
  simp [Room.outlook, uses.line?]

theorem Uses.setLine (uses : r.Uses number line) (other : Line) :
    (r.setLine number other).Uses number other :=
  ⟨(setLine_lineNumber? r number other).trans uses.used, setLine_lines_self uses.found other⟩

end Room

namespace Keeper

variable {k k' : Keeper} {secret : Secret} {number : Nat} {line : Line}

def outlook (k : Keeper) (secret : Secret) : Option Outlook := (k.room secret).outlook

def nextDue (k : Keeper) (secret : Secret) : Option Nat :=
  (k.outlook secret).bind fun outlook => if outlook.phase = .scheduled then outlook.due else none

theorem current_of_outlook : k.current secret = (k.outlook secret).map Outlook.lease := by
  unfold current outlook Room.current Room.outlook
  cases (k.room secret).line? with
  | none => rfl
  | some line => simp [Line.outlook, Lineage.current, Function.comp_def]

theorem isActive_of_outlook :
    (k.room secret).isActive = (k.outlook secret).any (·.phase != .dormant) := by
  unfold outlook Room.isActive Room.outlook
  cases (k.room secret).line? with
  | none => rfl
  | some line => cases slot : line.lineage.slot <;> simp [Line.outlook, Lineage.isActive, slot]

/-! ### Generations of the tasks that wait -/

def Fresh (k : Keeper) : Prop := ∀ secret, (k.room secret).Fresh

theorem Fresh.setRoom (fresh : k.Fresh) {room : Room} (here : room.Fresh) :
    (k.setRoom secret room).Fresh :=
  forall_setRoom (P := fun _ room => room.Fresh) here fresh

theorem Fresh.of_rooms (fresh : k.Fresh) (rooms : k'.rooms = k.rooms) : k'.Fresh :=
  fun secret => room_of_rooms rooms secret ▸ fresh secret

theorem Move.fresh {live : Prop} (move : Move live k k') (fresh : k.Fresh) : k'.Fresh := by
  have kept {secret : Secret} {room : Room} (lines : room.lines = (k.room secret).lines) :
      (k.setRoom secret room).Fresh := fresh.setRoom ((fresh secret).of_lines lines)
  have placed {secret : Secret} {number : Nat} {line : Line} (here : line.Fresh) :
      (k.setRoom secret ((k.room secret).setLine number line)).Fresh :=
    fresh.setRoom ((fresh secret).setLine here)
  cases move with
  | aside k' aside => exact fresh.of_rooms aside.rooms
  | called secret purpose errand =>
    have boarded : (k.setRoom secret ((k.room secret).board purpose errand)).Fresh := kept rfl
    exact boarded.of_rooms rfl
  | promised => exact kept rfl
  | asked secret ticket =>
    have turned : (k.setRoom secret ((k.room secret).ask ticket)).Fresh := kept rfl
    exact turned.of_rooms rfl
  | landed => exact kept rfl
  | crashed ticket =>
    intro secret
    rw [room_dropTicket]
    exact (fresh secret).of_lines rfl
  | passed => exact fresh.of_rooms rfl
  | disowned => exact fresh.of_rooms rfl
  | opened secret => exact fresh.setRoom (fresh secret).open
  | forgotten secret => exact fresh.setRoom ((fresh secret).vacated.of_lines rfl)
  | begun => exact fresh.of_rooms rfl
  | emptied k' stopped rooms =>
    intro secret
    rw [rooms]
    exact (fresh secret).vacated.of_lines rfl
  | published secret lease data =>
    have stored : (k.setRoom secret { k.room secret with data := some data }).Fresh := kept rfl
    exact stored.of_rooms (emit_tells _ _).rooms
  | expired => exact kept rfl
  | installed secret lease number line deadline running started schedulable numbered found =>
    have installed : (k.setRoom secret ((k.room secret).setLine number
        ⟨line.lineage.replaced lease deadline,
          line.waits ++ [(line.lineage.issued + 1, k.now + k.policy.delay lease)]⟩)).Fresh :=
      placed ((fresh secret number line found).wait (by simp) (by simp) _)
    exact installed.of_rooms rfl
  | outlasted secret lease number line running started numbered found =>
    exact placed ((fresh secret number line found).later (Nat.le_succ _))
  | disabled secret lease number line running started unschedulable numbered found =>
    exact placed ((fresh secret number line found).later (Nat.le_refl _))
  | claimed secret number generation due line held found =>
    exact placed ((fresh secret number line found).leave (Nat.le_refl _) generation)
  | missed secret number generation due line found =>
    exact placed ((fresh secret number line found).leave (Nat.le_refl _) generation)
  | noticed secret number generation line found =>
    exact placed ((fresh secret number line found).leave (Nat.le_refl _) generation)
  | resumed secret number generation next delay line result after found ending =>
    have resumed : (k.setRoom secret ((k.room secret).setLine number
        ⟨after, line.waits ++ [(next, k.now + delay)]⟩)).Fresh :=
      placed ((fresh secret number line found).wait ending.issued_le ending.wait_le _)
    exact resumed.of_rooms rfl
  | concluded secret number generation line result after next found ending =>
    exact placed ((fresh secret number line found).later ending.issued_le)

theorem run_fresh (policy : LeasePolicy) (events : List KeeperEvent) :
    ((new policy).run events).Fresh := by
  refine run_keep (fun k event => (step_moves k event).keep fun _ _ move => move.fresh) ?_ events
  intro secret number line found
  cases found

/-! ### Scheduling a lease -/

structure Stands (k : Keeper) (secret : Secret) (number : Nat) (line : Line) : Prop where
  started : k.started = true
  uses : (k.room secret).Uses number line
  fresh : line.Fresh
  idle : (k.room secret).flights = []

def planned (k : Keeper) (secret : Secret) (lease : Lease) : Option Outlook :=
  if isSchedulable secret lease then
    some ⟨lease, .scheduled, k.now + lease.span, some (k.now + k.policy.delay lease)⟩
  else none

theorem deadline_of_fits {now span deadline : Nat} (fits : deadline? now span = some deadline) :
    deadline = now + span := by
  unfold deadline? at fits
  split at fits
  · exact (Option.some.inj fits).symm
  · cases fits

theorem outlook_planned {lineage : Lineage} {lease : Lease} {generation deadline : Nat}
    (fresh : line.Fresh) (schedulable : isSchedulable secret lease = true)
    (slot : lineage.slot = some ⟨generation, lease, .scheduled, deadline⟩)
    (new : line.lineage.issued < generation) (fits : deadline? k.now lease.span = some deadline) :
    Line.outlook ⟨lineage, line.waits ++ [(generation, k.now + k.policy.delay lease)]⟩ =
      k.planned secret lease := by
  rw [Line.outlook_of_slot slot, fresh.lookup_wait new, planned, if_pos schedulable,
    deadline_of_fits fits]

theorem Stands.schedule (stands : k.Stands secret number line) {lease : Lease}
    (fits : isSchedulable secret lease = true → (deadline? k.now lease.span).isSome = true) :
    ∃ k' line', k.schedule secret lease = (k', .kept) ∧ k'.Stands secret number line' ∧
      k'.outlook secret = k.planned secret lease ∧
      ∀ held, line'.lineage.slot = some held → line.lineage.issued < held.generation := by
  have placed (k' : Keeper) {line' : Line} (started : k'.started = true)
      (room : k'.room secret = (k.room secret).setLine number line') (fresh : line'.Fresh) :
      k'.Stands secret number line' := by
    refine ⟨started, ?_, fresh, ?_⟩
    · rw [room]
      exact stands.uses.setLine line'
    · rw [room]
      exact stands.idle
  have scheduled := schedule_scheduled k secret lease
  generalize k.schedule secret lease = outcome at scheduled
  cases scheduled with
  | refused closed =>
    rcases closed with absent | stopped
    · rw [stands.uses.line?] at absent
      cases absent
    · rw [stands.started] at stopped
      cases stopped
  | outlasted number' line' started schedulable numbered found overflow =>
    have some_deadline := fits schedulable
    simp [overflow] at some_deadline
  | installed number' line' deadline level started schedulable numbered found within =>
    obtain rfl := Option.some.inj (numbered.symm.trans stands.uses.used)
    obtain rfl := Option.some.inj (found.symm.trans stands.uses.found)
    have stands' := placed ((k.arm secret number'
      { line' with lineage := line'.lineage.replaced lease deadline } (line'.lineage.issued + 1)
      (k.policy.delay lease)).setGauge level) started (room_setRoom_self k secret _)
      (stands.fresh.wait (by simp) (by simp) (k.now + k.policy.delay lease))
    refine ⟨_, _, rfl, stands', ?_, ?_⟩
    · rw [outlook, stands'.uses.outlook]
      exact (outlook_planned stands.fresh schedulable (replaced_slot _ lease deadline)
        (Nat.lt_succ_self _) within :)
    · intro held slot
      rw [replaced_slot] at slot
      obtain rfl := Option.some.inj slot
      exact Nat.lt_succ_self _
  | disabled number' line' level started unschedulable numbered found =>
    obtain rfl := Option.some.inj (numbered.symm.trans stands.uses.used)
    obtain rfl := Option.some.inj (found.symm.trans stands.uses.found)
    have stands' := placed ((k.relined secret number' line'
      line'.lineage.disable.1).setGauge level) started (room_setRoom_self k secret _)
      (stands.fresh.later (Nat.le_refl _))
    refine ⟨_, _, rfl, stands', ?_, nofun⟩
    rw [outlook, stands'.uses.outlook, planned, unschedulable]
    rfl

end Keeper
end LeaseKeeper

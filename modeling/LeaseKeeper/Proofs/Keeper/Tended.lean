import LeaseKeeper.Proofs.Keeper.Demand

/-!
A room that is looked after: a fetch of the secret is under way, or a task waits for the timer of
the current lease, or the store is asked on behalf of that lease. A task that is answered with a
lease to be renewed again leaves the room looked after.
-/
namespace LeaseKeeper

open Lineage

namespace Lineage

variable {l after : Lineage} {strategy : Strategy} {floor threshold now g : Nat}
  {result : Except Fault Lease} {next : Next}

/-- The task of a renewal finds its slot taken, or goes on with the renewed lease. -/
inductive Extended (l : Lineage) (g : Nat) : Lineage → Next → Prop where
  | taken (moved : ∀ held, l.slot = some held → held.generation = g → held.phase ≠ .renewing) :
      Extended l g l .stop
  | again (held : Held) (lease : Lease) (deadline delay : Nat) (slot : l.slot = some held)
      (own : held.generation = g) (renewing : held.phase = .renewing) :
      Extended l g
        { l.issue true with slot := some ⟨l.issued + 1, lease, .scheduled, deadline⟩ }
        (.wait (l.issued + 1) delay)

theorem Ending.extended
    (ending : Ending l strategy floor threshold now g Lease.renewable result after next)
    (granted : ∀ held, l.slot = some held → held.generation = g →
      ∃ lease, result = .ok lease ∧ lease.hasId = true ∧ lease.renewable = true ∧
        (deadline? now lease.span).isSome = true) : Extended l g after next := by
  cases ending with
  | stale _ moved => exact .taken moved
  | forgotten next held empty before own =>
    obtain ⟨_, ⟨⟩, id, _⟩ := granted held before own
    rw [empty] at id
    cases id
  | dropped fault held drop before own =>
    obtain ⟨_, ⟨⟩, _⟩ := granted held before own
  | renewed next held deadline id again before own renewing =>
    exact .again held next deadline _ before own renewing
  | rested next held deadline id last before own =>
    obtain ⟨_, ⟨⟩, _, again, _⟩ := granted held before own
    rw [last] at again
    cases again
  | retained fault held retryAt keep before own =>
    obtain ⟨_, ⟨⟩, _⟩ := granted held before own
  | exhausted fault held retryAt keep before own =>
    obtain ⟨_, ⟨⟩, _⟩ := granted held before own
  | outlasted next held id before own renewing overflow =>
    obtain ⟨_, ⟨⟩, _, _, fits⟩ := granted held before own
    rw [overflow] at fits
    cases fits
  | overran fault held keep before own =>
    obtain ⟨_, ⟨⟩, _⟩ := granted held before own

end Lineage

namespace Room

def Asked (r : Room) : Prop :=
  ∃ flight ∈ r.flights, flight.purpose.isFetch = true ∧ flight.errand = .fetch

structure Holds (r : Room) (number : Nat) (line : Line) (held : Held) : Prop where
  used : r.lineNumber? = some number
  found : r.lines[number]? = some line
  slot : line.lineage.slot = some held

def Waiting (r : Room) : Prop :=
  ∃ number line held, r.Holds number line held ∧ held.phase = .scheduled ∧
    (line.waits.lookup held.generation).isSome = true

def Renewing (r : Room) (number generation : Nat) : Prop :=
  ∃ line held, r.Holds number line held ∧ held.generation = generation ∧ held.phase = .renewing

def Pursued (r : Room) : Prop :=
  ∃ number generation, r.Renewing number generation ∧ ∃ flight ∈ r.flights,
    flight.purpose = .timer number generation ∧
      ∀ lease result, flight.errand ≠ .revoke lease result

def Tended (r : Room) : Prop := r.Asked ∨ r.Waiting ∨ r.Pursued

def Tidy (r : Room) : Prop :=
  ∀ (number : Nat) (line : Line), r.lines[number]? = some line → line.lineage.Tidy

structure Grows (r r' : Room) : Prop where
  lines : r'.lines = r.lines
  registered : r'.registered = r.registered
  flights : ∀ flight ∈ r.flights, flight ∈ r'.flights

variable {r r' : Room}

namespace Grows

theorem refl (r : Room) : Grows r r := ⟨rfl, rfl, fun _ => id⟩

theorem of_eq (same : r' = r) : Grows r r' := same ▸ refl r

theorem board (r : Room) (purpose : Purpose) (errand : Errand) : Grows r (r.board purpose errand) :=
  ⟨rfl, rfl, fun _ => List.mem_append_left _⟩

theorem promise (r : Room) (ticket : Nat) : Grows r (r.promise ticket) :=
  ⟨rfl, rfl, fun _ => List.mem_append_left _⟩

theorem ask (r : Room) (ticket : Nat) : Grows r (r.ask ticket) := ⟨rfl, rfl, fun _ => id⟩

end Grows

section
variable (lines : r'.lines = r.lines) (registered : r'.registered = r.registered)
include lines registered

theorem Holds.of_lines {number : Nat} {line : Line} {held : Held}
    (holds : r.Holds number line held) : r'.Holds number line held := by
  refine ⟨?_, lines ▸ holds.found, holds.slot⟩
  rw [← holds.used, lineNumber?, lineNumber?, lines, registered]

theorem Waiting.of_lines (waiting : r.Waiting) : r'.Waiting := by
  obtain ⟨number, line, held, holds, rest⟩ := waiting
  exact ⟨number, line, held, holds.of_lines lines registered, rest⟩

theorem Renewing.of_lines {number generation : Nat} (renewing : r.Renewing number generation) :
    r'.Renewing number generation := by
  obtain ⟨line, held, holds, rest⟩ := renewing
  exact ⟨line, held, holds.of_lines lines registered, rest⟩

end

theorem Grows.renewing (grows : Grows r r') {number generation : Nat}
    (renewing : r.Renewing number generation) : r'.Renewing number generation :=
  renewing.of_lines grows.lines grows.registered

theorem Grows.tended (grows : Grows r r') (tended : r.Tended) : r'.Tended := by
  rcases tended with ⟨flight, flying, rest⟩ | waiting |
    ⟨number, generation, renewing, flight, flying, rest⟩
  · exact Or.inl ⟨flight, grows.flights flight flying, rest⟩
  · exact Or.inr (Or.inl (waiting.of_lines grows.lines grows.registered))
  · exact Or.inr (Or.inr ⟨number, generation, grows.renewing renewing, flight,
      grows.flights flight flying, rest⟩)

theorem Tidy.of_lines (tidy : r.Tidy) (lines : r'.lines = r.lines) : r'.Tidy := by
  intro number line found
  exact tidy number line (lines ▸ found)

theorem Grows.tidy (grows : Grows r r') (tidy : r.Tidy) : r'.Tidy := tidy.of_lines grows.lines

theorem Tidy.setLine (tidy : r.Tidy) (number : Nat) {line : Line} (fresh : line.lineage.Tidy) :
    (r.setLine number line).Tidy := by
  intro other found_line found
  rw [setLine_lines] at found
  split at found
  · obtain ⟨_, _, rfl⟩ := Option.map_eq_some_iff.mp found
    exact fresh
  · exact tidy other found_line found

theorem Tidy.open (tidy : r.Tidy) :
    Tidy { r with lines := r.lines ++ [⟨.new, []⟩], registered := true } := by
  intro number line found
  rcases List.mem_append.mp (List.mem_of_getElem? found) with old | fresh
  · obtain ⟨place, present⟩ := List.getElem?_of_mem old
    exact tidy place line present
  · obtain rfl := List.mem_singleton.mp fresh
    exact tidy_new

theorem Tidy.vacated (tidy : r.Tidy) : r.vacated.Tidy := by
  cases used : r.line? with
  | none =>
    rw [vacated_of_no_line used]
    exact tidy
  | some line =>
    obtain ⟨number, numbered, found⟩ := line?_eq_some used
    rw [vacated_of_line numbered found]
    exact tidy.setLine number (tidy number line found).disable

theorem Tended.leave (tended : r.Tended) {number generation : Nat} {line : Line}
    {lineage : Lineage} (found : r.lines[number]? = some line)
    (slot : lineage.slot = line.lineage.slot)
    (other : ∀ held, line.lineage.slot = some held → held.phase = .scheduled →
      held.generation ≠ generation) :
    (r.setLine number ⟨lineage, line.waits.filter (·.1 != generation)⟩).Tended := by
  have holds {own : Nat} {old : Line} {held : Held} (holds : r.Holds own old held) :
      ∃ line', (r.setLine number ⟨lineage, line.waits.filter (·.1 != generation)⟩).Holds own line'
        held ∧ (line' = old ∨ own = number ∧
          line' = ⟨lineage, line.waits.filter (·.1 != generation)⟩) := by
    have used := (setLine_lineNumber? r number
      ⟨lineage, line.waits.filter (·.1 != generation)⟩).trans holds.used
    by_cases same : number = own
    · subst same
      obtain rfl := Option.some.inj (found.symm.trans holds.found)
      exact ⟨_, ⟨used, setLine_lines_self found _, slot.trans holds.slot⟩, Or.inr ⟨rfl, rfl⟩⟩
    · refine ⟨old, ⟨used, ?_, holds.slot⟩, Or.inl rfl⟩
      rw [setLine_lines, if_neg same]
      exact holds.found
  rcases tended with asked | ⟨own, old, held, before, scheduled, waiting⟩ |
    ⟨own, g, ⟨old, held, before, rest⟩, flight⟩
  · exact Or.inl asked
  · obtain ⟨line', after, rfl | ⟨rfl, rfl⟩⟩ := holds before
    · exact Or.inr (Or.inl ⟨own, line', held, after, scheduled, waiting⟩)
    · refine Or.inr (Or.inl ⟨own, _, held, after, scheduled, ?_⟩)
      obtain rfl := Option.some.inj (found.symm.trans before.found)
      obtain ⟨entry, member, same⟩ := List.lookup_isSome_iff.mp waiting
      refine List.lookup_isSome_iff.mpr ⟨entry, List.mem_filter.mpr ⟨member, ?_⟩, same⟩
      have differ := other held before.slot scheduled
      simpa [← eq_of_beq same] using differ
  · obtain ⟨line', after, _⟩ := holds before
    exact Or.inr (Or.inr ⟨own, g, ⟨line', held, after, rest⟩, flight⟩)

end Room

namespace Keeper

variable {k k' : Keeper} {secret : Secret}

theorem call_grows (k : Keeper) (other : Secret) (purpose : Purpose) (errand : Errand)
    (secret : Secret) :
    (k.room secret).Grows ((k.call other purpose errand).room secret) :=
  forall_setRoom (P := fun secret room => (k.room secret).Grows room) (.board _ purpose errand)
    (fun _ => .refl _) secret

theorem promise_grows (k : Keeper) (other : Secret) (ticket : Nat) (secret : Secret) :
    (k.room secret).Grows ((k.promise other ticket).room secret) :=
  forall_setRoom (P := fun secret room => (k.room secret).Grows room) (.promise _ ticket)
    (fun _ => .refl _) secret

theorem asked_grows (k : Keeper) (other : Secret) (ticket : Nat) (secret : Secret) :
    (k.room secret).Grows ((k.asked other ticket).room secret) :=
  forall_setRoom (P := fun secret room => (k.room secret).Grows room) (.ask _ ticket)
    (fun _ => .refl _) secret

theorem revoke_grows (k : Keeper) (other : Secret) (purpose : Purpose) (lease : Lease)
    (result : Except Fault Lease) (secret : Secret) :
    (k.room secret).Grows ((k.revoke other purpose lease result).room secret) := by
  have grows := call_grows (k.emit (.beforeRevocation other lease)) other purpose
    (.revoke lease result) secret
  rw [emit_room] at grows
  exact grows

theorem renewOrFetch_grows (k : Keeper) (other : Secret) (purpose : Purpose) (lease : Lease)
    (secret : Secret) :
    (k.room secret).Grows ((k.renewOrFetch other purpose lease).room secret) := by
  unfold renewOrFetch
  split
  · exact call_grows k other purpose _ secret
  · exact call_grows k other purpose _ secret

theorem called (k : Keeper) (secret : Secret) (purpose : Purpose) (errand : Errand) :
    ⟨purpose, errand⟩ ∈ ((k.call secret purpose errand).room secret).flights := by
  have room : (k.call secret purpose errand).room secret = (k.room secret).board purpose errand :=
    room_setRoom_self k secret _
  rw [room]
  exact List.mem_append_right _ List.mem_cons_self

theorem promised (k : Keeper) (secret : Secret) (ticket : Nat) :
    ⟨.start ticket, .fetch⟩ ∈ ((k.promise secret ticket).room secret).flights := by
  have room : (k.promise secret ticket).room secret = (k.room secret).promise ticket :=
    room_setRoom_self k secret _
  rw [room]
  exact List.mem_append_right _ List.mem_cons_self

theorem renewOrFetch_called (k : Keeper) (secret : Secret) (purpose : Purpose) (lease : Lease) :
    ∃ errand, ⟨purpose, errand⟩ ∈ ((k.renewOrFetch secret purpose lease).room secret).flights ∧
      ∀ lease result, errand ≠ .revoke lease result := by
  unfold renewOrFetch
  split
  · exact ⟨.fetch, called k secret purpose _, by simp⟩
  · exact ⟨.renew lease, called k secret purpose _, by simp⟩

theorem room_grows_of_ne {other : Secret} (differ : secret ≠ other) (room : Room) :
    (k.room secret).Grows ((k.setRoom other room).room secret) :=
  .of_eq (room_setRoom_of_ne k other differ room)

theorem waiting_of_arm {number : Nat} {line : Line} {held : Held}
    (used : (k.room secret).lineNumber? = some number)
    (found : (k.room secret).lines[number]? = some line) (lineage : Lineage)
    (slot : lineage.slot = some held) (scheduled : held.phase = .scheduled) (delay : Nat) :
    ((k.arm secret number { line with lineage } held.generation delay).room secret).Waiting := by
  have still := (lineNumber_arm k secret number { line with lineage } held.generation delay
    secret).trans used
  refine ⟨number, _, held, ⟨still, lines_arm found lineage held.generation delay, slot⟩,
    scheduled, ?_⟩
  exact List.lookup_isSome_iff.mpr ⟨_, List.mem_append_right _ List.mem_cons_self,
    beq_self_eq_true _⟩

theorem Scheduled.waiting {lease : Lease} {kind : Scheduling}
    (scheduled : Scheduled k secret lease (k', kind)) (kept : kind = .kept)
    (schedulable : isSchedulable secret lease = true) : (k'.room secret).Waiting := by
  cases scheduled with
  | refused => cases kept
  | outlasted => cases kept
  | disabled number line level started unschedulable =>
    rw [schedulable] at unschedulable
    cases unschedulable
  | installed number line deadline level started _ used found fits =>
    exact waiting_of_arm used found _ (replaced_slot line.lineage lease deadline) rfl _

theorem holds_of_slot (rested : k.Rested) {number : Nat} {line : Line} {held : Held}
    (found : (k.room secret).lines[number]? = some line) (slot : line.lineage.slot = some held) :
    (k.room secret).Holds number line held := by
  refine ⟨Classical.byContradiction fun unused => ?_, found, slot⟩
  rw [(rested.retired secret number line found unused).slot] at slot
  cases slot

theorem tidy_setRoom {other : Secret} {room : Room} (tidy : (k.room secret).Tidy)
    (here : other = secret → room.Tidy) : ((k.setRoom other room).room secret).Tidy := by
  by_cases same : secret = other
  · subst same
    rw [room_setRoom_self]
    exact here rfl
  · rw [room_setRoom_of_ne k other same]
    exact tidy

end Keeper
end LeaseKeeper

import LeaseKeeper.Proofs.Keeper.Tended
import LeaseKeeper.Proofs.Keeper.Twins
import LeaseKeeper.Proofs.Keeper.Mirrors

/-!
A secret for which nobody acts but its timer, while anything may happen to the others. From a state
in which nothing is asked for it, the store is never asked for more than one thing on its behalf:
the renewal of its current lease, or the fetch in its stead, with the lease in its slot all the
while.
-/
namespace LeaseKeeper

open Lineage

namespace Room

variable {r r' : Room} {number generation : Nat} {line line' : Line}

theorem Renewing.setLine (renewing : r.Renewing number generation) {other : Nat}
    (found : r.lines[other]? = some line) (slot : line'.lineage.slot = line.lineage.slot) :
    (r.setLine other line').Renewing number generation := by
  obtain ⟨old, held, holds, rest⟩ := renewing
  have used := (setLine_lineNumber? r other line').trans holds.used
  by_cases same : other = number
  · subst same
    obtain rfl := Option.some.inj (found.symm.trans holds.found)
    exact ⟨line', held, ⟨used, setLine_lines_self found line', slot.trans holds.slot⟩, rest⟩
  · refine ⟨old, held, ⟨used, ?_, holds.slot⟩, rest⟩
    rw [setLine_lines, if_neg same]
    exact holds.found

theorem Renewing.unique {other claimed : Nat} (renewing : r.Renewing number generation)
    (renewing' : r.Renewing other claimed) : number = other ∧ generation = claimed := by
  obtain ⟨line, held, holds, own, _⟩ := renewing
  obtain ⟨line', held', holds', own', _⟩ := renewing'
  obtain rfl := Option.some.inj (holds.used.symm.trans holds'.used)
  obtain rfl := Option.some.inj (holds.found.symm.trans holds'.found)
  obtain rfl := Option.some.inj (holds.slot.symm.trans holds'.slot)
  exact ⟨rfl, own.symm.trans own'⟩

/-- The store is asked for nothing but the renewal of the current lease by its timer. -/
def Devoted (r : Room) : Prop :=
  ∀ flight ∈ r.flights, ∃ number generation, flight.purpose = .timer number generation ∧
    r.Renewing number generation

theorem devoted_of_idle (idle : r.flights = []) : r.Devoted := by
  intro flight flying
  rw [idle] at flying
  cases flying

theorem Devoted.renewing (devoted : r.Devoted) {flight : Flight}
    (flown : r.flight? (.timer number generation) = some flight) :
    r.Renewing number generation := by
  obtain ⟨_, _, own, renewing⟩ := devoted flight (Room.mem_of_flight? flown)
  rw [flight?_purpose flown] at own
  cases own
  exact renewing

theorem Devoted.landed (devoted : r.Devoted) (renewing : r.Renewing number generation) :
    (r.dropFlight (.timer number generation)).flights = [] := by
  refine List.filter_eq_nil_iff.mpr fun flight flying => ?_
  obtain ⟨other, claimed, own, renewing'⟩ := devoted flight flying
  obtain ⟨rfl, rfl⟩ := renewing.unique renewing'
  simp [own]

theorem Devoted.setLine (devoted : r.Devoted) (found : r.lines[number]? = some line)
    (slot : line'.lineage.slot = line.lineage.slot) : (r.setLine number line').Devoted := by
  intro flight flying
  obtain ⟨other, claimed, own, renewing⟩ := devoted flight flying
  exact ⟨other, claimed, own, renewing.setLine found slot⟩

end Room

namespace Keeper

variable {k k' k'' : Keeper} {secret : Secret} {number generation : Nat} {event : KeeperEvent}

/-- The event is one of the secret's timer, or nothing is done, asked or told about the secret. -/
inductive Driven (secret : Secret) (k : Keeper) : KeeperEvent → Prop where
  | answer (number generation : Nat) (reply : Reply) :
      Driven secret k (.answer secret (.timer number generation) reply)
  | fire (number generation : Nat) : Driven secret k (.fire secret number generation)
  | stop (number generation : Nat) : Driven secret k (.stop secret number generation)
  | aloof (event : KeeperEvent) (room : (k.step event).room secret = k.room secret)
      (tidings : (k.step event).tidings secret = k.tidings secret) : Driven secret k event

theorem driven_pass (k : Keeper) (secret : Secret) (span : Nat) : k.Driven secret (.pass span) :=
  .aloof _ rfl rfl

theorem driven_of_other {own : Secret} (mine : event.subject? = some own)
    (lone : k.Lone event.ticket?) (bears : k.Bears event) (differ : secret ≠ own) :
    k.Driven secret event := by
  have confined := bears.confined mine lone
  exact .aloof event (confined.rooms secret differ) (confined.tidings secret differ)

inductive Resolves (secret : Secret) (number generation : Nat) (k k' : Keeper) : Prop where
  | settled (idle : (k'.room secret).flights = [])
  | asks (lines : (k'.room secret).lines = (k.room secret).lines)
      (registered : (k'.room secret).registered = (k.room secret).registered)
      (own : ∀ flight ∈ (k'.room secret).flights, flight.purpose = .timer number generation)

theorem endTimer_idle (idle : (k.room secret).flights = []) (number generation : Nat)
    (result : Except Fault Lease) :
    ((k.endTimer secret number generation result).room secret).flights = [] := by
  cases found : (k.room secret).lines[number]? with
  | none => simp [endTimer, found, idle]
  | some line =>
    obtain ⟨waits, room⟩ := endTimer_room found generation result
    rw [room]
    exact idle

namespace Resolves

theorem devoted (resolves : Resolves secret number generation k k')
    (renewing : (k.room secret).Renewing number generation) : (k'.room secret).Devoted := by
  cases resolves with
  | settled idle => exact Room.devoted_of_idle idle
  | asks lines registered own =>
    intro flight flying
    exact ⟨number, generation, own flight flying, renewing.of_lines lines registered⟩

theorem before (leaves : Leaves secret k k') (resolves : Resolves secret number generation k' k'') :
    Resolves secret number generation k k'' := by
  cases resolves with
  | settled idle => exact .settled idle
  | asks lines registered own =>
    exact .asks (lines.trans leaves.lines) (registered.trans leaves.registered) own

section
variable (idle : (k.room secret).flights = [])
include idle

theorem call (errand : Errand) :
    Resolves secret number generation k (k.call secret (.timer number generation) errand) := by
  have room : (k.call secret (.timer number generation) errand).room secret =
      (k.room secret).board (.timer number generation) errand := room_setRoom_self k secret _
  refine .asks (by rw [room]; rfl) (by rw [room]; rfl) fun flight flying => ?_
  rw [room, Room.board, idle] at flying
  obtain rfl := List.mem_singleton.mp flying
  rfl

theorem endFetch (result : Except Fault Lease) : Resolves secret number generation k
    (k.endFetch secret (.timer number generation) result) :=
  .settled (endTimer_idle (k := k.count (.rotation (isOk result))) idle number generation result)

theorem abandon (lease : Lease) (result : Except Fault Lease) :
    Resolves secret number generation k
      (k.abandon secret (.timer number generation) lease result) := by
  unfold Keeper.abandon
  split
  · have leaves := Leaves.emit k secret (.beforeRevocation secret lease)
    exact before leaves (call (leaves.flights.trans idle) (.revoke lease result))
  · exact endFetch idle result

theorem fetched (result : Except Fault Response) : Resolves secret number generation k
    (k.fetched secret (.timer number generation) result) := by
  cases result with
  | error fault =>
    have leaves := leaves_disappointed k secret fault
    exact before leaves (endFetch (leaves.flights.trans idle) _)
  | ok response =>
    unfold Keeper.fetched
    dsimp only
    split
    · exact abandon idle response.lease _
    · have leaves := leaves_published k secret response
      unfold published at leaves
      generalize Keeper.emit _ _ = k₁ at leaves ⊢
      have still := leaves.flights.trans idle
      have scheduled := schedule_scheduled k₁ secret response.lease
      generalize k₁.schedule secret response.lease = outcome at scheduled
      obtain ⟨k₂, kind⟩ := outcome
      have still₂ : (k₂.room secret).flights = [] := (scheduled.flights secret).trans still
      cases kind with
      | kept => exact .settled (endTimer_idle (k := k₂.count _) still₂ number generation _)
      | refused =>
        cases scheduled with
        | refused => exact before leaves (abandon still response.lease _)
      | overflow => exact .settled still₂

theorem renewed (lease : Lease) (result : Except Fault Lease) :
    Resolves secret number generation k
      (k.renewed secret (.timer number generation) lease result) := by
  cases result with
  | error fault =>
    have leaves : Leaves secret k ((k.count (.renewal secret.mode false)).report secret lease
        fault).1 := .of_telling ((count_telling k _).trans (report_telling _ secret lease fault))
    exact .settled (endTimer_idle (leaves.flights.trans idle) number generation _)
  | ok next =>
    have leaves := leaves_acknowledged k secret next
    have still := leaves.flights.trans idle
    by_cases short : k.fallsShort next
    · rw [renewed_of_short lease short]
      split
      · exact before leaves (call still .fetch)
      · have lapsed := leaves_lapsed (k.acknowledged secret next) secret next
        exact .settled (endTimer_idle (lapsed.flights.trans still) number generation _)
    · rw [renewed_of_enough lease short]
      exact .settled (endTimer_idle still number generation _)

theorem revoked (lease : Lease) (result : Except Fault Lease) (reply : Except Fault Unit) :
    Resolves secret number generation k
      (k.revoked secret (.timer number generation) lease result reply) := by
  obtain ⟨k₁, told, same⟩ := revoked_told k secret (.timer number generation) lease result reply
  have leaves : Leaves secret k k₁ := .of_telling told
  rw [same]
  exact before leaves (endFetch (leaves.flights.trans idle) result)

theorem renewOrFetch (lease : Lease) : Resolves secret number generation k
    (k.renewOrFetch secret (.timer number generation) lease) := by
  unfold Keeper.renewOrFetch
  split
  · exact call idle _
  · exact call idle _

end

end Resolves

theorem answer_devoted (devoted : (k.room secret).Devoted) (number generation : Nat)
    (reply : Reply) :
    ((k.answer secret (.timer number generation) reply).room secret).Devoted := by
  unfold answer
  dsimp only
  cases flown : (k.room secret).flight? (.timer number generation) with
  | none => exact devoted
  | some flight =>
    have renewing := devoted.renewing flown
    have landed := landed_room k secret (.timer number generation)
    have idle := (congrArg Room.flights landed).trans (devoted.landed renewing)
    have renewing' : ((k.landed secret (.timer number generation)).room secret).Renewing number
        generation := renewing.of_lines (by rw [landed]; rfl) (by rw [landed]; rfl)
    obtain ⟨_, errand⟩ := flight
    cases errand with
    | fetch =>
      cases reply with
      | fetched result => exact (Resolves.fetched idle result).devoted renewing'
      | _ => exact devoted
    | renew lease =>
      cases reply with
      | renewed result => exact (Resolves.renewed idle lease result).devoted renewing'
      | _ => exact devoted
    | revoke lease result =>
      cases reply with
      | revoked reply => exact (Resolves.revoked idle lease result reply).devoted renewing'
      | _ => exact devoted

inductive Fires (k : Keeper) (secret : Secret) (number generation : Nat) : Keeper → Prop where
  | refused : Fires k secret number generation k
  | missed (line : Line) (found : (k.room secret).lines[number]? = some line) :
      Fires k secret number generation
        (k.fired secret number line (line.lineage.unregister generation) generation)
  | pursued (line : Line) (held : Held) (found : (k.room secret).lines[number]? = some line)
      (before : line.lineage.slot = some held) (own : held.generation = generation)
      (scheduled : held.phase = .scheduled) :
      Fires k secret number generation
        ((k.fired secret number line
          { line.lineage.unregister generation with slot := some { held with phase := .renewing } }
          generation).renewOrFetch secret (.timer number generation) held.lease)
  | surrendered (line : Line) (held : Held) (found : (k.room secret).lines[number]? = some line)
      (before : line.lineage.slot = some held) (own : held.generation = generation)
      (scheduled : held.phase = .scheduled) (unheld : k.isHeld = false) :
      Fires k secret number generation
        ((k.fired secret number line
          { line.lineage.unregister generation with slot := some { held with phase := .renewing } }
          generation).endTimer secret number generation (.ok Lease.none))

theorem fire_fires (k : Keeper) (secret : Secret) (number generation : Nat) :
    Fires k secret number generation (k.fire secret number generation) := by
  unfold fire
  dsimp only
  cases found : (k.room secret).lines[number]? with
  | none => exact .refused
  | some line =>
    dsimp only
    cases line.waits.lookup generation with
    | none => exact .refused
    | some due =>
      dsimp only
      split
      · rcases fire_cases line.lineage generation with
          ⟨held, before, own, scheduled, result⟩ | ⟨_, result⟩
        · simp only [result]
          cases reachable : k.isHeld with
          | true => exact .pursued line held found before own scheduled
          | false => exact .surrendered line held found before own scheduled reachable
        · simp only [result]
          exact .missed line found
      · exact .refused

theorem idle_of_scheduled (rested : k.Rested) (devoted : (k.room secret).Devoted) {line : Line}
    {held : Held} (found : (k.room secret).lines[number]? = some line)
    (before : line.lineage.slot = some held) (scheduled : held.phase = .scheduled) :
    (k.room secret).flights = [] := by
  refine List.eq_nil_iff_forall_not_mem.mpr fun flight flying => ?_
  obtain ⟨_, _, _, other, held', holds', _, renewing⟩ := devoted flight flying
  have holds := holds_of_slot rested found before
  obtain rfl := Option.some.inj (holds.used.symm.trans holds'.used)
  obtain rfl := Option.some.inj (found.symm.trans holds'.found)
  obtain rfl := Option.some.inj (before.symm.trans holds'.slot)
  rw [scheduled] at renewing
  cases renewing

theorem renewing_of_fired (rested : k.Rested) {line : Line} {held : Held}
    (found : (k.room secret).lines[number]? = some line) (before : line.lineage.slot = some held)
    (own : held.generation = generation) :
    ((k.fired secret number line
      { line.lineage.unregister generation with slot := some { held with phase := .renewing } }
      generation).room secret).Renewing number generation := by
  have holds := holds_of_slot rested found before
  rw [fired, room_setRoom_self]
  exact ⟨_, _, ⟨(Room.setLine_lineNumber? _ _ _).trans holds.used,
    Room.setLine_lines_self found _, rfl⟩, own, rfl⟩

theorem fire_devoted (rested : k.Rested) (devoted : (k.room secret).Devoted)
    (number generation : Nat) : ((k.fire secret number generation).room secret).Devoted := by
  have fires := fire_fires k secret number generation
  generalize k.fire secret number generation = k' at fires ⊢
  cases fires with
  | refused => exact devoted
  | missed line found =>
    rw [fired, room_setRoom_self]
    exact devoted.setLine found rfl
  | pursued line held found before own scheduled =>
    refine (Resolves.renewOrFetch ?_ held.lease).devoted (renewing_of_fired rested found before own)
    rw [fired, room_setRoom_self]
    exact idle_of_scheduled rested devoted found before scheduled
  | surrendered line held found before own scheduled =>
    refine Room.devoted_of_idle (endTimer_idle ?_ number generation _)
    rw [fired, room_setRoom_self]
    exact idle_of_scheduled rested devoted found before scheduled

theorem stop_devoted (devoted : (k.room secret).Devoted) (number generation : Nat) :
    ((k.stop secret number generation).room secret).Devoted := by
  unfold stop
  dsimp only
  cases found : (k.room secret).lines[number]? with
  | none => exact devoted
  | some line =>
    dsimp only
    split
    · rw [room_setRoom_self]
      exact devoted.setLine found rfl
    · exact devoted

theorem step_devoted (rested : k.Rested) (devoted : (k.room secret).Devoted)
    (driven : k.Driven secret event) : ((k.step event).room secret).Devoted := by
  cases driven with
  | answer number generation reply => exact answer_devoted devoted number generation reply
  | fire number generation => exact fire_devoted rested devoted number generation
  | stop number generation => exact stop_devoted devoted number generation
  | aloof event room =>
    rw [room]
    exact devoted

theorem run_devoted {policy : LeasePolicy} {opening before : List KeeperEvent}
    (idle : (((new policy).run opening).room secret).flights = [])
    (driven : ((new policy).run opening).Along (Driven secret) before) :
    (((new policy).run (opening ++ before)).room secret).Devoted := by
  induction before using List.reverseRecOn with
  | nil =>
    rw [List.append_nil]
    exact Room.devoted_of_idle idle
  | append_singleton earlier event ih =>
    obtain ⟨first, here, _⟩ := (along_append _ earlier [event]).mp driven
    rw [← run_append] at here
    rw [← List.append_assoc, run_append]
    exact step_devoted (run_rested policy _) (ih first) here

end Keeper
end LeaseKeeper

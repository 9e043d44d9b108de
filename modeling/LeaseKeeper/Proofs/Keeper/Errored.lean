import LeaseKeeper.Proofs.Keeper.Driven
import LeaseKeeper.Proofs.Keeper.Listening

/-!
A secret whose lease is renewed by its timer alone. When the store fails such a renewal, the source
and the lineage decide each for itself what becomes of the lease: the source from the fault it is
told, the lineage from the one that is handed back to it, and only the lineage knows when the lease
runs out. They agree about what the strategy drops. A lease that the strategy keeps, but for which
no other attempt comes in time, is given up by its lineage while the source stays active.
-/
namespace LeaseKeeper

open Lineage

namespace Lineage

variable {l after : Lineage} {strategy : Strategy} {floor threshold now g : Nat}
  {reschedule : Lease → Bool} {next : Next}

theorem Ending.inactive_iff {fault : Fault} {held : Held}
    (ending : Ending l strategy floor threshold now g reschedule (.error fault) after next)
    (slot : l.slot = some held) (own : held.generation = g) (renewing : held.phase = .renewing) :
    after.isActive = false ↔ strategy.shouldDrop fault = true ∨
      now + floor ≤ Span.clockEnd ∧ held.deadline ≤ now + floor := by
  have same {held' : Held} (slot' : l.slot = some held') : held' = held :=
    Option.some.inj (slot'.symm.trans slot)
  have fitting {retryAt : Nat} (fits : deadline? now floor = some retryAt) :
      now + floor ≤ Span.clockEnd ∧ retryAt = now + floor := by
    unfold deadline? at fits
    split at fits
    · exact ⟨‹_›, (Option.some.inj fits).symm⟩
    · cases fits
  cases ending with
  | stale _ moved => exact absurd renewing (moved held slot own)
  | dropped _ held' drop slot' => simp [isActive, drop]
  | retained _ held' retryAt keep slot' _ _ fits early =>
    obtain ⟨_, rfl⟩ := fitting fits
    obtain rfl := same slot'
    simp [isActive, keep, Nat.not_le.mpr early]
  | exhausted _ held' retryAt keep slot' _ _ fits late =>
    obtain ⟨inTime, rfl⟩ := fitting fits
    obtain rfl := same slot'
    simp [isActive, inTime, late]
  | overran _ held' keep slot' _ _ overflow =>
    have outside : ¬ now + floor ≤ Span.clockEnd := by
      intro inTime
      simp [deadline?, inTime] at overflow
    simp [isActive, slot, renewing, keep, outside]

end Lineage

theorem Source.hearFault_hearFault (s : Source) (secret : Secret) (fault : Fault) :
    (s.hearFault secret fault).hearFault secret fault = s.hearFault secret fault := by
  by_cases told : secret = s.secret ∧ s.state = .active ∧ s.strategy.shouldDrop fault = true
  · simp [hearFault, told]
  · simp [hearFault, told]

def Tiding.isAsked : Tiding → Bool
  | .asked _ => true
  | _ => false

def Errand.renewal? : Errand → Option Lease
  | .renew lease => some lease
  | _ => none

namespace Room

variable {r : Room}

theorem asking {purpose : Purpose} {lease : Lease}
    (asks : (r.flight? purpose).bind (·.errand.renewal?) = some lease) :
    r.flight? purpose = some ⟨purpose, .renew lease⟩ := by
  obtain ⟨flight, flown, renews⟩ := Option.bind_eq_some_iff.mp asks
  obtain rfl := flight?_purpose flown
  obtain ⟨purpose, errand⟩ := flight
  cases errand with
  | renew own =>
    obtain rfl := Option.some.inj renews
    exact flown
  | _ => cases renews

end Room

namespace Keeper

variable {k k' : Keeper} {secret : Secret} {number : Nat} {event : KeeperEvent}

/-! ### A renewal fails -/

def calls (k : Keeper) (secret : Secret) : Nat := (k.tidings secret).countP (·.2.isAsked)

inductive Falters (k : Keeper) (secret : Secret) (fault : Fault) : KeeperEvent → Prop where
  | fetch (number generation : Nat)
      (flown : (k.room secret).flight? (.timer number generation) =
        some ⟨.timer number generation, .fetch⟩) :
      Falters k secret fault (.answer secret (.timer number generation) (.fetched (.error fault)))
  | renewal (number generation : Nat) (lease : Lease)
      (flown : (k.room secret).flight? (.timer number generation) =
        some ⟨.timer number generation, .renew lease⟩) :
      Falters k secret fault (.answer secret (.timer number generation) (.renewed (.error fault)))

/-- The current lease runs out before another attempt at its renewal could be made. -/
def RunsOut (k : Keeper) (secret : Secret) : Prop :=
  ∃ line held, (k.room secret).line? = some line ∧ line.lineage.slot = some held ∧
    k.now + k.policy.floor ≤ Span.clockEnd ∧ held.deadline ≤ k.now + k.policy.floor

structure Reported (secret : Secret) (fault : Fault) (purpose : Purpose) (k k' : Keeper) :
    Prop where
  policy : k'.policy = k.policy
  now : k'.now = k.now
  room : k'.room secret = (k.room secret).dropFlight purpose
  calls : k'.calls secret = k.calls secret
  source : ∀ number id, (number, .source id) ∈ k.faultListeners.entries →
    k'.sources.find? id = (k.sources.find? id).map (·.hearFault secret fault)

/-- Told any number of times, a listener changes as if told once. -/
theorem foldl_told {σ α β : Type} (read : σ → Option β) (f : β → β) (hits : α → Bool)
    {tell : σ → α → σ} (once : ∀ b, f (f b) = f b)
    (each : ∀ state a, read (tell state a) = if hits a then (read state).map f else read state)
    (entries : List α) (state : σ) :
    read (entries.foldl tell state) =
      if entries.any hits then (read state).map f else read state := by
  induction entries generalizing state with
  | nil => rfl
  | cons entry rest ih =>
    rw [List.foldl_cons, ih, each]
    cases hit : hits entry <;> cases again : rest.any hits <;>
      simp [hit, again, Option.map_map, Function.comp_def, once]

theorem report_sources (k : Keeper) (secret : Secret) (lease : Lease) (fault : Fault) (id : Nat) :
    (k.report secret lease fault).1.sources.find? id =
      if k.faultListeners.entries.any (·.2 == .source id) then
        (k.sources.find? id).map (·.hearFault secret fault)
      else k.sources.find? id := by
  refine foldl_told (fun state : Keeper × Bool => state.1.sources.find? id)
    (·.hearFault secret fault) (·.2 == .source id) (fun s => s.hearFault_hearFault secret fault) ?_
    k.faultListeners.entries _
  rintro ⟨k, held⟩ ⟨_, listener⟩
  cases listener with
  | observer => rfl
  | source other =>
    by_cases same : id = other
    · subst same
      simp [tellSource, Table.find?_adjust_self]
    · simp [tellSource, Table.find?_adjust_of_ne same, Ne.symm same]
  | capture ticket =>
    simp only [catchFault]
    split
    · rfl
    · split <;> rfl

theorem report_source (k : Keeper) (secret : Secret) (lease : Lease) (fault : Fault)
    {number id : Nat} (listed : (number, .source id) ∈ k.faultListeners.entries) :
    (k.report secret lease fault).1.sources.find? id =
      (k.sources.find? id).map (·.hearFault secret fault) := by
  have hit : k.faultListeners.entries.any (·.2 == .source id) = true :=
    List.any_eq_true.mpr ⟨_, listed, beq_self_eq_true (FaultListener.source id)⟩
  exact (report_sources k secret lease fault id).trans (if_pos hit)

theorem calls_of_entry {time : Nat} {entry : Entry}
    (journal : k'.journal = (time, entry) :: k.journal)
    (silent : ∀ purpose errand, entry ≠ .call secret purpose errand) :
    k'.calls secret = k.calls secret := by
  unfold calls tidings
  rw [journal, List.filterMap_cons]
  cases entry with
  | call own purpose errand =>
    have foreign : own ≠ secret := fun same => silent purpose errand (same ▸ rfl)
    simp [Entry.tiding?, foreign]
  | event e => by_cases mine : e.secret = secret <;> simp [Entry.tiding?, mine, Tiding.isAsked]
  | fault own => by_cases mine : own = secret <;> simp [Entry.tiding?, mine, Tiding.isAsked]
  | _ => rfl

theorem hear_notFound (s : Source) (secret : Secret) : s.hear (.notFound secret) = s := by
  unfold Source.hear
  split <;> rfl

theorem emit_notFound_source (k : Keeper) (secret : Secret) (id : Nat) :
    (k.emit (.notFound secret)).sources.find? id = k.sources.find? id := by
  refine (read_foldl (fun k : Keeper => k.sources.find? id) ?_ _ _).trans rfl
  rintro k ⟨_, listener⟩
  cases listener with
  | observer => rfl
  | source other =>
    by_cases same : id = other
    · subst same
      simp [tellSource, Table.find?_adjust_self, hear_notFound]
    · simp [tellSource, Table.find?_adjust_of_ne same]

structure Poised (secret : Secret) (purpose : Purpose) (k k' : Keeper) : Prop where
  policy : k'.policy = k.policy
  now : k'.now = k.now
  room : k'.room secret = (k.room secret).dropFlight purpose
  calls : k'.calls secret = k.calls secret
  faultListeners : k'.faultListeners = k.faultListeners
  source : ∀ id, k'.sources.find? id = k.sources.find? id

theorem poised_landed (k : Keeper) (secret : Secret) (purpose : Purpose) :
    Poised secret purpose k (k.landed secret purpose) :=
  ⟨rfl, rfl, landed_room k secret purpose, rfl, rfl, fun _ => rfl⟩

namespace Poised

variable {purpose : Purpose} (poised : Poised secret purpose k k')
include poised

theorem count (m : Measure) : Poised secret purpose k (k'.count m) :=
  ⟨poised.policy, poised.now, poised.room, poised.calls, poised.faultListeners, poised.source⟩

theorem notFound : Poised secret purpose k (k'.emit (.notFound secret)) := by
  have told := emit_tells k' (.notFound secret)
  have listeners : (k'.emit (.notFound secret)).faultListeners = k'.faultListeners := by
    obtain ⟨_, frame⟩ := emit_frame k' (.notFound secret)
    rw [frame]
    rfl
  exact ⟨told.policy.trans poised.policy, told.now.trans poised.now,
    (emit_room (.notFound secret) secret).trans poised.room,
    (calls_of_entry (emit_journal k' _) nofun).trans poised.calls,
    listeners.trans poised.faultListeners,
    fun id => (emit_notFound_source k' secret id).trans (poised.source id)⟩

theorem report (lease : Lease) (fault : Fault) :
    Reported secret fault purpose k (k'.report secret lease fault).1 := by
  have told := report_aside k' secret lease fault
  refine ⟨told.policy.trans poised.policy, told.now.trans poised.now,
    (room_of_rooms told.rooms secret).trans poised.room,
    (calls_of_entry (report_journal k' secret lease fault) nofun).trans poised.calls,
    fun number id listed => ?_⟩
  rw [← poised.source]
  exact report_source k' secret lease fault (poised.faultListeners ▸ listed)

end Poised

theorem Reported.count {fault : Fault} {purpose : Purpose}
    (reported : Reported secret fault purpose k k') (m : Measure) :
    Reported secret fault purpose k (k'.count m) :=
  ⟨reported.policy, reported.now, reported.room, reported.calls, reported.source⟩

theorem Falters.reported {fault : Fault} (fails : k.Falters secret fault event) :
    ∃ number generation flight k' copy,
      (k.room secret).flight? (.timer number generation) = some flight ∧
      Reported secret fault (.timer number generation) k k' ∧
      (∀ strategy : Strategy, strategy.shouldDrop copy = strategy.shouldDrop fault) ∧
      k.step event = k'.endTimer secret number generation (.error copy) := by
  cases fails with
  | fetch number generation flown =>
    have landed := poised_landed k secret (.timer number generation)
    obtain ⟨k₀, poised, stepped⟩ : ∃ k₀, Poised secret (.timer number generation) k k₀ ∧
        k.step (.answer secret (.timer number generation) (.fetched (.error fault))) =
          ((k₀.report secret Lease.none fault).1.count (.rotation false)).endTimer secret number
            generation (.error (k₀.report secret Lease.none fault).2) := by
      refine ⟨if fault.isNotFound then
        (k.landed secret (.timer number generation)).emit (.notFound secret)
        else k.landed secret (.timer number generation), ?_, step_fetched flown _⟩
      split
      · exact landed.notFound
      · exact landed
    exact ⟨number, generation, _, _, _, flown,
      (poised.report Lease.none fault).count (.rotation false),
      report_shouldDrop k₀ secret Lease.none fault, stepped⟩
  | renewal number generation lease flown =>
    have poised := (poised_landed k secret (.timer number generation)).count
      (.renewal secret.mode false)
    have stepped : k.step (.answer secret (.timer number generation) (.renewed (.error fault))) =
        (k.landed secret (.timer number generation)).renewed secret (.timer number generation) lease
          (.error fault) := by
      simp only [step, answer, flown]
      rfl
    exact ⟨number, generation, _, _, _, flown, poised.report lease fault,
      report_shouldDrop ((k.landed secret (.timer number generation)).count
        (.renewal secret.mode false)) secret lease fault, stepped⟩

theorem endTimer_sources (k : Keeper) (secret : Secret) (number generation : Nat)
    (result : Except Fault Lease) :
    (k.endTimer secret number generation result).sources = k.sources ∧
      (k.endTimer secret number generation result).calls secret = k.calls secret := by
  have alike := Alike.endTimer k secret number generation result
  refine ⟨?_, by rw [calls, calls, alike.tidings]⟩
  unfold endTimer
  dsimp only
  split
  · rfl
  · split <;> rfl

theorem Falters.outcome {fault : Fault} (fails : k.Falters secret fault event)
    (devoted : (k.room secret).Devoted) :
    ((k.step event).room secret).flights = [] ∧
      (k.step event).calls secret = k.calls secret ∧
      (((k.step event).room secret).isActive = false ↔
        k.policy.strategy.shouldDrop fault = true ∨ k.RunsOut secret) ∧
      ∀ number id, (number, .source id) ∈ k.faultListeners.entries →
        (k.step event).sources.find? id = (k.sources.find? id).map (·.hearFault secret fault) := by
  obtain ⟨number, generation, flight, k', copy, flown, reported, same, stepped⟩ := fails.reported
  have renewing := devoted.renewing flown
  obtain ⟨line, held, holds, own, phase⟩ := renewing
  have idle : (k'.room secret).flights = [] := by
    rw [reported.room]
    exact devoted.landed (devoted.renewing flown)
  have found : (k'.room secret).lines[number]? = some line := by
    rw [reported.room]
    exact holds.found
  have used : (k'.room secret).lineNumber? = some number := by
    rw [reported.room]
    exact holds.used
  obtain ⟨sources, calls⟩ := endTimer_sources k' secret number generation (.error copy)
  obtain ⟨waits, room⟩ := endTimer_room found generation (.error copy)
  have ending := conclude_ending line.lineage k'.policy.strategy k'.policy.floor
    k'.policy.threshold k'.now generation Lease.renewable (.error copy)
  have runsOut : k.RunsOut secret ↔ k.now + k.policy.floor ≤ Span.clockEnd ∧
      held.deadline ≤ k.now + k.policy.floor := by
    have current : (k.room secret).line? = some line :=
      (Room.line?_of_number holds.used).trans holds.found
    constructor
    · rintro ⟨line', held', current', slot', inTime, late⟩
      obtain rfl := Option.some.inj (current.symm.trans current')
      obtain rfl := Option.some.inj (holds.slot.symm.trans slot')
      exact ⟨inTime, late⟩
    · rintro ⟨inTime, late⟩
      exact ⟨line, held, current, holds.slot, inTime, late⟩
  rw [stepped]
  refine ⟨endTimer_idle idle number generation _, calls.trans reported.calls, ?_,
    fun number id listed => ?_⟩
  · rw [room, Room.isActive_of_used ((Room.setLine_lineNumber? _ _ _).trans used)
      (Room.setLine_lines_self found _), ending.inactive_iff holds.slot own phase, same, runsOut,
      reported.policy, reported.now]
  · rw [sources]
    exact reported.source number id listed

/-! ### After the failure -/

theorem calls_le_run (k : Keeper) (secret : Secret) (events : List KeeperEvent) :
    k.calls secret ≤ (k.run events).calls secret := by
  induction events generalizing k with
  | nil => exact Nat.le_refl _
  | cons event rest ih =>
    refine Nat.le_trans ?_ (ih (k.step event))
    obtain ⟨fresh, journal⟩ := (step_moves k event).journal
    simp [calls, tidings, journal]

theorem isHeld_of_source {id : Nat} {s : Source} (present : k.sources.find? id = some s) :
    k.isHeld = true := by
  refine Twin.isHeld_of_holder ?_
  cases sources : k.sources with
  | nil =>
    rw [sources] at present
    cases present
  | cons => simp [hasHolder, sources]

structure Settled (secret : Secret) (id : Nat) (s : Source) (active : Bool) (k : Keeper) :
    Prop where
  idle : (k.room secret).flights = []
  active : (k.room secret).isActive = active
  source : k.sources.find? id = some s

theorem renewOrFetch_calls (k : Keeper) (secret : Secret) (purpose : Purpose) (lease : Lease) :
    (k.renewOrFetch secret purpose lease).calls secret = k.calls secret + 1 := by
  have asked (errand : Errand) : (k.call secret purpose errand).calls secret =
      k.calls secret + 1 := by
    simp [calls, tidings, call, note, setRoom, Entry.tiding?, Tiding.isAsked]
  unfold renewOrFetch
  split
  · exact asked _
  · exact asked _

section
variable {id : Nat} {s s' : Source} {active : Bool}

theorem Settled.setLine (settled : k.Settled secret id s active) {line line' : Line}
    (found : (k.room secret).lines[number]? = some line)
    (slot : line'.lineage.slot = line.lineage.slot) :
    (k.setRoom secret ((k.room secret).setLine number line')).Settled secret id s active := by
  refine ⟨?_, ?_, settled.source⟩
  · rw [room_setRoom_self]
    exact settled.idle
  · rw [room_setRoom_self, Room.isActive_setLine_of_eq found (isActive_of_slot slot)]
    exact settled.active

theorem Settled.step (settled : k.Settled secret id s active) (mine : s.secret = secret)
    (revokes : k.Revokes) (registers : k.Registers) (driven : k.Driven secret event)
    (away : event.touches id = false) (quiet : (k.step event).calls secret = k.calls secret)
    (present : (k.step event).sources.find? id = some s') :
    (k.step event).Settled secret id s active := by
  cases driven with
  | answer number generation reply =>
    have ignored : k.step (.answer secret (.timer number generation) reply) = k := by
      simp [Keeper.step, answer, Room.flight?, settled.idle]
    rw [ignored]
    exact settled
  | fire number generation =>
    have fires := fire_fires k secret number generation
    rw [Keeper.step] at quiet ⊢
    generalize k.fire secret number generation = k' at fires quiet ⊢
    cases fires with
    | refused => exact settled
    | missed line found => exact settled.setLine found rfl
    | pursued =>
      rw [renewOrFetch_calls] at quiet
      exact absurd quiet (Nat.succ_ne_self _)
    | surrendered line held found before own scheduled unheld =>
      rw [isHeld_of_source settled.source] at unheld
      cases unheld
  | stop number generation =>
    rw [Keeper.step, stop]
    cases found : (k.room secret).lines[number]? with
    | none => exact settled
    | some line =>
      dsimp only
      split
      · exact settled.setLine found rfl
      · exact settled
  | aloof event room tidings =>
    obtain ⟨old, known, changed⟩ := step_source_heard revokes registers away present
    obtain rfl := Option.some.inj (settled.source.symm.trans known)
    have silent : (k.step event).heard s.secret = k.heard s.secret := by
      rw [mine, heard, heard, tidings]
    obtain rfl := changed.resolve_right (Nat.not_lt.mpr (Nat.le_of_eq silent))
    refine ⟨?_, ?_, present⟩
    · rw [room]
      exact settled.idle
    · rw [room]
      exact settled.active

theorem run_settled {policy : LeasePolicy} {begun after : List KeeperEvent}
    (settled : ((new policy).run begun).Settled secret id s active) (mine : s.secret = secret)
    (driven : ((new policy).run begun).Along (Driven secret) after)
    (away : ∀ event ∈ after, event.touches id = false)
    (quiet : ((new policy).run (begun ++ after)).calls secret =
      ((new policy).run begun).calls secret)
    (present : ((new policy).run (begun ++ after)).sources.find? id = some s') :
    ((new policy).run (begun ++ after)).Settled secret id s active := by
  induction after using List.reverseRecOn generalizing s' with
  | nil =>
    rw [List.append_nil]
    exact settled
  | append_singleton earlier event ih =>
    obtain ⟨first, here, _⟩ := (along_append _ earlier [event]).mp driven
    rw [← run_append] at here
    rw [← List.append_assoc, run_append] at present quiet ⊢
    have revokes := run_revokes policy (begun ++ earlier)
    have registers := run_registers policy (begun ++ earlier)
    have away' := away event (List.mem_append_right earlier List.mem_cons_self)
    obtain ⟨old, known, _⟩ := step_source_heard revokes registers away' present
    have before := calls_le_run ((new policy).run begun) secret earlier
    have last := calls_le_run ((new policy).run (begun ++ earlier)) secret [event]
    rw [← run_append] at before
    have silent : (((new policy).run (begun ++ earlier)).run [event]).calls secret =
        ((new policy).run (begun ++ earlier)).calls secret := by omega
    exact (ih first (fun event member => away event (List.mem_append_left _ member))
      (by omega) known).step mine revokes registers here away' silent present

end

/-! ### The source and the lineage -/

/-- The last store call for the secret was a renewal by its timer, and it failed. `opening` ends
with no call for the secret under way; from then on only its timer acts for it. A source of the
secret is open and active when the renewal fails, and is left open. -/
structure Setback (policy : LeasePolicy) (secret : Secret) (fault : Fault) (id : Nat)
    (opening before : List KeeperEvent) (failure : KeeperEvent) (after : List KeeperEvent) :
    Prop where
  idle : (((new policy).run opening).room secret).flights = []
  driven : ((new policy).run opening).Along (Driven secret) (before ++ failure :: after)
  fails : ((new policy).run (opening ++ before)).Falters secret fault failure
  opened : isOpen id (opening ++ before) = true
  active : ∃ s, ((new policy).run (opening ++ before)).sources.find? id = some s ∧
    s.secret = secret ∧ s.state = .active
  untouched : ∀ event ∈ after, event.touches id = false
  last : ((new policy).run (opening ++ before ++ failure :: after)).calls secret =
    ((new policy).run (opening ++ before)).calls secret

theorem Move.policy {live : Prop} (move : Move live k k') : k'.policy = k.policy := by
  cases move with
  | aside k' aside => exact aside.policy
  | emptied k' _ _ policy => exact policy
  | published => exact (emit_tells _ _).policy
  | _ => rfl

theorem run_policy (policy : LeasePolicy) (events : List KeeperEvent) :
    ((new policy).run events).policy = policy :=
  run_keep (P := fun k => k.policy = policy) (fun k event => (step_moves k event).keep
    (P := fun k => k.policy = policy) fun _ _ move same => move.policy.trans same) rfl events

/-- After a renewal by the timer has failed, a source that was active is errored if and only if the
strategy drops the lease for this fault. The lineage is inactive then, and it is also inactive if
the strategy keeps a lease that runs out before another attempt could be made. So the two agree
unless the lease is kept and runs out; the source is active then. -/
theorem errored_iff_dropped {policy : LeasePolicy} {secret : Secret} {fault : Fault} {id : Nat}
    {opening before : List KeeperEvent} {failure : KeeperEvent} {after : List KeeperEvent}
    (setback : Setback policy secret fault id opening before failure after) {s' : Source}
    (present : ((new policy).run (opening ++ before ++ failure :: after)).sources.find? id =
      some s') :
    (s'.state = if policy.strategy.shouldDrop fault then .errored else .active) ∧
      ((((new policy).run (opening ++ before ++ failure :: after)).room secret).isActive = false ↔
        policy.strategy.shouldDrop fault = true ∨
          ((new policy).run (opening ++ before)).RunsOut secret) ∧
      ((s'.state = .errored ↔
          (((new policy).run (opening ++ before ++ failure :: after)).room secret).isActive =
            false) ↔
        policy.strategy.shouldDrop fault = true ∨
          ¬ ((new policy).run (opening ++ before)).RunsOut secret) := by
  obtain ⟨idle, driven, fails, opened, ⟨s, known, mine, active⟩, untouched, last⟩ := setback
  obtain ⟨first, _, rest⟩ := (along_append _ before (failure :: after)).mp driven
  have devoted := run_devoted idle first
  have attuned := run_attuned policy (opening ++ before)
  have whole : opening ++ before ++ failure :: after = opening ++ before ++ [failure] ++ after :=
    List.append_cons _ _ _
  have stepped : (new policy).run (opening ++ before ++ [failure]) =
      ((new policy).run (opening ++ before)).step failure := run_append _ _ [failure]
  have strategy := attuned.strategy id s known
  rw [run_policy] at strategy
  obtain ⟨calm, calls, inactive, told⟩ := fails.outcome devoted
  have heard := told _ id (attuned.listens id s known opened)
  rw [run_policy] at inactive
  rw [known, Option.map_some] at heard
  rw [← run_append] at rest
  rw [whole] at last present ⊢
  have settled : ((new policy).run (opening ++ before ++ [failure])).Settled secret id
      (s.hearFault secret fault)
      (((new policy).run (opening ++ before ++ [failure])).room secret).isActive :=
    ⟨stepped ▸ calm, rfl, stepped ▸ heard⟩
  have now := run_settled settled ((congrArg Prod.fst (s.hearFault_seat secret fault)).trans mine)
    (stepped ▸ rest) untouched (last.trans (stepped ▸ calls.symm)) present
  have state : s'.state = if policy.strategy.shouldDrop fault then .errored else .active := by
    obtain rfl := Option.some.inj (present.symm.trans now.source)
    cases drop : policy.strategy.shouldDrop fault <;>
      simp [Source.hearFault, mine, active, strategy, drop]
  have lineage : (((new policy).run (opening ++ before ++ [failure] ++ after)).room
      secret).isActive = false ↔ policy.strategy.shouldDrop fault = true ∨
        ((new policy).run (opening ++ before)).RunsOut secret := by
    rw [now.active, stepped]
    exact inactive
  refine ⟨state, lineage, ?_⟩
  rw [state, lineage]
  cases policy.strategy.shouldDrop fault <;> simp

/-- The store has no such lease any more, which the strategy does not forgive. Somebody then asks
for another secret, in vain. -/
theorem lost_lease_errs :
    let secret : Secret := ⟨"database/creds/app", .rotate⟩
    let other : Secret := ⟨"database/creds/batch", .renew⟩
    let policy : LeasePolicy := ⟨Span.seconds 10, Span.seconds 60, .retainOnIoError⟩
    let response : Response := ⟨"", "a", 120, true, none, none, none⟩
    let opening : List KeeperEvent := [.request 1 (.bind secret false "db."), .ask secret 1,
      .answer secret (.start 1) (.fetched (.ok response))]
    let before : List KeeperEvent := [.pass (Span.seconds 60), .fire secret 0 1]
    let failure : KeeperEvent := .answer secret (.timer 0 1) (.renewed (.error (.notFound "a")))
    let after : List KeeperEvent := [.pass (Span.seconds 5), .request 2 (.rotate other)]
    let k := (new policy).run (opening ++ before ++ failure :: after)
    Setback policy secret (.notFound "a") 1 opening before failure after ∧
      ∃ s, k.sources.find? 1 = some s ∧ s.state = .errored ∧ (k.room secret).isActive = false := by
  intro secret other policy response opening before failure after k
  have flown : (((new policy).run (opening ++ before)).room secret).flight? (.timer 0 1) =
      some ⟨.timer 0 1, .renew ⟨"a", 120, true⟩⟩ := Room.asking (by decide)
  have known : ((new policy).run (opening ++ before)).sources.find? 1 =
      some ⟨secret, "db.", .retainOnIoError, [], .active, 0, 0⟩ := by decide
  have rotated (k : Keeper) (free : k.binds.find? 2 = none) :
      k.Driven secret (.request 2 (.rotate other)) := by
    have bears : k.Bears (.request 2 (.rotate other)) := by
      intro _ _ _ given
      cases given
    exact driven_of_other rfl (lone_of_free free) bears (by decide)
  have driven : ((new policy).run opening).Along (Driven secret) (before ++ failure :: after) :=
    ⟨driven_pass _ secret _, .fire 0 1, .answer 0 1 _, driven_pass _ secret _,
      rotated _ (by decide), trivial⟩
  have setback : Setback policy secret (.notFound "a") 1 opening before failure after :=
    ⟨List.isEmpty_iff.mp (by decide), driven, .renewal 0 1 _ flown, by decide,
      ⟨_, known, rfl, rfl⟩, by decide, by decide⟩
  have present : k.sources.find? 1 =
      some ⟨secret, "db.", .retainOnIoError, [], .errored, 0, 0⟩ := by decide
  obtain ⟨state, inactive, _⟩ := errored_iff_dropped setback present
  exact ⟨setback, _, present, state, inactive.mpr (Or.inl (by decide))⟩

/-- A lease of a quarter of a minute runs out before its renewal could be tried again. The source
does not hear of it. -/
theorem spent_lease_unnoticed :
    ¬ ∀ policy secret fault id opening before failure after,
      Setback policy secret fault id opening before failure after →
      ∀ s, ((new policy).run (opening ++ before ++ failure :: after)).sources.find? id = some s →
        (s.state = .errored ↔
          (((new policy).run (opening ++ before ++ failure :: after)).room secret).isActive =
            false) := by
  let secret : Secret := ⟨"database/creds/app", .renew⟩
  let policy : LeasePolicy := ⟨Span.seconds 10, Span.seconds 60, .retainOnError⟩
  let response : Response := ⟨"", "a", 15, true, none, none, none⟩
  let opening : List KeeperEvent := [.request 1 (.bind secret false ""), .ask secret 1,
    .answer secret (.start 1) (.fetched (.ok response))]
  let before : List KeeperEvent := [.pass (Span.seconds 10), .fire secret 0 1]
  let failure : KeeperEvent :=
    .answer secret (.timer 0 1) (.renewed (.error (.connectionFailed "reset")))
  have flown : (((new policy).run (opening ++ before)).room secret).flight? (.timer 0 1) =
      some ⟨.timer 0 1, .renew ⟨"a", 15, true⟩⟩ := Room.asking (by decide)
  have known : ((new policy).run (opening ++ before)).sources.find? 1 =
      some ⟨secret, "", .retainOnError, [], .active, 0, 0⟩ := by decide
  have driven : ((new policy).run opening).Along (Driven secret) (before ++ [failure]) :=
    ⟨driven_pass _ secret _, .fire 0 1, .answer 0 1 _, trivial⟩
  have setback : Setback policy secret (.connectionFailed "reset") 1 opening before failure [] :=
    ⟨List.isEmpty_iff.mp (by decide), driven, .renewal 0 1 _ flown, by decide,
      ⟨_, known, rfl, rfl⟩, List.forall_mem_nil _, by decide⟩
  have present : ((new policy).run (opening ++ before ++ [failure])).sources.find? 1 =
      some ⟨secret, "", .retainOnError, [], .active, 0, 0⟩ := by decide
  have inactive : (((new policy).run (opening ++ before ++ [failure])).room secret).isActive =
      false := by decide
  intro agree
  have errored := (agree _ _ _ _ _ _ _ _ setback _ present).mpr inactive
  cases errored

end Keeper
end LeaseKeeper

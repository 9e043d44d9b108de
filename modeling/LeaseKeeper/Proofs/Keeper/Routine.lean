import LeaseKeeper.Proofs.Keeper.Eligible
import LeaseKeeper.Proofs.Keeper.Errored
import LeaseKeeper.Proofs.Keeper.Keyed
import LeaseKeeper.Proofs.Keeper.Startup

/-!
A secret that a start fetches and that is left to its timer from then on, one event after the other.
Its first fetch is awaited; then its lease is renewed as a matter of routine, and a rotating secret
is fetched again; in the end nothing is left to be done. Each event tells of the secret no more than
belongs to its stage.
-/
namespace LeaseKeeper

open Lineage

def KeeperEvent.isRequest : KeeperEvent → Bool
  | .request _ _ => true
  | _ => false

def Errand.Routine (secret : Secret) : Errand → Prop
  | .fetch => secret.isRotating = true
  | .renew _ => True
  | .revoke _ _ => False

def LeaseEvent.Routine (secret : Secret) (e : LeaseEvent) : Prop :=
  (∃ lease, e = .afterRenewed secret lease) ∨
    secret.isRotating = true ∧ (e = .notFound secret ∨ ∃ lease data, e = .created secret lease data)

def LeaseEvent.isCreated : LeaseEvent → Bool
  | .created _ _ _ => true
  | _ => false

namespace Tiding

def Routine (secret : Secret) : Tiding → Prop
  | .asked errand => errand.Routine secret
  | .heard e => e.Routine secret
  | .failed _ _ => True

def heard? : Tiding → Option LeaseEvent
  | .heard e => some e
  | _ => none

end Tiding

def creations (news : List (Nat × Tiding)) : Nat :=
  (news.filterMap (·.2.heard?)).countP (·.isCreated)

namespace Keeper

variable {k k' k'' : Keeper} {secret : Secret} {purpose : Purpose} {event : KeeperEvent}
  {number generation ticket : Nat}

/-! ### What an event leaves alone -/

structure Stays (secret : Secret) (k k' : Keeper) : Prop where
  flights : (k'.room secret).flights = (k.room secret).flights
  unasked : (k'.room secret).unasked = (k.room secret).unasked
  current : k'.current secret = k.current secret
  data : k'.data secret = k.data secret
  tidings : k'.tidings secret = k.tidings secret

namespace Stays

theorem refl (secret : Secret) (k : Keeper) : Stays secret k k := ⟨rfl, rfl, rfl, rfl, rfl⟩

theorem trans (first : Stays secret k k') (second : Stays secret k' k'') : Stays secret k k'' :=
  ⟨second.flights.trans first.flights, second.unasked.trans first.unasked,
    second.current.trans first.current, second.data.trans first.data,
    second.tidings.trans first.tidings⟩

theorem of_room (room : k'.room secret = k.room secret)
    (tidings : k'.tidings secret = k.tidings secret) : Stays secret k k' :=
  ⟨by rw [room], by rw [room], by rw [Keeper.current, room, Keeper.current],
    by rw [Keeper.data, room, Keeper.data], tidings⟩

theorem setLine {line line' : Line} (found : (k.room secret).lines[number]? = some line)
    (slot : line'.lineage.slot = line.lineage.slot) :
    Stays secret k (k.setRoom secret ((k.room secret).setLine number line')) := by
  refine ⟨read_setRoom Room.flights (by rfl) secret, read_setRoom Room.unasked (by rfl) secret, ?_,
    read_setRoom Room.data (by rfl) secret, rfl⟩
  rw [Keeper.current, room_setRoom_self, Room.current_setLine found]
  split
  · rename_i used
    rw [Keeper.current, Room.current_of_used used found, Lineage.current, slot, Lineage.current]
  · rfl

theorem stop (k : Keeper) (secret : Secret) (number generation : Nat) :
    Stays secret k (k.stop secret number generation) := by
  unfold Keeper.stop
  dsimp only
  cases found : (k.room secret).lines[number]? with
  | none => exact refl secret k
  | some line =>
    dsimp only
    split
    · exact setLine found rfl
    · exact refl secret k

theorem fire (rested : k.Rested) (vacant : k.current secret = none) (number generation : Nat) :
    Stays secret k (k.fire secret number generation) := by
  have unheld {line : Line} {held : Held} (found : (k.room secret).lines[number]? = some line)
      (slot : line.lineage.slot = some held) : False := by
    have holds := holds_of_slot rested found slot
    rw [Keeper.current, Room.current_of_used holds.used found, Lineage.current, slot] at vacant
    cases vacant
  have fires := fire_fires k secret number generation
  generalize k.fire secret number generation = k' at fires ⊢
  cases fires with
  | refused => exact refl secret k
  | missed line found => exact setLine found rfl
  | pursued line held found before => exact (unheld found before).elim
  | surrendered line held found before => exact (unheld found before).elim

end Stays

structure Serving (secret : Secret) (k : Keeper) : Prop where
  started : k.started = true
  binds : k.binds = []
  lined : (k.room secret).line?.isSome = true

theorem Serving.lone (serving : k.Serving secret) (ticket? : Option Nat) : k.Lone ticket? := by
  intro ticket _
  rw [serving.binds]
  rfl

theorem step_aloof (unasked : event.isRequest = false) (nobody : event.subject? = none) :
    (k.step event).started = k.started ∧ (k.step event).binds = k.binds ∧
      (k.step event).rooms = k.rooms ∧ (k.step event).journal = k.journal := by
  have silenced (id : Nat) : (k.silence id).started = k.started ∧ (k.silence id).binds = k.binds ∧
      (k.silence id).rooms = k.rooms ∧ (k.silence id).journal = k.journal := by
    unfold silence
    split <;> exact ⟨rfl, rfl, rfl, rfl⟩
  cases event with
  | request => cases unasked
  | ask => cases nobody
  | answer => cases nobody
  | fire => cases nobody
  | stop => cases nobody
  | pass => exact ⟨rfl, rfl, rfl, rfl⟩
  | closeSource id => exact silenced id
  | dropSource id => exact silenced id
  | disown => exact ⟨rfl, rfl, rfl, rfl⟩

section
variable (serving : k.Serving secret) (bears : k.Bears event) (unasked : event.isRequest = false)
include serving bears unasked

theorem Serving.step : (k.step event).Serving secret := by
  cases mine : event.subject? with
  | none =>
    obtain ⟨started, binds, rooms, _⟩ := step_aloof (k := k) unasked mine
    exact ⟨started.trans serving.started, binds.trans serving.binds,
      (congrArg (·.line?.isSome) (room_of_rooms rooms secret)).trans serving.lined⟩
  | some own =>
    have confined := bears.confined mine (serving.lone _)
    refine ⟨confined.started.trans serving.started, confined.binds.trans serving.binds, ?_⟩
    by_cases same : secret = own
    · subst same
      exact confined.lined.trans serving.lined
    · rw [confined.rooms secret same]
      exact serving.lined

theorem Serving.elsewhere (differ : event.subject? ≠ some secret) :
    (k.step event).room secret = k.room secret ∧
      (k.step event).tidings secret = k.tidings secret := by
  cases mine : event.subject? with
  | none =>
    obtain ⟨_, _, rooms, journal⟩ := step_aloof (k := k) unasked mine
    exact ⟨room_of_rooms rooms secret, by rw [tidings, journal, tidings]⟩
  | some own =>
    have other : secret ≠ own := by
      rintro rfl
      exact differ mine
    have confined := bears.confined mine (serving.lone _)
    exact ⟨confined.rooms secret other, confined.tidings secret other⟩

end

def isGrant (secret : Secret) (k : Keeper) : KeeperEvent → Bool
  | .answer own purpose (.fetched (.ok _)) =>
    own == secret && ((k.room secret).flight? purpose).any (·.errand.isFetch)
  | _ => false

theorem isGrant_of_other (differ : event.subject? ≠ some secret) :
    k.isGrant secret event = false := by
  unfold isGrant
  split
  · rename_i own _ _
    have other : own ≠ secret := fun same => differ (congrArg some same)
    simp [other]
  · rfl

theorem isGrant_of_absent (absent : (k.room secret).flight? purpose = none) (reply : Reply) :
    k.isGrant secret (.answer secret purpose reply) = false := by
  unfold isGrant
  split
  · rename_i _ _ _ same
    cases same
    simp [absent]
  · rfl

theorem isGrant_of_fetch (flown : (k.room secret).flight? purpose = some ⟨purpose, .fetch⟩)
    (result : Except Fault Response) :
    k.isGrant secret (.answer secret purpose (.fetched result)) = isOk result := by
  cases result <;> simp [isGrant, flown, Errand.isFetch, isOk]

theorem Serving.step_vacant (serving : k.Serving secret) (rested : k.Rested)
    (vacant : k.current secret = none) (bears : k.Bears event) (unasked : event.isRequest = false)
    (passed : ∀ turn, event = .ask secret turn → (k.room secret).unasked.contains turn = false)
    (ignored : ∀ purpose reply, event = .answer secret purpose reply →
      k.answer secret purpose reply = k ∧ k.isGrant secret event = false) :
    Stays secret k (k.step event) ∧ k.isGrant secret event = false := by
  by_cases mine : event.subject? = some secret
  · cases event with
    | request => cases unasked
    | ask other turn =>
      cases mine
      rw [Keeper.step, ask_idle (passed turn rfl)]
      exact ⟨.refl secret k, rfl⟩
    | answer other purpose reply =>
      cases mine
      obtain ⟨same, ungranted⟩ := ignored purpose reply rfl
      refine ⟨?_, ungranted⟩
      rw [Keeper.step, same]
      exact .refl secret k
    | fire other number generation =>
      cases mine
      exact ⟨.fire rested vacant number generation, rfl⟩
    | stop other number generation =>
      cases mine
      exact ⟨.stop k secret number generation, rfl⟩
    | _ => cases mine
  · obtain ⟨room, tidings⟩ := serving.elsewhere bears unasked mine
    exact ⟨.of_room room tidings, isGrant_of_other mine⟩

theorem answer_absent (absent : (k.room secret).flight? purpose = none) (reply : Reply) :
    k.answer secret purpose reply = k := by simp only [answer, absent]

/-! ### Nothing left to be done -/

structure Spent (secret : Secret) (k : Keeper) : Prop where
  idle : (k.room secret).flights = []
  vacant : k.current secret = none

theorem Spent.step (spent : k.Spent secret) (serving : k.Serving secret) (rested : k.Rested)
    (queued : k.Queued) (bears : k.Bears event) (unasked : event.isRequest = false) :
    Stays secret k (k.step event) ∧ k.isGrant secret event = false := by
  have passed (turn : Nat) : (k.room secret).unasked.contains turn = false :=
    queued.not_waiting (by simp [spent.idle])
  refine serving.step_vacant rested spent.vacant bears unasked (fun turn _ => passed turn) ?_
  rintro purpose reply rfl
  have absent : (k.room secret).flight? purpose = none := by simp [Room.flight?, spent.idle]
  exact ⟨answer_absent absent reply, isGrant_of_absent absent reply⟩

theorem Spent.stays (spent : k.Spent secret) (stays : Stays secret k k') : k'.Spent secret :=
  ⟨stays.flights.trans spent.idle, stays.current.trans spent.vacant⟩

/-! ### How a fetch ends -/

theorem Leaves.current (leaves : Leaves secret k k') : k'.current secret = k.current secret := by
  rw [current_of_outlook, current_of_outlook, leaves.outlook]

theorem fetched_failed (k : Keeper) (secret : Secret) (purpose : Purpose) (fault : Fault) :
    ∃ copy, k.fetched secret purpose (.error fault) =
      (k.disappointed secret fault).endFetch secret purpose (.error copy) := ⟨_, rfl⟩

theorem fetched_kept {response : Response} (running : k.started = true)
    (known : (k.room secret).line?.isSome = true) (fits : ¬ k.Outlasts secret response.lease)
    (purpose : Purpose) :
    ∃ k₁, (k.published secret response).Scheduled secret response.lease (k₁, .kept) ∧
      k.fetched secret purpose (.ok response) =
        k₁.endFetch secret purpose (.ok response.lease) := by
  have told := Confined.published secret k response
  have started := told.started.trans running
  have lined := told.lined.trans known
  have bears : ¬ (k.published secret response).Outlasts secret response.lease :=
    fun outlasts => fits (told.outlasts_iff.mp outlasts)
  simp only [fetched, running]
  rw [if_neg (by simp)]
  unfold published at started lined bears ⊢
  generalize Keeper.emit _ _ = k₁ at started lined bears ⊢
  have scheduled := schedule_scheduled k₁ secret response.lease
  generalize k₁.schedule secret response.lease = outcome at scheduled
  obtain ⟨k₂, kind⟩ := outcome
  cases kind with
  | kept => exact ⟨k₂, scheduled, rfl⟩
  | overflow => exact (bears scheduled.outlasts).elim
  | refused =>
    cases scheduled with
    | refused closed =>
      rcases closed with absent | stopped
      · simp [absent] at lined
      · rw [started] at stopped
        cases stopped

theorem Bears.fits {response : Response}
    (bears : k.Bears (.answer secret purpose (.fetched (.ok response))))
    (flown : (k.room secret).flight? purpose = some ⟨purpose, .fetch⟩) :
    ¬ k.Outlasts secret response.lease :=
  bears secret rfl response.lease (by simp [handed?, flown, Errand.handed?])

theorem tidings_published (k : Keeper) (secret : Secret) (response : Response) :
    (k.published secret response).tidings secret =
      (k.now, .heard (.created secret response.lease response.flattened)) ::
        k.tidings secret := by
  have created :
      (LeaseEvent.created secret response.lease response.flattened).secret = secret := rfl
  rw [published, tidings_emit _ created]
  rfl

/-! ### The first fetch -/

structure Expecting (ticket : Nat) (secret : Secret) (waits : Bool) (k : Keeper) : Prop where
  flights : (k.room secret).flights = [⟨.start ticket, .fetch⟩]
  turn : (k.room secret).unasked.contains ticket = waits
  vacant : k.current secret = none

theorem endShared_stays (free : k.binds.find? ticket = none) (secret : Secret) :
    Stays secret k (k.endShared ticket) := by
  unfold endShared
  split
  · exact .refl secret k
  · rw [complete_lone free]
    exact ⟨rfl, rfl, rfl, rfl, rfl⟩

namespace Expecting

variable {waits : Bool}

theorem flown (expecting : k.Expecting ticket secret false) :
    (k.room secret).flight? (.start ticket) = some ⟨.start ticket, .fetch⟩ := by
  rw [Room.flight?_eq_some]
  exact ⟨expecting.turn, by simp [expecting.flights]⟩

theorem absent (expecting : k.Expecting ticket secret waits) (other : purpose ≠ .start ticket) :
    (k.room secret).flight? purpose = none := by
  simp [Room.flight?, expecting.flights, Ne.symm other]

theorem not_flown (expecting : k.Expecting ticket secret true) (purpose : Purpose) :
    (k.room secret).flight? purpose = none := by
  by_cases own : purpose = .start ticket
  · subst own
    exact if_pos expecting.turn
  · exact expecting.absent own

theorem not_waiting (expecting : k.Expecting ticket secret waits) (queued : k.Queued) {turn : Nat}
    (other : waits = true → turn ≠ ticket) : (k.room secret).unasked.contains turn = false := by
  by_cases own : turn = ticket
  · rw [own, expecting.turn]
    exact Bool.eq_false_iff.mpr fun waiting => other waiting own
  · refine queued.not_waiting fun flight flying mine => own ?_
    rw [expecting.flights, List.mem_singleton] at flying
    rw [flying] at mine
    exact (Purpose.start.inj mine).symm

theorem landed_flights (expecting : k.Expecting ticket secret waits) :
    ((k.landed secret (.start ticket)).room secret).flights = [] := by
  rw [landed_room]
  simp [Room.dropFlight, expecting.flights]

theorem stays (expecting : k.Expecting ticket secret waits) (stays : Stays secret k k') :
    k'.Expecting ticket secret waits :=
  ⟨stays.flights.trans expecting.flights, stays.unasked ▸ expecting.turn,
    stays.current.trans expecting.vacant⟩

theorem step_waiting (expecting : k.Expecting ticket secret true) (serving : k.Serving secret)
    (rested : k.Rested) (queued : k.Queued) (bears : k.Bears event)
    (unasked : event.isRequest = false) (other : event ≠ .ask secret ticket) :
    Stays secret k (k.step event) := by
  refine (serving.step_vacant rested expecting.vacant bears unasked ?_ ?_).1
  · rintro turn rfl
    exact expecting.not_waiting queued fun _ same => other (same ▸ rfl)
  · rintro purpose reply rfl
    have absent := expecting.not_flown purpose
    exact ⟨answer_absent absent reply, isGrant_of_absent absent reply⟩

theorem asked (expecting : k.Expecting ticket secret true) :
    (k.step (.ask secret ticket)).Expecting ticket secret false ∧
      (k.step (.ask secret ticket)).tidings secret =
        (k.now, .asked .fetch) :: k.tidings secret := by
  rw [Keeper.step, ask_of_waiting expecting.turn]
  refine ⟨⟨?_, ?_, ?_⟩, tidings_asked k secret ticket⟩
  · rw [room_asked]
    exact expecting.flights
  · rw [room_asked]
    simp [Room.ask]
  · rw [Keeper.current, room_asked]
    exact expecting.vacant

theorem step (expecting : k.Expecting ticket secret false) (serving : k.Serving secret)
    (rested : k.Rested) (queued : k.Queued) (bears : k.Bears event)
    (unasked : event.isRequest = false)
    (unanswered : ∀ result, event ≠ .answer secret (.start ticket) (.fetched result)) :
    Stays secret k (k.step event) ∧ k.isGrant secret event = false := by
  refine serving.step_vacant rested expecting.vacant bears unasked
    (fun turn _ => expecting.not_waiting queued nofun) ?_
  rintro purpose reply rfl
  by_cases own : purpose = .start ticket
  · subst own
    cases reply with
    | fetched result => exact absurd rfl (unanswered result)
    | renewed result => exact ⟨by simp only [answer, expecting.flown], rfl⟩
    | revoked result => exact ⟨by simp only [answer, expecting.flown], rfl⟩
  · have absent := expecting.absent own
    exact ⟨answer_absent absent reply, isGrant_of_absent absent reply⟩

section
variable (expecting : k.Expecting ticket secret false) (serving : k.Serving secret)
include expecting serving

theorem failed (fault : Fault) :
    let k' := k.step (.answer secret (.start ticket) (.fetched (.error fault)))
    k'.Spent secret ∧ k'.tidings secret = (k.now, .failed Lease.none fault) ::
      if fault.isNotFound then (k.now, .heard (.notFound secret)) :: k.tidings secret
      else k.tidings secret := by
  intro k'
  have landed := landed_room k secret (.start ticket)
  have leaves := leaves_disappointed (k.landed secret (.start ticket)) secret fault
  have free := serving.lone (some ticket) ticket rfl
  have stays := endShared_stays (k := (k.landed secret (.start ticket)).disappointed secret fault)
    (leaves.binds ▸ free) secret
  have ended : k' = ((k.landed secret (.start ticket)).disappointed secret fault).endShared
      ticket := by
    simp only [k', step_fetched expecting.flown]
    rfl
  have vacant : (k.landed secret (.start ticket)).current secret = none := by
    rw [Keeper.current, landed]
    exact expecting.vacant
  rw [ended]
  refine ⟨⟨?_, ?_⟩, stays.tidings.trans (tidings_disappointed _ secret fault)⟩
  · exact stays.flights.trans (leaves.flights.trans expecting.landed_flights)
  · exact stays.current.trans (leaves.current.trans vacant)

theorem granted {response : Response} (fits : ¬ k.Outlasts secret response.lease) :
    let k' := k.step (.answer secret (.start ticket) (.fetched (.ok response)))
    (k'.room secret).flights = [] ∧ k'.tidings secret =
      (k.now, .heard (.created secret response.lease response.flattened)) :: k.tidings secret := by
  intro k'
  have confined := Confined.landed k secret (.start ticket)
  have serving' : (k.landed secret (.start ticket)).Serving secret :=
    ⟨serving.started, serving.binds, confined.lined.trans serving.lined⟩
  obtain ⟨k₁, scheduled, ended⟩ := fetched_kept serving'.started serving'.lined
    (fun outlasts => fits (confined.outlasts_iff.mp outlasts)) (.start ticket)
  have leaves := leaves_published (k.landed secret (.start ticket)) secret response
  have free : k₁.binds.find? ticket = none := by
    rw [scheduled.confined.binds, leaves.binds]
    exact serving.lone (some ticket) ticket rfl
  have stays := endShared_stays free secret
  have ended : k' = k₁.endShared ticket := by
    simp only [k', step_fetched expecting.flown, ended]
    rfl
  rw [ended]
  refine ⟨?_, ?_⟩
  · rw [stays.flights, scheduled.flights, leaves.flights, expecting.landed_flights]
  · rw [stays.tidings, (Alike.scheduled scheduled).tidings, tidings_published]
    rfl

end

end Expecting

/-! ### The routine of a secret -/

structure Living (secret : Secret) (k : Keeper) : Prop where
  devoted : (k.room secret).Devoted
  errands : ∀ flight ∈ (k.room secret).flights, flight.errand.Routine secret

inductive Fares (secret : Secret) (granted : Bool) (k k' : Keeper) : Prop where
  | routine (news : List (Nat × Tiding)) (told : k'.tidings secret = news ++ k.tidings secret)
      (each : ∀ tiding ∈ news, tiding.2.Routine secret) (count : creations news = granted.toNat)
      (living : k'.Living secret)
  | expires (next : Lease) (renewing : secret.isRotating = false) (ungranted : granted = false)
      (told : k'.tidings secret = (k.now, .heard (.expired secret next)) ::
        (k.now, .heard (.afterRenewed secret next)) :: k.tidings secret)
      (spent : k'.Spent secret) (data : k'.data secret = none)

theorem living_of_idle (idle : (k.room secret).flights = []) : k.Living secret :=
  ⟨Room.devoted_of_idle idle, by simp [idle]⟩

namespace Fares

theorem of_stays (living : k.Living secret) (devoted : (k'.room secret).Devoted)
    (stays : Stays secret k k') : Fares secret false k k' :=
  .routine [] stays.tidings nofun rfl ⟨devoted, stays.flights ▸ living.errands⟩

section
variable (news : List (Nat × Tiding)) (idle : (k'.room secret).flights = [])
  (told : k'.tidings secret = news ++ k.tidings secret)
  (each : ∀ tiding ∈ news, tiding.2.Routine secret)
include idle told each

theorem ends {granted : Bool} (count : creations news = granted.toNat) (number generation : Nat)
    (result : Except Fault Lease) :
    Fares secret granted k (k'.endTimer secret number generation result) :=
  .routine news ((Alike.endTimer k' secret number generation result).tidings.trans told) each count
    (living_of_idle (endTimer_idle idle number generation result))

theorem ends_fetch {granted : Bool} (count : creations news = granted.toNat)
    (number generation : Nat) (result : Except Fault Lease) :
    Fares secret granted k (k'.endFetch secret (.timer number generation) result) := by
  have rotated : k'.endFetch secret (.timer number generation) result =
      (k'.count (.rotation (isOk result))).endTimer secret number generation result := rfl
  rw [rotated]
  exact ends news (by exact idle) (by exact told) each count number generation result

theorem asks (count : creations news = 0)
    (renewing : (k'.room secret).Renewing number generation) {errand : Errand}
    (usual : errand.Routine secret) :
    Fares secret false k (k'.call secret (.timer number generation) errand) := by
  have room : (k'.call secret (.timer number generation) errand).room secret =
      (k'.room secret).board (.timer number generation) errand := room_setRoom_self k' secret _
  refine .routine ((k'.now, .asked errand) :: news) ?_ ?_ count
    ⟨(Resolves.call idle errand).devoted renewing, ?_⟩
  · rw [List.cons_append, ← told]
    simp [Keeper.tidings, Keeper.call, Keeper.note, setRoom, Entry.tiding?]
  · exact List.forall_mem_cons.mpr ⟨usual, each⟩
  · rw [room, Room.board, idle]
    exact List.forall_mem_singleton.mpr usual

end

end Fares

theorem tidings_acknowledged (k : Keeper) (secret : Secret) (next : Lease) :
    (k.acknowledged secret next).tidings secret =
      (if next.hasId then [(k.now, .heard (.afterRenewed secret next))] else []) ++
        k.tidings secret := by
  unfold acknowledged
  split
  · have mine : (LeaseEvent.afterRenewed secret next).secret = secret := rfl
    rw [tidings_emit _ mine]
    rfl
  · rfl

theorem tidings_lapsed (k : Keeper) (secret : Secret) (next : Lease) :
    (k.lapsed secret next).tidings secret =
      (k.now, .heard (.expired secret next)) :: k.tidings secret := by
  have mine : (LeaseEvent.expired secret next).secret = secret := rfl
  rw [lapsed, tidings_emit _ mine]
  rfl

theorem data_lapsed (k : Keeper) (secret : Secret) (next : Lease) :
    (k.lapsed secret next).data secret = none := by
  rw [lapsed, Keeper.data, emit_room, room_setRoom_self]

structure Landed (secret : Secret) (number generation : Nat) (k : Keeper) : Prop where
  idle : (k.room secret).flights = []
  renewing : (k.room secret).Renewing number generation

theorem Living.landed (living : k.Living secret) {flight : Flight}
    (flown : (k.room secret).flight? (.timer number generation) = some flight) :
    (k.landed secret (.timer number generation)).Landed secret number generation := by
  have renewing := living.devoted.renewing flown
  have room := landed_room k secret (.timer number generation)
  refine ⟨?_, renewing.of_lines (by rw [room]; rfl) (by rw [room]; rfl)⟩
  rw [room]
  exact living.devoted.landed renewing

namespace Landed

theorem leave (landed : k.Landed secret number generation) (leaves : Leaves secret k k') :
    k'.Landed secret number generation :=
  ⟨leaves.flights.trans landed.idle, landed.renewing.of_lines leaves.lines leaves.registered⟩

theorem surrender (landed : k.Landed secret number generation) :
    (k.endTimer secret number generation (.ok Lease.none)).Spent secret := by
  obtain ⟨line, held, holds, own, _⟩ := landed.renewing
  obtain ⟨waits, room⟩ := endTimer_room holds.found generation (.ok Lease.none)
  refine ⟨endTimer_idle landed.idle number generation _, ?_⟩
  rw [Keeper.current, room, Room.current_setLine holds.found, if_pos holds.used]
  simp [conclude, hasId_none, settle, holds.slot, own, Lineage.current]

variable (landed : k.Landed secret number generation)
include landed

theorem renewed (lease : Lease) (result : Except Fault Lease) :
    Fares secret false k (k.renewed secret (.timer number generation) lease result) := by
  cases result with
  | error fault =>
    have told := (count_telling k (.renewal secret.mode false)).trans
      (report_telling _ secret lease fault)
    have news :
        ((k.count (.renewal secret.mode false)).report secret lease fault).1.tidings secret =
        [(k.now, .failed lease fault)] ++ k.tidings secret := tidings_report _ secret lease fault
    have idle := (Leaves.of_telling told).flights.trans landed.idle
    exact .ends _ idle news (List.forall_mem_singleton.mpr trivial) rfl number generation _
  | ok next =>
    have landed' := landed.leave (leaves_acknowledged k secret next)
    have told := tidings_acknowledged k secret next
    have usual : (LeaseEvent.afterRenewed secret next).Routine secret := Or.inl ⟨next, rfl⟩
    by_cases short : k.fallsShort next
    · rw [if_pos short.1] at told
      rw [renewed_of_short lease short]
      cases rotating : secret.isRotating with
      | true =>
        exact .asks _ landed'.idle told (List.forall_mem_singleton.mpr usual) rfl
          landed'.renewing rotating
      | false =>
        have alike := Alike.endTimer ((k.acknowledged secret next).lapsed secret next) secret number
          generation (.ok Lease.none)
        refine .expires next rotating rfl ?_ (landed'.leave (leaves_lapsed _ secret next)).surrender
          (alike.data.trans (data_lapsed _ secret next))
        refine alike.tidings.trans ((tidings_lapsed _ secret next).trans ?_)
        rw [told, (acknowledged_telling k secret next).now]
        rfl
    · rw [renewed_of_enough lease short]
      refine .ends _ landed'.idle told ?_ ?_ number generation _
      · split
        · exact List.forall_mem_singleton.mpr usual
        · exact nofun
      · split <;> rfl

theorem fetched (rotating : secret.isRotating = true) (serving : k.Serving secret)
    (result : Except Fault Response)
    (fits : ∀ response, result = .ok response → ¬ k.Outlasts secret response.lease) :
    Fares secret (isOk result) k (k.fetched secret (.timer number generation) result) := by
  cases result with
  | error fault =>
    obtain ⟨copy, ended⟩ := fetched_failed k secret (.timer number generation) fault
    have told := tidings_disappointed k secret fault
    have idle := (leaves_disappointed k secret fault).flights.trans landed.idle
    rw [ended]
    split at told
    · have usual : (LeaseEvent.notFound secret).Routine secret := Or.inr ⟨rotating, Or.inl rfl⟩
      exact .ends_fetch [_, _] idle told
        (List.forall_mem_cons.mpr ⟨trivial, List.forall_mem_singleton.mpr usual⟩) rfl number
        generation _
    · exact .ends_fetch [_] idle told (List.forall_mem_singleton.mpr trivial) rfl number
        generation _
  | ok response =>
    obtain ⟨k₁, scheduled, ended⟩ := fetched_kept serving.started serving.lined
      (fits response rfl) (.timer number generation)
    have told := (Alike.scheduled scheduled).tidings.trans (tidings_published k secret response)
    have leaves := leaves_published k secret response
    have idle := (scheduled.flights secret).trans (leaves.flights.trans landed.idle)
    have usual : (LeaseEvent.created secret response.lease response.flattened).Routine secret :=
      Or.inr ⟨rotating, Or.inr ⟨_, _, rfl⟩⟩
    rw [ended]
    exact .ends_fetch [_] idle told (List.forall_mem_singleton.mpr usual) rfl number generation _

end Landed

theorem Fares.of_landed {granted : Bool}
    (fares : Fares secret granted (k.landed secret purpose) k') :
    Fares secret granted k k' := by
  cases fares with
  | routine news told each count living => exact .routine news told each count living
  | expires next renewing ungranted told spent data =>
    exact .expires next renewing ungranted told spent data

theorem Living.fire (living : k.Living secret) (rested : k.Rested) (number generation : Nat) :
    Fares secret false k (k.fire secret number generation) := by
  have devoted := fire_devoted rested living.devoted number generation
  have fires := fire_fires k secret number generation
  generalize k.fire secret number generation = k' at fires devoted ⊢
  have idle {line : Line} {lineage : Lineage} {held : Held}
      (found : (k.room secret).lines[number]? = some line) (before : line.lineage.slot = some held)
      (scheduled : held.phase = .scheduled) :
      ((k.fired secret number line lineage generation).room secret).flights = [] := by
    rw [fired, room_setRoom_self]
    exact idle_of_scheduled rested living.devoted found before scheduled
  have told (line : Line) (lineage : Lineage) :
      (k.fired secret number line lineage generation).tidings secret =
        [] ++ k.tidings secret := rfl
  cases fires with
  | refused => exact .of_stays living devoted (.refl secret k)
  | missed line found => exact .of_stays living devoted (.setLine found rfl)
  | pursued line held found before own scheduled =>
    have renewing := renewing_of_fired rested found before own
    unfold renewOrFetch
    split
    · rename_i further
      have rotating : Errand.Routine secret .fetch := (Bool.and_eq_true_iff.mp further).1
      exact .asks [] (idle found before scheduled) (told _ _) (by simp) rfl renewing rotating
    · have usual : Errand.Routine secret (.renew held.lease) := trivial
      exact .asks [] (idle found before scheduled) (told _ _) (by simp) rfl renewing usual
  | surrendered line held found before own scheduled =>
    exact .ends [] (idle found before scheduled) (told _ _) (by simp) rfl number generation _

theorem Living.answer (living : k.Living secret) (serving : k.Serving secret) {reply : Reply}
    (bears : k.Bears (.answer secret purpose reply)) :
    Fares secret (k.isGrant secret (.answer secret purpose reply)) k
      (k.answer secret purpose reply) := by
  have ignored (same : k.answer secret purpose reply = k)
      (ungranted : k.isGrant secret (.answer secret purpose reply) = false) :
      Fares secret (k.isGrant secret (.answer secret purpose reply)) k
        (k.answer secret purpose reply) := by
    rw [same, ungranted]
    exact .of_stays living living.devoted (.refl secret k)
  cases flown : (k.room secret).flight? purpose with
  | none => exact ignored (answer_absent flown reply) (isGrant_of_absent flown reply)
  | some flight =>
    obtain ⟨_, errand⟩ := flight
    obtain rfl := Room.flight?_purpose flown
    have flying := Room.mem_of_flight? flown
    obtain ⟨number, generation, rfl, _⟩ := living.devoted _ flying
    have landed := living.landed flown
    have usual := living.errands _ flying
    cases errand with
    | fetch =>
      cases reply with
      | fetched result =>
        have confined := Confined.landed k secret (.timer number generation)
        have serving' : (k.landed secret (.timer number generation)).Serving secret :=
          ⟨serving.started, serving.binds, confined.lined.trans serving.lined⟩
        have stepped := step_fetched flown result
        rw [Keeper.step] at stepped
        rw [isGrant_of_fetch flown, stepped]
        refine (landed.fetched usual serving' result ?_).of_landed
        rintro response rfl outlasts
        exact bears.fits flown (confined.outlasts_iff.mp outlasts)
      | renewed => exact ignored (by simp [Keeper.answer, flown]) rfl
      | revoked => exact ignored (by simp [Keeper.answer, flown]) rfl
    | renew lease =>
      cases reply with
      | renewed result =>
        have stepped : k.answer secret (.timer number generation) (.renewed result) =
            (k.landed secret (.timer number generation)).renewed secret (.timer number generation)
              lease result := by
          simp [Keeper.answer, flown, Keeper.landed]
        rw [stepped]
        exact (landed.renewed lease result).of_landed
      | fetched result =>
        refine ignored (by simp [Keeper.answer, flown]) ?_
        cases result <;> simp [isGrant, flown, Errand.isFetch]
      | revoked => exact ignored (by simp [Keeper.answer, flown]) rfl
    | revoke => exact usual.elim

/-- One event in the routine of a secret. -/
theorem Living.step (living : k.Living secret) (serving : k.Serving secret) (rested : k.Rested)
    (queued : k.Queued) (bears : k.Bears event) (unasked : event.isRequest = false) :
    Fares secret (k.isGrant secret event) k (k.step event) := by
  by_cases mine : event.subject? = some secret
  · cases event with
    | request => cases unasked
    | ask other turn =>
      cases mine
      have passed : (k.room secret).unasked.contains turn = false := by
        refine queued.not_waiting fun flight flying own => ?_
        obtain ⟨number, generation, timer, _⟩ := living.devoted flight flying
        rw [timer] at own
        cases own
      rw [Keeper.step, ask_idle passed]
      exact .of_stays living living.devoted (.refl secret k)
    | answer other purpose reply =>
      cases mine
      exact living.answer serving bears
    | fire other number generation =>
      cases mine
      exact living.fire rested number generation
    | stop other number generation =>
      cases mine
      exact .of_stays living (stop_devoted living.devoted number generation)
        (.stop k secret number generation)
    | _ => cases mine
  · obtain ⟨room, tidings⟩ := serving.elsewhere bears unasked mine
    have devoted : ((k.step event).room secret).Devoted := room ▸ living.devoted
    rw [isGrant_of_other mine]
    exact .of_stays living devoted (.of_room room tidings)

end Keeper
end LeaseKeeper

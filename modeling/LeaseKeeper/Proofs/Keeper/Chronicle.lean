import LeaseKeeper.Proofs.Keeper.Attended
import LeaseKeeper.Proofs.Keeper.Routine
import Mathlib.Data.List.Induction
import Mathlib.Data.Set.List

/-!
All that is ever told of a secret that is fetched by a start and then left to its timer. The lease
events make up one of two languages, according to the secret's mode, and each stage of the words is
a stage of the secret: its fetch awaited, its lease renewed as a matter of routine, nothing left to
be done.
-/
namespace LeaseKeeper

open Lineage

def Tiding.asked? : Tiding → Option Errand
  | .asked errand => some errand
  | _ => none

def story (news : List (Nat × Tiding)) : List LeaseEvent :=
  (news.filterMap (·.2.heard?)).reverse

def inquiries (news : List (Nat × Tiding)) : List Errand :=
  (news.filterMap (·.2.asked?)).reverse

theorem story_append (news earlier : List (Nat × Tiding)) :
    story (news ++ earlier) = story earlier ++ story news := by
  simp [story]

theorem inquiries_append (news earlier : List (Nat × Tiding)) :
    inquiries (news ++ earlier) = inquiries earlier ++ inquiries news := by
  simp [inquiries]

theorem creations_append (news earlier : List (Nat × Tiding)) :
    creations (news ++ earlier) = creations news + creations earlier := by
  simp [creations]

def KeeperEvent.answerTo? (secret : Secret) (ticket : Nat) :
    KeeperEvent → Option (Except Fault Response)
  | .answer own (.start number) (.fetched result) =>
    if own = secret ∧ number = ticket then some result else none
  | _ => none

theorem KeeperEvent.answerTo?_eq_some {secret : Secret} {ticket : Nat} {event : KeeperEvent}
    {result : Except Fault Response} : event.answerTo? secret ticket = some result ↔
      event = .answer secret (.start ticket) (.fetched result) := by
  unfold answerTo?
  split
  · split
    · rename_i mine
      obtain ⟨rfl, rfl⟩ := mine
      simp
    · rename_i other
      refine iff_of_false (by simp) ?_
      rintro ⟨⟩
      exact other ⟨rfl, rfl⟩
  · rename_i other
    refine iff_of_false (by simp) ?_
    rintro rfl
    exact other _ _ _ rfl

/-- What the fetch that a start makes for the secret was answered, if it was. -/
def firstAnswer? (secret : Secret) (ticket : Nat) (events : List KeeperEvent) :
    Option (Except Fault Response) := events.findSome? (·.answerTo? secret ticket)

namespace Keeper

variable {k k' : Keeper} {secret : Secret} {ticket : Nat} {event : KeeperEvent}

/-! ### The start -/

structure Ready (secret : Secret) (k : Keeper) : Prop where
  stopped : k.started = false
  registered : (k.room secret).registered = true
  idle : (k.room secret).flights = []
  unbound : k.binds = []

structure Unstarted (k : Keeper) : Prop where
  stopped : k.started = false
  unbound : k.binds = []
  idle : ∀ secret, (k.room secret).flights = []

namespace Unstarted

theorem keep (unstarted : k.Unstarted) (started : k'.started = k.started)
    (binds : k'.binds = k.binds)
    (flights : ∀ secret, (k'.room secret).flights = (k.room secret).flights) : k'.Unstarted :=
  ⟨started.trans unstarted.stopped, binds.trans unstarted.unbound,
    fun secret => (flights secret).trans (unstarted.idle secret)⟩

theorem complete (unstarted : k.Unstarted) (ticket : Nat) (answer : KeeperAnswer) :
    (k.complete ticket answer).Unstarted := by
  have free : k.binds.find? ticket = none := by
    rw [unstarted.unbound]
    rfl
  rw [complete_lone free]
  exact unstarted.keep rfl rfl fun _ => rfl

theorem setRoom (unstarted : k.Unstarted) {room : Room} (flights : room.flights = []) :
    (k.setRoom secret room).Unstarted := by
  refine unstarted.keep rfl rfl (read_setRoom Room.flights ?_)
  rw [flights, unstarted.idle secret]

theorem add (unstarted : k.Unstarted) (ticket : Nat) (secret : Secret) :
    (k.request ticket (.add secret)).Unstarted := by
  have opened : (k.setRoom secret
      { k.room secret with
        lines := (k.room secret).lines ++ [⟨.new, []⟩]
        registered := true }).Unstarted := unstarted.setRoom (unstarted.idle secret)
  have stopped := opened.stopped
  cases registered : (k.room secret).registered with
  | true =>
    simp only [request, Keeper.add, registered]
    exact unstarted.complete ticket _
  | false =>
    simp only [request, Keeper.add, registered, stopped]
    exact opened.complete ticket _

theorem remove (unstarted : k.Unstarted) (vacant : k.current secret = none) (ticket : Nat) :
    (k.request ticket (.remove secret)).Unstarted := by
  cases registered : (k.room secret).registered with
  | false =>
    simp only [request, Keeper.remove, registered]
    exact unstarted.complete ticket _
  | true =>
    have without : (k.without secret).Unstarted :=
      unstarted.setRoom ((Room.vacated_flights _).trans (unstarted.idle secret))
    simp only [request, remove_eq k secret ticket registered, vacant]
    exact without.complete ticket _

theorem takings_of_vacant (vacant : ∀ secret, k.current secret = none) (secrets : List Secret) :
    (secrets.foldl gather (k, [])).2 = [] := by
  induction secrets generalizing k with
  | nil => rfl
  | cons secret rest ih =>
    have lease := (vacate_lease k secret).trans (vacant secret)
    have gathered : gather (k, []) secret = ((k.vacate secret).1, []) := by
      simp only [gather]
      split
      · rename_i taken
        rw [taken] at lease
        cases lease
      · rename_i taken
        rw [taken]
    rw [List.foldl_cons, gathered]
    refine ih fun other => ?_
    by_cases same : other = secret
    · rw [same, Keeper.current, vacate_room_self]
      exact Room.current_vacated _
    · rw [Keeper.current, vacate_room_of_ne k secret same]
      exact vacant other

theorem destroy (unstarted : k.Unstarted) (vacant : ∀ secret, k.current secret = none)
    (ticket : Nat) : (k.request ticket .destroy).Unstarted := by
  obtain ⟨rooms, frame⟩ := emptied_frame k
  have none_taken : k.takings = [] := takings_of_vacant (k := { k with started := false }) vacant _
  have emptied : (k.destroy ticket).1.Unstarted := by
    rw [destroy_eq, none_taken]
    refine unstarted.keep ?_ ?_ fun secret => ?_
    · exact (congrArg Keeper.started frame).trans unstarted.stopped.symm
    · exact (congrArg Keeper.binds frame :)
    · exact (congrArg Room.flights (room_emptied k secret)).trans (Room.vacated_flights _)
  simp only [request]
  generalize k.destroy ticket = outcome at emptied
  obtain ⟨k', finished⟩ := outcome
  cases finished with
  | true => exact emptied.complete ticket _
  | false => exact emptied

theorem step (unstarted : k.Unstarted) (rested : k.Rested) (queued : k.Queued)
    (never : event.starts = false) : (k.step event).Unstarted := by
  have vacant (secret : Secret) : k.current secret = none :=
    rested.current_of_closed (Or.inr unstarted.stopped)
  have stayed (own : Secret) (confined : Confined own k (k.step event))
      (stays : Stays own k (k.step event)) : (k.step event).Unstarted := by
    refine unstarted.keep confined.started confined.binds fun secret => ?_
    by_cases same : secret = own
    · exact same ▸ stays.flights
    · rw [confined.rooms secret same]
  have aloof (unasked : event.isRequest = false) (nobody : event.subject? = none) :
      (k.step event).Unstarted := by
    obtain ⟨started, binds, rooms, _⟩ := step_aloof (k := k) unasked nobody
    exact unstarted.keep started binds fun secret => by rw [room_of_rooms rooms]
  cases event with
  | request ticket operation =>
    cases operation with
    | add secret => exact unstarted.add ticket secret
    | remove secret => exact unstarted.remove (vacant secret) ticket
    | destroy => exact unstarted.destroy vacant ticket
    | renew secret =>
      have refused : ∃ fault, k.renew ticket secret = (k, some fault) := by
        cases registered : (k.room secret).registered <;> simp [renew, registered, vacant]
      obtain ⟨fault, refused⟩ := refused
      simp only [Keeper.step, request, refused]
      exact unstarted.complete ticket _
    | rotate secret =>
      have refused : ∃ fault, k.rotate ticket secret = (k, some fault) := by
        cases registered : (k.room secret).registered <;>
          simp [rotate, registered, unstarted.stopped]
      obtain ⟨fault, refused⟩ := refused
      simp only [Keeper.step, request, refused]
      exact unstarted.complete ticket _
    | start => cases never
    | bind => cases never
  | ask secret turn =>
    rw [Keeper.step, ask_idle (queued.not_waiting (by simp [unstarted.idle]))]
    exact unstarted
  | answer secret purpose reply =>
    have absent : (k.room secret).flight? purpose = none := by
      simp [Room.flight?, unstarted.idle]
    rw [Keeper.step, answer_absent absent]
    exact unstarted
  | fire secret number generation =>
    exact stayed secret (fire_confined secret k number generation)
      (.fire rested (vacant secret) number generation)
  | stop secret number generation =>
    exact stayed secret (stop_confined secret k number generation)
      (.stop k secret number generation)
  | _ => exact aloof rfl rfl

end Unstarted

theorem ready_of_unstarted {policy : LeasePolicy} {before : List KeeperEvent}
    (never : ∀ event ∈ before, event.starts = false)
    (registered : (((new policy).run before).room secret).registered = true) :
    ((new policy).run before).Ready secret := by
  have unstarted : ((new policy).run before).Unstarted := by
    clear registered
    induction before using List.reverseRecOn with
    | nil => exact ⟨rfl, rfl, fun _ => rfl⟩
    | append_singleton earlier event ih =>
      obtain ⟨early, late⟩ := List.forall_mem_append.mp never
      rw [run_append]
      exact (ih early).step (run_rested policy earlier) (run_queued policy earlier)
        (late event (List.mem_singleton_self event))
  exact ⟨unstarted.stopped, registered, unstarted.idle secret, unstarted.unbound⟩

theorem Ready.start (ready : k.Ready secret) (keyed : k.Keyed) (lined : k.Lined)
    (rested : k.Rested) (ticket : Nat) :
    let begun := k.step (.request ticket .start)
    begun.Serving secret ∧ begun.Expecting ticket secret true ∧
      begun.tidings secret = k.tidings secret := by
  intro begun
  have kept {α : Type} (read : Keeper → α)
      (each : ∀ k other, read (k.promise other ticket) = read k) :
      read begun = read { k with started := true } := by
    simp only [begun, step_start ready.stopped ready.registered]
    exact read_foldl read each k.registered { k with started := true }
  have room := promises_once ticket (mem_registered ready.registered) keyed.registered
    { k with started := true }
  rw [← step_start ready.stopped ready.registered] at room
  have vacant : k.current secret = none := rested.current_of_closed (Or.inr ready.stopped)
  refine ⟨⟨kept Keeper.started fun _ _ => rfl, ?_, ?_⟩, ⟨?_, ?_, ?_⟩, ?_⟩
  · exact (kept Keeper.binds fun _ _ => rfl).trans ready.unbound
  · rw [room]
    exact lined.line? ready.registered
  · rw [room]
    show (k.room secret).flights ++ _ = _
    rw [ready.idle]
    rfl
  · rw [room]
    simp [Room.promise]
  · rw [Keeper.current, room]
    exact vacant
  · exact kept (·.tidings secret) fun _ _ => rfl

theorem Expecting.run_waiting {policy : LeasePolicy} {before waiting : List KeeperEvent}
    (expecting : ((new policy).run before).Expecting ticket secret true)
    (serving : ((new policy).run before).Serving secret)
    (unasked : ∀ event ∈ waiting, event.isRequest = false)
    (others : ∀ event ∈ waiting, event ≠ .ask secret ticket)
    (bears : ((new policy).run before).Along Bears waiting) :
    let k := (new policy).run (before ++ waiting)
    k.Expecting ticket secret true ∧ k.Serving secret ∧
      k.tidings secret = ((new policy).run before).tidings secret := by
  intro k
  induction waiting using List.reverseRecOn with
  | nil =>
    simp only [k, List.append_nil]
    exact ⟨expecting, serving, trivial⟩
  | append_singleton earlier event ih =>
    obtain ⟨first, here, _⟩ := (along_append _ earlier [event]).mp bears
    obtain ⟨early, late⟩ := List.forall_mem_append.mp unasked
    obtain ⟨apart, other⟩ := List.forall_mem_append.mp others
    obtain ⟨expecting', serving', told⟩ := ih early apart first
    rw [← run_append] at here
    have last := List.forall_mem_singleton.mp late
    have stays := expecting'.step_waiting serving' (run_rested policy _) (run_queued policy _) here
      last (other event List.mem_cons_self)
    simp only [k]
    rw [← List.append_assoc, run_append]
    exact ⟨expecting'.stays stays, serving'.step here last, stays.tidings.trans told⟩

/-! ### The chronicle -/

/-- How many fetches of the secret the store grants in a run. -/
def grantsOf (secret : Secret) (k : Keeper) : List KeeperEvent → Nat
  | [] => 0
  | event :: rest => (k.isGrant secret event).toNat + (k.step event).grantsOf secret rest

theorem grantsOf_append (secret : Secret) (k : Keeper) (before after : List KeeperEvent) :
    k.grantsOf secret (before ++ after) =
      k.grantsOf secret before + (k.run before).grantsOf secret after := by
  induction before generalizing k with
  | nil => exact (Nat.zero_add _).symm
  | cons event rest ih =>
    rw [List.cons_append, grantsOf, grantsOf, ih, Nat.add_assoc]
    rfl

def setback (secret : Secret) (time : Nat) (fault : Fault) : List (Nat × Tiding) :=
  (time, .failed Lease.none fault) ::
    if fault.isNotFound then [(time, .heard (.notFound secret))] else []

/-- The stages of a secret that a start fetches, with all that was told of it since: the fetch is
awaited, or it has failed, or the secret has a lease to be looked after, or that has expired. -/
inductive Stage (secret : Secret) (ticket : Nat) (k : Keeper) :
    Option (Except Fault Response) → List (Nat × Tiding) → Prop where
  | awaited (time : Nat) (expecting : k.Expecting ticket secret false) :
      Stage secret ticket k none [(time, .asked .fetch)]
  | failed (time later : Nat) (fault : Fault) (spent : k.Spent secret) :
      Stage secret ticket k (some (.error fault))
        (setback secret later fault ++ [(time, .asked .fetch)])
  | living (time later : Nat) (response : Response) (news : List (Nat × Tiding))
      (routine : ∀ tiding ∈ news, tiding.2.Routine secret) (living : k.Living secret) :
      Stage secret ticket k (some (.ok response))
        (news ++ [(later, .heard (.created secret response.lease response.flattened)),
          (time, .asked .fetch)])
  | expired (time later last : Nat) (response : Response) (next : Lease)
      (news : List (Nat × Tiding)) (renewing : secret.isRotating = false)
      (routine : ∀ tiding ∈ news, tiding.2.Routine secret) (spent : k.Spent secret)
      (data : k.data secret = none) :
      Stage secret ticket k (some (.ok response))
        ((last, .heard (.expired secret next)) :: news ++
          [(later, .heard (.created secret response.lease response.flattened)),
            (time, .asked .fetch)])

theorem Stage.step {first? : Option (Except Fault Response)} {news : List (Nat × Tiding)}
    (stage : k.Stage secret ticket first? news) (serving : k.Serving secret) (rested : k.Rested)
    (queued : k.Queued) (bears : k.Bears event) (unasked : event.isRequest = false) :
    ∃ fresh, (k.step event).tidings secret = fresh ++ k.tidings secret ∧
      creations fresh = (k.isGrant secret event).toNat ∧
      (k.step event).Stage secret ticket (first?.or (event.answerTo? secret ticket))
        (fresh ++ news) := by
  cases stage with
  | awaited time expecting =>
    rw [Option.none_or]
    cases answer : event.answerTo? secret ticket with
    | some result =>
      obtain rfl := KeeperEvent.answerTo?_eq_some.mp answer
      rw [isGrant_of_fetch expecting.flown]
      cases result with
      | error fault =>
        obtain ⟨spent, told⟩ := expecting.failed serving fault
        refine ⟨setback secret k.now fault, ?_, ?_, .failed time k.now fault spent⟩
        · rw [told, setback]
          split <;> rfl
        · rw [setback]
          split <;> rfl
      | ok response =>
        obtain ⟨idle, told⟩ := expecting.granted serving (bears.fits expecting.flown)
        exact ⟨[_], told, rfl, .living time k.now response [] nofun (living_of_idle idle)⟩
    | none =>
      have unanswered : ∀ result, event ≠ .answer secret (.start ticket) (.fetched result) := by
        intro result same
        rw [KeeperEvent.answerTo?_eq_some.mpr same] at answer
        cases answer
      obtain ⟨stays, ungranted⟩ := expecting.step serving rested queued bears unasked unanswered
      rw [ungranted]
      exact ⟨[], stays.tidings, rfl, .awaited time (expecting.stays stays)⟩
  | failed time later fault spent =>
    obtain ⟨stays, ungranted⟩ := spent.step serving rested queued bears unasked
    rw [ungranted]
    exact ⟨[], stays.tidings, rfl, .failed time later fault (spent.stays stays)⟩
  | living time later response news routine living =>
    have fares := living.step serving rested queued bears unasked
    generalize k.isGrant secret event = granted at fares ⊢
    cases fares with
    | routine fresh told each count living' =>
      refine ⟨fresh, told, count, ?_⟩
      rw [← List.append_assoc]
      refine .living time later response (fresh ++ news) ?_ living'
      exact List.forall_mem_append.mpr ⟨each, routine⟩
    | expires next renewing ungranted told spent data =>
      have usual : Tiding.Routine secret (.heard (.afterRenewed secret next)) := Or.inl ⟨next, rfl⟩
      refine ⟨[_, _], told, by rw [ungranted]; rfl, ?_⟩
      exact .expired time later k.now response next (_ :: news) renewing
        (List.forall_mem_cons.mpr ⟨usual, routine⟩) spent data
  | expired time later last response next news renewing routine spent data =>
    obtain ⟨stays, ungranted⟩ := spent.step serving rested queued bears unasked
    rw [ungranted]
    exact ⟨[], stays.tidings, rfl, .expired time later last response next news renewing routine
      (spent.stays stays) (stays.data.trans data)⟩

theorem run_stage {policy : LeasePolicy} {before after : List KeeperEvent}
    (expecting : ((new policy).run before).Expecting ticket secret true)
    (serving : ((new policy).run before).Serving secret)
    (unasked : ∀ event ∈ after, event.isRequest = false) :
    let k₀ := (new policy).run before
    let asked := k₀.step (.ask secret ticket)
    asked.Along Bears after →
    (asked.run after).Serving secret ∧ ∃ news,
      (asked.run after).tidings secret = news ++ k₀.tidings secret ∧
      creations news = asked.grantsOf secret after ∧
      (asked.run after).Stage secret ticket (firstAnswer? secret ticket after) news := by
  intro k₀ asked bears
  induction after using List.reverseRecOn with
  | nil =>
    obtain ⟨awaited, told⟩ := expecting.asked
    exact ⟨serving.step (bears_ask _ secret ticket) rfl, [_], told, rfl, .awaited k₀.now awaited⟩
  | append_singleton earlier event ih =>
    obtain ⟨first, here, _⟩ := (along_append _ earlier [event]).mp bears
    obtain ⟨early, late⟩ := List.forall_mem_append.mp unasked
    have last := List.forall_mem_singleton.mp late
    obtain ⟨serving', news, told, count, stage⟩ := ih early first
    have reached : asked.run earlier =
        (new policy).run (before ++ .ask secret ticket :: earlier) :=
      (run_append (new policy) before (.ask secret ticket :: earlier)).symm
    have rested : (asked.run earlier).Rested := reached ▸ run_rested policy _
    have queued : (asked.run earlier).Queued := reached ▸ run_queued policy _
    obtain ⟨fresh, told', count', stage'⟩ := stage.step serving' rested queued here last
    rw [run_append, firstAnswer?, List.findSome?_append, grantsOf_append]
    refine ⟨serving'.step here last, fresh ++ news, ?_, ?_, ?_⟩
    · rw [List.append_assoc, ← told]
      exact told'
    · rw [creations_append, count, count', Nat.add_comm]
      rfl
    · rw [List.findSome?_singleton]
      exact stage'

/-! ### The two languages -/

section
variable {news : List (Nat × Tiding)} (routine : ∀ tiding ∈ news, tiding.2.Routine secret)
include routine

theorem story_routine {e : LeaseEvent} (told : e ∈ story news) : e.Routine secret := by
  rw [story, List.mem_reverse, List.mem_filterMap] at told
  obtain ⟨⟨time, tiding⟩, member, heard⟩ := told
  cases tiding with
  | heard e' =>
    cases heard
    exact routine _ member
  | _ => cases heard

theorem story_renewals (renewing : secret.isRotating = false) :
    ∃ leases : List Lease, story news = leases.map (.afterRenewed secret) := by
  have renewals : story news ∈ Set.range (List.map (LeaseEvent.afterRenewed secret)) := by
    rw [Set.range_list_map]
    intro e told
    rcases story_routine routine told with ⟨lease, same⟩ | ⟨rotating, _⟩
    · exact ⟨lease, same.symm⟩
    · rw [renewing] at rotating
      cases rotating
  obtain ⟨leases, same⟩ := renewals
  exact ⟨leases, same.symm⟩

theorem inquiries_renewals (renewing : secret.isRotating = false) :
    (inquiries news).countP (·.isFetch) = 0 := by
  rw [List.countP_eq_zero]
  intro errand asked
  rw [inquiries, List.mem_reverse, List.mem_filterMap] at asked
  obtain ⟨⟨time, tiding⟩, member, heard⟩ := asked
  cases tiding with
  | asked errand' =>
    cases heard
    cases errand with
    | fetch =>
      have rotating : secret.isRotating = true := routine _ member
      rw [renewing] at rotating
      cases rotating
    | _ => simp [Errand.isFetch]
  | _ => cases heard

end

structure Over (secret : Secret) (k : Keeper) : Prop extends Spent secret k where
  data : k.data secret = none
  timers : ∀ (number : Nat) (line : Line), (k.room secret).lines[number]? = some line →
    line.lineage.timers = []

theorem Warranted.over (warranted : Warranted (k, .free)) (spent : k.Spent secret)
    (data : k.data secret = none) : k.Over secret := by
  refine ⟨spent, data, fun number line found => List.eq_nil_iff_forall_not_mem.mpr ?_⟩
  intro generation pending
  obtain ⟨_, lease, current, _⟩ := warranted.pending found pending
  rw [spent.vacant] at current
  cases current

theorem story_opening (later time : Nat) (secret : Secret) (response : Response) :
    story [(later, .heard (.created secret response.lease response.flattened)),
      (time, .asked .fetch)] = [.created secret response.lease response.flattened] := rfl

/-- In every run in which no lease outlasts the clock and nobody asks for anything after the start,
nothing happens to a secret until its turn comes. From then on its lease events depend on its first
fetch. Until that is answered, and after it has failed, the store is asked nothing else, and no
event is told but `NotFound`, of a secret that is not found. After it was granted, the events are
`Created`, and then any of `AfterRenewed`, `NotFound` and `Created` for a rotating secret; for any
other they are `AfterRenewed` only, with an `Expired` at the end if its lease could be extended no
further, after which nothing is left of it. There are always as many `Created` as fetches that the
store has granted. -/
theorem undisturbed_secret_story (policy : LeasePolicy) (before waiting after : List KeeperEvent)
    (secret : Secret) (ticket : Nat) (ready : ((new policy).run before).Ready secret)
    (unasked : ∀ event ∈ waiting ++ after, event.isRequest = false)
    (others : ∀ event ∈ waiting, event ≠ .ask secret ticket)
    (bears : (new policy).Along Bears
      (before ++ .request ticket .start :: waiting ++ .ask secret ticket :: after)) :
    let k₀ := (new policy).run before
    let begun := (k₀.step (.request ticket .start)).run waiting
    let asked := begun.step (.ask secret ticket)
    let k := asked.run after
    begun.tidings secret = k₀.tidings secret ∧
    ∃ news, k.tidings secret = news ++ k₀.tidings secret ∧
      (story news).countP (·.isCreated) = asked.grantsOf secret after ∧
      match firstAnswer? secret ticket after with
      | none => story news = [] ∧ inquiries news = [.fetch]
      | some (.error fault) =>
        story news = (if fault.isNotFound then [.notFound secret] else []) ∧
          inquiries news = [.fetch]
      | some (.ok response) => ∃ rest,
        story news = .created secret response.lease response.flattened :: rest ∧
        (secret.isRotating = true → ∀ e ∈ rest, (∃ lease, e = .afterRenewed secret lease) ∨
          e = .notFound secret ∨ ∃ lease data, e = .created secret lease data) ∧
        (secret.isRotating = false → (inquiries news).countP (·.isFetch) = 1 ∧
          ∃ leases : List Lease, rest = leases.map (.afterRenewed secret) ∨
            ∃ last, rest = leases.map (.afterRenewed secret) ++ [.expired secret last] ∧
              (∃ time earlier, news = (time, .heard (.expired secret last)) :: earlier) ∧
              k.Over secret) := by
  intro k₀ begun asked k
  obtain ⟨early, _, late⟩ := (along_append _ _ _).mp bears
  obtain ⟨serving, expecting, still⟩ := ready.start (run_keyed policy before)
    (run_lined policy before) (run_rested policy before) ticket
  have started : (new policy).run (before ++ [.request ticket .start]) =
      k₀.step (.request ticket .start) := run_append _ before _
  obtain ⟨quiet, busy⟩ := List.forall_mem_append.mp unasked
  obtain ⟨_, _, between⟩ := (along_append _ before _).mp early
  rw [← started] at serving expecting between still
  obtain ⟨expecting', serving', told₀⟩ := expecting.run_waiting serving quiet others between
  have reached : (new policy).run (before ++ [.request ticket .start] ++ waiting) = begun := by
    rw [run_append, started]
  have whole : (new policy).run (before ++ .request ticket .start :: waiting) = begun :=
    run_append _ before _
  rw [whole] at late
  obtain ⟨_, news, told, count, stage⟩ := run_stage expecting' serving' busy (reached ▸ late)
  rw [reached] at told told₀ count stage
  refine ⟨told₀.trans still, news, told.trans (by rw [told₀, still]), ?_, ?_⟩
  · rw [story, List.countP_reverse]
    exact count
  generalize firstAnswer? secret ticket after = first? at stage ⊢
  cases stage with
  | awaited time => exact ⟨rfl, rfl⟩
  | failed time later fault =>
    unfold setback
    dsimp only
    split <;> exact ⟨rfl, rfl⟩
  | living time later response news routine =>
    refine ⟨story news, ?_, fun rotating e told => ?_, fun renewing => ⟨?_, ?_⟩⟩
    · rw [story_append, story_opening]
      rfl
    · rcases story_routine routine told with renewed | ⟨_, other⟩
      · exact Or.inl renewed
      · exact Or.inr other
    · rw [inquiries_append, List.countP_append, inquiries_renewals routine renewing]
      rfl
    · obtain ⟨leases, renewals⟩ := story_renewals routine renewing
      exact ⟨leases, Or.inl renewals⟩
  | expired time later last response next news renewing routine spent data =>
    have warranted := (run_warranted bears (warranted_new policy)).1
    rw [run_append, whole] at warranted
    obtain ⟨leases, renewals⟩ := story_renewals routine renewing
    refine ⟨story news ++ [.expired secret next], ?_, fun rotating => ?_, fun _ => ⟨?_, ?_⟩⟩
    · rw [List.cons_append, ← List.singleton_append, story_append, story_append, story_opening]
      rfl
    · rw [renewing] at rotating
      cases rotating
    · rw [List.cons_append, ← List.singleton_append, inquiries_append, inquiries_append,
        List.countP_append, List.countP_append, inquiries_renewals routine renewing]
      rfl
    · exact ⟨leases, Or.inr ⟨next, by rw [renewals], ⟨last, _, rfl⟩, warranted.over spent data⟩⟩

/-- A rotating secret, which has its turn first, is not found. Then a lease is fetched, renewed
once, and then for too short a time. -/
theorem expired_secret_story :
    let policy : LeasePolicy := ⟨Span.seconds 10, Span.seconds 60, .dropOnError⟩
    let secret : Secret := ⟨"database/creds/app", .renew⟩
    let other : Secret := ⟨"pki/cert", .rotate⟩
    let lease (seconds : Nat) : Lease := ⟨"a", seconds, true⟩
    let before : List KeeperEvent := [.request 1 (.add secret), .request 2 (.add other)]
    let waiting : List KeeperEvent := [.ask other 3,
      .answer other (.start 3) (.fetched (.error (.notFound "pki/cert")))]
    let after : List KeeperEvent := [
      .answer secret (.start 3) (.fetched (.ok ⟨"", "a", 120, true, none, none, none⟩)),
      .pass (Span.seconds 60), .fire secret 0 1,
      .answer secret (.timer 0 1) (.renewed (.ok (lease 120))),
      .pass (Span.seconds 60), .fire secret 0 2,
      .answer secret (.timer 0 2) (.renewed (.ok (lease 30)))]
    let begun := (((new policy).run before).step (.request 3 .start)).run waiting
    let k := (begun.step (.ask secret 3)).run after
    ((new policy).run before).Ready secret ∧
      (∀ event ∈ waiting ++ after, event.isRequest = false) ∧
      (∀ event ∈ waiting, event ≠ .ask secret 3) ∧
      (new policy).Along Bears
        (before ++ .request 3 .start :: waiting ++ .ask secret 3 :: after) ∧
      story (k.tidings secret) = [.created secret (lease 120) [], .afterRenewed secret (lease 120),
        .afterRenewed secret (lease 30), .expired secret (lease 30)] ∧ k.Over secret := by
  intro policy secret other lease before waiting after begun k
  have ready : ((new policy).run before).Ready secret :=
    ready_of_unstarted (by decide) (by decide)
  have unasked : ∀ event ∈ waiting ++ after, event.isRequest = false := by decide
  have others : ∀ event ∈ waiting, event ≠ .ask secret 3 := by
    intro event member
    rcases List.mem_pair.mp member with rfl | rfl
    · simp [secret, other]
    · nofun
  have bears : (new policy).Along Bears
      (before ++ .request 3 .start :: waiting ++ .ask secret 3 :: after) := by
    refine ⟨?_, ?_, ?_, ?_, ?_, ?_, ?_, ?_, ?_, ?_, ?_, ?_, ?_, trivial⟩ <;> decide
  have told : story (k.tidings secret) = [.created secret (lease 120) [],
      .afterRenewed secret (lease 120), .afterRenewed secret (lease 30),
      .expired secret (lease 30)] := by decide
  obtain ⟨_, news, tidings, _, outcome⟩ :=
    undisturbed_secret_story policy before waiting after secret 3 ready unasked others bears
  have opening : ((new policy).run before).tidings secret = [] := by rfl
  rw [opening, List.append_nil] at tidings
  have answered : firstAnswer? secret 3 after =
      some (.ok ⟨"", "a", 120, true, none, none, none⟩) := by rfl
  rw [answered] at outcome
  obtain ⟨rest, whole, _, renewing⟩ := outcome
  obtain ⟨_, leases, renewals | ⟨_, _, _, gone⟩⟩ := renewing rfl
  · -- the story ends with an event that is no renewal
    rw [← tidings, told, List.cons.injEq] at whole
    have expired : LeaseEvent.expired secret (lease 30) ∈ leases.map (.afterRenewed secret) := by
      rw [← renewals, ← whole.2]
      simp
    obtain ⟨_, _, other⟩ := List.mem_map.mp expired
    cases other
  · exact ⟨ready, unasked, others, bears, told, gone⟩

end Keeper
end LeaseKeeper

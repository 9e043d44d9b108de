import LeaseKeeper.Proofs.Keeper.Confined
import LeaseKeeper.Proofs.Keeper.Keyed

/-!
Starting a keeper fetches every registered secret, one after the other, and each fetch is served by
its own answer: the data is published and the lease scheduled, whatever the others are answered. The
one exception is an answer whose lease outlasts the clock. The start dies of it: its fetches under
way are lost, and the secrets whose turn has not come are never fetched.
-/
namespace LeaseKeeper

open Lineage

namespace Room

/-- How far a start has come with the secret: the flight it put in line, and whether that still
waits for its turn. -/
def headway (r : Room) (ticket : Nat) : Option Flight × Bool :=
  (r.flights.find? (·.purpose == .start ticket), r.unasked.contains ticket)

theorem headway_flight? {r : Room} {ticket : Nat} {flight? : Option Flight}
    (asked : r.headway ticket = (flight?, false)) : r.flight? (.start ticket) = flight? := by
  have prompt : r.unasked.contains ticket = false := congrArg Prod.snd asked
  simp only [Room.flight?, awaitsTurn, prompt]
  exact congrArg Prod.fst asked

theorem headway_dropTicket (r : Room) (ticket other : Nat) :
    (r.dropTicket other).headway ticket =
      if other = ticket then (none, false) else r.headway ticket := by
  by_cases same : other = ticket
  · subst same
    rw [if_pos rfl]
    refine Prod.ext (List.find?_eq_none.mpr fun flight kept => ?_) ?_
    · intro own
      have mine := (List.mem_filter.mp kept).2
      simp [beq_iff_eq.mp own, Purpose.ticket?] at mine
    · simp [headway, dropTicket]
  · rw [if_neg same]
    refine Prod.ext ?_ ?_
    · simp only [headway, dropTicket, List.find?_filter]
      congr 1
      funext flight
      by_cases own : flight.purpose = .start ticket
      · simp [own, Purpose.ticket?, Ne.symm same]
      · simp [own]
    · simp [headway, dropTicket, List.contains_eq_mem, Ne.symm same]

theorem headway_promise {r : Room} {ticket : Nat}
    (fresh : r.flights.find? (·.purpose == .start ticket) = none) :
    (r.promise ticket).headway ticket = (some ⟨.start ticket, .fetch⟩, true) := by
  refine Prod.ext ?_ ?_
  · simp [headway, promise, fresh]
  · simp [headway, promise]

theorem headway_ask (r : Room) (ticket : Nat) :
    (r.ask ticket).headway ticket = ((r.headway ticket).1, false) := by
  refine Prod.ext rfl ?_
  simp [headway, ask]

end Room

namespace Keeper

variable {k k₁ k' k'' : Keeper} {secret own : Secret} {ticket : Nat} {event : KeeperEvent}
  {events : List KeeperEvent}

structure Shelters (secret : Secret) (k k' : Keeper) : Prop where
  binds : k'.binds = k.binds
  started : k'.started = k.started
  lines : (k'.room secret).lines = (k.room secret).lines
  registered : (k'.room secret).registered = (k.room secret).registered
  data : k'.data secret = k.data secret
  tidings : k'.tidings secret = k.tidings secret

namespace Shelters

theorem refl (secret : Secret) (k : Keeper) : Shelters secret k k := ⟨rfl, rfl, rfl, rfl, rfl, rfl⟩

theorem trans (first : Shelters secret k k') (second : Shelters secret k' k'') :
    Shelters secret k k'' :=
  ⟨second.binds.trans first.binds, second.started.trans first.started,
    second.lines.trans first.lines, second.registered.trans first.registered,
    second.data.trans first.data, second.tidings.trans first.tidings⟩

theorem symm (shelters : Shelters secret k k') : Shelters secret k' k :=
  ⟨shelters.binds.symm, shelters.started.symm, shelters.lines.symm, shelters.registered.symm,
    shelters.data.symm, shelters.tidings.symm⟩

theorem of_confined (confined : Confined own k k') (differ : secret ≠ own) :
    Shelters secret k k' := by
  have room := confined.rooms secret differ
  exact ⟨confined.binds, confined.started, by rw [room], by rw [room],
    by rw [Keeper.data, room]; rfl,
    confined.tidings secret differ⟩

theorem dropTicket (k : Keeper) (secret : Secret) (ticket : Nat) :
    Shelters secret k (k.mapRooms (·.dropTicket ticket)) := by
  have room := room_dropTicket k secret ticket
  exact ⟨rfl, rfl, by rw [room]; rfl, by rw [room]; rfl, by rw [Keeper.data, room]; rfl, rfl⟩

theorem of_ends {ticket? : Option Nat} {handed : Option Lease}
    (ends : Ends own ticket? handed k k') (differ : secret ≠ own) : Shelters secret k k' := by
  cases ends with
  | confined confined => exact .of_confined confined differ
  | died ticket lease mine given outlasts rest =>
    exact (dropTicket k secret ticket).trans (of_confined rest differ)

theorem outlook (shelters : Shelters secret k k') : k'.outlook secret = k.outlook secret := by
  simp [Keeper.outlook, Room.outlook, Room.line?, Room.lineNumber?, shelters.lines,
    shelters.registered]

end Shelters

/-! ### Beside a fetch -/

/-- What may happen beside a secret that a start fetches: time passes, the start gets round to
another secret or has its fetch answered, or another secret takes a step that has nothing to do with
the start. -/
inductive Beside (ticket : Nat) (secret : Secret) (k : Keeper) : KeeperEvent → Prop where
  | pass (span : Nat) : Beside ticket secret k (.pass span)
  | ask (other : Secret) (differ : secret ≠ other) : Beside ticket secret k (.ask other ticket)
  | answer (other : Secret) (differ : secret ≠ other) (result : Except Fault Response) :
      Beside ticket secret k (.answer other (.start ticket) (.fetched result))
  | step {event : KeeperEvent} (other : Secret) (differ : secret ≠ other)
      (mine : event.subject? = some other) (lone : k.Lone event.ticket?)
      (apart : event.ticket? ≠ some ticket) : Beside ticket secret k event

theorem Beside.of_binds (beside : k.Beside ticket secret event) (binds : k'.binds = k.binds) :
    k'.Beside ticket secret event := by
  cases beside with
  | pass span => exact .pass span
  | ask other differ => exact .ask other differ
  | answer other differ result => exact .answer other differ result
  | step other differ mine lone apart =>
    refine .step other differ mine ?_ apart
    intro ticket same
    rw [binds]
    exact lone ticket same

/-- An answer within the operation brings a lease that outlasts the clock. -/
def Overtaxes (ticket : Nat) (k : Keeper) (event : KeeperEvent) : Prop :=
  event.ticket? = some ticket ∧ ¬ k.Bears event

instance (ticket : Nat) (k : Keeper) (event : KeeperEvent) : Decidable (Overtaxes ticket k event) :=
  inferInstanceAs (Decidable (_ ∧ _))

theorem schedule_of_outlasts {lease : Lease} (outlasts : k.Outlasts own lease) :
    (k.schedule own lease).2 = .overflow := by
  have scheduled := schedule_scheduled k own lease
  generalize k.schedule own lease = outcome at scheduled
  cases scheduled with
  | refused closed =>
    rcases closed with absent | stopped
    · have lined := outlasts.lined
      simp [absent] at lined
    · rw [outlasts.started] at stopped
      cases stopped
  | outlasted => rfl
  | installed number line deadline level started schedulable numbered found fits =>
    rw [outlasts.unfit] at fits
    cases fits
  | disabled number line level started unschedulable =>
    rw [outlasts.schedulable] at unschedulable
    cases unschedulable

theorem fetched_of_outlasts {purpose : Purpose} {response : Response}
    (mine : purpose.ticket? = some ticket) (free : k.binds.find? ticket = none)
    (outlasts : k.Outlasts own response.lease) :
    Confined own (k.mapRooms (·.dropTicket ticket)) (k.fetched own purpose (.ok response)) := by
  have told := Confined.published own k response
  have overflow := schedule_of_outlasts (told.outlasts_iff.mpr outlasts)
  have confined := (schedule_scheduled (k.published own response) own response.lease).confined
  simp only [fetched, outlasts.started]
  rw [if_neg (by simp)]
  unfold published at told overflow confined
  generalize Keeper.emit _ _ = k₁ at told overflow confined ⊢
  generalize k₁.schedule own response.lease = outcome at overflow confined ⊢
  obtain ⟨k₂, kind⟩ := outcome
  obtain rfl : kind = .overflow := overflow
  have both := told.trans confined
  simp only [mine]
  exact (both.dropTicket ticket).trans (crash_confined (both.binds ▸ free) own)

theorem not_overtaxes_ask (k : Keeper) (ticket : Nat) (other : Secret) (turn : Nat) :
    ¬ Overtaxes ticket k (.ask other turn) :=
  fun overtaxes => overtaxes.2 (bears_ask k other turn)

/-- The start keeps its place with the secret unless it dies. -/
theorem Beside.headway (beside : k.Beside ticket secret event)
    (free : k.binds.find? ticket = none) :
    ((k.step event).room secret).headway ticket =
      if Overtaxes ticket k event then (none, false) else (k.room secret).headway ticket := by
  cases beside with
  | pass span => exact (if_neg fun overtaxes => overtaxes.2 (bears_pass k span)).symm
  | ask other differ =>
    rw [if_neg (not_overtaxes_ask k ticket other ticket)]
    exact congrArg (Room.headway · ticket) ((ask_confined other k ticket).rooms secret differ)
  | answer other differ result =>
    by_cases bears : k.Bears (.answer other (.start ticket) (.fetched result))
    · rw [if_neg fun overtaxes => overtaxes.2 bears]
      rw [(bears.confined rfl (lone_of_free free)).rooms secret differ]
    · -- the start dies with the answer
      obtain ⟨flown, response, rfl, outlasts⟩ := outlasts_of_not_bears bears
      have landed := Confined.landed k other (.start ticket)
      have mine : (Purpose.start ticket).ticket? = some ticket := rfl
      have free' : (k.landed other (.start ticket)).binds.find? ticket = none := free
      have gone := fetched_of_outlasts mine free' (landed.outlasts_iff.mpr outlasts)
      rw [if_pos ⟨rfl, bears⟩, step_fetched flown, gone.rooms secret differ, room_dropTicket,
        Room.headway_dropTicket]
      exact if_pos rfl
  | step other differ mine lone apart =>
    rw [if_neg fun overtaxes => apart overtaxes.1]
    cases step_ends mine lone with
    | confined confined => rw [confined.rooms secret differ]
    | died own lease same given outlasts rest =>
      rw [rest.rooms secret differ, room_dropTicket, Room.headway_dropTicket]
      refine if_neg fun here => apart ?_
      rw [same, here]

theorem Beside.shelters (beside : k.Beside ticket secret event)
    (free : k.binds.find? ticket = none) : Shelters secret k (k.step event) := by
  cases beside with
  | pass span => exact ⟨rfl, rfl, rfl, rfl, rfl, rfl⟩
  | ask other differ => exact .of_confined (ask_confined other k ticket) differ
  | answer other differ result => exact .of_ends (step_ends rfl (lone_of_free free)) differ
  | step other differ mine lone => exact .of_ends (step_ends mine lone) differ

theorem Beside.onward {rest : List KeeperEvent}
    (beside : ∀ other ∈ event :: rest, k.Beside ticket secret other)
    (free : k.binds.find? ticket = none) :
    ∀ other ∈ rest, (k.step event).Beside ticket secret other := by
  have here := (beside event List.mem_cons_self).shelters free
  exact fun other member => (beside other (List.mem_cons_of_mem event member)).of_binds here.binds

section
variable (beside : ∀ event ∈ events, k.Beside ticket secret event)
  (free : k.binds.find? ticket = none)
include beside free

theorem run_shelters : Shelters secret k (k.run events) := by
  induction events generalizing k with
  | nil => exact .refl secret k
  | cons event rest ih =>
    have here := (beside event List.mem_cons_self).shelters free
    exact here.trans (ih (Beside.onward beside free) (here.binds ▸ free))

theorem run_headway (along : k.Along (fun k event => ¬ Overtaxes ticket k event) events) :
    ((k.run events).room secret).headway ticket = (k.room secret).headway ticket := by
  induction events generalizing k with
  | nil => rfl
  | cons event rest ih =>
    have first := beside event List.mem_cons_self
    have here := first.shelters free
    refine (ih (Beside.onward beside free) (here.binds ▸ free) along.2).trans ?_
    rw [first.headway free, if_neg along.1]

theorem run_absent (absent : (k.room secret).headway ticket = (none, false) ∨
      ¬ k.Along (fun k event => ¬ Overtaxes ticket k event) events) :
    ((k.run events).room secret).headway ticket = (none, false) := by
  induction events generalizing k with
  | nil => exact absent.resolve_right fun overtaxed => overtaxed trivial
  | cons event rest ih =>
    have first := beside event List.mem_cons_self
    have here := first.shelters free
    refine ih (Beside.onward beside free) (here.binds ▸ free) ?_
    rw [first.headway free]
    by_cases overtaxes : Overtaxes ticket k event
    · exact Or.inl (if_pos overtaxes)
    · rw [if_neg overtaxes]
      refine absent.imp_right fun overtaxed along => overtaxed ⟨overtaxes, along⟩

end

/-! ### The fetch begins -/

theorem promises_elsewhere (ticket : Nat) {secrets : List Secret} (other : secret ∉ secrets)
    (k : Keeper) :
    (secrets.foldl (fun k secret => k.promise secret ticket) k).room secret = k.room secret := by
  induction secrets generalizing k with
  | nil => rfl
  | cons first rest ih =>
    have differ := List.ne_of_not_mem_cons other
    exact (ih (List.not_mem_of_not_mem_cons other) _).trans (room_setRoom_of_ne k first differ _)

theorem promises_once (ticket : Nat) {secrets : List Secret} (member : secret ∈ secrets)
    (nodup : secrets.Nodup) (k : Keeper) :
    (secrets.foldl (fun k secret => k.promise secret ticket) k).room secret =
      (k.room secret).promise ticket := by
  induction secrets generalizing k with
  | nil => cases member
  | cons first rest ih =>
    obtain ⟨absent, nodup'⟩ := List.nodup_cons.mp nodup
    by_cases same : secret = first
    · subst same
      exact (promises_elsewhere ticket absent _).trans (room_setRoom_self k secret _)
    · refine (ih ((List.mem_cons.mp member).resolve_left same) nodup' _).trans ?_
      exact congrArg (·.promise ticket) (room_setRoom_of_ne k first same _)

theorem step_start (idle : k.started = false) (present : (k.room secret).registered = true) :
    k.step (.request ticket .start) =
      k.registered.foldl (fun k secret => k.promise secret ticket) { k with started := true } := by
  have some_secret : k.registered.isEmpty = false := by
    rw [List.isEmpty_eq_false_iff]
    exact List.ne_nil_of_mem (mem_registered present)
  simp only [step, request, start, idle, some_secret]
  rfl

structure Fetching (ticket : Nat) (secret : Secret) (waits : Bool) (k : Keeper) : Prop where
  started : k.started = true
  free : k.binds.find? ticket = none
  registered : (k.room secret).registered = true
  headway : (k.room secret).headway ticket = (some ⟨.start ticket, .fetch⟩, waits)

theorem start_fetching (keyed : k.Keyed) (idle : k.started = false)
    (free : k.binds.find? ticket = none)
    (present : (k.room secret).registered = true)
    (fresh : ∀ flight ∈ (k.room secret).flights, flight.purpose ≠ .start ticket) :
    Fetching ticket secret true (k.step (.request ticket .start)) := by
  have kept {α : Type} (read : Keeper → α)
      (each : ∀ k other, read (k.promise other ticket) = read k) :=
    read_foldl read each k.registered { k with started := true }
  have absent : (k.room secret).flights.find? (·.purpose == .start ticket) = none :=
    List.find?_eq_none.mpr fun flight flying own => fresh flight flying (beq_iff_eq.mp own)
  have room := promises_once ticket (mem_registered present) keyed.registered
    { k with started := true }
  rw [step_start idle present]
  refine ⟨?_, ?_, ?_, ?_⟩
  · exact kept Keeper.started fun _ _ => rfl
  · exact (congrArg (Table.find? ticket) (kept Keeper.binds fun _ _ => rfl)).trans free
  · exact (kept (fun k => (k.room secret).registered)
      fun _ _ => read_setRoom Room.registered (by rfl) secret).trans present
  · rw [room]
    exact Room.headway_promise absent

theorem Fetching.sheltered {waits : Bool} (fetching : Fetching ticket secret waits k)
    (shelters : Shelters secret k k')
    (same : (k'.room secret).headway ticket = (k.room secret).headway ticket) :
    Fetching ticket secret waits k' :=
  ⟨shelters.started.trans fetching.started, shelters.binds ▸ fetching.free,
    shelters.registered.trans fetching.registered, same.trans fetching.headway⟩

/-! ### The secret's turn -/

theorem Fetching.asked (fetching : Fetching ticket secret true k) :
    Fetching ticket secret false (k.step (.ask secret ticket)) ∧
      (k.step (.ask secret ticket)).tidings secret =
        (k.now, .asked .fetch) :: k.tidings secret := by
  have waiting : (k.room secret).unasked.contains ticket = true :=
    congrArg Prod.snd fetching.headway
  rw [step, ask_of_waiting waiting]
  refine ⟨⟨fetching.started, fetching.free, ?_, ?_⟩, tidings_asked k secret ticket⟩
  · rw [room_asked]
    exact fetching.registered
  · rw [room_asked, Room.headway_ask, fetching.headway]

theorem ask_idle (prompt : (k.room secret).unasked.contains ticket = false) :
    k.ask secret ticket = k := by
  simp only [ask, prompt]
  rfl

theorem ask_of_gone (gone : (k.room secret).headway ticket = (none, false)) :
    k.step (.ask secret ticket) = k := ask_idle (congrArg Prod.snd gone)

/-! ### The fetch is answered -/

/-- The secret has what the answer to its fetch brings: its data is published, and its lease is
current with a timer, unless it is none to be scheduled, or outlasts the clock. A failure is told to
the listeners. -/
def Serves (secret : Secret) (k k' : Keeper) : Except Fault Response → Prop
  | .ok response => k'.data secret = some response.flattened ∧
      k'.tidings secret = (k.now, .heard (.created secret response.lease response.flattened)) ::
        k.tidings secret ∧
      (¬ k.Outlasts secret response.lease →
        k'.outlook secret = k.planned secret response.lease)
  | .error fault => k'.tidings secret = (k.now, .failed Lease.none fault) ::
      if fault.isNotFound then (k.now, .heard (.notFound secret)) :: k.tidings secret
      else k.tidings secret

theorem Serves.sheltered {result : Except Fault Response} (serves : Serves secret k k' result)
    (shelters : Shelters secret k' k'') : Serves secret k k'' result := by
  cases result with
  | error fault => exact shelters.tidings.trans serves
  | ok response =>
    obtain ⟨data, told, scheduled⟩ := serves
    exact ⟨shelters.data.trans data, shelters.tidings.trans told,
      fun fits => shelters.outlook.trans (scheduled fits)⟩

theorem not_serves_self (secret : Secret) (k : Keeper) (result : Except Fault Response) :
    ¬ Serves secret k k result := by
  intro serves
  cases result with
  | ok response =>
    have longer := congrArg List.length serves.2.1
    simp only [List.length_cons] at longer
    omega
  | error fault =>
    have longer := congrArg List.length serves
    split at longer
    · simp only [List.length_cons] at longer
      omega
    · simp only [List.length_cons] at longer
      omega

theorem Scheduled.outlook {lease : Lease} {outcome : Keeper × Scheduling}
    (scheduled : Scheduled k secret lease outcome) (started : k.started = true)
    (lined : (k.room secret).line?.isSome = true) (fresh : (k.room secret).Fresh)
    (fits : ¬ k.Outlasts secret lease) : outcome.1.outlook secret = k.planned secret lease := by
  cases scheduled with
  | refused closed =>
    rcases closed with absent | stopped
    · simp [absent] at lined
    · rw [started] at stopped
      cases stopped
  | outlasted number line _ schedulable numbered found overflow =>
    exact absurd ⟨started, lined, schedulable, overflow⟩ fits
  | installed number line deadline level _ schedulable numbered found within =>
    have uses : (k.room secret).Uses number line := ⟨numbered, found⟩
    have room : ((k.arm secret number { line with lineage := line.lineage.replaced lease deadline }
        (line.lineage.issued + 1) (k.policy.delay lease)).setGauge level).room secret =
        (k.room secret).setLine number ⟨line.lineage.replaced lease deadline,
          line.waits ++ [(line.lineage.issued + 1, k.now + k.policy.delay lease)]⟩ :=
      room_setRoom_self k secret _
    rw [Keeper.outlook, room, (uses.setLine _).outlook]
    exact outlook_planned (fresh number line found) schedulable (replaced_slot _ lease deadline)
      (Nat.lt_succ_self _) within
  | disabled number line level _ unschedulable numbered found =>
    have uses : (k.room secret).Uses number line := ⟨numbered, found⟩
    have room : ((k.relined secret number line line.lineage.disable.1).setGauge level).room secret =
        (k.room secret).setLine number { line with lineage := line.lineage.disable.1 } :=
      room_setRoom_self k secret _
    rw [Keeper.outlook, room, (uses.setLine _).outlook, planned, unschedulable]
    rfl

theorem tidings_emit (k : Keeper) {e : LeaseEvent} (mine : e.secret = secret) :
    (k.emit e).tidings secret = (k.now, .heard e) :: k.tidings secret := by
  rw [Keeper.tidings, emit_journal]
  simp [Entry.tiding?, mine, Keeper.tidings]

theorem tidings_report (k : Keeper) (secret : Secret) (lease : Lease) (fault : Fault) :
    (k.report secret lease fault).1.tidings secret =
      (k.now, .failed lease fault) :: k.tidings secret := by
  rw [Keeper.tidings, report_journal]
  simp [Entry.tiding?, Keeper.tidings]

theorem tidings_disappointed (k : Keeper) (secret : Secret) (fault : Fault) :
    (k.disappointed secret fault).tidings secret = (k.now, .failed Lease.none fault) ::
      if fault.isNotFound then (k.now, .heard (.notFound secret)) :: k.tidings secret
      else k.tidings secret := by
  unfold disappointed
  rw [tidings_report]
  split
  · have missing : (LeaseEvent.notFound secret).secret = secret := rfl
    rw [tidings_emit _ missing, (emit_tells _ _).now]
    rfl
  · rfl

theorem complete_shelters (free : k.binds.find? ticket = none) (secret : Secret)
    (answer : KeeperAnswer) : Shelters secret k (k.complete ticket answer) := by
  rw [complete_lone free]
  exact ⟨rfl, rfl, rfl, rfl, rfl, rfl⟩

theorem endShared_shelters (free : k.binds.find? ticket = none) (secret : Secret) :
    Shelters secret k (k.endShared ticket) := by
  unfold endShared
  split
  · exact .refl secret k
  · exact complete_shelters free secret _

theorem crash_shelters (free : k.binds.find? ticket = none) (secret : Secret) :
    Shelters secret k (k.crash ticket) := by
  rw [crash_lone free]
  exact (Shelters.dropTicket k secret ticket).trans ⟨rfl, rfl, rfl, rfl, rfl, rfl⟩

theorem fetched_start {response : Response} (started : k.started = true)
    (lined : (k.room secret).line?.isSome = true) (free : k.binds.find? ticket = none) :
    ∃ k' kind, (k.published secret response).Scheduled secret response.lease (k', kind) ∧
      Shelters secret k' (k.fetched secret (.start ticket) (.ok response)) := by
  have told := Confined.published secret k response
  have started' := told.started.trans started
  have lined' := told.lined.trans lined
  simp only [fetched, started]
  rw [if_neg (by simp)]
  unfold published at told started' lined' ⊢
  generalize Keeper.emit _ _ = k₁ at told started' lined' ⊢
  have scheduled := schedule_scheduled k₁ secret response.lease
  generalize k₁.schedule secret response.lease = outcome at scheduled
  obtain ⟨k₂, kind⟩ := outcome
  have free' : k₂.binds.find? ticket = none := scheduled.confined.binds ▸ told.binds ▸ free
  refine ⟨k₂, kind, scheduled, ?_⟩
  cases kind with
  | kept => exact endShared_shelters free' secret
  | overflow => exact crash_shelters free' secret
  | refused =>
    cases scheduled with
    | refused closed =>
      rcases closed with absent | stopped
      · simp [absent] at lined'
      · rw [started'] at stopped
        cases stopped

theorem Fetching.answered (fetching : Fetching ticket secret false k) (lined : k.Lined)
    (fresh : k.Fresh)
    (result : Except Fault Response) :
    Serves secret k (k.step (.answer secret (.start ticket) (.fetched result))) result := by
  have line := lined.line? fetching.registered
  have free : (k.landed secret (.start ticket)).binds.find? ticket = none := fetching.free
  rw [step_fetched (Room.headway_flight? fetching.headway)]
  cases result with
  | error fault =>
    have told := Confined.disappointed secret (k.landed secret (.start ticket)) fault
    have ended : Serves secret k ((k.landed secret (.start ticket)).disappointed secret fault)
        (.error fault) := tidings_disappointed (k.landed secret (.start ticket)) secret fault
    exact ended.sheltered (endShared_shelters (told.binds ▸ free) secret)
  | ok response =>
    have landed := Confined.landed k secret (.start ticket)
    have told := landed.trans (.published secret _ response)
    have started : (k.landed secret (.start ticket)).started = true := fetching.started
    obtain ⟨k₂, kind, scheduled, shelters⟩ : ∃ k₂ kind, _ ∧ Shelters secret k₂
        ((k.landed secret (.start ticket)).fetched secret (.start ticket) (.ok response)) :=
      fetched_start started (landed.lined.trans line) free
    have alike := Alike.scheduled scheduled
    have room : ((k.landed secret (.start ticket)).published secret response).room secret =
        { (k.room secret).dropFlight (.start ticket) with data := some response.flattened } := by
      rw [published, emit_room, room_setRoom_self, landed_room]
    have served : Serves secret k k₂ (.ok response) := by
      refine ⟨?_, ?_, ?_⟩
      · rw [alike.data, data, room]
      · have created : (LeaseEvent.created secret response.lease response.flattened).secret =
            secret := rfl
        rw [alike.tidings, published, tidings_emit _ created]
        rfl
      · intro fits
        have fresh' : (((k.landed secret (.start ticket)).published secret response).room
            secret).Fresh := by
          rw [room]
          exact (fresh secret).of_lines rfl
        rw [scheduled.outlook (told.started.trans fetching.started) (told.lined.trans line) fresh'
          fun outlasts => fits (told.outlasts_iff.mp outlasts)]
        simp only [planned, told.now, told.policy]
    exact served.sheltered shelters

theorem not_serves_of_gone (gone : (k.room secret).headway ticket = (none, false))
    (free : k.binds.find? ticket = none) (beside : ∀ event ∈ events, k.Beside ticket secret event)
    (result : Except Fault Response) : ¬ Serves secret k
      ((k.step (.answer secret (.start ticket) (.fetched result))).run events) result := by
  have refused : k.step (.answer secret (.start ticket) (.fetched result)) = k := by
    simp only [step, answer]
    rw [Room.headway_flight? gone]
  rw [refused]
  intro serves
  exact not_serves_self secret k result (serves.sheltered (run_shelters beside free).symm)

theorem Fetching.served (fetching : Fetching ticket secret false k) (lined : k.Lined)
    (fresh : k.Fresh) (beside : ∀ event ∈ events, k.Beside ticket secret event)
    (result : Except Fault Response) : Serves secret k
      ((k.step (.answer secret (.start ticket) (.fetched result))).run events) result := by
  have mine :
      (KeeperEvent.answer secret (.start ticket) (.fetched result)).subject? = some secret :=
    rfl
  have binds := (step_ends mine (lone_of_free fetching.free)).binds
  have still : ∀ event ∈ events, (k.step (.answer secret (.start ticket)
      (.fetched result))).Beside ticket secret event := fun event member =>
    (beside event member).of_binds binds
  exact (fetching.answered lined fresh result).sheltered
    (run_shelters still (binds ▸ fetching.free))

theorem Fetching.turn_iff (inLine : Fetching ticket secret true k)
    (beside : ∀ event ∈ events, k.Beside ticket secret event) :
    ((k.run events).step (.ask secret ticket)).tidings secret =
        ((k.run events).now, .asked .fetch) :: (k.run events).tidings secret ↔
      k.Along (fun k event => ¬ Overtaxes ticket k event) events := by
  constructor
  · intro asked
    apply Classical.byContradiction
    intro overtaxed
    rw [ask_of_gone (run_absent beside inLine.free (Or.inr overtaxed))] at asked
    exact List.cons_ne_self _ _ asked.symm
  · intro along
    exact (inLine.sheltered (run_shelters beside inLine.free)
      (run_headway beside inLine.free along)).asked.2

/-- Every registered secret has its turn in a start, and is served by the answer to its fetch,
whatever happens to the others in the meantime. Its turn does not come only when an answer for
another secret, given before, has brought a lease that outlasts the clock, and its answer is lost
only when such a lease has come before it. For then the start has died with all its fetches. -/
theorem start_serves_iff (policy : LeasePolicy) (before waiting earlier later : List KeeperEvent)
    (secret : Secret) (ticket : Nat) (result : Except Fault Response) :
    let k := (new policy).run before
    let begun := k.step (.request ticket .start)
    let reached := begun.run waiting
    let asked := reached.step (.ask secret ticket)
    let pending := asked.run earlier
    let answered := pending.step (.answer secret (.start ticket) (.fetched result))
    k.started = false → k.binds.find? ticket = none → (k.room secret).registered = true →
      (∀ flight ∈ (k.room secret).flights, flight.purpose ≠ .start ticket) →
      (∀ event ∈ waiting ++ earlier ++ later, begun.Beside ticket secret event) →
      (asked.tidings secret = (reached.now, .asked .fetch) :: reached.tidings secret ↔
        begun.Along (fun k event => ¬ Overtaxes ticket k event) waiting) ∧
      (Serves secret pending (answered.run later) result ↔
        begun.Along (fun k event => ¬ Overtaxes ticket k event)
          (waiting ++ .ask secret ticket :: earlier)) := by
  intro k begun reached asked pending answered idle unbound present fresh beside
  have inLine : Fetching ticket secret true begun := start_fetching (run_keyed policy before)
    idle unbound present fresh
  have first : ∀ event ∈ waiting, begun.Beside ticket secret event := fun event member =>
    beside event (List.mem_append_left _ (List.mem_append_left _ member))
  refine ⟨inLine.turn_iff first, ?_⟩
  have toTurn := run_shelters first inLine.free
  have turned : asked.binds = begun.binds := (ask_confined secret reached ticket).binds.trans
    toTurn.binds
  have second : ∀ event ∈ earlier, asked.Beside ticket secret event := fun event member =>
    (beside event (List.mem_append_left _ (List.mem_append_right _ member))).of_binds turned
  have free : asked.binds.find? ticket = none := turned ▸ inLine.free
  have toAnswer := run_shelters second free
  have third : ∀ event ∈ later, pending.Beside ticket secret event := fun event member =>
    (beside event (List.mem_append_right _ member)).of_binds (toAnswer.binds.trans turned)
  have free' : pending.binds.find? ticket = none := toAnswer.binds ▸ free
  rw [along_append, Along, and_iff_right (not_overtaxes_ask _ ticket secret ticket)]
  constructor
  · intro serves
    -- a start that died before the turn, or between the turn and the answer, is gone by then
    apply Classical.byContradiction
    intro overtaxed
    refine not_serves_of_gone ?_ free' third result serves
    by_cases along : begun.Along (fun k event => ¬ Overtaxes ticket k event) waiting
    · exact run_absent second free (Or.inr fun onward => overtaxed ⟨along, onward⟩)
    · have gone := run_absent first inLine.free (Or.inr along)
      refine run_absent second free (Or.inl ?_)
      have idled : asked = reached := ask_of_gone gone
      rw [idled]
      exact gone
  · rintro ⟨along, onward⟩
    have turn := inLine.sheltered toTurn (run_headway first inLine.free along)
    have fetching := turn.asked.1.sheltered toAnswer (run_headway second free onward)
    have path : pending = (new policy).run (before ++ .request ticket .start :: (waiting ++
        .ask secret ticket :: earlier)) := by
      simp only [run, List.foldl_cons, List.foldl_append, pending, asked, reached, begun, k]
    have lined : pending.Lined := path ▸ run_lined policy _
    have current : pending.Fresh := path ▸ run_fresh policy _
    exact fetching.served lined current third result

/-- Of three secrets one is not found at once and one has no lease; the third gets its own. -/
theorem served_beside_failures :
    let missing : Secret := ⟨"database/creds/gone", .renew⟩
    let static : Secret := ⟨"secret/app", .renew⟩
    let secret : Secret := ⟨"database/creds/app", .renew⟩
    let response : Response := ⟨"", "a", 120, true, none, none, none⟩
    let k := (new .default).run
      [.request 1 (.add missing), .request 2 (.add static), .request 3 (.add secret)]
    let begun := k.step (.request 4 .start)
    let waiting : List KeeperEvent := [.ask missing 4,
      .answer missing (.start 4) (.fetched (.error (.notFound "gone")))]
    let earlier : List KeeperEvent := [.ask static 4, .pass (Span.seconds 1)]
    let later : List KeeperEvent := [.pass (Span.seconds 1),
      .answer static (.start 4) (.fetched (.ok ⟨"", "", 0, false, none, none, none⟩))]
    let reached := begun.run waiting
    let asked := reached.step (.ask secret 4)
    let pending := asked.run earlier
    let answered := pending.step (.answer secret (.start 4) (.fetched (.ok response)))
    k.started = false ∧ k.binds.find? 4 = none ∧ (k.room secret).registered = true ∧
      (∀ flight ∈ (k.room secret).flights, flight.purpose ≠ .start 4) ∧
      (∀ event ∈ waiting ++ earlier ++ later, begun.Beside 4 secret event) ∧
      begun.Along (fun k event => ¬ Overtaxes 4 k event) (waiting ++ .ask secret 4 :: earlier) ∧
      asked.tidings secret = (reached.now, .asked .fetch) :: reached.tidings secret ∧
      Serves secret pending (answered.run later) (.ok response) ∧
      (answered.run later).current secret = some response.lease ∧
      (answered.run later).nextDue secret = some (Span.seconds 61) := by
  intro missing static secret response k begun waiting earlier later reached asked pending answered
  have beside : ∀ event ∈ waiting ++ earlier ++ later, begun.Beside 4 secret event := by
    intro event member
    simp only [waiting, earlier, later, List.cons_append, List.nil_append, List.mem_cons,
      List.not_mem_nil, or_false] at member
    rcases member with rfl | rfl | rfl | rfl | rfl | rfl
    · exact .ask missing (by decide)
    · exact .answer missing (by decide) _
    · exact .ask static (by decide)
    · exact .pass _
    · exact .pass _
    · exact .answer static (by decide) _
  have along : begun.Along (fun k event => ¬ Overtaxes 4 k event) waiting :=
    ⟨by decide, by decide, trivial⟩
  have along' : begun.Along (fun k event => ¬ Overtaxes 4 k event)
      (waiting ++ .ask secret 4 :: earlier) :=
    ⟨by decide, by decide, by decide, by decide, by decide, trivial⟩
  have idle : k.started = false := by decide
  have unbound : k.binds.find? 4 = none := by decide
  have present : (k.room secret).registered = true := by decide
  have fresh : ∀ flight ∈ (k.room secret).flights, flight.purpose ≠ .start 4 := by decide
  have served := start_serves_iff .default _ waiting earlier later secret 4 (.ok response) idle
    unbound present fresh beside
  exact ⟨idle, unbound, present, fresh, beside, along', served.1.mpr along, served.2.mpr along',
    by decide, by decide⟩

/-- Two secrets are fetched by one start, and the first answer brings the longest lease there is.
When it comes while both are fetched, the second fetch is lost with the start, and its answer is not
heard. When it is there at once, the second secret is never asked for. -/
theorem start_cut_short :
    let long : Secret := ⟨"database/creds/long", .renew⟩
    let secret : Secret := ⟨"database/creds/app", .renew⟩
    let k := (new .default).run
      [.request 1 (.add long), .request 2 (.add secret), .request 3 .start]
    let overlong : KeeperEvent := .answer long (.start 3)
      (.fetched (.ok ⟨"", "l", 18446744073709551615, true, none, none, none⟩))
    let answer : KeeperEvent := .answer secret (.start 3)
      (.fetched (.ok ⟨"", "a", 120, true, none, none, none⟩))
    let late := k.run [.ask long 3, .ask secret 3, .pass (Span.seconds 1), overlong,
      .pass (Span.seconds 1), answer]
    let prompt := k.run [.ask long 3, overlong, .ask secret 3, .pass (Span.seconds 1), answer]
    late.started = true ∧ (late.room secret).registered = true ∧ late.data secret = none ∧
      late.current secret = none ∧ (late.room secret).flights.isEmpty = true ∧
      prompt.data secret = none ∧ prompt.current secret = none ∧
      (prompt.tidings secret).isEmpty = true := by
  intro long secret k overlong answer late prompt
  exact ⟨by decide, by decide, by decide, by decide, by decide, by decide, by decide, by decide⟩

end Keeper
end LeaseKeeper

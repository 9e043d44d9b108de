import LeaseKeeper.Proofs.Keeper.Counterparts
import Mathlib.Data.Option.Basic

/-!
Outsiders that listen for faults, and perhaps hold on to them, change nothing but which of the
faults that operations return are copies. Two runs in which the same happens, one of them without
the outsiders, have counterparts at every moment.
-/
namespace LeaseKeeper

def Entry.isReturn : Entry → Bool
  | .returned _ _ => true
  | _ => false

namespace Keeper
namespace Counterparts

variable {n : Nat → Nat} {k k' : Keeper} {b b' : Binding} {result result' : Except Fault Lease}

section
variable (same : Counterparts n k k')
include same

/-! ### Binds -/

theorem silence (id : Nat) : Counterparts n (k.silence id) (k'.silence id) := by
  unfold Keeper.silence
  rcases same.sources.find? id with ⟨absent, absent'⟩ | ⟨source, _, found, found', below, rfl⟩
  · rw [absent, absent']
    exact same
  · rw [found, found']
    exact { same with
      leaseListeners := by simp only [same.leaseListeners]
      faultListeners := same.faultListeners.remove below }

theorem dropSource (id : Nat) : Counterparts n (k.dropSource id) (k'.dropSource id) := by
  have silent := same.silence id
  exact { silent with sources := silent.sources.erase id }

theorem closeSource (id : Nat) : Counterparts n (k.closeSource id) (k'.closeSource id) := by
  refine (same.silence id).tellSource id fun source number => ?_
  unfold Source.close
  dsimp only
  split <;> rfl

theorem release (ticket : Nat) : Counterparts n (k.release ticket).1 (k'.release ticket).1 ∧
    Option.Rel Fault.Akin (k.release ticket).2 (k'.release ticket).2 := by
  unfold Keeper.release
  rcases same.captures.find? ticket with ⟨absent, absent'⟩ | ⟨c, c', found, found', related⟩
  · rw [absent, absent']
    exact ⟨same, .none⟩
  · rw [found, found']
    constructor
    · have removed := same.faultListeners.remove related.below
      rw [← related.listener] at removed
      exact { same with
        captures := same.captures.erase ticket
        faultListeners := removed }
    · have first := related.first
      obtain ⟨_, _, _ | ⟨report, fault, _⟩⟩ := c
      · obtain ⟨_, _, _ | caught⟩ := c'
        · exact .none
        · cases first
      · obtain ⟨_, _, _ | ⟨report', fault', _⟩⟩ := c'
        · cases first
        · obtain ⟨rfl, rfl⟩ := Prod.mk.inj (Option.some.inj first)
          refine .some ?_
          -- whoever else holds the fault, what is given out is the fault or its copy
          unfold Fault.Akin
          dsimp only
          split <;> split <;> simp

theorem setStage (ticket : Nat) (akin : b.Akin b') :
    Counterparts n (k.setStage ticket b) (k'.setStage ticket b') :=
  { same with binds := same.binds.put ticket akin }

theorem ended (ticket : Nat) {answer answer' : KeeperAnswer}
    (plain : answer'.plain = answer.plain) :
    Counterparts n (k.ended ticket answer) (k'.ended ticket answer') := by
  have erased : Counterparts n { k with binds := k.binds.erase ticket }
      { k' with binds := k'.binds.erase ticket } :=
    { same with binds := same.binds.erase ticket }
  exact erased.note (congrArg (Entry.returned ticket) plain)

theorem failBind (ticket : Nat) {fault fault' : Fault} (akin : Fault.Akin fault fault') :
    Counterparts n (k.failBind ticket fault) (k'.failBind ticket fault') :=
  (same.dropSource ticket).ended ticket (congrArg KeeperAnswer.bound akin.plainly)

theorem finishBind (ticket : Nat) :
    Counterparts n (k.finishBind ticket) (k'.finishBind ticket) := by
  have size : ((k'.sources.find? ticket).map (·.properties.length)).getD 0 =
      ((k.sources.find? ticket).map (·.properties.length)).getD 0 := by
    rcases same.sources.find? ticket with ⟨absent, absent'⟩ | ⟨source, _, found, found', _, rfl⟩
    · rw [absent, absent']
    · rw [found, found']
      rfl
  unfold Keeper.finishBind
  rw [size]
  exact same.ended ticket rfl

theorem bindFetched (ticket : Nat) (akin : b.Akin b') :
    Counterparts n (k.bindFetched ticket b) (k'.bindFetched ticket b') := by
  have released := same.release ticket
  unfold Keeper.bindFetched
  generalize k.release ticket = outcome at released
  generalize k'.release ticket = outcome' at released
  obtain ⟨k₁, caught⟩ := outcome
  obtain ⟨k₁', caught'⟩ := outcome'
  obtain ⟨after, related⟩ := released
  cases related with
  | none => exact after.finishBind ticket
  | some copied =>
    simp only [akin.secret, akin.failFast, akin.added]
    split
    · split
      · have removed := after.remove ticket b.secret
        generalize k₁.remove ticket b.secret = outcome at removed
        generalize k₁'.remove ticket b.secret = outcome' at removed
        obtain ⟨gone, flag⟩ := removed
        cases flag with
        | none =>
          exact gone.setStage ticket ⟨rfl, rfl, rfl, congrArg BindStage.removing copied⟩
        | some flag => exact gone.failBind ticket copied
      · exact after.failBind ticket copied
    · exact after.finishBind ticket

theorem bindAdded (ticket : Nat) (akin : b.Akin b') :
    Counterparts n (k.bindAdded ticket b) (k'.bindAdded ticket b') := by
  unfold Keeper.bindAdded
  simp only [same.started, same.data, akin.secret, akin.failFast, akin.added]
  split
  · have begun := same.start ticket
    generalize k.start ticket = outcome at begun
    generalize k'.start ticket = outcome' at begun
    obtain ⟨after, through⟩ := begun
    cases through with
    | true => exact after.bindFetched ticket akin
    | false => exact after.setStage ticket ⟨rfl, rfl, rfl, rfl⟩
  · split
    · cases k.data b.secret with
      | some data =>
        refine (same.tellSource ticket fun source number => ?_).bindFetched ticket akin
        unfold Source.seed
        dsimp only
        split <;> rfl
      | none =>
        have rotated := same.rotate ticket b.secret
        dsimp only
        generalize k.rotate ticket b.secret = outcome at rotated
        generalize k'.rotate ticket b.secret = outcome' at rotated
        obtain ⟨after, refused⟩ := rotated
        cases refused with
        | some fault => exact after.bindFetched ticket akin
        | none => exact after.setStage ticket ⟨rfl, rfl, rfl, rfl⟩
    · exact same.bindFetched ticket akin

theorem enroll {listener : FaultListener} (own : listener.isObserver = false) :
    Counterparts (Function.update n k.faultListeners.issued k'.faultListeners.issued)
      { k with faultListeners := k.faultListeners.add listener }
      { k' with faultListeners := k'.faultListeners.add listener } :=
  { same with
    faultListeners := same.faultListeners.add own
    sources := same.sources.imp fun _ _ renumbered => renumbered.next _
    captures := same.captures.imp fun _ _ renumbered => renumbered.next _ }

theorem seated (ticket : Nat) (secret : Secret) (start : String) :
    ∃ n', Counterparts n' (k.seated ticket secret start) (k'.seated ticket secret start) := by
  have heard := same.enroll (rfl : (FaultListener.source ticket).isObserver = false)
  have both := heard.enroll (rfl : (FaultListener.capture ticket).isObserver = false)
  have below : k.faultListeners.issued < k.faultListeners.issued + 2 := by omega
  refine ⟨_, { both with
    leaseListeners := by simp only [Keeper.seated, same.leaseListeners]
    sources := both.sources.put ticket ⟨below, ?_⟩
    captures := both.captures.put ticket ⟨Nat.lt_succ_self _, rfl, ?_, rfl⟩ }⟩
  · simp [same.policy, same.leaseListeners, Listeners.Registry.add]
  · simp [Listeners.Registry.add]

theorem bind (ticket : Nat) (secret : Secret) (failFast : Bool) (start : String) :
    ∃ n', Counterparts n' (k.bind ticket secret failFast start)
      (k'.bind ticket secret failFast start) := by
  obtain ⟨n', seated⟩ := same.seated ticket secret start
  refine ⟨n', ?_⟩
  have added := seated.add ticket secret
  generalize first : (k.seated ticket secret start).add ticket secret = outcome at added
  generalize second : (k'.seated ticket secret start).add ticket secret = outcome' at added
  obtain ⟨after, flag⟩ := added
  cases flag with
  | none =>
    rw [bind_of_waiting first, bind_of_waiting second]
    exact after.setStage ticket ⟨rfl, rfl, rfl, rfl⟩
  | some flag =>
    rw [bind_of_answered first, bind_of_answered second]
    exact after.bindAdded ticket ⟨rfl, rfl, rfl, rfl⟩

/-! ### How activities end -/

theorem complete (ticket : Nat) {answer answer' : KeeperAnswer}
    (plain : answer'.plain = answer.plain) :
    Counterparts n (k.complete ticket answer) (k'.complete ticket answer') := by
  unfold Keeper.complete
  rcases same.binds.find? ticket with ⟨absent, absent'⟩ | ⟨b, b', found, found', alike⟩
  · rw [absent, absent']
    exact same.note (congrArg (Entry.returned ticket) plain)
  · rw [found, found']
    have stages := alike.stage
    cases stage : b.stage with
    | adding =>
      cases stage' : b'.stage with
      | adding => simpa only [stage, stage'] using same.bindAdded ticket alike
      | _ => rw [stage, stage'] at stages; cases stages
    | fetching =>
      cases stage' : b'.stage with
      | fetching => simpa only [stage, stage'] using same.bindFetched ticket alike
      | _ => rw [stage, stage'] at stages; cases stages
    | removing fault =>
      cases stage' : b'.stage with
      | removing fault' =>
        rw [stage, stage'] at stages
        simpa only [stage, stage'] using same.failBind ticket (BindStage.removing.inj stages)
      | _ => rw [stage, stage'] at stages; cases stages

theorem crash (ticket : Nat) : Counterparts n (k.crash ticket) (k'.crash ticket) := by
  have dropped := same.mapRooms (·.dropTicket ticket)
  unfold Keeper.crash
  unfold Keeper.mapRooms at dropped
  dsimp only
  rcases same.binds.find? ticket with ⟨absent, absent'⟩ | ⟨b, b', found, found', alike⟩
  · rw [absent, absent']
    exact dropped.note rfl
  · rw [found, found']
    exact ((dropped.release ticket).1.dropSource ticket).ended ticket rfl

theorem endShared (ticket : Nat) : Counterparts n (k.endShared ticket) (k'.endShared ticket) := by
  unfold Keeper.endShared
  rw [same.hasTicket]
  split
  · exact same
  · exact same.complete ticket rfl

end

theorem matching_of_plainly (alike : Fault.plainly result' = Fault.plainly result) :
    Matching result result' := by
  rcases Fault.plainly_cases alike with ⟨lease, rfl, rfl⟩ | ⟨fault, fault', rfl, rfl, akin⟩
  · exact .ok lease
  · exact .error fault fault' akin.shouldDrop

section
variable (same : Counterparts n k k') (secret : Secret)
  (alike : Fault.plainly result' = Fault.plainly result)
include same alike

theorem endTimer (number generation : Nat) :
    Counterparts n (k.endTimer secret number generation result)
      (k'.endTimer secret number generation result') := by
  unfold Keeper.endTimer
  simp only [same.room, same.policy, same.now, (matching_of_plainly alike).conclude]
  split
  · exact same
  · split
    · exact same.arm secret number _ _ _
    · exact same.setRoom secret _
    · exact same.setRoom secret _

theorem endRenew (ticket : Nat) : Counterparts n (k.endRenew ticket secret result)
    (k'.endRenew ticket secret result') := by
  rcases Fault.plainly_cases alike with ⟨lease, rfl, rfl⟩ | ⟨fault, fault', rfl, rfl, akin⟩
  · have scheduled := same.schedule secret lease
    unfold Keeper.endRenew
    dsimp only
    generalize k.schedule secret lease = outcome at scheduled
    generalize k'.schedule secret lease = outcome' at scheduled
    obtain ⟨after, kind⟩ := scheduled
    cases kind with
    | overflow => exact after.crash ticket
    | kept => exact after.complete ticket rfl
    | refused => exact after.complete ticket rfl
  · exact same.complete ticket (congrArg KeeperAnswer.lease alike)

theorem endRenewal (purpose : Purpose) : Counterparts n (k.endRenewal secret purpose result)
    (k'.endRenewal secret purpose result') := by
  cases purpose with
  | renew ticket => exact same.endRenew secret alike ticket
  | timer number generation => exact same.endTimer secret alike number generation
  | _ => exact same

theorem endFetch (purpose : Purpose) : Counterparts n (k.endFetch secret purpose result)
    (k'.endFetch secret purpose result') := by
  have success : isOk result' = isOk result := by
    rcases Fault.plainly_cases alike with ⟨lease, rfl, rfl⟩ | ⟨fault, fault', rfl, rfl, akin⟩
    · rfl
    · rfl
  unfold Keeper.endFetch
  rw [success]
  have counted := same.count (.rotation (isOk result))
  cases purpose with
  | register ticket => exact same.complete ticket rfl
  | start ticket => exact same.endShared ticket
  | rotate ticket => exact counted.complete ticket (congrArg KeeperAnswer.lease alike)
  | renew ticket => exact counted.endRenew secret alike ticket
  | timer number generation => exact counted.endTimer secret alike number generation
  | remove ticket => exact same.complete ticket rfl
  | destroy ticket => exact same.endShared ticket

end

section
variable (same : Counterparts n k k') (secret : Secret) (purpose : Purpose)
include same

theorem abandon (lease : Lease) (result : Except Fault Lease) :
    Counterparts n (k.abandon secret purpose lease result)
      (k'.abandon secret purpose lease result) := by
  unfold Keeper.abandon
  split
  · exact same.revoke secret purpose lease result
  · exact same.endFetch secret rfl purpose

/-! ### Store answers -/

theorem published (response : Response) :
    Counterparts n (k.published secret response) (k'.published secret response) :=
  (same.setData secret _).emit _

theorem acknowledged (next : Lease) :
    Counterparts n (k.acknowledged secret next) (k'.acknowledged secret next) := by
  unfold Keeper.acknowledged
  split
  · exact (same.count _).emit _
  · exact same.count _

theorem lapsed (next : Lease) : Counterparts n (k.lapsed secret next) (k'.lapsed secret next) :=
  (same.setData secret none).emit _

theorem fetched (result : Except Fault Response) :
    Counterparts n (k.fetched secret purpose result) (k'.fetched secret purpose result) := by
  cases result with
  | error fault =>
    have told : Counterparts n (if fault.isNotFound then k.emit (.notFound secret) else k)
        (if fault.isNotFound then k'.emit (.notFound secret) else k') := by
      split
      · exact same.emit _
      · exact same
    exact (told.report secret Lease.none fault).endFetch secret
      (report_akin _ _ secret _ fault).plainly purpose
  | ok response =>
    simp only [Keeper.fetched, same.started]
    split
    · exact same.abandon secret purpose _ _
    · have scheduled := (same.published secret response).schedule secret response.lease
      unfold Keeper.published at scheduled
      generalize Keeper.schedule _ secret response.lease = outcome at scheduled
      generalize Keeper.schedule _ secret response.lease = outcome' at scheduled
      obtain ⟨after, kind⟩ := scheduled
      cases kind with
      | kept => exact after.endFetch secret rfl purpose
      | refused => exact after.abandon secret purpose _ _
      | overflow =>
        cases purpose.ticket? with
        | none => exact after
        | some ticket => exact after.crash ticket

theorem renewed (lease : Lease) (result : Except Fault Lease) :
    Counterparts n (k.renewed secret purpose lease result)
      (k'.renewed secret purpose lease result) := by
  cases result with
  | error fault =>
    exact ((same.count _).report secret lease fault).endRenewal secret
      (report_akin _ _ secret lease fault).plainly purpose
  | ok next =>
    have told := same.acknowledged secret next
    by_cases short : k.fallsShort next
    · have short' : k'.fallsShort next := by rwa [fallsShort, same.policy]
      rw [renewed_of_short lease short, renewed_of_short lease short']
      split
      · exact told.call secret purpose _
      · exact (told.lapsed secret next).endRenewal secret rfl purpose
    · have enough : ¬ k'.fallsShort next := by rwa [fallsShort, same.policy]
      rw [renewed_of_enough lease short, renewed_of_enough lease enough]
      exact told.endRenewal secret rfl purpose

theorem revoked (lease : Lease) (result : Except Fault Lease) (reply : Except Fault Unit) :
    Counterparts n (k.revoked secret purpose lease result reply)
      (k'.revoked secret purpose lease result reply) := by
  cases reply with
  | ok _ => exact ((same.count _).emit _).endFetch secret rfl purpose
  | error fault => exact ((same.count _).report secret lease fault).endFetch secret rfl purpose

theorem answer (reply : Reply) :
    Counterparts n (k.answer secret purpose reply) (k'.answer secret purpose reply) := by
  have landed := same.setRoom secret ((k.room secret).dropFlight purpose)
  unfold Keeper.answer
  simp only [same.room]
  cases (k.room secret).flight? purpose with
  | none => exact same
  | some flight =>
    obtain ⟨_, errand⟩ := flight
    cases errand with
    | fetch =>
      cases reply with
      | fetched result => exact landed.fetched secret purpose result
      | _ => exact same
    | renew lease =>
      cases reply with
      | renewed result => exact landed.renewed secret purpose lease result
      | _ => exact same
    | revoke lease result =>
      cases reply with
      | revoked reply => exact landed.revoked secret purpose lease result reply
      | _ => exact same

end

/-! ### Timers and requests -/

theorem of_flag {outcome outcome' : Keeper × Option Bool} (ticket : Nat) :
    Coupled n outcome outcome' → Counterparts n
      (match outcome with
      | (k, some flag) => k.complete ticket (.flag flag)
      | (k, none) => k)
      (match outcome' with
      | (k, some flag) => k.complete ticket (.flag flag)
      | (k, none) => k) := by
  rintro ⟨same, _ | flag⟩
  · exact same
  · exact same.complete ticket rfl

theorem of_fault {outcome outcome' : Keeper × Option Fault} (ticket : Nat) :
    Coupled n outcome outcome' → Counterparts n
      (match outcome with
      | (k, some fault) => k.complete ticket (.lease (.error fault))
      | (k, none) => k)
      (match outcome' with
      | (k, some fault) => k.complete ticket (.lease (.error fault))
      | (k, none) => k) := by
  rintro ⟨same, _ | fault⟩
  · exact same
  · exact same.complete ticket rfl

theorem of_done {outcome outcome' : Keeper × Bool} (ticket : Nat) :
    Coupled n outcome outcome' → Counterparts n
      (match outcome with
      | (k, true) => k.complete ticket .done
      | (k, false) => k)
      (match outcome' with
      | (k, true) => k.complete ticket .done
      | (k, false) => k) := by
  rintro ⟨same, _ | _⟩
  · exact same
  · exact same.complete ticket rfl

section
variable (same : Counterparts n k k')
include same

theorem fire (secret : Secret) (number generation : Nat) :
    Counterparts n (k.fire secret number generation) (k'.fire secret number generation) := by
  unfold Keeper.fire
  simp only [same.room, same.now, same.isHeld]
  split
  · exact same
  · split
    · exact same
    · split
      · split
        · exact same.setRoom secret _
        · split
          · exact (same.setRoom secret _).renewOrFetch secret _ _
          · exact (same.setRoom secret _).endTimer secret rfl number generation
      · exact same

theorem stop (secret : Secret) (number generation : Nat) :
    Counterparts n (k.stop secret number generation) (k'.stop secret number generation) := by
  unfold Keeper.stop
  simp only [same.room]
  split
  · exact same
  · split
    · exact same.setRoom secret _
    · exact same

theorem request (ticket : Nat) (operation : Operation) :
    ∃ n', Counterparts n' (k.request ticket operation) (k'.request ticket operation) := by
  cases operation with
  | bind secret failFast start => exact same.bind ticket secret failFast start
  | add secret => exact ⟨n, .of_flag ticket (same.add ticket secret)⟩
  | remove secret => exact ⟨n, .of_flag ticket (same.remove ticket secret)⟩
  | start => exact ⟨n, .of_done ticket (same.start ticket)⟩
  | destroy => exact ⟨n, .of_done ticket (same.destroy ticket)⟩
  | renew secret => exact ⟨n, .of_fault ticket (same.renew ticket secret)⟩
  | rotate secret => exact ⟨n, .of_fault ticket (same.rotate ticket secret)⟩

theorem step (event : KeeperEvent) : ∃ n', Counterparts n' (k.step event) (k'.step event) := by
  cases event with
  | request ticket operation => exact same.request ticket operation
  | ask secret ticket => exact ⟨n, same.ask secret ticket⟩
  | answer secret purpose reply => exact ⟨n, same.answer secret purpose reply⟩
  | fire secret number generation => exact ⟨n, same.fire secret number generation⟩
  | stop secret number generation => exact ⟨n, same.stop secret number generation⟩
  | pass span => exact ⟨n, { same with now := congrArg (· + span) same.now }⟩
  | closeSource id => exact ⟨n, same.closeSource id⟩
  | dropSource id => exact ⟨n, same.dropSource id⟩
  | disown => exact ⟨n, { same with owned := rfl }⟩

end

end Counterparts

/-! ### Runs with outsiders -/

/-- What happens to a keeper: its own events, and outsiders that come and go as listeners. -/
inductive Moment where
  | event (event : KeeperEvent)
  | heed
  | unheed (id : Nat)
  | watch (keeps : Bool)
  | unwatch (id : Nat)

def Moment.isWatch : Moment → Bool
  | .watch _ | .unwatch _ => true
  | _ => false

def meet (k : Keeper) : Moment → Keeper
  | .event event => k.step event
  | .heed => { k with leaseListeners := k.leaseListeners.add .observer }
  | .unheed id => { k with leaseListeners := k.leaseListeners.remove id }
  | .watch keeps => { k with faultListeners := k.faultListeners.add (.observer keeps) }
  | .unwatch id =>
    { k with faultListeners.entries :=
        k.faultListeners.entries.filter fun entry => !(entry.1 == id && entry.2.isObserver) }

def live (k : Keeper) (moments : List Moment) : Keeper := moments.foldl meet k

def unwatched (moments : List Moment) : List Moment := moments.filter (!·.isWatch)

namespace Counterparts

variable {n : Nat → Nat} {k k' : Keeper} (same : Counterparts n k k')
include same

theorem meet {moment : Moment} (own : moment.isWatch = false) :
    ∃ n', Counterparts n' (k.meet moment) (k'.meet moment) := by
  cases moment with
  | event event => exact same.step event
  | heed =>
    refine ⟨n, { same with leaseListeners := ?_ }⟩
    simp only [Keeper.meet, same.leaseListeners]
  | unheed id =>
    refine ⟨n, { same with leaseListeners := ?_ }⟩
    simp only [Keeper.meet, same.leaseListeners]
  | watch keeps => cases own
  | unwatch id => cases own

theorem meet_watch {moment : Moment} (foreign : moment.isWatch = true) :
    Counterparts n k (k'.meet moment) := by
  cases moment with
  | watch keeps => exact { same with faultListeners := same.faultListeners.watch keeps }
  | unwatch id =>
    refine { same with faultListeners := same.faultListeners.unwatch fun entry gone => ?_ }
    simp only [Bool.and_eq_true] at gone
    exact gone.2
  | _ => cases foreign

theorem live (moments : List Moment) :
    ∃ n', Counterparts n' (k.live (unwatched moments)) (k'.live moments) := by
  -- moment by moment; at those of the outsiders the first keeper does not move
  induction moments generalizing n k k' with
  | nil => exact ⟨n, same⟩
  | cons moment rest ih =>
    cases watches : moment.isWatch with
    | false =>
      obtain ⟨n₁, first⟩ := same.meet watches
      obtain ⟨n', later⟩ := ih first
      refine ⟨n', ?_⟩
      rwa [unwatched, List.filter_cons_of_pos (by simp [watches])]
    | true =>
      obtain ⟨n', later⟩ := ih (same.meet_watch watches)
      refine ⟨n', ?_⟩
      rwa [unwatched, List.filter_cons_of_neg (by simp [watches])]

end Counterparts

/-! ### What outsiders leave alone -/

def deeds (k : Keeper) : List (Nat × Entry) := k.journal.filter (!·.2.isReturn)

theorem deeds_plain (k : Keeper) :
    (k.journal.map fun entry => (entry.1, entry.2.plain)).filter (!·.2.isReturn) = k.deeds := by
  unfold deeds
  induction k.journal with
  | nil => rfl
  | cons entry rest ih =>
    obtain ⟨time, entry⟩ := entry
    cases entry with
    | returned ticket answer => exact ih
    | _ => exact congrArg (List.cons _) ih

structure Undisturbed (k k' : Keeper) : Prop where
  now : k'.now = k.now
  started : k'.started = k.started
  rooms : k'.rooms = k.rooms
  deeds : k'.deeds = k.deeds
  answers : (k'.journal.map fun entry => (entry.1, entry.2.plain)) =
    k.journal.map fun entry => (entry.1, entry.2.plain)
  sources : ∀ id, ((k'.sources.find? id).map fun s => (s.properties, s.state)) =
    (k.sources.find? id).map fun s => (s.properties, s.state)
  metrics : k'.metrics = k.metrics

theorem Counterparts.undisturbed {n : Nat → Nat} {k k' : Keeper} (same : Counterparts n k k') :
    Undisturbed k k' where
  now := same.now
  started := same.started
  rooms := same.rooms
  deeds := by rw [← deeds_plain, same.journal, deeds_plain]
  answers := same.journal
  sources := by
    intro id
    rcases same.sources.find? id with ⟨absent, absent'⟩ | ⟨source, _, found, found', _, rfl⟩
    · rw [absent, absent']
    · rw [found, found']
      rfl
  metrics := same.metrics

/-- No decision tells a fault from its copies, and so whoever listens for faults, and holds on to
them so that others get copies, disturbs nothing. -/
theorem watching_disturbs_nothing :
    (∀ (fault : Fault) (strategy : Strategy) (copies : Nat),
      (Fault.replicate^[copies] fault).isIo = fault.isIo ∧
      (Fault.replicate^[copies] fault).isNotFound = fault.isNotFound ∧
      strategy.shouldDrop (Fault.replicate^[copies] fault) = strategy.shouldDrop fault ∧
      (Fault.replicate^[copies + 1] fault).kind =
        (if fault.kind = "SerializationError" then "Internal" else fault.kind) ∧
      (Fault.replicate^[copies + 1] fault).message =
        if fault.kind = "SerializationError" then "Internal error: " ++ fault.message
        else fault.message) ∧
    ∀ (policy : LeasePolicy) (moments : List Moment),
      Undisturbed ((new policy).live (unwatched moments)) ((new policy).live moments) := by
  constructor
  · intro fault strategy copies
    rw [fault.replicate_iterate, fault.kind_replicate, fault.message_replicate]
    cases copies with
    | zero => exact ⟨rfl, rfl, rfl, rfl, rfl⟩
    | succ copies =>
      rw [fault.replicate_iterate]
      exact ⟨fault.isIo_replicate, fault.isNotFound_replicate, strategy.shouldDrop_replicate fault,
        rfl, rfl⟩
  · intro policy moments
    obtain ⟨n', same⟩ := (counterparts_new policy).live moments
    exact same.undisturbed

/-- Whoever asked for a rotation gets a copy of its fault if an outsider keeps the fault. -/
example (keeps : Bool) :
    let secret : Secret := ⟨"db/creds", .rotate⟩
    let fault : Fault := .serializationError ⟨.trailingComma, 1, 7⟩
    let moments : List Moment := [.watch keeps, .event (.request 1 .start),
      .event (.request 2 (.add secret)),
      .event (.answer secret (.register 2) (.fetched (.error fault))),
      .event (.request 3 (.rotate secret)),
      .event (.answer secret (.rotate 3) (.fetched (.error fault)))]
    ((new .default).live moments).journal.head? =
      some (0, .returned 3 (.lease (.error (if keeps then fault.replicate else fault)))) := by
  cases keeps <;> rfl

end Keeper
end LeaseKeeper

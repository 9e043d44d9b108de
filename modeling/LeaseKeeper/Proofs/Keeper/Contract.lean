import LeaseKeeper.Proofs.Flatten.Maps
import LeaseKeeper.Proofs.Keeper.Awaiting

/-!
The contract of a bind. A bind that fails fast returns the fault of the fetch that was made for it,
or a copy of it, and leaves the registrations and the listeners as they were; every other bind gives
out a source, which has the data there is or is to be filled by a later fetch.
-/
namespace LeaseKeeper

structure Fault.Echoes (copy fault : Fault) : Prop where
  either : copy = fault ∨ copy = fault.replicate
  kind : copy.kind = fault.kind ∨ fault.kind = "SerializationError" ∧ copy.kind = "Internal"
  isIo : copy.isIo = fault.isIo
  isNotFound : copy.isNotFound = fault.isNotFound

theorem Fault.echoes {copy fault : Fault} (either : copy = fault ∨ copy = fault.replicate) :
    copy.Echoes fault := by
  rcases either with rfl | rfl
  · exact ⟨Or.inl rfl, Or.inl rfl, rfl, rfl⟩
  · refine ⟨Or.inr rfl, ?_, isIo_replicate fault, isNotFound_replicate fault⟩
    cases fault with
    | serializationError => exact Or.inr ⟨rfl, rfl⟩
    | _ => exact Or.inl rfl

/-- An operation is asked for, a source is let go, or a timer of the secret runs out. -/
def KeeperEvent.intrudes (secret : Secret) : KeeperEvent → Bool
  | .request _ _ | .closeSource _ | .dropSource _ => true
  | .fire own _ _ => own == secret
  | _ => false

namespace Keeper

variable {k k' k₀ k₁ : Keeper} {bid : Bid} {own secret : Secret} {ticket : Nat} {purpose : Purpose}
  {stage : BindStage} {answer? : Option (Except Fault Response)} {s : Source} {c : Capture}
  {fault? : Option Fault} {asked : List Errand} {event : KeeperEvent}

/-! ### How a bind ends -/

structure Gives (k₀ : Keeper) (bid : Bid) (s : Source) (outcome : Except Fault Nat) (k : Keeper) :
    Prop where
  source : k.sources.find? bid.ticket = some s
  size : outcome = .ok s.properties.length
  registered : ∀ other, (k.room other).registered =
    ((k₀.room other).registered || other == bid.secret)
  leaseListeners : k.leaseListeners.entries =
    k₀.leaseListeners.entries ++ [(k₀.leaseListeners.issued, .source bid.ticket)]
  faultListeners : k.faultListeners.entries =
    k₀.faultListeners.entries ++ [(k₀.faultListeners.issued, .source bid.ticket)]

structure Restores (k₀ k : Keeper) : Prop where
  registered : ∀ other, (k.room other).registered = (k₀.room other).registered
  leaseListeners : k.leaseListeners.entries = k₀.leaseListeners.entries
  faultListeners : k.faultListeners.entries = k₀.faultListeners.entries

structure Closed (k₀ : Keeper) (bid : Bid) (asked : List Errand) (outcome : Except Fault Nat)
    (k : Keeper) : Prop extends Lull k₀ bid.secret asked k where
  unbound : k.binds = []
  returned : k.returns = (bid.ticket, .bound outcome) :: k₀.returns

theorem release_found (found : k.captures.find? ticket = some c) :
    (k.release ticket).1 = { k with
      captures := k.captures.erase ticket
      faultListeners := k.faultListeners.remove c.listener } := by
  simp [release, found]

theorem dropSource_found {id : Nat} (found : k.sources.find? id = some s) :
    k.dropSource id = { k with
      leaseListeners := k.leaseListeners.remove s.leaseListener
      faultListeners := k.faultListeners.remove s.faultListener
      sources := k.sources.erase id } := by
  simp [dropSource, silence, found]

theorem Seats.released (seats : Seats k₀ bid s fault? k) (faults : k₀.faultListeners.Bounded) :
    ∃ captures faultListeners, (k.release bid.ticket).1 = { k with captures, faultListeners } ∧
      faultListeners.entries = (k₀.faultListeners.add (.source bid.ticket)).entries := by
  obtain ⟨c, found, _, listener, _⟩ := seats.capture
  refine ⟨_, _, release_found found, ?_⟩
  rw [seats.faultListeners, listener]
  exact (faults.add (.source bid.ticket)).remove_last (.capture bid.ticket)

theorem Seats.gives (seats : Seats k₀ bid s fault? k) (faults : k₀.faultListeners.Bounded) :
    Gives k₀ bid s (.ok s.properties.length)
      ((k.release bid.ticket).1.finishBind bid.ticket) := by
  obtain ⟨captures, faultListeners, released, entries⟩ := seats.released faults
  rw [released]
  refine ⟨seats.source, rfl, seats.registered, ?_, entries⟩
  exact congrArg Listeners.Registry.entries seats.leaseListeners

theorem Seats.closes (seats : Seats k₀ bid s fault? k) (faults : k₀.faultListeners.Bounded)
    (lull : Lull k₀ bid.secret asked k) (last : k.binds.erase bid.ticket = []) :
    Closed k₀ bid asked (.ok s.properties.length)
      ((k.release bid.ticket).1.finishBind bid.ticket) := by
  obtain ⟨captures, faultListeners, released, _⟩ := seats.released faults
  rw [released]
  refine ⟨⟨lull.idle, lull.unasked, lull.told⟩, last, ?_⟩
  have size : (((k.sources.find? bid.ticket).map (·.properties.length)).getD 0) =
      s.properties.length := by
    rw [seats.source]
    rfl
  rw [finishBind, ← size]
  exact congrArg _ seats.returns

theorem Seats.refuses (seats : Seats k₀ bid (k₀.newSource bid) fault? k)
    (leases : k₀.leaseListeners.Bounded) (faults : k₀.faultListeners.Bounded)
    (last : k.binds.erase bid.ticket = []) (rooms : Table Secret Room)
    (lull : Lull k₀ bid.secret asked { k with rooms })
    (registered : ∀ other, ({ k with rooms }.room other).registered =
      (k₀.room other).registered) (fault : Fault) :
    Restores k₀ ({ (k.release bid.ticket).1 with rooms }.failBind bid.ticket fault) ∧
      Closed k₀ bid asked (.error fault)
        ({ (k.release bid.ticket).1 with rooms }.failBind bid.ticket fault) := by
  obtain ⟨captures, faultListeners, released, entries⟩ := seats.released faults
  have source : ({ k with captures, faultListeners, rooms } : Keeper).sources.find? bid.ticket =
      some (k₀.newSource bid) := seats.source
  rw [released, failBind, dropSource_found source]
  refine ⟨⟨registered, ?_, ?_⟩, ⟨lull.idle, lull.unasked, lull.told⟩, last, ?_⟩
  · exact (congrArg (fun r : Listeners.Registry LeaseListener =>
      (r.remove k₀.leaseListeners.issued).entries) seats.leaseListeners).trans
        (leases.remove_last _)
  · refine Eq.trans ?_ (faults.remove_last (.source bid.ticket))
    exact congrArg (List.filter fun entry : Nat × FaultListener =>
      entry.1 != k₀.faultListeners.issued) entries
  · exact congrArg _ seats.returns

/-! ### What a bind owes -/

def GivesFilled (k₀ : Keeper) (bid : Bid) (data : TextMap String) (outcome : Except Fault Nat)
    (k : Keeper) : Prop :=
  ∃ s, Gives k₀ bid s outcome k ∧ s.secret = bid.secret ∧ s.state = .active ∧
    s.properties.keys = data.keys.map (bid.start ++ ·) ∧
    (∀ key, TextMap.find? (bid.start ++ key) s.properties = TextMap.find? key data) ∧
    k.data bid.secret = some data

def GivesEmpty (k₀ : Keeper) (bid : Bid) (outcome : Except Fault Nat) (k : Keeper) : Prop :=
  ∃ s, Gives k₀ bid s outcome k ∧ s.secret = bid.secret ∧ s.state = .uninitialized ∧
    s.properties = []

def Copes (k₀ : Keeper) (bid : Bid) (fault : Fault) (outcome : Except Fault Nat) (k : Keeper) :
    Prop :=
  if bid.failFast then ∃ copy : Fault, outcome = .error copy ∧ copy.Echoes fault ∧ Restores k₀ k
  else GivesEmpty k₀ bid outcome k

/-- What a bind owes, by what the fetches that were made for it were answered. -/
def Fulfils (k₀ : Keeper) (bid : Bid) (outcome : Except Fault Nat) (k : Keeper) :
    List (Except Fault Response) → Prop
  | [] => ∃ data, k₀.Holds bid.secret data ∧ GivesFilled k₀ bid data outcome k
  | [.ok response] => GivesFilled k₀ bid response.flattened outcome k
  | [.error fault] => Copes k₀ bid fault outcome k
  | _ => False

theorem finished_room (k : Keeper) (ticket : Nat) (other : Secret) :
    ((k.release ticket).1.finishBind ticket).room other = k.room other := by
  unfold release
  split <;> rfl

theorem release_caught {caught : Caught} (found : k.captures.find? ticket = some c)
    (first : c.first = some caught) : ∃ copy, (k.release ticket).2 = some copy ∧
      (copy = caught.fault ∨ copy = caught.fault.replicate) := by
  simp only [release, found, first, Option.map_some]
  split
  · exact ⟨_, rfl, Or.inr rfl⟩
  · exact ⟨_, rfl, Or.inl rfl⟩

theorem Seats.fills (regular : k₀.Regular) {data : TextMap String}
    (seats : Seats k₀ bid ((k₀.newSource bid).adopt data) none k)
    (lull : Lull k₀ bid.secret asked k) (last : k.binds.erase bid.ticket = [])
    (known : k.data bid.secret = some data) (b : Binding) :
    ∃ outcome, Closed k₀ bid asked outcome (k.bindFetched bid.ticket b) ∧
      GivesFilled k₀ bid data outcome (k.bindFetched bid.ticket b) := by
  obtain ⟨c, found, _, _, first⟩ := seats.capture
  have clear : k.isClear bid.ticket := ⟨c, found, Option.map_eq_none_iff.mp first⟩
  have kept := (congrArg Room.data (finished_room k bid.ticket bid.secret)).trans known
  rw [bindFetched_of_clear clear]
  exact ⟨_, seats.closes regular.faults lull last, _, seats.gives regular.faults, rfl, rfl,
    TextMap.keys_withStart bid.start data, fun key => TextMap.find?_withStart bid.start key data,
    kept⟩

theorem bindFetched_caught {b : Binding} {copy : Fault}
    (caught : (k.release ticket).2 = some copy) :
    k.bindFetched ticket b =
      if b.failFast then
        if b.added then
          match (k.release ticket).1.remove ticket b.secret with
          | (k, none) => k.setStage ticket { b with stage := .removing copy }
          | (k, some _) => k.failBind ticket copy
        else (k.release ticket).1.failBind ticket copy
      else (k.release ticket).1.finishBind ticket := by
  unfold bindFetched
  generalize k.release ticket = outcome at caught
  obtain ⟨k₁, fault?⟩ := outcome
  cases caught
  rfl

theorem Pending.removes {fault : Fault}
    (pending : Pending k₀ bid purpose stage (some (.error fault)) k)
    (absent : (k₀.room bid.secret).registered = false) :
    (k.release bid.ticket).1.remove bid.ticket bid.secret =
      ({ (k.release bid.ticket).1 with rooms := (k.without bid.secret).rooms }, some true) := by
  obtain ⟨c, found, _⟩ := pending.capture
  have frame := release_found found
  have present : ((k.release bid.ticket).1.room bid.secret).registered = true := by
    rw [frame]
    exact (pending.registered bid.secret).trans (by simp)
  have vacant : (k.release bid.ticket).1.current bid.secret = none := by
    rw [frame]
    exact pending.vacant absent nofun
  rw [remove_eq _ bid.secret bid.ticket present, vacant, frame]
  rfl

theorem Lull.without (lull : Lull k₀ secret asked k) : Lull k₀ secret asked (k.without secret) := by
  have flights : ((k.room secret).vacated).flights = (k.room secret).flights :=
    Room.vacated_flights _
  refine ⟨?_, fun other => ?_, lull.told⟩
  · rw [Keeper.without, room_setRoom_self]
    exact flights.trans lull.idle
  · refine (read_setRoom Room.commissions ?_ other).trans (lull.unasked other)
    exact congrArg (List.filter fun flight : Flight => flight.purpose.ticket?.isSome) flights

theorem Pending.refused (regular : k₀.Regular) {fault : Fault}
    (pending : Pending k₀ bid purpose stage (some (.error fault)) k)
    (lull : Lull k₀ bid.secret asked k) {copy : Fault}
    (caught : (k.release bid.ticket).2 = some copy) (failFast : bid.failFast = true) :
    Restores k₀ (k.bindFetched bid.ticket (k₀.binding bid stage)) ∧
      Closed k₀ bid asked (.error copy) (k.bindFetched bid.ticket (k₀.binding bid stage)) := by
  have seats : Seats k₀ bid (k₀.newSource bid) (some fault) k := pending.toSeats
  have last : k.binds.erase bid.ticket = [] := by simp [pending.binds, Table.erase]
  have fails : (k₀.binding bid stage).failFast = true := failFast
  rw [bindFetched_caught caught, if_pos fails]
  cases present : (k₀.room bid.secret).registered with
  | true =>
    have foreign : (k₀.binding bid stage).added = false := by simp [binding, present]
    have rooms : { (k.release bid.ticket).1 with rooms := k.rooms } = (k.release bid.ticket).1 := by
      obtain ⟨c, found, _⟩ := seats.capture
      rw [release_found found]
    rw [if_neg (by simp [foreign]), ← rooms]
    refine seats.refuses regular.leases regular.faults last k.rooms lull (fun other => ?_) copy
    exact (seats.registered other).trans (registered_or_same present other).symm
  | false =>
    have own : (k₀.binding bid stage).added = true := by simp [binding, present]
    have removes : (k.release bid.ticket).1.remove bid.ticket (k₀.binding bid stage).secret = _ :=
      pending.removes present
    rw [if_pos own, removes]
    refine seats.refuses regular.leases regular.faults last _ lull.without (fun other => ?_) copy
    by_cases same : other = bid.secret
    · subst same
      exact (congrArg Room.registered (room_setRoom_self k bid.secret _)).trans present.symm
    · exact (congrArg Room.registered (room_setRoom_of_ne k bid.secret same _)).trans
        ((seats.registered other).trans (by simp [same]))

theorem Pending.concludes (regular : k₀.Regular) {result : Except Fault Response}
    (pending : Pending k₀ bid purpose stage (some result) k)
    (lull : Lull k₀ bid.secret asked k) :
    ∃ outcome, Closed k₀ bid asked outcome (k.bindFetched bid.ticket (k₀.binding bid stage)) ∧
      Fulfils k₀ bid outcome (k.bindFetched bid.ticket (k₀.binding bid stage)) [result] := by
  have last : k.binds.erase bid.ticket = [] := by simp [pending.binds, Table.erase]
  cases result with
  | ok response => exact pending.toSeats.fills regular lull last (pending.data response rfl) _
  | error fault =>
    obtain ⟨c, found, _, _, first⟩ := pending.capture
    have closes := pending.toSeats.closes regular.faults lull last
    have gives := pending.toSeats.gives regular.faults
    obtain ⟨caught, held, rfl⟩ := Option.map_eq_some_iff.mp first
    obtain ⟨copy, returned, either⟩ := release_caught found held
    cases failFast : bid.failFast with
    | false =>
      have lenient : (k₀.binding bid stage).failFast = false := failFast
      rw [bindFetched_caught returned, if_neg (by simp [lenient])]
      exact ⟨_, closes, by simpa [Fulfils, Copes, failFast] using ⟨_, gives, rfl, rfl, rfl⟩⟩
    | true =>
      obtain ⟨restores, closed⟩ := pending.refused regular lull returned failFast
      refine ⟨_, closed, ?_⟩
      simpa [Fulfils, Copes, failFast] using ⟨Fault.echoes either, restores⟩

theorem Seats.seeded (regular : k₀.Regular) (rest : k₀.AtRest bid.secret) {data : TextMap String}
    (holds : k₀.Holds bid.secret data) :
    let seat := k₀.seated bid.ticket bid.secret bid.start
    let k := (seat.tellSource bid.ticket (·.seed data)).bindFetched bid.ticket
      (k₀.binding bid .adding)
    ∃ outcome, Closed k₀ bid [] outcome k ∧ GivesFilled k₀ bid data outcome k := by
  have seats := seats_seated k₀ bid k₀.rooms k₀.started (registered_or_same holds.registered)
  have source := (Table.find?_adjust_self bid.ticket (fun s : Source => s.seed data) _).trans
    (congrArg (Option.map (·.seed data)) seats.source)
  have filled : Seats k₀ bid ((k₀.newSource bid).adopt data) none
      ((k₀.seated bid.ticket bid.secret bid.start).tellSource bid.ticket (·.seed data)) :=
    ⟨seats.registered, seats.leaseListeners, seats.faultListeners, seats.returns, source,
      seats.capture⟩
  have lull := rest.lull
  refine filled.fills regular ⟨lull.idle, lull.unasked, lull.told⟩ ?_ holds.data _
  exact (congrArg (Table.erase bid.ticket) rest.unbound :)

/-! ### From the request to the return -/

def fetchReply? (secret : Secret) (ticket : Nat) (k : Keeper) :
    KeeperEvent → Option (Except Fault Response)
  | .answer own purpose (.fetched result) =>
    if own = secret ∧ purpose.ticket? = some ticket ∧
      ((k.room secret).flight? purpose).any (·.errand.isFetch) then some result else none
  | _ => none

def fetchReplies (secret : Secret) (ticket : Nat) (k : Keeper) :
    List KeeperEvent → List (Except Fault Response)
  | [] => []
  | event :: rest =>
    (k.fetchReply? secret ticket event).toList ++ (k.step event).fetchReplies secret ticket rest

theorem fetchReply?_of_ne (differ : own ≠ secret) (ticket : Nat) (reply : Reply) :
    k.fetchReply? secret ticket (.answer own purpose reply) = none := by
  unfold fetchReply?
  split
  · rename_i _ _ _ same
    cases same
    exact if_neg fun asked => differ asked.1
  · rfl

theorem fetchReply?_of_absent (absent : (k.room own).flight? purpose = none) (ticket : Nat)
    (reply : Reply) : k.fetchReply? own ticket (.answer own purpose reply) = none := by
  unfold fetchReply?
  split
  · rename_i _ _ _ same
    cases same
    simp [absent]
  · rfl

theorem fetchReply?_of_fetch (flown : (k.room own).flight? purpose = some ⟨purpose, .fetch⟩)
    (waits : purpose.ticket? = some ticket) (result : Except Fault Response) :
    k.fetchReply? own ticket (.answer own purpose (.fetched result)) = some result := by
  simp [fetchReply?, flown, waits, Errand.isFetch]

/-- The event answers no call of the secret, and none that an operation waits for, and it is not the
secret's turn in a start. -/
structure Bypasses (secret : Secret) (k : Keeper) (event : KeeperEvent) : Prop where
  answers : ∀ own purpose reply flight, event = .answer own purpose reply →
    (k.room own).flight? purpose = some flight → own ≠ secret ∧ purpose.ticket? = none
  turns : ∀ turn, event = .ask secret turn → (k.room secret).unasked.contains turn = false

theorem Bypasses.overlooks (bypasses : k.Bypasses secret event)
    (calm : event.intrudes secret = false) (ticket : Nat) :
    Overlooks secret k (k.step event) ∧ k.fetchReply? secret ticket event = none := by
  cases event with
  | request | closeSource | dropSource => cases calm
  | ask own turn =>
    by_cases same : own = secret
    · subst same
      rw [step, ask_idle (bypasses.turns turn rfl)]
      exact ⟨.refl own k, rfl⟩
    · exact ⟨(Dealings.ask k own turn).overlooks (Ne.symm same), rfl⟩
  | answer own purpose reply =>
    cases flown : (k.room own).flight? purpose with
    | none =>
      rw [step, answer_absent flown]
      refine ⟨.refl secret k, ?_⟩
      by_cases same : own = secret
      · subst same
        exact fetchReply?_of_absent flown ticket reply
      · exact fetchReply?_of_ne same ticket reply
    | some flight =>
      obtain ⟨differ, alone⟩ := bypasses.answers own purpose reply flight rfl flown
      cases purpose with
      | timer number generation =>
        exact ⟨(Dealings.answer k own number generation reply).overlooks (Ne.symm differ),
          fetchReply?_of_ne differ ticket reply⟩
      | _ => cases alone
  | fire own number generation =>
    have differ : own ≠ secret := by simpa [KeeperEvent.intrudes] using calm
    exact ⟨(Dealings.fire k own number generation).overlooks (Ne.symm differ), rfl⟩
  | stop own number generation =>
    by_cases same : own = secret
    · subst same
      exact ⟨.stop k own number generation, rfl⟩
    · exact ⟨(Dealings.stop k own number generation).overlooks (Ne.symm same), rfl⟩
  | pass span => exact ⟨.aside secret k (k.now + span) k.owned k.metrics, rfl⟩
  | disown => exact ⟨.aside secret k k.now false k.metrics, rfl⟩

theorem commissioned {flight : Flight} (flown : (k.room own).flight? purpose = some flight)
    (waits : purpose.ticket?.isSome = true) : flight ∈ (k.room own).commissions := by
  refine List.mem_filter.mpr ⟨Room.mem_of_flight? flown, ?_⟩
  rw [Room.flight?_purpose flown]
  exact waits

theorem Upholds.hasTicket (upholds : Upholds k k') (keyed : k.Keyed)
    (busy : k.hasTicket ticket = true) : k'.hasTicket ticket = true := by
  obtain ⟨own, flight, waiting, mine⟩ := keyed.commission busy
  rw [← upholds.commissions] at waiting
  exact hasTicket_of_flying (List.mem_filter.mp waiting).1 mine

theorem Closed.overlooks {outcome : Except Fault Nat} (closed : Closed k₀ bid asked outcome k)
    (overlooks : Overlooks bid.secret k k') : Closed k₀ bid asked outcome k' :=
  ⟨closed.toLull.overlooks overlooks, overlooks.binds.trans closed.unbound,
    overlooks.returns.trans closed.returned⟩

theorem Gives.overlooks {outcome : Except Fault Nat} (gives : Gives k₀ bid s outcome k)
    (own : s.secret = bid.secret) (overlooks : Overlooks bid.secret k k') :
    Gives k₀ bid s outcome k' :=
  ⟨overlooks.source _ s gives.source own, gives.size,
    fun other => (overlooks.registered other).trans (gives.registered other),
    (congrArg Listeners.Registry.entries overlooks.leaseListeners).trans gives.leaseListeners,
    (congrArg Listeners.Registry.entries overlooks.faultListeners).trans gives.faultListeners⟩

theorem Restores.overlooks (restores : Restores k₀ k) (overlooks : Overlooks secret k k') :
    Restores k₀ k' :=
  ⟨fun other => (overlooks.registered other).trans (restores.registered other),
    (congrArg Listeners.Registry.entries overlooks.leaseListeners).trans restores.leaseListeners,
    (congrArg Listeners.Registry.entries overlooks.faultListeners).trans restores.faultListeners⟩

theorem GivesFilled.overlooks {outcome : Except Fault Nat} {data : TextMap String}
    (filled : GivesFilled k₀ bid data outcome k) (overlooks : Overlooks bid.secret k k') :
    GivesFilled k₀ bid data outcome k' := by
  obtain ⟨s, gives, own, state, keys, values, known⟩ := filled
  exact ⟨s, gives.overlooks own overlooks, own, state, keys, values,
    overlooks.stays.data.trans known⟩

theorem GivesEmpty.overlooks {outcome : Except Fault Nat} (empty : GivesEmpty k₀ bid outcome k)
    (overlooks : Overlooks bid.secret k k') : GivesEmpty k₀ bid outcome k' := by
  obtain ⟨s, gives, own, rest⟩ := empty
  exact ⟨s, gives.overlooks own overlooks, own, rest⟩

theorem Copes.overlooks {fault : Fault} {outcome : Except Fault Nat}
    (copes : Copes k₀ bid fault outcome k) (overlooks : Overlooks bid.secret k k') :
    Copes k₀ bid fault outcome k' := by
  by_cases failFast : bid.failFast = true
  · rw [Copes, if_pos failFast] at copes ⊢
    obtain ⟨copy, failed, echoes, restores⟩ := copes
    exact ⟨copy, failed, echoes, restores.overlooks overlooks⟩
  · rw [Copes, if_neg failFast] at copes ⊢
    exact copes.overlooks overlooks

theorem Fulfils.overlooks {outcome : Except Fault Nat} {answers : List (Except Fault Response)}
    (fulfils : Fulfils k₀ bid outcome k answers) (overlooks : Overlooks bid.secret k k') :
    Fulfils k₀ bid outcome k' answers := by
  match answers, fulfils with
  | [], ⟨data, holds, filled⟩ => exact ⟨data, holds, filled.overlooks overlooks⟩
  | [.ok response], filled => exact GivesFilled.overlooks filled overlooks
  | [.error fault], copes => exact Copes.overlooks copes overlooks

inductive Phase (k₀ : Keeper) (bid : Bid) (k : Keeper) : List (Except Fault Response) → Prop where
  | pending {purpose : Purpose} {stage : BindStage} {answer? : Option (Except Fault Response)}
      (pending : Pending k₀ bid purpose stage answer? k) (busy : k.hasTicket bid.ticket = true) :
      Phase k₀ bid k answer?.toList
  | closed {answers : List (Except Fault Response)} {outcome : Except Fault Nat}
      (closed : Closed k₀ bid (answers.map fun _ => .fetch) outcome k)
      (held : answers = [] ↔ ∃ data, k₀.Holds bid.secret data)
      (fulfils : Fulfils k₀ bid outcome k answers) : Phase k₀ bid k answers

theorem Pending.ends (regular : k₀.Regular) (pending : Pending k₀ bid purpose stage answer? k)
    (own : Secret) (ending : Except Fault Lease)
    (starts : answer? = none → purpose = .start bid.ticket) :
    Phase k₀ bid (k.endFetch own purpose ending) answer?.toList := by
  rcases pending.endFetch own ending with ⟨busy, same⟩ | ⟨free, metrics, ended⟩
  · rw [same]
    exact .pending pending busy
  · cases answer? with
    | none =>
      have flying : (⟨purpose, .fetch⟩ : Flight) ∈ (k.room bid.secret).flights := by
        rw [pending.flights]
        exact List.mem_cons_self
      have busy := hasTicket_of_flying flying pending.asks.ticket?
      rw [free (starts rfl)] at busy
      cases busy
    | some result =>
      have metered : Overlooks bid.secret k { k with metrics } :=
        .aside bid.secret k k.now k.owned metrics
      obtain ⟨outcome, closed, fulfils⟩ :=
        (pending.overlooks metered).concludes regular ((pending.lull free).overlooks metered)
      rw [ended]
      exact .closed closed ⟨nofun, fun held => absurd held pending.asks.wanting⟩ fulfils

theorem Pending.fetched (regular : k₀.Regular) (lined : k.Lined)
    (pending : Pending k₀ bid purpose stage answer? k)
    (flown : (k.room own).flight? purpose = some ⟨purpose, .fetch⟩) {result : Except Fault Response}
    (bears : k.Bears (.answer own purpose (.fetched result))) :
    Phase k₀ bid (k.step (.answer own purpose (.fetched result)))
      (answer?.toList ++ (k.fetchReply? bid.secret bid.ticket
        (.answer own purpose (.fetched result))).toList) := by
  have ticket := pending.asks.ticket?
  have waiting := commissioned flown (Option.isSome_of_eq_some ticket)
  obtain ⟨_, alone, present⟩ := pending.commissions own _ waiting
  have confined := Confined.landed k own purpose
  have running : (k.landed own purpose).started = true := pending.started
  have known := confined.lined.trans (lined.line? present)
  have fits (response : Response) (granted : result = .ok response) :
      ¬ (k.landed own purpose).Outlasts own response.lease := by
    subst granted
    exact fun outlasts => bears.fits flown (confined.outlasts_iff.mp outlasts)
  rw [step_fetched flown]
  by_cases mine : own = bid.secret
  · subst mine
    -- an answered fetch is not under way
    have unanswered : answer? = none := by
      have flying := Room.mem_of_flight? flown
      rw [pending.flights] at flying
      cases answer? with
      | none => rfl
      | some => cases flying
    subst unanswered
    have prompt := Room.awaitsTurn_of_flight? flown
    rw [fetchReply?_of_fetch flown ticket]
    cases result with
    | error fault =>
      obtain ⟨copy, ended⟩ := fetched_failed (k.landed bid.secret purpose) bid.secret purpose fault
      rw [ended]
      exact (pending.failed prompt fault).ends regular bid.secret _ nofun
    | ok response =>
      obtain ⟨k₁, scheduled, ended⟩ := fetched_kept running known (fits response rfl) purpose
      rw [ended]
      exact (pending.granted prompt scheduled).ends regular bid.secret _ nofun
  · have differ : bid.secret ≠ own := Ne.symm mine
    obtain ⟨k₁, ending, dealt, ended⟩ := fetched_ends running known fits purpose
    have passed : Pending k₀ bid purpose stage answer? k₁ :=
      (pending.landed differ).overlooks (dealt.overlooks differ)
    rw [ended, fetchReply?_of_ne mine, Option.toList_none, List.append_nil]
    exact passed.ends regular own ending fun _ => alone.resolve_left mine

section
variable (regular : k₀.Regular) (regular' : k.Regular) (calm : event.intrudes bid.secret = false)
  (bears : k.Bears event)
include regular regular' calm bears

theorem Pending.step (pending : Pending k₀ bid purpose stage answer? k)
    (busy : k.hasTicket bid.ticket = true) : Phase k₀ bid (k.step event)
      (answer?.toList ++ (k.fetchReply? bid.secret bid.ticket event).toList) := by
  by_cases awaits : ∃ own purpose reply flight, event = .answer own purpose reply ∧
      (k.room own).flight? purpose = some flight ∧ purpose.ticket?.isSome = true
  · obtain ⟨own, other, reply, flight, rfl, flown, waits⟩ := awaits
    obtain ⟨rfl, -, -⟩ := pending.commissions own flight (commissioned flown waits)
    obtain rfl := Room.flight?_purpose flown
    -- the answer to another errand is not heeded
    have ignored (same : k.step (.answer own purpose reply) = k) :
        Phase k₀ bid (k.step (.answer own purpose reply)) (answer?.toList ++ []) := by
      rw [same, List.append_nil]
      exact .pending pending busy
    cases reply with
    | fetched result => exact pending.fetched regular regular'.lined flown bears
    | renewed result => exact ignored (by simp [Keeper.step, answer, flown])
    | revoked result => exact ignored (by simp [Keeper.step, answer, flown])
  by_cases turn : ∃ turn, event = .ask bid.secret turn ∧
      (k.room bid.secret).unasked.contains turn = true
  · obtain ⟨turn, rfl, waiting⟩ := turn
    obtain ⟨flight, flying, own⟩ := regular'.queued _ turn (List.contains_iff_mem.mp waiting)
    -- only the bind's own fetch is in line
    rw [pending.flights] at flying
    cases answer? with
    | some => cases flying
    | none =>
      obtain rfl := List.mem_singleton.mp flying
      have own : purpose = .start turn := own
      subst own
      obtain rfl : turn = bid.ticket := Option.some.inj pending.asks.ticket?
      have asks : k.step (.ask bid.secret bid.ticket) = k.asked bid.secret bid.ticket :=
        if_pos waiting
      rw [asks]
      have upholds := (Dealings.asked k bid.secret bid.ticket).upholds
      exact .pending (pending.asked waiting) (upholds.hasTicket regular'.keyed busy)
  · have bypasses : k.Bypasses bid.secret event := by
      refine ⟨?_, fun own same => Bool.eq_false_iff.mpr fun waits => turn ⟨own, same, waits⟩⟩
      rintro own other reply flight rfl flown
      have alone : other.ticket? = none := by
        cases waits : other.ticket? with
        | none => rfl
        | some => exact absurd ⟨own, other, reply, flight, rfl, flown, by rw [waits]; rfl⟩ awaits
      refine ⟨fun mine => ?_, alone⟩
      have flying := Room.mem_of_flight? flown
      rw [mine, pending.flights] at flying
      cases answer? with
      | none =>
        obtain rfl := List.mem_singleton.mp flying
        obtain rfl := Room.flight?_purpose flown
        cases pending.asks.ticket?.symm.trans alone
      | some => cases flying
    obtain ⟨overlooks, silent⟩ := bypasses.overlooks calm bid.ticket
    rw [silent, Option.toList_none, List.append_nil]
    exact .pending (pending.overlooks overlooks) (overlooks.hasTicket regular'.keyed busy)

theorem Phase.step {answers : List (Except Fault Response)} (phase : Phase k₀ bid k answers) :
    Phase k₀ bid (k.step event)
      (answers ++ (k.fetchReply? bid.secret bid.ticket event).toList) := by
  cases phase with
  | pending pending busy => exact pending.step regular regular' calm bears busy
  | closed closed held fulfils =>
    have bypasses : k.Bypasses bid.secret event := by
      refine ⟨?_, fun _ _ => regular'.queued.not_waiting (by simp [closed.idle])⟩
      rintro own purpose reply flight rfl flown
      have flying := Room.mem_of_flight? flown
      refine ⟨?_, Option.not_isSome_iff_eq_none.mp fun waits => ?_⟩
      · rintro rfl
        rw [closed.idle] at flying
        cases flying
      · have waiting := commissioned flown waits
        rw [closed.unasked own] at waiting
        cases waiting
    obtain ⟨overlooks, silent⟩ := bypasses.overlooks calm bid.ticket
    rw [silent, Option.toList_none, List.append_nil]
    exact .closed (closed.overlooks overlooks) held (fulfils.overlooks overlooks)

end

theorem Phase.run {answers : List (Except Fault Response)} (regular : k₀.Regular)
    (regular' : k.Regular) {events : List KeeperEvent}
    (calm : ∀ event ∈ events, event.intrudes bid.secret = false) (bears : k.Along Bears events)
    (phase : Phase k₀ bid k answers) :
    Phase k₀ bid (k.run events) (answers ++ k.fetchReplies bid.secret bid.ticket events) := by
  induction events generalizing k answers with
  | nil =>
    rw [fetchReplies, List.append_nil]
    exact phase
  | cons event rest ih =>
    have ⟨first, others⟩ := List.forall_mem_cons.mp calm
    have next := phase.step regular regular' first bears.1
    rw [fetchReplies, ← List.append_assoc]
    exact ih (regular'.step event) others bears.2 next

theorem bind_phase (regular : k₀.Regular) (rest : k₀.AtRest bid.secret) :
    Phase k₀ bid (k₀.step bid.request) [] := by
  have awaits {purpose : Purpose} {stage : BindStage}
      (pending : Pending k₀ bid purpose stage none (k₀.step bid.request)) :
      Phase k₀ bid (k₀.step bid.request) [] := by
    have flying : (⟨purpose, .fetch⟩ : Flight) ∈
        ((k₀.step bid.request).room bid.secret).flights := by
      rw [pending.flights]
      exact List.mem_cons_self
    exact .pending pending (hasTicket_of_flying flying pending.asks.ticket?)
  cases registered : (k₀.room bid.secret).registered with
  | false =>
    obtain ⟨purpose, stage, pending⟩ := bind_new regular.keyed rest registered
    exact awaits pending
  | true =>
    rcases bind_known regular.keyed rest registered with
      ⟨data, holds, step⟩ | ⟨purpose, stage, pending⟩
    · obtain ⟨outcome, closed, filled⟩ := Seats.seeded regular rest holds
      rw [step]
      exact .closed closed ⟨fun _ => ⟨data, holds⟩, fun _ => rfl⟩ ⟨data, holds, filled⟩
    · exact awaits pending

theorem Fulfils.fails_iff {outcome : Except Fault Nat} {answers : List (Except Fault Response)}
    (fulfils : Fulfils k₀ bid outcome k answers) :
    (∃ copy, outcome = .error copy) ↔
      bid.failFast = true ∧ ∃ fault, answers = [.error fault] := by
  have returns {s : Source} (gives : Gives k₀ bid s outcome k) :
      ¬ ∃ copy, outcome = .error copy := by
    rintro ⟨copy, failed⟩
    cases gives.size.symm.trans failed
  match answers, fulfils with
  | [], ⟨_, _, _, gives, _⟩ => simp [returns gives]
  | [.ok _], ⟨_, gives, _⟩ => simp [returns gives]
  | [.error fault], copes =>
    by_cases failFast : bid.failFast = true
    · rw [Fulfils, Copes, if_pos failFast] at copes
      obtain ⟨copy, failed, _⟩ := copes
      exact ⟨fun _ => ⟨failFast, fault, rfl⟩, fun _ => ⟨copy, failed⟩⟩
    · rw [Fulfils, Copes, if_neg failFast] at copes
      obtain ⟨_, gives, _⟩ := copes
      simp [returns gives, failFast]

theorem Fulfils.few {outcome : Except Fault Nat} {answers : List (Except Fault Response)}
    (fulfils : Fulfils k₀ bid outcome k answers) :
    (answers.map fun _ => Errand.fetch) = [] ∨ (answers.map fun _ => Errand.fetch) = [.fetch] := by
  match answers, fulfils with
  | [], _ => exact Or.inl rfl
  | [.ok _], _ => exact Or.inr rfl
  | [.error _], _ => exact Or.inr rfl

/-- In every run in which no lease outlasts the clock and nobody else meddles, a bind fetches its
secret once at most. It returns when all fetches that it waits for are answered: with a copy of the
fault if it fails fast and the fetch of its secret failed, when nothing is left of it; otherwise
with a source, which has the data that the keeper held or that the fetch has brought, and has
nothing if the fetch failed. -/
theorem bind_contract {policy : LeasePolicy} {k : Keeper} (arises : Arises policy k) (bid : Bid)
    (rest : k.AtRest bid.secret) (after : List KeeperEvent)
    (calm : ∀ event ∈ after, event.intrudes bid.secret = false)
    (bears : (k.step bid.request).Along Bears after) :
    let begun := k.step bid.request
    let k' := begun.run after
    let answers := begun.fetchReplies bid.secret bid.ticket after
    (∃ news, k'.tidings bid.secret = news ++ k.tidings bid.secret ∧
      (inquiries news = [] ∨ inquiries news = [.fetch])) ∧
    (k'.hasTicket bid.ticket = true → k'.returns = k.returns) ∧
    (k'.hasTicket bid.ticket = false → ∃ outcome,
      k'.returns = (bid.ticket, .bound outcome) :: k.returns ∧ k'.binds = [] ∧
      ((∃ fault, outcome = .error fault) ↔
        bid.failFast = true ∧ ∃ fault, answers = [.error fault]) ∧
      (answers = [] ↔ ∃ data, k.Holds bid.secret data) ∧
      Fulfils k bid outcome k' answers) := by
  intro begun k' answers
  have regular := arises.regular
  have regular' : k'.Regular :=
    run_keep (P := Regular) (fun _ event regular => regular.step event)
      (regular.step bid.request) after
  have phase : Phase k bid k' ([] ++ answers) :=
    (bind_phase regular rest).run regular (regular.step bid.request) calm bears
  rw [List.nil_append] at phase
  generalize answers = answers at phase ⊢
  cases phase with
  | pending pending busy =>
    obtain ⟨news, told, asked⟩ := pending.told
    refine ⟨⟨news, told, asked ▸ ite_eq_or_eq _ _ _⟩, fun _ => pending.returns, fun free => ?_⟩
    rw [busy] at free
    cases free
  | closed closed held fulfils =>
    obtain ⟨news, told, asked⟩ := closed.told
    refine ⟨⟨news, told, asked ▸ fulfils.few⟩, fun busy => ?_, fun _ => ?_⟩
    · obtain ⟨own, flight, waiting, _⟩ := regular'.keyed.commission busy
      rw [closed.unasked own] at waiting
      cases waiting
    · exact ⟨_, closed.returned, closed.unbound, fulfils.fails_iff, held, fulfils⟩

/-- Two binds of the same keeper, each of which starts it. The one fails fast, and its fetch alone
fails; somebody who listens keeps the fault, so a copy of it is returned. The fetch of the other one
brings a user name and a password. -/
theorem bind_contract_failed_or_filled :
    let policy : LeasePolicy := ⟨Span.seconds 10, Span.seconds 60, .dropOnError⟩
    let known : Secret := ⟨"pki/cert", .rotate⟩
    let bid : Bid := ⟨2, ⟨"database/creds/app", .renew⟩, true, "app."⟩
    let fault : Fault := .serializationError ⟨.endInValue, 1, 3⟩
    let data : Json.Value := .record [("password", .text "s3"), ("username", .text "v-app")]
    let watched :=
      { new policy with faultListeners := (new policy).faultListeners.add (.observer true) }
    let k := watched.step (.request 1 (.add known))
    let after (result : Except Fault Response) : List KeeperEvent := [
      .ask known 2, .ask bid.secret 2, .answer bid.secret (.start 2) (.fetched result),
      .answer known (.start 2) (.fetched (.ok ⟨"", "a", 120, true, none, none, none⟩))]
    let failed := after (.error fault)
    let granted := after (.ok ⟨"", "b", 300, true, some data, none, none⟩)
    Arises policy k ∧ k.AtRest bid.secret ∧
      (∀ event ∈ failed ++ granted, event.intrudes bid.secret = false) ∧
      (k.step bid.request).Along Bears failed ∧ (k.step bid.request).Along Bears granted ∧
      (let k' := (k.step bid.request).run failed
        ∃ copy : Fault, k'.returns = (2, .bound (.error copy)) :: k.returns ∧ copy.Echoes fault ∧
          Restores k k') ∧
      let k' := (k.step bid.request).run granted
      ∃ s, k'.sources.find? 2 = some s ∧ s.state = .active ∧
        s.properties.keys = ["app.password", "app.username"] ∧
        TextMap.find? "app.password" s.properties = some "s3" := by
  intro policy known bid fault data watched k after failed granted
  have arises : Arises policy k := .stepped watched _ (.watched (new policy) true .new)
  have fresh : watched.Unstarted := ⟨rfl, rfl, fun _ => rfl⟩
  have unstarted : k.Unstarted := fresh.add 1 known
  have rest : k.AtRest bid.secret :=
    ⟨unstarted.idle bid.secret, fun other => by rw [Room.commissions, unstarted.idle]; rfl, rfl⟩
  have calm : ∀ event ∈ failed ++ granted, event.intrudes bid.secret = false := by decide
  have bears : (k.step bid.request).Along Bears failed := by
    refine ⟨?_, ?_, ?_, ?_, trivial⟩ <;> decide
  have bears' : (k.step bid.request).Along Bears granted := by
    refine ⟨?_, ?_, ?_, ?_, trivial⟩ <;> decide
  have contract := bind_contract arises bid rest
  refine ⟨arises, rest, calm, bears, bears', ?_, ?_⟩
  · have answered : (k.step bid.request).fetchReplies bid.secret bid.ticket failed =
        [.error fault] := by decide
    have free : ((k.step bid.request).run failed).hasTicket bid.ticket = false := by decide
    have calm' : ∀ event ∈ failed, event.intrudes bid.secret = false := fun event member =>
      calm event (List.mem_append_left _ member)
    have ended := (contract failed calm' bears).2.2 free
    rw [answered] at ended
    obtain ⟨outcome, returned, _, _, _, copy, rfl, echoes, restores⟩ := ended
    exact ⟨copy, returned, echoes, restores⟩
  · have answered : (k.step bid.request).fetchReplies bid.secret bid.ticket granted =
        [.ok ⟨"", "b", 300, true, some data, none, none⟩] := by decide
    have free : ((k.step bid.request).run granted).hasTicket bid.ticket = false := by decide
    have calm' : ∀ event ∈ granted, event.intrudes bid.secret = false := fun event member =>
      calm event (List.mem_append_right _ member)
    have ended := (contract granted calm' bears').2.2 free
    rw [answered] at ended
    obtain ⟨outcome, _, _, _, _, s, gives, _, state, keys, values, _⟩ := ended
    exact ⟨s, gives.source, state, keys.trans (by decide), (values "password").trans (by decide)⟩

end Keeper
end LeaseKeeper

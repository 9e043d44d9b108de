import LeaseKeeper.Proofs.Keeper.Audience
import LeaseKeeper.Proofs.Keeper.Chronicle
import LeaseKeeper.Proofs.Keeper.Dealings

/-!
A bind for which a secret is fetched, from its request to the last answer it waits for. The bind has
its places, a source with two listeners and a capture; one fetch of the secret is made for it, alone
or among those of a start; and what that fetch is answered decides what the source and the capture
have in the end.
-/
namespace LeaseKeeper

structure Bid where
  ticket : Nat
  secret : Secret
  failFast : Bool
  start : String

def Bid.request (bid : Bid) : KeeperEvent :=
  .request bid.ticket (.bind bid.secret bid.failFast bid.start)

/-- A source once the fetch for its bind was answered, if it was. -/
def Source.served (s : Source) : Option (Except Fault Response) → Source
  | some (.ok response) => s.adopt response.flattened
  | _ => s

theorem Source.served_secret (s : Source) (answer? : Option (Except Fault Response)) :
    (s.served answer?).secret = s.secret := by
  unfold served
  split <;> rfl

def failure? : Option (Except Fault Response) → Option Fault
  | some (.error fault) => some fault
  | _ => none

def awaited (purpose : Purpose) : Option (Except Fault Response) → List Flight
  | none => [⟨purpose, .fetch⟩]
  | some _ => []

namespace Keeper

variable {k k' k₀ : Keeper} {bid : Bid} {secret : Secret} {ticket : Nat} {purpose : Purpose}
  {stage : BindStage} {answer? : Option (Except Fault Response)} {s : Source}
  {fault? : Option Fault} {asked : List Errand}

structure Lull (k₀ : Keeper) (secret : Secret) (asked : List Errand) (k : Keeper) : Prop where
  idle : (k.room secret).flights = []
  unasked : ∀ other, (k.room other).commissions = []
  told : ∃ news, k.tidings secret = news ++ k₀.tidings secret ∧ inquiries news = asked

def newSource (k₀ : Keeper) (bid : Bid) : Source :=
  ⟨bid.secret, bid.start, k₀.policy.strategy, [], .uninitialized,
    k₀.leaseListeners.issued, k₀.faultListeners.issued⟩

def binding (k₀ : Keeper) (bid : Bid) (stage : BindStage) : Binding :=
  ⟨bid.secret, bid.failFast, !(k₀.room bid.secret).registered, stage⟩

structure Seats (k₀ : Keeper) (bid : Bid) (s : Source) (fault? : Option Fault) (k : Keeper) :
    Prop where
  registered : ∀ other, (k.room other).registered =
    ((k₀.room other).registered || other == bid.secret)
  leaseListeners : k.leaseListeners = k₀.leaseListeners.add (.source bid.ticket)
  faultListeners : k.faultListeners =
    (k₀.faultListeners.add (.source bid.ticket)).add (.capture bid.ticket)
  returns : k.returns = k₀.returns
  source : k.sources.find? bid.ticket = some s
  capture : ∃ c, k.captures.find? bid.ticket = some c ∧ c.secret = bid.secret ∧
    c.listener = k₀.faultListeners.issued + 1 ∧ c.first.map Caught.fault = fault?

structure Holds (k : Keeper) (secret : Secret) (data : TextMap String) : Prop where
  started : k.started = true
  registered : (k.room secret).registered = true
  data : k.data secret = some data

/-- Why a bind has its secret fetched: the purpose of the fetch, and the stage that it waits at. -/
inductive Asks (k₀ : Keeper) (bid : Bid) : Purpose → BindStage → Prop where
  | register (absent : (k₀.room bid.secret).registered = false) :
      Asks k₀ bid (.register bid.ticket) .adding
  | start (stopped : k₀.started = false) : Asks k₀ bid (.start bid.ticket) .fetching
  | rotate (dry : k₀.data bid.secret = none) : Asks k₀ bid (.rotate bid.ticket) .fetching

namespace Asks

theorem ticket? (asks : Asks k₀ bid purpose stage) : purpose.ticket? = some bid.ticket := by
  cases asks <;> rfl

theorem wanting (asks : Asks k₀ bid purpose stage) : ¬ ∃ data, k₀.Holds bid.secret data := by
  rintro ⟨data, holds⟩
  cases asks with
  | register absent => exact Bool.false_ne_true (absent.symm.trans holds.registered)
  | start stopped => exact Bool.false_ne_true (stopped.symm.trans holds.started)
  | rotate dry => cases dry.symm.trans holds.data

end Asks

structure Pending (k₀ : Keeper) (bid : Bid) (purpose : Purpose) (stage : BindStage)
    (answer? : Option (Except Fault Response)) (k : Keeper) : Prop
    extends Seats k₀ bid ((k₀.newSource bid).served answer?) (failure? answer?) k where
  asks : Asks k₀ bid purpose stage
  started : k.started = true
  binds : k.binds = [(bid.ticket, k₀.binding bid stage)]
  flights : (k.room bid.secret).flights = awaited purpose answer?
  commissions : ∀ other, ∀ flight ∈ (k.room other).commissions, flight = ⟨purpose, .fetch⟩ ∧
    (other = bid.secret ∨ purpose = .start bid.ticket) ∧ (k.room other).registered = true
  told : ∃ news, k.tidings bid.secret = news ++ k₀.tidings bid.secret ∧
    inquiries news =
      if answer? = none ∧ (k.room bid.secret).awaitsTurn purpose then [] else [.fetch]
  vacant : (k₀.room bid.secret).registered = false →
    (∀ response, answer? ≠ some (.ok response)) → k.current bid.secret = none
  data : ∀ response, answer? = some (.ok response) → k.data bid.secret = some response.flattened

/-! ### What does not concern the bind -/

theorem Seats.upholds (seats : Seats k₀ bid s fault? k) (upholds : Upholds k k') {s' : Source}
    {fault?' : Option Fault} (source : k'.sources.find? bid.ticket = some s')
    (capture : ∃ c, k'.captures.find? bid.ticket = some c ∧ c.secret = bid.secret ∧
      c.listener = k₀.faultListeners.issued + 1 ∧ c.first.map Caught.fault = fault?') :
    Seats k₀ bid s' fault?' k' :=
  ⟨fun other => (upholds.registered other).trans (seats.registered other),
    upholds.leaseListeners.trans seats.leaseListeners,
    upholds.faultListeners.trans seats.faultListeners, upholds.returns.trans seats.returns,
    source, capture⟩

theorem Seats.overlooks (seats : Seats k₀ bid s fault? k) (own : s.secret = bid.secret)
    (overlooks : Overlooks bid.secret k k') : Seats k₀ bid s fault? k' := by
  obtain ⟨c, found, mine, rest⟩ := seats.capture
  exact seats.upholds overlooks.toUpholds (overlooks.source _ s seats.source own)
    ⟨c, overlooks.capture _ c found mine, mine, rest⟩

theorem Stays.awaitsTurn (stays : Stays secret k k') (purpose : Purpose) :
    (k'.room secret).awaitsTurn purpose = (k.room secret).awaitsTurn purpose := by
  cases purpose with
  | start ticket => exact congrArg (·.contains ticket) stays.unasked
  | _ => rfl

theorem Pending.overlooks (pending : Pending k₀ bid purpose stage answer? k)
    (overlooks : Overlooks bid.secret k k') : Pending k₀ bid purpose stage answer? k' := by
  obtain ⟨news, told, asked⟩ := pending.told
  refine ⟨pending.toSeats.overlooks (Source.served_secret _ _) overlooks, pending.asks,
    overlooks.started.trans pending.started, overlooks.binds.trans pending.binds,
    overlooks.stays.flights.trans pending.flights, fun other flight waiting => ?_,
    ⟨news, overlooks.stays.tidings.trans told, overlooks.stays.awaitsTurn purpose ▸ asked⟩,
    fun absent ungranted => overlooks.stays.current.trans (pending.vacant absent ungranted),
    fun response granted => overlooks.stays.data.trans (pending.data response granted)⟩
  rw [overlooks.commissions] at waiting
  rw [overlooks.registered]
  exact pending.commissions other flight waiting

theorem Lull.overlooks (lull : Lull k₀ secret asked k) (overlooks : Overlooks secret k k') :
    Lull k₀ secret asked k' := by
  obtain ⟨news, told, asked⟩ := lull.told
  exact ⟨overlooks.stays.flights.trans lull.idle,
    fun other => (overlooks.commissions other).trans (lull.unasked other),
    news, overlooks.stays.tidings.trans told, asked⟩

/-! ### The bind begins -/

theorem Seats.setRoom (seats : Seats k₀ bid s fault? k) (own : Secret) {room : Room}
    (registered : room.registered = (k.room own).registered) :
    Seats k₀ bid s fault? (k.setRoom own room) :=
  ⟨fun other => (read_setRoom Room.registered registered other).trans (seats.registered other),
    seats.leaseListeners, seats.faultListeners, seats.returns, seats.source, seats.capture⟩

theorem Seats.call (seats : Seats k₀ bid s fault? k) (own : Secret) (purpose : Purpose) :
    Seats k₀ bid s fault? (k.call own purpose .fetch) := by
  have boarded : Seats k₀ bid s fault? (k.setRoom own ((k.room own).board purpose .fetch)) :=
    seats.setRoom own rfl
  exact ⟨boarded.registered, boarded.leaseListeners, boarded.faultListeners,
    (returns_of_entry rfl rfl).trans boarded.returns, boarded.source, boarded.capture⟩

theorem Seats.promises (seats : Seats k₀ bid s fault? k) (ticket : Nat) (secrets : List Secret) :
    Seats k₀ bid s fault? (secrets.foldl (fun k secret => k.promise secret ticket) k) := by
  induction secrets generalizing k with
  | nil => exact seats
  | cons first rest ih =>
    have promised : Seats k₀ bid s fault? (k.promise first ticket) := seats.setRoom first rfl
    exact ih promised

/-- The fetch that a bind waits for is made or put in line, with those of others if it is that of a
start. -/
structure Engages (bid : Bid) (purpose : Purpose) (k k' : Keeper) : Prop where
  started : k'.started = k.started
  binds : k'.binds = k.binds
  flights : (k'.room bid.secret).flights = (k.room bid.secret).flights ++ [⟨purpose, .fetch⟩]
  current : k'.current bid.secret = k.current bid.secret
  commissions : ∀ other, ∀ flight ∈ (k'.room other).flights, flight ∈ (k.room other).flights ∨
    flight = ⟨purpose, .fetch⟩ ∧ (other = bid.secret ∨ purpose = .start bid.ticket) ∧
      (k'.room other).registered = true
  told : k'.tidings bid.secret =
    (if (k'.room bid.secret).awaitsTurn purpose then [] else [(k.now, .asked .fetch)]) ++
      k.tidings bid.secret

theorem engages_call (present : (k.room bid.secret).registered = true)
    (prompt : (k.room bid.secret).awaitsTurn purpose = false) :
    Engages bid purpose k (k.call bid.secret purpose .fetch) := by
  have room : (k.call bid.secret purpose .fetch).room bid.secret =
      (k.room bid.secret).board purpose .fetch := room_setRoom_self k bid.secret _
  refine ⟨rfl, rfl, congrArg Room.flights room, (congrArg Room.current room :), ?_, ?_⟩
  · intro other flight flying
    rcases mem_call flying with old | ⟨rfl, same⟩
    · exact Or.inl old
    · exact Or.inr ⟨same, Or.inl rfl, (congrArg Room.registered room).trans present⟩
  · have still : ((k.call bid.secret purpose .fetch).room bid.secret).awaitsTurn purpose =
        false := by
      rw [room]
      exact prompt
    rw [still]
    simp [Keeper.tidings, Keeper.call, note, Keeper.setRoom, Entry.tiding?]

theorem engages_promises {secrets : List Secret} (nodup : secrets.Nodup)
    (member : bid.secret ∈ secrets)
    (known : ∀ other ∈ secrets, (k.room other).registered = true) :
    Engages bid (.start bid.ticket) k
      (secrets.foldl (fun k secret => k.promise secret bid.ticket) k) := by
  have kept {α : Type} (read : Keeper → α)
      (each : ∀ k other, read (k.promise other bid.ticket) = read k) :
      read (secrets.foldl (fun k secret => k.promise secret bid.ticket) k) = read k :=
    read_foldl read each secrets k
  have room := promises_once bid.ticket member nodup k
  refine ⟨kept Keeper.started fun _ _ => rfl, kept Keeper.binds fun _ _ => rfl,
    congrArg Room.flights room, (congrArg Room.current room :), ?_, ?_⟩
  · intro other flight flying
    by_cases listed : other ∈ secrets
    · have here := promises_once bid.ticket listed nodup k
      rw [here] at flying
      rcases List.mem_append.mp flying with old | fresh
      · exact Or.inl old
      · exact Or.inr ⟨List.mem_singleton.mp fresh, Or.inr rfl,
          (congrArg Room.registered here).trans (known other listed)⟩
    · rw [promises_elsewhere bid.ticket listed k] at flying
      exact Or.inl flying
  · have waits : ((secrets.foldl (fun k secret => k.promise secret bid.ticket) k).room
        bid.secret).awaitsTurn (.start bid.ticket) = true := by
      rw [room]
      simp [Room.awaitsTurn, Room.promise]
    rw [if_pos waits]
    exact kept (·.tidings bid.secret) fun _ _ => rfl

theorem Seats.pending (seats : Seats k₀ bid (k₀.newSource bid) none k')
    (engages : Engages bid purpose k k') (lull : Lull k₀ bid.secret [] k)
    (started : k.started = true) (unbound : k.binds = [])
    (vacant : (k₀.room bid.secret).registered = false → k.current bid.secret = none)
    (asks : Asks k₀ bid purpose stage) :
    Pending k₀ bid purpose stage none (k'.setStage bid.ticket (k₀.binding bid stage)) := by
  obtain ⟨news, told, asked⟩ := lull.told
  refine ⟨⟨seats.registered, seats.leaseListeners, seats.faultListeners, seats.returns,
      seats.source, seats.capture⟩, asks, engages.started.trans started, ?_, ?_,
    fun other flight waiting => ?_,
    ⟨(if (k'.room bid.secret).awaitsTurn purpose then [] else [(k.now, .asked .fetch)]) ++ news,
      ?_, ?_⟩,
    fun absent _ => engages.current.trans (vacant absent), fun _ granted => by cases granted⟩
  · rw [setStage, engages.binds, unbound]
    rfl
  · have boarded := engages.flights
    rw [lull.idle] at boarded
    exact boarded
  · obtain ⟨flying, commissioned⟩ := List.mem_filter.mp waiting
    refine (engages.commissions other flight flying).resolve_left fun old => ?_
    have before : flight ∈ (k.room other).commissions := List.mem_filter.mpr ⟨old, commissioned⟩
    rw [lull.unasked] at before
    cases before
  · rw [List.append_assoc, ← told]
    exact engages.told
  · have waits : ((k'.setStage bid.ticket (k₀.binding bid stage)).room bid.secret).awaitsTurn
        purpose = (k'.room bid.secret).awaitsTurn purpose := rfl
    rw [waits, inquiries_append, asked]
    cases (k'.room bid.secret).awaitsTurn purpose <;> rfl

theorem registered_or_same (registered : (k₀.room secret).registered = true) (other : Secret) :
    (k₀.room other).registered = ((k₀.room other).registered || other == secret) := by
  by_cases same : other = secret
  · subst same
    rw [registered]
    rfl
  · simp [same]

theorem seats_seated (k₀ : Keeper) (bid : Bid) (rooms : Table Secret Room) (started : Bool)
    (registered : ∀ other, (({ k₀ with rooms }).room other).registered =
      ((k₀.room other).registered || other == bid.secret)) :
    Seats k₀ bid (k₀.newSource bid) none
      { k₀.seated bid.ticket bid.secret bid.start with rooms, started } :=
  ⟨registered, rfl, rfl, rfl, Table.find?_put_self bid.ticket _ _,
    ⟨bid.secret, k₀.faultListeners.issued + 1, none⟩, Table.find?_put_self bid.ticket _ _, rfl, rfl,
    rfl⟩

theorem bindAdded_start (idle : k.started = false) {b : Binding}
    (present : (k.room b.secret).registered = true) (ticket : Nat) :
    k.bindAdded ticket b =
      (k.registered.foldl (fun k : Keeper => (k.promise · ticket))
        { k with started := true }).setStage ticket { b with stage := .fetching } := by
  have listed := List.ne_nil_of_mem (mem_registered present)
  have starts : k.start ticket =
      (k.registered.foldl (fun k secret => k.promise secret ticket) { k with started := true },
        false) := by
    simp [start, idle, listed]
  simp only [bindAdded, idle, starts]
  rfl

theorem bindAdded_rotate (running : k.started = true) {b : Binding} (added : b.added = false)
    (present : (k.room b.secret).registered = true) (dry : k.data b.secret = none) (ticket : Nat) :
    k.bindAdded ticket b =
      (k.call b.secret (.rotate ticket) .fetch).setStage ticket { b with stage := .fetching } := by
  simp [bindAdded, running, added, dry, rotate, present]

theorem bindAdded_seed (running : k.started = true) {b : Binding} (added : b.added = false)
    {data : TextMap String} (known : k.data b.secret = some data) (ticket : Nat) :
    k.bindAdded ticket b = (k.tellSource ticket (·.seed data)).bindFetched ticket b := by
  simp [bindAdded, running, added, known]

structure AtRest (secret : Secret) (k : Keeper) : Prop where
  idle : (k.room secret).flights = []
  unasked : ∀ other, (k.room other).commissions = []
  unbound : k.binds = []

theorem AtRest.lull (rest : k₀.AtRest secret) : Lull k₀ secret [] k₀ :=
  ⟨rest.idle, rest.unasked, [], rfl, rfl⟩

theorem Seats.starts (seats : Seats k₀ bid (k₀.newSource bid) none { k with started := true })
    (lull : Lull k₀ bid.secret [] k) (keyed : k.Keyed) (stopped : k₀.started = false)
    (idle : k.started = false) (unbound : k.binds = [])
    (vacant : (k₀.room bid.secret).registered = false → k.current bid.secret = none) :
    Pending k₀ bid (.start bid.ticket) .fetching none
      (k.bindAdded bid.ticket (k₀.binding bid .adding)) := by
  have present : (k.room bid.secret).registered = true := by
    exact (seats.registered bid.secret).trans (by simp)
  have engages : Engages bid (.start bid.ticket) { k with started := true } _ :=
    engages_promises keyed.registered (mem_registered present)
      fun other listed => keyed.mem_registered_iff.mp listed
  rw [bindAdded_start idle present]
  exact (seats.promises bid.ticket k.registered).pending engages
    ⟨lull.idle, lull.unasked, lull.told⟩ rfl unbound vacant (.start stopped)

theorem bind_known (keyed : k₀.Keyed) (rest : k₀.AtRest bid.secret)
    (registered : (k₀.room bid.secret).registered = true) :
    (∃ data, k₀.Holds bid.secret data ∧ k₀.step bid.request =
        ((k₀.seated bid.ticket bid.secret bid.start).tellSource bid.ticket
          (·.seed data)).bindFetched bid.ticket (k₀.binding bid .adding)) ∨
      ∃ purpose stage, Pending k₀ bid purpose stage none (k₀.step bid.request) := by
  let seat := k₀.seated bid.ticket bid.secret bid.start
  have present : (seat.room bid.secret).registered = true := registered
  have old (stage : BindStage) :
      k₀.binding bid stage = ⟨bid.secret, bid.failFast, false, stage⟩ := by
    simp [binding, registered]
  have seats (started : Bool) :=
    seats_seated k₀ bid k₀.rooms started (registered_or_same registered)
  have lull : Lull k₀ bid.secret [] seat := ⟨rest.idle, rest.unasked, [], rfl, rfl⟩
  have held (absent : (k₀.room bid.secret).registered = false) :
      seat.current bid.secret = none := by
    rw [registered] at absent
    cases absent
  have answered : seat.add bid.ticket bid.secret = (seat, some false) := by simp [add, present]
  have step : k₀.step bid.request = seat.bindAdded bid.ticket (k₀.binding bid .adding) :=
    (bind_of_answered answered bid.failFast).trans (congrArg _ (old .adding).symm)
  rw [step]
  cases started : k₀.started with
  | false => exact Or.inr ⟨_, _, (seats true).starts lull keyed started started rest.unbound held⟩
  | true =>
    have running : seat.started = true := started
    have foreign : (k₀.binding bid .adding).added = false := congrArg Binding.added (old .adding)
    cases known : k₀.data bid.secret with
    | some data =>
      have known' : seat.data bid.secret = some data := known
      exact Or.inl ⟨data, ⟨started, registered, known⟩,
        bindAdded_seed running foreign known' bid.ticket⟩
    | none =>
      have dry : seat.data bid.secret = none := known
      have here : Seats k₀ bid (k₀.newSource bid) none seat := seats k₀.started
      refine Or.inr ⟨.rotate bid.ticket, .fetching, ?_⟩
      rw [bindAdded_rotate running foreign present dry]
      exact (here.call bid.secret (.rotate bid.ticket)).pending (engages_call present rfl) lull
        running rest.unbound held (.rotate known)

def enrolled (k₀ : Keeper) (bid : Bid) : Keeper :=
  (k₀.seated bid.ticket bid.secret bid.start).enlisted bid.secret

theorem enrolled_room (k₀ : Keeper) (bid : Bid) : (k₀.enrolled bid).room bid.secret =
    { k₀.room bid.secret with
      lines := (k₀.room bid.secret).lines ++ [⟨.new, []⟩]
      registered := true } :=
  room_setRoom_self (k₀.seated bid.ticket bid.secret bid.start) bid.secret _

theorem enrolled_elsewhere (k₀ : Keeper) {other : Secret} (differ : other ≠ bid.secret) :
    (k₀.enrolled bid).room other = k₀.room other :=
  room_setRoom_of_ne (k₀.seated bid.ticket bid.secret bid.start) bid.secret differ _

theorem seats_enrolled (k₀ : Keeper) (bid : Bid) (started : Bool) :
    Seats k₀ bid (k₀.newSource bid) none { k₀.enrolled bid with started } := by
  refine seats_seated k₀ bid (k₀.enrolled bid).rooms started fun other => ?_
  by_cases same : other = bid.secret
  · subst same
    exact (congrArg Room.registered (enrolled_room k₀ bid)).trans (by simp)
  · exact (congrArg Room.registered (enrolled_elsewhere k₀ same)).trans (by simp [same])

theorem AtRest.enrolled (rest : k₀.AtRest bid.secret) :
    Lull k₀ bid.secret [] (k₀.enrolled bid) := by
  have here := enrolled_room k₀ bid
  refine ⟨(congrArg Room.flights here).trans rest.idle, fun other => ?_, [], rfl, rfl⟩
  by_cases same : other = bid.secret
  · subst same
    exact (congrArg Room.commissions here).trans (rest.unasked bid.secret)
  · exact (congrArg Room.commissions (enrolled_elsewhere k₀ same)).trans (rest.unasked other)

theorem bind_new (keyed : k₀.Keyed) (rest : k₀.AtRest bid.secret)
    (absent : (k₀.room bid.secret).registered = false) :
    ∃ purpose stage, Pending k₀ bid purpose stage none (k₀.step bid.request) := by
  let seat := k₀.seated bid.ticket bid.secret bid.start
  have own (stage : BindStage) :
      k₀.binding bid stage = ⟨bid.secret, bid.failFast, true, stage⟩ := by simp [binding, absent]
  have vacant (_ : (k₀.room bid.secret).registered = false) :
      (k₀.enrolled bid).current bid.secret = none := by
    rw [Keeper.current, enrolled_room]
    exact Room.current_open _
  have missing : (seat.room bid.secret).registered = false := absent
  cases started : k₀.started with
  | false =>
    have idle : seat.started = false := started
    have answered : seat.add bid.ticket bid.secret = (k₀.enrolled bid, some true) := by
      simp [add, missing, idle, enrolled, enlisted, setRoom, seat]
    have step : k₀.step bid.request =
        (k₀.enrolled bid).bindAdded bid.ticket (k₀.binding bid .adding) :=
      (bind_of_answered answered bid.failFast).trans (congrArg _ (own .adding).symm)
    rw [step]
    exact ⟨_, _, (seats_enrolled k₀ bid true).starts rest.enrolled (keyed.setRoom bid.secret _)
      started started rest.unbound vacant⟩
  | true =>
    have running : seat.started = true := started
    have waits : seat.add bid.ticket bid.secret =
        ((k₀.enrolled bid).call bid.secret (.register bid.ticket) .fetch, none) := by
      simp [add, missing, running, enrolled, enlisted, setRoom, seat]
    have step : k₀.step bid.request =
        ((k₀.enrolled bid).call bid.secret (.register bid.ticket) .fetch).setStage bid.ticket
          (k₀.binding bid .adding) :=
      (bind_of_waiting waits bid.failFast).trans (congrArg _ (own .adding).symm)
    have seats : Seats k₀ bid (k₀.newSource bid) none (k₀.enrolled bid) :=
      seats_enrolled k₀ bid k₀.started
    have present : ((k₀.enrolled bid).room bid.secret).registered = true :=
      congrArg Room.registered (enrolled_room k₀ bid)
    rw [step]
    exact ⟨_, _, (seats.call bid.secret (.register bid.ticket)).pending (engages_call present rfl)
      rest.enrolled running rest.unbound vacant (.register absent)⟩

end Keeper
end LeaseKeeper

import LeaseKeeper.Proofs.Keeper.Binds

/-!
The chores of a step: rooms change, store calls and timers are noted, and listeners are told. No
bind goes on with a chore, no source comes or goes, and nobody is told of new data. What else a step
does is little: it publishes the data of an answer, removes a secret or lets a source go before its
chores, and after them an operation ends or dies.
-/
namespace LeaseKeeper

def Purpose.isRemoval : Purpose → Bool
  | .remove _ => true
  | _ => false

theorem Purpose.daily_of_isFetch {purpose : Purpose} (own : purpose.isFetch = true) :
    purpose.isRemoval = false := by
  cases purpose with
  | remove ticket => cases own
  | _ => rfl

def Entry.isChore : Entry → Bool
  | .call _ purpose _ => !purpose.isRemoval
  | .armed _ _ _ _ => true
  | _ => false

def KeeperEvent.Unbinding (event : KeeperEvent) : Prop :=
  ∀ ticket secret failFast start, event ≠ .request ticket (.bind secret failFast start)

theorem KeeperEvent.bind_or_unbinding (event : KeeperEvent) :
    (∃ ticket secret failFast start, event = .request ticket (.bind secret failFast start)) ∨
      event.Unbinding := by
  by_cases binding : ∃ ticket secret failFast start,
      event = .request ticket (.bind secret failFast start)
  · exact Or.inl binding
  · exact Or.inr fun ticket secret failFast start same =>
      binding ⟨ticket, secret, failFast, start, same⟩

/-- The room stays registered if it is, and keeps its data unless it loses all of it. -/
structure Room.Keeps (r r' : Room) : Prop where
  registered : r.registered = true → r'.registered = true
  data : r'.data = r.data ∨ r'.data = none

namespace Room.Keeps

variable {r r' r'' : Room}

theorem refl (r : Room) : r.Keeps r := ⟨id, Or.inl rfl⟩

theorem trans (first : r.Keeps r') (second : r'.Keeps r'') : r.Keeps r'' := by
  refine ⟨fun present => second.registered (first.registered present), ?_⟩
  rcases second.data with same | gone
  · rw [same]
    exact first.data
  · exact Or.inr gone

end Room.Keeps

namespace Keeper

inductive Chore (k : Keeper) : Keeper → Prop where
  | housed (secret : Secret) (room : Room) (keeps : (k.room secret).Keeps room) :
      Chore k (k.setRoom secret room)
  | noted (entry : Entry) (plain : entry.isChore = true) : Chore k (k.note entry)
  | emitted (e : LeaseEvent) (plain : (Entry.event e).isAside = true) : Chore k (k.emit e)
  | reported (secret : Secret) (lease : Lease) (fault : Fault) :
      Chore k (k.report secret lease fault).1
  | set (now : Nat) (started owned : Bool) (metrics : Metrics) :
      Chore k { k with now, started, owned, metrics }
  | emptied : Chore k k.emptied
  | forsaken (ticket : Nat) : Chore k (k.mapRooms (·.dropTicket ticket))

abbrev Chores : Keeper → Keeper → Prop := Relation.ReflTransGen Chore

variable {k k' : Keeper} {secret : Secret} {purpose : Purpose}

namespace Chores

theorem setLine (k : Keeper) (secret : Secret) (number : Nat) (line : Line) :
    Chores k (k.setRoom secret ((k.room secret).setLine number line)) :=
  .single (.housed secret _ ⟨id, Or.inl rfl⟩)

theorem arm (k : Keeper) (secret : Secret) (number : Nat) (line : Line) (generation delay : Nat) :
    Chores k (k.arm secret number line generation delay) :=
  (setLine k secret number _).tail (.noted (.armed secret number generation _) rfl)

theorem setData (k : Keeper) (secret : Secret) :
    Chores k (k.setRoom secret { k.room secret with data := none }) :=
  .single (.housed secret _ ⟨id, Or.inr rfl⟩)

theorem promise (k : Keeper) (secret : Secret) (ticket : Nat) :
    Chores k (k.promise secret ticket) := .single (.housed secret _ ⟨id, Or.inl rfl⟩)

theorem ask (k : Keeper) (secret : Secret) (ticket : Nat) : Chores k (k.ask secret ticket) := by
  have turned : Chores k (k.setRoom secret ((k.room secret).ask ticket)) :=
    .single (.housed secret _ ⟨id, Or.inl rfl⟩)
  unfold Keeper.ask
  split
  · exact turned.tail (.noted (.call secret (.start ticket) .fetch) rfl)
  · exact .refl

theorem landed (k : Keeper) (secret : Secret) (purpose : Purpose) :
    Chores k (k.landed secret purpose) := .single (.housed secret _ ⟨id, Or.inl rfl⟩)

theorem count (k : Keeper) (m : Measure) : Chores k (k.count m) :=
  .single (.set k.now k.started k.owned _)

theorem setGauge (k : Keeper) (level : Nat) : Chores k (k.setGauge level) :=
  .single (.set k.now k.started k.owned _)

section
variable (daily : purpose.isRemoval = false)
include daily

theorem call (k : Keeper) (secret : Secret) (errand : Errand) :
    Chores k (k.call secret purpose errand) := by
  have boarded : Chores k (k.setRoom secret ((k.room secret).board purpose errand)) :=
    .single (.housed secret _ ⟨id, Or.inl rfl⟩)
  exact boarded.tail (.noted (.call secret purpose errand) (by simp [Entry.isChore, daily]))

theorem revoke (k : Keeper) (secret : Secret) (lease : Lease) (result : Except Fault Lease) :
    Chores k (k.revoke secret purpose lease result) :=
  .head (.emitted (.beforeRevocation secret lease) rfl) (call daily _ secret _)

theorem renewOrFetch (k : Keeper) (secret : Secret) (lease : Lease) :
    Chores k (k.renewOrFetch secret purpose lease) := by
  unfold Keeper.renewOrFetch
  split
  · exact call daily k secret _
  · exact call daily k secret _

end

theorem foldl {α : Type} {f : Keeper → α → Keeper} (each : ∀ k a, Chores k (f k a))
    (entries : List α) (k : Keeper) : Chores k (entries.foldl f k) := by
  induction entries generalizing k with
  | nil => exact .refl
  | cons entry rest ih => exact (each k entry).trans (ih (f k entry))

theorem scheduled {lease : Lease} {outcome : Keeper × Scheduling}
    (scheduled : Scheduled k secret lease outcome) : Chores k outcome.1 := by
  cases scheduled with
  | refused => exact .refl
  | outlasted => exact setLine k secret _ _
  | installed number line deadline level =>
    exact (arm k secret number _ _ _).trans (setGauge _ level)
  | disabled number line level => exact (setLine k secret number _).trans (setGauge _ level)

theorem endTimer (k : Keeper) (secret : Secret) (number generation : Nat)
    (result : Except Fault Lease) : Chores k (k.endTimer secret number generation result) := by
  unfold Keeper.endTimer
  dsimp only
  split
  · exact .refl
  · split
    · exact arm k secret number _ _ _
    · exact setLine k secret number _
    · exact setLine k secret number _

theorem add (k : Keeper) (ticket : Nat) (secret : Secret) : Chores k (k.add ticket secret).1 := by
  unfold Keeper.add
  dsimp only
  split
  · exact .refl
  · have opened : Chores k (k.setRoom secret
        { k.room secret with
          lines := (k.room secret).lines ++ [⟨.new, []⟩]
          registered := true }) := .single (.housed secret _ ⟨fun _ => rfl, Or.inl rfl⟩)
    split
    · exact opened.trans (call rfl _ secret _)
    · exact opened

theorem start (k : Keeper) (ticket : Nat) : Chores k (k.start ticket).1 := by
  unfold Keeper.start
  split
  · exact .refl
  · exact .head (.set k.now true k.owned k.metrics)
      (foldl (fun k secret => promise k secret ticket) _ _)

theorem rotate (k : Keeper) (ticket : Nat) (secret : Secret) :
    Chores k (k.rotate ticket secret).1 := by
  unfold Keeper.rotate
  split
  · exact .refl
  · split
    · exact .refl
    · exact call rfl k secret _

theorem renew (k : Keeper) (ticket : Nat) (secret : Secret) :
    Chores k (k.renew ticket secret).1 := by
  unfold Keeper.renew
  split
  · split
    · split
      · exact renewOrFetch rfl k secret _
      · exact .refl
    · exact .refl
  · exact .refl

theorem destroy (k : Keeper) (ticket : Nat) : Chores k (k.destroy ticket).1 := by
  rw [destroy_eq]
  refine .head .emptied ((setGauge _ 0).trans (foldl (fun k entry => ?_) _ _))
  exact revoke rfl k entry.1 entry.2 _

theorem fire (k : Keeper) (secret : Secret) (number generation : Nat) :
    Chores k (k.fire secret number generation) := by
  unfold Keeper.fire
  dsimp only
  split
  · exact .refl
  · split
    · exact .refl
    · split
      · split
        · exact setLine k secret number _
        · split
          · exact (setLine k secret number _).trans (renewOrFetch rfl _ secret _)
          · exact (setLine k secret number _).trans (endTimer _ secret number generation _)
      · exact .refl

theorem stop (k : Keeper) (secret : Secret) (number generation : Nat) :
    Chores k (k.stop secret number generation) := by
  unfold Keeper.stop
  dsimp only
  split
  · exact .refl
  · split
    · exact setLine k secret number _
    · exact .refl

end Chores

/-! ### How activities end -/

inductive Goes (k : Keeper) : Keeper → Prop where
  | rests (k' : Keeper) (chores : Chores k k') : Goes k k'
  | completes (k₁ : Keeper) (ticket : Nat) (answer : KeeperAnswer) (chores : Chores k k₁) :
      Goes k (k₁.complete ticket answer)
  | dies (k₁ : Keeper) (ticket : Nat) (chores : Chores k k₁) : Goes k (k₁.crash ticket)

theorem Goes.after (chores : Chores k k') {k'' : Keeper} (goes : Goes k' k'') : Goes k k'' := by
  cases goes with
  | rests _ later => exact .rests _ (chores.trans later)
  | completes k₁ ticket answer later => exact .completes k₁ ticket answer (chores.trans later)
  | dies k₁ ticket later => exact .dies k₁ ticket (chores.trans later)

theorem endRenew_goes (k : Keeper) (ticket : Nat) (secret : Secret) (result : Except Fault Lease) :
    Goes k (k.endRenew ticket secret result) := by
  cases result with
  | error fault => exact .completes k ticket _ .refl
  | ok lease =>
    have scheduled := Chores.scheduled (schedule_scheduled k secret lease)
    simp only [endRenew]
    generalize k.schedule secret lease = outcome at scheduled
    obtain ⟨k₁, kind⟩ := outcome
    cases kind with
    | kept => exact .completes k₁ ticket _ scheduled
    | refused => exact .completes k₁ ticket _ scheduled
    | overflow => exact .dies k₁ ticket scheduled

theorem endShared_goes (k : Keeper) (ticket : Nat) : Goes k (k.endShared ticket) := by
  unfold endShared
  split
  · exact .rests k .refl
  · exact .completes k ticket _ .refl

theorem endFetch_goes (k : Keeper) (secret : Secret) (purpose : Purpose)
    (result : Except Fault Lease) : Goes k (k.endFetch secret purpose result) := by
  have counted := Chores.count k (.rotation (isOk result))
  unfold endFetch
  cases purpose with
  | register ticket => exact .completes k ticket _ .refl
  | start ticket => exact endShared_goes k ticket
  | rotate ticket => exact .completes _ ticket _ counted
  | renew ticket => exact .after counted (endRenew_goes _ ticket secret result)
  | timer number generation =>
    exact .rests _ (counted.trans (Chores.endTimer _ secret number generation result))
  | remove ticket => exact .completes k ticket _ .refl
  | destroy ticket => exact endShared_goes k ticket

theorem endRenewal_goes (k : Keeper) (secret : Secret) (purpose : Purpose)
    (result : Except Fault Lease) : Goes k (k.endRenewal secret purpose result) := by
  unfold endRenewal
  cases purpose with
  | renew ticket => exact endRenew_goes k ticket secret result
  | timer number generation => exact .rests _ (.endTimer k secret number generation result)
  | _ => exact .rests k .refl

theorem revoked_goes (k : Keeper) (secret : Secret) (purpose : Purpose) (lease : Lease)
    (result : Except Fault Lease) (reply : Except Fault Unit) :
    Goes k (k.revoked secret purpose lease result reply) := by
  cases reply with
  | ok _ =>
    have told :=
      (Chores.count k (.revocation true)).tail (.emitted (.afterRevocation secret lease) rfl)
    exact .after told (endFetch_goes _ secret purpose result)
  | error fault =>
    have told := (Chores.count k (.revocation false)).tail (.reported secret lease fault)
    exact .after told (endFetch_goes _ secret purpose result)

theorem fetched_error_goes (k : Keeper) (secret : Secret) (fault : Fault) :
    Goes k (k.fetched secret purpose (.error fault)) := by
  have told : Chores k (if fault.isNotFound then k.emit (.notFound secret) else k) := by
    split
    · exact .single (.emitted _ rfl)
    · exact .refl
  exact .after (told.tail (.reported secret Lease.none fault)) (endFetch_goes _ secret purpose _)

section
variable (daily : purpose.isRemoval = false)
include daily

theorem abandon_goes (k : Keeper) (secret : Secret) (lease : Lease) (result : Except Fault Lease) :
    Goes k (k.abandon secret purpose lease result) := by
  unfold abandon
  split
  · exact .rests _ (.revoke daily k secret lease result)
  · exact endFetch_goes k secret purpose result

theorem published_goes (k : Keeper) (secret : Secret) (response : Response)
    (started : k.started = true) :
    Goes (k.published secret response) (k.fetched secret purpose (.ok response)) := by
  simp only [fetched, started]
  rw [if_neg (by simp)]
  unfold published
  generalize Keeper.emit _ _ = k₁
  have scheduled := Chores.scheduled (schedule_scheduled k₁ secret response.lease)
  generalize k₁.schedule secret response.lease = outcome at scheduled
  obtain ⟨k₂, kind⟩ := outcome
  cases kind with
  | kept => exact .after scheduled (endFetch_goes k₂ secret purpose _)
  | refused => exact .after scheduled (abandon_goes daily k₂ secret _ _)
  | overflow =>
    cases purpose with
    | timer => exact .rests _ scheduled
    | _ => exact .dies _ _ scheduled

theorem renewed_goes (k : Keeper) (secret : Secret) (lease : Lease) (result : Except Fault Lease) :
    Goes k (k.renewed secret purpose lease result) := by
  cases result with
  | error fault =>
    have told := (Chores.count k (.renewal secret.mode false)).tail (.reported secret lease fault)
    exact .after told (endRenewal_goes _ secret purpose _)
  | ok next =>
    have told : Chores k (if next.hasId then (k.count (.renewal secret.mode true)).emit
        (.afterRenewed secret next) else k.count (.renewal secret.mode true)) := by
      split
      · exact (Chores.count k _).tail (.emitted _ rfl)
      · exact .count k _
    simp only [renewed]
    generalize (if next.hasId then (k.count (.renewal secret.mode true)).emit
      (.afterRenewed secret next) else k.count (.renewal secret.mode true)) = k₁ at told ⊢
    refine .after told ?_
    split
    · exact endRenewal_goes _ secret purpose _
    · split
      · exact .rests _ (.call daily _ secret _)
      · have expired := (Chores.setData k₁ secret).tail (.emitted (.expired secret next) rfl)
        exact .after expired (endRenewal_goes _ secret purpose _)

end

/-! ### Whole steps -/

/-- A removal asks the store for nothing but the revocation of the lease it found. -/
def Revokes (k : Keeper) : Prop :=
  ∀ secret, ∀ flight ∈ (k.room secret).flights, flight.purpose.isRemoval = true →
    ∃ lease result, flight.errand = .revoke lease result

def Hand.IsDaily : Hand → Prop
  | .renewed _ purpose _ _ => purpose.isRemoval = false
  | _ => True

theorem Hand.Asks.revokes {hand : Hand} {flight : Flight} (asks : hand.Asks secret flight)
    (daily : hand.IsDaily) (removal : flight.purpose.isRemoval = true) :
    ∃ lease result, flight.errand = .revoke lease result := by
  cases asks with
  | rotation => cases removal
  | fetch _ purpose rest own =>
    exact absurd ((Purpose.daily_of_isFetch own).symm.trans removal) Bool.false_ne_true
  | refetch _ purpose => exact absurd (daily.symm.trans removal) Bool.false_ne_true
  | pursuit => cases removal
  | revocation _ purpose lease result => exact ⟨lease, result, rfl⟩
  | spill => cases removal

theorem Act.revokes {state state' : Keeper × Hand} (act : Act state state')
    (revokes : state.1.Revokes ∧ state.2.IsDaily) : state'.1.Revokes ∧ state'.2.IsDaily := by
  constructor
  · intro secret flight flying removal
    rcases act.flights flying with old | asks
    · exact revokes.1 secret flight old removal
    · exact asks.revokes revokes.2 removal
  · cases act with
    | aside => exact revokes.2
    | outlasted k k' other purpose => cases purpose <;> trivial
    | _ => trivial

theorem step_revokes (revokes : k.Revokes) (event : KeeperEvent) : (k.step event).Revokes := by
  obtain ⟨k₀, hand, begins, acts⟩ := step_acts k event
  refine (acts.keep (P := fun state => state.1.Revokes ∧ state.2.IsDaily)
    (fun _ _ act => act.revokes) ⟨?_, ?_⟩).1
  · intro secret flight flying removal
    rcases begins.flights flying with old | ⟨ticket, demand, _⟩
    · exact revokes secret flight old removal
    · rw [demand] at removal
      cases removal
  · cases begins with
    | renewed secret purpose lease next flown =>
      refine Bool.eq_false_iff.mpr fun removal => ?_
      obtain ⟨_, _, own⟩ := revokes secret _ (Room.mem_of_flight? flown) removal
      cases own
    | _ => trivial

theorem run_revokes (policy : LeasePolicy) (events : List KeeperEvent) :
    ((new policy).run events).Revokes := by
  refine run_keep (P := Revokes) (fun _ event revokes => step_revokes revokes event) ?_ events
  intro secret flight flying
  cases flying

inductive Opens (k : Keeper) : KeeperEvent → Keeper → Prop where
  | nothing (event : KeeperEvent) : Opens k event k
  | published (secret : Secret) (purpose : Purpose) (response : Response)
      (started : k.started = true)
      (flown : (k.room secret).flight? purpose = some ⟨purpose, .fetch⟩) :
      Opens k (.answer secret purpose (.fetched (.ok response)))
        ((k.landed secret purpose).published secret response)
  | removed (ticket : Nat) (secret : Secret) :
      Opens k (.request ticket (.remove secret)) (k.remove ticket secret).1
  | closed (id : Nat) : Opens k (.closeSource id) (k.closeSource id)
  | dropped (id : Nat) : Opens k (.dropSource id) (k.dropSource id)

theorem answer_goes (revokes : k.Revokes) (secret : Secret) (purpose : Purpose) (reply : Reply) :
    ∃ k₀, Opens k (.answer secret purpose reply) k₀ ∧ Goes k₀ (k.answer secret purpose reply) := by
  have refused : ∃ k₀, Opens k (.answer secret purpose reply) k₀ ∧ Goes k₀ k :=
    ⟨k, .nothing _, .rests k .refl⟩
  have landed := Chores.landed k secret purpose
  unfold answer
  dsimp only
  cases flown : (k.room secret).flight? purpose with
  | none => exact refused
  | some flight =>
    obtain rfl := Room.flight?_purpose flown
    obtain ⟨purpose, errand⟩ := flight
    -- a removal has nothing but a revocation under way, so no other reply is for one
    have daily (kind : ∀ lease result, errand ≠ .revoke lease result) :
        purpose.isRemoval = false := by
      refine Bool.eq_false_iff.mpr fun removal => ?_
      obtain ⟨lease, result, own⟩ := revokes secret _ (Room.mem_of_flight? flown) removal
      exact kind lease result own
    dsimp only
    split
    · rename_i result
      cases result with
      | error fault => exact ⟨k, .nothing _, .after landed (fetched_error_goes _ secret fault)⟩
      | ok response =>
        cases started : k.started with
        | false =>
          have stopped : (k.landed secret purpose).started = false := started
          have late : (k.landed secret purpose).fetched secret purpose (.ok response) =
              (k.landed secret purpose).abandon secret purpose response.lease (.ok Lease.none) := by
            simp [fetched, stopped]
          exact ⟨k, .nothing _, .after landed (late ▸ abandon_goes (daily (by simp)) _ secret _ _)⟩
        | true =>
          exact ⟨_, .published secret purpose response started flown,
            published_goes (daily (by simp)) _ secret response started⟩
    · rename_i lease result
      exact ⟨k, .nothing _, .after landed (renewed_goes (daily (by simp)) _ secret lease result)⟩
    · rename_i lease after result
      exact ⟨k, .nothing _, .after landed (revoked_goes _ secret purpose lease after result)⟩
    · exact refused

namespace Goes

theorem of_flag {outcome : Keeper × Option Bool} (ticket : Nat) :
    Chores k outcome.1 → Goes k (match outcome with
      | (k, some flag) => k.complete ticket (.flag flag)
      | (k, none) => k) := by
  intro chores
  obtain ⟨k₁, _ | flag⟩ := outcome
  · exact .rests k₁ chores
  · exact .completes k₁ ticket _ chores

theorem of_fault {outcome : Keeper × Option Fault} (ticket : Nat) :
    Chores k outcome.1 → Goes k (match outcome with
      | (k, some fault) => k.complete ticket (.lease (.error fault))
      | (k, none) => k) := by
  intro chores
  obtain ⟨k₁, _ | fault⟩ := outcome
  · exact .rests k₁ chores
  · exact .completes k₁ ticket _ chores

theorem of_done {outcome : Keeper × Bool} (ticket : Nat) :
    Chores k outcome.1 → Goes k (match outcome with
      | (k, true) => k.complete ticket .done
      | (k, false) => k) := by
  intro chores
  obtain ⟨k₁, _ | _⟩ := outcome
  · exact .rests k₁ chores
  · exact .completes k₁ ticket _ chores

end Goes

theorem request_goes (k : Keeper) (ticket : Nat) {operation : Operation}
    (unbinding : ∀ secret failFast start, operation ≠ .bind secret failFast start) :
    ∃ k₀, Opens k (.request ticket operation) k₀ ∧ Goes k₀ (k.request ticket operation) := by
  cases operation with
  | add secret => exact ⟨k, .nothing _, .of_flag ticket (.add k ticket secret)⟩
  | remove secret => exact ⟨_, .removed ticket secret, .of_flag ticket .refl⟩
  | start => exact ⟨k, .nothing _, .of_done ticket (.start k ticket)⟩
  | destroy => exact ⟨k, .nothing _, .of_done ticket (.destroy k ticket)⟩
  | renew secret => exact ⟨k, .nothing _, .of_fault ticket (.renew k ticket secret)⟩
  | rotate secret => exact ⟨k, .nothing _, .of_fault ticket (.rotate k ticket secret)⟩
  | bind secret failFast start => exact absurd rfl (unbinding secret failFast start)

theorem step_goes (revokes : k.Revokes) {event : KeeperEvent} (unbinding : event.Unbinding) :
    ∃ k₀, Opens k event k₀ ∧ Goes k₀ (k.step event) := by
  cases event with
  | request ticket operation =>
    exact request_goes k ticket fun secret failFast start same =>
      unbinding ticket secret failFast start (same ▸ rfl)
  | ask secret ticket => exact ⟨k, .nothing _, .rests _ (.ask k secret ticket)⟩
  | answer secret purpose reply => exact answer_goes revokes secret purpose reply
  | fire secret number generation =>
    exact ⟨k, .nothing _, .rests _ (.fire k secret number generation)⟩
  | stop secret number generation =>
    exact ⟨k, .nothing _, .rests _ (.stop k secret number generation)⟩
  | pass span =>
    exact ⟨k, .nothing _, .rests _ (.single (.set (k.now + span) k.started k.owned k.metrics))⟩
  | closeSource id => exact ⟨_, .closed id, .rests _ .refl⟩
  | dropSource id => exact ⟨_, .dropped id, .rests _ .refl⟩
  | disown => exact ⟨k, .nothing _, .rests _ (.single (.set k.now k.started false k.metrics))⟩

end Keeper
end LeaseKeeper

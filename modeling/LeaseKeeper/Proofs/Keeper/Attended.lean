import LeaseKeeper.Proofs.Keeper.Binds
import LeaseKeeper.Proofs.Keeper.Tended

/-!
A bind that waits for its registration has a store call under way for it. When that call is
answered, another one is made or the bind goes on, so a keeper without store calls under way has no
bind that waits for its registration.
-/
namespace LeaseKeeper

def KeeperEvent.starts : KeeperEvent → Bool
  | .request _ .start => true
  | .request _ (.bind _ _ _) => true
  | _ => false

namespace Keeper

variable {k k' k₁ : Keeper} {secret : Secret} {purpose : Purpose} {ticket : Nat}

/-! ### No registration asks for a renewal -/

/-- Only renewals on demand and those of a timer ask the store to renew a lease. -/
def Errands (state : Keeper × Hand) : Prop :=
  ∀ secret, ∀ flight ∈ (state.1.room secret).flights, ∀ lease, flight.errand = .renew lease →
    flight.purpose.isFetch = false

theorem Act.errands {state state' : Keeper × Hand} (act : Act state state')
    (errands : Errands state) : Errands state' := by
  intro secret flight flying lease own
  rcases act.flights flying with old | asks
  · exact errands secret flight old lease own
  · exact asks.renewal own

theorem step_errands (event : KeeperEvent) (errands : Errands (k, .free)) :
    Errands (k.step event, .free) := by
  obtain ⟨k₀, hand, begins, acts⟩ := step_acts k event
  refine acts.keep (fun _ _ act => act.errands) ?_
  intro secret flight flying lease own
  rcases begins.flights flying with old | ⟨ticket, demand, _⟩
  · exact errands secret flight old lease own
  · rw [demand]
    rfl

theorem errands_new (policy : LeasePolicy) : Errands (new policy, .free) := by
  intro secret flight flying
  cases flying

theorem run_errands (policy : LeasePolicy) (events : List KeeperEvent) :
    Errands ((new policy).run events, .free) :=
  run_keep (P := fun k => Errands (k, .free)) (fun _ event => step_errands event)
    (errands_new policy) events

/-! ### How a step goes -/

inductive Turns (k : Keeper) : Keeper → Prop where
  | carried (k' : Keeper) (carries : Carries (fun _ _ => False) k k') : Turns k k'
  | completed (k₁ : Keeper) (ticket : Nat) (answer : KeeperAnswer)
      (carries : Carries (fun _ _ => False) k k₁) : Turns k (k₁.complete ticket answer)
  | answered (k₁ k' : Keeper) (secret : Secret) (purpose : Purpose)
      (carries : Carries (fun other flight => other = secret ∧ flight.purpose = purpose) k k₁)
      (arrives : Arrives secret purpose k₁ k') : Turns k k'

theorem add_carries (k : Keeper) (ticket : Nat) (secret : Secret) :
    Carries (fun _ _ => False) k (k.add ticket secret).1 := by
  unfold add
  dsimp only
  split
  · exact (Spares.refl k).carries
  · have opened : Carries (fun _ _ => False) k (k.setRoom secret
        { k.room secret with
          lines := (k.room secret).lines ++ [⟨.new, []⟩]
          registered := true }) := .setRoom fun _ => Or.inr
    split
    · exact opened.trans (Spares.call _ secret _ _).carries
    · exact opened

theorem add_called (k : Keeper) (ticket : Nat) (secret : Secret)
    (waits : (k.add ticket secret).2 = none) :
    ∃ flight ∈ ((k.add ticket secret).1.room secret).flights,
      flight.purpose = .register ticket := by
  unfold add at waits ⊢
  dsimp only at waits ⊢
  split at waits
  · cases waits
  · rename_i absent
    rw [if_neg absent]
    split at waits
    · rename_i started
      rw [if_pos started]
      exact ⟨_, called _ secret (.register ticket) .fetch, rfl⟩
    · cases waits

theorem destroy_carries (k : Keeper) (ticket : Nat) :
    Carries (fun _ _ => False) { k with started := false } (k.destroy ticket).1 := by
  obtain ⟨rooms, frame⟩ := emptied_frame k
  have emptied : Carries (fun _ _ => False) { k with started := false } k.emptied := by
    refine ⟨?_, ?_, ?_⟩
    · rw [frame]
    · rw [frame]
    · intro secret flight flying
      rw [room_emptied]
      exact Or.inr (Room.vacated_flights (k.room secret) ▸ flying)
  rw [destroy_eq]
  have told : Spares k.emptied (k.emptied.setGauge 0) := .of_rooms rfl rfl rfl
  refine emptied.trans (told.trans (.foldl (fun k entry => ?_) _ _)).carries
  exact .revoke k entry.1 _ entry.2 _

theorem renew_carries (k : Keeper) (ticket : Nat) (secret : Secret) :
    Carries (fun _ _ => False) k (k.renew ticket secret).1 := by
  unfold renew
  split
  · split
    · split
      · exact (Spares.renewOrFetch k secret _ _).carries
      · exact (Spares.refl k).carries
    · exact (Spares.refl k).carries
  · exact (Spares.refl k).carries

theorem fire_carries (k : Keeper) (secret : Secret) (number generation : Nat) :
    Carries (fun _ _ => False) k (k.fire secret number generation) := by
  have placed (line : Line) :
      Spares k (k.setRoom secret ((k.room secret).setLine number line)) := .setLine number line
  unfold fire
  dsimp only
  split
  · exact (Spares.refl k).carries
  · split
    · exact (Spares.refl k).carries
    · split
      · split
        · exact (placed _).carries
        · split
          · exact ((placed _).trans (.renewOrFetch _ secret _ _)).carries
          · exact ((placed _).trans (.endTimer _ secret number generation _)).carries
      · exact (Spares.refl k).carries

theorem stop_carries (k : Keeper) (secret : Secret) (number generation : Nat) :
    Carries (fun _ _ => False) k (k.stop secret number generation) := by
  unfold stop
  dsimp only
  split
  · exact (Spares.refl k).carries
  · split
    · exact (Spares.setLine number _).carries
    · exact (Spares.refl k).carries

namespace Turns

variable (ticket : Nat)

theorem of_flag {outcome : Keeper × Option Bool} :
    Carries (fun _ _ => False) k outcome.1 → Turns k (match outcome with
      | (k, some flag) => k.complete ticket (.flag flag)
      | (k, none) => k) := by
  intro carries
  obtain ⟨k₁, _ | flag⟩ := outcome
  · exact .carried k₁ carries
  · exact .completed k₁ ticket _ carries

theorem of_fault {outcome : Keeper × Option Fault} :
    Carries (fun _ _ => False) k outcome.1 → Turns k (match outcome with
      | (k, some fault) => k.complete ticket (.lease (.error fault))
      | (k, none) => k) := by
  intro carries
  obtain ⟨k₁, _ | fault⟩ := outcome
  · exact .carried k₁ carries
  · exact .completed k₁ ticket _ carries

theorem of_done {outcome : Keeper × Bool} :
    Carries (fun _ _ => False) k outcome.1 → Turns k (match outcome with
      | (k, true) => k.complete ticket .done
      | (k, false) => k) := by
  intro carries
  obtain ⟨k₁, _ | _⟩ := outcome
  · exact .carried k₁ carries
  · exact .completed k₁ ticket _ carries

end Turns

structure Switched (event : KeeperEvent) (k k₀ : Keeper) : Prop where
  binds : k₀.binds = k.binds
  rooms : k₀.rooms = k.rooms
  started : event.starts = false → k₀.started = true → k.started = true

theorem Switched.refl (event : KeeperEvent) (k : Keeper) : Switched event k k :=
  ⟨rfl, rfl, fun _ => id⟩

theorem request_turns (k : Keeper) (ticket : Nat) {operation : Operation}
    (unbinding : ∀ secret failFast start, operation ≠ .bind secret failFast start) :
    ∃ k₀, Switched (.request ticket operation) k k₀ ∧ Turns k₀ (k.request ticket operation) := by
  cases operation with
  | add secret => exact ⟨k, .refl _ k, .of_flag ticket (add_carries k ticket secret)⟩
  | remove secret =>
    exact ⟨k, .refl _ k, .of_flag ticket (Spares.remove k ticket secret).carries⟩
  | start =>
    exact ⟨{ k with started := true }, ⟨rfl, rfl, nofun⟩,
      .of_done ticket (start_spares k ticket).carries⟩
  | destroy =>
    exact ⟨{ k with started := false }, ⟨rfl, rfl, nofun⟩,
      .of_done ticket (destroy_carries k ticket)⟩
  | renew secret =>
    exact ⟨k, .refl _ k, .of_fault ticket (renew_carries k ticket secret)⟩
  | rotate secret =>
    exact ⟨k, .refl _ k, .of_fault ticket (Spares.rotate k ticket secret).carries⟩
  | bind secret failFast start => exact absurd rfl (unbinding secret failFast start)

theorem step_turns (errands : Errands (k, .free)) {event : KeeperEvent}
    (unbinding : ∀ ticket secret failFast start,
      event ≠ .request ticket (.bind secret failFast start)) :
    ∃ k₀, Switched event k k₀ ∧ Turns k₀ (k.step event) := by
  have carried {k' : Keeper} (carries : Carries (fun _ _ => False) k k') :
      ∃ k₀, Switched event k k₀ ∧ Turns k₀ k' := ⟨k, .refl event k, .carried k' carries⟩
  cases event with
  | request ticket operation =>
    exact request_turns k ticket fun secret failFast start same =>
      unbinding ticket secret failFast start (same ▸ rfl)
  | ask secret ticket => exact carried (Spares.ask k secret ticket).carries
  | answer secret purpose reply =>
    have fetches (ticket : Nat) (lease : Lease) (own : purpose = .register ticket) :
        (k.room secret).flight? purpose ≠ some ⟨purpose, .renew lease⟩ := by
      intro flown
      have renewing := errands secret _ (Room.mem_of_flight? flown) lease rfl
      rw [own] at renewing
      cases renewing
    rcases answer_arrives k secret purpose reply fetches with same | ⟨k₁, carries, arrives⟩
    · refine carried ?_
      rw [step, same]
      exact (Spares.refl k).carries
    · exact ⟨k, .refl _ k, .answered k₁ _ secret purpose carries arrives⟩
  | fire secret number generation => exact carried (fire_carries k secret number generation)
  | stop secret number generation => exact carried (stop_carries k secret number generation)
  | pass span => exact carried (.of_rooms rfl rfl rfl)
  | closeSource id => exact carried (Spares.of_telling (closeSource_telling k id)).carries
  | dropSource id => exact carried (Spares.of_telling (dropSource_telling k id)).carries
  | disown => exact carried (.of_rooms rfl rfl rfl)

/-! ### Waiting for a registration -/

/-- A bind that waits for its registration has a store call under way, or is excused. -/
def Attended (k : Keeper) (excused : Secret → Nat → Prop) : Prop :=
  ∀ ticket b, k.binds.find? ticket = some b → b.stage = .adding →
    excused b.secret ticket ∨
      ∃ flight ∈ (k.room b.secret).flights, flight.purpose = .register ticket

namespace Attended

variable {excused : Secret → Nat → Prop}

theorem carries {lost : Secret → Flight → Prop} (attended : k.Attended fun _ _ => False)
    (carries : Carries lost k k') (excuse : ∀ secret flight ticket, lost secret flight →
      flight.purpose = .register ticket → excused secret ticket) : k'.Attended excused := by
  intro ticket b bound adding
  rw [carries.binds] at bound
  obtain ⟨flight, flying, own⟩ := (attended ticket b bound adding).resolve_left id
  rcases carries.flights b.secret flight flying with gone | kept
  · exact Or.inl (excuse b.secret flight ticket gone own)
  · exact Or.inr ⟨flight, kept, own⟩

theorem spares (attended : k.Attended excused) (spares : Spares k k') : k'.Attended excused := by
  intro ticket b bound adding
  rw [spares.carries.binds] at bound
  refine (attended ticket b bound adding).imp_right ?_
  rintro ⟨flight, flying, own⟩
  exact ⟨flight, (spares.carries.flights b.secret flight flying).resolve_left id, own⟩

theorem setStage {b : Binding} (attended : k.Attended fun _ _ => False)
    (flying : ∃ flight ∈ (k.room b.secret).flights, flight.purpose = .register ticket) :
    (k.setStage ticket b).Attended fun _ _ => False := by
  intro other b' bound adding
  by_cases same : other = ticket
  · subst same
    obtain rfl : b = b' := Option.some.inj ((Table.find?_put_self other b k.binds).symm.trans bound)
    exact Or.inr flying
  · exact attended other b' ((Table.find?_put_of_ne same b k.binds).symm.trans bound) adding

theorem switched {event : KeeperEvent} (attended : k.Attended excused)
    (switched : Switched event k k₁) : k₁.Attended excused := by
  intro ticket b bound adding
  rw [switched.binds] at bound
  rw [room_of_rooms switched.rooms]
  exact attended ticket b bound adding

theorem settles {running : Bool} (attended : k.Attended excused)
    (settles : Settles ticket running k k')
    (only : ∀ secret other, excused secret other → other = ticket) :
    k'.Attended fun _ _ => False := by
  intro other b bound adding
  have differ : other ≠ ticket := by
    rintro rfl
    have through := settles.settled
    simp [isAdding, bound, adding] at through
  rw [settles.others other differ] at bound
  rcases attended other b bound adding with excuse | ⟨flight, flying, own⟩
  · exact absurd (only b.secret other excuse) differ
  · refine Or.inr ⟨flight, (settles.flights b.secret flight flying).resolve_left ?_, own⟩
    rw [own]
    exact fun same => differ (Option.some.inj same)

theorem arrives (attended : k.Attended fun other ticket =>
      other = secret ∧ purpose = .register ticket)
    (arrives : Arrives secret purpose k k') : k'.Attended fun _ _ => False := by
  have only {ticket : Nat} (own : purpose.ticket? = some ticket) (other : Nat)
      (registers : purpose = .register other) : other = ticket := by
    rw [registers] at own
    exact Option.some.inj own
  cases arrives with
  | called k₁ errand spares =>
    intro ticket b bound adding
    have called := Spares.call k₁ secret purpose errand
    rcases (attended.spares spares) ticket b bound adding with ⟨here, own⟩ | ⟨flight, flying, own⟩
    · exact Or.inr ⟨⟨purpose, errand⟩, here ▸ Keeper.called k₁ secret purpose errand, own⟩
    · exact Or.inr ⟨flight, (called.carries.flights b.secret flight flying).resolve_left id, own⟩
  | rested _ spares idle =>
    intro ticket b bound adding
    rcases (attended.spares spares) ticket b bound adding with ⟨_, own⟩ | flying
    · exact absurd own (idle ticket)
    · exact Or.inr flying
  | completed k₁ ticket answer spares own =>
    exact (attended.spares spares).settles (complete_settles k₁ ticket answer)
      fun _ other excuse => only own other excuse.2
  | died k₁ ticket spares started own =>
    exact (attended.spares spares).settles (crash_settles k₁ ticket)
      fun _ other excuse => only own other excuse.2

theorem turns (attended : k.Attended fun _ _ => False) (turns : Turns k k') :
    k'.Attended fun _ _ => False := by
  cases turns with
  | carried _ carries => exact attended.carries carries fun _ _ _ lost => lost.elim
  | completed k₁ ticket answer carries =>
    have kept : k₁.Attended fun _ _ => False :=
      attended.carries carries fun _ _ _ lost => lost.elim
    exact kept.settles (complete_settles k₁ ticket answer) fun _ _ excuse => excuse.elim
  | answered k₁ _ secret purpose carries arrives =>
    refine Attended.arrives (attended.carries carries ?_) arrives
    rintro _ flight ticket ⟨here, rfl⟩ own
    exact ⟨here, own⟩

theorem bind (attended : k.Attended fun _ _ => False) (ticket : Nat) (secret : Secret)
    (failFast : Bool) (start : String) :
    (k.bind ticket secret failFast start).Attended fun _ _ => False := by
  have registered {k₀ : Keeper} {outcome : Keeper × Option Bool}
      (result : k₀.add ticket secret = outcome) (attended : k₀.Attended fun _ _ => False) :
      outcome.1.Attended fun _ _ => False := by
    rw [← result]
    exact attended.carries (add_carries k₀ ticket secret) fun _ _ _ lost => lost.elim
  unfold Keeper.bind
  dsimp only
  split
  · rename_i k₁ asked
    have flying := add_called _ ticket secret (congrArg Prod.snd asked)
    rw [asked] at flying
    exact (registered asked attended).setStage flying
  · rename_i k₁ added answered
    exact (registered answered attended).settles (bindAdded_settles k₁ ticket _)
      fun _ _ excuse => excuse.elim

end Attended

theorem step_attended (errands : Errands (k, .free)) (attended : k.Attended fun _ _ => False)
    (event : KeeperEvent) : (k.step event).Attended fun _ _ => False := by
  by_cases binding : ∃ ticket secret failFast start,
      event = .request ticket (.bind secret failFast start)
  · obtain ⟨ticket, secret, failFast, start, rfl⟩ := binding
    exact attended.bind ticket secret failFast start
  · have unbinding (ticket : Nat) (secret : Secret) (failFast : Bool) (start : String) :
        event ≠ .request ticket (.bind secret failFast start) := fun same =>
      binding ⟨ticket, secret, failFast, start, same⟩
    obtain ⟨k₀, switched, turns⟩ := step_turns errands unbinding
    exact (attended.switched switched).turns turns

theorem run_attended (policy : LeasePolicy) (events : List KeeperEvent) :
    ((new policy).run events).Attended fun _ _ => False := by
  have both : Errands ((new policy).run events, .free) ∧
      ((new policy).run events).Attended fun _ _ => False :=
    run_keep (P := fun k => Errands (k, .free) ∧ k.Attended fun _ _ => False)
      (fun k event both => ⟨step_errands event both.1, step_attended both.1 both.2 event⟩)
      ⟨errands_new policy, fun _ _ bound => nomatch bound⟩ events
  exact both.2

/-! ### Nothing under way -/

def isIdle (k : Keeper) : Bool := k.rooms.all (·.2.flights.isEmpty)

theorem flights_of_idle (idle : k.isIdle = true) (secret : Secret) :
    (k.room secret).flights = [] := by
  unfold Keeper.room
  cases found : k.rooms.find? secret with
  | none => rfl
  | some room =>
    have empty := List.all_eq_true.mp idle _ (Table.mem_of_find? found)
    exact List.isEmpty_iff.mp empty

theorem not_adding_of_stages (settled : k.binds.all (·.2.stage != .adding) = true) (ticket : Nat) :
    k.isAdding ticket = false := by
  unfold isAdding
  cases bound : k.binds.find? ticket with
  | none => rfl
  | some b =>
    have stage := List.all_eq_true.mp settled _ (Table.mem_of_find? bound)
    simpa using stage

theorem Attended.idle (attended : k.Attended fun _ _ => False) (idle : k.isIdle = true)
    (ticket : Nat) : k.isAdding ticket = false := by
  unfold isAdding
  cases bound : k.binds.find? ticket with
  | none => rfl
  | some b =>
    apply Bool.eq_false_iff.mpr
    intro stage
    obtain ⟨flight, flying, _⟩ := (attended ticket b bound (eq_of_beq stage)).resolve_left id
    rw [flights_of_idle idle] at flying
    cases flying

end Keeper
end LeaseKeeper

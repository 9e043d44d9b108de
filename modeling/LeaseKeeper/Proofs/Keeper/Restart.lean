import LeaseKeeper.Proofs.Keeper.Attended

/-!
What comes after a keeper was stopped. A fetch that was under way then finds out by the flag alone:
its lease is given back if the keeper is stopped when the answer comes, and installed if the keeper
was started again in between. A bind does not look at what happened while it registered its secret
either. It finds the keeper stopped and starts it.
-/
namespace LeaseKeeper

theorem Room.fetching {r : Room} {purpose : Purpose}
    (fetches : (r.flight? purpose).any (·.errand.isFetch) = true) :
    r.flight? purpose = some ⟨purpose, .fetch⟩ := by
  cases flown : r.flight? purpose with
  | none => simp [flown] at fetches
  | some flight =>
    obtain rfl := flight?_purpose flown
    obtain ⟨purpose, errand⟩ := flight
    cases errand with
    | fetch => rfl
    | _ => simp [flown, Errand.isFetch] at fetches

namespace Keeper

variable {k k' k₁ : Keeper} {secret : Secret} {purpose : Purpose} {ticket : Nat}

/-! ### While nobody starts the keeper -/

structure Still (k k' : Keeper) : Prop where
  stopped : k'.started = false
  waiting : ∀ ticket, k'.isAdding ticket = k.isAdding ticket

theorem Carries.still {lost : Secret → Flight → Prop} (carries : Carries lost k k')
    (stopped : k.started = false) : Still k k' :=
  ⟨carries.started.trans stopped, fun _ => isAdding_congr (by rw [carries.binds])⟩

theorem Still.trans (first : Still k k₁) (second : Still k₁ k') : Still k k' :=
  ⟨second.stopped, fun ticket => (second.waiting ticket).trans (first.waiting ticket)⟩

/-- A bind that has waited for its registration starts the keeper. -/
def Stirs (k k' : Keeper) : Prop := (∃ ticket, k.isAdding ticket = true) ∧ k'.started = true

theorem Still.complete (still : Still k k₁) (ticket : Nat) (answer : KeeperAnswer) :
    Still k (k₁.complete ticket answer) ∨ Stirs k (k₁.complete ticket answer) := by
  have settles := complete_settles k₁ ticket answer
  rw [still.stopped, Bool.false_or] at settles
  cases adding : k₁.isAdding ticket with
  | true =>
    rw [adding] at settles
    exact Or.inr ⟨⟨ticket, still.waiting ticket ▸ adding⟩, settles.started⟩
  | false =>
    rw [adding] at settles
    refine Or.inl (still.trans ⟨settles.started, ?_⟩)
    intro other
    by_cases same : other = ticket
    · rw [same, settles.settled, adding]
    · exact isAdding_congr (settles.others other same)

theorem Arrives.still (arrives : Arrives secret purpose k₁ k') (still : Still k k₁) :
    Still k k' ∨ Stirs k k' := by
  cases arrives with
  | called k₂ errand spares =>
    have called := spares.trans (Spares.call k₂ secret purpose errand)
    exact Or.inl (still.trans (called.carries.still still.stopped))
  | rested _ spares => exact Or.inl (still.trans (spares.carries.still still.stopped))
  | completed k₂ ticket answer spares =>
    exact (still.trans (spares.carries.still still.stopped)).complete ticket answer
  | died k₂ ticket spares started =>
    -- a lease is installed in a running keeper only, so nothing outlasts the clock here
    rw [still.stopped] at started
    cases started

theorem Turns.still (turns : Turns k k') (stopped : k.started = false) :
    Still k k' ∨ Stirs k k' := by
  cases turns with
  | carried _ carries => exact Or.inl (carries.still stopped)
  | completed k₁ ticket answer carries => exact (carries.still stopped).complete ticket answer
  | answered k₁ _ secret purpose carries arrives => exact arrives.still (carries.still stopped)

theorem step_still (errands : Errands (k, .free)) (stopped : k.started = false)
    {event : KeeperEvent} (idle : event.starts = false) :
    Still k (k.step event) ∨ Stirs k (k.step event) := by
  have unbinding (ticket : Nat) (secret : Secret) (failFast : Bool) (start : String) :
      event ≠ .request ticket (.bind secret failFast start) := by
    rintro rfl
    cases idle
  obtain ⟨k₀, switched, turns⟩ := step_turns errands unbinding
  have resting : k₀.started = false := by
    apply Bool.eq_false_iff.mpr
    intro started
    have running := switched.started idle started
    rw [stopped] at running
    cases running
  have same (ticket : Nat) : k₀.isAdding ticket = k.isAdding ticket :=
    isAdding_congr (by rw [switched.binds])
  rcases turns.still resting with still | ⟨⟨ticket, adding⟩, started⟩
  · exact Or.inl ⟨still.stopped, fun ticket => (still.waiting ticket).trans (same ticket)⟩
  · exact Or.inr ⟨⟨ticket, same ticket ▸ adding⟩, started⟩

theorem run_still (events : List KeeperEvent) (errands : Errands (k, .free))
    (stopped : k.started = false) (idle : ∀ event ∈ events, event.starts = false)
    (free : ∀ ticket, k.isAdding ticket = false) : Still k (k.run events) := by
  induction events generalizing k with
  | nil => exact ⟨stopped, fun _ => rfl⟩
  | cons event rest ih =>
    rcases step_still errands stopped (idle event List.mem_cons_self) with
      still | ⟨⟨ticket, adding⟩, _⟩
    · refine still.trans (ih (step_errands event errands) still.stopped ?_ ?_)
      · intro later member
        exact idle later (List.mem_cons_of_mem _ member)
      · intro ticket
        exact (still.waiting ticket).trans (free ticket)
    · rw [free ticket] at adding
      cases adding

theorem run_waiting {events : List KeeperEvent} (errands : Errands (k, .free))
    (idle : ∀ event ∈ events, event.starts = false)
    (stopped : ∀ passed, passed <+: events → (k.run passed).started = false) (ticket : Nat) :
    (k.run events).isAdding ticket = k.isAdding ticket := by
  induction events generalizing k with
  | nil => rfl
  | cons event rest ih =>
    have now := stopped [] List.nil_prefix
    have next := stopped [event] (by simp)
    rcases step_still errands now (idle event List.mem_cons_self) with still | ⟨_, started⟩
    · refine (ih (step_errands event errands) ?_ ?_).trans (still.waiting ticket)
      · intro later member
        exact idle later (List.mem_cons_of_mem _ member)
      · intro passed ahead
        exact stopped (event :: passed) (List.cons_prefix_cons.mpr ⟨rfl, ahead⟩)
    · have running : (k.run [event]).started = true := started
      rw [next] at running
      cases running

theorem destroy_still (unbound : k.binds.find? ticket = none) :
    (k.step (.request ticket .destroy)).started = false ∧
      ∀ other, (k.step (.request ticket .destroy)).isAdding other = k.isAdding other := by
  have carries := destroy_carries k ticket
  have still : Still { k with started := false } (k.destroy ticket).1 := carries.still rfl
  have bound : (k.destroy ticket).1.binds = k.binds := carries.binds
  simp only [step, request]
  generalize k.destroy ticket = outcome at still bound
  obtain ⟨k₁, _ | _⟩ := outcome
  · exact ⟨still.stopped, still.waiting⟩
  · have noted : k₁.complete ticket .done = k₁.note (.returned ticket .done) := by
      rw [complete, show k₁.binds = k.binds from bound, unbound]
    dsimp only
    rw [noted]
    exact ⟨still.stopped, still.waiting⟩

/-- A keeper is stopped and nobody asks it to start again. Once no store call is under way, it has
been stopped all the time, without a lease, a timer or data, exactly if no bind was waiting for its
registration when it was stopped. -/
theorem stays_stopped_iff (policy : LeasePolicy) (before after : List KeeperEvent) (ticket : Nat) :
    let k := (new policy).run before
    let stopped := k.step (.request ticket .destroy)
    k.binds.find? ticket = none → (∀ event ∈ after, event.starts = false) →
      (stopped.run after).isIdle = true →
      ((∀ passed, passed <+: after →
        (stopped.run passed).started = false ∧ (stopped.run passed).Empty) ↔
        ∀ other, k.isAdding other = false) := by
  intro k stopped unbound idle landed
  have reached (passed : List KeeperEvent) :
      (new policy).run (before ++ .request ticket .destroy :: passed) = stopped.run passed :=
    run_append _ before _
  have errands : Errands (stopped, .free) := step_errands _ (run_errands policy before)
  obtain ⟨resting, waiting⟩ := destroy_still unbound
  constructor
  · intro still other
    have attended := run_attended policy (before ++ .request ticket .destroy :: after)
    rw [reached] at attended
    rw [← waiting other, ← run_waiting errands idle (fun passed ahead => (still passed ahead).1)]
    exact attended.idle landed other
  · intro free passed ahead
    have still := run_still passed errands resting
      (fun event member => idle event (ahead.subset member)) fun other =>
        (waiting other).trans (free other)
    have rested := run_rested policy (before ++ .request ticket .destroy :: passed)
    rw [reached] at rested
    exact ⟨still.stopped, rested.empty still.stopped⟩

/-- The keeper is stopped while a bind waits for the fetch it has asked for. -/
theorem stopped_during_bind :
    let secret : Secret := ⟨"database/creds/app", .rotate⟩
    let response : Response := ⟨"", "a", 120, true, none, none, none⟩
    let before : List KeeperEvent := [.request 1 (.bind secret false ""), .ask secret 1]
    let after : List KeeperEvent := [.answer secret (.start 1) (.fetched (.ok response)),
      .answer secret (.start 1) (.revoked (.ok ()))]
    let k := (new .default).run before
    let stopped := k.step (.request 2 .destroy)
    k.binds.find? 2 = none ∧ (∀ event ∈ after, event.starts = false) ∧
      (stopped.run after).isIdle = true ∧ (stopped.run after).started = false ∧
      (stopped.run after).Empty := by
  intro secret response before after k stopped
  have unbound : k.binds.find? 2 = none := by decide
  have idle : ∀ event ∈ after, event.starts = false := by decide
  have landed : (stopped.run after).isIdle = true := by decide
  have free (other : Nat) : k.isAdding other = false := not_adding_of_stages (by decide) other
  have still := (stays_stopped_iff .default before after 2 unbound idle landed).mpr free after
    List.prefix_rfl
  exact ⟨unbound, idle, landed, still.1, still.2⟩

/-- The keeper is stopped while a bind registers its secret, and runs again after the bind. -/
theorem restarted_by_bind :
    let secret : Secret := ⟨"database/creds/app", .rotate⟩
    let first : Response := ⟨"", "a", 120, true, none, none, none⟩
    let second : Response := ⟨"", "b", 300, true, none, none, none⟩
    let after : List KeeperEvent := [.answer secret (.register 2) (.fetched (.ok first)),
      .answer secret (.register 2) (.revoked (.ok ())), .ask secret 2,
      .answer secret (.start 2) (.fetched (.ok second))]
    let k := (new .default).run [.request 1 .start, .request 2 (.bind secret false "")]
    let stopped := k.step (.request 3 .destroy)
    k.binds.find? 3 = none ∧ (∀ event ∈ after, event.starts = false) ∧
      stopped.started = false ∧ (stopped.run after).isIdle = true ∧
      (stopped.run after).started = true ∧
      (stopped.run after).current secret = some ⟨"b", 300, true⟩ := by
  decide

/-! ### A fetch that was under way -/

structure Discards (k k' : Keeper) (secret : Secret) (purpose : Purpose) (lease : Lease) :
    Prop where
  journal : k'.journal = (k.now, .call secret purpose (.revoke lease (.ok Lease.none))) ::
    (k.now, .event (.beforeRevocation secret lease)) :: k.journal
  lines : ∀ other, (k'.room other).lines = (k.room other).lines
  data : ∀ other, k'.data other = k.data other

theorem revoke_discards (k : Keeper) (secret : Secret) (purpose : Purpose) (lease : Lease) :
    Discards k (k.revoke secret purpose lease (.ok Lease.none)) secret purpose lease := by
  refine ⟨?_, fun other => (revoke_grows k secret purpose lease _ other).lines, ?_⟩
  · have called : (k.revoke secret purpose lease (.ok Lease.none)).journal =
        ((k.emit (.beforeRevocation secret lease)).now,
          .call secret purpose (.revoke lease (.ok Lease.none))) ::
          (k.emit (.beforeRevocation secret lease)).journal := rfl
    rw [called, (emit_tells k _).now, emit_journal]
    rfl
  · intro other
    refine (read_setRoom (k := k.emit (.beforeRevocation secret lease)) Room.data (by rfl)
      other).trans ?_
    rw [emit_room]
    rfl

section
variable {response : Response} (flown : (k.room secret).flight? purpose = some ⟨purpose, .fetch⟩)
include flown

theorem discarded_of_stopped (stopped : k.started = false)
    (revocable : response.lease.isRevocable = true) :
    Discards k (k.step (.answer secret purpose (.fetched (.ok response)))) secret purpose
      response.lease := by
  have abandoned : (k.landed secret purpose).fetched secret purpose (.ok response) =
      (k.landed secret purpose).revoke secret purpose response.lease (.ok Lease.none) := by
    have resting : (k.landed secret purpose).started = false := stopped
    simp [fetched, resting, abandon, revocable]
  have discards := revoke_discards (k.landed secret purpose) secret purpose response.lease
  rw [step_fetched flown, abandoned]
  refine ⟨discards.journal, ?_, ?_⟩
  · intro other
    exact (discards.lines other).trans (read_setRoom Room.lines (by rfl) other)
  · intro other
    exact (discards.data other).trans (read_setRoom Room.data (by rfl) other)

/-- A running keeper publishes the data first, whatever becomes of the lease. -/
theorem not_discarded_of_started (started : k.started = true) :
    ¬ Discards k (k.step (.answer secret purpose (.fetched (.ok response)))) secret purpose
      response.lease := by
  intro discards
  have running : (k.landed secret purpose).started = true := started
  have acts := published_acts (k.landed secret purpose) secret purpose response running
  obtain ⟨fresh, journal⟩ := (acts.moves True fun _ _ => trivial).journal
  have first := emit_journal ((k.landed secret purpose).setRoom secret
    { (k.landed secret purpose).room secret with data := some response.flattened })
    (.created secret response.lease response.flattened)
  rw [← step_fetched flown, discards.journal] at journal
  rw [show ((k.landed secret purpose).published secret response).journal = _ from first] at journal
  -- both journals go on from the same one, so their first new entries are the same
  rw [List.append_cons] at journal
  have entries := List.append_cancel_right (show [_, _] ++ k.journal = _ from journal)
  have last := congrArg List.getLast? entries
  simp at last

end

/-- A fetch is under way after the keeper was stopped. Its lease is given back exactly if the
keeper is stopped when the answer comes, and so it is if nobody has asked it to start again and no
bind was waiting for its registration. -/
theorem discarded_iff_stopped (policy : LeasePolicy) (before between : List KeeperEvent)
    (ticket : Nat) (secret : Secret) (purpose : Purpose) (response : Response) :
    let stopping := (new policy).run before
    let k := (new policy).run (before ++ .request ticket .destroy :: between)
    (k.room secret).flight? purpose = some ⟨purpose, .fetch⟩ → response.lease.isRevocable = true →
      (Discards k (k.step (.answer secret purpose (.fetched (.ok response)))) secret purpose
        response.lease ↔ k.started = false) ∧
      (stopping.binds.find? ticket = none → (∀ other, stopping.isAdding other = false) →
        (∀ event ∈ between, event.starts = false) → k.started = false) := by
  intro stopping k flown revocable
  refine ⟨⟨?_, fun stopped => discarded_of_stopped flown stopped revocable⟩, ?_⟩
  · intro discards
    apply Bool.eq_false_iff.mpr
    intro started
    exact not_discarded_of_started flown started discards
  · intro unbound free idle
    obtain ⟨resting, waiting⟩ := destroy_still unbound
    have errands : Errands (stopping.step (.request ticket .destroy), .free) :=
      step_errands _ (run_errands policy before)
    have still := run_still between errands resting idle fun other =>
      (waiting other).trans (free other)
    have reached : k = (stopping.step (.request ticket .destroy)).run between :=
      run_append _ before _
    rw [reached]
    exact still.stopped

/-- A rotation is answered a second after the keeper was stopped. -/
theorem rotation_discarded :
    let secret : Secret := ⟨"database/creds/app", .rotate⟩
    let first : Response := ⟨"", "a", 120, true, none, none, none⟩
    let second : Response := ⟨"", "b", 300, true, none, none, none⟩
    let before : List KeeperEvent := [.request 1 (.add secret), .request 2 .start,
      .ask secret 2, .answer secret (.start 2) (.fetched (.ok first)), .request 3 (.rotate secret)]
    let k := (new .default).run (before ++ .request 4 .destroy :: [.pass (Span.seconds 1)])
    (k.room secret).flight? (.rotate 3) = some ⟨.rotate 3, .fetch⟩ ∧
      second.lease.isRevocable = true ∧
      Discards k (k.step (.answer secret (.rotate 3) (.fetched (.ok second)))) secret (.rotate 3)
        second.lease := by
  intro secret first second before k
  have flown : (k.room secret).flight? (.rotate 3) = some ⟨.rotate 3, .fetch⟩ :=
    Room.fetching (by decide)
  have revocable : second.lease.isRevocable = true := by decide
  have holds := discarded_iff_stopped .default before [.pass (Span.seconds 1)] 4 secret (.rotate 3)
    second flown revocable
  have stopped : k.started = false :=
    holds.2 (by decide) (fun other => not_adding_of_stages (by decide) other) (by decide)
  exact ⟨flown, revocable, holds.1.mpr stopped⟩

/-- A fetch is answered after the keeper was stopped and started again. -/
theorem late_fetch_installed :
    let secret : Secret := ⟨"database/creds/app", .rotate⟩
    let first : Response := ⟨"", "a", 120, true, none, none, none⟩
    let second : Response := ⟨"", "b", 300, true, none, none, none⟩
    let k := (new .default).run [.request 1 (.add secret), .request 2 .start, .ask secret 2,
      .request 3 .destroy, .request 4 .start, .ask secret 4,
      .answer secret (.start 4) (.fetched (.ok second))]
    let k' := k.step (.answer secret (.start 2) (.fetched (.ok first)))
    first.lease.isRevocable = true ∧ k.current secret = some second.lease ∧
      k'.current secret = some first.lease ∧
      ¬ Discards k k' secret (.start 2) first.lease := by
  intro secret first second k k'
  have revocable : first.lease.isRevocable = true := by decide
  have before : k.current secret = some second.lease := by decide
  have after : k'.current secret = some first.lease := by decide
  have moved : (k'.room secret).lines.map (·.lineage.current) ≠
      (k.room secret).lines.map (·.lineage.current) := by decide
  refine ⟨revocable, before, after, ?_⟩
  intro discards
  exact moved (congrArg _ (discards.lines secret))

end Keeper
end LeaseKeeper

import LeaseKeeper.Proofs.Keeper.Tended

/-!
A rotating secret is never left alone. While the store answers its calls, every answer leads to
another call or to a task that waits for the timer of the current lease, so that with no call under
way there is such a task. Two of the answers that a renewal may have do not belong here: one without
an id, which ends the line of leases, and one that is far from its end and not renewable.
-/
namespace LeaseKeeper

open Lineage

namespace Keeper

variable {k k' : Keeper} {state state' : Keeper × Hand} {secret : Secret}

def Fits (k : Keeper) (lease : Lease) : Prop := (deadline? k.now lease.span).isSome = true

instance (k : Keeper) (lease : Lease) : Decidable (k.Fits lease) :=
  inferInstanceAs (Decidable (_ = true))

/-- The answer to a renewal after which a rotating secret goes on: it is renewed again, or it is so
near its end that the secret is fetched again. -/
structure Extends (k : Keeper) (next : Lease) : Prop where
  id : next.hasId = true
  further : next.renewable = true ∨ next.span < k.policy.threshold
  fits : k.Fits next

/-- The event is not against the secret's being kept fresh: the store grants what it is asked for
the secret, nobody asks for a renewal out of turn, and the keeper's owner stays. -/
def Favours (secret : Secret) (k : Keeper) : KeeperEvent → Prop
  | .request _ (.renew _) | .disown => False
  | .answer other _ (.fetched (.ok response)) =>
    k.Fits response.lease ∧ (other = secret → response.lease.seconds ≠ 0)
  | .answer other _ (.renewed (.ok next)) => other = secret → k.Extends next
  | .answer other _ _ => other ≠ secret
  | _ => True

def Hand.Favours (secret : Secret) (k : Keeper) : Hand → Prop
  | .fetched other _ response =>
    k.Fits response.lease ∧ (other = secret → response.lease.seconds ≠ 0)
  | .published other _ lease => k.Fits lease ∧ (other = secret → lease.seconds ≠ 0)
  | .renewed other _ _ next => other = secret → k.Extends next
  | .ending other purpose result => other = secret → k.Staked other purpose fun _ =>
      ∃ lease, result = .ok lease ∧ lease.hasId = true ∧ lease.renewable = true ∧ k.Fits lease
  | .dying _ => False
  | _ => True

inductive Hand.Tends (secret : Secret) (k : Keeper) : Hand → Prop where
  | owing (purpose : Purpose) (secrets : List Secret) (member : secret ∈ secrets) :
      Tends secret k (.owing purpose secrets)
  | fetched (purpose : Purpose) (response : Response) :
      Tends secret k (.fetched secret purpose response)
  | published (purpose : Purpose) (lease : Lease) : Tends secret k (.published secret purpose lease)
  | claimed (number generation : Nat) (lease : Lease)
      (renewing : (k.room secret).Renewing number generation) :
      Tends secret k (.claimed secret number generation lease)
  | renewed (number generation : Nat) (lease next : Lease)
      (renewing : (k.room secret).Renewing number generation) :
      Tends secret k (.renewed secret (.timer number generation) lease next)
  | ending (number generation : Nat) (result : Except Fault Lease)
      (renewing : (k.room secret).Renewing number generation) :
      Tends secret k (.ending secret (.timer number generation) result)

/-- While the keeper runs and knows the secret, the secret is looked after. -/
def Watched (secret : Secret) (state : Keeper × Hand) : Prop :=
  state.1.started = true → (state.1.room secret).registered = true →
    (state.1.room secret).Tended ∨ state.2.Tends secret state.1

/-! ### One act -/

namespace Watched

variable {hand hand' : Hand}

theorem persist (watched : Watched secret (k, hand))
    (grows : (k.room secret).Grows (k'.room secret)) (started : k'.started = k.started)
    (handed : hand.Tends secret k → (k'.room secret).Tended ∨ hand'.Tends secret k') :
    Watched secret (k', hand') := by
  intro running registered
  rcases watched (started ▸ running) (grows.registered ▸ registered) with tended | tends
  · exact Or.inl (grows.tended tended)
  · exact handed tends

theorem of_stopped (stopped : k.started = false) : Watched secret (k, hand) := by
  intro started
  have running : k.started = true := started
  rw [stopped] at running
  cases running

theorem elsewhere (watched : Watched secret (k, hand)) {other : Secret} (differ : secret ≠ other)
    (room : Room) (idle : ¬ hand.Tends secret k) : Watched secret (k.setRoom other room, hand') :=
  watched.persist (room_grows_of_ne differ room) rfl fun tends => absurd tends idle

theorem without (watched : Watched secret (k, hand)) (other : Secret)
    (idle : ¬ hand.Tends secret k) : Watched secret (k.without other, hand') := by
  by_cases same : secret = other
  · subst same
    intro _ registered
    simp [Keeper.without] at registered
  · exact watched.elsewhere same _ idle

end Watched

theorem Hand.Tends.of_room {hand : Hand} (tends : hand.Tends secret k)
    (room : k'.room secret = k.room secret) : hand.Tends secret k' := by
  cases tends with
  | owing purpose secrets member => exact .owing purpose secrets member
  | fetched purpose response => exact .fetched purpose response
  | published purpose lease => exact .published purpose lease
  | claimed _ _ lease renewing => exact .claimed _ _ lease (room ▸ renewing)
  | renewed _ _ lease next renewing => exact .renewed _ _ lease next (room ▸ renewing)
  | ending _ _ result renewing => exact .ending _ _ result (room ▸ renewing)

structure Steady (secret : Secret) (state : Keeper × Hand) : Prop where
  fit : Fit state
  lined : state.1.Lined
  undemanded : ∀ other, Undemanded other state
  owned : state.1.owned = true
  renewals : ∀ flight ∈ (state.1.room secret).flights, ∀ lease, flight.errand = .renew lease →
    flight.purpose.isFetch = false
  favours : state.2.Favours secret state.1
  tidy : (state.1.room secret).Tidy
  watched : Watched secret state

namespace Steady

variable {other : Secret} {purpose : Purpose} {lease : Lease}

theorem not_outlasted (steady : Steady secret (k, .published other purpose lease))
    (scheduled : Scheduled k other lease (k', .overflow)) : False := by
  cases scheduled with
  | outlasted number line started schedulable numbered found overflow =>
    have fits : k.Fits lease := steady.favours.1
    rw [Fits, overflow] at fits
    cases fits

theorem not_demanded {ticket : Nat} {result : Except Fault Lease}
    (steady : Steady secret (k, .ending other purpose result)) (own : purpose = .renew ticket) :
    False :=
  (steady.undemanded other).hand ticket (own ▸ .ending other purpose result)

theorem not_unowned (steady : Steady secret state) (unowned : state.1.owned = false) : False := by
  rw [steady.owned] at unowned
  cases unowned

end Steady

theorem Aside.favours (aside : Aside k k') {hand : Hand} (favours : hand.Favours secret k) :
    hand.Favours secret k' := by
  have fits (lease : Lease) : k'.Fits lease ↔ k.Fits lease := by rw [Fits, Fits, aside.now]
  cases hand with
  | fetched => exact favours.imp_left (fits _).mpr
  | published => exact favours.imp_left (fits _).mpr
  | renewed other purpose lease next =>
    intro same
    obtain ⟨id, further, fitting⟩ := favours same
    exact ⟨id, aside.policy ▸ further, (fits next).mpr fitting⟩
  | ending other purpose result =>
    intro same
    refine ((favours same).onward (.of_rooms aside.rooms)).weaken fun _ => ?_
    rintro ⟨lease, granted, id, renewable, fitting⟩
    exact ⟨lease, granted, id, renewable, (fits lease).mpr fitting⟩
  | dying => exact favours
  | _ => trivial

theorem emit_now (k : Keeper) (e : LeaseEvent) : (k.emit e).now = k.now := (emit_tells k e).now

theorem Act.favours (act : Act state state') (rotating : secret.isRotating = true)
    (steady : Steady secret state) : state'.2.Favours secret state'.1 := by
  cases act with
  | aside k k' hand aside => exact aside.favours steady.favours
  | surrendered k other number generation lease unowned =>
    exact (steady.not_unowned unowned).elim
  | published k other purpose response started =>
    obtain ⟨fits, lasting⟩ := steady.favours
    refine ⟨?_, lasting⟩
    rw [Fits, emit_now]
    exact fits
  | kept k k' other purpose lease scheduled =>
    intro _
    have staked : k.Staked other purpose fun _ => True := steady.fit.hand
    exact scheduled.unstaked steady.fit.rested staked
  | outlasted k k' other purpose lease scheduled =>
    exact (steady.not_outlasted scheduled).elim
  | dropped k other purpose lease result =>
    intro _
    have staked : k.Staked other purpose fun _ => False := steady.fit.hand
    exact staked.weaken fun _ => False.elim
  | extended k other purpose lease next enough =>
    intro same
    obtain ⟨id, further, fits⟩ := steady.favours same
    have renewable : next.renewable = true := further.resolve_right fun short => enough ⟨id, short⟩
    have staked : k.Staked other purpose (· = lease) := steady.fit.hand
    exact staked.weaken fun _ _ => ⟨next, rfl, id, renewable, fits⟩
  | expired k other purpose lease next short renewing =>
    rintro rfl
    rw [rotating] at renewing
    cases renewing
  | overran k k' other ticket lease =>
    exact (steady.not_demanded rfl).elim
  | _ => trivial

section
variable {number generation : Nat} {line : Line} {result : Except Fault Lease} {after : Lineage}
  {next : Next} (steady : Steady secret (k, .ending secret (.timer number generation) result))
  (found : (k.room secret).lines[number]? = some line)
  (ending : Ending line.lineage k.policy.strategy k.policy.floor k.policy.threshold k.now
    generation Lease.renewable result after next)
include steady found ending

theorem Steady.extended : Extended line.lineage generation after next := by
  obtain ⟨present, same, _, further⟩ := steady.favours rfl number generation rfl
  obtain rfl := Option.some.inj (same.symm.trans found)
  exact ending.extended fun held slot own => (further held slot own).2

theorem Steady.tidy_after : after.Tidy := by
  have before : line.lineage.Tidy := steady.tidy number line found
  cases steady.extended found ending with
  | taken => exact before
  | again held lease deadline delay slot own renewing =>
    refine before.ending (fun other present _ => ?_) ending (by simp)
    obtain rfl := Option.some.inj (present.symm.trans slot)
    exact renewing

end

theorem Act.tidy (act : Act state state') (steady : Steady secret state) :
    (state'.1.room secret).Tidy := by
  have tidy := steady.tidy
  cases act with
  | aside k k' hand aside => exact (Room.Grows.of_eq (room_of_rooms aside.rooms secret)).tidy tidy
  | opened k other => exact tidy_setRoom tidy fun same => by subst same; exact tidy.open
  | enrolled k other => exact tidy_setRoom tidy fun same => by subst same; exact tidy.open
  | begun => exact tidy
  | owed k other purpose => exact (call_grows k other purpose _ secret).tidy tidy
  | promised k other ticket => exact (promise_grows k other ticket secret).tidy tidy
  | paid => exact tidy
  | asked k other => exact (call_grows k other _ _ secret).tidy tidy
  | forgotten k other => exact tidy_setRoom tidy fun same => by subst same; exact tidy.vacated
  | released k other => exact tidy_setRoom tidy fun same => by subst same; exact tidy.vacated
  | done => exact tidy
  | poured k ticket other lease => exact (revoke_grows k other _ lease _ secret).tidy tidy
  | spared => exact tidy
  | drained => exact tidy
  | pursued k other number generation lease =>
    exact (renewOrFetch_grows k other _ lease secret).tidy tidy
  | surrendered => exact tidy
  | late => exact tidy
  | published k other purpose response started =>
    rw [emit_room]
    exact tidy_setRoom tidy fun same => by subst same; exact tidy
  | kept k k' other purpose lease scheduled =>
    cases scheduled with
    | installed number line deadline level started schedulable used found =>
      refine tidy_setRoom tidy fun same => ?_
      subst same
      exact tidy.setLine number ((tidy number line found).replaced lease deadline)
    | disabled number line level started unschedulable used found =>
      refine tidy_setRoom tidy fun same => ?_
      subst same
      exact tidy.setLine number (tidy number line found).disable
  | refused => exact tidy
  | outlasted k k' other purpose lease scheduled =>
    exact (steady.not_outlasted scheduled).elim
  | revoked k other purpose lease result =>
    exact (revoke_grows k other purpose lease result secret).tidy tidy
  | dropped => exact tidy
  | extended => exact tidy
  | refetched k other purpose => exact (call_grows k other purpose _ secret).tidy tidy
  | expired k other => exact tidy_setRoom tidy fun same => by subst same; exact tidy
  | resumed k other number generation next delay line result after found ending =>
    refine tidy_setRoom tidy fun same => ?_
    subst same
    exact tidy.setLine number (steady.tidy_after found ending)
  | concluded k other number generation line result after next found ending =>
    refine tidy_setRoom tidy fun same => ?_
    subst same
    exact tidy.setLine number (steady.tidy_after found ending)
  | lost => exact tidy
  | decided k k' other ticket lease =>
    exact (steady.not_demanded rfl).elim
  | overran k k' other ticket lease =>
    exact (steady.not_demanded rfl).elim
  | ended => exact tidy
  | crashed => exact steady.favours.elim

/-! The acts that may change what the secret's current lease is. -/

section
variable {other : Secret} {number generation : Nat} {lease : Lease} {line : Line}
  {result : Except Fault Lease} {after : Lineage} {hand' : Hand}

theorem Steady.watched_kept {purpose : Purpose} (rotating : secret.isRotating = true)
    (steady : Steady secret (k, .published other purpose lease))
    (scheduled : Scheduled k other lease (k', .kept)) : Watched secret (k', hand') := by
  by_cases same : secret = other
  · subst same
    have lasting := steady.favours.2 rfl
    have schedulable : isSchedulable secret lease = true := by
      simp [isSchedulable, rotating, lasting]
    exact fun _ _ => Or.inl (Or.inr (Or.inl (scheduled.waiting rfl schedulable)))
  · have frame : k'.room secret = k.room secret ∧ k'.started = k.started := by
      cases scheduled with
      | installed => exact ⟨room_setRoom_of_ne k other same _, rfl⟩
      | disabled => exact ⟨room_setRoom_of_ne k other same _, rfl⟩
    refine steady.watched.persist (.of_eq frame.1) frame.2 fun tends => ?_
    cases tends
    contradiction

theorem Steady.watched_refused {purpose : Purpose}
    (steady : Steady secret (k, .published other purpose lease))
    (closed : (k.room other).line? = none ∨ k.started = false) : Watched secret (k, hand') := by
  rcases closed with absent | stopped
  · intro started registered
    refine (steady.watched started registered).imp_right fun tends => ?_
    cases tends
    have present := steady.lined.line? registered
    simp [absent] at present
  · exact .of_stopped stopped

theorem Steady.watched_resumed {again delay : Nat}
    (steady : Steady secret (k, .ending other (.timer number generation) result))
    (found : (k.room other).lines[number]? = some line)
    (ending : Ending line.lineage k.policy.strategy k.policy.floor k.policy.threshold k.now
      generation Lease.renewable result after (.wait again delay)) :
    Watched secret (k.arm other number { line with lineage := after } again delay, hand') := by
  by_cases same : secret = other
  · subst same
    cases steady.extended found ending with
    | again held lease deadline delay slot =>
      have used := (holds_of_slot steady.fit.rested found slot).used
      have waiting := waiting_of_arm used found { line.lineage.issue true with
        slot := some ⟨line.lineage.issued + 1, lease, .scheduled, deadline⟩ } rfl rfl delay
      exact fun _ _ => Or.inl (Or.inr (Or.inl waiting))
  · refine steady.watched.persist (room_grows_of_ne same _) rfl fun tends => ?_
    cases tends
    contradiction

theorem Steady.watched_concluded {next : Next}
    (steady : Steady secret (k, .ending other (.timer number generation) result))
    (found : (k.room other).lines[number]? = some line)
    (ending : Ending line.lineage k.policy.strategy k.policy.floor k.policy.threshold k.now
      generation Lease.renewable result after next)
    (final : ∀ generation delay, next ≠ .wait generation delay) :
    Watched secret (k.relined other number line after, hand') := by
  by_cases same : secret = other
  · subst same
    cases steady.extended found ending with
    | taken moved =>
      have room : (k.relined secret number line line.lineage).room secret = k.room secret :=
        (room_setRoom_self k secret _).trans (Room.setLine_self found)
      refine steady.watched.persist (.of_eq room) rfl fun tends => ?_
      cases tends with
      | ending _ _ _ renewing =>
        obtain ⟨_, held, holds, own, phase⟩ := renewing
        obtain rfl := Option.some.inj (found.symm.trans holds.found)
        exact absurd phase (moved held holds.slot own)
    | again => exact absurd rfl (final _ _)
  · refine steady.watched.elsewhere same _ ?_
    rintro ⟨⟩
    contradiction

end

theorem Act.watched (act : Act state state') (rotating : secret.isRotating = true)
    (steady : Steady secret state) : Watched secret state' := by
  have watched := steady.watched
  cases act with
  | aside k k' hand aside =>
    have room := room_of_rooms aside.rooms secret
    exact watched.persist (.of_eq room) aside.started fun tends => Or.inr (tends.of_room room)
  | opened k other waiting absent => exact .of_stopped waiting
  | enrolled k other ticket started absent =>
    by_cases same : secret = other
    · subst same
      exact fun _ _ => Or.inr (.owing _ _ List.mem_cons_self)
    · exact watched.elsewhere same _ (by rintro ⟨⟩)
  | begun k ticket idle =>
    exact fun _ registered => Or.inr (.owing _ _ (mem_registered registered))
  | owed k other purpose rest own =>
    refine watched.persist (call_grows k other purpose _ secret) rfl fun tends => ?_
    cases tends with
    | owing _ _ member =>
      rcases List.mem_cons.mp member with rfl | later
      · exact Or.inl (Or.inl ⟨_, called k secret purpose _, own, rfl⟩)
      · exact Or.inr (.owing _ _ later)
  | promised k other ticket rest =>
    refine watched.persist (promise_grows k other ticket secret) rfl fun tends => ?_
    cases tends with
    | owing _ _ member =>
      rcases List.mem_cons.mp member with rfl | later
      · exact Or.inl (Or.inl ⟨_, Keeper.promised k secret ticket, rfl, rfl⟩)
      · exact Or.inr (.owing _ _ later)
  | paid => exact watched.persist (.refl _) rfl fun tends => by cases tends; contradiction
  | asked k other => exact watched.persist (call_grows k other _ _ secret) rfl (by rintro ⟨⟩)
  | forgotten k other => exact watched.without other (by rintro ⟨⟩)
  | released k other => exact watched.without other (by rintro ⟨⟩)
  | done => exact watched.persist (.refl _) rfl (by rintro ⟨⟩)
  | poured k ticket other lease =>
    exact watched.persist (revoke_grows k other _ lease _ secret) (emit_tells k _).started
      (by rintro ⟨⟩)
  | spared => exact watched.persist (.refl _) rfl (by rintro ⟨⟩)
  | drained => exact watched.persist (.refl _) rfl (by rintro ⟨⟩)
  | pursued k other number generation lease =>
    have grows := renewOrFetch_grows k other (.timer number generation) lease secret
    refine watched.persist grows ?_ fun tends => ?_
    · unfold renewOrFetch
      split <;> rfl
    · cases tends with
      | claimed _ _ _ renewing =>
        obtain ⟨errand, flying, kind⟩ :=
          renewOrFetch_called k secret (.timer number generation) lease
        exact Or.inl (Or.inr (Or.inr ⟨_, _, grows.renewing renewing, _, flying, rfl, kind⟩))
  | surrendered k other number generation lease unowned =>
    exact (steady.not_unowned unowned).elim
  | late k other purpose response stopped => exact .of_stopped stopped
  | published k other purpose response =>
    refine watched.persist ?_ (emit_tells _ _).started fun tends => ?_
    · rw [emit_room]
      refine forall_setRoom (P := fun secret room => (k.room secret).Grows room) ?_
        (fun _ => .refl _) secret
      exact ⟨rfl, rfl, fun _ => id⟩
    · cases tends with
      | fetched => exact Or.inr (.published _ _)
  | kept k k' other purpose lease scheduled => exact steady.watched_kept rotating scheduled
  | refused k other purpose lease closed => exact steady.watched_refused closed
  | outlasted k k' other purpose lease scheduled =>
    exact (steady.not_outlasted scheduled).elim
  | revoked k other purpose lease result =>
    exact watched.persist (revoke_grows k other purpose lease result secret)
      (emit_tells k _).started (by rintro ⟨⟩)
  | dropped => exact watched.persist (.refl _) rfl (by rintro ⟨⟩)
  | extended =>
    refine watched.persist (.refl _) rfl fun tends => ?_
    cases tends with
    | renewed _ _ _ _ renewing => exact Or.inr (.ending _ _ _ renewing)
  | refetched k other purpose =>
    have grows := call_grows k other purpose .fetch secret
    refine watched.persist grows rfl fun tends => ?_
    cases tends with
    | renewed number generation _ _ renewing =>
      exact Or.inl (Or.inr (Or.inr ⟨_, _, grows.renewing renewing, _, called k secret _ _, rfl,
        by simp⟩))
  | expired k other purpose lease next short renewing =>
    have differ : secret ≠ other := by
      rintro rfl
      rw [rotating] at renewing
      cases renewing
    refine watched.elsewhere differ _ ?_
    rintro ⟨⟩
    contradiction
  | resumed k other number generation again delay line result after found ending =>
    exact steady.watched_resumed found ending
  | concluded k other number generation line result after next found ending final =>
    exact steady.watched_concluded found ending final
  | lost k other number generation result absent =>
    refine watched.persist (.refl _) rfl fun tends => ?_
    cases tends with
    | ending _ _ _ renewing =>
      obtain ⟨_, _, holds, _⟩ := renewing
      have found := holds.found
      rw [absent] at found
      cases found
  | decided k k' other ticket lease =>
    exact (steady.not_demanded rfl).elim
  | overran k k' other ticket lease =>
    exact (steady.not_demanded rfl).elim
  | ended k other purpose result ticket own =>
    refine watched.persist (.refl _) rfl fun tends => ?_
    cases tends
    cases own
  | crashed => exact steady.favours.elim

theorem Act.owned (act : Act state state') : state'.1.owned = state.1.owned := by
  cases act with
  | aside k k' hand aside => exact aside.owned
  | poured => exact (emit_tells _ _).owned
  | pursued k other number generation lease =>
    unfold renewOrFetch
    split <;> rfl
  | published => exact (emit_tells _ _).owned
  | kept k k' other purpose lease scheduled => cases scheduled <;> rfl
  | outlasted k k' other purpose lease scheduled =>
    cases scheduled
    rfl
  | revoked => exact (emit_tells _ _).owned
  | decided k k' other ticket lease kind scheduled => cases scheduled <;> rfl
  | overran k k' other ticket lease scheduled =>
    cases scheduled
    rfl
  | _ => rfl

theorem Act.steady (act : Act state state') (rotating : secret.isRotating = true)
    (steady : Steady secret state) : Steady secret state' where
  fit := act.fit steady.fit
  lined := (act.moves True fun _ _ => trivial).1.lined steady.lined
  undemanded other := act.undemanded (steady.undemanded other)
  owned := act.owned.trans steady.owned
  renewals flight flying lease own := by
    rcases act.flights flying with old | asks
    · exact steady.renewals flight old lease own
    · exact asks.renewal own
  favours := act.favours rotating steady
  tidy := act.tidy steady
  watched := act.watched rotating steady

/-! ### One step -/

variable {event : KeeperEvent} {k₀ : Keeper} {hand : Hand}

theorem Favours.of_failure {other : Secret} {purpose : Purpose} {reply : Reply}
    (favours : k.Favours secret (.answer other purpose reply)) (failure : reply.isFailure = true) :
    other ≠ secret := by
  cases reply with
  | fetched result => cases result <;> first | exact favours | cases failure
  | renewed result => cases result <;> first | exact favours | cases failure
  | revoked => cases failure

theorem Begins.favours (begins : Begins k event k₀ hand) (favours : k.Favours secret event) :
    hand.Favours secret k₀ := by
  cases begins with
  | failed other purpose errand reply fault failure =>
    exact fun same => absurd same (favours.of_failure failure)
  | fetched => exact favours
  | renewed =>
    intro same
    obtain ⟨id, further, fits⟩ := favours same
    exact ⟨id, further, fits⟩
  | revoked => exact fun same => absurd same favours
  | _ => trivial

theorem Begins.tidy (begins : Begins k event k₀ hand) (tidy : (k.room secret).Tidy) :
    (k₀.room secret).Tidy := by
  have landed (other : Secret) (purpose : Purpose) :
      ((k.landed other purpose).room secret).Tidy :=
    tidy.of_lines (read_setRoom Room.lines (by rfl) secret)
  cases begins with
  | refused => exact tidy
  | told event k' aside => exact (Room.Grows.of_eq (room_of_rooms aside.rooms secret)).tidy tidy
  | operated => exact tidy
  | inquired ticket other lease => exact (renewOrFetch_grows k other _ lease secret).tidy tidy
  | asked other ticket => exact (asked_grows k other ticket secret).tidy tidy
  | emptied =>
    rw [room_emptied]
    exact tidy.vacated.of_lines rfl
  | failed other purpose => exact landed other purpose
  | fetched other purpose => exact landed other purpose
  | renewed other purpose => exact landed other purpose
  | revoked other purpose => exact landed other purpose
  | claimed other number generation due line held found waiting ripe before own scheduled =>
    refine tidy_setRoom tidy fun same => ?_
    subst same
    exact tidy.setLine number ((tidy number line found).claim before own scheduled)
  | missed other number generation due line found waiting ripe moved =>
    refine tidy_setRoom tidy fun same => ?_
    subst same
    exact tidy.setLine number ((tidy number line found).miss moved)
  | noticed other number generation line found =>
    refine tidy_setRoom tidy fun same => ?_
    subst same
    exact tidy.setLine number (tidy number line found)
  | passed => exact tidy
  | disowned => exact tidy

theorem Steady.answered {purpose : Purpose} {lease : Lease} (next : Lease)
    (steady : Steady secret (k, .free))
    (flown : (k.room secret).flight? purpose = some ⟨purpose, .renew lease⟩)
    (tended : (k.room secret).Tended) : ((k.landed secret purpose).room secret).Tended ∨
      Hand.Tends secret (k.landed secret purpose) (.renewed secret purpose lease next) := by
  have unfetched := steady.renewals _ (Room.mem_of_flight? flown) lease rfl
  have room := landed_room k secret purpose
  have lines : ((k.landed secret purpose).room secret).lines = (k.room secret).lines := by
    rw [room]
    rfl
  have registered : ((k.landed secret purpose).room secret).registered =
      (k.room secret).registered := by
    rw [room]
    rfl
  have flies {flight : Flight} (flying : flight ∈ (k.room secret).flights)
      (differ : flight.purpose ≠ purpose) :
      flight ∈ ((k.landed secret purpose).room secret).flights := by
    rw [room]
    exact List.mem_filter.mpr ⟨flying, by simpa using differ⟩
  rcases tended with ⟨flight, flying, own, fetch⟩ | waiting |
    ⟨number, generation, renewing, flight, flying, own, kind⟩
  · have differ : flight.purpose ≠ purpose := by
      rintro rfl
      rw [own] at unfetched
      cases unfetched
    exact Or.inl (Or.inl ⟨flight, flies flying differ, own, fetch⟩)
  · exact Or.inl (Or.inr (Or.inl (waiting.of_lines lines registered)))
  · have still := renewing.of_lines lines registered
    by_cases same : flight.purpose = purpose
    · obtain rfl : purpose = .timer number generation := same.symm.trans own
      exact Or.inr (.renewed number generation lease next still)
    · exact Or.inl (Or.inr (Or.inr
        ⟨number, generation, still, flight, flies flying same, own, kind⟩))

theorem Begins.watched (begins : Begins k event k₀ hand) (favours : k.Favours secret event)
    (steady : Steady secret (k, .free)) : Watched secret (k₀, hand) := by
  have watched := steady.watched
  have landed {other : Secret} (differ : secret ≠ other) (purpose : Purpose) (hand : Hand) :
      Watched secret (k.landed other purpose, hand) := watched.elsewhere differ _ (by rintro ⟨⟩)
  cases begins with
  | refused => exact watched
  | told event k' aside =>
    exact watched.persist (.of_eq (room_of_rooms aside.rooms secret)) aside.started (by rintro ⟨⟩)
  | operated => exact watched.persist (.refl _) rfl (by rintro ⟨⟩)
  | inquired => exact favours.elim
  | asked other ticket =>
    exact watched.persist (asked_grows k other ticket secret) rfl (by rintro ⟨⟩)
  | emptied =>
    obtain ⟨rooms, frame⟩ := emptied_frame k
    exact .of_stopped (by rw [frame])
  | failed other purpose errand reply fault failure =>
    exact landed (favours.of_failure failure).symm purpose _
  | fetched other purpose response =>
    by_cases same : secret = other
    · subst same
      exact fun _ _ => Or.inr (.fetched purpose response)
    · exact landed same purpose _
  | renewed other purpose lease next flown =>
    by_cases same : secret = other
    · subst same
      intro started registered
      have known : (k.room secret).registered = true :=
        (congrArg Room.registered (landed_room k secret purpose)).symm.trans registered
      have tended := (watched started known).resolve_right (by rintro ⟨⟩)
      exact steady.answered next flown tended
    · exact landed same purpose _
  | revoked other purpose => exact landed (Ne.symm favours) purpose _
  | claimed other number generation due line held found waiting ripe before own scheduled =>
    by_cases same : secret = other
    · subst same
      have holds := holds_of_slot steady.fit.rested found before
      refine fun _ _ => Or.inr (.claimed number generation held.lease ?_)
      refine ⟨_, _, ⟨?_, lines_fired found _ generation, rfl⟩, own, rfl⟩
      rw [fired, room_setRoom_self, Room.setLine_lineNumber?]
      exact holds.used
    · exact watched.elsewhere same _ (by rintro ⟨⟩)
  | missed other number generation due line found waiting ripe moved =>
    by_cases same : secret = other
    · subst same
      intro started registered
      rw [fired, room_setRoom_self] at registered ⊢
      have tended := (watched started registered).resolve_right (by rintro ⟨⟩)
      exact Or.inl (tended.leave found rfl fun held slot scheduled own =>
        moved held slot own scheduled)
    · exact watched.elsewhere same _ (by rintro ⟨⟩)
  | noticed other number generation line found cancelled =>
    by_cases same : secret = other
    · subst same
      intro started registered
      rw [fired, room_setRoom_self] at registered ⊢
      have tended := (watched started registered).resolve_right (by rintro ⟨⟩)
      have tidy : line.lineage.Tidy := steady.tidy number line found
      refine Or.inl (tended.leave found rfl fun held slot scheduled own => ?_)
      have pending := (tidy.mem_timers_iff generation).mpr ⟨held, slot, scheduled, own⟩
      exact tidy.live generation pending (List.contains_iff_mem.mp cancelled)
    · exact watched.elsewhere same _ (by rintro ⟨⟩)
  | passed => exact watched.persist (.refl _) rfl (by rintro ⟨⟩)
  | disowned => exact favours.elim

theorem Begins.steady (begins : Begins k event k₀ hand) (favours : k.Favours secret event)
    (steady : Steady secret (k, .free)) : Steady secret (k₀, hand) where
  fit := begins.fit steady.fit
  lined := (begins.moves True fun _ => trivial).1.lined steady.lined
  undemanded other := begins.undemanded (by rintro ticket rfl; exact favours)
    (steady.undemanded other)
  owned := by
    have owned : k.owned = true := steady.owned
    cases begins with
    | told event k' aside => exact aside.owned.trans owned
    | inquired => exact favours.elim
    | emptied =>
      obtain ⟨rooms, frame⟩ := emptied_frame k
      rw [frame]
      exact owned
    | disowned => exact favours.elim
    | _ => exact owned
  renewals flight flying lease own := by
    rcases begins.flights flying with old | ⟨ticket, demand, rfl⟩
    · exact steady.renewals flight old lease own
    · exact favours.elim
  favours := begins.favours favours
  tidy := begins.tidy steady.tidy
  watched := begins.watched favours steady

theorem step_steady (rotating : secret.isRotating = true) (favours : k.Favours secret event)
    (steady : Steady secret (k, .free)) : Steady secret (k.step event, .free) := by
  obtain ⟨k₀, hand, begins, acts⟩ := step_acts k event
  exact acts.keep (fun _ _ act => act.steady rotating) (begins.steady favours steady)

theorem run_steady {events : List KeeperEvent} (rotating : secret.isRotating = true)
    (favoured : k.Along (Favours secret) events) (steady : Steady secret (k, .free)) :
    Steady secret (k.run events, .free) := by
  induction events generalizing k with
  | nil => exact steady
  | cons event rest ih => exact ih favoured.2 (step_steady rotating favoured.1 steady)

theorem steady_new (policy : LeasePolicy) (secret : Secret) :
    Steady secret (new policy, .free) where
  fit := fit_new policy
  lined _ registered := by cases registered
  undemanded := undemanded_new policy
  owned := rfl
  renewals _ flying := by cases flying
  favours := trivial
  tidy _ _ found := by cases found
  watched started := by cases started

/-! ### Between two calls -/

/-- The secret's one timer is pending, and whenever it fires the store is asked to renew the lease
or to give another. -/
structure Awaiting (k : Keeper) (secret : Secret) (number generation due : Nat) : Prop where
  active : (k.room secret).isActive = true
  pending : ∃ line, (k.room secret).line? = some line ∧ line.lineage.timers = [generation] ∧
    line.lineage.isCancelled generation = false ∧ line.waits.lookup generation = some due
  call : ∀ span, due ≤ k.now + span → ∃ errand, ⟨.timer number generation, errand⟩ ∈
    (((k.step (.pass span)).step (.fire secret number generation)).room secret).flights ∧
      ∀ lease result, errand ≠ .revoke lease result

theorem fire_called {number due : Nat} {line : Line} {held : Held} (owned : k.owned = true)
    (holds : (k.room secret).Holds number line held) (scheduled : held.phase = .scheduled)
    (waiting : line.waits.lookup held.generation = some due) (ripe : due ≤ k.now) :
    ∃ errand, ⟨.timer number held.generation, errand⟩ ∈
      ((k.step (.fire secret number held.generation)).room secret).flights ∧
        ∀ lease result, errand ≠ .revoke lease result := by
  rcases fire_cases line.lineage held.generation with
    ⟨other, slot, own, _, claimed⟩ | ⟨missed, _⟩
  · simp only [step, fire, holds.found, waiting, if_pos ripe, claimed]
    rw [if_pos (by simp [isHeld, owned])]
    exact renewOrFetch_called _ secret _ other.lease
  · exact absurd scheduled (missed held holds.slot rfl)

theorem Steady.awaiting (steady : Steady secret (k, .free)) (started : k.started = true)
    (registered : (k.room secret).registered = true)
    (idle : ∀ flight ∈ (k.room secret).flights, ∃ lease result,
      flight.errand = .revoke lease result) :
    ∃ number generation due, k.Awaiting secret number generation due := by
  have tended := (steady.watched started registered).resolve_right (by rintro ⟨⟩)
  rcases tended with ⟨flight, flying, _, fetch⟩ |
    ⟨number, line, held, holds, scheduled, waiting⟩ | ⟨_, _, _, flight, flying, _, kind⟩
  · obtain ⟨lease, result, revoke⟩ := idle flight flying
    rw [fetch] at revoke
    cases revoke
  · obtain ⟨due, waiting⟩ := Option.isSome_iff_exists.mp waiting
    have tidy : line.lineage.Tidy := steady.tidy number line holds.found
    have timers : line.lineage.timers = [held.generation] :=
      tidy.registered.trans (awaited_of_scheduled holds.slot scheduled)
    have used : (k.room secret).line? = some line :=
      (Room.line?_of_number holds.used).trans holds.found
    refine ⟨number, held.generation, due, ?_, ⟨line, used, timers, ?_, waiting⟩, ?_⟩
    · simp [Room.isActive, used, isActive, holds.slot, scheduled]
    · have live := tidy.live held.generation (timers ▸ List.mem_cons_self)
      simpa [isCancelled] using live
    · intro span ripe
      exact fire_called (k := k.step (.pass span)) steady.owned holds scheduled waiting ripe
  · obtain ⟨lease, result, revoke⟩ := idle flight flying
    exact absurd revoke (kind lease result)

/-- In every run in which the store grants what it is asked for a rotating secret, renews no lease
for it without an id and none that is neither renewable nor near its end, and no lease outlasts the
clock: whenever no fetch or renewal of the secret is under way, its timer is pending. -/
theorem rotating_secret_awaits_timer (policy : LeasePolicy) (events : List KeeperEvent)
    (secret : Secret) (rotating : secret.isRotating = true)
    (favoured : (new policy).Along (Favours secret) events)
    (started : ((new policy).run events).started = true)
    (registered : (((new policy).run events).room secret).registered = true)
    (idle : ∀ flight ∈ (((new policy).run events).room secret).flights, ∃ lease result,
      flight.errand = .revoke lease result) :
    ∃ number generation due, ((new policy).run events).Awaiting secret number generation due :=
  (run_steady rotating favoured (steady_new policy secret)).awaiting started registered idle

/-- A lease is renewed, then renewed for too short a time, and the secret is fetched again; the
new lease is only a time to live. -/
theorem rotation_after_short_renewal :
    let secret : Secret := ⟨"database/creds/app", .rotate⟩
    let first : Response := ⟨"", "a", 120, true, none, none, none⟩
    let second : Response := ⟨"", "", 40, false, none, none, none⟩
    let events : List KeeperEvent := [.request 1 (.add secret), .request 2 .start, .ask secret 2,
      .answer secret (.start 2) (.fetched (.ok first)), .pass (Span.seconds 60),
      .fire secret 0 1, .answer secret (.timer 0 1) (.renewed (.ok ⟨"a", 90, true⟩)),
      .pass (Span.seconds 30), .fire secret 0 2,
      .answer secret (.timer 0 2) (.renewed (.ok ⟨"a", 30, false⟩)),
      .answer secret (.timer 0 2) (.fetched (.ok second))]
    let k := (new .default).run events
    (new .default).Along (Favours secret) events ∧ k.current secret = some ⟨"", 40, false⟩ ∧
      ∃ number generation due, k.Awaiting secret number generation due := by
  intro secret first second events k
  have favoured : (new .default).Along (Favours secret) events := by
    refine ⟨trivial, trivial, trivial, ⟨?_, ?_⟩, trivial, trivial, fun _ => ⟨?_, ?_, ?_⟩, trivial,
      trivial,
      fun _ => ⟨?_, ?_, ?_⟩, ⟨?_, ?_⟩, trivial⟩
    all_goals decide
  have idle : (k.room secret).flights = [] := List.isEmpty_iff.mp (by decide)
  refine ⟨favoured, by decide, ?_⟩
  have started : k.started = true := by decide
  have registered : (k.room secret).registered = true := by decide
  exact rotating_secret_awaits_timer .default events secret rfl favoured started registered
    fun flight flying => by
      rw [idle] at flying
      cases flying

structure Abandoned (k : Keeper) (secret : Secret) : Prop where
  started : k.started = true
  registered : (k.room secret).registered = true
  idle : (k.room secret).flights.isEmpty = true
  inactive : (k.room secret).isActive = false

/-- After a renewal without an id, after one that is neither renewable nor near its end, and after
the fetch of a lease that outlasts the clock. -/
theorem rotating_secret_abandoned :
    let secret : Secret := ⟨"database/creds/app", .rotate⟩
    let begun : List KeeperEvent := [.request 1 (.add secret), .request 2 .start, .ask secret 2]
    let fetched (seconds : Nat) : KeeperEvent :=
      .answer secret (.start 2) (.fetched (.ok ⟨"", "a", seconds, true, none, none, none⟩))
    let renewed (next : Lease) : List KeeperEvent := begun ++ [fetched 120,
      .pass (Span.seconds 60), .fire secret 0 1, .answer secret (.timer 0 1) (.renewed (.ok next))]
    ((new .default).run (renewed Lease.none)).Abandoned secret ∧
      ((new .default).run (renewed ⟨"a", 100, false⟩)).Abandoned secret ∧
      ((new .default).run (begun ++ [fetched 18446744073709551615])).Abandoned secret :=
  ⟨⟨by decide, by decide, by decide, by decide⟩, ⟨by decide, by decide, by decide, by decide⟩,
    ⟨by decide, by decide, by decide, by decide⟩⟩

end Keeper
end LeaseKeeper

import LeaseKeeper.Proofs.Keeper.Moves

/-!
The acts of a step, finer than its moves: between two acts the step has something in hand, such as
an answer whose consequences are still to come, or a lease that is in nobody's care. An act says
what it finds in hand and what it leaves there, so an invariant may speak of a lease on its way from
the store to a line, or from a line to its revocation.
-/
namespace LeaseKeeper

def Purpose.isFetch : Purpose → Bool
  | .register _ | .start _ | .rotate _ => true
  | _ => false

def Errand.isFetch : Errand → Bool
  | .fetch => true
  | _ => false

namespace Keeper

open Lineage

inductive Scheduled (k : Keeper) (secret : Secret) (lease : Lease) :
    Keeper × Scheduling → Prop where
  | refused (closed : (k.room secret).line? = none ∨ k.started = false) :
      Scheduled k secret lease (k, .refused)
  | outlasted (number : Nat) (line : Line) (started : k.started = true)
      (schedulable : isSchedulable secret lease = true)
      (numbered : (k.room secret).lineNumber? = some number)
      (found : (k.room secret).lines[number]? = some line)
      (overflow : deadline? k.now lease.span = none) :
      Scheduled k secret lease (k.relined secret number line (line.lineage.issue true), .overflow)
  | installed (number : Nat) (line : Line) (deadline level : Nat) (started : k.started = true)
      (schedulable : isSchedulable secret lease = true)
      (numbered : (k.room secret).lineNumber? = some number)
      (found : (k.room secret).lines[number]? = some line)
      (fits : deadline? k.now lease.span = some deadline) :
      Scheduled k secret lease
        ((k.arm secret number { line with lineage := line.lineage.replaced lease deadline }
          (line.lineage.issued + 1) (k.policy.delay lease)).setGauge level, .kept)
  | disabled (number : Nat) (line : Line) (level : Nat) (started : k.started = true)
      (unschedulable : isSchedulable secret lease = false)
      (numbered : (k.room secret).lineNumber? = some number)
      (found : (k.room secret).lines[number]? = some line) :
      Scheduled k secret lease
        ((k.relined secret number line line.lineage.disable.1).setGauge level, .kept)

theorem schedule_scheduled (k : Keeper) (secret : Secret) (lease : Lease) :
    Scheduled k secret lease (k.schedule secret lease) := by
  cases present : (k.room secret).line? with
  | none =>
    have refused : k.schedule secret lease = (k, .refused) := by
      simp only [schedule, present]
      cases (k.room secret).lineNumber? <;> rfl
    exact refused ▸ .refused (Or.inl present)
  | some line =>
    obtain ⟨number, numbered, found⟩ := Room.line?_eq_some present
    simp only [schedule, numbered, present]
    cases started : k.started with
    | false => exact .refused (Or.inr started)
    | true =>
      cases schedulable : isSchedulable secret lease with
      | false => exact .disabled number line _ started schedulable numbered found
      | true =>
        rcases install_cases line.lineage k.now lease with
          ⟨overflow, result⟩ | ⟨deadline, fits, result⟩
        · simp only [result]
          exact .outlasted number line started schedulable numbered found overflow
        · simp only [result]
          exact .installed number line deadline _ started schedulable numbered found fits

theorem Scheduled.moves {live : Prop} {k : Keeper} {secret : Secret} {lease : Lease}
    {outcome : Keeper × Scheduling} (scheduled : Scheduled k secret lease outcome)
    (running : k.started = true → live) : Moves live k outcome.1 := by
  cases scheduled with
  | refused => exact .none k
  | outlasted number line started schedulable numbered found overflow =>
    exact .one (.outlasted secret lease number line (running started) started numbered found
      overflow)
  | installed number line deadline level started schedulable numbered found fits =>
    exact (Moves.one (.installed secret lease number line deadline (running started) started
      schedulable numbered found fits)).before_aside (setGauge_aside _ level)
  | disabled number line level started unschedulable numbered found =>
    exact (Moves.one (.disabled secret lease number line (running started) started unschedulable
      numbered found)).before_aside (setGauge_aside _ level)

/-- What a step has in hand between two of its acts. -/
inductive Hand where
  | free
  | busy
  | owing (purpose : Purpose) (secrets : List Secret)
  | fetched (secret : Secret) (purpose : Purpose) (response : Response)
  | published (secret : Secret) (purpose : Purpose) (lease : Lease)
  | loose (secret : Secret) (purpose : Purpose) (lease : Lease) (result : Except Fault Lease)
  | renewed (secret : Secret) (purpose : Purpose) (lease next : Lease)
  | claimed (secret : Secret) (number generation : Nat) (lease : Lease)
  | spilled (ticket : Nat) (leases : List (Secret × Lease))
  | ending (secret : Secret) (purpose : Purpose) (result : Except Fault Lease)
  | dying (ticket : Nat)

def fallsShort (k : Keeper) (next : Lease) : Prop :=
  next.hasId = true ∧ next.span < k.policy.threshold

theorem hasId_none : Lease.none.hasId = false := by decide

inductive Act : Keeper × Hand → Keeper × Hand → Prop where
  | aside (k k' : Keeper) (hand : Hand) (aside : Aside k k') : Act (k, hand) (k', hand)
  | opened (k : Keeper) (secret : Secret) (waiting : k.started = false)
      (absent : (k.room secret).registered = false) :
      Act (k, .busy) (k.setRoom secret
        { k.room secret with
          lines := (k.room secret).lines ++ [⟨.new, []⟩]
          registered := true }, .busy)
  | enrolled (k : Keeper) (secret : Secret) (ticket : Nat) (started : k.started = true)
      (absent : (k.room secret).registered = false) :
      Act (k, .busy) (k.setRoom secret
        { k.room secret with
          lines := (k.room secret).lines ++ [⟨.new, []⟩]
          registered := true }, .owing (.register ticket) [secret])
  | begun (k : Keeper) (ticket : Nat) (idle : k.started = false) :
      Act (k, .busy) ({ k with started := true }, .owing (.start ticket) k.registered)
  | owed (k : Keeper) (secret : Secret) (purpose : Purpose) (rest : List Secret)
      (own : purpose.isFetch = true) :
      Act (k, .owing purpose (secret :: rest)) (k.call secret purpose .fetch, .owing purpose rest)
  | promised (k : Keeper) (secret : Secret) (ticket : Nat) (rest : List Secret) :
      Act (k, .owing (.start ticket) (secret :: rest))
        (k.promise secret ticket, .owing (.start ticket) rest)
  | paid (k : Keeper) (purpose : Purpose) : Act (k, .owing purpose []) (k, .busy)
  | asked (k : Keeper) (secret : Secret) (ticket : Nat) (started : k.started = true)
      (present : (k.room secret).registered = true) :
      Act (k, .busy) (k.call secret (.rotate ticket) .fetch, .busy)
  | forgotten (k : Keeper) (secret : Secret) (present : (k.room secret).registered = true)
      (vacant : k.current secret = none) :
      Act (k, .busy) (k.without secret, .busy)
  | released (k : Keeper) (secret : Secret) (ticket : Nat) (lease : Lease)
      (present : (k.room secret).registered = true) (current : k.current secret = some lease) :
      Act (k, .busy) (k.without secret,
        .loose secret (.remove ticket) lease (.ok lease))
  | done (k : Keeper) : Act (k, .busy) (k, .free)
  | poured (k : Keeper) (ticket : Nat) (secret : Secret) (lease : Lease)
      (rest : List (Secret × Lease)) (revocable : lease.isRevocable = true) :
      Act (k, .spilled ticket ((secret, lease) :: rest))
        (k.revoke secret (.destroy ticket) lease (.ok lease), .spilled ticket rest)
  | spared (k : Keeper) (ticket : Nat) (secret : Secret) (lease : Lease)
      (rest : List (Secret × Lease)) (idle : lease.isRevocable = false) :
      Act (k, .spilled ticket ((secret, lease) :: rest)) (k, .spilled ticket rest)
  | drained (k : Keeper) (ticket : Nat) : Act (k, .spilled ticket []) (k, .busy)
  | pursued (k : Keeper) (secret : Secret) (number generation : Nat) (lease : Lease) :
      Act (k, .claimed secret number generation lease)
        (k.renewOrFetch secret (.timer number generation) lease, .free)
  /-- Nobody is left who could reach the keeper. -/
  | surrendered (k : Keeper) (secret : Secret) (number generation : Nat) (lease : Lease)
      (unowned : k.owned = false) :
      Act (k, .claimed secret number generation lease)
        (k, .ending secret (.timer number generation) (.ok Lease.none))
  | late (k : Keeper) (secret : Secret) (purpose : Purpose) (response : Response)
      (stopped : k.started = false) :
      Act (k, .fetched secret purpose response)
        (k, .loose secret purpose response.lease (.ok Lease.none))
  | published (k : Keeper) (secret : Secret) (purpose : Purpose) (response : Response)
      (started : k.started = true) :
      Act (k, .fetched secret purpose response)
        ((k.setRoom secret { k.room secret with data := some response.flattened }).emit
          (.created secret response.lease response.flattened),
          .published secret purpose response.lease)
  | kept (k k' : Keeper) (secret : Secret) (purpose : Purpose) (lease : Lease)
      (scheduled : Scheduled k secret lease (k', .kept)) :
      Act (k, .published secret purpose lease) (k', .ending secret purpose (.ok lease))
  | refused (k : Keeper) (secret : Secret) (purpose : Purpose) (lease : Lease)
      (closed : (k.room secret).line? = none ∨ k.started = false) :
      Act (k, .published secret purpose lease) (k, .loose secret purpose lease (.ok lease))
  | outlasted (k k' : Keeper) (secret : Secret) (purpose : Purpose) (lease : Lease)
      (scheduled : Scheduled k secret lease (k', .overflow)) :
      Act (k, .published secret purpose lease) (k', purpose.ticket?.elim .free .dying)
  | revoked (k : Keeper) (secret : Secret) (purpose : Purpose) (lease : Lease)
      (result : Except Fault Lease) (revocable : lease.isRevocable = true) :
      Act (k, .loose secret purpose lease result) (k.revoke secret purpose lease result, .busy)
  | dropped (k : Keeper) (secret : Secret) (purpose : Purpose) (lease : Lease)
      (result : Except Fault Lease) (idle : lease.isRevocable = false) :
      Act (k, .loose secret purpose lease result) (k, .ending secret purpose result)
  | extended (k : Keeper) (secret : Secret) (purpose : Purpose) (lease next : Lease)
      (enough : ¬ k.fallsShort next) :
      Act (k, .renewed secret purpose lease next) (k, .ending secret purpose (.ok next))
  | refetched (k : Keeper) (secret : Secret) (purpose : Purpose) (lease next : Lease)
      (short : k.fallsShort next) (rotating : secret.isRotating = true) :
      Act (k, .renewed secret purpose lease next) (k.call secret purpose .fetch, .free)
  | expired (k : Keeper) (secret : Secret) (purpose : Purpose) (lease next : Lease)
      (short : k.fallsShort next) (renewing : secret.isRotating = false) :
      Act (k, .renewed secret purpose lease next)
        (k.setRoom secret { k.room secret with data := none },
          .ending secret purpose (.ok Lease.none))
  | resumed (k : Keeper) (secret : Secret) (number generation next delay : Nat) (line : Line)
      (result : Except Fault Lease) (after : Lineage)
      (found : (k.room secret).lines[number]? = some line)
      (ending : Ending line.lineage k.policy.strategy k.policy.floor k.policy.threshold k.now
        generation Lease.renewable result after (.wait next delay)) :
      Act (k, .ending secret (.timer number generation) result)
        (k.arm secret number { line with lineage := after } next delay, .free)
  | concluded (k : Keeper) (secret : Secret) (number generation : Nat) (line : Line)
      (result : Except Fault Lease) (after : Lineage) (next : Next)
      (found : (k.room secret).lines[number]? = some line)
      (ending : Ending line.lineage k.policy.strategy k.policy.floor k.policy.threshold k.now
        generation Lease.renewable result after next)
      (final : ∀ generation delay, next ≠ .wait generation delay) :
      Act (k, .ending secret (.timer number generation) result)
        (k.relined secret number line after, .free)
  | lost (k : Keeper) (secret : Secret) (number generation : Nat) (result : Except Fault Lease)
      (absent : (k.room secret).lines[number]? = none) :
      Act (k, .ending secret (.timer number generation) result) (k, .free)
  | decided (k k' : Keeper) (secret : Secret) (ticket : Nat) (lease : Lease) (kind : Scheduling)
      (scheduled : Scheduled k secret lease (k', kind)) (fits : kind ≠ .overflow) :
      Act (k, .ending secret (.renew ticket) (.ok lease)) (k', .busy)
  | overran (k k' : Keeper) (secret : Secret) (ticket : Nat) (lease : Lease)
      (scheduled : Scheduled k secret lease (k', .overflow)) :
      Act (k, .ending secret (.renew ticket) (.ok lease)) (k', .dying ticket)
  | ended (k : Keeper) (secret : Secret) (purpose : Purpose) (result : Except Fault Lease)
      (ticket : Nat) (own : purpose.ticket? = some ticket)
      (undecided : ∀ lease, result = .ok lease → purpose ≠ .renew ticket) :
      Act (k, .ending secret purpose result) (k, .busy)
  | crashed (k : Keeper) (ticket : Nat) :
      Act (k, .dying ticket) (k.mapRooms (·.dropTicket ticket), .busy)

abbrev Acts : Keeper × Hand → Keeper × Hand → Prop := Relation.ReflTransGen Act

theorem Acts.keep {P : Keeper × Hand → Prop} (each : ∀ state state', Act state state' → P state →
    P state') {state state' : Keeper × Hand} (acts : Acts state state') (holds : P state) :
    P state' := by
  induction acts with
  | refl => exact holds
  | tail _ last ih => exact each _ _ last ih

/-! ### Acts are moves -/

theorem revoke_moves {live : Prop} (k : Keeper) (secret : Secret) (purpose : Purpose)
    (lease : Lease) (result : Except Fault Lease) :
    Moves live k (k.revoke secret purpose lease result) :=
  (Moves.of_aside (emit_aside k rfl)).tail (.called secret purpose _)

theorem renewOrFetch_moves {live : Prop} (k : Keeper) (secret : Secret) (purpose : Purpose)
    (lease : Lease) : Moves live k (k.renewOrFetch secret purpose lease) := by
  unfold renewOrFetch
  split
  · exact .one (.called secret purpose _)
  · exact .one (.called secret purpose _)

def Hand.installs : Hand → Prop
  | .fetched _ _ _ | .published _ _ _ => True
  | .loose _ purpose _ _ | .renewed _ purpose _ _ | .ending _ purpose _ =>
    ∃ ticket, purpose = .renew ticket
  | _ => False

/-- An act is a sequence of moves, and what it installs or publishes belongs to a step that began
with something to install. -/
theorem Act.moves (live : Prop) {state state' : Keeper × Hand} (act : Act state state')
    (running : state.2.installs → state.1.started = true → live) :
    Moves live state.1 state'.1 ∧ (state'.2.installs → state'.1.started = true → live) := by
  cases act with
  | aside k k' hand aside =>
    exact ⟨.of_aside aside, fun open_hand started => running open_hand (aside.started ▸ started)⟩
  | opened k secret waiting absent => exact ⟨.one (.opened secret absent), False.elim⟩
  | enrolled k secret ticket started absent => exact ⟨.one (.opened secret absent), False.elim⟩
  | begun k ticket idle => exact ⟨.one (.begun idle), False.elim⟩
  | owed k secret purpose => exact ⟨.one (.called secret purpose .fetch), False.elim⟩
  | promised k secret ticket => exact ⟨.one (.promised secret ticket), False.elim⟩
  | paid => exact ⟨.none _, False.elim⟩
  | asked k secret ticket => exact ⟨.one (.called secret (.rotate ticket) .fetch), False.elim⟩
  | forgotten k secret present => exact ⟨.one (.forgotten secret present), False.elim⟩
  | released k secret ticket lease present =>
    exact ⟨.one (.forgotten secret present), fun ⟨_, same⟩ => nomatch same⟩
  | done => exact ⟨.none _, False.elim⟩
  | poured k ticket secret lease => exact ⟨revoke_moves k secret _ lease _, False.elim⟩
  | spared => exact ⟨.none _, False.elim⟩
  | drained => exact ⟨.none _, False.elim⟩
  | pursued k secret number generation lease =>
    exact ⟨renewOrFetch_moves k secret _ lease, False.elim⟩
  | surrendered => exact ⟨.none _, fun ⟨_, same⟩ => nomatch same⟩
  | late k secret purpose response stopped =>
    exact ⟨.none _, fun _ started => absurd started (by simp [stopped])⟩
  | published k secret purpose response started =>
    have live_now := running trivial started
    exact ⟨.one (.published secret _ _ live_now started), fun _ _ => live_now⟩
  | kept k k' secret purpose lease scheduled =>
    have moves := scheduled.moves (running trivial)
    refine ⟨moves, fun _ _ => running trivial ?_⟩
    cases scheduled <;> assumption
  | refused k secret purpose lease =>
    exact ⟨.none _, fun _ started => running trivial started⟩
  | outlasted k k' secret purpose lease scheduled =>
    refine ⟨scheduled.moves (running trivial), ?_⟩
    cases purpose <;> exact False.elim
  | revoked k secret purpose lease result =>
    exact ⟨revoke_moves k secret purpose lease _, False.elim⟩
  | dropped => exact ⟨.none _, running⟩
  | extended => exact ⟨.none _, running⟩
  | refetched k secret purpose => exact ⟨.one (.called secret purpose .fetch), False.elim⟩
  | expired k secret purpose => exact ⟨.one (.expired secret), running⟩
  | resumed k secret number generation next delay line result after found ending =>
    exact ⟨.one (.resumed secret number generation next delay line result after found ending),
      False.elim⟩
  | concluded k secret number generation line result after next found ending final =>
    exact ⟨.one (.concluded secret number generation line result after next found ending final),
      False.elim⟩
  | lost => exact ⟨.none _, False.elim⟩
  | decided k k' secret ticket lease kind scheduled =>
    exact ⟨scheduled.moves (running ⟨ticket, rfl⟩), False.elim⟩
  | overran k k' secret ticket lease scheduled =>
    exact ⟨scheduled.moves (running ⟨ticket, rfl⟩), False.elim⟩
  | ended => exact ⟨.none _, False.elim⟩
  | crashed k ticket => exact ⟨.one (.crashed ticket), False.elim⟩

theorem Acts.moves (live : Prop) {state state' : Keeper × Hand} (acts : Acts state state')
    (running : state.2.installs → state.1.started = true → live) : Moves live state.1 state'.1 := by
  have both : Moves live state.1 state'.1 ∧
      (state'.2.installs → state'.1.started = true → live) := by
    induction acts with
    | refl => exact ⟨.none _, running⟩
    | tail _ last ih =>
      have onward := last.moves live ih.2
      exact ⟨ih.1.trans onward.1, onward.2⟩
  exact both.1

end Keeper
end LeaseKeeper

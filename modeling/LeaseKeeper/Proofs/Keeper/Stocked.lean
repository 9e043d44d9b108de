import LeaseKeeper.Proofs.Keeper.Demand

/-!
A secret with a lease has its data, except after a step of one of three kinds. The lines are guarded
by their generations but the data is not: a lease that expires takes the data away although a newer
one is current by then, and a renewal on demand makes a lease current without bringing data.
-/
namespace LeaseKeeper

open Lineage

def Room.Stocked (r : Room) : Prop := r.current.isSome = true → r.data.isSome = true

namespace Keeper

variable {k k' : Keeper} {state state' : Keeper × Hand}

def Stocked (k : Keeper) : Prop := ∀ secret, (k.room secret).Stocked

def Supplies (k : Keeper) (secret : Secret) (lease : Lease) : Prop :=
  (k.data secret).isSome = true ∨ k.adopts secret lease = false ∨
    deadline? k.now lease.span = none

/-- The events that leave a secret with a lease and without data. -/
inductive Loses (k : Keeper) : KeeperEvent → Prop where
  | expiry (secret : Secret) (purpose : Purpose) (lease next : Lease)
      (flown : (k.room secret).flight? purpose = some ⟨purpose, .renew lease⟩)
      (background : ∀ ticket, purpose ≠ .renew ticket) (short : k.fallsShort next)
      (renewing : secret.isRotating = false) (leased : k.current secret ≠ none)
      (newer : ∀ number generation, purpose = .timer number generation →
        k.tenure secret ≠ some (number, generation)) :
      Loses k (.answer secret purpose (.renewed (.ok next)))
  | renewal (secret : Secret) (ticket : Nat) (lease next : Lease)
      (flown : (k.room secret).flight? (.renew ticket) = some ⟨.renew ticket, .renew lease⟩)
      (enough : ¬ k.fallsShort next) (bare : ¬ k.Supplies secret next) :
      Loses k (.answer secret (.renew ticket) (.renewed (.ok next)))
  | revival (secret : Secret) (ticket : Nat) (lease given : Lease) (reply : Except Fault Unit)
      (flown : (k.room secret).flight? (.renew ticket) =
        some ⟨.renew ticket, .revoke lease (.ok given)⟩)
      (bare : ¬ k.Supplies secret given) :
      Loses k (.answer secret (.renew ticket) (.revoked reply))

/-- What is in hand is about to take the secret's lease away. -/
inductive Hand.Clears (k : Keeper) : Hand → Secret → Prop where
  | timer (secret : Secret) (number generation : Nat) (empty : Lease)
      (unnamed : empty.hasId = false) (own : k.tenure secret = some (number, generation)) :
      Clears k (.ending secret (.timer number generation) (.ok empty)) secret
  | demand (secret : Secret) (ticket : Nat) (empty : Lease)
      (unschedulable : isSchedulable secret empty = false) :
      Clears k (.ending secret (.renew ticket) (.ok empty)) secret

def Hand.Supplied (k : Keeper) : Hand → Prop
  | .published secret _ _ => (k.data secret).isSome = true
  | .loose secret purpose _ result | .ending secret purpose result =>
    ∀ ticket lease, purpose = .renew ticket → result = .ok lease → k.Supplies secret lease
  | .renewed secret purpose _ next =>
    (∀ ticket, purpose = .renew ticket → ¬ k.fallsShort next → k.Supplies secret next) ∧
    ((∀ ticket, purpose ≠ .renew ticket) → k.fallsShort next → secret.isRotating = false →
      k.current secret = none ∨
        ∃ number generation, purpose = .timer number generation ∧
          k.tenure secret = some (number, generation))
  | _ => True

structure Provided (state : Keeper × Hand) : Prop where
  stocked : ∀ secret, (state.1.room secret).Stocked ∨ state.2.Clears state.1 secret
  supplied : state.2.Supplied state.1

/-! ### What a lease and its data depend on -/

theorem tenure_of_lines {secret : Secret}
    (same : (k'.room secret).lines = (k.room secret).lines)
    (registered : (k'.room secret).registered = (k.room secret).registered) :
    k'.tenure secret = k.tenure secret := by
  simp [tenure, Room.lineNumber?, same, registered]

theorem supplied_of_room {hand : Hand} (room : ∀ secret, k'.room secret = k.room secret)
    (started : k'.started = k.started) (now : k'.now = k.now) (policy : k'.policy = k.policy)
    (supplied : hand.Supplied k) : hand.Supplied k' := by
  cases hand with
  | published | loose | ending | renewed =>
    simpa only [Hand.Supplied, Supplies, adopts, data, current, tenure, fallsShort, room, started,
      now, policy] using supplied
  | _ => trivial

theorem clears_of_room {hand : Hand} {secret : Secret}
    (room : ∀ secret, k'.room secret = k.room secret) (clears : hand.Clears k secret) :
    hand.Clears k' secret := by
  cases clears with
  | timer _ number generation empty unnamed own =>
    exact .timer secret number generation empty unnamed
      ((tenure_of_lines (by rw [room]) (by rw [room])).trans own)
  | demand _ ticket empty unschedulable => exact .demand secret ticket empty unschedulable

section
variable {secret : Secret} {room : Room}

theorem stocked_of_rooms (rooms : k'.rooms = k.rooms) (stocked : k.Stocked) : k'.Stocked :=
  fun secret => room_of_rooms rooms secret ▸ stocked secret

theorem stocked_setRoom (rest : ∀ other, other ≠ secret → (k.room other).Stocked)
    (here : room.Stocked) : (k.setRoom secret room).Stocked := by
  intro other
  by_cases same : other = secret
  · subst same
    rw [room_setRoom_self]
    exact here
  · rw [room_setRoom_of_ne k secret same]
    exact rest other same

theorem Stocked.call (stocked : k.Stocked) (secret : Secret) (purpose : Purpose)
    (errand : Errand) : (k.call secret purpose errand).Stocked :=
  stocked_of_rooms (k := k.setRoom secret ((k.room secret).board purpose errand)) rfl
    (stocked_setRoom (fun other _ => stocked other) (stocked secret))

theorem Stocked.revoke (stocked : k.Stocked) (secret : Secret) (purpose : Purpose) (lease : Lease)
    (result : Except Fault Lease) : (k.revoke secret purpose lease result).Stocked :=
  Stocked.call (stocked_of_rooms (emit_aside k rfl).rooms stocked) _ _ _

theorem Stocked.renewOrFetch (stocked : k.Stocked) (secret : Secret) (purpose : Purpose)
    (lease : Lease) : (k.renewOrFetch secret purpose lease).Stocked := by
  unfold Keeper.renewOrFetch
  split
  · exact stocked.call secret purpose _
  · exact stocked.call secret purpose _

theorem Stocked.vacant (stocked : k.Stocked) (vacant : room.current = none) :
    (k.setRoom secret room).Stocked :=
  stocked_setRoom (fun other _ => stocked other) (by simp [Room.Stocked, vacant])

theorem Stocked.setLine (stocked : k.Stocked) {number : Nat} {old line : Line}
    (found : (k.room secret).lines[number]? = some old)
    (kept : line.lineage.current = old.lineage.current) :
    (k.setRoom secret ((k.room secret).setLine number line)).Stocked := by
  refine stocked_setRoom (fun other _ => stocked other) fun leased => stocked secret ?_
  rw [Room.current_setLine found, kept] at leased
  split at leased
  · rename_i used
    rw [Room.current_of_used used found]
    exact leased
  · exact leased

end

/-! ### One act -/

theorem Scheduled.data {secret : Secret} {lease : Lease} {outcome : Keeper × Scheduling}
    (scheduled : Scheduled k secret lease outcome) (other : Secret) :
    outcome.1.data other = k.data other := by
  cases scheduled with
  | refused => rfl
  | _ => exact read_setRoom Room.data (by rfl) other

theorem Scheduled.stocked {secret : Secret} {lease : Lease} {kind : Scheduling}
    (scheduled : Scheduled k secret lease (k', kind)) (fits : kind ≠ .overflow)
    (rested : k.Rested) (rest : ∀ other, other ≠ secret → (k.room other).Stocked)
    (supplies : k.Supplies secret lease) : k'.Stocked := by
  cases scheduled with
  | refused closed =>
    intro other leased
    by_cases same : other = secret
    · subst same
      have vacant : (k.room other).current = none := rested.current_of_closed closed
      simp [vacant] at leased
    · exact rest other same leased
  | outlasted => exact absurd rfl fits
  | installed number line deadline level started schedulable used found deadline_fits =>
    refine stocked_of_rooms (k := k.setRoom secret _) rfl (stocked_setRoom rest fun _ => ?_)
    rcases supplies with supplied | refused | overflow
    · exact supplied
    · simp [adopts, started, registered_of_number used, schedulable] at refused
    · rw [deadline_fits] at overflow
      cases overflow
  | disabled number line level started unschedulable used found =>
    refine stocked_of_rooms (k := k.setRoom secret _) rfl (stocked_setRoom rest fun leased => ?_)
    rw [Room.current_setLine found, if_pos used] at leased
    cases leased

theorem Scheduled.stocked_of_overflow {secret : Secret} {lease : Lease}
    (scheduled : Scheduled k secret lease (k', .overflow)) (stocked : k.Stocked) : k'.Stocked := by
  cases scheduled with
  | outlasted number line started schedulable used found =>
    exact stocked.setLine found rfl

end Keeper

/-- A renewal task leaves a lease in the slot only where it found one, and none if it was told that
there is no lease any more. -/
theorem Lineage.Ending.leased {l : Lineage} {strategy : Strategy} {floor threshold now g : Nat}
    {reschedule : Lease → Bool} {result : Except Fault Lease} {after : Lineage} {next : Next}
    (ending : Ending l strategy floor threshold now g reschedule result after next)
    (leased : after.current.isSome = true) : l.current.isSome = true ∧
      ∀ empty held, result = .ok empty → empty.hasId = false → l.slot = some held →
        held.generation ≠ g := by
  cases ending with
  | stale _ moved taken => exact ⟨leased, taken⟩
  | forgotten => cases leased
  | dropped fault held drop before => simp [current, before]
  | renewed next held deadline id again before => simp [current, before, id]
  | rested next held deadline id last before => simp [current, before, id]
  | retained fault held retryAt keep before => simp [current, before]
  | exhausted fault held retryAt keep before => simp [current, before]
  | outlasted next held id before => simp [current, before, id]
  | overran fault held keep before => simp [current, before]

namespace Keeper

variable {k k' : Keeper} {state state' : Keeper × Hand}

namespace Provided

theorem of_stocked {hand : Hand} (stocked : k.Stocked) (supplied : hand.Supplied k) :
    Provided (k, hand) := ⟨fun secret => Or.inl (stocked secret), supplied⟩

theorem whole {hand : Hand} (provided : Provided (k, hand))
    (idle : ∀ secret, ¬ hand.Clears k secret) : k.Stocked :=
  fun secret => (provided.stocked secret).resolve_right (idle secret)

theorem idle {hand : Hand} (provided : Provided (k, hand))
    (idle : ∀ secret purpose result, hand ≠ .ending secret purpose result) : k.Stocked := by
  refine provided.whole fun secret clears => ?_
  cases clears with
  | timer => exact idle _ _ _ rfl
  | demand => exact idle _ _ _ rfl

variable {secret : Secret} {result : Except Fault Lease}

theorem others {purpose : Purpose} (provided : Provided (k, .ending secret purpose result))
    (other : Secret) (differ : other ≠ secret) : (k.room other).Stocked := by
  refine (provided.stocked other).resolve_right fun clears => ?_
  cases clears <;> exact differ rfl

theorem concluded {number generation : Nat} {line : Line} {after : Lineage} {next : Next}
    (provided : Provided (k, .ending secret (.timer number generation) result))
    (found : (k.room secret).lines[number]? = some line)
    (ending : Ending line.lineage k.policy.strategy k.policy.floor k.policy.threshold k.now
      generation Lease.renewable result after next) (waits : List (Nat × Nat)) :
    (k.setRoom secret ((k.room secret).setLine number ⟨after, waits⟩)).Stocked := by
  refine stocked_setRoom provided.others fun leased => ?_
  rw [Room.current_setLine found] at leased
  by_cases used : (k.room secret).lineNumber? = some number
  · rw [if_pos used] at leased
    obtain ⟨before, kept⟩ := ending.leased leased
    rcases provided.stocked secret with stocked | clears
    · exact stocked (by rw [Room.current_of_used used found]; exact before)
    · cases clears with
      | timer _ _ _ empty unnamed own =>
        rw [tenure_of_used used found, Option.map_eq_some_iff] at own
        obtain ⟨held, slot, same⟩ := own
        exact absurd (Prod.mk.inj same).2 (kept empty held rfl unnamed slot)
  · rw [if_neg used] at leased
    rcases provided.stocked secret with stocked | clears
    · exact stocked leased
    · cases clears with
      | timer _ _ _ empty unnamed own =>
        simp only [tenure, Option.bind_eq_some_iff, Option.map_eq_some_iff] at own
        obtain ⟨other, numbered, held, _, same⟩ := own
        obtain rfl := (Prod.mk.inj same).1
        exact absurd numbered used

theorem expired {purpose : Purpose} {lease next : Lease}
    (provided : Provided (k, .renewed secret purpose lease next)) (short : k.fallsShort next)
    (renewing : secret.isRotating = false) :
    Provided (k.setRoom secret { k.room secret with data := none },
      .ending secret purpose (.ok Lease.none)) := by
  have unnamed : Lease.none.hasId = false := by decide
  have unschedulable : isSchedulable secret Lease.none = false := by
    simp [isSchedulable, renewing, Lease.isRevocable, unnamed]
  refine ⟨fun other => ?_, ?_⟩
  · by_cases same : other = secret
    · subst same
      by_cases demanded : ∃ ticket, purpose = .renew ticket
      · obtain ⟨ticket, rfl⟩ := demanded
        exact Or.inr (.demand other ticket Lease.none unschedulable)
      · rcases provided.supplied.2 (fun ticket own => demanded ⟨ticket, own⟩) short renewing with
          vacant | ⟨number, generation, rfl, own⟩
        · have unleased : Room.current { k.room other with data := none } = none := vacant
          refine Or.inl fun leased => ?_
          rw [room_setRoom_self, unleased] at leased
          cases leased
        · refine Or.inr (.timer other number generation Lease.none unnamed ?_)
          refine (tenure_of_lines ?_ ?_).trans own
          · rw [room_setRoom_self]
          · rw [room_setRoom_self]
    · rw [room_setRoom_of_ne k secret same]
      exact Or.inl (provided.idle (by simp) other)
  · rintro ticket given own ⟨⟩
    exact Or.inr (Or.inl (by simp [adopts, unschedulable]))

end Provided

theorem Act.provided (act : Act state state') (rested : state.1.Rested)
    (provided : Provided state) : Provided state' := by
  cases act with
  | aside k k' hand aside =>
    have room (secret : Secret) := room_of_rooms aside.rooms secret
    refine ⟨fun secret => ?_, supplied_of_room room aside.started aside.now aside.policy
      provided.supplied⟩
    exact (provided.stocked secret).imp (room secret ▸ ·) (clears_of_room room)
  | opened k secret waiting absent =>
    exact .of_stocked ((provided.idle (by simp)).vacant (Room.current_open _)) trivial
  | enrolled k secret ticket started absent =>
    exact .of_stocked ((provided.idle (by simp)).vacant (Room.current_open _)) trivial
  | begun => exact .of_stocked (stocked_of_rooms rfl (provided.idle (by simp))) trivial
  | owed k secret purpose =>
    exact .of_stocked ((provided.idle (by simp)).call secret purpose _) trivial
  | promised k secret =>
    have idle : k.Stocked := provided.idle (by simp)
    exact .of_stocked (stocked_setRoom (fun other _ => idle other) (idle secret)) trivial
  | paid => exact .of_stocked (provided.idle (by simp)) trivial
  | asked k secret ticket => exact .of_stocked ((provided.idle (by simp)).call secret _ _) trivial
  | forgotten k secret =>
    exact .of_stocked ((provided.idle (by simp)).vacant (Room.current_of_unregistered rfl)) trivial
  | released k secret ticket lease =>
    exact .of_stocked ((provided.idle (by simp)).vacant (Room.current_of_unregistered rfl))
      (by rintro _ _ ⟨⟩)
  | done => exact .of_stocked (provided.idle (by simp)) trivial
  | poured k ticket secret lease =>
    exact .of_stocked ((provided.idle (by simp)).revoke secret _ lease _) trivial
  | spared => exact .of_stocked (provided.idle (by simp)) trivial
  | drained => exact .of_stocked (provided.idle (by simp)) trivial
  | pursued k secret number generation lease =>
    exact .of_stocked ((provided.idle (by simp)).renewOrFetch secret _ lease) trivial
  | surrendered => exact .of_stocked (provided.idle (by simp)) (by rintro _ _ ⟨⟩)
  | late k secret purpose response stopped =>
    refine .of_stocked (provided.idle (by simp)) ?_
    intro ticket lease own result
    exact Or.inr (Or.inl (by simp [adopts, stopped]))
  | published k secret purpose response started =>
    have here : (k.setRoom secret
        { k.room secret with data := some response.flattened }).Stocked :=
      stocked_setRoom (fun other _ => provided.idle (by simp) other) fun _ => rfl
    refine .of_stocked (stocked_of_rooms (emit_tells _ _).rooms here) ?_
    simp [Hand.Supplied, data, emit_room]
  | kept k k' secret purpose lease scheduled =>
    have present : (k.data secret).isSome = true := provided.supplied
    have stocked := provided.idle (by simp)
    have same : k'.data secret = k.data secret := scheduled.data secret
    refine .of_stocked (scheduled.stocked (by simp) rested (fun other _ => stocked other)
      (Or.inl present)) ?_
    intro ticket lease' own result
    exact Or.inl (same ▸ present)
  | refused k secret purpose lease closed =>
    have present : (k.data secret).isSome = true := provided.supplied
    exact .of_stocked (provided.idle (by simp)) fun _ _ _ _ => Or.inl present
  | outlasted k k' secret purpose lease scheduled =>
    refine .of_stocked (scheduled.stocked_of_overflow (provided.idle (by simp))) ?_
    cases purpose <;> trivial
  | revoked k secret purpose lease result =>
    exact .of_stocked ((provided.idle (by simp)).revoke secret purpose lease result) trivial
  | dropped => exact .of_stocked (provided.idle (by simp)) provided.supplied
  | extended k secret purpose lease next enough =>
    refine .of_stocked (provided.idle (by simp)) ?_
    rintro ticket lease' own ⟨⟩
    exact provided.supplied.1 ticket own enough
  | refetched k secret purpose =>
    exact .of_stocked ((provided.idle (by simp)).call secret purpose _) trivial
  | expired k secret purpose lease next short renewing => exact provided.expired short renewing
  | resumed k secret number generation next delay line result after found ending =>
    exact .of_stocked (stocked_of_rooms rfl (provided.concluded found ending _)) trivial
  | concluded k secret number generation line result after next found ending =>
    exact .of_stocked (provided.concluded found ending line.waits) trivial
  | lost k secret number generation result absent =>
    refine .of_stocked (provided.whole fun other clears => ?_) trivial
    cases clears with
    | timer _ _ _ empty unnamed own =>
      simp only [tenure, Option.bind_eq_some_iff, Option.map_eq_some_iff] at own
      obtain ⟨_, _, _, ⟨_, found, _⟩, same⟩ := own
      obtain rfl := (Prod.mk.inj same).1
      rw [absent] at found
      cases found
  | decided k k' secret ticket lease kind scheduled fits =>
    exact .of_stocked (scheduled.stocked fits rested provided.others
      (provided.supplied ticket lease rfl rfl)) trivial
  | overran k k' secret ticket lease scheduled =>
    refine .of_stocked (scheduled.stocked_of_overflow
      (provided.whole fun other clears => ?_)) trivial
    cases scheduled with
    | outlasted number line started schedulable =>
      cases clears with
      | demand _ _ _ unschedulable =>
        rw [schedulable] at unschedulable
        cases unschedulable
  | ended k secret purpose result ticket own undecided =>
    refine .of_stocked (provided.whole fun other clears => ?_) trivial
    cases clears with
    | timer => cases own
    | demand _ _ empty =>
      obtain rfl := Option.some.inj own
      exact undecided empty rfl rfl
  | crashed k ticket =>
    refine .of_stocked (fun secret => ?_) trivial
    rw [room_dropTicket]
    exact provided.idle (by simp) secret

/-! ### One step -/

section
variable (k : Keeper) (secret : Secret) (purpose : Purpose)

theorem landed_current : (k.landed secret purpose).current secret = k.current secret := by
  rw [current, landed_room]
  rfl

theorem landed_tenure : (k.landed secret purpose).tenure secret = k.tenure secret :=
  tenure_of_lines (by rw [landed_room]; rfl) (by rw [landed_room]; rfl)

theorem landed_data : (k.landed secret purpose).data secret = k.data secret := by
  rw [data, landed_room]
  rfl

theorem landed_supplies (lease : Lease) :
    (k.landed secret purpose).Supplies secret lease ↔ k.Supplies secret lease := by
  have registered : ((k.landed secret purpose).room secret).registered =
      (k.room secret).registered := by
    rw [landed_room]
    rfl
  simp only [Supplies, adopts, landed_data, registered]
  rfl

end

variable {event : KeeperEvent}

theorem Begins.provided {k₀ : Keeper} {hand : Hand} (begins : Begins k event k₀ hand)
    (kept : ¬ k.Loses event) (stocked : k.Stocked) : Provided (k₀, hand) := by
  have landed (secret : Secret) (purpose : Purpose) : (k.landed secret purpose).Stocked :=
    stocked_setRoom (fun other _ => stocked other) (stocked secret)
  cases begins with
  | refused => exact .of_stocked stocked trivial
  | told event k' aside => exact .of_stocked (stocked_of_rooms aside.rooms stocked) trivial
  | operated => exact .of_stocked stocked trivial
  | inquired ticket secret lease => exact .of_stocked (stocked.renewOrFetch secret _ lease) trivial
  | asked secret ticket =>
    have turned : (k.setRoom secret ((k.room secret).ask ticket)).Stocked :=
      stocked_setRoom (fun other _ => stocked other) (stocked secret)
    exact .of_stocked (stocked_of_rooms rfl turned) trivial
  | emptied ticket =>
    refine .of_stocked (fun secret leased => ?_) trivial
    have vacant : Room.current { (k.room secret).vacated with data := none } = none :=
      Room.current_vacated _
    rw [room_emptied, vacant] at leased
    cases leased
  | failed secret purpose =>
    exact .of_stocked (landed secret purpose) (by rintro _ _ _ ⟨⟩)
  | fetched secret purpose => exact .of_stocked (landed secret purpose) trivial
  | renewed secret purpose lease next flown =>
    refine .of_stocked (landed secret purpose) ⟨?_, ?_⟩
    · rintro ticket rfl enough
      rw [landed_supplies]
      exact Classical.byContradiction fun bare =>
        kept (.renewal secret ticket lease next flown enough bare)
    · intro background short renewing
      rw [landed_current, landed_tenure]
      refine Classical.byContradiction fun lost => ?_
      obtain ⟨leased, newer⟩ := not_or.mp lost
      exact kept (.expiry secret purpose lease next flown background short renewing leased
        fun number generation own held => newer ⟨number, generation, own, held⟩)
  | revoked secret purpose lease result reply flown =>
    refine .of_stocked (landed secret purpose) ?_
    rintro ticket given rfl rfl
    rw [landed_supplies]
    exact Classical.byContradiction fun bare =>
      kept (.revival secret ticket lease given reply flown bare)
  | claimed secret number generation due line held found waiting ripe before =>
    exact .of_stocked (stocked.setLine found (by simp [Lineage.current, before])) trivial
  | missed secret number generation due line found =>
    exact .of_stocked (stocked.setLine found rfl) trivial
  | noticed secret number generation line found =>
    exact .of_stocked (stocked.setLine found rfl) trivial
  | passed => exact .of_stocked stocked trivial
  | disowned => exact .of_stocked stocked trivial

theorem endRenew_bare {secret : Secret} {ticket : Nat} {lease : Lease} (rested : k.Rested)
    (lined : k.Lined) (unbound : k.binds.find? ticket = none) (bare : ¬ k.Supplies secret lease) :
    ¬ (k.endRenew ticket secret (.ok lease)).Stocked := by
  obtain ⟨empty, taken, fits⟩ : (k.data secret).isSome = false ∧ k.adopts secret lease = true ∧
      deadline? k.now lease.span ≠ none := by
    simpa only [Supplies, not_or, Bool.not_eq_true, Bool.not_eq_false] using bare
  have scheduled := schedule_scheduled k secret lease
  simp only [endRenew]
  generalize k.schedule secret lease = outcome at scheduled
  obtain ⟨k', kind⟩ := outcome
  have bound : k'.binds = k.binds := (Meanwhile.scheduled scheduled).binds
  have ended (on_time : kind ≠ .overflow) (answer : KeeperAnswer) :
      ¬ (k'.complete ticket answer).Stocked := by
    intro stocked
    have noted : k'.complete ticket answer = k'.note (.returned ticket answer) := by
      simp only [complete, bound, unbound]
    have leased : k'.current secret = some lease := by
      rw [scheduled.current on_time rested lined, if_pos taken]
    have present : (k'.data secret).isSome = true := by
      have held : (k'.room secret).current.isSome = true := Option.isSome_of_eq_some leased
      exact stocked_of_rooms (by rw [noted]; rfl) stocked secret held
    rw [scheduled.data secret, empty] at present
    cases present
  cases kind with
  | kept => exact ended (by simp) _
  | refused => exact ended (by simp) _
  | overflow =>
    cases scheduled with
    | outlasted number line started schedulable used found overflow => exact absurd overflow fits

theorem endTimer_room {secret : Secret} {number : Nat} {line : Line}
    (found : (k.room secret).lines[number]? = some line) (generation : Nat)
    (result : Except Fault Lease) : ∃ waits,
      (k.endTimer secret number generation result).room secret = (k.room secret).setLine number
        ⟨(line.lineage.conclude k.policy.strategy k.policy.floor k.policy.threshold k.now generation
          Lease.renewable result).1, waits⟩ := by
  simp only [endTimer, found]
  generalize line.lineage.conclude k.policy.strategy k.policy.floor k.policy.threshold k.now
    generation Lease.renewable result = outcome
  obtain ⟨after, next⟩ := outcome
  cases next <;> exact ⟨_, room_setRoom_self k secret _⟩

theorem endRenewal_newer {secret : Secret} {purpose : Purpose}
    (background : ∀ ticket, purpose ≠ .renew ticket)
    (newer : ∀ number generation, purpose = .timer number generation →
      k.tenure secret ≠ some (number, generation)) :
    (k.endRenewal secret purpose (.ok Lease.none)).current secret = k.current secret ∧
      (k.endRenewal secret purpose (.ok Lease.none)).data secret = k.data secret := by
  cases purpose with
  | renew ticket => exact absurd rfl (background ticket)
  | timer number generation =>
    simp only [endRenewal]
    cases found : (k.room secret).lines[number]? with
    | none =>
      simp [endTimer, found]
    | some line =>
      obtain ⟨waits, room⟩ := endTimer_room found generation (.ok Lease.none)
      have ending := conclude_ending line.lineage k.policy.strategy k.policy.floor
        k.policy.threshold k.now generation Lease.renewable (.ok Lease.none)
      rw [current, data, room]
      refine ⟨(Room.current_setLine found _).trans ?_, rfl⟩
      split
      · rename_i used
        have gone (held : Held) (slot : line.lineage.slot = some held) :
            held.generation ≠ generation := by
          intro own
          apply newer number generation rfl
          rw [tenure_of_used used found, slot, Option.map_some, own]
        rw [ending.unchanged gone, current, Room.current_of_used used found]
      · rfl
  | _ => exact ⟨rfl, rfl⟩

def Unbound (k : Keeper) : KeeperEvent → Prop
  | .answer _ (.renew ticket) _ => k.binds.find? ticket = none
  | _ => True

theorem supplies_of_telling (told : Telling k k') (secret : Secret) (lease : Lease) :
    k'.Supplies secret lease ↔ k.Supplies secret lease := by
  simp only [Supplies, adopts, data, room_of_rooms told.rooms, told.started, told.now]

theorem step_answer {secret : Secret} {purpose : Purpose} {lease : Lease}
    (flown : (k.room secret).flight? purpose = some ⟨purpose, .renew lease⟩)
    (result : Except Fault Lease) : k.step (.answer secret purpose (.renewed result)) =
      (k.landed secret purpose).renewed secret purpose lease result := by
  simp only [step, answer, flown]
  rfl

theorem Loses.lost (loses : k.Loses event) (rested : k.Rested) (lined : k.Lined)
    (unbound : k.Unbound event) : ¬ (k.step event).Stocked := by
  have demanded {secret : Secret} {ticket : Nat} {k₁ : Keeper} {lease : Lease}
      (told : Telling (k.landed secret (.renew ticket)) k₁)
      (unbound : k.binds.find? ticket = none) (bare : ¬ k.Supplies secret lease) :
      ¬ (k₁.endRenew ticket secret (.ok lease)).Stocked := by
    have landed : Meanwhile k (k.landed secret (.renew ticket)) := .landed secret rfl
    have meanwhile := landed.trans (.of_telling told)
    refine endRenew_bare (meanwhile.moves.keep (fun _ _ move => move.rested) rested)
      (meanwhile.moves.lined lined) (meanwhile.binds ▸ unbound) ?_
    rwa [supplies_of_telling told, landed_supplies]
  cases loses with
  | expiry secret purpose lease next flown background short renewing leased newer =>
    obtain ⟨k₁, told, result⟩ := renewed_told (k.landed secret purpose) secret purpose lease next
    have falls : k₁.fallsShort next := by
      rw [fallsShort, told.policy]
      exact short
    have room : ((k₁.setRoom secret { k₁.room secret with data := none }).emit
        (.expired secret next)).room secret =
        { (k.room secret).dropFlight purpose with data := none } := by
      rw [emit_room, room_setRoom_self, room_of_rooms told.rooms, landed_room]
    rw [step_answer flown, result,
      if_neg (mt (not_fallsShort_iff k₁ next).mpr (not_not_intro falls)),
      if_neg (by simp [renewing])]
    generalize (k₁.setRoom secret _).emit _ = k₂ at room
    have held : k₂.tenure secret = k.tenure secret :=
      tenure_of_lines (by rw [room]; rfl) (by rw [room]; rfl)
    obtain ⟨current, data⟩ := endRenewal_newer background (held ▸ newer)
    intro stocked
    have present : (k₂.current secret).isSome = true := by
      rw [Keeper.current, room]
      exact Option.isSome_iff_ne_none.mpr leased
    have lacking := stocked secret (current.symm ▸ present :)
    rw [show (Keeper.room _ secret).data = k₂.data secret from data, Keeper.data, room] at lacking
    cases lacking
  | renewal secret ticket lease next flown enough bare =>
    obtain ⟨k₁, told, result⟩ :=
      renewed_told (k.landed secret (.renew ticket)) secret (.renew ticket) lease next
    have long : ¬ k₁.fallsShort next := by
      rw [fallsShort, told.policy]
      exact enough
    rw [step_answer flown, result, if_pos ((not_fallsShort_iff k₁ next).mp long)]
    exact demanded told unbound bare
  | revival secret ticket lease given reply flown bare =>
    obtain ⟨k₁, told, result⟩ := revoked_told (k.landed secret (.renew ticket)) secret
      (.renew ticket) lease (.ok given) reply
    have stepped : k.step (.answer secret (.renew ticket) (.revoked reply)) =
        (k.landed secret (.renew ticket)).revoked secret (.renew ticket) lease (.ok given)
          reply := by
      simp only [step, answer, flown]
      rfl
    rw [stepped, result]
    exact demanded (told.trans (count_telling k₁ _)) unbound bare

theorem step_stocked_iff (fit : Fit (k, .free)) (lined : k.Lined) (stocked : k.Stocked)
    (unbound : k.Unbound event) : (k.step event).Stocked ↔ ¬ k.Loses event := by
  constructor
  · intro after loses
    exact loses.lost fit.rested lined unbound after
  · intro kept
    obtain ⟨k₀, hand, begins, acts⟩ := step_acts k event
    have both : Fit (k.step event, .free) ∧ Provided (k.step event, .free) := by
      refine acts.keep (P := fun state => Fit state ∧ Provided state) ?_
        ⟨begins.fit fit, begins.provided kept stocked⟩
      rintro _ _ act ⟨fit, provided⟩
      exact ⟨act.fit fit, act.provided fit.rested provided⟩
    exact both.2.idle (by simp)

theorem run_stocked_iff {events : List KeeperEvent} (fit : Fit (k, .free)) (lined : k.Lined)
    (stocked : k.Stocked) (unbound : k.Along Unbound events) :
    k.Along (fun k event => (k.step event).Stocked) events ↔
      k.Along (fun k event => ¬ k.Loses event) events := by
  induction events generalizing k with
  | nil => exact Iff.rfl
  | cons event rest ih =>
    have step := step_stocked_iff fit lined stocked unbound.1
    have later (after : (k.step event).Stocked) := ih (step_fit fit event)
      ((step_moves k event).lined lined) after unbound.2
    constructor
    · rintro ⟨after, whole⟩
      exact ⟨step.mp after, (later after).mp whole⟩
    · rintro ⟨kept, whole⟩
      exact ⟨step.mpr kept, (later (step.mpr kept)).mpr whole⟩

/-- In every run, a secret with a lease has its data after each step until an event of one of the
three kinds, and after such an event some secret has a lease and no data. -/
theorem stocked_iff_never_lost (policy : LeasePolicy) (events : List KeeperEvent)
    (unbound : (new policy).Along Unbound events) :
    (new policy).Along (fun k event => (k.step event).Stocked) events ↔
      (new policy).Along (fun k event => ¬ k.Loses event) events :=
  run_stocked_iff (fit_new policy) nofun nofun unbound

/-- A lease expires while it is current, and takes its data along. -/
theorem stocked_through_expiry :
    let secret : Secret := ⟨"database/creds/app", .renew⟩
    let response : Response := ⟨"", "a", 120, true, none, none, none⟩
    let events : List KeeperEvent := [.request 1 (.add secret), .request 2 .start, .ask secret 2,
      .answer secret (.start 2) (.fetched (.ok response)), .pass (Span.seconds 60),
      .fire secret 0 1, .answer secret (.timer 0 1) (.renewed (.ok ⟨"a", 30, true⟩))]
    (new .default).Along Unbound events ∧
      (new .default).Along (fun k event => (k.step event).Stocked) events := by
  intro secret response events
  have unbound : (new .default).Along Unbound events :=
    ⟨trivial, trivial, trivial, trivial, trivial, trivial, trivial, trivial⟩
  refine ⟨unbound, (stocked_iff_never_lost .default events unbound).mpr ?_⟩
  refine ⟨nofun, nofun, nofun, nofun, nofun, nofun, ?_, trivial⟩
  intro loses
  cases loses with
  | expiry _ _ _ _ _ _ _ _ _ newer => exact newer 0 1 rfl (by decide)

/-- A lease expires whose renewal took so long that a rotation came first. -/
theorem data_of_newer_lease_deleted :
    let secret : Secret := ⟨"database/creds/app", .renew⟩
    let first : Response := ⟨"", "a", 120, true, none, none, none⟩
    let second : Response := ⟨"", "b", 300, true, none, none, none⟩
    let k := (new .default).run [.request 1 (.add secret), .request 2 .start, .ask secret 2,
      .answer secret (.start 2) (.fetched (.ok first)), .pass (Span.seconds 60), .fire secret 0 1,
      .request 3 (.rotate secret), .answer secret (.rotate 3) (.fetched (.ok second))]
    let k' := k.step (.answer secret (.timer 0 1) (.renewed (.ok ⟨"a", 30, true⟩)))
    (k.data secret).isSome = true ∧ k'.current secret = some ⟨"b", 300, true⟩ ∧
      k'.data secret = none ∧ ¬ k'.Stocked := by
  intro secret first second k k'
  have current : k'.current secret = some ⟨"b", 300, true⟩ := by decide
  have lacking : k'.data secret = none := by decide
  refine ⟨by decide, current, lacking, fun stocked => ?_⟩
  have present := stocked secret (Option.isSome_of_eq_some current)
  rw [show (k'.room secret).data = none from lacking] at present
  cases present

end Keeper
end LeaseKeeper

import LeaseKeeper.Proofs.Keeper.Ledger
import Mathlib.Data.List.Nodup

/-!
Every lease has one owner at a time. In a run without renewals on demand a lease goes from the store
into the step's hand, from there into a line or to its revocation, and from a line to its revocation
when the line is taken out of service. When the store gives out each id once and a renewal keeps the
id it was given, no lease is revoked twice, and what stopping or removing finds current is revoked.
-/
namespace LeaseKeeper.Keeper

open Lineage

variable {k k' : Keeper} {state state' : Keeper × Hand}

/-- What is about to be put in the place of a lease has its id. -/
def Hand.Honest (k : Keeper) : Hand → Prop
  | .renewed _ _ lease next => next.hasId = true → next.id = lease.id
  | .ending secret purpose result => ∀ next, result = .ok next →
      k.Staked secret purpose fun current => next.hasId = true → next.id = current.id
  | _ => True

theorem Staked.of_empty {secret : Secret} {purpose : Purpose} {ok : Lease → Prop}
    (staked : k.Staked secret purpose ok) (next : Lease) (result : Except Fault Lease)
    (empty : result = .ok Lease.none) (same : result = .ok next) :
    k.Staked secret purpose fun current => next.hasId = true → next.id = current.id := by
  obtain rfl := Except.ok.inj (empty.symm.trans same)
  refine staked.weaken fun _ _ id => ?_
  rw [hasId_none] at id
  cases id

theorem Act.honest (act : Act state state') (fit : Fit state) (honest : state.2.Honest state.1) :
    state'.2.Honest state'.1 := by
  have onward := (act.moves True fun _ _ => trivial).1.onward
  cases act with
  | aside k k' hand aside =>
    cases hand with
    | ending secret purpose result => exact fun next same => (honest next same).onward onward
    | renewed => exact honest
    | _ => trivial
  | surrendered k secret number generation lease =>
    have staked : k.Staked secret (.timer number generation) (· = lease) := fit.hand
    exact fun next same => staked.of_empty next _ rfl same
  | kept k k' secret purpose lease scheduled =>
    exact fun next same => scheduled.unstaked fit.rested fit.hand
  | dropped k secret purpose lease result =>
    have staked : k.Staked secret purpose fun _ => False := fit.hand
    exact fun next same => staked.weaken fun _ => False.elim
  | extended k secret purpose lease next =>
    have staked : k.Staked secret purpose (· = lease) := fit.hand
    intro other same
    obtain rfl := Except.ok.inj same
    refine staked.weaken fun current own => ?_
    rw [own]
    exact honest
  | expired k secret purpose lease next =>
    have staked : k.Staked secret purpose (· = lease) := fit.hand
    exact fun next same => (staked.onward onward).of_empty next _ rfl same
  | outlasted k k' secret purpose => cases purpose <;> trivial
  | _ => trivial

theorem Ending.tally_le {l : Lineage} {strategy : Strategy} {floor threshold now g : Nat}
    {reschedule : Lease → Bool} {result : Except Fault Lease} {after : Lineage} {next : Next}
    (ending : Ending l strategy floor threshold now g reschedule result after next) (id : String)
    (honest : ∀ held, l.slot = some held → held.generation = g →
      ∀ next, result = .ok next → next.hasId = true → next.id = held.lease.id) :
    tally id after.current.toList ≤ tally id l.current.toList := by
  have kept {lease : Lease} {held : Held} (before : l.slot = some held)
      (same : lease.id = held.lease.id) :
      tally id [lease] ≤ tally id l.current.toList := by
    simp [Lineage.current, before, same]
  cases ending with
  | stale => exact Nat.le_refl _
  | forgotten => exact Nat.zero_le _
  | dropped fault held drop before => exact kept before rfl
  | renewed next held deadline named again before own =>
    exact kept before (honest held before own next rfl named)
  | rested next held deadline named last before own =>
    exact kept before (honest held before own next rfl named)
  | retained fault held retryAt keep before => exact kept before rfl
  | exhausted fault held retryAt keep before => exact kept before rfl
  | outlasted => exact Nat.le_refl _
  | overran => exact Nat.le_refl _

/-- An answer may take the lease of its own line away or put one with the same id in its place. -/
theorem ended_holdings {secret : Secret} {number generation : Nat} {line : Line}
    {result : Except Fault Lease} {after : Lineage} {next : Next} (waits : List (Nat × Nat))
    (id : String) (found : (k.room secret).lines[number]? = some line)
    (ending : Ending line.lineage k.policy.strategy k.policy.floor k.policy.threshold k.now
      generation Lease.renewable result after next)
    (honest : Hand.Honest k (.ending secret (.timer number generation) result)) :
    tally id (k.setRoom secret ((k.room secret).setLine number ⟨after, waits⟩)).holdings ≤
      tally id k.holdings := by
  refine holdings_setLine found (Ending.tally_le ending id ?_)
  intro held before own next same named
  obtain ⟨there, present, _, meets⟩ := honest next same number generation rfl
  obtain rfl := Option.some.inj (found.symm.trans present)
  exact (meets held before own).2 named

theorem Act.custody_le (act : Act state state') (honest : state.2.Honest state.1)
    (undemanded : ∀ secret, Undemanded secret state) (id : String) :
    custody id state' ≤ custody id state := by
  have demanded {secret : Secret} {ticket : Nat} (serves : state.2.Serves secret (.renew ticket)) :
      custody id state' ≤ custody id state := absurd serves ((undemanded secret).hand ticket)
  cases act with
  | aside k k' hand aside =>
    simp only [Keeper.custody, holdings_of_rooms aside.rooms, aside.revocations]
    exact Nat.le_refl _
  | opened k secret waiting absent =>
    exact Nat.le_of_eq (congrArg (· + tally id k.revocations + 0) (holdings_open id absent))
  | enrolled k secret ticket started absent =>
    exact Nat.le_of_eq (congrArg (· + tally id k.revocations + 0) (holdings_open id absent))
  | begun => exact Nat.le_refl _
  | owed k secret purpose rest =>
    simp [Keeper.custody, Hand.leases, holdings_call, revocations_call, Entry.revoked?]
  | promised k secret ticket =>
    exact Nat.le_of_eq (congrArg (· + tally id k.revocations + 0) (holdings_keep id _ rfl))
  | paid => exact Nat.le_refl _
  | asked k secret ticket =>
    simp [Keeper.custody, Hand.leases, holdings_call, revocations_call, Entry.revoked?]
  | forgotten k secret present vacant =>
    have moved := holdings_without (k := k) id secret
    rw [vacant] at moved
    exact Nat.le_of_eq (congrArg (· + tally id k.revocations + 0) moved)
  | released k secret ticket lease present current =>
    have moved := holdings_without (k := k) id secret
    have silent : (k.without secret).revocations = k.revocations := rfl
    rw [current] at moved
    simp only [Keeper.custody, Hand.leases, silent]
    simp only [Option.toList, tally_nil, tally_cons] at moved ⊢
    omega
  | done => exact Nat.le_refl _
  | poured k ticket secret lease rest =>
    simp only [Keeper.custody, Hand.leases, holdings_revoke, revocations_revoke, List.map_cons,
      tally_cons]
    omega
  | spared => simp [Keeper.custody, Hand.leases]
  | drained => exact Nat.le_refl _
  | pursued =>
    simp [Keeper.custody, Hand.leases, holdings_renewOrFetch, revocations_renewOrFetch]
  | surrendered => exact Nat.le_refl _
  | late => exact Nat.le_refl _
  | published k secret purpose response =>
    have stored := holdings_keep (k := k) id
      { k.room secret with data := some response.flattened } rfl
    simp only [Keeper.custody, Hand.leases, holdings_emit, revocations_emit]
    rw [stored]
    exact Nat.le_refl _
  | kept k k' secret purpose lease scheduled =>
    have moved := scheduled.holdings id
    have silent := scheduled.revocations
    simp only [Keeper.custody, Hand.leases, tally_nil] at moved silent ⊢
    rw [silent]
    omega
  | refused => exact Nat.le_refl _
  | outlasted k k' secret purpose lease scheduled =>
    have moved := scheduled.holdings id
    have silent := scheduled.revocations
    have empty : Hand.leases (purpose.ticket?.elim .free .dying) = [] := by cases purpose <;> rfl
    have held : (Hand.published secret purpose lease).leases = [lease] := rfl
    simp only [Keeper.custody, empty, held, tally_nil] at moved silent ⊢
    rw [silent]
    omega
  | revoked k secret purpose lease result =>
    simp only [Keeper.custody, Hand.leases, holdings_revoke, revocations_revoke, tally_nil,
      tally_cons]
    omega
  | dropped => simp [Keeper.custody, Hand.leases]
  | extended => exact Nat.le_refl _
  | refetched =>
    simp [Keeper.custody, Hand.leases, holdings_call, revocations_call, Entry.revoked?]
  | expired k secret purpose =>
    have same := holdings_keep (k := k) id { k.room secret with data := none } rfl
    exact Nat.le_of_eq (congrArg (· + tally id k.revocations + 0) same)
  | resumed k secret number generation next delay line result after found ending =>
    have moved := ended_holdings (line.waits ++ [(next, k.now + delay)]) id found ending honest
    have silent : (k.arm secret number { line with lineage := after } next delay).revocations =
        k.revocations := revocations_note _
    simp only [Keeper.custody, silent]
    exact Nat.add_le_add_right (Nat.add_le_add_right moved _) _
  | concluded k secret number generation line result after next found ending =>
    have moved := ended_holdings line.waits id found ending honest
    exact Nat.add_le_add_right (Nat.add_le_add_right moved _) _
  | lost => exact Nat.le_refl _
  | decided k k' secret ticket lease => exact demanded (.ending _ _ _)
  | overran k k' secret ticket lease => exact demanded (.ending _ _ _)
  | ended => exact Nat.le_refl _
  | crashed k ticket =>
    simp only [Keeper.custody]
    rw [holdings_mapRooms _ (by exact fun _ => rfl)]
    exact Nat.le_refl _

theorem Act.revocations (act : Act state state') :
    state'.1.revocations = state.1.revocations ∨
      ∃ lease, lease.isRevocable = true ∧
        state'.1.revocations = lease :: state.1.revocations := by
  cases act with
  | aside k k' hand aside => exact Or.inl aside.revocations
  | owed => exact Or.inl (revocations_call _ _ _)
  | asked => exact Or.inl (revocations_call _ _ _)
  | poured k ticket secret lease rest revocable =>
    exact Or.inr ⟨lease, revocable, revocations_revoke _ _ _ _⟩
  | pursued => exact Or.inl (revocations_renewOrFetch _ _ _)
  | published => exact Or.inl (revocations_emit _)
  | kept k k' secret purpose lease scheduled => exact Or.inl scheduled.revocations
  | outlasted k k' secret purpose lease scheduled => exact Or.inl scheduled.revocations
  | revoked k secret purpose lease result revocable =>
    exact Or.inr ⟨lease, revocable, revocations_revoke _ _ _ _⟩
  | refetched => exact Or.inl (revocations_call _ _ _)
  | resumed => exact Or.inl (revocations_note _)
  | decided k k' secret ticket lease kind scheduled => exact Or.inl scheduled.revocations
  | overran k k' secret ticket lease scheduled => exact Or.inl scheduled.revocations
  | _ => exact Or.inl rfl

/-! ### Whole runs -/

def grant? (k : Keeper) : KeeperEvent → Option Lease
  | .answer secret purpose (.fetched (.ok response)) =>
    match (k.room secret).flight? purpose with
    | some ⟨_, .fetch⟩ => some response.lease
    | _ => none
  | _ => none

def grants (k : Keeper) : List KeeperEvent → List Lease
  | [] => []
  | event :: rest => (k.grant? event).toList ++ (k.step event).grants rest

def isFaithful (k : Keeper) : KeeperEvent → Bool
  | .answer secret purpose (.renewed (.ok next)) =>
    match (k.room secret).flight? purpose with
    | some ⟨_, .renew lease⟩ => !next.hasId || next.id == lease.id
    | _ => true
  | _ => true

def allFaithful (k : Keeper) : List KeeperEvent → Bool
  | [] => true
  | event :: rest => k.isFaithful event && (k.step event).allFaithful rest

structure Orderly (state : Keeper × Hand) : Prop where
  fit : Fit state
  undemanded : ∀ secret, Undemanded secret state
  honest : state.2.Honest state.1

theorem Begins.honest {event : KeeperEvent} {k₀ : Keeper} {hand : Hand}
    (begins : Begins k event k₀ hand) (fit : Fit (k, .free))
    (faithful : k.isFaithful event = true) : hand.Honest k₀ := by
  cases begins with
  | failed => exact fun next same => nomatch same
  | renewed secret purpose lease next flown =>
    intro named
    simpa [isFaithful, flown, named] using faithful
  | revoked secret purpose lease result reply flown =>
    have gone : k.Staked secret purpose fun _ => False :=
      fit.flights secret _ (Room.mem_of_flight? flown)
    have onward := (Begins.revoked (k := k) secret purpose lease result reply flown).moves
      True fun _ => trivial
    exact fun next same => (gone.weaken fun _ => False.elim).onward onward.1.onward
  | _ => trivial

theorem Begins.custody_le {event : KeeperEvent} {k₀ : Keeper} {hand : Hand}
    (begins : Begins k event k₀ hand) (id : String) :
    custody id (k₀, hand) ≤ custody id (k, .free) + tally id (k.grant? event).toList := by
  have landed (secret : Secret) (purpose : Purpose) :
      tally id (k.landed secret purpose).holdings = tally id k.holdings :=
    holdings_keep id ((k.room secret).dropFlight purpose) rfl
  have waived {hand : Hand} (empty : hand.leases = []) {secret : Secret} {number : Nat}
      {old line : Line} (found : (k.room secret).lines[number]? = some old)
      (less : tally id line.lineage.current.toList ≤ tally id old.lineage.current.toList) :
      custody id (k.setRoom secret ((k.room secret).setLine number line), hand) ≤
        custody id (k, .free) + tally id (k.grant? event).toList := by
    have moved := holdings_setLine found less
    have silent : (k.setRoom secret ((k.room secret).setLine number line)).revocations =
        k.revocations := rfl
    simp only [custody, empty, silent, tally_nil]
    omega
  have same {hand : Hand} (empty : hand.leases = []) {secret : Secret} {purpose : Purpose} :
      custody id (k.landed secret purpose, hand) ≤
        custody id (k, .free) + tally id (k.grant? event).toList := by
    have silent : (k.landed secret purpose).revocations = k.revocations := rfl
    simp only [custody, empty, landed, silent]
    exact Nat.le_add_right _ _
  cases begins with
  | refused => exact Nat.le_add_right _ _
  | told event k' aside =>
    simp only [custody, holdings_of_rooms aside.rooms, aside.revocations]
    exact Nat.le_add_right _ _
  | operated => exact Nat.le_add_right _ _
  | inquired =>
    simp only [custody, holdings_renewOrFetch, revocations_renewOrFetch]
    exact Nat.le_add_right _ _
  | asked secret ticket =>
    have room : tally id (k.asked secret ticket).holdings = tally id k.holdings :=
      holdings_keep id ((k.room secret).ask ticket) rfl
    have silent : (k.asked secret ticket).revocations = k.revocations := rfl
    simp only [custody, room, silent]
    exact Nat.le_add_right _ _
  | emptied ticket =>
    have moved := emptied_holdings k id
    have silent : k.emptied.revocations = k.revocations := by
      obtain ⟨rooms, frame⟩ := emptied_frame k
      rw [frame]
      rfl
    simp only [custody, Hand.leases, silent, tally_nil]
    omega
  | failed => exact same rfl
  | fetched secret purpose response flown =>
    have granted : k.grant? (.answer secret purpose (.fetched (.ok response))) =
        some response.lease := by simp [grant?, flown]
    have silent : (k.landed secret purpose).revocations = k.revocations := rfl
    simp only [custody, Hand.leases, landed, silent, granted]
    exact Nat.le_refl _
  | renewed => exact same rfl
  | revoked => exact same rfl
  | claimed secret number generation due line held found waiting ripe before =>
    exact waived rfl found (by simp [Lineage.current, before])
  | missed secret number generation due line found =>
    exact waived rfl found (Nat.le_refl _)
  | noticed secret number generation line found => exact waived rfl found (Nat.le_refl _)
  | passed => exact Nat.le_add_right _ _
  | disowned => exact Nat.le_add_right _ _

theorem step_custody {event : KeeperEvent} (orderly : Orderly (k, .free))
    (unasked : ∀ ticket secret, event ≠ .request ticket (.renew secret))
    (faithful : k.isFaithful event = true) : Orderly (k.step event, .free) ∧
      ∀ id, custody id (k.step event, .free) ≤
        custody id (k, .free) + tally id (k.grant? event).toList := by
  obtain ⟨k₀, hand, begins, acts⟩ := step_acts k event
  have begun : Orderly (k₀, hand) := ⟨begins.fit orderly.fit,
    fun secret => begins.undemanded (unasked · secret) (orderly.undemanded secret),
    begins.honest orderly.fit faithful⟩
  have kept : Orderly (k.step event, .free) ∧
      ∀ id, custody id (k.step event, .free) ≤ custody id (k₀, hand) := by
    refine acts.keep (P := fun state => Orderly state ∧
      ∀ id, custody id state ≤ custody id (k₀, hand)) ?_ ⟨begun, fun _ => Nat.le_refl _⟩
    rintro state state' act ⟨orderly, less⟩
    refine ⟨⟨act.fit orderly.fit, fun secret => act.undemanded (orderly.undemanded secret),
      act.honest orderly.fit orderly.honest⟩, fun id => ?_⟩
    exact Nat.le_trans (act.custody_le orderly.honest orderly.undemanded id) (less id)
  exact ⟨kept.1, fun id => Nat.le_trans (kept.2 id) (begins.custody_le id)⟩

theorem run_custody {events : List KeeperEvent} (orderly : Orderly (k, .free))
    (unasked : ∀ ticket secret, .request ticket (.renew secret) ∉ events)
    (faithful : k.allFaithful events = true) (id : String) :
    custody id (k.run events, .free) ≤ custody id (k, .free) + tally id (k.grants events) := by
  induction events generalizing k with
  | nil => exact Nat.le_refl _
  | cons event rest ih =>
    simp only [allFaithful, Bool.and_eq_true] at faithful
    have stepped := step_custody orderly
      (fun ticket secret same => unasked ticket secret (same ▸ List.mem_cons_self)) faithful.1
    have later := ih stepped.1 (fun ticket secret member =>
      unasked ticket secret (List.mem_cons_of_mem _ member)) faithful.2
    have now := stepped.2 id
    simp only [grants, tally_append]
    exact Nat.le_trans later (by omega)

/-! ### Revocations -/

theorem emptied_revocations (k : Keeper) : k.emptied.revocations = k.revocations := by
  obtain ⟨rooms, frame⟩ := emptied_frame k
  rw [frame]
  rfl

theorem Begins.revocations {event : KeeperEvent} {k₀ : Keeper} {hand : Hand}
    (begins : Begins k event k₀ hand) : k₀.revocations = k.revocations := by
  cases begins with
  | told event k' aside => exact aside.revocations
  | inquired => exact revocations_renewOrFetch _ _ _
  | emptied => exact emptied_revocations k
  | _ => rfl

theorem run_revocable (policy : LeasePolicy) (events : List KeeperEvent) :
    ∀ lease ∈ ((new policy).run events).revocations, lease.isRevocable = true := by
  refine run_keep (P := fun k => ∀ lease ∈ k.revocations, lease.isRevocable = true) ?_
    (by simp [revocations, new]) events
  intro k event all
  obtain ⟨k₀, hand, begins, acts⟩ := step_acts k event
  refine acts.keep (P := fun state => ∀ lease ∈ state.1.revocations, lease.isRevocable = true)
    ?_ (begins.revocations ▸ all)
  intro state state' act before lease member
  rcases act.revocations with same | ⟨fresh, revocable, grown⟩
  · exact before lease (same ▸ member)
  · rw [grown] at member
    rcases List.mem_cons.mp member with rfl | old
    · exact revocable
    · exact before lease old

theorem revocations_suffix {live : Prop} (moves : Moves live k k') :
    k.revocations <:+ k'.revocations := by
  obtain ⟨fresh, journal⟩ := moves.journal
  exact ⟨fresh.filterMap (·.2.revoked?), by simp [revocations, journal]⟩

theorem revocations_run (k : Keeper) (events : List KeeperEvent) :
    k.revocations <:+ (k.run events).revocations :=
  run_keep (P := fun k' => k.revocations <:+ k'.revocations)
    (fun k' event known => known.trans (revocations_suffix (step_moves k' event)))
    (List.suffix_refl _) events

theorem revocations_revokes (ticket : Nat) (leases : List (Secret × Lease)) :
    (leases.foldl (fun k (secret, lease) =>
      k.revoke secret (.destroy ticket) lease (.ok lease)) k).revocations =
        (leases.map Prod.snd).reverse ++ k.revocations := by
  induction leases generalizing k with
  | nil => rfl
  | cons first rest ih => simp [ih, revocations_revoke]

theorem retired_revoked {secret : Secret} {lease : Lease} {operation : Operation} (ticket : Nat)
    (retires : operation = .destroy ∨ operation = .remove secret)
    (current : k.current secret = some lease) (revocable : lease.isRevocable = true) :
    lease ∈ (k.step (.request ticket operation)).revocations := by
  have goes_on {k₁ : Keeper} (asked : lease ∈ k₁.revocations) (answer : KeeperAnswer) :
      lease ∈ (k₁.complete ticket answer).revocations :=
    (revocations_suffix ((complete_acts k₁ ticket answer).moves True False.elim)).subset
      asked
  rcases retires with rfl | rfl
  · have asked : lease ∈ (k.destroy ticket).1.revocations := by
      rw [destroy_eq, revocations_revokes]
      refine List.mem_append_left _ (List.mem_reverse.mpr (List.mem_map.mpr ?_))
      exact ⟨(secret, lease), List.mem_filter.mpr ⟨mem_takings current, revocable⟩, rfl⟩
    simp only [step, request]
    split
    · rename_i k₁ result
      rw [result] at asked
      exact goes_on asked _
    · rename_i k₁ result
      rw [result] at asked
      exact asked
  · have present : (k.room secret).registered = true := by
      cases registered : (k.room secret).registered with
      | true => rfl
      | false =>
        rw [Keeper.current, Room.current_of_unregistered registered] at current
        cases current
    simp only [step, request, remove_eq k secret ticket present, current, revocable, if_true]
    rw [revocations_revoke]
    exact List.mem_cons_self

theorem tally_eq_count (id : String) (leases : List Lease) :
    tally id leases = (leases.map (·.id)).count id := by
  simp [tally, List.count, List.countP_map, Function.comp_def]

theorem tally_filter {id : String} (named : id ≠ "") (leases : List Lease) :
    tally id (leases.filter (·.hasId)) = tally id leases := by
  rw [tally, tally, List.countP_filter]
  refine List.countP_congr fun lease _ => ?_
  simp only [Bool.and_eq_true, beq_iff_eq, and_iff_left_iff_imp]
  rintro rfl
  simpa [Lease.hasId] using named

theorem tally_pos {lease : Lease} {leases : List Lease} (member : lease ∈ leases) :
    0 < tally lease.id leases :=
  List.countP_pos_iff.mpr ⟨lease, member, beq_self_eq_true _⟩

theorem filter_of_tally {lease : Lease} {leases : List Lease} (member : lease ∈ leases)
    (once : tally lease.id leases ≤ 1) : leases.filter (·.id == lease.id) = [lease] := by
  have there : lease ∈ leases.filter (·.id == lease.id) :=
    List.mem_filter.mpr ⟨member, beq_self_eq_true _⟩
  rw [tally, List.countP_eq_length_filter] at once
  obtain ⟨only, single⟩ := List.length_eq_one_iff.mp
    (Nat.le_antisymm once (List.length_pos_of_mem there))
  rw [single] at there ⊢
  rw [List.mem_singleton.mp there]

theorem grants_append (k : Keeper) (before after : List KeeperEvent) :
    k.grants (before ++ after) = k.grants before ++ (k.run before).grants after := by
  induction before generalizing k with
  | nil => rfl
  | cons event rest ih =>
    rw [List.cons_append, grants, grants, ih, List.append_assoc]
    rfl

theorem allFaithful_append (k : Keeper) (before after : List KeeperEvent) :
    k.allFaithful (before ++ after) =
      (k.allFaithful before && (k.run before).allFaithful after) := by
  induction before generalizing k with
  | nil => rfl
  | cons event rest ih =>
    rw [List.cons_append, allFaithful, allFaithful, ih, Bool.and_assoc]
    rfl

/-- What is assumed of a run: no renewal on demand, each id granted once, and renewals that answer
with the id they were given. -/
structure Plain (policy : LeasePolicy) (events : List KeeperEvent) : Prop where
  unasked : ∀ ticket secret, .request ticket (.renew secret) ∉ events
  fresh : ((((new policy).grants events).filter (·.hasId)).map (·.id)).Nodup
  faithful : (new policy).allFaithful events = true

theorem Plain.earlier {policy : LeasePolicy} {before after : List KeeperEvent}
    (plain : Plain policy (before ++ after)) : Plain policy before := by
  have fresh := plain.fresh
  have faithful := plain.faithful
  rw [grants_append, List.filter_append, List.map_append] at fresh
  rw [allFaithful_append, Bool.and_eq_true] at faithful
  exact ⟨fun ticket secret member => plain.unasked ticket secret (List.mem_append_left _ member),
    fresh.of_append_left, faithful.1⟩

theorem orderly_new (policy : LeasePolicy) : Orderly (new policy, .free) :=
  ⟨fit_new policy, undemanded_new policy, trivial⟩

/-- An id granted once is counted at most once, wherever its lease is. -/
theorem Plain.custody_le_one {policy : LeasePolicy} {events : List KeeperEvent}
    (plain : Plain policy events) {id : String} (named : id ≠ "") :
    tally id ((new policy).run events).holdings + tally id ((new policy).run events).revocations ≤
      1 := by
  have counted : _ ≤ 0 + tally id ((new policy).grants events) :=
    run_custody (orderly_new policy) plain.unasked plain.faithful id
  have once := List.nodup_iff_count_le_one.mp plain.fresh id
  rw [← tally_eq_count, tally_filter named] at once
  simp only [custody, Hand.leases, tally_nil] at counted
  omega

theorem Plain.revocations_nodup {policy : LeasePolicy} {events : List KeeperEvent}
    (plain : Plain policy events) : (((new policy).run events).revocations.map (·.id)).Nodup := by
  refine List.nodup_iff_count_le_one.mpr fun id => ?_
  rw [← tally_eq_count]
  by_cases named : id = ""
  · have absent : tally id ((new policy).run events).revocations = 0 := by
      refine List.countP_eq_zero.mpr fun lease member => ?_
      have own := (Lease.isRevocable_iff.mp (run_revocable policy events lease member)).1
      simpa [named] using own
    omega
  · have counted := plain.custody_le_one named
    omega

theorem Plain.unrevoked {policy : LeasePolicy} {events : List KeeperEvent}
    (plain : Plain policy events) {secret : Secret} {lease : Lease}
    (current : ((new policy).run events).current secret = some lease) (named : lease.id ≠ "") :
    lease ∉ ((new policy).run events).revocations := by
  intro revoked
  have held := holdings_without (k := (new policy).run events) lease.id secret
  have asked := tally_pos revoked
  have counted := plain.custody_le_one named
  simp only [current, Option.toList, tally_nil, tally_cons, if_true] at held
  omega

/-- However the store's answers and the operations are interleaved, no id is revoked twice, and
nothing but a renewable lease with an id. A lease that stopping or removing finds current is revoked
in that very step, and at no other time. -/
theorem revoked_exactly_once (policy : LeasePolicy) (events : List KeeperEvent)
    (plain : Plain policy events) :
    (∀ lease ∈ ((new policy).run events).revocations, lease.id ≠ "" ∧ lease.renewable = true) ∧
    (((new policy).run events).revocations.map (·.id)).Nodup ∧
    ∀ before ticket operation after secret lease,
      events = before ++ .request ticket operation :: after →
      operation = .destroy ∨ operation = .remove secret →
      ((new policy).run before).current secret = some lease →
      lease.id ≠ "" → lease.renewable = true →
      lease ∉ ((new policy).run before).revocations ∧
      lease ∈ (((new policy).run before).step (.request ticket operation)).revocations ∧
      ((new policy).run events).revocations.filter (·.id == lease.id) = [lease] := by
  refine ⟨fun lease member => Lease.isRevocable_iff.mp (run_revocable policy events lease member),
    plain.revocations_nodup, ?_⟩
  rintro before ticket operation after secret lease rfl retires current named renewable
  have revocable := Lease.isRevocable_iff.mpr ⟨named, renewable⟩
  have asked := retired_revoked ticket retires current revocable
  refine ⟨plain.earlier.unrevoked current named, asked, filter_of_tally ?_ ?_⟩
  · rw [run_append]
    exact (revocations_run _ after).subset asked
  · have counted := plain.custody_le_one named
    omega

/-- The keeper is stopped while a rotation is under way, after a renewal by the timer. -/
theorem revoked_once_at_shutdown :
    let secret : Secret := ⟨"database/creds/app", .rotate⟩
    let first : Response := ⟨"", "a", 120, true, none, none, none⟩
    let second : Response := ⟨"", "b", 300, true, none, none, none⟩
    let lease : Lease := ⟨"a", 90, true⟩
    let before : List KeeperEvent := [.request 1 (.add secret), .request 2 .start, .ask secret 2,
      .answer secret (.start 2) (.fetched (.ok first)), .pass (Span.seconds 60),
      .fire secret 0 1, .answer secret (.timer 0 1) (.renewed (.ok lease)),
      .request 3 (.rotate secret)]
    let after : List KeeperEvent := [.answer secret (.rotate 3) (.fetched (.ok second))]
    let events := before ++ .request 4 .destroy :: after
    Plain .default events ∧ ((new .default).run before).current secret = some lease ∧
      ((new .default).run events).revocations = [⟨"b", 300, true⟩, lease] ∧
      ((new .default).run events).revocations.filter (·.id == lease.id) = [lease] := by
  intro secret first second lease before after events
  have plain : Plain .default events := ⟨by simp [events, before, after], by decide, by decide⟩
  have current : ((new .default).run before).current secret = some lease := by decide
  have settled := (revoked_exactly_once .default events plain).2.2 before 4 .destroy after secret
    lease rfl (Or.inl rfl) current (by decide) rfl
  exact ⟨plain, current, by decide, settled.2.2⟩

end LeaseKeeper.Keeper

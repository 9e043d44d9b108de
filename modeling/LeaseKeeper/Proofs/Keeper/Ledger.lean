import LeaseKeeper.Proofs.Keeper.Stakes

/-!
The keeper's leases counted by id: those in its lines, those in hand, and those whose revocation
was asked for. No act makes the count of an id grow. Only a successful fetch does, so that an id
given out once is in one place at a time and is revoked at most once.
-/
namespace LeaseKeeper

open Lineage

def tally (id : String) (leases : List Lease) : Nat := leases.countP (·.id == id)

section
variable (id : String) (lease : Lease) (leases others : List Lease)

@[simp] theorem tally_nil : tally id [] = 0 := rfl

@[simp] theorem tally_cons :
    tally id (lease :: leases) = tally id leases + if lease.id = id then 1 else 0 := by
  simp [tally, List.countP_cons]

@[simp] theorem tally_append : tally id (leases ++ others) = tally id leases + tally id others :=
  List.countP_append

end

def Entry.revoked? : Entry → Option Lease
  | .call _ _ (.revoke lease _) => some lease
  | _ => none

theorem Entry.revoked?_of_aside {entry : Entry} (plain : entry.isAside = true) :
    entry.revoked? = none := by
  unfold isAside at plain
  unfold revoked?
  split <;> simp_all

namespace Keeper

def holdings (k : Keeper) : List Lease := k.rooms.filterMap (·.2.current)

def revocations (k : Keeper) : List Lease := k.journal.filterMap (·.2.revoked?)

def Hand.leases : Hand → List Lease
  | .fetched _ _ response => [response.lease]
  | .published _ _ lease | .loose _ _ lease _ => [lease]
  | .spilled _ leases => leases.map Prod.snd
  | _ => []

def custody (id : String) (state : Keeper × Hand) : Nat :=
  tally id state.1.holdings + tally id state.1.revocations + tally id state.2.leases

/-! ### Holdings -/

theorem current_put (id : String) (secret : Secret) (room : Room) (t : Table Secret Room) :
    tally id ((t.put secret room).filterMap (·.2.current)) +
        tally id ((t.find? secret).bind Room.current).toList =
      tally id (t.filterMap (·.2.current)) + tally id room.current.toList := by
  induction t with
  | nil =>
    cases current : room.current <;> simp [Table.put, Table.find?, current]
  | cons entry rest ih =>
    obtain ⟨other, before⟩ := entry
    by_cases same : other = secret
    · subst same
      cases current : room.current <;> cases current' : before.current <;>
        simp [Table.put, Table.find?, current, current']
      all_goals omega
    · cases current' : before.current <;> simp [Table.put, Table.find?, same, current']
      all_goals omega

variable {k k' : Keeper}

theorem holdings_setRoom (k : Keeper) (id : String) (secret : Secret) (room : Room) :
    tally id (k.setRoom secret room).holdings + tally id (k.current secret).toList =
      tally id k.holdings + tally id room.current.toList := by
  have moved := current_put id secret room k.rooms
  have same : (k.rooms.find? secret).bind Room.current = k.current secret := by
    unfold current Keeper.room
    cases k.rooms.find? secret <;> rfl
  rw [same] at moved
  exact moved

theorem holdings_keep {secret : Secret} (id : String) (room : Room)
    (same : room.current = k.current secret) :
    tally id (k.setRoom secret room).holdings = tally id k.holdings := by
  have moved := holdings_setRoom k id secret room
  rw [same] at moved
  omega

theorem holdings_open {secret : Secret} (id : String)
    (absent : (k.room secret).registered = false) :
    tally id (k.setRoom secret
      { k.room secret with
        lines := (k.room secret).lines ++ [⟨.new, []⟩]
        registered := true }).holdings = tally id k.holdings :=
  holdings_keep id _ ((Room.current_open (k.room secret)).trans
    (Room.current_of_unregistered absent).symm)

theorem holdings_of_rooms (rooms : k'.rooms = k.rooms) : k'.holdings = k.holdings := by
  simp [holdings, rooms]

theorem holdings_setLine {secret : Secret} {number : Nat} {old line : Line} {id : String}
    (found : (k.room secret).lines[number]? = some old)
    (less : tally id line.lineage.current.toList ≤ tally id old.lineage.current.toList) :
    tally id (k.setRoom secret ((k.room secret).setLine number line)).holdings ≤
      tally id k.holdings := by
  have current := Room.current_setLine found line
  by_cases used : (k.room secret).lineNumber? = some number
  · have moved := holdings_setRoom k id secret ((k.room secret).setLine number line)
    rw [current, if_pos used, Keeper.current, Room.current_of_used used found] at moved
    omega
  · rw [if_neg used] at current
    exact Nat.le_of_eq (holdings_keep id _ current)

theorem holdings_emit (e : LeaseEvent) : (k.emit e).holdings = k.holdings :=
  holdings_of_rooms (emit_tells k e).rooms

theorem holdings_call (id : String) (secret : Secret) (purpose : Purpose) (errand : Errand) :
    tally id (k.call secret purpose errand).holdings = tally id k.holdings :=
  holdings_keep id ((k.room secret).board purpose errand) rfl

theorem holdings_revoke (id : String) (secret : Secret) (purpose : Purpose) (lease : Lease)
    (result : Except Fault Lease) :
    tally id (k.revoke secret purpose lease result).holdings = tally id k.holdings := by
  rw [revoke, holdings_call, holdings_emit]

theorem holdings_renewOrFetch (id : String) (secret : Secret) (purpose : Purpose) (lease : Lease) :
    tally id (k.renewOrFetch secret purpose lease).holdings = tally id k.holdings := by
  unfold renewOrFetch
  split <;> exact holdings_call id secret purpose _

theorem holdings_without (id : String) (secret : Secret) :
    tally id (k.without secret).holdings + tally id (k.current secret).toList =
      tally id k.holdings := by
  have moved := holdings_setRoom k id secret
    { (k.room secret).vacated with registered := false, data := none }
  rw [Room.current_of_unregistered rfl] at moved
  exact moved

theorem holdings_mapRooms (f : Room → Room) (same : ∀ room, (f room).current = room.current) :
    (k.mapRooms f).holdings = k.holdings := by
  rw [holdings, mapRooms, List.filterMap_map]
  exact congrArg (List.filterMap · k.rooms) (funext fun entry => same entry.2)

theorem Scheduled.holdings {secret : Secret} {lease : Lease} {outcome : Keeper × Scheduling}
    (scheduled : Scheduled k secret lease outcome) (id : String) :
    tally id outcome.1.holdings ≤ tally id k.holdings + tally id [lease] := by
  cases scheduled with
  | refused => exact Nat.le_add_right _ _
  | outlasted number line started schedulable numbered found =>
    exact Nat.le_trans (holdings_setLine found (Nat.le_refl _)) (Nat.le_add_right _ _)
  | installed number line deadline level started schedulable numbered found =>
    have moved := holdings_setRoom k id secret ((k.room secret).setLine number
      ⟨line.lineage.replaced lease deadline,
        line.waits ++ [(line.lineage.issued + 1, k.now + k.policy.delay lease)]⟩)
    rw [Room.current_setLine found, if_pos numbered, Lineage.current, replaced_slot] at moved
    exact Nat.le_of_add_right_le (Nat.le_of_eq moved)
  | disabled number line level started unschedulable numbered found =>
    exact Nat.le_trans (holdings_setLine found (Nat.zero_le _)) (Nat.le_add_right _ _)

/-! ### Revocations -/

theorem revocations_note (entry : Entry) :
    (k.note entry).revocations = entry.revoked?.toList ++ k.revocations := by
  cases revoked : entry.revoked? <;> simp [revocations, note, revoked]

theorem Aside.revocations (aside : Aside k k') : k'.revocations = k.revocations := by
  obtain ⟨fresh, journal, plain⟩ := aside.journal
  have silent : fresh.filterMap (·.2.revoked?) = [] := by
    rw [List.filterMap_eq_nil_iff]
    exact fun entry member => Entry.revoked?_of_aside (plain entry member)
  simp [Keeper.revocations, journal, silent]

theorem revocations_emit (e : LeaseEvent) : (k.emit e).revocations = k.revocations := by
  rw [(emit_tells k e).revocations, revocations_note]
  rfl

theorem revocations_call (secret : Secret) (purpose : Purpose) (errand : Errand) :
    (k.call secret purpose errand).revocations =
      (Entry.call secret purpose errand).revoked?.toList ++ k.revocations :=
  revocations_note _

theorem revocations_revoke (secret : Secret) (purpose : Purpose) (lease : Lease)
    (result : Except Fault Lease) :
    (k.revoke secret purpose lease result).revocations = lease :: k.revocations := by
  rw [revoke, revocations_call, revocations_emit]
  rfl

theorem revocations_renewOrFetch (secret : Secret) (purpose : Purpose) (lease : Lease) :
    (k.renewOrFetch secret purpose lease).revocations = k.revocations := by
  unfold renewOrFetch
  split <;> exact revocations_call _ _ _

theorem Scheduled.revocations {secret : Secret} {lease : Lease} {outcome : Keeper × Scheduling}
    (scheduled : Scheduled k secret lease outcome) : outcome.1.revocations = k.revocations := by
  cases scheduled with
  | refused => rfl
  | outlasted => rfl
  | installed => exact revocations_note _
  | disabled => rfl

/-! ### Stopping -/

/-- Each lease that is gathered leaves a line. -/
theorem gather_tally (id : String) (secrets : List Secret)
    (found : Keeper × List (Secret × Lease)) :
    tally id (secrets.foldl gather found).1.holdings +
        tally id ((secrets.foldl gather found).2.map Prod.snd) =
      tally id found.1.holdings + tally id (found.2.map Prod.snd) := by
  induction secrets generalizing found with
  | nil => rfl
  | cons secret rest ih =>
    rw [List.foldl_cons, ih]
    obtain ⟨k, leases⟩ := found
    have moved := holdings_setRoom k id secret (k.room secret).vacated
    rw [Room.current_vacated] at moved
    rcases vacate_cases k secret with ⟨absent, result⟩ | ⟨number, line, numbered, present, result⟩
    · simp [gather, result]
    · have lost : k.current secret = line.lineage.current := Room.current_of_used numbered present
      rw [lost] at moved
      cases current : line.lineage.current with
      | none =>
        rw [current] at moved
        simpa [gather, result, current] using moved
      | some lease =>
        rw [current] at moved
        simp only [gather, result, current, List.map_append, tally_append]
        simp only [Option.toList, tally_nil, tally_cons, List.map_cons, List.map_nil] at moved ⊢
        omega

theorem emptied_holdings (k : Keeper) (id : String) :
    tally id k.emptied.holdings + tally id (k.takings.map Prod.snd) = tally id k.holdings := by
  have gathered := gather_tally id k.registered ({ k with started := false }, [])
  rw [gather_vacateAll] at gathered
  rw [emptied, holdings_mapRooms _ (by exact fun _ => rfl)]
  exact gathered

theorem gather_keeps (secrets : List Secret) (found : Keeper × List (Secret × Lease))
    {taken : Secret × Lease} (member : taken ∈ found.2) :
    taken ∈ (secrets.foldl gather found).2 := by
  induction secrets generalizing found with
  | nil => exact member
  | cons secret rest ih =>
    refine ih _ ?_
    unfold gather
    split
    · exact List.mem_append_left _ member
    · exact member

theorem gather_takes {secrets : List Secret} {found : Keeper × List (Secret × Lease)}
    {secret : Secret} {lease : Lease} (member : secret ∈ secrets)
    (current : found.1.current secret = some lease) :
    (secret, lease) ∈ (secrets.foldl gather found).2 := by
  induction secrets generalizing found with
  | nil => cases member
  | cons first rest ih =>
    obtain ⟨k, leases⟩ := found
    rw [List.foldl_cons]
    by_cases same : secret = first
    · subst same
      have taken := vacate_lease k secret
      apply gather_keeps
      unfold gather
      generalize k.vacate secret = outcome at taken
      obtain ⟨k', taking⟩ := outcome
      obtain rfl : taking = some lease := taken.trans current
      simp
    · have later : (gather (k, leases) first).1.current secret = some lease := by
        have kept := vacate_room_of_ne k first same
        rw [← current]
        unfold gather
        split <;> simp_all [Keeper.current]
      exact ih ((List.mem_cons.mp member).resolve_left same) later

theorem mem_takings {secret : Secret} {lease : Lease} (current : k.current secret = some lease) :
    (secret, lease) ∈ k.takings := by
  refine gather_takes (mem_registered ?_) current
  cases registered : (k.room secret).registered with
  | true => rfl
  | false =>
    rw [Keeper.current, Room.current_of_unregistered registered] at current
    cases current

end Keeper
end LeaseKeeper

import LeaseKeeper.Proofs.Keeper.Confined
import LeaseKeeper.Proofs.Keeper.Keyed

/-!
The gauge of active leases beside the leases themselves. Most of what a keeper does leaves both
alone; a removal and the end of a timer's task may end the activity of one secret, and do not tell
the gauge.
-/
namespace LeaseKeeper

open Lineage

/-! ### Levels and counts -/

namespace Metrics

def level (metrics : Metrics) (m : Measure) : Nat := (metrics.lookup m).getD 0

theorem level_set (metrics : Metrics) (m : Measure) (n : Nat) : (metrics.set m n).level m = n := by
  induction metrics with
  | nil => simp [set, level]
  | cons entry rest ih =>
    obtain ⟨other, count⟩ := entry
    by_cases same : other = m
    · simp [set, level, same]
    · have differ : (m == other) = false := by simpa using Ne.symm same
      simpa [set, level, same, List.lookup_cons, differ] using ih

theorem level_count {m other : Measure} (differ : other ≠ m) (metrics : Metrics) :
    (metrics.count other).level m = metrics.level m := by
  induction metrics with
  | nil =>
    have apart : (m == other) = false := by simpa using Ne.symm differ
    simp [count, level, List.lookup_cons, apart]
  | cons entry rest ih =>
    obtain ⟨own, n⟩ := entry
    by_cases same : own = other
    · subst same
      have apart : (m == own) = false := by simpa using Ne.symm differ
      simp [count, level, List.lookup_cons, apart]
    · simp only [count, if_neg same, level, List.lookup_cons] at ih ⊢
      split
      · rfl
      · exact ih

end Metrics

theorem Table.countP_put {α β : Type} [DecidableEq α] (p : β → Bool) (key : α) (value : β)
    (t : Table α β) : (put key value t).countP (p ·.2) + ((find? key t).elim false p).toNat =
      t.countP (p ·.2) + (p value).toNat := by
  induction t with
  | nil => cases here : p value <;> simp [put, find?, here]
  | cons entry rest ih =>
    obtain ⟨other, before⟩ := entry
    by_cases same : other = key
    · subst same
      cases here : p value <;> cases there : p before <;> simp [put, find?, here, there]
    · cases there : p before <;> simp [put, find?, same, there] at ih ⊢ <;> omega

namespace Keeper

variable {k k' k₁ k₂ : Keeper} {own : Secret} {purpose : Purpose} {ticket : Nat}

def gauge (k : Keeper) : Nat := k.metrics.level .activeLeases

def active (k : Keeper) : Nat := (k.registered.filter fun secret => (k.room secret).isActive).length

theorem activeCount_setRoom (k : Keeper) (secret : Secret) (room : Room) :
    (k.setRoom secret room).activeCount + (k.room secret).isActive.toNat =
      k.activeCount + room.isActive.toNat := by
  have moved := Table.countP_put Room.isActive secret room k.rooms
  have same : (k.rooms.find? secret).elim false Room.isActive = (k.room secret).isActive := by
    unfold Keeper.room
    cases k.rooms.find? secret <;> rfl
  rw [same] at moved
  exact moved

theorem Keyed.active (keyed : k.Keyed) : k.activeCount = k.active := by
  have each : ∀ entry ∈ k.rooms, entry.2.isActive =
      ((k.room entry.1).isActive && entry.2.registered) := by
    rintro ⟨secret, room⟩ member
    rw [keyed.room member]
    cases registered : room.registered with
    | false => simp [Room.isActive, Room.line?_of_unregistered registered]
    | true => simp
  rw [activeCount, List.countP_eq_length_filter, Keeper.active, Keeper.registered, List.filter_map,
    List.length_map, List.filter_filter]
  exact congrArg List.length (List.filter_congr each)

/-! ### What leaves the gauge and the leases alone -/

structure Level (k k' : Keeper) : Prop where
  binds : k'.binds = k.binds
  gauge : k'.gauge = k.gauge
  count : k'.activeCount = k.activeCount
  active : ∀ secret, (k'.room secret).isActive = (k.room secret).isActive

namespace Level

theorem refl (k : Keeper) : Level k k := ⟨rfl, rfl, rfl, fun _ => rfl⟩

theorem trans (first : Level k k₁) (second : Level k₁ k₂) : Level k k₂ :=
  ⟨second.binds.trans first.binds, second.gauge.trans first.gauge,
    second.count.trans first.count,
    fun secret => (second.active secret).trans (first.active secret)⟩

theorem of_rooms (binds : k'.binds = k.binds) (metrics : k'.metrics = k.metrics)
    (rooms : k'.rooms = k.rooms) : Level k k' := by
  refine ⟨binds, ?_, ?_, fun secret => by rw [room_of_rooms rooms]⟩
  · rw [Keeper.gauge, metrics]
    rfl
  · rw [activeCount, rooms]
    rfl

theorem setRoom {secret : Secret} {room : Room} (same : room.isActive = (k.room secret).isActive) :
    Level k (k.setRoom secret room) := by
  refine ⟨rfl, rfl, ?_, fun other => read_setRoom Room.isActive same other⟩
  have moved := activeCount_setRoom k secret room
  rw [same] at moved
  exact Nat.add_right_cancel moved

theorem setLine {secret : Secret} {number : Nat} {old line : Line}
    (found : (k.room secret).lines[number]? = some old)
    (same : line.lineage.isActive = old.lineage.isActive) :
    Level k (k.setRoom secret ((k.room secret).setLine number line)) :=
  setRoom (Room.isActive_setLine_of_eq found same)

theorem note (k : Keeper) (entry : Entry) : Level k (k.note entry) := of_rooms rfl rfl rfl

theorem arm {secret : Secret} {number : Nat} {old line : Line}
    (found : (k.room secret).lines[number]? = some old)
    (same : line.lineage.isActive = old.lineage.isActive) (generation delay : Nat) :
    Level k (k.arm secret number line generation delay) := by
  refine Level.trans (setLine found ?_) (note _ _)
  exact same

theorem count_of_ne (k : Keeper) (m : Measure) (other : m ≠ .activeLeases) :
    Level k (k.count m) := ⟨rfl, Metrics.level_count other k.metrics, rfl, fun _ => rfl⟩

theorem call (k : Keeper) (secret : Secret) (purpose : Purpose) (errand : Errand) :
    Level k (k.call secret purpose errand) := by
  have same : ((k.room secret).board purpose errand).isActive = (k.room secret).isActive := rfl
  exact (setRoom same).trans (note _ _)

theorem promise (k : Keeper) (secret : Secret) (ticket : Nat) :
    Level k (k.promise secret ticket) := by
  have same : ((k.room secret).promise ticket).isActive = (k.room secret).isActive := rfl
  exact setRoom same

theorem ask (k : Keeper) (secret : Secret) (ticket : Nat) : Level k (k.ask secret ticket) := by
  have same : ((k.room secret).ask ticket).isActive = (k.room secret).isActive := rfl
  unfold Keeper.ask
  split
  · exact (setRoom same).trans (note _ _)
  · exact .refl k

theorem emit (k : Keeper) (e : LeaseEvent) : Level k (k.emit e) := by
  refine of_rooms (emit_binds k e) ?_ (emit_tells k e).rooms
  refine (read_foldl Keeper.metrics ?_ _ _).trans rfl
  rintro k ⟨_, listener⟩
  cases listener <;> rfl

theorem report (k : Keeper) (secret : Secret) (lease : Lease) (fault : Fault) :
    Level k (k.report secret lease fault).1 := by
  have told := report_telling k secret lease fault
  refine of_rooms told.binds ?_ told.rooms
  refine (read_foldl (fun state : Keeper × Bool => state.1.metrics) ?_ _ _).trans rfl
  rintro ⟨k, held⟩ ⟨_, listener⟩
  cases listener with
  | capture ticket =>
    simp only [catchFault]
    split
    · rfl
    · split <;> rfl
  | _ => rfl

theorem revoke (k : Keeper) (secret : Secret) (purpose : Purpose) (lease : Lease)
    (result : Except Fault Lease) : Level k (k.revoke secret purpose lease result) :=
  (emit k _).trans (call _ secret purpose _)

theorem renewOrFetch (k : Keeper) (secret : Secret) (purpose : Purpose) (lease : Lease) :
    Level k (k.renewOrFetch secret purpose lease) := by
  unfold Keeper.renewOrFetch
  split
  · exact call k secret purpose _
  · exact call k secret purpose _

theorem foldl {α : Type} {f : Keeper → α → Keeper} (each : ∀ k a, Level k (f k a))
    (entries : List α) (k : Keeper) : Level k (entries.foldl f k) := by
  induction entries generalizing k with
  | nil => exact refl k
  | cons entry rest ih => exact (each k entry).trans (ih (f k entry))

theorem landed (k : Keeper) (secret : Secret) (purpose : Purpose) :
    Level k (k.landed secret purpose) := by
  have same : ((k.room secret).dropFlight purpose).isActive = (k.room secret).isActive := rfl
  exact setRoom same

theorem setData (k : Keeper) (secret : Secret) (data : Option (TextMap String)) :
    Level k (k.setRoom secret { k.room secret with data }) := setRoom rfl

theorem published (k : Keeper) (secret : Secret) (response : Response) :
    Level k (k.published secret response) := (setData k secret _).trans (emit _ _)

theorem disappointed (k : Keeper) (secret : Secret) (fault : Fault) :
    Level k (k.disappointed secret fault) := by
  unfold Keeper.disappointed
  split
  · exact (emit k _).trans (report _ secret _ fault)
  · exact report k secret _ fault

theorem acknowledged (k : Keeper) (secret : Secret) (next : Lease) :
    Level k (k.acknowledged secret next) := by
  unfold Keeper.acknowledged
  split
  · exact (count_of_ne k (.renewal secret.mode true) nofun).trans (emit _ _)
  · exact count_of_ne k _ nofun

theorem lapsed (k : Keeper) (secret : Secret) (next : Lease) : Level k (k.lapsed secret next) :=
  (setData k secret none).trans (emit _ _)

theorem dropTicket (k : Keeper) (ticket : Nat) : Level k (k.mapRooms (·.dropTicket ticket)) := by
  refine ⟨rfl, rfl, ?_, fun secret => by rw [room_dropTicket]; rfl⟩
  simp only [activeCount, mapRooms, List.countP_map]
  rfl

section
variable (free : k.binds.find? ticket = none)
include free

theorem complete (answer : KeeperAnswer) : Level k (k.complete ticket answer) := by
  rw [complete_lone free]
  exact note k _

theorem crash : Level k (k.crash ticket) := by
  rw [crash_lone free]
  exact (dropTicket k ticket).trans (note _ _)

theorem endShared : Level k (k.endShared ticket) := by
  unfold Keeper.endShared
  split
  · exact refl k
  · exact complete free _

end

end Level

theorem Level.truthful (level : Level k k') (truthful : k.gauge = k.activeCount) :
    k'.gauge = k'.activeCount := by
  rw [level.gauge, level.count]
  exact truthful

structure Lowers (own : Secret) (k k' : Keeper) : Prop where
  binds : k'.binds = k.binds
  gauge : k'.gauge = k.gauge
  count : k'.activeCount + (k.room own).isActive.toNat =
    k.activeCount + (k'.room own).isActive.toNat
  fewer : (k'.room own).isActive = true → (k.room own).isActive = true

namespace Lowers

theorem before (level : Level k k₁) (lowers : Lowers own k₁ k') : Lowers own k k' := by
  refine ⟨lowers.binds.trans level.binds, lowers.gauge.trans level.gauge, ?_, ?_⟩
  · rw [← level.active own, ← level.count]
    exact lowers.count
  · rw [← level.active own]
    exact lowers.fewer

theorem after (lowers : Lowers own k k₁) (level : Level k₁ k') : Lowers own k k' := by
  refine ⟨level.binds.trans lowers.binds, level.gauge.trans lowers.gauge, ?_, ?_⟩
  · rw [level.active own, level.count]
    exact lowers.count
  · rw [level.active own]
    exact lowers.fewer

theorem setRoom {room : Room} (fewer : room.isActive = true → (k.room own).isActive = true) :
    Lowers own k (k.setRoom own room) := by
  refine ⟨rfl, rfl, ?_, ?_⟩
  · rw [room_setRoom_self]
    exact activeCount_setRoom k own room
  · rw [room_setRoom_self]
    exact fewer

theorem setLine {number : Nat} {old line : Line} (found : (k.room own).lines[number]? = some old)
    (fewer : line.lineage.isActive = true → old.lineage.isActive = true) :
    Lowers own k (k.setRoom own ((k.room own).setLine number line)) := by
  refine setRoom fun active => ?_
  rw [Room.isActive_setLine found] at active
  split at active
  · rw [Room.isActive_of_used ‹_› found]
    exact fewer active
  · exact active

end Lowers

theorem Level.lowers (level : Level k k') (own : Secret) : Lowers own k k' :=
  .before level ⟨rfl, rfl, rfl, id⟩

theorem endTimer_lowers (k : Keeper) (own : Secret) (number generation : Nat)
    (result : Except Fault Lease) : Lowers own k (k.endTimer own number generation result) := by
  unfold endTimer
  dsimp only
  cases found : (k.room own).lines[number]? with
  | none => exact (Level.refl k).lowers own
  | some line =>
    have ending := conclude_ending line.lineage k.policy.strategy k.policy.floor k.policy.threshold
      k.now generation Lease.renewable result
    dsimp only
    generalize line.lineage.conclude _ _ _ _ _ _ _ = outcome at ending
    obtain ⟨after, next⟩ := outcome
    cases next with
    | wait next delay =>
      exact (Lowers.setLine found ending.active_before).after (.note _ _)
    | stop => exact .setLine found ending.active_before
    | crash => exact .setLine found ending.active_before

theorem endTimer_level {number generation : Nat}
    (staked : k.Staked own (.timer number generation) fun _ => False)
    (result : Except Fault Lease) : Level k (k.endTimer own number generation result) := by
  obtain ⟨line, found, _, gone⟩ := staked number generation rfl
  have ending := conclude_ending line.lineage k.policy.strategy k.policy.floor k.policy.threshold
    k.now generation Lease.renewable result
  unfold endTimer
  simp only [found]
  generalize line.lineage.conclude _ _ _ _ _ _ _ = outcome at ending
  obtain ⟨after, next⟩ := outcome
  obtain rfl : after = line.lineage := ending.unchanged fun held slot own => (gone held slot own).2
  cases next with
  | wait next delay => exact .arm found rfl next delay
  | stop => exact .setLine found rfl
  | crash => exact .setLine found rfl

/-! ### Requests and timers -/

theorem add_level (k : Keeper) (ticket : Nat) (secret : Secret) :
    Level k (k.add ticket secret).1 := by
  unfold add
  dsimp only
  split
  · exact .refl k
  · rename_i absent
    have opened : Level k (k.setRoom secret
        { k.room secret with
          lines := (k.room secret).lines ++ [⟨.new, []⟩]
          registered := true }) := by
      refine .setRoom ?_
      rw [Room.isActive_of_vacant (Room.current_open _), Room.isActive_of_vacant
        (Room.current_of_unregistered (by simpa using absent))]
    split
    · exact opened.trans (.call _ secret _ _)
    · exact opened

theorem remove_lowers (k : Keeper) (ticket : Nat) (secret : Secret) :
    Lowers secret k (k.remove ticket secret).1 := by
  cases present : (k.room secret).registered with
  | false =>
    simp only [remove, present]
    exact (Level.refl k).lowers secret
  | true =>
    have without : Lowers secret k (k.without secret) := by
      refine .setRoom fun active => ?_
      rw [Room.isActive_of_vacant (Room.current_of_unregistered rfl)] at active
      cases active
    rw [remove_eq k secret ticket present]
    split
    · split
      · exact without.after (.revoke _ secret _ _ _)
      · exact without
    · exact without

theorem start_level (k : Keeper) (ticket : Nat) : Level k (k.start ticket).1 := by
  unfold start
  split
  · exact .refl k
  · have started : Level k { k with started := true } := .of_rooms rfl rfl rfl
    exact started.trans (.foldl (fun k secret => .promise k secret _) _ _)

theorem emptied_inactive (k : Keeper) (keyed : k.Keyed) : k.emptied.activeCount = 0 := by
  rw [keyed.emptied.active, active, List.length_eq_zero_iff, List.filter_eq_nil_iff]
  intro secret _
  rw [room_emptied]
  have vacant : Room.current { (k.room secret).vacated with data := none } = none :=
    Room.current_vacated (k.room secret)
  rw [Room.isActive_of_vacant vacant]
  exact Bool.false_ne_true

theorem destroy_truthful (k : Keeper) (ticket : Nat) (keyed : k.Keyed) :
    (k.destroy ticket).1.binds = k.binds ∧
      (k.destroy ticket).1.gauge = (k.destroy ticket).1.activeCount := by
  rw [destroy_eq]
  have revoked := Level.foldl (fun k entry => Level.revoke k entry.1 (.destroy ticket) entry.2
    (.ok entry.2)) (k.takings.filter (·.2.isRevocable)) (k.emptied.setGauge 0)
  refine ⟨revoked.binds.trans ?_, revoked.truthful ?_⟩
  · obtain ⟨rooms, frame⟩ := emptied_frame k
    rw [frame]
    rfl
  · exact (Metrics.level_set _ _ _).trans (emptied_inactive k keyed).symm

theorem renew_level (k : Keeper) (ticket : Nat) (secret : Secret) :
    Level k (k.renew ticket secret).1 := by
  unfold renew
  split
  · split
    · split
      · exact .renewOrFetch k secret _ _
      · exact .refl k
    · exact .refl k
  · exact .refl k

theorem rotate_level (k : Keeper) (ticket : Nat) (secret : Secret) :
    Level k (k.rotate ticket secret).1 := by
  unfold rotate
  split
  · exact .refl k
  · split
    · exact .refl k
    · exact .call k secret _ _

theorem fire_lowers (k : Keeper) (secret : Secret) (number generation : Nat) :
    Lowers secret k (k.fire secret number generation) := by
  have refused := (Level.refl k).lowers secret
  unfold fire
  dsimp only
  cases found : (k.room secret).lines[number]? with
  | none => exact refused
  | some line =>
    dsimp only
    cases waiting : line.waits.lookup generation with
    | none => exact refused
    | some due =>
      dsimp only
      by_cases ripe : due ≤ k.now
      · rw [if_pos ripe]
        rcases fire_cases line.lineage generation with
          ⟨held, before, own, scheduled, result⟩ | ⟨moved, result⟩
        · have claimed : Level k (k.fired secret number line
              { line.lineage.unregister generation with
                slot := some { held with phase := .renewing } } generation) := by
            refine .setLine found ?_
            simp only [Lineage.isActive, before, scheduled]
            rfl
          simp only [result]
          split
          · exact (claimed.trans (.renewOrFetch _ secret _ _)).lowers secret
          · exact .before claimed (endTimer_lowers _ secret number generation _)
        · simp only [result]
          have left : Level k (k.fired secret number line (line.lineage.unregister generation)
            generation) := .setLine found (isActive_of_slot rfl)
          exact left.lowers secret
      · rw [if_neg ripe]
        exact refused

theorem stop_level (k : Keeper) (secret : Secret) (number generation : Nat) :
    Level k (k.stop secret number generation) := by
  unfold stop
  dsimp only
  cases found : (k.room secret).lines[number]? with
  | none => exact .refl k
  | some line =>
    dsimp only
    split
    · exact .setLine found rfl
    · exact .refl k

theorem silence_level (k : Keeper) (id : Nat) : Level k (k.silence id) := by
  unfold silence
  split
  · exact .refl k
  · exact .of_rooms rfl rfl rfl

end Keeper
end LeaseKeeper

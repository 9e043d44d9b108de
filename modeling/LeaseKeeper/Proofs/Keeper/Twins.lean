import LeaseKeeper.Proofs.Keeper.Confined

/-!
Keepers that are the same to one secret: its room is the same, and the same was asked and told about
it. A step about that secret is made alike in both, whatever the other secrets are up to.
-/
namespace LeaseKeeper.Keeper

open Lineage

variable {k k₁ k' k₁' k'' : Keeper} {secret : Secret} {purpose : Purpose} {ticket : Nat}

structure Twin (secret : Secret) (k k' : Keeper) : Prop extends Setting k k' where
  room : k'.room secret = k.room secret
  tidings : k'.tidings secret = k.tidings secret

namespace Twin

theorem refl (secret : Secret) (k : Keeper) : Twin secret k k := ⟨.refl k, rfl, rfl⟩

theorem symm (twin : Twin secret k k') : Twin secret k' k :=
  ⟨twin.toSetting.symm, twin.room.symm, twin.tidings.symm⟩

theorem trans (first : Twin secret k k') (second : Twin secret k' k'') : Twin secret k k'' :=
  ⟨first.toSetting.trans second.toSetting, second.room.trans first.room,
    second.tidings.trans first.tidings⟩

theorem of_confined {own : Secret} (confined : Confined own k k') (differ : secret ≠ own) :
    Twin secret k k' :=
  ⟨confined.toSetting, confined.rooms secret differ, confined.tidings secret differ⟩

theorem aside (twin : Twin secret k k') (left : Twin secret k k₁) (right : Twin secret k' k₁') :
    Twin secret k₁ k₁' := left.symm.trans (twin.trans right)

/-! ### What is done in both -/

section
variable (twin : Twin secret k k')
include twin

theorem setRoom (room : Room) : Twin secret (k.setRoom secret room) (k'.setRoom secret room) := by
  refine ⟨⟨twin.policy, twin.now, twin.started, twin.binds, twin.holder⟩, ?_, twin.tidings⟩
  rw [room_setRoom_self, room_setRoom_self]

theorem note (entry : Entry) : Twin secret (k.note entry) (k'.note entry) := by
  refine ⟨⟨twin.policy, twin.now, twin.started, twin.binds, twin.holder⟩, twin.room, ?_⟩
  have tidings := twin.tidings
  unfold Keeper.tidings at tidings ⊢
  simp only [Keeper.note, List.filterMap_cons, tidings, twin.now]

theorem pass (span : Nat) :
    Twin secret { k with now := k.now + span } { k' with now := k'.now + span } :=
  ⟨⟨twin.policy, congrArg (· + span) twin.now, twin.started, twin.binds, twin.holder⟩, twin.room,
    twin.tidings⟩

theorem mapRooms {f : Room → Room} (fixed : f .empty = .empty) :
    Twin secret (k.mapRooms f) (k'.mapRooms f) := by
  refine ⟨⟨twin.policy, twin.now, twin.started, twin.binds, twin.holder⟩, ?_, twin.tidings⟩
  rw [room_mapRooms k' secret fixed, room_mapRooms k secret fixed, twin.room]

theorem count (m m' : Measure) : Twin secret (k.count m) (k'.count m') :=
  ⟨⟨twin.policy, twin.now, twin.started, twin.binds, twin.holder⟩, twin.room, twin.tidings⟩

theorem setGauge (level level' : Nat) : Twin secret (k.setGauge level) (k'.setGauge level') :=
  ⟨⟨twin.policy, twin.now, twin.started, twin.binds, twin.holder⟩, twin.room, twin.tidings⟩

theorem setData (data : Option (TextMap String)) :
    Twin secret (k.setRoom secret { k.room secret with data })
      (k'.setRoom secret { k'.room secret with data }) := by
  rw [twin.room]
  exact twin.setRoom _

theorem landed (purpose : Purpose) :
    Twin secret (k.landed secret purpose) (k'.landed secret purpose) := by
  unfold Keeper.landed
  rw [twin.room]
  exact twin.setRoom _

theorem arm (number : Nat) (line : Line) (generation delay : Nat) :
    Twin secret (k.arm secret number line generation delay)
      (k'.arm secret number line generation delay) := by
  unfold Keeper.arm
  rw [twin.room, twin.now]
  exact (twin.setRoom _).note _

theorem call (purpose : Purpose) (errand : Errand) :
    Twin secret (k.call secret purpose errand) (k'.call secret purpose errand) := by
  unfold Keeper.call
  rw [twin.room]
  exact (twin.setRoom _).note _

end

/-! ### What listeners are told -/

theorem emit_noted (k : Keeper) (e : LeaseEvent) :
    Twin secret (k.note (.event e)) (k.emit e) := by
  have quiet : Setting k (k.note (.event e)) := ⟨rfl, rfl, rfl, rfl, rfl⟩
  have told := Confined.emit k e rfl
  refine ⟨quiet.symm.trans told.toSetting, emit_room e secret, ?_⟩
  rw [Keeper.tidings, emit_journal]
  rfl

theorem report_noted (k : Keeper) (lease : Lease) (fault : Fault) :
    Twin secret (k.note (.fault secret lease fault)) (k.report secret lease fault).1 := by
  have quiet : Setting k (k.note (.fault secret lease fault)) := ⟨rfl, rfl, rfl, rfl, rfl⟩
  have told := Confined.report secret k lease fault
  refine ⟨quiet.symm.trans told.toSetting, ?_, ?_⟩
  · rw [room_of_rooms (report_aside k secret lease fault).rooms]
    rfl
  · rw [Keeper.tidings, report_journal]
    rfl

section
variable (twin : Twin secret k k')
include twin

theorem emit (e : LeaseEvent) : Twin secret (k.emit e) (k'.emit e) :=
  (twin.note (.event e)).aside (emit_noted k e) (emit_noted k' e)

theorem report (lease : Lease) (fault : Fault) :
    Twin secret (k.report secret lease fault).1 (k'.report secret lease fault).1 :=
  (twin.note _).aside (report_noted k lease fault) (report_noted k' lease fault)

theorem revoke (purpose : Purpose) (lease : Lease) (result : Except Fault Lease) :
    Twin secret (k.revoke secret purpose lease result) (k'.revoke secret purpose lease result) :=
  (twin.emit _).call purpose _

theorem renewOrFetch (purpose : Purpose) (lease : Lease) :
    Twin secret (k.renewOrFetch secret purpose lease)
      (k'.renewOrFetch secret purpose lease) := by
  unfold Keeper.renewOrFetch
  split
  · exact twin.call purpose _
  · exact twin.call purpose _

theorem published (response : Response) :
    Twin secret (k.published secret response) (k'.published secret response) :=
  (twin.setData _).emit _

theorem acknowledged (next : Lease) :
    Twin secret (k.acknowledged secret next) (k'.acknowledged secret next) := by
  unfold Keeper.acknowledged
  split
  · exact (twin.count _ _).emit _
  · exact twin.count _ _

theorem lapsed (next : Lease) : Twin secret (k.lapsed secret next) (k'.lapsed secret next) :=
  (twin.setData none).emit _

/-! ### How activities end -/

theorem complete (free : k.binds.find? ticket = none) (answer answer' : KeeperAnswer) :
    Twin secret (k.complete ticket answer) (k'.complete ticket answer') := by
  have free' : k'.binds.find? ticket = none := by rwa [twin.binds]
  have quiet (k : Keeper) (answer : KeeperAnswer) :
      Twin secret k (k.note (.returned ticket answer)) := ⟨⟨rfl, rfl, rfl, rfl, rfl⟩, rfl, rfl⟩
  rw [complete_lone free, complete_lone free']
  exact twin.aside (quiet k answer) (quiet k' answer')

theorem crash (free : k.binds.find? ticket = none) :
    Twin secret (k.crash ticket) (k'.crash ticket) := by
  have free' : k'.binds.find? ticket = none := by rwa [twin.binds]
  rw [crash_lone free, crash_lone free']
  exact (twin.mapRooms rfl).note _

theorem endShared (free : k.binds.find? ticket = none) :
    Twin secret (k.endShared ticket) (k'.endShared ticket) := by
  have quiet {k : Keeper} (free : k.binds.find? ticket = none) :
      Twin secret k (k.endShared ticket) := by
    unfold Keeper.endShared
    split
    · exact refl secret k
    · rw [complete_lone free]
      exact ⟨⟨rfl, rfl, rfl, rfl, rfl⟩, rfl, rfl⟩
  have free' : k'.binds.find? ticket = none := by rwa [twin.binds]
  exact twin.aside (quiet free) (quiet free')

theorem schedule (lease : Lease) :
    (k'.schedule secret lease).2 = (k.schedule secret lease).2 ∧
      Twin secret (k.schedule secret lease).1 (k'.schedule secret lease).1 := by
  unfold Keeper.schedule
  simp only [twin.room, twin.started, twin.now, twin.policy]
  cases (k.room secret).lineNumber? with
  | none => exact ⟨rfl, twin⟩
  | some number =>
    cases (k.room secret).line? with
    | none => exact ⟨rfl, twin⟩
    | some line =>
      dsimp only
      split
      · exact ⟨rfl, twin⟩
      · split
        · split
          · exact ⟨rfl, twin.setRoom _⟩
          · exact ⟨rfl, (twin.arm number _ _ _).setGauge _ _⟩
        · exact ⟨rfl, (twin.setRoom _).setGauge _ _⟩

end

end Twin

/-! ### Faults that are handed on -/

inductive Matching : Except Fault Lease → Except Fault Lease → Prop where
  | ok (lease : Lease) : Matching (.ok lease) (.ok lease)
  | error (fault fault' : Fault)
      (same : ∀ strategy : Strategy, strategy.shouldDrop fault' = strategy.shouldDrop fault) :
      Matching (.error fault) (.error fault')

theorem Matching.refl (result : Except Fault Lease) : Matching result result := by
  cases result with
  | ok lease => exact .ok lease
  | error fault => exact .error fault fault fun _ => rfl

/-- Whoever listens, the fault handed back is the one reported or a copy of it. -/
theorem report_shouldDrop (k : Keeper) (secret : Secret) (lease : Lease) (fault : Fault)
    (strategy : Strategy) :
    strategy.shouldDrop (k.report secret lease fault).2 = strategy.shouldDrop fault := by
  simp only [report]
  split
  · exact strategy.shouldDrop_replicate fault
  · rfl

theorem report_matching (k k' : Keeper) (secret : Secret) (lease : Lease) (fault : Fault) :
    Matching (.error (k.report secret lease fault).2)
      (.error (k'.report secret lease fault).2) := by
  refine .error _ _ fun strategy => ?_
  rw [report_shouldDrop, report_shouldDrop]

theorem Matching.conclude {result result' : Except Fault Lease} (matching : Matching result result')
    (l : Lineage) (strategy : Strategy) (floor threshold now claimed : Nat)
    (reschedule : Lease → Bool) :
    l.conclude strategy floor threshold now claimed reschedule result' =
      l.conclude strategy floor threshold now claimed reschedule result := by
  cases matching with
  | ok lease => rfl
  | error fault fault' same => simp only [Lineage.conclude, same]

namespace Twin

section
variable {result result' : Except Fault Lease} (twin : Twin secret k k')
  (matching : Matching result result')
include twin matching

theorem endTimer (number generation : Nat) :
    Twin secret (k.endTimer secret number generation result)
      (k'.endTimer secret number generation result') := by
  unfold Keeper.endTimer
  simp only [twin.room, twin.policy, twin.now, matching.conclude]
  split
  · exact twin
  · split
    · exact twin.arm number _ _ _
    · exact twin.setRoom _
    · exact twin.setRoom _

theorem endRenew (free : k.binds.find? ticket = none) :
    Twin secret (k.endRenew ticket secret result) (k'.endRenew ticket secret result') := by
  cases matching with
  | error fault fault' => exact twin.complete free _ _
  | ok lease =>
    have scheduled := schedule_scheduled k secret lease
    have both := twin.schedule lease
    unfold Keeper.endRenew
    dsimp only
    generalize k.schedule secret lease = outcome at both scheduled
    generalize k'.schedule secret lease = outcome' at both
    obtain ⟨k₁, _⟩ := outcome
    obtain ⟨k₁', kind⟩ := outcome'
    obtain ⟨rfl, after⟩ := both
    have still : k₁.binds.find? ticket = none := scheduled.confined.binds ▸ free
    cases kind with
    | overflow => exact after.crash still
    | kept => exact after.complete still _ _
    | refused => exact after.complete still _ _

theorem endRenewal (free : k.Lone purpose.ticket?) :
    Twin secret (k.endRenewal secret purpose result) (k'.endRenewal secret purpose result') := by
  cases purpose with
  | renew ticket => exact twin.endRenew matching (free ticket rfl)
  | timer number generation => exact twin.endTimer matching number generation
  | _ => exact twin

theorem endFetch (free : k.Lone purpose.ticket?) :
    Twin secret (k.endFetch secret purpose result) (k'.endFetch secret purpose result') := by
  have counted : Twin secret (k.count (.rotation (isOk result)))
      (k'.count (.rotation (isOk result'))) := twin.count _ _
  cases purpose with
  | register ticket => exact twin.complete (free ticket rfl) _ _
  | start ticket => exact twin.endShared (free ticket rfl)
  | rotate ticket => exact counted.complete (free ticket rfl) _ _
  | renew ticket => exact counted.endRenew matching (free ticket rfl)
  | timer number generation => exact counted.endTimer matching number generation
  | remove ticket => exact twin.complete (free ticket rfl) _ _
  | destroy ticket => exact twin.endShared (free ticket rfl)

end

section
variable (twin : Twin secret k k') (free : k.Lone purpose.ticket?)
include twin free

theorem abandon (lease : Lease) (result : Except Fault Lease) :
    Twin secret (k.abandon secret purpose lease result)
      (k'.abandon secret purpose lease result) := by
  unfold Keeper.abandon
  split
  · exact twin.revoke purpose lease result
  · exact twin.endFetch (.refl result) free

/-! ### Answers -/

theorem fetched_error (fault : Fault) :
    Twin secret (k.fetched secret purpose (.error fault))
      (k'.fetched secret purpose (.error fault)) := by
  have told : Twin secret (if fault.isNotFound then k.emit (.notFound secret) else k)
      (if fault.isNotFound then k'.emit (.notFound secret) else k') := by
    split
    · exact twin.emit _
    · exact twin
  have still := (Confined.disappointed secret k fault).lone free
  exact (told.report Lease.none fault).endFetch (report_matching _ _ secret _ fault) still

theorem fetched_ok (response : Response) :
    Twin secret (k.fetched secret purpose (.ok response))
      (k'.fetched secret purpose (.ok response)) := by
  simp only [fetched, twin.started]
  cases k.started with
  | false => exact twin.abandon free _ _
  | true =>
    rw [if_neg (by simp), if_neg (by simp)]
    have told := twin.published response
    have free₁ := (Confined.published secret k response).lone free
    unfold Keeper.published at told free₁
    generalize Keeper.emit (k.setRoom _ _) _ = k₁ at told free₁ ⊢
    generalize Keeper.emit (k'.setRoom _ _) _ = k₁' at told ⊢
    have scheduled := schedule_scheduled k₁ secret response.lease
    have both := told.schedule response.lease
    generalize k₁.schedule secret response.lease = outcome at both scheduled
    generalize k₁'.schedule secret response.lease = outcome' at both
    obtain ⟨k₂, _⟩ := outcome
    obtain ⟨k₂', kind⟩ := outcome'
    obtain ⟨rfl, after⟩ := both
    have still : k₂.Lone purpose.ticket? := scheduled.confined.lone free₁
    cases kind with
    | kept => exact after.endFetch (.ok _) still
    | refused => exact after.abandon still _ _
    | overflow =>
      cases own : purpose.ticket? with
      | none => exact after
      | some ticket => exact after.crash (still ticket own)

theorem renewed (lease : Lease) (result : Except Fault Lease) :
    Twin secret (k.renewed secret purpose lease result)
      (k'.renewed secret purpose lease result) := by
  cases result with
  | error fault =>
    have counted : Twin secret (k.count (.renewal secret.mode false))
        (k'.count (.renewal secret.mode false)) := twin.count _ _
    have still := (Confined.report secret (k.count (.renewal secret.mode false)) lease fault).lone
      ((Confined.count secret k _).lone free)
    exact (counted.report lease fault).endRenewal (report_matching _ _ secret lease fault) still
  | ok next =>
    have told := twin.acknowledged next
    have confined := Confined.acknowledged secret k next
    by_cases short : k.fallsShort next
    · have short' : k'.fallsShort next := by rwa [fallsShort, twin.policy]
      rw [renewed_of_short lease short, renewed_of_short lease short']
      split
      · exact told.call purpose _
      · exact (told.lapsed next).endRenewal (.ok _)
          ((confined.trans (.lapsed secret _ next)).lone free)
    · have enough : ¬ k'.fallsShort next := by rwa [fallsShort, twin.policy]
      rw [renewed_of_enough lease short, renewed_of_enough lease enough]
      exact told.endRenewal (.ok next) (confined.lone free)

theorem revoked (lease : Lease) (result : Except Fault Lease) (reply : Except Fault Unit) :
    Twin secret (k.revoked secret purpose lease result reply)
      (k'.revoked secret purpose lease result reply) := by
  cases reply with
  | ok _ =>
    have told := (Confined.count secret k (.revocation true)).trans
      (.emit _ (.afterRevocation secret lease) rfl)
    exact ((twin.count _ _).emit _).endFetch (.refl result) (told.lone free)
  | error fault =>
    have told := (Confined.count secret k (.revocation false)).trans
      (.report secret _ lease fault)
    exact ((twin.count _ _).report lease fault).endFetch (.refl result) (told.lone free)

theorem answer (reply : Reply) :
    Twin secret (k.answer secret purpose reply) (k'.answer secret purpose reply) := by
  have landed := twin.landed purpose
  have still := (Confined.landed k secret purpose).lone free
  unfold Keeper.landed at landed still
  unfold Keeper.answer
  simp only [twin.room] at landed ⊢
  cases (k.room secret).flight? purpose with
  | none => exact twin
  | some flight =>
    obtain ⟨_, errand⟩ := flight
    cases errand with
    | fetch =>
      cases reply with
      | fetched result =>
        cases result with
        | error fault => exact landed.fetched_error still fault
        | ok response => exact landed.fetched_ok still response
      | _ => exact twin
    | renew lease =>
      cases reply with
      | renewed result => exact landed.renewed still lease result
      | _ => exact twin
    | revoke lease result =>
      cases reply with
      | revoked reply => exact landed.revoked still lease result reply
      | _ => exact twin

end

/-! ### Timers and requests -/

theorem isHeld_of_holder (held : k.hasHolder = true) : k.isHeld = true := by
  unfold hasHolder at held
  simp [isHeld, held]

theorem fire (twin : Twin secret k k') (held : k.hasHolder = true) (number generation : Nat) :
    Twin secret (k.fire secret number generation) (k'.fire secret number generation) := by
  have held' : k'.hasHolder = true := twin.holder.trans held
  unfold Keeper.fire
  simp only [twin.room, twin.now, isHeld_of_holder held, isHeld_of_holder held', if_true]
  split
  · exact twin
  · split
    · exact twin
    · split
      · split
        · exact twin.setRoom _
        · exact (twin.setRoom _).renewOrFetch _ _
      · exact twin

theorem stop (twin : Twin secret k k') (number generation : Nat) :
    Twin secret (k.stop secret number generation) (k'.stop secret number generation) := by
  unfold Keeper.stop
  simp only [twin.room]
  split
  · exact twin
  · split
    · exact twin.setRoom _
    · exact twin

theorem ask (twin : Twin secret k k') (ticket : Nat) :
    Twin secret (k.ask secret ticket) (k'.ask secret ticket) := by
  unfold Keeper.ask
  simp only [twin.room]
  split
  · exact (twin.setRoom _).note _
  · exact twin

theorem request_renew (twin : Twin secret k k') (free : k.binds.find? ticket = none) :
    Twin secret (k.request ticket (.renew secret)) (k'.request ticket (.renew secret)) := by
  simp only [request, renew, current, twin.room]
  cases (k.room secret).registered with
  | false => exact twin.complete free _ _
  | true =>
    cases (k.room secret).current with
    | none => exact twin.complete free _ _
    | some lease =>
      cases id : lease.hasId with
      | false => simpa [id] using twin.complete free _ _
      | true => simpa [id] using twin.renewOrFetch (.renew ticket) lease

theorem request_rotate (twin : Twin secret k k') (free : k.binds.find? ticket = none) :
    Twin secret (k.request ticket (.rotate secret)) (k'.request ticket (.rotate secret)) := by
  simp only [request, rotate, twin.room, twin.started]
  cases (k.room secret).registered with
  | false => exact twin.complete free _ _
  | true =>
    cases k.started with
    | false => exact twin.complete free _ _
    | true => exact twin.call (.rotate ticket) .fetch

theorem step (twin : Twin secret k k') (held : k.hasHolder = true) {event : KeeperEvent}
    (mine : event.subject? = some secret) (free : k.Lone event.ticket?) :
    Twin secret (k.step event) (k'.step event) := by
  cases event with
  | request ticket operation =>
    cases operation with
    | renew own =>
      obtain rfl := Option.some.inj mine
      exact twin.request_renew (free ticket rfl)
    | rotate own =>
      obtain rfl := Option.some.inj mine
      exact twin.request_rotate (free ticket rfl)
    | _ => cases mine
  | ask own ticket =>
    obtain rfl := Option.some.inj mine
    exact twin.ask ticket
  | answer own purpose reply =>
    obtain rfl := Option.some.inj mine
    exact twin.answer free reply
  | fire own number generation =>
    obtain rfl := Option.some.inj mine
    exact twin.fire held number generation
  | stop own number generation =>
    obtain rfl := Option.some.inj mine
    exact twin.stop number generation
  | _ => cases mine

end Twin

end LeaseKeeper.Keeper

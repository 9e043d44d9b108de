import LeaseKeeper.Proofs.Keeper.Stakes

/-!
How a step ends. An operation hears of its result, and if it is part of a bind, the bind goes on:
it may start the keeper, fetch or remove its secret. All else that an answer or a timer brings about
leaves the binds alone and does not start or stop the keeper.
-/
namespace LeaseKeeper

namespace Table

variable {α β : Type} [DecidableEq α]

theorem find?_erase_self (key : α) (t : Table α β) : find? key (erase key t) = none := by
  induction t with
  | nil => rfl
  | cons entry rest ih =>
    obtain ⟨k, v⟩ := entry
    by_cases same : k = key
    · simp [erase, same, ih]
    · simp [erase, find?, same, ih]

theorem find?_erase_of_ne {key other : α} (differ : other ≠ key) (t : Table α β) :
    find? other (erase key t) = find? other t := by
  induction t with
  | nil => rfl
  | cons entry rest ih =>
    obtain ⟨k, v⟩ := entry
    by_cases same : k = key
    · subst same
      simp [erase, find?, Ne.symm differ, ih]
    · by_cases here : k = other
      · subst here
        simp [erase, find?, differ]
      · simp [erase, find?, same, here, ih]

end Table

namespace Keeper

variable {k k' k'' : Keeper} {secret : Secret} {purpose : Purpose} {ticket : Nat}

def isAdding (k : Keeper) (ticket : Nat) : Bool :=
  (k.binds.find? ticket).any (·.stage == .adding)

theorem isAdding_congr {other : Nat} (same : k'.binds.find? other = k.binds.find? other) :
    k'.isAdding other = k.isAdding other := by
  simp [isAdding, same]

/-! ### While no bind goes on -/

structure Carries (lost : Secret → Flight → Prop) (k k' : Keeper) : Prop where
  binds : k'.binds = k.binds
  started : k'.started = k.started
  flights : ∀ secret, ∀ flight ∈ (k.room secret).flights,
    lost secret flight ∨ flight ∈ (k'.room secret).flights

/-- A secret that is not registered stays so, with the data it has. -/
def Shuns (k k' : Keeper) : Prop :=
  ∀ secret, (k.room secret).registered = false →
    (k'.room secret).registered = false ∧ (k'.room secret).data = (k.room secret).data

structure Spares (k k' : Keeper) : Prop where
  carries : Carries (fun _ _ => False) k k'
  shuns : Shuns k k'

theorem Carries.trans {lost : Secret → Flight → Prop} (first : Carries lost k k')
    (second : Carries (fun _ _ => False) k' k'') : Carries lost k k'' := by
  refine ⟨second.binds.trans first.binds, second.started.trans first.started, ?_⟩
  intro secret flight flying
  exact (first.flights secret flight flying).imp_right fun later =>
    (second.flights secret flight later).resolve_left id

theorem Carries.of_rooms {lost : Secret → Flight → Prop} (binds : k'.binds = k.binds)
    (started : k'.started = k.started) (rooms : k'.rooms = k.rooms) : Carries lost k k' :=
  ⟨binds, started, fun secret _ flying => Or.inr (by rwa [room_of_rooms rooms secret])⟩

theorem Carries.setRoom {lost : Secret → Flight → Prop} {room : Room}
    (here : ∀ flight ∈ (k.room secret).flights, lost secret flight ∨ flight ∈ room.flights) :
    Carries lost k (k.setRoom secret room) :=
  ⟨rfl, rfl, forall_setRoom (P := fun secret room => ∀ flight ∈ (k.room secret).flights,
    lost secret flight ∨ flight ∈ room.flights) here fun _ _ => Or.inr⟩

theorem Shuns.trans (first : Shuns k k') (second : Shuns k' k'') : Shuns k k'' := by
  intro secret absent
  obtain ⟨still, data⟩ := first secret absent
  obtain ⟨later, data'⟩ := second secret still
  exact ⟨later, data'.trans data⟩

namespace Spares

theorem refl (k : Keeper) : Spares k k := ⟨.of_rooms rfl rfl rfl, fun _ absent => ⟨absent, rfl⟩⟩

theorem trans (first : Spares k k') (second : Spares k' k'') : Spares k k'' :=
  ⟨first.carries.trans second.carries, first.shuns.trans second.shuns⟩

theorem of_rooms (binds : k'.binds = k.binds) (started : k'.started = k.started)
    (rooms : k'.rooms = k.rooms) : Spares k k' :=
  ⟨.of_rooms binds started rooms,
    fun secret absent => by rw [room_of_rooms rooms secret]; exact ⟨absent, rfl⟩⟩

theorem of_telling (told : Telling k k') : Spares k k' :=
  of_rooms told.binds told.started told.rooms

theorem setRoom {room : Room} (flights : ∀ flight ∈ (k.room secret).flights, flight ∈ room.flights)
    (absent : (k.room secret).registered = false →
      room.registered = false ∧ room.data = (k.room secret).data) :
    Spares k (k.setRoom secret room) := by
  refine ⟨.setRoom fun flight flying => Or.inr (flights flight flying), ?_⟩
  exact forall_setRoom (P := fun secret room => (k.room secret).registered = false →
    room.registered = false ∧ room.data = (k.room secret).data) absent fun _ absent => ⟨absent, rfl⟩

theorem setLine (number : Nat) (line : Line) :
    Spares k (k.setRoom secret ((k.room secret).setLine number line)) :=
  setRoom (fun _ => id) fun absent => ⟨absent, rfl⟩

theorem arm (number : Nat) (line : Line) (generation delay : Nat) :
    Spares k (k.arm secret number line generation delay) := by
  have placed : Spares k (k.setRoom secret ((k.room secret).setLine number
    { line with waits := line.waits ++ [(generation, k.now + delay)] })) := setLine _ _
  exact placed.trans (of_rooms rfl rfl rfl)

theorem call (k : Keeper) (secret : Secret) (purpose : Purpose) (errand : Errand) :
    Spares k (k.call secret purpose errand) := by
  have boarded : Spares k (k.setRoom secret ((k.room secret).board purpose errand)) :=
    setRoom (fun _ => List.mem_append_left _) fun absent => ⟨absent, rfl⟩
  exact boarded.trans (of_rooms rfl rfl rfl)

theorem promise (k : Keeper) (secret : Secret) (ticket : Nat) :
    Spares k (k.promise secret ticket) :=
  setRoom (fun _ => List.mem_append_left _) fun absent => ⟨absent, rfl⟩

theorem ask (k : Keeper) (secret : Secret) (ticket : Nat) : Spares k (k.ask secret ticket) := by
  have turned : Spares k (k.setRoom secret ((k.room secret).ask ticket)) :=
    setRoom (fun _ => id) fun absent => ⟨absent, rfl⟩
  unfold Keeper.ask
  split
  · exact turned.trans (of_rooms rfl rfl rfl)
  · exact refl k

theorem revoke (k : Keeper) (secret : Secret) (purpose : Purpose) (lease : Lease)
    (result : Except Fault Lease) : Spares k (k.revoke secret purpose lease result) :=
  (of_telling (emit_telling k rfl)).trans (call _ secret purpose _)

theorem renewOrFetch (k : Keeper) (secret : Secret) (purpose : Purpose) (lease : Lease) :
    Spares k (k.renewOrFetch secret purpose lease) := by
  unfold Keeper.renewOrFetch
  split
  · exact call k secret purpose _
  · exact call k secret purpose _

theorem without (present : (k.room secret).registered = true) : Spares k (k.without secret) := by
  refine setRoom (fun flight flying => ?_) fun absent => ?_
  · exact Room.vacated_flights (k.room secret) ▸ flying
  · rw [present] at absent
    cases absent

theorem remove (k : Keeper) (ticket : Nat) (secret : Secret) :
    Spares k (k.remove ticket secret).1 := by
  cases registered : (k.room secret).registered with
  | false =>
    simp only [Keeper.remove, registered]
    exact refl k
  | true =>
    have gone := without registered
    rw [remove_eq k secret ticket registered]
    split
    · split
      · exact gone.trans (revoke _ secret _ _ _)
      · exact gone
    · exact gone

theorem rotate (k : Keeper) (ticket : Nat) (secret : Secret) :
    Spares k (k.rotate ticket secret).1 := by
  unfold Keeper.rotate
  split
  · exact refl k
  · split
    · exact refl k
    · exact call k secret _ _

theorem foldl {α : Type} {f : Keeper → α → Keeper} (each : ∀ k a, Spares k (f k a))
    (entries : List α) (k : Keeper) : Spares k (entries.foldl f k) := by
  induction entries generalizing k with
  | nil => exact refl k
  | cons entry rest ih => exact (each k entry).trans (ih (f k entry))

theorem scheduled {lease : Lease} {outcome : Keeper × Scheduling}
    (scheduled : Scheduled k secret lease outcome) : Spares k outcome.1 := by
  cases scheduled with
  | refused => exact refl k
  | outlasted => exact setLine _ _
  | installed number line deadline level =>
    exact (arm number _ _ _).trans (of_rooms rfl rfl rfl)
  | disabled number line level =>
    have placed : Spares k (k.relined secret number line line.lineage.disable.1) := setLine _ _
    exact placed.trans (of_rooms rfl rfl rfl)

theorem endTimer (k : Keeper) (secret : Secret) (number generation : Nat)
    (result : Except Fault Lease) : Spares k (k.endTimer secret number generation result) := by
  unfold Keeper.endTimer
  dsimp only
  split
  · exact refl k
  · rename_i line found
    split
    · exact arm number _ _ _
    · exact setLine _ _
    · exact setLine _ _

end Spares

/-! ### Sources -/

theorem tellSource_telling (k : Keeper) (id : Nat) (f : Source → Source) :
    Telling k (k.tellSource id f) := ⟨tellSource_aside k id f, rfl⟩

theorem dropSource_telling (k : Keeper) (id : Nat) : Telling k (k.dropSource id) := by
  refine ⟨dropSource_aside k id, ?_⟩
  unfold dropSource silence
  split <;> rfl

theorem closeSource_telling (k : Keeper) (id : Nat) : Telling k (k.closeSource id) := by
  refine ⟨closeSource_aside k id, ?_⟩
  unfold closeSource silence
  split <;> rfl

theorem release_telling (k : Keeper) (ticket : Nat) : Telling k (k.release ticket).1 := by
  refine ⟨release_aside k ticket, ?_⟩
  unfold release
  split <;> rfl

/-! ### A bind goes on -/

structure Settles (ticket : Nat) (running : Bool) (k k' : Keeper) : Prop where
  others : ∀ other, other ≠ ticket → k'.binds.find? other = k.binds.find? other
  settled : k'.isAdding ticket = false
  started : k'.started = running
  flights : ∀ secret, ∀ flight ∈ (k.room secret).flights,
    flight.purpose.ticket? = some ticket ∨ flight ∈ (k'.room secret).flights
  shuns : Shuns k k'

namespace Spares

theorem settles (spares : Spares k k') (rooms : k''.rooms = k'.rooms)
    (started : k''.started = k'.started) (settled : k''.isAdding ticket = false)
    (others : ∀ other, other ≠ ticket → k''.binds.find? other = k'.binds.find? other) :
    Settles ticket k.started k k'' := by
  refine ⟨?_, settled, started.trans spares.carries.started, ?_, ?_⟩
  · intro other differ
    rw [others other differ, spares.carries.binds]
  · intro secret flight flying
    rw [room_of_rooms rooms secret]
    exact Or.inr ((spares.carries.flights secret flight flying).resolve_left id)
  · intro secret absent
    rw [room_of_rooms rooms secret]
    exact spares.shuns secret absent

theorem settles_erase (spares : Spares k k') (answer : KeeperAnswer) : Settles ticket k.started k
    ({ k' with binds := k'.binds.erase ticket }.note (.returned ticket answer)) := by
  refine spares.settles rfl rfl ?_ fun other differ => Table.find?_erase_of_ne differ _
  simp [isAdding, note, Table.find?_erase_self]

theorem settles_put (spares : Spares k k') {b : Binding} (stage : b.stage ≠ .adding) :
    Settles ticket k.started k (k'.setStage ticket b) := by
  refine spares.settles rfl rfl ?_ fun other differ => Table.find?_put_of_ne differ b _
  simp [isAdding, setStage, Table.find?_put_self, stage]

theorem then_settles {running : Bool} (spares : Spares k k')
    (settles : Settles ticket running k' k'') : Settles ticket running k k'' := by
  refine ⟨?_, settles.settled, settles.started, ?_, spares.shuns.trans settles.shuns⟩
  · intro other differ
    rw [settles.others other differ, spares.carries.binds]
  · intro secret flight flying
    exact settles.flights secret flight
      ((spares.carries.flights secret flight flying).resolve_left id)

end Spares

theorem failBind_settles (spares : Spares k k') (fault : Fault) :
    Settles ticket k.started k (k'.failBind ticket fault) :=
  (spares.trans (.of_telling (dropSource_telling k' ticket))).settles_erase _

theorem bindFetched_settles (k : Keeper) (ticket : Nat) (b : Binding) :
    Settles ticket k.started k (k.bindFetched ticket b) := by
  have released := Spares.of_telling (release_telling k ticket)
  unfold bindFetched
  generalize k.release ticket = outcome at released
  obtain ⟨k₁, _ | fault⟩ := outcome
  · exact released.settles_erase _
  · have removed := released.trans (.remove k₁ ticket b.secret)
    dsimp only
    generalize k₁.remove ticket b.secret = outcome at removed
    obtain ⟨k₂, _ | flag⟩ := outcome
    · split
      · split
        · exact removed.settles_put (by simp)
        · exact failBind_settles released fault
      · exact released.settles_erase _
    · split
      · split
        · exact failBind_settles removed fault
        · exact failBind_settles released fault
      · exact released.settles_erase _

theorem start_spares (k : Keeper) (ticket : Nat) :
    Spares { k with started := true } (k.start ticket).1 := by
  unfold start
  split
  · rename_i started
    exact .of_telling ⟨.of_journal rfl rfl started rfl rfl rfl, rfl⟩
  · exact .foldl (fun k secret => .promise k secret _) _ _

theorem bindAdded_settles (k : Keeper) (ticket : Nat) (b : Binding) :
    Settles ticket true k (k.bindAdded ticket b) := by
  have switched {k' : Keeper} (settles : Settles ticket true { k with started := true } k') :
      Settles ticket true k k' :=
    ⟨settles.others, settles.settled, settles.started, settles.flights, settles.shuns⟩
  unfold bindAdded
  dsimp only
  split
  · apply switched
    have begun := start_spares k ticket
    generalize k.start ticket = outcome at begun
    obtain ⟨k₁, _ | _⟩ := outcome
    · exact begun.settles_put (by simp)
    · have running : k₁.started = true := begun.carries.started
      have settles := bindFetched_settles k₁ ticket b
      rw [running] at settles
      exact begun.then_settles settles
  · rename_i started
    have running : k.started = true := by simpa using started
    split
    · split
      · rename_i data present
        have seeded := tellSource_telling k ticket (·.seed data)
        have settles := bindFetched_settles (k.tellSource ticket (·.seed data)) ticket b
        rw [seeded.started, running] at settles
        exact (Spares.of_telling seeded).then_settles settles
      · have rotated := Spares.rotate k ticket b.secret
        generalize k.rotate ticket b.secret = outcome at rotated
        obtain ⟨k₁, _ | fault⟩ := outcome
        · exact running ▸ rotated.settles_put (by simp)
        · have settles := bindFetched_settles k₁ ticket b
          rw [rotated.carries.started, running] at settles
          exact rotated.then_settles settles
    · exact running ▸ bindFetched_settles k ticket b

theorem complete_settles (k : Keeper) (ticket : Nat) (answer : KeeperAnswer) :
    Settles ticket (k.started || k.isAdding ticket) k (k.complete ticket answer) := by
  unfold complete
  cases bound : k.binds.find? ticket with
  | none =>
    have idle : k.isAdding ticket = false := by simp [isAdding, bound]
    rw [idle, Bool.or_false]
    exact (Spares.refl k).settles rfl rfl idle fun _ _ => rfl
  | some b =>
    dsimp only
    cases stage : b.stage with
    | adding =>
      have adding : k.isAdding ticket = true := by simp [isAdding, bound, stage]
      rw [adding, Bool.or_true]
      exact bindAdded_settles k ticket b
    | fetching =>
      have through : k.isAdding ticket = false := by simp [isAdding, bound, stage]
      rw [through, Bool.or_false]
      exact bindFetched_settles k ticket b
    | removing fault =>
      have through : k.isAdding ticket = false := by simp [isAdding, bound, stage]
      rw [through, Bool.or_false]
      exact failBind_settles (.refl k) fault

theorem crash_settles (k : Keeper) (ticket : Nat) :
    Settles ticket k.started k (k.crash ticket) := by
  have dropped {k' : Keeper}
      (settles : Settles ticket k.started (k.mapRooms (·.dropTicket ticket)) k') :
      Settles ticket k.started k k' := by
    refine ⟨settles.others, settles.settled, settles.started, ?_, ?_⟩
    · intro secret flight flying
      by_cases own : flight.purpose.ticket? = some ticket
      · exact Or.inl own
      · refine settles.flights secret flight ?_
        rw [room_dropTicket]
        exact List.mem_filter.mpr ⟨flying, by simpa using own⟩
    · intro secret absent
      have same := room_dropTicket k secret ticket
      have still := settles.shuns secret (by rw [same]; exact absent)
      rwa [same] at still
  apply dropped
  unfold crash
  cases bound : k.binds.find? ticket with
  | none =>
    simp only [bound]
    refine (Spares.refl (k.mapRooms (·.dropTicket ticket))).settles rfl rfl ?_ fun _ _ => rfl
    simp [isAdding, note, bound]
  | some b =>
    simp only [bound]
    have left := (release_telling (k.mapRooms (·.dropTicket ticket)) ticket).trans
      (dropSource_telling _ ticket)
    exact (Spares.of_telling left).settles_erase _

/-! ### How an answer ends -/

/-- What becomes of an activity whose store call was answered: another call is made for it, or its
operation ends or dies, or nothing is left to do. -/
inductive Arrives (secret : Secret) (purpose : Purpose) (k : Keeper) : Keeper → Prop where
  | called (k₁ : Keeper) (errand : Errand) (spares : Spares k k₁) :
      Arrives secret purpose k (k₁.call secret purpose errand)
  | rested (k₁ : Keeper) (spares : Spares k k₁) (idle : ∀ ticket, purpose ≠ .register ticket) :
      Arrives secret purpose k k₁
  | completed (k₁ : Keeper) (ticket : Nat) (answer : KeeperAnswer) (spares : Spares k k₁)
      (own : purpose.ticket? = some ticket) : Arrives secret purpose k (k₁.complete ticket answer)
  | died (k₁ : Keeper) (ticket : Nat) (spares : Spares k k₁) (started : k.started = true)
      (own : purpose.ticket? = some ticket) : Arrives secret purpose k (k₁.crash ticket)

theorem Arrives.before (spares : Spares k k') (arrives : Arrives secret purpose k' k'') :
    Arrives secret purpose k k'' := by
  cases arrives with
  | called k₁ errand later => exact .called k₁ errand (spares.trans later)
  | rested _ later idle => exact .rested _ (spares.trans later) idle
  | completed k₁ ticket answer later own =>
    exact .completed k₁ ticket answer (spares.trans later) own
  | died k₁ ticket later started own =>
    exact .died k₁ ticket (spares.trans later) (spares.carries.started ▸ started) own

theorem endRenew_arrives (k : Keeper) (secret : Secret) (ticket : Nat)
    (result : Except Fault Lease) :
    Arrives secret (.renew ticket) k (k.endRenew ticket secret result) := by
  cases result with
  | error fault => exact .completed k ticket _ (.refl k) rfl
  | ok lease =>
    have scheduled := schedule_scheduled k secret lease
    simp only [endRenew]
    generalize k.schedule secret lease = outcome at scheduled
    have spares := Spares.scheduled scheduled
    obtain ⟨k₁, kind⟩ := outcome
    cases kind with
    | kept => exact .completed k₁ ticket _ spares rfl
    | refused => exact .completed k₁ ticket _ spares rfl
    | overflow =>
      cases scheduled with
      | outlasted number line started => exact .died _ ticket spares started rfl

theorem endShared_arrives (k : Keeper) {ticket : Nat} (own : purpose.ticket? = some ticket)
    (idle : ∀ ticket, purpose ≠ .register ticket) :
    Arrives secret purpose k (k.endShared ticket) := by
  unfold endShared
  split
  · exact .rested k (.refl k) idle
  · exact .completed k ticket _ (.refl k) own

theorem endFetch_arrives (k : Keeper) (secret : Secret) (purpose : Purpose)
    (result : Except Fault Lease) :
    Arrives secret purpose k (k.endFetch secret purpose result) := by
  have counted := Spares.of_telling (count_telling k (.rotation (isOk result)))
  unfold endFetch
  cases purpose with
  | register ticket => exact .completed k ticket _ (.refl k) rfl
  | start ticket => exact endShared_arrives k rfl nofun
  | rotate ticket => exact .completed _ ticket _ counted rfl
  | renew ticket => exact .before counted (endRenew_arrives _ secret ticket result)
  | timer number generation =>
    exact .rested _ (counted.trans (.endTimer _ secret number generation result)) nofun
  | remove ticket => exact .completed k ticket _ (.refl k) rfl
  | destroy ticket => exact endShared_arrives k rfl nofun

theorem endRenewal_arrives (k : Keeper) (secret : Secret)
    (idle : ∀ ticket, purpose ≠ .register ticket) (result : Except Fault Lease) :
    Arrives secret purpose k (k.endRenewal secret purpose result) := by
  unfold endRenewal
  cases purpose with
  | renew ticket => exact endRenew_arrives k secret ticket result
  | timer number generation =>
    exact .rested _ (.endTimer k secret number generation result) idle
  | _ => exact .rested k (.refl k) idle

theorem abandon_arrives (k : Keeper) (secret : Secret) (purpose : Purpose) (lease : Lease)
    (result : Except Fault Lease) :
    Arrives secret purpose k (k.abandon secret purpose lease result) := by
  unfold abandon
  split
  · exact .called _ _ (.of_telling (emit_telling k rfl))
  · exact endFetch_arrives k secret purpose result

theorem published_carries (k : Keeper) (secret : Secret) (response : Response) :
    Carries (fun _ _ => False) k (k.published secret response) := by
  have stored : Carries (fun _ _ => False) k
      (k.setRoom secret { k.room secret with data := some response.flattened }) :=
    .setRoom fun _ => Or.inr
  have told := emit_tells (k.setRoom secret { k.room secret with data := some response.flattened })
    (.created secret response.lease response.flattened)
  exact stored.trans (.of_rooms (emit_binds _ _) told.started told.rooms)

theorem fetched_ok_arrives (started : k.started = true) (response : Response) :
    Arrives secret purpose (k.published secret response)
      (k.fetched secret purpose (.ok response)) := by
  simp only [fetched, started]
  rw [if_neg (by simp)]
  unfold published
  generalize Keeper.emit _ _ = k₁
  have scheduled := schedule_scheduled k₁ secret response.lease
  generalize k₁.schedule secret response.lease = outcome at scheduled
  have spares := Spares.scheduled scheduled
  obtain ⟨k₂, kind⟩ := outcome
  cases kind with
  | kept => exact .before spares (endFetch_arrives k₂ secret purpose _)
  | refused => exact .before spares (abandon_arrives k₂ secret purpose _ _)
  | overflow =>
    cases scheduled with
    | outlasted number line running =>
      cases purpose with
      | timer => exact .rested _ spares (by simp)
      | _ => exact .died _ _ spares running rfl

theorem fetched_arrives (k : Keeper) (secret : Secret) (purpose : Purpose)
    (result : Except Fault Response) : ∃ k₁, Carries (fun _ _ => False) k k₁ ∧
      Arrives secret purpose k₁ (k.fetched secret purpose result) := by
  cases result with
  | error fault =>
    have told : Spares k (if fault.isNotFound then k.emit (.notFound secret) else k) := by
      split
      · exact .of_telling (emit_telling k rfl)
      · exact .refl k
    have reported := told.trans (.of_telling (report_telling _ secret Lease.none fault))
    exact ⟨_, reported.carries, endFetch_arrives _ secret purpose _⟩
  | ok response =>
    cases started : k.started with
    | false =>
      simp only [fetched, started]
      exact ⟨k, (Spares.refl k).carries, abandon_arrives k secret purpose _ _⟩
    | true => exact ⟨_, published_carries k secret response, fetched_ok_arrives started response⟩

theorem renewed_arrives (k : Keeper) (secret : Secret) (lease : Lease)
    (idle : ∀ ticket, purpose ≠ .register ticket) (result : Except Fault Lease) :
    ∃ k₁, Carries (fun _ _ => False) k k₁ ∧
      Arrives secret purpose k₁ (k.renewed secret purpose lease result) := by
  cases result with
  | error fault =>
    have told := (count_telling k (.renewal secret.mode false)).trans
      (report_telling _ secret lease fault)
    exact ⟨_, (Spares.of_telling told).carries, endRenewal_arrives _ secret idle _⟩
  | ok next =>
    obtain ⟨k₁, told, result⟩ := renewed_told k secret purpose lease next
    have heard := (Spares.of_telling told).carries
    rw [result]
    split
    · exact ⟨k₁, heard, endRenewal_arrives k₁ secret idle _⟩
    · split
      · exact ⟨k₁, heard, .called k₁ _ (.refl k₁)⟩
      · have cleared : Carries (fun _ _ => False) k₁
            (k₁.setRoom secret { k₁.room secret with data := none }) := .setRoom fun _ => Or.inr
        have expired := Spares.of_telling (emit_telling
          (k₁.setRoom secret { k₁.room secret with data := none }) (e := .expired secret next) rfl)
        exact ⟨_, (heard.trans cleared).trans expired.carries, endRenewal_arrives _ secret idle _⟩

theorem answer_arrives (k : Keeper) (secret : Secret) (purpose : Purpose) (reply : Reply)
    (fetches : ∀ ticket lease, purpose = .register ticket →
      (k.room secret).flight? purpose ≠ some ⟨purpose, .renew lease⟩) :
    k.answer secret purpose reply = k ∨ ∃ k₁,
      Carries (fun other flight => other = secret ∧ flight.purpose = purpose) k k₁ ∧
        Arrives secret purpose k₁ (k.answer secret purpose reply) := by
  have landed : Carries (fun other flight => other = secret ∧ flight.purpose = purpose) k
      (k.landed secret purpose) := by
    refine .setRoom fun flight flying => ?_
    by_cases own : flight.purpose = purpose
    · exact Or.inl ⟨rfl, own⟩
    · exact Or.inr (List.mem_filter.mpr ⟨flying, by simpa using own⟩)
  unfold answer
  dsimp only
  cases flown : (k.room secret).flight? purpose with
  | none => exact Or.inl rfl
  | some flight =>
    obtain rfl := Room.flight?_purpose flown
    obtain ⟨purpose, errand⟩ := flight
    dsimp only
    split
    · rename_i result
      obtain ⟨k₁, carries, arrives⟩ :=
        fetched_arrives (k.landed secret purpose) secret purpose result
      exact Or.inr ⟨k₁, landed.trans carries, arrives⟩
    · rename_i lease result
      obtain ⟨k₁, carries, arrives⟩ := renewed_arrives (k.landed secret purpose) secret lease
        (fun ticket own => fetches ticket lease own flown) result
      exact Or.inr ⟨k₁, landed.trans carries, arrives⟩
    · rename_i lease after result
      obtain ⟨k₁, told, ended⟩ := revoked_told (k.landed secret purpose) secret purpose lease after
        result
      refine Or.inr ⟨k₁, landed.trans (Spares.of_telling told).carries, ?_⟩
      exact (congrArg (Arrives secret purpose k₁) ended).mpr
        (endFetch_arrives k₁ secret purpose after)
    · exact Or.inl rfl

end Keeper
end LeaseKeeper

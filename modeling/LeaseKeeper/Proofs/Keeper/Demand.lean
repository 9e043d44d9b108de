import LeaseKeeper.Proofs.Keeper.Stakes

/-!
A renewal on demand. Its answer makes the renewed lease current without a look at what is current
by then: a lease that was installed since the renewal was asked for is overwritten, which the
renewal by a timer never does.
-/
namespace LeaseKeeper

def Entry.lease? (ticket : Nat) : Entry → Option Lease
  | .returned own (.lease (.ok lease)) => if own = ticket then some lease else none
  | _ => none

namespace Keeper

open Lineage

variable {k k' k'' : Keeper} {secret : Secret} {ticket : Nat}

/-! ### Registered secrets have a line -/

def Lined (k : Keeper) : Prop :=
  ∀ secret, (k.room secret).registered = true → (k.room secret).lines ≠ []

theorem Lined.line? (lined : k.Lined) (present : (k.room secret).registered = true) :
    (k.room secret).line?.isSome = true := by
  have below : (k.room secret).lines.length - 1 < (k.room secret).lines.length :=
    Nat.sub_lt (List.length_pos_iff.mpr (lined secret present)) Nat.one_pos
  simp [Room.line?, Room.lineNumber?, present, below]

theorem Move.registered {live : Prop} (move : Move live k k')
    (present : (k'.room secret).registered = true) :
    (k.room secret).registered = true ∨ (k'.room secret).lines ≠ [] := by
  have kept (same : (k'.room secret).registered = (k.room secret).registered) :
      (k.room secret).registered = true ∨ (k'.room secret).lines ≠ [] := Or.inl (same ▸ present)
  cases move with
  | aside k' aside => exact kept (by rw [room_of_rooms aside.rooms])
  | called => exact kept (read_setRoom Room.registered (by rfl) secret)
  | promised => exact kept (read_setRoom Room.registered (by rfl) secret)
  | asked => exact kept (read_setRoom Room.registered (by rfl) secret)
  | landed => exact kept (read_setRoom Room.registered (by rfl) secret)
  | crashed => exact kept (by rw [room_dropTicket]; rfl)
  | passed => exact kept rfl
  | disowned => exact kept rfl
  | opened other =>
    by_cases same : secret = other
    · subst same
      exact Or.inr (by simp)
    · exact kept (by rw [room_setRoom_of_ne k other same])
  | forgotten other =>
    by_cases same : secret = other
    · subst same
      simp [without] at present
    · exact kept (by rw [without, room_setRoom_of_ne k other same])
  | begun => exact kept rfl
  | emptied k' stopped rooms => exact kept (by rw [rooms]; exact Room.vacated_registered _)
  | published => exact kept (by rw [emit_room]; exact read_setRoom Room.registered (by rfl) secret)
  | _ => exact kept (read_setRoom Room.registered (by rfl) secret)

theorem Moves.lined {live : Prop} (moves : Moves live k k') (lined : k.Lined) : k'.Lined := by
  refine moves.keep (fun k k' move lined secret present => ?_) lined
  rcases move.registered present with old | some_line
  · have first := List.getElem?_eq_getElem (List.length_pos_iff.mpr (lined secret old))
    obtain ⟨line, found, _⟩ := move.onward.line first
    exact List.ne_nil_of_mem (List.mem_of_getElem? found)
  · exact some_line

theorem run_lined (policy : LeasePolicy) (events : List KeeperEvent) :
    ((new policy).run events).Lined :=
  run_keep (fun k event => (step_moves k event).lined) (fun _ present => by cases present) events

/-! ### Up to the decision -/

structure Meanwhile (k k' : Keeper) : Prop where
  moves : Moves True k k'
  binds : k'.binds = k.binds
  started : k'.started = k.started
  registered : ∀ secret, (k'.room secret).registered = (k.room secret).registered

namespace Meanwhile

theorem refl (k : Keeper) : Meanwhile k k := ⟨.none k, rfl, rfl, fun _ => rfl⟩

theorem trans (first : Meanwhile k k') (second : Meanwhile k' k'') : Meanwhile k k'' :=
  ⟨first.moves.trans second.moves, second.binds.trans first.binds,
    second.started.trans first.started,
    fun secret => (second.registered secret).trans (first.registered secret)⟩

theorem of_telling (told : Telling k k') : Meanwhile k k' :=
  ⟨.of_aside told.toAside, told.binds, told.started, fun _ => by rw [room_of_rooms told.rooms]⟩

theorem landed (secret : Secret) {purpose : Purpose}
    (prompt : (k.room secret).awaitsTurn purpose = false) :
    Meanwhile k (k.landed secret purpose) :=
  ⟨.one (.landed secret purpose prompt), rfl, rfl, read_setRoom Room.registered (by rfl)⟩

theorem expired (k : Keeper) (secret : Secret) :
    Meanwhile k (k.setRoom secret { k.room secret with data := none }) :=
  ⟨.one (.expired secret), rfl, rfl, read_setRoom Room.registered (by rfl)⟩

theorem published (k : Keeper) (secret : Secret) (lease : Lease) (data : TextMap String)
    (started : k.started = true) :
    Meanwhile k ((k.setRoom secret { k.room secret with data := some data }).emit
      (.created secret lease data)) := by
  refine ⟨.one (.published secret lease data trivial started), emit_binds _ _, ?_, ?_⟩
  · exact (emit_tells _ _).started
  · intro other
    rw [emit_room]
    exact read_setRoom Room.registered (by rfl) other

theorem scheduled {lease : Lease} {outcome : Keeper × Scheduling}
    (scheduled : Scheduled k secret lease outcome) : Meanwhile k outcome.1 := by
  refine ⟨scheduled.moves fun _ => trivial, ?_, ?_, ?_⟩
  · cases scheduled <;> rfl
  · cases scheduled <;> rfl
  · intro other
    cases scheduled with
    | refused => rfl
    | _ => exact read_setRoom Room.registered (by rfl) other

end Meanwhile

inductive Demanded (k : Keeper) (secret : Secret) (ticket : Nat) : Keeper → Prop where
  | ignored : Demanded k secret ticket k
  | called (k' : Keeper) (purpose : Purpose) (errand : Errand) :
      Demanded k secret ticket (k'.call secret purpose errand)
  | crashed (k' : Keeper) (meanwhile : Meanwhile k k') : Demanded k secret ticket (k'.crash ticket)
  | ended (k' : Keeper) (result : Except Fault Lease) (meanwhile : Meanwhile k k') :
      Demanded k secret ticket (k'.endRenew ticket secret result)

section
variable (first : Meanwhile k k')
include first

theorem endFetch_demanded (result : Except Fault Lease) :
    Demanded k secret ticket (k'.endFetch secret (.renew ticket) result) :=
  .ended _ result (first.trans (.of_telling (count_telling k' _)))

theorem endRenewal_demanded (result : Except Fault Lease) :
    Demanded k secret ticket (k'.endRenewal secret (.renew ticket) result) := by
  simp only [endRenewal]
  exact .ended k' result first

theorem abandon_demanded (lease : Lease) (result : Except Fault Lease) :
    Demanded k secret ticket (k'.abandon secret (.renew ticket) lease result) := by
  unfold abandon
  split
  · exact .called _ _ _
  · exact endFetch_demanded first result

theorem fetched_demanded (result : Except Fault Response) :
    Demanded k secret ticket (k'.fetched secret (.renew ticket) result) := by
  cases result with
  | error fault =>
    have told : Meanwhile k' (if fault.isNotFound then k'.emit (.notFound secret) else k') := by
      split
      · exact .of_telling (emit_telling k' rfl)
      · exact .refl k'
    have reported := Meanwhile.of_telling (report_telling
      (if fault.isNotFound then k'.emit (.notFound secret) else k') secret Lease.none fault)
    simp only [fetched]
    exact endFetch_demanded ((first.trans told).trans reported) _
  | ok response =>
    simp only [fetched]
    cases started : k'.started with
    | false => exact abandon_demanded first _ _
    | true =>
      have published := first.trans
        (.published k' secret response.lease response.flattened started)
      rw [if_neg (by simp)]
      generalize Keeper.emit _ _ = k₁ at published
      have scheduled := schedule_scheduled k₁ secret response.lease
      generalize k₁.schedule secret response.lease = outcome at scheduled
      have later := published.trans (.scheduled scheduled)
      obtain ⟨k₂, kind⟩ := outcome
      cases kind with
      | kept => exact endFetch_demanded later _
      | refused => exact abandon_demanded later _ _
      | overflow => exact .crashed k₂ later

theorem renewed_demanded (lease : Lease) (result : Except Fault Lease) :
    Demanded k secret ticket (k'.renewed secret (.renew ticket) lease result) := by
  cases result with
  | error fault =>
    have told := (count_telling k' (.renewal secret.mode false)).trans
      (report_telling _ secret lease fault)
    simp only [renewed]
    exact endRenewal_demanded (first.trans (.of_telling told)) _
  | ok next =>
    obtain ⟨k₁, told, result⟩ := renewed_told k' secret (.renew ticket) lease next
    have heard := first.trans (.of_telling told)
    rw [result]
    split
    · exact endRenewal_demanded heard _
    · split
      · exact .called k₁ _ _
      · have expired := heard.trans (.expired k₁ secret)
        exact endRenewal_demanded (expired.trans (.of_telling (emit_telling _ (by rfl)))) _

theorem revoked_demanded (lease : Lease) (result : Except Fault Lease) (reply : Except Fault Unit) :
    Demanded k secret ticket (k'.revoked secret (.renew ticket) lease result reply) := by
  obtain ⟨k₁, told, ended⟩ := revoked_told k' secret (.renew ticket) lease result reply
  rw [ended]
  exact endFetch_demanded (first.trans (.of_telling told)) result

end

theorem answer_demanded (k : Keeper) (secret : Secret) (ticket : Nat) (reply : Reply) :
    Demanded k secret ticket (k.answer secret (.renew ticket) reply) := by
  have first : Meanwhile k (k.landed secret (.renew ticket)) := .landed secret rfl
  unfold answer
  dsimp only
  split
  · exact .ignored
  · split
    · exact fetched_demanded first _
    · exact renewed_demanded first _ _
    · exact revoked_demanded first _ _ _
    · exact .ignored

def returned? (k : Keeper) (event : KeeperEvent) (ticket : Nat) : Option Lease :=
  if k.journal.length < (k.step event).journal.length then
    (k.step event).journal.head?.bind (·.2.lease? ticket)
  else none

theorem demanded_scheduled {reply : Reply} {lease : Lease}
    (unbound : k.binds.find? ticket = none)
    (completed : k.returned? (.answer secret (.renew ticket) reply) ticket = some lease) :
    ∃ k₁ k₂ kind, Meanwhile k k₁ ∧ Scheduled k₁ secret lease (k₂, kind) ∧ kind ≠ .overflow ∧
      k.step (.answer secret (.renew ticket) reply) =
        k₂.note (.returned ticket (.lease (.ok lease))) := by
  have demanded : Demanded k secret ticket (k.step (.answer secret (.renew ticket) reply)) :=
    answer_demanded k secret ticket reply
  unfold returned? at completed
  split at completed
  case isFalse => cases completed
  rename_i longer
  generalize k.step (.answer secret (.renew ticket) reply) = k' at demanded completed longer
  cases demanded with
  | ignored => exact absurd longer (Nat.lt_irrefl _)
  | called => cases completed
  | crashed k₁ meanwhile =>
    have free : k₁.binds.find? ticket = none := meanwhile.binds ▸ unbound
    simp only [crash, free] at completed
    cases completed
  | ended k₁ result meanwhile =>
    have free : k₁.binds.find? ticket = none := meanwhile.binds ▸ unbound
    cases result with
    | error fault =>
      simp only [endRenew, complete, free] at completed
      cases completed
    | ok given =>
      have scheduled := schedule_scheduled k₁ secret given
      have later := (Meanwhile.scheduled scheduled).binds
      simp only [endRenew] at completed ⊢
      generalize k₁.schedule secret given = outcome at scheduled later completed
      obtain ⟨k₂, kind⟩ := outcome
      have free₂ : k₂.binds.find? ticket = none := by
        rw [show k₂.binds = k₁.binds from later]
        exact free
      have noted {k₃ : Keeper} (heard : (k₃.note
          (.returned ticket (.lease (.ok given)))).journal.head?.bind (·.2.lease? ticket) =
            some lease) : given = lease := by
        simpa [note, Entry.lease?] using heard
      cases kind with
      | overflow =>
        simp only [crash, free₂] at completed
        cases completed
      | kept =>
        simp only [complete, free₂] at completed ⊢
        obtain rfl := noted completed
        exact ⟨k₁, k₂, .kept, meanwhile, scheduled, by simp, rfl⟩
      | refused =>
        simp only [complete, free₂] at completed ⊢
        obtain rfl := noted completed
        exact ⟨k₁, k₂, .refused, meanwhile, scheduled, by simp, rfl⟩

/-! ### The decision -/

def adopts (k : Keeper) (secret : Secret) (lease : Lease) : Bool :=
  k.started && (k.room secret).registered && isSchedulable secret lease

/-- The number and the generation under which the secret's current lease is held. -/
def tenure (k : Keeper) (secret : Secret) : Option (Nat × Nat) :=
  (k.room secret).lineNumber?.bind fun number =>
    ((k.room secret).lines[number]?.bind (·.lineage.slot)).map fun held => (number, held.generation)

theorem tenure_of_used {number : Nat} {line : Line}
    (used : (k.room secret).lineNumber? = some number)
    (found : (k.room secret).lines[number]? = some line) :
    k.tenure secret = line.lineage.slot.map fun held => (number, held.generation) := by
  simp [tenure, used, found]

theorem tenure_eq_none_iff : k.tenure secret = none ↔ k.current secret = none := by
  simp only [tenure, current, Room.current, Room.line?]
  cases (k.room secret).lineNumber? with
  | none => simp
  | some number =>
    cases found : (k.room secret).lines[number]? with
    | none => simp [found]
    | some line => simp [found, Lineage.current]

theorem Numbered.tenure_le (numbered : k.Numbered) {number generation : Nat}
    (held : k.tenure secret = some (number, generation)) :
    ∃ line, (k.room secret).lines[number]? = some line ∧ generation ≤ line.lineage.issued := by
  simp only [tenure, Option.bind_eq_some_iff, Option.map_eq_some_iff] at held
  obtain ⟨own, _, occupant, ⟨line, found, slot⟩, same⟩ := held
  obtain ⟨rfl, rfl⟩ := Prod.mk.inj same
  exact ⟨line, found, (numbered secret own line found).slot occupant slot⟩

theorem registered_of_number {r : Room} {number : Nat} (used : r.lineNumber? = some number) :
    r.registered = true := by
  unfold Room.lineNumber? at used
  split at used
  · assumption
  · cases used

theorem adopts_of_closed (lined : k.Lined) (lease : Lease)
    (closed : (k.room secret).line? = none ∨ k.started = false) :
    k.adopts secret lease = false := by
  rcases closed with absent | stopped
  · have unregistered : (k.room secret).registered = false := by
      refine Bool.eq_false_iff.mpr fun present => ?_
      have there := lined.line? present
      simp [absent] at there
    simp [adopts, unregistered]
  · simp [adopts, stopped]

theorem Rested.current_of_closed (rested : k.Rested)
    (closed : (k.room secret).line? = none ∨ k.started = false) : k.current secret = none := by
  have blank := rested.blank_of_closed closed
  cases found : (k.room secret).line? with
  | none => simp [current, Room.current, found]
  | some line =>
    obtain ⟨number, used, present⟩ := Room.line?_eq_some found
    have empty := (blank number line present).slot
    rw [current, Room.current_of_used used present, Lineage.current, empty]
    rfl

section
variable {lease : Lease} {kind : Scheduling} (scheduled : Scheduled k secret lease (k', kind))
  (fits : kind ≠ .overflow)
include scheduled fits

theorem Scheduled.current (rested : k.Rested) (lined : k.Lined) :
    k'.current secret = if k.adopts secret lease then some lease else none := by
  cases scheduled with
  | refused closed =>
    rw [adopts_of_closed lined lease closed]
    exact rested.current_of_closed closed
  | outlasted => exact absurd rfl fits
  | installed number line deadline level started schedulable used found =>
    have taken : k.adopts secret lease = true := by
      simp [adopts, started, registered_of_number used, schedulable]
    refine (congrArg Room.current (room_setRoom_self k secret _)).trans ?_
    rw [Room.current_setLine found, if_pos used, taken]
    simp [Lineage.current]
  | disabled number line level started unschedulable used found =>
    have idle : k.adopts secret lease = false := by simp [adopts, unschedulable]
    refine (congrArg Room.current (room_setRoom_self k secret _)).trans ?_
    rw [Room.current_setLine found, if_pos used, idle]
    rfl

theorem Scheduled.tenure_ne {past : Keeper} (numbered : past.Numbered) (onward : Onward past k)
    (lined : k.Lined) (taken : k.adopts secret lease = true) :
    k'.tenure secret ≠ past.tenure secret := by
  intro same
  cases scheduled with
  | refused closed =>
    rw [adopts_of_closed lined lease closed] at taken
    cases taken
  | outlasted => exact absurd rfl fits
  | installed number line deadline level started schedulable used found =>
    have placed := lines_arm found (line.lineage.replaced lease deadline) (line.lineage.issued + 1)
      (k.policy.delay lease)
    have holds := tenure_of_used ((lineNumber_arm k secret number _ _ _ secret).trans used) placed
    rw [replaced_slot, Option.map_some] at holds
    obtain ⟨old, before, bound⟩ := numbered.tenure_le (same.symm.trans holds)
    obtain ⟨later, present, grown⟩ := onward.line before
    obtain rfl := Option.some.inj (present.symm.trans found)
    have beyond : later.lineage.issued + 1 ≤ old.lineage.issued := bound
    have := grown.issued
    omega
  | disabled number line level started unschedulable used found =>
    simp [adopts, unschedulable] at taken

end

/-- Between the request of a renewal and its answer the current lease may change; the answer leaves
a lease alone that is not the one the request found. -/
def Guarded (asked k k' : Keeper) (secret : Secret) : Prop :=
  k.tenure secret = asked.tenure secret ∨ k'.tenure secret = k.tenure secret

/-- A renewal on demand that completes makes its lease current whenever it can be, whatever was
installed since it was asked for; a lease that cannot be scheduled leaves the secret without one. A
newer lease is left alone only where there is none. -/
theorem renewal_on_demand (policy : LeasePolicy) (before between : List KeeperEvent)
    (secret : Secret) (ticket : Nat) (reply : Reply) (lease : Lease) :
    let asked := (new policy).run before
    let k := (new policy).run (before ++ .request ticket (.renew secret) :: between)
    let event : KeeperEvent := .answer secret (.renew ticket) reply
    k.binds.find? ticket = none → k.returned? event ticket = some lease →
      (k.step event).current secret = (if k.adopts secret lease then some lease else none) ∧
      (Guarded asked k (k.step event) secret ↔ k.tenure secret = asked.tenure secret ∨
        k.tenure secret = none ∧ k.adopts secret lease = false) := by
  intro asked k event unbound completed
  obtain ⟨k₁, k₂, kind, meanwhile, scheduled, fits, result⟩ := demanded_scheduled unbound completed
  have fit := run_fit policy (before ++ .request ticket (.renew secret) :: between)
  have lined := meanwhile.moves.lined
    (run_lined policy (before ++ .request ticket (.renew secret) :: between))
  have rested := meanwhile.moves.keep (fun _ _ move => move.rested) fit.rested
  have same : k₁.adopts secret lease = k.adopts secret lease := by
    simp [adopts, meanwhile.started, meanwhile.registered]
  have current : (k.step event).current secret =
      if k.adopts secret lease then some lease else none := by
    rw [result, ← same]
    exact scheduled.current fits rested lined
  refine ⟨current, or_congr Iff.rfl ?_⟩
  cases taken : k.adopts secret lease with
  | true =>
    have moved : (k.step event).tenure secret ≠ k.tenure secret := by
      rw [result]
      exact scheduled.tenure_ne fits fit.numbered meanwhile.moves.onward lined (same.trans taken)
    simp [moved]
  | false =>
    rw [taken] at current
    have vacant := tenure_eq_none_iff.mpr current
    rw [vacant]
    simp [eq_comm]

/-- Nothing happens between the request and the answer. -/
theorem renewal_of_current_lease :
    let secret : Secret := ⟨"database/creds/app", .rotate⟩
    let response : Response := ⟨"", "a", 120, true, none, none, none⟩
    let lease : Lease := ⟨"a", 90, true⟩
    let before : List KeeperEvent := [.request 1 (.add secret), .request 2 .start, .ask secret 2,
      .answer secret (.start 2) (.fetched (.ok response))]
    let asked := (new .default).run before
    let k := (new .default).run (before ++ [.request 3 (.renew secret)])
    let event : KeeperEvent := .answer secret (.renew 3) (.renewed (.ok lease))
    k.binds.find? 3 = none ∧ k.returned? event 3 = some lease ∧
      (k.step event).current secret = some lease ∧ Guarded asked k (k.step event) secret := by
  intro secret response lease before asked k event
  have unbound : k.binds.find? 3 = none := by decide
  have completed : k.returned? event 3 = some lease := by decide
  have holds := renewal_on_demand .default before [] secret 3 (.renewed (.ok lease)) lease unbound
    completed
  have unmoved : k.tenure secret = asked.tenure secret := by decide
  have taken : k.adopts secret lease = true := by decide
  rw [taken] at holds
  exact ⟨unbound, completed, holds.1, holds.2.mpr (Or.inl unmoved)⟩

/-- A rotation brings a newer lease while the store renews the older one on demand. -/
theorem newer_lease_overwritten :
    let secret : Secret := ⟨"database/creds/app", .rotate⟩
    let first : Response := ⟨"", "a", 120, true, none, none, none⟩
    let second : Response := ⟨"", "b", 300, true, none, none, none⟩
    let before : List KeeperEvent := [.request 1 (.add secret), .request 2 .start, .ask secret 2,
      .answer secret (.start 2) (.fetched (.ok first))]
    let between : List KeeperEvent := [.request 4 (.rotate secret),
      .answer secret (.rotate 4) (.fetched (.ok second))]
    let asked := (new .default).run before
    let k := (new .default).run (before ++ .request 3 (.renew secret) :: between)
    let k' := k.step (.answer secret (.renew 3) (.renewed (.ok ⟨"a", 90, true⟩)))
    k.current secret = some ⟨"b", 300, true⟩ ∧ k'.current secret = some ⟨"a", 90, true⟩ ∧
      ¬ Guarded asked k k' secret := by
  intro secret first second before between asked k k'
  have overwritten : ¬ Guarded asked k k' secret := by
    unfold Guarded
    decide
  exact ⟨by decide, by decide, overwritten⟩

end Keeper
end LeaseKeeper

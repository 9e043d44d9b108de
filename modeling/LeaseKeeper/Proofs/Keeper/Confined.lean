import LeaseKeeper.Proofs.Keeper.Alike

/-!
What is done about one secret, and what is left alone by it: the rooms of the others, and all that
was asked and told about them. Only an operation that dies takes calls for other secrets along. One
lemma for each activity that an answer, a timer or a request about a secret can go through.
-/
namespace LeaseKeeper

theorem Table.isEmpty_adjust {α β : Type} [DecidableEq α] (key : α) (f : β → β) (t : Table α β) :
    (t.adjust key f).isEmpty = t.isEmpty := by
  cases t with
  | nil => rfl
  | cons entry rest =>
    unfold adjust
    split <;> rfl

namespace Room

theorem line?_setLine (r : Room) (number : Nat) (line : Line) :
    (r.setLine number line).line?.isSome = r.line?.isSome := by
  rw [line?, line?, setLine_lineNumber?]
  cases r.lineNumber? with
  | none => rfl
  | some own =>
    rw [Option.bind_some, Option.bind_some, setLine_lines]
    split
    · rw [Option.isSome_map]
    · rfl

end Room

namespace Keeper

open Lineage

variable {k k₁ k' k'' : Keeper} {own : Secret} {purpose : Purpose} {ticket : Nat}

def hasHolder (k : Keeper) : Bool := k.owned || !k.sources.isEmpty

structure Setting (k k' : Keeper) : Prop where
  policy : k'.policy = k.policy
  now : k'.now = k.now
  started : k'.started = k.started
  binds : k'.binds = k.binds
  holder : k'.hasHolder = k.hasHolder

namespace Setting

theorem refl (k : Keeper) : Setting k k := ⟨rfl, rfl, rfl, rfl, rfl⟩

theorem symm (setting : Setting k k') : Setting k' k :=
  ⟨setting.policy.symm, setting.now.symm, setting.started.symm, setting.binds.symm,
    setting.holder.symm⟩

theorem trans (first : Setting k k') (second : Setting k' k'') : Setting k k'' :=
  ⟨second.policy.trans first.policy, second.now.trans first.now,
    second.started.trans first.started, second.binds.trans first.binds,
    second.holder.trans first.holder⟩

end Setting

/-- Nothing is done but to one secret, which keeps its line in use. -/
structure Confined (own : Secret) (k k' : Keeper) : Prop extends Setting k k' where
  lined : (k'.room own).line?.isSome = (k.room own).line?.isSome
  rooms : ∀ other, other ≠ own → k'.room other = k.room other
  tidings : ∀ other, other ≠ own → k'.tidings other = k.tidings other

namespace Confined

theorem refl (own : Secret) (k : Keeper) : Confined own k k :=
  ⟨.refl k, rfl, fun _ _ => rfl, fun _ _ => rfl⟩

theorem trans (first : Confined own k k') (second : Confined own k' k'') : Confined own k k'' := by
  refine ⟨first.toSetting.trans second.toSetting, second.lined.trans first.lined, ?_, ?_⟩
  · intro other differ
    rw [second.rooms other differ, first.rooms other differ]
  · intro other differ
    rw [second.tidings other differ, first.tidings other differ]

theorem of_quiet (setting : Setting k k') (rooms : k'.rooms = k.rooms)
    (journal : k'.journal = k.journal) : Confined own k k' := by
  refine ⟨setting, ?_, fun other _ => room_of_rooms rooms other, ?_⟩
  · rw [room_of_rooms rooms]
  · intro other _
    rw [Keeper.tidings, journal]
    rfl

theorem of_entry {time : Nat} {entry : Entry} (setting : Setting k k') (rooms : k'.rooms = k.rooms)
    (journal : k'.journal = (time, entry) :: k.journal)
    (silent : ∀ other, other ≠ own → entry.tiding? other = none) : Confined own k k' := by
  refine ⟨setting, ?_, fun other _ => room_of_rooms rooms other, ?_⟩
  · rw [room_of_rooms rooms]
  · intro other differ
    simp [Keeper.tidings, journal, silent other differ]

theorem note {entry : Entry} (k : Keeper)
    (silent : ∀ other, other ≠ own → entry.tiding? other = none) : Confined own k (k.note entry) :=
  of_entry ⟨rfl, rfl, rfl, rfl, rfl⟩ rfl rfl silent

theorem count (own : Secret) (k : Keeper) (m : Measure) : Confined own k (k.count m) :=
  of_quiet ⟨rfl, rfl, rfl, rfl, rfl⟩ rfl rfl

theorem setGauge (own : Secret) (k : Keeper) (level : Nat) : Confined own k (k.setGauge level) :=
  of_quiet ⟨rfl, rfl, rfl, rfl, rfl⟩ rfl rfl

theorem setRoom (k : Keeper) {room : Room} (lined : room.line?.isSome = (k.room own).line?.isSome) :
    Confined own k (k.setRoom own room) := by
  refine ⟨⟨rfl, rfl, rfl, rfl, rfl⟩, ?_, ?_, fun _ _ => rfl⟩
  · rw [room_setRoom_self]
    exact lined
  · intro other differ
    exact room_setRoom_of_ne k own differ room

theorem setLine (own : Secret) (k : Keeper) (number : Nat) (line : Line) :
    Confined own k (k.setRoom own ((k.room own).setLine number line)) :=
  setRoom k (Room.line?_setLine _ number line)

theorem setData (own : Secret) (k : Keeper) (data : Option (TextMap String)) :
    Confined own k (k.setRoom own { k.room own with data }) := setRoom k rfl

theorem landed (k : Keeper) (own : Secret) (purpose : Purpose) :
    Confined own k (k.landed own purpose) := setRoom k rfl

theorem arm (own : Secret) (k : Keeper) (number : Nat) (line : Line) (generation delay : Nat) :
    Confined own k (k.arm own number line generation delay) :=
  (setLine own k number _).trans (note _ fun _ _ => rfl)

theorem call (own : Secret) (k : Keeper) (purpose : Purpose) (errand : Errand) :
    Confined own k (k.call own purpose errand) := by
  have boarded : Confined own k (k.setRoom own ((k.room own).board purpose errand)) :=
    setRoom k rfl
  refine boarded.trans (note _ ?_)
  intro other differ
  exact if_neg (Ne.symm differ)

theorem emit (k : Keeper) (e : LeaseEvent) (mine : e.secret = own) :
    Confined own k (k.emit e) := by
  have told := emit_tells k e
  have holder : (k.emit e).hasHolder = k.hasHolder := by
    refine (read_foldl hasHolder ?_ _ _).trans rfl
    rintro k ⟨_, listener⟩
    cases listener with
    | observer => rfl
    | source id => simp [hasHolder, tellSource, Table.isEmpty_adjust]
  refine of_entry ⟨told.policy, told.now, told.started, emit_binds k e, holder⟩ told.rooms
    (emit_journal k e) ?_
  intro other differ
  exact if_neg fun same => differ (same.symm.trans mine)

theorem report (own : Secret) (k : Keeper) (lease : Lease) (fault : Fault) :
    Confined own k (k.report own lease fault).1 := by
  have told := report_telling k own lease fault
  have holder : (k.report own lease fault).1.hasHolder = k.hasHolder := by
    refine (read_foldl (fun state : Keeper × Bool => state.1.hasHolder) ?_ _ _).trans rfl
    rintro ⟨k, held⟩ ⟨_, listener⟩
    cases listener with
    | observer keeps => rfl
    | source id => simp [hasHolder, tellSource, Table.isEmpty_adjust]
    | capture ticket =>
      simp only [catchFault]
      split
      · rfl
      · split <;> rfl
  refine of_entry ⟨told.policy, told.now, told.started, told.binds, holder⟩ told.rooms
    (report_journal k own lease fault) ?_
  intro other differ
  exact if_neg (Ne.symm differ)

theorem revoke (own : Secret) (k : Keeper) (purpose : Purpose) (lease : Lease)
    (result : Except Fault Lease) : Confined own k (k.revoke own purpose lease result) :=
  (emit k (.beforeRevocation own lease) rfl).trans (call own _ purpose _)

theorem renewOrFetch (own : Secret) (k : Keeper) (purpose : Purpose) (lease : Lease) :
    Confined own k (k.renewOrFetch own purpose lease) := by
  unfold Keeper.renewOrFetch
  split
  · exact call own k purpose _
  · exact call own k purpose _

theorem published (own : Secret) (k : Keeper) (response : Response) :
    Confined own k (k.published own response) := (setData own k _).trans (emit _ _ rfl)

theorem disappointed (own : Secret) (k : Keeper) (fault : Fault) :
    Confined own k (k.disappointed own fault) := by
  unfold Keeper.disappointed
  split
  · exact (emit k (.notFound own) rfl).trans (report own _ _ fault)
  · exact report own k _ fault

theorem acknowledged (own : Secret) (k : Keeper) (next : Lease) :
    Confined own k (k.acknowledged own next) := by
  unfold Keeper.acknowledged
  split
  · exact (count own k _).trans (emit _ _ rfl)
  · exact count own k _

theorem lapsed (own : Secret) (k : Keeper) (next : Lease) :
    Confined own k (k.lapsed own next) := (setData own k none).trans (emit _ _ rfl)

theorem endTimer (own : Secret) (k : Keeper) (number generation : Nat)
    (result : Except Fault Lease) : Confined own k (k.endTimer own number generation result) := by
  unfold Keeper.endTimer
  dsimp only
  split
  · exact refl own k
  · split
    · exact arm own k number _ _ _
    · exact setLine own k number _
    · exact setLine own k number _

theorem dropTicket (confined : Confined own k k') (ticket : Nat) :
    Confined own (k.mapRooms (·.dropTicket ticket)) (k'.mapRooms (·.dropTicket ticket)) := by
  refine ⟨⟨confined.policy, confined.now, confined.started, confined.binds, confined.holder⟩,
    ?_, ?_, confined.tidings⟩
  · rw [room_dropTicket, room_dropTicket]
    exact confined.lined
  · intro other differ
    rw [room_dropTicket, room_dropTicket, confined.rooms other differ]

end Confined

/-! ### Leases that outlast the clock -/

structure Outlasts (k : Keeper) (own : Secret) (lease : Lease) : Prop where
  started : k.started = true
  lined : (k.room own).line?.isSome = true
  schedulable : isSchedulable own lease = true
  unfit : deadline? k.now lease.span = none

instance (k : Keeper) (own : Secret) (lease : Lease) : Decidable (k.Outlasts own lease) :=
  decidable_of_iff (k.started = true ∧ (k.room own).line?.isSome = true ∧
      isSchedulable own lease = true ∧ deadline? k.now lease.span = none)
    ⟨fun ⟨started, lined, schedulable, unfit⟩ => ⟨started, lined, schedulable, unfit⟩,
      fun ⟨started, lined, schedulable, unfit⟩ => ⟨started, lined, schedulable, unfit⟩⟩

theorem Scheduled.confined {lease : Lease} {outcome : Keeper × Scheduling}
    (scheduled : Scheduled k own lease outcome) : Confined own k outcome.1 := by
  cases scheduled with
  | refused => exact .refl own k
  | outlasted number line => exact .setLine own k number _
  | installed number line deadline level =>
    exact (Confined.arm own k number _ _ _).trans (.setGauge own _ level)
  | disabled number line level =>
    exact (Confined.setLine own k number _).trans (.setGauge own _ level)

theorem Scheduled.outlasts {lease : Lease} (scheduled : Scheduled k own lease (k', .overflow)) :
    k.Outlasts own lease := by
  cases scheduled with
  | outlasted number line started schedulable numbered found overflow =>
    refine ⟨started, ?_, schedulable, overflow⟩
    rw [Room.line?_of_number numbered, found]
    rfl

theorem Confined.outlasts_iff (confined : Confined own k k') {lease : Lease} :
    k'.Outlasts own lease ↔ k.Outlasts own lease := by
  constructor
  · exact fun outlasts => ⟨confined.started ▸ outlasts.started, confined.lined ▸ outlasts.lined,
      outlasts.schedulable, confined.now ▸ outlasts.unfit⟩
  · exact fun outlasts => ⟨confined.started ▸ outlasts.started, confined.lined ▸ outlasts.lined,
      outlasts.schedulable, confined.now ▸ outlasts.unfit⟩

/-- A step about a secret is confined to it, unless the lease it was handed outlasts the clock: then
the operation dies, with every call it has under way. -/
inductive Ends (own : Secret) (ticket? : Option Nat) (handed : Option Lease) (k k' : Keeper) :
    Prop where
  | confined (confined : Confined own k k')
  | died (ticket : Nat) (lease : Lease) (mine : ticket? = some ticket) (given : handed = some lease)
      (outlasts : k.Outlasts own lease)
      (rest : Confined own (k.mapRooms (·.dropTicket ticket)) k')

theorem Ends.binds {ticket? : Option Nat} {handed : Option Lease}
    (ends : Ends own ticket? handed k k') : k'.binds = k.binds := by
  cases ends with
  | confined confined => exact confined.binds
  | died ticket lease mine given outlasts rest => exact rest.binds

theorem Ends.before {ticket? : Option Nat} {handed : Option Lease} (first : Confined own k k₁)
    (ends : Ends own ticket? handed k₁ k') : Ends own ticket? handed k k' := by
  cases ends with
  | confined later => exact .confined (first.trans later)
  | died ticket lease mine given outlasts rest =>
    exact .died ticket lease mine given (first.outlasts_iff.mp outlasts)
      ((first.dropTicket ticket).trans rest)

/-! ### How activities end -/

def Lone (k : Keeper) (ticket? : Option Nat) : Prop :=
  ∀ ticket, ticket? = some ticket → k.binds.find? ticket = none

theorem Setting.lone (setting : Setting k k') {ticket? : Option Nat}
    (lone : k.Lone ticket?) : k'.Lone ticket? := by
  intro ticket mine
  rw [setting.binds]
  exact lone ticket mine

theorem lone_of_free (free : k.binds.find? ticket = none) : k.Lone (some ticket) := by
  intro own same
  obtain rfl := Option.some.inj same
  exact free

section
variable (free : k.binds.find? ticket = none)
include free

theorem complete_lone (answer : KeeperAnswer) :
    k.complete ticket answer = k.note (.returned ticket answer) := by
  simp only [complete, free]

theorem crash_lone : k.crash ticket =
    (k.mapRooms (·.dropTicket ticket)).note (.returned ticket .crashed) := by
  simp only [crash, free]
  rfl

theorem complete_confined (own : Secret) (answer : KeeperAnswer) :
    Confined own k (k.complete ticket answer) := by
  rw [complete_lone free]
  exact .note k fun _ _ => rfl

theorem crash_confined (own : Secret) :
    Confined own (k.mapRooms (·.dropTicket ticket)) (k.crash ticket) := by
  rw [crash_lone free]
  exact .note _ fun _ _ => rfl

theorem endShared_confined (own : Secret) : Confined own k (k.endShared ticket) := by
  unfold endShared
  split
  · exact .refl own k
  · exact complete_confined free own _

theorem endRenew_ends {result : Except Fault Lease} {handed : Option Lease}
    (given : ∀ lease, result = .ok lease → isSchedulable own lease = true → handed = some lease) :
    Ends own (some ticket) handed k (k.endRenew ticket own result) := by
  unfold endRenew
  cases result with
  | error fault => exact .confined (complete_confined free own _)
  | ok lease =>
    have scheduled := schedule_scheduled k own lease
    dsimp only
    generalize k.schedule own lease = outcome at scheduled
    obtain ⟨k₁, kind⟩ := outcome
    have confined : Confined own k k₁ := scheduled.confined
    have still : k₁.binds.find? ticket = none := confined.binds ▸ free
    cases kind with
    | kept => exact .confined (confined.trans (complete_confined still own _))
    | refused => exact .confined (confined.trans (complete_confined still own _))
    | overflow =>
      have outlasts := scheduled.outlasts
      exact .died ticket lease rfl (given lease rfl outlasts.schedulable) outlasts
        ((confined.dropTicket ticket).trans (crash_confined still own))

end

section
variable {result : Except Fault Lease} {handed : Option Lease}

theorem endRenewal_ends (free : k.Lone purpose.ticket?)
    (given : ∀ lease, result = .ok lease → isSchedulable own lease = true → handed = some lease) :
    Ends own purpose.ticket? handed k (k.endRenewal own purpose result) := by
  unfold endRenewal
  cases purpose with
  | renew ticket => exact endRenew_ends (free ticket rfl) given
  | timer number generation => exact .confined (.endTimer own k number generation result)
  | _ => exact .confined (.refl own k)

theorem endFetch_ends (free : k.Lone purpose.ticket?)
    (given : ∀ lease, result = .ok lease → isSchedulable own lease = true → handed = some lease) :
    Ends own purpose.ticket? handed k (k.endFetch own purpose result) := by
  have counted := Confined.count own k (.rotation (isOk result))
  unfold endFetch
  cases purpose with
  | register ticket => exact .confined (complete_confined (free ticket rfl) own _)
  | start ticket => exact .confined (endShared_confined (free ticket rfl) own)
  | rotate ticket =>
    exact .confined (counted.trans (complete_confined (counted.lone free ticket rfl) own _))
  | renew ticket =>
    exact .before counted (endRenew_ends (counted.lone free ticket rfl) given)
  | timer number generation => exact .confined (counted.trans (.endTimer own _ number generation _))
  | remove ticket => exact .confined (complete_confined (free ticket rfl) own _)
  | destroy ticket => exact .confined (endShared_confined (free ticket rfl) own)

theorem abandon_ends (free : k.Lone purpose.ticket?) (lease : Lease)
    (given : ∀ lease, result = .ok lease → isSchedulable own lease = true → handed = some lease) :
    Ends own purpose.ticket? handed k (k.abandon own purpose lease result) := by
  unfold abandon
  split
  · exact .confined (.revoke own k purpose lease result)
  · exact endFetch_ends free given

end

theorem isSchedulable_none (own : Secret) : isSchedulable own Lease.none = false := by
  simp [isSchedulable, Lease.isRevocable, Lease.hasId, Lease.none]

theorem fetched_error_ends (free : k.Lone purpose.ticket?) (fault : Fault)
    (handed : Option Lease) :
    Ends own purpose.ticket? handed k (k.fetched own purpose (.error fault)) := by
  have told := Confined.disappointed own k fault
  refine .before told (endFetch_ends (told.lone free) ?_)
  intro lease same
  cases same

theorem fetched_ok_ends (free : k.Lone purpose.ticket?) (response : Response) :
    Ends own purpose.ticket? (some response.lease) k
      (k.fetched own purpose (.ok response)) := by
  cases started : k.started with
  | false =>
    simp only [fetched, started]
    refine abandon_ends free response.lease ?_
    intro lease same schedulable
    obtain rfl := Except.ok.inj same
    rw [isSchedulable_none] at schedulable
    cases schedulable
  | true =>
    have told := Confined.published own k response
    refine .before told ?_
    simp only [fetched, started]
    rw [if_neg (by simp)]
    have free' := told.lone free
    unfold published at free' ⊢
    generalize Keeper.emit _ _ = k₁ at free' ⊢
    have scheduled := schedule_scheduled k₁ own response.lease
    generalize k₁.schedule own response.lease = outcome at scheduled
    obtain ⟨k₂, kind⟩ := outcome
    have confined : Confined own k₁ k₂ := scheduled.confined
    have free₂ := confined.lone free'
    have given : ∀ lease, (Except.ok response.lease : Except Fault Lease) = .ok lease →
        isSchedulable own lease = true → some response.lease = some lease :=
      fun _ same _ => congrArg some (Except.ok.inj same)
    cases kind with
    | kept => exact .before confined (endFetch_ends free₂ given)
    | refused => exact .before confined (abandon_ends free₂ response.lease given)
    | overflow =>
      cases own_ticket : purpose.ticket? with
      | none => exact .confined confined
      | some ticket =>
        have still := free₂ ticket own_ticket
        exact .died ticket _ rfl rfl scheduled.outlasts
          ((confined.dropTicket ticket).trans (crash_confined still own))

theorem renewed_ends (free : k.Lone purpose.ticket?) (lease : Lease)
    (result : Except Fault Lease) :
    Ends own purpose.ticket? result.toOption k (k.renewed own purpose lease result) := by
  cases result with
  | error fault =>
    have told := (Confined.count own k (.renewal own.mode false)).trans
      (.report own _ lease fault)
    refine .before told (endRenewal_ends (told.lone free) ?_)
    intro lease same
    cases same
  | ok next =>
    have told := Confined.acknowledged own k next
    by_cases short : k.fallsShort next
    · rw [renewed_of_short lease short]
      split
      · exact .confined (told.trans (.call own _ purpose _))
      · have lapsed := told.trans (.lapsed own _ next)
        refine .before lapsed (endRenewal_ends (lapsed.lone free) ?_)
        intro lease same schedulable
        obtain rfl := Except.ok.inj same
        rw [isSchedulable_none] at schedulable
        cases schedulable
    · rw [renewed_of_enough lease short]
      refine .before told (endRenewal_ends (told.lone free) ?_)
      intro lease same _
      exact congrArg some (Except.ok.inj same)

theorem revoked_ends (free : k.Lone purpose.ticket?) (lease : Lease)
    (result : Except Fault Lease) (reply : Except Fault Unit) :
    Ends own purpose.ticket? result.toOption k
      (k.revoked own purpose lease result reply) := by
  have given : ∀ lease, result = .ok lease → isSchedulable own lease = true →
      result.toOption = some lease := by
    rintro lease rfl _
    rfl
  cases reply with
  | ok _ =>
    have told := (Confined.count own k (.revocation true)).trans
      (.emit _ (.afterRevocation own lease) rfl)
    exact .before told (endFetch_ends (told.lone free) given)
  | error fault =>
    have told := (Confined.count own k (.revocation false)).trans (.report own _ lease fault)
    exact .before told (endFetch_ends (told.lone free) given)

/-! ### Whole steps -/

end Keeper

/-- The lease that a reply hands to the activity which sent the errand. -/
def Errand.handed? : Errand → Reply → Option Lease
  | .fetch, .fetched (.ok response) => some response.lease
  | .renew _, .renewed result => result.toOption
  | .revoke _ result, .revoked _ => result.toOption
  | _, _ => none

def KeeperEvent.subject? : KeeperEvent → Option Secret
  | .request _ (.renew secret) | .request _ (.rotate secret) => some secret
  | .ask secret _ | .answer secret _ _ | .fire secret _ _ | .stop secret _ _ => some secret
  | _ => none

def KeeperEvent.ticket? : KeeperEvent → Option Nat
  | .request ticket _ | .ask _ ticket => some ticket
  | .answer _ purpose _ => purpose.ticket?
  | _ => none

namespace Keeper

def handed? (k : Keeper) : KeeperEvent → Option Lease
  | .answer secret purpose reply =>
    ((k.room secret).flight? purpose).bind (·.errand.handed? reply)
  | _ => none

theorem answer_ends (free : k.Lone purpose.ticket?) (reply : Reply) :
    Ends own purpose.ticket? (k.handed? (.answer own purpose reply)) k
      (k.answer own purpose reply) := by
  have landed := Confined.landed k own purpose
  have free' := landed.lone free
  have ignored {handed : Option Lease} : Ends own purpose.ticket? handed k k :=
    .confined (.refl own k)
  unfold answer handed?
  dsimp only
  cases flown : (k.room own).flight? purpose with
  | none => exact ignored
  | some flight =>
    obtain ⟨_, errand⟩ := flight
    cases errand with
    | fetch =>
      cases reply with
      | fetched result =>
        apply Ends.before landed
        cases result with
        | error fault => exact fetched_error_ends free' fault _
        | ok response => exact fetched_ok_ends free' response
      | _ => exact ignored
    | renew lease =>
      cases reply with
      | renewed result => exact .before landed (renewed_ends free' lease result)
      | _ => exact ignored
    | revoke lease result =>
      cases reply with
      | revoked reply => exact .before landed (revoked_ends free' lease result reply)
      | _ => exact ignored

theorem fire_confined (own : Secret) (k : Keeper) (number generation : Nat) :
    Confined own k (k.fire own number generation) := by
  unfold fire
  dsimp only
  split
  · exact .refl own k
  · split
    · exact .refl own k
    · split
      · split
        · exact .setLine own k number _
        · split
          · exact (Confined.setLine own k number _).trans (.renewOrFetch own _ _ _)
          · exact (Confined.setLine own k number _).trans (.endTimer own _ number generation _)
      · exact .refl own k

theorem stop_confined (own : Secret) (k : Keeper) (number generation : Nat) :
    Confined own k (k.stop own number generation) := by
  unfold stop
  dsimp only
  split
  · exact .refl own k
  · split
    · exact .setLine own k number _
    · exact .refl own k

theorem ask_confined (own : Secret) (k : Keeper) (ticket : Nat) :
    Confined own k (k.ask own ticket) := by
  unfold ask
  split
  · have turned : Confined own k (k.setRoom own ((k.room own).ask ticket)) := .setRoom k rfl
    exact turned.trans (.note _ fun other differ => if_neg (Ne.symm differ))
  · exact .refl own k

theorem renew_confined (own : Secret) (free : k.binds.find? ticket = none) :
    Confined own k (k.request ticket (.renew own)) := by
  simp only [request, renew]
  cases (k.room own).registered with
  | false => exact complete_confined free own _
  | true =>
    cases k.current own with
    | none => exact complete_confined free own _
    | some lease =>
      cases id : lease.hasId with
      | false => simpa [id] using complete_confined free own _
      | true => simpa [id] using .renewOrFetch own k (.renew ticket) lease

theorem rotate_confined (own : Secret) (free : k.binds.find? ticket = none) :
    Confined own k (k.request ticket (.rotate own)) := by
  simp only [request, rotate]
  cases (k.room own).registered with
  | false => exact complete_confined free own _
  | true =>
    cases k.started with
    | false => exact complete_confined free own _
    | true => exact .call own k (.rotate ticket) .fetch

theorem step_ends {event : KeeperEvent} (mine : event.subject? = some own)
    (free : k.Lone event.ticket?) :
    Ends own event.ticket? (k.handed? event) k (k.step event) := by
  cases event with
  | request ticket operation =>
    cases operation with
    | renew secret =>
      obtain rfl := Option.some.inj mine
      exact .confined (renew_confined secret (free ticket rfl))
    | rotate secret =>
      obtain rfl := Option.some.inj mine
      exact .confined (rotate_confined secret (free ticket rfl))
    | _ => cases mine
  | ask secret ticket =>
    obtain rfl := Option.some.inj mine
    exact .confined (ask_confined secret k ticket)
  | answer secret purpose reply =>
    obtain rfl := Option.some.inj mine
    exact answer_ends free reply
  | fire secret number generation =>
    obtain rfl := Option.some.inj mine
    exact .confined (fire_confined secret k number generation)
  | stop secret number generation =>
    obtain rfl := Option.some.inj mine
    exact .confined (stop_confined secret k number generation)
  | _ => cases mine

/-- The event hands over no lease that outlasts the clock. -/
def Bears (k : Keeper) (event : KeeperEvent) : Prop :=
  ∀ own ∈ event.subject?, ∀ lease ∈ k.handed? event, ¬ k.Outlasts own lease

instance (k : Keeper) (event : KeeperEvent) : Decidable (k.Bears event) :=
  inferInstanceAs (Decidable (∀ own ∈ event.subject?, ∀ lease ∈ k.handed? event,
    ¬ k.Outlasts own lease))

theorem bears_pass (k : Keeper) (span : Nat) : k.Bears (.pass span) := by
  intro own mine
  cases mine

theorem bears_ask (k : Keeper) (secret : Secret) (ticket : Nat) : k.Bears (.ask secret ticket) := by
  intro own mine lease handed
  cases handed

theorem outlasts_of_not_bears {k : Keeper} {own : Secret} {purpose : Purpose}
    {result : Except Fault Response}
    (overtaxed : ¬ k.Bears (.answer own purpose (.fetched result))) :
    (k.room own).flight? purpose = some ⟨purpose, .fetch⟩ ∧
      ∃ response, result = .ok response ∧ k.Outlasts own response.lease := by
  simp only [Bears, KeeperEvent.subject?, handed?, Option.mem_def, Option.some.injEq,
    Classical.not_forall, Classical.not_not] at overtaxed
  obtain ⟨_, rfl, lease, handed, outlasts⟩ := overtaxed
  obtain ⟨flight, flown, handed⟩ := Option.bind_eq_some_iff.mp handed
  obtain ⟨other, errand⟩ := flight
  obtain rfl : other = purpose := Room.flight?_purpose flown
  cases errand with
  | fetch =>
    cases result with
    | error fault => cases handed
    | ok response =>
      obtain rfl := Option.some.inj handed
      exact ⟨flown, response, rfl, outlasts⟩
  | _ => cases handed

theorem Bears.confined {event : KeeperEvent} (bears : k.Bears event)
    (mine : event.subject? = some own)
    (lone : k.Lone event.ticket?) : Confined own k (k.step event) := by
  cases step_ends mine lone with
  | confined confined => exact confined
  | died ticket lease _ given outlasts => exact absurd outlasts (bears own mine lease given)

end Keeper
end LeaseKeeper

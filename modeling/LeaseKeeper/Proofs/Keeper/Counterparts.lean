import LeaseKeeper.Proofs.Keeper.Audience
import LeaseKeeper.Proofs.Keeper.Twins
import Mathlib.Data.List.Forall2
import Mathlib.Logic.Function.Iterate

/-!
Two keepers that differ in who listens for faults from outside. Whoever does holds on to faults, so
that other faults are copies, and takes numbers that the keeper's own listeners would have had. All
else is the same in both, and stays so with whatever the two do alike: one lemma for each activity,
in the order of their definitions.
-/
namespace LeaseKeeper

/-! ### Copies of faults -/

namespace Fault

/-- One is a copy of the other, or both are copies of a third. -/
def Akin (fault fault' : Fault) : Prop := fault'.replicate = fault.replicate

@[simp] theorem replicate_replicate (fault : Fault) :
    fault.replicate.replicate = fault.replicate := by
  cases fault <;> rfl

theorem replicate_iterate (fault : Fault) (copies : Nat) :
    replicate^[copies + 1] fault = fault.replicate := by
  induction copies with
  | zero => rfl
  | succ copies ih => rw [Function.iterate_succ_apply', ih, fault.replicate_replicate]

theorem kind_replicate (fault : Fault) : fault.replicate.kind =
    if fault.kind = "SerializationError" then "Internal" else fault.kind := by
  cases fault with
  | serializationError failure => rfl
  | _ => exact (if_neg (by simp [kind])).symm

theorem message_replicate (fault : Fault) : fault.replicate.message =
    if fault.kind = "SerializationError" then "Internal error: " ++ fault.message
    else fault.message := by
  cases fault with
  | serializationError failure => exact (if_pos rfl).symm
  | _ => exact (if_neg (by simp [kind])).symm

theorem Akin.shouldDrop {fault fault' : Fault} (akin : Akin fault fault') (strategy : Strategy) :
    strategy.shouldDrop fault' = strategy.shouldDrop fault := by
  rw [← strategy.shouldDrop_replicate fault', akin, strategy.shouldDrop_replicate]

def plainly {α : Type} (result : Except Fault α) : Except Fault α := result.mapError replicate

theorem Akin.plainly {α : Type} {fault fault' : Fault} (akin : Akin fault fault') :
    Fault.plainly (.error fault' : Except Fault α) = Fault.plainly (.error fault) :=
  congrArg Except.error akin

theorem plainly_cases {α : Type} {result result' : Except Fault α}
    (same : plainly result' = plainly result) :
    (∃ value, result = .ok value ∧ result' = .ok value) ∨
      ∃ fault fault', result = .error fault ∧ result' = .error fault' ∧ Akin fault fault' := by
  cases result with
  | ok value =>
    cases result' with
    | ok value' =>
      obtain rfl : value' = value := Except.ok.inj same
      exact Or.inl ⟨value', rfl, rfl⟩
    | error fault' => cases same
  | error fault =>
    cases result' with
    | ok value' => cases same
    | error fault' => exact Or.inr ⟨fault, fault', rfl, rfl, Except.error.inj same⟩

end Fault

/-! ### Tables with values that go together -/

namespace Table

variable {α β β' : Type} {R S : β → β' → Prop} {t : Table α β} {t' : Table α β'}

def Agree (R : β → β' → Prop) (t : Table α β) (t' : Table α β') : Prop :=
  List.Forall₂ (fun entry entry' => entry'.1 = entry.1 ∧ R entry.2 entry'.2) t t'

namespace Agree

theorem imp (weaker : ∀ v v', R v v' → S v v') (agree : Agree R t t') : Agree S t t' :=
  List.Forall₂.imp (fun _ _ both => ⟨both.1, weaker _ _ both.2⟩) agree

theorem isEmpty (agree : Agree R t t') : List.isEmpty t' = List.isEmpty t := by
  cases agree <;> rfl

variable [DecidableEq α]

theorem find? (agree : Agree R t t') (key : α) :
    (t.find? key = none ∧ t'.find? key = none) ∨
      ∃ v v', t.find? key = some v ∧ t'.find? key = some v' ∧ R v v' := by
  induction agree with
  | nil => exact Or.inl ⟨rfl, rfl⟩
  | @cons entry entry' rest rest' both _ ih =>
    obtain ⟨k, v⟩ := entry
    obtain ⟨k', v'⟩ := entry'
    obtain ⟨rfl, related⟩ := both
    by_cases same : k' = key
    · exact Or.inr ⟨v, v', by simp [Table.find?, same], by simp [Table.find?, same], related⟩
    · simpa [Table.find?, same] using ih

theorem put (agree : Agree R t t') (key : α) {v : β} {v' : β'} (related : R v v') :
    Agree R (t.put key v) (t'.put key v') := by
  induction agree with
  | nil => exact .cons ⟨rfl, related⟩ .nil
  | @cons entry entry' rest rest' both tail ih =>
    obtain ⟨k, own⟩ := entry
    obtain ⟨k', own'⟩ := entry'
    obtain ⟨rfl, before⟩ := both
    by_cases same : k' = key
    · simp only [Table.put, if_pos same]
      exact .cons ⟨rfl, related⟩ tail
    · simp only [Table.put, if_neg same]
      exact .cons ⟨rfl, before⟩ ih

theorem erase (agree : Agree R t t') (key : α) : Agree R (t.erase key) (t'.erase key) := by
  induction agree with
  | nil => exact .nil
  | @cons entry entry' rest rest' both _ ih =>
    obtain ⟨k, v⟩ := entry
    obtain ⟨k', v'⟩ := entry'
    obtain ⟨rfl, related⟩ := both
    by_cases same : k' = key
    · simpa only [Table.erase, if_pos same] using ih
    · simp only [Table.erase, if_neg same]
      exact .cons ⟨rfl, related⟩ ih

theorem adjust (agree : Agree R t t') (key : α) {f : β → β} {f' : β' → β'}
    (each : ∀ v v', R v v' → R (f v) (f' v')) : Agree R (t.adjust key f) (t'.adjust key f') := by
  induction agree with
  | nil => exact .nil
  | @cons entry entry' rest rest' both tail ih =>
    obtain ⟨k, v⟩ := entry
    obtain ⟨k', v'⟩ := entry'
    obtain ⟨rfl, related⟩ := both
    by_cases same : k' = key
    · simp only [Table.adjust, if_pos same]
      exact .cons ⟨rfl, each v v' related⟩ tail
    · simp only [Table.adjust, if_neg same]
      exact .cons ⟨rfl, related⟩ ih

end Agree

end Table

def FaultListener.isObserver : FaultListener → Bool
  | .observer _ => true
  | _ => false

def KeeperAnswer.plain : KeeperAnswer → KeeperAnswer
  | .lease result => .lease (Fault.plainly result)
  | .bound result => .bound (Fault.plainly result)
  | answer => answer

def Entry.plain : Entry → Entry
  | .returned ticket answer => .returned ticket answer.plain
  | entry => entry

def BindStage.plain : BindStage → BindStage
  | .removing fault => .removing fault.replicate
  | stage => stage

structure Binding.Akin (b b' : Binding) : Prop where
  secret : b'.secret = b.secret
  failFast : b'.failFast = b.failFast
  added : b'.added = b.added
  stage : b'.stage.plain = b.stage.plain

/-- The listeners of the first registry are in the second as well, in their order and under other
numbers, and all others there are observers. -/
structure FaultListener.Amid (n : Nat → Nat) (r r' : Listeners.Registry FaultListener) : Prop where
  below : ∀ id < r.issued, n id < r'.issued
  apart : ∀ id < r.issued, ∀ other < r.issued, n id = n other → id = other
  bounded : r.Bounded
  listeners : r'.entries.filter (fun entry => !entry.2.isObserver) =
    r.entries.map fun entry => (n entry.1, entry.2)

namespace FaultListener.Amid

variable {n : Nat → Nat} {r r' : Listeners.Registry FaultListener} (amid : Amid n r r')
include amid

theorem add {listener : FaultListener} (own : listener.isObserver = false) :
    Amid (Function.update n r.issued r'.issued) (r.add listener) (r'.add listener) := by
  have latest : Function.update n r.issued r'.issued r.issued = r'.issued :=
    Function.update_self r.issued r'.issued n
  have earlier : ∀ id < r.issued, Function.update n r.issued r'.issued id = n id :=
    fun id below => Function.update_of_ne (Nat.ne_of_lt below) r'.issued n
  constructor
  · intro id below
    rcases Nat.lt_succ_iff_lt_or_eq.mp below with before | rfl
    · rw [earlier id before]
      exact Nat.lt_succ_of_lt (amid.below id before)
    · rw [latest]
      exact Nat.lt_succ_self r'.issued
  · intro id below other below' same
    rcases Nat.lt_succ_iff_lt_or_eq.mp below with before | rfl
    · rcases Nat.lt_succ_iff_lt_or_eq.mp below' with before' | rfl
      · rw [earlier id before, earlier other before'] at same
        exact amid.apart id before other before' same
      · rw [earlier id before, latest] at same
        exact absurd same (Nat.ne_of_lt (amid.below id before))
    · rcases Nat.lt_succ_iff_lt_or_eq.mp below' with before' | rfl
      · rw [latest, earlier other before'] at same
        exact absurd same.symm (Nat.ne_of_lt (amid.below other before'))
      · rfl
  · exact amid.bounded.add listener
  · have kept : (r.entries.map fun entry =>
          (Function.update n r.issued r'.issued entry.1, entry.2)) =
        r.entries.map fun entry => (n entry.1, entry.2) :=
      List.map_congr_left fun entry listed => by
        rw [earlier entry.1 (amid.bounded entry listed)]
    simp [Listeners.Registry.add, amid.listeners, own, kept]

theorem remove {number : Nat} (known : number < r.issued) :
    Amid n (r.remove number) (r'.remove (n number)) := by
  have thinned := (Listeners.Registry.Thins.remove r number).bounded amid.bounded
  have other : ∀ entry ∈ r.entries, (n entry.1 != n number) = (entry.1 != number) := by
    intro entry listed
    by_cases same : entry.1 = number
    · simp [same]
    · have differ : n entry.1 ≠ n number :=
        fun both => same (amid.apart _ (amid.bounded entry listed) _ known both)
      rw [bne_iff_ne.mpr differ, bne_iff_ne.mpr same]
  have swapped := List.filter_comm (fun entry : Nat × FaultListener => !entry.2.isObserver)
    (fun entry => entry.1 != n number) r'.entries
  refine ⟨amid.below, amid.apart, thinned, ?_⟩
  simp only [Listeners.Registry.remove]
  rw [swapped, amid.listeners, List.filter_map]
  congr 1
  exact List.filter_congr other

theorem watch (keeps : Bool) : Amid n r (r'.add (.observer keeps)) := by
  refine ⟨fun id below => Nat.lt_succ_of_lt (amid.below id below), amid.apart, amid.bounded, ?_⟩
  simp only [Listeners.Registry.add, List.filter_append, amid.listeners]
  exact List.append_nil _

theorem unwatch {goes : Nat × FaultListener → Bool}
    (observer : ∀ entry, goes entry = true → entry.2.isObserver = true) :
    Amid n r { r' with entries := r'.entries.filter fun entry => !goes entry } := by
  refine ⟨amid.below, amid.apart, amid.bounded, ?_⟩
  rw [List.filter_filter, ← amid.listeners]
  refine List.filter_congr fun entry _ => ?_
  cases gone : goes entry with
  | false => simp
  | true => simp [observer entry gone]

end FaultListener.Amid

def Source.Renumbered (n : Nat → Nat) (bound : Nat) (s s' : Source) : Prop :=
  s.faultListener < bound ∧ s' = { s with faultListener := n s.faultListener }

structure Capture.Renumbered (n : Nat → Nat) (bound : Nat) (c c' : Capture) : Prop where
  below : c.listener < bound
  secret : c'.secret = c.secret
  listener : c'.listener = n c.listener
  first : (c'.first.map fun caught => (caught.report, caught.fault)) =
    c.first.map fun caught => (caught.report, caught.fault)

section
variable {n : Nat → Nat} {bound : Nat}

theorem Source.Renumbered.next {s s' : Source} (renumbered : Renumbered n bound s s')
    (latest : Nat) : Renumbered (Function.update n bound latest) (bound + 1) s s' := by
  obtain ⟨below, rfl⟩ := renumbered
  exact ⟨Nat.lt_succ_of_lt below, by rw [Function.update_of_ne (Nat.ne_of_lt below)]⟩

theorem Capture.Renumbered.next {c c' : Capture} (renumbered : Renumbered n bound c c')
    (latest : Nat) : Renumbered (Function.update n bound latest) (bound + 1) c c' :=
  { renumbered with
    below := Nat.lt_succ_of_lt renumbered.below
    listener := by
      rw [Function.update_of_ne (Nat.ne_of_lt renumbered.below), renumbered.listener] }

end

namespace Keeper

/-- The keepers are the same to all but outsiders that listen for faults, of which the first has
none: the listeners' numbers differ, and which faults are copies. -/
structure Counterparts (n : Nat → Nat) (k k' : Keeper) : Prop where
  policy : k'.policy = k.policy
  now : k'.now = k.now
  started : k'.started = k.started
  owned : k'.owned = k.owned
  rooms : k'.rooms = k.rooms
  leaseListeners : k'.leaseListeners = k.leaseListeners
  reports : k'.reports = k.reports
  metrics : k'.metrics = k.metrics
  faultListeners : FaultListener.Amid n k.faultListeners k'.faultListeners
  sources : Table.Agree (Source.Renumbered n k.faultListeners.issued) k.sources k'.sources
  captures : Table.Agree (Capture.Renumbered n k.faultListeners.issued) k.captures k'.captures
  binds : Table.Agree Binding.Akin k.binds k'.binds
  journal : (k'.journal.map fun entry => (entry.1, entry.2.plain)) =
    k.journal.map fun entry => (entry.1, entry.2.plain)

theorem counterparts_new (policy : LeasePolicy) :
    Counterparts id (new policy) (new policy) :=
  ⟨rfl, rfl, rfl, rfl, rfl, rfl, rfl, rfl, ⟨nofun, nofun, nofun, rfl⟩, .nil, .nil, .nil, rfl⟩

inductive Coupled (n : Nat → Nat) {α : Type} : Keeper × α → Keeper × α → Prop where
  | intro {k k' : Keeper} (same : Counterparts n k k') (value : α) :
    Coupled n (k, value) (k', value)

section
variable {n : Nat → Nat} {α : Type} {outcome outcome' : Keeper × α}

theorem Coupled.of (same : Counterparts n outcome.1 outcome'.1) (value : outcome'.2 = outcome.2) :
    Coupled n outcome outcome' := by
  obtain ⟨k, answer⟩ := outcome
  obtain ⟨k', answer'⟩ := outcome'
  obtain rfl : answer' = answer := value
  exact .intro same answer'

theorem Coupled.same (coupled : Coupled n outcome outcome') :
    Counterparts n outcome.1 outcome'.1 := by
  cases coupled with
  | intro same => exact same

theorem Coupled.value (coupled : Coupled n outcome outcome') : outcome'.2 = outcome.2 := by
  cases coupled
  rfl

end

namespace Counterparts

variable {n : Nat → Nat} {k k' : Keeper}

section
variable (same : Counterparts n k k')
include same

theorem room (secret : Secret) : k'.room secret = k.room secret := room_of_rooms same.rooms secret

theorem setRoom (secret : Secret) (room : Room) :
    Counterparts n (k.setRoom secret room) (k'.setRoom secret room) :=
  { same with rooms := by simp only [Keeper.setRoom, same.rooms] }

theorem note {entry entry' : Entry} (plain : entry'.plain = entry.plain) :
    Counterparts n (k.note entry) (k'.note entry') :=
  { same with journal := by simp only [Keeper.note, List.map_cons, plain, same.now, same.journal] }

theorem mapRooms (f : Room → Room) : Counterparts n (k.mapRooms f) (k'.mapRooms f) :=
  { same with rooms := by simp only [Keeper.mapRooms, same.rooms] }

theorem count (m : Measure) : Counterparts n (k.count m) (k'.count m) :=
  { same with metrics := by simp only [Keeper.count, same.metrics] }

theorem setGauge (level : Nat) : Counterparts n (k.setGauge level) (k'.setGauge level) :=
  { same with metrics := by simp only [Keeper.setGauge, same.metrics] }

theorem activeCount : k'.activeCount = k.activeCount := by
  simp only [Keeper.activeCount, same.rooms]

theorem registered : k'.registered = k.registered := by
  simp only [Keeper.registered, same.rooms]

theorem hasTicket (ticket : Nat) : k'.hasTicket ticket = k.hasTicket ticket := by
  simp only [Keeper.hasTicket, same.rooms]

theorem isHeld : k'.isHeld = k.isHeld := by
  simp only [Keeper.isHeld, same.owned, same.rooms, same.sources.isEmpty]

/-! ### Listeners -/

theorem tellSource (id : Nat) {f : Source → Source}
    (apart : ∀ (s : Source) (number : Nat),
      f { s with faultListener := number } = { f s with faultListener := number }) :
    Counterparts n (k.tellSource id f) (k'.tellSource id f) := by
  refine { same with sources := same.sources.adjust id ?_ }
  rintro s _ ⟨below, rfl⟩
  have kept : (f s).faultListener = s.faultListener := by
    have own := congrArg Source.faultListener (apart s s.faultListener)
    exact own
  refine ⟨by rwa [kept], ?_⟩
  rw [apart, kept]

theorem emit (e : LeaseEvent) : Counterparts n (k.emit e) (k'.emit e) := by
  unfold Keeper.emit
  rw [same.leaseListeners]
  refine List.foldl_rel (same.note rfl) fun entry _ k₁ k₁' related => ?_
  obtain ⟨_, listener⟩ := entry
  cases listener with
  | observer => exact related
  | source id =>
    refine related.tellSource id fun s number => ?_
    unfold Source.hear
    cases e with
    | afterRenewed => dsimp only; split <;> [split <;> rfl; rfl]
    | _ => dsimp only; split <;> rfl

theorem catchFault (ticket : Nat) (secret : Secret) {caught caught' : Caught}
    (report : caught'.report = caught.report) (fault : caught'.fault = caught.fault) :
    Counterparts n (k.catchFault ticket secret caught).1
      (k'.catchFault ticket secret caught').1 := by
  unfold Keeper.catchFault
  rcases same.captures.find? ticket with ⟨absent, absent'⟩ | ⟨c, c', found, found', related⟩
  · rw [absent, absent']
    exact same
  · rw [found, found']
    have free : c'.first.isNone = c.first.isNone := by
      have first := congrArg Option.isNone related.first
      simpa using first
    simp only [related.secret, free]
    split
    · refine { same with captures := same.captures.put ticket ?_ }
      exact ⟨related.below, rfl, related.listener, by simp [report, fault]⟩
    · exact same

end

def hearing (secret : Secret) (fault : Fault) (caught : Caught) (k : Keeper) :
    FaultListener → Keeper
  | .observer _ => k
  | .source id => k.tellSource id (·.hearFault secret fault)
  | .capture ticket => (k.catchFault ticket secret caught).1

theorem report_eq (k : Keeper) (secret : Secret) (lease : Lease) (fault : Fault) :
    (k.report secret lease fault).1 = (k.faultListeners.entries.map Prod.snd).foldl
      (hearing secret fault ⟨k.reports, fault, k.keepsFaults⟩)
      ({ k with reports := k.reports + 1 }.note (.fault secret lease fault)) := by
  rw [List.foldl_map]
  let start := { k with reports := k.reports + 1 }.note (.fault secret lease fault)
  refine (@List.foldl_hom _ _ _ Prod.fst _ _ k.faultListeners.entries (start, false) ?_).symm
  rintro ⟨k₁, held⟩ ⟨_, listener⟩
  cases listener <;> rfl

theorem report_akin (k k' : Keeper) (secret : Secret) (lease : Lease) (fault : Fault) :
    Fault.Akin (k.report secret lease fault).2 (k'.report secret lease fault).2 := by
  have copied : ∀ k : Keeper, (k.report secret lease fault).2.replicate = fault.replicate := by
    intro k
    simp only [Keeper.report]
    split
    · exact fault.replicate_replicate
    · rfl
  exact (copied k').trans (copied k).symm

section
variable (same : Counterparts n k k')
include same

theorem ownListeners :
    (k'.faultListeners.entries.filter (fun entry => !entry.2.isObserver)).map Prod.snd =
      k.faultListeners.entries.map Prod.snd := by
  rw [same.faultListeners.listeners, List.map_map]
  rfl

theorem report (secret : Secret) (lease : Lease) (fault : Fault) :
    Counterparts n (k.report secret lease fault).1 (k'.report secret lease fault).1 := by
  have told : Counterparts n
      ({ k with reports := k.reports + 1 }.note (.fault secret lease fault))
      ({ k' with reports := k'.reports + 1 }.note (.fault secret lease fault)) := by
    have counted : Counterparts n { k with reports := k.reports + 1 }
        { k' with reports := k'.reports + 1 } := { same with reports := by simp [same.reports] }
    exact counted.note rfl
  rw [report_eq, report_eq]
  -- observers do nothing with a fault but hold on to it
  have skipped : ∀ (caught : Caught) (start : Keeper),
      (k'.faultListeners.entries.map Prod.snd).foldl (hearing secret fault caught) start =
        (k.faultListeners.entries.map Prod.snd).foldl (hearing secret fault caught) start := by
    intro caught start
    rw [← same.ownListeners]
    generalize k'.faultListeners.entries = entries
    induction entries generalizing start with
    | nil => rfl
    | cons entry rest ih =>
      obtain ⟨number, listener⟩ := entry
      cases listener with
      | observer keeps => exact ih start
      | source id => exact ih _
      | capture ticket => exact ih _
  rw [skipped]
  refine List.foldl_rel told fun listener _ k₁ k₁' related => ?_
  cases listener with
  | observer => exact related
  | source id =>
    refine related.tellSource id fun s number => ?_
    unfold Source.hearFault
    dsimp only
    split <;> rfl
  | capture ticket => exact related.catchFault ticket secret same.reports rfl

/-! ### Store calls and leases -/

theorem data (secret : Secret) : k'.data secret = k.data secret :=
  congrArg Room.data (same.room secret)

theorem current (secret : Secret) : k'.current secret = k.current secret :=
  congrArg Room.current (same.room secret)

theorem setData (secret : Secret) (data : Option (TextMap String)) :
    Counterparts n (k.setRoom secret { k.room secret with data })
      (k'.setRoom secret { k'.room secret with data }) := by
  rw [same.room]
  exact same.setRoom secret _

theorem call (secret : Secret) (purpose : Purpose) (errand : Errand) :
    Counterparts n (k.call secret purpose errand) (k'.call secret purpose errand) := by
  unfold Keeper.call
  rw [same.room]
  exact (same.setRoom secret _).note rfl

theorem promise (secret : Secret) (ticket : Nat) :
    Counterparts n (k.promise secret ticket) (k'.promise secret ticket) := by
  unfold Keeper.promise
  rw [same.room]
  exact same.setRoom secret _

theorem ask (secret : Secret) (ticket : Nat) :
    Counterparts n (k.ask secret ticket) (k'.ask secret ticket) := by
  unfold Keeper.ask
  simp only [same.room]
  split
  · exact (same.setRoom secret _).note rfl
  · exact same

theorem arm (secret : Secret) (number : Nat) (line : Line) (generation delay : Nat) :
    Counterparts n (k.arm secret number line generation delay)
      (k'.arm secret number line generation delay) := by
  unfold Keeper.arm
  rw [same.room, same.now]
  exact (same.setRoom secret _).note rfl

theorem revoke (secret : Secret) (purpose : Purpose) (lease : Lease)
    (result : Except Fault Lease) : Counterparts n (k.revoke secret purpose lease result)
      (k'.revoke secret purpose lease result) :=
  (same.emit _).call secret purpose _

theorem renewOrFetch (secret : Secret) (purpose : Purpose) (lease : Lease) :
    Counterparts n (k.renewOrFetch secret purpose lease)
      (k'.renewOrFetch secret purpose lease) := by
  unfold Keeper.renewOrFetch
  split
  · exact same.call secret purpose _
  · exact same.call secret purpose _

theorem setActive : Counterparts n (k.setGauge k.activeCount) (k'.setGauge k'.activeCount) := by
  rw [same.activeCount]
  exact same.setGauge _

theorem schedule (secret : Secret) (lease : Lease) :
    Coupled n (k.schedule secret lease) (k'.schedule secret lease) := by
  unfold Keeper.schedule
  simp only [same.room, same.started, same.now, same.policy]
  cases (k.room secret).lineNumber? with
  | none => exact .intro same _
  | some number =>
    cases (k.room secret).line? with
    | none => exact .intro same _
    | some line =>
      dsimp only
      split
      · exact .intro same _
      · split
        · split
          · exact .intro (same.setRoom secret _) _
          · exact .intro (same.arm secret number _ _ _).setActive _
        · exact .intro (same.setRoom secret _).setActive _

theorem add (ticket : Nat) (secret : Secret) :
    Coupled n (k.add ticket secret) (k'.add ticket secret) := by
  unfold Keeper.add
  simp only [same.room, (same.setRoom secret _).started]
  split
  · exact .intro same _
  · split
    · exact .intro ((same.setRoom secret _).call secret _ _) _
    · exact .intro (same.setRoom secret _) _

theorem vacate (secret : Secret) : Coupled n (k.vacate secret) (k'.vacate secret) := by
  unfold Keeper.vacate
  simp only [same.room]
  cases (k.room secret).lineNumber? with
  | none => exact .intro same _
  | some number =>
    cases (k.room secret).line? with
    | none => exact .intro same _
    | some line => exact .intro (same.setRoom secret _) _

theorem without (secret : Secret) : Counterparts n (k.without secret) (k'.without secret) := by
  unfold Keeper.without
  rw [same.room]
  exact same.setRoom secret _

theorem remove (ticket : Nat) (secret : Secret) :
    Coupled n (k.remove ticket secret) (k'.remove ticket secret) := by
  cases registered : (k.room secret).registered with
  | false =>
    unfold Keeper.remove
    simp only [same.room, registered]
    exact .intro same _
  | true =>
    have registered' : (k'.room secret).registered = true := by rwa [same.room]
    rw [remove_eq k secret ticket registered, remove_eq k' secret ticket registered', same.current]
    cases k.current secret with
    | none => exact .intro (same.without secret) _
    | some lease =>
      dsimp only
      split
      · exact .intro ((same.without secret).revoke secret _ _ _) _
      · exact .intro (same.without secret) _

theorem setStarted (started : Bool) :
    Counterparts n { k with started } { k' with started } := { same with started := rfl }

theorem start (ticket : Nat) : Coupled n (k.start ticket) (k'.start ticket) := by
  unfold Keeper.start
  simp only [same.started, same.registered]
  split
  · exact .intro same _
  · refine .intro ?_ _
    exact List.foldl_rel (same.setStarted true) fun secret _ k₁ k₁' related =>
      related.promise secret ticket

theorem renew (ticket : Nat) (secret : Secret) :
    Coupled n (k.renew ticket secret) (k'.renew ticket secret) := by
  unfold Keeper.renew
  simp only [same.room, same.current]
  split
  · split
    · split
      · exact .intro (same.renewOrFetch secret _ _) _
      · exact .intro same _
    · exact .intro same _
  · exact .intro same _

theorem rotate (ticket : Nat) (secret : Secret) :
    Coupled n (k.rotate ticket secret) (k'.rotate ticket secret) := by
  unfold Keeper.rotate
  simp only [same.room, same.started]
  split
  · exact .intro same _
  · split
    · exact .intro same _
    · exact .intro (same.call secret _ _) _

theorem gathered (secrets : List Secret) (leases : List (Secret × Lease)) :
    Coupled n (secrets.foldl gather (k, leases)) (secrets.foldl gather (k', leases)) := by
  refine List.foldl_rel (Coupled.intro same leases) fun secret _ found found' coupled => ?_
  obtain ⟨same, leases⟩ := coupled
  have both := same.vacate secret
  simp only [gather]
  generalize Keeper.vacate _ secret = outcome at both
  generalize Keeper.vacate _ secret = outcome' at both
  obtain ⟨after, lease⟩ := both
  cases lease with
  | none => exact .intro after _
  | some lease => exact .intro after _

theorem destroy (ticket : Nat) : Coupled n (k.destroy ticket) (k'.destroy ticket) := by
  have found : Coupled n (k.registered.foldl gather ({ k with started := false }, []))
      (k'.registered.foldl gather ({ k' with started := false }, [])) := by
    rw [same.registered]
    exact (same.setStarted false).gathered _ _
  have vacated : Counterparts n k.emptied k'.emptied := by
    unfold emptied
    refine Counterparts.mapRooms ?_ _
    simpa only [gather_vacateAll] using found.same
  have takings : k'.takings = k.takings := found.value
  refine .of ?_ (congrArg (fun taken => (taken.filter (·.2.isRevocable)).isEmpty) takings)
  rw [destroy_eq, destroy_eq, takings]
  exact List.foldl_rel (vacated.setGauge 0) fun taken _ k₁ k₁' related =>
    related.revoke taken.1 _ taken.2 _

end

end Counterparts

end Keeper
end LeaseKeeper

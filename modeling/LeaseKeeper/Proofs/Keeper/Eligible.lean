import LeaseKeeper.Proofs.Keeper.Confined
import LeaseKeeper.Proofs.Keeper.Joining
import LeaseKeeper.Proofs.Keeper.Tended

/-!
Only a lease that its timer can do something about waits for one: the store renews it, or its secret
is fetched again before it runs out. A lease comes to wait when it is scheduled, when it is the
answer to a renewal, or when it is kept after a failed one, and each of the three lets through only
what the timer's task relies on later.
-/
namespace LeaseKeeper

open Lineage

namespace Lineage

variable {ok : Lease → Prop} {l : Lineage}

structure Eligible (ok : Lease → Prop) (l : Lineage) : Prop extends Tidy l where
  lease : ∀ held, l.slot = some held → held.phase ≠ .dormant → ok held.lease

theorem eligible_new : new.Eligible ok := ⟨tidy_new, nofun⟩

namespace Eligible

theorem disable (eligible : l.Eligible ok) : l.disable.1.Eligible ok :=
  ⟨eligible.toTidy.disable, nofun⟩

theorem replaced (eligible : l.Eligible ok) {lease : Lease} (good : ok lease) (deadline : Nat) :
    (l.replaced lease deadline).Eligible ok := by
  refine ⟨eligible.toTidy.replaced lease deadline, fun held slot _ => ?_⟩
  rw [replaced_slot] at slot
  cases slot
  exact good

theorem claim (eligible : l.Eligible ok) {held : Held} {g : Nat} (before : l.slot = some held)
    (own : held.generation = g) (scheduled : held.phase = .scheduled) :
    ({ l.unregister g with slot := some { held with phase := .renewing } } : Lineage).Eligible
      ok := by
  refine ⟨eligible.toTidy.claim before own scheduled, fun held' slot _ => ?_⟩
  cases slot
  exact eligible.lease held before (by simp [scheduled])

theorem miss (eligible : l.Eligible ok) {g : Nat}
    (missed : ∀ held, l.slot = some held → held.generation = g → held.phase ≠ .scheduled) :
    (l.unregister g).Eligible ok := ⟨eligible.toTidy.miss missed, eligible.lease⟩

theorem conclude {strategy : Strategy} {floor threshold now g : Nat} {result : Except Fault Lease}
    {after : Lineage} {next : Next} (eligible : l.Eligible ok)
    (unscheduled : ∀ held, l.slot = some held → held.generation = g → held.phase ≠ .scheduled)
    (ending : Ending l strategy floor threshold now g Lease.renewable result after next)
    (fits : ∀ lease, result = .ok lease → next = .crash → lease.renewable = false)
    (revocable : ∀ lease : Lease, lease.isRevocable = true → ok lease) : after.Eligible ok := by
  refine ⟨eligible.toTidy.conclude unscheduled ending fits, fun held' slot awake => ?_⟩
  have kept := eligible.lease
  cases ending with
  | stale => exact kept held' slot awake
  | forgotten => cases slot
  | renewed next held deadline id again =>
    cases slot
    exact revocable next (by simp [Lease.isRevocable, id, again])
  | retained fault held retryAt keep before own renewing =>
    cases slot
    exact kept held before (by simp [renewing])
  | outlasted => exact kept held' slot awake
  | overran => exact kept held' slot awake
  | _ =>
    cases slot
    exact absurd rfl awake

end Eligible

theorem Ending.unfit {strategy : Strategy} {floor threshold now g : Nat} {reschedule : Lease → Bool}
    {lease : Lease} {after : Lineage}
    (ending : Ending l strategy floor threshold now g reschedule (.ok lease) after .crash) :
    lease.hasId = true ∧ l.slot.isSome = true ∧ deadline? now lease.span = none := by
  cases ending with
  | outlasted _ held id before own renewing overflow =>
    exact ⟨id, Option.isSome_of_eq_some before, overflow⟩

end Lineage

/-! ### Rooms -/

def Secret.Suits (secret : Secret) (lease : Lease) : Prop :=
  lease.hasId = true ∧ lease.renewable = true ∨
    secret.isRotating = true ∧ (lease.hasId = false ∨ lease.renewable = false) ∧ lease.seconds ≠ 0

theorem Secret.suits_iff (secret : Secret) (lease : Lease) :
    secret.Suits lease ↔ Keeper.isSchedulable secret lease = true := by
  unfold Secret.Suits Keeper.isSchedulable Lease.isRevocable
  cases lease.hasId <;> cases lease.renewable <;> cases secret.isRotating <;> simp

theorem Secret.suits_of_revocable (secret : Secret) (lease : Lease)
    (revocable : lease.isRevocable = true) : secret.Suits lease :=
  Or.inl (by simpa [Lease.isRevocable] using revocable)

namespace Room

def Eligible (secret : Secret) (r : Room) : Prop :=
  ∀ (number : Nat) (line : Line), r.lines[number]? = some line →
    line.lineage.Eligible secret.Suits

namespace Eligible

variable {secret : Secret} {r r' : Room}

theorem of_lines (eligible : r.Eligible secret) (lines : r'.lines = r.lines) :
    r'.Eligible secret := fun number line found => eligible number line (lines ▸ found)

theorem setLine (eligible : r.Eligible secret) (number : Nat) {line : Line}
    (fresh : line.lineage.Eligible secret.Suits) : (r.setLine number line).Eligible secret := by
  intro other line' found
  rw [setLine_lines] at found
  split at found
  · obtain ⟨_, _, rfl⟩ := Option.map_eq_some_iff.mp found
    exact fresh
  · exact eligible other line' found

theorem opened (eligible : r.Eligible secret) :
    Eligible secret { r with lines := r.lines ++ [⟨.new, []⟩], registered := true } := by
  intro number line found
  rw [List.getElem?_append] at found
  split at found
  · exact eligible number line found
  · obtain rfl := List.mem_singleton.mp (List.mem_of_getElem? found)
    exact eligible_new

theorem vacated (eligible : r.Eligible secret) : r.vacated.Eligible secret := by
  cases present : r.line? with
  | none =>
    rw [vacated_of_no_line present]
    exact eligible
  | some line =>
    obtain ⟨number, numbered, found⟩ := line?_eq_some present
    rw [vacated_of_line numbered found]
    exact eligible.setLine number (eligible number line found).disable

end Eligible

end Room

/-! ### What the store is asked for -/

def Entry.renewal? : Entry → Option (Secret × Purpose × Lease)
  | .call secret purpose (.renew lease) => some (secret, purpose, lease)
  | _ => none

theorem Entry.renewal?_eq_some {entry : Entry} {secret : Secret} {purpose : Purpose}
    {lease : Lease} : entry.renewal? = some (secret, purpose, lease) ↔
      entry = .call secret purpose (.renew lease) := by
  cases entry with
  | call _ _ errand => cases errand <;> simp [renewal?]
  | _ => simp [renewal?]

/-- The store is asked to renew only leases with an id, and one that is not renewable only on the
demand of somebody. A timer fetches rotating secrets only. -/
def Entry.Suits : Entry → Prop
  | .call secret (.timer _ _) .fetch => secret.isRotating = true
  | .call secret purpose (.renew lease) => lease.hasId = true ∧
      (lease.renewable = true ∨ secret.isRotating = false ∧ ∃ ticket, purpose = .renew ticket)
  | _ => True

theorem Entry.suits_of_aside {entry : Entry} (plain : entry.isAside = true) : entry.Suits := by
  cases entry with
  | call => cases plain
  | _ => trivial

namespace Keeper

variable {k k' : Keeper} {state state' : Keeper × Hand} {secret : Secret} {purpose : Purpose}

/-! ### The clock does not overflow -/

def Hand.Bears (k : Keeper) : Hand → Prop
  | .fetched secret _ response => ¬ k.Outlasts secret response.lease
  | .published secret _ lease => ¬ k.Outlasts secret lease
  | .renewed secret _ _ next => ¬ k.Outlasts secret next
  | .loose secret _ _ result | .ending secret _ result =>
    ∀ lease, result = .ok lease → ¬ k.Outlasts secret lease
  | _ => True

theorem outlasts_of_setting {lease : Lease} (started : k'.started = k.started)
    (now : k'.now = k.now)
    (lined : (k'.room secret).line?.isSome = (k.room secret).line?.isSome)
    (outlasts : k'.Outlasts secret lease) : k.Outlasts secret lease :=
  ⟨started ▸ outlasts.started, lined ▸ outlasts.lined, outlasts.schedulable, now ▸ outlasts.unfit⟩

theorem not_outlasts_none (k : Keeper) (secret : Secret) : ¬ k.Outlasts secret Lease.none := by
  intro outlasts
  have schedulable := outlasts.schedulable
  rw [isSchedulable_none] at schedulable
  cases schedulable

theorem Aside.outlasts (aside : Aside k k') {lease : Lease} (outlasts : k'.Outlasts secret lease) :
    k.Outlasts secret lease :=
  outlasts_of_setting aside.started aside.now (by rw [room_of_rooms aside.rooms]) outlasts

theorem Aside.bears (aside : Aside k k') {hand : Hand} (bears : hand.Bears k) : hand.Bears k' := by
  cases hand with
  | fetched => exact fun outlasts => bears (aside.outlasts outlasts)
  | published => exact fun outlasts => bears (aside.outlasts outlasts)
  | renewed => exact fun outlasts => bears (aside.outlasts outlasts)
  | loose => exact fun lease same outlasts => bears lease same (aside.outlasts outlasts)
  | ending => exact fun lease same outlasts => bears lease same (aside.outlasts outlasts)
  | _ => trivial

theorem Act.bears (act : Act state state') (bears : state.2.Bears state.1) :
    state'.2.Bears state'.1 := by
  have nothing (k : Keeper) (secret : Secret) :
      ∀ lease, (.ok Lease.none : Except Fault Lease) = .ok lease → ¬ k.Outlasts secret lease := by
    rintro lease ⟨⟩
    exact not_outlasts_none k secret
  cases act with
  | aside k k' hand aside => exact aside.bears bears
  | released k other ticket lease =>
    rintro _ _ outlasts
    have lined := outlasts.lined
    rw [without, room_setRoom_self, Room.line?_of_unregistered rfl] at lined
    cases lined
  | surrendered k other => exact nothing k other
  | late k other => exact nothing k other
  | published k other purpose response =>
    exact fun outlasts => bears ((Confined.published other k response).outlasts_iff.mp outlasts)
  | kept k k' other purpose lease scheduled =>
    rintro _ ⟨⟩ outlasts
    exact bears (scheduled.confined.outlasts_iff.mp outlasts)
  | refused k other purpose lease =>
    rintro _ ⟨⟩
    exact bears
  | outlasted k k' other purpose lease scheduled => exact (bears scheduled.outlasts).elim
  | dropped => exact bears
  | extended k other purpose lease next =>
    rintro _ ⟨⟩
    exact bears
  | expired k other => exact nothing _ other
  | _ => trivial

theorem Begins.bears {event : KeeperEvent} {k₀ : Keeper} {hand : Hand}
    (begins : Begins k event k₀ hand) (bears : k.Bears event) : hand.Bears k₀ := by
  have landed {secret : Secret} {purpose : Purpose} {lease : Lease}
      (outlasts : (k.landed secret purpose).Outlasts secret lease) : k.Outlasts secret lease :=
    (Confined.landed k secret purpose).outlasts_iff.mp outlasts
  have handed {secret : Secret} {purpose : Purpose} {reply : Reply} {errand : Errand}
      {lease : Lease}
      (flown : (k.room secret).flight? purpose = some ⟨purpose, errand⟩)
      (given : errand.handed? reply = some lease)
      (bears : k.Bears (.answer secret purpose reply)) : ¬ k.Outlasts secret lease :=
    bears secret rfl lease (by simp [handed?, flown, given])
  cases begins with
  | failed => rintro _ ⟨⟩
  | fetched secret purpose response flown =>
    exact fun outlasts => handed flown rfl bears (landed outlasts)
  | renewed secret purpose lease next flown =>
    exact fun outlasts => handed flown rfl bears (landed outlasts)
  | revoked secret purpose lease result reply flown =>
    rintro given rfl outlasts
    exact handed flown rfl bears (landed outlasts)
  | _ => trivial

/-! ### What an act leaves waiting -/

def Hand.Suits : Hand → Prop
  | .claimed secret _ _ lease => secret.Suits lease
  | _ => True

structure Warranted (state : Keeper × Hand) : Prop where
  fit : Fit state
  bears : state.2.Bears state.1
  rooms : ∀ secret, (state.1.room secret).Eligible secret
  hand : state.2.Suits

section
variable {other : Secret} {room : Room} (eligible : ∀ secret, (k.room secret).Eligible secret)
include eligible

theorem eligible_setRoom (here : room.Eligible other) (secret : Secret) :
    ((k.setRoom other room).room secret).Eligible secret :=
  forall_setRoom (P := fun secret room => room.Eligible secret) here eligible secret

theorem eligible_setLines (lines : room.lines = (k.room other).lines) (secret : Secret) :
    ((k.setRoom other room).room secret).Eligible secret :=
  eligible_setRoom eligible ((eligible other).of_lines lines) secret

theorem eligible_of_rooms (rooms : k'.rooms = k.rooms) (secret : Secret) :
    (k'.room secret).Eligible secret := by
  rw [room_of_rooms rooms]
  exact eligible secret

theorem eligible_call (purpose : Purpose) (errand : Errand) (secret : Secret) :
    ((k.call other purpose errand).room secret).Eligible secret := by
  have lines : ((k.room other).board purpose errand).lines = (k.room other).lines := rfl
  exact eligible_setLines eligible lines secret

theorem eligible_revoke (purpose : Purpose) (lease : Lease) (result : Except Fault Lease)
    (secret : Secret) : ((k.revoke other purpose lease result).room secret).Eligible secret :=
  eligible_call (eligible_of_rooms eligible (emit_tells k _).rooms) purpose _ secret

theorem eligible_renewOrFetch (purpose : Purpose) (lease : Lease) (secret : Secret) :
    ((k.renewOrFetch other purpose lease).room secret).Eligible secret := by
  unfold renewOrFetch
  split
  · exact eligible_call eligible purpose _ secret
  · exact eligible_call eligible purpose _ secret

end

theorem Scheduled.eligible {other : Secret} {lease : Lease} {kind : Scheduling}
    (scheduled : Scheduled k other lease (k', kind)) (fits : kind ≠ .overflow)
    (eligible : ∀ secret, (k.room secret).Eligible secret) (secret : Secret) :
    (k'.room secret).Eligible secret := by
  cases scheduled with
  | refused => exact eligible secret
  | outlasted => exact absurd rfl fits
  | installed number line deadline level started schedulable numbered found =>
    have good : other.Suits lease := (other.suits_iff lease).mpr schedulable
    exact eligible_setRoom eligible ((eligible other).setLine number
      ((eligible other number line found).replaced good deadline)) secret
  | disabled number line level started unschedulable numbered found =>
    exact eligible_setRoom eligible ((eligible other).setLine number
      (eligible other number line found).disable) secret

theorem Warranted.ended {number generation : Nat} {result : Except Fault Lease} {line : Line}
    {after : Lineage} {next : Next}
    (warranted : Warranted (k, .ending secret (.timer number generation) result))
    (found : (k.room secret).lines[number]? = some line)
    (ending : Ending line.lineage k.policy.strategy k.policy.floor k.policy.threshold k.now
      generation Lease.renewable result after next) : after.Eligible secret.Suits := by
  have rested : k.Rested := warranted.fit.rested
  have bears : ∀ lease, result = .ok lease → ¬ k.Outlasts secret lease := warranted.bears
  refine (warranted.rooms secret number line found).conclude (fun held slot own => ?_) ending ?_
    secret.suits_of_revocable
  · have staked : k.Staked secret (.timer number generation) fun _ => True := warranted.fit.hand
    obtain ⟨line', found', _, meets⟩ := staked number generation rfl
    obtain rfl := Option.some.inj (found.symm.trans found')
    exact (meets held slot own).1
  · rintro lease rfl rfl
    obtain ⟨id, leased, overflow⟩ := ending.unfit
    obtain ⟨held, slot⟩ := Option.isSome_iff_exists.mp leased
    rw [← Bool.not_eq_true]
    intro renewable
    refine bears lease rfl ⟨?_, ?_, ?_, overflow⟩
    · rw [← Bool.not_eq_false]
      intro stopped
      have blank := rested.blank stopped secret number line found
      simp [blank.slot] at slot
    · rw [Room.line?_of_number (holds_of_slot rested found slot).used, found]
      rfl
    · exact (secret.suits_iff lease).mp (Or.inl ⟨id, renewable⟩)

theorem Act.rooms_eligible (act : Act state state') (warranted : Warranted state) :
    ∀ secret, (state'.1.room secret).Eligible secret := by
  have eligible := warranted.rooms
  cases act with
  | aside k k' hand aside => exact eligible_of_rooms eligible aside.rooms
  | opened k other => exact eligible_setRoom eligible (eligible other).opened
  | enrolled k other => exact eligible_setRoom eligible (eligible other).opened
  | owed k other purpose => exact eligible_call eligible purpose _
  | promised k other => exact eligible_setLines eligible rfl
  | asked k other => exact eligible_call eligible _ _
  | forgotten k other =>
    exact eligible_setRoom eligible ((eligible other).vacated.of_lines rfl)
  | released k other => exact eligible_setRoom eligible ((eligible other).vacated.of_lines rfl)
  | poured k ticket other lease => exact eligible_revoke eligible _ lease _
  | pursued k other number generation lease => exact eligible_renewOrFetch eligible _ lease
  | published k other purpose response =>
    refine eligible_of_rooms (eligible_setLines eligible ?_) (emit_tells _ _).rooms
    rfl
  | kept k k' other purpose lease scheduled => exact scheduled.eligible (by simp) eligible
  | outlasted k k' other purpose lease scheduled =>
    exact (warranted.bears scheduled.outlasts).elim
  | revoked k other purpose lease result => exact eligible_revoke eligible purpose lease result
  | refetched k other purpose => exact eligible_call eligible purpose _
  | expired k other => exact eligible_setLines eligible rfl
  | resumed k other number generation next delay line result after found ending =>
    exact eligible_setRoom eligible
      ((eligible other).setLine number (warranted.ended found ending))
  | concluded k other number generation line result after next found ending =>
    exact eligible_setRoom eligible
      ((eligible other).setLine number (warranted.ended found ending))
  | decided k k' other ticket lease kind scheduled fits => exact scheduled.eligible fits eligible
  | overran k k' other ticket lease scheduled =>
    exact (warranted.bears lease rfl scheduled.outlasts).elim
  | crashed k ticket =>
    intro secret
    rw [room_dropTicket]
    exact (eligible secret).of_lines rfl
  | _ => exact eligible

theorem Act.hand_suits (act : Act state state') (suits : state.2.Suits) : state'.2.Suits := by
  cases act with
  | aside => exact suits
  | outlasted k k' other purpose => cases purpose <;> trivial
  | _ => trivial

theorem Act.warranted (act : Act state state') (warranted : Warranted state) : Warranted state' :=
  ⟨act.fit warranted.fit, act.bears warranted.bears, act.rooms_eligible warranted,
    act.hand_suits warranted.hand⟩

theorem Begins.warranted {event : KeeperEvent} {k₀ : Keeper} {hand : Hand}
    (begins : Begins k event k₀ hand) (bears : k.Bears event) (warranted : Warranted (k, .free)) :
    Warranted (k₀, hand) := by
  have eligible : ∀ secret, (k.room secret).Eligible secret := warranted.rooms
  refine ⟨begins.fit warranted.fit, begins.bears bears, ?_, ?_⟩
  · cases begins with
    | told event k' aside => exact eligible_of_rooms eligible aside.rooms
    | inquired ticket other lease => exact eligible_renewOrFetch eligible _ lease
    | asked other ticket =>
      have lines : ((k.room other).ask ticket).lines = (k.room other).lines := rfl
      exact eligible_setLines eligible lines
    | emptied =>
      intro secret
      rw [room_emptied]
      exact (eligible secret).vacated.of_lines rfl
    | failed other purpose => exact eligible_setLines eligible rfl
    | fetched other purpose => exact eligible_setLines eligible rfl
    | renewed other purpose => exact eligible_setLines eligible rfl
    | revoked other purpose => exact eligible_setLines eligible rfl
    | claimed other number generation due line held found waiting ripe before own scheduled =>
      exact eligible_setRoom eligible ((eligible other).setLine number
        ((eligible other number line found).claim before own scheduled))
    | missed other number generation due line found waiting ripe moved =>
      exact eligible_setRoom eligible ((eligible other).setLine number
        ((eligible other number line found).miss moved))
    | noticed other number generation line found =>
      exact eligible_setRoom eligible ((eligible other).setLine number
        (eligible other number line found))
    | _ => exact eligible
  · cases begins with
    | claimed other number generation due line held found waiting ripe before own scheduled =>
      exact (eligible other number line found).lease held before (by simp [scheduled])
    | _ => trivial

/-! ### What an act asks for -/

theorem emit_suits (k : Keeper) (e : LeaseEvent) : Logs Entry.Suits k (k.emit e) := by
  have plain : Entry.Suits (.event e) := trivial
  exact .of_entry plain (emit_journal k e)

theorem armed_suits (k : Keeper) (secret : Secret) (number : Nat) (line : Line)
    (generation delay : Nat) :
    Logs Entry.Suits k (k.arm secret number line generation delay) := by
  have plain : Entry.Suits (.armed secret number generation (k.now + delay)) := trivial
  exact .of_entry plain rfl

theorem fetch_suits
    (rotating : (∃ number generation, purpose = .timer number generation) →
      secret.isRotating = true) :
    Entry.Suits (.call secret purpose .fetch) := by
  cases purpose with
  | timer number generation => exact rotating ⟨number, generation, rfl⟩
  | _ => trivial

theorem revoke_suits (k : Keeper) (secret : Secret) (purpose : Purpose) (lease : Lease)
    (result : Except Fault Lease) : Logs Entry.Suits k (k.revoke secret purpose lease result) := by
  have asked : Entry.Suits (.call secret purpose (.revoke lease result)) := by
    cases purpose <;> trivial
  exact (emit_suits k _).trans (.of_entry asked rfl)

theorem renewOrFetch_suits {lease : Lease} (k : Keeper)
    (able : secret.Suits lease ∨ lease.hasId = true ∧ ∃ ticket, purpose = .renew ticket) :
    Logs Entry.Suits k (k.renewOrFetch secret purpose lease) := by
  unfold renewOrFetch
  split
  · rename_i further
    refine .of_entry (fetch_suits fun _ => ?_) rfl
    exact (Bool.and_eq_true_iff.mp further).1
  · rename_i further
    have able : lease.hasId = true ∧ (lease.renewable = true ∨
        secret.isRotating = false ∧ ∃ ticket, purpose = .renew ticket) := by
      rcases able with (⟨id, renewable⟩ | ⟨rotating, unable, _⟩) | ⟨id, demand⟩
      · exact ⟨id, Or.inl renewable⟩
      · rcases unable with missing | last
        · simp [rotating, Lease.isRevocable, missing] at further
        · simp [rotating, Lease.isRevocable, last] at further
      · refine ⟨id, ?_⟩
        cases rotating : secret.isRotating with
        | false => exact Or.inr ⟨rfl, demand⟩
        | true => exact Or.inl (by simpa [rotating, Lease.isRevocable, id] using further)
    have asked : Entry.Suits (.call secret purpose (.renew lease)) := by
      cases purpose <;> exact able
    exact .of_entry asked rfl

theorem Scheduled.suits {lease : Lease} {kind : Scheduling}
    (scheduled : Scheduled k secret lease (k', kind)) : Logs Entry.Suits k k' := by
  cases scheduled with
  | installed number line =>
    exact armed_suits _ secret number _ _ _
  | _ => exact .of_journal rfl

theorem Act.suits (act : Act state state') (warranted : Warranted state) :
    Logs Entry.Suits state.1 state'.1 := by
  cases act with
  | aside k k' hand aside =>
    obtain ⟨fresh, journal, plain⟩ := aside.journal
    exact ⟨fresh, journal, fun entry member => Entry.suits_of_aside (plain entry member)⟩
  | owed k other purpose rest own =>
    refine .of_entry (fetch_suits ?_) rfl
    rintro ⟨_, _, rfl⟩
    cases own
  | asked k other ticket =>
    refine .of_entry (fetch_suits ?_) rfl
    rintro ⟨_, _, ⟨⟩⟩
  | poured k ticket other lease => exact revoke_suits k other _ lease _
  | pursued k other number generation lease => exact renewOrFetch_suits k (Or.inl warranted.hand)
  | published k other purpose response => exact emit_suits (k.setRoom other _) _
  | kept k k' other purpose lease scheduled => exact scheduled.suits
  | outlasted k k' other purpose lease scheduled => exact scheduled.suits
  | revoked k other purpose lease result => exact revoke_suits k other purpose lease result
  | refetched k other purpose lease next short rotating =>
    exact .of_entry (fetch_suits fun _ => rotating) rfl
  | resumed k other number generation next delay =>
    exact armed_suits k other number _ next delay
  | decided k k' other ticket lease kind scheduled => exact scheduled.suits
  | overran k k' other ticket lease scheduled => exact scheduled.suits
  | _ => exact .of_journal rfl

theorem Begins.suits {event : KeeperEvent} {k₀ : Keeper} {hand : Hand}
    (begins : Begins k event k₀ hand) : Logs Entry.Suits k k₀ := by
  cases begins with
  | told event k' aside =>
    obtain ⟨fresh, journal, plain⟩ := aside.journal
    exact ⟨fresh, journal, fun entry member => Entry.suits_of_aside (plain entry member)⟩
  | inquired ticket other lease current id =>
    exact renewOrFetch_suits k (Or.inr ⟨id, ticket, rfl⟩)
  | asked secret ticket =>
    have asked : Entry.Suits (.call secret (.start ticket) .fetch) := trivial
    exact .of_entry asked rfl
  | emptied =>
    obtain ⟨rooms, frame⟩ := emptied_frame k
    exact .of_journal (by rw [frame])
  | _ => exact .of_journal rfl

/-! ### Runs -/

theorem step_warranted {event : KeeperEvent} (bears : k.Bears event)
    (warranted : Warranted (k, .free)) :
    Warranted (k.step event, .free) ∧ Logs Entry.Suits k (k.step event) := by
  obtain ⟨k₀, hand, begins, acts⟩ := step_acts k event
  refine acts.keep (P := fun state => Warranted state ∧ Logs Entry.Suits k state.1) ?_
    ⟨begins.warranted bears warranted, begins.suits⟩
  exact fun _ _ act both => ⟨act.warranted both.1, both.2.trans (act.suits both.1)⟩

theorem run_warranted {events : List KeeperEvent} (bears : k.Along Bears events)
    (warranted : Warranted (k, .free)) :
    Warranted (k.run events, .free) ∧ Logs Entry.Suits k (k.run events) := by
  induction events generalizing k with
  | nil => exact ⟨warranted, .of_journal rfl⟩
  | cons event rest ih =>
    obtain ⟨now, logs⟩ := step_warranted bears.1 warranted
    obtain ⟨later, more⟩ := ih bears.2 now
    exact ⟨later, logs.trans more⟩

theorem warranted_new (policy : LeasePolicy) : Warranted (new policy, .free) :=
  ⟨fit_new policy, trivial, fun _ _ _ found => (nomatch found), trivial⟩

theorem Warranted.pending (warranted : Warranted (k, .free)) {number generation : Nat} {line : Line}
    (found : (k.room secret).lines[number]? = some line)
    (registered : generation ∈ line.lineage.timers) :
    (k.room secret).lineNumber? = some number ∧
      ∃ lease, k.current secret = some lease ∧ secret.Suits lease := by
  have eligible := warranted.rooms secret number line found
  obtain ⟨held, slot, scheduled, _⟩ := (eligible.mem_timers_iff generation).mp registered
  have used := (holds_of_slot warranted.fit.rested found slot).used
  refine ⟨used, held.lease, ?_, eligible.lease held slot (by simp [scheduled])⟩
  rw [Keeper.current, Room.current_of_used used found, Lineage.current, slot]
  rfl

/-- In every run in which no lease outlasts the clock, each pending timer belongs to a current lease
that can be renewed, or whose rotating secret is fetched again before it runs out. A timer renews
only renewable leases with an id and fetches only rotating secrets, and of a rotating secret nobody
renews any other lease. -/
theorem timers_renew_renewables (policy : LeasePolicy) (events : List KeeperEvent)
    (bears : (new policy).Along Bears events) :
    let k := (new policy).run events
    (∀ secret (number : Nat) (line : Line), (k.room secret).lines[number]? = some line →
      ∀ generation ∈ line.lineage.timers, (k.room secret).lineNumber? = some number ∧
        ∃ lease, k.current secret = some lease ∧ secret.Suits lease) ∧
    (∀ time secret number generation lease,
      (time, .call secret (.timer number generation) (.renew lease)) ∈ k.journal →
        lease.hasId = true ∧ lease.renewable = true) ∧
    (∀ time secret number generation,
      (time, .call secret (.timer number generation) .fetch) ∈ k.journal →
        secret.isRotating = true) ∧
    ∀ time secret purpose lease, (time, .call secret purpose (.renew lease)) ∈ k.journal →
      secret.isRotating = true → lease.hasId = true ∧ lease.renewable = true := by
  intro k
  obtain ⟨warranted, fresh, journal, suits⟩ := run_warranted bears (warranted_new policy)
  have asked {time : Nat} {entry : Entry} (logged : (time, entry) ∈ k.journal) : entry.Suits := by
    refine suits (time, entry) ?_
    rw [journal] at logged
    exact (List.mem_append.mp logged).resolve_right List.not_mem_nil
  refine ⟨fun secret number line found generation => warranted.pending found, ?_, ?_, ?_⟩
  · intro time secret number generation lease logged
    obtain ⟨id, renewable | ⟨_, ticket, demand⟩⟩ := asked logged
    · exact ⟨id, renewable⟩
    · cases demand
  · intro time secret number generation logged
    exact asked logged
  · intro time secret purpose lease logged rotating
    have able : lease.hasId = true ∧ (lease.renewable = true ∨
        secret.isRotating = false ∧ ∃ ticket, purpose = .renew ticket) := by
      cases purpose <;> exact asked logged
    obtain ⟨id, renewable | ⟨renewing, _⟩⟩ := able
    · exact ⟨id, renewable⟩
    · rw [rotating] at renewing
      cases renewing

/-- The timer of one secret has fired, and that of the other is pending for a lease without an
id. -/
theorem renewed_beside_rotated :
    let policy : LeasePolicy := ⟨Span.seconds 10, Span.seconds 60, .dropOnError⟩
    let renewing : Secret := ⟨"database/creds/app", .renew⟩
    let rotating : Secret := ⟨"pki/cert", .rotate⟩
    let events : List KeeperEvent := [.request 1 (.add renewing), .request 2 (.add rotating),
      .request 3 .start, .ask renewing 3, .ask rotating 3,
      .answer renewing (.start 3) (.fetched (.ok ⟨"", "a", 120, true, none, none, none⟩)),
      .answer rotating (.start 3) (.fetched (.ok ⟨"", "", 600, false, none, none, none⟩)),
      .pass (Span.seconds 110), .fire renewing 0 1]
    let k := (new policy).run events
    (new policy).Along Bears events ∧
      (∃ line, (k.room rotating).lines[0]? = some line ∧ 1 ∈ line.lineage.timers ∧
        ∃ lease, k.current rotating = some lease ∧ rotating.Suits lease) ∧
      ∃ time lease, (time, .call renewing (.timer 0 1) (.renew lease)) ∈ k.journal ∧
        lease.hasId = true ∧ lease.renewable = true := by
  intro policy renewing rotating events k
  have bears : (new policy).Along Bears events := by
    refine ⟨?_, ?_, ?_, ?_, ?_, ?_, ?_, ?_, ?_, trivial⟩ <;> decide
  obtain ⟨pending, renewals, _⟩ := timers_renew_renewables policy events bears
  have found : ((k.room rotating).lines[0]?).isSome = true := by decide
  obtain ⟨line, found⟩ := Option.isSome_iff_exists.mp found
  have registered : 1 ∈ line.lineage.timers := by
    have timers : (k.room rotating).lines[0]?.map (·.lineage.timers) = some [1] := by decide
    rw [found] at timers
    exact List.mem_of_mem_head? (congrArg List.head? (Option.some.inj timers))
  have asked : k.journal.any (fun entry =>
      entry.2.renewal? == some (renewing, .timer 0 1, ⟨"a", 120, true⟩)) = true := by decide
  obtain ⟨⟨time, entry⟩, logged, same⟩ := List.any_eq_true.mp asked
  obtain rfl := Entry.renewal?_eq_some.mp (eq_of_beq same)
  exact ⟨bears, ⟨line, found, registered, (pending _ _ line found 1 registered).2⟩, time, _, logged,
    renewals _ _ _ _ _ logged⟩

end Keeper
end LeaseKeeper

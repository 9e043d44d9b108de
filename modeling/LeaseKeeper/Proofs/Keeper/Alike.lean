import LeaseKeeper.Proofs.Keeper.Outlook

/-!
Keepers that agree about one secret: the same was asked and told about it, and it has the same data.
What is done alike in both keepers, on whosever behalf, keeps them in agreement.
-/
namespace LeaseKeeper

open Lineage

inductive Tiding where
  | asked (errand : Errand)
  | heard (e : LeaseEvent)
  | failed (lease : Lease) (fault : Fault)

def Entry.tiding? (secret : Secret) : Entry → Option Tiding
  | .call own _ errand => if own = secret then some (.asked errand) else none
  | .event e => if e.secret = secret then some (.heard e) else none
  | .fault own lease failure => if own = secret then some (.failed lease failure) else none
  | _ => none

namespace Keeper

variable {k k' k'' : Keeper} {secret : Secret} {purpose : Purpose}

def tidings (k : Keeper) (secret : Secret) : List (Nat × Tiding) :=
  k.journal.filterMap fun entry => (entry.2.tiding? secret).map (Prod.mk entry.1)

theorem tidings_asked (k : Keeper) (secret : Secret) (ticket : Nat) :
    (k.asked secret ticket).tidings secret = (k.now, .asked .fetch) :: k.tidings secret := by
  simp [tidings, asked, note, setRoom, Entry.tiding?]

/-! ### Keepers that agree about a secret -/

structure Alike (secret : Secret) (k k' : Keeper) : Prop where
  policy : k'.policy = k.policy
  now : k'.now = k.now
  started : k'.started = k.started
  tidings : k'.tidings secret = k.tidings secret
  data : k'.data secret = k.data secret

namespace Alike

theorem refl (secret : Secret) (k : Keeper) : Alike secret k k := ⟨rfl, rfl, rfl, rfl, rfl⟩

theorem symm (alike : Alike secret k k') : Alike secret k' k :=
  ⟨alike.policy.symm, alike.now.symm, alike.started.symm, alike.tidings.symm, alike.data.symm⟩

theorem trans (first : Alike secret k k') (second : Alike secret k' k'') : Alike secret k k'' :=
  ⟨second.policy.trans first.policy, second.now.trans first.now,
    second.started.trans first.started, second.tidings.trans first.tidings,
    second.data.trans first.data⟩

theorem setLine (k : Keeper) (secret : Secret) (number : Nat) (line : Line) :
    Alike secret k (k.setRoom secret ((k.room secret).setLine number line)) :=
  ⟨rfl, rfl, rfl, rfl, read_setRoom Room.data (by rfl) secret⟩

theorem count (k : Keeper) (secret : Secret) (m : Measure) : Alike secret k (k.count m) :=
  ⟨rfl, rfl, rfl, rfl, rfl⟩

theorem setGauge (k : Keeper) (secret : Secret) (level : Nat) : Alike secret k (k.setGauge level) :=
  ⟨rfl, rfl, rfl, rfl, rfl⟩

theorem note (k : Keeper) {entry : Entry} (silent : entry.tiding? secret = none) :
    Alike secret k (k.note entry) := by
  refine ⟨rfl, rfl, rfl, ?_, rfl⟩
  simp [Keeper.tidings, Keeper.note, silent]

theorem arm (k : Keeper) (secret : Secret) (number : Nat) (line : Line) (generation delay : Nat) :
    Alike secret k (k.arm secret number line generation delay) :=
  (setLine k secret number _).trans (note _ rfl)

theorem scheduled {lease : Lease} {outcome : Keeper × Scheduling}
    (scheduled : Scheduled k secret lease outcome) : Alike secret k outcome.1 := by
  cases scheduled with
  | refused => exact refl secret k
  | outlasted number line => exact setLine k secret number _
  | installed number line deadline level =>
    exact (arm k secret number _ _ _).trans (setGauge _ secret level)
  | disabled number line level =>
    exact (setLine k secret number _).trans (setGauge _ secret level)

theorem endTimer (k : Keeper) (secret : Secret) (number generation : Nat)
    (result : Except Fault Lease) :
    Alike secret k (k.endTimer secret number generation result) := by
  unfold Keeper.endTimer
  dsimp only
  split
  · exact refl secret k
  · split
    · exact arm k secret number _ _ _
    · exact setLine k secret number _
    · exact setLine k secret number _

end Alike

structure Enters (secret : Secret) (entry : Entry) (k k' : Keeper) : Prop where
  policy : k'.policy = k.policy
  now : k'.now = k.now
  started : k'.started = k.started
  journal : k'.journal = (k.now, entry) :: k.journal
  data : k'.data secret = k.data secret

theorem emit_enters (k : Keeper) (secret : Secret) (e : LeaseEvent) :
    Enters secret (.event e) k (k.emit e) := by
  have told := emit_tells k e
  refine ⟨told.policy, told.now, told.started, emit_journal k e, ?_⟩
  rw [data, emit_room]
  rfl

theorem report_enters (k : Keeper) (secret : Secret) (lease : Lease) (fault : Fault) :
    Enters secret (.fault secret lease fault) k (k.report secret lease fault).1 := by
  have told := report_aside k secret lease fault
  refine ⟨told.policy, told.now, told.started, report_journal k secret lease fault, ?_⟩
  rw [data, room_of_rooms told.rooms]
  rfl

theorem call_enters (k : Keeper) (secret : Secret) (purpose : Purpose) (errand : Errand) :
    Enters secret (.call secret purpose errand) k (k.call secret purpose errand) :=
  ⟨rfl, rfl, rfl, rfl, read_setRoom Room.data (by rfl) secret⟩

namespace Alike

variable {d t d' t' : Keeper}

theorem enter (alike : Alike secret d t) {entry entry' : Entry} (first : Enters secret entry d d')
    (second : Enters secret entry' t t') (same : entry'.tiding? secret = entry.tiding? secret) :
    Alike secret d' t' := by
  refine ⟨?_, ?_, ?_, ?_, ?_⟩
  · rw [first.policy, second.policy, alike.policy]
  · rw [first.now, second.now, alike.now]
  · rw [first.started, second.started, alike.started]
  · have tidings : t.tidings secret = d.tidings secret := alike.tidings
    unfold Keeper.tidings at tidings ⊢
    rw [first.journal, second.journal]
    simp only [List.filterMap_cons, tidings, same, alike.now]
  · rw [first.data, second.data, alike.data]

theorem emit (alike : Alike secret d t) (e : LeaseEvent) : Alike secret (d.emit e) (t.emit e) :=
  alike.enter (emit_enters d secret e) (emit_enters t secret e) rfl

theorem setData (alike : Alike secret d t) (data : Option (TextMap String)) :
    Alike secret (d.setRoom secret { d.room secret with data })
      (t.setRoom secret { t.room secret with data }) := by
  refine ⟨alike.policy, alike.now, alike.started, alike.tidings, ?_⟩
  rw [Keeper.data, Keeper.data, room_setRoom_self, room_setRoom_self]

end Alike

/-! ### Between two calls -/

structure Leaves (secret : Secret) (k k' : Keeper) : Prop where
  started : k'.started = k.started
  binds : k'.binds = k.binds
  lines : (k'.room secret).lines = (k.room secret).lines
  registered : (k'.room secret).registered = (k.room secret).registered
  flights : (k'.room secret).flights = (k.room secret).flights

namespace Leaves

theorem trans (first : Leaves secret k k') (second : Leaves secret k' k'') :
    Leaves secret k k'' :=
  ⟨second.started.trans first.started, second.binds.trans first.binds,
    second.lines.trans first.lines, second.registered.trans first.registered,
    second.flights.trans first.flights⟩

theorem of_rooms (started : k'.started = k.started) (binds : k'.binds = k.binds)
    (rooms : k'.rooms = k.rooms) : Leaves secret k k' := by
  have room := room_of_rooms rooms secret
  exact ⟨started, binds, by rw [room], by rw [room], by rw [room]⟩

theorem of_telling (told : Telling k k') : Leaves secret k k' :=
  of_rooms told.started told.binds told.rooms

theorem emit (k : Keeper) (secret : Secret) (e : LeaseEvent) : Leaves secret k (k.emit e) :=
  of_rooms (emit_tells k e).started (emit_binds k e) (emit_tells k e).rooms

theorem setData (k : Keeper) (secret : Secret) (data : Option (TextMap String)) :
    Leaves secret k (k.setRoom secret { k.room secret with data }) := by
  refine ⟨rfl, rfl, ?_, ?_, ?_⟩
  · rw [room_setRoom_self]
  · rw [room_setRoom_self]
  · rw [room_setRoom_self]

variable {number : Nat} {line : Line}

theorem stands (leaves : Leaves secret k k') (stands : k.Stands secret number line) :
    k'.Stands secret number line := by
  refine ⟨leaves.started.trans stands.started, ⟨?_, ?_⟩, stands.fresh,
    leaves.flights.trans stands.idle⟩
  · rw [← stands.uses.used, Room.lineNumber?, Room.lineNumber?, leaves.lines, leaves.registered]
  · rw [leaves.lines, stands.uses.found]

theorem outlook (leaves : Leaves secret k k') : k'.outlook secret = k.outlook secret := by
  simp [Keeper.outlook, Room.outlook, Room.line?, Room.lineNumber?, leaves.lines, leaves.registered]

end Leaves

def polled (k : Keeper) (secret : Secret) (purpose : Purpose) (errand : Errand) : Keeper :=
  (k.call secret purpose errand).landed secret purpose

theorem room_polled (idle : (k.room secret).flights = []) (purpose : Purpose) (errand : Errand) :
    (k.polled secret purpose errand).room secret = k.room secret := by
  have called : (k.call secret purpose errand).room secret =
      (k.room secret).board purpose errand := room_setRoom_self k secret _
  have dropped : ((k.room secret).board purpose errand).dropFlight purpose =
      { k.room secret with flights := [] } := by
    simp [Room.dropFlight, Room.board, idle]
  rw [polled, landed_room, called, dropped, ← idle]

theorem leaves_polled (idle : (k.room secret).flights = []) (purpose : Purpose)
    (errand : Errand) : Leaves secret k (k.polled secret purpose errand) := by
  have room := room_polled idle purpose errand
  exact ⟨rfl, rfl, by rw [room], by rw [room], by rw [room]⟩

theorem Alike.polled {d t : Keeper} (alike : Alike secret d t) (first second : Purpose)
    (errand : Errand) :
    Alike secret (d.polled secret first errand) (t.polled secret second errand) := by
  have called := alike.enter (call_enters d secret first errand)
    (call_enters t secret second errand) rfl
  refine ⟨called.policy, called.now, called.started, called.tidings, ?_⟩
  rw [Keeper.polled, Keeper.polled, landed_data, landed_data]
  exact called.data

/-! ### The answer to a renewal, before its activity ends -/

def acknowledged (k : Keeper) (secret : Secret) (next : Lease) : Keeper :=
  if next.hasId then (k.count (.renewal secret.mode true)).emit (.afterRenewed secret next)
  else k.count (.renewal secret.mode true)

def lapsed (k : Keeper) (secret : Secret) (next : Lease) : Keeper :=
  (k.setRoom secret { k.room secret with data := none }).emit (.expired secret next)

def disappointed (k : Keeper) (secret : Secret) (fault : Fault) : Keeper :=
  ((if fault.isNotFound then k.emit (.notFound secret) else k).report secret Lease.none fault).1

theorem acknowledged_telling (k : Keeper) (secret : Secret) (next : Lease) :
    Telling k (k.acknowledged secret next) := by
  have counted := count_telling k (.renewal secret.mode true)
  unfold acknowledged
  split
  · exact counted.trans (emit_telling _ rfl)
  · exact counted

section
variable (lease : Lease) {next : Lease}

theorem renewed_of_enough (enough : ¬ k.fallsShort next) :
    k.renewed secret purpose lease (.ok next) =
      (k.acknowledged secret next).endRenewal secret purpose (.ok next) := by
  have policy := (acknowledged_telling k secret next).policy
  refine if_pos ((not_fallsShort_iff (k.acknowledged secret next) next).mp ?_)
  rwa [fallsShort, policy]

theorem renewed_of_short (short : k.fallsShort next) :
    k.renewed secret purpose lease (.ok next) =
      if secret.isRotating then (k.acknowledged secret next).call secret purpose .fetch
      else ((k.acknowledged secret next).lapsed secret next).endRenewal secret purpose
        (.ok Lease.none) := by
  have policy := (acknowledged_telling k secret next).policy
  refine if_neg (mt (not_fallsShort_iff (k.acknowledged secret next) next).mpr ?_)
  apply not_not_intro
  rwa [fallsShort, policy]

end

theorem leaves_acknowledged (k : Keeper) (secret : Secret) (next : Lease) :
    Leaves secret k (k.acknowledged secret next) := .of_telling (acknowledged_telling k secret next)

theorem leaves_lapsed (k : Keeper) (secret : Secret) (next : Lease) :
    Leaves secret k (k.lapsed secret next) :=
  (Leaves.setData k secret none).trans (.emit _ secret _)

theorem leaves_disappointed (k : Keeper) (secret : Secret) (fault : Fault) :
    Leaves secret k (k.disappointed secret fault) := by
  unfold disappointed
  split
  · exact (Leaves.emit k secret _).trans (.of_telling (report_telling _ secret _ fault))
  · exact .of_telling (report_telling k secret _ fault)

theorem leaves_published (k : Keeper) (secret : Secret) (response : Response) :
    Leaves secret k (k.published secret response) :=
  (Leaves.setData k secret _).trans (.emit _ secret _)

section
variable {d t : Keeper} (alike : Alike secret d t)
include alike

theorem Alike.counted (m : Measure) : Alike secret (d.count m) (t.count m) :=
  (Alike.count d secret m).symm.trans (alike.trans (.count t secret m))

theorem Alike.acknowledged (next : Lease) :
    Alike secret (d.acknowledged secret next) (t.acknowledged secret next) := by
  have counted := alike.counted (.renewal secret.mode true)
  unfold Keeper.acknowledged
  split
  · exact counted.emit _
  · exact counted

theorem Alike.lapsed (next : Lease) :
    Alike secret (d.lapsed secret next) (t.lapsed secret next) := (alike.setData none).emit _

theorem Alike.disappointed (fault : Fault) :
    Alike secret (d.disappointed secret fault) (t.disappointed secret fault) := by
  unfold Keeper.disappointed
  split
  · exact (alike.emit _).enter (report_enters _ secret _ fault) (report_enters _ secret _ fault) rfl
  · exact alike.enter (report_enters d secret _ fault) (report_enters t secret _ fault) rfl

theorem Alike.published (response : Response) :
    Alike secret (d.published secret response) (t.published secret response) :=
  (alike.setData _).emit _

end

end Keeper
end LeaseKeeper

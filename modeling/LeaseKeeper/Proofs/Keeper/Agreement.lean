import LeaseKeeper.Proofs.Keeper.Alike

/-!
A lease is renewed on demand at the moment when its timer fires. Both ways ask the same of the store
and, with one exception, leave the secret with the same outlook; they differ in who puts the lease
back into its line. The exception is a fetch that fails: the timer's task then decides by the
strategy what becomes of the lease, while the operation returns the fault and leaves the lease as it
was, with its timer pending.
-/
namespace LeaseKeeper

open Lineage

theorem Lineage.Ending.error_current {l : Lineage} {strategy : Strategy}
    {floor threshold now g : Nat} {reschedule : Lease → Bool} {fault : Fault} {after : Lineage}
    {next : Next} (ending : Ending l strategy floor threshold now g reschedule (.error fault)
      after next) : after.current = l.current := by
  cases ending with
  | stale => rfl
  | dropped fault held drop before => simp [current, before]
  | retained fault held retryAt keep before => simp [current, before]
  | exhausted fault held retryAt keep before => simp [current, before]
  | overran => rfl

/-- The line when the timer has fired and its task has claimed the lease. -/
def Line.claimed (line : Line) (held : Held) : Line :=
  ⟨{ line.lineage.unregister held.generation with slot := some { held with phase := .renewing } },
    line.waits.filter (·.1 != held.generation)⟩

namespace Keeper

variable {k : Keeper} {secret : Secret} {purpose : Purpose}

/-! ### How an activity ends -/

section
variable {number : Nat} {line : Line} (stands : k.Stands secret number line)
include stands

theorem Stands.endRenew {ticket : Nat} {lease : Lease} (unbound : k.binds.find? ticket = none)
    (fits : isSchedulable secret lease = true → (deadline? k.now lease.span).isSome = true) :
    Alike secret k (k.endRenew ticket secret (.ok lease)) ∧
      (k.endRenew ticket secret (.ok lease)).outlook secret = k.planned secret lease ∧
      ((k.endRenew ticket secret (.ok lease)).room secret).flights = [] := by
  obtain ⟨k', line', result, stands', outlook, _⟩ := stands.schedule fits
  have scheduled := schedule_scheduled k secret lease
  rw [result] at scheduled
  have binds : k'.binds = k.binds := (Meanwhile.scheduled scheduled).binds
  have ended : k.endRenew ticket secret (.ok lease) =
      k'.note (.returned ticket (.lease (.ok lease))) := by
    simp only [Keeper.endRenew, result, complete, binds, unbound]
  rw [ended]
  exact ⟨(Alike.scheduled scheduled).trans (.note k' rfl), outlook, stands'.idle⟩

theorem Stands.endTimer_flights (generation : Nat) (result : Except Fault Lease) :
    ((k.endTimer secret number generation result).room secret).flights = [] := by
  obtain ⟨waits, room⟩ := endTimer_room stands.uses.found generation result
  rw [room]
  exact stands.idle

theorem Stands.endTimer_moved {generation : Nat} (result : Except Fault Lease)
    (moved : ∀ held, line.lineage.slot = some held → held.generation ≠ generation) :
    (k.endTimer secret number generation result).outlook secret = k.outlook secret := by
  have concluded : line.lineage.conclude k.policy.strategy k.policy.floor k.policy.threshold k.now
      generation Lease.renewable result = (line.lineage, .stop) := by
    cases slot : line.lineage.slot with
    | none =>
      have unclaimed : line.lineage.claimed? generation = none := by simp [claimed?, slot]
      cases result <;> simp [conclude, advance, retain, settle, unclaimed, slot]
    | some held =>
      have differ := moved held slot
      have unclaimed : line.lineage.claimed? generation = none := by simp [claimed?, slot, differ]
      cases result <;> simp [conclude, advance, retain, settle, unclaimed, slot, differ]
  have room : (k.endTimer secret number generation result).room secret = k.room secret := by
    simp only [endTimer, stands.uses.found, concluded, room_setRoom_self]
    exact Room.setLine_self stands.uses.found
  rw [outlook, outlook, room]

theorem Stands.endTimer_failed (generation : Nat) (fault : Fault) :
    (k.endTimer secret number generation (.error fault)).current secret = k.current secret := by
  obtain ⟨waits, room⟩ := endTimer_room stands.uses.found generation (.error fault)
  have ending := conclude_ending line.lineage k.policy.strategy k.policy.floor k.policy.threshold
    k.now generation Lease.renewable (.error fault)
  rw [current, current, room, Room.current_setLine stands.uses.found, if_pos stands.uses.used,
    Room.current_of_used stands.uses.used stands.uses.found]
  exact ending.error_current

section
variable {held : Held} (slot : line.lineage.slot = some held)
include slot

theorem Stands.endTimer_renewed {next : Lease} (renewing : held.phase = .renewing)
    (id : next.hasId = true) (renewable : next.renewable = true)
    (fits : (deadline? k.now next.span).isSome = true) :
    (k.endTimer secret number held.generation (.ok next)).outlook secret =
      k.planned secret next := by
  obtain ⟨deadline, within⟩ := Option.isSome_iff_exists.mp fits
  have schedulable : isSchedulable secret next = true := by
    simp [isSchedulable, Lease.isRevocable, id, renewable]
  have claimed : line.lineage.claimed? held.generation = some held := by
    simp [claimed?, slot, renewing]
  have concluded : line.lineage.conclude k.policy.strategy k.policy.floor k.policy.threshold k.now
      held.generation Lease.renewable (.ok next) =
        ({ line.lineage.issue true with
          slot := some ⟨line.lineage.issued + 1, next, .scheduled, deadline⟩ },
          .wait (line.lineage.issued + 1) (k.policy.delay next)) := by
    simp [conclude, advance, claimed, id, within, renewable, issue, LeasePolicy.delay]
  have planned : Line.outlook
      ⟨{ line.lineage.issue true with
          slot := some ⟨line.lineage.issued + 1, next, .scheduled, deadline⟩ },
        line.waits ++ [(line.lineage.issued + 1, k.now + k.policy.delay next)]⟩ =
      k.planned secret next :=
    outlook_planned stands.fresh schedulable rfl (Nat.lt_succ_self _) within
  simp only [endTimer, stands.uses.found, concluded]
  exact (congrArg Room.outlook (room_setRoom_self k secret _)).trans
    ((stands.uses.setLine _).outlook.trans planned)

theorem Stands.endTimer_forgotten {next : Lease} (unnamed : next.hasId = false) :
    (k.endTimer secret number held.generation (.ok next)).outlook secret = none := by
  have concluded : line.lineage.conclude k.policy.strategy k.policy.floor k.policy.threshold k.now
      held.generation Lease.renewable (.ok next) = ({ line.lineage with slot := none }, .stop) := by
    simp [conclude, unnamed, settle, slot]
  simp only [endTimer, stands.uses.found, concluded]
  exact (congrArg Room.outlook (room_setRoom_self k secret _)).trans
    (stands.uses.setLine _).outlook

end

end

/-! ### Two keepers, one answer -/

structure Paired (secret : Secret) (number generation ticket : Nat) (lease : Lease)
    (d t : Keeper) : Prop where
  alike : Alike secret d t
  unbound : d.binds.find? ticket = none
  scheduled : ∃ line, d.Stands secret number line ∧ line.lineage.current = some lease
  claimed : ∃ line held, t.Stands secret number line ∧ line.lineage.slot = some held ∧
    held.generation = generation ∧ held.phase = .renewing ∧ held.lease = lease ∧
    generation ≤ line.lineage.issued

/-- What both come to. When a fetch was asked for and `failed`, they differ about what is to be
expected of the lease, of which the operation has changed nothing. -/
structure Concurs (secret : Secret) (failed : Prop) (k d t : Keeper) : Prop where
  alike : Alike secret d t
  current : d.current secret = t.current secret
  agreed : ¬ failed → d.outlook secret = t.outlook secret
  untouched : failed → d.outlook secret = k.outlook secret

variable {failed : Prop}

theorem Concurs.of_outlook {d t : Keeper} (alike : Alike secret d t)
    (same : d.outlook secret = t.outlook secret) (granted : ¬ failed) :
    Concurs secret failed k d t := by
  refine ⟨alike, ?_, fun _ => same, fun failure => absurd failure granted⟩
  rw [current_of_outlook, current_of_outlook, same]

theorem Concurs.since {k' d t : Keeper} (concurs : Concurs secret failed k' d t)
    (leaves : Leaves secret k k') : Concurs secret failed k d t :=
  ⟨concurs.alike, concurs.current, concurs.agreed, fun failure =>
    (concurs.untouched failure).trans leaves.outlook⟩

theorem fetched_error (k : Keeper) (secret : Secret) (purpose : Purpose) (fault : Fault) :
    ∃ heard, k.fetched secret purpose (.error fault) =
      (k.disappointed secret fault).endFetch secret purpose (.error heard) := ⟨_, rfl⟩

theorem planned_congr {k' : Keeper} (now : k'.now = k.now) (policy : k'.policy = k.policy)
    (secret : Secret) (lease : Lease) : k'.planned secret lease = k.planned secret lease := by
  simp only [planned, now, policy]

theorem Stands.fetched {number : Nat} {line : Line} (stands : k.Stands secret number line)
    (purpose : Purpose) {response : Response}
    (fits : isSchedulable secret response.lease = true →
      (deadline? k.now response.lease.span).isSome = true) :
    ∃ k' line', k.fetched secret purpose (.ok response) =
        k'.endFetch secret purpose (.ok response.lease) ∧
      Alike secret (k.published secret response) k' ∧ k'.Stands secret number line' ∧
      k'.binds = k.binds ∧ k'.now = k.now ∧ k'.policy = k.policy ∧
      k'.outlook secret = k.planned secret response.lease ∧
      ∀ held, line'.lineage.slot = some held → line.lineage.issued < held.generation := by
  have told := emit_tells (k.setRoom secret { k.room secret with data := some response.flattened })
    (.created secret response.lease response.flattened)
  have now : (k.published secret response).now = k.now := told.now
  have policy : (k.published secret response).policy = k.policy := told.policy
  have published := leaves_published k secret response
  obtain ⟨k', line', kept, stands', outlook, moved⟩ :=
    (published.stands stands).schedule (now ▸ fits)
  have scheduled := schedule_scheduled (k.published secret response) secret response.lease
  rw [kept] at scheduled
  have alike : Alike secret (k.published secret response) k' := .scheduled scheduled
  have binds : k'.binds = (k.published secret response).binds :=
    (Meanwhile.scheduled scheduled).binds
  refine ⟨k', line', ?_, alike, stands', binds.trans published.binds, alike.now.trans now,
    alike.policy.trans policy, outlook.trans (planned_congr now policy secret _), moved⟩
  unfold Keeper.published at kept
  simp [Keeper.fetched, stands.started, kept]

namespace Paired

variable {number generation ticket : Nat} {lease : Lease} {d t d' t' : Keeper}

theorem leaves (paired : Paired secret number generation ticket lease d t)
    (alike : Alike secret d' t') (first : Leaves secret d d') (second : Leaves secret t t') :
    Paired secret number generation ticket lease d' t' := by
  obtain ⟨line, stands, current⟩ := paired.scheduled
  obtain ⟨line', held, stands', claim⟩ := paired.claimed
  refine ⟨alike, ?_, ⟨line, first.stands stands, current⟩,
    ⟨line', held, second.stands stands', claim⟩⟩
  rw [first.binds]
  exact paired.unbound

theorem currents (paired : Paired secret number generation ticket lease d t) :
    d.current secret = some lease ∧ t.current secret = some lease := by
  obtain ⟨line, stands, current⟩ := paired.scheduled
  obtain ⟨line', held, stands', slot, _, _, same, _⟩ := paired.claimed
  constructor
  · exact (Room.current_of_used stands.uses.used stands.uses.found).trans current
  · refine (Room.current_of_used stands'.uses.used stands'.uses.found).trans ?_
    simp [Lineage.current, slot, same]

theorem fetch_failed (paired : Paired secret number generation ticket lease d t)
    (failure : failed) (fault : Fault) :
    Concurs secret failed d (d.fetched secret (.renew ticket) (.error fault))
      (t.fetched secret (.timer number generation) (.error fault)) := by
  obtain ⟨heard, first⟩ := fetched_error d secret (.renew ticket) fault
  obtain ⟨heard', second⟩ := fetched_error t secret (.timer number generation) fault
  rw [first, second]
  have leaves := leaves_disappointed d secret fault
  have told := (paired.leaves (paired.alike.disappointed fault) leaves
    (leaves_disappointed t secret fault))
  have ended : (d.disappointed secret fault).endFetch secret (.renew ticket) (.error heard) =
      ((d.disappointed secret fault).count (.rotation false)).note
        (.returned ticket (.lease (.error heard))) := by
    have unbound : ((d.disappointed secret fault).count (.rotation false)).binds.find? ticket =
        none := told.unbound
    simp only [endFetch, endRenew, complete, isOk, unbound]
  obtain ⟨line, held, stands, _⟩ := told.claimed
  have counted : Leaves secret (t.disappointed secret fault)
    ((t.disappointed secret fault).count (.rotation false)) := .of_rooms rfl rfl rfl
  have failed := (counted.stands stands).endTimer_failed generation heard'
  rw [ended]
  refine ⟨?_, ?_, fun granted => absurd failure granted, fun _ => leaves.outlook⟩
  · have alike := told.alike.counted (.rotation false)
    exact (Alike.note _ rfl).symm.trans (alike.trans (.endTimer _ secret number generation _))
  · exact (told.currents.1.trans told.currents.2.symm).trans failed.symm

theorem fetch_granted (paired : Paired secret number generation ticket lease d t)
    (granted : ¬ failed) {response : Response}
    (fits : isSchedulable secret response.lease = true →
      (deadline? d.now response.lease.span).isSome = true) :
    Concurs secret failed d (d.fetched secret (.renew ticket) (.ok response))
      (t.fetched secret (.timer number generation) (.ok response)) := by
  obtain ⟨line, stands, _⟩ := paired.scheduled
  obtain ⟨line', held, stands', _, _, _, _, bound⟩ := paired.claimed
  obtain ⟨d₁, _, ended, stored, stands₁, binds, now, policy, _⟩ :=
    stands.fetched (.renew ticket) fits
  obtain ⟨t₁, _, ended', stored', stands₂, _, _, _, outlook, moved⟩ :=
    stands'.fetched (.timer number generation) (paired.alike.now ▸ fits)
  have alike : Alike secret d₁ t₁ :=
    stored.symm.trans ((paired.alike.published response).trans stored')
  have counted : Leaves secret d₁ (d₁.count (.rotation true)) := .of_rooms rfl rfl rfl
  have counted' : Leaves secret t₁ (t₁.count (.rotation true)) := .of_rooms rfl rfl rfl
  have unbound : (d₁.count (.rotation true)).binds.find? ticket = none := by
    rw [counted.binds, binds]
    exact paired.unbound
  -- the fetch has made its lease current already: the operation does so once more, and the task
  -- finds its own lease replaced
  obtain ⟨renewed, demanded, _⟩ := (counted.stands stands₁).endRenew unbound (now ▸ fits)
  have left := (counted'.stands stands₂).endTimer_moved (.ok response.lease) fun held slot =>
    Nat.ne_of_gt (Nat.lt_of_le_of_lt bound (moved held slot))
  rw [ended, ended']
  apply Concurs.of_outlook _ _ granted
  · have before := alike.counted (.rotation true)
    exact renewed.symm.trans (before.trans (.endTimer _ secret number generation _))
  · calc _ = (d₁.count (.rotation true)).planned secret response.lease := demanded
      _ = d.planned secret response.lease := planned_congr now policy secret _
      _ = t.planned secret response.lease :=
        (planned_congr paired.alike.now paired.alike.policy secret _).symm
      _ = t₁.outlook secret := outlook.symm
      _ = (t₁.count (.rotation true)).outlook secret := counted'.outlook.symm
      _ = _ := left.symm

theorem ended (paired : Paired secret number generation ticket lease d t) (granted : ¬ failed)
    {next : Lease} (named : next.hasId = true → next.renewable = true ∧
      (deadline? d.now next.span).isSome = true)
    (unnamed : next.hasId = false → isSchedulable secret next = false) :
    Concurs secret failed k (d.endRenew ticket secret (.ok next))
      (t.endTimer secret number generation (.ok next)) ∧
    ((d.endRenew ticket secret (.ok next)).room secret).flights = [] ∧
      ((t.endTimer secret number generation (.ok next)).room secret).flights = [] := by
  obtain ⟨line, stands, _⟩ := paired.scheduled
  obtain ⟨line', held, stands', slot, rfl, renewing, _, _⟩ := paired.claimed
  have fits : isSchedulable secret next = true → (deadline? d.now next.span).isSome = true := by
    intro schedulable
    apply (named ?_).2
    cases id : next.hasId with
    | true => rfl
    | false => rw [unnamed id] at schedulable; cases schedulable
  obtain ⟨alike, outlook, idle⟩ := stands.endRenew paired.unbound fits
  refine ⟨Concurs.of_outlook ?_ ?_ granted, idle, stands'.endTimer_flights _ _⟩
  · exact alike.symm.trans (paired.alike.trans (.endTimer t secret number _ _))
  · rw [outlook]
    cases id : next.hasId with
    | true =>
      obtain ⟨renewable, within⟩ := named id
      rw [stands'.endTimer_renewed slot renewing id renewable (paired.alike.now ▸ within)]
      exact (planned_congr paired.alike.now paired.alike.policy secret next).symm
    | false =>
      rw [stands'.endTimer_forgotten slot id, planned, unnamed id]
      rfl

end Paired

/-! ### The answers of the store -/

def replies (secret : Secret) (purpose : Purpose) (next : Lease) (result : Except Fault Response) :
    List KeeperEvent :=
  [.answer secret purpose (.renewed (.ok next)), .answer secret purpose (.fetched result)]

def Refetches (k : Keeper) (secret : Secret) (lease next : Lease) : Prop :=
  secret.isRotating = true ∧ (lease.isRevocable = false ∨ k.fallsShort next)

structure Amenable (k : Keeper) (secret : Secret) (lease next : Lease)
    (result : Except Fault Response) : Prop where
  fetched : k.Refetches secret lease next → ∀ response, result = .ok response →
    isSchedulable secret response.lease = true →
      (deadline? k.now response.lease.span).isSome = true
  renewed : ¬ k.Refetches secret lease next → next.hasId = true → ¬ k.fallsShort next →
    next.renewable = true ∧ (deadline? k.now next.span).isSome = true
  unnamed : ¬ k.Refetches secret lease next → next.hasId = false → secret.isRotating = true →
    next.seconds = 0

theorem step_answer_idle (idle : (k.room secret).flights = []) (purpose : Purpose)
    (reply : Reply) : k.step (.answer secret purpose reply) = k := by
  have unknown : (k.room secret).flight? purpose = none := by simp [Room.flight?, idle]
  simp only [step, answer, unknown]

section
variable (idle : (k.room secret).flights = []) (purpose : Purpose)
  (prompt : (k.room secret).awaitsTurn purpose = false)
include idle prompt

theorem flight?_call (errand : Errand) :
    ((k.call secret purpose errand).room secret).flight? purpose = some ⟨purpose, errand⟩ := by
  have called : (k.call secret purpose errand).room secret =
      (k.room secret).board purpose errand := room_setRoom_self k secret _
  rw [called, Room.flight?_eq_some]
  exact ⟨prompt, by simp [Room.board, idle]⟩

theorem step_call_fetched (result : Except Fault Response) :
    (k.call secret purpose .fetch).step (.answer secret purpose (.fetched result)) =
      (k.polled secret purpose .fetch).fetched secret purpose result :=
  step_fetched (flight?_call idle purpose prompt .fetch) result

theorem step_call_enough (lease : Lease) {next : Lease} (enough : ¬ k.fallsShort next) :
    (k.call secret purpose (.renew lease)).step (.answer secret purpose (.renewed (.ok next))) =
      ((k.polled secret purpose (.renew lease)).acknowledged secret next).endRenewal secret purpose
        (.ok next) :=
  (step_answer (flight?_call idle purpose prompt (.renew lease)) _).trans
    (renewed_of_enough lease enough)

theorem step_call_short (lease : Lease) {next : Lease} (short : k.fallsShort next) :
    (k.call secret purpose (.renew lease)).step (.answer secret purpose (.renewed (.ok next))) =
      if secret.isRotating then
        ((k.polled secret purpose (.renew lease)).acknowledged secret next).call secret purpose
          .fetch
      else
        (((k.polled secret purpose (.renew lease)).acknowledged secret next).lapsed secret
          next).endRenewal secret purpose (.ok Lease.none) :=
  (step_answer (flight?_call idle purpose prompt (.renew lease)) _).trans
    (renewed_of_short lease short)

theorem step_call_refused (result : Except Fault Lease) :
    (k.call secret purpose .fetch).step (.answer secret purpose (.renewed result)) =
      k.call secret purpose .fetch := by
  simp only [step, answer, flight?_call idle purpose prompt .fetch]

end

namespace Paired

variable {number generation ticket : Nat} {lease : Lease} {d t : Keeper}

theorem idle (paired : Paired secret number generation ticket lease d t) :
    (d.room secret).flights = [] ∧ (t.room secret).flights = [] := by
  obtain ⟨line, stands, _⟩ := paired.scheduled
  obtain ⟨line', held, stands', _⟩ := paired.claimed
  exact ⟨stands.idle, stands'.idle⟩

theorem polled (paired : Paired secret number generation ticket lease d t) (errand : Errand) :
    Paired secret number generation ticket lease (d.polled secret (.renew ticket) errand)
      (t.polled secret (.timer number generation) errand) :=
  paired.leaves (paired.alike.polled _ _ errand) (leaves_polled paired.idle.1 _ errand)
    (leaves_polled paired.idle.2 _ errand)

theorem refetched (paired : Paired secret number generation ticket lease d t)
    {result : Except Fault Response} (kind : failed ↔ isOk result = false)
    (fits : ∀ response, result = .ok response → isSchedulable secret response.lease = true →
      (deadline? d.now response.lease.span).isSome = true) :
    Concurs secret failed d
      ((d.call secret (.renew ticket) .fetch).step
        (.answer secret (.renew ticket) (.fetched result)))
      ((t.call secret (.timer number generation) .fetch).step
        (.answer secret (.timer number generation) (.fetched result))) := by
  rw [step_call_fetched paired.idle.1 _ rfl, step_call_fetched paired.idle.2 _ rfl]
  apply Concurs.since _ (leaves_polled paired.idle.1 (.renew ticket) .fetch)
  cases result with
  | error fault => exact (paired.polled .fetch).fetch_failed (kind.mpr rfl) fault
  | ok response =>
    have granted : ¬ failed := by
      intro failure
      cases kind.mp failure
    exact (paired.polled .fetch).fetch_granted granted (fits response rfl)

theorem acknowledged (paired : Paired secret number generation ticket lease d t) (next : Lease) :
    Paired secret number generation ticket lease (d.acknowledged secret next)
      (t.acknowledged secret next) :=
  paired.leaves (paired.alike.acknowledged next) (leaves_acknowledged d secret next)
    (leaves_acknowledged t secret next)

theorem lapsed (paired : Paired secret number generation ticket lease d t) (next : Lease) :
    Paired secret number generation ticket lease (d.lapsed secret next) (t.lapsed secret next) :=
  paired.leaves (paired.alike.lapsed next) (leaves_lapsed d secret next)
    (leaves_lapsed t secret next)

theorem settled (paired : Paired secret number generation ticket lease d t) (granted : ¬ failed)
    {next : Lease} (named : next.hasId = true → next.renewable = true ∧
      (deadline? d.now next.span).isSome = true)
    (unnamed : next.hasId = false → isSchedulable secret next = false)
    (result : Except Fault Response) :
    Concurs secret failed k
      ((d.endRenewal secret (.renew ticket) (.ok next)).step
        (.answer secret (.renew ticket) (.fetched result)))
      ((t.endRenewal secret (.timer number generation) (.ok next)).step
        (.answer secret (.timer number generation) (.fetched result))) := by
  obtain ⟨concurs, idle, idle'⟩ := paired.ended granted named unnamed
  simp only [endRenewal, step_answer_idle idle, step_answer_idle idle']
  exact concurs

section
variable (paired : Paired secret number generation ticket lease d t) {next : Lease}
  {result : Except Fault Response} (amenable : d.Amenable secret lease next result)
include paired amenable

theorem pursued_enough (enough : ¬ d.fallsShort next) (kept : ¬ d.Refetches secret lease next) :
    Concurs secret (d.Refetches secret lease next ∧ isOk result = false) d
      ((d.call secret (.renew ticket) (.renew lease)).run
        (replies secret (.renew ticket) next result))
      ((t.call secret (.timer number generation) (.renew lease)).run
        (replies secret (.timer number generation) next result)) := by
  have enough' : ¬ t.fallsShort next := by
    rw [fallsShort, paired.alike.policy]
    exact enough
  have told := (paired.polled (.renew lease)).acknowledged next
  have now : ((d.polled secret (.renew ticket) (.renew lease)).acknowledged secret next).now =
    d.now := (acknowledged_telling _ secret next).now
  simp only [replies, run, List.foldl_cons, List.foldl_nil]
  rw [step_call_enough paired.idle.1 _ rfl _ enough, step_call_enough paired.idle.2 _ rfl _ enough']
  apply told.settled (fun failure => kept failure.1)
  · intro named
    rw [now]
    exact amenable.renewed kept named enough
  · intro unnamed
    cases rotating : secret.isRotating with
    | true =>
      have worthless := amenable.unnamed kept unnamed rotating
      simp [isSchedulable, Lease.isRevocable, unnamed, worthless]
    | false => simp [isSchedulable, Lease.isRevocable, unnamed, rotating]

theorem pursued_short (short : d.fallsShort next) :
    Concurs secret (d.Refetches secret lease next ∧ isOk result = false) d
      ((d.call secret (.renew ticket) (.renew lease)).run
        (replies secret (.renew ticket) next result))
      ((t.call secret (.timer number generation) (.renew lease)).run
        (replies secret (.timer number generation) next result)) := by
  have short' : t.fallsShort next := by
    rw [fallsShort, paired.alike.policy]
    exact short
  have told := (paired.polled (.renew lease)).acknowledged next
  simp only [replies, run, List.foldl_cons, List.foldl_nil]
  rw [step_call_short paired.idle.1 _ rfl _ short, step_call_short paired.idle.2 _ rfl _ short']
  cases rotating : secret.isRotating with
  | true =>
    have now : ((d.polled secret (.renew ticket) (.renew lease)).acknowledged secret next).now =
      d.now := (acknowledged_telling _ secret next).now
    have refetches : d.Refetches secret lease next := ⟨rotating, .inr short⟩
    apply Concurs.since _ ((leaves_polled paired.idle.1 (.renew ticket) (.renew lease)).trans
      (leaves_acknowledged _ secret next))
    exact told.refetched (and_iff_right refetches) (now ▸ amenable.fetched refetches)
  | false =>
    have kept : ¬ (d.Refetches secret lease next ∧ isOk result = false) := by
      simp [Refetches, rotating]
    have unnamed : Lease.none.hasId = false := by decide
    apply (told.lapsed next).settled kept
    · intro named
      rw [unnamed] at named
      cases named
    · intro _
      simp [isSchedulable, Lease.isRevocable, unnamed, rotating]

theorem pursued : Concurs secret (d.Refetches secret lease next ∧ isOk result = false) d
    ((d.renewOrFetch secret (.renew ticket) lease).run (replies secret (.renew ticket) next result))
    ((t.renewOrFetch secret (.timer number generation) lease).run
      (replies secret (.timer number generation) next result)) := by
  unfold renewOrFetch
  by_cases direct : (secret.isRotating && !lease.isRevocable) = true
  · rw [if_pos direct, if_pos direct]
    simp only [replies, run, List.foldl_cons, List.foldl_nil]
    rw [step_call_refused paired.idle.1 _ rfl, step_call_refused paired.idle.2 _ rfl]
    simp only [Bool.and_eq_true, Bool.not_eq_true'] at direct
    have refetches : d.Refetches secret lease next := ⟨direct.1, .inl direct.2⟩
    exact paired.refetched (and_iff_right refetches) (amenable.fetched refetches)
  · rw [if_neg direct, if_neg direct]
    by_cases short : d.fallsShort next
    · exact paired.pursued_short amenable short
    · apply paired.pursued_enough amenable short
      rintro ⟨rotating, fixed | short'⟩
      · simp [rotating, fixed] at direct
      · exact short short'

end

end Paired

/-! ### On demand and for the timer -/

/-- The secret's lease is scheduled and its timer is due, with no store call of the secret under way
and somebody left to hold the keeper. -/
structure Ripe (k : Keeper) (secret : Secret) (number : Nat) (line : Line) (held : Held) :
    Prop where
  uses : (k.room secret).Uses number line
  slot : line.lineage.slot = some held
  scheduled : held.phase = .scheduled
  id : held.lease.hasId = true
  due : ∃ due, line.waits.lookup held.generation = some due ∧ due ≤ k.now
  idle : (k.room secret).flights = []
  isHeld : k.isHeld = true

namespace Ripe

variable {number : Nat} {line : Line} {held : Held} (ripe : k.Ripe secret number line held)
include ripe

theorem step_renew (ticket : Nat) : k.step (.request ticket (.renew secret)) =
    k.renewOrFetch secret (.renew ticket) held.lease := by
  have registered : (k.room secret).registered = true := registered_of_number ripe.uses.used
  have current : k.current secret = some held.lease := by
    refine (Room.current_of_used ripe.uses.used ripe.uses.found).trans ?_
    simp [Lineage.current, ripe.slot]
  simp only [step, request, renew, registered, current, ripe.id, if_true]

theorem step_fire : k.step (.fire secret number held.generation) =
    (k.setRoom secret ((k.room secret).setLine number (line.claimed held))).renewOrFetch secret
      (.timer number held.generation) held.lease := by
  obtain ⟨due, waiting, passed⟩ := ripe.due
  rcases fire_cases line.lineage held.generation with
    ⟨other, slot, _, _, claimed⟩ | ⟨missed, _⟩
  · obtain rfl := Option.some.inj (ripe.slot.symm.trans slot)
    simp only [step, fire, ripe.uses.found, waiting, if_pos passed, claimed, if_pos ripe.isHeld]
    rfl
  · exact absurd ripe.scheduled (missed held ripe.slot rfl)

theorem paired {ticket : Nat} (unbound : k.binds.find? ticket = none) (rested : k.Rested)
    (fresh : k.Fresh) (numbered : k.Numbered) :
    Paired secret number held.generation ticket held.lease k
      (k.setRoom secret ((k.room secret).setLine number (line.claimed held))) := by
  -- a stopped keeper would hold no lease
  have started : k.started = true := by
    cases started : k.started with
    | true => rfl
    | false =>
      have empty := (rested.blank started secret number line ripe.uses.found).slot
      rw [ripe.slot] at empty
      cases empty
  have stands : k.Stands secret number line :=
    ⟨started, ripe.uses, fresh secret number line ripe.uses.found, ripe.idle⟩
  have stands' : (k.setRoom secret ((k.room secret).setLine number (line.claimed held))).Stands
      secret number (line.claimed held) := by
    refine ⟨started, ?_, stands.fresh.leave (Nat.le_refl _) held.generation, ?_⟩
    · rw [room_setRoom_self]
      exact ripe.uses.setLine _
    · rw [room_setRoom_self]
      exact ripe.idle
  have bound : held.generation ≤ line.lineage.issued :=
    (numbered secret number line ripe.uses.found).slot held ripe.slot
  refine ⟨.setLine k secret number _, unbound, ⟨line, stands, ?_⟩,
    ⟨line.claimed held, _, stands', rfl, rfl, rfl, rfl, bound⟩⟩
  simp [Lineage.current, ripe.slot]

end Ripe

/-- A lease is renewed on demand when its timer is due. The same is asked of the store and told to
the listeners as if the timer had fired, and the secret is left with the same lease, the same data
and the same next timer; only that a failed fetch changes nothing about the lease's timer. -/
theorem renewals_agree (policy : LeasePolicy) (events : List KeeperEvent) (secret : Secret)
    (ticket number : Nat) (line : Line) (held : Held) (next : Lease)
    (result : Except Fault Response) :
    let k := (new policy).run events
    let demanded := (k.step (.request ticket (.renew secret))).run
      (replies secret (.renew ticket) next result)
    let fired := (k.step (.fire secret number held.generation)).run
      (replies secret (.timer number held.generation) next result)
    let failed := k.Refetches secret held.lease next ∧ isOk result = false
    k.Ripe secret number line held → k.binds.find? ticket = none →
      k.Amenable secret held.lease next result →
      (demanded.tidings secret = fired.tidings secret ∧
        demanded.current secret = fired.current secret ∧ demanded.data secret = fired.data secret) ∧
      (¬ failed → (demanded.room secret).isActive = (fired.room secret).isActive ∧
        demanded.nextDue secret = fired.nextDue secret) ∧
      (failed → (demanded.room secret).isActive = (k.room secret).isActive ∧
        demanded.nextDue secret = k.nextDue secret) := by
  intro k demanded fired failed ripe unbound amenable
  have paired := ripe.paired unbound (run_rested policy events) (run_fresh policy events)
    (run_fit policy events).numbered
  have concurs := paired.pursued amenable
  rw [← ripe.step_renew, ← ripe.step_fire] at concurs
  have alike := concurs.alike
  refine ⟨⟨alike.tidings.symm, concurs.current, alike.data.symm⟩, ?_, ?_⟩
  · intro granted
    have outlook : demanded.outlook secret = fired.outlook secret := concurs.agreed granted
    simp only [isActive_of_outlook, nextDue, outlook, and_self]
  · intro failure
    have outlook : demanded.outlook secret = k.outlook secret := concurs.untouched failure
    simp only [isActive_of_outlook, nextDue, outlook, and_self]

/-- The renewal is too short, and the secret is fetched again. -/
theorem renewal_at_timer_agrees :
    let secret : Secret := ⟨"database/creds/app", .rotate⟩
    let first : Response := ⟨"", "a", 120, true, none, none, none⟩
    let second : Response := ⟨"", "b", 300, true, none, none, none⟩
    let next : Lease := ⟨"a", 30, true⟩
    let held : Held := ⟨1, first.lease, .scheduled, Span.seconds 120⟩
    let line : Line := ⟨⟨some held, [1], [], 1⟩, [(1, Span.seconds 60)]⟩
    let k := (new .default).run [.request 1 (.add secret), .request 2 .start, .ask secret 2,
      .answer secret (.start 2) (.fetched (.ok first)), .pass (Span.seconds 60)]
    let demanded := (k.step (.request 3 (.renew secret))).run
      (replies secret (.renew 3) next (.ok second))
    let fired := (k.step (.fire secret 0 1)).run (replies secret (.timer 0 1) next (.ok second))
    k.Ripe secret 0 line held ∧ k.binds.find? 3 = none ∧
      k.Amenable secret held.lease next (.ok second) ∧
      demanded.current secret = some second.lease ∧
      demanded.tidings secret = fired.tidings secret ∧ demanded.data secret = fired.data secret ∧
      (demanded.room secret).isActive = (fired.room secret).isActive ∧
      demanded.nextDue secret = fired.nextDue secret := by
  intro secret first second next held line k demanded fired
  have ripe : k.Ripe secret 0 line held :=
    ⟨⟨by decide, by decide⟩, rfl, rfl, by decide, ⟨_, rfl, by decide⟩,
      List.isEmpty_iff.mp (by decide), by decide⟩
  have unbound : k.binds.find? 3 = none := by decide
  have refetches : k.Refetches secret held.lease next := ⟨rfl, .inr ⟨by decide, by decide⟩⟩
  have amenable : k.Amenable secret held.lease next (.ok second) := by
    refine ⟨?_, fun kept => absurd refetches kept, fun kept => absurd refetches kept⟩
    rintro _ _ ⟨⟩ _
    decide
  have granted : ¬ (k.Refetches secret held.lease next ∧ isOk (.ok second) = false) := by
    rintro ⟨_, ⟨⟩⟩
  obtain ⟨⟨tidings, _, data⟩, agreed, _⟩ :=
    renewals_agree .default _ secret 3 0 line held next (.ok second) ripe unbound amenable
  exact ⟨ripe, unbound, amenable, by decide, tidings, data, (agreed granted).1, (agreed granted).2⟩

/-- A fetch fails, a renewal is the last one long before its end, a renewal is only a time to live,
and a renewal outlasts the clock. -/
theorem renewals_disagree :
    let secret (mode : Mode) : Secret := ⟨"database/creds/app", mode⟩
    let first : Response := ⟨"", "a", 120, true, none, none, none⟩
    let held : Held := ⟨1, first.lease, .scheduled, Span.seconds 120⟩
    let line : Line := ⟨⟨some held, [1], [], 1⟩, [(1, Span.seconds 60)]⟩
    let k (mode : Mode) := (new .default).run [.request 1 (.add (secret mode)), .request 2 .start,
      .ask (secret mode) 2, .answer (secret mode) (.start 2) (.fetched (.ok first)),
      .pass (Span.seconds 60)]
    let failure : Except Fault Response := .error (.notFound "database/creds/app")
    let demanded (mode : Mode) (next : Lease) :=
      ((k mode).step (.request 3 (.renew (secret mode)))).run
        (replies (secret mode) (.renew 3) next failure)
    let fired (mode : Mode) (next : Lease) :=
      ((k mode).step (.fire (secret mode) 0 1)).run
        (replies (secret mode) (.timer 0 1) next failure)
    (∀ mode, (k mode).Ripe (secret mode) 0 line held) ∧
      ((demanded .rotate ⟨"a", 30, true⟩).room (secret .rotate)).isActive ≠
        ((fired .rotate ⟨"a", 30, true⟩).room (secret .rotate)).isActive ∧
      (demanded .renew ⟨"a", 100, false⟩).current (secret .renew) ≠
        (fired .renew ⟨"a", 100, false⟩).current (secret .renew) ∧
      (demanded .rotate ⟨"", 40, false⟩).current (secret .rotate) ≠
        (fired .rotate ⟨"", 40, false⟩).current (secret .rotate) ∧
      (demanded .renew ⟨"a", 18446744073709551615, true⟩).nextDue (secret .renew) ≠
        (fired .renew ⟨"a", 18446744073709551615, true⟩).nextDue (secret .renew) := by
  intro secret first held line k failure demanded fired
  refine ⟨?_, by decide, by decide, by decide, by decide⟩
  rintro (_ | _)
  all_goals exact ⟨⟨by decide, by decide⟩, rfl, rfl, by decide, ⟨_, rfl, by decide⟩,
    List.isEmpty_iff.mp (by decide), by decide⟩

end Keeper
end LeaseKeeper

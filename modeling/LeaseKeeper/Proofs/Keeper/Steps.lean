import LeaseKeeper.Proofs.Keeper.Acts

/-!
Every step of a keeper begins in one of a few ways and goes on as a sequence of acts, until nothing
is in hand. One lemma for each operation, in the order of the operations' definitions.
-/
namespace LeaseKeeper

def Reply.isFailure : Reply → Bool
  | .fetched (.error _) | .renewed (.error _) => true
  | _ => false

namespace Keeper

open Lineage

namespace Acts

variable {k k' : Keeper} {hand : Hand} {state : Keeper × Hand}

theorem of_aside (aside : Aside k k') : Acts (k, hand) (k', hand) :=
  .single (.aside k k' hand aside)

theorem before_aside (acts : Acts state (k, hand)) (aside : Aside k k') :
    Acts state (k', hand) := acts.tail (.aside k k' hand aside)

theorem after_aside (aside : Aside k k') (acts : Acts (k', hand) state) :
    Acts (k, hand) state := .head (.aside k k' hand aside) acts

theorem done (acts : Acts state (k, .busy)) : Acts state (k, .free) := acts.tail (.done k)

theorem reach {α : Type} {outcome : Keeper × α} {a : α} (acts : Acts state (outcome.1, hand))
    (result : outcome = (k, a)) : Acts state (k, hand) := by
  rw [result] at acts
  exact acts

end Acts

variable (k : Keeper) (secret : Secret) (purpose : Purpose) (ticket : Nat)

/-! ### Operations -/

theorem calls_acts (own : purpose.isFetch = true) (secrets : List Secret) :
    Acts (k, .owing purpose secrets)
      (secrets.foldl (fun k secret => k.call secret purpose .fetch) k, .busy) := by
  induction secrets generalizing k with
  | nil => exact .single (.paid k purpose)
  | cons secret rest ih => exact .head (.owed k secret purpose rest own) (ih _)

theorem promises_acts (secrets : List Secret) : Acts (k, .owing (.start ticket) secrets)
    (secrets.foldl (fun k secret => k.promise secret ticket) k, .busy) := by
  induction secrets generalizing k with
  | nil => exact .single (.paid k _)
  | cons secret rest ih => exact .head (.promised k secret ticket rest) (ih _)

theorem revokes_acts (leases : List (Secret × Lease)) : Acts (k, .spilled ticket leases)
    ((leases.filter (·.2.isRevocable)).foldl (fun k (secret, lease) =>
      k.revoke secret (.destroy ticket) lease (.ok lease)) k, .busy) := by
  induction leases generalizing k with
  | nil => exact .single (.drained k ticket)
  | cons first rest ih =>
    obtain ⟨secret, lease⟩ := first
    cases revocable : lease.isRevocable with
    | true =>
      rw [List.filter_cons_of_pos (by simpa using revocable)]
      exact .head (.poured k ticket secret lease rest revocable) (ih _)
    | false =>
      rw [List.filter_cons_of_neg (by simpa using revocable)]
      exact .head (.spared k ticket secret lease rest revocable) (ih _)

theorem add_acts : Acts (k, .busy) ((k.add ticket secret).1, .busy) := by
  unfold add
  dsimp only
  cases registered : (k.room secret).registered with
  | true => exact .refl
  | false =>
    rw [if_neg (by simp)]
    split
    · rename_i started
      exact .head (.enrolled k secret ticket started registered)
        (calls_acts _ (.register ticket) rfl [secret])
    · rename_i waiting
      have idle : k.started = false := by simpa [setRoom] using waiting
      exact .single (.opened k secret idle registered)

theorem remove_acts : Acts (k, .busy) ((k.remove ticket secret).1, .busy) := by
  cases registered : (k.room secret).registered with
  | false =>
    simp only [remove, registered]
    exact .refl
  | true =>
    rw [remove_eq k secret ticket registered]
    cases current : k.current secret with
    | none => exact .single (.forgotten k secret registered current)
    | some lease =>
      apply Relation.ReflTransGen.head (.released k secret ticket lease registered current)
      dsimp only
      cases revocable : lease.isRevocable with
      | true => exact .single (.revoked _ secret _ lease _ revocable)
      | false =>
        exact .head (.dropped _ secret (.remove ticket) lease (.ok lease) revocable)
          (.single (.ended _ secret _ _ ticket rfl (by simp)))

theorem start_acts : Acts (k, .busy) ((k.start ticket).1, .busy) := by
  unfold start
  cases started : k.started with
  | true => exact .refl
  | false => exact .head (.begun k ticket started) (promises_acts _ ticket _)

theorem rotate_acts : Acts (k, .busy) ((k.rotate ticket secret).1, .busy) := by
  unfold rotate
  cases registered : (k.room secret).registered with
  | false => exact .refl
  | true =>
    cases started : k.started with
    | false => exact .refl
    | true => exact .single (.asked k secret ticket started registered)

theorem destroy_acts :
    Acts (k.emptied, .spilled ticket k.takings) ((k.destroy ticket).1, .busy) := by
  rw [destroy_eq]
  exact .after_aside (setGauge_aside _ 0) (revokes_acts _ ticket k.takings)

/-! ### Binds -/

theorem bindFetched_acts (b : Binding) : Acts (k, .busy) (k.bindFetched ticket b, .busy) := by
  have released := release_aside k ticket
  unfold bindFetched
  generalize k.release ticket = outcome at released
  obtain ⟨k₁, _ | fault⟩ := outcome
  · exact .of_aside (released.trans (finishBind_aside k₁ ticket))
  · apply Acts.after_aside released
    dsimp only
    split
    · split
      · split
        · rename_i k₂ result
          exact ((remove_acts k₁ b.secret ticket).reach result).before_aside
            (setStage_aside k₂ ticket _)
        · rename_i k₂ flag result
          exact ((remove_acts k₁ b.secret ticket).reach result).before_aside
            (failBind_aside k₂ ticket fault)
      · exact .of_aside (failBind_aside k₁ ticket fault)
    · exact .of_aside (finishBind_aside k₁ ticket)

theorem bindAdded_acts (b : Binding) : Acts (k, .busy) (k.bindAdded ticket b, .busy) := by
  unfold bindAdded
  dsimp only
  split
  · split
    · rename_i k₁ result
      exact ((start_acts k ticket).reach result).trans (bindFetched_acts k₁ ticket b)
    · rename_i k₁ result
      exact ((start_acts k ticket).reach result).before_aside (setStage_aside k₁ ticket _)
  · split
    · split
      · exact .after_aside (tellSource_aside k ticket _) (bindFetched_acts _ ticket b)
      · split
        · rename_i k₁ fault result
          exact ((rotate_acts k b.secret ticket).reach result).trans
            (bindFetched_acts k₁ ticket b)
        · rename_i k₁ result
          exact ((rotate_acts k b.secret ticket).reach result).before_aside
            (setStage_aside k₁ ticket _)
    · exact bindFetched_acts k ticket b

theorem bind_acts (failFast : Bool) (start : String) :
    Acts (k, .busy) (k.bind ticket secret failFast start, .busy) := by
  unfold bind
  dsimp only
  split
  · rename_i k₁ result
    refine .after_aside ?_
      (((add_acts _ secret ticket).reach result).before_aside (setStage_aside k₁ ticket _))
    exact .of_journal rfl rfl rfl rfl rfl rfl
  · rename_i k₁ flag result
    refine .after_aside ?_
      (((add_acts _ secret ticket).reach result).trans (bindAdded_acts k₁ ticket _))
    exact .of_journal rfl rfl rfl rfl rfl rfl

theorem complete_acts (answer : KeeperAnswer) :
    Acts (k, .busy) (k.complete ticket answer, .free) := by
  apply Acts.done
  unfold complete
  split
  · exact .of_aside (note_aside k rfl)
  · split
    · exact bindAdded_acts k ticket _
    · exact bindFetched_acts k ticket _
    · exact .of_aside (failBind_aside k ticket _)

theorem crash_acts : Acts (k, .dying ticket) (k.crash ticket, .free) := by
  apply Acts.done
  apply Relation.ReflTransGen.head (.crashed k ticket)
  unfold crash
  dsimp only
  split
  · exact Acts.of_aside (note_aside _ rfl)
  · have released := release_aside (k.mapRooms (·.dropTicket ticket)) ticket
    have dropped := released.trans (dropSource_aside _ ticket)
    exact Acts.of_aside (dropped.trans (endBind_aside _ ticket _))

/-! ### How activities end -/

section
variable (result : Except Fault Lease)

theorem endTimer_acts (number generation : Nat) :
    Acts (k, .ending secret (.timer number generation) result)
      (k.endTimer secret number generation result, .free) := by
  unfold endTimer
  dsimp only
  cases found : (k.room secret).lines[number]? with
  | none => exact .single (.lost k secret number generation result found)
  | some line =>
    have ending := conclude_ending line.lineage k.policy.strategy k.policy.floor
      k.policy.threshold k.now generation Lease.renewable result
    dsimp only
    generalize line.lineage.conclude k.policy.strategy k.policy.floor k.policy.threshold k.now
      generation Lease.renewable result = outcome at ending
    obtain ⟨after, next⟩ := outcome
    cases next with
    | wait fresh delay =>
      exact .single
        (.resumed k secret number generation fresh delay line result after found ending)
    | stop =>
      exact .single (.concluded k secret number generation line result after .stop found ending
        (by simp))
    | crash =>
      exact .single (.concluded k secret number generation line result after .crash found ending
        (by simp))

theorem ended_acts {ticket : Nat} (own : purpose.ticket? = some ticket)
    (undecided : ∀ lease, result = .ok lease → purpose ≠ .renew ticket) (answer : KeeperAnswer) :
    Acts (k, .ending secret purpose result) (k.complete ticket answer, .free) :=
  .head (.ended k secret purpose result ticket own undecided) (complete_acts k ticket answer)

theorem endRenew_acts :
    Acts (k, .ending secret (.renew ticket) result) (k.endRenew ticket secret result, .free) := by
  unfold endRenew
  cases result with
  | error fault => exact ended_acts k secret _ _ rfl (by simp) _
  | ok lease =>
    have scheduled := schedule_scheduled k secret lease
    dsimp only
    generalize k.schedule secret lease = outcome at scheduled
    obtain ⟨k₁, kind⟩ := outcome
    cases kind with
    | kept =>
      exact .head (.decided k k₁ secret ticket lease .kept scheduled (by simp))
        (complete_acts k₁ ticket _)
    | refused =>
      exact .head (.decided k k₁ secret ticket lease .refused scheduled (by simp))
        (complete_acts k₁ ticket _)
    | overflow => exact .head (.overran k k₁ secret ticket lease scheduled) (crash_acts k₁ ticket)

theorem endShared_acts {ticket : Nat} (own : purpose.ticket? = some ticket)
    (undecided : ∀ lease, result = .ok lease → purpose ≠ .renew ticket) :
    Acts (k, .ending secret purpose result) (k.endShared ticket, .free) := by
  unfold endShared
  split
  · exact (Relation.ReflTransGen.single (.ended k secret purpose result ticket own undecided)).tail
      (.done k)
  · exact ended_acts k secret purpose result own undecided _

theorem endRenewal_acts :
    Acts (k, .ending secret purpose result) (k.endRenewal secret purpose result, .free) := by
  have shelved {ticket : Nat} (own : purpose.ticket? = some ticket)
      (undecided : purpose ≠ .renew ticket) : Acts (k, .ending secret purpose result) (k, .free) :=
    Acts.done (.single (.ended k secret purpose result ticket own fun _ _ => undecided))
  unfold endRenewal
  cases purpose with
  | renew ticket => exact endRenew_acts k secret ticket result
  | timer number generation => exact endTimer_acts k secret result number generation
  | register ticket => exact shelved rfl (by simp)
  | start ticket => exact shelved rfl (by simp)
  | rotate ticket => exact shelved rfl (by simp)
  | remove ticket => exact shelved rfl (by simp)
  | destroy ticket => exact shelved rfl (by simp)

theorem endFetch_acts :
    Acts (k, .ending secret purpose result) (k.endFetch secret purpose result, .free) := by
  have counted := count_aside k (.rotation (isOk result))
  unfold endFetch
  cases purpose with
  | register ticket => exact ended_acts k secret _ result rfl (by simp) _
  | start ticket => exact endShared_acts k secret _ result rfl (by simp)
  | rotate ticket => exact .after_aside counted (ended_acts _ secret _ result rfl (by simp) _)
  | renew ticket => exact .after_aside counted (endRenew_acts _ secret ticket result)
  | timer number generation =>
    exact .after_aside counted (endTimer_acts _ secret result number generation)
  | remove ticket => exact ended_acts k secret _ result rfl (by simp) _
  | destroy ticket => exact endShared_acts k secret _ result rfl (by simp)

theorem abandon_acts (lease : Lease) : Acts (k, .loose secret purpose lease result)
    (k.abandon secret purpose lease result, .free) := by
  unfold abandon
  cases revocable : lease.isRevocable with
  | true => exact Acts.done (.single (.revoked k secret purpose lease result revocable))
  | false =>
    exact .head (.dropped k secret purpose lease result revocable)
      (endFetch_acts k secret purpose result)

end

/-! ### Store answers -/

theorem fetched_error_acts (fault : Fault) : ∃ heard,
    Acts (k, .ending secret purpose (.error heard))
      (k.fetched secret purpose (.error fault), .free) := by
  have told : Aside k (if fault.isNotFound then k.emit (.notFound secret) else k) := by
    split
    · exact emit_aside k rfl
    · exact .refl k
  simp only [fetched]
  generalize (if fault.isNotFound then k.emit (.notFound secret) else k) = k₁ at told
  have reported := told.trans (report_aside k₁ secret Lease.none fault)
  exact ⟨_, .after_aside reported (endFetch_acts _ secret purpose _)⟩

def published (response : Response) : Keeper :=
  (k.setRoom secret { k.room secret with data := some response.flattened }).emit
    (.created secret response.lease response.flattened)

theorem published_acts (response : Response) (started : k.started = true) :
    Acts (k.published secret response, .published secret purpose response.lease)
      (k.fetched secret purpose (.ok response), .free) := by
  simp only [fetched, started]
  rw [if_neg (by simp)]
  unfold published
  generalize Keeper.emit _ _ = k₁
  have scheduled := schedule_scheduled k₁ secret response.lease
  generalize k₁.schedule secret response.lease = outcome at scheduled
  obtain ⟨k₂, kind⟩ := outcome
  cases kind with
  | kept =>
    exact .head (.kept k₁ k₂ secret purpose _ scheduled) (endFetch_acts k₂ secret purpose _)
  | refused =>
    cases scheduled with
    | refused closed =>
      exact .head (.refused k₁ secret purpose _ closed) (abandon_acts k₁ secret purpose _ _)
  | overflow =>
    apply Relation.ReflTransGen.head (.outlasted k₁ k₂ secret purpose _ scheduled)
    cases own : purpose.ticket? with
    | none => exact .refl
    | some ticket => exact crash_acts k₂ ticket

theorem fetched_ok_acts (response : Response) : Acts (k, .fetched secret purpose response)
    (k.fetched secret purpose (.ok response), .free) := by
  cases started : k.started with
  | false =>
    simp only [fetched, started]
    exact .head (.late k secret purpose response started)
      (abandon_acts k secret purpose _ response.lease)
  | true =>
    exact .head (.published k secret purpose response started)
      (published_acts k secret purpose response started)

theorem renewed_error_acts (lease : Lease) (fault : Fault) : ∃ heard,
    Acts (k, .ending secret purpose (.error heard))
      (k.renewed secret purpose lease (.error fault), .free) := by
  have reported := (count_aside k (.renewal secret.mode false)).trans
    (report_aside _ secret lease fault)
  exact ⟨_, .after_aside reported (endRenewal_acts _ secret purpose _)⟩

theorem renewed_told (lease next : Lease) : ∃ k₁, Telling k k₁ ∧
    k.renewed secret purpose lease (.ok next) =
      if !next.hasId || k₁.policy.threshold ≤ next.span then
        k₁.endRenewal secret purpose (.ok next)
      else if secret.isRotating then k₁.call secret purpose .fetch
      else ((k₁.setRoom secret { k₁.room secret with data := none }).emit
        (.expired secret next)).endRenewal secret purpose (.ok Lease.none) := by
  have counted := count_telling k (.renewal secret.mode true)
  simp only [renewed]
  cases next.hasId with
  | true => exact ⟨_, counted.trans (emit_telling _ rfl), rfl⟩
  | false => exact ⟨_, counted, rfl⟩

theorem not_fallsShort_iff (next : Lease) :
    ¬ k.fallsShort next ↔ (!next.hasId || k.policy.threshold ≤ next.span) = true := by
  cases id : next.hasId <;> simp [fallsShort, id]

theorem renewed_ok_acts (lease next : Lease) : Acts (k, .renewed secret purpose lease next)
    (k.renewed secret purpose lease (.ok next), .free) := by
  obtain ⟨k₁, told, result⟩ := renewed_told k secret purpose lease next
  rw [result]
  apply Acts.after_aside told.toAside
  by_cases short : k₁.fallsShort next
  · rw [if_neg (mt (not_fallsShort_iff k₁ next).mpr (not_not_intro short))]
    cases rotating : secret.isRotating with
    | true => exact .single (.refetched k₁ secret purpose lease next short rotating)
    | false =>
      apply Relation.ReflTransGen.head (.expired k₁ secret purpose lease next short rotating)
      exact Acts.after_aside (emit_aside _ rfl) (endRenewal_acts _ secret purpose _)
  · rw [if_pos ((not_fallsShort_iff k₁ next).mp short)]
    exact .head (.extended k₁ secret purpose lease next short) (endRenewal_acts k₁ secret purpose _)

theorem revoked_told (lease : Lease) (result : Except Fault Lease) (reply : Except Fault Unit) :
    ∃ k₁, Telling k k₁ ∧
      k.revoked secret purpose lease result reply = k₁.endFetch secret purpose result := by
  cases reply with
  | ok _ => exact ⟨_, (count_telling k _).trans (emit_telling _ rfl), rfl⟩
  | error fault => exact ⟨_, (count_telling k _).trans (report_telling _ secret lease fault), rfl⟩

theorem revoked_acts (lease : Lease) (result : Except Fault Lease) (reply : Except Fault Unit) :
    Acts (k, .ending secret purpose result)
      (k.revoked secret purpose lease result reply, .free) := by
  obtain ⟨k₁, told, ended⟩ := revoked_told k secret purpose lease result reply
  rw [ended]
  exact .after_aside told.toAside (endFetch_acts k₁ secret purpose result)

/-! ### Whole steps -/

def landed : Keeper := k.setRoom secret ((k.room secret).dropFlight purpose)

theorem landed_room : (k.landed secret purpose).room secret = (k.room secret).dropFlight purpose :=
  room_setRoom_self k secret _

/-- How a step begins: what the event alone does, and what it leaves in hand. -/
inductive Begins : KeeperEvent → Keeper → Hand → Prop where
  | refused (event : KeeperEvent) : Begins event k .free
  | told (event : KeeperEvent) (k' : Keeper) (aside : Aside k k') : Begins event k' .free
  | operated (ticket : Nat) (operation : Operation) : Begins (.request ticket operation) k .busy
  | inquired (ticket : Nat) (secret : Secret) (lease : Lease)
      (current : k.current secret = some lease) (id : lease.hasId = true) :
      Begins (.request ticket (.renew secret)) (k.renewOrFetch secret (.renew ticket) lease) .free
  | asked (secret : Secret) (ticket : Nat)
      (waiting : (k.room secret).unasked.contains ticket = true) :
      Begins (.ask secret ticket) (k.asked secret ticket) .free
  | emptied (ticket : Nat) :
      Begins (.request ticket .destroy) k.emptied (.spilled ticket k.takings)
  | failed (secret : Secret) (purpose : Purpose) (errand : Errand) (reply : Reply) (fault : Fault)
      (failure : reply.isFailure = true)
      (flown : (k.room secret).flight? purpose = some ⟨purpose, errand⟩)
      (kind : ∀ lease result, errand ≠ .revoke lease result) :
      Begins (.answer secret purpose reply) (k.landed secret purpose)
        (.ending secret purpose (.error fault))
  | fetched (secret : Secret) (purpose : Purpose) (response : Response)
      (flown : (k.room secret).flight? purpose = some ⟨purpose, .fetch⟩) :
      Begins (.answer secret purpose (.fetched (.ok response))) (k.landed secret purpose)
        (.fetched secret purpose response)
  | renewed (secret : Secret) (purpose : Purpose) (lease next : Lease)
      (flown : (k.room secret).flight? purpose = some ⟨purpose, .renew lease⟩) :
      Begins (.answer secret purpose (.renewed (.ok next))) (k.landed secret purpose)
        (.renewed secret purpose lease next)
  | revoked (secret : Secret) (purpose : Purpose) (lease : Lease) (result : Except Fault Lease)
      (reply : Except Fault Unit)
      (flown : (k.room secret).flight? purpose = some ⟨purpose, .revoke lease result⟩) :
      Begins (.answer secret purpose (.revoked reply)) (k.landed secret purpose)
        (.ending secret purpose result)
  | claimed (secret : Secret) (number generation due : Nat) (line : Line) (held : Held)
      (found : (k.room secret).lines[number]? = some line)
      (waiting : line.waits.lookup generation = some due) (ripe : due ≤ k.now)
      (before : line.lineage.slot = some held) (own : held.generation = generation)
      (scheduled : held.phase = .scheduled) :
      Begins (.fire secret number generation)
        (k.fired secret number line
          { line.lineage.unregister generation with slot := some { held with phase := .renewing } }
          generation)
        (.claimed secret number generation held.lease)
  | missed (secret : Secret) (number generation due : Nat) (line : Line)
      (found : (k.room secret).lines[number]? = some line)
      (waiting : line.waits.lookup generation = some due) (ripe : due ≤ k.now)
      (moved : ∀ held, line.lineage.slot = some held → held.generation = generation →
        held.phase ≠ .scheduled) :
      Begins (.fire secret number generation)
        (k.fired secret number line (line.lineage.unregister generation) generation) .free
  | noticed (secret : Secret) (number generation : Nat) (line : Line)
      (found : (k.room secret).lines[number]? = some line)
      (cancelled : line.lineage.isCancelled generation = true) :
      Begins (.stop secret number generation)
        (k.fired secret number line line.lineage generation) .free
  | passed (span : Nat) : Begins (.pass span) { k with now := k.now + span } .free
  | disowned : Begins .disown { k with owned := false } .free

variable {k secret purpose}

theorem step_fetched (flown : (k.room secret).flight? purpose = some ⟨purpose, .fetch⟩)
    (result : Except Fault Response) : k.step (.answer secret purpose (.fetched result)) =
      (k.landed secret purpose).fetched secret purpose result := by
  simp only [step, answer, flown]
  rfl

theorem answer_acts (reply : Reply) : ∃ k₀ hand,
    Begins k (.answer secret purpose reply) k₀ hand ∧
      Acts (k₀, hand) (k.answer secret purpose reply, .free) := by
  have ignored : ∃ k₀ hand, Begins k (.answer secret purpose reply) k₀ hand ∧
      Acts (k₀, hand) (k, .free) := ⟨k, .free, .refused _, .refl⟩
  unfold answer
  dsimp only
  cases flown : (k.room secret).flight? purpose with
  | none => exact ignored
  | some flight =>
    obtain rfl := Room.flight?_purpose flown
    obtain ⟨purpose, errand⟩ := flight
    cases errand with
    | fetch =>
      cases reply with
      | fetched result =>
        cases result with
        | error fault =>
          obtain ⟨heard, acts⟩ := fetched_error_acts (k.landed secret purpose) secret purpose fault
          exact ⟨_, _, .failed secret purpose .fetch _ heard rfl flown (by simp), acts⟩
        | ok response =>
          exact ⟨_, _, .fetched secret purpose response flown, fetched_ok_acts _ secret purpose _⟩
      | renewed => exact ignored
      | revoked => exact ignored
    | renew lease =>
      cases reply with
      | renewed result =>
        cases result with
        | error fault =>
          obtain ⟨heard, acts⟩ :=
            renewed_error_acts (k.landed secret purpose) secret purpose lease fault
          exact ⟨_, _, .failed secret purpose (.renew lease) _ heard rfl flown (by simp), acts⟩
        | ok next =>
          exact ⟨_, _, .renewed secret purpose lease next flown,
            renewed_ok_acts _ secret purpose lease next⟩
      | fetched => exact ignored
      | revoked => exact ignored
    | revoke lease result =>
      cases reply with
      | revoked reply =>
        exact ⟨_, _, .revoked secret purpose lease result reply flown,
          revoked_acts _ secret purpose lease result reply⟩
      | fetched => exact ignored
      | renewed => exact ignored

theorem fire_acts (number generation : Nat) : ∃ k₀ hand,
    Begins k (.fire secret number generation) k₀ hand ∧
      Acts (k₀, hand) (k.fire secret number generation, .free) := by
  have ignored : ∃ k₀ hand, Begins k (.fire secret number generation) k₀ hand ∧
      Acts (k₀, hand) (k, .free) := ⟨k, .free, .refused _, .refl⟩
  unfold fire
  dsimp only
  cases found : (k.room secret).lines[number]? with
  | none => exact ignored
  | some line =>
    dsimp only
    cases waiting : line.waits.lookup generation with
    | none => exact ignored
    | some due =>
      dsimp only
      by_cases ripe : due ≤ k.now
      · rw [if_pos ripe]
        rcases fire_cases line.lineage generation with
          ⟨held, before, own, scheduled, result⟩ | ⟨moved, result⟩
        · refine ⟨_, _, .claimed secret number generation due line held found waiting ripe before
            own scheduled, ?_⟩
          simp only [result]
          split
          · exact .single (.pursued _ secret number generation held.lease)
          · rename_i unheld
            have unowned : k.owned = false := by
              simp only [isHeld, Bool.or_eq_true, not_or, Bool.not_eq_true] at unheld
              exact unheld.1.1
            exact .head (.surrendered _ secret number generation held.lease unowned)
              (endTimer_acts _ secret _ number generation)
        · simp only [result]
          exact ⟨_, _, .missed secret number generation due line found waiting ripe moved, .refl⟩
      · rw [if_neg ripe]
        exact ignored

theorem stop_acts (number generation : Nat) : ∃ k₀ hand,
    Begins k (.stop secret number generation) k₀ hand ∧
      Acts (k₀, hand) (k.stop secret number generation, .free) := by
  have ignored : ∃ k₀ hand, Begins k (.stop secret number generation) k₀ hand ∧
      Acts (k₀, hand) (k, .free) := ⟨k, .free, .refused _, .refl⟩
  unfold stop
  dsimp only
  cases found : (k.room secret).lines[number]? with
  | none => exact ignored
  | some line =>
    dsimp only
    cases cancelled : line.lineage.isCancelled generation with
    | true => exact ⟨_, _, .noticed secret number generation line found cancelled, .refl⟩
    | false => exact ignored

theorem renew_acts (ticket : Nat) : ∃ k₀ hand,
    Begins k (.request ticket (.renew secret)) k₀ hand ∧
      Acts (k₀, hand) (k.request ticket (.renew secret), .free) := by
  have declined (fault : Fault) : ∃ k₀ hand,
      Begins k (.request ticket (.renew secret)) k₀ hand ∧
        Acts (k₀, hand) (k.complete ticket (.lease (.error fault)), .free) :=
    ⟨k, .busy, .operated ticket _, complete_acts k ticket _⟩
  simp only [request, renew]
  cases registered : (k.room secret).registered with
  | false => exact declined _
  | true =>
    cases current : k.current secret with
    | none => exact declined _
    | some lease =>
      cases id : lease.hasId with
      | false => simpa [id] using declined _
      | true => simpa [id] using ⟨_, _, Begins.inquired ticket secret lease current id, .refl⟩

theorem request_acts (ticket : Nat) (operation : Operation) : ∃ k₀ hand,
    Begins k (.request ticket operation) k₀ hand ∧
      Acts (k₀, hand) (k.request ticket operation, .free) := by
  have operated {k' : Keeper} (acts : Acts (k, .busy) (k', .free)) :
      ∃ k₀ hand, Begins k (.request ticket operation) k₀ hand ∧ Acts (k₀, hand) (k', .free) :=
    ⟨k, .busy, .operated ticket operation, acts⟩
  cases operation with
  | add secret =>
    simp only [request]
    split
    · rename_i k₁ flag result
      exact operated (((add_acts k secret ticket).reach result).trans (complete_acts k₁ ticket _))
    · rename_i k₁ result
      exact operated (Acts.done ((add_acts k secret ticket).reach result))
  | remove secret =>
    simp only [request]
    split
    · rename_i k₁ flag result
      exact operated
        (((remove_acts k secret ticket).reach result).trans (complete_acts k₁ ticket _))
    · rename_i k₁ result
      exact operated (Acts.done ((remove_acts k secret ticket).reach result))
  | start =>
    simp only [request]
    split
    · rename_i k₁ result
      exact operated (((start_acts k ticket).reach result).trans (complete_acts k₁ ticket _))
    · rename_i k₁ result
      exact operated (Acts.done ((start_acts k ticket).reach result))
  | destroy =>
    simp only [request]
    split
    · rename_i k₁ result
      exact ⟨_, _, .emptied ticket,
        ((destroy_acts k ticket).reach result).trans (complete_acts k₁ ticket _)⟩
    · rename_i k₁ result
      exact ⟨_, _, .emptied ticket, Acts.done ((destroy_acts k ticket).reach result)⟩
  | renew secret => exact renew_acts ticket
  | rotate secret =>
    simp only [request]
    split
    · rename_i k₁ fault result
      exact operated
        (((rotate_acts k secret ticket).reach result).trans (complete_acts k₁ ticket _))
    · rename_i k₁ result
      exact operated (Acts.done ((rotate_acts k secret ticket).reach result))
  | bind secret failFast start =>
    exact operated (Acts.done (bind_acts k secret ticket failFast start))

/-- A step is the beginning that its event makes, and acts until nothing is in hand. -/
theorem step_acts (k : Keeper) (event : KeeperEvent) : ∃ k₀ hand,
    Begins k event k₀ hand ∧ Acts (k₀, hand) (k.step event, .free) := by
  cases event with
  | request ticket operation => exact request_acts ticket operation
  | ask secret ticket =>
    simp only [step, ask]
    split
    · exact ⟨_, _, .asked secret ticket ‹_›, .refl⟩
    · exact ⟨k, .free, .refused _, .refl⟩
  | answer secret purpose reply => exact answer_acts reply
  | fire secret number generation => exact fire_acts number generation
  | stop secret number generation => exact stop_acts number generation
  | pass span => exact ⟨_, _, .passed span, .refl⟩
  | closeSource id => exact ⟨_, _, .told _ _ (closeSource_aside k id), .refl⟩
  | dropSource id => exact ⟨_, _, .told _ _ (dropSource_aside k id), .refl⟩
  | disown => exact ⟨_, _, .disowned, .refl⟩

theorem Begins.moves (live : Prop) {event : KeeperEvent} {k₀ : Keeper} {hand : Hand}
    (begins : Begins k event k₀ hand) (running : k.started = true → live) :
    Moves live k k₀ ∧ (hand.installs → k₀.started = true → live) := by
  cases begins with
  | refused => exact ⟨.none k, False.elim⟩
  | told event k' aside => exact ⟨.of_aside aside, False.elim⟩
  | operated => exact ⟨.none k, False.elim⟩
  | inquired ticket secret lease => exact ⟨renewOrFetch_moves k secret _ lease, False.elim⟩
  | asked secret ticket => exact ⟨.one (.asked secret ticket), False.elim⟩
  | emptied => exact ⟨.one (emptied_move k), False.elim⟩
  | failed secret purpose errand reply fault failure flown =>
    exact ⟨.one (.landed secret purpose (Room.awaitsTurn_of_flight? flown)), fun _ => running⟩
  | fetched secret purpose response flown =>
    exact ⟨.one (.landed secret purpose (Room.awaitsTurn_of_flight? flown)), fun _ => running⟩
  | renewed secret purpose lease next flown =>
    exact ⟨.one (.landed secret purpose (Room.awaitsTurn_of_flight? flown)), fun _ => running⟩
  | revoked secret purpose lease result reply flown =>
    exact ⟨.one (.landed secret purpose (Room.awaitsTurn_of_flight? flown)), fun _ => running⟩
  | claimed secret number generation due line held found waiting ripe before own scheduled =>
    exact ⟨.one (.claimed secret number generation due line held found waiting ripe before own
      scheduled), False.elim⟩
  | missed secret number generation due line found waiting ripe moved =>
    exact ⟨.one (.missed secret number generation due line found waiting ripe moved), False.elim⟩
  | noticed secret number generation line found cancelled =>
    exact ⟨.one (.noticed secret number generation line found cancelled), False.elim⟩
  | passed span => exact ⟨.one (.passed span), False.elim⟩
  | disowned => exact ⟨.one .disowned, False.elim⟩

theorem step_moves (k : Keeper) (event : KeeperEvent) :
    Moves (k.started = true) k (k.step event) := by
  obtain ⟨k₀, hand, begins, acts⟩ := step_acts k event
  have first := begins.moves (k.started = true) id
  exact first.1.trans (acts.moves _ first.2)

theorem run_keep {P : Keeper → Prop} (each : ∀ k event, P k → P (k.step event)) (holds : P k)
    (events : List KeeperEvent) : P (k.run events) := by
  induction events generalizing k with
  | nil => exact holds
  | cons event rest ih => exact ih (each k event holds)

theorem run_append (k : Keeper) (before after : List KeeperEvent) :
    k.run (before ++ after) = (k.run before).run after := List.foldl_append

def Along (P : Keeper → KeeperEvent → Prop) (k : Keeper) : List KeeperEvent → Prop
  | [] => True
  | event :: rest => P k event ∧ Along P (k.step event) rest

theorem along_append {P : Keeper → KeeperEvent → Prop} (k : Keeper)
    (before after : List KeeperEvent) :
    k.Along P (before ++ after) ↔ k.Along P before ∧ (k.run before).Along P after := by
  induction before generalizing k with
  | nil => simp [Along, run]
  | cons event rest ih =>
    simp only [List.cons_append, Along, ih, and_assoc]
    exact Iff.rfl

end Keeper
end LeaseKeeper

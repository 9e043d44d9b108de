import LeaseKeeper.Proofs.Keeper.Binds

/-!
A secret that is not registered has no data, until a fetch is answered that was under way when the
secret was removed: its answer is published if the keeper runs, and only then does the lease find no
line to go to. Nothing takes such data away before the secret is registered again.
-/
namespace LeaseKeeper

def Room.Forgets (r : Room) : Prop := r.registered = false → r.data = none

namespace Keeper

variable {k k' : Keeper} {state state' : Keeper × Hand} {secret : Secret}

def Forgets (k : Keeper) : Prop := ∀ secret, (k.room secret).Forgets

/-- A fetch is answered in a running keeper that does not know the secret any more. -/
inductive Strays (k : Keeper) : KeeperEvent → Prop where
  | fetch (secret : Secret) (purpose : Purpose) (response : Response) (started : k.started = true)
      (absent : (k.room secret).registered = false)
      (flown : (k.room secret).flight? purpose = some ⟨purpose, .fetch⟩) :
      Strays k (.answer secret purpose (.fetched (.ok response)))

def Hand.Known (k : Keeper) : Hand → Prop
  | .fetched secret _ _ => k.started = true → (k.room secret).registered = true
  | _ => True

structure Forgetful (state : Keeper × Hand) : Prop where
  forgets : state.1.Forgets
  known : state.2.Known state.1

namespace Forgets

theorem of_rooms (forgets : k.Forgets) (rooms : k'.rooms = k.rooms) : k'.Forgets :=
  fun secret => room_of_rooms rooms secret ▸ forgets secret

theorem setRoom (forgets : k.Forgets) {room : Room} (here : room.Forgets) :
    (k.setRoom secret room).Forgets :=
  forall_setRoom (P := fun _ room => room.Forgets) here forgets

theorem call (forgets : k.Forgets) (secret : Secret) (purpose : Purpose) (errand : Errand) :
    (k.call secret purpose errand).Forgets := by
  have boarded : (k.setRoom secret ((k.room secret).board purpose errand)).Forgets :=
    forgets.setRoom (forgets secret)
  exact boarded.of_rooms rfl

theorem revoke (forgets : k.Forgets) (secret : Secret) (purpose : Purpose) (lease : Lease)
    (result : Except Fault Lease) : (k.revoke secret purpose lease result).Forgets :=
  call (forgets.of_rooms (emit_aside k rfl).rooms) secret purpose _

theorem renewOrFetch (forgets : k.Forgets) (secret : Secret) (purpose : Purpose) (lease : Lease) :
    (k.renewOrFetch secret purpose lease).Forgets := by
  unfold Keeper.renewOrFetch
  split
  · exact forgets.call secret purpose _
  · exact forgets.call secret purpose _

theorem arm (forgets : k.Forgets) (secret : Secret) (number : Nat) (line : Line)
    (generation delay : Nat) : (k.arm secret number line generation delay).Forgets := by
  have placed : (k.setRoom secret ((k.room secret).setLine number
      { line with waits := line.waits ++ [(generation, k.now + delay)] })).Forgets :=
    forgets.setRoom (forgets secret)
  exact placed.of_rooms rfl

theorem relined (forgets : k.Forgets) (secret : Secret) (number : Nat) (line : Line)
    (lineage : Lineage) : (k.relined secret number line lineage).Forgets :=
  forgets.setRoom (forgets secret)

theorem without (forgets : k.Forgets) (secret : Secret) : (k.without secret).Forgets :=
  forgets.setRoom fun _ => rfl

theorem scheduled (forgets : k.Forgets) {lease : Lease} {outcome : Keeper × Scheduling}
    (scheduled : Scheduled k secret lease outcome) : outcome.1.Forgets := by
  cases scheduled with
  | refused => exact forgets
  | outlasted => exact forgets.relined secret _ _ _
  | installed => exact (forgets.arm secret _ _ _ _).of_rooms rfl
  | disabled number line => exact (forgets.relined secret number line _).of_rooms rfl

end Forgets

theorem Act.forgetful (act : Act state state') (forgetful : Forgetful state) :
    Forgetful state' := by
  have forgets := forgetful.forgets
  cases act with
  | aside k k' hand aside =>
    refine ⟨forgets.of_rooms aside.rooms, ?_⟩
    have known := forgetful.known
    cases hand with
    | fetched => simpa only [Hand.Known, aside.started, room_of_rooms aside.rooms] using known
    | _ => trivial
  | opened k secret => exact ⟨forgets.setRoom fun absent => (nomatch absent), trivial⟩
  | enrolled k secret => exact ⟨forgets.setRoom fun absent => (nomatch absent), trivial⟩
  | begun => exact ⟨forgets, trivial⟩
  | owed k secret purpose => exact ⟨forgets.call secret purpose _, trivial⟩
  | promised k secret => exact ⟨forgets.setRoom (forgets secret), trivial⟩
  | paid => exact ⟨forgets, trivial⟩
  | asked k secret ticket => exact ⟨forgets.call secret _ _, trivial⟩
  | forgotten k secret => exact ⟨forgets.without secret, trivial⟩
  | released k secret => exact ⟨forgets.without secret, trivial⟩
  | done => exact ⟨forgets, trivial⟩
  | poured k ticket secret lease => exact ⟨forgets.revoke secret _ lease _, trivial⟩
  | spared => exact ⟨forgets, trivial⟩
  | drained => exact ⟨forgets, trivial⟩
  | pursued k secret number generation lease =>
    exact ⟨forgets.renewOrFetch secret _ lease, trivial⟩
  | surrendered => exact ⟨forgets, trivial⟩
  | late => exact ⟨forgets, trivial⟩
  | published k secret purpose response started =>
    have known : (k.room secret).registered = true := forgetful.known started
    have stored : (k.setRoom secret
        { k.room secret with data := some response.flattened }).Forgets := by
      refine forgets.setRoom fun absent => ?_
      rw [known] at absent
      cases absent
    exact ⟨stored.of_rooms (emit_tells _ _).rooms, trivial⟩
  | kept k k' secret purpose lease scheduled => exact ⟨forgets.scheduled scheduled, trivial⟩
  | refused => exact ⟨forgets, trivial⟩
  | outlasted k k' secret purpose lease scheduled =>
    refine ⟨forgets.scheduled scheduled, ?_⟩
    cases purpose <;> trivial
  | revoked k secret purpose lease result =>
    exact ⟨forgets.revoke secret purpose lease result, trivial⟩
  | dropped => exact ⟨forgets, trivial⟩
  | extended => exact ⟨forgets, trivial⟩
  | refetched k secret purpose => exact ⟨forgets.call secret purpose _, trivial⟩
  | expired k secret => exact ⟨forgets.setRoom fun _ => rfl, trivial⟩
  | resumed k secret number generation next delay =>
    exact ⟨forgets.arm secret number _ next delay, trivial⟩
  | concluded k secret number generation line result after =>
    exact ⟨forgets.relined secret number line after, trivial⟩
  | lost => exact ⟨forgets, trivial⟩
  | decided k k' secret ticket lease kind scheduled => exact ⟨forgets.scheduled scheduled, trivial⟩
  | overran k k' secret ticket lease scheduled => exact ⟨forgets.scheduled scheduled, trivial⟩
  | ended => exact ⟨forgets, trivial⟩
  | crashed k ticket =>
    refine ⟨fun secret => ?_, trivial⟩
    rw [room_dropTicket]
    exact forgets secret

variable {event : KeeperEvent}

theorem Begins.forgetful {k₀ : Keeper} {hand : Hand} (begins : Begins k event k₀ hand)
    (kept : ¬ k.Strays event) (forgets : k.Forgets) : Forgetful (k₀, hand) := by
  have landed (secret : Secret) (purpose : Purpose) : (k.landed secret purpose).Forgets :=
    forgets.setRoom (forgets secret)
  have fired (secret : Secret) (number : Nat) (line : Line) (lineage : Lineage)
      (generation : Nat) : (k.fired secret number line lineage generation).Forgets :=
    forgets.setRoom (forgets secret)
  cases begins with
  | refused => exact ⟨forgets, trivial⟩
  | told event k' aside => exact ⟨forgets.of_rooms aside.rooms, trivial⟩
  | operated => exact ⟨forgets, trivial⟩
  | inquired ticket secret lease => exact ⟨forgets.renewOrFetch secret _ lease, trivial⟩
  | asked secret ticket =>
    have turned : (k.setRoom secret ((k.room secret).ask ticket)).Forgets :=
      forgets.setRoom (forgets secret)
    exact ⟨turned.of_rooms rfl, trivial⟩
  | emptied ticket =>
    refine ⟨fun secret absent => ?_, trivial⟩
    rw [room_emptied]
  | failed secret purpose => exact ⟨landed secret purpose, trivial⟩
  | fetched secret purpose response flown =>
    refine ⟨landed secret purpose, fun started => ?_⟩
    rw [landed_room]
    exact Bool.of_not_eq_false fun absent =>
      kept (.fetch secret purpose response started absent flown)
  | renewed secret purpose => exact ⟨landed secret purpose, trivial⟩
  | revoked secret purpose => exact ⟨landed secret purpose, trivial⟩
  | claimed => exact ⟨fired _ _ _ _ _, trivial⟩
  | missed => exact ⟨fired _ _ _ _ _, trivial⟩
  | noticed => exact ⟨fired _ _ _ _ _, trivial⟩
  | passed => exact ⟨forgets, trivial⟩
  | disowned => exact ⟨forgets, trivial⟩

theorem Arrives.shuns {purpose : Purpose} (arrives : Arrives secret purpose k k') :
    Shuns k k' := by
  cases arrives with
  | called k₁ errand spares => exact spares.shuns.trans (Spares.call k₁ secret purpose errand).shuns
  | rested _ spares => exact spares.shuns
  | completed k₁ ticket answer spares =>
    exact spares.shuns.trans (complete_settles k₁ ticket answer).shuns
  | died k₁ ticket spares => exact spares.shuns.trans (crash_settles k₁ ticket).shuns

theorem Strays.remembered (strays : k.Strays event) : ¬ (k.step event).Forgets := by
  cases strays with
  | fetch secret purpose response started absent flown =>
    have running : (k.landed secret purpose).started = true := started
    have arrives : Arrives secret purpose ((k.landed secret purpose).published secret response)
        ((k.landed secret purpose).fetched secret purpose (.ok response)) :=
      fetched_ok_arrives running response
    have room : ((k.landed secret purpose).published secret response).room secret =
        { (k.room secret).dropFlight purpose with data := some response.flattened } := by
      rw [published, emit_room, room_setRoom_self, landed_room]
    obtain ⟨still, data⟩ := arrives.shuns secret (by rw [room]; exact absent)
    intro forgets
    rw [step_fetched flown] at forgets
    have gone := forgets secret still
    rw [data, room] at gone
    cases gone

theorem step_forgets_iff (forgets : k.Forgets) : (k.step event).Forgets ↔ ¬ k.Strays event := by
  refine ⟨fun after strays => strays.remembered after, fun kept => ?_⟩
  obtain ⟨k₀, hand, begins, acts⟩ := step_acts k event
  exact (acts.keep (fun _ _ act => act.forgetful) (begins.forgetful kept forgets)).forgets

theorem run_forgets_iff {events : List KeeperEvent} (forgets : k.Forgets) :
    k.Along (fun k event => (k.step event).Forgets) events ↔
      k.Along (fun k event => ¬ k.Strays event) events := by
  induction events generalizing k with
  | nil => exact Iff.rfl
  | cons event rest ih =>
    constructor
    · rintro ⟨after, whole⟩
      exact ⟨(step_forgets_iff forgets).mp after, (ih after).mp whole⟩
    · rintro ⟨kept, whole⟩
      have after := (step_forgets_iff forgets).mpr kept
      exact ⟨after, (ih after).mpr whole⟩

/-- In every run, no secret that is not registered has data after any step, until a fetch is
answered whose secret was removed while the keeper runs; after such an answer one has. -/
theorem forgets_iff_never_strays (policy : LeasePolicy) (events : List KeeperEvent) :
    (new policy).Along (fun k event => (k.step event).Forgets) events ↔
      (new policy).Along (fun k event => ¬ k.Strays event) events :=
  run_forgets_iff fun _ _ => rfl

/-- A secret is removed during its rotation, and the answer is published although nobody has
registered it. -/
theorem removed_secret_published :
    let secret : Secret := ⟨"database/creds/app", .rotate⟩
    let first : Response := ⟨"", "a", 120, true, none, none, none⟩
    let second : Response := ⟨"", "b", 300, true, none, none, none⟩
    let k := (new .default).run [.request 1 (.add secret), .request 2 .start, .ask secret 2,
      .answer secret (.start 2) (.fetched (.ok first)), .request 3 (.rotate secret),
      .request 4 (.remove secret)]
    let k' := k.step (.answer secret (.rotate 3) (.fetched (.ok second)))
    (k.room secret).registered = false ∧ k.data secret = none ∧
      (k'.room secret).registered = false ∧ (k'.data secret).isSome = true ∧ ¬ k'.Forgets := by
  intro secret first second k k'
  have absent : (k'.room secret).registered = false := by decide
  have present : (k'.data secret).isSome = true := by decide
  refine ⟨by decide, by decide, absent, present, fun forgets => ?_⟩
  rw [show k'.data secret = none from forgets secret absent] at present
  cases present

end Keeper
end LeaseKeeper

import LeaseKeeper.Proofs.Keeper.Attended
import LeaseKeeper.Proofs.Keeper.Chores
import LeaseKeeper.Proofs.Keeper.Levels
import Mathlib.Data.List.Induction

/-!
The gauge of active leases. It is set when a lease is scheduled and when the keeper stops, and at
that moment it tells the number of active secrets. A secret that is removed, or whose renewal comes
to an end, is not counted out: from then on the gauge is too high, until it is set again.
-/
namespace LeaseKeeper

open Lineage

def Purpose.due? : Purpose → Except Fault Lease → Option Lease
  | .renew _, result => result.toOption
  | _, _ => none

def KeeperEvent.ends? : KeeperEvent → Option Secret
  | .request _ (.remove secret) => some secret
  | .answer secret (.timer _ _) _ => some secret
  | .fire secret _ _ => some secret
  | _ => none

namespace Keeper

variable {k k' k₁ : Keeper} {own : Secret} {purpose : Purpose} {ticket : Nat}

/-! ### What sets the gauge -/

structure Takes (k : Keeper) (own : Secret) (lease : Lease) : Prop where
  started : k.started = true
  lined : (k.room own).line?.isSome = true
  fits : ¬ k.Outlasts own lease

instance (k : Keeper) (own : Secret) (lease : Lease) : Decidable (k.Takes own lease) :=
  decidable_of_iff
    (k.started = true ∧ (k.room own).line?.isSome = true ∧ ¬ k.Outlasts own lease)
    ⟨fun ⟨started, lined, fits⟩ => ⟨started, lined, fits⟩,
      fun ⟨started, lined, fits⟩ => ⟨started, lined, fits⟩⟩

theorem Confined.takes (confined : Confined own k k') (lease : Lease) :
    k'.Takes own lease ↔ k.Takes own lease := by
  constructor
  · rintro ⟨started, lined, fits⟩
    exact ⟨confined.started ▸ started, confined.lined ▸ lined, mt confined.outlasts_iff.mpr fits⟩
  · rintro ⟨started, lined, fits⟩
    exact ⟨confined.started ▸ started, confined.lined ▸ lined, mt confined.outlasts_iff.mp fits⟩

theorem not_takes_of_closed (closed : (k.room own).line? = none ∨ k.started = false)
    (lease : Lease) : ¬ k.Takes own lease := by
  rintro ⟨started, lined, _⟩
  rcases closed with absent | stopped
  · simp [absent] at lined
  · simp [stopped] at started

theorem schedule_kept_iff (k : Keeper) (own : Secret) (lease : Lease) :
    (k.schedule own lease).2 = .kept ↔ k.Takes own lease := by
  have scheduled := schedule_scheduled k own lease
  generalize k.schedule own lease = outcome at scheduled
  have lined {number : Nat} {line : Line} (numbered : (k.room own).lineNumber? = some number)
      (found : (k.room own).lines[number]? = some line) : (k.room own).line?.isSome = true := by
    rw [Room.line?_of_number numbered, found]
    rfl
  cases scheduled with
  | refused closed => exact iff_of_false (by simp) (not_takes_of_closed closed lease)
  | outlasted number line started schedulable numbered found overflow =>
    refine iff_of_false (by simp) fun takes => takes.fits ?_
    exact ⟨started, lined numbered found, schedulable, overflow⟩
  | installed number line deadline level started schedulable numbered found fits =>
    refine iff_of_true rfl ⟨started, lined numbered found, fun outlasts => ?_⟩
    exact absurd outlasts.unfit (by simp [fits])
  | disabled number line level started unschedulable numbered found =>
    refine iff_of_true rfl ⟨started, lined numbered found, fun outlasts => ?_⟩
    have schedulable := outlasts.schedulable
    rw [unschedulable] at schedulable
    cases schedulable

theorem schedule_gauge (k : Keeper) (own : Secret) (lease : Lease)
    (kept : (k.schedule own lease).2 = .kept) :
    (k.schedule own lease).1.gauge = (k.schedule own lease).1.activeCount := by
  revert kept
  unfold schedule
  dsimp only
  split
  · split
    · rintro ⟨⟩
    · split
      · split
        · rintro ⟨⟩
        · exact fun _ => Metrics.level_set _ _ _
      · exact fun _ => Metrics.level_set _ _ _
  · rintro ⟨⟩

theorem schedule_level (k : Keeper) (own : Secret) (lease : Lease)
    (unkept : (k.schedule own lease).2 ≠ .kept) :
    Level k (k.schedule own lease).1 := by
  have scheduled := schedule_scheduled k own lease
  generalize k.schedule own lease = outcome at scheduled unkept
  cases scheduled with
  | refused => exact .refl k
  | outlasted number line started schedulable numbered found => exact .setLine found rfl
  | installed => exact absurd rfl unkept
  | disabled => exact absurd rfl unkept

inductive Marks (own : Secret) (purpose : Purpose) (due : Option Lease) (k k' : Keeper) : Prop where
  | set (lease : Lease) (owed : due = some lease) (takes : k.Takes own lease)
      (binds : k'.binds = k.binds) (gauge : k'.gauge = k'.activeCount)
  | level (unset : ∀ lease, due = some lease → ¬ k.Takes own lease) (level : Level k k')
  | lowered (number generation : Nat) (timer : purpose = .timer number generation)
      (unset : ∀ lease, due = some lease → ¬ k.Takes own lease) (lowers : Lowers own k k')

namespace Marks

variable {due : Option Lease}

theorem before (confined : Confined own k k₁) (level : Level k k₁)
    (marks : Marks own purpose due k₁ k') : Marks own purpose due k k' := by
  cases marks with
  | set lease owed takes binds gauge =>
    exact .set lease owed ((confined.takes lease).mp takes) (binds.trans level.binds) gauge
  | level unset later =>
    exact .level (fun lease owed takes => unset lease owed ((confined.takes lease).mpr takes))
      (level.trans later)
  | lowered number generation timer unset lowers =>
    exact .lowered number generation timer
      (fun lease owed takes => unset lease owed ((confined.takes lease).mpr takes))
      (lowers.before level)

theorem of_closed {due' : Option Lease} (closed : ∀ lease, ¬ k.Takes own lease)
    (marks : Marks own purpose due k k') : Marks own purpose due' k k' := by
  cases marks with
  | set lease owed takes => exact absurd takes (closed lease)
  | level unset level => exact .level (fun lease _ => closed lease) level
  | lowered number generation timer unset lowers =>
    exact .lowered number generation timer (fun lease _ => closed lease) lowers

end Marks

/-! ### How activities end -/

section
variable {result : Except Fault Lease}

theorem endRenew_marks (free : k.binds.find? ticket = none) :
    Marks own (.renew ticket) result.toOption k (k.endRenew ticket own result) := by
  unfold endRenew
  cases result with
  | error fault => exact .level nofun (.complete free _)
  | ok lease =>
    have kept_iff := schedule_kept_iff k own lease
    have level := schedule_level k own lease
    have gauge := schedule_gauge k own lease
    have confined := (schedule_scheduled k own lease).confined
    dsimp only
    generalize k.schedule own lease = outcome at kept_iff level gauge confined
    obtain ⟨k₁, kind⟩ := outcome
    have still : k₁.binds.find? ticket = none := confined.binds ▸ free
    have unset (unkept : kind ≠ .kept) :
        ∀ own_lease, (Except.ok lease : Except Fault Lease).toOption = some own_lease →
          ¬ k.Takes own own_lease := by
      rintro _ ⟨⟩ takes
      exact unkept (kept_iff.mpr takes)
    cases kind with
    | kept =>
      have completed := Level.complete still (.lease (.ok lease))
      exact .set lease rfl (kept_iff.mp rfl) (completed.binds.trans confined.binds)
        (completed.truthful (gauge rfl))
    | refused => exact .level (unset nofun) ((level nofun).trans (.complete still _))
    | overflow => exact .level (unset nofun) ((level nofun).trans (.crash still))

theorem endRenewal_marks (own : Secret) (free : k.Lone purpose.ticket?)
    (result : Except Fault Lease) :
    Marks own purpose (purpose.due? result) k (k.endRenewal own purpose result) := by
  cases purpose with
  | renew ticket => exact endRenew_marks (free ticket rfl)
  | timer number generation =>
    exact .lowered number generation rfl nofun (endTimer_lowers k own number generation result)
  | _ => exact .level nofun (.refl k)

theorem endFetch_marks (own : Secret) (free : k.Lone purpose.ticket?)
    (result : Except Fault Lease) :
    Marks own purpose (purpose.due? result) k (k.endFetch own purpose result) := by
  have counted : Level k (k.count (.rotation (isOk result))) := .count_of_ne k _ nofun
  have confined := Confined.count own k (.rotation (isOk result))
  unfold endFetch
  cases purpose with
  | register ticket => exact .level nofun (.complete (free ticket rfl) _)
  | start ticket => exact .level nofun (.endShared (free ticket rfl))
  | rotate ticket =>
    exact .level nofun (counted.trans (.complete (confined.lone free ticket rfl) _))
  | renew ticket => exact .before confined counted (endRenew_marks (confined.lone free ticket rfl))
  | timer number generation =>
    exact .lowered number generation rfl nofun
      (.before counted (endTimer_lowers _ own number generation result))
  | remove ticket => exact .level nofun (.complete (free ticket rfl) _)
  | destroy ticket => exact .level nofun (.endShared (free ticket rfl))

theorem abandon_marks {due : Option Lease} (closed : ∀ lease, ¬ k.Takes own lease)
    (free : k.Lone purpose.ticket?) (lease : Lease) :
    Marks own purpose due k (k.abandon own purpose lease result) := by
  unfold abandon
  split
  · exact .level (fun lease _ => closed lease) (.revoke k own purpose lease result)
  · exact .of_closed closed (endFetch_marks own free result)

end

theorem endFetch_truthful {lease : Lease} (free : k.Lone purpose.ticket?)
    (staked : k.Staked own purpose fun _ => False) (truthful : k.gauge = k.activeCount) :
    (k.endFetch own purpose (.ok lease)).gauge =
      (k.endFetch own purpose (.ok lease)).activeCount := by
  have marks := endFetch_marks own free (.ok lease)
  cases marks with
  | set _ _ _ _ gauge => exact gauge
  | level _ level => exact level.truthful truthful
  | lowered number generation timer =>
    subst timer
    have counted : Level k (k.count (.rotation (isOk (.ok lease : Except Fault Lease)))) :=
      .count_of_ne k _ nofun
    have still : (k.count (.rotation (isOk (.ok lease : Except Fault Lease)))).Staked own
        (.timer number generation) fun _ => False := staked.onward (.of_rooms rfl)
    exact (counted.trans (endTimer_level still _)).truthful truthful

/-! ### Answers -/

theorem fetched_ok_marks (response : Response) (free : k.Lone purpose.ticket?)
    (fit : Fit (k, .fetched own purpose response)) :
    Marks own purpose (some response.lease) k (k.fetched own purpose (.ok response)) := by
  cases started : k.started with
  | false =>
    simp only [fetched, started]
    exact abandon_marks (not_takes_of_closed (Or.inr started)) free response.lease
  | true =>
    have confined := Confined.published own k response
    have fit' := (Act.published k own purpose response started).fit fit
    refine .before confined (.published k own response) ?_
    simp only [fetched, started]
    rw [if_neg (by simp)]
    have free' := confined.lone free
    unfold published at free' ⊢
    generalize Keeper.emit _ _ = k₁ at free' fit' ⊢
    have kept_iff := schedule_kept_iff k₁ own response.lease
    have level := schedule_level k₁ own response.lease
    have gauge := schedule_gauge k₁ own response.lease
    have scheduled := schedule_scheduled k₁ own response.lease
    generalize k₁.schedule own response.lease = outcome at kept_iff level gauge scheduled
    obtain ⟨k₂, kind⟩ := outcome
    have free₂ := scheduled.confined.lone free'
    have unset (unkept : kind ≠ .kept) :
        ∀ lease, some response.lease = some lease → ¬ k₁.Takes own lease := by
      rintro _ ⟨⟩ takes
      exact unkept (kept_iff.mpr takes)
    cases kind with
    | kept =>
      have staked : k₂.Staked own purpose fun _ => False :=
        scheduled.unstaked fit'.rested fit'.hand
      have ended : Ends own purpose.ticket? (some response.lease) k₂
          (k₂.endFetch own purpose (.ok response.lease)) :=
        endFetch_ends free₂ fun lease same _ => congrArg some (Except.ok.inj same)
      exact .set _ rfl (kept_iff.mp rfl) (ended.binds.trans scheduled.confined.binds)
        (endFetch_truthful free₂ staked (gauge rfl))
    | refused =>
      cases scheduled with
      | refused closed => exact abandon_marks (not_takes_of_closed closed) free' response.lease
    | overflow =>
      cases own_ticket : purpose.ticket? with
      | none => exact .level (unset (by simp)) (level (by simp))
      | some ticket =>
        exact .level (unset (by simp)) ((level (by simp)).trans (.crash (free₂ ticket own_ticket)))

theorem fetched_error_marks (fault : Fault) (free : k.Lone purpose.ticket?) :
    Marks own purpose none k (k.fetched own purpose (.error fault)) := by
  have told := Confined.disappointed own k fault
  have marks := endFetch_marks own (told.lone free) (.error
    ((if fault.isNotFound then k.emit (.notFound own) else k).report own Lease.none fault).2)
  refine .before told (.disappointed k own fault) ?_
  cases purpose <;> exact marks

theorem renewed_error_marks (lease : Lease) (fault : Fault) (free : k.Lone purpose.ticket?) :
    Marks own purpose none k (k.renewed own purpose lease (.error fault)) := by
  have counted := Confined.count own k (.renewal own.mode false)
  have told := counted.trans (Confined.report own _ lease fault)
  have marks := endRenewal_marks own (told.lone free) (.error
    ((k.count (.renewal own.mode false)).report own lease fault).2)
  have level := (Level.count_of_ne k (.renewal own.mode false) nofun).trans
    (.report _ own lease fault)
  refine .before told level ?_
  cases purpose <;> exact marks

instance (k : Keeper) (next : Lease) : Decidable (k.fallsShort next) :=
  inferInstanceAs (Decidable (_ ∧ _))

def extension? (k : Keeper) (own : Secret) (purpose : Purpose) (next : Lease) : Option Lease :=
  if k.fallsShort next then
    if own.isRotating then none else purpose.due? (.ok Lease.none)
  else purpose.due? (.ok next)

theorem renewed_ok_marks (lease next : Lease) (free : k.Lone purpose.ticket?) :
    Marks own purpose (k.extension? own purpose next) k
      (k.renewed own purpose lease (.ok next)) := by
  have told := Confined.acknowledged own k next
  have level := Level.acknowledged k own next
  by_cases short : k.fallsShort next
  · rw [renewed_of_short lease short, extension?, if_pos short]
    cases own.isRotating with
    | true => exact .level nofun (level.trans (.call _ own purpose .fetch))
    | false =>
      have lapsed := told.trans (.lapsed own _ next)
      exact .before lapsed (level.trans (.lapsed _ own next))
        (endRenewal_marks own (lapsed.lone free) _)
  · rw [renewed_of_enough lease short, extension?, if_neg short]
    exact .before told level (endRenewal_marks own (told.lone free) _)

theorem revoked_marks (lease : Lease) (result : Except Fault Lease) (reply : Except Fault Unit)
    (free : k.Lone purpose.ticket?) :
    Marks own purpose (purpose.due? result) k (k.revoked own purpose lease result reply) := by
  cases reply with
  | ok _ =>
    have told := (Confined.count own k (.revocation true)).trans
      (.emit _ (.afterRevocation own lease) rfl)
    exact .before told ((Level.count_of_ne k (.revocation true) nofun).trans (.emit _ _))
      (endFetch_marks own (told.lone free) result)
  | error fault =>
    have told := (Confined.count own k (.revocation false)).trans (.report own _ lease fault)
    have level := (Level.count_of_ne k (.revocation false) nofun).trans
      (.report _ own lease fault)
    exact .before told level (endFetch_marks own (told.lone free) result)

def due? (k : Keeper) : KeeperEvent → Option Lease
  | .answer secret purpose reply =>
    match (k.room secret).flight? purpose, reply with
    | some ⟨_, .fetch⟩, .fetched result => result.toOption.map Response.lease
    | some ⟨_, .renew _⟩, .renewed (.ok next) => k.extension? secret purpose next
    | some ⟨_, .revoke _ result⟩, .revoked _ => purpose.due? result
    | _, _ => none
  | _ => none

theorem answer_marks (fit : Fit (k, .free)) (free : k.Lone purpose.ticket?) (reply : Reply) :
    Marks own purpose (k.due? (.answer own purpose reply)) k (k.answer own purpose reply) := by
  have confined := Confined.landed k own purpose
  have level := Level.landed k own purpose
  have free' := confined.lone free
  have ignored : Marks own purpose none k k := .level nofun (.refl k)
  unfold answer due?
  dsimp only
  cases flown : (k.room own).flight? purpose with
  | none => exact ignored
  | some flight =>
    obtain rfl := Room.flight?_purpose flown
    obtain ⟨purpose, errand⟩ := flight
    cases errand with
    | fetch =>
      cases reply with
      | fetched result =>
        cases result with
        | error fault => exact .before confined level (fetched_error_marks fault free')
        | ok response =>
          exact .before confined level (fetched_ok_marks response free'
            ((Begins.fetched own purpose response flown).fit fit))
      | _ => exact ignored
    | renew lease =>
      cases reply with
      | renewed result =>
        cases result with
        | error fault => exact .before confined level (renewed_error_marks lease fault free')
        | ok next => exact .before confined level (renewed_ok_marks lease next free')
      | _ => exact ignored
    | revoke lease result =>
      cases reply with
      | revoked reply => exact .before confined level (revoked_marks lease result reply free')
      | _ => exact ignored

/-! ### Steps -/

inductive Sets (k : Keeper) : KeeperEvent → Prop where
  | stopped (ticket : Nat) : Sets k (.request ticket .destroy)
  | scheduled (secret : Secret) (purpose : Purpose) (reply : Reply) (lease : Lease)
      (due : k.due? (.answer secret purpose reply) = some lease) (takes : k.Takes secret lease) :
      Sets k (.answer secret purpose reply)

structure Drops (k : Keeper) (event : KeeperEvent) : Prop where
  unset : ¬ k.Sets event
  lost : ∃ secret, event.ends? = some secret ∧ (k.room secret).isActive = true ∧
    ((k.step event).room secret).isActive = false

inductive Shifts (k : Keeper) (event : KeeperEvent) : Prop where
  | set (sets : k.Sets event) (gauge : (k.step event).gauge = (k.step event).activeCount)
  | dropped (drops : k.Drops event) (gauge : (k.step event).gauge = k.gauge)
      (count : (k.step event).activeCount < k.activeCount)
  | kept (unset : ¬ k.Sets event) (keeps : ¬ k.Drops event)
      (gauge : (k.step event).gauge = k.gauge)
      (count : (k.step event).activeCount = k.activeCount)

section
variable {event : KeeperEvent}

theorem Level.shifts (level : Level k (k.step event)) (unset : ¬ k.Sets event) :
    k.Shifts event := by
  refine .kept unset ?_ level.gauge level.count
  rintro ⟨_, secret, _, before, after⟩
  rw [level.active, before] at after
  cases after

theorem Lowers.shifts (lowers : Lowers own k (k.step event)) (ends : event.ends? = some own)
    (unset : ¬ k.Sets event) : k.Shifts event := by
  have count := lowers.count
  cases before : (k.room own).isActive with
  | false =>
    have after : ((k.step event).room own).isActive = false := by
      simpa [before] using lowers.fewer
    rw [before, after] at count
    refine .kept unset ?_ lowers.gauge count
    rintro ⟨_, secret, ends', active, _⟩
    obtain rfl := Option.some.inj (ends.symm.trans ends')
    rw [before] at active
    cases active
  | true =>
    cases after : ((k.step event).room own).isActive with
    | false =>
      rw [before, after] at count
      exact .dropped ⟨unset, own, ends, before, after⟩ lowers.gauge
        (Nat.lt_of_succ_le (Nat.le_of_eq count))
    | true =>
      rw [before, after] at count
      refine .kept unset ?_ lowers.gauge (Nat.add_right_cancel count)
      rintro ⟨_, secret, ends', _, inactive⟩
      obtain rfl := Option.some.inj (ends.symm.trans ends')
      rw [after] at inactive
      cases inactive

theorem Marks.shifts {reply : Reply} (marks : Marks own purpose (k.due? (.answer own purpose reply))
    k (k.answer own purpose reply)) : k.Shifts (.answer own purpose reply) := by
  have unset (free : ∀ lease, k.due? (.answer own purpose reply) = some lease →
      ¬ k.Takes own lease) : ¬ k.Sets (.answer own purpose reply) := by
    rintro ⟨⟩
    rename_i lease takes due
    exact free lease due takes
  cases marks with
  | set lease owed takes binds gauge =>
    exact .set (.scheduled own purpose reply lease owed takes) gauge
  | level free level => exact Level.shifts level (unset free)
  | lowered number generation timer free lowers =>
    subst timer
    exact Lowers.shifts lowers rfl (unset free)

theorem Marks.binds {due : Option Lease} (marks : Marks own purpose due k k') :
    k'.binds = k.binds := by
  cases marks with
  | set _ _ _ binds => exact binds
  | level _ level => exact level.binds
  | lowered _ _ _ _ lowers => exact lowers.binds

end

theorem request_shifts (keyed : k.Keyed) (unbound : k.binds = []) {operation : Operation}
    (unbinding : (KeeperEvent.request ticket operation).Unbinding) :
    (k.step (.request ticket operation)).binds = [] ∧ k.Shifts (.request ticket operation) := by
  have free {k₁ : Keeper} (binds : k₁.binds = k.binds) : k₁.binds.find? ticket = none := by
    rw [binds, unbound]
    rfl
  have completed {k₁ : Keeper} (level : Level k k₁) (answer : KeeperAnswer) :
      Level k (k₁.complete ticket answer) := level.trans (.complete (free level.binds) answer)
  have kept (level : Level k (k.step (.request ticket operation)))
      (running : operation ≠ .destroy) :
      (k.step (.request ticket operation)).binds = [] ∧ k.Shifts (.request ticket operation) := by
    refine ⟨level.binds.trans unbound, level.shifts ?_⟩
    rintro ⟨⟩
    exact running rfl
  cases operation with
  | add secret =>
    refine kept ?_ (by simp)
    have level := add_level k ticket secret
    simp only [step, request]
    generalize k.add ticket secret = outcome at level
    obtain ⟨k₁, _ | added⟩ := outcome
    · exact level
    · exact completed level _
  | remove secret =>
    have lowers := remove_lowers k ticket secret
    have ended : Lowers secret k (k.step (.request ticket (.remove secret))) := by
      simp only [step, request]
      generalize k.remove ticket secret = outcome at lowers
      obtain ⟨k₁, _ | removed⟩ := outcome
      · exact lowers
      · exact lowers.after (.complete (free lowers.binds) _)
    exact ⟨ended.binds.trans unbound, ended.shifts rfl (by rintro ⟨⟩)⟩
  | start =>
    refine kept ?_ (by simp)
    have level := start_level k ticket
    simp only [step, request]
    generalize k.start ticket = outcome at level
    obtain ⟨k₁, _ | _⟩ := outcome
    · exact level
    · exact completed level _
  | destroy =>
    have truthful := destroy_truthful k ticket keyed
    have ended : (k.step (.request ticket .destroy)).binds = k.binds ∧
        (k.step (.request ticket .destroy)).gauge =
          (k.step (.request ticket .destroy)).activeCount := by
      simp only [step, request]
      generalize k.destroy ticket = outcome at truthful
      obtain ⟨k₁, _ | _⟩ := outcome
      · exact truthful
      · have level := Level.complete (free truthful.1) .done
        exact ⟨level.binds.trans truthful.1, level.truthful truthful.2⟩
    exact ⟨ended.1.trans unbound, .set (.stopped ticket) ended.2⟩
  | renew secret =>
    refine kept ?_ (by simp)
    have level := renew_level k ticket secret
    simp only [step, request]
    generalize k.renew ticket secret = outcome at level
    obtain ⟨k₁, _ | fault⟩ := outcome
    · exact level
    · exact completed level _
  | rotate secret =>
    refine kept ?_ (by simp)
    have level := rotate_level k ticket secret
    simp only [step, request]
    generalize k.rotate ticket secret = outcome at level
    obtain ⟨k₁, _ | fault⟩ := outcome
    · exact level
    · exact completed level _
  | bind secret failFast start => exact absurd rfl (unbinding ticket secret failFast start)

theorem step_shifts (fit : Fit (k, .free)) (keyed : k.Keyed) (unbound : k.binds = [])
    {event : KeeperEvent} (unbinding : event.Unbinding) :
    (k.step event).binds = [] ∧ k.Shifts event := by
  have kept (level : Level k (k.step event)) (unset : ¬ k.Sets event) :
      (k.step event).binds = [] ∧ k.Shifts event :=
    ⟨level.binds.trans unbound, level.shifts unset⟩
  cases event with
  | request ticket operation => exact request_shifts keyed unbound unbinding
  | ask secret ticket => exact kept (.ask k secret ticket) nofun
  | answer secret purpose reply =>
    have lone : k.Lone purpose.ticket? := by
      intro ticket _
      rw [unbound]
      rfl
    have marks : Marks secret purpose (k.due? (.answer secret purpose reply)) k
        (k.answer secret purpose reply) := answer_marks fit lone reply
    exact ⟨marks.binds.trans unbound, marks.shifts⟩
  | fire secret number generation =>
    have lowers := fire_lowers k secret number generation
    exact ⟨lowers.binds.trans unbound, Lowers.shifts lowers rfl nofun⟩
  | stop secret number generation => exact kept (stop_level k secret number generation) nofun
  | pass span => exact kept (.of_rooms rfl rfl rfl) nofun
  | closeSource id => exact kept ((silence_level k id).trans (.of_rooms rfl rfl rfl)) nofun
  | dropSource id => exact kept ((silence_level k id).trans (.of_rooms rfl rfl rfl)) nofun
  | disown => exact kept (.of_rooms rfl rfl rfl) nofun

/-! ### Runs -/

/-- Since the last drop the gauge was set. -/
def Mended (k : Keeper) (events : List KeeperEvent) : Prop :=
  ∀ before event after, events = before ++ event :: after → (k.run before).Drops event →
    ∃ between next rest, after = between ++ next :: rest ∧
      (k.run (before ++ event :: between)).Sets next

theorem mended_snoc {events : List KeeperEvent} {event : KeeperEvent} :
    k.Mended (events ++ [event]) ↔
      (k.run events).Sets event ∨ ¬ (k.run events).Drops event ∧ k.Mended events := by
  constructor
  · intro mended
    by_cases sets : (k.run events).Sets event
    · exact Or.inl sets
    refine Or.inr ⟨fun drops => ?_, fun before past after split drops => ?_⟩
    · obtain ⟨between, next, rest, none, _⟩ := mended events event [] rfl drops
      simp at none
    · subst split
      obtain ⟨between, next, rest, split, later⟩ :=
        mended before past (after ++ [event]) (by simp) drops
      rcases List.eq_nil_or_concat rest with rfl | ⟨rest, last, rfl⟩
      · obtain ⟨rfl, same⟩ := List.append_inj' split rfl
        obtain rfl := List.singleton_inj.mp same
        exact absurd later sets
      · refine ⟨between, next, rest, ?_, later⟩
        rw [List.concat_eq_append, ← List.cons_append, ← List.append_assoc] at split
        exact (List.append_inj' split rfl).1
  · intro either before past after split drops
    rcases List.eq_nil_or_concat after with rfl | ⟨after, last, rfl⟩
    · obtain ⟨rfl, same⟩ := List.append_inj' split rfl
      obtain rfl := List.singleton_inj.mp same
      rcases either with sets | ⟨kept, _⟩
      · exact absurd sets drops.unset
      · exact absurd drops kept
    · rw [List.concat_eq_append, ← List.cons_append, ← List.append_assoc] at split
      obtain ⟨rfl, same⟩ := List.append_inj' split rfl
      obtain rfl := List.singleton_inj.mp same
      rcases either with sets | ⟨_, mended⟩
      · exact ⟨after, event, [], List.concat_eq_append, sets⟩
      · obtain ⟨between, next, rest, rfl, later⟩ := mended before past after rfl drops
        exact ⟨between, next, rest ++ [event], by simp, later⟩

theorem run_truthful (policy : LeasePolicy) (events : List KeeperEvent)
    (unbinding : ∀ event ∈ events, event.Unbinding) :
    let k := (new policy).run events
    k.binds = [] ∧ k.activeCount ≤ k.gauge ∧
      (k.gauge = k.activeCount ↔ (new policy).Mended events) := by
  induction events using List.reverseRecOn with
  | nil =>
    refine ⟨rfl, Nat.le_refl _, iff_of_true rfl ?_⟩
    intro before event after split
    simp at split
  | append_singleton events event ih =>
    obtain ⟨unbound, bound, truthful⟩ := ih fun event member =>
      unbinding event (List.mem_append_left _ member)
    have shifts := step_shifts (run_fit policy events) (run_keyed policy events) unbound
      (unbinding event (List.mem_append_right _ List.mem_cons_self))
    dsimp only
    rw [run_append, mended_snoc]
    refine ⟨shifts.1, ?_⟩
    cases shifts.2 with
    | set sets gauge => exact ⟨Nat.le_of_eq gauge.symm, iff_of_true gauge (Or.inl sets)⟩
    | dropped drops gauge count =>
      have above := Nat.lt_of_lt_of_le count bound
      rw [← gauge] at above
      refine ⟨Nat.le_of_lt above, iff_of_false (Nat.ne_of_gt above) ?_⟩
      rintro (sets | ⟨keeps, _⟩)
      · exact drops.unset sets
      · exact keeps drops
    | kept unset keeps gauge count =>
      refine ⟨?_, ?_⟩
      · rw [← count, ← gauge] at bound
        exact bound
      · rw [← count, ← gauge] at truthful
        exact truthful.trans ⟨fun mended => Or.inr ⟨keeps, mended⟩,
          fun either => (either.resolve_left unset).2⟩

/-- The gauge is never too low. It tells the number of registered secrets with an active lease
exactly if it was set since an active secret was last removed, or a task of a timer last came to an
end, without its being set. -/
theorem gauge_truthful_iff (policy : LeasePolicy) (events : List KeeperEvent)
    (unbinding : ∀ event ∈ events, event.Unbinding) :
    let k := (new policy).run events
    k.active ≤ k.gauge ∧ (k.gauge = k.active ↔ (new policy).Mended events) := by
  intro k
  rw [← (run_keyed policy events).active]
  exact (run_truthful policy events unbinding).2

/-- One of two active secrets is removed. The gauge tells so when the other is fetched again. -/
theorem gauge_mended_by_rotation :
    let policy : LeasePolicy := ⟨Span.seconds 10, Span.seconds 60, .dropOnError⟩
    let gone : Secret := ⟨"database/creds/app", .renew⟩
    let kept : Secret := ⟨"pki/cert", .rotate⟩
    let response : Response := ⟨"", "", 600, false, none, none, none⟩
    let before : List KeeperEvent := [.request 1 (.add gone), .request 2 (.add kept),
      .request 3 .start, .ask gone 3, .ask kept 3,
      .answer gone (.start 3) (.fetched (.ok ⟨"", "a", 120, true, none, none, none⟩)),
      .answer kept (.start 3) (.fetched (.ok response)), .request 4 (.remove gone)]
    let after : List KeeperEvent :=
      [.request 5 (.rotate kept), .answer kept (.rotate 5) (.fetched (.ok response))]
    let k := (new policy).run (before ++ after)
    (∀ event ∈ before ++ after, event.Unbinding) ∧ ¬ (new policy).Mended before ∧
      k.gauge = 1 ∧ k.active = 1 ∧ (new policy).Mended (before ++ after) := by
  intro policy gone kept response before after k
  have unbinding : ∀ event ∈ before ++ after, event.Unbinding := by
    simp [before, after, KeeperEvent.Unbinding]
  have early : ∀ event ∈ before, event.Unbinding := fun event member =>
    unbinding event (List.mem_append_left after member)
  have stale := mt (gauge_truthful_iff policy before early).2.mpr
  have mended := (gauge_truthful_iff policy (before ++ after) unbinding).2.mp
  exact ⟨unbinding, stale (by decide), by decide, by decide, mended (by decide)⟩

/-- A keeper without secrets goes on telling of one active lease. -/
theorem removed_secret_counted :
    ¬ ∀ policy events, (∀ event ∈ events, KeeperEvent.Unbinding event) →
      ((new policy).run events).isIdle = true →
        ((new policy).run events).gauge = ((new policy).run events).active := by
  let secret : Secret := ⟨"database/creds/app", .renew⟩
  let events : List KeeperEvent := [.request 1 (.add secret), .request 2 .start, .ask secret 2,
    .answer secret (.start 2) (.fetched (.ok ⟨"", "a", 120, true, none, none, none⟩)),
    .request 3 (.remove secret), .answer secret (.remove 3) (.revoked (.ok ()))]
  have unbinding : ∀ event ∈ events, event.Unbinding := by simp [events, KeeperEvent.Unbinding]
  intro truthful
  have same := truthful ⟨Span.seconds 10, Span.seconds 60, .dropOnError⟩ events unbinding
    (by decide)
  exact absurd same (by decide)

end Keeper
end LeaseKeeper

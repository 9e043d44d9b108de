import LeaseKeeper.Proofs.Renewal.Tenure

/-!
The renew calls of a lineage left alone are exactly those of the recurrence, and at every moment the
current lease, the activity and the pending timer are the ones it dictates. The clock is taken to
have room for every sum of a time and a span.
-/
namespace LeaseKeeper.Renewal

open Lineage LeaseKeeper.Renewal.System

structure System.Shows (s : System) (current : Option Lease) (active : Bool) (pending : Nat) :
    Prop where
  current : s.lineage.current = current
  active : s.lineage.isActive = active
  pending : s.lineage.pending = pending

namespace Tenure

/-- Where the recurrence is, and what the lineage shows there. -/
inductive Standing (r : Tenure) (s : System) : Prop where
  | awaiting (plan : Plan) (next : r.plan? (r.calls s).length = some plan)
      (ahead : s.now ≤ plan.time) (shows : s.Shows (some plan.lease) true 1)
  | calling (plan : Plan) (n : Nat) (made : (r.calls s).length = n + 1)
      (last : r.plan? n = some plan)
      (ahead : ∀ delivery, r.script n = some delivery → s.now ≤ plan.time + delivery.latency)
      (shows : s.Shows (some plan.lease) true 0)
  | resting (plan : Plan) (delivery : Delivery) (n : Nat) (held : Option Lease)
      (made : (r.calls s).length = n + 1) (last : r.plan? n = some plan)
      (answered : r.script n = some delivery) (final : r.sequel plan delivery = .rest held)
      (past : plan.time + delivery.latency ≤ s.now) (shows : s.Shows held false 0)

structure Conforms (r : Tenure) (s : System) : Prop where
  planned : ∀ n call, (r.calls s)[n]? = some call →
    ∃ plan, r.plan? n = some plan ∧ call.time = plan.time ∧ call.lease = plan.lease
  complete : ∀ n plan, r.plan? n = some plan → plan.time < s.now → n < (r.calls s).length
  spaced : ∀ n earlier later, (r.calls s)[n]? = some earlier → (r.calls s)[n + 1]? = some later →
    ∃ delivery, r.script n = some delivery ∧
      earlier.time + delivery.latency + r.terms.floor ≤ later.time
  standing : r.Standing s
  reaches : ∀ n plan, r.plan? n = some plan →
    ∃ rest, r.keeps s rest = true ∧ n < (r.calls (s.run rest)).length
  ends : ∀ n plan delivery held, r.plan? n = some plan → r.script n = some delivery →
    r.sequel plan delivery = .rest held →
    ∃ rest, r.keeps s rest = true ∧ (s.run rest).Shows held false 0

variable {r : Tenure} {s : System}

/-! ### The plan -/

theorem plan?_pred {n : Nat} {next : Plan} (planned : r.plan? (n + 1) = some next) :
    ∃ plan delivery, r.plan? n = some plan ∧ r.script n = some delivery ∧
      r.sequel plan delivery = .call next := by
  simp only [plan?, Option.bind_eq_some_iff] at planned
  obtain ⟨plan, last, delivery, answered, follows⟩ := planned
  refine ⟨plan, delivery, last, answered, ?_⟩
  cases sequel : r.sequel plan delivery with
  | call other =>
    rw [sequel] at follows
    exact congrArg Sequel.call (Option.some.inj follows)
  | rest held =>
    rw [sequel] at follows
    cases follows

theorem floor_le_of_sequel {plan next : Plan} {delivery : Delivery}
    (follows : r.sequel plan delivery = .call next) :
    plan.time + delivery.latency + r.terms.floor ≤ next.time := by
  obtain ⟨latency, result⟩ := delivery
  cases result with
  | ok lease =>
    simp only [sequel] at follows
    split at follows
    · cases follows
    · split at follows
      · obtain rfl := Sequel.call.inj follows
        exact Nat.add_le_add_left (Nat.le_max_left _ _) _
      · cases follows
  | error fault =>
    simp only [sequel] at follows
    split at follows
    · obtain rfl := Sequel.call.inj follows
      exact Nat.le_refl _
    · cases follows

theorem plan?_of_le {m n : Nat} (le : m ≤ n) {later : Plan} (planned : r.plan? n = some later) :
    ∃ earlier, r.plan? m = some earlier ∧ earlier.time ≤ later.time := by
  induction le generalizing later with
  | refl => exact ⟨later, planned, Nat.le_refl _⟩
  | step le ih =>
    obtain ⟨plan, delivery, last, answered, follows⟩ := plan?_pred planned
    obtain ⟨earlier, first, before⟩ := ih last
    have spaced := floor_le_of_sequel follows
    exact ⟨earlier, first, by omega⟩

theorem plan?_after_rest {n m : Nat} {plan : Plan} {delivery : Delivery} {held : Option Lease}
    (last : r.plan? n = some plan) (answered : r.script n = some delivery)
    (final : r.sequel plan delivery = .rest held) (later : n < m) : r.plan? m = none := by
  cases planned : r.plan? m with
  | none => rfl
  | some next =>
    obtain ⟨early, first, _⟩ := plan?_of_le later planned
    obtain ⟨plan', delivery', last', answered', follows⟩ := plan?_pred first
    obtain rfl := Option.some.inj (last.symm.trans last')
    obtain rfl := Option.some.inj (answered.symm.trans answered')
    rw [final] at follows
    cases follows

/-! ### The register of a lineage left alone -/

theorem isSome_deadline? {now span : Nat} (fits : now + span ≤ Span.clockEnd) :
    (deadline? now span).isNone = false := by
  simp [deadline?, fits]

theorem Fits.quiet {plan : Plan} {delivery : Delivery} (fits : r.Fits plan delivery)
    (time : s.now = plan.time + delivery.latency) (strategy : s.strategy = r.strategy) :
    (match delivery.result with
      | .ok next => next.hasId && (deadline? s.now next.span).isNone
      | .error fault =>
        !s.strategy.shouldDrop fault && (deadline? s.now r.terms.floor).isNone) = false := by
  obtain ⟨latency, result⟩ := delivery
  cases result with
  | ok next =>
    cases id : next.hasId with
    | false => simp [id]
    | true => simpa [id, time] using isSome_deadline? (fits id)
  | error fault =>
    cases drop : r.strategy.shouldDrop fault with
    | true => simp [strategy, drop]
    | false => simpa [strategy, drop, time] using isSome_deadline? (fits drop)

theorem Tracks.not_overflows (t : r.Tracks s) (room : r.Roomy) {event : Event}
    (allowed : r.allows s event = true) : s.overflows event = false := by
  cases event with
  | schedule => cases allowed
  | answer number result =>
    cases found : s.task? number with
    | none => simp [overflows, found]
    | some task =>
      cases stage : task.stage with
      | waiting due => simp [overflows, found, Task.isCalling, stage]
      | calling lease =>
        obtain ⟨member, same⟩ := task?_eq_some found
        by_cases own : number = r.own
        · obtain ⟨plan, g, n, delivery, rfl, made, last, answered, time, rfl, slot⟩ :=
            t.own_call allowed found stage own
          rw [overflows_of_claimed found stage slot rfl rfl]
          exact (room.answers n plan delivery last answered).quiet time t.strategy
        · have foreign := t.course.foreign t.ordered member (same ▸ own)
          have unclaimed : s.lineage.claimed? task.generation = none := by
            apply Option.filter_eq_none_iff.mpr
            intro held before
            simp [foreign held before]
          simp [overflows, found, unclaimed]
  | disable => rfl
  | pass span => rfl
  | fire number => rfl
  | stop number => rfl

theorem Tracks.run_sound (t : r.Tracks s) (sound : s.Sound) (room : r.Roomy) {events : List Event}
    (kept : r.keeps s events = true) : (s.run events).Sound := by
  induction events generalizing s with
  | nil => exact sound
  | cons event rest ih =>
    obtain ⟨allowed, later⟩ := Bool.and_eq_true_iff.mp kept
    exact ih (t.step allowed) (step_sound sound (t.not_overflows room allowed)) later

theorem sound_begun (room : r.Roomy) : r.begun.Sound := by
  have before : r.before.Sound := System.run_sound (sound_new r.strategy) room.opening
  exact step_sound before (isSome_deadline? room.first)

/-! ### What the lineage shows -/

theorem isActive_of_dormant {l : Lineage}
    (dormant : ∀ kept, l.slot = some kept → kept.phase = .dormant) : l.isActive = false := by
  cases slot : l.slot with
  | none => simp [isActive, slot]
  | some kept => simp [isActive, slot, dormant kept slot]

theorem shows_at_rest (sound : s.Sound) {held : Option Lease}
    (current : s.lineage.current = held)
    (dormant : ∀ kept, s.lineage.slot = some kept → kept.phase = .dormant) :
    s.Shows held false 0 := by
  have empty := sound.tidy.no_timers fun kept before => by simp [dormant kept before]
  exact ⟨current, isActive_of_dormant dormant, by simp [pending, empty]⟩

theorem Tracks.standing (t : r.Tracks s) (sound : s.Sound) (room : r.Roomy) : r.Standing s := by
  have timers := sound.tidy.registered
  cases t.course with
  | waiting plan g next member slot live early =>
    refine .awaiting plan next early ⟨by simp [Lineage.current, slot], ?_, ?_⟩
    · simp [isActive, slot]
    · simp [pending, timers, awaited, slot]
  | calling plan g n made last awaits member slot early =>
    refine .calling plan n made last early ⟨by simp [Lineage.current, slot], ?_, ?_⟩
    · simp [isActive, slot]
    · simp [pending, timers, awaited, slot]
  | resting plan delivery n held made last answered final past gone current dormant =>
    exact .resting plan delivery n held made last answered final past
      (shows_at_rest sound current dormant)
  | lost plan delivery n g made last answered strained =>
    exact absurd (room.answers n plan delivery last answered) strained

theorem Tracks.calls_le (t : r.Tracks s) {n : Nat} (none : r.plan? n = none) :
    (r.calls s).length ≤ n := by
  by_contra longer
  obtain ⟨plan, planned, _⟩ := t.planned n _ (List.getElem?_eq_getElem (by omega))
  rw [none] at planned
  cases planned

theorem Tracks.complete (t : r.Tracks s) (room : r.Roomy) {n : Nat} {plan : Plan}
    (planned : r.plan? n = some plan) (past : plan.time < s.now) : n < (r.calls s).length := by
  by_contra missing
  cases t.course with
  | waiting next g ahead member slot live early =>
    obtain ⟨earlier, same, before⟩ := plan?_of_le (by omega : (r.calls s).length ≤ n) planned
    obtain rfl := Option.some.inj (ahead.symm.trans same)
    omega
  | calling last g m made called awaits member slot early =>
    obtain ⟨next, same, before⟩ := plan?_of_le (by omega : m + 1 ≤ n) planned
    obtain ⟨plan', delivery, last', answered, follows⟩ := plan?_pred same
    obtain rfl := Option.some.inj (called.symm.trans last')
    have spaced := floor_le_of_sequel follows
    have late := early delivery answered
    omega
  | resting last delivery m held made called answered final =>
    have none := plan?_after_rest called answered final (by omega : m < n)
    rw [none] at planned
    cases planned
  | lost last delivery m g made called answered strained =>
    exact strained (room.answers m last delivery called answered)

theorem Tracks.spaced (t : r.Tracks s) {n : Nat} {earlier later : Call}
    (first : (r.calls s)[n]? = some earlier) (second : (r.calls s)[n + 1]? = some later) :
    ∃ delivery, r.script n = some delivery ∧
      earlier.time + delivery.latency + r.terms.floor ≤ later.time := by
  obtain ⟨plan, planned, time, _⟩ := t.planned n earlier first
  obtain ⟨next, next_planned, next_time, _⟩ := t.planned (n + 1) later second
  obtain ⟨plan', delivery, same, answered, follows⟩ := plan?_pred next_planned
  obtain rfl := Option.some.inj (planned.symm.trans same)
  have spaced := floor_le_of_sequel follows
  exact ⟨delivery, answered, by omega⟩

theorem Tracks.reaches_next (t : r.Tracks s) (room : r.Roomy) {plan : Plan}
    (next : r.plan? (r.calls s).length = some plan) :
    ∃ rest, r.keeps s rest = true ∧ (r.calls (s.run rest)).length = (r.calls s).length + 1 := by
  have answers : ∀ n, (r.calls s).length = n + 1 → ∃ delivery, r.script n = some delivery := by
    intro n made
    rw [made] at next
    obtain ⟨_, delivery, _, answered, _⟩ := plan?_pred next
    exact ⟨delivery, answered⟩
  obtain ⟨rest, kept, more | ⟨same, gone⟩⟩ := t.onward answers
  · exact ⟨rest, kept, more⟩
  · rw [← same] at next
    cases (t.run kept).course with
    | waiting plan g _ member => exact absurd rfl (gone _ member)
    | calling plan g n made last awaits member => exact absurd rfl (gone _ member)
    | resting last delivery m held made called answered final =>
      have later : m < (r.calls (s.run rest)).length := by omega
      have none := plan?_after_rest called answered final later
      rw [none] at next
      cases next
    | lost last delivery m g made called answered strained =>
      exact absurd (room.answers m last delivery called answered) strained

theorem Tracks.reaches (t : r.Tracks s) (room : r.Roomy) {n : Nat} {plan : Plan}
    (planned : r.plan? n = some plan) :
    ∃ rest, r.keeps s rest = true ∧ n < (r.calls (s.run rest)).length := by
  induction missing : n + 1 - (r.calls s).length generalizing s with
  | zero => exact ⟨[], rfl, by rw [System.run, List.foldl_nil]; omega⟩
  | succ k ih =>
    obtain ⟨next, due, _⟩ := plan?_of_le (by omega : (r.calls s).length ≤ n) planned
    obtain ⟨rest, kept, more⟩ := t.reaches_next room due
    obtain ⟨rest', kept', enough⟩ := ih (t.run kept) (by omega)
    exact ⟨rest ++ rest', by simp [keeps_append, kept, kept'], by rwa [run_append]⟩

theorem Tracks.ends (t : r.Tracks s) (sound : s.Sound) (room : r.Roomy) {n : Nat} {plan : Plan}
    {delivery : Delivery} {held : Option Lease} (last : r.plan? n = some plan)
    (answered : r.script n = some delivery) (final : r.sequel plan delivery = .rest held) :
    ∃ rest, r.keeps s rest = true ∧ (s.run rest).Shows held false 0 := by
  have none := plan?_after_rest last answered final (Nat.lt_succ_self n)
  obtain ⟨first, kept, enough⟩ := t.reaches room last
  have t₁ := t.run kept
  have made : (r.calls (s.run first)).length = n + 1 := by
    have bound := t₁.calls_le none
    omega
  obtain ⟨second, kept', more⟩ := t₁.onward fun m count => by
    obtain rfl : m = n := by omega
    exact ⟨delivery, answered⟩
  have t₂ := t₁.run kept'
  have bound := t₂.calls_le none
  obtain ⟨same, gone⟩ := more.resolve_left (by omega)
  refine ⟨first ++ second, by simp [keeps_append, kept, kept'], ?_⟩
  rw [run_append]
  have sound₂ := t₁.run_sound (t.run_sound sound room kept) room kept'
  cases t₂.course with
  | waiting plan g _ member => exact absurd rfl (gone _ member)
  | calling plan g m count called awaits member => exact absurd rfl (gone _ member)
  | resting plan' delivery' m held' count called reply rest past _ current dormant =>
    obtain rfl : m = n := by omega
    obtain rfl := Option.some.inj (last.symm.trans called)
    obtain rfl := Option.some.inj (answered.symm.trans reply)
    obtain rfl := Sequel.rest.inj (final.symm.trans rest)
    exact shows_at_rest sound₂ current dormant
  | lost plan' delivery' m g count called reply strained =>
    exact absurd (room.answers m plan' delivery' called reply) strained

/-- Once a lease is scheduled and then left alone, its renew calls are those of the recurrence, and
so is what the lineage shows. -/
theorem run_follows_recurrence (r : Tenure) (room : r.Roomy) (later : List Event)
    (kept : r.keeps r.begun later = true) : r.Conforms (r.begun.run later) := by
  have start := tracks_begun room.first
  have t := start.run kept
  have sound := start.run_sound (sound_begun room) room kept
  exact {
    planned := t.planned
    complete := fun _ _ planned past => t.complete room planned past
    spaced := fun _ _ _ first second => t.spaced first second
    standing := t.standing sound room
    reaches := fun _ _ planned => t.reaches room planned
    ends := fun _ _ _ _ last answered final => t.ends sound room last answered final }

/-- A lease over 30 s that is scheduled at 10 s, while a call for an earlier one is under way. It is
renewed once; two failures follow, and the second is too late for another attempt. -/
def retriedTenure : Tenure where
  strategy := .retainOnError
  opening := [.schedule ⟨"x", 20, true⟩ ⟨Span.seconds 10, Span.seconds 20, Lease.renewable⟩,
    .pass (Span.seconds 10), .fire 0]
  lease := ⟨"a", 30, true⟩
  terms := ⟨Span.seconds 10, Span.seconds 20, Lease.renewable⟩
  script n := [⟨Span.seconds 2, .ok ⟨"b", 60, true⟩⟩,
    ⟨Span.seconds 1, .error (.connectionFailed "reset")⟩,
    ⟨Span.seconds 1, .error (.connectionFailed "reset")⟩][n]?

def retriedRun : List Event :=
  [.pass (Span.seconds 10), .answer 0 (.ok ⟨"y", 20, true⟩), .fire 1, .pass (Span.seconds 2),
    .answer 1 (.ok ⟨"b", 60, true⟩), .pass (Span.seconds 40), .fire 1, .pass (Span.seconds 1),
    .answer 1 (.error (.connectionFailed "reset")), .pass (Span.seconds 10), .fire 1,
    .pass (Span.seconds 1), .answer 1 (.error (.connectionFailed "reset"))]

theorem retriedTenure_roomy : retriedTenure.Roomy where
  opening := by decide
  first := by decide
  answers := by
    intro n plan delivery planned answered
    match n with
    | 0 =>
      obtain rfl := Option.some.inj planned
      obtain rfl := Option.some.inj answered
      intro _
      decide
    | 1 =>
      obtain rfl := Option.some.inj planned
      obtain rfl := Option.some.inj answered
      intro _
      decide
    | 2 =>
      obtain rfl := Option.some.inj planned
      obtain rfl := Option.some.inj answered
      intro _
      decide
    | n + 3 => cases answered

theorem retried_run_follows :
    retriedTenure.Roomy ∧ retriedTenure.keeps retriedTenure.begun retriedRun = true ∧
      retriedTenure.Conforms (retriedTenure.begun.run retriedRun) ∧
      (retriedTenure.calls (retriedTenure.begun.run retriedRun)).map Call.time =
        [Span.seconds 20, Span.seconds 62, Span.seconds 73] :=
  have kept : retriedTenure.keeps retriedTenure.begun retriedRun = true := by decide
  ⟨retriedTenure_roomy, kept, run_follows_recurrence retriedTenure retriedTenure_roomy _ kept,
    by decide⟩

end Tenure
end LeaseKeeper.Renewal

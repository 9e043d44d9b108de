import LeaseKeeper.Proofs.Renewal.Installations
import LeaseKeeper.Proofs.Renewal.Order

/-!
The lineage's slot, its register of timers and its tasks fit together in every state that events can
lead to, in any order and also from inside a renew call, as long as no sum of the clock and a span
is past the clock's end. The invariant is `Sound`; what it means for an observer is `Coherent`.
-/
namespace LeaseKeeper.Renewal

open Lineage

namespace System

def waitingOn (s : System) (g : Nat) : List Task :=
  s.tasks.filter fun t => !t.isCalling && t.generation == g

def callsUnder (s : System) (g : Nat) : List Task :=
  s.tasks.filter fun t => t.isCalling && t.generation == g

/-- The event adds a span to the clock, and the sum is past the clock's end. -/
def overflows (s : System) : Event → Bool
  | .schedule lease _ => (deadline? s.now lease.span).isNone
  | .answer number result =>
    (s.task? number).any fun task =>
      task.isCalling && (s.lineage.claimed? task.generation).isSome &&
        match result with
        | .ok next => next.hasId && (deadline? s.now next.span).isNone
        | .error fault =>
          !s.strategy.shouldDrop fault && (deadline? s.now task.terms.floor).isNone
  | _ => false

def fits (s : System) : List Event → Bool
  | [] => true
  | event :: rest => !s.overflows event && (s.step event).fits rest

structure Coherent (s : System) : Prop where
  pending_le_one : s.lineage.pending ≤ 1
  timer_iff : ∀ g, g ∈ s.lineage.timers ↔
    ∃ held, s.lineage.slot = some held ∧ held.phase = .scheduled ∧ held.generation = g
  timer_live : ∀ g ∈ s.lineage.timers,
    (s.waitingOn g).length = 1 ∧ s.lineage.isCancelled g = false
  renewing_iff : ∀ held, s.lineage.slot = some held →
    (held.phase = .renewing ↔ (s.callsUnder held.generation).length = 1)
  idle : (∀ held, s.lineage.slot = some held → held.phase = .dormant) → s.lineage.pending = 0
  numbered : s.lineage.Numbered
  tasks_numbered : ∀ t ∈ s.tasks, t.generation ≤ s.lineage.issued
  active_iff : s.lineage.isActive = true ↔
    (∃ g ∈ s.lineage.timers, (s.waitingOn g).length = 1 ∧ s.lineage.isCancelled g = false) ∨
      ∃ held, s.lineage.slot = some held ∧ (s.callsUnder held.generation).length = 1

structure Sound (s : System) : Prop extends Ordered s where
  tidy : s.lineage.Tidy
  staffed : ∀ held, s.lineage.slot = some held → held.phase ≠ .dormant →
    ∃ t ∈ s.tasks, t.generation = held.generation

theorem sound_new (strategy : Strategy) : (new strategy).Sound :=
  ⟨ordered_new strategy, tidy_new, by simp [new, Lineage.new]⟩

variable {s : System}

theorem Sound.staffed_drop (sound : s.Sound) {number : Nat} {task : Task}
    (found : s.task? number = some task)
    (foreign : ∀ held, s.lineage.slot = some held → held.phase ≠ .dormant →
      held.generation ≠ task.generation) :
    ∀ held, s.lineage.slot = some held → held.phase ≠ .dormant →
      ∃ t ∈ (s.drop number).tasks, t.generation = held.generation := by
  intro held before awake
  obtain ⟨t, member, own⟩ := sound.staffed held before awake
  refine ⟨t, mem_drop_tasks.mpr ⟨member, ?_⟩, own⟩
  intro same
  have twin := sound.roster.same_number member (task?_eq_some found).1
    (same.trans (task?_eq_some found).2.symm)
  exact foreign held before awake (own.symm.trans (congrArg Task.generation twin))

theorem Sound.claimed_phase (sound : s.Sound) {number : Nat} {task : Task} {lease : Lease}
    (found : s.task? number = some task) (calling : task.stage = .calling lease) :
    ∀ held, s.lineage.slot = some held → held.generation = task.generation →
      held.phase = .renewing := by
  intro held before own
  have suits := sound.suited task (task?_eq_some found).1 held before own
  simp only [Task.Suits, calling] at suits
  exact suits.1

theorem Sound.waiting_phase (sound : s.Sound) {number due : Nat} {task : Task}
    (found : s.task? number = some task) (waiting : task.stage = .waiting due) :
    ∀ held, s.lineage.slot = some held → held.generation = task.generation →
      held.phase = .scheduled := by
  intro held before own
  have suits := sound.suited task (task?_eq_some found).1 held before own
  simpa only [Task.Suits, waiting] using suits

theorem overflows_of_claimed {number : Nat} {task : Task} {held : Held} {lease : Lease}
    (found : s.task? number = some task) (calling : task.stage = .calling lease)
    (before : s.lineage.slot = some held) (own : held.generation = task.generation)
    (renewing : held.phase = .renewing) (result : Except Fault Lease) :
    s.overflows (.answer number result) =
      match result with
      | .ok next => next.hasId && (deadline? s.now next.span).isNone
      | .error fault =>
        !s.strategy.shouldDrop fault && (deadline? s.now task.terms.floor).isNone := by
  have busy : task.isCalling = true := task.isCalling_iff.mpr ⟨lease, calling⟩
  have claimed : (s.lineage.claimed? task.generation).isSome = true := by
    simp [claimed?, before, own, renewing]
  simp only [overflows, found, Option.any_some, busy, claimed, Bool.true_and]

theorem Sound.finish (sound : s.Sound) {number : Nat} {task : Task} {lease : Lease}
    {result : Except Fault Lease} {after : Lineage} {next : Next}
    (fits : s.overflows (.answer number result) = false) (found : s.task? number = some task)
    (calling : task.stage = .calling lease)
    (ending : Ending s.lineage s.strategy task.terms.floor task.terms.threshold s.now
      task.generation task.terms.reschedule result after next)
    (final : ∀ generation delay, next ≠ .wait generation delay) :
    ({ s with lineage := after }.drop number).Sound := by
  have ordered := sound.toOrdered.finish found ending final
  have claimed := sound.claimed_phase found calling
  have tidy := sound.tidy.ending claimed ending
  cases ending with
  | stale _ moved =>
    refine ⟨ordered, sound.tidy, sound.staffed_drop found ?_⟩
    intro held before _ own
    exact moved held before own (claimed held before own)
  | forgotten => exact ⟨ordered, tidy (by simp), by simp⟩
  | dropped => exact ⟨ordered, tidy (by simp), by simp⟩
  | rested => exact ⟨ordered, tidy (by simp), by simp⟩
  | exhausted => exact ⟨ordered, tidy (by simp), by simp⟩
  | outlasted next held id before own renewing overflow =>
    rw [overflows_of_claimed found calling before own renewing] at fits
    simp [id, overflow] at fits
  | overran fault held keep before own renewing overflow =>
    rw [overflows_of_claimed found calling before own renewing] at fits
    simp [keep, overflow] at fits
  | renewed => exact absurd rfl (final _ _)
  | retained => exact absurd rfl (final _ _)

theorem Sound.resume (sound : s.Sound) {number generation delay : Nat} {task : Task}
    {lease : Lease} {result : Except Fault Lease} {after : Lineage}
    (found : s.task? number = some task) (calling : task.stage = .calling lease)
    (ending : Ending s.lineage s.strategy task.terms.floor task.terms.threshold s.now
      task.generation task.terms.reschedule result after (.wait generation delay)) :
    ({ s with lineage := after }.replace
      { task with generation, stage := .waiting (s.now + delay) }).Sound := by
  have placed : ∃ held, after.slot = some held ∧ held.generation = generation := by
    cases ending <;> exact ⟨_, rfl, rfl⟩
  obtain ⟨held, slot, own⟩ := placed
  refine ⟨sound.toOrdered.resume found ending,
    sound.tidy.ending (sound.claimed_phase found calling) ending (by simp), ?_⟩
  intro other before _
  obtain rfl := Option.some.inj (slot.symm.trans before)
  exact ⟨_, replaced_mem (task?_eq_some found).1 rfl, own.symm⟩

theorem step_sound (sound : s.Sound) {event : Event} (fits : s.overflows event = false) :
    (s.step event).Sound := by
  have ordered := step_ordered sound.toOrdered event
  have change := step_change s event
  generalize s.step event = after at change ordered
  cases change with
  | scheduled lease terms deadline =>
    refine ⟨ordered, sound.tidy.replaced lease deadline, ?_⟩
    intro held placed _
    rw [replaced_slot] at placed
    obtain rfl := Option.some.inj placed
    exact ⟨_, List.mem_append_right _ (List.mem_singleton.mpr rfl), rfl⟩
  | outlasted lease terms overflow => simp [overflows, overflow] at fits
  | disabled => exact ⟨ordered, sound.tidy.disable, by simp [Lineage.disable]⟩
  | passed span => exact ⟨ordered, sound.tidy, sound.staffed⟩
  | claimed number due task held found waiting ripe before own scheduled =>
    refine ⟨ordered, sound.tidy.claim before own scheduled, ?_⟩
    intro other placed _
    obtain rfl := Option.some.inj placed
    exact ⟨_, replaced_mem (task?_eq_some found).1 rfl, own.symm⟩
  | missed number due task found waiting ripe moved =>
    refine ⟨ordered, sound.tidy.miss moved, sound.staffed_drop found ?_⟩
    intro held before _ own
    exact moved held before own (sound.waiting_phase found waiting held before own)
  | unfired => exact sound
  | stopped number due task found waiting cancelled =>
    refine ⟨ordered, sound.tidy, sound.staffed_drop found ?_⟩
    intro held before _ own
    have scheduled := sound.waiting_phase found waiting held before own
    have pending := (sound.tidy.mem_timers_iff _).mpr ⟨held, before, scheduled, own⟩
    apply sound.tidy.live _ pending
    simpa [isCancelled] using cancelled
  | unstopped => exact sound
  | resumed number generation delay task lease result after found calling ending =>
    exact sound.resume found calling ending
  | ended number task lease result after next found calling ending final =>
    exact sound.finish fits found calling ending final
  | unanswered => exact sound

theorem run_sound (sound : s.Sound) {events : List Event} (fits : s.fits events = true) :
    (s.run events).Sound := by
  induction events generalizing s with
  | nil => exact sound
  | cons event rest ih =>
    simp only [System.fits, Bool.and_eq_true, Bool.not_eq_true'] at fits
    exact ih (step_sound sound fits.1) fits.2

/-! ### What the invariant means for an observer -/

theorem length_filter_eq_one {tasks : List Task} {p : Task → Bool} {t : Task}
    (distinct : tasks.Nodup) (member : t ∈ tasks) (holds : p t = true)
    (only : ∀ u ∈ tasks, p u = true → u = t) : (tasks.filter p).length = 1 := by
  have same : (tasks.filter p).Perm [t] := by
    apply (List.perm_ext_iff_of_nodup (distinct.filter _) (List.nodup_singleton t)).mpr
    intro u
    rw [List.mem_filter, List.mem_singleton]
    constructor
    · rintro ⟨present, true_of⟩
      exact only u present true_of
    · rintro rfl
      exact ⟨member, holds⟩
  simpa using same.length_eq

theorem Sound.one_task (sound : s.Sound) {held : Held} (before : s.lineage.slot = some held)
    (awake : held.phase ≠ .dormant) {p : Task → Bool}
    (suited : ∀ t : Task, t.Suits held → p t = true) :
    (s.tasks.filter fun t => p t && t.generation == held.generation).length = 1 := by
  obtain ⟨t, member, own⟩ := sound.staffed held before awake
  have suits := sound.suited t member held before own.symm
  apply length_filter_eq_one (sound.roster.numbers.of_map _) member
  · simp [suited t suits, own]
  · intro u present true_of
    simp only [Bool.and_eq_true, beq_iff_eq] at true_of
    exact sound.roster.unique present member (true_of.2.trans own.symm)

theorem Sound.one_waiting (sound : s.Sound) {held : Held} (before : s.lineage.slot = some held)
    (scheduled : held.phase = .scheduled) : (s.waitingOn held.generation).length = 1 := by
  apply sound.one_task before (by simp [scheduled])
  intro t suits
  cases stage : t.stage with
  | waiting => simp [Task.isCalling, stage]
  | calling => simp [Task.Suits, stage, scheduled] at suits

theorem Sound.calls_of_renewing (sound : s.Sound) {held : Held}
    (before : s.lineage.slot = some held) (renewing : held.phase = .renewing) :
    (s.callsUnder held.generation).length = 1 := by
  apply sound.one_task before (by simp [renewing])
  intro t suits
  cases stage : t.stage with
  | waiting => simp [Task.Suits, stage, renewing] at suits
  | calling => simp [Task.isCalling, stage]

theorem Sound.renewing_of_calls (sound : s.Sound) {held : Held}
    (before : s.lineage.slot = some held)
    (one : (s.callsUnder held.generation).length = 1) : held.phase = .renewing := by
  obtain ⟨t, only⟩ := List.length_eq_one_iff.mp one
  have found : t ∈ s.callsUnder held.generation := by simp [only]
  obtain ⟨member, true_of⟩ := List.mem_filter.mp found
  simp only [Bool.and_eq_true, beq_iff_eq] at true_of
  obtain ⟨lease, calling⟩ := t.isCalling_iff.mp true_of.1
  have suits := sound.suited t member held before true_of.2.symm
  simp only [Task.Suits, calling] at suits
  exact suits.1

theorem Sound.timer_live (sound : s.Sound) {g : Nat} (pending : g ∈ s.lineage.timers) :
    (s.waitingOn g).length = 1 ∧ s.lineage.isCancelled g = false := by
  obtain ⟨held, before, scheduled, rfl⟩ := (sound.tidy.mem_timers_iff g).mp pending
  refine ⟨sound.one_waiting before scheduled, ?_⟩
  simpa [isCancelled] using sound.tidy.live _ pending

theorem Sound.active_iff (sound : s.Sound) : s.lineage.isActive = true ↔
    (∃ g ∈ s.lineage.timers, (s.waitingOn g).length = 1 ∧ s.lineage.isCancelled g = false) ∨
      ∃ held, s.lineage.slot = some held ∧ (s.callsUnder held.generation).length = 1 := by
  constructor
  · intro active
    cases before : s.lineage.slot with
    | none => simp [isActive, before] at active
    | some held =>
      cases phase : held.phase with
      | scheduled =>
        have pending := (sound.tidy.mem_timers_iff _).mpr ⟨held, before, phase, rfl⟩
        exact Or.inl ⟨held.generation, pending, sound.timer_live pending⟩
      | renewing => exact Or.inr ⟨held, rfl, sound.calls_of_renewing before phase⟩
      | dormant => simp [isActive, before, phase] at active
  · rintro (⟨g, pending, _⟩ | ⟨held, before, one⟩)
    · obtain ⟨held, before, scheduled, _⟩ := (sound.tidy.mem_timers_iff g).mp pending
      simp [isActive, before, scheduled]
    · simp [isActive, before, sound.renewing_of_calls before one]

theorem Sound.coherent (sound : s.Sound) : s.Coherent where
  pending_le_one := sound.tidy.pending_le_one
  timer_iff := sound.tidy.mem_timers_iff
  timer_live := fun _ pending => sound.timer_live pending
  renewing_iff := fun _ before =>
    ⟨sound.calls_of_renewing before, sound.renewing_of_calls before⟩
  idle := by
    intro dormant
    have empty := sound.tidy.no_timers fun held before => by simp [dormant held before]
    simp [pending, empty]
  numbered := sound.numbered
  tasks_numbered := sound.roster.issued
  active_iff := sound.active_iff

/-! ### Every run -/

/-- Every run of a new lineage that does not overflow the clock leaves it coherent, and no two of
its installations share a generation. -/
theorem run_coherent_of_fits (strategy : Strategy) (events : List Event)
    (fits : (new strategy).fits events = true) :
    ((new strategy).run events).Coherent ∧ ((new strategy).installations events).Nodup :=
  ⟨(run_sound (sound_new strategy) fits).coherent,
    (installations_increasing _ events).imp Nat.ne_of_lt⟩

def overtakenRun : List Event :=
  let terms : Terms := ⟨Span.seconds 10, Span.seconds 20, Lease.hasId⟩
  [.schedule ⟨"a", 30, true⟩ terms, .pass (Span.seconds 10), .fire 0,
    .schedule ⟨"b", 60, true⟩ terms, .answer 0 (.ok ⟨"a", 30, true⟩),
    .pass (Span.seconds 40), .fire 1, .answer 1 (.ok ⟨"b", 60, true⟩)]

theorem overtaken_run_coherent :
    (new .dropOnError).fits overtakenRun = true ∧
      ((new .dropOnError).run overtakenRun).Coherent ∧
      ((new .dropOnError).installations overtakenRun).Nodup :=
  have fits : (new .dropOnError).fits overtakenRun = true := by decide
  ⟨fits, run_coherent_of_fits .dropOnError overtakenRun fits⟩

end System
end LeaseKeeper.Renewal

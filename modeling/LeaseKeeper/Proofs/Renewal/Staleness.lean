import LeaseKeeper.Proofs.Renewal.Installations
import LeaseKeeper.Proofs.Renewal.Order

/-!
A renewal that was overtaken has no say. Its answer leaves the lineage as it is, a scheduled lease
stands until one of three events displaces it, and a disabled lineage rests until it is scheduled
again. None of this depends on the clock.
-/
namespace LeaseKeeper.Renewal

open Lineage

def Event.isSchedule : Event → Bool
  | .schedule _ _ => true
  | _ => false

namespace System

structure Holds (s : System) (number : Nat) (lease : Lease) (deadline : Nat) : Prop where
  occupied : ∃ held, s.lineage.slot = some held ∧ held.lease = lease ∧ held.deadline = deadline ∧
    ∀ t ∈ s.tasks, t.generation = held.generation → t.number = number

inductive Displaces (s : System) (number : Nat) (lease : Lease) : Event → Prop where
  | scheduled (next : Lease) (terms : Terms) (deadline : Nat)
      (fits : deadline? s.now next.span = some deadline) :
      Displaces s number lease (.schedule next terms)
  | disabled : Displaces s number lease .disable
  | renewed (next : Lease) (task : Task) (held : Held) (found : s.task? number = some task)
      (calling : task.stage = .calling lease) (before : s.lineage.slot = some held)
      (own : held.generation = task.generation) :
      Displaces s number lease (.answer number (.ok next))

structure Fenced (s : System) : Prop where
  calls_distinct : (s.calls.map Call.generation).Nodup
  moved_answer : ∀ number task lease result, s.task? number = some task →
    task.stage = .calling lease →
    (∀ held, s.lineage.slot = some held → held.generation ≠ task.generation) →
    (s.step (.answer number result)).lineage = s.lineage
  scheduled_stands : ∀ lease terms deadline later, deadline? s.now lease.span = some deadline →
    ((s.step (.schedule lease terms)).run later).Holds s.started lease deadline ∨
      ∃ before event after, later = before ++ event :: after ∧
        ((s.step (.schedule lease terms)).run before).Holds s.started lease deadline ∧
        ((s.step (.schedule lease terms)).run before).Displaces s.started lease event
  disabled_rests : ∀ later, (∀ event ∈ later, event.isSchedule = false) →
    ((s.step .disable).run later).lineage.slot = none ∧
      ((s.step .disable).run later).lineage.timers = [] ∧
      ((s.step .disable).run later).calls = s.calls

variable {s : System} {number : Nat} {lease : Lease} {deadline : Nat}

theorem step_answer_of_moved {task : Task} {called : Lease} (found : s.task? number = some task)
    (calling : task.stage = .calling called)
    (moved : ∀ held, s.lineage.slot = some held → held.generation ≠ task.generation)
    (result : Except Fault Lease) : (s.step (.answer number result)).lineage = s.lineage := by
  have change := step_change s (.answer number result)
  generalize s.step (.answer number result) = after at change
  cases change with
  | resumed number generation delay other lease result after present _ ending =>
    obtain rfl := Option.some.inj (found.symm.trans present)
    exact ending.unchanged moved
  | ended number other lease result after next present _ ending =>
    obtain rfl := Option.some.inj (found.symm.trans present)
    exact ending.unchanged moved
  | unanswered number result idle => exact absurd calling (idle task called found)

/-! ### What displaces a scheduled lease -/

theorem Holds.keep (holds : s.Holds number lease deadline) {after : System}
    (seats : after.lineage.slot.map seat = s.lineage.slot.map seat)
    (tasks : ∀ t ∈ after.tasks, ∃ u ∈ s.tasks, u.number = t.number ∧ u.generation = t.generation) :
    after.Holds number lease deadline := by
  obtain ⟨held, before, same_lease, same_deadline, only⟩ := holds.occupied
  rw [before, Option.map_some, Option.map_eq_some_iff] at seats
  obtain ⟨kept, placed, same⟩ := seats
  obtain ⟨same_generation, lease_kept, deadline_kept⟩ : kept.generation = held.generation ∧
      kept.lease = held.lease ∧ kept.deadline = held.deadline := by simpa [seat] using same
  refine ⟨kept, placed, lease_kept.trans same_lease, deadline_kept.trans same_deadline, ?_⟩
  intro t member own
  obtain ⟨u, present, number_kept, generation_kept⟩ := tasks t member
  exact number_kept ▸ only u present (generation_kept.trans (own.trans same_generation))

theorem Holds.keep_tasks (holds : s.Holds number lease deadline) {after : System}
    (seats : after.lineage.slot.map seat = s.lineage.slot.map seat)
    (tasks : ∀ t ∈ after.tasks, t ∈ s.tasks) : after.Holds number lease deadline :=
  holds.keep seats fun t member => ⟨t, tasks t member, rfl, rfl⟩

theorem Holds.own_call (holds : s.Holds number lease deadline) (o : s.Ordered) {other : Nat}
    {task : Task} {called : Lease} {held : Held} (found : s.task? other = some task)
    (calling : task.stage = .calling called) (before : s.lineage.slot = some held)
    (own : held.generation = task.generation) : other = number ∧ called = lease := by
  obtain ⟨occupant, present, same_lease, _, only⟩ := holds.occupied
  obtain rfl := Option.some.inj (before.symm.trans present)
  obtain ⟨member, rfl⟩ := task?_eq_some found
  have suits := o.suited task member held before own
  simp only [Task.Suits, calling] at suits
  exact ⟨only task member own.symm, suits.2.symm.trans same_lease⟩

theorem Holds.displaced (holds : s.Holds number lease deadline) (o : s.Ordered) {other : Nat}
    {task : Task} {called : Lease} {held : Held} (found : s.task? other = some task)
    (calling : task.stage = .calling called) (before : s.lineage.slot = some held)
    (own : held.generation = task.generation) (next : Lease) :
    s.Displaces number lease (.answer other (.ok next)) := by
  obtain ⟨rfl, rfl⟩ := holds.own_call o found calling before own
  exact .renewed next task held found calling before own

theorem Holds.step (holds : s.Holds number lease deadline) (o : s.Ordered) (event : Event) :
    (s.step event).Holds number lease deadline ∨ s.Displaces number lease event := by
  have change := step_change s event
  generalize s.step event = after at change
  cases change with
  | scheduled next terms later fits => exact Or.inr (.scheduled next terms later fits)
  | outlasted => exact Or.inl (holds.keep_tasks rfl fun _ member => member)
  | disabled => exact Or.inr .disabled
  | passed => exact Or.inl (holds.keep_tasks rfl fun _ member => member)
  | claimed other due task held found waiting ripe before own =>
    refine Or.inl (holds.keep (by simp [before, seat]) ?_)
    intro t member
    rcases mem_replace_tasks member with rfl | ⟨was, _⟩
    · exact ⟨task, (task?_eq_some found).1, rfl, rfl⟩
    · exact ⟨t, was, rfl, rfl⟩
  | missed => exact Or.inl (holds.keep_tasks rfl fun _ member => (mem_drop_tasks.mp member).1)
  | unfired => exact Or.inl holds
  | stopped => exact Or.inl (holds.keep_tasks rfl fun _ member => (mem_drop_tasks.mp member).1)
  | unstopped => exact Or.inl holds
  | resumed other generation delay task called result after found calling ending =>
    cases ending with
    | renewed next held later id again before own =>
      exact Or.inr (holds.displaced o found calling before own next)
    | retained fault held retryAt keep before own =>
      obtain ⟨rfl, _⟩ := holds.own_call o found calling before own
      obtain ⟨occupant, present, same_lease, same_deadline, only⟩ := holds.occupied
      obtain rfl := Option.some.inj (before.symm.trans present)
      refine Or.inl ⟨_, rfl, same_lease, same_deadline, ?_⟩
      intro t member fresh
      rcases mem_replace_tasks member with rfl | ⟨was, _⟩
      · exact (task?_eq_some found).2
      · have := o.roster.issued t was
        simp at fresh
        omega
  | ended other task called result after next found calling ending final =>
    have kept {line : Lineage} (seats : line.slot.map seat = s.lineage.slot.map seat) :
        ({ s with lineage := line }.drop other).Holds number lease deadline :=
      holds.keep_tasks seats fun _ member => (mem_drop_tasks.mp member).1
    cases ending with
    | stale => exact Or.inl (kept rfl)
    | forgotten next held empty before own =>
      exact Or.inr (holds.displaced o found calling before own next)
    | dropped fault held drop before => exact Or.inl (kept (by simp [before, seat]))
    | renewed => exact absurd rfl (final _ _)
    | rested next held later id last before own =>
      exact Or.inr (holds.displaced o found calling before own next)
    | retained => exact absurd rfl (final _ _)
    | exhausted fault held retryAt keep before => exact Or.inl (kept (by simp [before, seat]))
    | outlasted => exact Or.inl (kept rfl)
    | overran => exact Or.inl (kept rfl)
  | unanswered => exact Or.inl holds

theorem Holds.run (holds : s.Holds number lease deadline) (o : s.Ordered) (later : List Event) :
    (s.run later).Holds number lease deadline ∨
      ∃ before event after, later = before ++ event :: after ∧
        (s.run before).Holds number lease deadline ∧
        (s.run before).Displaces number lease event := by
  induction later generalizing s with
  | nil => exact Or.inl holds
  | cons event rest ih =>
    rcases holds.step o event with kept | displaced
    · rcases ih kept (step_ordered o event) with stands | ⟨before, last, after, split, held, ends⟩
      · exact Or.inl stands
      · exact Or.inr ⟨event :: before, last, after, by rw [split, List.cons_append], held, ends⟩
    · exact Or.inr ⟨[], event, rest, rfl, holds, displaced⟩

theorem Ordered.holds_of_schedule (o : s.Ordered) (lease : Lease) (terms : Terms)
    (fits : deadline? s.now lease.span = some deadline) :
    (s.step (.schedule lease terms)).Holds s.started lease deadline := by
  simp only [System.step, schedule, install_fits fits]
  refine ⟨_, replaced_slot _ _ _, rfl, rfl, ?_⟩
  intro t member own
  rcases List.mem_append.mp member with old | fresh
  · have := o.roster.issued t old
    simp at own
    omega
  · obtain rfl := List.mem_singleton.mp fresh
    rfl

/-! ### A disabled lineage -/

theorem step_of_empty (empty : s.lineage.slot = none) (idle : s.lineage.timers = [])
    {event : Event} (other : event.isSchedule = false) :
    (s.step event).lineage.slot = none ∧ (s.step event).lineage.timers = [] ∧
      (s.step event).calls = s.calls := by
  have change := step_change s event
  generalize s.step event = after at change
  have nobody (g : Nat) : ∀ held, s.lineage.slot = some held → held.generation ≠ g := by
    simp [empty]
  cases change with
  | scheduled => cases other
  | outlasted => cases other
  | disabled => exact ⟨rfl, rfl, rfl⟩
  | passed => exact ⟨empty, idle, rfl⟩
  | claimed number due task held found waiting ripe before =>
    rw [empty] at before
    cases before
  | missed => exact ⟨empty, by simp [unregister, idle], rfl⟩
  | unfired => exact ⟨empty, idle, rfl⟩
  | stopped => exact ⟨empty, idle, rfl⟩
  | unstopped => exact ⟨empty, idle, rfl⟩
  | resumed number generation delay task lease result after found calling ending =>
    obtain rfl := ending.unchanged (nobody _)
    exact ⟨empty, idle, rfl⟩
  | ended number task lease result after next found calling ending =>
    obtain rfl := ending.unchanged (nobody _)
    exact ⟨empty, idle, rfl⟩
  | unanswered => exact ⟨empty, idle, rfl⟩

theorem run_of_empty (empty : s.lineage.slot = none) (idle : s.lineage.timers = [])
    {later : List Event} (unscheduled : ∀ event ∈ later, event.isSchedule = false) :
    (s.run later).lineage.slot = none ∧ (s.run later).lineage.timers = [] ∧
      (s.run later).calls = s.calls := by
  induction later generalizing s with
  | nil => exact ⟨empty, idle, rfl⟩
  | cons event rest ih =>
    obtain ⟨still_empty, still_idle, same⟩ :=
      step_of_empty empty idle (unscheduled event List.mem_cons_self)
    obtain ⟨slot, timers, calls⟩ :=
      ih still_empty still_idle fun e member => unscheduled e (List.mem_cons_of_mem _ member)
    exact ⟨slot, timers, calls.trans same⟩

/-! ### Every run -/

theorem Ordered.fenced (o : s.Ordered) : s.Fenced where
  calls_distinct := o.calls_distinct
  moved_answer := fun _ _ _ result found calling moved =>
    step_answer_of_moved found calling moved result
  scheduled_stands := by
    intro lease terms deadline later fits
    have stands := o.holds_of_schedule lease terms fits
    exact stands.run (step_ordered o (.schedule lease terms)) later
  disabled_rests := fun _ unscheduled => run_of_empty rfl rfl unscheduled

/-- Whatever the order of events, a renewal that was overtaken neither clobbers nor resurrects the
lineage. -/
theorem run_fenced (strategy : Strategy) (events : List Event) :
    ((new strategy).run events).Fenced := (run_ordered (ordered_new strategy) events).fenced

/-- A lease is replaced during its renewal; the late answer is discarded. -/
theorem overtaken_answer_discarded :
    let terms : Terms := ⟨Span.seconds 10, Span.seconds 20, Lease.hasId⟩
    let s := (new .dropOnError).run [.schedule ⟨"a", 30, true⟩ terms, .pass (Span.seconds 10),
      .fire 0, .schedule ⟨"b", 60, true⟩ terms]
    (s.step (.answer 0 (.ok ⟨"c", 30, true⟩))).lineage = s.lineage ∧
      s.lineage.current = some ⟨"b", 60, true⟩ :=
  ⟨(run_fenced .dropOnError _).moved_answer 0 ⟨0, 1, _, .calling ⟨"a", 30, true⟩⟩ _ _ rfl rfl
    (by decide), by decide⟩

end System
end LeaseKeeper.Renewal

import LeaseKeeper.Proofs.Lineage.Register
import LeaseKeeper.Renewal.Tasks

/-!
What one event can do to a lineage and its renewal tasks. `Change` lists the cases with everything
that is known in each; `step_change` says that a step is one of them.
-/
namespace LeaseKeeper.Renewal

open Lineage

def Task.isCalling (t : Task) : Bool :=
  match t.stage with
  | .waiting _ => false
  | .calling _ => true

theorem Task.isCalling_iff (t : Task) : t.isCalling = true ↔ ∃ lease, t.stage = .calling lease := by
  unfold isCalling
  cases t.stage <;> simp

theorem Task.not_isCalling_iff (t : Task) :
    t.isCalling = false ↔ ∃ due, t.stage = .waiting due := by
  unfold isCalling
  cases t.stage <;> simp

namespace System

theorem task?_eq_some {s : System} {number : Nat} {task : Task}
    (found : s.task? number = some task) : task ∈ s.tasks ∧ task.number = number := by
  refine ⟨List.mem_of_find?_eq_some found, ?_⟩
  simpa using List.find?_some found

@[simp] theorem drop_lineage (s : System) (number : Nat) :
    (s.drop number).lineage = s.lineage := rfl

@[simp] theorem replace_lineage (s : System) (t : Task) : (s.replace t).lineage = s.lineage := rfl

@[simp] theorem mem_drop_tasks {s : System} {number : Nat} {t : Task} :
    t ∈ (s.drop number).tasks ↔ t ∈ s.tasks ∧ t.number ≠ number := by
  simp [drop]

theorem mem_replace_tasks {s : System} {task t : Task} (member : t ∈ (s.replace task).tasks) :
    t = task ∨ (t ∈ s.tasks ∧ t.number ≠ task.number) := by
  obtain ⟨old, present, rfl⟩ := List.mem_map.mp member
  by_cases same : old.number = task.number
  · exact Or.inl (if_pos same)
  · exact Or.inr (by simpa [same] using present)

theorem mem_replace_of_ne {s : System} {task t : Task} (member : t ∈ s.tasks)
    (differ : t.number ≠ task.number) : t ∈ (s.replace task).tasks :=
  List.mem_map.mpr ⟨t, member, if_neg differ⟩

theorem replaced_mem {s : System} {task old : Task} (member : old ∈ s.tasks)
    (same : old.number = task.number) : task ∈ (s.replace task).tasks :=
  List.mem_map.mpr ⟨old, member, if_pos same⟩

inductive Change (s : System) : Event → System → Prop where
  | scheduled (lease : Lease) (terms : Terms) (deadline : Nat)
      (fits : deadline? s.now lease.span = some deadline) :
      Change s (.schedule lease terms)
        { s with
          lineage := s.lineage.replaced lease deadline
          tasks := s.tasks ++ [⟨s.started, s.lineage.issued + 1, terms,
            .waiting (s.now + renewalDelay lease.span terms.floor terms.threshold)⟩]
          started := s.started + 1 }
  /-- The clock cannot represent the lease's end. Its timer is left behind. -/
  | outlasted (lease : Lease) (terms : Terms) (overflow : deadline? s.now lease.span = none) :
      Change s (.schedule lease terms) { s with lineage := s.lineage.issue true }
  | disabled : Change s .disable { s with lineage := s.lineage.disable.1 }
  | passed (span : Nat) : Change s (.pass span) { s with now := s.now + span }
  | claimed (number due : Nat) (task : Task) (held : Held) (found : s.task? number = some task)
      (waiting : task.stage = .waiting due) (ripe : due ≤ s.now)
      (before : s.lineage.slot = some held) (own : held.generation = task.generation)
      (scheduled : held.phase = .scheduled) :
      Change s (.fire number)
        ({ s with
          lineage := { s.lineage.unregister task.generation with
            slot := some { held with phase := .renewing } }
          calls := ⟨s.now, task.generation, held.lease⟩ :: s.calls }.replace
            { task with stage := .calling held.lease })
  | missed (number due : Nat) (task : Task) (found : s.task? number = some task)
      (waiting : task.stage = .waiting due) (ripe : due ≤ s.now)
      (moved : ∀ held, s.lineage.slot = some held → held.generation = task.generation →
        held.phase ≠ .scheduled) :
      Change s (.fire number)
        ({ s with lineage := s.lineage.unregister task.generation }.drop number)
  | unfired (number : Nat)
      (idle : ∀ task due, s.task? number = some task → task.stage = .waiting due → s.now < due) :
      Change s (.fire number) s
  | stopped (number due : Nat) (task : Task) (found : s.task? number = some task)
      (waiting : task.stage = .waiting due)
      (cancelled : s.lineage.isCancelled task.generation = true) :
      Change s (.stop number) (s.drop number)
  | unstopped (number : Nat) : Change s (.stop number) s
  | resumed (number generation delay : Nat) (task : Task) (lease : Lease)
      (result : Except Fault Lease) (after : Lineage) (found : s.task? number = some task)
      (calling : task.stage = .calling lease)
      (ending : Ending s.lineage s.strategy task.terms.floor task.terms.threshold s.now
        task.generation task.terms.reschedule result after (.wait generation delay)) :
      Change s (.answer number result)
        ({ s with lineage := after }.replace
          { task with generation, stage := .waiting (s.now + delay) })
  | ended (number : Nat) (task : Task) (lease : Lease) (result : Except Fault Lease)
      (after : Lineage) (next : Next) (found : s.task? number = some task)
      (calling : task.stage = .calling lease)
      (ending : Ending s.lineage s.strategy task.terms.floor task.terms.threshold s.now
        task.generation task.terms.reschedule result after next)
      (final : ∀ generation delay, next ≠ .wait generation delay) :
      Change s (.answer number result) ({ s with lineage := after }.drop number)
  | unanswered (number : Nat) (result : Except Fault Lease)
      (idle : ∀ task lease, s.task? number = some task → task.stage ≠ .calling lease) :
      Change s (.answer number result) s

theorem schedule_change (s : System) (lease : Lease) (terms : Terms) :
    Change s (.schedule lease terms) (s.schedule lease terms).1 := by
  rcases install_cases s.lineage s.now lease with ⟨overflow, result⟩ | ⟨deadline, fits, result⟩
  · simpa only [schedule, result] using Change.outlasted lease terms overflow
  · simpa only [schedule, result] using Change.scheduled lease terms deadline fits

theorem fire_change (s : System) (number : Nat) : Change s (.fire number) (s.fire number) := by
  unfold fire
  cases found : s.task? number with
  | none =>
    refine .unfired number ?_
    intro task due present
    rw [found] at present
    cases present
  | some task =>
    dsimp only
    cases stage : task.stage with
    | calling lease =>
      refine .unfired number ?_
      intro other due present waiting
      obtain rfl := Option.some.inj (found.symm.trans present)
      rw [stage] at waiting
      cases waiting
    | waiting due =>
      by_cases ripe : due ≤ s.now
      · rcases fire_cases s.lineage task.generation with
          ⟨held, before, own, scheduled, result⟩ | ⟨moved, result⟩
        · simpa only [ripe, if_true, result] using
            Change.claimed number due task held found stage ripe before own scheduled
        · simpa only [ripe, if_true, result] using
            Change.missed number due task found stage ripe moved
      · simp only [ripe, if_false]
        refine .unfired number ?_
        intro other later present waiting
        obtain rfl := Option.some.inj (found.symm.trans present)
        obtain rfl := Stage.waiting.inj (stage.symm.trans waiting)
        omega

theorem stop_change (s : System) (number : Nat) : Change s (.stop number) (s.stop number) := by
  unfold stop
  cases found : s.task? number with
  | none => exact .unstopped number
  | some task =>
    dsimp only
    cases stage : task.stage with
    | calling lease => exact .unstopped number
    | waiting due =>
      cases cancelled : s.lineage.isCancelled task.generation with
      | true => exact .stopped number due task found stage cancelled
      | false => exact .unstopped number

theorem answer_change (s : System) (number : Nat) (result : Except Fault Lease) :
    Change s (.answer number result) (s.answer number result) := by
  unfold answer
  cases found : s.task? number with
  | none =>
    refine .unanswered number result ?_
    intro task lease present
    rw [found] at present
    cases present
  | some task =>
    dsimp only
    cases stage : task.stage with
    | waiting due =>
      refine .unanswered number result ?_
      intro other lease present calling
      obtain rfl := Option.some.inj (found.symm.trans present)
      rw [stage] at calling
      cases calling
    | calling lease =>
      have ending := conclude_ending s.lineage s.strategy task.terms.floor task.terms.threshold
        s.now task.generation task.terms.reschedule result
      generalize s.lineage.conclude s.strategy task.terms.floor task.terms.threshold s.now
        task.generation task.terms.reschedule result = outcome at ending
      obtain ⟨after, next⟩ := outcome
      cases next with
      | wait generation delay =>
        exact .resumed number generation delay task lease result after found stage ending
      | stop => exact .ended number task lease result after .stop found stage ending (by simp)
      | crash => exact .ended number task lease result after .crash found stage ending (by simp)

/-- Everything a step can do is one of the listed changes. -/
theorem step_change (s : System) (event : Event) : Change s event (s.step event) := by
  cases event with
  | schedule lease terms => exact schedule_change s lease terms
  | disable => exact .disabled
  | pass span => exact .passed span
  | fire number => exact fire_change s number
  | stop number => exact stop_change s number
  | answer number result => exact answer_change s number result

end System
end LeaseKeeper.Renewal

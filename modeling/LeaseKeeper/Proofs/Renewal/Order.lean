import LeaseKeeper.Proofs.Renewal.Changes
import Mathlib.Data.List.Nodup

/-!
What every run keeps, overflows of the clock included: no two tasks share a number or a generation,
no generation is handed to two renew calls, and a task under the slot's own generation is at the
stage that the slot's phase says. `run_ordered` is the run lemma.
-/
namespace LeaseKeeper.Renewal

open Lineage

structure Roster (tasks : List Task) (started issued : Nat) : Prop where
  numbers : (tasks.map Task.number).Nodup
  started : ∀ t ∈ tasks, t.number < started
  generations : (tasks.map Task.generation).Nodup
  issued : ∀ t ∈ tasks, t.generation ≤ issued

namespace Roster

variable {tasks : List Task} {started issued later : Nat}

theorem mono (r : Roster tasks started issued) (le : issued ≤ later) :
    Roster tasks started later :=
  ⟨r.numbers, r.started, r.generations, fun t member => Nat.le_trans (r.issued t member) le⟩

theorem filter (r : Roster tasks started issued) (p : Task → Bool) :
    Roster (tasks.filter p) started issued :=
  ⟨r.numbers.sublist (List.filter_sublist.map _),
    fun t member => r.started t (List.mem_filter.mp member).1,
    r.generations.sublist (List.filter_sublist.map _),
    fun t member => r.issued t (List.mem_filter.mp member).1⟩

theorem append (r : Roster tasks started issued) (terms : Terms) (stage : Stage) :
    Roster (tasks ++ [⟨started, issued + 1, terms, stage⟩]) (started + 1) (issued + 1) := by
  refine ⟨?_, ?_, ?_, ?_⟩
  · rw [List.map_append, List.nodup_append]
    refine ⟨r.numbers, by simp, ?_⟩
    intro number old other fresh same
    obtain ⟨t, member, rfl⟩ := List.mem_map.mp old
    have := r.started t member
    simp at fresh
    omega
  · intro t member
    rcases List.mem_append.mp member with old | fresh
    · have := r.started t old
      omega
    · obtain rfl := List.mem_singleton.mp fresh
      simp
  · rw [List.map_append, List.nodup_append]
    refine ⟨r.generations, by simp, ?_⟩
    intro generation old other fresh same
    obtain ⟨t, member, rfl⟩ := List.mem_map.mp old
    have := r.issued t member
    simp at fresh
    omega
  · intro t member
    rcases List.mem_append.mp member with old | fresh
    · have := r.issued t old
      omega
    · obtain rfl := List.mem_singleton.mp fresh
      simp

theorem unique (r : Roster tasks started issued) {t u : Task} (mt : t ∈ tasks) (mu : u ∈ tasks)
    (same : t.generation = u.generation) : t = u :=
  List.inj_on_of_nodup_map r.generations mt mu same

theorem same_number (r : Roster tasks started issued) {t u : Task} (mt : t ∈ tasks)
    (mu : u ∈ tasks) (same : t.number = u.number) : t = u :=
  List.inj_on_of_nodup_map r.numbers mt mu same

theorem other_generation (r : Roster tasks started issued) {t u : Task} (mt : t ∈ tasks)
    (mu : u ∈ tasks) (differ : t.number ≠ u.number) : t.generation ≠ u.generation :=
  fun same => differ (congrArg Task.number (r.unique mt mu same))

theorem replace (r : Roster tasks started issued) {old task : Task} (present : old ∈ tasks)
    (number : task.number = old.number) (le : issued ≤ later) (bound : task.generation ≤ later)
    (generation : task.generation = old.generation ∨ issued < task.generation) :
    Roster (tasks.map fun t => if t.number = task.number then task else t) started later := by
  have differs : ∀ t ∈ tasks, t.number ≠ task.number → task.generation ≠ t.generation := by
    intro t member differ same
    rcases generation with kept | fresh
    · exact r.other_generation member present (number ▸ differ) (same.symm.trans kept)
    · have := r.issued t member
      omega
  refine ⟨?_, ?_, ?_, ?_⟩
  · have same : (tasks.map fun t => if t.number = task.number then task else t).map Task.number =
        tasks.map Task.number := by
      rw [List.map_map]
      apply List.map_congr_left
      intro t _
      by_cases here : t.number = task.number <;> simp [here]
    exact same ▸ r.numbers
  · intro t member
    obtain ⟨was, mem, rfl⟩ := List.mem_map.mp member
    split
    · rw [number]
      exact r.started old present
    · exact r.started was mem
  · rw [List.map_map]
    refine List.Nodup.map_on ?_ (List.Nodup.of_map _ r.numbers)
    intro t mt u mu same
    by_cases ht : t.number = task.number <;> by_cases hu : u.number = task.number
    · exact r.same_number mt mu (ht.trans hu.symm)
    · simp only [Function.comp, ht, hu, if_true, if_false] at same
      exact absurd same (differs u mu hu)
    · simp only [Function.comp, ht, hu, if_true, if_false] at same
      exact absurd same.symm (differs t mt ht)
    · simp only [Function.comp, ht, hu, if_false] at same
      exact r.unique mt mu same
  · intro t member
    obtain ⟨was, mem, rfl⟩ := List.mem_map.mp member
    split
    · exact bound
    · exact Nat.le_trans (r.issued was mem) le

end Roster

/-- The task is at the stage that the phase of its own slot says. -/
def Task.Suits (t : Task) (held : Held) : Prop :=
  match t.stage with
  | .waiting _ => held.phase = .scheduled
  | .calling lease => held.phase = .renewing ∧ held.lease = lease

namespace System

structure Ordered (s : System) : Prop where
  numbered : s.lineage.Numbered
  roster : Roster s.tasks s.started s.lineage.issued
  calls_distinct : (s.calls.map Call.generation).Nodup
  calls_issued : ∀ c ∈ s.calls, c.generation ≤ s.lineage.issued
  uncalled : ∀ held, s.lineage.slot = some held → held.phase = .scheduled →
    ∀ c ∈ s.calls, c.generation ≠ held.generation
  suited : ∀ t ∈ s.tasks, ∀ held, s.lineage.slot = some held → held.generation = t.generation →
    t.Suits held

theorem ordered_new (strategy : Strategy) : (new strategy).Ordered where
  numbered := numbered_new
  roster := ⟨by simp [new], by simp [new], by simp [new], by simp [new]⟩
  calls_distinct := by simp [new]
  calls_issued := by simp [new]
  uncalled := by simp [new, Lineage.new]
  suited := by simp [new]

theorem Ordered.other {s : System} (o : s.Ordered) {number : Nat} {task t : Task}
    (found : s.task? number = some task) (member : t ∈ s.tasks) (differ : t.number ≠ number) :
    t.generation ≠ task.generation := by
  obtain ⟨present, rfl⟩ := task?_eq_some found
  exact o.roster.other_generation member present differ

theorem Ordered.drop {s : System} (o : s.Ordered) (number : Nat) : (s.drop number).Ordered :=
  ⟨o.numbered, o.roster.filter _, o.calls_distinct, o.calls_issued, o.uncalled,
    fun t member => o.suited t (mem_drop_tasks.mp member).1⟩

theorem Ordered.unregister {s : System} (o : s.Ordered) (g : Nat) :
    ({ s with lineage := s.lineage.unregister g } : System).Ordered :=
  ⟨o.numbered.unregister g, o.roster, o.calls_distinct, o.calls_issued, o.uncalled, o.suited⟩

theorem Ordered.claim {s : System} (o : s.Ordered) {number : Nat} {task : Task} {held : Held}
    (found : s.task? number = some task) (before : s.lineage.slot = some held)
    (own : held.generation = task.generation) (scheduled : held.phase = .scheduled) :
    ({ s with
      lineage := { s.lineage.unregister task.generation with
        slot := some { held with phase := .renewing } }
      calls := ⟨s.now, task.generation, held.lease⟩ :: s.calls }.replace
        { task with stage := .calling held.lease }).Ordered := by
  obtain ⟨member, rfl⟩ := task?_eq_some found
  have bound := o.roster.issued task member
  refine ⟨(o.numbered.unregister task.generation).rephase before .renewing, ?_, ?_, ?_, ?_, ?_⟩
  · exact o.roster.replace member rfl (Nat.le_refl _) bound (Or.inl rfl)
  · refine List.nodup_cons.mpr ⟨?_, o.calls_distinct⟩
    intro earlier
    obtain ⟨c, called, same⟩ := List.mem_map.mp earlier
    exact o.uncalled held before scheduled c called (same.trans own.symm)
  · intro c called
    rcases List.mem_cons.mp called with rfl | earlier
    · exact bound
    · exact o.calls_issued c earlier
  · intro other placed phase
    obtain rfl := Option.some.inj placed
    cases phase
  · intro t present other placed same
    obtain rfl := Option.some.inj placed
    rcases mem_replace_tasks present with rfl | ⟨was, differ⟩
    · exact ⟨rfl, rfl⟩
    · exact absurd (same.symm.trans own) (o.other found was differ)

theorem Ordered.finish {s : System} (o : s.Ordered) {number : Nat} {task : Task}
    {result : Except Fault Lease} {after : Lineage} {next : Next}
    (found : s.task? number = some task)
    (ending : Ending s.lineage s.strategy task.terms.floor task.terms.threshold s.now
      task.generation task.terms.reschedule result after next)
    (final : ∀ generation delay, next ≠ .wait generation delay) :
    ({ s with lineage := after }.drop number).Ordered := by
  have numbered := o.numbered.ending ending
  have le := ending.issued_le
  have roster := (o.roster.mono le).filter (·.number != number)
  have calls_issued : ∀ c ∈ s.calls, c.generation ≤ after.issued :=
    fun c member => Nat.le_trans (o.calls_issued c member) le
  have idle {held : Held} (own : held.generation = task.generation) :
      ∀ t ∈ ({ s with lineage := after }.drop number).tasks,
        held.generation ≠ t.generation := by
    intro t member same
    obtain ⟨was, differ⟩ := mem_drop_tasks.mp member
    exact o.other found was differ (same.symm.trans own)
  have kept (same : after.slot = s.lineage.slot) :
      ({ s with lineage := after }.drop number).Ordered :=
    ⟨numbered, roster, o.calls_distinct, calls_issued,
      fun held before => o.uncalled held (same ▸ before),
      fun t member held before => o.suited t (mem_drop_tasks.mp member).1 held (same ▸ before)⟩
  have emptied (empty : after.slot = none) : ({ s with lineage := after }.drop number).Ordered :=
    ⟨numbered, roster, o.calls_distinct, calls_issued, by simp [empty], by simp [empty]⟩
  have rested {held : Held} (placed : after.slot = some held) (dormant : held.phase = .dormant)
      (foreign : ∀ t ∈ ({ s with lineage := after }.drop number).tasks,
        held.generation ≠ t.generation) : ({ s with lineage := after }.drop number).Ordered := by
    refine ⟨numbered, roster, o.calls_distinct, calls_issued, ?_, ?_⟩
    · intro other before scheduled
      obtain rfl := Option.some.inj (placed.symm.trans before)
      simp [dormant] at scheduled
    · intro t member other before own
      obtain rfl := Option.some.inj (placed.symm.trans before)
      exact absurd own (foreign t member)
  cases ending with
  | stale => exact kept rfl
  | forgotten => exact emptied rfl
  | dropped fault held drop before own => exact rested rfl rfl (idle own)
  | exhausted fault held retryAt keep before own => exact rested rfl rfl (idle own)
  | rested next held deadline id last before own =>
    apply rested rfl rfl
    intro t member same
    have := o.roster.issued t (mem_drop_tasks.mp member).1
    simp at same
    omega
  | outlasted => exact kept rfl
  | overran => exact kept rfl
  | renewed => exact absurd rfl (final _ _)
  | retained => exact absurd rfl (final _ _)

theorem Ordered.resume {s : System} (o : s.Ordered) {number generation delay : Nat} {task : Task}
    {result : Except Fault Lease} {after : Lineage} (found : s.task? number = some task)
    (ending : Ending s.lineage s.strategy task.terms.floor task.terms.threshold s.now
      task.generation task.terms.reschedule result after (.wait generation delay)) :
    ({ s with lineage := after }.replace
      { task with generation, stage := .waiting (s.now + delay) }).Ordered := by
  have numbered := o.numbered.ending ending
  have placed : generation = s.lineage.issued + 1 ∧ after.issued = s.lineage.issued + 1 ∧
      ∃ held, after.slot = some held ∧ held.generation = generation ∧ held.phase = .scheduled := by
    cases ending <;> exact ⟨rfl, rfl, _, rfl, rfl, rfl⟩
  obtain ⟨fresh, issued, held, slot, own, scheduled⟩ := placed
  refine ⟨numbered, ?_, o.calls_distinct, ?_, ?_, ?_⟩
  · exact o.roster.replace (task?_eq_some found).1 rfl ending.issued_le (by simp; omega)
      (Or.inr (by simp; omega))
  · intro c member
    exact Nat.le_trans (o.calls_issued c member) ending.issued_le
  · intro other before _ c member
    obtain rfl := Option.some.inj (slot.symm.trans before)
    have := o.calls_issued c member
    omega
  · intro t member other before same
    obtain rfl := Option.some.inj (slot.symm.trans before)
    rcases mem_replace_tasks member with rfl | ⟨was, _⟩
    · exact scheduled
    · have := o.roster.issued t was
      omega

theorem step_ordered {s : System} (o : s.Ordered) (event : Event) : (s.step event).Ordered := by
  have change := step_change s event
  generalize s.step event = after at change
  cases change with
  | scheduled lease terms deadline fits =>
    refine ⟨o.numbered.replaced lease deadline, ?_, o.calls_distinct, ?_, ?_, ?_⟩
    · simpa using o.roster.append terms _
    · intro c member
      have := o.calls_issued c member
      simp
      omega
    · intro held placed _ c member
      have := o.calls_issued c member
      simp at placed
      subst placed
      simp
      omega
    · intro t member held placed own
      simp at placed
      subst placed
      rcases List.mem_append.mp member with old | fresh
      · have := o.roster.issued t old
        simp at own
        omega
      · obtain rfl := List.mem_singleton.mp fresh
        rfl
  | outlasted lease terms overflow =>
    exact ⟨o.numbered.issue true, o.roster.mono (Nat.le_succ _), o.calls_distinct,
      fun c member => Nat.le_succ_of_le (o.calls_issued c member), o.uncalled, o.suited⟩
  | disabled =>
    exact ⟨o.numbered.disable, o.roster, o.calls_distinct, o.calls_issued,
      by simp [Lineage.disable], by simp [Lineage.disable]⟩
  | passed span => exact ⟨o.1, o.2, o.3, o.4, o.5, o.6⟩
  | claimed number due task held found waiting ripe before own scheduled =>
    exact o.claim found before own scheduled
  | missed number due task found waiting ripe moved =>
    exact (o.unregister task.generation).drop number
  | unfired => exact o
  | stopped number due task found waiting cancelled => exact o.drop number
  | unstopped => exact o
  | resumed number generation delay task lease result after found calling ending =>
    exact o.resume found ending
  | ended number task lease result after next found calling ending final =>
    exact o.finish found ending final
  | unanswered => exact o

theorem run_append (s : System) (first second : List Event) :
    s.run (first ++ second) = (s.run first).run second := List.foldl_append

theorem run_snoc (s : System) (events : List Event) (event : Event) :
    s.run (events ++ [event]) = (s.run events).step event := by
  rw [run_append]
  rfl

theorem run_ordered {s : System} (o : s.Ordered) (events : List Event) :
    (s.run events).Ordered := by
  induction events generalizing s with
  | nil => exact o
  | cons event rest ih => exact ih (step_ordered o event)

end System
end LeaseKeeper.Renewal

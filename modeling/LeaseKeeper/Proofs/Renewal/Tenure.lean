import LeaseKeeper.Proofs.Renewal.Coherence
import LeaseKeeper.Proofs.Renewal.Overlap

/-!
A lineage left alone once a lease was scheduled. Its renew calls are those of a recurrence over the
answers: `plan?` says when each call is made and for which lease. `Course` places a state on that
way; `Tracks` is the invariant, and `Conforms` what it means for an observer.
-/
namespace LeaseKeeper.Renewal

open Lineage LeaseKeeper.Renewal.System

structure Delivery where
  latency : Nat
  result : Except Fault Lease

structure Plan where
  time : Nat
  lease : Lease
  deadline : Nat

inductive Sequel where
  | call (plan : Plan)
  | rest (held : Option Lease)

def Sequel.plan? : Sequel → Option Plan
  | call plan => some plan
  | rest _ => none

/-- A lease that is scheduled after some history and then left alone, with the answers to its renew
calls. A call without an answer stays under way. -/
structure Tenure where
  strategy : Strategy
  opening : List Event
  lease : Lease
  terms : Terms
  script : Nat → Option Delivery

namespace Tenure

def before (r : Tenure) : System := (System.new r.strategy).run r.opening

def begun (r : Tenure) : System := r.before.step (.schedule r.lease r.terms)

def own (r : Tenure) : Nat := r.before.started

/-! ### The recurrence -/

def first (r : Tenure) : Plan where
  time := r.before.now + max r.terms.floor (r.lease.span - r.terms.threshold)
  lease := r.lease
  deadline := r.before.now + r.lease.span

def sequel (r : Tenure) (plan : Plan) (delivery : Delivery) : Sequel :=
  let finish := plan.time + delivery.latency
  match delivery.result with
  | .ok next =>
    if next.hasId = false then .rest none
    else if r.terms.reschedule next then
      .call ⟨finish + max r.terms.floor (next.span - r.terms.threshold), next, finish + next.span⟩
    else .rest (some next)
  | .error fault =>
    if r.strategy.shouldDrop fault = false ∧ finish + r.terms.floor < plan.deadline then
      .call { plan with time := finish + r.terms.floor }
    else .rest (some plan.lease)

def plan? (r : Tenure) : Nat → Option Plan
  | 0 => some r.first
  | n + 1 => (r.plan? n).bind fun plan => (r.script n).bind fun delivery =>
      (r.sequel plan delivery).plan?

theorem plan?_succ {r : Tenure} {n : Nat} {plan next : Plan} {delivery : Delivery}
    (last : r.plan? n = some plan) (answered : r.script n = some delivery)
    (follows : r.sequel plan delivery = .call next) : r.plan? (n + 1) = some next := by
  simp [Tenure.plan?, last, answered, follows, Sequel.plan?]

def Fits (r : Tenure) (plan : Plan) (delivery : Delivery) : Prop :=
  match delivery.result with
  | .ok next => next.hasId = true → plan.time + delivery.latency + next.span ≤ Span.clockEnd
  | .error fault => r.strategy.shouldDrop fault = false →
      plan.time + delivery.latency + r.terms.floor ≤ Span.clockEnd

structure Roomy (r : Tenure) : Prop where
  opening : (System.new r.strategy).fits r.opening = true
  first : r.first.deadline ≤ Span.clockEnd
  answers : ∀ n plan delivery, r.plan? n = some plan → r.script n = some delivery →
    r.Fits plan delivery

/-! ### Being left alone -/

def calls (r : Tenure) (s : System) : List Call := s.calls.reverse.drop r.before.calls.length

def due? (r : Tenure) (s : System) : Option (Nat × Except Fault Lease) :=
  (r.calls s).getLast?.bind fun call => (r.script ((r.calls s).length - 1)).map fun delivery =>
    (call.time + delivery.latency, delivery.result)

def inTime (r : Tenure) (s : System) (time : Nat) (task : Task) : Bool :=
  match task.stage with
  | .waiting due => time ≤ due
  | .calling _ => (r.due? s).all fun due => time ≤ due.1

/-- Time stops for the lease's own task, whose calls are answered as the script has it. Tasks of
earlier leases go on as they like; nothing is scheduled or disabled. -/
def allows (r : Tenure) (s : System) : Event → Bool
  | .schedule _ _ => false
  | .disable => false
  | .pass span => s.tasks.all fun task => task.number != r.own || r.inTime s (s.now + span) task
  | .answer number result => number != r.own || r.due? s = some (s.now, result)
  | .fire _ => true
  | .stop _ => true

def keeps (r : Tenure) (s : System) : List Event → Bool
  | [] => true
  | event :: rest => r.allows s event && r.keeps (s.step event) rest

/-! ### Where the lineage stands -/

/-- Where the lineage is on the way that the recurrence lays out. -/
inductive Course (r : Tenure) (s : System) : Prop where
  | waiting (plan : Plan) (g : Nat) (next : r.plan? (r.calls s).length = some plan)
      (member : ⟨r.own, g, r.terms, .waiting plan.time⟩ ∈ s.tasks)
      (slot : s.lineage.slot = some ⟨g, plan.lease, .scheduled, plan.deadline⟩)
      (live : g ∉ s.lineage.cancelled) (early : s.now ≤ plan.time)
  | calling (plan : Plan) (g n : Nat) (made : (r.calls s).length = n + 1)
      (last : r.plan? n = some plan)
      (awaits : r.due? s = (r.script n).map fun delivery =>
        (plan.time + delivery.latency, delivery.result))
      (member : ⟨r.own, g, r.terms, .calling plan.lease⟩ ∈ s.tasks)
      (slot : s.lineage.slot = some ⟨g, plan.lease, .renewing, plan.deadline⟩)
      (early : ∀ delivery, r.script n = some delivery → s.now ≤ plan.time + delivery.latency)
  | resting (plan : Plan) (delivery : Delivery) (n : Nat) (held : Option Lease)
      (made : (r.calls s).length = n + 1) (last : r.plan? n = some plan)
      (answered : r.script n = some delivery) (final : r.sequel plan delivery = .rest held)
      (past : plan.time + delivery.latency ≤ s.now) (gone : ∀ t ∈ s.tasks, t.number ≠ r.own)
      (current : s.lineage.current = held)
      (dormant : ∀ kept, s.lineage.slot = some kept → kept.phase = .dormant)
      (unmoved : ∀ fault kept, delivery.result = .error fault → s.lineage.slot = some kept →
        kept.deadline = plan.deadline)
  /-- The clock had no room for what the answer leads to. -/
  | lost (plan : Plan) (delivery : Delivery) (n g : Nat) (made : (r.calls s).length = n + 1)
      (last : r.plan? n = some plan) (answered : r.script n = some delivery)
      (strained : ¬ r.Fits plan delivery) (past : plan.time + delivery.latency ≤ s.now)
      (gone : ∀ t ∈ s.tasks, t.number ≠ r.own)
      (slot : s.lineage.slot = some ⟨g, plan.lease, .renewing, plan.deadline⟩)
      (foreign : ∀ t ∈ s.tasks, t.generation ≠ g)

structure Tracks (r : Tenure) (s : System) : Prop where
  ordered : s.Ordered
  strategy : s.strategy = r.strategy
  base : r.before.calls.length ≤ s.calls.length
  planned : ∀ n call, (r.calls s)[n]? = some call →
    ∃ plan, r.plan? n = some plan ∧ call.time = plan.time ∧ call.lease = plan.lease
  course : r.Course s

variable {r : Tenure} {s : System}

theorem calls_congr {s' : System} (same : s'.calls = s.calls) : r.calls s' = r.calls s := by
  simp only [calls, same]

theorem due?_congr {s' : System} (same : s'.calls = s.calls) : r.due? s' = r.due? s := by
  simp only [due?, calls_congr same]

theorem calls_cons {s' : System} {call : Call} (base : r.before.calls.length ≤ s.calls.length)
    (made : s'.calls = call :: s.calls) : r.calls s' = r.calls s ++ [call] := by
  simp only [calls, made, List.reverse_cons]
  exact List.drop_append_of_le_length (by simpa using base)

theorem due?_snoc {s' : System} {calls : List Call} {call : Call}
    (made : r.calls s' = calls ++ [call]) :
    r.due? s' = (r.script calls.length).map fun delivery =>
      (call.time + delivery.latency, delivery.result) := by
  simp [due?, made]

theorem Course.foreign (course : r.Course s) (o : s.Ordered) {t : Task} (member : t ∈ s.tasks)
    (other : t.number ≠ r.own) :
    ∀ held, s.lineage.slot = some held → held.generation ≠ t.generation := by
  intro held before
  cases course with
  | waiting plan g next mine slot =>
    obtain rfl := Option.some.inj (before.symm.trans slot)
    exact o.roster.other_generation mine member (Ne.symm other)
  | calling plan g n made last awaits mine slot =>
    obtain rfl := Option.some.inj (before.symm.trans slot)
    exact o.roster.other_generation mine member (Ne.symm other)
  | resting plan delivery n kept made last answered final past gone current dormant =>
    intro same
    have suits := o.suited t member held before same
    have rests := dormant held before
    cases stage : t.stage <;> simp [Task.Suits, stage, rests] at suits
  | lost plan delivery n g made last answered strained past gone slot foreign =>
    obtain rfl := Option.some.inj (before.symm.trans slot)
    exact Ne.symm (foreign t member)

theorem Course.keep (course : r.Course s) {s' : System} (calls : s'.calls = s.calls)
    (now : s'.now = s.now) (slot : s'.lineage.slot = s.lineage.slot)
    (cancelled : s'.lineage.cancelled = s.lineage.cancelled)
    (stays : ∀ t ∈ s.tasks, t.number = r.own → t ∈ s'.tasks)
    (tasks : ∀ t ∈ s'.tasks, t ∈ s.tasks) : r.Course s' := by
  have made := calls_congr (r := r) calls
  have current : s'.lineage.current = s.lineage.current := by simp only [Lineage.current, slot]
  cases course with
  | waiting plan g next member before live early =>
    exact .waiting plan g (made ▸ next) (stays _ member rfl) (slot ▸ before) (cancelled ▸ live)
      (now ▸ early)
  | calling plan g n count last awaits member before early =>
    exact .calling plan g n (made ▸ count) last (due?_congr (r := r) calls ▸ awaits)
      (stays _ member rfl) (slot ▸ before) (now ▸ early)
  | resting plan delivery n held count last answered final past gone content dormant unmoved =>
    exact .resting plan delivery n held (made ▸ count) last answered final (now ▸ past)
      (fun t member => gone t (tasks t member)) (current ▸ content) (slot ▸ dormant)
      (slot ▸ unmoved)
  | lost plan delivery n g count last answered strained past gone before foreign =>
    exact .lost plan delivery n g (made ▸ count) last answered strained (now ▸ past)
      (fun t member => gone t (tasks t member)) (slot ▸ before)
      (fun t member => foreign t (tasks t member))

theorem Course.pass (course : r.Course s) {span : Nat}
    (allowed : r.allows s (.pass span) = true) :
    r.Course { s with now := s.now + span } := by
  have inTime {t : Task} (member : t ∈ s.tasks) (own : t.number = r.own) :
      r.inTime s (s.now + span) t = true := by
    have each := List.all_eq_true.mp allowed t member
    simpa [own] using each
  cases course with
  | waiting plan g next member slot live early =>
    have due := inTime member rfl
    exact .waiting plan g next member slot live (by simpa [Tenure.inTime] using due)
  | calling plan g n made last awaits member slot early =>
    refine .calling plan g n made last awaits member slot ?_
    intro delivery answer
    have due := inTime member rfl
    simpa [Tenure.inTime, awaits, answer] using due
  | resting plan delivery n held made last answered final past gone current dormant unmoved =>
    exact .resting plan delivery n held made last answered final (Nat.le_add_right_of_le past)
      gone current dormant unmoved
  | lost plan delivery n g made last answered strained past gone slot foreign =>
    exact .lost plan delivery n g made last answered strained (Nat.le_add_right_of_le past) gone
      slot foreign

/-! ### The answer to a call -/

inductive Heeds (r : Tenure) (plan : Plan) (delivery : Delivery) (g : Nat) (after : Lineage) :
    Next → Prop where
  | again (generation delay : Nat) (next : Plan) (follows : r.sequel plan delivery = .call next)
      (time : next.time = plan.time + delivery.latency + delay)
      (slot : after.slot = some ⟨generation, next.lease, .scheduled, next.deadline⟩)
      (live : generation ∉ after.cancelled) : Heeds r plan delivery g after (.wait generation delay)
  | ended (held : Option Lease) (follows : r.sequel plan delivery = .rest held)
      (current : after.current = held)
      (dormant : ∀ kept, after.slot = some kept → kept.phase = .dormant)
      (unmoved : ∀ fault kept, delivery.result = .error fault → after.slot = some kept →
        kept.deadline = plan.deadline) : Heeds r plan delivery g after .stop
  | lost (strained : ¬ r.Fits plan delivery)
      (slot : after.slot = some ⟨g, plan.lease, .renewing, plan.deadline⟩) :
      Heeds r plan delivery g after .crash

theorem deadline?_eq_some {now span deadline : Nat} (fits : deadline? now span = some deadline) :
    now + span ≤ Span.clockEnd ∧ deadline = now + span := by
  simp only [deadline?] at fits
  split at fits
  · exact ⟨‹_›, (Option.some.inj fits).symm⟩
  · cases fits

theorem deadline?_eq_none {now span : Nat} (overflow : deadline? now span = none) :
    ¬ now + span ≤ Span.clockEnd := by
  simpa [deadline?] using overflow

theorem heeds {l after : Lineage} {next : Next} {plan : Plan} {delivery : Delivery} {g : Nat}
    (numbered : l.Numbered)
    (slot : l.slot = some ⟨g, plan.lease, .renewing, plan.deadline⟩)
    (ending : Ending l r.strategy r.terms.floor r.terms.threshold (plan.time + delivery.latency) g
      r.terms.reschedule delivery.result after next) : r.Heeds plan delivery g after next := by
  have fresh := numbered.fresh.2
  obtain ⟨latency, result⟩ := delivery
  dsimp only at ending
  cases ending with
  | stale _ moved => exact absurd rfl (moved _ slot rfl)
  | forgotten next held empty before own =>
    exact .ended none (by simp [sequel, empty]) rfl (by simp) (by simp)
  | dropped fault held drop before own =>
    obtain rfl := Option.some.inj (before.symm.trans slot)
    exact .ended (some plan.lease) (by simp [sequel, drop]) rfl (by simp) (by simp)
  | renewed next held deadline id again before own renewing fits =>
    obtain ⟨_, rfl⟩ := deadline?_eq_some fits
    exact .again _ _ ⟨_, next, plan.time + latency + next.span⟩
      (by simp only [sequel, id, again]; rfl) rfl rfl fresh
  | rested next held deadline id last before own renewing fits =>
    exact .ended (some next) (by simp [sequel, id, last]) rfl (by simp) (by simp)
  | retained fault held retryAt keep before own renewing fits early =>
    obtain rfl := Option.some.inj (before.symm.trans slot)
    obtain ⟨_, rfl⟩ := deadline?_eq_some fits
    exact .again _ _ ⟨_, plan.lease, plan.deadline⟩
      (by simp only [sequel, keep, true_and]; exact if_pos early) rfl rfl fresh
  | exhausted fault held retryAt keep before own renewing fits late =>
    obtain rfl := Option.some.inj (before.symm.trans slot)
    obtain ⟨_, rfl⟩ := deadline?_eq_some fits
    exact .ended (some plan.lease) (by simpa [sequel, keep] using late) rfl (by simp) (by simp)
  | outlasted next held id before own renewing overflow =>
    refine .lost ?_ slot
    intro fits
    exact deadline?_eq_none overflow (fits id)
  | overran fault held keep before own renewing overflow =>
    refine .lost ?_ slot
    intro fits
    exact deadline?_eq_none overflow (fits keep)

/-! ### Every step -/

theorem Course.waits (course : r.Course s) (o : s.Ordered) {due : Nat} {task : Task}
    (member : task ∈ s.tasks) (own : task.number = r.own) (waiting : task.stage = .waiting due) :
    ∃ held, s.lineage.slot = some held ∧ held.phase = .scheduled ∧
      held.generation = task.generation ∧ task.generation ∉ s.lineage.cancelled := by
  cases course with
  | waiting plan g next mine slot live early =>
    obtain rfl := o.roster.same_number mine member own.symm
    exact ⟨_, slot, rfl, rfl, live⟩
  | calling plan g n made last awaits mine =>
    obtain rfl := o.roster.same_number mine member own.symm
    cases waiting
  | resting plan delivery n held made last answered final past gone =>
    exact absurd own (gone task member)
  | lost plan delivery n g made last answered strained past gone =>
    exact absurd own (gone task member)

theorem Course.drop (course : r.Course s) {number : Nat} (other : number ≠ r.own)
    {line : Lineage} (slot : line.slot = s.lineage.slot)
    (cancelled : line.cancelled = s.lineage.cancelled) :
    r.Course ({ s with lineage := line }.drop number) := by
  refine course.keep rfl rfl slot cancelled ?_ fun t member => (mem_drop_tasks.mp member).1
  intro t member own
  exact mem_drop_tasks.mpr ⟨member, fun same => other (same.symm.trans own)⟩

theorem Course.claim (course : r.Course s) (o : s.Ordered) {number due : Nat} {task : Task}
    {held : Held} (found : s.task? number = some task) (waiting : task.stage = .waiting due)
    (before : s.lineage.slot = some held) (own : held.generation = task.generation)
    (scheduled : held.phase = .scheduled) :
    ∃ plan g, task = ⟨r.own, g, r.terms, .waiting plan.time⟩ ∧ number = r.own ∧
      held = ⟨g, plan.lease, .scheduled, plan.deadline⟩ ∧
      r.plan? (r.calls s).length = some plan ∧ s.now ≤ plan.time := by
  obtain ⟨member, same⟩ := task?_eq_some found
  cases course with
  | waiting plan g next mine slot live early =>
    obtain rfl := Option.some.inj (before.symm.trans slot)
    obtain rfl := o.roster.unique mine member own
    exact ⟨plan, g, rfl, same.symm, rfl, next, early⟩
  | calling plan g n made last awaits mine slot =>
    obtain rfl := Option.some.inj (before.symm.trans slot)
    cases scheduled
  | resting plan delivery n kept made last answered final past gone current dormant =>
    rw [dormant held before] at scheduled
    cases scheduled
  | lost plan delivery n g made last answered strained past gone slot =>
    obtain rfl := Option.some.inj (before.symm.trans slot)
    cases scheduled

theorem Tracks.planned_snoc (t : r.Tracks s) {calls : List Call} {call : Call} {plan : Plan}
    (made : calls = r.calls s ++ [call]) (next : r.plan? (r.calls s).length = some plan)
    (time : call.time = plan.time) (lease : call.lease = plan.lease) :
    ∀ n other, calls[n]? = some other →
      ∃ plan, r.plan? n = some plan ∧ other.time = plan.time ∧ other.lease = plan.lease := by
  intro n other present
  rw [made] at present
  rcases Nat.lt_trichotomy n (r.calls s).length with earlier | rfl | later
  · rw [List.getElem?_append_left earlier] at present
    exact t.planned n other present
  · rw [List.getElem?_concat_length] at present
    obtain rfl := Option.some.inj present
    exact ⟨plan, next, time, lease⟩
  · rw [List.getElem?_eq_none (by simp; omega)] at present
    cases present

theorem Tracks.fire (t : r.Tracks s) (number : Nat) : r.Tracks (s.step (.fire number)) := by
  have ordered := step_ordered t.ordered (.fire number)
  have change := step_change s (.fire number)
  generalize s.step (.fire number) = after at change ordered
  cases change with
  | claimed number due task held found waiting ripe before under scheduled =>
    obtain ⟨plan, g, rfl, rfl, rfl, next, early⟩ :=
      t.course.claim t.ordered found waiting before under scheduled
    obtain rfl := Stage.waiting.inj waiting
    have time : s.now = plan.time := by omega
    refine ⟨ordered, t.strategy, Nat.le_succ_of_le t.base,
      t.planned_snoc (calls_cons t.base rfl) next time rfl, ?_⟩
    refine .calling plan g (r.calls s).length ?_ next ?_ (replaced_mem (task?_eq_some found).1 rfl)
      rfl fun delivery _ => time ▸ Nat.le_add_right _ _
    · rw [calls_cons t.base rfl, List.length_append, List.length_singleton]
    · rw [due?_snoc (calls_cons t.base rfl), time]
  | missed number due task found waiting ripe moved =>
    obtain ⟨member, rfl⟩ := task?_eq_some found
    have other : task.number ≠ r.own := by
      intro own
      obtain ⟨held, before, scheduled, under, _⟩ := t.course.waits t.ordered member own waiting
      exact moved held before under scheduled
    exact ⟨ordered, t.strategy, t.base, t.planned, t.course.drop other rfl rfl⟩
  | unfired => exact t

theorem Tracks.stop (t : r.Tracks s) (number : Nat) : r.Tracks (s.step (.stop number)) := by
  have ordered := step_ordered t.ordered (.stop number)
  have change := step_change s (.stop number)
  generalize s.step (.stop number) = after at change ordered
  cases change with
  | stopped number due task found waiting cancelled =>
    obtain ⟨member, rfl⟩ := task?_eq_some found
    have other : task.number ≠ r.own := by
      intro own
      obtain ⟨_, _, _, _, live⟩ := t.course.waits t.ordered member own waiting
      exact live (by simpa [isCancelled] using cancelled)
    exact ⟨ordered, t.strategy, t.base, t.planned, t.course.drop other rfl rfl⟩
  | unstopped => exact t

theorem Tracks.pass (t : r.Tracks s) {span : Nat} (allowed : r.allows s (.pass span) = true) :
    r.Tracks (s.step (.pass span)) :=
  ⟨step_ordered t.ordered (.pass span), t.strategy, t.base, t.planned, t.course.pass allowed⟩

theorem Tracks.own_call (t : r.Tracks s) {number : Nat} {task : Task} {lease : Lease}
    {result : Except Fault Lease} (allowed : r.allows s (.answer number result) = true)
    (found : s.task? number = some task) (calling : task.stage = .calling lease)
    (own : number = r.own) :
    ∃ plan g n delivery, task = ⟨r.own, g, r.terms, .calling plan.lease⟩ ∧
      (r.calls s).length = n + 1 ∧ r.plan? n = some plan ∧ r.script n = some delivery ∧
      s.now = plan.time + delivery.latency ∧ result = delivery.result ∧
      s.lineage.slot = some ⟨g, plan.lease, .renewing, plan.deadline⟩ := by
  subst own
  obtain ⟨member, same⟩ := task?_eq_some found
  cases t.course with
  | waiting plan g _ mine =>
    obtain rfl := t.ordered.roster.same_number mine member same.symm
    cases calling
  | calling plan g n made last awaits mine slot =>
    obtain rfl := t.ordered.roster.same_number mine member same.symm
    have due : r.due? s = some (s.now, result) := by simpa [allows] using allowed
    rw [awaits, Option.map_eq_some_iff] at due
    obtain ⟨delivery, answered, given⟩ := due
    obtain ⟨time, rfl⟩ := Prod.mk.inj given
    exact ⟨plan, g, n, delivery, rfl, made, last, answered, time.symm, rfl, slot⟩
  | resting plan delivery n held made last answered final past gone =>
    exact absurd same (gone task member)
  | lost plan delivery n g made last answered strained past gone =>
    exact absurd same (gone task member)

theorem Tracks.answer (t : r.Tracks s) {number : Nat} {result : Except Fault Lease}
    (allowed : r.allows s (.answer number result) = true) :
    r.Tracks (s.step (.answer number result)) := by
  have ordered := step_ordered t.ordered (.answer number result)
  have change := step_change s (.answer number result)
  generalize s.step (.answer number result) = after at change ordered
  cases change with
  | resumed number generation delay task lease result line found calling ending =>
    obtain ⟨member, same⟩ := task?_eq_some found
    by_cases own : number = r.own
    · obtain ⟨plan, g, n, delivery, rfl, made, last, answered, time, rfl, before⟩ :=
        t.own_call allowed found calling own
      rw [t.strategy, time] at ending
      cases heeds t.ordered.numbered before ending with
      | again _ _ next follows due slot live =>
        refine ⟨ordered, t.strategy, t.base, t.planned, ?_⟩
        refine .waiting next generation ?_ ?_ slot live (due ▸ time ▸ Nat.le_add_right _ _)
        · exact (congrArg r.plan? made).trans (plan?_succ last answered follows)
        · rw [due, ← time]
          exact replaced_mem member rfl
    · have foreign := t.course.foreign t.ordered member (same ▸ own)
      cases ending with
      | renewed next held deadline id again before under => exact absurd under (foreign held before)
      | retained fault held retryAt keep before under => exact absurd under (foreign held before)
  | ended number task lease result line next found calling ending final =>
    obtain ⟨member, same⟩ := task?_eq_some found
    by_cases own : number = r.own
    · obtain ⟨plan, g, n, delivery, rfl, made, last, answered, time, rfl, before⟩ :=
        t.own_call allowed found calling own
      rw [t.strategy, time] at ending
      refine ⟨ordered, t.strategy, t.base, t.planned, ?_⟩
      have gone : ∀ t ∈ ({ s with lineage := line }.drop number).tasks, t.number ≠ r.own :=
        fun t member => own ▸ (mem_drop_tasks.mp member).2
      cases heeds t.ordered.numbered before ending with
      | again => exact absurd rfl (final _ _)
      | ended held follows current dormant unmoved =>
        exact .resting plan delivery n held made last answered follows (Nat.le_of_eq time.symm)
          gone current dormant unmoved
      | lost strained slot =>
        refine .lost plan delivery n g made last answered strained (Nat.le_of_eq time.symm) gone
          slot ?_
        intro other present under
        obtain ⟨was, differ⟩ := mem_drop_tasks.mp present
        exact differ ((t.ordered.roster.unique was member under) ▸ same)
    · have foreign := t.course.foreign t.ordered member (same ▸ own)
      obtain rfl := ending.unchanged foreign
      exact ⟨ordered, t.strategy, t.base, t.planned, t.course.drop own rfl rfl⟩
  | unanswered => exact t

theorem Tracks.step (t : r.Tracks s) {event : Event} (allowed : r.allows s event = true) :
    r.Tracks (s.step event) := by
  cases event with
  | schedule => cases allowed
  | disable => cases allowed
  | pass span => exact t.pass allowed
  | fire number => exact t.fire number
  | stop number => exact t.stop number
  | answer number result => exact t.answer allowed

theorem Tracks.run (t : r.Tracks s) {events : List Event} (kept : r.keeps s events = true) :
    r.Tracks (s.run events) := by
  induction events generalizing s with
  | nil => exact t
  | cons event rest ih =>
    obtain ⟨allowed, later⟩ := Bool.and_eq_true_iff.mp kept
    exact ih (t.step allowed) later

theorem step_strategy (s : System) (event : Event) : (s.step event).strategy = s.strategy := by
  have change := step_change s event
  generalize s.step event = after at change
  cases change <;> rfl

theorem run_strategy (s : System) (events : List Event) :
    (s.run events).strategy = s.strategy := by
  induction events generalizing s with
  | nil => rfl
  | cons event rest ih => exact (ih (s.step event)).trans (step_strategy s event)

theorem tracks_begun (room : r.first.deadline ≤ Span.clockEnd) : r.Tracks r.begun := by
  have ordered : r.before.Ordered := run_ordered (ordered_new r.strategy) r.opening
  have fits : deadline? r.before.now r.lease.span = some r.first.deadline := if_pos room
  have begun : r.begun =
      { r.before with
        lineage := r.before.lineage.replaced r.lease r.first.deadline
        tasks := r.before.tasks ++ [⟨r.own, r.before.lineage.issued + 1, r.terms,
          .waiting r.first.time⟩]
        started := r.before.started + 1 } := by
    simp only [Tenure.begun, System.step, schedule, install_fits fits]
    rfl
  have made : r.calls r.begun = [] := by simp [begun, calls]
  refine ⟨step_ordered ordered _, ?_, ?_, by simp [made], ?_⟩
  · rw [begun]
    exact run_strategy (System.new r.strategy) r.opening
  · simp [begun]
  · refine .waiting r.first (r.before.lineage.issued + 1) (by rw [made]; rfl) ?_ ?_ ?_ ?_
    · rw [begun]
      exact List.mem_append_right _ List.mem_cons_self
    · rw [begun]
      exact replaced_slot _ _ _
    · intro cancelled
      rw [begun] at cancelled
      rcases mem_replaced_cancelled cancelled with old | ⟨held, before, same⟩
      · exact ordered.numbered.fresh.2 old
      · have := ordered.numbered.slot held before
        omega
    · rw [begun]
      exact Nat.le_add_right _ _

theorem run_tracks (room : r.first.deadline ≤ Span.clockEnd) {later : List Event}
    (kept : r.keeps r.begun later = true) : r.Tracks (r.begun.run later) :=
  (tracks_begun room).run kept

/-! ### Going on -/

theorem keeps_append (s : System) (first second : List Event) :
    r.keeps s (first ++ second) = (r.keeps s first && r.keeps (s.run first) second) := by
  induction first generalizing s with
  | nil => rfl
  | cons event rest ih =>
    simp only [List.cons_append, keeps, ih, Bool.and_assoc]
    rfl

theorem Tracks.allows_pass (t : r.Tracks s) {task : Task} (member : task ∈ s.tasks)
    (own : task.number = r.own) {span : Nat}
    (inTime : r.inTime s (s.now + span) task = true) : r.allows s (.pass span) = true := by
  apply List.all_eq_true.mpr
  intro other present
  by_cases same : other.number = r.own
  · obtain rfl := t.ordered.roster.same_number present member (same.trans own.symm)
    simp [inTime]
  · simp [same]

theorem Tracks.calls_fire (t : r.Tracks s) {plan : Plan} {g : Nat}
    (member : ⟨r.own, g, r.terms, .waiting plan.time⟩ ∈ s.tasks)
    (slot : s.lineage.slot = some ⟨g, plan.lease, .scheduled, plan.deadline⟩)
    (ripe : plan.time ≤ s.now) :
    (r.calls (s.step (.fire r.own))).length = (r.calls s).length + 1 := by
  have change := step_change s (.fire r.own)
  have here := t.ordered.task?_of_mem member
  generalize s.step (.fire r.own) = after at change
  cases change with
  | claimed number due task held found waiting late before under scheduled =>
    rw [calls_cons t.base rfl, List.length_append, List.length_singleton]
  | missed number due task found waiting late moved =>
    obtain rfl := Option.some.inj (here.symm.trans found)
    exact absurd rfl (moved _ slot rfl)
  | unfired number idle =>
    have ahead := idle _ _ here rfl
    omega

theorem Tracks.serve (t : r.Tracks s) {plan : Plan} {g : Nat}
    (member : ⟨r.own, g, r.terms, .waiting plan.time⟩ ∈ s.tasks)
    (slot : s.lineage.slot = some ⟨g, plan.lease, .scheduled, plan.deadline⟩)
    (early : s.now ≤ plan.time) :
    ∃ rest, r.keeps s rest = true ∧ (r.calls (s.run rest)).length = (r.calls s).length + 1 := by
  have reached : s.now + (plan.time - s.now) = plan.time := by omega
  have allowed : r.allows s (.pass (plan.time - s.now)) = true :=
    t.allows_pass member rfl (by simp [inTime, reached])
  have made := (t.pass allowed).calls_fire member slot (Nat.le_of_eq reached.symm)
  refine ⟨[.pass (plan.time - s.now), .fire r.own], ?_, made⟩
  rw [keeps, allowed]
  rfl

theorem step_answer_calls (s : System) (number : Nat) (result : Except Fault Lease) :
    (s.step (.answer number result)).calls = s.calls := by
  have change := step_change s (.answer number result)
  generalize s.step (.answer number result) = after at change
  cases change <;> rfl

theorem answered_not_calling (o : s.Ordered) {number : Nat} {result : Except Fault Lease}
    {task : Task} (member : task ∈ (s.step (.answer number result)).tasks)
    (same : task.number = number) : task.isCalling = false := by
  have change := step_change s (.answer number result)
  generalize s.step (.answer number result) = after at change member
  cases change with
  | resumed number generation delay other lease result line found =>
    rcases mem_replace_tasks member with rfl | ⟨_, differ⟩
    · rfl
    · exact absurd (same.trans (task?_eq_some found).2.symm) differ
  | ended => exact absurd same (mem_drop_tasks.mp member).2
  | unanswered number result idle =>
    apply Bool.eq_false_iff.mpr
    intro calling
    obtain ⟨lease, stage⟩ := task.isCalling_iff.mp calling
    exact idle task lease (same ▸ o.task?_of_mem member) stage

theorem Tracks.reply (t : r.Tracks s) {plan : Plan} {g n : Nat} {delivery : Delivery}
    (member : ⟨r.own, g, r.terms, .calling plan.lease⟩ ∈ s.tasks)
    (awaits : r.due? s = (r.script n).map fun delivery =>
      (plan.time + delivery.latency, delivery.result))
    (answered : r.script n = some delivery) (early : s.now ≤ plan.time + delivery.latency) :
    ∃ rest, r.keeps s rest = true ∧ r.calls (s.run rest) = r.calls s ∧
      ∀ task ∈ (s.run rest).tasks, task.number = r.own → task.isCalling = false := by
  let span := plan.time + delivery.latency - s.now
  have reached : s.now + span = plan.time + delivery.latency := by omega
  have due : r.due? s = some (s.now + span, delivery.result) := by
    rw [awaits, answered, Option.map_some, reached]
  have passes : r.allows s (.pass span) = true :=
    t.allows_pass member rfl (by simp [inTime, due])
  have answers : r.allows (s.step (.pass span)) (.answer r.own delivery.result) = true := by
    have later : r.due? (s.step (.pass span)) = r.due? s := due?_congr rfl
    simp only [allows, bne_self_eq_false, Bool.false_or, later, due]
    exact decide_eq_true rfl
  refine ⟨[.pass span, .answer r.own delivery.result], by simp [keeps, passes, answers], ?_, ?_⟩
  · exact (calls_congr (step_answer_calls _ _ _)).trans (calls_congr rfl)
  · intro task present same
    exact answered_not_calling (t.pass passes).ordered present same

theorem Tracks.onward (t : r.Tracks s)
    (answers : ∀ n, (r.calls s).length = n + 1 → ∃ delivery, r.script n = some delivery) :
    ∃ rest, r.keeps s rest = true ∧ ((r.calls (s.run rest)).length = (r.calls s).length + 1 ∨
      (r.calls (s.run rest)).length = (r.calls s).length ∧
        ∀ task ∈ (s.run rest).tasks, task.number ≠ r.own) := by
  cases t.course with
  | waiting plan g next member slot live early =>
    obtain ⟨rest, kept, more⟩ := t.serve member slot early
    exact ⟨rest, kept, Or.inl more⟩
  | calling plan g n made last awaits member slot early =>
    obtain ⟨delivery, answered⟩ := answers n made
    obtain ⟨rest, kept, same, silent⟩ := t.reply member awaits answered (early delivery answered)
    have t' := t.run kept
    cases t'.course with
    | waiting plan g next member slot live early =>
      obtain ⟨rest', kept', more⟩ := t'.serve member slot early
      refine ⟨rest ++ rest', by simp [keeps_append, kept, kept'], Or.inl ?_⟩
      rw [run_append, more, same]
    | calling plan g n made last awaits member =>
      have spoken := silent _ member rfl
      cases spoken
    | resting plan delivery n held made last answered final past gone =>
      exact ⟨rest, kept, Or.inr ⟨by rw [same], gone⟩⟩
    | lost plan delivery n g made last answered strained past gone =>
      exact ⟨rest, kept, Or.inr ⟨by rw [same], gone⟩⟩
  | resting plan delivery n held made last answered final past gone =>
    exact ⟨[], rfl, Or.inr ⟨rfl, gone⟩⟩
  | lost plan delivery n g made last answered strained past gone =>
    exact ⟨[], rfl, Or.inr ⟨rfl, gone⟩⟩

end Tenure
end LeaseKeeper.Renewal

import LeaseKeeper.Proofs.Renewal.Order
import Mathlib.Data.List.Perm.Basic

/-!
What a schedule leaves behind whose lease outlasts the clock. The timer of its generation stays in
the register; everything later goes on as if nothing had happened, with generations one higher, and
the timer counts as pending until the lineage is disabled. `Skips` relates the two runs.
-/
namespace LeaseKeeper

def skip (g n : Nat) : Nat := if n ≤ g then n else n + 1

theorem skip_of_le {g n : Nat} (le : n ≤ g) : skip g n = n := if_pos le

theorem skip_succ {g n : Nat} (le : g ≤ n) : skip g (n + 1) = n + 1 + 1 := if_neg (by omega)

theorem skip_inj {g m n : Nat} : skip g m = skip g n ↔ m = n := by
  unfold skip
  split <;> split <;> omega

theorem skip_ne (g n : Nat) : skip g n ≠ g + 1 := by
  unfold skip
  split <;> omega

def Held.skip (g : Nat) (held : Held) : Held :=
  { held with generation := LeaseKeeper.skip g held.generation }

def Next.skip (g : Nat) : Next → Next
  | .stop => .stop
  | .wait generation delay => .wait (LeaseKeeper.skip g generation) delay
  | .crash => .crash

namespace Lineage

/-- The second lineage is the first one, the number after `g` skipped, with more timers under it. -/
structure Skips (g : Nat) (left : List Nat) (l l' : Lineage) : Prop where
  given : g ≤ l.issued
  issued : l'.issued = l.issued + 1
  slot : l'.slot = l.slot.map (Held.skip g)
  stray : ∀ n ∈ left, n = g + 1
  timers : l'.timers.Perm (left ++ l.timers.map (skip g))
  cancelled : ∀ n, skip g n ∈ l'.cancelled ↔ n ∈ l.cancelled

variable {g : Nat} {left : List Nat} {l l' : Lineage}

namespace Skips

theorem mem_timers (k : Skips g left l l') (n : Nat) : skip g n ∈ l'.timers ↔ n ∈ l.timers := by
  rw [k.timers.mem_iff, List.mem_append, List.mem_map]
  constructor
  · rintro (stray | ⟨m, member, same⟩)
    · exact absurd (k.stray _ stray) (skip_ne g n)
    · exact skip_inj.mp same ▸ member
  · exact fun member => Or.inr ⟨n, member, rfl⟩

theorem pending (k : Skips g left l l') : l'.pending = left.length + l.pending := by
  simpa [Lineage.pending] using k.timers.length_eq

theorem filter_timers (k : Skips g left l l') (n : Nat) :
    (l'.timers.filter (· != skip g n)).Perm
      (left ++ (l.timers.filter (· != n)).map (skip g)) := by
  have stays : left.filter (· != skip g n) = left := by
    apply List.filter_eq_self.mpr
    intro m member
    have stray := k.stray m member
    have differ := skip_ne g n
    simpa using fun same => differ (same.symm.trans stray)
  have same : (l.timers.map (skip g)).filter (· != skip g n) =
      (l.timers.filter (· != n)).map (skip g) := by
    rw [List.filter_map]
    congr 1
    apply List.filter_congr
    intro m _
    simp [bne, skip_inj]
  have filtered := k.timers.filter (· != skip g n)
  rwa [List.filter_append, stays, same] at filtered

theorem unregister (k : Skips g left l l') (n : Nat) :
    Skips g left (l.unregister n) (l'.unregister (skip g n)) :=
  ⟨k.given, k.issued, k.slot, k.stray, k.filter_timers n, k.cancelled⟩

theorem place (k : Skips g left l l') (slot : Option Held) :
    Skips g left { l with slot } { l' with slot := slot.map (Held.skip g) } :=
  ⟨k.given, k.issued, rfl, k.stray, k.timers, k.cancelled⟩

theorem next (k : Skips g left l l') : l'.issued + 1 = skip g (l.issued + 1) := by
  rw [k.issued, skip_succ k.given]

theorem issue (k : Skips g left l l') (withTimer : Bool) :
    Skips g left (l.issue withTimer) (l'.issue withTimer) := by
  have given : g ≤ l.issued + 1 := Nat.le_succ_of_le k.given
  have issued : l'.issued + 1 = l.issued + 1 + 1 := congrArg Nat.succ k.issued
  refine ⟨given, issued, k.slot, k.stray, ?_, k.cancelled⟩
  cases withTimer with
  | false => exact k.timers
  | true =>
    have fresh : ((l'.issued + 1) :: l'.timers).Perm
        ((l'.issued + 1) :: (left ++ l.timers.map (skip g))) := k.timers.cons _
    rw [k.next] at fresh
    simpa [Lineage.issue, k.next] using fresh.trans List.perm_middle.symm

theorem cancel (k : Skips g left l l') (n : Nat) :
    Skips g left (l.cancel n) (l'.cancel (skip g n)) := by
  have same := k.mem_timers n
  by_cases member : n ∈ l.timers
  · have member' := same.mpr member
    simp only [Lineage.cancel, List.contains_iff_mem, member, member', if_true]
    refine ⟨k.given, k.issued, k.slot, k.stray, k.filter_timers n, ?_⟩
    intro m
    simp only [List.mem_cons, skip_inj, k.cancelled m]
  · have absent : skip g n ∉ l'.timers := fun member' => member (same.mp member')
    simpa only [Lineage.cancel, List.contains_iff_mem, member, absent, if_false] using k

theorem replaced (k : Skips g left l l') (lease : Lease) (deadline : Nat) :
    Skips g left (l.replaced lease deadline) (l'.replaced lease deadline) := by
  have placed := (k.issue true).place (some ⟨l.issued + 1, lease, .scheduled, deadline⟩)
  simp only [Option.map_some, Held.skip, ← k.next] at placed
  cases before : l.slot with
  | none => simpa [Lineage.replaced, before, k.slot] using placed
  | some old =>
    simpa [Lineage.replaced, before, k.slot, Held.skip] using placed.cancel old.generation

theorem install (k : Skips g left l l') (now : Nat) (lease : Lease) :
    Skips g left (l.install now lease).1 (l'.install now lease).1 ∧
      (l'.install now lease).2 = (l.install now lease).2.map (skip g) := by
  cases fits : deadline? now lease.span with
  | none =>
    rw [install_overflow fits, install_overflow fits]
    exact ⟨k.issue true, rfl⟩
  | some deadline =>
    rw [install_fits fits, install_fits fits]
    exact ⟨k.replaced lease deadline, congrArg some k.next⟩

theorem disable (k : Skips g left l l') : Skips g [] l.disable.1 l'.disable.1 := by
  refine ⟨k.given, k.issued, rfl, by simp, List.Perm.refl _, ?_⟩
  intro n
  simp only [Lineage.disable, List.mem_append, k.mem_timers, k.cancelled]

theorem claim (k : Skips g left l l') (n : Nat) :
    Skips g left (l.claim n).1 (l'.claim (skip g n)).1 ∧
      (l'.claim (skip g n)).2 = (l.claim n).2 := by
  cases before : l.slot with
  | none => simpa [Lineage.claim, before, k.slot] using k
  | some held =>
    by_cases mine : held.generation = n ∧ held.phase = .scheduled
    · have placed := k.place (some { held with phase := .renewing })
      simpa [Lineage.claim, before, k.slot, Held.skip, skip_inj, mine] using placed
    · simpa [Lineage.claim, before, k.slot, Held.skip, skip_inj, mine] using k

theorem fire (k : Skips g left l l') (n : Nat) :
    Skips g left (l.fire n).1 (l'.fire (skip g n)).1 ∧ (l'.fire (skip g n)).2 = (l.fire n).2 :=
  (k.unregister n).claim n

theorem claimed? (k : Skips g left l l') (n : Nat) :
    l'.claimed? (skip g n) = (l.claimed? n).map (Held.skip g) := by
  rw [Lineage.claimed?, Lineage.claimed?, k.slot]
  cases l.slot with
  | none => rfl
  | some held =>
    have same : (skip g held.generation == skip g n) = (held.generation == n) := by
      rw [Bool.eq_iff_iff, beq_iff_eq, beq_iff_eq, skip_inj]
    by_cases mine : (held.generation == n && held.phase == .renewing) = true
    · simp [Option.filter_some, Held.skip, same, mine]
    · simp [Option.filter_some, Held.skip, same, mine]

theorem advance (k : Skips g left l l') (n now : Nat) (lease : Lease) (again : Bool)
    (delay : Nat) :
    Skips g left (l.advance n now lease again delay).1
        (l'.advance (skip g n) now lease again delay).1 ∧
      (l'.advance (skip g n) now lease again delay).2 =
        (l.advance n now lease again delay).2.skip g := by
  have claimed := k.claimed? n
  have issued := k.issue again
  unfold Lineage.advance
  cases found : l.claimed? n with
  | none =>
    rw [found] at claimed
    simpa [claimed, Next.skip] using k
  | some held =>
    rw [found] at claimed
    cases fits : deadline? now lease.span with
    | none => simpa [claimed, Next.skip] using issued
    | some deadline =>
      cases again with
      | true =>
        have placed := issued.place (some ⟨l.issued + 1, lease, .scheduled, deadline⟩)
        simpa [claimed, Next.skip, Held.skip, Lineage.issue, k.next] using placed
      | false =>
        have placed := issued.place (some ⟨l.issued + 1, lease, .dormant, deadline⟩)
        simpa [claimed, Next.skip, Held.skip, Lineage.issue, k.next] using placed

theorem retain (k : Skips g left l l') (n now retryIn : Nat) :
    Skips g left (l.retain n now retryIn).1 (l'.retain (skip g n) now retryIn).1 ∧
      (l'.retain (skip g n) now retryIn).2 = (l.retain n now retryIn).2.skip g := by
  have claimed := k.claimed? n
  unfold Lineage.retain
  cases found : l.claimed? n with
  | none =>
    rw [found] at claimed
    simpa [claimed, Next.skip] using k
  | some held =>
    rw [found] at claimed
    cases fits : deadline? now retryIn with
    | none => simpa [claimed, Next.skip] using k
    | some retryAt =>
      by_cases late : held.deadline ≤ retryAt
      · have placed := k.place (some { held with phase := .dormant })
        simpa [claimed, Next.skip, Held.skip, late] using placed
      · have placed := (k.issue true).place
          (some { held with generation := l.issued + 1, phase := .scheduled })
        simpa [claimed, Next.skip, Held.skip, Lineage.issue, k.next, late] using placed

theorem settle (k : Skips g left l l') (n : Nat) (forget : Bool) :
    Skips g left (l.settle n forget) (l'.settle (skip g n) forget) := by
  unfold Lineage.settle
  cases before : l.slot with
  | none => simpa [k.slot, before] using k
  | some held =>
    by_cases mine : held.generation = n
    · have placed := k.place (if forget then none else some { held with phase := .dormant })
      cases forget <;> simpa [k.slot, before, Held.skip, mine] using placed
    · simpa [k.slot, before, Held.skip, skip_inj, mine] using k

theorem conclude (k : Skips g left l l') (strategy : Strategy) (floor threshold now n : Nat)
    (reschedule : Lease → Bool) (result : Except Fault Lease) :
    Skips g left (l.conclude strategy floor threshold now n reschedule result).1
        (l'.conclude strategy floor threshold now (skip g n) reschedule result).1 ∧
      (l'.conclude strategy floor threshold now (skip g n) reschedule result).2 =
        (l.conclude strategy floor threshold now n reschedule result).2.skip g := by
  unfold Lineage.conclude
  cases result with
  | ok next =>
    cases id : next.hasId with
    | true => simpa [id] using k.advance n now next (reschedule next) _
    | false => simpa [id] using ⟨k.settle n true, rfl⟩
  | error fault =>
    cases drop : strategy.shouldDrop fault with
    | true => simpa [drop] using ⟨k.settle n false, rfl⟩
    | false => simpa [drop] using k.retain n now floor

end Skips

theorem Numbered.skips (numbered : l.Numbered) :
    Skips l.issued [l.issued + 1] l (l.issue true) := by
  have same : ∀ n ≤ l.issued, skip l.issued n = n := fun _ le => skip_of_le le
  refine ⟨Nat.le_refl _, rfl, ?_, by simp, ?_, ?_⟩
  · cases before : l.slot with
    | none => simp [Lineage.issue, before]
    | some held => simp [Lineage.issue, before, Held.skip, same _ (numbered.slot held before)]
  · have kept : l.timers.map (skip l.issued) = l.timers := by
      rw [List.map_congr_left fun n member => same n (numbered.timers n member), List.map_id']
    simp [Lineage.issue, kept]
  · intro n
    by_cases le : n ≤ l.issued
    · rw [same n le]
      rfl
    · have absent : n ∉ l.cancelled := fun member => le (numbered.cancelled n member)
      have absent' : n + 1 ∉ l.cancelled := by
        intro member
        have := numbered.cancelled _ member
        omega
      simp [Lineage.issue, skip, le, absent, absent']

end Lineage

namespace Renewal

open Lineage

def Task.skip (g : Nat) (task : Task) : Task :=
  { task with generation := LeaseKeeper.skip g task.generation }

def Call.skip (g : Nat) (call : Call) : Call :=
  { call with generation := LeaseKeeper.skip g call.generation }

def Event.isDisable : Event → Bool
  | .disable => true
  | _ => false

namespace System

structure Skips (g : Nat) (left : List Nat) (s s' : System) : Prop where
  strategy : s'.strategy = s.strategy
  now : s'.now = s.now
  lineage : s.lineage.Skips g left s'.lineage
  tasks : s'.tasks = s.tasks.map (Task.skip g)
  started : s'.started = s.started
  calls : s'.calls = s.calls.map (Call.skip g)

variable {g : Nat} {left : List Nat} {s s' : System}

namespace Skips

theorem task? (k : Skips g left s s') (number : Nat) :
    s'.task? number = (s.task? number).map (Task.skip g) := by
  rw [System.task?, System.task?, k.tasks, List.find?_map]
  rfl

theorem eq (k : Skips g left s s') : ∃ l', s.lineage.Skips g left l' ∧
    s' = { s with
      lineage := l'
      tasks := s.tasks.map (Task.skip g)
      calls := s.calls.map (Call.skip g) } := by
  obtain ⟨strategy, now, lineage, tasks, started, calls⟩ := s'
  obtain ⟨rfl, rfl, related, rfl, rfl, rfl⟩ := k
  exact ⟨lineage, related, rfl⟩

theorem drop (k : Skips g left s s') (number : Nat) :
    Skips g left (s.drop number) (s'.drop number) := by
  refine ⟨k.strategy, k.now, k.lineage, ?_, k.started, k.calls⟩
  simp only [System.drop, k.tasks, List.filter_map]
  rfl

theorem replace (k : Skips g left s s') (task : Task) :
    Skips g left (s.replace task) (s'.replace (task.skip g)) := by
  refine ⟨k.strategy, k.now, k.lineage, ?_, k.started, k.calls⟩
  simp only [System.replace, k.tasks, List.map_map]
  apply List.map_congr_left
  intro t _
  by_cases same : t.number = task.number <;> simp [Task.skip, same]

theorem relay (k : Skips g left s s') {kept : List Nat} {l l' : Lineage}
    (lineage : l.Skips g kept l') :
    Skips g kept { s with lineage := l } { s' with lineage := l' } :=
  ⟨k.strategy, k.now, lineage, k.tasks, k.started, k.calls⟩

theorem schedule (k : Skips g left s s') (lease : Lease) (terms : Terms) :
    Skips g left (s.schedule lease terms).1 (s'.schedule lease terms).1 := by
  obtain ⟨l', lineage, rfl⟩ := k.eq
  obtain ⟨installed, given⟩ := lineage.install s.now lease
  unfold System.schedule
  dsimp only
  generalize s.lineage.install s.now lease = result at installed given
  generalize l'.install s.now lease = result' at installed given
  obtain ⟨line, generation⟩ := result
  obtain ⟨line', generation'⟩ := result'
  obtain rfl : generation' = generation.map (skip g) := given
  cases generation with
  | none => exact k.relay installed
  | some generation => exact ⟨rfl, rfl, installed, by simp [Task.skip], rfl, rfl⟩

theorem fire (k : Skips g left s s') (number : Nat) :
    Skips g left (s.fire number) (s'.fire number) := by
  unfold System.fire
  rw [k.task? number]
  obtain ⟨l', lineage, rfl⟩ := k.eq
  cases s.task? number with
  | none => exact k
  | some task =>
    obtain ⟨number', generation, terms, stage⟩ := task
    cases stage with
    | calling lease => exact k
    | waiting due =>
      by_cases ripe : due ≤ s.now
      · obtain ⟨fired, same⟩ := lineage.fire generation
        simp only [Option.map_some, Task.skip, ripe, if_true]
        generalize s.lineage.fire generation = result at fired same
        generalize l'.fire (LeaseKeeper.skip g generation) = result' at fired same
        obtain ⟨line, lease⟩ := result
        obtain ⟨line', lease'⟩ := result'
        obtain rfl : lease' = lease := same
        cases lease' with
        | none => exact (k.relay fired).drop number
        | some lease =>
          have called : Skips g left
              { s with lineage := line, calls := ⟨s.now, generation, lease⟩ :: s.calls }
              { s with
                lineage := line'
                tasks := s.tasks.map (Task.skip g)
                calls := ⟨s.now, LeaseKeeper.skip g generation, lease⟩ ::
                  s.calls.map (Call.skip g) } := ⟨rfl, rfl, fired, rfl, rfl, rfl⟩
          exact called.replace ⟨number', generation, terms, .calling lease⟩
      · simpa [Task.skip, ripe] using k

theorem stop (k : Skips g left s s') (number : Nat) :
    Skips g left (s.stop number) (s'.stop number) := by
  unfold System.stop
  rw [k.task? number]
  cases s.task? number with
  | none => exact k
  | some task =>
    obtain ⟨number', generation, terms, stage⟩ := task
    cases stage with
    | calling lease => exact k
    | waiting due =>
      have same := k.lineage.cancelled generation
      by_cases cancelled : generation ∈ s.lineage.cancelled
      · simpa [Task.skip, isCancelled, cancelled, same.mpr cancelled] using k.drop number
      · have live : LeaseKeeper.skip g generation ∉ s'.lineage.cancelled :=
          fun member => cancelled (same.mp member)
        simpa [Task.skip, isCancelled, cancelled, live] using k

theorem answer (k : Skips g left s s') (number : Nat) (result : Except Fault Lease) :
    Skips g left (s.answer number result) (s'.answer number result) := by
  unfold System.answer
  rw [k.task? number]
  obtain ⟨l', lineage, rfl⟩ := k.eq
  cases s.task? number with
  | none => exact k
  | some task =>
    obtain ⟨number', generation, terms, stage⟩ := task
    cases stage with
    | waiting due => exact k
    | calling lease =>
      obtain ⟨concluded, same⟩ := lineage.conclude s.strategy terms.floor terms.threshold s.now
        generation terms.reschedule result
      simp only [Option.map_some, Task.skip]
      generalize s.lineage.conclude s.strategy terms.floor terms.threshold s.now generation
        terms.reschedule result = outcome at concluded same
      generalize l'.conclude s.strategy terms.floor terms.threshold s.now
        (LeaseKeeper.skip g generation) terms.reschedule result = outcome' at concluded same
      obtain ⟨line, next⟩ := outcome
      obtain ⟨line', next'⟩ := outcome'
      obtain rfl : next' = next.skip g := same
      cases next with
      | stop => exact (k.relay concluded).drop number
      | crash => exact (k.relay concluded).drop number
      | wait generation' delay =>
        exact (k.relay concluded).replace ⟨number', generation', terms, .waiting (s.now + delay)⟩

theorem step (k : Skips g left s s') (event : Event) :
    Skips g (if event.isDisable then [] else left) (s.step event) (s'.step event) := by
  cases event with
  | schedule lease terms => exact k.schedule lease terms
  | disable => exact k.relay k.lineage.disable
  | pass span =>
    exact ⟨k.strategy, congrArg (· + span) k.now, k.lineage, k.tasks, k.started, k.calls⟩
  | fire number => exact k.fire number
  | stop number => exact k.stop number
  | answer number result => exact k.answer number result

theorem run (k : Skips g left s s') (events : List Event) :
    Skips g (if events.any Event.isDisable then [] else left) (s.run events) (s'.run events) := by
  induction events generalizing left s s' with
  | nil => exact k
  | cons event rest ih =>
    have later := ih (k.step event)
    rw [List.any_cons]
    change Skips g _ ((s.step event).run rest) ((s'.step event).run rest)
    cases disables : event.isDisable with
    | true => simpa [disables] using later
    | false => simpa [disables] using later

end Skips

theorem Ordered.skips (o : s.Ordered) :
    Skips s.lineage.issued [s.lineage.issued + 1] s { s with lineage := s.lineage.issue true } := by
  refine ⟨rfl, rfl, o.numbered.skips, ?_, rfl, ?_⟩
  · refine (List.map_id' s.tasks).symm.trans (List.map_congr_left fun t member => ?_)
    simp [Task.skip, skip_of_le (o.roster.issued t member)]
  · refine (List.map_id' s.calls).symm.trans (List.map_congr_left fun c member => ?_)
    simp [Call.skip, skip_of_le (o.calls_issued c member)]

/-! ### A schedule that fails -/

structure Parallels (more : Nat) (s s' : System) : Prop where
  now : s'.now = s.now
  slot : s'.lineage.slot.map (fun held => (held.lease, held.phase, held.deadline)) =
    s.lineage.slot.map fun held => (held.lease, held.phase, held.deadline)
  tasks : s'.tasks.map (fun t => (t.number, t.stage)) = s.tasks.map fun t => (t.number, t.stage)
  calls : s'.calls.map (fun c => (c.time, c.lease)) = s.calls.map fun c => (c.time, c.lease)
  pending : s'.lineage.pending = s.lineage.pending + more

/-- The lineage is as it was, and whatever comes its renewals are those that would have come. -/
structure Unharmed (s s' : System) : Prop where
  slot : s'.lineage.slot = s.lineage.slot
  pending : s'.lineage.pending = s.lineage.pending
  renewals : ∀ later, (s'.run later).calls.map (fun c => (c.time, c.lease)) =
    (s.run later).calls.map fun c => (c.time, c.lease)

structure Schedules (s : System) (lease : Lease) (terms : Terms) : Prop where
  fails_iff : (s.schedule lease terms).2 = false ↔ Span.clockEnd < s.now + lease.span
  unharmed_iff : ((s.schedule lease terms).2 = false → s.Unharmed (s.schedule lease terms).1) ↔
    (s.schedule lease terms).2 = true
  slot : (s.schedule lease terms).2 = false →
    (s.schedule lease terms).1.lineage.slot = s.lineage.slot
  later : (s.schedule lease terms).2 = false → ∀ later,
    Parallels (if later.any Event.isDisable then 0 else 1) (s.run later)
      ((s.schedule lease terms).1.run later)

theorem Skips.parallels (k : Skips g left s s') : Parallels left.length s s' := by
  obtain ⟨l', lineage, rfl⟩ := k.eq
  refine ⟨rfl, ?_, ?_, ?_, lineage.pending.trans (Nat.add_comm _ _)⟩
  · cases before : s.lineage.slot <;> simp [lineage.slot, before, Held.skip]
  · simp [Task.skip]
  · simp [Call.skip]

theorem Ordered.littered (o : s.Ordered) (later : List Event) :
    Parallels (if later.any Event.isDisable then 0 else 1) (s.run later)
      (({ s with lineage := s.lineage.issue true } : System).run later) := by
  have related := (o.skips.run later).parallels
  cases disabled : later.any Event.isDisable with
  | true => simpa [disabled] using related
  | false => simpa [disabled] using related

theorem Ordered.schedules (o : s.Ordered) (lease : Lease) (terms : Terms) :
    s.Schedules lease terms := by
  cases fits : deadline? s.now lease.span with
  | none =>
    have failed : s.schedule lease terms =
        ({ s with lineage := s.lineage.issue true }, false) := by
      simp only [System.schedule, install_overflow fits]
    have late : Span.clockEnd < s.now + lease.span := by simpa [deadline?] using fits
    have harmed : ¬ s.Unharmed { s with lineage := s.lineage.issue true } := by
      intro unharmed
      have more : (s.lineage.issue true).pending = s.lineage.pending + 1 :=
        (o.littered []).pending
      have same : (s.lineage.issue true).pending = s.lineage.pending := unharmed.pending
      omega
    refine ⟨?_, ?_, ?_, ?_⟩
    · simp [failed, late]
    · simp [failed, harmed]
    · intro _
      rw [failed]
      rfl
    · intro _ later
      rw [failed]
      exact o.littered later
  | some deadline =>
    have completed : (s.schedule lease terms).2 = true := by
      simp only [System.schedule, install_fits fits]
    have room : ¬ Span.clockEnd < s.now + lease.span := by
      intro late
      simp [deadline?, Nat.not_le.mpr late] at fits
    refine ⟨?_, ?_, ?_, ?_⟩
    · simp [completed, room]
    · simp [completed]
    · simp [completed]
    · simp [completed]

/-- In every state a schedule fails exactly when the lease outlasts the clock, and then one timer
more is pending than before. The lease, its state and the renewals to come are untouched. -/
theorem failed_schedule_leaves_timer (strategy : Strategy) (events : List Event) (lease : Lease)
    (terms : Terms) : ((new strategy).run events).Schedules lease terms :=
  (run_ordered (ordered_new strategy) events).schedules lease terms

/-- A lease that outlasts the clock is scheduled while the timer of another one is pending. -/
theorem two_timers_for_one_lease :
    let terms : Terms := ⟨Span.seconds 10, Span.seconds 20, Lease.renewable⟩
    let s := (new .dropOnError).run [.schedule ⟨"a", 100, true⟩ terms]
    let failed := s.schedule ⟨"b", 18446744073709551615, true⟩ terms
    failed.2 = false ∧ s.lineage.pending = 1 ∧ failed.1.lineage.pending = 2 ∧
      ¬ s.Unharmed failed.1 := by
  intro terms s failed
  have before : s.lineage.pending = 1 := by decide
  have after : failed.1.lineage.pending = 2 := by decide
  refine ⟨by decide, before, after, ?_⟩
  intro unharmed
  have same := unharmed.pending
  omega

end System
end Renewal
end LeaseKeeper

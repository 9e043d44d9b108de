import LeaseKeeper.Proofs.Renewal.Recurrence

/-!
A lease whose renewals fail and that the strategy keeps. Failures never move the deadline fixed when
the lease was scheduled; the time left until then bounds the number of retries, and the lease is
current until the end and after it.
-/
namespace LeaseKeeper.Renewal

open Lineage LeaseKeeper.Renewal.System

namespace Tenure

/-- Every answer is a failure that the strategy retains. -/
def Failing (r : Tenure) : Prop := ∀ n delivery, r.script n = some delivery →
  ∃ fault, delivery.result = .error fault ∧ r.strategy.shouldDrop fault = false

def delay (r : Tenure) : Nat := max r.terms.floor (r.lease.span - r.terms.threshold)

def isOver (r : Tenure) (s : System) : Prop := ∀ t ∈ s.tasks, t.number ≠ r.own

/-- Whenever a call was answered, the clock had room for another attempt. -/
def HasRoom (r : Tenure) (s : System) : Prop := ∀ n call delivery,
  (r.calls s)[n]? = some call → r.script n = some delivery →
    call.time + delivery.latency + r.terms.floor ≤ Span.clockEnd

structure Lapses (r : Tenure) (s : System) : Prop where
  held : ∃ held, s.lineage.slot = some held ∧ held.lease = r.lease ∧
    held.deadline = r.before.now + r.lease.span
  handed : s.disable.2 = some r.lease
  retries_early : ∀ n call, (r.calls s)[n + 1]? = some call →
    call.time < r.before.now + r.lease.span
  retries_few : ∀ k, (r.calls s).length = k + 1 →
    k = 0 ∨ r.delay + k * r.terms.floor < r.lease.span
  dormant : r.HasRoom s → r.isOver s → s.lineage.isActive = false
  stops : (∀ n, (r.script n).isSome = true) →
    ∃ rest, r.keeps s rest = true ∧ r.isOver (s.run rest)

variable {r : Tenure} {s : System}

theorem sequel_of_retained {plan : Plan} {delivery : Delivery} {fault : Fault}
    (result : delivery.result = .error fault) (keep : r.strategy.shouldDrop fault = false) :
    r.sequel plan delivery =
      if plan.time + delivery.latency + r.terms.floor < plan.deadline then
        .call { plan with time := plan.time + delivery.latency + r.terms.floor }
      else .rest (some plan.lease) := by
  simp [sequel, result, keep]

/-- A planned attempt is for the lease as it was scheduled. It comes a floor after the one before
it, and is no retry or comes before the deadline. -/
structure Attempt (r : Tenure) (n : Nat) (plan : Plan) : Prop where
  lease : plan.lease = r.lease
  deadline : plan.deadline = r.before.now + r.lease.span
  late : r.before.now + r.delay + n * r.terms.floor ≤ plan.time
  early : n = 0 ∨ plan.time < r.before.now + r.lease.span

theorem Failing.attempt (failing : r.Failing) {n : Nat} {plan : Plan}
    (planned : r.plan? n = some plan) : r.Attempt n plan := by
  induction n generalizing plan with
  | zero =>
    obtain rfl := Option.some.inj planned
    refine ⟨rfl, rfl, ?_, Or.inl rfl⟩
    rw [Nat.zero_mul, Nat.add_zero]
    exact Nat.le_refl _
  | succ n ih =>
    obtain ⟨last, delivery, before, answered, follows⟩ := plan?_pred planned
    obtain ⟨fault, result, keep⟩ := failing n delivery answered
    have attempt := ih before
    rw [sequel_of_retained result keep] at follows
    split at follows
    · rename_i early
      obtain rfl := Sequel.call.inj follows
      have late := attempt.late
      refine ⟨attempt.lease, attempt.deadline, ?_, Or.inr (attempt.deadline ▸ early)⟩
      rw [Nat.succ_mul]
      dsimp only
      omega
    · cases follows

/-- The time left bounds the number of attempts. -/
theorem Failing.finite (failing : r.Failing) (positive : 0 < r.terms.floor) :
    r.plan? (r.lease.span + 1) = none := by
  cases planned : r.plan? (r.lease.span + 1) with
  | none => rfl
  | some plan =>
    have attempt := failing.attempt planned
    have late := attempt.late
    have early := attempt.early.resolve_left (Nat.succ_ne_zero _)
    have long : r.lease.span + 1 ≤ (r.lease.span + 1) * r.terms.floor :=
      Nat.le_mul_of_pos_right _ positive
    omega

theorem Tracks.held (t : r.Tracks s) (failing : r.Failing) :
    ∃ held, s.lineage.slot = some held ∧ held.lease = r.lease ∧
      held.deadline = r.before.now + r.lease.span := by
  cases t.course with
  | waiting plan g next member slot =>
    have attempt := failing.attempt next
    exact ⟨_, slot, attempt.lease, attempt.deadline⟩
  | calling plan g n made last awaits member slot =>
    have attempt := failing.attempt last
    exact ⟨_, slot, attempt.lease, attempt.deadline⟩
  | resting plan delivery n held made last answered final past gone current dormant unmoved =>
    have attempt := failing.attempt last
    obtain ⟨fault, result, keep⟩ := failing n delivery answered
    rw [sequel_of_retained result keep] at final
    split at final
    · cases final
    · obtain rfl := Sequel.rest.inj final
      obtain ⟨kept, slot, same⟩ := Option.map_eq_some_iff.mp current
      exact ⟨kept, slot, same.trans attempt.lease,
        (unmoved fault kept result slot).trans attempt.deadline⟩
  | lost plan delivery n g made last answered strained past gone slot =>
    have attempt := failing.attempt last
    exact ⟨_, slot, attempt.lease, attempt.deadline⟩

theorem Tracks.retries_few (t : r.Tracks s) (failing : r.Failing) {k : Nat}
    (made : (r.calls s).length = k + 1) :
    k = 0 ∨ r.delay + k * r.terms.floor < r.lease.span := by
  obtain ⟨plan, planned, _⟩ := t.planned k _ (List.getElem?_eq_getElem (by omega))
  have attempt := failing.attempt planned
  have late := attempt.late
  rcases attempt.early with first | early
  · exact Or.inl first
  · exact Or.inr (by omega)

theorem Tracks.dormant (t : r.Tracks s) (failing : r.Failing) (room : r.HasRoom s)
    (ended : r.isOver s) : s.lineage.isActive = false := by
  cases t.course with
  | waiting plan g next member => exact absurd rfl (ended _ member)
  | calling plan g n made last awaits member => exact absurd rfl (ended _ member)
  | resting plan delivery n held made last answered follows past gone current dormant =>
    exact isActive_of_dormant dormant
  | lost plan delivery n g made last answered strained =>
    -- only for want of room is an active lease left without an attempt
    have present := List.getElem?_eq_getElem (by omega : n < (r.calls s).length)
    obtain ⟨plan', same, time, _⟩ := t.planned n _ present
    obtain rfl := Option.some.inj (last.symm.trans same)
    obtain ⟨fault, result, _⟩ := failing n delivery answered
    have fits := room n _ delivery present answered
    rw [time] at fits
    exact (strained (by simp [Tenure.Fits, result, fits])).elim

theorem Tracks.stops (t : r.Tracks s) (failing : r.Failing) (positive : 0 < r.terms.floor)
    (answered : ∀ n, (r.script n).isSome = true) :
    ∃ rest, r.keeps s rest = true ∧ r.isOver (s.run rest) := by
  have finite := failing.finite positive
  induction left : r.lease.span + 2 - (r.calls s).length generalizing s with
  | zero =>
    have bound := t.calls_le finite
    omega
  | succ k ih =>
    obtain ⟨rest, kept, more | ⟨_, gone⟩⟩ :=
      t.onward fun n _ => Option.isSome_iff_exists.mp (answered n)
    · obtain ⟨rest', kept', ended⟩ := ih (t.run kept) (by omega)
      exact ⟨rest ++ rest', by simp [keeps_append, kept, kept'], by rwa [run_append]⟩
    · exact ⟨rest, kept, gone⟩

/-- A lease that fails to renew and is retained is retried before its deadline only, finitely often,
and stays current to be revoked. -/
theorem run_retained_until_deadline (r : Tenure) (failing : r.Failing)
    (positive : 0 < r.terms.floor) (room : r.first.deadline ≤ Span.clockEnd) (later : List Event)
    (kept : r.keeps r.begun later = true) : r.Lapses (r.begun.run later) := by
  have t := run_tracks room kept
  obtain ⟨held, slot, lease, deadline⟩ := t.held failing
  exact {
    held := ⟨held, slot, lease, deadline⟩
    handed := by simp [System.disable, Lineage.disable, Lineage.current, slot, lease]
    retries_early := by
      intro n call present
      obtain ⟨plan, planned, time, _⟩ := t.planned (n + 1) call present
      have attempt := failing.attempt planned
      exact time ▸ attempt.early.resolve_left (Nat.succ_ne_zero n)
    retries_few := fun _ made => t.retries_few failing made
    dormant := t.dormant failing
    stops := t.stops failing positive }

def failingTenure : Tenure where
  strategy := .retainOnIoError
  opening := []
  lease := ⟨"a", 30, true⟩
  terms := ⟨Span.seconds 10, Span.seconds 60, Lease.renewable⟩
  script n := some ⟨Span.seconds n, .error (.connectionFailed "reset")⟩

def failingRun : List Event :=
  [.pass (Span.seconds 10), .fire 0, .answer 0 (.error (.connectionFailed "reset")),
    .pass (Span.seconds 10), .fire 0, .pass (Span.seconds 1),
    .answer 0 (.error (.connectionFailed "reset")), .pass (Span.seconds 100)]

theorem failing_run_lapses :
    failingTenure.Failing ∧ 0 < failingTenure.terms.floor ∧
      failingTenure.first.deadline ≤ Span.clockEnd ∧
      failingTenure.keeps failingTenure.begun failingRun = true ∧
      failingTenure.Lapses (failingTenure.begun.run failingRun) ∧
      (failingTenure.calls (failingTenure.begun.run failingRun)).map Call.time =
        [Span.seconds 10, Span.seconds 20] ∧
      failingTenure.HasRoom (failingTenure.begun.run failingRun) ∧
      failingTenure.isOver (failingTenure.begun.run failingRun) ∧
      (failingTenure.begun.run failingRun).lineage.isActive = false := by
  have failing : failingTenure.Failing := by
    rintro n delivery ⟨⟩
    exact ⟨_, rfl, rfl⟩
  have kept : failingTenure.keeps failingTenure.begun failingRun = true := by decide
  have lapses := run_retained_until_deadline failingTenure failing (by decide) (by decide) _ kept
  have times : (failingTenure.calls (failingTenure.begun.run failingRun)).map Call.time =
      [Span.seconds 10, Span.seconds 20] := by decide
  have room : failingTenure.HasRoom (failingTenure.begun.run failingRun) := by
    rintro n call delivery made ⟨⟩
    have time : [Span.seconds 10, Span.seconds 20][n]? = some call.time := by
      rw [← times, List.getElem?_map, made]
      rfl
    match n, time with
    | 0, time => exact Option.some.inj time ▸ by decide
    | 1, time => exact Option.some.inj time ▸ by decide
  have ended : failingTenure.isOver (failingTenure.begun.run failingRun) := by
    intro task member
    have none_left : (failingTenure.begun.run failingRun).tasks.length = 0 := by decide
    rw [List.eq_nil_of_length_eq_zero none_left] at member
    cases member
  exact ⟨failing, by decide, by decide, kept, lapses, times, room, ended,
    lapses.dormant room ended⟩

end Tenure
end LeaseKeeper.Renewal

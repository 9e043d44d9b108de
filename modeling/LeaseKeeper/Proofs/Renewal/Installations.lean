import LeaseKeeper.Proofs.Renewal.Changes

/-!
The installations of a run: which events put a lease into the slot, and under which generation.
Each installation has a generation that was not handed out before it, in every run.
-/
namespace LeaseKeeper.Renewal

open Lineage

def seat (held : Held) : Nat × Lease × Nat := (held.generation, held.lease, held.deadline)

namespace System

variable {s : System}

/-- The generation under which an event installs a lease: a schedule's own, or that of a slot which
does not hold what it held before. -/
def installed (s : System) (event : Event) : Option Nat :=
  match event with
  | .schedule lease _ => (s.lineage.install s.now lease).2
  | _ =>
    if (s.step event).lineage.slot.map seat = s.lineage.slot.map seat then none
    else (s.step event).lineage.slot.map Held.generation

def installations (s : System) : List Event → List Nat
  | [] => []
  | event :: rest => (s.installed event).toList ++ (s.step event).installations rest

/-- An event leaves the occupant of the slot in its seat, empties the slot, or fills it under a
generation that was not handed out before. -/
theorem Change.seats {event : Event} {after : System} (change : Change s event after) :
    after.lineage.slot.map seat = s.lineage.slot.map seat ∨ after.lineage.slot = none ∨
      ∃ held, after.lineage.slot = some held ∧ s.lineage.issued < held.generation ∧
        held.generation ≤ after.lineage.issued := by
  have ended {strategy : Strategy} {floor threshold now g : Nat} {reschedule : Lease → Bool}
      {result : Except Fault Lease} {line : Lineage} {next : Next}
      (ending : Ending s.lineage strategy floor threshold now g reschedule result line next) :
      line.slot.map seat = s.lineage.slot.map seat ∨ line.slot = none ∨
        ∃ held, line.slot = some held ∧ s.lineage.issued < held.generation ∧
          held.generation ≤ line.issued := by
    cases ending with
    | stale => exact Or.inl rfl
    | forgotten => exact Or.inr (Or.inl rfl)
    | dropped fault held drop before => exact Or.inl (by simp [before, seat])
    | exhausted fault held retryAt keep before => exact Or.inl (by simp [before, seat])
    | outlasted => exact Or.inl rfl
    | overran => exact Or.inl rfl
    | renewed => exact Or.inr (Or.inr ⟨_, rfl, Nat.lt_succ_self _, Nat.le_refl _⟩)
    | rested => exact Or.inr (Or.inr ⟨_, rfl, Nat.lt_succ_self _, Nat.le_refl _⟩)
    | retained => exact Or.inr (Or.inr ⟨_, rfl, Nat.lt_succ_self _, Nat.le_refl _⟩)
  cases change with
  | scheduled lease terms deadline =>
    exact Or.inr (Or.inr ⟨_, replaced_slot s.lineage lease deadline, by simp, by simp⟩)
  | disabled => exact Or.inr (Or.inl rfl)
  | claimed number due task held found waiting ripe before =>
    exact Or.inl (by simp [before, seat])
  | resumed number generation delay task lease result after found calling ending =>
    exact ended ending
  | ended number task lease result after next found calling ending => exact ended ending
  | outlasted => exact Or.inl rfl
  | passed => exact Or.inl rfl
  | missed => exact Or.inl rfl
  | unfired => exact Or.inl rfl
  | stopped => exact Or.inl rfl
  | unstopped => exact Or.inl rfl
  | unanswered => exact Or.inl rfl

theorem step_issued_le (s : System) (event : Event) :
    s.lineage.issued ≤ (s.step event).lineage.issued := by
  have change := step_change s event
  generalize s.step event = after at change
  cases change with
  | scheduled lease terms deadline => simp
  | outlasted => exact Nat.le_succ _
  | resumed number generation delay task lease result after found calling ending =>
    exact ending.issued_le
  | ended number task lease result after next found calling ending => exact ending.issued_le
  | disabled => exact Nat.le_refl _
  | passed => exact Nat.le_refl _
  | claimed => exact Nat.le_refl _
  | missed => exact Nat.le_refl _
  | unfired => exact Nat.le_refl _
  | stopped => exact Nat.le_refl _
  | unstopped => exact Nat.le_refl _
  | unanswered => exact Nat.le_refl _

theorem installed_bounds {event : Event} {g : Nat} (made : s.installed event = some g) :
    s.lineage.issued < g ∧ g ≤ (s.step event).lineage.issued := by
  have unscheduled
      (moved : (if (s.step event).lineage.slot.map seat = s.lineage.slot.map seat then none
        else (s.step event).lineage.slot.map Held.generation) = some g) :
      s.lineage.issued < g ∧ g ≤ (s.step event).lineage.issued := by
    rcases (step_change s event).seats with same | empty | ⟨held, placed, fresh, bound⟩
    · simp [same] at moved
    · simp [empty] at moved
    · have own : held.generation = g := by
        simp only [placed, Option.map_some, Option.ite_none_left_eq_some] at moved
        exact Option.some.inj moved.2
      exact own ▸ ⟨fresh, bound⟩
  cases event with
  | schedule lease terms =>
    simp only [step, schedule]
    rcases install_cases s.lineage s.now lease with ⟨_, result⟩ | ⟨deadline, _, result⟩
    · simp [installed, result] at made
    · simp only [installed, result, Option.some.injEq] at made
      simp only [result, replaced_issued]
      omega
  | disable => exact unscheduled made
  | pass span => exact unscheduled made
  | fire number => exact unscheduled made
  | stop number => exact unscheduled made
  | answer number result => exact unscheduled made

theorem installations_above (s : System) (events : List Event) :
    ∀ g ∈ s.installations events, s.lineage.issued < g := by
  induction events generalizing s with
  | nil => simp [installations]
  | cons event rest ih =>
    intro g member
    rcases List.mem_append.mp member with here | later
    · exact (installed_bounds (Option.mem_toList.mp here)).1
    · exact Nat.lt_of_le_of_lt (step_issued_le s event) (ih (s.step event) g later)

theorem installations_increasing (s : System) (events : List Event) :
    (s.installations events).Pairwise (· < ·) := by
  induction events generalizing s with
  | nil => exact List.Pairwise.nil
  | cons event rest ih =>
    refine List.pairwise_append.mpr ⟨?_, ih (s.step event), ?_⟩
    · cases s.installed event <;> simp
    · intro g here later member
      have bound := (installed_bounds (Option.mem_toList.mp here)).2
      exact Nat.lt_of_le_of_lt bound (installations_above _ rest later member)

end System
end LeaseKeeper.Renewal

import LeaseKeeper.Lineage

/-!
What the operations of a lineage can do to it, each said once. An installation either outlasts the
clock or replaces the occupant of the slot; a timer that fires claims the slot or finds it taken;
a renewal has nine endings. Later proofs read an operation off these and do not unfold it.
-/
namespace LeaseKeeper.Lineage

theorem isActive_of_slot {l l' : Lineage} (slot : l'.slot = l.slot) : l'.isActive = l.isActive := by
  simp only [isActive, slot]

def replaced (l : Lineage) (lease : Lease) (deadline : Nat) : Lineage :=
  let placed := { l.issue true with slot := some ⟨l.issued + 1, lease, .scheduled, deadline⟩ }
  match l.slot with
  | none => placed
  | some old => placed.cancel old.generation

theorem install_overflow {l : Lineage} {now : Nat} {lease : Lease}
    (overflow : deadline? now lease.span = none) :
    l.install now lease = (l.issue true, none) := by
  simp only [install, overflow]

theorem install_fits {l : Lineage} {now deadline : Nat} {lease : Lease}
    (fits : deadline? now lease.span = some deadline) :
    l.install now lease = (l.replaced lease deadline, some (l.issued + 1)) := by
  cases before : l.slot <;> simp only [install, fits, replaced, before, issue]

theorem install_cases (l : Lineage) (now : Nat) (lease : Lease) :
    (deadline? now lease.span = none ∧ l.install now lease = (l.issue true, none)) ∨
    ∃ deadline, deadline? now lease.span = some deadline ∧
      l.install now lease = (l.replaced lease deadline, some (l.issued + 1)) := by
  cases fits : deadline? now lease.span with
  | none => exact Or.inl ⟨rfl, install_overflow fits⟩
  | some deadline => exact Or.inr ⟨deadline, rfl, install_fits fits⟩

@[simp] theorem cancel_slot (l : Lineage) (g : Nat) : (l.cancel g).slot = l.slot := by
  unfold cancel
  split <;> rfl

@[simp] theorem cancel_issued (l : Lineage) (g : Nat) : (l.cancel g).issued = l.issued := by
  unfold cancel
  split <;> rfl

theorem cancel_timers (l : Lineage) (g : Nat) :
    (l.cancel g).timers = l.timers.filter (· != g) := by
  unfold cancel
  split
  · rfl
  · rename_i absent
    rw [List.contains_iff_mem] at absent
    refine (List.filter_eq_self.mpr ?_).symm
    intro other member
    have differ : other ≠ g := fun same => absent (same ▸ member)
    simpa using differ

theorem mem_cancel_cancelled {l : Lineage} {g other : Nat}
    (member : other ∈ (l.cancel g).cancelled) :
    other ∈ l.cancelled ∨ (other = g ∧ g ∈ l.timers) := by
  unfold cancel at member
  split at member
  · rename_i present
    rw [List.contains_iff_mem] at present
    rcases List.mem_cons.mp member with same | old
    · exact Or.inr ⟨same, present⟩
    · exact Or.inl old
  · exact Or.inl member

@[simp] theorem replaced_slot (l : Lineage) (lease : Lease) (deadline : Nat) :
    (l.replaced lease deadline).slot = some ⟨l.issued + 1, lease, .scheduled, deadline⟩ := by
  unfold replaced
  cases l.slot <;> simp

@[simp] theorem replaced_issued (l : Lineage) (lease : Lease) (deadline : Nat) :
    (l.replaced lease deadline).issued = l.issued + 1 := by
  unfold replaced
  cases l.slot <;> simp [issue]

theorem replaced_timers_of_none {l : Lineage} (empty : l.slot = none) (lease : Lease)
    (deadline : Nat) : (l.replaced lease deadline).timers = (l.issued + 1) :: l.timers := by
  simp [replaced, empty, issue]

theorem replaced_timers_of_some {l : Lineage} {old : Held} (before : l.slot = some old)
    (lease : Lease) (deadline : Nat) :
    (l.replaced lease deadline).timers =
      ((l.issued + 1) :: l.timers).filter (· != old.generation) := by
  simp [replaced, before, cancel_timers, issue]

theorem mem_replaced_timers {l : Lineage} {lease : Lease} {deadline g : Nat}
    (member : g ∈ (l.replaced lease deadline).timers) : g = l.issued + 1 ∨ g ∈ l.timers := by
  cases before : l.slot with
  | none =>
    rw [replaced_timers_of_none before] at member
    exact List.mem_cons.mp member
  | some old =>
    rw [replaced_timers_of_some before] at member
    exact List.mem_cons.mp (List.mem_filter.mp member).1

theorem mem_replaced_cancelled {l : Lineage} {lease : Lease} {deadline g : Nat}
    (member : g ∈ (l.replaced lease deadline).cancelled) :
    g ∈ l.cancelled ∨ ∃ old, l.slot = some old ∧ g = old.generation := by
  unfold replaced at member
  cases before : l.slot with
  | none =>
    rw [before] at member
    exact Or.inl member
  | some old =>
    rw [before] at member
    rcases mem_cancel_cancelled member with earlier | ⟨same, _⟩
    · exact Or.inl earlier
    · exact Or.inr ⟨old, rfl, same⟩

/-- A timer that fires leaves the register. It claims the slot exactly when the slot is scheduled
under the timer's generation. -/
theorem fire_cases (l : Lineage) (g : Nat) :
    (∃ held, l.slot = some held ∧ held.generation = g ∧ held.phase = .scheduled ∧
      l.fire g =
        ({ l.unregister g with slot := some { held with phase := .renewing } },
          some held.lease)) ∨
    ((∀ held, l.slot = some held → held.generation = g → held.phase ≠ .scheduled) ∧
      l.fire g = (l.unregister g, none)) := by
  cases before : l.slot with
  | none =>
    refine Or.inr ⟨by simp, ?_⟩
    simp [fire, claim, unregister, before]
  | some held =>
    by_cases mine : held.generation = g ∧ held.phase = .scheduled
    · refine Or.inl ⟨held, rfl, mine.1, mine.2, ?_⟩
      simp [fire, claim, unregister, before, mine]
    · refine Or.inr ⟨?_, ?_⟩
      · intro other same own scheduled
        obtain rfl := Option.some.inj same
        exact mine ⟨own, scheduled⟩
      · simp [fire, claim, unregister, before, mine]

theorem claimed?_eq_some {l : Lineage} {g : Nat} {held : Held} (found : l.claimed? g = some held) :
    l.slot = some held ∧ held.generation = g ∧ held.phase = .renewing := by
  simpa [claimed?, Option.filter_eq_some_iff] using found

theorem claimed?_eq_none {l : Lineage} {g : Nat} (absent : l.claimed? g = none) :
    ∀ held, l.slot = some held → held.generation = g → held.phase ≠ .renewing := by
  intro held before same renewing
  simp [claimed?, before, same, renewing] at absent

section
variable (l : Lineage) (strategy : Strategy) (floor threshold now g : Nat)
  (reschedule : Lease → Bool)

/-- The endings of a renewal claimed under generation `g`: what is left of the lineage, and what
its task does next. All but `stale` happen to a slot that still holds this generation. -/
inductive Ending : Except Fault Lease → Lineage → Next → Prop where
  | stale (result : Except Fault Lease)
      (moved : ∀ held, l.slot = some held → held.generation = g → held.phase ≠ .renewing)
      (taken : ∀ next held, result = .ok next → next.hasId = false → l.slot = some held →
        held.generation ≠ g) :
      Ending result l .stop
  | forgotten (next : Lease) (held : Held) (empty : next.hasId = false)
      (before : l.slot = some held) (own : held.generation = g) :
      Ending (.ok next) { l with slot := none } .stop
  | dropped (fault : Fault) (held : Held) (drop : strategy.shouldDrop fault = true)
      (before : l.slot = some held) (own : held.generation = g) :
      Ending (.error fault) { l with slot := some { held with phase := .dormant } } .stop
  | renewed (next : Lease) (held : Held) (deadline : Nat) (id : next.hasId = true)
      (again : reschedule next = true) (before : l.slot = some held)
      (own : held.generation = g) (renewing : held.phase = .renewing)
      (fits : deadline? now next.span = some deadline) :
      Ending (.ok next)
        { l.issue true with slot := some ⟨l.issued + 1, next, .scheduled, deadline⟩ }
        (.wait (l.issued + 1) (renewalDelay next.span floor threshold))
  | rested (next : Lease) (held : Held) (deadline : Nat) (id : next.hasId = true)
      (last : reschedule next = false) (before : l.slot = some held)
      (own : held.generation = g) (renewing : held.phase = .renewing)
      (fits : deadline? now next.span = some deadline) :
      Ending (.ok next)
        { l.issue false with slot := some ⟨l.issued + 1, next, .dormant, deadline⟩ } .stop
  | retained (fault : Fault) (held : Held) (retryAt : Nat)
      (keep : strategy.shouldDrop fault = false) (before : l.slot = some held)
      (own : held.generation = g) (renewing : held.phase = .renewing)
      (fits : deadline? now floor = some retryAt) (early : retryAt < held.deadline) :
      Ending (.error fault)
        { l.issue true with
          slot := some { held with generation := l.issued + 1, phase := .scheduled } }
        (.wait (l.issued + 1) floor)
  | exhausted (fault : Fault) (held : Held) (retryAt : Nat)
      (keep : strategy.shouldDrop fault = false) (before : l.slot = some held)
      (own : held.generation = g) (renewing : held.phase = .renewing)
      (fits : deadline? now floor = some retryAt) (late : held.deadline ≤ retryAt) :
      Ending (.error fault) { l with slot := some { held with phase := .dormant } } .stop
  | outlasted (next : Lease) (held : Held) (id : next.hasId = true) (before : l.slot = some held)
      (own : held.generation = g) (renewing : held.phase = .renewing)
      (overflow : deadline? now next.span = none) :
      Ending (.ok next) (l.issue (reschedule next)) .crash
  | overran (fault : Fault) (held : Held) (keep : strategy.shouldDrop fault = false)
      (before : l.slot = some held) (own : held.generation = g)
      (renewing : held.phase = .renewing) (overflow : deadline? now floor = none) :
      Ending (.error fault) l .crash

theorem settle_ending_ok {next : Lease} (empty : next.hasId = false) :
    Ending l strategy floor threshold now g reschedule (.ok next) (l.settle g true) .stop := by
  unfold settle
  cases before : l.slot with
  | none => exact .stale _ (by simp [before]) (by simp [before])
  | some held =>
    by_cases own : held.generation = g
    · simpa [own] using Ending.forgotten next held empty before own
    · simpa [own] using Ending.stale (.ok next) (by simp [before, own]) (by simp [before, own])

theorem settle_ending_error {fault : Fault} (drop : strategy.shouldDrop fault = true) :
    Ending l strategy floor threshold now g reschedule (.error fault) (l.settle g false)
      .stop := by
  unfold settle
  cases before : l.slot with
  | none => exact .stale _ (by simp [before]) (by simp)
  | some held =>
    by_cases own : held.generation = g
    · simpa [own] using Ending.dropped fault held drop before own
    · simpa [own] using Ending.stale (.error fault) (by simp [before, own]) (by simp)

theorem advance_ending {next : Lease} (id : next.hasId = true) :
    Ending l strategy floor threshold now g reschedule (.ok next)
      (l.advance g now next (reschedule next) (renewalDelay next.span floor threshold)).1
      (l.advance g now next (reschedule next) (renewalDelay next.span floor threshold)).2 := by
  unfold advance
  cases found : l.claimed? g with
  | none =>
    refine .stale _ (claimed?_eq_none found) ?_
    rintro _ _ ⟨⟩ empty
    rw [id] at empty
    cases empty
  | some held =>
    obtain ⟨before, own, renewing⟩ := claimed?_eq_some found
    cases fits : deadline? now next.span with
    | none => exact .outlasted next held id before own renewing fits
    | some deadline =>
      cases again : reschedule next with
      | true => exact .renewed next held deadline id again before own renewing fits
      | false => exact .rested next held deadline id again before own renewing fits

theorem retain_ending {fault : Fault} (keep : strategy.shouldDrop fault = false) :
    Ending l strategy floor threshold now g reschedule (.error fault)
      (l.retain g now floor).1 (l.retain g now floor).2 := by
  unfold retain
  cases found : l.claimed? g with
  | none => exact .stale _ (claimed?_eq_none found) (by simp)
  | some held =>
    obtain ⟨before, own, renewing⟩ := claimed?_eq_some found
    cases fits : deadline? now floor with
    | none => exact .overran fault held keep before own renewing fits
    | some retryAt =>
      by_cases late : held.deadline ≤ retryAt
      · simpa [late] using
          Ending.exhausted fault held retryAt keep before own renewing fits late
      · simpa [late, issue] using
          Ending.retained fault held retryAt keep before own renewing fits (by omega)

theorem conclude_ending (result : Except Fault Lease) :
    Ending l strategy floor threshold now g reschedule result
      (l.conclude strategy floor threshold now g reschedule result).1
      (l.conclude strategy floor threshold now g reschedule result).2 := by
  cases result with
  | ok next =>
    cases id : next.hasId with
    | true =>
      simpa [conclude, id] using advance_ending l strategy floor threshold now g reschedule id
    | false =>
      simpa [conclude, id] using settle_ending_ok l strategy floor threshold now g reschedule id
  | error fault =>
    cases drop : strategy.shouldDrop fault with
    | true =>
      simpa [conclude, drop] using
        settle_ending_error l strategy floor threshold now g reschedule drop
    | false =>
      simpa [conclude, drop] using retain_ending l strategy floor threshold now g reschedule drop

end

end LeaseKeeper.Lineage

import LeaseKeeper.Proofs.Lineage.Outcomes

/-!
Generations and the register of timers. Every generation about was handed out, whatever happens.
While no deadline outlasts the clock, the register holds exactly the timer of a scheduled slot, and
that timer is not cancelled.
-/
namespace LeaseKeeper.Lineage

variable {l : Lineage} {now : Nat} {lease : Lease}

structure Numbered (l : Lineage) : Prop where
  slot : ∀ held, l.slot = some held → held.generation ≤ l.issued
  timers : ∀ g ∈ l.timers, g ≤ l.issued
  cancelled : ∀ g ∈ l.cancelled, g ≤ l.issued

theorem numbered_new : new.Numbered := ⟨by simp [new], by simp [new], by simp [new]⟩

theorem mem_issue_timers {withTimer : Bool} {g : Nat} (member : g ∈ (l.issue withTimer).timers) :
    g = l.issued + 1 ∨ g ∈ l.timers := by
  cases withTimer with
  | true => exact List.mem_cons.mp member
  | false => exact Or.inr member

theorem Numbered.timers_le_issue (n : l.Numbered) {withTimer : Bool} {g : Nat}
    (member : g ∈ (l.issue withTimer).timers) : g ≤ l.issued + 1 := by
  rcases mem_issue_timers member with fresh | old
  · omega
  · have := n.timers g old
    omega

theorem Numbered.place (n : l.Numbered) {withTimer : Bool} {slot : Option Held}
    (bound : ∀ held, slot = some held → held.generation ≤ l.issued + 1) :
    ({ l.issue withTimer with slot } : Lineage).Numbered := by
  refine ⟨bound, fun g member => n.timers_le_issue member, ?_⟩
  intro g member
  have old := n.cancelled g member
  exact Nat.le_succ_of_le old

theorem Numbered.issue (n : l.Numbered) (withTimer : Bool) : (l.issue withTimer).Numbered := by
  have bound : ∀ held, l.slot = some held → held.generation ≤ l.issued + 1 :=
    fun held before => Nat.le_succ_of_le (n.slot held before)
  exact n.place bound

theorem Numbered.replaced (n : l.Numbered) (lease : Lease) (deadline : Nat) :
    (l.replaced lease deadline).Numbered := by
  refine ⟨?_, ?_, ?_⟩
  · intro held placed
    rw [replaced_slot] at placed
    obtain rfl := Option.some.inj placed
    simp
  · intro g member
    rw [replaced_issued]
    rcases mem_replaced_timers member with fresh | old
    · omega
    · have := n.timers g old
      omega
  · intro g member
    rw [replaced_issued]
    rcases mem_replaced_cancelled member with old | ⟨held, before, rfl⟩
    · have := n.cancelled g old
      omega
    · have := n.slot held before
      omega

theorem Numbered.disable (n : l.Numbered) : l.disable.1.Numbered := by
  refine ⟨by simp [Lineage.disable], by simp [Lineage.disable], ?_⟩
  intro g member
  rcases List.mem_append.mp member with pending | old
  · exact n.timers g pending
  · exact n.cancelled g old

theorem mem_unregister_timers {g other : Nat} (member : other ∈ (l.unregister g).timers) :
    other ∈ l.timers ∧ other ≠ g := by
  simpa [unregister] using member

theorem Numbered.unregister (n : l.Numbered) (g : Nat) : (l.unregister g).Numbered :=
  ⟨n.slot, fun other member => n.timers other (mem_unregister_timers member).1, n.cancelled⟩

theorem Numbered.rephase (n : l.Numbered) {held : Held} (before : l.slot = some held)
    (phase : Phase) : ({ l with slot := some { held with phase } } : Lineage).Numbered := by
  refine ⟨?_, n.timers, n.cancelled⟩
  intro other placed
  obtain rfl := Option.some.inj placed
  exact n.slot held before

section
variable {strategy : Strategy} {floor threshold g : Nat} {reschedule : Lease → Bool}
  {result : Except Fault Lease} {after : Lineage} {next : Next}

theorem Ending.issued_le
    (ending : Ending l strategy floor threshold now g reschedule result after next) :
    l.issued ≤ after.issued := by
  cases ending <;> simp [issue]

theorem Numbered.ending (n : l.Numbered)
    (ending : Ending l strategy floor threshold now g reschedule result after next) :
    after.Numbered := by
  cases ending with
  | stale => exact n
  | forgotten => exact ⟨by simp, n.timers, n.cancelled⟩
  | dropped fault held drop before own => exact n.rephase before .dormant
  | renewed next held deadline => exact n.place (by simp)
  | rested next held deadline => exact n.place (by simp)
  | retained fault held retryAt => exact n.place (by simp)
  | exhausted fault held retryAt keep before own renewing => exact n.rephase before .dormant
  | outlasted next => exact n.issue _
  | overran => exact n

theorem Ending.active_before
    (ending : Ending l strategy floor threshold now g reschedule result after next)
    (active : after.isActive = true) : l.isActive = true := by
  cases ending with
  | stale => exact active
  | forgotten => cases active
  | dropped => cases active
  | renewed _ held _ _ _ before _ renewing => simp [isActive, before, renewing]
  | rested => cases active
  | retained _ held _ _ before _ renewing => simp [isActive, before, renewing]
  | exhausted => cases active
  | outlasted => exact active
  | overran => exact active

theorem Ending.unchanged
    (ending : Ending l strategy floor threshold now g reschedule result after next)
    (gone : ∀ held, l.slot = some held → held.generation ≠ g) : after = l := by
  cases ending with
  | stale => rfl
  | forgotten next held empty before own => exact absurd own (gone held before)
  | dropped fault held drop before own => exact absurd own (gone held before)
  | renewed next held deadline id again before own => exact absurd own (gone held before)
  | rested next held deadline id last before own => exact absurd own (gone held before)
  | retained fault held retryAt keep before own => exact absurd own (gone held before)
  | exhausted fault held retryAt keep before own => exact absurd own (gone held before)
  | outlasted next held id before own => exact absurd own (gone held before)
  | overran => rfl

end

def awaited (l : Lineage) : List Nat :=
  match l.slot with
  | some held => if held.phase = .scheduled then [held.generation] else []
  | none => []

theorem awaited_of_none (empty : l.slot = none) : l.awaited = [] := by
  simp [awaited, empty]

theorem awaited_of_scheduled {held : Held} (before : l.slot = some held)
    (scheduled : held.phase = .scheduled) : l.awaited = [held.generation] := by
  simp [awaited, before, scheduled]

theorem awaited_of_unscheduled {held : Held} (before : l.slot = some held)
    (unscheduled : held.phase ≠ .scheduled) : l.awaited = [] := by
  simp [awaited, before, unscheduled]

structure Tidy (l : Lineage) : Prop extends Numbered l where
  registered : l.timers = l.awaited
  live : ∀ g ∈ l.timers, g ∉ l.cancelled

theorem tidy_new : new.Tidy := ⟨numbered_new, rfl, by simp [new]⟩

theorem Tidy.mem_timers_iff (tidy : l.Tidy) (g : Nat) :
    g ∈ l.timers ↔ ∃ held, l.slot = some held ∧ held.phase = .scheduled ∧ held.generation = g := by
  rw [tidy.registered]
  cases before : l.slot with
  | none => simp [awaited, before]
  | some held =>
    by_cases scheduled : held.phase = .scheduled
    · simp [awaited, before, scheduled, eq_comm]
    · simp [awaited, before, scheduled]

theorem Tidy.pending_le_one (tidy : l.Tidy) : l.pending ≤ 1 := by
  rw [pending, tidy.registered]
  unfold awaited
  split
  · split <;> simp
  · simp

theorem Tidy.no_timers (tidy : l.Tidy)
    (idle : ∀ held, l.slot = some held → held.phase ≠ .scheduled) : l.timers = [] := by
  rw [tidy.registered]
  cases before : l.slot with
  | none => exact awaited_of_none before
  | some held => exact awaited_of_unscheduled before (idle held before)

theorem Numbered.fresh (n : l.Numbered) : l.issued + 1 ∉ l.timers ∧ l.issued + 1 ∉ l.cancelled := by
  constructor
  · intro member
    have := n.timers _ member
    omega
  · intro member
    have := n.cancelled _ member
    omega

theorem Tidy.replaced_timers (tidy : l.Tidy) (lease : Lease) (deadline : Nat) :
    (l.replaced lease deadline).timers = [l.issued + 1] := by
  cases before : l.slot with
  | none =>
    rw [replaced_timers_of_none before, tidy.registered, awaited_of_none before]
  | some held =>
    have bound := tidy.slot held before
    have differ : l.issued + 1 ≠ held.generation := by omega
    rw [replaced_timers_of_some before, tidy.registered]
    by_cases scheduled : held.phase = .scheduled
    · simp [awaited_of_scheduled before scheduled, differ]
    · simp [awaited_of_unscheduled before scheduled, differ]

theorem Tidy.replaced (tidy : l.Tidy) (lease : Lease) (deadline : Nat) :
    (l.replaced lease deadline).Tidy := by
  refine ⟨tidy.toNumbered.replaced lease deadline, ?_, ?_⟩
  · rw [tidy.replaced_timers, awaited_of_scheduled (replaced_slot l lease deadline) rfl]
  · intro g member was
    rw [tidy.replaced_timers] at member
    obtain rfl := List.mem_singleton.mp member
    rcases mem_replaced_cancelled was with old | ⟨held, before, same⟩
    · exact tidy.fresh.2 old
    · have := tidy.slot held before
      omega

theorem Tidy.disable (tidy : l.Tidy) : l.disable.1.Tidy :=
  ⟨tidy.toNumbered.disable, rfl, by simp [Lineage.disable]⟩

theorem Tidy.claim (tidy : l.Tidy) {held : Held} {g : Nat} (before : l.slot = some held)
    (own : held.generation = g) (scheduled : held.phase = .scheduled) :
    ({ l.unregister g with slot := some { held with phase := .renewing } } : Lineage).Tidy := by
  have timers : l.timers = [g] := by
    rw [tidy.registered, awaited_of_scheduled before scheduled, own]
  refine ⟨(tidy.toNumbered.unregister _).rephase before .renewing, ?_, ?_⟩
  · simp [unregister, timers, awaited]
  · intro other member
    exact tidy.live other (mem_unregister_timers member).1

theorem Tidy.miss (tidy : l.Tidy) {g : Nat}
    (missed : ∀ held, l.slot = some held → held.generation = g → held.phase ≠ .scheduled) :
    (l.unregister g).Tidy := by
  have absent : g ∉ l.timers := by
    intro member
    obtain ⟨held, before, scheduled, own⟩ := (tidy.mem_timers_iff g).mp member
    exact missed held before own scheduled
  have same : (l.unregister g).timers = l.timers := by
    apply List.filter_eq_self.mpr
    intro other member
    have differ : other ≠ g := fun eq => absent (eq ▸ member)
    simpa using differ
  exact ⟨tidy.toNumbered.unregister g, same.trans tidy.registered,
    fun other member => tidy.live other (same ▸ member)⟩

/-- A renewal whose generation is not scheduled leaves the register tidy, unless it registers a
timer for a lease that outlasts the clock. -/
theorem Tidy.conclude {strategy : Strategy} {floor threshold g : Nat} {reschedule : Lease → Bool}
    {result : Except Fault Lease} {after : Lineage} {next : Next} (tidy : l.Tidy)
    (unscheduled : ∀ held, l.slot = some held → held.generation = g → held.phase ≠ .scheduled)
    (ending : Ending l strategy floor threshold now g reschedule result after next)
    (fits : ∀ lease, result = .ok lease → next = .crash → reschedule lease = false) :
    after.Tidy := by
  have numbered := tidy.toNumbered.ending ending
  have unclaimed {held : Held} (before : l.slot = some held) (own : held.generation = g) :
      l.timers = [] := by
    rw [tidy.registered, awaited_of_unscheduled before (unscheduled held before own)]
  have first (timers : List Nat) (empty : timers = []) :
      ∀ fresh ∈ (l.issued + 1) :: timers, fresh ∉ l.cancelled := by
    intro fresh member
    rw [empty] at member
    obtain rfl := List.mem_singleton.mp member
    exact tidy.fresh.2
  cases ending with
  | stale => exact tidy
  | forgotten next held empty before own =>
    exact ⟨numbered, by simp [awaited, unclaimed before own], tidy.live⟩
  | dropped fault held drop before own =>
    exact ⟨numbered, by simp [awaited, unclaimed before own], tidy.live⟩
  | renewed next held deadline id again before own =>
    have none_left := unclaimed before own
    exact ⟨numbered, by simp [issue, awaited, none_left], first _ none_left⟩
  | rested next held deadline id last before own =>
    exact ⟨numbered, by simp [issue, awaited, unclaimed before own], tidy.live⟩
  | retained fault held retryAt keep before own =>
    have none_left := unclaimed before own
    exact ⟨numbered, by simp [issue, awaited, none_left], first _ none_left⟩
  | exhausted fault held retryAt keep before own =>
    exact ⟨numbered, by simp [awaited, unclaimed before own], tidy.live⟩
  | outlasted next held =>
    have idle := fits next rfl rfl
    rw [idle] at numbered ⊢
    exact ⟨numbered, tidy.registered, tidy.live⟩
  | overran => exact tidy

/-- A renewal that holds the slot leaves the register tidy, unless it ends in an overflow of the
clock. -/
theorem Tidy.ending {strategy : Strategy} {floor threshold g : Nat} {reschedule : Lease → Bool}
    {result : Except Fault Lease} {after : Lineage} {next : Next} (tidy : l.Tidy)
    (claimed : ∀ held, l.slot = some held → held.generation = g → held.phase = .renewing)
    (ending : Ending l strategy floor threshold now g reschedule result after next)
    (alive : next ≠ .crash) : after.Tidy :=
  tidy.conclude (fun held before own => by simp [claimed held before own]) ending
    fun _ _ crash => absurd crash alive

/-! ### What becomes of a line -/

/-- What a line may be later on. Its slot holds something under a fresh number, or the same lease
under its own number, which is not scheduled again. -/
structure Onward (l l' : Lineage) : Prop where
  issued : l.issued ≤ l'.issued
  slot : ∀ held', l'.slot = some held' → l.issued < held'.generation ∨
    ∃ held, l.slot = some held ∧ held'.generation = held.generation ∧ held'.lease = held.lease ∧
      (held'.phase = .scheduled → held.phase = .scheduled)
  numbered : l.Numbered → l'.Numbered

namespace Onward

variable {l' l'' : Lineage}

theorem of_slot (issued : l.issued ≤ l'.issued) (slot : l'.slot = l.slot)
    (numbered : l.Numbered → l'.Numbered) : Onward l l' := by
  refine ⟨issued, ?_, numbered⟩
  intro held present
  exact Or.inr ⟨held, slot ▸ present, rfl, rfl, id⟩

theorem refl (l : Lineage) : Onward l l := .of_slot (Nat.le_refl _) rfl id

theorem trans (first : Onward l l') (second : Onward l' l'') : Onward l l'' := by
  refine ⟨Nat.le_trans first.issued second.issued, ?_, second.numbered ∘ first.numbered⟩
  intro held'' present
  rcases second.slot held'' present with fresh | ⟨held', before, number, lease, phase⟩
  · exact Or.inl (Nat.lt_of_le_of_lt first.issued fresh)
  · rcases first.slot held' before with fresh | ⟨held, origin, number', lease', phase'⟩
    · exact Or.inl (number ▸ fresh)
    · exact Or.inr ⟨held, origin, number.trans number', lease.trans lease', phase' ∘ phase⟩

theorem of_fresh (issued : l.issued ≤ l'.issued)
    (fresh : ∀ held, l'.slot = some held → l.issued < held.generation)
    (numbered : l.Numbered → l'.Numbered) : Onward l l' :=
  ⟨issued, fun held present => Or.inl (fresh held present), numbered⟩

theorem rephase {held : Held} {phase : Phase} (before : l.slot = some held)
    (unscheduled : phase ≠ .scheduled) (issued : l.issued ≤ l'.issued)
    (slot : l'.slot = some { held with phase }) (numbered : l.Numbered → l'.Numbered) :
    Onward l l' := by
  refine ⟨issued, ?_, numbered⟩
  intro held' present
  obtain rfl := Option.some.inj (slot.symm.trans present)
  exact Or.inr ⟨held, before, rfl, rfl, fun scheduled => absurd scheduled unscheduled⟩

theorem issue (l : Lineage) (withTimer : Bool) : Onward l (l.issue withTimer) :=
  .of_slot (Nat.le_succ _) rfl (·.issue withTimer)

theorem replaced (l : Lineage) (lease : Lease) (deadline : Nat) :
    Onward l (l.replaced lease deadline) := by
  refine .of_fresh (by simp) ?_ (·.replaced lease deadline)
  intro held present
  rw [replaced_slot] at present
  obtain rfl := Option.some.inj present
  simp

theorem disable (l : Lineage) : Onward l l.disable.1 :=
  .of_fresh (Nat.le_refl _) (by simp [Lineage.disable]) (·.disable)

theorem unregister (l : Lineage) (g : Nat) : Onward l (l.unregister g) :=
  .of_slot (Nat.le_refl _) rfl (·.unregister g)

theorem claim {held : Held} (before : l.slot = some held) (g : Nat) :
    Onward l { l.unregister g with slot := some { held with phase := .renewing } } :=
  .rephase before (by simp) (Nat.le_refl _) rfl fun numbered =>
    (numbered.unregister g).rephase before .renewing

theorem ending {strategy : Strategy} {floor threshold g : Nat} {reschedule : Lease → Bool}
    {result : Except Fault Lease} {after : Lineage} {next : Next}
    (ending : Ending l strategy floor threshold now g reschedule result after next) :
    Onward l after := by
  have issued := ending.issued_le
  have numbered (before : l.Numbered) := before.ending ending
  cases ending with
  | stale => exact .refl l
  | forgotten => exact .of_fresh issued (by simp) numbered
  | dropped fault held drop before => exact .rephase before (by simp) issued rfl numbered
  | renewed => exact .of_fresh issued (by simp) numbered
  | rested => exact .of_fresh issued (by simp) numbered
  | retained => exact .of_fresh issued (by simp) numbered
  | exhausted fault held retryAt keep before =>
    exact .rephase before (by simp) issued rfl numbered
  | outlasted => exact .of_slot issued rfl numbered
  | overran => exact .refl l

end Onward

end LeaseKeeper.Lineage

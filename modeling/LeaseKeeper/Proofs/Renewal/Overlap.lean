import LeaseKeeper.Proofs.Renewal.Order
import Mathlib.Data.List.Induction

/-!
When two renew calls of one lineage are in flight at once. A claim compares the slot with its own
generation only and knows nothing of a call that was claimed before, so the second call starts
exactly when a schedule overtakes the first call and the new timer runs out before the first answer.
-/
namespace LeaseKeeper.Renewal

open Lineage

namespace System

def inFlight (s : System) : Nat := (s.tasks.filter Task.isCalling).length

/-- A renew call starts while an earlier one is unanswered that a schedule has overtaken. -/
def Overtaken (s : System) (events : List Event) : Prop :=
  ∃ before lease terms between number, ∃ caller ∈ (s.run before).tasks,
    before ++ .schedule lease terms :: between ++ [.fire number] <+: events ∧
      caller.isCalling = true ∧ (∀ result, .answer caller.number result ∉ between) ∧
      (s.run (before ++ .schedule lease terms :: between ++ [.fire number])).calls ≠
        (s.run (before ++ .schedule lease terms :: between)).calls

structure Claims (s : System) (event : Event) (t : Task) : Prop where
  fired : event = .fire t.number
  claimed : ∃ held, s.lineage.slot = some held ∧ held.generation = t.generation ∧
    held.phase = .scheduled ∧
    (s.step event).lineage.slot = some { held with phase := .renewing }
  called : (s.step event).calls ≠ s.calls

variable {s : System}

theorem Ordered.task?_of_mem (o : s.Ordered) {t : Task} (member : t ∈ s.tasks) :
    s.task? t.number = some t := by
  cases found : s.task? t.number with
  | none =>
    have absent := List.find?_eq_none.mp found t member
    simp at absent
  | some other =>
    obtain ⟨present, same⟩ := task?_eq_some found
    exact congrArg some (o.roster.same_number present member same)

theorem Ordered.differs_of_waiting (o : s.Ordered) {t task : Task} {number due : Nat}
    (member : t ∈ s.tasks) (calling : t.isCalling = true) (found : s.task? number = some task)
    (waiting : task.stage = .waiting due) : t.number ≠ number := by
  intro same
  obtain ⟨present, own⟩ := task?_eq_some found
  obtain rfl := o.roster.same_number member present (same.trans own.symm)
  rw [t.not_isCalling_iff.mpr ⟨due, waiting⟩] at calling
  cases calling

theorem Ordered.inFlight_le_one_iff (o : s.Ordered) : s.inFlight ≤ 1 ↔
    ∀ t ∈ s.tasks, ∀ u ∈ s.tasks, t.isCalling = true → u.isCalling = true → t = u := by
  have distinct : (s.tasks.filter Task.isCalling).Nodup := (o.roster.numbers.of_map _).filter _
  constructor
  · intro alone t mt u mu ct cu
    have first : t ∈ s.tasks.filter Task.isCalling := List.mem_filter.mpr ⟨mt, ct⟩
    have second : u ∈ s.tasks.filter Task.isCalling := List.mem_filter.mpr ⟨mu, cu⟩
    rw [inFlight] at alone
    generalize s.tasks.filter Task.isCalling = callers at alone first second
    match callers, alone with
    | [only], _ =>
      rw [List.mem_singleton] at first second
      exact first.trans second.symm
  · intro same
    rw [inFlight]
    have member {t : Task} (found : t ∈ s.tasks.filter Task.isCalling) :=
      List.mem_filter.mp found
    generalize s.tasks.filter Task.isCalling = callers at distinct member
    match callers with
    | [] => simp
    | [_] => simp
    | first :: second :: rest =>
      have ⟨mt, ct⟩ : first ∈ s.tasks ∧ first.isCalling = true := member List.mem_cons_self
      have ⟨mu, cu⟩ := member (List.mem_cons_of_mem first List.mem_cons_self)
      have twin := same first mt second mu ct cu
      simp [twin] at distinct

/-! ### The life of a renew call -/

theorem step_calling_stays (o : s.Ordered) {t : Task} (member : t ∈ s.tasks)
    (calling : t.isCalling = true) {event : Event}
    (unanswered : ∀ result, event ≠ .answer t.number result) : t ∈ (s.step event).tasks := by
  have change := step_change s event
  generalize s.step event = after at change
  cases change with
  | scheduled => exact List.mem_append_left _ member
  | outlasted => exact member
  | disabled => exact member
  | passed => exact member
  | claimed number due task held found waiting =>
    obtain ⟨_, own⟩ := task?_eq_some found
    exact mem_replace_of_ne member (own ▸ o.differs_of_waiting member calling found waiting)
  | missed number due task found waiting =>
    exact mem_drop_tasks.mpr ⟨member, o.differs_of_waiting member calling found waiting⟩
  | unfired => exact member
  | stopped number due task found waiting =>
    exact mem_drop_tasks.mpr ⟨member, o.differs_of_waiting member calling found waiting⟩
  | unstopped => exact member
  | resumed number generation delay task lease result after found =>
    have other : t.number ≠ number := fun same => unanswered result (by rw [same])
    exact mem_replace_of_ne member ((task?_eq_some found).2 ▸ other)
  | ended number task lease result =>
    have other : t.number ≠ number := fun same => unanswered result (by rw [same])
    exact mem_drop_tasks.mpr ⟨member, other⟩
  | unanswered => exact member

theorem run_calling_stays (o : s.Ordered) {t : Task} (member : t ∈ s.tasks)
    (calling : t.isCalling = true) {events : List Event}
    (unanswered : ∀ result, .answer t.number result ∉ events) : t ∈ (s.run events).tasks := by
  induction events generalizing s with
  | nil => exact member
  | cons event rest ih =>
    have first : ∀ result, event ≠ .answer t.number result :=
      fun result same => unanswered result (same ▸ List.mem_cons_self)
    have others : ∀ result, .answer t.number result ∉ rest :=
      fun result later => unanswered result (List.mem_cons_of_mem _ later)
    exact ih (step_ordered o event) (step_calling_stays o member calling first) others

theorem step_calling_origin (o : s.Ordered) {event : Event} {t : Task}
    (member : t ∈ (s.step event).tasks) (calling : t.isCalling = true) :
    (t ∈ s.tasks ∧ ∀ result, event ≠ .answer t.number result) ∨ s.Claims event t := by
  have change := step_change s event
  have claims (fired : event = .fire t.number)
      (claimed : ∃ held, s.lineage.slot = some held ∧ held.generation = t.generation ∧
        held.phase = .scheduled ∧
        (s.step event).lineage.slot = some { held with phase := .renewing })
      (called : (s.step event).calls ≠ s.calls) : s.Claims event t := ⟨fired, claimed, called⟩
  generalize s.step event = after at change member claims
  cases change with
  | scheduled lease terms =>
    rcases List.mem_append.mp member with old | fresh
    · exact Or.inl ⟨old, by simp⟩
    · obtain rfl := List.mem_singleton.mp fresh
      cases calling
  | outlasted => exact Or.inl ⟨member, by simp⟩
  | disabled => exact Or.inl ⟨member, by simp⟩
  | passed => exact Or.inl ⟨member, by simp⟩
  | claimed number due task held found waiting ripe before own scheduled =>
    rcases mem_replace_tasks member with rfl | ⟨was, _⟩
    · refine Or.inr (claims ?_ ⟨held, before, own, scheduled, rfl⟩ (List.cons_ne_self _ _))
      rw [← (task?_eq_some found).2]
    · exact Or.inl ⟨was, by simp⟩
  | missed => exact Or.inl ⟨(mem_drop_tasks.mp member).1, by simp⟩
  | unfired => exact Or.inl ⟨member, by simp⟩
  | stopped => exact Or.inl ⟨(mem_drop_tasks.mp member).1, by simp⟩
  | unstopped => exact Or.inl ⟨member, by simp⟩
  | resumed number generation delay task lease result after found =>
    rcases mem_replace_tasks member with rfl | ⟨was, differ⟩
    · cases calling
    · refine Or.inl ⟨was, ?_⟩
      rintro _ same
      obtain ⟨rfl, _⟩ := Event.answer.inj same
      exact differ (task?_eq_some found).2.symm
  | ended number task lease result =>
    obtain ⟨was, differ⟩ := mem_drop_tasks.mp member
    refine Or.inl ⟨was, ?_⟩
    rintro _ same
    obtain ⟨rfl, _⟩ := Event.answer.inj same
    exact differ rfl
  | unanswered number result idle =>
    refine Or.inl ⟨member, ?_⟩
    rintro _ same
    obtain ⟨rfl, _⟩ := Event.answer.inj same
    obtain ⟨lease, stage⟩ := t.isCalling_iff.mp calling
    exact idle t lease (o.task?_of_mem member) stage

/-! ### How a call is overtaken -/

theorem step_overtakes (o : s.Ordered) {t : Task} (member : t ∈ s.tasks) {event : Event}
    (unanswered : ∀ result, event ≠ .answer t.number result)
    (own : ∀ held, s.lineage.slot = some held → held.generation = t.generation) {held : Held}
    (placed : (s.step event).lineage.slot = some held)
    (moved : held.generation ≠ t.generation) : ∃ lease terms, event = .schedule lease terms := by
  have change := step_change s event
  generalize s.step event = after at change placed
  have kept (same : after.lineage.slot = s.lineage.slot) :
      ∃ lease terms, event = .schedule lease terms :=
    absurd (own held (same.symm.trans placed)) moved
  have foreign {number : Nat} {task : Task} {result : Except Fault Lease}
      (found : s.task? number = some task) (answer : event = .answer number result) :
      ∀ occupant, s.lineage.slot = some occupant → occupant.generation ≠ task.generation := by
    intro occupant before same
    obtain ⟨present, rfl⟩ := task?_eq_some found
    obtain rfl := o.roster.unique member present ((own occupant before).symm.trans same)
    exact unanswered result answer
  cases change with
  | scheduled lease terms => exact ⟨lease, terms, rfl⟩
  | outlasted lease terms => exact ⟨lease, terms, rfl⟩
  | disabled => cases placed
  | passed => exact kept rfl
  | claimed number due task occupant found waiting ripe before =>
    obtain rfl := Option.some.inj placed
    exact absurd (own occupant before) moved
  | missed => exact kept rfl
  | unfired => exact kept rfl
  | stopped => exact kept rfl
  | unstopped => exact kept rfl
  | resumed number generation delay task lease result line found calling ending =>
    exact kept (congrArg Lineage.slot (ending.unchanged (foreign found rfl)))
  | ended number task lease result line next found calling ending =>
    exact kept (congrArg Lineage.slot (ending.unchanged (foreign found rfl)))
  | unanswered => exact kept rfl

/-- A call whose generation is not the slot's was overtaken by a schedule made during the call. -/
theorem overtaken_history (strategy : Strategy) (events : List Event) {t : Task} {held : Held}
    (member : t ∈ ((new strategy).run events).tasks) (calling : t.isCalling = true)
    (before : ((new strategy).run events).lineage.slot = some held)
    (moved : held.generation ≠ t.generation) :
    ∃ earlier lease terms between, events = earlier ++ .schedule lease terms :: between ∧
      t ∈ ((new strategy).run earlier).tasks ∧ ∀ result, .answer t.number result ∉ between := by
  induction events using List.reverseRecOn generalizing held with
  | nil => cases member
  | append_singleton rest event ih =>
    rw [run_snoc] at member before
    have o := run_ordered (ordered_new strategy) rest
    rcases step_calling_origin o member calling with
      ⟨was, unanswered⟩ | ⟨_, ⟨occupant, _, own, _, placed⟩, _⟩
    · by_cases same : ∀ other, ((new strategy).run rest).lineage.slot = some other →
          other.generation = t.generation
      · obtain ⟨lease, terms, rfl⟩ := step_overtakes o was unanswered same before moved
        exact ⟨rest, lease, terms, [], rfl, was, by simp⟩
      · obtain ⟨other, occupied, differ⟩ :
            ∃ other, ((new strategy).run rest).lineage.slot = some other ∧
              other.generation ≠ t.generation := by simpa using same
        obtain ⟨earlier, lease, terms, between, split, present, silent⟩ := ih was occupied differ
        refine ⟨earlier, lease, terms, between ++ [event], by simp [split], present, ?_⟩
        intro result answered
        rcases List.mem_append.mp answered with old | last
        · exact silent result old
        · exact unanswered result (List.mem_singleton.mp last).symm
    · obtain rfl := Option.some.inj (placed.symm.trans before)
      exact absurd own moved

theorem step_starts_call {number : Nat} (starts : (s.step (.fire number)).calls ≠ s.calls) :
    ∃ task due, s.task? number = some task ∧ task.stage = .waiting due ∧
      ∃ caller ∈ (s.step (.fire number)).tasks,
        caller.number = number ∧ caller.isCalling = true := by
  have change := step_change s (.fire number)
  generalize s.step (.fire number) = after at change starts
  cases change with
  | claimed number due task held found waiting =>
    obtain ⟨present, own⟩ := task?_eq_some found
    exact ⟨task, due, found, waiting, _, replaced_mem present rfl, own, rfl⟩
  | missed => exact absurd rfl starts
  | unfired => exact absurd rfl starts

theorem not_overtaken_of_alone {strategy : Strategy} {events : List Event}
    (alone : ∀ before, before <+: events → ((new strategy).run before).inFlight ≤ 1) :
    ¬ (new strategy).Overtaken events := by
  rintro ⟨before, lease, terms, between, number, caller, member, initial, calling, silent, starts⟩
  have o := run_ordered (ordered_new strategy) before
  have later := run_ordered (ordered_new strategy) (before ++ .schedule lease terms :: between)
  have still :
      caller ∈ ((new strategy).run (before ++ .schedule lease terms :: between)).tasks := by
    rw [run_append]
    apply run_calling_stays o member calling
    intro result answered
    rcases List.mem_cons.mp answered with now | rest
    · cases now
    · exact silent result rest
  rw [run_snoc] at starts
  obtain ⟨task, due, found, waiting, second, present, own, busy⟩ := step_starts_call starts
  have differ := later.differs_of_waiting still calling found waiting
  have unanswered : ∀ result, Event.fire number ≠ .answer caller.number result := by simp
  have kept := step_calling_stays later still calling unanswered
  have one := alone _ initial
  rw [run_snoc, (step_ordered later _).inFlight_le_one_iff] at one
  have twin := one caller kept second present calling busy
  exact differ (twin ▸ own)

theorem Overtaken.mono {events more : List Event} (overtaken : s.Overtaken events)
    (initial : events <+: more) : s.Overtaken more := by
  obtain ⟨before, lease, terms, between, number, caller, member, reached, rest⟩ := overtaken
  exact ⟨before, lease, terms, between, number, caller, member, reached.trans initial, rest⟩

theorem overtaken_of_claims {strategy : Strategy} {rest : List Event} {event : Event} {t u : Task}
    (member : t ∈ ((new strategy).run rest).tasks) (calling : t.isCalling = true)
    (claims : ((new strategy).run rest).Claims event u) :
    (new strategy).Overtaken (rest ++ [event]) := by
  obtain ⟨rfl, ⟨held, occupied, own, scheduled, _⟩, called⟩ := claims
  have moved : held.generation ≠ t.generation := by
    intro same
    have suits := (run_ordered (ordered_new strategy) rest).suited t member held occupied same
    obtain ⟨lease, stage⟩ := t.isCalling_iff.mp calling
    simp [Task.Suits, stage, scheduled] at suits
  obtain ⟨before, lease, terms, between, rfl, present, silent⟩ :=
    overtaken_history strategy rest member calling occupied moved
  rw [← run_snoc] at called
  exact ⟨before, lease, terms, between, u.number, t, present, List.prefix_refl _, calling, silent,
    called⟩

theorem alone_of_not_overtaken {strategy : Strategy} {events : List Event}
    (free : ¬ (new strategy).Overtaken events) :
    ∀ before, before <+: events → ((new strategy).run before).inFlight ≤ 1 := by
  intro before initial
  induction before using List.reverseRecOn with
  | nil => simp [run, new, inFlight]
  | append_singleton rest event ih =>
    have o := run_ordered (ordered_new strategy) rest
    have alone := o.inFlight_le_one_iff.mp (ih ((List.prefix_append rest [event]).trans initial))
    rw [run_snoc, (step_ordered o event).inFlight_le_one_iff]
    intro t mt u mu ct cu
    rcases step_calling_origin o mt ct with ⟨was_t, _⟩ | first
    · rcases step_calling_origin o mu cu with ⟨was_u, _⟩ | second
      · exact alone t was_t u was_u ct cu
      · exact absurd ((overtaken_of_claims was_t ct second).mono initial) free
    · rcases step_calling_origin o mu cu with ⟨was_u, _⟩ | second
      · exact absurd ((overtaken_of_claims was_u cu first).mono initial) free
      · have same := Event.fire.inj (first.fired.symm.trans second.fired)
        exact (step_ordered o event).roster.same_number mt mu same

/-- At most one renew call is in flight throughout a run exactly when no call starts while another
one is unanswered that a schedule has overtaken. -/
theorem one_in_flight_iff_not_overtaken (strategy : Strategy) (events : List Event) :
    (∀ before, before <+: events → ((new strategy).run before).inFlight ≤ 1) ↔
      ¬ (new strategy).Overtaken events :=
  ⟨not_overtaken_of_alone, alone_of_not_overtaken⟩

/-- A lease is scheduled one second into a slow renewal of the one before, and its own timer runs
out ten seconds later. -/
theorem two_calls_in_flight :
    let terms : Terms := ⟨Span.seconds 10, Span.seconds 20, fun _ => true⟩
    ((new .dropOnError).run [.schedule ⟨"a", 30, true⟩ terms, .pass (Span.seconds 10), .fire 0,
      .pass (Span.seconds 1), .schedule ⟨"b", 30, true⟩ terms, .pass (Span.seconds 10),
      .fire 1]).inFlight = 2 := by decide

end System
end LeaseKeeper.Renewal

import LeaseKeeper.Proofs.Session.Failures
import LeaseKeeper.Proofs.Session.Lookups

/-!
How often a token is refreshed, if no task is kept from going on while time passes. The timer of a
token runs out when its time has come, unless the token is gone by then. From that on a new token
lasts for longer than it is refreshed ahead of its end, so between two refreshes there is always
some time: a renewal of less makes the refresh log in, once, and a login of less sets no timer.
-/
namespace LeaseKeeper

def SessionPolicy.gap (policy : SessionPolicy) : Nat := policy.threshold - policy.lead

namespace Session

variable {s s' opened : Session} {party : Party} {event first last : SessionEvent}
  {within after : List SessionEvent} {stage : TurnStage} {given : Option LoginToken}
  {login : LoginToken} {expiresAt : Option Int} {generation due : Nat}

def fires? (s : Session) : SessionEvent → Option Nat
  | .fire generation =>
    match s.waits.lookup generation with
    | some due => if due ≤ s.now then some generation else none
    | none => none
  | _ => none

def firings (s : Session) : List SessionEvent → List Nat
  | [] => []
  | event :: rest =>
    (if (s.fires? event).isSome then [s.now] else []) ++ (s.step event).firings rest

/-- No time passes while a waiting task has something to do, as its timer was cancelled or would
run out. -/
def punctual (s : Session) : SessionEvent → Bool
  | .pass span =>
    span == 0 || s.waits.all fun wait =>
      !s.cancelled.contains wait.1 && decide (s.now + span ≤ wait.2)
  | _ => true

def isPunctual (s : Session) : List SessionEvent → Bool
  | [] => true
  | event :: rest => s.punctual event && (s.step event).isPunctual rest

theorem isPunctual_append (s : Session) (early late : List SessionEvent) :
    s.isPunctual (early ++ late) = (s.isPunctual early && (s.run early).isPunctual late) := by
  induction early generalizing s with
  | nil => rfl
  | cons event rest ih =>
    simp only [List.cons_append, isPunctual, ih, Bool.and_assoc]
    rfl

/-! ### Waiting tasks -/

theorem fires_cases (fires : s.fires? event = some generation) :
    event = .fire generation ∧ ∃ due, (generation, due) ∈ s.waits ∧ due ≤ s.now := by
  cases event with
  | fire own =>
    simp only [fires?] at fires
    split at fires
    · rename_i due waiting
      split at fires
      · rename_i ripe
        obtain rfl := Option.some.inj fires
        obtain ⟨before, after, split, _⟩ := List.lookup_eq_some_iff.mp waiting
        exact ⟨rfl, due, by rw [split]; simp, ripe⟩
      · cases fires
    · cases fires
  | _ => cases fires

theorem fires_left (fires : s.fires? event = some generation) :
    ∀ wait ∈ (s.step event).waits, wait ∈ s.waits ∧ wait.1 ≠ generation := by
  obtain ⟨rfl, _⟩ := fires_cases fires
  have left : ∀ wait ∈ (s.left generation).waits, wait ∈ s.waits ∧ wait.1 ≠ generation := by
    intro wait member
    obtain ⟨before, other⟩ := List.mem_filter.mp member
    exact ⟨before, by simpa using other⟩
  intro wait member
  simp only [fires?] at fires
  split at fires
  · rename_i due waiting
    split at fires
    · rename_i ripe
      simp only [step, fire, waiting, if_pos ripe] at member
      split at member
      · exact left wait (ask_waits (s.left generation) _ wait member)
      · exact left wait member
    · cases fires
  · cases fires

theorem step_wait (orderly : s.Orderly) (event : SessionEvent) :
    ∀ wait ∈ (s.step event).waits, wait ∈ s.waits ∨ ∃ login expiresAt,
      s.gained? event = some login ∧ s.endOf? login.ttl = some expiresAt ∧
      s.isRefreshed login expiresAt = true ∧
      wait = (s.issued + 1, s.now + (login.ttl - s.policy.lead)) := by
  intro wait member
  cases step_change orderly event with
  | kept idles => exact Or.inl (idles.waits wait member)
  | cancelled idles =>
    rw [cancelRefresh_eq] at idles
    exact Or.inl (idles.waits wait member)
  | installed login expiresAt obtained ends idles =>
    have waiting := idles.waits wait member
    unfold placed at waiting
    split at waiting
    · rename_i refreshed
      rcases List.mem_append.mp waiting with before | fresh
      · exact Or.inl before
      · exact Or.inr ⟨login, expiresAt, obtained, ends, refreshed, List.mem_singleton.mp fresh⟩
    · exact Or.inl waiting
  | dropped idles => exact Or.inl (idles.waits wait member)

theorem isRefreshed_iff : s.isRefreshed login expiresAt = true ↔
    expiresAt.isSome = true ∧ s.policy.threshold ≤ login.ttl := by
  simp [isRefreshed]

structure Lingers (s s' : Session) : Prop where
  now : s'.now = s.now
  waits : ∀ wait ∈ s.waits, wait ∈ s'.waits

theorem Settled.lingers (settled : Settled s s') : Lingers s s' := by
  cases settled
  exact ⟨rfl, fun _ => id⟩

theorem placed_lingers (s : Session) (login : LoginToken) (expiresAt : Option Int) :
    Lingers s (s.placed login expiresAt) := by
  unfold placed
  split
  · exact ⟨rfl, fun _ member => List.mem_append_left _ member⟩
  · exact ⟨rfl, fun _ => id⟩

theorem Served.lingers (served : Served s party given s') : Lingers s s' := by
  cases served with
  | settled _ settled => exact settled.lingers
  | called => exact ⟨rfl, fun _ => id⟩
  | failed _ _ _ _ settled =>
    rw [cancelRefresh_eq] at settled
    exact ⟨settled.lingers.now, settled.lingers.waits⟩
  | installed _ login expiresAt _ _ settled =>
    have placed := placed_lingers s login expiresAt
    exact ⟨settled.lingers.now.trans placed.now,
      fun wait member => settled.lingers.waits wait (placed.waits wait member)⟩
  | dropped _ settled => exact ⟨settled.lingers.now, settled.lingers.waits⟩
  | revoking => exact ⟨rfl, fun _ => id⟩

theorem step_now (orderly : s.Orderly) (still : ∀ span, event ≠ .pass span) :
    (s.step event).now = s.now := by
  have outcome := step_outcome orderly event
  generalize s.step event = s' at outcome
  cases outcome with
  | passed span => exact (still span rfl).elim
  | queued _ s₀ own turn comes => cases comes <;> rfl
  | entered _ s₀ _ own comes free served =>
    have same := served.lingers.now
    cases comes <;> exact same
  | resumed own _ turn served => exact served.lingers.now
  | answered own stage reply _ turn expects served => exact served.lingers.now
  | _ => rfl

theorem step_now_le (orderly : s.Orderly) (event : SessionEvent) :
    s.now ≤ (s.step event).now := by
  by_cases passes : ∃ span, event = .pass span
  · obtain ⟨span, rfl⟩ := passes
    exact Nat.le_add_right _ _
  · exact Nat.le_of_eq (step_now orderly fun span same => passes ⟨span, same⟩).symm

theorem step_cancelled (orderly : s.Orderly) (event : SessionEvent) :
    ∀ generation ∈ s.cancelled, generation ∈ (s.step event).cancelled := by
  intro generation member
  cases step_change orderly event with
  | kept idles => exact idles.cancelled ▸ member
  | cancelled idles =>
    rw [cancelRefresh_eq] at idles
    exact idles.cancelled ▸ List.mem_append_right _ member
  | installed login expiresAt obtained ends idles =>
    rw [idles.cancelled]
    unfold placed
    split <;> exact List.mem_append_right _ member
  | dropped idles => exact idles.cancelled ▸ List.mem_append_right _ member

theorem timer_of_wait (one : OneTimer s) {wait : Nat × Nat} (waiting : wait ∈ s.waits)
    (running : wait.1 ∉ s.cancelled) : s.timer = some wait.1 := by
  have set : wait.1 ∈ s.armed.filter (fun generation => !s.cancelled.contains generation) :=
    List.mem_filter.mpr ⟨one.waits_armed wait waiting, by simpa using running⟩
  rw [one.running] at set
  exact Option.mem_toList.mp set

theorem wait_le (one : OneTimer s) {wait : Nat × Nat} (waiting : wait ∈ s.waits) :
    wait.1 ≤ s.issued := one.armed_le _ (one.waits_armed wait waiting)

theorem run_wait (orderly : s.Orderly) (known : generation ≤ s.issued)
    (later : List SessionEvent) (waiting : (generation, due) ∈ (s.run later).waits) :
    (generation, due) ∈ s.waits := by
  induction later generalizing s with
  | nil => exact waiting
  | cons event rest ih =>
    have grows := (step_change orderly event).follows.issued
    have soon := ih (step_orderly orderly event) (by omega) waiting
    rcases step_wait orderly event _ soon with before | ⟨login, expiresAt, _, _, _, fresh⟩
    · exact before
    · obtain rfl := congrArg Prod.fst fresh
      dsimp only at known
      omega

/-! ### Time between two refreshes -/

/-- Nobody waits for a time that is past, and of two that wait the later has come just now. -/
structure Paced (s : Session) : Prop where
  ahead : ∀ wait ∈ s.waits, s.now ≤ wait.2
  apart : ∀ wait ∈ s.waits, ∀ later ∈ s.waits, wait.1 < later.1 → s.now + s.policy.gap ≤ later.2

theorem paced_new (policy : SessionPolicy) (issuer : Issuer) : Paced (new policy issuer) :=
  ⟨nofun, nofun⟩

theorem punctual_pass {span : Nat} (punctual : s.punctual (.pass span) = true) :
    span = 0 ∨ ∀ wait ∈ s.waits, wait.1 ∉ s.cancelled ∧ s.now + span ≤ wait.2 := by
  simp only [Session.punctual, Bool.or_eq_true, beq_iff_eq, List.all_eq_true, Bool.and_eq_true,
    decide_eq_true_eq] at punctual
  rcases punctual with rfl | idle
  · exact Or.inl rfl
  · refine Or.inr fun wait waiting => ⟨?_, (idle wait waiting).2⟩
    simpa using (idle wait waiting).1

theorem Paced.pass {span : Nat} (paced : Paced s) (one : OneTimer s)
    (punctual : s.punctual (.pass span) = true) : Paced (s.step (.pass span)) := by
  rcases punctual_pass punctual with rfl | idle
  · exact paced
  · constructor
    · exact fun wait waiting => (idle wait waiting).2
    · intro wait waiting later coming below
      -- both timers would be the session's own
      have own := timer_of_wait one waiting (idle wait waiting).1
      have same := timer_of_wait one coming (idle later coming).1
      have equal : wait.1 = later.1 := Option.some.inj (own.symm.trans same)
      omega

theorem gap_le_of_isRefreshed (refreshed : s.isRefreshed login expiresAt = true) :
    s.policy.gap ≤ login.ttl - s.policy.lead := by
  have long := (isRefreshed_iff.mp refreshed).2
  unfold SessionPolicy.gap
  omega

theorem Paced.step (paced : Paced s) (orderly : s.Orderly) (one : OneTimer s)
    (punctual : s.punctual event = true) : Paced (s.step event) := by
  by_cases passes : ∃ span, event = .pass span
  · obtain ⟨span, rfl⟩ := passes
    exact paced.pass one punctual
  · have now := step_now orderly fun span same => passes ⟨span, same⟩
    have policy := (step_fixed orderly event).policy
    constructor
    · intro wait member
      rw [now]
      rcases step_wait orderly event wait member with before | ⟨login, expiresAt, _, _, _, rfl⟩
      · exact paced.ahead wait before
      · exact Nat.le_add_right _ _
    · intro wait member later coming below
      rw [now, policy]
      rcases step_wait orderly event later coming with before | ⟨login, expiresAt, _, _, long, rfl⟩
      · rcases step_wait orderly event wait member with old | ⟨_, _, _, _, _, rfl⟩
        · exact paced.apart wait old later before below
        · have known := wait_le one before
          dsimp only at below
          omega
      · have room := gap_le_of_isRefreshed long
        dsimp only
        omega

theorem Paced.run (paced : Paced s) (sound : Sound s) (events : List SessionEvent)
    (punctual : s.isPunctual events = true) : Paced (s.run events) := by
  induction events generalizing s with
  | nil => exact paced
  | cons event rest ih =>
    simp only [isPunctual, Bool.and_eq_true] at punctual
    exact ih (paced.step sound.orderly sound.one punctual.1) (sound.step event) punctual.2

theorem firings_after {time : Nat} (orderly : s.Orderly) (events : List SessionEvent)
    (clear : ∀ wait ∈ s.waits, time ≤ wait.2) (past : time ≤ s.now + s.policy.gap) :
    ∀ firing ∈ s.firings events, time ≤ firing := by
  induction events generalizing s with
  | nil => exact nofun
  | cons event rest ih =>
    intro firing member
    rcases List.mem_append.mp member with now | later
    · cases fires : s.fires? event with
      | none => simp [fires] at now
      | some generation =>
        obtain ⟨_, due, waiting, ripe⟩ := fires_cases fires
        have early := clear _ waiting
        simp only [fires, Option.isSome_some, if_true, List.mem_singleton] at now
        dsimp only at early
        omega
    · have grows := step_now_le orderly event
      have policy := (step_fixed orderly event).policy
      refine ih (step_orderly orderly event) ?_ (by rw [policy]; omega) firing later
      intro wait waiting
      rcases step_wait orderly event wait waiting with before | ⟨login, expiresAt, _, _, long, rfl⟩
      · exact clear wait before
      · have room := gap_le_of_isRefreshed long
        dsimp only
        omega

theorem firings_spaced (sound : Sound s) (paced : Paced s) (room : 0 < s.policy.gap)
    (events : List SessionEvent) (punctual : s.isPunctual events = true) :
    (s.firings events).Pairwise fun early late => early + s.policy.gap ≤ late := by
  induction events generalizing s with
  | nil => exact List.Pairwise.nil
  | cons event rest ih =>
    simp only [isPunctual, Bool.and_eq_true] at punctual
    have policy := (step_fixed sound.orderly event).policy
    have later := ih (sound.step event) (paced.step sound.orderly sound.one punctual.1)
      (by rw [policy]; exact room) punctual.2
    rw [policy] at later
    cases fires : s.fires? event with
    | none => simpa [firings, fires] using later
    | some generation =>
      simp only [firings, fires, Option.isSome_some, if_true, List.singleton_append]
      refine List.pairwise_cons.mpr ⟨?_, later⟩
      have grows := step_now_le sound.orderly event
      refine firings_after (step_orderly sound.orderly event) rest ?_ (by rw [policy]; omega)
      -- who still waits has come after the one whose timer runs out
      intro wait waiting
      obtain ⟨_, due, own, ripe⟩ := fires_cases fires
      obtain ⟨before, other⟩ := fires_left fires wait waiting
      rcases Nat.lt_or_gt_of_ne other with older | newer
      · have behind := paced.apart wait before _ own older
        dsimp only at behind
        omega
      · exact paced.apart _ own wait before newer

/-! ### The timer of a token -/

/-- The token of the generation is in use as long as the time has not come. -/
def InUseUntil (s : Session) (generation due : Nat) (events : List SessionEvent) : Prop :=
  ∀ early, early <+: events → (s.run early).now < due →
    (s.run early).generation? = some generation

theorem run_stuck (orderly : s.Orderly) (known : generation ≤ s.issued)
    (cancelled : generation ∈ s.cancelled) (events : List SessionEvent)
    (punctual : s.isPunctual events = true)
    (waiting : (generation, due) ∈ (s.run events).waits) : (s.run events).now = s.now := by
  induction events generalizing s with
  | nil => rfl
  | cons event rest ih =>
    simp only [isPunctual, Bool.and_eq_true] at punctual
    have grows := (step_change orderly event).follows.issued
    have there : (generation, due) ∈ s.waits := run_wait orderly known (event :: rest) waiting
    have later := ih (step_orderly orderly event) (by omega)
      (step_cancelled orderly event _ cancelled) punctual.2 waiting
    have now : (s.step event).now = s.now := by
      by_cases passes : ∃ span, event = .pass span
      · obtain ⟨span, rfl⟩ := passes
        rcases punctual_pass punctual.1 with rfl | idle
        · rfl
        · exact ((idle _ there).1 cancelled).elim
      · exact step_now orderly fun span same => passes ⟨span, same⟩
    exact later.trans now

/-- A timer runs out when its time has come, and then its token has been in use until then. -/
theorem run_fires (sound : Sound s) (paced : Paced s) (known : generation ≤ s.issued)
    (early : List SessionEvent) (punctual : s.isPunctual early = true)
    (fires : (s.run early).fires? event = some generation) :
    ∃ due, (generation, due) ∈ s.waits ∧ (s.run early).now = due ∧
      s.InUseUntil generation due early := by
  obtain ⟨_, due, waiting, ripe⟩ := fires_cases fires
  have timely := (paced.run sound early punctual).ahead _ waiting
  dsimp only at timely
  have now : (s.run early).now = due := by omega
  refine ⟨due, run_wait sound.orderly known early waiting, now, ?_⟩
  rintro before ⟨rest, rfl⟩ soon
  have sound' := sound.run before
  have joined : s.run (before ++ rest) = (s.run before).run rest := by
    simp only [run, List.foldl_append]
  rw [joined] at waiting now
  rw [isPunctual_append, Bool.and_eq_true] at punctual
  have grows := (run_follows sound.orderly before).issued
  have known' : generation ≤ (s.run before).issued := by omega
  have there := run_wait sound'.orderly known' rest waiting
  by_cases running : generation ∈ (s.run before).cancelled
  · have stuck := run_stuck sound'.orderly known' running rest punctual.2 waiting
    omega
  · exact sound'.current _ (timer_of_wait sound'.one there running)

theorem Served.waiting (served : Served s party given s') (waits : (generation, due) ∈ s.waits)
    (running : generation ∉ s.cancelled) (current : s.generation? = some generation)
    (bounded : generation ≤ s.issued) (other : party ≠ .refresher generation) :
    (generation, due) ∈ s'.waits ∧ generation ∉ s'.cancelled ∨
      s'.generation? ≠ some generation := by
  have kept : s'.cancelled = s.cancelled → (generation, due) ∈ s'.waits ∧
      generation ∉ s'.cancelled :=
    fun same => ⟨served.lingers.waits _ waits, same ▸ running⟩
  cases served with
  | settled _ settled => exact Or.inl (kept (Idles.of_settled settled).cancelled)
  | called => exact Or.inl (kept rfl)
  | failed _ _ own in_use =>
    cases in_use.symm.trans current
    exact (other own).elim
  | installed _ login expiresAt _ _ settled =>
    right
    have held := (Idles.of_settled settled).held
    rw [placed_held] at held
    simp only [generation?, held, Option.map_some]
    intro same
    have own := Option.some.inj same
    omega
  | dropped _ settled =>
    right
    have held : s'.held = none := (Idles.of_settled settled).held
    simp [generation?, held]
  | revoking =>
    right
    simp [generation?, emptied]

theorem fire_waiting (waits : (generation, due) ∈ s.waits) (running : generation ∉ s.cancelled) :
    (generation, due) ∈ (s.step (.fire generation)).waits ∧
        generation ∉ (s.step (.fire generation)).cancelled ∨
      s.fires? (.fire generation) = some generation := by
  obtain ⟨late, found⟩ : ∃ late, s.waits.lookup generation = some late := by
    apply Option.isSome_iff_exists.mp
    exact List.lookup_isSome_iff.mpr ⟨_, waits, by simp⟩
  by_cases ripe : late ≤ s.now
  · right
    simp [fires?, found, ripe]
  · left
    simp only [step, fire, found, if_neg ripe]
    exact ⟨waits, running⟩

theorem step_waiting (sound : Sound s) (waits : (generation, due) ∈ s.waits)
    (running : generation ∉ s.cancelled) (event : SessionEvent) :
    (generation, due) ∈ (s.step event).waits ∧ generation ∉ (s.step event).cancelled ∨
      s.fires? event = some generation ∨ (s.step event).generation? ≠ some generation := by
  have current := sound.current _ (timer_of_wait sound.one waits running)
  have bounded := wait_le sound.one waits
  -- the refresh of the generation has not come yet, as its task still waits
  have absent : ∀ {own : Turn}, s.turn = some own → own.party ≠ .refresher generation := by
    intro own turn same
    have there : generation ∈ s.line.filterMap Party.generation? :=
      List.mem_filterMap.mpr ⟨.refresher generation, by simp [line_of_turn turn, same], rfl⟩
    exact sound.tasks.waiting generation there (List.mem_map.mpr ⟨_, waits, rfl⟩)
  have stays_in : ∀ other, other ≠ generation → (generation, due) ∈ (s.left other).waits :=
    fun other differs => List.mem_filter.mpr ⟨waits, by simpa using differs.symm⟩
  by_cases fires : event = .fire generation
  · subst fires
    rcases fire_waiting waits running with still | out
    · exact Or.inl still
    · exact Or.inr (Or.inl out)
  by_cases stops : event = .stop generation
  · subst stops
    left
    have refused : s.cancelled.contains generation = false := by simpa using running
    simp only [step, stop, refused]
    exact ⟨waits, running⟩
  have outcome := step_outcome sound.orderly event
  generalize s.step event = s' at outcome ⊢
  cases outcome with
  | left _ other own =>
    have differs : other ≠ generation := by
      rintro rfl
      rcases own with own | ⟨own, _⟩
      · exact stops own
      · exact fires own
    exact Or.inl ⟨stays_in other differs, running⟩
  | queued _ s₀ own turn comes =>
    left
    cases comes with
    | refresher other => exact ⟨stays_in other fun same => fires (congrArg _ same), running⟩
    | _ => exact ⟨waits, running⟩
  | entered _ s₀ _ own comes free served =>
    cases comes with
    | refresher other =>
      have differs : other ≠ generation := fun same => fires (congrArg _ same)
      rcases served.waiting (stays_in other differs) running current bounded
        (fun same => differs (Party.refresher.inj same)) with still | gone
      · exact Or.inl still
      · exact Or.inr (Or.inr gone)
    | _ =>
      rcases served.waiting waits running current bounded (fun same => by cases same) with
        still | gone
      · exact Or.inl still
      · exact Or.inr (Or.inr gone)
  | resumed own _ turn served =>
    rcases served.waiting waits running current bounded (absent turn) with still | gone
    · exact Or.inl still
    · exact Or.inr (Or.inr gone)
  | answered own stage reply _ turn expects served =>
    rcases served.waiting waits running current bounded (absent turn) with still | gone
    · exact Or.inl still
    · exact Or.inr (Or.inr gone)
  | _ => exact Or.inl ⟨waits, running⟩

/-- At the end of a run a task still waits, or its timer ran out, or its token was gone before its
time had passed. -/
theorem run_waiting (sound : Sound s) (paced : Paced s) (waits : (generation, due) ∈ s.waits)
    (running : generation ∉ s.cancelled) (events : List SessionEvent)
    (punctual : s.isPunctual events = true) :
    (generation, due) ∈ (s.run events).waits ∨
      (∃ early event rest, events = early ++ event :: rest ∧
        (s.run early).fires? event = some generation) ∨
      ∃ early, early <+: events ∧ (s.run early).now ≤ due ∧
        (s.run early).generation? ≠ some generation := by
  induction events generalizing s with
  | nil => exact Or.inl waits
  | cons event rest ih =>
    simp only [isPunctual, Bool.and_eq_true] at punctual
    have paced' := paced.step sound.orderly sound.one punctual.1
    rcases step_waiting sound waits running event with ⟨still, on⟩ | out | gone
    · rcases ih (sound.step event) paced' still on punctual.2 with
        waiting | ⟨early, last, rest', rfl, fires⟩ | ⟨early, early_of, now, gone⟩
      · exact Or.inl waiting
      · exact Or.inr (Or.inl ⟨event :: early, last, rest', rfl, fires⟩)
      · exact Or.inr (Or.inr ⟨event :: early, List.cons_prefix_cons.mpr ⟨rfl, early_of⟩, now, gone⟩)
    · exact Or.inr (Or.inl ⟨[], event, rest, rfl, out⟩)
    · refine Or.inr (Or.inr ⟨[event], List.cons_prefix_cons.mpr ⟨rfl, List.nil_prefix⟩, ?_, gone⟩)
      have ahead := paced.ahead _ waits
      by_cases passes : ∃ span, event = .pass span
      · obtain ⟨span, rfl⟩ := passes
        -- the token does not go by the passing of time
        have current := sound.current _ (timer_of_wait sound.one waits running)
        exact (gone current).elim
      · have now := step_now sound.orderly fun span same => passes ⟨span, same⟩
        have run_one : s.run [event] = s.step event := rfl
        rw [run_one, now]
        exact ahead

/-! ### Renewals and logins of little validity -/

/-- In the turn, as far as it goes after these events, exactly one login begins. -/
def LogsInOnce (s : Session) (party : Party) (first : SessionEvent)
    (within : List SessionEvent) : Prop :=
  ∀ more, s.Section party first (within ++ more) →
    let t := s.run (first :: (within ++ more))
    (∃ asked, t.asks = asked ++ s.asks ∧ asked.count s.issuer.openingCall = 1) ∧
      ∀ last, (t.step last).isAsking = false → (t.step last).asks = t.asks

theorem step_asks_of_end (orderly : s.Orderly) (asking : s.isAsking = true)
    (ends : (s.step event).isAsking = false) : (s.step event).asks = s.asks := by
  have silent : ∀ {own : Turn}, (s.step event).turn = some own → own.stage.isCalling = false := by
    intro own turn
    simpa [isAsking, turn] using ends
  have deed := step_deed orderly event
  generalize s.step event = s' at deed ends silent
  cases deed with
  | stays _ _ _ _ told => exact asks_of_record [] told
  | told ticket token => exact asks_of_record [_] (record_note s rfl)
  | serves _ own _ enters serving =>
    -- whoever takes up its turn does not ask yet
    cases enters with
    | granted _ granted => simp [isAsking, granted, TurnStage.isCalling] at asking
    | comes _ _ _ _ free => simp [isAsking, free] at asking
  | answers own stage reply _ waiting expects answering =>
    have told_none := asks_told own
    cases answering with
    | looksUp _ _ _ _ taken => cases silent taken
    | gains _ _ _ _ _ _ _ _ _ told => exact (asks_of_record _ told).trans (by rw [told_none]; rfl)
    | overflows _ _ _ _ _ _ _ told => exact (asks_of_record _ told).trans (by rw [told_none]; rfl)
    | reopens _ _ _ _ _ _ taken => cases (silent taken).symm.trans (isCalling_opening s.issuer)
    | ends _ _ _ _ _ _ told => exact (asks_of_record _ told).trans (by rw [told_none]; rfl)

theorem Section.stage_ne_renewing (orderly : s.Orderly)
    (other : ∀ ticket, party ≠ .revoker ticket)
    (turn : (s.run (first :: within)).turn = some ⟨party, stage⟩) (begun : stage ≠ .renewing)
    (more : List SessionEvent) (sec : s.Section party first (within ++ more)) :
    ∃ stage', (s.run (first :: (within ++ more))).turn = some ⟨party, stage'⟩ ∧
      stage' ≠ .renewing := by
  induction more using List.reverseRecOn with
  | nil => exact ⟨stage, by rwa [List.append_nil], begun⟩
  | append_singleton more event ih =>
    rw [← List.append_assoc] at sec ⊢
    obtain ⟨own, turn', begun'⟩ := ih sec.init
    obtain ⟨_, _, same, calling, _⟩ := sec.init.course orderly other
    cases same.symm.trans turn'
    have asking := sec.asking _ (List.prefix_refl _)
    rw [← List.cons_append, run_snoc] at asking ⊢
    have orderly' := run_orderly orderly (first :: (within ++ more))
    cases step_goesOn orderly' turn' calling asking with
    | waits _ taken => exact ⟨own, taken, begun'⟩
    | looksUp login _ _ taken => exact ⟨_, taken, nofun⟩
    | reopens login _ _ taken => exact ⟨_, taken, opening_ne_renewing _⟩

theorem Section.logsInOnce (orderly : s.Orderly) (other : ∀ ticket, party ≠ .revoker ticket)
    (turn : (s.run (first :: within)).turn = some ⟨party, stage⟩) (begun : stage ≠ .renewing) :
    s.LogsInOnce party first within := by
  intro more sec t
  obtain ⟨stage', turn', begun'⟩ := Section.stage_ne_renewing orderly other turn begun more sec
  obtain ⟨own, asked, same, calling, asks, course⟩ := sec.course orderly other
  cases same.symm.trans turn'
  refine ⟨⟨asked, asks, course.one_login begun'⟩, fun last ends => ?_⟩
  exact step_asks_of_end (run_orderly orderly _) (isAsking_of_turn turn' calling) ends

theorem step_exhausted (orderly : s.Orderly) (turn : s.turn = some ⟨party, .renewing⟩)
    (exhausted : s.isExhausted login = true) :
    (s.step (.answer (.renewed (.ok login)))).turn = some ⟨party, s.issuer.opening⟩ := by
  obtain ⟨generation, rfl, _⟩ := orderly _ turn
  simp only [step, answer, turn, renewed, exhausted, if_true]
  exact (authenticate_opens _ _).1

/-! ### Runs -/

structure Cadence (s : Session) (event : SessionEvent) (login : LoginToken)
    (expiresAt : Option Int) (after : List SessionEvent) : Prop where
  held : (s.step event).held =
    some ⟨login.token, expiresAt, login.renewable, s.issued + 1⟩
  short : login.ttl < s.policy.threshold →
    (s.step event).timer = none ∧ (s.step event).armed = s.armed
  spaced : s.policy.threshold ≤ login.ttl → s.policy.gap ≤ login.ttl - s.policy.lead
  fires : ∀ early last rest, after = early ++ last :: rest →
    ((s.step event).run early).fires? last = some (s.issued + 1) →
    expiresAt.isSome = true ∧ s.policy.threshold ≤ login.ttl ∧
      ((s.step event).run early).now = s.now + (login.ttl - s.policy.lead) ∧
      (s.step event).InUseUntil (s.issued + 1) (s.now + (login.ttl - s.policy.lead)) early
  fired : expiresAt.isSome = true → s.policy.threshold ≤ login.ttl →
    (s.step event).InUseUntil (s.issued + 1) (s.now + (login.ttl - s.policy.lead)) after →
    s.now + (login.ttl - s.policy.lead) < ((s.step event).run after).now →
    (∃ early last rest, after = early ++ last :: rest ∧
      ((s.step event).run early).fires? last = some (s.issued + 1)) ∨
    ∃ early, early <+: after ∧
      ((s.step event).run early).now = s.now + (login.ttl - s.policy.lead) ∧
      ((s.step event).run early).generation? ≠ some (s.issued + 1)

theorem cadence (sound : Sound s) (paced : Paced s) (gained : s.gained? event = some login)
    (ends : s.endOf? login.ttl = some expiresAt)
    (punctual : s.isPunctual (event :: after) = true) : Cadence s event login expiresAt after := by
  simp only [isPunctual, Bool.and_eq_true] at punctual
  have sound' := sound.step event
  have paced' := paced.step sound.orderly sound.one punctual.1
  have settled : Settled (s.placed login expiresAt) (s.step event) := by
    obtain ⟨party, stage, reply, rfl, turn, gains⟩ := gained_answer gained
    exact answer_placed sound.orderly turn gains ends
  have idles := Idles.of_settled settled
  have issued : (s.step event).issued = s.issued + 1 := idles.issued.trans (placed_issued s _ _)
  constructor
  case held => exact idles.held.trans (placed_held s login expiresAt)
  case short =>
    intro short
    have unrefreshed : ¬ s.isRefreshed login expiresAt = true := by
      rw [isRefreshed_iff]
      omega
    rw [idles.timer, idles.armed, placed, if_neg unrefreshed]
    exact ⟨rfl, rfl⟩
  case spaced =>
    unfold SessionPolicy.gap
    omega
  case fires =>
    rintro early last rest rfl fires
    rw [isPunctual_append, Bool.and_eq_true] at punctual
    obtain ⟨due, waits, now, until_due⟩ :=
      run_fires sound' paced' (by omega) early punctual.2.1 fires
    rcases step_wait sound.orderly event _ waits with before | ⟨_, own, given, when_, long, fresh⟩
    · have known := wait_le sound.one before
      dsimp only at known
      omega
    · cases given.symm.trans gained
      cases when_.symm.trans ends
      obtain rfl := congrArg Prod.snd fresh
      obtain ⟨lasts, enough⟩ := isRefreshed_iff.mp long
      exact ⟨lasts, enough, now, until_due⟩
  case fired =>
    intro lasts enough in_use late
    have refreshed : s.isRefreshed login expiresAt = true := isRefreshed_iff.mpr ⟨lasts, enough⟩
    have waits : (s.issued + 1, s.now + (login.ttl - s.policy.lead)) ∈ (s.step event).waits := by
      apply settled.lingers.waits
      rw [placed, if_pos refreshed]
      exact List.mem_append_right _ (List.mem_singleton_self _)
    have timer : (s.step event).timer = some (s.issued + 1) := by
      rw [idles.timer, placed, if_pos refreshed]
      rfl
    have running : s.issued + 1 ∉ (s.step event).cancelled := by
      have own : s.issued + 1 ∈ (s.step event).timer.toList := Option.mem_toList.mpr timer
      rw [← sound'.one.running] at own
      simpa using (List.mem_filter.mp own).2
    rcases run_waiting sound' paced' waits running after punctual.2 with
      still | out | ⟨early, early_of, now, gone⟩
    · have ahead := (paced'.run sound' after punctual.2).ahead _ still
      dsimp only at ahead
      omega
    · exact Or.inl out
    · refine Or.inr ⟨early, early_of, ?_, gone⟩
      by_contra differs
      exact gone (in_use early early_of (by omega))

/-- Where the refresh lead is below the threshold: whose timers run out and when, how far apart, and
what comes of little validity. -/
theorem refresh_cadence (policy : SessionPolicy) (issuer : Issuer) (events : List SessionEvent)
    (headroom : policy.lead < policy.threshold)
    (punctual : (new policy issuer).isPunctual events = true) :
    let start := new policy issuer
    0 < policy.gap ∧
    (start.firings events).Pairwise (fun early late => early + policy.gap ≤ late) ∧
    ∀ before event after, events = before ++ event :: after →
      let s := start.run before
      (∀ login expiresAt, s.gained? event = some login → s.endOf? login.ttl = some expiresAt →
        Cadence s event login expiresAt after) ∧
      (∀ login, s.gained? event = some login → s.endOf? login.ttl = none →
        (s.step event).issued = s.issued ∧ (s.step event).armed = s.armed) ∧
      ∀ party login, s.turn = some ⟨party, .renewing⟩ →
        event = .answer (.renewed (.ok login)) → login.ttl ≠ 0 → login.ttl < policy.threshold →
        (s.step event).held = s.held ∧ (s.step event).issued = s.issued ∧
          ∃ opening first within, before = opening ++ first :: within ∧
            (start.run opening).Section party first (within ++ [event]) ∧
            (start.run opening).LogsInOnce party first (within ++ [event]) := by
  intro start
  have fresh : Sound start := sound_new policy issuer
  have room : 0 < policy.gap := by
    unfold SessionPolicy.gap
    omega
  refine ⟨room, firings_spaced fresh (paced_new policy issuer) room events punctual, ?_⟩
  rintro before event after rfl s
  have sound : Sound s := fresh.run before
  have same : s.policy = policy := (run_fixed fresh.orderly before).policy
  rw [isPunctual_append, Bool.and_eq_true] at punctual
  have paced : Paced s := (paced_new policy issuer).run fresh before punctual.1
  refine ⟨?_, ?_, ?_⟩
  · intro login expiresAt gained ends
    exact cadence sound paced gained ends punctual.2
  · intro login gained overflow
    cases step_change sound.orderly event with
    | kept idles => exact ⟨idles.issued, idles.armed⟩
    | cancelled idles =>
      rw [cancelRefresh_eq] at idles
      exact ⟨idles.issued, idles.armed⟩
    | installed given expiresAt obtained ends =>
      cases obtained.symm.trans gained
      cases ends.symm.trans overflow
    | dropped idles => exact ⟨idles.issued, idles.armed⟩
  · rintro party login turn rfl known short
    have exhausted : s.isExhausted login = true := by
      simp [isExhausted, same, known, short]
    have taken := step_exhausted sound.orderly turn exhausted
    have other : ∀ ticket, party ≠ .revoker ticket := by
      rintro ticket rfl
      obtain ⟨generation, own, _⟩ := sound.orderly _ turn
      cases own
    have asking := isAsking_of_turn taken (isCalling_opening _)
    have idles := step_idles sound.orderly turn rfl other asking
    obtain ⟨opening, first, within, split, sec⟩ :=
      run_section fresh.orderly rfl before _ turn rfl
    have joined : (start.run opening).run (first :: (within ++ [.answer (.renewed (.ok login))])) =
        s.step (.answer (.renewed (.ok login))) := by
      simp only [s, split, run, List.foldl_append, List.foldl_cons, List.foldl_nil]
    have longer : (start.run opening).Section party first
        (within ++ [.answer (.renewed (.ok login))]) := sec.snoc (joined ▸ asking)
    refine ⟨idles.held, idles.issued, opening, first, within, split, longer, ?_⟩
    exact Section.logsInOnce (run_orderly fresh.orderly opening) other (joined ▸ taken)
      (opening_ne_renewing _)

/-- The first refresh finds the token exhausted and logs in, once; the second comes a token
later. -/
theorem exhausted_token_refreshed :
    let login : LoginToken := ⟨⟨"hvs.first"⟩, Span.seconds 60, true⟩
    let start := new .default (.store "approle" true)
    let before : List SessionEvent := [.request 1 .token, .answer (.loggedIn (.ok login)),
      .pass (Span.seconds 55), .fire 1]
    let answer : SessionEvent := .answer (.renewed (.ok ⟨login.token, Span.seconds 3, true⟩))
    let after : List SessionEvent := [.answer (.loggedIn (.ok login)), .pass (Span.seconds 55),
      .fire 2]
    start.isPunctual (before ++ answer :: after) = true ∧
      start.firings (before ++ answer :: after) = [Span.seconds 55, Span.seconds 110] ∧
      (start.firings (before ++ answer :: after)).Pairwise
        (fun early late => early + SessionPolicy.default.gap ≤ late) ∧
      ∃ opening first within, before = opening ++ first :: within ∧
        (start.run opening).LogsInOnce (.refresher 1) first (within ++ [answer]) := by
  intro login start before answer after
  have punctual : start.isPunctual (before ++ answer :: after) = true := by decide +kernel
  obtain ⟨_, spaced, each⟩ := refresh_cadence .default (.store "approle" true)
    (before ++ answer :: after) (by decide) punctual
  have turn : (start.run before).turn = some ⟨.refresher 1, .renewing⟩ := by decide +kernel
  obtain ⟨_, _, replaced⟩ := each before answer after rfl
  obtain ⟨_, _, opening, first, within, split, _, once⟩ :=
    replaced (.refresher 1) ⟨login.token, Span.seconds 3, true⟩ turn rfl (by decide) (by decide)
  exact ⟨punctual, by decide +kernel, spaced, opening, first, within, split, once⟩

end Session
end LeaseKeeper

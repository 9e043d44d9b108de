import LeaseKeeper.Proofs.Session.Changes

/-!
The refresh timer. At most one is set and not cancelled, it is that of the token in use, and no
generation is refreshed twice. A refresh that comes too late does nothing.
-/
namespace LeaseKeeper.Session

variable {s s' : Session} {party : Party} {given : Option LoginToken} {event : SessionEvent}
  {policy : SessionPolicy} {issuer : Issuer}

/-! ### One timer -/

/-- Of the timers that were set, the one that is not cancelled is the session's own. -/
structure OneTimer (s : Session) : Prop where
  running : s.armed.filter (fun generation => !s.cancelled.contains generation) = s.timer.toList
  armed_le : ∀ generation ∈ s.armed, generation ≤ s.issued
  cancelled_le : ∀ generation ∈ s.cancelled, generation ≤ s.issued
  waits_armed : ∀ entry ∈ s.waits, entry.1 ∈ s.armed

namespace OneTimer

theorem timer_le (one : OneTimer s) : ∀ generation ∈ s.timer.toList, generation ≤ s.issued := by
  intro generation member
  rw [← one.running] at member
  exact one.armed_le generation (List.mem_filter.mp member).1

theorem idles (one : OneTimer s) (idles : Idles s s') : OneTimer s' := by
  constructor
  · rw [idles.armed, idles.cancelled, idles.timer]
    exact one.running
  · rw [idles.armed, idles.issued]
    exact one.armed_le
  · rw [idles.cancelled, idles.issued]
    exact one.cancelled_le
  · intro entry member
    rw [idles.armed]
    exact one.waits_armed entry (idles.waits entry member)

theorem stopped (one : OneTimer s) (armed : s'.armed = s.armed) (waits : s'.waits = s.waits)
    (timer : s'.timer = none) (cancelled : s'.cancelled = s.timer.toList ++ s.cancelled)
    (issued : s.issued ≤ s'.issued) : OneTimer s' := by
  constructor
  · rw [armed, cancelled, timer]
    apply List.filter_eq_nil_iff.mpr
    intro generation set running
    have free : generation ∉ s.timer.toList ++ s.cancelled := by simpa using running
    -- what was not cancelled before was the timer, and that is cancelled now
    apply free
    by_cases stopped : generation ∈ s.cancelled
    · exact List.mem_append_right _ stopped
    · apply List.mem_append_left
      rw [← one.running]
      exact List.mem_filter.mpr ⟨set, by simpa using stopped⟩
  · intro generation set
    rw [armed] at set
    exact Nat.le_trans (one.armed_le generation set) issued
  · intro generation stopped
    rw [cancelled] at stopped
    rcases List.mem_append.mp stopped with now | before
    · exact Nat.le_trans (one.timer_le generation now) issued
    · exact Nat.le_trans (one.cancelled_le generation before) issued
  · rw [armed, waits]
    exact one.waits_armed

theorem cancelRefresh (one : OneTimer s) : OneTimer s.cancelRefresh := by
  rw [cancelRefresh_eq]
  exact one.stopped rfl rfl rfl rfl (Nat.le_refl _)

theorem emptied (one : OneTimer s) : OneTimer s.emptied :=
  one.stopped rfl rfl rfl rfl (Nat.le_refl _)

section
variable {login : LoginToken} {expiresAt : Option Int}

theorem replaced (one : OneTimer s) : OneTimer (s.replaced login expiresAt) :=
  one.stopped rfl rfl rfl rfl (Nat.le_succ _)

theorem timed (one : OneTimer s) (delay : Nat) :
    OneTimer ((s.replaced login expiresAt).timed delay) := by
  have base : OneTimer (s.replaced login expiresAt) := one.replaced
  have armed : ((s.replaced login expiresAt).timed delay).armed = (s.issued + 1) :: s.armed := rfl
  have fresh : s.issued + 1 ∉ s.timer.toList ++ s.cancelled := by
    intro member
    have bounded : s.issued + 1 ≤ s.issued := by
      rcases List.mem_append.mp member with now | before
      · exact one.timer_le _ now
      · exact one.cancelled_le _ before
    omega
  constructor
  · have running : (!(s.timer.toList ++ s.cancelled).contains (s.issued + 1)) = true := by
      simpa using fresh
    have rest : s.armed.filter
        (fun generation => !(s.timer.toList ++ s.cancelled).contains generation) = [] :=
      base.running
    have kept : ((s.replaced login expiresAt).timed delay).cancelled =
        s.timer.toList ++ s.cancelled := rfl
    rw [armed, kept, List.filter_cons, if_pos running, rest]
    rfl
  · intro generation set
    rw [armed] at set
    rcases List.mem_cons.mp set with rfl | before
    · exact Nat.le_refl _
    · exact base.armed_le generation before
  · exact base.cancelled_le
  · intro entry waiting
    rw [armed]
    rcases List.mem_append.mp waiting with before | now
    · exact List.mem_cons_of_mem _ (base.waits_armed entry before)
    · obtain rfl := List.mem_singleton.mp now
      exact List.mem_cons_self

theorem placed (one : OneTimer s) : OneTimer (s.placed login expiresAt) := by
  unfold Session.placed
  split
  · exact one.timed _
  · exact one.replaced

end

theorem change (one : OneTimer s) (change : Change s given s') : OneTimer s' := by
  cases change with
  | kept idles => exact one.idles idles
  | cancelled idles => exact one.cancelRefresh.idles idles
  | installed login expiresAt _ _ idles => exact one.placed.idles idles
  | dropped idles => exact one.emptied.idles idles

theorem run (one : OneTimer s) (orderly : s.Orderly) (events : List SessionEvent) :
    OneTimer (s.run events) := by
  induction events generalizing s with
  | nil => exact one
  | cons event rest ih =>
    exact ih (one.change (step_change orderly event)) (step_orderly orderly event)

theorem new (policy : SessionPolicy) (issuer : Issuer) : OneTimer (new policy issuer) :=
  ⟨rfl, nofun, nofun, nofun⟩

end OneTimer

/-! ### Where a timer comes from -/

def Schedules (s : Session) (event : SessionEvent) (held : HeldToken) : Prop :=
  ∃ login expiresAt, s.gained? event = some login ∧ s.endOf? login.ttl = some (some expiresAt) ∧
    s.policy.threshold ≤ login.ttl ∧
    held = ⟨login.token, some expiresAt, login.renewable, s.issued + 1⟩ ∧
    (s.step event).armed = (s.issued + 1) :: s.armed

theorem step_timer {generation : Nat} (orderly : s.Orderly)
    (set : (s.step event).timer = some generation) :
    s.timer = some generation ∧ (s.step event).held = s.held ∨
      ∃ held, (s.step event).held = some held ∧ held.generation = generation ∧
        s.Schedules event held := by
  cases step_change orderly event with
  | kept idles => exact Or.inl ⟨idles.timer.symm.trans set, idles.held⟩
  | cancelled idles =>
    rw [cancelRefresh_eq] at idles
    cases idles.timer.symm.trans set
  | installed login expiresAt obtained ends idles =>
    have held := idles.held.trans (placed_held s login expiresAt)
    have timer := idles.timer.symm.trans set
    have armed := idles.armed
    unfold placed at timer armed
    cases refreshed : s.isRefreshed login expiresAt with
    | false =>
      rw [refreshed] at timer
      cases timer
    | true =>
      rw [refreshed] at timer armed
      simp only [isRefreshed, Bool.and_eq_true, decide_eq_true_eq] at refreshed
      obtain ⟨lasts, long⟩ := refreshed
      obtain ⟨instant, rfl⟩ := Option.isSome_iff_exists.mp lasts
      exact Or.inr
        ⟨_, held, Option.some.inj timer, login, instant, obtained, ends, long, rfl, armed⟩
  | dropped idles => cases idles.timer.symm.trans set

theorem run_timer {generation : Nat} {events : List SessionEvent} (orderly : s.Orderly)
    (set : (s.run events).timer = some generation) :
    s.timer = some generation ∧ (s.run events).held = s.held ∨
      ∃ before event after held, events = before ++ event :: after ∧
        (s.run events).held = some held ∧ held.generation = generation ∧
        (s.run before).Schedules event held := by
  induction events generalizing s with
  | nil => exact Or.inl ⟨set, rfl⟩
  | cons event rest ih =>
    rcases ih (step_orderly orderly event) set with ⟨early, kept⟩ | later
    · rcases step_timer orderly early with ⟨old, same⟩ | ⟨held, own, current, schedules⟩
      · exact Or.inl ⟨old, kept.trans same⟩
      · exact Or.inr ⟨[], event, rest, held, rfl, kept.trans own, current, schedules⟩
    · obtain ⟨before, event', after, held, rfl, own, current, schedules⟩ := later
      exact Or.inr ⟨event :: before, event', after, held, rfl, own, current, schedules⟩

/-! ### One refresh each -/

def begins? (s : Session) : SessionEvent → Option Nat
  | .fire generation =>
    match s.waits.lookup generation with
    | some due => if due ≤ s.now ∧ s.isHeld = true then some generation else none
    | none => none
  | _ => none

def refreshes (s : Session) : List SessionEvent → List Nat
  | [] => []
  | event :: rest => (s.begins? event).toList ++ (s.step event).refreshes rest

theorem step_begins {generation : Nat} (begins : s.begins? event = some generation) :
    event = .fire generation ∧ generation ∈ s.waits.map Prod.fst ∧
      s.step event = (s.left generation).ask (.refresher generation) := by
  cases event with
  | fire own =>
    simp only [begins?] at begins
    split at begins
    · rename_i due waiting
      split at begins
      · rename_i timely
        obtain rfl := Option.some.inj begins
        obtain ⟨ripe, held⟩ := timely
        obtain ⟨entry, member, same⟩ := List.lookup_isSome_iff.mp (Option.isSome_of_eq_some waiting)
        refine ⟨rfl, List.mem_map.mpr ⟨entry, member, (beq_iff_eq.mp same).symm⟩, ?_⟩
        simp only [step, fire, waiting, if_pos ripe, held, if_true]
        rfl
      · cases begins
    · cases begins
  | _ => cases begins

theorem Change.waits_given (change : Change s given s') :
    ∀ entry ∈ s'.waits, entry ∈ s.waits ∨ given.isSome = true ∧ entry.1 = s.issued + 1 := by
  intro entry member
  cases change with
  | kept idles => exact Or.inl (idles.waits entry member)
  | cancelled idles =>
    rw [cancelRefresh_eq] at idles
    exact Or.inl (idles.waits entry member)
  | installed login expiresAt obtained ends idles =>
    have waiting := idles.waits entry member
    unfold placed at waiting
    split at waiting
    · rcases List.mem_append.mp waiting with before | now
      · exact Or.inl before
      · obtain rfl := List.mem_singleton.mp now
        exact Or.inr ⟨Option.isSome_of_eq_some obtained, rfl⟩
    · exact Or.inl waiting
  | dropped idles => exact Or.inl (idles.waits entry member)

theorem refreshes_later (orderly : s.Orderly) (events : List SessionEvent) :
    ∀ generation ∈ s.refreshes events,
      generation ∈ s.waits.map Prod.fst ∨ s.issued < generation := by
  induction events generalizing s with
  | nil => exact nofun
  | cons event rest ih =>
    intro generation member
    have change := step_change orderly event
    rcases List.mem_append.mp member with now | later
    · exact Or.inl (step_begins (Option.mem_toList.mp now)).2.1
    · rcases ih (step_orderly orderly event) generation later with waiting | unknown
      · obtain ⟨entry, waits, rfl⟩ := List.mem_map.mp waiting
        rcases change.waits_given entry waits with before | ⟨_, fresh⟩
        · exact Or.inl (List.mem_map.mpr ⟨entry, before, rfl⟩)
        · exact Or.inr (fresh ▸ Nat.lt_succ_self _)
      · exact Or.inr (Nat.lt_of_le_of_lt change.follows.issued unknown)

theorem ask_waits (s : Session) (party : Party) :
    ∀ entry ∈ (s.ask party).waits, entry ∈ s.waits := by
  intro entry member
  unfold ask at member
  split at member
  · exact member
  · have change : Change { s with turn := some ⟨party, .granted⟩ } none _ :=
      (serve_served party).change
    rcases change.waits_given entry member with before | ⟨impossible, _⟩
    · exact before
    · cases impossible

theorem refreshes_nodup (orderly : s.Orderly) (one : OneTimer s) (events : List SessionEvent) :
    (s.refreshes events).Nodup := by
  induction events generalizing s with
  | nil => exact List.nodup_nil
  | cons event rest ih =>
    have change := step_change orderly event
    have later := ih (step_orderly orderly event) (one.change change)
    simp only [refreshes]
    cases begins : s.begins? event with
    | none => exact later
    | some generation =>
      obtain ⟨_, waiting, begun⟩ := step_begins begins
      refine List.nodup_cons.mpr ⟨?_, later⟩
      -- to begin again it would have to be waited for, or to be handed out only later
      intro again
      rcases refreshes_later (step_orderly orderly event) rest generation again with still | unknown
      · obtain ⟨entry, member, same⟩ := List.mem_map.mp still
        rw [begun] at member
        have left := (List.mem_filter.mp (ask_waits _ _ entry member)).2
        simp [same] at left
      · obtain ⟨entry, member, rfl⟩ := List.mem_map.mp waiting
        have issued := one.armed_le _ (one.waits_armed entry member)
        have monotone := change.follows.issued
        omega

/-! ### A refresh that comes too late -/

def Unqueued (s : Session) : Prop := s.turn = none → s.queue = []

theorem Settled.unqueued (settled : Settled s s') : Unqueued s' := by
  cases settled with
  | passed turn queue metrics fresh plain granted last => exact last

theorem Served.unqueued (served : Served s party given s') : Unqueued s' := by
  cases served with
  | settled _ settled => exact settled.unqueued
  | called => exact nofun
  | failed _ _ _ _ settled => exact settled.unqueued
  | installed _ login expiresAt obtained ends settled => exact settled.unqueued
  | dropped _ settled => exact settled.unqueued
  | revoking => exact nofun

theorem step_unqueued (orderly : s.Orderly) (unqueued : Unqueued s) (event : SessionEvent) :
    Unqueued (s.step event) := by
  have outcome := step_outcome orderly event
  generalize s.step event = s' at outcome ⊢
  cases outcome with
  | queued _ s₀ party turn comes busy =>
    intro free
    have busy' : s₀.turn = some turn := by cases comes <;> exact busy
    cases busy'.symm.trans free
  | entered _ s₀ _ party comes free served => exact served.unqueued
  | resumed party _ turn served => exact served.unqueued
  | answered party stage reply _ turn expects served => exact served.unqueued
  | _ => exact unqueued

theorem run_unqueued (orderly : s.Orderly) (unqueued : Unqueued s) (events : List SessionEvent) :
    Unqueued (s.run events) :=
  (run_keep (P := fun s => s.Orderly ∧ Unqueued s)
    (fun _ event both => ⟨step_orderly both.1 event, step_unqueued both.1 both.2 event⟩)
    ⟨orderly, unqueued⟩ events).2

/-- A generation that has no token in use: its refresh gives its turn back, or ends at once. -/
structure Moot (s : Session) (generation : Nat) : Prop where
  current : s.generation? ≠ some generation
  served : ∀ stage, s.turn = some ⟨.refresher generation, stage⟩ →
    stage = .granted ∧ s.step .enter = s.release
  fired : s.turn = none → s.begins? (.fire generation) = some generation →
    s.step (.fire generation) = s.left generation

theorem refresh_moot {generation : Nat} (current : s.generation? ≠ some generation) :
    s.refresh generation = s.release := by
  unfold refresh
  cases held : s.held with
  | none => rfl
  | some token =>
    have other : token.generation ≠ generation := by
      intro same
      exact current (by simp [generation?, held, same])
    simp only [if_neg other]

theorem release_alone (alone : s.queue = []) : s.release = { s with turn := none } := by
  unfold release
  split
  · rfl
  · rename_i waiting
    cases alone.symm.trans waiting

theorem ask_moot {generation : Nat} (free : s.turn = none) (alone : s.queue = [])
    (current : s.generation? ≠ some generation) : s.ask (.refresher generation) = s := by
  let taken : Session := { s with turn := some ⟨.refresher generation, .granted⟩ }
  have asked : s.ask (.refresher generation) = taken.refresh generation := by
    simp only [ask, free]
    rfl
  have released : taken.release = { s with turn := none } := release_alone alone
  have same : s.generation? = taken.generation? := rfl
  rw [asked, refresh_moot (same ▸ current), released, ← free]

theorem moot_of_replaced {generation : Nat} (orderly : s.Orderly) (unqueued : Unqueued s)
    (current : s.generation? ≠ some generation) : Moot s generation := by
  constructor
  case current => exact current
  case served =>
    intro stage turn
    have granted : stage = .granted :=
      Classical.byContradiction fun begun => current (refresher_current orderly turn begun)
    subst granted
    refine ⟨rfl, ?_⟩
    simp only [step, enter, turn, serve, refresh_moot current]
  case fired =>
    intro free begins
    obtain ⟨_, _, begun⟩ := step_begins begins
    have alone : (s.left generation).queue = [] := unqueued free
    rw [begun]
    exact ask_moot free alone current

theorem run_replaced {generation : Nat} (orderly : s.Orderly) (known : generation ≤ s.issued)
    (current : s.generation? ≠ some generation) (later : List SessionEvent) :
    (s.run later).generation? ≠ some generation := by
  intro back
  obtain ⟨token, held, rfl⟩ := Option.map_eq_some_iff.mp back
  rcases (run_follows orderly later).held token held with old | ⟨above, _⟩
  · exact current (by rw [generation?, old]; rfl)
  · omega

/-! ### Runs -/

/-- The refresh timer of a session, at any time. -/
theorem run_timers (policy : SessionPolicy) (issuer : Issuer) (events : List SessionEvent) :
    let start := new policy issuer
    let s := start.run events
    s.armed.filter (fun generation => !s.cancelled.contains generation) = s.timer.toList ∧
    (s.isRefreshScheduled = true → ∃ before event after held, events = before ++ event :: after ∧
      s.held = some held ∧ s.timer = some held.generation ∧
      (start.run before).Schedules event held) ∧
    (start.refreshes events).Nodup ∧
    ∀ generation ≤ s.issued, s.generation? ≠ some generation →
      ∀ later, Moot (s.run later) generation := by
  intro start s
  have fresh : start.Orderly := orderly_new policy issuer
  have orderly : s.Orderly := run_orderly fresh events
  have one : OneTimer start := .new policy issuer
  have alone : Unqueued start := fun _ => rfl
  refine ⟨(one.run fresh events).running, ?_, refreshes_nodup fresh one events, ?_⟩
  · intro scheduled
    obtain ⟨generation, set⟩ := Option.isSome_iff_exists.mp scheduled
    rcases run_timer fresh set with ⟨early, _⟩ | later
    · cases early
    · obtain ⟨before, event, after, held, split, own, rfl, schedules⟩ := later
      exact ⟨before, event, after, held, split, own, set, schedules⟩
  · intro generation known replaced later
    exact moot_of_replaced (run_orderly orderly later)
      (run_unqueued orderly (run_unqueued fresh alone events) later)
      (run_replaced orderly known replaced later)

/-- The timer had fired when the token was revoked. -/
theorem refresh_after_revocation :
    let login : LoginToken := ⟨⟨"hvs.first"⟩, Span.seconds 60, true⟩
    let s := (new .default (.store "approle" true)).run
      [.request 1 .token, .answer (.loggedIn (.ok login)), .request 2 .revoke,
        .pass (Span.seconds 60), .fire 1]
    let t := s.run [.answer (.revoked (.ok ()))]
    t.turn = some ⟨.refresher 1, .granted⟩ ∧ t.step .enter = t.release := by
  intro login s t
  obtain ⟨_, _, _, moot⟩ := run_timers .default (.store "approle" true)
    [.request 1 .token, .answer (.loggedIn (.ok login)), .request 2 .revoke,
      .pass (Span.seconds 60), .fire 1]
  have turn : t.turn = some ⟨.refresher 1, .granted⟩ := by decide +kernel
  have revoked : s.generation? ≠ some 1 := by decide +kernel
  have known : 1 ≤ s.issued := by decide +kernel
  exact ⟨turn, ((moot 1 known revoked [.answer (.revoked (.ok ()))]).served .granted turn).2⟩

end LeaseKeeper.Session

import LeaseKeeper.Proofs.Keeper.Twins

/-!
Secrets do not get in each other's way. A run in which many secrets take their steps is, to each of
them, the run of its own steps alone; so two runs that differ only in how the steps of different
secrets are interleaved end alike.
-/
namespace LeaseKeeper

def KeeperEvent.isPass : KeeperEvent → Bool
  | .pass _ => true
  | _ => false

def KeeperEvent.concerns (secret : Secret) (event : KeeperEvent) : Bool :=
  event.isPass || event.subject? == some secret

namespace Keeper

variable {k k' : Keeper} {secret : Secret} {event : KeeperEvent} {events : List KeeperEvent}

def ownSteps (secret : Secret) (events : List KeeperEvent) : List KeeperEvent :=
  events.filter (·.concerns secret)

/-- Time passes, or one secret takes a step of its own: its turn in a start comes, the store
answers, a timer fires or is found cancelled, somebody asks for a renewal or a rotation. No bind
waits for the step: a bind goes on from an answer as it sees fit, and may then remove a secret. -/
inductive Ordinary (k : Keeper) : KeeperEvent → Prop where
  | pass (span : Nat) : Ordinary k (.pass span)
  | step {event : KeeperEvent} (own : Secret) (mine : event.subject? = some own)
      (lone : k.Lone event.ticket?) : Ordinary k event

theorem Ordinary.of_binds (ordinary : k.Ordinary event) (binds : k'.binds = k.binds) :
    k'.Ordinary event := by
  cases ordinary with
  | pass span => exact .pass span
  | step own mine lone =>
    refine .step own mine ?_
    intro ticket same
    rw [binds]
    exact lone ticket same

theorem Ordinary.kept (ordinary : k.Ordinary event) (bears : k.Bears event) :
    (k.step event).binds = k.binds ∧ (k.step event).hasHolder = k.hasHolder := by
  cases ordinary with
  | pass span => exact ⟨rfl, rfl⟩
  | step own mine lone =>
    have confined := bears.confined mine lone
    exact ⟨confined.binds, confined.holder⟩

theorem Twin.outlasts {lease : Lease} (twin : Twin secret k k')
    (outlasts : k'.Outlasts secret lease) : k.Outlasts secret lease :=
  ⟨twin.started ▸ outlasts.started, twin.room ▸ outlasts.lined, outlasts.schedulable,
    twin.now ▸ outlasts.unfit⟩

theorem Twin.handed? (twin : Twin secret k k') (mine : event.subject? = some secret) :
    k'.handed? event = k.handed? event := by
  cases event with
  | answer own purpose reply =>
    obtain rfl := Option.some.inj mine
    simp only [Keeper.handed?, twin.room]
  | _ => rfl

theorem Twin.bears (twin : Twin secret k k') (mine : event.subject? = some secret)
    (bears : k.Bears event) : k'.Bears event := by
  intro own mine' lease handed outlasts
  obtain rfl := Option.some.inj (mine.symm.trans mine')
  exact bears secret mine lease (twin.handed? mine ▸ handed) (twin.outlasts outlasts)

/-! ### Projections of a run -/

theorem ownSteps_pass (secret : Secret) (span : Nat) (events : List KeeperEvent) :
    ownSteps secret (.pass span :: events) = .pass span :: ownSteps secret events := rfl

theorem ownSteps_mine (mine : event.subject? = some secret) (events : List KeeperEvent) :
    ownSteps secret (event :: events) = event :: ownSteps secret events :=
  List.filter_cons_of_pos (by simp [KeeperEvent.concerns, mine])

theorem ownSteps_other {own : Secret} (mine : event.subject? = some own) (differ : secret ≠ own)
    (events : List KeeperEvent) : ownSteps secret (event :: events) = ownSteps secret events := by
  have timely : event.isPass = false := by
    cases event with
    | pass => cases mine
    | _ => rfl
  exact List.filter_cons_of_neg (by simp [KeeperEvent.concerns, mine, timely, Ne.symm differ])

theorem ordinary_rest {rest : List KeeperEvent}
    (ordinary : ∀ other ∈ event :: rest, k.Ordinary other) (bears : k.Bears event) :
    ∀ other ∈ rest, (k.step event).Ordinary other := by
  intro other member
  have kept := (ordinary event List.mem_cons_self).kept bears
  exact (ordinary other (List.mem_cons_of_mem event member)).of_binds kept.1

/-- A run is, to each secret, the run of its own steps. -/
theorem Twin.run_own (twin : Twin secret k k') (held : k.hasHolder = true)
    (ordinary : ∀ event ∈ events, k.Ordinary event) (bears : k.Along Bears events) :
    Twin secret (k.run events) (k'.run (ownSteps secret events)) := by
  induction events generalizing k k' with
  | nil => exact twin
  | cons event rest ih =>
    have here := ordinary event List.mem_cons_self
    have held' : (k.step event).hasHolder = true := (here.kept bears.1).2.trans held
    have onward := ordinary_rest ordinary bears.1
    cases here with
    | pass span =>
      rw [ownSteps_pass]
      exact ih (twin.pass span) held' onward bears.2
    | step own mine lone =>
      by_cases same : secret = own
      · subst same
        rw [ownSteps_mine mine]
        exact ih (twin.step held mine lone) held' onward bears.2
      · rw [ownSteps_other mine same]
        have elsewhere := Twin.of_confined (bears.1.confined mine lone) same
        exact ih (elsewhere.symm.trans twin) held' onward bears.2

theorem Twin.bears_own (twin : Twin secret k k') (held : k.hasHolder = true)
    (ordinary : ∀ event ∈ events, k.Ordinary event) (bears : k.Along Bears events) :
    k'.Along Bears (ownSteps secret events) := by
  induction events generalizing k k' with
  | nil => exact trivial
  | cons event rest ih =>
    have here := ordinary event List.mem_cons_self
    have held' : (k.step event).hasHolder = true := (here.kept bears.1).2.trans held
    have onward := ordinary_rest ordinary bears.1
    cases here with
    | pass span =>
      rw [ownSteps_pass]
      exact ⟨bears_pass k' span, ih (twin.pass span) held' onward bears.2⟩
    | step own mine lone =>
      by_cases same : secret = own
      · subst same
        rw [ownSteps_mine mine]
        exact ⟨twin.bears mine bears.1, ih (twin.step held mine lone) held' onward bears.2⟩
      · rw [ownSteps_other mine same]
        have elsewhere := Twin.of_confined (bears.1.confined mine lone) same
        exact ih (elsewhere.symm.trans twin) held' onward bears.2

theorem bears_of_own (alone : Secret → Keeper) (twins : ∀ secret, Twin secret k (alone secret))
    (held : k.hasHolder = true) (ordinary : ∀ event ∈ events, k.Ordinary event)
    (bears : ∀ secret, (alone secret).Along Bears (ownSteps secret events)) :
    k.Along Bears events := by
  induction events generalizing k alone with
  | nil => exact trivial
  | cons event rest ih =>
    have here := ordinary event List.mem_cons_self
    cases here with
    | pass span =>
      have bears' (secret : Secret) := bears secret
      simp only [ownSteps_pass] at bears'
      have now := bears_pass k span
      exact ⟨now, ih _ (fun secret => (twins secret).pass span) held (ordinary_rest ordinary now)
        fun secret => (bears' secret).2⟩
    | step own mine lone =>
      have mine_bears := bears own
      rw [ownSteps_mine mine] at mine_bears
      have now : k.Bears event := (twins own).symm.bears mine mine_bears.1
      have confined := now.confined mine lone
      -- only the secret that takes the step goes on in the run of its own
      refine ⟨now, ih (fun secret => if secret = own then (alone own).step event
        else alone secret) ?_ (confined.holder.trans held) (ordinary_rest ordinary now) ?_⟩
      · intro secret
        by_cases same : secret = own
        · subst same
          rw [if_pos rfl]
          exact (twins secret).step held mine lone
        · rw [if_neg same]
          exact (Twin.of_confined confined same).symm.trans (twins secret)
      · intro secret
        by_cases same : secret = own
        · subst same
          rw [if_pos rfl]
          exact mine_bears.2
        · rw [if_neg same]
          have other_bears := bears secret
          rwa [ownSteps_other mine same] at other_bears

/-- Two runs in which each secret takes the same steps in the same order, however the steps of
different secrets are interleaved, leave every secret with the same room: its lease and whether that
is active, its pending timers, its data, its calls under way. The same was asked of the store for
it, and the same events and faults were told, at the same times. -/
theorem interleavings_agree (k : Keeper) (held : k.hasHolder = true) (one two : List KeeperEvent)
    (ordinary : ∀ event ∈ one ++ two, k.Ordinary event) (bears : k.Along Bears one)
    (same : ∀ secret, ownSteps secret two = ownSteps secret one) (secret : Secret) :
    (k.run two).room secret = (k.run one).room secret ∧
      (k.run two).tidings secret = (k.run one).tidings secret := by
  have ordinary₁ : ∀ event ∈ one, k.Ordinary event := fun event member =>
    ordinary event (List.mem_append_left two member)
  have ordinary₂ : ∀ event ∈ two, k.Ordinary event := fun event member =>
    ordinary event (List.mem_append_right one member)
  have bears₂ : k.Along Bears two := by
    refine bears_of_own (fun _ => k) (fun secret => .refl secret k) held ordinary₂ ?_
    intro secret
    rw [same secret]
    exact (Twin.refl secret k).bears_own held ordinary₁ bears
  have first := (Twin.refl secret k).run_own held ordinary₁ bears
  have second := (Twin.refl secret k).run_own held ordinary₂ bears₂
  rw [same secret] at second
  have twin := first.trans second.symm
  exact ⟨twin.room, twin.tidings⟩

/-- Two leases are renewed while one of the secrets is also fetched out of turn; one renewal fails.
-/
theorem renewals_interleaved :
    let a : Secret := ⟨"database/creds/app", .renew⟩
    let b : Secret := ⟨"database/creds/batch", .rotate⟩
    let k := (new .default).run [.request 1 (.add a), .request 2 (.add b), .request 3 .start,
      .ask a 3, .ask b 3,
      .answer a (.start 3) (.fetched (.ok ⟨"", "a", 120, true, none, none, none⟩)),
      .answer b (.start 3) (.fetched (.ok ⟨"", "b", 120, true, none, none, none⟩)),
      .pass (Span.seconds 60)]
    let renewed : KeeperEvent := .answer a (.timer 0 1) (.renewed (.ok ⟨"a", 90, true⟩))
    let failed : KeeperEvent := .answer b (.timer 0 1) (.renewed (.error (.notFound "b")))
    let rotated : KeeperEvent :=
      .answer b (.rotate 4) (.fetched (.ok ⟨"", "c", 300, true, none, none, none⟩))
    let one := [.fire a 0 1, renewed, .fire b 0 1, .request 4 (.rotate b), failed, rotated,
      .pass (Span.seconds 30), .fire a 0 2]
    let two := [.fire b 0 1, .request 4 (.rotate b), .fire a 0 1, failed, renewed, rotated,
      .pass (Span.seconds 30), .fire a 0 2]
    k.hasHolder = true ∧ (∀ event ∈ one ++ two, k.Ordinary event) ∧ k.Along Bears one ∧
      (∀ secret, ownSteps secret two = ownSteps secret one) ∧
      (k.run one).current b = some ⟨"c", 300, true⟩ ∧
      (k.run two).room b = (k.run one).room b ∧
      (k.run two).tidings a = (k.run one).tidings a := by
  intro a b k renewed failed rotated one two
  have unbound : k.binds = [] := List.isEmpty_iff.mp (by decide)
  have step (own : Secret) {event : KeeperEvent} (mine : event.subject? = some own) :
      k.Ordinary event := .step own mine fun ticket _ => by rw [unbound]; rfl
  have ordinary : ∀ event ∈ one ++ two, k.Ordinary event := by
    intro event member
    simp only [one, two, List.cons_append, List.nil_append, List.mem_cons, List.not_mem_nil,
      or_false] at member
    rcases member with rfl | rfl | rfl | rfl | rfl | rfl | rfl | rfl | rfl | rfl | rfl | rfl |
      rfl | rfl | rfl | rfl
    all_goals first | exact .pass _ | exact step _ rfl
  have bears : k.Along Bears one := by
    refine ⟨?_, ?_, ?_, ?_, ?_, ?_, ?_, ?_, trivial⟩
    all_goals decide
  have same : ∀ secret, ownSteps secret two = ownSteps secret one := by
    intro secret
    by_cases first : secret = a
    · subst first
      rfl
    · by_cases second : secret = b
      · subst second
        rfl
      · simp [ownSteps, KeeperEvent.concerns, KeeperEvent.isPass, KeeperEvent.subject?, one, two,
          renewed, failed, rotated, Ne.symm first, Ne.symm second]
  have held : k.hasHolder = true := by decide
  have agree := interleavings_agree k held one two ordinary bears same
  exact ⟨held, ordinary, bears, same, by decide, (agree b).1, (agree a).2⟩

end Keeper
end LeaseKeeper

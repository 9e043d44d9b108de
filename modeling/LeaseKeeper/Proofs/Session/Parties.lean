import LeaseKeeper.Proofs.Session.Revocation

/-!
Who is there: the party whose turn it is and those behind it, and the refresh tasks that wait for
their timer. A party comes once and leaves at the end of its turn, and no generation has two refresh
tasks; so the generation whose refresh is over has none left. Of a login or a refresh that fails the
one who wanted the token is told, once.
-/
namespace LeaseKeeper

inductive SessionFailure where
  | refused (ticket : Nat) (fault : Fault)
  | refreshFailed (fault : Fault)
  deriving DecidableEq, Repr

def SessionEntry.failure? : SessionEntry → Option SessionFailure
  | .returned ticket (.token (.error fault)) => some (.refused ticket fault)
  | .event (.refreshFailed fault) => some (.refreshFailed fault)
  | _ => none

def TurnStage.fault? : TurnStage → TokenReply → Option Fault
  | .loggingIn, .loggedIn (.error fault) => some fault
  | .renewing, .renewed (.error fault) => some fault
  | _, _ => none

namespace Party

def generation? : Party → Option Nat
  | .refresher generation => some generation
  | _ => none

/-- What becomes of a fault in the party's turn. -/
def reports (party : Party) (fault? : Option Fault) : Option SessionFailure :=
  match party with
  | .reader ticket => fault?.map (.refused ticket)
  | .refresher _ => fault?.map .refreshFailed
  | .revoker _ => none

@[simp] theorem reports_none (party : Party) : party.reports none = none := by
  cases party <;> rfl

theorem reports_some {party : Party} {fault? : Option Fault} {failure : SessionFailure}
    (reports : party.reports fault? = some failure) : ∃ fault, fault? = some fault := by
  cases fault? with
  | none => rw [reports_none] at reports; cases reports
  | some fault => exact ⟨fault, rfl⟩

end Party

namespace Session

variable {s s₁ s' : Session} {party : Party} {event : SessionEvent} {stage : TurnStage}
  {reply : TokenReply} {failed : Option SessionFailure} {generation : Nat}

def line (s : Session) : List Party := (s.turn.map Turn.party).toList ++ s.queue

def failures (s : Session) : List SessionFailure := s.journal.filterMap (·.2.failure?)

def failed? (s : Session) : SessionEvent → Option SessionFailure
  | .answer reply => s.turn.bind fun turn => turn.party.reports (turn.stage.fault? reply)
  | _ => none

/-! ### The end of a turn -/

structure Calm (s s' : Session) : Prop where
  queue : s'.queue = s.queue
  failures : s'.failures = s.failures

namespace Calm

theorem trans (first : Calm s s₁) (second : Calm s₁ s') : Calm s s' :=
  ⟨second.queue.trans first.queue, second.failures.trans first.failures⟩

theorem note (s : Session) {entry : SessionEntry} (silent : entry.failure? = none) :
    Calm s (s.note entry) := by
  constructor
  · rfl
  · simp [Session.failures, Session.note, silent]

theorem count (s : Session) (m : Measure) : Calm s (s.count m) := ⟨rfl, rfl⟩

theorem cancelRefresh (s : Session) : Calm s s.cancelRefresh := by
  rw [cancelRefresh_eq]
  exact ⟨rfl, rfl⟩

theorem arm (s : Session) (generation delay : Nat) : Calm s (s.arm generation delay) := by
  let waiting : Session := { s.cancelRefresh with
    timer := some generation, waits := s.waits ++ [(generation, s.now + delay)] }
  have cancelled : Calm s waiting := ⟨(cancelRefresh s).queue, (cancelRefresh s).failures⟩
  exact cancelled.trans (note waiting rfl)

theorem install (s : Session) (expected : Option Nat) (login : LoginToken) :
    Calm s (s.install expected login).1 := by
  unfold Session.install
  split
  · exact ⟨rfl, rfl⟩
  · rename_i expiresAt _
    dsimp only
    let placed : Session := { s with
      issued := s.issued + 1
      held := some ⟨login.token, expiresAt, login.renewable, s.issued + 1⟩ }
    have cancelled : Calm s placed.cancelRefresh :=
      ⟨(cancelRefresh placed).queue, (cancelRefresh placed).failures⟩
    split
    · exact ⟨rfl, rfl⟩
    · split
      · exact cancelled.trans (arm _ _ _)
      · exact cancelled

end Calm

inductive Turned (s : Session) (party : Party) : Option SessionFailure → Session → Prop where
  | ended (s₁ : Session) (failed : Option SessionFailure) (queue : s₁.queue = s.queue)
      (failures : s₁.failures = failed.toList ++ s.failures) : Turned s party failed s₁.release
  | asks (s₁ : Session) (stage : TurnStage) (call : TokenCall) (calm : Calm s s₁) :
      Turned s party none (s₁.call party stage call)

theorem release_line (s : Session) : s.release.line = s.queue := by
  unfold release line
  split <;> simp_all [note]

theorem release_failures (s : Session) : s.release.failures = s.failures := by
  unfold release
  split
  · rfl
  · exact (Calm.note _ rfl).failures

namespace Turned

theorem of_calm (calm : Calm s s₁) (turned : Turned s₁ party failed s') :
    Turned s party failed s' := by
  cases turned with
  | ended s₂ _ queue failures =>
    refine .ended s₂ failed (queue.trans calm.queue) ?_
    rw [failures, calm.failures]
  | asks s₂ stage call later => exact .asks s₂ stage call (calm.trans later)

theorem release (calm : Calm s s₁) : Turned s party none s₁.release :=
  .ended s₁ none calm.queue calm.failures

theorem complete {ticket : Nat} {answer : SessionAnswer} (calm : Calm s s₁)
    (silent : SessionEntry.failure? (.returned ticket answer) = none) :
    Turned s party none (s₁.complete ticket answer) :=
  release (calm.trans (.note s₁ silent))

theorem refuse (calm : Calm s s₁) (ticket : Nat) (fault : Fault) :
    Turned s party (some (.refused ticket fault))
      (s₁.complete ticket (.token (.error fault))) := by
  refine .ended _ _ calm.queue ?_
  rw [Option.toList_some, List.singleton_append, ← calm.failures]
  rfl

theorem line (turned : Turned s party failed s') :
    s'.line = s.queue ∨ s'.line = party :: s.queue := by
  cases turned with
  | ended s₁ _ queue => exact Or.inl ((release_line s₁).trans queue)
  | asks s₁ stage call calm =>
    have same : s₁.queue = s.queue := calm.queue
    right
    simp [Session.line, Session.call, Session.note, same]

theorem failures (turned : Turned s party failed s') :
    s'.failures = failed.toList ++ s.failures := by
  cases turned with
  | ended s₁ _ _ failures => exact (release_failures s₁).trans failures
  | asks s₁ stage call calm =>
    exact (Calm.note { s₁ with turn := some ⟨party, stage⟩ } rfl).failures.trans calm.failures

end Turned

/-! ### One lemma for each activity -/

theorem failRefresh_turned (fault : Fault) :
    Turned s party (some (.refreshFailed fault)) (s.failRefresh fault) := by
  have calm := (Calm.count s (.refresh false)).trans (.cancelRefresh _)
  refine .ended _ _ calm.queue ?_
  rw [Option.toList_some, List.singleton_append, ← calm.failures]
  rfl

theorem finishRefresh_turned (generation : Nat) (login : LoginToken) (renewed : Bool) :
    Turned s party none (s.finishRefresh generation login renewed) := by
  have calm := (Calm.count s (.refresh true)).trans (.install _ (some generation) login)
  unfold finishRefresh
  generalize (s.count (.refresh true)).install (some generation) login = outcome at calm
  obtain ⟨s₁, expiresAt | _ | _⟩ := outcome
  · exact .release (calm.trans (.note _ (by split <;> rfl)))
  · exact .release calm
  · exact .release calm

theorem finishLogin_turned (ticket : Nat) (login : LoginToken) :
    Turned s party none (s.finishLogin ticket login) := by
  have calm := Calm.install s none login
  unfold finishLogin
  generalize s.install none login = outcome at calm
  obtain ⟨s₁, expiresAt | _ | _⟩ := outcome
  · exact .complete (calm.trans (.note _ rfl)) rfl
  · exact .complete (calm.trans (.note _ rfl)) rfl
  · exact .complete calm rfl

theorem obtained_turned {generation? : Option Nat} (seeks : party.Seeks generation?)
    (login : LoginToken) : Turned s party none (s.obtained party login) := by
  cases party with
  | reader ticket => exact finishLogin_turned ticket login
  | refresher generation => exact finishRefresh_turned generation login false
  | revoker ticket => exact seeks.elim

theorem loggedIn_turned {generation? : Option Nat} (seeks : party.Seeks generation?)
    (login : LoginToken) : Turned s party none (s.loggedIn party login) := by
  have counted := Calm.count s (.login s.issuer.method true)
  unfold loggedIn
  dsimp only
  split
  · exact .asks _ _ _ counted
  · exact .of_calm counted (obtained_turned seeks login)

theorem loginFailed_turned {generation? : Option Nat} (seeks : party.Seeks generation?)
    (fault : Fault) : Turned s party (party.reports (some fault)) (s.loginFailed party fault) := by
  have counted := Calm.count s (.login s.issuer.method false)
  unfold loginFailed
  cases party with
  | reader ticket => exact .refuse counted ticket fault
  | refresher generation => exact .of_calm counted (failRefresh_turned fault)
  | revoker ticket => exact seeks.elim

theorem authenticate_turned (calm : Calm s s₁) : Turned s party none (s₁.authenticate party) := by
  unfold authenticate
  split
  · exact .asks _ _ _ (calm.trans (.count s₁ _))
  · exact .asks _ _ _ calm

theorem serve_turned (s : Session) (party : Party) : Turned s party none (s.serve party) := by
  have same : Calm s s := ⟨rfl, rfl⟩
  have taken : Calm s { s.cancelRefresh with held := none } :=
    ⟨(Calm.cancelRefresh s).queue, (Calm.cancelRefresh s).failures⟩
  cases party with
  | reader ticket =>
    simp only [serve, read]
    split
    · exact .complete same rfl
    · exact authenticate_turned same
  | revoker ticket =>
    simp only [serve, revoke]
    split
    · exact .complete taken rfl
    · split
      · exact .asks _ _ _ taken
      · exact .complete taken rfl
  | refresher generation =>
    simp only [serve, refresh]
    split
    · exact .release same
    · split
      · split
        · exact .asks _ _ _ same
        · exact authenticate_turned same
      · exact .release same

theorem renewed_turned (generation : Nat) (result : Except Fault LoginToken) :
    Turned s (.refresher generation)
      ((Party.refresher generation).reports (TurnStage.renewing.fault? (.renewed result)))
      (s.renewed (.refresher generation) generation result) := by
  cases result with
  | error fault => exact failRefresh_turned fault
  | ok login =>
    simp only [renewed]
    split
    · exact authenticate_turned (.note s rfl)
    · exact finishRefresh_turned generation login true

theorem answer_turned (orderly : s.Orderly) (turn : s.turn = some ⟨party, stage⟩)
    (expects : stage.expects reply = true) :
    Turned s party (party.reports (stage.fault? reply)) (s.answer reply) := by
  have fits := orderly _ turn
  simp only [answer, turn]
  cases stage with
  | granted => cases expects
  | loggingIn =>
    cases reply with
    | loggedIn result =>
      cases result with
      | ok login =>
        have turned : Turned s party (party.reports none) (s.loggedIn party login) := by
          rw [Party.reports_none]
          exact loggedIn_turned fits login
        exact turned
      | error fault => exact loginFailed_turned fits fault
    | _ => cases expects
  | lookingUp login =>
    cases reply with
    | lookedUp result =>
      have turned : Turned s party (party.reports none) (s.lookedUp party login result) := by
        rw [Party.reports_none]
        cases result <;> exact obtained_turned fits _
      exact turned
    | _ => cases expects
  | renewing =>
    obtain ⟨generation, rfl, _⟩ := fits
    cases reply with
    | renewed result => exact renewed_turned generation result
    | _ => cases expects
  | revoking =>
    obtain ⟨ticket, rfl⟩ := fits
    cases reply with
    | revoked result =>
      cases result with
      | ok _ => exact .complete (.note s rfl) rfl
      | error fault => exact .complete ⟨rfl, rfl⟩ rfl
    | _ => cases expects

/-! ### Whole steps -/

inductive Move (s : Session) (event : SessionEvent) (s' : Session) : Prop where
  | stays (line : s'.line = s.line) (failures : s'.failures = s.failures)
      (quiet : s.failed? event = none)
  | joins (s₀ : Session) (party : Party) (comes : s.Comes event s₀ party)
      (line : List.Sublist s'.line (s.line ++ [party])) (failures : s'.failures = s.failures)
  | acts (party : Party) (front : s.line = party :: s.queue)
      (turned : Turned s party (s.failed? event) s')

theorem Comes.move {s₀ : Session} (unqueued : Unqueued s) (comes : s.Comes event s₀ party) :
    Move s event (s.step event) := by
  have same : s₀.turn = s.turn ∧ s₀.queue = s.queue ∧ s₀.failures = s.failures := by
    cases comes <;> exact ⟨rfl, rfl, rfl⟩
  obtain ⟨turn₀, queue, failures⟩ := same
  rw [comes.step_eq]
  unfold ask
  cases turn : s.turn with
  | some own =>
    simp only [turn₀.trans turn]
    refine .joins s₀ party comes ?_ failures
    simp [line, queue, turn]
  | none =>
    simp only [turn₀.trans turn]
    have turned := serve_turned { s₀ with turn := some ⟨party, .granted⟩ } party
    have alone : s₀.queue = [] := queue.trans (unqueued turn)
    refine .joins s₀ party comes ?_ (turned.failures.trans failures)
    rcases turned.line with gone | stays
    · rw [gone]
      simp [alone]
    · rw [stays]
      simp [alone, line, turn, unqueued turn]

theorem line_of_turn {own : Turn} (turn : s.turn = some own) : s.line = own.party :: s.queue := by
  simp [line, turn]

theorem answer_move (orderly : s.Orderly) (reply : TokenReply) :
    Move s (.answer reply) (s.step (.answer reply)) := by
  cases turn : s.turn with
  | none =>
    have refused : s.step (.answer reply) = s := by simp only [step, answer, turn]
    rw [refused]
    exact .stays rfl rfl (by simp [failed?, turn])
  | some own =>
    obtain ⟨party, stage⟩ := own
    have failed : s.failed? (.answer reply) = party.reports (stage.fault? reply) := by
      simp [failed?, turn]
    rcases answer_served orderly turn reply with ⟨expects, _⟩ | ⟨unexpected, refused⟩
    · exact .acts party (line_of_turn turn) (failed ▸ answer_turned orderly turn expects)
    · have same : s.step (.answer reply) = s := refused
      have quiet : stage.fault? reply = none := by
        cases stage <;> cases reply <;> first | rfl | cases unexpected
      rw [same]
      exact .stays rfl rfl (by rw [failed, quiet, Party.reports_none])

theorem step_move (orderly : s.Orderly) (unqueued : Unqueued s) (event : SessionEvent) :
    Move s event (s.step event) := by
  cases event with
  | request ticket request =>
    cases request with
    | revoke => exact Comes.move unqueued (.revoker ticket)
    | token =>
      cases valid : s.valid? with
      | none => exact Comes.move unqueued (.reader ticket valid)
      | some token =>
        simp only [step, Session.request, valid]
        exact .stays rfl rfl rfl
  | enter =>
    simp only [step, enter]
    split
    · rename_i party turn
      exact .acts party (line_of_turn turn) (serve_turned s party)
    · exact .stays rfl rfl rfl
  | answer reply => exact answer_move orderly reply
  | fire generation =>
    by_cases timely : ∃ due, s.waits.lookup generation = some due ∧ due ≤ s.now ∧ s.isHeld = true
    · obtain ⟨due, waiting, ripe, held⟩ := timely
      exact Comes.move unqueued (.refresher generation due waiting ripe held)
    · simp only [step, fire]
      split
      · exact .stays rfl rfl rfl
      · rename_i due waiting
        split
        · rename_i ripe
          split
          · rename_i held
            exact (timely ⟨due, waiting, ripe, held⟩).elim
          · exact .stays rfl rfl rfl
        · exact .stays rfl rfl rfl
  | stop generation =>
    simp only [step, stop]
    split <;> exact .stays rfl rfl rfl
  | pass span => exact .stays rfl rfl rfl
  | shift change => exact .stays rfl rfl rfl
  | disown => exact .stays rfl rfl rfl

theorem step_failures (orderly : s.Orderly) (unqueued : Unqueued s) (event : SessionEvent) :
    (s.step event).failures = (s.failed? event).toList ++ s.failures := by
  cases step_move orderly unqueued event with
  | stays _ failures quiet => rw [failures, quiet]; rfl
  | joins s₀ party comes _ failures =>
    have quiet : s.failed? event = none := by cases comes <;> rfl
    rw [failures, quiet]
    rfl
  | acts _ _ turned => exact turned.failures

theorem step_line (orderly : s.Orderly) (unqueued : Unqueued s) (event : SessionEvent) :
    List.Sublist (s.step event).line s.line ∨ ∃ s₀ party, s.Comes event s₀ party ∧
      List.Sublist (s.step event).line (s.line ++ [party]) := by
  cases step_move orderly unqueued event with
  | stays line => exact Or.inl (line ▸ List.Sublist.refl _)
  | joins s₀ party comes line => exact Or.inr ⟨s₀, party, comes, line⟩
  | acts party front turned =>
    left
    rw [front]
    rcases turned.line with gone | stays
    · exact gone ▸ List.sublist_cons_self party s.queue
    · exact stays ▸ List.Sublist.refl _

/-! ### Refresh tasks -/

structure Tasks (s : Session) : Prop where
  apart : (s.line.filterMap Party.generation?).Nodup
  waiting : ∀ generation ∈ s.line.filterMap Party.generation?, generation ∉ s.waits.map Prod.fst
  known : ∀ generation ∈ s.line.filterMap Party.generation?, generation ≤ s.issued

theorem step_waits (orderly : s.Orderly) (event : SessionEvent) :
    ∀ generation ∈ (s.step event).waits.map Prod.fst,
      generation ∈ s.waits.map Prod.fst ∨ generation = s.issued + 1 := by
  intro generation member
  obtain ⟨entry, waits, rfl⟩ := List.mem_map.mp member
  rcases (step_change orderly event).waits_given entry waits with before | ⟨_, fresh⟩
  · exact Or.inl (List.mem_map.mpr ⟨entry, before, rfl⟩)
  · exact Or.inr fresh

theorem Comes.refresher_waits {s₀ : Session} (comes : s.Comes event s₀ party)
    (own : party.generation? = some generation) :
    generation ∈ s.waits.map Prod.fst ∧ generation ∉ (s.step event).waits.map Prod.fst := by
  have stepped := comes.step_eq
  cases comes with
  | refresher other due lookup =>
    cases own
    constructor
    · obtain ⟨entry, member, same⟩ := List.lookup_isSome_iff.mp (Option.isSome_of_eq_some lookup)
      exact List.mem_map.mpr ⟨entry, member, (beq_iff_eq.mp same).symm⟩
    · rw [stepped]
      intro still
      obtain ⟨entry, member, same⟩ := List.mem_map.mp still
      have left := (List.mem_filter.mp (ask_waits _ _ entry member)).2
      simp [same] at left
  | revoker => cases own
  | reader => cases own

theorem Tasks.step (tasks : Tasks s) (orderly : s.Orderly) (unqueued : Unqueued s)
    (one : OneTimer s) (event : SessionEvent) : Tasks (s.step event) := by
  have grows := (step_change orderly event).follows.issued
  have waits := step_waits orderly event
  have armed_le : ∀ generation ∈ s.waits.map Prod.fst, generation ≤ s.issued := by
    intro generation member
    obtain ⟨entry, waiting, rfl⟩ := List.mem_map.mp member
    exact one.armed_le _ (one.waits_armed entry waiting)
  -- whoever was there already has not got a new timer
  have kept : ∀ generation ∈ s.line.filterMap Party.generation?,
      generation ∉ (s.step event).waits.map Prod.fst := by
    intro generation there still
    rcases waits generation still with before | fresh
    · exact tasks.waiting generation there before
    · have known := tasks.known generation there
      omega
  have known : ∀ generation ∈ s.line.filterMap Party.generation?,
      generation ≤ (s.step event).issued :=
    fun generation there => Nat.le_trans (tasks.known generation there) grows
  rcases step_line orderly unqueued event with fewer | ⟨s₀, party, comes, fewer⟩
  · have within := fewer.filterMap Party.generation?
    exact ⟨within.nodup tasks.apart, fun generation there => kept _ (within.subset there),
      fun generation there => known _ (within.subset there)⟩
  · have within := fewer.filterMap Party.generation?
    rw [List.filterMap_append] at within
    cases own : party.generation? with
    | none =>
      simp only [List.filterMap_cons, own, List.filterMap_nil, List.append_nil] at within
      exact ⟨within.nodup tasks.apart, fun generation there => kept _ (within.subset there),
        fun generation there => known _ (within.subset there)⟩
    | some generation =>
      obtain ⟨waited, left⟩ := comes.refresher_waits own
      simp only [List.filterMap_cons, own, List.filterMap_nil] at within
      have absent : generation ∉ s.line.filterMap Party.generation? :=
        fun there => tasks.waiting generation there waited
      constructor
      · refine within.nodup (List.nodup_append.mpr ⟨tasks.apart, by simp, ?_⟩)
        intro other there own' last
        rw [List.mem_singleton.mp last]
        rintro rfl
        exact absent there
      · intro other there
        rcases List.mem_append.mp (within.subset there) with before | last
        · exact kept other before
        · exact List.mem_singleton.mp last ▸ left
      · intro other there
        rcases List.mem_append.mp (within.subset there) with before | last
        · exact known other before
        · rw [List.mem_singleton.mp last]
          exact Nat.le_trans (armed_le generation waited) grows

theorem tasks_new (policy : SessionPolicy) (issuer : Issuer) : Tasks (new policy issuer) :=
  ⟨List.nodup_nil, nofun, nofun⟩

/-- Everything that holds of a session at any time and that the lemmas about its steps rely on. -/
structure Sound (s : Session) : Prop where
  orderly : s.Orderly
  unqueued : Unqueued s
  one : OneTimer s
  current : ∀ generation, s.timer = some generation → s.generation? = some generation
  tasks : Tasks s

theorem sound_new (policy : SessionPolicy) (issuer : Issuer) : Sound (new policy issuer) :=
  ⟨orderly_new policy issuer, fun _ => rfl, .new policy issuer, nofun, tasks_new policy issuer⟩

theorem step_timer_current (orderly : s.Orderly)
    (current : ∀ generation, s.timer = some generation → s.generation? = some generation)
    (set : (s.step event).timer = some generation) :
    (s.step event).generation? = some generation := by
  rcases step_timer orderly set with ⟨before, kept⟩ | ⟨held, placed, own, _⟩
  · rw [generation?, kept]
    exact current generation before
  · simp [generation?, placed, own]

theorem Sound.step (sound : Sound s) (event : SessionEvent) : Sound (s.step event) :=
  ⟨step_orderly sound.orderly event, step_unqueued sound.orderly sound.unqueued event,
    sound.one.change (step_change sound.orderly event),
    fun _ set => step_timer_current sound.orderly sound.current set,
    sound.tasks.step sound.orderly sound.unqueued sound.one event⟩

theorem Sound.run (sound : Sound s) (events : List SessionEvent) : Sound (s.run events) :=
  run_keep (P := Sound) (fun _ event sound => sound.step event) sound events

structure Gone (s : Session) (generation : Nat) : Prop where
  line : generation ∉ s.line.filterMap Party.generation?
  waits : generation ∉ s.waits.map Prod.fst
  known : generation ≤ s.issued

theorem Gone.step (gone : Gone s generation) (sound : Sound s) (event : SessionEvent) :
    Gone (s.step event) generation := by
  have grows := (step_change sound.orderly event).follows.issued
  have known := gone.known
  constructor
  · intro there
    rcases step_line sound.orderly sound.unqueued event with fewer | ⟨s₀, party, comes, fewer⟩
    · exact gone.line ((fewer.filterMap Party.generation?).subset there)
    · have within := (fewer.filterMap Party.generation?).subset there
      rw [List.filterMap_append] at within
      rcases List.mem_append.mp within with before | last
      · exact gone.line before
      · obtain ⟨own, member, same⟩ := List.mem_filterMap.mp last
        obtain rfl := List.mem_singleton.mp member
        exact gone.waits (comes.refresher_waits same).1
  · intro still
    rcases step_waits sound.orderly event generation still with before | fresh
    · exact gone.waits before
    · omega
  · omega

theorem Gone.run (gone : Gone s generation) (sound : Sound s) (events : List SessionEvent) :
    Gone (s.run events) generation :=
  (run_keep (P := fun s => Sound s ∧ Gone s generation)
    (fun _ event both => ⟨both.1.step event, both.2.step both.1 event⟩) ⟨sound, gone⟩ events).2

end Session
end LeaseKeeper

import LeaseKeeper.Proofs.Session.Parties
import LeaseKeeper.Proofs.Session.Sections

/-!
Logins and refreshes that fail. Whatever the party has asked the store for by then, the token in use
is the one that was in use when its turn began. A failed login leaves the timer too; a failed
refresh gives it up, and no refresh does anything until the next token is in use.
-/
namespace LeaseKeeper.Session

variable {s s' opened : Session} {party : Party} {event first : SessionEvent}
  {within : List SessionEvent} {stage : TurnStage} {reply : TokenReply}
  {failure : SessionFailure} {generation : Nat}

/-! ### The turn in which it fails -/

theorem failed_cases (failed : s.failed? event = some failure) :
    ∃ party stage reply fault, event = .answer reply ∧ s.turn = some ⟨party, stage⟩ ∧
      stage.fault? reply = some fault ∧ party.reports (some fault) = some failure := by
  cases event with
  | answer reply =>
    obtain ⟨turn, own, reports⟩ := Option.bind_eq_some_iff.mp failed
    obtain ⟨fault, faulty⟩ := Party.reports_some reports
    exact ⟨turn.party, turn.stage, reply, fault, rfl, own, faulty, faulty ▸ reports⟩
  | _ => cases failed

theorem expects_of_fault {fault : Fault} (faulty : stage.fault? reply = some fault) :
    stage.expects reply = true := by
  cases stage <;> cases reply <;> first | rfl | cases faulty

theorem failed_over (orderly : s.Orderly) (failed : s.failed? event = some failure) :
    (s.step event).isAsking = false ∧ (s.step event).line = s.queue := by
  obtain ⟨party, stage, reply, fault, rfl, turn, faulty, reports⟩ := failed_cases failed
  have turned := answer_turned orderly turn (expects_of_fault faulty)
  rw [faulty, reports] at turned
  have stepped : s.step (.answer reply) = s.answer reply := rfl
  rw [stepped]
  generalize s.answer reply = s' at turned
  cases turned with
  | ended s₁ _ queue => exact ⟨(release_over s₁).asking, (release_line s₁).trans queue⟩

theorem Section.failures (sound : Sound s) (sec : s.Section party first within) :
    (s.run (first :: within)).failures = s.failures := by
  induction within using List.reverseRecOn with
  | nil =>
    have quiet : s.failed? first = none := by
      cases sec.enters with
      | granted => rfl
      | comes _ s₀ _ comes => cases comes <;> rfl
    have told := step_failures sound.orderly sound.unqueued first
    rw [quiet] at told
    exact told
  | append_singleton within event ih =>
    have asking := sec.asking _ (List.prefix_refl _)
    have sound' := sound.run (first :: within)
    rw [← List.cons_append, run_snoc] at asking ⊢
    rw [step_failures sound'.orderly sound'.unqueued event, ih sec.init]
    cases failed : (s.run (first :: within)).failed? event with
    | none => rfl
    | some failure =>
      cases (failed_over sound'.orderly failed).1.symm.trans asking

theorem failed_section {start : Session} {events : List SessionEvent} (sound : Sound start)
    (silent : start.isAsking = false) (failed : (start.run events).failed? event = some failure) :
    ∃ party stage reply fault before first within, event = .answer reply ∧
      (start.run events).turn = some ⟨party, stage⟩ ∧ stage.fault? reply = some fault ∧
      party.reports (some fault) = some failure ∧ events = before ++ first :: within ∧
      (start.run before).Section party first within ∧
      Idles (start.run before) (start.run events) ∧
      (start.run events).failures = (start.run before).failures := by
  obtain ⟨party, stage, reply, fault, answered, turn, faulty, reports⟩ := failed_cases failed
  have calling := TurnStage.isCalling_of_expects (expects_of_fault faulty)
  obtain ⟨before, first, within, rfl, sec⟩ :=
    run_section sound.orderly silent events stage turn calling
  have other : ∀ ticket, party ≠ .revoker ticket := by
    rintro ticket rfl
    cases reports
  have joined : (start.run before).run (first :: within) =
      start.run (before ++ first :: within) := by
    simp only [run, List.foldl_append]
  have idles := sec.idles (run_orderly sound.orderly before) other
  have same := sec.failures (sound.run before)
  rw [joined] at idles same
  exact ⟨party, stage, reply, fault, before, first, within, answered, turn, faulty, reports, rfl,
    sec, idles, same⟩

/-! ### What becomes of the token and its timer -/

theorem Idles.cancelRefresh (idles : Idles s s') : Idles s.cancelRefresh s'.cancelRefresh := by
  rw [cancelRefresh_eq, cancelRefresh_eq]
  exact ⟨idles.policy, idles.held, idles.issued, rfl, by rw [idles.timer, idles.cancelled],
    idles.armed, idles.waits⟩

theorem refused_idles {ticket : Nat} {fault : Fault}
    (turn : s.turn = some ⟨.reader ticket, stage⟩) (orderly : s.Orderly)
    (faulty : stage.fault? reply = some fault) : Idles s (s.step (.answer reply)) := by
  have fits := orderly _ turn
  simp only [step, answer, turn]
  cases stage with
  | loggingIn =>
    cases reply with
    | loggedIn result =>
      cases result with
      | ok login => cases faulty
      | error own => exact .of_settled (settled_of_count (complete_settled _ ticket _))
    | _ => cases faulty
  | renewing =>
    obtain ⟨generation, own, _⟩ := fits
    cases own
  | _ => cases reply <;> cases faulty

theorem unrefreshed_idles {fault : Fault}
    (turn : s.turn = some ⟨.refresher generation, stage⟩)
    (faulty : stage.fault? reply = some fault) :
    Idles s.cancelRefresh (s.step (.answer reply)) := by
  simp only [step, answer, turn]
  cases stage with
  | loggingIn =>
    cases reply with
    | loggedIn result =>
      cases result with
      | ok login => cases faulty
      | error own =>
        let counted := s.count (.login s.issuer.method false)
        have failed : Idles counted.cancelRefresh (counted.failRefresh own) :=
          .of_settled (failRefresh_settled own)
        have same : Idles s counted := ⟨rfl, rfl, rfl, rfl, rfl, rfl, fun _ => id⟩
        exact same.cancelRefresh.trans failed
    | _ => cases faulty
  | renewing =>
    cases reply with
    | renewed result =>
      cases result with
      | ok login => cases faulty
      | error own => exact .of_settled (failRefresh_settled own)
    | _ => cases faulty
  | _ => cases reply <;> cases faulty

/-! ### After a failed refresh -/

structure Unrefreshed (s : Session) : Prop where
  timer : s.timer = none
  granted : ∀ generation stage, s.turn = some ⟨.refresher generation, stage⟩ →
    stage = .granted ∧ s.step .enter = s.release
  fired : ∀ generation, s.turn = none → s.begins? (.fire generation) = some generation →
    s.step (.fire generation) = s.left generation

theorem gone_of_turn (sound : Sound s) (turn : s.turn = some ⟨.refresher generation, stage⟩)
    (line : s'.line = s.queue) (issued : s'.issued = s.issued)
    (waits : ∀ entry ∈ s'.waits, entry ∈ s.waits) : Gone s' generation := by
  have front := line_of_turn turn
  have tasks : s.line.filterMap Party.generation? =
      generation :: s.queue.filterMap Party.generation? := by
    rw [front]
    rfl
  have here : generation ∈ s.line.filterMap Party.generation? := tasks ▸ List.mem_cons_self
  constructor
  · rw [line]
    have apart := sound.tasks.apart
    rw [tasks] at apart
    exact (List.nodup_cons.mp apart).1
  · intro still
    obtain ⟨entry, member, rfl⟩ := List.mem_map.mp still
    exact sound.tasks.waiting _ here (List.mem_map.mpr ⟨entry, waits entry member, rfl⟩)
  · rw [issued]
    exact sound.tasks.known generation here

theorem Follows.held_of_issued (follows : Follows s s') (same : s'.issued = s.issued)
    {token : HeldToken} (held : s'.held = some token) : s.held = some token := by
  rcases follows.held token held with old | ⟨above, below⟩
  · exact old
  · omega

theorem run_timer_none (orderly : s.Orderly) (idle : s.timer = none)
    (bounded : ∀ token, s.held = some token → token.generation ≤ s.issued)
    (later : List SessionEvent) (same : (s.run later).issued = s.issued) :
    (s.run later).timer = none := by
  rw [Option.eq_none_iff_forall_ne_some]
  intro own set
  rcases run_timer orderly set with ⟨early, _⟩ | ⟨before, event, after, held, _, now, _, placed⟩
  · cases idle.symm.trans early
  · obtain ⟨login, expiresAt, _, _, _, rfl, _⟩ := placed
    -- the token of the timer would be a new one
    have old := bounded _ ((run_follows orderly later).held_of_issued same now)
    have grows := (run_follows orderly before).issued
    dsimp only at old
    omega

theorem run_unrefreshed (sound : Sound s) (idle : s.timer = none) (gone : Gone s generation)
    (current : s.generation? = some generation) (later : List SessionEvent)
    (same : (s.run later).issued = s.issued) : Unrefreshed (s.run later) := by
  have sound' := sound.run later
  have gone' := gone.run sound later
  have follows := run_follows sound.orderly later
  have bounded : ∀ token, s.held = some token → token.generation ≤ s.issued := by
    intro token held
    have own : generation = token.generation := by
      simpa [generation?, held] using current.symm
    exact own ▸ gone.known
  have other : ∀ own, (s.run later).generation? = some own → own = generation := by
    intro own now
    obtain ⟨token, held, rfl⟩ := Option.map_eq_some_iff.mp now
    have before := follows.held_of_issued same held
    simpa [generation?, before] using current
  have moot : ∀ own, own ≠ generation → Moot (s.run later) own := by
    intro own differs
    exact moot_of_replaced sound'.orderly sound'.unqueued fun now => differs (other own now)
  constructor
  · exact run_timer_none sound.orderly idle bounded later same
  · intro own stage turn
    refine (moot own ?_).served stage turn
    rintro rfl
    exact gone'.line (List.mem_filterMap.mpr ⟨.refresher own, by simp [line_of_turn turn], rfl⟩)
  · intro own free begins
    refine (moot own ?_).fired free begins
    rintro rfl
    exact gone'.waits (step_begins begins).2.1

/-! ### Runs -/

/-- A login or a refresh fails, after whatever it was given before: the token in use stays. -/
theorem failure_keeps_token (policy : SessionPolicy) (issuer : Issuer)
    (events : List SessionEvent) (event : SessionEvent) :
    let start := new policy issuer
    let s := start.run events
    let s' := s.step event
    s'.failures = (s.failed? event).toList ++ s.failures ∧
    (∀ ticket fault, s.failed? event = some (.refused ticket fault) →
      ∃ before first within, events = before ++ first :: within ∧
        (start.run before).Section (.reader ticket) first within ∧
        Idles (start.run before) s') ∧
    ∀ fault, s.failed? event = some (.refreshFailed fault) →
      ∃ before first within generation, events = before ++ first :: within ∧
        (start.run before).Section (.refresher generation) first within ∧
        Idles (start.run before).cancelRefresh s' ∧
        s'.failures = .refreshFailed fault :: (start.run before).failures ∧
        ∀ later, (s'.run later).issued = s'.issued → Unrefreshed (s'.run later) := by
  intro start s s'
  have fresh : Sound start := sound_new policy issuer
  have sound : Sound s := fresh.run events
  have told : s'.failures = (s.failed? event).toList ++ s.failures :=
    step_failures sound.orderly sound.unqueued event
  refine ⟨told, ?_, ?_⟩
  · intro ticket fault failed
    obtain ⟨party, stage, reply, own, before, first, within, rfl, turn, faulty, reports, split, sec,
      idles, _⟩ := failed_section fresh rfl failed
    obtain rfl : party = .reader ticket := by
      cases party with
      | reader other => cases reports; rfl
      | refresher => cases reports
      | revoker => cases reports
    exact ⟨before, first, within, split, sec,
      idles.trans (refused_idles turn sound.orderly faulty)⟩
  · intro fault failed
    obtain ⟨party, stage, reply, own, before, first, within, rfl, turn, faulty, reports, split, sec,
      idles, same⟩ := failed_section fresh rfl failed
    obtain ⟨generation, rfl⟩ : ∃ generation, party = .refresher generation := by
      cases party with
      | reader => cases reports
      | refresher generation => exact ⟨generation, rfl⟩
      | revoker => cases reports
    have given_up : Idles s.cancelRefresh s' := unrefreshed_idles turn faulty
    have through := idles.cancelRefresh.trans given_up
    rw [cancelRefresh_eq] at given_up
    refine ⟨before, first, within, generation, split, sec, through, ?_, ?_⟩
    · rw [told, failed, same]
      rfl
    · have begun : stage ≠ .granted := by
        rintro rfl
        cases faulty
      have current := refresher_current sound.orderly turn begun
      have kept : s'.generation? = some generation := by
        rw [← current, generation?, generation?, given_up.held]
      have gone : Gone s' generation :=
        gone_of_turn sound turn (failed_over sound.orderly failed).2 given_up.issued given_up.waits
      exact run_unrefreshed (sound.step _) given_up.timer gone kept

/-- The renewal is exhausted and the login that is to replace the token fails. The token has three
seconds left; it is not refreshed again. -/
theorem exhausted_refresh_keeps_token :
    let login : LoginToken := ⟨⟨"hvs.first"⟩, Span.seconds 60, true⟩
    let events : List SessionEvent := [.request 1 .token, .answer (.loggedIn (.ok login)),
      .pass (Span.seconds 55), .fire 1,
      .answer (.renewed (.ok ⟨login.token, Span.seconds 3, true⟩))]
    let fault := Fault.internal "down"
    let s := (new .default (.store "approle" true)).run events
    let s' := s.step (.answer (.loggedIn (.error fault)))
    s.failed? (.answer (.loggedIn (.error fault))) = some (.refreshFailed fault) ∧
      s'.held = some ⟨login.token, some (Span.seconds 60), true, 1⟩ ∧
      s'.isRefreshScheduled = false ∧
      Unrefreshed (s'.run [.pass (Span.seconds 60)]) := by
  intro login events fault s s'
  have failed : s.failed? (.answer (.loggedIn (.error fault))) = some (.refreshFailed fault) := by
    decide +kernel
  obtain ⟨_, _, unrefreshed⟩ := failure_keeps_token .default (.store "approle" true) events
    (.answer (.loggedIn (.error fault)))
  obtain ⟨_, _, _, _, _, _, _, _, later⟩ := unrefreshed fault failed
  exact ⟨failed, by decide +kernel, by decide +kernel,
    later [.pass (Span.seconds 60)] (by decide +kernel)⟩

end LeaseKeeper.Session

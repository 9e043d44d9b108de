import LeaseKeeper.Proofs.Session.Revocation

/-!
What a party does from taking up its turn to the end of the turn. It asks the store for one thing
after the other, in an order that its first call settles but for what the answers say; all that time
the token in use and its timer stay, unless the party is there to take the token away.
-/
namespace LeaseKeeper.Session

variable {s s' start : Session} {party : Party} {event first : SessionEvent}
  {within : List SessionEvent} {stage : TurnStage}

def asks (s : Session) : List TokenCall := s.record.filterMap (·.call?)

theorem asks_of_record (fresh : List SessionEntry) (told : s'.record = fresh ++ s.record) :
    s'.asks = fresh.filterMap (·.call?) ++ s.asks := by
  rw [asks, asks, told, List.filterMap_append]

theorem asks_told (party : Party) (answer : SessionAnswer) :
    (party.told answer).filterMap (·.call?) = [] := by
  cases party <;> rfl

/-- The party takes up its turn with the first event, and waits for the store after it and after
each event within. -/
structure Section (s : Session) (party : Party) (first : SessionEvent)
    (within : List SessionEvent) : Prop where
  enters : s.Enters first party
  asking : ∀ early, early <+: within → (s.run (first :: early)).isAsking = true

theorem Section.snoc (sec : s.Section party first within)
    (asking : (s.run (first :: (within ++ [event]))).isAsking = true) :
    s.Section party first (within ++ [event]) := by
  refine ⟨sec.enters, fun early early_of => ?_⟩
  rcases List.prefix_concat_iff.mp early_of with rfl | before
  · exact asking
  · exact sec.asking early before

theorem Section.init (sec : s.Section party first (within ++ [event])) :
    s.Section party first within :=
  ⟨sec.enters, fun early early_of => sec.asking early (early_of.trans (List.prefix_append _ _))⟩

theorem isAsking_of_turn (turn : s.turn = some ⟨party, stage⟩) (calling : stage.isCalling = true) :
    s.isAsking = true := by
  simp [isAsking, turn, calling]

theorem Over.not_asking (through : Over s s') (asking : s'.isAsking = true) : False := by
  cases through.asking.symm.trans asking

theorem isCalling_opening (issuer : Issuer) : issuer.opening.isCalling = true := by
  cases issuer <;> rfl

theorem step_turn (orderly : s.Orderly) (turn : (s.step event).turn = some ⟨party, stage⟩)
    (calling : stage.isCalling = true) :
    s.Enters event party ∨ ∃ own, s.turn = some ⟨party, own⟩ ∧ own.isCalling = true := by
  have asking := isAsking_of_turn turn calling
  have deed := step_deed orderly event
  generalize s.step event = s' at deed turn asking
  cases deed with
  | stays _ _ _ same => exact Or.inr ⟨stage, same.symm.trans turn, calling⟩
  | told => exact Or.inr ⟨stage, turn, calling⟩
  | serves _ own _ enters serving =>
    cases serving with
    | found _ _ _ _ through => exact (through.not_asking asking).elim
    | opens _ _ _ _ _ taken =>
      cases taken.symm.trans turn
      exact Or.inl enters
    | renews _ _ _ _ _ taken =>
      cases taken.symm.trans turn
      exact Or.inl enters
    | passes _ _ through => exact (through.not_asking asking).elim
    | revokes _ _ _ _ _ _ taken =>
      cases taken.symm.trans turn
      exact Or.inl enters
    | drops _ _ through => exact (through.not_asking asking).elim
  | answers own early reply _ waiting expects answering =>
    have before := TurnStage.isCalling_of_expects expects
    cases answering with
    | looksUp _ _ _ _ taken =>
      cases taken.symm.trans turn
      exact Or.inr ⟨_, waiting, before⟩
    | gains _ _ _ _ _ _ _ _ through => exact (through.not_asking asking).elim
    | overflows _ _ _ _ _ _ through => exact (through.not_asking asking).elim
    | reopens _ _ _ _ _ _ taken =>
      cases taken.symm.trans turn
      exact Or.inr ⟨_, waiting, before⟩
    | ends _ _ _ _ _ through => exact (through.not_asking asking).elim

theorem run_section (orderly : start.Orderly) (silent : start.isAsking = false)
    (events : List SessionEvent) :
    ∀ stage, (start.run events).turn = some ⟨party, stage⟩ → stage.isCalling = true →
      ∃ before first within, events = before ++ first :: within ∧
        (start.run before).Section party first within := by
  induction events using List.reverseRecOn with
  | nil =>
    intro stage turn calling
    cases silent.symm.trans (isAsking_of_turn turn calling)
  | append_singleton events event ih =>
    intro stage turn calling
    have asking := isAsking_of_turn turn calling
    rw [run_snoc] at turn asking
    rcases step_turn (run_orderly orderly events) turn calling with enters | ⟨own, waiting, before⟩
    · refine ⟨events, event, [], rfl, enters, fun early early_of => ?_⟩
      obtain rfl := List.prefix_nil.mp early_of
      exact asking
    · obtain ⟨opening, first, within, rfl, sec⟩ := ih own waiting before
      refine ⟨opening, first, within ++ [event], by simp, sec.snoc ?_⟩
      rw [← run_snoc] at asking
      simpa [run, List.foldl_append] using asking

/-! ### The course of a turn -/

/-- How far a turn can have come that was taken up at `s`, and what the store was asked for in it,
latest first. -/
inductive Course (s : Session) : TurnStage → List TokenCall → Prop where
  | opens : Course s s.issuer.opening [s.issuer.openingCall]
  | renews (held : HeldToken) (own : s.held = some held) :
      Course s .renewing [.renew held.token]
  | reopens (held : HeldToken) (own : s.held = some held) :
      Course s s.issuer.opening [s.issuer.openingCall, .renew held.token]
  | looksUp (login : LoginToken) (asked : List TokenCall) (logs : Course s .loggingIn asked) :
      Course s (.lookingUp login) (.lookUp login.token :: asked)

namespace Course

variable {asked : List TokenCall}

theorem opening_eq {login : LoginToken} {issuer : Issuer}
    (same : issuer.opening = .lookingUp login) :
    issuer.openingCall = .lookUp login.token := by
  cases issuer with
  | supplied token =>
    cases same
    rfl
  | store => cases same

theorem looked {login : LoginToken} (course : s.Course (.lookingUp login) asked) :
    .lookUp login.token ∈ asked := by
  generalize at_stage : TurnStage.lookingUp login = stage at course
  cases course with
  | opens => exact opening_eq at_stage.symm ▸ List.mem_singleton_self _
  | renews => cases at_stage
  | reopens => exact opening_eq at_stage.symm ▸ List.mem_cons_self
  | looksUp =>
    cases at_stage
    exact List.mem_cons_self

theorem renewed (course : s.Course .renewing asked) :
    ∃ held, s.held = some held ∧ asked = [.renew held.token] := by
  generalize at_stage : TurnStage.renewing = stage at course
  cases course with
  | opens => exact (opening_ne_renewing _ at_stage.symm).elim
  | renews held own => exact ⟨held, own, rfl⟩
  | reopens => exact (opening_ne_renewing _ at_stage.symm).elim
  | looksUp => cases at_stage

theorem openingCall_ne_renew (issuer : Issuer) (token : Hidden) :
    issuer.openingCall ≠ .renew token := by
  cases issuer <;> exact nofun

theorem one_login (course : s.Course stage asked) (begun : stage ≠ .renewing) :
    asked.count s.issuer.openingCall = 1 := by
  have apart := openingCall_ne_renew s.issuer
  induction course with
  | opens => simp
  | renews => exact (begun rfl).elim
  | reopens held own => simp [(apart held.token).symm]
  | looksUp login asked logs ih =>
    have one := ih nofun
    have first : s.issuer.openingCall = .login := by
      cases issuer : s.issuer with
      | store => rfl
      | supplied token =>
        -- a supplied token is looked up at once, so nobody waits for a login
        generalize at_stage : TurnStage.loggingIn = stage at logs
        cases logs with
        | opens => rw [issuer] at at_stage; cases at_stage
        | renews => cases at_stage
        | reopens => rw [issuer] at at_stage; cases at_stage
        | looksUp => cases at_stage
    rw [first] at one ⊢
    simpa using one

end Course

inductive GoesOn (s : Session) (party : Party) (event : SessionEvent) (s' : Session) :
    TurnStage → Prop where
  | waits (stage : TurnStage) (turn : s'.turn = some ⟨party, stage⟩) (asks : s'.asks = s.asks)
      (idle : s.takes event = false) : GoesOn s party event s' stage
  | looksUp (login : LoginToken) (answered : event = .answer (.loggedIn (.ok login)))
      (unknown : login.ttl = 0) (turn : s'.turn = some ⟨party, .lookingUp login⟩)
      (asks : s'.asks = .lookUp login.token :: s.asks) : GoesOn s party event s' .loggingIn
  | reopens (login : LoginToken) (answered : event = .answer (.renewed (.ok login)))
      (exhausted : s.isExhausted login = true)
      (turn : s'.turn = some ⟨party, s.issuer.opening⟩)
      (asks : s'.asks = s.issuer.openingCall :: s.asks) : GoesOn s party event s' .renewing

theorem asks_opening (told : s'.record = .call s.issuer.openingCall :: s.record) :
    s'.asks = s.issuer.openingCall :: s.asks := asks_of_record [_] told

theorem step_goesOn (orderly : s.Orderly) (turn : s.turn = some ⟨party, stage⟩)
    (calling : stage.isCalling = true) (asking : (s.step event).isAsking = true) :
    GoesOn s party event (s.step event) stage := by
  have deed := step_deed orderly event
  generalize s.step event = s' at deed asking
  cases deed with
  | stays _ _ _ same told idle =>
    exact .waits stage (same.trans turn) (asks_of_record [] told) idle
  | told ticket token =>
    exact .waits stage turn (asks_of_record [_] (record_note s rfl)) rfl
  | serves _ own _ enters serving =>
    cases enters with
    | granted _ granted =>
      cases granted.symm.trans turn
      cases calling
    | comes _ _ _ _ free => cases free.symm.trans turn
  | answers own early reply _ waiting expects answering =>
    cases waiting.symm.trans turn
    cases answering with
    | looksUp login _ unknown _ taken told =>
      exact .looksUp login rfl unknown taken (asks_of_record [_] told)
    | gains _ _ _ _ _ _ _ _ through => exact (through.not_asking asking).elim
    | overflows _ _ _ _ _ _ through => exact (through.not_asking asking).elim
    | reopens generation login _ _ exhausted _ taken told =>
      exact .reopens login rfl exhausted taken (asks_opening told)
    | ends _ _ _ _ _ through => exact (through.not_asking asking).elim

theorem Enters.course (enters : s.Enters first party) (other : ∀ ticket, party ≠ .revoker ticket)
    (asking : (s.step first).isAsking = true) :
    ∃ stage asked, (s.step first).turn = some ⟨party, stage⟩ ∧ stage.isCalling = true ∧
      (s.step first).asks = asked ++ s.asks ∧ s.Course stage asked := by
  have serving := enters.serving
  generalize s.step first = s' at serving asking
  cases serving with
  | found _ _ _ _ through => exact (through.not_asking asking).elim
  | opens _ _ _ _ _ turn told =>
    exact ⟨_, _, turn, isCalling_opening _, asks_opening told, .opens⟩
  | renews generation held _ own _ turn told =>
    exact ⟨_, _, turn, rfl, asks_of_record [_] told, .renews held own⟩
  | passes _ _ through => exact (through.not_asking asking).elim
  | revokes ticket => exact (other ticket rfl).elim
  | drops ticket => exact (other ticket rfl).elim

theorem Section.course (orderly : s.Orderly) (other : ∀ ticket, party ≠ .revoker ticket)
    (sec : s.Section party first within) :
    ∃ stage asked, (s.run (first :: within)).turn = some ⟨party, stage⟩ ∧
      stage.isCalling = true ∧ (s.run (first :: within)).asks = asked ++ s.asks ∧
      s.Course stage asked := by
  induction within using List.reverseRecOn with
  | nil => exact sec.enters.course other (sec.asking [] (List.prefix_refl _))
  | append_singleton within event ih =>
    obtain ⟨stage, asked, turn, calling, asks, course⟩ := ih sec.init
    have asking := sec.asking _ (List.prefix_refl _)
    have same := (run_fixed orderly (first :: within)).issuer
    rw [← List.cons_append, run_snoc] at asking ⊢
    have orderly' := run_orderly orderly (first :: within)
    cases step_goesOn orderly' turn calling asking with
    | waits _ turn' asks' => exact ⟨stage, asked, turn', calling, asks'.trans asks, course⟩
    | looksUp login _ _ turn' asks' =>
      refine ⟨_, _, turn', rfl, ?_, .looksUp login asked course⟩
      rw [asks', asks, List.cons_append]
    | reopens login _ _ turn' asks' =>
      obtain ⟨held, own, rfl⟩ := course.renewed
      rw [same] at turn' asks'
      refine ⟨_, _, turn', isCalling_opening _, ?_, .reopens held own⟩
      rw [asks', asks]
      rfl

/-! ### What stays -/

theorem Served.idles {given : Option LoginToken} (served : Served s party given s')
    (other : ∀ ticket, party ≠ .revoker ticket) (asking : s'.isAsking = true) : Idles s s' := by
  have ended : ∀ {s₁ : Session}, Settled s₁ s' → False := by
    intro s₁ settled
    cases settled.calls.2.symm.trans asking
  cases served with
  | settled _ settled => exact (ended settled).elim
  | called stage call metrics fresh plain =>
    refine ⟨rfl, rfl, rfl, rfl, rfl, ?_, fun _ => id⟩
    have none_armed : (SessionEntry.call call).armed? = none := rfl
    simp only [armed, List.filterMap_cons, none_armed, List.filterMap_append, armed_plain plain,
      List.nil_append]
  | failed _ _ _ _ settled => exact (ended settled).elim
  | installed _ _ _ _ _ settled => exact (ended settled).elim
  | dropped _ settled => exact (ended settled).elim
  | revoking ticket token metrics own => exact (other ticket own).elim

theorem Enters.idles (enters : s.Enters event party) (other : ∀ ticket, party ≠ .revoker ticket)
    (asking : (s.step event).isAsking = true) : Idles s (s.step event) := by
  cases enters with
  | granted _ turn =>
    have stepped : s.step .enter = s.serve party := by simp only [step, enter, turn]
    rw [stepped] at asking ⊢
    have served : Served s party none (s.serve party) := serve_served party
    exact served.idles other asking
  | comes _ s₀ _ comes free =>
    have free₀ : s₀.turn = none := by cases comes <;> exact free
    let taken : Session := { s₀ with turn := some ⟨party, .granted⟩ }
    have stepped : s.step event = taken.serve party := by
      rw [comes.step_eq]
      simp only [ask, free₀, taken]
    rw [stepped] at asking ⊢
    have served : Served taken party none (taken.serve party) := serve_served party
    have later := served.idles other asking
    exact (Idles.of_comes comes).trans ⟨later.policy, later.held, later.issued, later.timer,
      later.cancelled, later.armed, later.waits⟩

theorem step_idles (orderly : s.Orderly) (turn : s.turn = some ⟨party, stage⟩)
    (calling : stage.isCalling = true) (other : ∀ ticket, party ≠ .revoker ticket)
    (asking : (s.step event).isAsking = true) : Idles s (s.step event) := by
  have outcome := step_outcome orderly event
  generalize s.step event = s' at outcome asking ⊢
  cases outcome with
  | refused => exact .refl s
  | left _ generation => exact .left s generation
  | queued _ s₀ own busy comes =>
    have idles := Idles.of_comes comes
    exact ⟨idles.policy, idles.held, idles.issued, idles.timer, idles.cancelled, idles.armed,
      idles.waits⟩
  | entered _ s₀ _ own comes free => cases free.symm.trans turn
  | resumed own _ granted =>
    cases granted.symm.trans turn
    cases calling
  | answered own early reply _ waiting expects served =>
    cases waiting.symm.trans turn
    exact served.idles other asking
  | _ => exact ⟨rfl, rfl, rfl, rfl, rfl, rfl, fun _ => id⟩

theorem Section.idles (orderly : s.Orderly) (other : ∀ ticket, party ≠ .revoker ticket)
    (sec : s.Section party first within) : Idles s (s.run (first :: within)) := by
  induction within using List.reverseRecOn with
  | nil => exact sec.enters.idles other (sec.asking [] (List.prefix_refl _))
  | append_singleton within event ih =>
    obtain ⟨stage, _, turn, calling, _⟩ := sec.init.course orderly other
    have asking := sec.asking _ (List.prefix_refl _)
    rw [← List.cons_append, run_snoc] at asking ⊢
    exact (ih sec.init).trans
      (step_idles (run_orderly orderly (first :: within)) turn calling other asking)

end LeaseKeeper.Session

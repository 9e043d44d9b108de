import LeaseKeeper.Proofs.Session.Failures

/-!
Tokens of any validity. What the store gives is put in use with the end of its validity, or without
one where the validity is not known or too long to be counted. A validity that can be counted and
ends beyond the calendar breaks the party off that was given the token: the session stays as it was,
and if the party was a refresh, no task is left for the timer that is still set.
-/
namespace LeaseKeeper.Session

variable {s s' : Session} {party : Party} {stage : TurnStage} {reply : TokenReply}
  {login : LoginToken} {generation ttl : Nat}

def calendarStart : Int := -Span.seconds 8336305296000

def expiry? (s : Session) (ttl : Nat) : Option Int :=
  if ttl ≠ 0 ∧ s.clock + ttl < calendarEnd then some (s.clock + ttl) else none

/-- The validity ends on a date of the calendar, or it has no end as it is not known or too long to
be counted. -/
def Datable (s : Session) (ttl : Nat) : Prop :=
  ttl = 0 ∨ longestTtl < ttl ∨ s.clock + ttl < calendarEnd

theorem calendar_lt_longestTtl : calendarEnd < calendarStart + longestTtl := by decide +kernel

theorem endOf_datable (reading : calendarStart ≤ s.clock) (datable : s.Datable ttl) :
    s.endOf? ttl = some (s.expiry? ttl) := by
  have span := calendar_lt_longestTtl
  unfold endOf? expiry?
  by_cases unknown : ttl = 0
  · simp [unknown]
  by_cases long : longestTtl < ttl
  · have beyond : ¬ s.clock + ttl < calendarEnd := by omega
    simp [long, beyond]
  · have ends : s.clock + ttl < calendarEnd := by
      rcases datable with zero | above | before
      · exact (unknown zero).elim
      · exact (long above).elim
      · exact before
    simp [unknown, long, ends]

theorem endOf_undatable (undatable : ¬ s.Datable ttl) : s.endOf? ttl = none := by
  unfold Datable at undatable
  push Not at undatable
  obtain ⟨known, countable, beyond⟩ := undatable
  unfold endOf?
  rw [if_neg (by omega), if_neg (by omega)]

/-! ### The party that is given a token -/

inductive Finishes (s : Session) (login : LoginToken) : Party → Session → Prop where
  | reader (ticket : Nat) : Finishes s login (.reader ticket) (s.finishLogin ticket login)
  | refresher (generation : Nat) (renewed : Bool) (current : s.generation? = some generation) :
      Finishes s login (.refresher generation) (s.finishRefresh generation login renewed)

theorem obtained_finishes (seeks : party.Seeks s.generation?) (login : LoginToken) :
    Finishes s login party (s.obtained party login) := by
  cases party with
  | reader ticket => exact .reader ticket
  | refresher generation => exact .refresher generation false seeks
  | revoker ticket => exact seeks.elim

theorem answer_finishes (orderly : s.Orderly) (turn : s.turn = some ⟨party, stage⟩)
    (gained : s.gains? stage reply = some login) :
    ∃ s₁, (s₁ = s ∨ ∃ m, s₁ = s.count m) ∧ Finishes s₁ login party (s.answer reply) := by
  have fits := orderly _ turn
  simp only [answer, turn]
  cases stage with
  | loggingIn =>
    cases reply with
    | loggedIn result =>
      cases result with
      | ok given =>
        simp only [gains?] at gained
        split at gained
        · cases gained
        · rename_i known
          obtain rfl := Option.some.inj gained
          refine ⟨s.count (.login s.issuer.method true), Or.inr ⟨_, rfl⟩, ?_⟩
          simp only [loggedIn, if_neg known]
          exact obtained_finishes (s := s.count _) fits given
      | error fault => cases gained
    | _ => cases gained
  | lookingUp given =>
    cases reply with
    | lookedUp result =>
      refine ⟨s, Or.inl rfl, ?_⟩
      cases result with
      | ok found =>
        obtain rfl := Option.some.inj gained
        exact obtained_finishes fits _
      | error fault =>
        obtain rfl := Option.some.inj gained
        exact obtained_finishes fits _
    | _ => cases gained
  | renewing =>
    obtain ⟨generation, rfl, current⟩ := fits
    cases reply with
    | renewed result =>
      cases result with
      | ok given =>
        simp only [gains?] at gained
        split at gained
        · cases gained
        · rename_i useful
          obtain rfl := Option.some.inj gained
          refine ⟨s, Or.inl rfl, ?_⟩
          simp only [renewed, useful]
          exact .refresher generation true current
      | error fault => cases gained
    | _ => cases gained
  | _ => cases reply <;> cases gained

structure PutsInUse (s : Session) (party : Party) (login : LoginToken) (s' : Session) : Prop where
  held : s'.held = some ⟨login.token, s.expiry? login.ttl, login.renewable, s.issued + 1⟩
  told : s'.record = party.told (.token (.ok login.token)) ++ s.record

/-- The party breaks off. The token and its timer stay, and of the refresh that broke off no task is
left. -/
structure BreaksOff (s : Session) (party : Party) (s' : Session) : Prop where
  idles : Idles s s'
  told : s'.record = party.told .crashed ++ s.record
  gone : ∀ generation, party = .refresher generation → Gone s' generation

theorem finishLogin_putsInUse (ticket : Nat) (reading : calendarStart ≤ s.clock)
    (datable : s.Datable login.ttl) :
    PutsInUse s (.reader ticket) login (s.finishLogin ticket login) := by
  have ends := endOf_datable reading datable
  have same := record_install s none login
  rw [install_placed ends (Or.inl rfl)] at same
  constructor
  · exact (finishLogin_placed ticket ends).held.trans (placed_held s login _)
  · simp only [finishLogin, install_placed ends (Or.inl rfl), record_complete, record_emit, same]
    rfl

theorem finishRefresh_putsInUse (current : s.generation? = some generation) (renewed : Bool)
    (reading : calendarStart ≤ s.clock) (datable : s.Datable login.ttl) :
    PutsInUse s (.refresher generation) login (s.finishRefresh generation login renewed) :=
  ⟨(finishRefresh_placed current renewed (endOf_datable reading datable)).held.trans
    (placed_held s login _), record_finishRefresh s generation login renewed⟩

theorem Finishes.putsInUse (finishes : Finishes s login party s')
    (reading : calendarStart ≤ s.clock)
    (datable : s.Datable login.ttl) : PutsInUse s party login s' := by
  cases finishes with
  | reader ticket => exact finishLogin_putsInUse ticket reading datable
  | refresher generation renewed current =>
    exact finishRefresh_putsInUse current renewed reading datable

/-- Without a date for its end the token is not put in use, and the turn is over. -/
theorem Finishes.stops (finishes : Finishes s login party s') (undatable : ¬ s.Datable login.ttl) :
    Settled s s' ∧ s'.record = party.told .crashed ++ s.record ∧ s'.line = s.queue := by
  have overflow := endOf_undatable undatable
  cases finishes with
  | reader ticket =>
    refine ⟨finishLogin_overflow ticket overflow, ?_, ?_⟩
    · simp only [finishLogin, install_overflow overflow]
      exact record_complete s ticket .crashed
    · simp only [finishLogin, install_overflow overflow]
      exact release_line (s.note _)
  | refresher generation renewed =>
    have overflow' : (s.count (.refresh true)).endOf? login.ttl = none := overflow
    refine ⟨finishRefresh_overflow generation renewed overflow,
      record_finishRefresh s generation login renewed, ?_⟩
    simp only [finishRefresh, install_overflow overflow']
    exact release_line (s.count _)

theorem answer_putsInUse (orderly : s.Orderly) (turn : s.turn = some ⟨party, stage⟩)
    (gained : s.gains? stage reply = some login) (reading : calendarStart ≤ s.clock)
    (datable : s.Datable login.ttl) : PutsInUse s party login (s.answer reply) := by
  obtain ⟨s₁, rfl | ⟨m, rfl⟩, finishes⟩ := answer_finishes orderly turn gained
  · exact finishes.putsInUse reading datable
  · obtain ⟨held, told⟩ := finishes.putsInUse reading datable
    exact ⟨held, told⟩

theorem answer_breaksOff (sound : Sound s) (turn : s.turn = some ⟨party, stage⟩)
    (gained : s.gains? stage reply = some login) (undatable : ¬ s.Datable login.ttl) :
    BreaksOff s party (s.answer reply) := by
  obtain ⟨settled, told, line⟩ : Settled s (s.answer reply) ∧
      (s.answer reply).record = party.told .crashed ++ s.record ∧
      (s.answer reply).line = s.queue := by
    obtain ⟨s₁, rfl | ⟨m, rfl⟩, finishes⟩ := answer_finishes sound.orderly turn gained
    · exact finishes.stops undatable
    · obtain ⟨settled, told, line⟩ := finishes.stops undatable
      exact ⟨settled_of_count settled, told, line⟩
  have idles := Idles.of_settled settled
  refine ⟨idles, told, ?_⟩
  rintro generation rfl
  exact gone_of_turn sound turn line idles.issued idles.waits

/-- Whatever validity the store reports with a token, and whenever: the token is put in use exactly
if the end of its validity is a date, or if it has no end. -/
theorem installed_iff_datable (policy : SessionPolicy) (issuer : Issuer)
    (events : List SessionEvent) (party : Party) (stage : TurnStage) (reply : TokenReply)
    (login : LoginToken) :
    let s := (new policy issuer).run events
    let s' := s.step (.answer reply)
    s.turn = some ⟨party, stage⟩ → s.gains? stage reply = some login →
    calendarStart ≤ s.clock →
    (PutsInUse s party login s' ↔ s.Datable login.ttl) ∧
      (¬ s.Datable login.ttl → BreaksOff s party s') := by
  intro s s' turn gained reading
  have sound : Sound s := (sound_new policy issuer).run events
  have breaks : ¬ s.Datable login.ttl → BreaksOff s party s' :=
    answer_breaksOff sound turn gained
  refine ⟨⟨fun used => ?_, answer_putsInUse sound.orderly turn gained reading⟩, breaks⟩
  by_contra undatable
  -- the token would have to have been in use before it was given
  have before : s.held = some _ := (breaks undatable).idles.held.symm.trans used.held
  have known : s.issued + 1 ≤ s.issued := held_generation_le before
  exact Nat.not_succ_le_self _ known

/-- The longest validity that a login at time zero can report and that ends on a date. -/
theorem last_second_installed :
    let login : LoginToken := ⟨⟨"hvs.first"⟩, Span.seconds 8208562809599, true⟩
    let s := (new .default (.store "approle" true)).run [.request 1 .token]
    let s' := s.step (.answer (.loggedIn (.ok login)))
    s'.expiresAt = some (Span.seconds 8208562809599) ∧
      s'.record = .returned 1 (.token (.ok login.token)) :: s.record := by
  intro login s s'
  obtain ⟨installed, _⟩ := installed_iff_datable .default (.store "approle" true)
    [.request 1 .token] (.reader 1) .loggingIn (.loggedIn (.ok login)) login
    (by decide +kernel) (by decide +kernel) (by decide +kernel)
  obtain ⟨held, told⟩ := installed.mpr (Or.inr (Or.inr (by decide +kernel)))
  refine ⟨?_, told⟩
  rw [expiresAt, held]
  decide +kernel

/-- A validity of nine million million seconds can be counted, and ends beyond the calendar: the
login breaks off, and nobody is logged in. -/
theorem login_beyond_calendar :
    let login : LoginToken := ⟨⟨"s.1"⟩, Span.seconds 9000000000000, true⟩
    let s := (new .default (.store "mock" true)).run [.request 1 .token]
    let s' := s.step (.answer (.loggedIn (.ok login)))
    s.gained? (.answer (.loggedIn (.ok login))) = some login ∧ s.clock = 0 ∧
      s'.isLoggedIn = false ∧ s'.valid? = none := by
  decide +kernel

/-- The timer of a refresh that broke off looks as if it were still to come. -/
example :
    let login : LoginToken := ⟨⟨"s.1"⟩, Span.seconds 60, true⟩
    let s := (new .default (.store "mock" true)).run
      [.request 1 .token, .answer (.loggedIn (.ok login)), .pass (Span.seconds 55), .fire 1,
        .answer (.renewed (.ok ⟨login.token, Span.seconds 9000000000000, true⟩))]
    s.isRefreshScheduled = true ∧ s.waits = [] ∧ s.turn = none := by
  decide +kernel

end LeaseKeeper.Session

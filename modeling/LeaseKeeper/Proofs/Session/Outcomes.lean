import LeaseKeeper.Session.Step

/-!
What a step of a session does. A party that has the turn either gives it up, perhaps with another
token in use or with none, or keeps it for a call to the store. Whoever else comes is told something
or waits. One lemma for each activity, in the order of their definitions.
-/
namespace LeaseKeeper

def SessionEntry.isAside : SessionEntry → Bool
  | .call _ => false
  | .armed _ _ => false
  | _ => true

namespace TurnStage

def isCalling : TurnStage → Bool
  | .granted => false
  | _ => true

def expects : TurnStage → TokenReply → Bool
  | .loggingIn, .loggedIn _ => true
  | .lookingUp _, .lookedUp _ => true
  | .renewing, .renewed _ => true
  | .revoking, .revoked _ => true
  | _, _ => false

theorem isCalling_of_expects {stage : TurnStage} {reply : TokenReply}
    (expects : stage.expects reply = true) : stage.isCalling = true := by
  cases stage with
  | granted => cases reply <;> cases expects
  | _ => rfl

end TurnStage

/-- The party may log in: a refresh only while the token it is for is in use. -/
def Party.Seeks (generation? : Option Nat) : Party → Prop
  | .reader _ => True
  | .refresher generation => generation? = some generation
  | .revoker _ => False

def Turn.Fits (generation? : Option Nat) (turn : Turn) : Prop :=
  match turn.stage with
  | .granted => True
  | .loggingIn => turn.party.Seeks generation?
  | .lookingUp _ => turn.party.Seeks generation?
  | .renewing => ∃ generation, turn.party = .refresher generation ∧ generation? = some generation
  | .revoking => ∃ ticket, turn.party = .revoker ticket

namespace Session

variable {s s₁ s' : Session} {party : Party} {given : Option LoginToken}

def Orderly (s : Session) : Prop := ∀ turn, s.turn = some turn → turn.Fits s.generation?

inductive Aside (s : Session) : Session → Prop where
  | told (metrics : Metrics) (fresh : List (Nat × SessionEntry))
      (plain : ∀ entry ∈ fresh, entry.2.isAside = true) :
      Aside s { s with metrics, journal := fresh ++ s.journal }

namespace Aside

theorem refl (s : Session) : Aside s s := .told s.metrics [] nofun

theorem note (s : Session) {entry : SessionEntry} (plain : entry.isAside = true) :
    Aside s (s.note entry) := by
  refine .told s.metrics [(s.now, entry)] ?_
  intro other member
  obtain rfl := List.mem_singleton.mp member
  exact plain

theorem count (s : Session) (m : Measure) : Aside s (s.count m) := .told _ [] nofun

end Aside

inductive Settled (s : Session) : Session → Prop where
  | passed (turn : Option Turn) (queue : List Party) (metrics : Metrics)
      (fresh : List (Nat × SessionEntry)) (plain : ∀ entry ∈ fresh, entry.2.isAside = true)
      (granted : ∀ own, turn = some own → own.stage = .granted)
      (last : turn = none → queue = []) :
      Settled s { s with turn, queue, metrics, journal := fresh ++ s.journal }

theorem release_settled (s : Session) : Settled s s.release := by
  unfold release
  split
  · rename_i empty
    exact .passed none s.queue s.metrics [] nofun nofun fun _ => empty
  · rename_i party queue waiting
    refine .passed (some ⟨party, .granted⟩) queue s.metrics [(s.now, .granted party)] ?_ ?_ nofun
    · intro entry member
      obtain rfl := List.mem_singleton.mp member
      rfl
    · intro own same
      obtain rfl := Option.some.inj same
      rfl

theorem Settled.after (aside : Aside s s₁) (settled : Settled s₁ s') : Settled s s' := by
  cases aside with
  | told metrics early plain =>
    cases settled with
    | passed turn queue metrics' late plain' granted last =>
      have both : ∀ entry ∈ late ++ early, entry.2.isAside = true := by
        intro entry member
        rcases List.mem_append.mp member with new | old
        · exact plain' entry new
        · exact plain entry old
      have passed := Settled.passed (s := s) turn queue metrics' (late ++ early) both granted last
      rwa [List.append_assoc] at passed

theorem complete_settled (s : Session) (ticket : Nat) (answer : SessionAnswer) :
    Settled s (s.complete ticket answer) :=
  .after (.note s rfl) (release_settled _)

/-! ### The token in use -/

theorem cancelRefresh_eq (s : Session) :
    s.cancelRefresh = { s with timer := none, cancelled := s.timer.toList ++ s.cancelled } := by
  obtain ⟨_, _, _, _, _, _, _, timer, _, _, _, _, _, _, _⟩ := s
  cases timer <;> rfl

def emptied (s : Session) : Session :=
  { s with held := none, timer := none, cancelled := s.timer.toList ++ s.cancelled }

def replaced (s : Session) (login : LoginToken) (expiresAt : Option Int) : Session :=
  { s with
    issued := s.issued + 1
    held := some ⟨login.token, expiresAt, login.renewable, s.issued + 1⟩
    timer := none
    cancelled := s.timer.toList ++ s.cancelled }

def timed (s : Session) (delay : Nat) : Session :=
  { s with
    timer := some s.issued
    waits := s.waits ++ [(s.issued, s.now + delay)]
    journal := (s.now, .armed s.issued (s.now + delay)) :: s.journal }

/-- A token is refreshed when it ends some time, but not too soon. -/
def isRefreshed (s : Session) (login : LoginToken) (expiresAt : Option Int) : Bool :=
  expiresAt.isSome && s.policy.threshold ≤ login.ttl

def placed (s : Session) (login : LoginToken) (expiresAt : Option Int) : Session :=
  if s.isRefreshed login expiresAt then
    (s.replaced login expiresAt).timed (login.ttl - s.policy.lead)
  else s.replaced login expiresAt

theorem install_overflow {expected : Option Nat} {login : LoginToken}
    (overflow : s.endOf? login.ttl = none) : s.install expected login = (s, .overflow) := by
  simp only [install, overflow]

theorem install_placed {expected : Option Nat} {login : LoginToken} {expiresAt : Option Int}
    (ends : s.endOf? login.ttl = some expiresAt)
    (own : expected = none ∨ s.generation? = expected) :
    s.install expected login = (s.placed login expiresAt, .installed expiresAt) := by
  have current : (expected.isSome && s.generation? != expected) = false := by
    rcases own with rfl | same
    · rfl
    · simp [same]
  simp only [install, ends, cancelRefresh_eq, arm]
  rw [if_neg (ne_true_of_eq_false current)]
  unfold placed isRefreshed
  split <;> rfl

theorem placed_count (s : Session) (m : Measure) (login : LoginToken) (expiresAt : Option Int) :
    (s.count m).placed login expiresAt = (s.placed login expiresAt).count m := by
  have same : (s.count m).isRefreshed login expiresAt = s.isRefreshed login expiresAt := rfl
  simp only [placed, same]
  cases s.isRefreshed login expiresAt <;> rfl

/-! ### What a party does with its turn -/

inductive Served (s : Session) (party : Party) (given : Option LoginToken) : Session → Prop where
  | settled (s' : Session) (settled : Settled s s') : Served s party given s'
  | called (stage : TurnStage) (call : TokenCall) (metrics : Metrics)
      (fresh : List (Nat × SessionEntry)) (plain : ∀ entry ∈ fresh, entry.2.isAside = true)
      (calling : stage.isCalling = true) (fits : Turn.Fits s.generation? ⟨party, stage⟩) :
      Served s party given { s with
        turn := some ⟨party, stage⟩
        metrics
        journal := (s.now, .call call) :: (fresh ++ s.journal) }
  | failed (s' : Session) (generation : Nat) (own : party = .refresher generation)
      (current : s.generation? = some generation) (settled : Settled s.cancelRefresh s') :
      Served s party given s'
  | installed (s' : Session) (login : LoginToken) (expiresAt : Option Int)
      (obtained : given = some login) (ends : s.endOf? login.ttl = some expiresAt)
      (settled : Settled (s.placed login expiresAt) s') : Served s party given s'
  | dropped (s' : Session) (settled : Settled s.emptied s') : Served s party given s'
  | revoking (ticket : Nat) (token : Hidden) (metrics : Metrics) (own : party = .revoker ticket) :
      Served s party given { s.emptied with
        turn := some ⟨party, .revoking⟩
        metrics
        journal := (s.now, .call (.revoke token)) :: s.journal }

theorem settled_of_count {m : Measure} (settled : Settled (s.count m) s') : Settled s s' :=
  .after (.count s m) settled

theorem authenticate_served (aside : Aside s s₁) (seeks : party.Seeks s.generation?) :
    Served s party given (s₁.authenticate party) := by
  cases aside with
  | told metrics fresh plain =>
    unfold authenticate
    split
    · exact .called _ _ _ fresh plain rfl seeks
    · exact .called .loggingIn .login metrics fresh plain rfl seeks

section
variable {login : LoginToken} {expiresAt : Option Int}

theorem finishLogin_placed (ticket : Nat) (ends : s.endOf? login.ttl = some expiresAt) :
    Settled (s.placed login expiresAt) (s.finishLogin ticket login) := by
  unfold finishLogin
  rw [install_placed ends (Or.inl rfl)]
  exact .after (.note _ rfl) (complete_settled _ ticket _)

theorem finishLogin_overflow (ticket : Nat) (overflow : s.endOf? login.ttl = none) :
    Settled s (s.finishLogin ticket login) := by
  unfold finishLogin
  rw [install_overflow overflow]
  exact complete_settled s ticket _

theorem finishRefresh_placed {generation : Nat} (current : s.generation? = some generation)
    (renewed : Bool) (ends : s.endOf? login.ttl = some expiresAt) :
    Settled (s.placed login expiresAt) (s.finishRefresh generation login renewed) := by
  have ends' : (s.count (.refresh true)).endOf? login.ttl = some expiresAt := ends
  unfold finishRefresh
  rw [install_placed ends' (Or.inr current), placed_count]
  exact settled_of_count (.after (.note _ (by split <;> rfl)) (release_settled _))

theorem finishRefresh_overflow (generation : Nat) (renewed : Bool)
    (overflow : s.endOf? login.ttl = none) :
    Settled s (s.finishRefresh generation login renewed) := by
  have overflow' : (s.count (.refresh true)).endOf? login.ttl = none := overflow
  unfold finishRefresh
  rw [install_overflow overflow']
  exact settled_of_count (release_settled _)

theorem obtained_placed (seeks : party.Seeks s.generation?)
    (ends : s.endOf? login.ttl = some expiresAt) :
    Settled (s.placed login expiresAt) (s.obtained party login) := by
  cases party with
  | reader ticket => exact finishLogin_placed ticket ends
  | refresher generation => exact finishRefresh_placed seeks false ends
  | revoker ticket => exact seeks.elim

theorem obtained_overflow (seeks : party.Seeks s.generation?)
    (overflow : s.endOf? login.ttl = none) : Settled s (s.obtained party login) := by
  cases party with
  | reader ticket => exact finishLogin_overflow ticket overflow
  | refresher generation => exact finishRefresh_overflow generation false overflow
  | revoker ticket => exact seeks.elim

end

theorem obtained_served (seeks : party.Seeks s.generation?) (login : LoginToken) :
    Served s party (some login) (s.obtained party login) := by
  cases ends : s.endOf? login.ttl with
  | none => exact .settled _ (obtained_overflow seeks ends)
  | some expiresAt => exact .installed _ login expiresAt rfl ends (obtained_placed seeks ends)

theorem failRefresh_settled (fault : Fault) : Settled s.cancelRefresh (s.failRefresh fault) := by
  have counted : (s.count (.refresh false)).cancelRefresh =
      s.cancelRefresh.count (.refresh false) := by
    rw [cancelRefresh_eq, cancelRefresh_eq]
    rfl
  unfold failRefresh
  rw [counted]
  exact settled_of_count (.after (.note _ rfl) (release_settled _))

theorem failRefresh_served {generation : Nat} (current : s.generation? = some generation)
    (fault : Fault) : Served s (.refresher generation) given (s.failRefresh fault) :=
  .failed _ generation rfl current (failRefresh_settled fault)

theorem read_served (ticket : Nat) : Served s (.reader ticket) given (s.read ticket) := by
  unfold read
  split
  · exact .settled _ (complete_settled s ticket _)
  · exact authenticate_served (.refl s) trivial

theorem revoke_served (ticket : Nat) : Served s (.revoker ticket) given (s.revoke ticket) := by
  have taken : { s.cancelRefresh with held := none } = s.emptied := by
    rw [cancelRefresh_eq]
    rfl
  simp only [revoke, taken]
  split
  · exact .dropped _ (complete_settled s.emptied ticket _)
  · split
    · exact .revoking ticket _ s.metrics rfl
    · exact .dropped _ (complete_settled s.emptied ticket _)

theorem refresh_served (generation : Nat) :
    Served s (.refresher generation) given (s.refresh generation) := by
  unfold refresh
  cases held : s.held with
  | none => exact .settled _ (release_settled s)
  | some token =>
    dsimp only
    by_cases own : token.generation = generation
    · have current : s.generation? = some generation := by simp [generation?, held, own]
      rw [if_pos own]
      split
      · exact .called .renewing _ s.metrics [] nofun rfl ⟨generation, rfl, current⟩
      · exact authenticate_served (.refl s) current
    · rw [if_neg own]
      exact .settled _ (release_settled s)

theorem serve_served (party : Party) : Served s party given (s.serve party) := by
  cases party with
  | reader ticket => exact read_served ticket
  | revoker ticket => exact revoke_served ticket
  | refresher generation => exact refresh_served generation

/-! ### Answers -/

/-- The token that a reply gives to the party that asked, when its validity is known as far as it
can be known, and it is not exhausted. -/
def gains? (s : Session) : TurnStage → TokenReply → Option LoginToken
  | .loggingIn, .loggedIn (.ok login) => if login.ttl = 0 then none else some login
  | .lookingUp login, .lookedUp (.ok found) => some ⟨login.token, found.ttl, found.renewable⟩
  | .lookingUp login, .lookedUp (.error _) => some login
  | .renewing, .renewed (.ok login) => if s.isExhausted login then none else some login
  | _, _ => none

theorem Served.after_count {m : Measure} (served : Served (s.count m) party given s') :
    Served s party given s' := by
  cases served with
  | settled _ settled => exact .settled s' (settled_of_count settled)
  | called stage call metrics fresh plain calling fits =>
    exact .called stage call metrics fresh plain calling fits
  | failed _ generation own current settled =>
    rw [cancelRefresh_eq] at settled
    refine .failed s' generation own current (settled_of_count (m := m) ?_)
    rwa [cancelRefresh_eq]
  | installed _ login expiresAt obtained ends settled =>
    rw [placed_count] at settled
    exact .installed s' login expiresAt obtained ends (settled_of_count settled)
  | dropped _ settled => exact .dropped s' (settled_of_count (m := m) settled)
  | revoking ticket token metrics own => exact .revoking ticket token metrics own

theorem loggedIn_served (seeks : party.Seeks s.generation?) (login : LoginToken) :
    Served s party (if login.ttl = 0 then none else some login) (s.loggedIn party login) := by
  unfold loggedIn
  dsimp only
  split
  · exact .called (.lookingUp login) _ _ [] nofun rfl seeks
  · exact (obtained_served (s := s.count (.login s.issuer.method true)) seeks login).after_count

theorem loggedIn_placed {login : LoginToken} {expiresAt : Option Int}
    (seeks : party.Seeks s.generation?) (known : login.ttl ≠ 0)
    (ends : s.endOf? login.ttl = some expiresAt) :
    Settled (s.placed login expiresAt) (s.loggedIn party login) := by
  have ends' : (s.count (.login s.issuer.method true)).endOf? login.ttl = some expiresAt := ends
  have placed := obtained_placed (s := s.count (.login s.issuer.method true)) seeks ends'
  rw [placed_count] at placed
  simp only [loggedIn, if_neg known]
  exact settled_of_count placed

theorem loginFailed_served (seeks : party.Seeks s.generation?) (fault : Fault) :
    Served s party given (s.loginFailed party fault) := by
  unfold loginFailed
  cases party with
  | reader ticket => exact .settled _ (settled_of_count (complete_settled _ ticket _))
  | refresher generation =>
    exact (failRefresh_served (s := s.count (.login s.issuer.method false)) seeks fault).after_count
  | revoker ticket => exact seeks.elim

theorem lookedUp_served (seeks : party.Seeks s.generation?) (login : LoginToken)
    (result : Except Fault TokenLookup) :
    Served s party (s.gains? (.lookingUp login) (.lookedUp result))
      (s.lookedUp party login result) := by
  cases result with
  | ok found => exact obtained_served seeks _
  | error fault => exact obtained_served seeks login

theorem renewed_served {generation : Nat} (current : s.generation? = some generation)
    (result : Except Fault LoginToken) :
    Served s (.refresher generation) (s.gains? .renewing (.renewed result))
      (s.renewed (.refresher generation) generation result) := by
  cases result with
  | error fault => exact failRefresh_served current fault
  | ok login =>
    simp only [renewed, gains?]
    split
    · exact authenticate_served (.note s rfl) current
    · cases ends : s.endOf? login.ttl with
      | none => exact .settled _ (finishRefresh_overflow generation true ends)
      | some expiresAt =>
        exact .installed _ login expiresAt rfl ends (finishRefresh_placed current true ends)

theorem answer_served {stage : TurnStage} (orderly : s.Orderly)
    (turn : s.turn = some ⟨party, stage⟩) (reply : TokenReply) :
    stage.expects reply = true ∧ Served s party (s.gains? stage reply) (s.answer reply) ∨
      stage.expects reply = false ∧ s.answer reply = s := by
  have fits := orderly _ turn
  simp only [answer, turn]
  cases stage with
  | granted => exact Or.inr ⟨rfl, rfl⟩
  | loggingIn =>
    cases reply with
    | loggedIn result =>
      cases result with
      | ok login => exact Or.inl ⟨rfl, loggedIn_served fits login⟩
      | error fault => exact Or.inl ⟨rfl, loginFailed_served fits fault⟩
    | _ => exact Or.inr ⟨rfl, rfl⟩
  | lookingUp login =>
    cases reply with
    | lookedUp result => exact Or.inl ⟨rfl, lookedUp_served fits login result⟩
    | _ => exact Or.inr ⟨rfl, rfl⟩
  | renewing =>
    obtain ⟨generation, rfl, current⟩ := fits
    cases reply with
    | renewed result => exact Or.inl ⟨rfl, renewed_served current result⟩
    | _ => exact Or.inr ⟨rfl, rfl⟩
  | revoking =>
    obtain ⟨ticket, rfl⟩ := fits
    cases reply with
    | revoked result =>
      refine Or.inl ⟨rfl, .settled _ ?_⟩
      cases result with
      | ok _ => exact .after (.note s rfl) (complete_settled _ ticket _)
      | error fault => exact complete_settled s ticket _
    | _ => exact Or.inr ⟨rfl, rfl⟩

theorem answer_placed {stage : TurnStage} {reply : TokenReply} {login : LoginToken}
    {expiresAt : Option Int} (orderly : s.Orderly) (turn : s.turn = some ⟨party, stage⟩)
    (gained : s.gains? stage reply = some login) (ends : s.endOf? login.ttl = some expiresAt) :
    Settled (s.placed login expiresAt) (s.answer reply) := by
  have fits := orderly _ turn
  simp only [answer, turn]
  cases stage with
  | loggingIn =>
    cases reply with
    | loggedIn result =>
      cases result with
      | ok given =>
        simp only [gains?] at gained
        split at gained
        · cases gained
        · rename_i timely
          obtain rfl := Option.some.inj gained
          exact loggedIn_placed fits timely ends
      | error fault => cases gained
    | _ => cases gained
  | lookingUp given =>
    cases reply with
    | lookedUp result =>
      cases result with
      | ok found =>
        obtain rfl := Option.some.inj gained
        exact obtained_placed fits ends
      | error fault =>
        obtain rfl := Option.some.inj gained
        exact obtained_placed fits ends
    | _ => cases gained
  | renewing =>
    obtain ⟨generation, rfl, current⟩ := fits
    cases reply with
    | renewed result =>
      cases result with
      | ok given =>
        simp only [gains?] at gained
        split at gained
        · cases gained
        · rename_i useful
          obtain rfl := Option.some.inj gained
          simp only [renewed, useful]
          exact finishRefresh_placed current true ends
      | error fault => cases gained
    | _ => cases gained
  | _ => cases reply <;> cases gained

/-! ### Whole steps -/

def takes (s : Session) : SessionEvent → Bool
  | .answer reply => s.turn.any (·.stage.expects reply)
  | _ => false

def left (s : Session) (generation : Nat) : Session :=
  { s with waits := s.waits.filter (·.1 != generation) }

inductive Comes (s : Session) : SessionEvent → Session → Party → Prop where
  | revoker (ticket : Nat) : Comes s (.request ticket .revoke) s (.revoker ticket)
  | reader (ticket : Nat) (invalid : s.valid? = none) :
      Comes s (.request ticket .token) s (.reader ticket)
  | refresher (generation due : Nat) (waiting : s.waits.lookup generation = some due)
      (ripe : due ≤ s.now) (held : s.isHeld = true) :
      Comes s (.fire generation) (s.left generation) (.refresher generation)

inductive Outcome (s : Session) : SessionEvent → Session → Prop where
  | refused (event : SessionEvent) (idle : s.takes event = false) : Outcome s event s
  | told (ticket : Nat) (token : Hidden) (valid : s.valid? = some token) :
      Outcome s (.request ticket .token) (s.note (.returned ticket (.token (.ok token))))
  | passed (span : Nat) : Outcome s (.pass span) { s with now := s.now + span }
  | shifted (change : Int) : Outcome s (.shift change) { s with skew := s.skew + change }
  | disowned : Outcome s .disown { s with owned := false }
  | left (event : SessionEvent) (generation : Nat)
      (own : event = .stop generation ∨ event = .fire generation ∧ s.isHeld = false) :
      Outcome s event (s.left generation)
  | queued (event : SessionEvent) (s₀ : Session) (party : Party) (turn : Turn)
      (comes : s.Comes event s₀ party) (busy : s.turn = some turn) :
      Outcome s event { s₀ with queue := s₀.queue ++ [party] }
  | entered (event : SessionEvent) (s₀ s' : Session) (party : Party)
      (comes : s.Comes event s₀ party) (free : s.turn = none)
      (served : Served { s₀ with turn := some ⟨party, .granted⟩ } party none s') :
      Outcome s event s'
  | resumed (party : Party) (s' : Session) (turn : s.turn = some ⟨party, .granted⟩)
      (served : Served s party none s') : Outcome s .enter s'
  | answered (party : Party) (stage : TurnStage) (reply : TokenReply) (s' : Session)
      (turn : s.turn = some ⟨party, stage⟩) (expects : stage.expects reply = true)
      (served : Served s party (s.gains? stage reply) s') : Outcome s (.answer reply) s'

theorem Comes.outcome {event : SessionEvent} {s₀ : Session} (comes : s.Comes event s₀ party) :
    Outcome s event (s₀.ask party) := by
  have same : s₀.turn = s.turn := by cases comes <;> rfl
  cases turn : s.turn with
  | none =>
    have asked : s₀.ask party = { s₀ with turn := some ⟨party, .granted⟩ }.serve party := by
      simp only [ask, same.trans turn]
    rw [asked]
    exact .entered event s₀ _ party comes turn (serve_served party)
  | some own =>
    have asked : s₀.ask party = { s₀ with queue := s₀.queue ++ [party] } := by
      simp only [ask, same.trans turn]
    rw [asked]
    exact .queued event s₀ party own comes turn

theorem step_outcome (orderly : s.Orderly) (event : SessionEvent) :
    Outcome s event (s.step event) := by
  cases event with
  | request ticket request =>
    cases request with
    | revoke => exact Comes.outcome (.revoker ticket)
    | token =>
      simp only [step, Session.request]
      cases valid : s.valid? with
      | some token => exact .told ticket token valid
      | none => exact Comes.outcome (.reader ticket valid)
  | enter =>
    simp only [step, enter]
    split
    · rename_i party turn
      exact .resumed party _ turn (serve_served party)
    · exact .refused _ rfl
  | answer reply =>
    cases turn : s.turn with
    | none =>
      have refused : s.step (.answer reply) = s := by simp only [step, answer, turn]
      rw [refused]
      exact .refused _ (by simp [takes, turn])
    | some own =>
      obtain ⟨party, stage⟩ := own
      rcases answer_served orderly turn reply with ⟨expects, served⟩ | ⟨unexpected, refused⟩
      · exact .answered party stage reply _ turn expects served
      · have same : s.step (.answer reply) = s := refused
        rw [same]
        exact .refused _ (by simp [takes, turn, unexpected])
  | fire generation =>
    simp only [step, fire]
    cases waiting : s.waits.lookup generation with
    | none => exact .refused _ rfl
    | some due =>
      dsimp only
      by_cases ripe : due ≤ s.now
      · rw [if_pos ripe]
        cases held : s.isHeld with
        | true => exact Comes.outcome (.refresher generation due waiting ripe held)
        | false => exact .left _ generation (Or.inr ⟨rfl, held⟩)
      · rw [if_neg ripe]
        exact .refused _ rfl
  | stop generation =>
    simp only [step, stop]
    split
    · exact .left _ generation (Or.inl rfl)
    · exact .refused _ rfl
  | pass span => exact .passed span
  | shift change => exact .shifted change
  | disown => exact .disowned

end Session
end LeaseKeeper

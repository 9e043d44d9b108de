import LeaseKeeper.Proofs.Session.Turns

/-!
What a step of a session puts on record: a request is given its answer, or the store is asked for
something, by the party whose turn it is. A step does one of the two at most.
-/
namespace LeaseKeeper

def SessionEntry.isRecord : SessionEntry → Bool
  | .call _ => true
  | .returned _ _ => true
  | _ => false

namespace Issuer

def opening : Issuer → TurnStage
  | supplied token => .lookingUp (.of token)
  | store _ _ => .loggingIn

def openingCall : Issuer → TokenCall
  | supplied token => .lookUp token
  | store _ _ => .login

end Issuer

/-- What an answer to the party puts on record. A refresh has nobody to answer. -/
def Party.told (party : Party) (answer : SessionAnswer) : List SessionEntry :=
  match party with
  | .reader ticket => [.returned ticket answer]
  | .revoker ticket => [.returned ticket answer]
  | .refresher _ => []

namespace Session

variable {s s₁ s' : Session} {party : Party} {event : SessionEvent} {login : LoginToken}
  {stage : TurnStage} {reply : TokenReply}

def record (s : Session) : List SessionEntry := (s.journal.map Prod.snd).filter (·.isRecord)

/-- What is read from the record may as well be read from the journal. -/
theorem filterMap_record {α : Type} {read? : SessionEntry → Option α}
    (apart : ∀ entry, entry.isRecord = false → read? entry = none) (s : Session) :
    s.journal.filterMap (fun entry => read? entry.2) = s.record.filterMap read? := by
  rw [record, List.filterMap_filter, List.filterMap_map]
  congr 1
  funext ⟨time, entry⟩
  cases kept : entry.isRecord with
  | true => simp [kept]
  | false => simp [kept, apart entry kept]

/-! ### The record of each activity -/

section
variable (s)

theorem record_note {entry : SessionEntry} (kept : entry.isRecord = true) :
    (s.note entry).record = entry :: s.record := by
  simp [record, note, kept]

@[simp] theorem record_note_of_not {entry : SessionEntry} (kept : entry.isRecord = false) :
    (s.note entry).record = s.record := by
  simp [record, note, kept]

@[simp] theorem record_emit (e : TokenEvent) : (s.emit e).record = s.record :=
  record_note_of_not s rfl

@[simp] theorem record_count (m : Measure) : (s.count m).record = s.record := rfl

@[simp] theorem record_release : s.release.record = s.record := by
  unfold release
  split
  · rfl
  · exact record_note_of_not _ rfl

@[simp] theorem record_complete (ticket : Nat) (answer : SessionAnswer) :
    (s.complete ticket answer).record = .returned ticket answer :: s.record := by
  rw [complete, record_release, record_note s rfl]

@[simp] theorem record_call (party : Party) (stage : TurnStage) (call : TokenCall) :
    (s.call party stage call).record = .call call :: s.record := record_note _ rfl

@[simp] theorem record_cancelRefresh : s.cancelRefresh.record = s.record := by
  rw [cancelRefresh_eq]
  rfl

@[simp] theorem record_arm (generation delay : Nat) :
    (s.arm generation delay).record = s.record := by
  refine (record_note_of_not _ rfl).trans ?_
  exact record_cancelRefresh s

@[simp] theorem record_install (expected : Option Nat) (login : LoginToken) :
    (s.install expected login).1.record = s.record := by
  unfold install
  split
  · rfl
  · dsimp only
    split
    · rfl
    · split
      · exact (record_arm _ _ _).trans (record_cancelRefresh _)
      · exact record_cancelRefresh _

end

theorem record_finishRefresh (s : Session) (generation : Nat) (login : LoginToken)
    (renewed : Bool) : (s.finishRefresh generation login renewed).record = s.record := by
  have installed := record_install (s.count (.refresh true)) (some generation) login
  unfold finishRefresh
  generalize (s.count (.refresh true)).install (some generation) login = outcome at installed
  obtain ⟨s₁, expiresAt | _ | _⟩ := outcome <;> simpa using installed

theorem record_failRefresh (s : Session) (fault : Fault) :
    (s.failRefresh fault).record = s.record := by
  simp [failRefresh]

/-! ### What a party does with its turn -/

structure Over (s s' : Session) : Prop where
  held : s'.held = s.held
  clock : s'.clock = s.clock
  asking : s'.isAsking = false

theorem Over.of_settled (settled : Settled s s') : Over s s' := by
  refine ⟨settled.held, ?_, settled.calls.2⟩
  cases settled
  rfl

theorem Over.of_cancelled (through : Over s.cancelRefresh s') : Over s s' := by
  rw [cancelRefresh_eq] at through
  exact ⟨through.held, through.clock, through.asking⟩

theorem release_over (s : Session) : Over s s.release := .of_settled (release_settled s)

theorem complete_over (s : Session) (ticket : Nat) (answer : SessionAnswer) :
    Over s (s.complete ticket answer) := .of_settled (complete_settled s ticket answer)

/-- What a party does when it takes up its turn. -/
inductive Serving (s : Session) : Party → Session → Prop where
  | found (ticket : Nat) (token : Hidden) (s' : Session) (valid : s.valid? = some token)
      (through : Over s s') (told : s'.record = .returned ticket (.token (.ok token)) :: s.record) :
      Serving s (.reader ticket) s'
  | opens (party : Party) (s' : Session) (seeker : ∀ ticket, party ≠ .revoker ticket)
      (needed : ∀ ticket, party = .reader ticket → s.valid? = none)
      (held : s'.held = s.held) (turn : s'.turn = some ⟨party, s.issuer.opening⟩)
      (told : s'.record = .call s.issuer.openingCall :: s.record) : Serving s party s'
  | renews (generation : Nat) (held : HeldToken) (s' : Session) (own : s.held = some held)
      (kept : s'.held = s.held) (turn : s'.turn = some ⟨.refresher generation, .renewing⟩)
      (told : s'.record = .call (.renew held.token) :: s.record) :
      Serving s (.refresher generation) s'
  | passes (generation : Nat) (s' : Session) (through : Over s s')
      (told : s'.record = s.record) : Serving s (.refresher generation) s'
  | revokes (ticket : Nat) (held : HeldToken) (s' : Session) (own : s.held = some held)
      (owns : s.issuer.ownsToken = true) (emptied : s'.held = none)
      (turn : s'.turn = some ⟨.revoker ticket, .revoking⟩)
      (told : s'.record = .call (.revoke held.token) :: s.record) :
      Serving s (.revoker ticket) s'
  | drops (ticket : Nat) (s' : Session) (through : Over s.emptied s')
      (told : s'.record = .returned ticket .done :: s.record) : Serving s (.revoker ticket) s'

theorem authenticate_opens (s : Session) (party : Party) :
    (s.authenticate party).turn = some ⟨party, s.issuer.opening⟩ ∧
      (s.authenticate party).held = s.held ∧
      (s.authenticate party).record = .call s.issuer.openingCall :: s.record := by
  unfold authenticate
  cases s.issuer with
  | supplied token => exact ⟨rfl, rfl, record_call _ party _ _⟩
  | store method owned => exact ⟨rfl, rfl, record_call s party _ _⟩

theorem read_serving (s : Session) (ticket : Nat) : Serving s (.reader ticket) (s.read ticket) := by
  unfold read
  split
  · rename_i token valid
    exact .found ticket token _ valid (complete_over s ticket _) (record_complete s ticket _)
  · rename_i invalid
    obtain ⟨turn, held, told⟩ := authenticate_opens s (.reader ticket)
    exact .opens _ _ nofun (fun _ _ => invalid) held turn told

theorem revoke_serving (s : Session) (ticket : Nat) :
    Serving s (.revoker ticket) (s.revoke ticket) := by
  have taken : { s.cancelRefresh with held := none } = s.emptied := by
    rw [cancelRefresh_eq]
    rfl
  have dropped : Serving s (.revoker ticket) (s.emptied.complete ticket .done) :=
    .drops ticket _ (complete_over _ ticket _) (record_complete s.emptied ticket .done)
  simp only [revoke, taken]
  cases own : s.held with
  | none => exact dropped
  | some held =>
    dsimp only
    cases owns : s.issuer.ownsToken with
    | false => exact dropped
    | true => exact .revokes ticket held _ own owns rfl rfl (record_call s.emptied _ _ _)

theorem refresh_serving (s : Session) (generation : Nat) :
    Serving s (.refresher generation) (s.refresh generation) := by
  have passed : Serving s (.refresher generation) s.release :=
    .passes generation _ (release_over s) (record_release s)
  unfold refresh
  cases own : s.held with
  | none => exact passed
  | some held =>
    dsimp only
    split
    · split
      · exact .renews generation held _ own rfl rfl (record_call s _ _ _)
      · obtain ⟨turn, kept, told⟩ := authenticate_opens s (.refresher generation)
        exact .opens _ _ nofun (fun _ same => nomatch same) kept turn told
    · exact passed

theorem serve_serving (s : Session) (party : Party) : Serving s party (s.serve party) := by
  cases party with
  | reader ticket => exact read_serving s ticket
  | revoker ticket => exact revoke_serving s ticket
  | refresher generation => exact refresh_serving s generation

/-! ### What follows from an answer -/

inductive Answering (s : Session) (party : Party) : TurnStage → TokenReply → Session → Prop where
  | looksUp (login : LoginToken) (s' : Session) (unknown : login.ttl = 0)
      (held : s'.held = s.held) (turn : s'.turn = some ⟨party, .lookingUp login⟩)
      (told : s'.record = .call (.lookUp login.token) :: s.record) :
      Answering s party .loggingIn (.loggedIn (.ok login)) s'
  | gains (stage : TurnStage) (reply : TokenReply) (login : LoginToken) (expiresAt : Option Int)
      (s' : Session) (seeks : party.Seeks s.generation?)
      (gained : s.gains? stage reply = some login)
      (ends : s.endOf? login.ttl = some expiresAt) (through : Over (s.placed login expiresAt) s')
      (told : s'.record = party.told (.token (.ok login.token)) ++ s.record) :
      Answering s party stage reply s'
  | overflows (stage : TurnStage) (reply : TokenReply) (login : LoginToken) (s' : Session)
      (gained : s.gains? stage reply = some login) (overflow : s.endOf? login.ttl = none)
      (through : Over s s') (told : s'.record = party.told .crashed ++ s.record) :
      Answering s party stage reply s'
  | reopens (generation : Nat) (login : LoginToken) (s' : Session)
      (own : party = .refresher generation) (exhausted : s.isExhausted login = true)
      (held : s'.held = s.held) (turn : s'.turn = some ⟨party, s.issuer.opening⟩)
      (told : s'.record = .call s.issuer.openingCall :: s.record) :
      Answering s party .renewing (.renewed (.ok login)) s'
  | ends (stage : TurnStage) (reply : TokenReply) (answer : SessionAnswer) (s' : Session)
      (barren : ∀ token, answer ≠ .token (.ok token)) (through : Over s s')
      (told : s'.record = party.told answer ++ s.record) : Answering s party stage reply s'

theorem finishRefresh_answering {generation : Nat} (current : s.generation? = some generation)
    (gained : s.gains? stage reply = some login) (renewed : Bool) :
    Answering s (.refresher generation) stage reply (s.finishRefresh generation login renewed) := by
  have told := record_finishRefresh s generation login renewed
  cases ends : s.endOf? login.ttl with
  | some expiresAt =>
    exact .gains stage reply login expiresAt _ current gained ends
      (.of_settled (finishRefresh_placed current renewed ends)) told
  | none =>
    exact .overflows stage reply login _ gained ends
      (.of_settled (finishRefresh_overflow generation renewed ends)) told

theorem finishLogin_answering (ticket : Nat) (gained : s.gains? stage reply = some login) :
    Answering s (.reader ticket) stage reply (s.finishLogin ticket login) := by
  cases ends : s.endOf? login.ttl with
  | some expiresAt =>
    have same := record_install s none login
    rw [install_placed ends (Or.inl rfl)] at same
    refine .gains stage reply login expiresAt _ trivial gained ends
      (.of_settled (finishLogin_placed ticket ends)) ?_
    simp only [finishLogin, install_placed ends (Or.inl rfl), record_complete, record_emit, same]
    rfl
  | none =>
    refine .overflows stage reply login _ gained ends
      (.of_settled (finishLogin_overflow ticket ends)) ?_
    simp only [finishLogin, install_overflow ends]
    exact record_complete s ticket _

theorem obtained_answering (seeks : party.Seeks s.generation?)
    (gained : s.gains? stage reply = some login) :
    Answering s party stage reply (s.obtained party login) := by
  cases party with
  | reader ticket => exact finishLogin_answering ticket gained
  | refresher generation => exact finishRefresh_answering seeks gained false
  | revoker ticket => exact seeks.elim

theorem Answering.after_count {m : Measure}
    (answering : Answering (s.count m) party stage reply s') :
    Answering s party stage reply s' := by
  cases answering with
  | looksUp login _ unknown held turn told => exact .looksUp login s' unknown held turn told
  | gains _ _ login expiresAt _ seeks gained ends through told =>
    rw [placed_count] at through
    have base : Over (s.placed login expiresAt) s' := ⟨through.held, through.clock, through.asking⟩
    exact .gains stage reply login expiresAt s' seeks gained ends base told
  | overflows _ _ login _ gained overflow through told =>
    exact .overflows stage reply login s' gained overflow
      ⟨through.held, through.clock, through.asking⟩ told
  | reopens generation login _ own exhausted held turn told =>
    exact .reopens generation login s' own exhausted held turn told
  | ends _ _ answer _ barren through told =>
    exact .ends stage reply answer s' barren ⟨through.held, through.clock, through.asking⟩ told

theorem failRefresh_answering (generation : Nat) (fault : Fault) :
    Answering s (.refresher generation) stage reply (s.failRefresh fault) := by
  have through : Over (s.count (.refresh false)) (s.failRefresh fault) :=
    .of_cancelled (.of_settled (.after (.note _ rfl) (release_settled _)))
  exact .ends _ _ .done _ nofun ⟨through.held, through.clock, through.asking⟩
    (record_failRefresh s fault)

theorem loggedIn_answering (seeks : party.Seeks s.generation?) (login : LoginToken) :
    Answering s party .loggingIn (.loggedIn (.ok login)) (s.loggedIn party login) := by
  unfold loggedIn
  dsimp only
  split
  · rename_i unknown
    exact .looksUp login _ unknown rfl rfl (record_call _ party _ _)
  · rename_i known
    let counted := s.count (.login s.issuer.method true)
    have gained : counted.gains? .loggingIn (.loggedIn (.ok login)) = some login := if_neg known
    exact (obtained_answering (s := counted) seeks gained).after_count

theorem loginFailed_answering (seeks : party.Seeks s.generation?) (fault : Fault) :
    Answering s party .loggingIn (.loggedIn (.error fault)) (s.loginFailed party fault) := by
  refine Answering.after_count (m := .login s.issuer.method false) ?_
  cases party with
  | reader ticket =>
    exact .ends _ _ (.token (.error fault)) _ (fun _ same => nomatch same)
      (complete_over _ ticket _) (record_complete _ ticket _)
  | refresher generation => exact failRefresh_answering generation fault
  | revoker ticket => exact seeks.elim

theorem renewed_answering {generation : Nat} (current : s.generation? = some generation)
    (result : Except Fault LoginToken) :
    Answering s (.refresher generation) .renewing (.renewed result)
      (s.renewed (.refresher generation) generation result) := by
  cases result with
  | error fault => exact failRefresh_answering generation fault
  | ok login =>
    simp only [renewed]
    cases exhausted : s.isExhausted login with
    | true =>
      obtain ⟨turn, held, told⟩ :=
        authenticate_opens (s.emit (.expired s.expiresAt)) (.refresher generation)
      rw [record_emit] at told
      exact .reopens generation login _ rfl exhausted held turn told
    | false => exact finishRefresh_answering current (by simp [gains?, exhausted]) true

theorem answer_answering (orderly : s.Orderly) (turn : s.turn = some ⟨party, stage⟩)
    (expects : stage.expects reply = true) : Answering s party stage reply (s.answer reply) := by
  have fits := orderly _ turn
  simp only [answer, turn]
  cases stage with
  | granted => cases expects
  | loggingIn =>
    cases reply with
    | loggedIn result =>
      cases result with
      | ok login => exact loggedIn_answering fits login
      | error fault => exact loginFailed_answering fits fault
    | _ => cases expects
  | lookingUp login =>
    cases reply with
    | lookedUp result =>
      cases result with
      | ok found => exact obtained_answering fits rfl
      | error fault => exact obtained_answering fits rfl
    | _ => cases expects
  | renewing =>
    obtain ⟨generation, rfl, current⟩ := fits
    cases reply with
    | renewed result => exact renewed_answering current result
    | _ => cases expects
  | revoking =>
    obtain ⟨ticket, rfl⟩ := fits
    cases reply with
    | revoked result =>
      cases result with
      | ok _ =>
        have through := complete_over (s.emit .revoked) ticket .done
        refine .ends _ _ .done _ (by simp) ⟨through.held, through.clock, through.asking⟩ ?_
        rw [record_complete, record_emit]
        rfl
      | error fault =>
        exact .ends _ _ .done _ (by simp) (complete_over s ticket .done)
          (record_complete s ticket .done)
    | _ => cases expects

/-! ### Whole steps -/

inductive Enters (s : Session) : SessionEvent → Party → Prop where
  | granted (party : Party) (turn : s.turn = some ⟨party, .granted⟩) : Enters s .enter party
  | comes (event : SessionEvent) (s₀ : Session) (party : Party) (comes : s.Comes event s₀ party)
      (free : s.turn = none) : Enters s event party

inductive Deed (s : Session) : SessionEvent → Session → Prop where
  | stays (event : SessionEvent) (s' : Session) (held : s'.held = s.held)
      (turn : s'.turn = s.turn) (told : s'.record = s.record) (idle : s.takes event = false) :
      Deed s event s'
  | told (ticket : Nat) (token : Hidden) (valid : s.valid? = some token) :
      Deed s (.request ticket .token) (s.note (.returned ticket (.token (.ok token))))
  | serves (event : SessionEvent) (party : Party) (s' : Session) (enters : s.Enters event party)
      (serving : Serving s party s') : Deed s event s'
  | answers (party : Party) (stage : TurnStage) (reply : TokenReply) (s' : Session)
      (turn : s.turn = some ⟨party, stage⟩) (expects : stage.expects reply = true)
      (answering : Answering s party stage reply s') : Deed s (.answer reply) s'

theorem Serving.of_comes {s₀ : Session} (comes : s.Comes event s₀ party)
    (serving : Serving { s₀ with turn := some ⟨party, .granted⟩ } party s') :
    Serving s party s' := by
  have base : s₀.held = s.held ∧ s₀.clock = s.clock ∧ s₀.valid? = s.valid? ∧
      s₀.issuer = s.issuer ∧ s₀.record = s.record := by
    cases comes <;> exact ⟨rfl, rfl, rfl, rfl, rfl⟩
  obtain ⟨held, clock, valid, issuer, record⟩ := base
  cases serving with
  | found ticket token _ found through told =>
    exact .found ticket token s' (valid.symm.trans found)
      ⟨through.held.trans held, through.clock.trans clock, through.asking⟩
      (told.trans (congrArg _ record))
  | opens _ _ seeker needed kept turn told =>
    refine .opens party s' seeker (fun ticket own => valid.symm.trans (needed ticket own))
      (kept.trans held) (issuer ▸ turn) ?_
    rw [← issuer, ← record]
    exact told
  | renews generation token _ own kept turn told =>
    exact .renews generation token s' (held.symm.trans own) (kept.trans held) turn
      (told.trans (congrArg _ record))
  | passes generation _ through told =>
    exact .passes generation s' ⟨through.held.trans held, through.clock.trans clock, through.asking⟩
      (told.trans record)
  | revokes ticket token _ own owns emptied turn told =>
    exact .revokes ticket token s' (held.symm.trans own) (issuer ▸ owns) emptied turn
      (told.trans (congrArg _ record))
  | drops ticket _ through told =>
    exact .drops ticket s' ⟨through.held, through.clock.trans clock, through.asking⟩
      (told.trans (congrArg _ record))

theorem Comes.step_eq {s₀ : Session} (comes : s.Comes event s₀ party) :
    s.step event = s₀.ask party := by
  cases comes with
  | revoker ticket => rfl
  | reader ticket invalid => simp only [step, Session.request, invalid]
  | refresher generation due waiting ripe held =>
    simp only [step, fire, waiting, if_pos ripe, if_pos held]
    rfl

theorem Comes.serving {s₀ : Session} (comes : s.Comes event s₀ party) (free : s.turn = none) :
    Serving s party (s.step event) := by
  have free₀ : s₀.turn = none := by cases comes <;> exact free
  have asked : s₀.ask party = { s₀ with turn := some ⟨party, .granted⟩ }.serve party := by
    simp only [ask, free₀]
  rw [comes.step_eq, asked]
  exact .of_comes comes (serve_serving _ party)

theorem Comes.deed {s₀ : Session} (comes : s.Comes event s₀ party) :
    Deed s event (s.step event) := by
  cases turn : s.turn with
  | none => exact .serves event party _ (.comes event s₀ party comes turn) (comes.serving turn)
  | some own =>
    have busy : s₀.turn = some own := by cases comes <;> exact turn
    have asked : s₀.ask party = { s₀ with queue := s₀.queue ++ [party] } := by
      simp only [ask, busy]
    rw [comes.step_eq, asked]
    cases comes <;> exact .stays _ _ rfl rfl rfl rfl

theorem Enters.serving (enters : s.Enters event party) : Serving s party (s.step event) := by
  cases enters with
  | granted _ turn =>
    simp only [step, enter, turn]
    exact serve_serving s party
  | comes _ s₀ _ comes free => exact comes.serving free

theorem enter_deed (s : Session) : Deed s .enter (s.step .enter) := by
  by_cases granted : ∃ party, s.turn = some ⟨party, .granted⟩
  · obtain ⟨party, turn⟩ := granted
    have enters : s.Enters .enter party := .granted party turn
    exact .serves _ party _ enters enters.serving
  · simp only [step, enter]
    split
    · rename_i party turn
      exact (granted ⟨party, turn⟩).elim
    · exact .stays _ _ rfl rfl rfl rfl

theorem answer_deed (orderly : s.Orderly) (reply : TokenReply) :
    Deed s (.answer reply) (s.step (.answer reply)) := by
  cases turn : s.turn with
  | none =>
    have refused : s.step (.answer reply) = s := by simp only [step, answer, turn]
    rw [refused]
    exact .stays _ _ rfl rfl rfl (by simp [takes, turn])
  | some own =>
    obtain ⟨party, stage⟩ := own
    cases expects : stage.expects reply with
    | true =>
      exact .answers party stage reply _ turn expects (answer_answering orderly turn expects)
    | false =>
      rcases answer_served orderly turn reply with ⟨expected, _⟩ | ⟨_, refused⟩
      · rw [expects] at expected
        cases expected
      · have same : s.step (.answer reply) = s := refused
        rw [same]
        exact .stays _ _ rfl rfl rfl (by simp [takes, turn, expects])

theorem fire_deed (s : Session) (generation : Nat) :
    Deed s (.fire generation) (s.step (.fire generation)) := by
  by_cases timely : ∃ due, s.waits.lookup generation = some due ∧ due ≤ s.now ∧ s.isHeld = true
  · obtain ⟨due, waiting, ripe, held⟩ := timely
    exact Comes.deed (.refresher generation due waiting ripe held)
  · -- the timer is unknown, not due yet, or nobody holds the session
    simp only [step, fire]
    cases waiting : s.waits.lookup generation with
    | none => exact .stays _ _ rfl rfl rfl rfl
    | some due =>
      dsimp only
      split
      · rename_i ripe
        split
        · rename_i held
          exact (timely ⟨due, waiting, ripe, held⟩).elim
        · exact .stays _ _ rfl rfl rfl rfl
      · exact .stays _ _ rfl rfl rfl rfl

theorem step_deed (orderly : s.Orderly) (event : SessionEvent) : Deed s event (s.step event) := by
  cases event with
  | request ticket request =>
    cases request with
    | revoke => exact Comes.deed (.revoker ticket)
    | token =>
      cases valid : s.valid? with
      | some token =>
        simp only [step, Session.request, valid]
        exact .told ticket token valid
      | none => exact Comes.deed (.reader ticket valid)
  | enter => exact enter_deed s
  | answer reply => exact answer_deed orderly reply
  | fire generation => exact fire_deed s generation
  | stop generation =>
    simp only [step, stop]
    split <;> exact .stays _ _ rfl rfl rfl rfl
  | pass span => exact .stays _ _ rfl rfl rfl rfl
  | shift change => exact .stays _ _ rfl rfl rfl rfl
  | disown => exact .stays _ _ rfl rfl rfl rfl

/-! ### What never changes -/

structure Fixed (s s' : Session) : Prop where
  policy : s'.policy = s.policy
  issuer : s'.issuer = s.issuer

theorem Fixed.refl (s : Session) : Fixed s s := ⟨rfl, rfl⟩

theorem Fixed.trans (first : Fixed s s₁) (second : Fixed s₁ s') : Fixed s s' :=
  ⟨second.policy.trans first.policy, second.issuer.trans first.issuer⟩

theorem Settled.fixed (settled : Settled s s') : Fixed s s' := by
  cases settled
  exact ⟨rfl, rfl⟩

theorem placed_fixed (s : Session) (login : LoginToken) (expiresAt : Option Int) :
    Fixed s (s.placed login expiresAt) := by
  unfold placed
  split <;> exact ⟨rfl, rfl⟩

theorem Served.fixed {given : Option LoginToken} (served : Served s party given s') :
    Fixed s s' := by
  cases served with
  | settled _ settled => exact settled.fixed
  | called => exact ⟨rfl, rfl⟩
  | failed _ _ _ _ settled =>
    rw [cancelRefresh_eq] at settled
    exact ⟨settled.fixed.policy, settled.fixed.issuer⟩
  | installed _ login expiresAt _ _ settled =>
    exact (placed_fixed s login expiresAt).trans settled.fixed
  | dropped _ settled => exact ⟨settled.fixed.policy, settled.fixed.issuer⟩
  | revoking => exact ⟨rfl, rfl⟩

theorem step_fixed (orderly : s.Orderly) (event : SessionEvent) : Fixed s (s.step event) := by
  have outcome := step_outcome orderly event
  generalize s.step event = s' at outcome ⊢
  cases outcome with
  | queued _ s₀ party turn comes => cases comes <;> exact ⟨rfl, rfl⟩
  | entered _ s₀ _ party comes free served =>
    have fixed := served.fixed
    cases comes <;> exact ⟨fixed.policy, fixed.issuer⟩
  | resumed party _ turn served => exact served.fixed
  | answered party stage reply _ turn expects served => exact served.fixed
  | _ => exact ⟨rfl, rfl⟩

theorem run_fixed (orderly : s.Orderly) (events : List SessionEvent) : Fixed s (s.run events) := by
  induction events generalizing s with
  | nil => exact .refl s
  | cons event rest ih => exact (step_fixed orderly event).trans (ih (step_orderly orderly event))

end Session
end LeaseKeeper

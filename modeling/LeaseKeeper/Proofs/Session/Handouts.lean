import LeaseKeeper.Proofs.Session.Deeds
import Mathlib.Data.List.Induction

/-!
The tokens that readers are given. A token that is handed out is in use at that moment, and it lasts
for the threshold unless the reader has just logged in for it; and a reader logs in only when its
turn came and no token in use would do.
-/
namespace LeaseKeeper

def SessionEntry.handed? : SessionEntry → Option (Nat × Hidden)
  | .returned ticket (.token (.ok token)) => some (ticket, token)
  | _ => none

/-- The token never ends, or not before the span has passed. -/
def HeldToken.Lasts (held : HeldToken) (clock : Int) (span : Nat) : Prop :=
  ∀ expiresAt, held.expiresAt = some expiresAt → (span : Int) ≤ expiresAt - clock

namespace Session

variable {s s' start : Session} {party : Party} {event : SessionEvent} {stage : TurnStage}
  {reply : TokenReply} {ticket : Nat} {token : Hidden} {policy : SessionPolicy} {issuer : Issuer}

def handed (s : Session) : List (Nat × Hidden) := s.journal.filterMap (·.2.handed?)

theorem handed_eq (s : Session) : s.handed = s.record.filterMap (·.handed?) := by
  refine filterMap_record (fun entry apart => ?_) s
  cases entry <;> first | rfl | cases apart

theorem handed_of_record (fresh : List SessionEntry) (told : s'.record = fresh ++ s.record) :
    s'.handed = fresh.filterMap (·.handed?) ++ s.handed := by
  rw [handed_eq, handed_eq, told, List.filterMap_append]

theorem handed_told {answer : SessionAnswer} (barren : ∀ token, answer ≠ .token (.ok token)) :
    (party.told answer).filterMap (·.handed?) = [] := by
  have silent : ∀ ticket, SessionEntry.handed? (.returned ticket answer) = none := by
    intro ticket
    cases answer with
    | token result =>
      cases result with
      | ok token => exact (barren token rfl).elim
      | error fault => rfl
    | _ => rfl
  cases party with
  | refresher generation => rfl
  | _ ticket => simp [Party.told, silent ticket]

/-! ### How long a token lasts -/

theorem valid_lasts (valid : s.valid? = some token) :
    ∃ held, s.held = some held ∧ held.token = token ∧
      (0 < s.policy.threshold → held.Lasts s.clock s.policy.threshold) := by
  unfold valid? at valid
  cases own : s.held with
  | none => simp [own] at valid
  | some held =>
    simp only [own] at valid
    refine ⟨held, rfl, ?_⟩
    cases ends : held.expiresAt with
    | none =>
      simp only [ends] at valid
      exact ⟨Option.some.inj valid, fun _ instant same => nomatch ends.symm.trans same⟩
    | some expiresAt =>
      simp only [ends] at valid
      split at valid
      · rename_i left
        refine ⟨Option.some.inj valid, fun demanding instant same => ?_⟩
        obtain rfl := Option.some.inj (ends.symm.trans same)
        -- what has ended has no time left, and that is less than the threshold
        unfold remaining at left
        omega
      · cases valid

theorem not_lasts_of_invalid {held : HeldToken} (invalid : s.valid? = none)
    (own : s.held = some held) : ¬ held.Lasts s.clock s.policy.threshold := by
  intro lasts
  simp only [valid?, own] at invalid
  cases ends : held.expiresAt with
  | none => simp [ends] at invalid
  | some expiresAt =>
    have long := lasts expiresAt ends
    have left : s.policy.threshold ≤ s.remaining expiresAt := by
      unfold remaining
      omega
    simp [ends, left] at invalid

theorem endOf_lasts {ttl span : Nat} {expiresAt : Option Int}
    (ends : s.endOf? ttl = some expiresAt) (long : span ≤ ttl) :
    ∀ instant, expiresAt = some instant → (span : Int) ≤ instant - s.clock := by
  intro instant same
  unfold endOf? at ends
  split at ends
  · cases (Option.some.inj ends).trans same
  · split at ends
    · have counted := Option.some.inj ((Option.some.inj ends).trans same)
      omega
    · cases ends

/-! ### A token handed out in a step -/

inductive Handout (s : Session) (event : SessionEvent) : Prop where
  | nothing (same : (s.step event).handed = s.handed)
  | inUse (ticket : Nat) (held : HeldToken)
      (new : (s.step event).handed = (ticket, held.token) :: s.handed)
      (own : (s.step event).held = some held)
      (lasts : 0 < s.policy.threshold → held.Lasts (s.step event).clock s.policy.threshold)
  | ownLogin (ticket : Nat) (stage : TurnStage) (reply : TokenReply) (login : LoginToken)
      (held : HeldToken) (turn : s.turn = some ⟨.reader ticket, stage⟩)
      (calling : stage.isCalling = true) (answered : event = .answer reply)
      (gained : s.gains? stage reply = some login) (same : held.token = login.token)
      (new : (s.step event).handed = (ticket, held.token) :: s.handed)
      (own : (s.step event).held = some held)
      (lasts : s.policy.threshold ≤ login.ttl →
        held.Lasts (s.step event).clock s.policy.threshold)

theorem Serving.handout (serving : Serving s party (s.step event)) : s.Handout event := by
  generalize after : s.step event = s' at serving
  cases serving with
  | found ticket token _ valid through told =>
    obtain ⟨held, own, rfl, lasts⟩ := valid_lasts valid
    subst after
    exact .inUse ticket held (handed_of_record [_] told) (through.held.trans own)
      (through.clock ▸ lasts)
  | opens _ _ _ _ _ _ told =>
    subst after
    refine .nothing ((handed_of_record [_] told).trans ?_)
    cases s.issuer <;> rfl
  | renews _ _ _ _ _ _ told => exact .nothing (after ▸ handed_of_record [_] told)
  | passes _ _ _ told => exact .nothing (after ▸ handed_of_record [] told)
  | revokes _ _ _ _ _ _ _ told => exact .nothing (after ▸ handed_of_record [_] told)
  | drops _ _ _ told => exact .nothing (after ▸ handed_of_record [_] told)

theorem Answering.handout (turn : s.turn = some ⟨party, stage⟩)
    (expects : stage.expects reply = true)
    (answering : Answering s party stage reply (s.step (.answer reply))) :
    s.Handout (.answer reply) := by
  generalize after : s.step (.answer reply) = s' at answering
  cases answering with
  | looksUp _ _ _ _ _ told => exact .nothing (after ▸ handed_of_record [_] told)
  | gains _ _ login expiresAt _ seeks gained ends through told =>
    subst after
    have handed := handed_of_record _ told
    cases party with
    | reader ticket =>
      have clock : (s.step (.answer reply)).clock = s.clock := by
        rw [through.clock]
        unfold placed
        split <;> rfl
      refine .ownLogin ticket stage reply login
        ⟨login.token, expiresAt, login.renewable, s.issued + 1⟩ turn
        (TurnStage.isCalling_of_expects expects) rfl gained rfl handed
        (through.held.trans (placed_held s login expiresAt)) ?_
      intro long
      rw [clock]
      exact endOf_lasts ends long
    | revoker ticket => exact seeks.elim
    | refresher generation => exact .nothing handed
  | overflows _ _ login _ _ _ _ told =>
    subst after
    have barren : ∀ token, SessionAnswer.crashed ≠ .token (.ok token) := nofun
    exact .nothing ((handed_of_record _ told).trans (by rw [handed_told barren]; rfl))
  | reopens generation login _ _ _ _ _ told =>
    subst after
    refine .nothing ((handed_of_record [_] told).trans ?_)
    cases s.issuer <;> rfl
  | ends _ _ answer _ barren _ told =>
    subst after
    exact .nothing ((handed_of_record _ told).trans (by rw [handed_told barren]; rfl))

theorem step_handout (orderly : s.Orderly) (event : SessionEvent) : s.Handout event := by
  have deed := step_deed orderly event
  generalize after : s.step event = s' at deed
  cases deed with
  | stays _ _ _ _ told => exact .nothing (after ▸ handed_of_record [] told)
  | told ticket token valid =>
    obtain ⟨held, own, rfl, lasts⟩ := valid_lasts valid
    refine .inUse ticket held (by rw [after]; rfl) (by rw [after]; exact own) ?_
    rw [after]
    exact lasts
  | serves _ party _ _ serving => exact Serving.handout (after ▸ serving)
  | answers party stage reply _ turn expects answering =>
    exact Answering.handout turn expects (after ▸ answering)

/-! ### Logins of readers -/

/-- The reader's own login has come to the stage: it began when the turn was the reader's and no
token in use lasted for the threshold, and the turn has been the reader's since. -/
inductive LogsIn (start : Session) (ticket : Nat) : List SessionEvent → TurnStage → Prop where
  | began (before : List SessionEvent) (event : SessionEvent)
      (enters : (start.run before).Enters event (.reader ticket))
      (needed : ∀ held, (start.run before).held = some held →
        ¬ held.Lasts (start.run before).clock start.policy.threshold) :
      LogsIn start ticket (before ++ [event]) (start.run before).issuer.opening
  | waited (before : List SessionEvent) (event : SessionEvent) (stage : TurnStage)
      (logs : LogsIn start ticket before stage) (idle : (start.run before).takes event = false) :
      LogsIn start ticket (before ++ [event]) stage
  | granted (before : List SessionEvent) (login : LoginToken)
      (logs : LogsIn start ticket before .loggingIn) (unknown : login.ttl = 0) :
      LogsIn start ticket (before ++ [.answer (.loggedIn (.ok login))]) (.lookingUp login)

theorem Over.idle (through : Over s s') {own : Turn} (turn : s'.turn = some own)
    (calling : own.stage.isCalling = true) : False := by
  have asking := through.asking
  simp [isAsking, turn, calling] at asking

theorem step_reading (orderly : s.Orderly)
    (turn : (s.step event).turn = some ⟨.reader ticket, stage⟩)
    (calling : stage.isCalling = true) :
    (s.Enters event (.reader ticket) ∧ s.valid? = none ∧ stage = s.issuer.opening) ∨
      (s.turn = some ⟨.reader ticket, stage⟩ ∧ s.takes event = false) ∨
      ∃ login, s.turn = some ⟨.reader ticket, .loggingIn⟩ ∧
        event = .answer (.loggedIn (.ok login)) ∧ login.ttl = 0 ∧ stage = .lookingUp login := by
  have deed := step_deed orderly event
  generalize s.step event = s' at deed turn
  cases deed with
  | stays _ _ _ same _ idle => exact Or.inr (Or.inl ⟨same.symm.trans turn, idle⟩)
  | told => exact Or.inr (Or.inl ⟨turn, rfl⟩)
  | serves _ party _ enters serving =>
    cases serving with
    | found _ _ _ _ through => exact (through.idle turn calling).elim
    | opens _ _ _ needed _ taken =>
      cases taken.symm.trans turn
      exact Or.inl ⟨enters, needed ticket rfl, rfl⟩
    | renews _ _ _ _ _ taken => cases taken.symm.trans turn
    | passes _ _ through => exact (through.idle turn calling).elim
    | revokes _ _ _ _ _ _ taken => cases taken.symm.trans turn
    | drops _ _ through => exact (through.idle turn calling).elim
  | answers party own reply _ waiting expects answering =>
    cases answering with
    | looksUp login _ unknown _ taken =>
      cases taken.symm.trans turn
      exact Or.inr (Or.inr ⟨login, waiting, rfl, unknown, rfl⟩)
    | gains _ _ _ _ _ _ _ _ through => exact (through.idle turn calling).elim
    | overflows _ _ _ _ _ _ through => exact (through.idle turn calling).elim
    | reopens generation _ _ own _ _ taken =>
      subst own
      cases taken.symm.trans turn
    | ends _ _ _ _ _ through => exact (through.idle turn calling).elim

theorem run_snoc (s : Session) (events : List SessionEvent) (event : SessionEvent) :
    s.run (events ++ [event]) = (s.run events).step event := by
  simp [run, List.foldl_append]

theorem run_logsIn (orderly : start.Orderly) (silent : start.turn = none)
    (events : List SessionEvent) :
    ∀ stage, (start.run events).turn = some ⟨.reader ticket, stage⟩ → stage.isCalling = true →
      start.LogsIn ticket events stage := by
  induction events using List.reverseRecOn with
  | nil =>
    intro stage turn _
    cases silent.symm.trans turn
  | append_singleton events event ih =>
    intro stage turn calling
    rw [run_snoc] at turn
    rcases step_reading (run_orderly orderly events) turn calling with
      ⟨enters, invalid, rfl⟩ | ⟨before, idle⟩ | ⟨login, before, rfl, unknown, rfl⟩
    · refine .began events event enters fun held own => ?_
      rw [← (run_fixed orderly events).policy]
      exact not_lasts_of_invalid invalid own
    · exact .waited events event stage (ih stage before calling) idle
    · exact .granted events login (ih .loggingIn before rfl) unknown

/-- What readers are given, and when they log in for it. -/
theorem handed_out_valid (policy : SessionPolicy) (issuer : Issuer) (events : List SessionEvent)
    (event : SessionEvent) (demanding : 0 < policy.threshold) :
    let start := new policy issuer
    let s := start.run events
    let s' := s.step event
    (s'.handed = s.handed ∨ ∃ ticket token held, s'.handed = (ticket, token) :: s.handed ∧
      s'.held = some held ∧ held.token = token ∧
      (held.Lasts s'.clock policy.threshold ∨
        ∃ stage reply login, start.LogsIn ticket events stage ∧ event = .answer reply ∧
          s.gains? stage reply = some login ∧ login.token = token ∧
          (policy.threshold ≤ login.ttl → held.Lasts s'.clock policy.threshold))) ∧
    ∀ ticket stage, s'.turn = some ⟨.reader ticket, stage⟩ → stage.isCalling = true →
      start.LogsIn ticket (events ++ [event]) stage := by
  intro start s s'
  have fresh : start.Orderly := orderly_new policy issuer
  have orderly : s.Orderly := run_orderly fresh events
  have same : s.policy = policy := (run_fixed fresh events).policy
  constructor
  · cases step_handout orderly event with
    | nothing none_new => exact Or.inl none_new
    | inUse ticket held new own lasts =>
      rw [same] at lasts
      exact Or.inr ⟨ticket, held.token, held, new, own, rfl, Or.inl (lasts demanding)⟩
    | ownLogin ticket stage reply login held turn calling answered gained from_login new own
        lasts =>
      rw [same] at lasts
      have logs := run_logsIn fresh rfl events stage turn calling
      exact Or.inr ⟨ticket, held.token, held, new, own, rfl,
        Or.inr ⟨stage, reply, login, logs, answered, gained, from_login.symm, lasts⟩⟩
  · intro ticket stage turn calling
    have run_to : start.run (events ++ [event]) = s' := run_snoc start events event
    exact run_logsIn fresh rfl (events ++ [event]) stage (run_to ▸ turn) calling

/-- The login is too short for anybody but the reader whose login it is. -/
theorem short_login_handed_out :
    let login : LoginToken := ⟨⟨"hvs.short"⟩, Span.seconds 3, true⟩
    let reply : TokenReply := .loggedIn (.ok login)
    let start := new .default (.store "approle" true)
    let s := start.run [.request 1 .token]
    0 < SessionPolicy.default.threshold ∧ (s.step (.answer reply)).handed = [(1, login.token)] ∧
      ∃ stage given, start.LogsIn 1 [.request 1 .token] stage ∧ s.gains? stage reply = some given ∧
        given.token = login.token := by
  intro login reply start s
  have demanding : 0 < SessionPolicy.default.threshold := by decide
  have handed : (s.step (.answer reply)).handed = [(1, login.token)] := by decide +kernel
  have own : (s.step (.answer reply)).held =
      some ⟨login.token, some (Span.seconds 3), true, 1⟩ := by decide +kernel
  refine ⟨demanding, handed, ?_⟩
  obtain ⟨none_new | ⟨ticket, token, held, new, placed, _, lasts | logged⟩, _⟩ :=
    handed_out_valid .default (.store "approle" true) [.request 1 .token] (.answer reply) demanding
  · cases handed.symm.trans none_new
  · obtain rfl := Option.some.inj (own.symm.trans placed)
    have short : ¬ (SessionPolicy.default.threshold : Int) ≤
        Span.seconds 3 - (s.step (.answer reply)).clock := by decide +kernel
    exact (short (lasts _ rfl)).elim
  · obtain ⟨stage, _, given, logs, answered, gained, from_login, _⟩ := logged
    obtain rfl := SessionEvent.answer.inj answered
    have first := (List.cons.inj (handed.symm.trans new)).1
    obtain rfl : 1 = ticket := congrArg Prod.fst first
    have same : login.token = token := congrArg Prod.snd first
    exact ⟨stage, given, logs, gained, from_login.trans same.symm⟩

end Session
end LeaseKeeper

import LeaseKeeper.Proofs.Session.Handouts
import LeaseKeeper.Proofs.Session.Timers
import Mathlib.Data.List.Nodup

/-!
Revocation is final. A token that a revocation took is nowhere in the session any more, and only a
login could bring it back; so with logins that give different tokens it is neither handed out nor
revoked again. What refreshes there were when it was taken put nothing in use.
-/
namespace LeaseKeeper

def SessionEntry.revoked? : SessionEntry → Option Hidden
  | .call (.revoke token) => some token
  | _ => none

def SessionEntry.call? : SessionEntry → Option TokenCall
  | .call asked => some asked
  | _ => none

def TurnStage.lookedUp? : TurnStage → Option Hidden
  | .lookingUp login => some login.token
  | _ => none

namespace Session

variable {s s' : Session} {party : Party} {event : SessionEvent} {stage : TurnStage}
  {reply : TokenReply} {ticket : Nat} {token : Hidden} {policy : SessionPolicy} {issuer : Issuer}

/-! ### Logins and renewals -/

def lookedUp? (s : Session) : Option Hidden := s.turn.bind (·.stage.lookedUp?)

def login? (s : Session) (event : SessionEvent) : Option Hidden :=
  match s.turn, event with
  | some ⟨_, .loggingIn⟩, .answer (.loggedIn (.ok login)) => some login.token
  | _, _ => if s.lookedUp?.isSome then none else (s.step event).lookedUp?

def logins (s : Session) : List SessionEvent → List Hidden
  | [] => []
  | event :: rest => (s.login? event).toList ++ (s.step event).logins rest

def asked? (s : Session) : Option TokenCall := s.record.findSome? (·.call?)

def renewsSame (s : Session) (event : SessionEvent) : Bool :=
  match s.turn, event with
  | some ⟨_, .renewing⟩, .answer (.renewed (.ok login)) => s.asked? = some (.renew login.token)
  | _, _ => true

/-- Every renewal of the run gave the same token back. -/
def renewalsSame (s : Session) : List SessionEvent → Bool
  | [] => true
  | event :: rest => s.renewsSame event && (s.step event).renewalsSame rest

def revocations (s : Session) : List Hidden := s.journal.filterMap (·.2.revoked?)

theorem revocations_eq (s : Session) : s.revocations = s.record.filterMap (·.revoked?) := by
  refine filterMap_record (fun entry apart => ?_) s
  cases entry <;> first | rfl | cases apart

theorem revocations_of_record (fresh : List SessionEntry) (told : s'.record = fresh ++ s.record) :
    s'.revocations = fresh.filterMap (·.revoked?) ++ s.revocations := by
  rw [revocations_eq, revocations_eq, told, List.filterMap_append]

theorem revocations_told (party : Party) (answer : SessionAnswer) :
    (party.told answer).filterMap (·.revoked?) = [] := by
  cases party <;> rfl

/-! ### The token that a renewal is of -/

/-- While a token is renewed, it is the one in use. -/
def RenewsHeld (s : Session) : Prop :=
  ∀ party, s.turn = some ⟨party, .renewing⟩ →
    ∃ held, s.held = some held ∧ s.asked? = some (.renew held.token)

theorem asked_of_record {call : TokenCall} (told : s'.record = .call call :: s.record) :
    s'.asked? = some call := by
  rw [asked?, told]
  rfl

theorem opening_ne_renewing (issuer : Issuer) : issuer.opening ≠ .renewing := by
  cases issuer <;> exact nofun

theorem step_renewsHeld (orderly : s.Orderly) (renews : s.RenewsHeld) (event : SessionEvent) :
    (s.step event).RenewsHeld := by
  have deed := step_deed orderly event
  generalize s.step event = s' at deed
  intro party turn
  cases deed with
  | stays _ _ held same told =>
    obtain ⟨own, kept, asked⟩ := renews party (same.symm.trans turn)
    exact ⟨own, held.trans kept, by rwa [asked?, told]⟩
  | told ticket token =>
    obtain ⟨own, kept, asked⟩ := renews party turn
    refine ⟨own, kept, ?_⟩
    rw [asked?, record_note s rfl]
    exact asked
  | serves _ own _ enters serving =>
    cases serving with
    | found _ _ _ _ through => exact (through.idle turn rfl).elim
    | opens _ _ _ _ _ took =>
      have stage := congrArg Turn.stage (Option.some.inj (took.symm.trans turn))
      exact (opening_ne_renewing _ stage).elim
    | renews generation held _ own kept _ told => exact ⟨held, kept.trans own, asked_of_record told⟩
    | passes _ _ through => exact (through.idle turn rfl).elim
    | revokes _ _ _ _ _ _ took => cases took.symm.trans turn
    | drops _ _ through => exact (through.idle turn rfl).elim
  | answers own stage reply _ waiting expects answering =>
    cases answering with
    | looksUp login _ _ _ took => cases took.symm.trans turn
    | gains _ _ _ _ _ _ _ _ through => exact (through.idle turn rfl).elim
    | overflows _ _ _ _ _ _ through => exact (through.idle turn rfl).elim
    | reopens _ _ _ _ _ _ took =>
      have stage := congrArg Turn.stage (Option.some.inj (took.symm.trans turn))
      exact (opening_ne_renewing _ stage).elim
    | ends _ _ _ _ _ through => exact (through.idle turn rfl).elim

/-! ### Where a token is -/

/-- How often the token is in use, looked up or revoked. -/
def places (s : Session) (token : Hidden) : Nat :=
  (s.held.map (·.token)).toList.count token + s.lookedUp?.toList.count token +
    s.revocations.count token

theorem Over.lookedUp (through : Over s s') : s'.lookedUp? = none := by
  unfold lookedUp?
  cases turn : s'.turn with
  | none => rfl
  | some own =>
    have asking := through.asking
    simp only [isAsking, turn, Option.any_some] at asking
    obtain ⟨party, stage⟩ := own
    cases stage with
    | lookingUp login => cases asking
    | _ => rfl

theorem login_of_idle
    (idle : ∀ own, s.turn = some own → own.stage ≠ .loggingIn ∧ own.stage.lookedUp? = none)
    (event : SessionEvent) : s.login? event = (s.step event).lookedUp? := by
  have silent : s.lookedUp? = none := by
    unfold lookedUp?
    cases turn : s.turn with
    | none => rfl
    | some own => exact (idle own turn).2
  unfold login?
  split
  · rename_i turn
    exact ((idle _ turn).1 rfl).elim
  · simp [silent]

theorem Enters.idle (enters : s.Enters event party) :
    ∀ own, s.turn = some own → own.stage ≠ .loggingIn ∧ own.stage.lookedUp? = none := by
  intro own turn
  cases enters with
  | granted _ granted =>
    cases granted.symm.trans turn
    exact ⟨nofun, rfl⟩
  | comes _ _ _ _ free => cases free.symm.trans turn

theorem revocations_opening (issuer : Issuer) :
    [SessionEntry.call issuer.openingCall].filterMap (·.revoked?) = [] := by
  cases issuer <;> rfl

theorem places_opening
    (idle : ∀ own, s.turn = some own → own.stage ≠ .loggingIn ∧ own.stage.lookedUp? = none)
    (held : (s.step event).held = s.held)
    (told : (s.step event).record = .call s.issuer.openingCall :: s.record) (token : Hidden) :
    (s.step event).places token ≤ s.places token + (s.login? event).toList.count token := by
  have revoked := revocations_of_record [_] told
  rw [revocations_opening, List.nil_append] at revoked
  rw [login_of_idle idle, places, places, held, revoked]
  omega

theorem places_over (through : Over s s') (fresh : List SessionEntry)
    (told : s'.record = fresh ++ s.record) (silent : fresh.filterMap (·.revoked?) = [])
    (token : Hidden) : s'.places token ≤ s.places token := by
  have revoked := revocations_of_record _ told
  rw [silent, List.nil_append] at revoked
  rw [places, places, through.held, through.lookedUp, revoked]
  simp only [Option.toList_none, List.count_nil]
  omega

theorem Enters.places (enters : s.Enters event party) (token : Hidden) :
    (s.step event).places token ≤ s.places token + (s.login? event).toList.count token := by
  have serving := enters.serving
  generalize after : s.step event = s' at serving
  cases serving with
  | found ticket own _ valid through told =>
    exact Nat.le_add_right_of_le (places_over through [_] told rfl token)
  | opens _ _ _ needed held turn told =>
    subst after
    exact places_opening enters.idle held told token
  | renews generation own _ held kept turn told =>
    have revoked := revocations_of_record [_] told
    have silent : s'.lookedUp? = none := by rw [lookedUp?, turn]; rfl
    have same : s'.revocations = s.revocations := revoked
    rw [Session.places, Session.places, kept, silent, same]
    simp only [Option.toList_none, List.count_nil]
    omega
  | passes generation _ through told =>
    exact Nat.le_add_right_of_le (places_over through [] told rfl token)
  | revokes ticket own _ held owns emptied turn told =>
    have revoked : s'.revocations = own.token :: s.revocations :=
      revocations_of_record [_] told
    have silent : s'.lookedUp? = none := by rw [lookedUp?, turn]; rfl
    rw [Session.places, Session.places, emptied, silent, revoked, held]
    simp only [Option.map_none, Option.map_some, Option.toList_none, Option.toList_some,
      List.count_nil, List.count_cons]
    omega
  | drops ticket _ through told =>
    have revoked : s'.revocations = s.revocations := revocations_of_record [_] told
    have emptied : s'.held = none := through.held
    rw [Session.places, Session.places, emptied, through.lookedUp, revoked]
    simp only [Option.map_none, Option.toList_none, List.count_nil]
    omega

theorem gains_places {login : LoginToken} (renews : s.RenewsHeld)
    (turn : s.turn = some ⟨party, stage⟩) (same : s.renewsSame (.answer reply) = true)
    (gained : s.gains? stage reply = some login) :
    s.login? (.answer reply) = some login.token ∨ s.lookedUp? = some login.token ∨
      s.held.map (·.token) = some login.token := by
  cases stage with
  | loggingIn =>
    cases reply with
    | loggedIn result =>
      cases result with
      | ok given =>
        simp only [gains?] at gained
        split at gained
        · cases gained
        · obtain rfl := Option.some.inj gained
          exact Or.inl (by simp only [login?, turn])
      | error fault => cases gained
    | _ => cases gained
  | lookingUp given =>
    have own : s.lookedUp? = some given.token := by rw [lookedUp?, turn]; rfl
    cases reply with
    | lookedUp result =>
      cases result with
      | ok found =>
        obtain rfl := Option.some.inj gained
        exact Or.inr (Or.inl own)
      | error fault =>
        obtain rfl := Option.some.inj gained
        exact Or.inr (Or.inl own)
    | _ => cases gained
  | renewing =>
    cases reply with
    | renewed result =>
      cases result with
      | ok given =>
        simp only [gains?] at gained
        split at gained
        · cases gained
        · obtain rfl := Option.some.inj gained
          obtain ⟨held, own, asked⟩ := renews party turn
          simp only [renewsSame, turn, asked, decide_eq_true_eq] at same
          have token := TokenCall.renew.inj (Option.some.inj same)
          exact Or.inr (Or.inr (by rw [own, Option.map_some, token]))
      | error fault => cases gained
    | _ => cases gained
  | _ => cases reply <;> cases gained

theorem answer_places (renews : s.RenewsHeld) (turn : s.turn = some ⟨party, stage⟩)
    (same : s.renewsSame (.answer reply) = true)
    (answering : Answering s party stage reply (s.step (.answer reply))) (token : Hidden) :
    (s.step (.answer reply)).places token ≤
      s.places token + (s.login? (.answer reply)).toList.count token := by
  generalize after : s.step (.answer reply) = s' at answering
  cases answering with
  | looksUp login _ unknown held took told =>
    have revoked : s'.revocations = s.revocations := revocations_of_record [_] told
    have given : s.login? (.answer (.loggedIn (.ok login))) = some login.token := by
      simp only [login?, turn]
    have looked : s'.lookedUp? = some login.token := by rw [lookedUp?, took]; rfl
    rw [places, places, held, revoked, looked, given]
    omega
  | gains _ _ login expiresAt _ seeks gained ends through told =>
    have revoked := revocations_of_record _ told
    rw [revocations_told, List.nil_append] at revoked
    have held : s'.held.map (·.token) = some login.token := by
      rw [through.held, placed_held]
      rfl
    rw [places, places, held, through.lookedUp, revoked]
    rcases gains_places renews turn same gained with given | given | given
    all_goals
      rw [given]
      simp only [Option.toList_none, List.count_nil]
      omega
  | overflows _ _ login _ gained overflow through told =>
    exact Nat.le_add_right_of_le (places_over through _ told (revocations_told party _) token)
  | reopens generation login _ own exhausted held took told =>
    subst after
    refine places_opening ?_ held told token
    intro own' turn'
    cases turn.symm.trans turn'
    exact ⟨nofun, rfl⟩
  | ends _ _ answer _ barren through told =>
    exact Nat.le_add_right_of_le (places_over through _ told (revocations_told party _) token)

/-- A token comes to the session by a login only. -/
theorem step_places (orderly : s.Orderly) (renews : s.RenewsHeld)
    (same : s.renewsSame event = true) (token : Hidden) :
    (s.step event).places token ≤ s.places token + (s.login? event).toList.count token := by
  have deed := step_deed orderly event
  generalize after : s.step event = s' at deed
  cases deed with
  | stays _ _ held turn told =>
    have looked : s'.lookedUp? = s.lookedUp? := by rw [lookedUp?, lookedUp?, turn]
    have revoked : s'.revocations = s.revocations := revocations_of_record [] told
    rw [places, places, held, looked, revoked]
    omega
  | told ticket own =>
    have unchanged : (s.note (.returned ticket (.token (.ok own)))).places token = s.places token :=
      rfl
    rw [unchanged]
    omega
  | serves _ party _ enters => exact after ▸ enters.places token
  | answers party stage reply _ turn expects answering =>
    exact after ▸ answer_places renews turn same (after ▸ answering) token

/-! ### Whole runs -/

theorem run_renewsHeld (orderly : s.Orderly) (renews : s.RenewsHeld) (events : List SessionEvent) :
    (s.run events).RenewsHeld :=
  (run_keep (P := fun s => s.Orderly ∧ s.RenewsHeld)
    (fun _ event both => ⟨step_orderly both.1 event, step_renewsHeld both.1 both.2 event⟩)
    ⟨orderly, renews⟩ events).2

theorem logins_append (s : Session) (early late : List SessionEvent) :
    s.logins (early ++ late) = s.logins early ++ (s.run early).logins late := by
  induction early generalizing s with
  | nil => rfl
  | cons event rest ih =>
    simp only [List.cons_append, logins, ih, List.append_assoc]
    rfl

theorem renewalsSame_append (s : Session) (early late : List SessionEvent) :
    s.renewalsSame (early ++ late) = (s.renewalsSame early && (s.run early).renewalsSame late) := by
  induction early generalizing s with
  | nil => rfl
  | cons event rest ih =>
    simp only [List.cons_append, renewalsSame, ih, Bool.and_assoc]
    rfl

theorem run_places (orderly : s.Orderly) (renews : s.RenewsHeld) (events : List SessionEvent)
    (same : s.renewalsSame events = true) (token : Hidden) :
    (s.run events).places token ≤ s.places token + (s.logins events).count token := by
  induction events generalizing s with
  | nil => exact Nat.le_refl _
  | cons event rest ih =>
    simp only [renewalsSame, Bool.and_eq_true] at same
    have first := step_places orderly renews same.1 token
    have later := ih (step_orderly orderly event) (step_renewsHeld orderly renews event) same.2
    have run_cons : s.run (event :: rest) = (s.step event).run rest := rfl
    rw [run_cons, logins, List.count_append]
    omega

theorem step_revocations (orderly : s.Orderly) (event : SessionEvent) :
    (s.step event).revocations = s.revocations ∨ s.issuer.ownsToken = true ∧
      ∃ held, s.held = some held ∧ (s.step event).revocations = held.token :: s.revocations := by
  have deed := step_deed orderly event
  generalize s.step event = s' at deed
  cases deed with
  | stays _ _ _ _ told => exact Or.inl (revocations_of_record [] told)
  | told => exact Or.inl rfl
  | serves _ party _ enters serving =>
    cases serving with
    | found _ _ _ _ _ told => exact Or.inl (revocations_of_record [_] told)
    | opens _ _ _ _ _ _ told =>
      have revoked := revocations_of_record [_] told
      rw [revocations_opening] at revoked
      exact Or.inl revoked
    | renews _ _ _ _ _ _ told => exact Or.inl (revocations_of_record [_] told)
    | passes _ _ _ told => exact Or.inl (revocations_of_record [] told)
    | revokes ticket held _ own owns _ _ told =>
      exact Or.inr ⟨owns, held, own, revocations_of_record [_] told⟩
    | drops _ _ _ told => exact Or.inl (revocations_of_record [_] told)
  | answers party stage reply _ turn expects answering =>
    have silent := revocations_told party
    cases answering with
    | looksUp _ _ _ _ _ told => exact Or.inl (revocations_of_record [_] told)
    | gains _ _ _ _ _ _ _ _ _ told =>
      exact Or.inl ((revocations_of_record _ told).trans (by rw [silent]; rfl))
    | overflows _ _ _ _ _ _ _ told =>
      exact Or.inl ((revocations_of_record _ told).trans (by rw [silent]; rfl))
    | reopens _ _ _ _ _ _ _ told =>
      have revoked := revocations_of_record [_] told
      rw [revocations_opening] at revoked
      exact Or.inl revoked
    | ends _ _ _ _ _ _ told =>
      exact Or.inl ((revocations_of_record _ told).trans (by rw [silent]; rfl))

theorem run_revocations (orderly : s.Orderly) (events : List SessionEvent)
    (owned : ∀ token ∈ s.revocations, s.issuer.ownsToken = true) :
    ∀ token ∈ (s.run events).revocations, s.issuer.ownsToken = true := by
  induction events generalizing s with
  | nil => exact owned
  | cons event rest ih =>
    have same := (step_fixed orderly event).issuer
    rw [← same]
    refine ih (step_orderly orderly event) ?_
    intro token member
    rw [same]
    rcases step_revocations orderly event with kept | ⟨owns, _⟩
    · exact owned token (kept ▸ member)
    · exact owns

/-! ### After a revocation -/

def Lacks (s : Session) (token : Hidden) : Prop :=
  s.held.map (·.token) ≠ some token ∧ s.lookedUp? ≠ some token

theorem lacks_iff (s : Session) (token : Hidden) :
    s.Lacks token ↔ s.places token ≤ s.revocations.count token := by
  have absent : ∀ own : Option Hidden, own ≠ some token ↔ own.toList.count token = 0 := by
    intro own
    rw [List.count_eq_zero, Option.mem_toList]
  rw [Lacks, absent, absent, places]
  omega

theorem step_lacks (orderly : s.Orderly) (renews : s.RenewsHeld)
    (same : s.renewsSame event = true) (lacks : s.Lacks token)
    (elsewhere : s.login? event ≠ some token) : (s.step event).Lacks token := by
  have places := step_places orderly renews same token
  have none_new : (s.login? event).toList.count token = 0 := by
    rw [List.count_eq_zero, Option.mem_toList]
    exact elsewhere
  have before := (lacks_iff s token).mp lacks
  have kept : s.revocations.count token ≤ (s.step event).revocations.count token := by
    rcases step_revocations orderly event with revoked | ⟨_, held, _, revoked⟩
    · exact Nat.le_of_eq (by rw [revoked])
    · rw [revoked]
      exact List.count_le_count_cons
  rw [lacks_iff]
  omega

theorem run_lacks (orderly : s.Orderly) (renews : s.RenewsHeld) (later : List SessionEvent)
    (same : s.renewalsSame later = true) (lacks : s.Lacks token)
    (elsewhere : token ∉ s.logins later) :
    ∃ fresh, (s.run later).handed = fresh ++ s.handed ∧ ∀ entry ∈ fresh, entry.2 ≠ token := by
  induction later generalizing s with
  | nil => exact ⟨[], rfl, nofun⟩
  | cons event rest ih =>
    simp only [renewalsSame, Bool.and_eq_true] at same
    simp only [logins, List.mem_append, Option.mem_toList, not_or] at elsewhere
    have lacks' := step_lacks orderly renews same.1 lacks elsewhere.1
    obtain ⟨fresh, handed, others⟩ := ih (step_orderly orderly event)
      (step_renewsHeld orderly renews event) same.2 lacks' elsewhere.2
    have run_cons : s.run (event :: rest) = (s.step event).run rest := rfl
    rw [run_cons, handed]
    -- what is handed out is in use, and the token is not
    have differs : ∀ held, (s.step event).held = some held → held.token ≠ token := by
      intro held own is_token
      exact lacks'.1 (by rw [own, Option.map_some, is_token])
    have extended : ∀ ticket held, (s.step event).held = some held →
        (s.step event).handed = (ticket, held.token) :: s.handed →
        ∃ all, fresh ++ (s.step event).handed = all ++ s.handed ∧
          ∀ entry ∈ all, entry.2 ≠ token := by
      intro ticket held own new
      refine ⟨fresh ++ [(ticket, held.token)], by rw [new]; simp, ?_⟩
      intro entry member
      rcases List.mem_append.mp member with old | now
      · exact others entry old
      · obtain rfl := List.mem_singleton.mp now
        exact differs held own
    cases step_handout orderly event with
    | nothing none_new => exact ⟨fresh, by rw [none_new], others⟩
    | inUse ticket held new own => exact extended ticket held own new
    | ownLogin ticket _ _ _ held _ _ _ _ _ new own => exact extended ticket held own new

theorem enters_taken (enters : s.Enters event (.revoker ticket)) :
    (s.step event).held = none ∧ (s.step event).lookedUp? = none := by
  have serving := enters.serving
  generalize s.step event = s' at serving
  cases serving with
  | opens _ _ seeker => exact (seeker ticket rfl).elim
  | revokes _ _ _ _ _ emptied turn => exact ⟨emptied, by rw [lookedUp?, turn]; rfl⟩
  | drops _ _ through => exact ⟨through.held, through.lookedUp⟩

def Installs (s : Session) (event : SessionEvent) (party : Party) : Prop :=
  ∃ stage reply login, s.turn = some ⟨party, stage⟩ ∧ event = .answer reply ∧
    s.gains? stage reply = some login ∧
    (s.step event).held.map (·.token) = some login.token

theorem step_held (orderly : s.Orderly) (event : SessionEvent) :
    (s.step event).held = s.held ∨ (s.step event).held = none ∨
      ∃ party, s.Installs event party ∧ party.Seeks s.generation? := by
  have deed := step_deed orderly event
  generalize after : s.step event = s' at deed
  cases deed with
  | stays _ _ held => exact Or.inl held
  | told => exact Or.inl rfl
  | serves _ party _ enters serving =>
    cases serving with
    | found _ _ _ _ through => exact Or.inl through.held
    | opens _ _ _ _ held => exact Or.inl held
    | renews _ _ _ _ kept => exact Or.inl kept
    | passes _ _ through => exact Or.inl through.held
    | revokes _ _ _ _ _ emptied => exact Or.inr (Or.inl emptied)
    | drops _ _ through => exact Or.inr (Or.inl through.held)
  | answers party stage reply _ turn expects answering =>
    cases answering with
    | looksUp _ _ _ held => exact Or.inl held
    | gains _ _ login expiresAt _ seeks gained ends through =>
      refine Or.inr (Or.inr ⟨party, ⟨stage, reply, login, turn, rfl, gained, ?_⟩, seeks⟩)
      rw [after, through.held, placed_held]
      rfl
    | overflows _ _ _ _ _ _ through => exact Or.inl through.held
    | reopens _ _ _ _ _ held => exact Or.inl held
    | ends _ _ _ _ _ through => exact Or.inl through.held

/-- With no token in use, only a reader that logs in puts one in use. -/
theorem run_loggedOut (orderly : s.Orderly) (empty : s.held = none) (later : List SessionEvent) :
    (s.run later).held = none ∨ ∃ early event rest ticket, later = early ++ event :: rest ∧
      (s.run early).held = none ∧ (s.run early).Installs event (.reader ticket) := by
  induction later generalizing s with
  | nil => exact Or.inl empty
  | cons event rest ih =>
    have go_on : (s.step event).held = none → (s.run (event :: rest)).held = none ∨
        ∃ early event' rest' ticket, event :: rest = early ++ event' :: rest' ∧
          (s.run early).held = none ∧ (s.run early).Installs event' (.reader ticket) := by
      intro still
      rcases ih (step_orderly orderly event) still with out | found
      · exact Or.inl out
      · obtain ⟨early, event', rest', ticket, rfl, before, installs⟩ := found
        exact Or.inr ⟨event :: early, event', rest', ticket, rfl, before, installs⟩
    rcases step_held orderly event with kept | emptied | ⟨party, installs, seeks⟩
    · exact go_on (kept.trans empty)
    · exact go_on emptied
    · cases party with
      | reader ticket => exact Or.inr ⟨[], event, rest, ticket, rfl, empty, installs⟩
      | refresher generation =>
        have current : s.generation? = some generation := seeks
        rw [generation?, empty] at current
        cases current
      | revoker ticket => exact seeks.elim

theorem installs_current {generation : Nat} (orderly : s.Orderly)
    (installs : s.Installs event (.refresher generation)) :
    s.generation? = some generation := by
  obtain ⟨stage, reply, login, turn, _, gained, _⟩ := installs
  refine refresher_current orderly turn ?_
  rintro rfl
  cases reply <;> cases gained

theorem run_installs_newer {generation : Nat} (orderly : s.Orderly) (empty : s.held = none)
    (early : List SessionEvent) (installs : (s.run early).Installs event (.refresher generation)) :
    s.issued < generation := by
  have current := installs_current (run_orderly orderly early) installs
  have gone : s.generation? ≠ some generation := by simp [generation?, empty]
  by_contra known
  exact run_replaced orderly (Nat.not_lt.mp known) gone early current

/-! ### The runs of a new session -/

theorem new_renewsHeld (policy : SessionPolicy) (issuer : Issuer) :
    (new policy issuer).RenewsHeld := by
  simp [RenewsHeld, new]

theorem new_run_places {events : List SessionEvent}
    (same : (new policy issuer).renewalsSame events = true) (token : Hidden) :
    ((new policy issuer).run events).places token ≤
      ((new policy issuer).logins events).count token := by
  have places := run_places (orderly_new policy issuer) (new_renewsHeld policy issuer) events same
    token
  have nowhere : (new policy issuer).places token = 0 := rfl
  rwa [nowhere, Nat.zero_add] at places

theorem new_run_revocations_nodup {events : List SessionEvent}
    (distinct : ((new policy issuer).logins events).Nodup)
    (same : (new policy issuer).renewalsSame events = true) :
    ((new policy issuer).run events).revocations.Nodup := by
  rw [List.nodup_iff_count_le_one] at distinct ⊢
  intro token
  have places := new_run_places same token
  have once := distinct token
  unfold Session.places at places
  omega

theorem new_run_given {events : List SessionEvent} {held : HeldToken}
    (same : (new policy issuer).renewalsSame events = true)
    (own : ((new policy issuer).run events).held = some held) :
    held.token ∈ (new policy issuer).logins events := by
  have places := new_run_places same held.token
  have there : 1 ≤ ((new policy issuer).run events).places held.token := by
    simp only [Session.places, own, Option.map_some, Option.toList_some, List.count_singleton_self]
    omega
  exact List.count_pos_iff.mp (by omega)

/-- Nothing brings back what was revoked. -/
theorem revocation_final (policy : SessionPolicy) (issuer : Issuer) (events : List SessionEvent)
    (distinct : ((new policy issuer).logins events).Nodup)
    (same : (new policy issuer).renewalsSame events = true) :
    let start := new policy issuer
    (start.run events).revocations.Nodup ∧
    (∀ token ∈ (start.run events).revocations, ∃ method, issuer = .store method true) ∧
    ∀ before event later ticket held, events = before ++ event :: later →
      (start.run before).Enters event (.revoker ticket) → (start.run before).held = some held →
      let taken := (start.run before).step event
      taken.isLoggedIn = false ∧
      ((taken.run later).isLoggedIn = false ∨ ∃ early event' rest reader,
        later = early ++ event' :: rest ∧ (taken.run early).isLoggedIn = false ∧
        (taken.run early).Installs event' (.reader reader)) ∧
      (∀ early event' rest generation, later = early ++ event' :: rest →
        (taken.run early).Installs event' (.refresher generation) → taken.issued < generation) ∧
      ∃ fresh, (taken.run later).handed = fresh ++ taken.handed ∧
        ∀ entry ∈ fresh, entry.2 ≠ held.token := by
  intro start
  have fresh : start.Orderly := orderly_new policy issuer
  have owned := run_revocations fresh events (by simp [start, new, revocations])
  refine ⟨new_run_revocations_nodup distinct same,
    fun token member => Issuer.ownsToken_iff.mp (owned token member), ?_⟩
  rintro before event later ticket held rfl enters own taken
  have orderly : (start.run before).Orderly := run_orderly fresh before
  have orderly' : taken.Orderly := step_orderly orderly event
  have renews : (start.run before).RenewsHeld :=
    run_renewsHeld fresh (new_renewsHeld policy issuer) before
  have renews' : taken.RenewsHeld := step_renewsHeld orderly renews event
  rw [renewalsSame_append, Bool.and_eq_true, renewalsSame, Bool.and_eq_true] at same
  obtain ⟨same_before, _, same_later⟩ := same
  obtain ⟨out, unlooked⟩ : taken.held = none ∧ taken.lookedUp? = none := enters_taken enters
  refine ⟨by rw [isLoggedIn, out]; rfl, ?_, ?_, ?_⟩
  · rcases run_loggedOut orderly' out later with still | found
    · exact Or.inl (by rw [isLoggedIn, still]; rfl)
    · obtain ⟨early, event', rest, reader, split, before_out, installs⟩ := found
      have logged_out : (taken.run early).isLoggedIn = false := by rw [isLoggedIn, before_out]; rfl
      exact Or.inr ⟨early, event', rest, reader, split, logged_out, installs⟩
  · rintro early event' rest generation rfl installs
    exact run_installs_newer orderly' out early installs
  · have lacks : taken.Lacks held.token := by simp [Lacks, out, unlooked]
    -- the token was in use, so some login before gave it, and no other login does
    have given : held.token ∈ start.logins before := new_run_given same_before own
    rw [logins_append] at distinct
    have apart := List.disjoint_of_nodup_append distinct given
    refine run_lacks orderly' renews' later same_later lacks fun again => ?_
    exact apart (List.mem_append_right _ again)

/-- A refresh is in front of the revocation and another one behind it, and a reader comes last. -/
theorem revoked_behind_refresh :
    let first : LoginToken := ⟨⟨"hvs.first"⟩, Span.seconds 60, true⟩
    let second : LoginToken := ⟨⟨"hvs.second"⟩, Span.seconds 60, true⟩
    let start := new .default (.store "approle" true)
    let before : List SessionEvent := [.request 1 .token, .answer (.loggedIn (.ok first)),
      .pass (Span.seconds 55), .fire 1, .request 2 .revoke, .answer (.renewed (.ok first)),
      .pass (Span.seconds 55), .fire 2]
    let later : List SessionEvent := [.answer (.revoked (.ok ())), .enter, .request 3 .token,
      .answer (.loggedIn (.ok second))]
    let s := start.run (before ++ .enter :: later)
    (start.logins (before ++ .enter :: later)).Nodup ∧
      start.renewalsSame (before ++ .enter :: later) = true ∧ s.revocations = [first.token] ∧
      s.handed = [(3, second.token), (1, first.token)] ∧
      ((start.run before).step .enter).isLoggedIn = false := by
  intro first second start before later s
  have distinct : (start.logins (before ++ .enter :: later)).Nodup := by decide +kernel
  have same : start.renewalsSame (before ++ .enter :: later) = true := by decide +kernel
  obtain ⟨_, _, final⟩ := revocation_final .default (.store "approle" true)
    (before ++ .enter :: later) distinct same
  have granted : (start.run before).turn = some ⟨.revoker 2, .granted⟩ := by decide +kernel
  have own : (start.run before).held = some ⟨first.token, some (Span.seconds 115), true, 2⟩ := by
    decide +kernel
  obtain ⟨out, _⟩ := final before .enter later 2 _ rfl (.granted _ granted) own
  exact ⟨distinct, same, by decide +kernel, by decide +kernel, out⟩

end Session
end LeaseKeeper

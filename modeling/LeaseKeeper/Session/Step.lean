import LeaseKeeper.Session.State
/-!
The session from one store answer, timer or request to the next. Everything between two of these
happens at once; an event that does not fit the state is refused and changes nothing.
-/
namespace LeaseKeeper

inductive TokenReply where
  | loggedIn (result : Except Fault LoginToken)
  | lookedUp (result : Except Fault TokenLookup)
  | renewed (result : Except Fault LoginToken)
  | revoked (result : Except Fault Unit)

inductive SessionRequest where
  | token
  | revoke
  deriving DecidableEq, Repr

inductive SessionEvent where
  | request (ticket : Nat) (request : SessionRequest)
  | enter
  | answer (reply : TokenReply)
  | fire (generation : Nat)
  | stop (generation : Nat)
  | pass (span : Nat)
  | shift (change : Int)
  | disown

namespace Session

/-! ### Turns -/

def release (s : Session) : Session :=
  match s.queue with
  | [] => { s with turn := none }
  | party :: queue => { s with turn := some ⟨party, .granted⟩, queue }.note (.granted party)

def complete (s : Session) (ticket : Nat) (answer : SessionAnswer) : Session :=
  (s.note (.returned ticket answer)).release

def call (s : Session) (party : Party) (stage : TurnStage) (call : TokenCall) : Session :=
  { s with turn := some ⟨party, stage⟩ }.note (.call call)

/-! ### Outcomes -/

/-- A refresh failed: the token stays and is not refreshed again. -/
def failRefresh (s : Session) (fault : Fault) : Session :=
  ((s.count (.refresh false)).cancelRefresh.emit (.refreshFailed fault)).release

def finishRefresh (s : Session) (generation : Nat) (login : LoginToken) (renewed : Bool) :
    Session :=
  match (s.count (.refresh true)).install (some generation) login with
  | (s, .installed expiresAt) =>
    (s.emit (if renewed then .renewed expiresAt else .loggedIn expiresAt)).release
  | (s, .outdated) => s.release
  | (s, .overflow) => s.release

def finishLogin (s : Session) (ticket : Nat) (login : LoginToken) : Session :=
  match s.install none login with
  | (s, .installed expiresAt) =>
    (s.emit (.loggedIn expiresAt)).complete ticket (.token (.ok login.token))
  | (s, .outdated) => (s.emit (.loggedIn none)).complete ticket (.token (.ok login.token))
  | (s, .overflow) => s.complete ticket .crashed

def obtained (s : Session) (party : Party) (login : LoginToken) : Session :=
  match party with
  | .reader ticket => s.finishLogin ticket login
  | .refresher generation => s.finishRefresh generation login false
  | .revoker _ => s

/-- A login went through; a token without a reported validity is looked up. -/
def loggedIn (s : Session) (party : Party) (login : LoginToken) : Session :=
  let s := s.count (.login s.issuer.method true)
  if login.ttl = 0 then s.call party (.lookingUp login) (.lookUp login.token)
  else s.obtained party login

def loginFailed (s : Session) (party : Party) (fault : Fault) : Session :=
  let s := s.count (.login s.issuer.method false)
  match party with
  | .reader ticket => s.complete ticket (.token (.error fault))
  | .refresher _ => s.failRefresh fault
  | .revoker _ => s

def authenticate (s : Session) (party : Party) : Session :=
  match s.issuer with
  | .supplied token => s.loggedIn party (.of token)
  | .store _ _ => s.call party .loggingIn .login

/-! ### What a party does with its turn -/

def read (s : Session) (ticket : Nat) : Session :=
  match s.valid? with
  | some token => s.complete ticket (.token (.ok token))
  | none => s.authenticate (.reader ticket)

/-- Takes the token away, and revokes it where the session obtained it. -/
def revoke (s : Session) (ticket : Nat) : Session :=
  let taken := { s.cancelRefresh with held := none }
  match s.held with
  | none => taken.complete ticket .done
  | some held =>
    if s.issuer.ownsToken then taken.call (.revoker ticket) .revoking (.revoke held.token)
    else taken.complete ticket .done

def refresh (s : Session) (generation : Nat) : Session :=
  match s.held with
  | none => s.release
  | some held =>
    if held.generation = generation then
      if held.renewable then s.call (.refresher generation) .renewing (.renew held.token)
      else s.authenticate (.refresher generation)
    else s.release

def serve (s : Session) : Party → Session
  | .reader ticket => s.read ticket
  | .revoker ticket => s.revoke ticket
  | .refresher generation => s.refresh generation

/-- A party asks for its turn, and takes it up at once when nobody else has it. -/
def ask (s : Session) (party : Party) : Session :=
  match s.turn with
  | some _ => { s with queue := s.queue ++ [party] }
  | none => { s with turn := some ⟨party, .granted⟩ }.serve party

/-! ### Events -/

def request (s : Session) (ticket : Nat) : SessionRequest → Session
  | .revoke => s.ask (.revoker ticket)
  | .token =>
    match s.valid? with
    | some token => s.note (.returned ticket (.token (.ok token)))
    | none => s.ask (.reader ticket)

def enter (s : Session) : Session :=
  match s.turn with
  | some ⟨party, .granted⟩ => s.serve party
  | _ => s

/-- The renewal of a refresh is answered. An exhausted token is replaced by a login. -/
def renewed (s : Session) (party : Party) (generation : Nat) :
    Except Fault LoginToken → Session
  | .error fault => s.failRefresh fault
  | .ok login =>
    if s.isExhausted login then (s.emit (.expired s.expiresAt)).authenticate party
    else s.finishRefresh generation login true

def lookedUp (s : Session) (party : Party) (login : LoginToken) :
    Except Fault TokenLookup → Session
  | .ok found => s.obtained party ⟨login.token, found.ttl, found.renewable⟩
  | .error _ => s.obtained party login

def answer (s : Session) (reply : TokenReply) : Session :=
  match s.turn with
  | none => s
  | some ⟨party, stage⟩ =>
    match stage, reply with
    | .loggingIn, .loggedIn (.ok login) => s.loggedIn party login
    | .loggingIn, .loggedIn (.error fault) => s.loginFailed party fault
    | .lookingUp login, .lookedUp result => s.lookedUp party login result
    | .renewing, .renewed result =>
      match party with
      | .refresher generation => s.renewed party generation result
      | _ => s
    | .revoking, .revoked result =>
      match party, result with
      | .revoker ticket, .ok _ => (s.emit .revoked).complete ticket .done
      | .revoker ticket, .error _ => s.complete ticket .done
      | _, _ => s
    | _, _ => s

/-- A refresh timer runs out. With nobody left who could reach the session nothing follows. -/
def fire (s : Session) (generation : Nat) : Session :=
  match s.waits.lookup generation with
  | none => s
  | some due =>
    if due ≤ s.now then
      let fired := { s with waits := s.waits.filter (·.1 != generation) }
      if s.isHeld then fired.ask (.refresher generation) else fired
    else s

def stop (s : Session) (generation : Nat) : Session :=
  if s.cancelled.contains generation then
    { s with waits := s.waits.filter (·.1 != generation) }
  else s

def step (s : Session) : SessionEvent → Session
  | .request ticket request => s.request ticket request
  | .enter => s.enter
  | .answer reply => s.answer reply
  | .fire generation => s.fire generation
  | .stop generation => s.stop generation
  | .pass span => { s with now := s.now + span }
  | .shift change => { s with skew := s.skew + change }
  | .disown => { s with owned := false }

def run (s : Session) (events : List SessionEvent) : Session := events.foldl step s

end Session
end LeaseKeeper

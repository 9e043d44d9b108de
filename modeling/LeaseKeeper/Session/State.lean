import LeaseKeeper.Listeners.Registry
import LeaseKeeper.Login
import LeaseKeeper.Metrics
import LeaseKeeper.Policy
/-!
The session with the store: the token in use, the timer that refreshes it, and the queue of those
who want to read, refresh or revoke it. One party at a time has its turn, in the order of asking,
and only that party talks to the store or changes the token.
-/
namespace LeaseKeeper

inductive Issuer where
  /-- The token comes from outside, without a call and without a known validity. -/
  | supplied (token : Hidden)
  | store (method : String) (owned : Bool)
  deriving DecidableEq, Repr

namespace Issuer

def method : Issuer → String
  | supplied _ => "token"
  | store method _ => method

def ownsToken : Issuer → Bool
  | supplied _ => false
  | store _ owned => owned

theorem ownsToken_iff {issuer : Issuer} :
    issuer.ownsToken = true ↔ ∃ method, issuer = .store method true := by
  cases issuer <;> simp [ownsToken]

def ofLogin (login : Login) : Issuer :=
  match login with
  | .staticToken token => .supplied token
  | .approle _ _ _ => .store login.method login.ownsToken

end Issuer

/-- Who wants a turn: a reader or a revocation, known by its ticket, or the refresh of a
generation. -/
inductive Party where
  | reader (ticket : Nat)
  | revoker (ticket : Nat)
  | refresher (generation : Nat)
  deriving DecidableEq, Repr

inductive TurnStage where
  | granted
  | loggingIn
  | lookingUp (login : LoginToken)
  | renewing
  | revoking
  deriving DecidableEq, Repr

structure Turn where
  party : Party
  stage : TurnStage
  deriving DecidableEq, Repr

/-- The token in use. Instants are readings of the wall clock; no `expiresAt` means never. -/
structure HeldToken where
  token : Hidden
  expiresAt : Option Int
  renewable : Bool
  generation : Nat
  deriving DecidableEq, Repr

inductive TokenEvent where
  | loggedIn (expiresAt : Option Int)
  | renewed (expiresAt : Option Int)
  | expired (expiresAt : Option Int)
  | refreshFailed (fault : Fault)
  | revoked
  deriving DecidableEq, Repr

inductive TokenCall where
  | login
  | renew (token : Hidden)
  | lookUp (token : Hidden)
  | revoke (token : Hidden)
  deriving DecidableEq, Repr

inductive SessionAnswer where
  | token (result : Except Fault Hidden)
  | done
  /-- The token outlasts the calendar; the request died where it stood. -/
  | crashed

inductive SessionEntry where
  | call (call : TokenCall)
  | armed (generation due : Nat)
  | granted (party : Party)
  | event (e : TokenEvent)
  | returned (ticket : Nat) (answer : SessionAnswer)

structure Session where
  policy : SessionPolicy
  issuer : Issuer
  now : Nat
  /-- How far the wall clock is ahead of `now`. -/
  skew : Int
  owned : Bool
  held : Option HeldToken
  issued : Nat
  /-- The generation whose refresh is pending or was the last to fire. -/
  timer : Option Nat
  /-- Refresh tasks that wait for their timer: generation and time. -/
  waits : List (Nat × Nat)
  cancelled : List Nat
  turn : Option Turn
  queue : List Party
  listeners : Listeners.Registry Unit
  metrics : Metrics
  journal : List (Nat × SessionEntry)

namespace Session

def new (policy : SessionPolicy) (issuer : Issuer) : Session :=
  ⟨policy, issuer, 0, 0, true, none, 0, none, [], [], none, [], .empty, [], []⟩

def clock (s : Session) : Int := s.now + s.skew

def isLoggedIn (s : Session) : Bool := s.held.isSome

def expiresAt (s : Session) : Option Int := s.held.bind HeldToken.expiresAt

def generation? (s : Session) : Option Nat := s.held.map HeldToken.generation

/-- Somebody can still reach the session: its owner, or a party with or before its turn. -/
def isHeld (s : Session) : Bool := s.owned || s.turn.isSome || !s.queue.isEmpty

def isRefreshScheduled (s : Session) : Bool := s.timer.isSome

def remaining (s : Session) (expiresAt : Int) : Nat := (expiresAt - s.clock).toNat

def valid? (s : Session) : Option Hidden :=
  match s.held with
  | none => none
  | some held =>
    match held.expiresAt with
    | none => some held.token
    | some expiresAt =>
      if s.policy.threshold ≤ s.remaining expiresAt then some held.token else none

def note (s : Session) (entry : SessionEntry) : Session :=
  { s with journal := (s.now, entry) :: s.journal }

def emit (s : Session) (e : TokenEvent) : Session := s.note (.event e)

def count (s : Session) (m : Measure) : Session := { s with metrics := s.metrics.count m }

/-! ### The token and its timer -/

/-- The longest validity that can be counted; a longer one never ends. -/
def longestTtl : Nat := Span.millis 9223372036854775807

/-- The calendar ends with the year 262142, as a span since time zero at the start of 2024. -/
def calendarEnd : Int := Span.seconds 8208562809600

/-- When a validity that starts now ends, which may be never; `none` when the calendar ends
first. -/
def endOf? (s : Session) (ttl : Nat) : Option (Option Int) :=
  if ttl = 0 ∨ longestTtl < ttl then some none
  else if s.clock + ttl < calendarEnd then some (some (s.clock + ttl))
  else none

def cancelRefresh (s : Session) : Session :=
  match s.timer with
  | none => s
  | some generation => { s with timer := none, cancelled := generation :: s.cancelled }

def arm (s : Session) (generation delay : Nat) : Session :=
  let due := s.now + delay
  { s.cancelRefresh with
    timer := some generation
    waits := s.waits ++ [(generation, due)] }.note (.armed generation due)

inductive Installation where
  | installed (expiresAt : Option Int)
  | outdated
  | overflow
  deriving DecidableEq, Repr

/-- Replaces the token, if the one in use is still of the expected generation where one is
expected. A token too short-lived to be handed out is not refreshed. -/
def install (s : Session) (expected : Option Nat) (login : LoginToken) : Session × Installation :=
  match s.endOf? login.ttl with
  | none => (s, .overflow)
  | some expiresAt =>
    let generation := s.issued + 1
    let issued := { s with issued := generation }
    if expected.isSome && s.generation? != expected then (issued, .outdated)
    else
      let placed := { issued with
        held := some ⟨login.token, expiresAt, login.renewable, generation⟩ }.cancelRefresh
      if expiresAt.isSome && s.policy.threshold ≤ login.ttl then
        (placed.arm generation (login.ttl - s.policy.lead), .installed expiresAt)
      else (placed, .installed expiresAt)

def isExhausted (s : Session) (renewed : LoginToken) : Bool :=
  renewed.ttl != 0 && renewed.ttl < s.policy.threshold

end Session
end LeaseKeeper

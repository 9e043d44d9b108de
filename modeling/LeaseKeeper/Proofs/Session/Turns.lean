import LeaseKeeper.Proofs.Session.Changes

/-!
One party at a time. Whatever comes in whatever order, the store has at most one call of the session
to answer, only the party whose turn it is touches the token, and whoever waited for its turn uses
the token that another obtained meanwhile.
-/
namespace LeaseKeeper

def SessionEntry.isCall : SessionEntry → Bool
  | .call _ => true
  | _ => false

namespace Session

variable {s s' t : Session} {party : Party} {given : Option LoginToken} {event : SessionEvent}
  {stage : TurnStage} {policy : SessionPolicy} {issuer : Issuer} {events : List SessionEvent}

/-! ### Calls -/

def calls (s : Session) : Nat := s.journal.countP (·.2.isCall)

def answered (s : Session) : List SessionEvent → Nat
  | [] => 0
  | event :: rest => (s.takes event).toNat + (s.step event).answered rest

def isAsking (s : Session) : Bool := s.turn.any (·.stage.isCalling)

theorem calls_plain {fresh : List (Nat × SessionEntry)}
    (plain : ∀ entry ∈ fresh, entry.2.isAside = true) :
    fresh.countP (fun entry : Nat × SessionEntry => entry.2.isCall) = 0 := by
  rw [List.countP_eq_zero]
  rintro ⟨time, entry⟩ member
  have aside := plain _ member
  cases entry with
  | call call => cases aside
  | _ => exact Bool.false_ne_true

theorem calls_cancelRefresh (s : Session) : s.cancelRefresh.calls = s.calls := by
  rw [cancelRefresh_eq]
  rfl

theorem calls_placed (s : Session) (login : LoginToken) (expiresAt : Option Int) :
    (s.placed login expiresAt).calls = s.calls := by
  unfold placed
  split
  · exact List.countP_cons_of_neg Bool.false_ne_true
  · rfl

theorem Settled.calls (settled : Settled s s') : s'.calls = s.calls ∧ s'.isAsking = false := by
  cases settled with
  | passed turn queue metrics fresh plain granted =>
    constructor
    · simp only [Session.calls, List.countP_append, calls_plain plain, Nat.zero_add]
    · cases turn with
      | none => rfl
      | some own => simp [isAsking, granted own rfl, TurnStage.isCalling]

theorem Served.calls (served : Served s party given s') :
    s'.calls = s.calls + s'.isAsking.toNat := by
  cases served with
  | settled _ settled => simp [settled.calls]
  | called stage call metrics fresh plain calling =>
    have asking : stage.isCalling = true := calling
    have one : (SessionEntry.call call).isCall = true := rfl
    simp [Session.calls, isAsking, List.countP_append, calls_plain plain, asking, one]
  | failed _ _ _ _ settled => simp [settled.calls, calls_cancelRefresh]
  | installed _ login expiresAt _ _ settled => simp [settled.calls, calls_placed]
  | dropped _ settled =>
    have same : s.emptied.calls = s.calls := rfl
    simp [settled.calls, same]
  | revoking ticket token =>
    simp [Session.calls, isAsking, SessionEntry.isCall, TurnStage.isCalling]

theorem Comes.same {s₀ : Session} (comes : s.Comes event s₀ party) :
    s₀.calls = s.calls ∧ s₀.turn = s.turn ∧ s.takes event = false := by
  cases comes <;> exact ⟨rfl, rfl, rfl⟩

theorem Change.handed (change : Change s given s') :
    s'.issued = s.issued ∨ s'.issued = s.issued + 1 ∧ s'.generation? = some (s.issued + 1) := by
  cases change with
  | kept idles => exact Or.inl idles.issued
  | cancelled idles =>
    rw [cancelRefresh_eq] at idles
    exact Or.inl idles.issued
  | installed login expiresAt obtained ends idles =>
    right
    constructor
    · rw [idles.issued, placed_issued]
    · simp [generation?, idles.held, placed_held]
  | dropped idles => exact Or.inl idles.issued

theorem Settled.held (settled : Settled s s') : s'.held = s.held := by
  cases settled
  rfl

end Session
end LeaseKeeper

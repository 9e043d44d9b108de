import LeaseKeeper.Proofs.Session.Outcomes

/-!
What a step changes of the token and its timer, whoever has the turn. The token stays, is replaced
by one just gained, or is dropped; the timer stays or is cancelled, and a new one is set only for a
new token.
-/
namespace LeaseKeeper

def SessionEntry.armed? : SessionEntry → Option Nat
  | .armed generation _ => some generation
  | _ => none

namespace Session

variable {s s₁ s' : Session} {party : Party} {given : Option LoginToken} {event : SessionEvent}

def armed (s : Session) : List Nat := s.journal.filterMap (·.2.armed?)

theorem armed_plain {fresh : List (Nat × SessionEntry)}
    (plain : ∀ entry ∈ fresh, entry.2.isAside = true) :
    fresh.filterMap (fun entry : Nat × SessionEntry => entry.2.armed?) = [] := by
  refine List.filterMap_eq_nil_iff.mpr ?_
  rintro ⟨time, entry⟩ member
  have aside := plain _ member
  cases entry with
  | armed generation due => cases aside
  | _ => rfl

structure Idles (s s' : Session) : Prop where
  policy : s'.policy = s.policy
  held : s'.held = s.held
  issued : s'.issued = s.issued
  timer : s'.timer = s.timer
  cancelled : s'.cancelled = s.cancelled
  armed : s'.armed = s.armed
  waits : ∀ entry ∈ s'.waits, entry ∈ s.waits

namespace Idles

theorem refl (s : Session) : Idles s s := ⟨rfl, rfl, rfl, rfl, rfl, rfl, fun _ => id⟩

theorem trans (first : Idles s s₁) (second : Idles s₁ s') : Idles s s' :=
  ⟨second.policy.trans first.policy, second.held.trans first.held,
    second.issued.trans first.issued, second.timer.trans first.timer,
    second.cancelled.trans first.cancelled, second.armed.trans first.armed,
    fun entry member => first.waits entry (second.waits entry member)⟩

theorem of_settled (settled : Settled s s') : Idles s s' := by
  cases settled with
  | passed turn queue metrics fresh plain granted =>
    refine ⟨rfl, rfl, rfl, rfl, rfl, ?_, fun _ => id⟩
    simp only [Session.armed, List.filterMap_append, armed_plain plain, List.nil_append]

theorem left (s : Session) (generation : Nat) : Idles s (s.left generation) :=
  ⟨rfl, rfl, rfl, rfl, rfl, rfl, fun _ member => (List.mem_filter.mp member).1⟩

theorem of_comes {s₀ : Session} (comes : s.Comes event s₀ party) : Idles s s₀ := by
  cases comes with
  | revoker => exact refl s
  | reader => exact refl s
  | refresher generation => exact left s generation

end Idles

def gained? (s : Session) : SessionEvent → Option LoginToken
  | .answer reply => s.turn.bind fun turn => s.gains? turn.stage reply
  | _ => none

inductive Change (s : Session) (given : Option LoginToken) (s' : Session) : Prop where
  | kept (idles : Idles s s')
  | cancelled (idles : Idles s.cancelRefresh s')
  | installed (login : LoginToken) (expiresAt : Option Int) (obtained : given = some login)
      (ends : s.endOf? login.ttl = some expiresAt) (idles : Idles (s.placed login expiresAt) s')
  | dropped (idles : Idles s.emptied s')

theorem Served.change (served : Served s party given s') : Change s given s' := by
  cases served with
  | settled _ settled => exact .kept (.of_settled settled)
  | called stage call metrics fresh plain =>
    refine .kept ⟨rfl, rfl, rfl, rfl, rfl, ?_, fun _ => id⟩
    have none_armed : (SessionEntry.call call).armed? = none := rfl
    simp only [armed, List.filterMap_cons, none_armed, List.filterMap_append, armed_plain plain,
      List.nil_append]
  | failed _ _ _ _ settled => exact .cancelled (.of_settled settled)
  | installed _ login expiresAt obtained ends settled =>
    exact .installed login expiresAt obtained ends (.of_settled settled)
  | dropped _ settled => exact .dropped (.of_settled settled)
  | revoking ticket token metrics => exact .dropped ⟨rfl, rfl, rfl, rfl, rfl, rfl, fun _ => id⟩

theorem Change.of_comes {s₀ : Session} (comes : s.Comes event s₀ party)
    (change : Change { s₀ with turn := some ⟨party, .granted⟩ } none s') : Change s none s' := by
  have idles := Idles.of_comes comes
  cases change with
  | kept later =>
    exact .kept (idles.trans ⟨later.policy, later.held, later.issued, later.timer, later.cancelled,
      later.armed, later.waits⟩)
  | cancelled later =>
    -- the timer of the session as it was, which coming has not touched
    rw [cancelRefresh_eq] at later
    refine .cancelled ?_
    rw [cancelRefresh_eq]
    refine ⟨later.policy.trans idles.policy, later.held.trans idles.held,
      later.issued.trans idles.issued, later.timer, later.cancelled.trans ?_,
      later.armed.trans idles.armed, fun entry member => idles.waits entry (later.waits _ member)⟩
    rw [← idles.timer, ← idles.cancelled]
  | installed login expiresAt obtained => cases obtained
  | dropped later =>
    refine .dropped ⟨later.policy.trans idles.policy, later.held, later.issued.trans idles.issued,
      later.timer, later.cancelled.trans ?_, later.armed.trans idles.armed,
      fun entry member => idles.waits entry (later.waits _ member)⟩
    rw [emptied, emptied, ← idles.timer, ← idles.cancelled]

theorem step_change (orderly : s.Orderly) (event : SessionEvent) :
    Change s (s.gained? event) (s.step event) := by
  have outcome := step_outcome orderly event
  generalize s.step event = s' at outcome ⊢
  cases outcome with
  | refused => exact .kept (.refl s)
  | told ticket token => exact .kept ⟨rfl, rfl, rfl, rfl, rfl, rfl, fun _ => id⟩
  | passed => exact .kept ⟨rfl, rfl, rfl, rfl, rfl, rfl, fun _ => id⟩
  | shifted => exact .kept ⟨rfl, rfl, rfl, rfl, rfl, rfl, fun _ => id⟩
  | disowned => exact .kept ⟨rfl, rfl, rfl, rfl, rfl, rfl, fun _ => id⟩
  | left _ generation => exact .kept (.left s generation)
  | queued _ s₀ party turn comes =>
    have idles := Idles.of_comes comes
    exact .kept ⟨idles.policy, idles.held, idles.issued, idles.timer, idles.cancelled, idles.armed,
      idles.waits⟩
  | entered _ s₀ _ party comes free served =>
    have none_given : s.gained? event = none := by cases comes <;> rfl
    rw [none_given]
    exact served.change.of_comes comes
  | resumed party _ turn served => exact served.change
  | answered party stage reply _ turn expects served =>
    have own : s.gained? (.answer reply) = s.gains? stage reply := by simp [gained?, turn]
    rw [own]
    exact served.change

/-! ### Turns stay in order -/

theorem Settled.orderly (settled : Settled s s') : s'.Orderly := by
  cases settled with
  | passed turn queue metrics fresh plain granted =>
    intro own same
    simp [Turn.Fits, granted own same]

theorem Served.orderly (served : Served s party given s') : s'.Orderly := by
  cases served with
  | settled _ settled => exact settled.orderly
  | called stage call metrics fresh plain calling fits =>
    intro own same
    obtain rfl := Option.some.inj same
    exact fits
  | failed _ _ _ _ settled => exact settled.orderly
  | installed _ login expiresAt obtained ends settled => exact settled.orderly
  | dropped _ settled => exact settled.orderly
  | revoking ticket token metrics own =>
    intro turn same
    obtain rfl := Option.some.inj same
    exact ⟨ticket, own⟩

theorem step_orderly (orderly : s.Orderly) (event : SessionEvent) : (s.step event).Orderly := by
  have outcome := step_outcome orderly event
  generalize s.step event = s' at outcome ⊢
  cases outcome with
  | refused => exact orderly
  | told => exact orderly
  | passed => exact orderly
  | shifted => exact orderly
  | disowned => exact orderly
  | left => exact orderly
  | queued _ s₀ party turn comes => cases comes <;> exact orderly
  | entered _ s₀ _ party comes free served => exact served.orderly
  | resumed party _ turn served => exact served.orderly
  | answered party stage reply _ turn expects served => exact served.orderly

theorem run_keep {P : Session → Prop} (each : ∀ s event, P s → P (s.step event)) (holds : P s)
    (events : List SessionEvent) : P (s.run events) := by
  induction events generalizing s with
  | nil => exact holds
  | cons event rest ih => exact ih (each s event holds)

theorem orderly_new (policy : SessionPolicy) (issuer : Issuer) : (new policy issuer).Orderly := by
  intro turn same
  cases same

theorem run_orderly (orderly : s.Orderly) (events : List SessionEvent) : (s.run events).Orderly :=
  run_keep (P := Orderly) (fun _ event orderly => step_orderly orderly event) orderly events

theorem refresher_current {stage : TurnStage} {generation : Nat} (orderly : s.Orderly)
    (turn : s.turn = some ⟨.refresher generation, stage⟩) (begun : stage ≠ .granted) :
    s.generation? = some generation := by
  have fits := orderly _ turn
  cases stage with
  | granted => exact (begun rfl).elim
  | loggingIn => exact fits
  | lookingUp login => exact fits
  | renewing =>
    obtain ⟨own, same, current⟩ := fits
    cases same
    exact current
  | revoking =>
    obtain ⟨ticket, own⟩ := fits
    cases own

/-! ### Generations -/

/-- Whatever token is in use later is the one in use before, or of a generation handed out in
between. -/
structure Follows (s s' : Session) : Prop where
  issued : s.issued ≤ s'.issued
  held : ∀ token, s'.held = some token →
    s.held = some token ∨ s.issued < token.generation ∧ token.generation ≤ s'.issued

theorem Follows.refl (s : Session) : Follows s s := ⟨Nat.le_refl _, fun _ => Or.inl⟩

theorem Follows.trans (first : Follows s s₁) (second : Follows s₁ s') : Follows s s' := by
  refine ⟨Nat.le_trans first.issued second.issued, ?_⟩
  intro token held
  have early := first.issued
  have late := second.issued
  rcases second.held token held with old | ⟨above, below⟩
  · rcases first.held token old with older | ⟨above, below⟩
    · exact Or.inl older
    · right
      omega
  · right
    omega

theorem placed_held (s : Session) (login : LoginToken) (expiresAt : Option Int) :
    (s.placed login expiresAt).held =
      some ⟨login.token, expiresAt, login.renewable, s.issued + 1⟩ := by
  unfold placed
  split <;> rfl

theorem placed_issued (s : Session) (login : LoginToken) (expiresAt : Option Int) :
    (s.placed login expiresAt).issued = s.issued + 1 := by
  unfold placed
  split <;> rfl

theorem Change.follows (change : Change s given s') : Follows s s' := by
  cases change with
  | kept idles =>
    exact ⟨Nat.le_of_eq idles.issued.symm, fun token held => Or.inl (idles.held ▸ held)⟩
  | cancelled idles =>
    rw [cancelRefresh_eq] at idles
    exact ⟨Nat.le_of_eq idles.issued.symm, fun token held => Or.inl (idles.held ▸ held)⟩
  | installed login expiresAt obtained ends idles =>
    have issued := idles.issued.trans (placed_issued s login expiresAt)
    refine ⟨by omega, fun token held => Or.inr ?_⟩
    rw [idles.held, placed_held] at held
    obtain rfl := Option.some.inj held
    dsimp only
    omega
  | dropped idles =>
    refine ⟨Nat.le_of_eq idles.issued.symm, fun token held => ?_⟩
    rw [idles.held] at held
    cases held

theorem run_follows (orderly : s.Orderly) (events : List SessionEvent) :
    Follows s (s.run events) := by
  induction events generalizing s with
  | nil => exact .refl s
  | cons event rest ih =>
    exact (step_change orderly event).follows.trans (ih (step_orderly orderly event))

theorem held_generation_le {policy : SessionPolicy} {issuer : Issuer} {events : List SessionEvent}
    {token : HeldToken} (held : ((new policy issuer).run events).held = some token) :
    token.generation ≤ ((new policy issuer).run events).issued := by
  rcases (run_follows (orderly_new policy issuer) events).held token held with none_held | bounds
  · cases none_held
  · exact bounds.2

end Session
end LeaseKeeper

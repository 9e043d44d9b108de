import LeaseKeeper.Proofs.Session.Sections

/-!
Tokens that never end. A token from a login is put in use without an end only after the store was
asked about it in the same turn, and knew none or did not answer. What a renewal gives is put in use
as it is, so a renewal that reports no validity makes a token endless that nobody asked about.
-/
namespace LeaseKeeper.Session

variable {s : Session} {event : SessionEvent} {stage : TurnStage} {reply : TokenReply}
  {login : LoginToken} {held : HeldToken} {policy : SessionPolicy} {issuer : Issuer}

/-- The store knows no end of the token, or cannot say. -/
def Unlimited : Except Fault TokenLookup → Prop
  | .ok found => found.ttl = 0
  | .error _ => True

def Resolves (event : SessionEvent) (asked : List TokenCall) (token : Hidden) : Prop :=
  .lookUp token ∈ asked ∧ ∃ result, event = .answer (.lookedUp result) ∧ Unlimited result

theorem endOf_unlimited {ttl : Nat} (ends : s.endOf? ttl = some none)
    (countable : ttl ≤ longestTtl) : ttl = 0 := by
  unfold endOf? at ends
  split at ends
  · rename_i endless
    omega
  · split at ends <;> cases ends

theorem step_installed (orderly : s.Orderly)
    (installed : (s.step event).issued = s.issued + 1) :
    ∃ login expiresAt, s.gained? event = some login ∧ s.endOf? login.ttl = some expiresAt ∧
      Idles (s.placed login expiresAt) (s.step event) := by
  cases step_change orderly event with
  | kept idles =>
    have same := idles.issued
    omega
  | cancelled idles =>
    rw [cancelRefresh_eq] at idles
    have same : (s.step event).issued = s.issued := idles.issued
    omega
  | installed login expiresAt obtained ends idles => exact ⟨login, expiresAt, obtained, ends, idles⟩
  | dropped idles =>
    have same : (s.step event).issued = s.issued := idles.issued
    omega

theorem gained_answer (gained : s.gained? event = some login) :
    ∃ party stage reply, event = .answer reply ∧ s.turn = some ⟨party, stage⟩ ∧
      s.gains? stage reply = some login := by
  cases event with
  | answer reply =>
    obtain ⟨turn, own, gives⟩ := Option.bind_eq_some_iff.mp gained
    exact ⟨turn.party, turn.stage, reply, rfl, own, gives⟩
  | _ => cases gained

theorem isCalling_of_gains (gains : s.gains? stage reply = some login) :
    stage.isCalling = true := by
  cases stage with
  | granted => cases reply <;> cases gains
  | _ => rfl

theorem not_revoker_of_gains {party : Party} (orderly : s.Orderly)
    (turn : s.turn = some ⟨party, stage⟩) (gains : s.gains? stage reply = some login) :
    ∀ ticket, party ≠ .revoker ticket := by
  rintro ticket rfl
  have fits := orderly _ turn
  cases stage with
  | granted => cases reply <;> cases gains
  | loggingIn => exact fits
  | lookingUp given => exact fits
  | renewing =>
    obtain ⟨generation, own, _⟩ := fits
    cases own
  | revoking => cases reply <;> cases gains

theorem gains_unknown (gains : s.gains? stage reply = some login) (unknown : login.ttl = 0) :
    (∃ given result, stage = .lookingUp given ∧ reply = .lookedUp result ∧
      given.token = login.token ∧ Unlimited result) ∨
      stage = .renewing ∧ reply = .renewed (.ok login) := by
  cases stage with
  | loggingIn =>
    cases reply with
    | loggedIn result =>
      cases result with
      | ok given =>
        simp only [gains?] at gains
        split at gains
        · cases gains
        · rename_i known
          obtain rfl := Option.some.inj gains
          exact (known unknown).elim
      | error fault => cases gains
    | _ => cases gains
  | lookingUp given =>
    cases reply with
    | lookedUp result =>
      cases result with
      | ok found =>
        obtain rfl := Option.some.inj gains
        exact Or.inl ⟨given, _, rfl, rfl, rfl, unknown⟩
      | error fault =>
        obtain rfl := Option.some.inj gains
        exact Or.inl ⟨given, _, rfl, rfl, rfl, trivial⟩
    | _ => cases gains
  | renewing =>
    cases reply with
    | renewed result =>
      cases result with
      | ok given =>
        simp only [gains?] at gains
        split at gains
        · cases gains
        · obtain rfl := Option.some.inj gains
          exact Or.inr ⟨rfl, rfl⟩
      | error fault => cases gains
    | _ => cases gains
  | _ => cases reply <;> cases gains

/-- Whenever a token is put in use that never ends, the store has been asked about it in the same
turn and knew no end, unless a renewal gave the token; then it has not been asked. -/
theorem unlimited_looked_up_iff (policy : SessionPolicy) (issuer : Issuer)
    (events : List SessionEvent) (event : SessionEvent) (held : HeldToken) :
    let start := new policy issuer
    let s := start.run events
    let s' := s.step event
    s'.issued = s.issued + 1 → s'.held = some held → held.expiresAt = none →
    (∀ login, s.gained? event = some login → login.ttl ≤ longestTtl) →
    ∃ before first within party asked, events = before ++ first :: within ∧
      (start.run before).Section party first within ∧
      s.asks = asked ++ (start.run before).asks ∧
      (Resolves event asked held.token ↔ ∀ result, event ≠ .answer (.renewed result)) ∧
      ∀ result, event = .answer (.renewed result) → ∃ login renewed,
        result = .ok login ∧ login.token = held.token ∧ login.ttl = 0 ∧
        asked = [.renew renewed] := by
  intro start s s' installed own endless countable
  have fresh : start.Orderly := orderly_new policy issuer
  have orderly : s.Orderly := run_orderly fresh events
  obtain ⟨login, expiresAt, gained, ends, idles⟩ := step_installed orderly installed
  have placed := idles.held.symm.trans own
  rw [placed_held] at placed
  obtain rfl := Option.some.inj placed
  obtain rfl : expiresAt = none := endless
  have unknown := endOf_unlimited ends (countable login gained)
  obtain ⟨party, stage, reply, rfl, turn, gains⟩ := gained_answer gained
  obtain ⟨before, first, within, split, sec⟩ :=
    run_section fresh rfl events stage turn (isCalling_of_gains gains)
  -- the course of the turn says what was asked for before the answer
  obtain ⟨stage', asked, turn', _, asks, course⟩ := sec.course (run_orderly fresh before)
    (not_revoker_of_gains orderly turn gains)
  have joined : (start.run before).run (first :: within) = s := by
    simp only [s, split, run, List.foldl_append]
  rw [joined] at turn' asks
  cases turn'.symm.trans turn
  refine ⟨before, first, within, party, asked, split, sec, asks, ?_⟩
  rcases gains_unknown gains unknown with ⟨given, result, rfl, rfl, same, unlimited⟩ | ⟨rfl, rfl⟩
  · have resolves : Resolves (.answer (.lookedUp result)) asked login.token :=
      ⟨same ▸ course.looked, result, rfl, unlimited⟩
    refine ⟨⟨fun _ result answered => ?_, fun _ => resolves⟩, fun result answered => ?_⟩
    · cases answered
    · cases answered
  · obtain ⟨renewed, _, rfl⟩ := course.renewed
    constructor
    · constructor
      · rintro ⟨_, result, lookedUp, _⟩
        cases lookedUp
      · exact fun apart => (apart _ rfl).elim
    · intro result answered
      cases answered
      exact ⟨login, renewed.token, rfl, rfl, unknown, rfl⟩

/-- The login reports no validity, and the lookup neither. -/
theorem endless_login_looked_up :
    let login : LoginToken := ⟨⟨"hvs.root"⟩, 0, false⟩
    let s := (new .default (.store "approle" true)).run
      [.request 1 .token, .answer (.loggedIn (.ok login))]
    (s.step (.answer (.lookedUp (.ok ⟨0, false⟩)))).held = some ⟨login.token, none, false, 1⟩ ∧
      .lookUp login.token ∈ s.asks := by
  intro login s
  obtain ⟨before, first, within, party, asked, split, sec, asks, resolves, _⟩ :=
    unlimited_looked_up_iff .default (.store "approle" true)
      [.request 1 .token, .answer (.loggedIn (.ok login))] (.answer (.lookedUp (.ok ⟨0, false⟩)))
      ⟨login.token, none, false, 1⟩ (by decide +kernel) (by decide +kernel) rfl (by
        intro given gained
        obtain rfl := Option.some.inj gained
        decide +kernel)
  have looked := (resolves.mpr (fun _ => nofun)).1
  refine ⟨by decide +kernel, ?_⟩
  rw [asks]
  exact List.mem_append_left _ looked

/-- The renewal reports no validity: the token never ends, and nobody has asked about it. -/
theorem renewed_endless_unasked :
    let login : LoginToken := ⟨⟨"hvs.first"⟩, Span.seconds 60, true⟩
    let s := (new .default (.store "approle" true)).run
      [.request 1 .token, .answer (.loggedIn (.ok login)), .pass (Span.seconds 55), .fire 1,
        .answer (.renewed (.ok ⟨login.token, 0, true⟩))]
    s.held = some ⟨login.token, none, true, 2⟩ ∧ .lookUp login.token ∉ s.asks := by
  decide +kernel

end LeaseKeeper.Session

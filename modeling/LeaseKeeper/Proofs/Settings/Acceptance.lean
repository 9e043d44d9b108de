import LeaseKeeper.Login
import LeaseKeeper.Settings.Validation
import LeaseKeeper.Store.Endpoint

/-!
Which settings are accepted, and what those who work with accepted settings can rely on: there is a
login, there is an endpoint, and no delay is zero or runs backwards. Whoever uses the settings looks
at them in its own way, so what it needs is proved of each of them.
-/
namespace LeaseKeeper.Settings

open Store

/-! ### Rules for single fields -/

theorem fieldRule_eq_nil_iff {name message : String} {holds : Bool} :
    fieldRule name holds message = [] ↔ holds = true := by
  cases holds <;> simp [fieldRule]

theorem nestedRule_eq_nil_iff {name : String} {entries : List (String × Findings)} :
    nestedRule name entries = [] ↔ entries = [] := by
  cases entries <;> simp [nestedRule]

theorem within_iff {low high n : Nat} : within low high n = true ↔ low ≤ n ∧ n ≤ high := by
  simp [within]

theorem not_isEmpty_iff {s : String} : (!s.isEmpty) = true ↔ s ≠ "" := by
  simp

/-- What is asked of an AppRole; its mount may be anything. -/
def HasIds (role : AppRole) : Prop := role.roleId ≠ "" ∧ role.secretId ≠ ""

theorem approleFindings_eq_nil_iff {role : AppRole} : approleFindings role = [] ↔ HasIds role := by
  simp only [approleFindings, List.append_eq_nil_iff, fieldRule_eq_nil_iff, not_isEmpty_iff, HasIds]

theorem storeFindings_eq_nil_iff {store : StoreSettings} :
    storeFindings store = [] ↔ store.address ≠ "" ∧
      (∀ role, store.approle = some role → HasIds role) ∧
      1 ≤ store.timeoutSeconds ∧ store.timeoutSeconds ≤ 300 := by
  have optional : (store.approle.map approleFindings).getD [] = [] ↔
      ∀ role, store.approle = some role → HasIds role := by
    cases store.approle with
    | none => simp
    | some role => simp [approleFindings_eq_nil_iff]
  simp only [storeFindings, List.append_eq_nil_iff, fieldRule_eq_nil_iff, nestedRule_eq_nil_iff,
    not_isEmpty_iff, within_iff, optional, and_assoc]

theorem leaseFindings_eq_nil_iff {times : LeaseTimes} :
    leaseFindings times = [] ↔ (1 ≤ times.floorSeconds ∧ times.floorSeconds ≤ 3600) ∧
      times.thresholdSeconds ≤ 86400 := by
  simp only [leaseFindings, List.append_eq_nil_iff, fieldRule_eq_nil_iff, within_iff, Nat.zero_le,
    true_and]

theorem sessionFindings_eq_nil_iff {times : SessionTimes} :
    sessionFindings times = [] ↔ times.leadSeconds ≤ 3600 ∧
      1 ≤ times.thresholdSeconds ∧ times.thresholdSeconds ≤ 3600 := by
  simp only [sessionFindings, List.append_eq_nil_iff, fieldRule_eq_nil_iff, within_iff, Nat.zero_le,
    true_and]

theorem reportingFindings_eq_nil_iff {reporting : Reporting} :
    reportingFindings reporting = [] ↔ reporting.serviceName ≠ "" ∧ reporting.logLevel ≠ "" := by
  simp only [reportingFindings, List.append_eq_nil_iff, fieldRule_eq_nil_iff, not_isEmpty_iff]

/-! ### Rules that join fields -/

def HasScheme (address : String) : Prop :=
  "http://".toList <+: address.toList ∨ "https://".toList <+: address.toList

theorem hasScheme_iff {address : String} : hasScheme address = true ↔ HasScheme address := by
  simp only [hasScheme, Bool.or_eq_true, String.startsWith_string_iff, HasScheme]

theorem HasScheme.ne_empty {address : String} (has : HasScheme address) : address ≠ "" := by
  rintro rfl
  rcases has with plain | secure
  · exact absurd (List.prefix_nil.mp plain) (by decide)
  · exact absurd (List.prefix_nil.mp secure) (by decide)

/-- A token to log in with; one that is empty is none. -/
def HasToken (store : StoreSettings) : Prop := ∃ token, store.token = some token ∧ token ≠ ""

theorem hasToken_iff {store : StoreSettings} : hasToken store = true ↔ HasToken store := by
  unfold hasToken HasToken
  cases store.token with
  | none => simp
  | some token => simp

structure Acceptable (s : Settings) : Prop where
  scheme : HasScheme s.store.address
  timeout : 1 ≤ s.store.timeoutSeconds ∧ s.store.timeoutSeconds ≤ 300
  approle : ∀ role, s.store.approle = some role → HasIds role
  floor : 1 ≤ s.lease.floorSeconds ∧ s.lease.floorSeconds ≤ 3600
  threshold : s.lease.thresholdSeconds ≤ 86400
  lead : s.session.leadSeconds ≤ 3600
  validity : 1 ≤ s.session.thresholdSeconds ∧ s.session.thresholdSeconds ≤ 3600
  lead_lt : s.session.leadSeconds < s.session.thresholdSeconds
  serviceName : s.reporting.serviceName ≠ ""
  logLevel : s.reporting.logLevel ≠ ""
  credentials : HasToken s.store ∨ s.store.approle.isSome = true

theorem findings_eq_nil_iff {s : Settings} :
    findings s = [] ↔ storeFindings s.store = [] ∧ leaseFindings s.lease = [] ∧
      sessionFindings s.session = [] ∧ reportingFindings s.reporting = [] := by
  simp only [findings, List.append_eq_nil_iff, nestedRule_eq_nil_iff, and_assoc]

theorem rules_eq_none_iff {broken : Prop} [Decidable broken] {e : SetupError}
    {others : Option SetupError} :
    (if broken then some e else others) = none ↔ ¬ broken ∧ others = none := by
  by_cases here : broken <;> simp [here]

theorem jointError?_eq_none_iff {s : Settings} :
    jointError? s = none ↔ HasScheme s.store.address ∧
      (HasToken s.store ∨ s.store.approle.isSome = true) ∧
      s.session.leadSeconds < s.session.thresholdSeconds := by
  have scheme : ¬ (!hasScheme s.store.address) = true ↔ HasScheme s.store.address := by
    rw [← hasScheme_iff]
    simp
  have credentials : ¬ (!hasToken s.store && s.store.approle.isNone) = true ↔
      HasToken s.store ∨ s.store.approle.isSome = true := by
    rw [← hasToken_iff]
    cases hasToken s.store <;> simp [Option.isSome_iff_ne_none]
  rw [jointError?, rules_eq_none_iff, rules_eq_none_iff, rules_eq_none_iff, scheme, credentials,
    Nat.not_le, and_iff_left rfl]

theorem validate_eq_ok_iff {s : Settings} :
    s.validate = .ok () ↔ findings s = [] ∧ jointError? s = none := by
  unfold validate
  cases findings s with
  | cons finding rest => simp
  | nil => cases jointError? s <;> simp

theorem acceptable_iff {s : Settings} : s.validate = .ok () ↔ s.Acceptable := by
  rw [validate_eq_ok_iff, findings_eq_nil_iff, jointError?_eq_none_iff, storeFindings_eq_nil_iff,
    leaseFindings_eq_nil_iff, sessionFindings_eq_nil_iff, reportingFindings_eq_nil_iff]
  constructor
  · rintro ⟨⟨⟨_, approle, timeout⟩, ⟨floor, threshold⟩, ⟨lead, validity⟩, service, level⟩,
      scheme, credentials, lead_lt⟩
    exact ⟨scheme, timeout, approle, floor, threshold, lead, validity, lead_lt, service, level,
      credentials⟩
  · intro a
    exact ⟨⟨⟨a.scheme.ne_empty, a.approle, a.timeout⟩, ⟨a.floor, a.threshold⟩, ⟨a.lead, a.validity⟩,
      a.serviceName, a.logLevel⟩, a.scheme, a.credentials, a.lead_lt⟩

/-! ### Those who use the settings -/

theorem seconds_lt_seconds {a b : Nat} : Span.seconds a < Span.seconds b ↔ a < b := by
  unfold Span.seconds
  omega

theorem login_of_credentials {store : StoreSettings}
    (credentials : HasToken store ∨ store.approle.isSome = true) :
    (∃ role, store.approle = some role ∧ Login.ofSettings store =
        some (.approle role.mount role.roleId ⟨role.secretId⟩)) ∨
      store.approle = none ∧ ∃ token, store.token = some token ∧ token ≠ "" ∧
        Login.ofSettings store = some (.staticToken ⟨token⟩) := by
  unfold Login.ofSettings
  cases configured : store.approle with
  | some role => exact Or.inl ⟨role, rfl, rfl⟩
  | none =>
    rcases credentials with ⟨token, own, filled⟩ | present
    · have kept : token.isEmpty = false := by simpa [String.isEmpty_iff] using filled
      exact Or.inr ⟨rfl, token, own, filled, by simp [own, kept]⟩
    · rw [configured] at present
      cases present

theorem endpoint_of_scheme {store : StoreSettings} (scheme : HasScheme store.address) :
    Endpoint.ofSettings store =
      .ok ⟨store.address, store.namespacePath, store.timeoutSeconds, none, none⟩ := by
  have filled : store.address.isEmpty = false := by
    simpa [String.isEmpty_iff] using scheme.ne_empty
  simp [Endpoint.ofSettings, filled]

structure Dependable (s : Settings) : Prop where
  login : (∃ role, s.store.approle = some role ∧
      Login.ofSettings s.store = some (.approle role.mount role.roleId ⟨role.secretId⟩)) ∨
    s.store.approle = none ∧ ∃ token, s.store.token = some token ∧ token ≠ "" ∧
      Login.ofSettings s.store = some (.staticToken ⟨token⟩)
  endpoint : Endpoint.ofSettings s.store =
    .ok ⟨s.store.address, s.store.namespacePath, s.store.timeoutSeconds, none, none⟩
  leaseTimes : s.lease.policy = ⟨Span.seconds s.lease.floorSeconds,
    Span.seconds s.lease.thresholdSeconds, s.lease.strategy⟩
  floor : 0 < s.lease.policy.floor
  sessionTimes : s.session.policy = ⟨Span.seconds s.session.leadSeconds,
    Span.seconds s.session.thresholdSeconds⟩
  lead : s.session.policy.lead < s.session.policy.threshold

theorem Acceptable.dependable {s : Settings} (a : s.Acceptable) : s.Dependable where
  login := login_of_credentials a.credentials
  endpoint := endpoint_of_scheme a.scheme
  leaseTimes := rfl
  floor := seconds_lt_seconds.mpr a.floor.1
  sessionTimes := rfl
  lead := seconds_lt_seconds.mpr a.lead_lt

/-- Settings are accepted exactly when they are as they should be, and then whoever uses them finds
what it needs. -/
theorem accepted_iff_acceptable (s : Settings) :
    (s.validate = .ok () ↔ s.Acceptable) ∧ (s.validate = .ok () → s.Dependable) :=
  ⟨acceptable_iff, fun accepted => (acceptable_iff.mp accepted).dependable⟩

/-- An AppRole beside a token, with limits that are just met. -/
theorem approle_beside_token :
    let s : Settings :=
      ⟨⟨"https://", some "hvs.1", none, some ⟨"app", "s3cret", "ci/approle"⟩, 300⟩,
        ⟨1, 86400, .dropOnError⟩, ⟨3599, 3600⟩, .default⟩
    s.validate = .ok () ∧
      Login.ofSettings s.store = some (.approle "ci/approle" "app" ⟨"s3cret"⟩) := by
  intro s
  obtain ⟨accepted, dependable⟩ := accepted_iff_acceptable s
  have acceptable : s.Acceptable := {
    scheme := Or.inr (by decide)
    timeout := by decide
    approle := by
      rintro other same
      obtain rfl := Option.some.inj same
      exact ⟨by decide, by decide⟩
    floor := by decide
    threshold := by decide
    lead := by decide
    validity := by decide
    lead_lt := by decide
    serviceName := by decide
    logLevel := by decide
    credentials := Or.inr rfl }
  have valid : s.validate = .ok () := accepted.mpr acceptable
  refine ⟨valid, ?_⟩
  rcases (dependable valid).login with ⟨other, same, picked⟩ | ⟨missing, _⟩
  · obtain rfl := Option.some.inj same
    exact picked
  · cases missing

end LeaseKeeper.Settings

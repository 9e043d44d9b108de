import LeaseKeeper.Proofs.Settings.Acceptance
import LeaseKeeper.Settings.Variables
/-!
Blank variables. A variable that holds the empty text counts as one that is not set, although three
kinds of readers come to this in three ways: the first text that is filled is taken, a blank number
or strategy cannot be read, and a blank flag is off, which is where every flag is by default. So
blanking any variables has the effect of taking them away.
-/
namespace LeaseKeeper

namespace Strategy

theorem lowerAscii_empty : lowerAscii "" = "" := by simp [lowerAscii]

theorem ofText?_empty : ofText? "" = none := by
  rw [ofText?, lowerAscii_empty]
  decide

end Strategy

namespace Variables

def filled (vars : Variables) : Variables := fun name => (vars name).filter fun s => !s.isEmpty

def blank (vars : Variables) (chosen : String → Bool) : Variables := fun name =>
  if chosen name then some "" else vars name

def unset (vars : Variables) (chosen : String → Bool) : Variables := fun name =>
  if chosen name then none else vars name

variable {vars : Variables} {chosen : String → Bool} {name : String}

theorem filled_eq_some_iff {value : String} :
    vars.filled name = some value ↔ vars name = some value ∧ value ≠ "" := by
  simp [filled, Option.filter_eq_some_iff]

theorem filled_eq (vars : Variables) (name : String) :
    vars name = some "" ∧ vars.filled name = none ∨ vars.filled name = vars name := by
  cases found : vars name with
  | none => simp [filled, found]
  | some value =>
    by_cases empty : value = ""
    · simp [filled, found, empty]
    · simp [filled, found, empty]

theorem blank_of_chosen (picked : chosen name = true) : vars.blank chosen name = some "" :=
  if_pos picked

theorem filled_blank (vars : Variables) (chosen : String → Bool) :
    (vars.blank chosen).filled = (vars.unset chosen).filled := by
  funext name
  by_cases picked : chosen name = true
  · simp [filled, blank, unset, picked]
  · simp [filled, blank, unset, picked]

/-! ### Three readers -/

theorem first_cons (vars : Variables) (name : String) (names : List String) :
    vars.first (name :: names) = (vars.filled name).or (vars.first names) := by
  unfold first filled
  cases found : vars name with
  | none => rw [List.filterMap_cons_none found, Option.filter_none, Option.none_or]
  | some value =>
    rw [List.filterMap_cons_some found, List.find?_cons, Option.filter_some]
    cases value.isEmpty <;> rfl

theorem first_single (vars : Variables) (name : String) : vars.first [name] = vars.filled name := by
  rw [first_cons, show vars.first [] = none from rfl, Option.or_none]

theorem first_pair (vars : Variables) (own common : String) :
    vars.first [own, common] = (vars.filled own).or (vars.filled common) := by
  rw [first_cons, first_single]

theorem first_filled (vars : Variables) (names : List String) :
    vars.filled.first names = vars.first names := by
  induction names with
  | nil => rfl
  | cons name names ih =>
    have twice : vars.filled.filled name = vars.filled name := by
      simp [filled, Option.filter_filter]
    rw [first_cons, first_cons, ih, twice]

section Reading

variable {α : Type} {read : String → Option α}

theorem readOr_of_blank (unreadable : read "" = none) (empty : vars name = some "")
    (default : α) : vars.readOr name read default = default := by
  simp [readOr, empty, unreadable]

theorem readOr_filled (unreadable : read "" = none) (vars : Variables) (name : String)
    (default : α) : vars.filled.readOr name read default = vars.readOr name read default := by
  rcases filled_eq vars name with ⟨empty, none⟩ | same
  · rw [readOr_of_blank unreadable empty, readOr, none]
    rfl
  · rw [readOr, same, readOr]

end Reading

theorem nat?_empty (limit : Nat) : nat? limit "" = none := rfl

theorem flagOr_of_blank (empty : vars name = some "") (default : Bool) :
    vars.flagOr name default = false := by
  simp only [flagOr, empty, Strategy.lowerAscii_empty]
  decide

/-- Only a flag that is off by default may be blank without being set. -/
theorem flagOr_filled (vars : Variables) (name : String) :
    vars.filled.flagOr name false = vars.flagOr name false := by
  rcases filled_eq vars name with ⟨empty, none⟩ | same
  · rw [flagOr_of_blank empty, flagOr, none]
  · rw [flagOr, same, flagOr]

end Variables

namespace Settings

open Variables

def default : Settings := ⟨.default, .default, .default, .default⟩

/-! ### Settings of variables -/

theorem storeOfVariables_filled (vars : Variables) :
    storeOfVariables vars.filled = storeOfVariables vars := by
  simp only [storeOfVariables, approleOfVariables, first_filled, readOr_filled (nat?_empty _)]

theorem leaseOfVariables_filled (vars : Variables) :
    leaseOfVariables vars.filled = leaseOfVariables vars := by
  simp only [leaseOfVariables, readOr_filled (nat?_empty _), readOr_filled Strategy.ofText?_empty]

theorem sessionOfVariables_filled (vars : Variables) :
    sessionOfVariables vars.filled = sessionOfVariables vars := by
  simp only [sessionOfVariables, readOr_filled (nat?_empty _)]

theorem reportingOfVariables_filled (vars : Variables) :
    reportingOfVariables vars.filled = reportingOfVariables vars := by
  simp only [reportingOfVariables, first_filled, readOr_filled (nat?_empty _), Reporting.default,
    flagOr_filled]

theorem ofVariables_filled (vars : Variables) : ofVariables vars.filled = ofVariables vars := by
  rw [ofVariables, storeOfVariables_filled, leaseOfVariables_filled, sessionOfVariables_filled,
    reportingOfVariables_filled, ofVariables]

theorem ofVariables_blank (vars : Variables) (chosen : String → Bool) :
    ofVariables (vars.blank chosen) = ofVariables (vars.unset chosen) := by
  rw [← ofVariables_filled, filled_blank, ofVariables_filled]

/-! ### What a blank variable leaves -/

/-- A setting with two variables: the second speaks where the first does not. -/
structure Fallback where
  own : String
  common : String
  setting : Settings → Option String

def fallbacks : List Fallback := [
  ⟨"VAULT_LEASE_VAULT_ADDR", "VAULT_ADDR", fun s => some s.store.address⟩,
  ⟨"VAULT_LEASE_VAULT_TOKEN", "VAULT_TOKEN", fun s => s.store.token⟩,
  ⟨"VAULT_LEASE_VAULT_NAMESPACE", "VAULT_NAMESPACE", fun s => s.store.namespacePath⟩]

theorem setting_of_fallback {f : Fallback} (member : f ∈ fallbacks) (vars : Variables) :
    f.setting (ofVariables vars) =
      ((vars.filled f.own).or (vars.filled f.common)).or (f.setting default) := by
  simp only [fallbacks, List.mem_cons, List.not_mem_nil, or_false] at member
  rcases member with rfl | rfl | rfl
  · simp only [ofVariables, storeOfVariables, first_pair, default]
    cases (vars.filled _).or (vars.filled _) <;> rfl
  · simp only [ofVariables, storeOfVariables, first_pair, default, StoreSettings.default,
      Option.or_none]
  · simp only [ofVariables, storeOfVariables, first_pair, default, StoreSettings.default,
      Option.or_none]

theorem hasIds_of_variables {vars : Variables} {role : AppRole}
    (found : (ofVariables vars).store.approle = some role) : HasIds role := by
  simp only [ofVariables, storeOfVariables, approleOfVariables, first_single] at found
  split at found
  case h_1 roleId secretId role_found secret_found =>
    obtain rfl := Option.some.inj found
    exact ⟨(filled_eq_some_iff.mp role_found).2, (filled_eq_some_iff.mp secret_found).2⟩
  case h_2 => cases found

inductive Scalar where
  | number (n : Nat)
  | strategy (strategy : Strategy)
  | flag (isOn : Bool)
  deriving DecidableEq, Repr

def scalars : List (String × (Settings → Scalar)) := [
  ("VAULT_LEASE_VAULT_TIMEOUT_SECONDS", fun s => .number s.store.timeoutSeconds),
  ("VAULT_LEASE_MIN_RENEWAL_SECONDS", fun s => .number s.lease.floorSeconds),
  ("VAULT_LEASE_EXPIRY_THRESHOLD_SECONDS", fun s => .number s.lease.thresholdSeconds),
  ("VAULT_LEASE_STRATEGY", fun s => .strategy s.lease.strategy),
  ("VAULT_LEASE_SESSION_REFRESH_BEFORE_EXPIRY_SECONDS", fun s => .number s.session.leadSeconds),
  ("VAULT_LEASE_SESSION_EXPIRY_THRESHOLD_SECONDS", fun s => .number s.session.thresholdSeconds),
  ("VAULT_LEASE_ENABLE_METRICS", fun s => .flag s.reporting.metricsOn),
  ("VAULT_LEASE_METRICS_PORT", fun s => .number s.reporting.metricsPort),
  ("VAULT_LEASE_JSON_LOGGING", fun s => .flag s.reporting.jsonLogging)]

theorem scalar_of_blank {scalar : String × (Settings → Scalar)} (member : scalar ∈ scalars)
    {vars : Variables} (empty : vars scalar.1 = some "") :
    scalar.2 (ofVariables vars) = scalar.2 default := by
  simp only [scalars, List.mem_cons, List.not_mem_nil, or_false] at member
  rcases member with rfl | rfl | rfl | rfl | rfl | rfl | rfl | rfl | rfl
  all_goals
    simp only [ofVariables, storeOfVariables, leaseOfVariables, sessionOfVariables,
      reportingOfVariables, default, readOr_of_blank (nat?_empty _) empty,
      readOr_of_blank Strategy.ofText?_empty empty, flagOr_of_blank empty, Reporting.default]

/-- Blanking the chosen variables takes them away: where two variables give a setting the second
speaks as soon as the first is blank, an AppRole has both its ids or is none, and what is not a
text is at its default. -/
structure BlankIsUnset (vars : Variables) (chosen : String → Bool) : Prop where
  same : ofVariables (vars.blank chosen) = ofVariables (vars.unset chosen)
  fallback : ∀ f ∈ fallbacks, f.setting (ofVariables (vars.blank chosen)) =
    (((vars.unset chosen).filled f.own).or ((vars.unset chosen).filled f.common)).or
      (f.setting default)
  approle : ∀ role, (ofVariables (vars.blank chosen)).store.approle = some role → HasIds role
  scalar : ∀ scalar ∈ scalars, chosen scalar.1 = true →
    scalar.2 (ofVariables (vars.blank chosen)) = scalar.2 default

/-- The settings are those of the variables that are filled, whichever others are blank. -/
theorem settings_of_filled (vars : Variables) (chosen : String → Bool) :
    ofVariables vars.filled = ofVariables vars ∧ BlankIsUnset vars chosen := by
  refine ⟨ofVariables_filled vars, ?_⟩
  constructor
  case same => exact ofVariables_blank vars chosen
  case fallback =>
    intro f member
    rw [setting_of_fallback member, filled_blank]
  case approle =>
    intro role found
    exact hasIds_of_variables found
  case scalar =>
    intro scalar member picked
    exact scalar_of_blank member (blank_of_chosen picked)

/-- The program's own address, one id of the AppRole and a number are blanked. -/
theorem blank_address_shows_common :
    let vars : Variables := fun name => List.lookup name [
      ("VAULT_LEASE_VAULT_ADDR", "https://own"), ("VAULT_ADDR", "https://common"),
      ("VAULT_LEASE_APPROLE_ROLE_ID", "app"), ("VAULT_LEASE_APPROLE_SECRET_ID", "s3cret"),
      ("VAULT_LEASE_MIN_RENEWAL_SECONDS", "5")]
    let chosen : String → Bool := fun name => ["VAULT_LEASE_VAULT_ADDR",
      "VAULT_LEASE_APPROLE_SECRET_ID", "VAULT_LEASE_MIN_RENEWAL_SECONDS"].contains name
    let s := ofVariables (vars.blank chosen)
    s.store.address = "https://common" ∧ s.store.approle = none ∧ s.lease.floorSeconds = 10 := by
  intro vars chosen s
  have blanks := (settings_of_filled vars chosen).2
  have address : some s.store.address = some "https://common" :=
    blanks.fallback _ (List.mem_cons_self ..)
  have floor : Scalar.number s.lease.floorSeconds = .number 10 :=
    blanks.scalar _ (List.mem_cons_of_mem _ List.mem_cons_self) rfl
  refine ⟨Option.some.inj address, ?_, Scalar.number.inj floor⟩
  rw [show s = ofVariables (vars.unset chosen) from blanks.same]
  rfl

end Settings
end LeaseKeeper

import LeaseKeeper.Proofs.Flatten.Maps
import LeaseKeeper.Response
/-!
Answers written and read back. Of a wrapping token only the fact that there is one is written, so
reading what was written gives the answer with its token blotted out, and nothing else is lost: all
that an answer holds once it was read can be written and read again.
-/
namespace LeaseKeeper

namespace Json.Value

variable {α : Type}

theorem members?_ofFields (names : List String) (fields : List (String × Value)) :
    (ofFields fields).members? names = some (TextMap.ofEntries fields) := rfl

theorem asNat?_ofNat {limit n : Nat} (fits : n ≤ limit) : (ofNat n).asNat? limit = some n := by
  simp [ofNat, asNat?, fits]

theorem le_of_asNat? {limit n : Nat} {v : Value} (read : v.asNat? limit = some n) :
    n ≤ limit := by
  unfold asNat? at read
  split at read
  · obtain ⟨fits, same⟩ := Option.ite_none_right_eq_some.mp read
    obtain rfl := Option.some.inj same
    exact fits.2
  · cases read

theorem asList?_texts (items : List String) : (texts items).asList? asText? = some items := by
  simp only [texts, asList?]
  induction items with
  | nil => rfl
  | cons item items ih => simp [List.mapM_cons, ih, asText?]

theorem asOption?_ofOption {β : Type} {write : α → Value} {read : Value → Option β} {o : Option α}
    (back : α → β) (filled : ∀ a ∈ o, write a ≠ .null)
    (reads : ∀ a ∈ o, read (write a) = some (back a)) :
    (ofOption write o).asOption? read = some (o.map back) := by
  cases o with
  | none => rfl
  | some a =>
    rw [ofOption, asOption?, reads a rfl]
    · rfl
    · exact filled a rfl

theorem asOption?_text (o : Option String) : (ofOption .text o).asOption? asText? = some o := by
  rw [asOption?_ofOption id, Option.map_id_fun, id]
  · intro s _
    exact nofun
  · intro s _
    rfl

theorem asOption?_texts (o : Option (List String)) :
    (ofOption texts o).asOption? (asList? asText?) = some o := by
  rw [asOption?_ofOption id, Option.map_id_fun, id]
  · intro items _
    exact nofun
  · intro items _
    exact asList?_texts items

theorem asOption?_value {o : Option Value} (filled : o ≠ some .null) :
    (ofOption id o).asOption? some = some o := by
  rw [asOption?_ofOption id, Option.map_id_fun, id]
  · rintro v member rfl
    exact filled member
  · intro v _
    rfl

theorem asOption?_eq_some_some {read : Value → Option α} {v : Value} {a : α} :
    v.asOption? read = some (some a) ↔ v ≠ .null ∧ read v = some a := by
  cases v <;> simp [asOption?]

theorem ne_null_of_asOption? {v : Value} {o : Option Value} (is : v.asOption? some = some o) :
    o ≠ some .null := by
  rintro rfl
  obtain ⟨filled, same⟩ := asOption?_eq_some_some.mp is
  exact filled (Option.some.inj same)

end Json.Value

open Json

section Members

variable {α : Type} {read : Value → Option α} {default : α}

theorem memberOr_ofEntries {fields : List (String × Value)} {name : String} {v : Value}
    (last : fields.reverse.lookup name = some v) :
    memberOr read default (TextMap.ofEntries fields) name = read v := by
  rw [memberOr, TextMap.lookup_ofEntries, last]

theorem of_memberOr (holds : α → Prop) {members : List (String × Value)} {name : String} {a : α}
    (member : memberOr read default members name = some a) (missing : holds default)
    (each : ∀ v a, read v = some a → holds a) : holds a := by
  rw [memberOr] at member
  split at member
  · obtain rfl := Option.some.inj member
    exact missing
  case h_2 v _ => exact each v a member

end Members

namespace WrapInfo

theorem ofValue?_toValue {info : WrapInfo} (fits : info.ttl ≤ maxWord) :
    ofValue? info.toValue = some info.redact := by
  have token : (Value.ofOption (fun _ => Value.text redacted) info.token).asOption? Value.asText? =
      some (info.token.map fun _ => redacted) :=
    Value.asOption?_ofOption _ (fun _ _ => nofun) fun _ _ => rfl
  simp only [ofValue?, toValue, Value.members?_ofFields, Option.bind_eq_bind, Option.bind_some]
  rw [memberOr_ofEntries rfl, memberOr_ofEntries rfl, memberOr_ofEntries rfl,
    memberOr_ofEntries rfl, token, Value.asNat?_ofNat fits, Value.asOption?_text,
    Value.asOption?_text]
  rfl

theorem ttl_le {v : Value} {info : WrapInfo} (read : ofValue? v = some info) :
    info.ttl ≤ maxWord := by
  simp only [ofValue?, Option.bind_eq_bind, Option.bind_eq_some_iff, Option.pure_def,
    Option.some.injEq] at read
  obtain ⟨members, -, _, -, ttl, found, _, -, _, -, rfl⟩ := read
  exact of_memberOr (· ≤ maxWord) found (Nat.zero_le _) fun _ _ => Value.le_of_asNat?

@[simp] theorem toValue_redact (info : WrapInfo) : info.redact.toValue = info.toValue := by
  cases info with
  | mk token => cases token <;> rfl

end WrapInfo

namespace Response

/-- What can be written as it is: numbers that fit a word, and no null in the place of data. -/
structure Fits (r : Response) : Prop where
  duration : r.leaseDuration ≤ maxWord
  data : r.data ≠ some .null
  ttl : ∀ info, r.wrapInfo = some info → info.ttl ≤ maxWord

theorem fits_of_read {v : Value} {r : Response} (read : ofValue? v = some r) : r.Fits := by
  simp only [ofValue?, Option.bind_eq_bind, Option.bind_eq_some_iff, Option.pure_def,
    Option.some.injEq] at read
  obtain ⟨members, -, _, -, _, -, duration, has_duration, _, -, data, has_data, _, -, info,
    has_info, rfl⟩ := read
  constructor
  case duration =>
    exact of_memberOr (· ≤ maxWord) has_duration (Nat.zero_le _) fun _ _ => Value.le_of_asNat?
  case data =>
    exact of_memberOr (· ≠ some .null) has_data nofun fun _ _ => Value.ne_null_of_asOption?
  case ttl =>
    refine of_memberOr (fun o : Option WrapInfo => ∀ info, o = some info → info.ttl ≤ maxWord)
      has_info nofun ?_
    rintro v _ is info rfl
    exact WrapInfo.ttl_le (Value.asOption?_eq_some_some.mp is).2

theorem ofValue?_toValue {r : Response} (fits : r.Fits) : ofValue? r.toValue = some r.redact := by
  have info : (Value.ofOption WrapInfo.toValue r.wrapInfo).asOption? WrapInfo.ofValue? =
      some (r.wrapInfo.map WrapInfo.redact) :=
    Value.asOption?_ofOption _ (fun _ _ => nofun) fun _ is =>
      WrapInfo.ofValue?_toValue (fits.ttl _ is)
  -- no member is written twice, so each is found as it was written
  simp only [ofValue?, toValue, Value.members?_ofFields, Option.bind_eq_bind, Option.bind_some]
  rw [memberOr_ofEntries rfl, memberOr_ofEntries rfl, memberOr_ofEntries rfl,
    memberOr_ofEntries rfl, memberOr_ofEntries rfl, memberOr_ofEntries rfl, memberOr_ofEntries rfl,
    Value.asNat?_ofNat fits.duration, Value.asOption?_value fits.data, Value.asOption?_texts, info]
  rfl

/-- The token does not show in what is written. -/
@[simp] theorem toValue_redact (r : Response) : r.redact.toValue = r.toValue := by
  cases info : r.wrapInfo <;> simp [redact, toValue, info, Value.ofOption]

/-- An answer that was read comes back from what it is written as with its token blotted out, and
from then on as it is. What is written is the same for two answers if they differ at most in what
their tokens are, and only then. -/
theorem redacted_round_trip {v : Value} {r : Response} (read : ofValue? v = some r) :
    ofValue? r.toValue = some r.redact ∧
    ofValue? r.redact.toValue = some r.redact ∧
    (∀ other : Response, other.redact = r.redact → other.toValue = r.toValue) ∧
    ∀ w other, ofValue? w = some other → other.toValue = r.toValue → other.redact = r.redact := by
  have back := ofValue?_toValue (fits_of_read read)
  refine ⟨back, ?_, ?_, ?_⟩
  · rw [toValue_redact, back]
  · intro other same
    rw [← toValue_redact, same, toValue_redact]
  · intro w other other_read same
    have other_back := ofValue?_toValue (fits_of_read other_read)
    rw [same, back] at other_back
    exact (Option.some.inj other_back).symm

def wrapped : Value :=
  .ofFields [("data", .null), ("lease_duration", .ofNat 3600), ("warnings", .texts ["wrapped"]),
    ("wrap_info", .list [.text "hvs.wrapping", .ofNat 60])]

theorem wrapped_token_redacted :
    let r : Response :=
      ⟨"", "", 3600, false, none, some ["wrapped"], some ⟨some "hvs.wrapping", 60, none, none⟩⟩
    ofValue? wrapped = some r ∧ ofValue? r.toValue =
      some { r with wrapInfo := some ⟨some "[REDACTED]", 60, none, none⟩ } := by
  intro r
  have read : ofValue? wrapped = some r := rfl
  exact ⟨read, (redacted_round_trip read).1⟩

end Response
end LeaseKeeper

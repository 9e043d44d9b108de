import LeaseKeeper.Json.Binary64
import LeaseKeeper.TextMap
/-!
JSON values. Objects hold their fields in increasing key order, so equal values are equal terms.
-/
namespace LeaseKeeper.Json

/-- Integers that fit 64 bits, signed or unsigned, stay integers; all else is a double. -/
inductive Number where
  | int (value : Int)
  | double (value : Binary64)
  deriving DecidableEq, Repr, Inhabited

inductive Value where
  | null
  | bool (value : Bool)
  | number (value : Number)
  | text (value : String)
  | list (items : List Value)
  | record (fields : List (String × Value))
  deriving Repr, Inhabited

def Number.text : Number → String
  | .int n => toString n
  | .double x => x.text

namespace Value

mutual

def decideEq : (a b : Value) → Decidable (a = b)
  | .null, .null => isTrue rfl
  | .bool a, .bool b => if h : a = b then isTrue (by rw [h]) else isFalse (by simp [h])
  | .number a, .number b => if h : a = b then isTrue (by rw [h]) else isFalse (by simp [h])
  | .text a, .text b => if h : a = b then isTrue (by rw [h]) else isFalse (by simp [h])
  | .list a, .list b =>
    match decideItems a b with
    | isTrue h => isTrue (by rw [h])
    | isFalse h => isFalse (by simp [h])
  | .record a, .record b =>
    match decideFields a b with
    | isTrue h => isTrue (by rw [h])
    | isFalse h => isFalse (by simp [h])
  | .null, .bool _ | .null, .number _ | .null, .text _ | .null, .list _ | .null, .record _
  | .bool _, .null | .bool _, .number _ | .bool _, .text _ | .bool _, .list _ | .bool _, .record _
  | .number _, .null | .number _, .bool _ | .number _, .text _ | .number _, .list _
  | .number _, .record _
  | .text _, .null | .text _, .bool _ | .text _, .number _ | .text _, .list _ | .text _, .record _
  | .list _, .null | .list _, .bool _ | .list _, .number _ | .list _, .text _ | .list _, .record _
  | .record _, .null | .record _, .bool _ | .record _, .number _ | .record _, .text _
  | .record _, .list _ => isFalse (by simp)

def decideItems : (a b : List Value) → Decidable (a = b)
  | [], [] => isTrue rfl
  | [], _ :: _ | _ :: _, [] => isFalse (by simp)
  | x :: xs, y :: ys =>
    match decideEq x y, decideItems xs ys with
    | isTrue h, isTrue k => isTrue (by rw [h, k])
    | isFalse h, _ => isFalse (by simp [h])
    | _, isFalse k => isFalse (by simp [k])

def decideFields : (a b : List (String × Value)) → Decidable (a = b)
  | [], [] => isTrue rfl
  | [], _ :: _ | _ :: _, [] => isFalse (by simp)
  | (k, x) :: xs, (l, y) :: ys =>
    if h : k = l then
      match decideEq x y, decideFields xs ys with
      | isTrue e, isTrue f => isTrue (by rw [h, e, f])
      | isFalse e, _ => isFalse (by simp [e])
      | _, isFalse f => isFalse (by simp [f])
    else isFalse (by simp [h])

end

instance : DecidableEq Value := decideEq

def ofNat (n : Nat) : Value := .number (.int n)

/-- An object from fields in any order; the last one for a key wins. -/
def ofFields (fields : List (String × Value)) : Value := .record (TextMap.ofEntries fields)

def texts (items : List String) : Value := .list (items.map .text)

def ofOption {α : Type} (f : α → Value) : Option α → Value
  | none => .null
  | some a => f a

def asText? : Value → Option String
  | .text s => some s
  | _ => none

def asBool? : Value → Option Bool
  | .bool b => some b
  | _ => none

def asNat? (limit : Nat) : Value → Option Nat
  | .number (.int n) => if 0 ≤ n ∧ n.toNat ≤ limit then some n.toNat else none
  | _ => none

def asList? {α : Type} (f : Value → Option α) : Value → Option (List α)
  | .list items => items.mapM f
  | _ => none

def asOption? {α : Type} (f : Value → Option α) : Value → Option (Option α)
  | .null => some none
  | value => (f value).map some

/-- The members of a structure whose members are `names`: by name from an object, by position from
a list that is not too long. -/
def members? (names : List String) : Value → Option (List (String × Value))
  | .record fields => some fields
  | .list items => if items.length ≤ names.length then some (names.zip items) else none
  | _ => none

end Value

def maxWord : Nat := 18446744073709551615

end LeaseKeeper.Json

/-!
Digits of bases up to sixteen, and text in parts.
-/
namespace LeaseKeeper.Text

def hexValue? (c : Char) : Option Nat :=
  if c.isDigit then some (c.toNat - '0'.toNat)
  else if 'a' ≤ c ∧ c ≤ 'f' then some (c.toNat - 'a'.toNat + 10)
  else if 'A' ≤ c ∧ c ≤ 'F' then some (c.toNat - 'A'.toNat + 10)
  else none

def digitsIn? (base : Nat) (value : Nat) : List Char → Option Nat
  | [] => some value
  | c :: cs =>
    match hexValue? c with
    | none => none
    | some d => if d < base then digitsIn? base (value * base + d) cs else none

/-- The parts between the separators; there is always at least one. -/
def parts (isSeparator : Char → Bool) : List Char → List (List Char)
  | [] => [[]]
  | c :: cs =>
    match parts isSeparator cs with
    | [] => [[c]]
    | part :: more => if isSeparator c then [] :: part :: more else (c :: part) :: more

end LeaseKeeper.Text

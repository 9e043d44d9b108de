/-!
Finite binary64 numbers in exact integer arithmetic: rounding a quotient to the nearest number,
ties to even, and the shortest decimal that rounds back.
-/
namespace LeaseKeeper.Json

/-- The number `mantissa * 2 ^ shift / 2 ^ 1074`, negated when `negative`. In normal form the
mantissa is below `2 ^ 53`, and below `2 ^ 52` only when the shift is zero. -/
structure Binary64 where
  negative : Bool
  mantissa : Nat
  shift : Nat
  deriving DecidableEq, Repr, Inhabited

namespace Binary64

def zero (negative : Bool) : Binary64 := ⟨negative, 0, 0⟩

def isZero (x : Binary64) : Bool := x.mantissa == 0

def maxShift : Nat := 2045

/-- `num / den` to the nearest integer, a half to the even one. -/
def divNearest (num den : Nat) : Nat :=
  let quotient := num / den
  let rest := 2 * (num % den)
  if rest < den then quotient
  else if den < rest then quotient + 1
  else quotient + quotient % 2

def ofQuotient (num den : Nat) : Option Binary64 :=
  let scaled := num * Nat.pow 2 1074
  let shift := Nat.log2 (scaled / den) - 52
  let mantissa := divNearest scaled (den * Nat.pow 2 shift)
  let (mantissa, shift) :=
    if mantissa = Nat.pow 2 53 then (Nat.pow 2 52, shift + 1) else (mantissa, shift)
  if shift ≤ maxShift then some ⟨false, mantissa, shift⟩ else none

def ofNat (n : Nat) : Option Binary64 := ofQuotient n 1

def powerOfTen (k : Nat) : Option Binary64 := ofNat (Nat.pow 10 k)

def mul (x y : Binary64) : Option Binary64 :=
  (ofQuotient (x.mantissa * y.mantissa * Nat.pow 2 (x.shift + y.shift)) (Nat.pow 2 2148)).map
    fun z => { z with negative := x.negative != y.negative }

def div (x y : Binary64) : Option Binary64 :=
  if y.mantissa = 0 then none
  else (ofQuotient (x.mantissa * Nat.pow 2 x.shift) (y.mantissa * Nat.pow 2 y.shift)).map
    fun z => { z with negative := x.negative != y.negative }

def withSign (negative : Bool) (x : Binary64) : Binary64 := { x with negative }

structure Decimal where
  digits : Nat
  exponent : Int
  deriving DecidableEq, Repr

def digitCount (n : Nat) : Nat := (Nat.toDigits 10 n).length

/-- How often `num / den` must be multiplied by ten to reach one; at most `fuel` times. -/
def leadingZeros : Nat → Nat → Nat → Nat
  | 0, _, _ => 0
  | fuel + 1, num, den => if den ≤ num then 0 else leadingZeros fuel (num * 10) den + 1

def leadingExponent (num den : Nat) : Int :=
  if den ≤ num then (digitCount (num / den) : Int) - 1
  else -(leadingZeros 400 num den : Int)

/-- The four-fold value and the ends of the interval of reals that round to `x`, over one
denominator. -/
def quarters (x : Binary64) : Nat × Nat × Nat × Nat :=
  let unit := Nat.pow 2 x.shift
  let below := if x.mantissa = Nat.pow 2 52 ∧ 0 < x.shift then 1 else 2
  (4 * x.mantissa * unit, (4 * x.mantissa - below) * unit, (4 * x.mantissa + 2) * unit,
    Nat.pow 2 1076)

/-- The multiple of `10 ^ exponent` next to the value that still rounds back, if there is one; of
two, the nearer. -/
def gridPoint (x : Binary64) (exponent : Int) : Option Decimal :=
  let (value, low, high, den) := quarters x
  let up := Nat.pow 10 exponent.toNat
  let down := Nat.pow 10 (-exponent).toNat
  let quotient := value * down / (den * up)
  let inside (n : Nat) : Bool :=
    let point := n * den * up
    if x.mantissa % 2 = 0 then low * down ≤ point && point ≤ high * down
    else low * down < point && point < high * down
  let rest := value * down - quotient * den * up
  match 0 < quotient && inside quotient, inside (quotient + 1) with
  | true, true =>
    let nearest :=
      if 2 * rest < den * up then quotient
      else if den * up < 2 * rest then quotient + 1
      else quotient + quotient % 2
    some ⟨nearest, exponent⟩
  | true, false => some ⟨quotient, exponent⟩
  | false, true => some ⟨quotient + 1, exponent⟩
  | false, false => none

def firstGrid (x : Binary64) (exponent : Int) : Nat → Option Decimal
  | 0 => none
  | steps + 1 => (gridPoint x exponent).or (firstGrid x (exponent - 1) steps)

/-- The shortest decimal that rounds to the positive `x`. Seventeen digits always suffice. -/
def shortest (x : Binary64) : Decimal :=
  let (value, _, _, den) := quarters x
  (firstGrid x (leadingExponent value den) 18).getD ⟨0, 0⟩

def Decimal.scientific (d : Decimal) : List Char × Int :=
  let all := Nat.toDigits 10 d.digits
  let kept := (all.reverse.dropWhile (· == '0')).reverse
  (kept, d.exponent + (all.length : Int) - 1)

/-- Positional between 1e-5 and 1e15, with `.0` when integral; otherwise scientific, with a signed
exponent. -/
def magnitudeText (x : Binary64) : String :=
  if x.isZero then "0.0"
  else
    let (digits, exponent) := x.shortest.scientific
    let size := digits.length
    if exponent < -5 ∨ 15 < exponent then
      let head := digits.take 1 ++ (if size = 1 then [] else '.' :: digits.drop 1)
      let sign := if exponent < 0 then "-" else "+"
      String.ofList head ++ "e" ++ sign ++ toString exponent.natAbs
    else if exponent < 0 then
      "0." ++ String.ofList (List.replicate (exponent.natAbs - 1) '0' ++ digits)
    else
      let whole := exponent.toNat + 1
      if size ≤ whole then
        String.ofList (digits ++ List.replicate (whole - size) '0') ++ ".0"
      else String.ofList (digits.take whole) ++ "." ++ String.ofList (digits.drop whole)

def text (x : Binary64) : String :=
  if x.negative then "-" ++ x.magnitudeText else x.magnitudeText

end Binary64
end LeaseKeeper.Json

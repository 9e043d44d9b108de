import LeaseKeeper.Http.Domain.Label
import LeaseKeeper.Http.Domain.Punycode
/-!
Domain names in the ASCII form in which they are sent (UTS #46). Which ASCII characters a name may
hold, and how long it may be, is left open.
-/
namespace LeaseKeeper.Http.Domain

open Text

structure Label where
  shown : List Char
  sent : List Char
  deriving DecidableEq, Repr

def marker : List Char := "xn--".toList

def longestShown : Nat := 1000

def longestDigits : Nat := 2000

def isLabel (cs : List Char) : Bool :=
  cs.length ≤ longestShown && !cs.head?.any isMark && joinersFit [] cs

def isSettled (cs : List Char) : Bool :=
  (cs.mapM mapped?).any fun images => normal images.flatten == cs

def label? (cs : List Char) : Option Label :=
  if marker.isPrefixOf cs then
    let digits := cs.drop marker.length
    if digits.isEmpty || digits.getLast? == some '-' || longestDigits < digits.length then none
    else do
      let shown ← Punycode.decode? digits
      if isSettled shown && isLabel shown then some ⟨shown, cs⟩ else none
  else if cs.all Punycode.isBasic then some ⟨cs, cs⟩
  else if isLabel cs then some ⟨cs, marker ++ Punycode.encode cs⟩
  else none

def sent? (name : List Char) : Option (List Char) := do
  let images ← name.mapM mapped?
  let labels ← (parts (· = '.') (normal images.flatten)).mapM label?
  let isMixedName := labels.any fun label => isMixed label.shown
  if isMixedName && !labels.all fun label => runsOneWay label.shown then none
  else some (['.'].intercalate (labels.map Label.sent))

end LeaseKeeper.Http.Domain

import LeaseKeeper.Text.Digits
/-!
Tables of code points, written as words of hexadecimal numbers. A set has single code points and
ranges (`2A 30-39`). A replacement moves a range to another place (`41-5A=61`), or every other code
point of one (`100~12E=101`), or spells out what code points in a row become
(`FB00=66.66,66.69`).
-/
namespace LeaseKeeper.Text

def words (source : String) : List (List Char) :=
  (parts (fun c => c = ' ' || c = '\n') source.toList).filter (!·.isEmpty)

def number (digits : List Char) : Nat := (digitsIn? 16 0 digits).getD 0

def bounds (mark : Char) (word : List Char) : Nat × Nat :=
  match parts (· = mark) word with
  | [low, high] => (number low, number high)
  | _ => (number word, number word)

abbrev Ranges := List (Nat × Nat)

namespace Ranges

def ofText (source : String) : Ranges := (words source).map (bounds '-')

def contains (ranges : Ranges) (c : Char) : Bool :=
  ranges.any fun (low, high) => low ≤ c.toNat && c.toNat ≤ high

end Ranges

inductive Replacement where
  | moved (low high step target : Nat)
  | spelled (low : Nat) (targets : List (List Char))

namespace Replacement

def ofWord (word : List Char) : Replacement :=
  match parts (· = '=') word with
  | [sources, targets] =>
    if sources.contains '-' then
      let (low, high) := bounds '-' sources
      .moved low high 1 (number targets)
    else if sources.contains '~' then
      let (low, high) := bounds '~' sources
      .moved low high 2 (number targets)
    else .spelled (number sources) ((parts (· = ',') targets).map fun target =>
      (parts (· = '.') target).map fun digits => Char.ofNat (number digits))
  | _ => .spelled 0 []

def image? (c : Char) : Replacement → Option (List Char)
  | moved low high step target =>
    let n := c.toNat
    if low ≤ n ∧ n ≤ high ∧ (n - low) % step = 0 then some [Char.ofNat (target + (n - low))]
    else none
  | spelled low targets => if low ≤ c.toNat then targets[c.toNat - low]? else none

end Replacement

abbrev Replacements := List Replacement

namespace Replacements

def ofText (source : String) : Replacements := (words source).map Replacement.ofWord

def image? (table : Replacements) (c : Char) : Option (List Char) :=
  table.findSome? (Replacement.image? c)

end Replacements
end LeaseKeeper.Text

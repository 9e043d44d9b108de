/-!
Punycode (RFC 3492): text outside ASCII as a row of letters, digits and hyphens. Each character is
written as a distance, in digits of base 36 whose thresholds adapt to the distances before.
-/
namespace LeaseKeeper.Http.Domain.Punycode

def digitChar (d : Nat) : Char := Char.ofNat (if d < 26 then 'a'.toNat + d else '0'.toNat + d - 26)

def digitValue? (c : Char) : Option Nat :=
  if c.isLower then some (c.toNat - 'a'.toNat)
  else if c.isDigit then some (c.toNat - '0'.toNat + 26)
  else none

def threshold (bias place : Nat) : Nat := min 26 (max 1 (place - bias))

def firstBias : Nat := 72

def biasOf (place delta : Nat) : Nat :=
  if 455 < delta then biasOf (place + 36) (delta / 35) else place + 36 * delta / (delta + 38)
termination_by delta
decreasing_by omega

def adapted (delta count : Nat) (isFirst : Bool) : Nat :=
  let damped := delta / if isFirst then 700 else 2
  biasOf 0 (damped + damped / count)

def isBasic (c : Char) : Bool := c.toNat < 0x80

/-! ### Writing -/

def digits (bias place n : Nat) : List Char :=
  if n < threshold bias place then [digitChar n]
  else
    let t := threshold bias place
    digitChar (t + (n - t) % (36 - t)) :: digits bias (place + 36) ((n - t) / (36 - t))
termination_by n
decreasing_by
  have pos : 1 ≤ threshold bias place := by unfold threshold; omega
  have le := Nat.div_le_self (n - threshold bias place) (36 - threshold bias place)
  omega

structure Writer where
  out : List Char
  delta : Nat
  bias : Nat
  count : Nat

def Writer.pass (basics n : Nat) (w : Writer) (c : Char) : Writer :=
  if c.toNat < n then { w with delta := w.delta + 1 }
  else if c.toNat = n then
    { out := w.out ++ digits w.bias 36 w.delta
      delta := 0
      bias := adapted w.delta (w.count + 1) (w.count == basics)
      count := w.count + 1 }
  else w

def encode (cs : List Char) : List Char :=
  let basics := cs.filter isBasic
  let others := (((cs.filter (!isBasic ·)).map Char.toNat).mergeSort (· ≤ ·)).eraseDups
  let start : Nat × Writer := (0x80, ⟨[], 0, firstBias, basics.length⟩)
  let (_, w) := others.foldl (fun (next, w) n =>
    let w := { w with delta := w.delta + (n - next) * (w.count + 1) }
    let w := cs.foldl (Writer.pass basics.length n) w
    (n + 1, { w with delta := w.delta + 1 })) start
  (if basics.isEmpty then [] else basics ++ ['-']) ++ w.out

/-! ### Reading -/

structure Reader where
  out : List Char
  next : Nat
  bias : Nat
  index : Nat
  start : Nat
  weight : Nat
  place : Nat

def char? (n : Nat) : Option Char := if n.isValidChar then some (Char.ofNat n) else none

def Reader.step (r : Reader) (c : Char) : Option Reader := do
  let d ← digitValue? c
  let t := threshold r.bias r.place
  let index := r.index + d * r.weight
  if t ≤ d then
    return { r with index, weight := r.weight * (36 - t), place := r.place + 36 }
  let count := r.out.length + 1
  let next := r.next + index / count
  let placed ← char? next
  let position := index % count
  return {
    out := r.out.insertIdx position placed
    next
    bias := adapted (index - r.start) count (r.start == 0)
    index := position + 1
    start := position + 1
    weight := 1
    place := 36 }

def decode? (cs : List Char) : Option (List Char) := do
  let tail := (cs.reverse.takeWhile (· != '-')).reverse
  let basics := cs.take (cs.length - tail.length - 1)
  let digits := if basics.isEmpty then cs else tail
  let r ← digits.foldlM Reader.step ⟨basics, 0x80, firstBias, 0, 0, 1, 36⟩
  if r.place = 36 then some r.out else none

end LeaseKeeper.Http.Domain.Punycode

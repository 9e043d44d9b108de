import LeaseKeeper.Http.Domain
/-!
The host of an address: a name, an IPv4 number or an IPv6 number in brackets, each in the one form
that is sent.
-/
namespace LeaseKeeper.Http.Host

open Text

/-! ### IPv4 -/

/-- A part of an IPv4 number: hexadecimal after `0x`, octal after `0`, else decimal. -/
def part? : List Char → Option Nat
  | [] => none
  | '0' :: 'x' :: cs | '0' :: 'X' :: cs => digitsIn? 16 0 cs
  | ['0'] => some 0
  | '0' :: cs => digitsIn? 8 0 cs
  | cs => digitsIn? 10 0 cs

def nameParts (name : List Char) : List (List Char) :=
  let all := parts (· = '.') name
  if all.length > 1 ∧ all.getLast? = some [] then all.dropLast else all

/-- A name whose last part is a number has to be an IPv4 number as a whole. -/
def endsInNumber (name : List Char) : Bool :=
  match (nameParts name).getLast? with
  | none | some [] => false
  | some last => last.all Char.isDigit || (part? last).isSome

/-- The last of at most four parts fills all the bytes that are left. -/
def ipv4? (name : List Char) : Option Nat :=
  match (nameParts name).mapM part? with
  | none => none
  | some parts =>
    match parts.getLast? with
    | none => none
    | some last =>
      let leading := parts.dropLast
      if 4 < parts.length ∨ leading.any (255 < ·) ∨ Nat.pow 256 (5 - parts.length) ≤ last
      then none
      else some (leading.zipIdx.foldl (fun sum (n, i) => sum + n * Nat.pow 256 (3 - i)) last)

def ipv4Text (n : Nat) : String :=
  ".".intercalate ([3, 2, 1, 0].map fun i => toString (n / Nat.pow 256 i % 256))

/-! ### IPv6 -/

def hexText (n : Nat) : String := String.ofList (Nat.toDigits 16 n)

def group? (cs : List Char) : Option Nat :=
  if cs.isEmpty || 4 < cs.length then none else digitsIn? 16 0 cs

def dotted? (cs : List Char) : Option (List Nat) :=
  let isByte (part : List Char) : Bool :=
    part.all Char.isDigit && part.length ≤ 3 && (part.length == 1 || part.head? != some '0')
  match (parts (· = '.') cs).mapM fun part => if isByte part then part? part else none with
  | some [a, b, c, d] =>
    if [a, b, c, d].all (· ≤ 255) then some [a * 256 + b, c * 256 + d] else none
  | _ => none

/-- Groups between colons; where `last` is set the last one may be dotted. -/
def groups? (last : Bool) : List (List Char) → Option (List Nat)
  | [] => some []
  | [cs] => if last && cs.contains '.' then dotted? cs else (group? cs).map ([·])
  | cs :: rest => do
    let group ← group? cs
    let more ← groups? last rest
    return group :: more

def side? (last : Bool) (cs : List Char) : Option (List Nat) :=
  if cs.isEmpty then some [] else groups? last (parts (· = ':') cs)

def gap? : List Char → Option (List Char × List Char)
  | ':' :: ':' :: rest => some ([], rest)
  | c :: rest => (gap? rest).map fun (before, after) => (c :: before, after)
  | [] => none

def ipv6? (cs : List Char) : Option (List Nat) :=
  match gap? cs with
  | none => do
    let groups ← side? true cs
    if groups.length = 8 then some groups else none
  | some (before, after) => do
    let front ← side? false before
    let back ← side? true after
    let length := front.length + back.length
    if length ≤ 7 then some (front ++ List.replicate (8 - length) 0 ++ back) else none

def zeroRun (groups : List Nat) : Nat × Nat :=
  (List.range groups.length).foldl (fun (start, length) i =>
    let here := ((groups.drop i).takeWhile (· == 0)).length
    if length < here then (i, here) else (start, length)) (0, 0)

def ipv6Text (groups : List Nat) : String :=
  let join (part : List Nat) : String := ":".intercalate (part.map hexText)
  let (start, length) := zeroRun groups
  if 2 ≤ length then join (groups.take start) ++ "::" ++ join (groups.drop (start + length))
  else join groups

/-! ### Names -/

def percentDecoded : List Char → List UInt8
  | '%' :: a :: b :: rest =>
    match hexValue? a, hexValue? b with
    | some x, some y => UInt8.ofNat (16 * x + y) :: percentDecoded rest
    | _, _ => '%'.toUInt8 :: percentDecoded (a :: b :: rest)
  | c :: rest => String.utf8EncodeChar c ++ percentDecoded rest
  | [] => []

def isForbidden (c : Char) : Bool :=
  ['\x00', '\t', '\n', '\r', ' '].contains c || "#/:<>?@[\\]^|".toList.contains c

def isForbiddenInName (c : Char) : Bool :=
  isForbidden c || c.toNat < 0x20 || c.toNat == 0x7F || c == '%'

def name? (cs : List Char) : Option String := do
  let decoded ← String.fromUTF8? ⟨(percentDecoded cs).toArray⟩
  let name ← Domain.sent? decoded.toList
  if name.isEmpty || name.any isForbiddenInName then none
  else if endsInNumber name then (ipv4? name).map ipv4Text
  else some (String.ofList name)

def bracketedOr (name? : List Char → Option String) (cs : List Char) : Option String :=
  match cs with
  | '[' :: rest =>
    if rest.getLast? = some ']' then
      (ipv6? rest.dropLast).map fun groups => "[" ++ ipv6Text groups ++ "]"
    else none
  | _ => name? cs

def opaque? (cs : List Char) : Option String :=
  bracketedOr (fun name => if name.any isForbidden then none else some (String.ofList name)) cs

def ofChars? (cs : List Char) : Option String := bracketedOr name? cs

end LeaseKeeper.Http.Host

import LeaseKeeper.Json.Failure
import LeaseKeeper.Json.Value
import LeaseKeeper.Text.Digits
/-!
Reading JSON text: RFC 8259 without extensions, at most 127 containers deep. A reader for a
structure ignores the members it does not know, whose numbers and nesting are then not limited.
-/
namespace LeaseKeeper.Json

/-- A failure `ahead` bytes into `rest`. -/
structure Stop where
  problem : Problem
  ahead : Nat
  rest : List Char

namespace Reader

def failHere {α : Type} (problem : Problem) (rest : List Char) : Except Stop (α × List Char) :=
  .error ⟨problem, 0, rest⟩

def failAt {α : Type} (problem : Problem) (rest : List Char) : Except Stop (α × List Char) :=
  .error ⟨problem, 1, rest⟩

def isBlank (c : Char) : Bool := c = ' ' || c = '\n' || c = '\t' || c = '\r'

def skipBlank (cs : List Char) : List Char := cs.dropWhile isBlank

def digitValue (c : Char) : Nat := c.toNat - '0'.toNat

def ident : List Char → List Char → Except Stop (Unit × List Char)
  | [], cs => .ok ((), cs)
  | _ :: _, [] => failHere .endInValue []
  | e :: es, c :: cs => if c = e then ident es cs else failAt .expectedIdent (c :: cs)

/-! ### Numbers

The digits are gathered in 64 bits. From the first digit that does not fit, whole digits only raise
the decimal exponent and decimals are dropped. The value is the gathered integer, rounded to a
double, times or over one rounded power of ten. -/

def gather (value count : Nat) : List Char → Nat × Nat × List Char
  | [] => (value, count, [])
  | c :: cs =>
    if c.isDigit && value * 10 + digitValue c ≤ maxWord then
      gather (value * 10 + digitValue c) (count + 1) cs
    else (value, count, c :: cs)

def maxPower : Nat := 308

def scaleUp (x : Binary64) (exponent : Nat) : Option Binary64 :=
  if exponent ≤ maxPower then (Binary64.powerOfTen exponent).bind x.mul
  else if x.isZero then some x else none

/-- `x / 10 ^ exponent` in steps of at most `10 ^ 308`. -/
def scaleDown : Nat → Binary64 → Nat → Option Binary64
  | 0, x, _ => some x
  | fuel + 1, x, exponent =>
    if exponent ≤ maxPower then (Binary64.powerOfTen exponent).bind x.div
    else if x.isZero then some x
    else do
      let power ← Binary64.powerOfTen maxPower
      let y ← x.div power
      scaleDown fuel y (exponent - maxPower)

def scale (gathered : Nat) (exponent : Int) : Option Binary64 := do
  let x ← Binary64.ofNat gathered
  if 0 ≤ exponent then scaleUp x exponent.toNat
  else scaleDown (exponent.natAbs / maxPower + 1) x exponent.natAbs

def double (negative : Bool) (gathered : Nat) (exponent : Int) (cs : List Char) :
    Except Stop (Number × List Char) :=
  match scale gathered exponent with
  | some x => .ok (.double (x.withSign negative), cs)
  | none => failHere .numberOutOfRange cs

/-- The bound above which an exponent overflows a signed 32-bit counter. -/
def maxExponent : Nat := 2147483647

def gatherExponent (value : Nat) : List Char → Option Nat × List Char
  | [] => (some value, [])
  | c :: cs =>
    if c.isDigit then
      if value * 10 + digitValue c ≤ maxExponent then gatherExponent (value * 10 + digitValue c) cs
      else (none, cs)
    else (some value, c :: cs)

def exponentPart (lenient negative : Bool) (gathered : Nat) (start : Int) (cs : List Char) :
    Except Stop (Number × List Char) :=
  let (up, cs) := match cs with
    | '+' :: rest => (true, rest)
    | '-' :: rest => (false, rest)
    | rest => (true, rest)
  match cs with
  | [] => failHere .endInValue []
  | c :: cs =>
    if c.isDigit then
      match gatherExponent (digitValue c) cs with
      | (some n, rest) =>
        if lenient then .ok (.int 0, rest)
        else double negative gathered (if up then start + n else start - n) rest
      | (none, rest) =>
        if lenient then .ok (.int 0, rest.dropWhile Char.isDigit)
        else if gathered ≠ 0 ∧ up then failHere .numberOutOfRange rest
        else .ok (.double (Binary64.zero negative), rest.dropWhile Char.isDigit)
    else failAt .invalidNumber (c :: cs)

def afterDigits (lenient negative : Bool) (gathered : Nat) (exponent : Int) :
    List Char → Except Stop (Number × List Char)
  | c :: cs =>
    if c = 'e' ∨ c = 'E' then exponentPart lenient negative gathered exponent cs
    else if lenient then .ok (.int 0, c :: cs)
    else double negative gathered exponent (c :: cs)
  | [] => if lenient then .ok (.int 0, []) else double negative gathered exponent []

def decimalPart (lenient negative : Bool) (gathered : Nat) (exponent : Int) (cs : List Char) :
    Except Stop (Number × List Char) :=
  let (value, count, rest) := gather gathered 0 cs
  match rest with
  | c :: _ =>
    if c.isDigit then
      afterDigits lenient negative value (exponent - count) (rest.dropWhile Char.isDigit)
    else if count = 0 then failAt .invalidNumber rest
    else afterDigits lenient negative value (exponent - count) rest
  | [] =>
    if count = 0 then failAt .endInValue []
    else afterDigits lenient negative value (exponent - count) []

/-- A whole number without decimals: an integer where it fits, and `-0` the double. -/
def whole (negative : Bool) (gathered : Nat) (cs : List Char) : Except Stop (Number × List Char) :=
  if negative then
    if gathered = 0 ∨ 9223372036854775808 < gathered then double true gathered 0 cs
    else .ok (.int (-(gathered : Int)), cs)
  else .ok (.int gathered, cs)

def fraction (lenient negative : Bool) (gathered : Nat) (dropped : Nat) (cs : List Char) :
    Except Stop (Number × List Char) :=
  match cs with
  | '.' :: rest => decimalPart lenient negative gathered dropped rest
  | c :: _ =>
    if c = 'e' ∨ c = 'E' ∨ dropped ≠ 0 then afterDigits lenient negative gathered dropped cs
    else whole negative gathered cs
  | [] => if dropped ≠ 0 then afterDigits lenient negative gathered dropped [] else
      whole negative gathered []

def number (lenient negative : Bool) : List Char → Except Stop (Number × List Char)
  | [] => failHere .endInValue []
  | '0' :: cs =>
    match cs with
    | c :: _ => if c.isDigit then failAt .invalidNumber cs else fraction lenient negative 0 0 cs
    | [] => fraction lenient negative 0 0 []
  | c :: cs =>
    if c.isDigit then
      let (value, _, rest) := gather (digitValue c) 1 cs
      let surplus := rest.takeWhile Char.isDigit
      fraction lenient negative value surplus.length (rest.drop surplus.length)
    else failAt .invalidNumber (c :: cs)

/-! ### Text -/

/-- Four digits. What stands in their place is four bytes, whatever they are. -/
def hexFour (cs : List Char) : Except Stop (Nat × List Char) :=
  match (cs.take 4).mapM Text.hexValue? with
  | some [a, b, c, d] => .ok (((a * 16 + b) * 16 + c) * 16 + d, cs.drop 4)
  | _ =>
    if (utf8 (cs.take 4)).length < 4 then failHere .endInString []
    else .error ⟨.invalidEscape, 4, cs⟩

def isHigh (n : Nat) : Bool := 0xD800 ≤ n && n ≤ 0xDBFF
def isLow (n : Nat) : Bool := 0xDC00 ≤ n && n ≤ 0xDFFF

/-- Reads what follows `\u`. A lenient reader does not pair surrogates. -/
def unicodeEscape (lenient : Bool) (cs : List Char) : Except Stop (Char × List Char) := do
  let (n, cs) ← hexFour cs
  if lenient then .ok (Char.ofNat n, cs)
  else if isLow n then failHere .loneSurrogate cs
  else if isHigh n then
    match cs with
    | [] | ['\\'] => failHere .endInString []
    | '\\' :: 'u' :: rest =>
      let (low, rest) ← hexFour rest
      if isLow low then .ok (Char.ofNat (0x10000 + (n - 0xD800) * 0x400 + (low - 0xDC00)), rest)
      else failHere .loneSurrogate rest
    | '\\' :: rest | rest => failAt .unfinishedSurrogatePair rest
  else .ok (Char.ofNat n, cs)

def escape (lenient : Bool) : List Char → Except Stop (Char × List Char)
  | [] => failHere .endInString []
  | c :: cs =>
    match c with
    | '"' => .ok ('"', cs)
    | '\\' => .ok ('\\', cs)
    | '/' => .ok ('/', cs)
    | 'b' => .ok ('\x08', cs)
    | 'f' => .ok ('\x0c', cs)
    | 'n' => .ok ('\n', cs)
    | 'r' => .ok ('\r', cs)
    | 't' => .ok ('\t', cs)
    | 'u' => unicodeEscape lenient cs
    | _ => failAt .invalidEscape (c :: cs)

def textPart (lenient : Bool) : Nat → List Char → List Char → Except Stop (String × List Char)
  | 0, _, cs => failHere .endInString cs
  | _ + 1, _, [] => failHere .endInString []
  | fuel + 1, done, c :: cs =>
    if c = '"' then .ok (String.ofList done.reverse, cs)
    else if c = '\\' then do
      let (e, rest) ← escape lenient cs
      textPart lenient fuel (e :: done) rest
    else if c.toNat < 0x20 then failHere .controlCharacter cs
    else textPart lenient fuel (c :: done) cs

def text (lenient : Bool) (cs : List Char) : Except Stop (String × List Char) :=
  textPart lenient (cs.length + 1) [] cs

/-! ### Containers -/

def nextItem (first : Bool) (cs : List Char) : Except Stop (Bool × List Char) :=
  match skipBlank cs with
  | [] => failAt .endInList []
  | ']' :: rest => .ok (false, rest)
  | ',' :: rest =>
    if first then .ok (true, ',' :: rest)
    else match skipBlank rest with
      | [] => failAt .endInValue []
      | ']' :: rest => failAt .trailingComma (']' :: rest)
      | rest => .ok (true, rest)
  | rest => if first then .ok (true, rest) else failAt .expectedCommaOrListEnd rest

def nextKey (first : Bool) (cs : List Char) : Except Stop (Option String × List Char) :=
  let key (cs : List Char) : Except Stop (Option String × List Char) :=
    match cs with
    | '"' :: rest => do
      let (name, rest) ← text false rest
      match skipBlank rest with
      | ':' :: rest => .ok (some name, rest)
      | [] => failAt .endInObject []
      | rest => failAt .expectedColon rest
    | rest => failAt .keyNotText rest
  match skipBlank cs with
  | [] => failAt .endInObject []
  | '\x7d' :: rest => .ok (none, rest)
  | ',' :: rest =>
    if first then failAt .keyNotText (',' :: rest)
    else match skipBlank rest with
      | [] => failAt .endInValue []
      | '\x7d' :: rest => failAt .trailingComma ('\x7d' :: rest)
      | rest => key rest
  | rest => if first then key rest else failAt .expectedCommaOrObjectEnd rest

mutual

/-- Reads any value. A lenient reader checks the form only: its result stands for no value. -/
def value (lenient : Bool) : (fuel depth : Nat) → List Char → Except Stop (Value × List Char)
  | 0, _, cs => failAt .expectedValue cs
  | fuel + 1, depth, cs =>
    match skipBlank cs with
    | [] => failAt .endInValue []
    | 'n' :: rest => (ident ['u', 'l', 'l'] rest).map fun (_, r) => (.null, r)
    | 't' :: rest => (ident ['r', 'u', 'e'] rest).map fun (_, r) => (.bool true, r)
    | 'f' :: rest => (ident ['a', 'l', 's', 'e'] rest).map fun (_, r) => (.bool false, r)
    | '"' :: rest => (text lenient rest).map fun (s, r) => (.text s, r)
    | '-' :: rest => (number lenient true rest).map fun (n, r) => (.number n, r)
    | '[' :: rest =>
      if depth ≤ 1 ∧ ¬ lenient then failAt .nestingTooDeep ('[' :: rest)
      else items lenient fuel (depth - 1) true [] rest
    | '\x7b' :: rest =>
      if depth ≤ 1 ∧ ¬ lenient then failAt .nestingTooDeep ('\x7b' :: rest)
      else fields lenient fuel (depth - 1) true [] rest
    | c :: rest =>
      if c.isDigit then (number lenient false (c :: rest)).map fun (n, r) => (.number n, r)
      else failAt .expectedValue (c :: rest)

def items (lenient : Bool) : (fuel depth : Nat) → Bool → List Value → List Char →
    Except Stop (Value × List Char)
  | 0, _, _, _, cs => failAt .expectedValue cs
  | fuel + 1, depth, first, done, cs => do
    let (more, cs) ← nextItem first cs
    if more then
      let (v, cs) ← value lenient fuel depth cs
      items lenient fuel depth false (v :: done) cs
    else .ok (.list done.reverse, cs)

def fields (lenient : Bool) : (fuel depth : Nat) → Bool → TextMap Value → List Char →
    Except Stop (Value × List Char)
  | 0, _, _, _, cs => failAt .expectedValue cs
  | fuel + 1, depth, first, done, cs => do
    let (key, cs) ← nextKey first cs
    match key with
    | none => .ok (.record done, cs)
    | some name =>
      let (v, cs) ← value lenient fuel depth cs
      fields lenient fuel depth false (done.put name v) cs

end

inductive Shape where
  | any
  | record (members : List (String × Shape))
  deriving Inhabited

mutual

/-- A structure is an object or a list of its members in order; anything else in its place is read
as it stands and left to the caller to refuse. -/
def shaped : (fuel depth : Nat) → Shape → List Char → Except Stop (Value × List Char)
  | 0, _, _, cs => failAt .expectedValue cs
  | fuel + 1, depth, .any, cs => value false fuel depth cs
  | fuel + 1, depth, .record members, cs =>
    match skipBlank cs with
    | '[' :: rest =>
      if depth ≤ 1 then failAt .nestingTooDeep ('[' :: rest)
      else shapedItems fuel (depth - 1) members true [] rest
    | '\x7b' :: rest =>
      if depth ≤ 1 then failAt .nestingTooDeep ('\x7b' :: rest)
      else shapedFields fuel (depth - 1) members true [] rest
    | rest => value false fuel depth rest

def shapedItems : (fuel depth : Nat) → List (String × Shape) → Bool → List Value → List Char →
    Except Stop (Value × List Char)
  | 0, _, _, _, _, cs => failAt .expectedValue cs
  | fuel + 1, depth, members, first, done, cs => do
    let (more, cs) ← nextItem first cs
    if more then
      match members with
      | [] => failAt .trailingCharacters cs
      | (_, shape) :: members =>
        let (v, cs) ← shaped fuel depth shape cs
        shapedItems fuel depth members false (v :: done) cs
    else .ok (.list done.reverse, cs)

def shapedFields : (fuel depth : Nat) → List (String × Shape) → Bool → TextMap Value →
    List Char → Except Stop (Value × List Char)
  | 0, _, _, _, _, cs => failAt .expectedValue cs
  | fuel + 1, depth, members, first, done, cs => do
    let (key, cs) ← nextKey first cs
    match key with
    | none => .ok (.record done, cs)
    | some name =>
      match members.lookup name with
      | none =>
        let (_, cs) ← value true fuel depth cs
        shapedFields fuel depth members false done cs
      | some shape =>
        if (done.find? name).isSome then failHere (.repeatedField name) cs
        else
          let (v, cs) ← shaped fuel depth shape cs
          shapedFields fuel depth members false (done.put name v) cs

end

def depthLimit : Nat := 128

def failureAt (cs : List Char) (stop : Stop) : Failure :=
  let consumed := cs.take (cs.length - stop.rest.length)
  let (line, column) := place (utf8 consumed ++ (utf8 stop.rest).take stop.ahead)
  ⟨stop.problem, line, column⟩

end Reader

def readShaped (shape : Reader.Shape) (source : String) : Except Failure Value :=
  let cs := source.toList
  match Reader.shaped (2 * cs.length + 4) Reader.depthLimit shape cs with
  | .error stop => .error (Reader.failureAt cs stop)
  | .ok (v, rest) =>
    match Reader.skipBlank rest with
    | [] => .ok v
    | rest => .error (Reader.failureAt cs ⟨.trailingCharacters, 1, rest⟩)

def read (source : String) : Except Failure Value := readShaped .any source

end LeaseKeeper.Json

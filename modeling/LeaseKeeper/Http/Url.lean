import LeaseKeeper.Http.Host
/-!
Absolute addresses, read leniently and written in one form: dot segments are resolved, and what
cannot stand in a part of an address is percent-encoded. Where the scheme is not one of the web, the
host and the port are checked, and everything after the scheme is kept as it is.
-/
namespace LeaseKeeper.Http

structure Url where
  scheme : String
  host : Option String
  port : Option Nat
  path : String
  query : Option String
  fragment : Option String
  deriving DecidableEq, Repr, Inhabited

namespace Url

/-! ### Percent-encoding -/

def byteText (b : UInt8) : List Char :=
  ['%', hexDigit (b.toNat / 16), hexDigit (b.toNat % 16)]
where
  hexDigit (n : Nat) : Char := ((Nat.toDigits 16 n).headD '0').toUpper

def encode (isEncoded : Char → Bool) (cs : List Char) : String :=
  String.ofList (cs.flatMap fun c =>
    if isEncoded c then (String.utf8EncodeChar c).flatMap byteText else [c])

def isControl (c : Char) : Bool := c.toNat < 0x20 || 0x7F ≤ c.toNat

def inFragmentSet (c : Char) : Bool := isControl c || " \"<>`".toList.contains c

def inQuerySet (c : Char) : Bool := isControl c || " \"#<>'".toList.contains c

def inPathSet (c : Char) : Bool := inFragmentSet c || "#?\x7b\x7d".toList.contains c

/-! ### Paths -/

def isSlash (c : Char) : Bool := c = '/' || c = '\\'

def isDot (segment : List Char) : Bool :=
  [".", "%2e"].contains (String.ofList (segment.map Char.toLower))

def isDoubleDot (segment : List Char) : Bool :=
  ["..", ".%2e", "%2e.", "%2e%2e"].contains (String.ofList (segment.map Char.toLower))

def isDrive (segment : List Char) : Bool :=
  match segment with
  | [letter, mark] => letter.isAlpha && (mark == ':' || mark == '|')
  | _ => false

/-- A path without its last segment, latest first. Two dots do not lead up from a drive. -/
def parent (path : List String) : List String :=
  match path with
  | [] => []
  | last :: rest => if isDrive last.toList then path else rest

/-- The path so far, latest segment first, after one more segment. The last one leaves a slash
behind where it is a dot. -/
def stepPath (path : List String) (segment : List Char) (isLast : Bool) : List String :=
  if isDoubleDot segment then (if isLast then "" :: parent path else parent path)
  else if isDot segment then (if isLast then "" :: path else path)
  else encode inPathSet segment :: path

def resolve (path : List String) : List (List Char) → List String
  | [] => path.reverse
  | [last] => (stepPath path last true).reverse
  | segment :: rest => resolve (stepPath path segment false) rest

def pathText (cs : List Char) : String :=
  let inner := match cs with
    | '/' :: rest | '\\' :: rest => rest
    | _ => cs
  String.join ((resolve [] (Text.parts isSlash inner)).map ("/" ++ ·))

/-! ### Reading -/

def defaultPort (scheme : String) : Option Nat :=
  if scheme = "http" ∨ scheme = "ws" then some 80
  else if scheme = "https" ∨ scheme = "wss" then some 443
  else if scheme = "ftp" then some 21
  else none

def scheme? : List Char → Option (String × List Char)
  | [] => none
  | c :: cs =>
    if c.isAlpha then
      let inner (d : Char) : Bool := d.isAlphanum || d = '+' || d = '-' || d = '.'
      match cs.dropWhile inner with
      | ':' :: rest => some (String.ofList ((c :: cs.takeWhile inner).map Char.toLower), rest)
      | _ => none
    else none

def splitLast (separator : Char) (cs : List Char) : Option (List Char) × List Char :=
  let after := (cs.reverse.takeWhile (· != separator)).reverse
  if cs.contains separator then (some (cs.take (cs.length - after.length - 1)), after)
  else (none, after)

/-- The host, and what follows it from the colon of the port on. A colon inside brackets belongs to
the host. -/
def hostAndRest (inside : Bool) : List Char → List Char × List Char
  | [] => ([], [])
  | c :: cs =>
    if c = ':' ∧ ¬ inside then ([], c :: cs)
    else
      let (host, rest) := hostAndRest (c = '[' || (inside && c != ']')) cs
      (c :: host, rest)

/-- The port after its colon, where it is not the scheme's own; none is a port too. -/
def port? (scheme : String) (rest : List Char) : Option (Option Nat) :=
  let digits := rest.drop 1
  if digits.isEmpty then some none
  else if digits.all Char.isDigit then
    match Text.digitsIn? 10 0 digits with
    | some n =>
      if n ≤ 65535 then some (if some n = defaultPort scheme then none else some n) else none
    | none => none
  else none

def cutAt (mark : Char) (cs : List Char) : List Char × Option (List Char) :=
  match cs.dropWhile (· != mark) with
  | [] => (cs, none)
  | _ :: rest => (cs.takeWhile (· != mark), some rest)

def isAuthorityEnd (c : Char) : Bool := isSlash c || c = '?' || c = '#'

/-- What follows the scheme of a web address. Credentials before an `@` are not part of it. -/
def ofWeb? (scheme : String) (rest : List Char) : Option Url := do
  let body := rest.dropWhile isSlash
  let authority := body.takeWhile (!isAuthorityEnd ·)
  let (hostChars, portChars) := hostAndRest false (splitLast '@' authority).2
  let host ← Host.ofChars? hostChars
  let port ← port? scheme portChars
  let (beforeFragment, fragment) := cutAt '#' (body.drop authority.length)
  let (path, query) := cutAt '?' beforeFragment
  return ⟨scheme, some host, port, pathText path, query.map (encode inQuerySet),
    fragment.map (encode inFragmentSet)⟩

/-- Whether two slashes and a name after the scheme of a file name a host, or none at all. -/
def isFilePlace (rest : List Char) : Bool :=
  match rest with
  | a :: b :: body =>
    let host := body.takeWhile (!isAuthorityEnd ·)
    !(isSlash a && isSlash b) || host.isEmpty || isDrive host || (Host.ofChars? host).isSome
  | _ => true

/-- Whether what follows the scheme of another address begins with a host and a port, if it begins
with two slashes. Only without credentials and without a port may the host be empty. -/
def isPlace (scheme : String) (rest : List Char) : Bool :=
  match rest with
  | '/' :: '/' :: body =>
    let authority := body.takeWhile fun c => c != '/' && c != '?' && c != '#'
    let (credentials, place) := splitLast '@' authority
    let (host, portChars) := hostAndRest false place
    let portChars := portChars.takeWhile (· != '\\')
    if host.isEmpty then
      portChars.isEmpty && match credentials with
        | none | some [':'] => true
        | some [] => body.length == authority.length
        | some _ => false
    else (Host.opaque? host).isSome && (port? scheme portChars).isSome
  | _ => true

/-- Without blanks and controls around it, and without tabs and line ends anywhere. -/
def tidy (source : String) : List Char :=
  let isEdge (c : Char) : Bool := c.toNat ≤ 0x20
  let trimmed := ((source.toList.dropWhile isEdge).reverse.dropWhile isEdge).reverse
  trimmed.filter fun c => c != '\t' && c != '\n' && c != '\r'

def parse? (source : String) : Option Url :=
  match scheme? (tidy source) with
  | none => none
  | some (scheme, rest) =>
    if (defaultPort scheme).isSome then ofWeb? scheme rest
    else if if scheme = "file" then isFilePlace rest else isPlace scheme rest then
      some ⟨scheme, none, none, String.ofList rest, none, none⟩
    else none

/-! ### Writing -/

def target (u : Url) : String :=
  u.path ++ match u.query with
    | some query => "?" ++ query
    | none => ""

def origin (u : Url) : String :=
  match u.host with
  | none => u.scheme ++ ":"
  | some host => u.scheme ++ "://" ++ host ++ match u.port with
    | some port => ":" ++ toString port
    | none => ""

def text (u : Url) : String :=
  u.origin ++ u.target ++ match u.fragment with
    | some fragment => "#" ++ fragment
    | none => ""

def isHttp (u : Url) : Bool := u.scheme == "http" || u.scheme == "https"

def longestText : Nat := 65534

/-- Whether a request can name the address: not all that a host may hold can be sent. -/
def isRequestable (u : Url) : Bool :=
  u.text.utf8ByteSize ≤ longestText &&
    (u.host.getD "").toList.all fun c => !"\"`\x7b\x7d".toList.contains c

end Url
end LeaseKeeper.Http

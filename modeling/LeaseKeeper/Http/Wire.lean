import LeaseKeeper.Http.Exchange
/-!
A request and its answer as they stand on a connection that carries no other. The body of an answer
is as long as its length field says, or comes in chunks, or lasts until the connection ends.
-/
namespace LeaseKeeper.Http.Wire

/-! ### Writing a request -/

def authority (url : Url) : String :=
  url.host.getD "" ++ match url.port with
    | some port => ":" ++ toString port
    | none => ""

def requestText (r : Request) : String :=
  let body := (r.body.map Json.Value.compact).getD ""
  let fields := [("Host", authority r.url), ("Accept", "*/*"), ("Connection", "close")] ++
    r.headers ++
    (if r.method = .get then [] else [("Content-Length", toString body.utf8ByteSize)])
  r.line ++ " HTTP/1.1\r\n" ++
    String.join (fields.map fun (name, value) => name ++ ": " ++ value ++ "\r\n") ++ "\r\n" ++ body

/-! ### Reading an answer -/

def characters (bytes : List UInt8) : List Char := bytes.map fun b => Char.ofNat b.toNat

def line? (bytes : List UInt8) : Option (List UInt8 × List UInt8) :=
  match bytes.dropWhile (· != 10) with
  | [] => none
  | _ :: rest => some (bytes.takeWhile (· != 10), rest)

theorem length_lt_of_line? {bytes line rest : List UInt8} (h : line? bytes = some (line, rest)) :
    rest.length < bytes.length := by
  have shorter := (List.dropWhile_sublist (l := bytes) (· != 10)).length_le
  unfold line? at h
  split at h
  · simp at h
  · rename_i hd
    obtain ⟨-, rfl⟩ := Prod.mk.inj (Option.some.inj h)
    rw [hd, List.length_cons] at shorter
    exact shorter

def lineText (line : List UInt8) : String :=
  String.ofList (Url.tidy (String.ofList (characters line)))

def fieldOf (text : String) : String × String :=
  let (name, value) := Url.cutAt ':' text.toList
  (String.ofList (name.map Char.toLower),
    String.ofList ((value.getD []).dropWhile Char.isWhitespace))

def fields? (bytes : List UInt8) : Option (List (String × String) × List UInt8) :=
  match h : line? bytes with
  | none => none
  | some (line, rest) =>
    have := length_lt_of_line? h
    let text := lineText line
    if text.isEmpty then some ([], rest)
    else (fields? rest).map fun (fields, body) => (fieldOf text :: fields, body)
termination_by bytes.length

/-- The contents of chunks, each after a line with its size, up to the empty one. -/
def unchunked? (bytes : List UInt8) : Option (List UInt8) :=
  match h : line? bytes with
  | none => none
  | some (line, rest) =>
    have := length_lt_of_line? h
    match (characters line).takeWhile fun c => (Text.hexValue? c).isSome with
    | [] => none
    | digits =>
      match Text.digitsIn? 16 0 digits with
      | none => none
      | some 0 => some []
      | some size =>
        if rest.length < size + 2 then none
        else (unchunked? (rest.drop (size + 2))).map (rest.take size ++ ·)
termination_by bytes.length

def status? (text : String) : Option Nat :=
  match text.splitOn " " with
  | _ :: code :: _ => if code.isEmpty then none else Text.digitsIn? 10 0 code.toList
  | _ => none

/-- The body that follows the fields; `none` when it is cut short. -/
def body? (status : Nat) (fields : List (String × String)) (bytes : List UInt8) :
    Option (List UInt8) :=
  if status = 204 ∨ status = 304 then some []
  else if (fields.lookup "transfer-encoding").isSome then unchunked? bytes
  else match fields.lookup "content-length" with
    | none => some bytes
    | some length => do
      let size ← Text.digitsIn? 10 0 length.toList
      if bytes.length < size then none else some (bytes.take size)

def answer? (bytes : List UInt8) : Option Answer := do
  let (first, afterFirst) ← line? bytes
  let status ← status? (lineText first)
  let (fields, afterFields) ← fields? afterFirst
  let body ← body? status fields afterFields
  return ⟨status, (String.fromUTF8? ⟨body.toArray⟩).getD ""⟩

end LeaseKeeper.Http.Wire

/-!
Why a text is not JSON, and where.
-/
namespace LeaseKeeper.Json

inductive Problem where
  | endInList
  | endInObject
  | endInString
  | endInValue
  | expectedColon
  | expectedCommaOrListEnd
  | expectedCommaOrObjectEnd
  | expectedIdent
  | expectedValue
  | invalidEscape
  | invalidNumber
  | numberOutOfRange
  | controlCharacter
  | keyNotText
  | loneSurrogate
  | unfinishedSurrogatePair
  | trailingComma
  | trailingCharacters
  | nestingTooDeep
  | repeatedField (name : String)
  deriving DecidableEq, Repr, Inhabited

def Problem.text : Problem → String
  | endInList => "EOF while parsing a list"
  | endInObject => "EOF while parsing an object"
  | endInString => "EOF while parsing a string"
  | endInValue => "EOF while parsing a value"
  | expectedColon => "expected `:`"
  | expectedCommaOrListEnd => "expected `,` or `]`"
  | expectedCommaOrObjectEnd => "expected `,` or `\x7d`"
  | expectedIdent => "expected ident"
  | expectedValue => "expected value"
  | invalidEscape => "invalid escape"
  | invalidNumber => "invalid number"
  | numberOutOfRange => "number out of range"
  | controlCharacter => "control character (\\u0000-\\u001F) found while parsing a string"
  | keyNotText => "key must be a string"
  | loneSurrogate => "lone leading surrogate in hex escape"
  | unfinishedSurrogatePair => "unexpected end of hex escape"
  | trailingComma => "trailing comma"
  | trailingCharacters => "trailing characters"
  | nestingTooDeep => "recursion limit exceeded"
  | repeatedField name => "duplicate field `" ++ name ++ "`"

/-- Lines count from one; a column counts the bytes of its line up to the place of failure. -/
structure Failure where
  problem : Problem
  line : Nat
  column : Nat
  deriving DecidableEq, Repr, Inhabited

def Failure.text (f : Failure) : String :=
  f.problem.text ++ " at line " ++ toString f.line ++ " column " ++ toString f.column

def utf8 (cs : List Char) : List UInt8 := cs.flatMap String.utf8EncodeChar

def place (consumed : List UInt8) : Nat × Nat :=
  consumed.foldl (fun (line, column) b =>
    if b = '\n'.toUInt8 then (line + 1, 0) else (line, column + 1)) (1, 0)

end LeaseKeeper.Json

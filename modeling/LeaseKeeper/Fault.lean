import LeaseKeeper.Json.Failure
/-!
What can go wrong between a lease holder and the secret store. A fault that several listeners share
is handed back as a copy, which keeps everything a decision depends on.
-/
namespace LeaseKeeper

inductive IoKind where
  | notFound
  | timedOut
  | brokenPipe
  | connectionReset
  | permissionDenied
  | other
  deriving DecidableEq, Repr, Inhabited

inductive Fault where
  | notFound (path : String)
  | connectionFailed (message : String)
  | authenticationFailed (message : String)
  | invalidArgument (message : String)
  | backendError (status : Nat) (message : String)
  | configError (message : String)
  | serializationError (failure : Json.Failure)
  | ioError (kind : IoKind) (message : String)
  | internal (message : String)
  deriving DecidableEq, Repr, Inhabited

namespace Fault

def kind : Fault → String
  | notFound _ => "NotFound"
  | connectionFailed _ => "ConnectionFailed"
  | authenticationFailed _ => "AuthenticationFailed"
  | invalidArgument _ => "InvalidArgument"
  | backendError _ _ => "BackendError"
  | configError _ => "ConfigError"
  | serializationError _ => "SerializationError"
  | ioError _ _ => "IoError"
  | internal _ => "Internal"

def message : Fault → String
  | notFound path => "Secret not found: " ++ path
  | connectionFailed m => "Backend connection failed: " ++ m
  | authenticationFailed m => "Authentication failed: " ++ m
  | invalidArgument m => "Invalid argument: " ++ m
  | backendError status m => "Backend error (status " ++ toString status ++ "): " ++ m
  | configError m => "Configuration error: " ++ m
  | serializationError failure => "Serialization error: " ++ failure.text
  | ioError _ m => "I/O error: " ++ m
  | internal m => "Internal error: " ++ m

def isIo : Fault → Bool
  | connectionFailed _ | ioError _ _ => true
  | _ => false

def isNotFound : Fault → Bool
  | notFound _ => true
  | backendError status _ => status == 404
  | _ => false

/-- A copy of a shared fault. A serialization fault cannot be copied and becomes an internal one
that quotes it. -/
def replicate : Fault → Fault
  | serializationError failure => internal ("Serialization error: " ++ failure.text)
  | fault => fault

def cause : Fault → Option String
  | serializationError failure => some failure.text
  | ioError _ m => some m
  | _ => none

/-- How a transport's error answer with this status is reported; `none` below 400 and above 599. -/
def ofStatus (status : Nat) (message : String) : Option Fault :=
  if 400 ≤ status ∧ status ≤ 599 then some (backendError status message) else none

def ofErrors (status : Nat) (errors : List String) : Fault :=
  let message := "; ".intercalate errors
  if status = 400 ∨ status = 401 ∨ status = 403 then authenticationFailed message
  else backendError status message

theorem isIo_replicate (fault : Fault) : fault.replicate.isIo = fault.isIo := by
  cases fault <;> rfl

theorem isNotFound_replicate (fault : Fault) : fault.replicate.isNotFound = fault.isNotFound := by
  cases fault <;> rfl

end Fault

inductive ClientProblem where
  | refused (status : Nat) (errors : List String)
  | fileMissing (path : String)
  | fileUnreadable (path : String)
  | fileUnwritable (path : String)
  | invalidLoginMethod
  | emptyResponse
  | emptyData
  | badWrapping
  | wrapInvalid
  | nothingUpdated
  deriving DecidableEq, Repr

namespace ClientProblem

def text : ClientProblem → String
  | refused _ _ => "The Vault server returned an error"
  | fileMissing path => "Failed to find file: " ++ path
  | fileUnreadable path => "Error reading file: " ++ path
  | fileUnwritable path => "Error writing file: " ++ path
  | invalidLoginMethod => "Invalid login method"
  | emptyResponse => "The request returned an empty response"
  | emptyData => "The result contained an empty data field"
  | badWrapping => "Error parsing response wrapping result"
  | wrapInvalid => "The wrapped response doesn't exist or is not longer valid"
  | nothingUpdated => "The parameters given to the endpoint didn't update anything"

def fault : ClientProblem → Fault
  | refused status errors => Fault.ofErrors status errors
  | problem => .connectionFailed problem.text

end ClientProblem

end LeaseKeeper

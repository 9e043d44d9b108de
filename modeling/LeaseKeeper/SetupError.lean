import LeaseKeeper.Fault
import LeaseKeeper.Text.Path
/-!
Errors of configuration and start-up, and the one message made of many validation failures.
-/
namespace LeaseKeeper

inductive SetupError where
  | config (message : String) (cause : Option String)
  | validation (message : String) (field : Option String)
  | io (cause context : String)
  | secrets (fault : Fault)
  deriving DecidableEq, Repr

namespace SetupError

def message : SetupError → String
  | config m _ => "Configuration error: " ++ m
  | validation m _ => "Validation error: " ++ m
  | io _ context => "I/O error: " ++ context
  | secrets fault => fault.message

def cause : SetupError → Option String
  | config _ cause => cause
  | validation _ _ => none
  | io cause _ => some cause
  | secrets fault => fault.cause

def ofIo (cause : String) : SetupError := .io cause "I/O operation failed"

end SetupError

/-- What is wrong with a structure: under each name a list of messages, a nested structure, or
nested structures by index. -/
inductive Findings where
  | messages (items : List (Option String))
  | fields (entries : List (String × Findings))
  | items (entries : List (Nat × List (String × Findings)))
  deriving Repr, Inhabited

namespace Findings

open Text

def line (path : String) (messages : List (Option String)) : String :=
  path ++ ": " ++ ", ".intercalate (messages.map fun m => m.getD "Invalid value")

mutual

/-- One line for each list of messages, under the path that leads to it. -/
def lines (path : String) : Findings → List String
  | .messages ms => [line path ms]
  | .fields entries => fieldLines path entries
  | .items entries => itemLines path entries

def fieldLines (path : String) : List (String × Findings) → List String
  | [] => []
  | (name, f) :: rest => lines (Path.field path name) f ++ fieldLines path rest

def itemLines (path : String) : List (Nat × List (String × Findings)) → List String
  | [] => []
  | (index, entries) :: rest => fieldLines (Path.item path index) entries ++ itemLines path rest

end

def error (entries : List (String × Findings)) : SetupError :=
  .validation ("Validation failed: " ++ "; ".intercalate (fieldLines "" entries)) none

end Findings
end LeaseKeeper

import LeaseKeeper.Json.Value
import LeaseKeeper.Text.Path
/-!
Nested secret data as a flat map from paths to text: object steps are joined by dots, list steps
are written `[i]`, nulls and empty containers leave nothing. Where two leaves share a path the
later one stands.
-/
namespace LeaseKeeper.Flatten

open Json Text

mutual

def into (path : String) : Value → TextMap String → TextMap String
  | .null, out => out
  | .bool b, out => out.put path (if b then "true" else "false")
  | .number n, out => out.put path n.text
  | .text s, out => out.put path s
  | .list items, out => itemsInto path 0 items out
  | .record fields, out => fieldsInto path fields out

def itemsInto (path : String) (index : Nat) : List Value → TextMap String → TextMap String
  | [], out => out
  | v :: vs, out => itemsInto path (index + 1) vs (into (Path.item path index) v out)

def fieldsInto (path : String) : List (String × Value) → TextMap String → TextMap String
  | [], out => out
  | (name, v) :: rest, out => fieldsInto path rest (into (Path.field path name) v out)

end

def flatten (v : Value) : TextMap String := into "" v []

end LeaseKeeper.Flatten

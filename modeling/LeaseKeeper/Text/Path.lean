/-!
Paths into nested data: steps by name are joined with dots, steps by index are written `[i]`.
-/
namespace LeaseKeeper.Text.Path

/-- A step by name. No dot follows an empty path. -/
def field (path name : String) : String := if path.isEmpty then name else path ++ "." ++ name

def item (path : String) (index : Nat) : String := path ++ "[" ++ toString index ++ "]"

end LeaseKeeper.Text.Path

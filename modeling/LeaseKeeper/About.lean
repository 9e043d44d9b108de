/-!
The program's name and version.
-/
namespace LeaseKeeper.About

def name : String := "vault-lease"

def version : String := "0.1.0"

end LeaseKeeper.About

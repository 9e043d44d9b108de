/-!
Listeners under ids that are never used twice. An event goes to the listeners registered when it
arises, whatever they do to the registry while they are called.
-/
namespace LeaseKeeper.Listeners

structure Registry (L : Type) where
  entries : List (Nat × L)
  issued : Nat

inductive Change (L : Type) where
  | add (listener : L)
  | remove (id : Nat)

namespace Registry

variable {L M : Type}

def empty : Registry L := ⟨[], 0⟩

def size (r : Registry L) : Nat := r.entries.length

def isEmpty (r : Registry L) : Bool := r.entries.isEmpty

def ids (r : Registry L) : List Nat := r.entries.map Prod.fst

def contains (r : Registry L) (id : Nat) : Bool := r.ids.contains id

def add (r : Registry L) (listener : L) : Registry L :=
  ⟨r.entries ++ [(r.issued, listener)], r.issued + 1⟩

def remove (r : Registry L) (id : Nat) : Registry L :=
  { r with entries := r.entries.filter fun entry => entry.1 != id }

def change (r : Registry L) : Change L → Registry L
  | .add listener => r.add listener
  | .remove id => r.remove id

/-- Calls the listeners present at the start, in turn. `react` gives what the listener remembers
and what it does to the registry as it then is. -/
def emit (react : M → Registry L → Nat × L → M × List (Change L)) (memory : M) (r : Registry L) :
    M × Registry L :=
  r.entries.foldl (fun (memory, current) entry =>
    let (memory, changes) := react memory current entry
    (memory, changes.foldl change current)) (memory, r)

end Registry
end LeaseKeeper.Listeners

import LeaseKeeper.Listeners.Registry
/-!
Listeners with names. A name stands for its latest registration; each listener notes what it hears
and may add or remove another one by name whenever it is called.
-/
namespace LeaseKeeper.Listeners

inductive Habit where
  | listen
  | removes (target : String)
  | adds (target : String)
  deriving DecidableEq, Repr

structure Named where
  name : String
  habit : Habit
  deriving DecidableEq, Repr

structure Gallery where
  registry : Registry Named
  names : List (String × Nat)
  heard : List (String × Nat)

namespace Gallery

def empty : Gallery := ⟨.empty, [], []⟩

def add (g : Gallery) (listener : Named) : Gallery :=
  { g with
    registry := g.registry.add listener
    names := (listener.name, g.registry.issued) :: g.names }

def remove (g : Gallery) (name : String) : Option Bool × Gallery :=
  match g.names.lookup name with
  | none => (none, g)
  | some id => (some (g.registry.contains id), { g with registry := g.registry.remove id })

def react (value : Nat) (memory : List (String × Nat) × List (String × Nat))
    (registry : Registry Named) (entry : Nat × Named) :
    (List (String × Nat) × List (String × Nat)) × List (Change Named) :=
  let (names, heard) := memory
  let heard := (entry.2.name, value) :: heard
  match entry.2.habit with
  | .listen => ((names, heard), [])
  | .removes target =>
    match names.lookup target with
    | none => ((names, heard), [])
    | some id => ((names, heard), [.remove id])
  | .adds target => (((target, registry.issued) :: names, heard), [.add ⟨target, .listen⟩])

def emit (g : Gallery) (value : Nat) : Gallery :=
  let ((names, heard), registry) := g.registry.emit (react value) (g.names, g.heard)
  ⟨registry, names, heard⟩

end Gallery
end LeaseKeeper.Listeners

/-!
Running a system whose work is due at known times, earliest first.
-/
namespace LeaseKeeper.Timeline

structure Due (S : Type) where
  time : Nat
  run : Unit → S

/-- The earlier of two things; the first one when they are due together. -/
def Due.earlier {S : Type} : Option (Due S) → Option (Due S) → Option (Due S)
  | none, b => b
  | a, none => a
  | some a, some b => if b.time < a.time then some b else some a

def earliest {S : Type} (items : List (Due S)) : Option (Due S) :=
  items.foldl (fun best item => Due.earlier best (some item)) none

def soonest {E : Type} : List (Nat × E) → Option (Nat × Nat)
  | [] => none
  | (time, _) :: rest =>
    match soonest rest with
    | none => some (0, time)
    | some (index, other) => if other < time then some (index + 1, other) else some (0, time)

/-- Lets everything due up to `limit` happen. `fuel` bounds how much happens. -/
def runUntil {S : Type} (next : S → Option (Due S)) (limit : Nat) : (fuel : Nat) → S → S
  | 0, s => s
  | fuel + 1, s =>
    match next s with
    | none => s
    | some item => if item.time ≤ limit then runUntil next limit fuel (item.run ()) else s

/-- Enough for any schedule that leaves time between its renewals. -/
def ample : Nat := 1000000000

end LeaseKeeper.Timeline

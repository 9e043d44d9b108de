import LeaseKeeper.Fault
/-!
Prepared answers, given out in order.
-/
namespace LeaseKeeper

structure Scripted (α : Type) where
  delay : Nat
  result : Except Fault α

namespace Scripted

variable {α : Type}

/-- The next answer and those left. The last one repeats, and `otherwise` stands for an empty
list. -/
def takeLasting (otherwise : Scripted α) : List (Scripted α) → Scripted α × List (Scripted α)
  | [] => (otherwise, [])
  | [last] => (last, [last])
  | first :: rest => (first, rest)

def takeOnce (otherwise : Scripted α) : List (Scripted α) → Scripted α × List (Scripted α)
  | [] => (otherwise, [])
  | first :: rest => (first, rest)

end Scripted
end LeaseKeeper

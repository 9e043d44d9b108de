/-!
Spans of time, as natural numbers of nanoseconds. Instants are spans since the start of a clock.
-/
namespace LeaseKeeper.Span

def seconds (n : Nat) : Nat := 1000000000 * n

def millis (n : Nat) : Nat := 1000000 * n

def toSeconds (span : Nat) : Nat := span / 1000000000

def toMillis (span : Nat) : Nat := span / 1000000

/-- The last instant of a clock, about 292 billion years after its start. A deadline past it cannot
be represented. -/
def clockEnd : Nat := seconds 9223372036854775807 + 999999999

def padLeft (width : Nat) (digits : List Char) : List Char :=
  List.replicate (width - digits.length) '0' ++ digits

def decimal (whole part places : Nat) : String :=
  let digits := (padLeft places (Nat.toDigits 10 part)).reverse.dropWhile (· == '0') |>.reverse
  if digits.isEmpty then toString whole else toString whole ++ "." ++ String.ofList digits

/-- In the largest of s, ms, µs, ns that is not above the span. -/
def text (span : Nat) : String :=
  if 1000000000 ≤ span then decimal (span / 1000000000) (span % 1000000000) 9 ++ "s"
  else if 1000000 ≤ span then decimal (span / 1000000) (span % 1000000) 6 ++ "ms"
  else if 1000 ≤ span then decimal (span / 1000) (span % 1000) 3 ++ "µs"
  else decimal span 0 0 ++ "ns"

end LeaseKeeper.Span

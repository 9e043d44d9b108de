import LeaseKeeper.Lineage
/-!
The renewal tasks of one lineage. Each task waits for its timer, claims the lineage, renews the
lease, and goes on with the next timer or ends. Tasks interleave freely between these points; an
event that does not fit the state is refused and changes nothing.
-/
namespace LeaseKeeper.Renewal

structure Terms where
  floor : Nat
  threshold : Nat
  reschedule : Lease → Bool

inductive Stage where
  | waiting (due : Nat)
  | calling (lease : Lease)
  deriving DecidableEq, Repr

structure Task where
  number : Nat
  generation : Nat
  terms : Terms
  stage : Stage

structure Call where
  time : Nat
  generation : Nat
  lease : Lease
  deriving DecidableEq, Repr

structure System where
  strategy : Strategy
  now : Nat
  lineage : Lineage
  tasks : List Task
  started : Nat
  calls : List Call

inductive Event where
  | schedule (lease : Lease) (terms : Terms)
  | disable
  | pass (span : Nat)
  | fire (task : Nat)
  | stop (task : Nat)
  | answer (task : Nat) (result : Except Fault Lease)

namespace System

def new (strategy : Strategy) : System := ⟨strategy, 0, .new, [], 0, []⟩

def task? (s : System) (number : Nat) : Option Task := s.tasks.find? (·.number == number)

def drop (s : System) (number : Nat) : System :=
  { s with tasks := s.tasks.filter (·.number != number) }

def replace (s : System) (task : Task) : System :=
  { s with tasks := s.tasks.map fun t => if t.number = task.number then task else t }

/-- Makes a lease current and starts a task that will renew it; false when the clock cannot
represent the lease's end. -/
def schedule (s : System) (lease : Lease) (terms : Terms) : System × Bool :=
  match s.lineage.install s.now lease with
  | (lineage, none) => ({ s with lineage }, false)
  | (lineage, some generation) =>
    let due := s.now + renewalDelay lease.span terms.floor terms.threshold
    ({ s with
      lineage
      tasks := s.tasks ++ [⟨s.started, generation, terms, .waiting due⟩]
      started := s.started + 1 }, true)

def disable (s : System) : System × Option Lease :=
  let (lineage, lease) := s.lineage.disable
  ({ s with lineage }, lease)

def fire (s : System) (number : Nat) : System :=
  match s.task? number with
  | none => s
  | some task =>
    match task.stage with
    | .calling _ => s
    | .waiting due =>
      if due ≤ s.now then
        match s.lineage.fire task.generation with
        | (lineage, none) => { s with lineage }.drop number
        | (lineage, some lease) =>
          { s with lineage, calls := ⟨s.now, task.generation, lease⟩ :: s.calls }.replace
            { task with stage := .calling lease }
      else s

def stop (s : System) (number : Nat) : System :=
  match s.task? number with
  | none => s
  | some task =>
    match task.stage with
    | .calling _ => s
    | .waiting _ => if s.lineage.isCancelled task.generation then s.drop number else s

def answer (s : System) (number : Nat) (result : Except Fault Lease) : System :=
  match s.task? number with
  | none => s
  | some task =>
    match task.stage with
    | .waiting _ => s
    | .calling _ =>
      match s.lineage.conclude s.strategy task.terms.floor task.terms.threshold s.now
          task.generation task.terms.reschedule result with
      | (lineage, .wait generation delay) =>
        { s with lineage }.replace { task with generation, stage := .waiting (s.now + delay) }
      | (lineage, .stop) => { s with lineage }.drop number
      | (lineage, .crash) => { s with lineage }.drop number

def step (s : System) : Event → System
  | .schedule lease terms => (s.schedule lease terms).1
  | .disable => s.disable.1
  | .pass span => { s with now := s.now + span }
  | .fire number => s.fire number
  | .stop number => s.stop number
  | .answer number result => s.answer number result

def run (s : System) (events : List Event) : System := events.foldl step s

end System
end LeaseKeeper.Renewal

import LeaseKeeper.Renewal.Tasks
import LeaseKeeper.Timeline
/-!
A lineage played through against a script of renewal outcomes on a clock that moves only when asked.
Everything due is done before the next command.
-/
namespace LeaseKeeper.Renewal

inductive Command where
  | schedule (lease : Except Fault Lease) (terms : Terms)
  | disable

structure Outcome where
  delay : Nat
  inside : List Command
  answer : Except Fault Lease

inductive Report where
  | done
  | disabled (lease : Option Lease)
  | refused (fault : Fault)
  | overflow

structure Rehearsal where
  system : System
  script : List Outcome
  underWay : List (Nat × Nat × Outcome)

namespace Rehearsal

def new (strategy : Strategy) (script : List Outcome) : Rehearsal := ⟨.new strategy, script, []⟩

def command (r : Rehearsal) : Command → Rehearsal × Report
  | .disable =>
    let (system, lease) := r.system.disable
    ({ r with system }, .disabled lease)
  | .schedule (.error fault) _ => (r, .refused fault)
  | .schedule (.ok lease) terms =>
    match r.system.schedule lease terms with
    | (system, true) => ({ r with system }, .done)
    | (system, false) => ({ r with system }, .overflow)

def finish (r : Rehearsal) (number : Nat) (outcome : Outcome) : Rehearsal :=
  let r := outcome.inside.foldl (fun r command => (r.command command).1) r
  { r with system := r.system.answer number outcome.answer }

def sweep (r : Rehearsal) : Rehearsal :=
  { r with system := (r.system.tasks.map Task.number).foldl System.stop r.system }

/-- Fires a task; a call it makes takes the next outcome, and an empty script answers with no
lease. -/
def fire (r : Rehearsal) (number : Nat) : Rehearsal :=
  let before := r.system.calls.length
  let r := { r with system := r.system.fire number }
  if r.system.calls.length = before then r
  else
    match r.script with
    | [] => r.finish number ⟨0, [], .ok Lease.none⟩
    | outcome :: script =>
      let r := { r with script }
      if outcome.delay = 0 then r.finish number outcome
      else { r with underWay := r.underWay ++ [(number, r.system.now + outcome.delay, outcome)] }

def moveTo (r : Rehearsal) (time : Nat) : Rehearsal :=
  { r with system := { r.system with now := max time r.system.now } }

def taskDue (r : Rehearsal) (task : Task) : Option (Timeline.Due Rehearsal) :=
  match task.stage with
  | .waiting due => some ⟨due, fun _ => ((r.moveTo due).fire task.number).sweep⟩
  | .calling _ => none

def callDue (r : Rehearsal) : Nat × Nat × Outcome → Timeline.Due Rehearsal
  | (number, time, outcome) =>
    ⟨time, fun _ =>
      let r := r.moveTo time
      { r with underWay := r.underWay.filter (·.1 != number) }.finish number outcome |>.sweep⟩

def next (r : Rehearsal) : Option (Timeline.Due Rehearsal) :=
  Timeline.earliest (r.underWay.map r.callDue ++ r.system.tasks.filterMap r.taskDue)

def pass (r : Rehearsal) (span : Nat) : Rehearsal :=
  let limit := r.system.now + span
  (Timeline.runUntil next limit Timeline.ample r.sweep).moveTo limit

end Rehearsal
end LeaseKeeper.Renewal

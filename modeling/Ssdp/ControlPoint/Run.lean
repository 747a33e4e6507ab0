import Ssdp.ControlPoint.Step

/-!
# Runs of a control point

A run performs the first task of the agenda, puts the tasks it leaves in front
of the rest, and goes on until the agenda is empty. Outside code may dispatch
without end, so a run is given a number of steps; an agenda that is left tells
that they did not suffice. A panic that nobody catches is one of the program
outside: its script is over, and no task waits for it to return.

* `ControlPoint.run`: a bounded number of steps;
* `ControlPoint.run_succ`: a run as a first step and the run of what is left;
* `ControlPoint.settle`: a run with room for any script that comes to an end.
-/

namespace Ssdp

/-- Where a run got to: the state, what was shown on the way, and the tasks that
are left. -/
structure Run (ν : Type) where
  state : ControlPoint ν
  journal : List Entry
  agenda : List (Task ν)

namespace ControlPoint

variable [UrlParser] {ν : Type}

/-- Performs the tasks of an agenda, in at most the given number of steps, after
something has been shown, the last of it first. -/
def runAfter (shown : List Entry) : Nat → List (Task ν) → ControlPoint ν → Run ν
  | _, [], c => ⟨c, shown.reverse, []⟩
  | 0, agenda, c => ⟨c, shown.reverse, agenda⟩
  | steps + 1, task :: rest, c =>
    let o := c.perform task
    runAfter (o.journal.reverse ++ shown) steps (o.todo ++ rest) o.state

/-- Performs the tasks of an agenda, in at most the given number of steps. -/
def run (steps : Nat) (agenda : List (Task ν)) (c : ControlPoint ν) : Run ν :=
  runAfter [] steps agenda c

/-- What was shown before a run stands in front of what the run shows. -/
theorem runAfter_eq (shown : List Entry) (steps : Nat) (agenda : List (Task ν))
    (c : ControlPoint ν) :
    runAfter shown steps agenda c =
      { run steps agenda c with journal := shown.reverse ++ (run steps agenda c).journal } := by
  induction steps generalizing shown agenda c with
  | zero => cases agenda <;> simp [run, runAfter]
  | succ steps ih =>
    cases agenda with
    | nil => simp [run, runAfter]
    | cons task rest =>
      simp only [run, runAfter]
      rw [ih (_ ++ shown), ih (_ ++ [])]
      simp

@[simp] theorem run_nil (steps : Nat) (c : ControlPoint ν) : run steps [] c = ⟨c, [], []⟩ := by
  cases steps <;> rfl

@[simp] theorem run_zero (agenda : List (Task ν)) (c : ControlPoint ν) :
    run 0 agenda c = ⟨c, [], agenda⟩ := by
  cases agenda <;> rfl

/-- A run performs the first task of the agenda, and goes on with the tasks that it
leaves and the rest. -/
theorem run_succ (steps : Nat) (task : Task ν) (rest : List (Task ν)) (c : ControlPoint ν) :
    run (steps + 1) (task :: rest) c =
      let o := c.perform task
      let r := run steps (o.todo ++ rest) o.state
      { r with journal := o.journal ++ r.journal } := by
  rw [run, runAfter, runAfter_eq]
  simp

/-- The number of steps given to a run that should come to its end. -/
def patience : Nat := 1000000000

/-- Performs the tasks of an agenda to the end. -/
def settle (agenda : List (Task ν)) (c : ControlPoint ν) : Run ν :=
  run patience agenda c

/-- Whether the first tick of a timer is due at once: the locator has got a
timer that it did not have, with no delay. -/
def firstTickDue (before after : Locator) : Bool :=
  !before.timer && after.timer && after.config.initialDelay.isZero

end ControlPoint

end Ssdp

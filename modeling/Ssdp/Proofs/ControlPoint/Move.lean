import Mathlib.Logic.Relation
import Ssdp.ControlPoint.Run

/-!
# Moves of a control point

A control point at work performs the tasks of its agenda, one after the other.
At any moment the clock and the link may come to answer otherwise, and while
the agenda is empty the program outside may ask for something.

* `Move`, `Leads`: one such move, and any number of them;
* `Reached`: where moves lead from a control point that has no locators and no
  subscribers, through points that satisfy a condition;
* `Run.after`: where a number of steps leads.
-/

namespace Ssdp

variable [UrlParser] {ν : Type}

/-- What the program outside asks for: a message to be dispatched, an operation
of a locator, or a script of its own. -/
inductive Task.IsRequest : Task ν → Prop
  | deliver (e : Received) : IsRequest (.deliver e)
  | operate (id : LocatorId) (op : Operation) : IsRequest (.operate id op)
  | script (body : Script ν) : IsRequest (.script .program body)

/-- One move: a task is performed, the clock and the link change, or the program
asks for something while there is nothing to do. -/
inductive Move : Run ν → Run ν → Prop
  | perform (c : ControlPoint ν) (shown : List Entry) (task : Task ν) (rest : List (Task ν)) :
    Move ⟨c, shown, task :: rest⟩
      ⟨(c.perform task).state, shown ++ (c.perform task).journal, (c.perform task).todo ++ rest⟩
  | turn (c : ControlPoint ν) (shown : List Entry) (agenda : List (Task ν)) (clock : Conditions)
    (link : Link) : Move ⟨c, shown, agenda⟩ ⟨{ c with clock, link }, shown, agenda⟩
  | ask (c : ControlPoint ν) (shown : List Entry) {task : Task ν} (h : task.IsRequest) :
    Move ⟨c, shown, []⟩ ⟨c, shown, [task]⟩

/-- Any number of moves. -/
abbrev Leads : Run ν → Run ν → Prop :=
  Relation.ReflTransGen Move

/-- What moves lead to from a control point without locators and subscribers,
when every point that is left behind satisfies a condition. -/
inductive Reached (ok : Run ν → Prop) : Run ν → Prop
  | fresh (notes : ν) (clock : Conditions) (link : Link) (attempts : Nat) :
    Reached ok ⟨{ notes, clock, link, attempts }, [], []⟩
  | move {r r' : Run ν} (h : Reached ok r) (hok : ok r) (hm : Move r r') : Reached ok r'

theorem Reached.leads {r r' : Run ν} (h : Reached (fun _ => True) r) (hl : Leads r r') :
    Reached (fun _ => True) r' := by
  induction hl with
  | refl => exact h
  | tail _ hm ih => exact .move ih trivial hm

/-- The options of a locator that lets every device through. -/
def LocatorConfig.forAll : LocatorConfig :=
  { filters := [[]] }

/-- The run with a number of steps more. -/
def Run.after (r : Run ν) (n : Nat) : Run ν :=
  { r.state.run n r.agenda with journal := r.journal ++ (r.state.run n r.agenda).journal }

@[simp] theorem Run.after_zero (r : Run ν) : r.after 0 = r := by
  simp [after]

/-- A step more is the step of the first task, and the steps that follow. -/
theorem Run.after_succ (c : ControlPoint ν) (shown : List Entry) (task : Task ν)
    (rest : List (Task ν)) (n : Nat) :
    Run.after ⟨c, shown, task :: rest⟩ (n + 1) =
      Run.after ⟨(c.perform task).state, shown ++ (c.perform task).journal,
        (c.perform task).todo ++ rest⟩ n := by
  simp only [after, ControlPoint.run_succ, List.append_assoc]

/-- What every step keeps is kept by any number of them. -/
theorem Run.after_induction {P : Run ν → Prop}
    (hstep : ∀ c shown task rest, P ⟨c, shown, task :: rest⟩ →
      P ⟨(c.perform task).state, shown ++ (c.perform task).journal, (c.perform task).todo ++ rest⟩)
    {r : Run ν} (h : P r) (n : Nat) : P (r.after n) := by
  induction n generalizing r with
  | zero =>
    rw [after_zero]
    exact h
  | succ n ih =>
    obtain ⟨c, shown, agenda⟩ := r
    cases agenda with
    | nil => simpa [after] using h
    | cons task rest =>
      rw [after_succ]
      exact ih (hstep c shown task rest h)

/-- Steps are moves. -/
theorem leads_after (r : Run ν) (n : Nat) : Leads r (r.after n) :=
  Run.after_induction (fun c shown task rest h => h.tail (.perform c shown task rest)) .refl n

end Ssdp

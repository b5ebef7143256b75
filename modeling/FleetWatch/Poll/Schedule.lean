import FleetWatch.Session.Liveness

/-!
# Schedules

The tasks of a poll run side by side. Each may finish at any time, in any order, and may die
without a result. The results are put into slots as they come and taken out in the order of the
tasks.

## Main Definitions

* `Schedule` — an order in which tasks end, and which of them die
* `Outcome` — how a task ends
* `Schedule.results` — the outcomes of tasks in the order of the tasks
-/

namespace FleetWatch

/-- An order in which `n` tasks end, in which each occurs, and which of them die. -/
structure Schedule (n : Nat) where
  order : List (Fin n)
  complete : ∀ i, i ∈ order
  dies : Fin n → Bool

/-- How a task ends. -/
inductive Outcome (α : Type) where
  | finished (result : α)
  | died
deriving DecidableEq, Repr

/-- The result, or what stands for it if there is none. -/
def Outcome.getD {α : Type} (fallback : α) : Outcome α → α
  | .finished result => result
  | .died => fallback

namespace Schedule

/-- The tasks end in their order, and none of them dies. -/
def inOrder (n : Nat) : Schedule n where
  order := List.ofFn id
  complete i := List.mem_ofFn.2 ⟨i, rfl⟩
  dies _ := false

/-- How a task ends that is told to die or to go on. A task whose question has no answer dies. -/
def outcome {α : Type} (dies : Bool) (answer : Except PollFault α) : Outcome α :=
  if dies then .died
  else
    match answer with
    | .ok result => .finished result
    | .error _ => .died

/-- The slots after the tasks have ended in a given order. -/
def fill {α : Type} {n : Nat} (outcomes : Fin n → Outcome α) (order : List (Fin n)) :
    Fin n → Option (Outcome α) :=
  order.foldl (fun slots i j => if j = i then some (outcomes i) else slots j) fun _ => none

/-- The outcomes of tasks, in the order of the tasks. -/
def results {α : Type} (tasks : List (Except PollFault α)) (schedule : Schedule tasks.length) :
    List (Outcome α) :=
  let slots := fill (fun i => outcome (schedule.dies i) tasks[i]) schedule.order
  List.ofFn fun i => (slots i).getD .died

end Schedule

end FleetWatch

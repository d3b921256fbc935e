import LiveTemplate.Refresh.Change

/-!
# Shutting down

An owner that shuts down takes the elements out of the list, one after the other, tells their tasks to
stop and keeps their schedules. Only when no element is left does it wait for the tasks of these
schedules, one after the other. A task that has been taken along by a panic of the renderer ends the
waiting with an error, and those behind it are not waited for. Tasks and workers take steps meanwhile.
-/

namespace LiveTemplate.Refresh

variable {σ : Type}

/-- How far a shutdown has come. -/
inductive Shutdown (σ : Type) where
  /-- Changes of the list are still to be made, and schedules have been kept. -/
  | retiring (changes : List (Change σ)) (schedules : List Nat)
  /-- Tasks are still to be waited for, the first one now. -/
  | joining (tasks : List TaskId)
  | returned (result : Except Error Unit)

namespace State

/-- The tasks of a schedule, in the order of their directives. -/
def taskIds (s : State σ) (schedule : Nat) : List TaskId :=
  (List.range (((s.schedules[schedule]?).map fun found ↦ found.tasks.length).getD 0)).map
    (TaskId.mk schedule)

/-- The schedule that a change takes out of an element. -/
def retired? (s : State σ) : Change σ → Option Nat
  | .vacate index => (s.elements[index]?).bind Element.schedule?
  | _ => none

/-- What comes of waiting for a task, once it has ended. The host words the end of a task that a panic
has taken along. -/
def joined? (s : State σ) (wording : TaskId → String) (id : TaskId) : Option (Except Error Unit) :=
  (s.task? id).bind fun task ↦
    if task.phase = .broken then some (.error (.join (wording id)))
    else if task.state.isFinished then some (.ok ())
    else none

def shutdown (s : State σ) : Shutdown σ := .retiring (Operation.clear.changes s) []

end State

/-- The next step of a shutdown. There is none while it has to wait for a task, and none when it has
returned. -/
def Shutdown.step? (wording : TaskId → String) (s : State σ) :
    Shutdown σ → Option (State σ × Shutdown σ)
  | .retiring (change :: changes) schedules =>
    some (s.change change, .retiring changes (schedules ++ (s.retired? change).toList))
  | .retiring [] schedules => some (s, .joining (schedules.flatMap s.taskIds))
  | .joining (id :: ids) =>
    (s.joined? wording id).map fun
      | .ok () => (s, .joining ids)
      | .error error => (s, .returned (.error error))
  | .joining [] => some (s, .returned (.ok ()))
  | .returned _ => none

end LiveTemplate.Refresh

import LiveTemplate.Directive.Merge
import LiveTemplate.Refresh.Value

/-!
# The state of a refreshed list of texts

Each element of the list has a cell that counts its installations, also after the element itself is
gone. An installation of a text with directives starts a schedule: one task for each directive. A
schedule remembers the cell and the count at which it was installed, so that its tasks can tell
whether it is still the installed one. Schedules are never removed, only cancelled; a task is known
for ever by the number of its schedule and of its directive.

Whatever happens is written down, with its time, in a history whose latest entry comes first.
-/

namespace LiveTemplate.Refresh

open Command (Registry)

variable {σ : Type}

/-! ## Tasks -/

/-- What is shown of a task. -/
inductive TaskState where
  | idle
  | running
  | waiting
  | terminated
  | cancelled
  deriving DecidableEq, Repr

def TaskState.name : TaskState → String
  | .idle => "idle"
  | .running => "running"
  | .waiting => "waiting"
  | .terminated => "terminated"
  | .cancelled => "cancelled"

/-- Whether a task in this state does nothing any more. -/
def TaskState.isFinished : TaskState → Bool
  | .terminated | .cancelled => true
  | _ => false

/-- Where a task stands. Times are in nanoseconds. -/
inductive Phase where
  /-- The task has not run yet. -/
  | idle
  /-- The task calls its command itself, in a tick that began at a given time. -/
  | calling (start : Nat)
  /-- The task waits for a worker, and may have been sent the fragment. -/
  | awaiting (start : Nat) (fragment? : Option String)
  /-- The task gives way once before its next tick. -/
  | yielded
  /-- The task waits for a time. -/
  | asleep (wake : Nat)
  /-- The task has run once and was to run once. -/
  | terminated
  /-- The task has been stopped. -/
  | cancelled
  /-- The renderer has panicked during a tick and has taken the task with it. -/
  | broken
  deriving DecidableEq, Repr

/-- What is shown of a phase. A task that breaks shows nothing any more. -/
def Phase.state : Phase → TaskState
  | .idle => .idle
  | .calling _ | .awaiting _ _ | .broken => .running
  | .yielded | .asleep _ => .waiting
  | .terminated => .terminated
  | .cancelled => .cancelled

/-- The refreshing of one directive. -/
structure Task (σ : Type) where
  value : Value σ
  phase : Phase := .idle
  /-- The latest text of the directive. -/
  fragment : String := ""
  /-- How many fragments there have been. -/
  ticks : Nat := 0

def Task.state (task : Task σ) : TaskState := task.phase.state

def Task.publish (fragment : String) (task : Task σ) : Task σ :=
  { task with fragment := fragment, ticks := task.ticks + 1 }

/-- The tasks of one installed text. -/
structure Schedule (σ : Type) where
  /-- The position of the element. -/
  index : Nat
  /-- The cell of the element. -/
  cell : Nat
  /-- What the cell held at the installation. -/
  generation : Nat
  raw : String
  cancelled : Bool := false
  tasks : List (Task σ)

def Schedule.cancel (schedule : Schedule σ) : Schedule σ := { schedule with cancelled := true }

/-- The text of a schedule with the latest fragments of its tasks. -/
def Schedule.merged (schedule : Schedule σ) : String :=
  Directive.merge schedule.raw (schedule.tasks.map Task.fragment)

structure TaskId where
  schedule : Nat
  directive : Nat
  deriving DecidableEq, Repr

/-! ## Elements -/

/-- How far the replacement of a text has come. -/
inductive Stage where
  /-- A text is installed. -/
  | settled
  /-- The installed text counts no more, but its tasks have not been told to stop. -/
  | superseded
  /-- No text is installed, and no task is left that has not been told to stop. -/
  | vacant
  deriving DecidableEq, Repr

structure Element where
  cell : Nat
  raw : String := ""
  /-- The schedule of the installed text, if it has directives. -/
  schedule? : Option Nat := none
  stage : Stage := .vacant
  deriving DecidableEq, Repr

/-! ## History -/

inductive Event where
  /-- A text is installed, and starts a schedule if it has directives. -/
  | installed (index : Nat) (raw : String) (schedule? : Option Nat)
  /-- What is installed at a position counts no more. -/
  | superseded (index : Nat)
  /-- An element is removed. -/
  | tornDown (index : Nat)
  /-- A text is shown for an element, because of a task or of an installation. -/
  | rendered (index : Nat) (text : String) (source? : Option TaskId)
  /-- A task shows a state. -/
  | entered (task : TaskId) (state : TaskState)
  /-- A task begins a call of its command. -/
  | began (task : TaskId)
  /-- A call of a task's command returns. -/
  | returned (task : TaskId) (fragment : String)
  deriving DecidableEq, Repr

/-- An event and the time at which it happens, in nanoseconds. -/
structure Entry where
  time : Nat
  event : Event
  deriving DecidableEq, Repr

/-! ## The whole -/

/-- The list of texts, everything that has been started for it, and the world of the commands. -/
structure State (σ : Type) where
  registry : Registry σ
  /-- The least interval between two ticks. -/
  floor : Duration
  world : σ
  /-- The time in nanoseconds. -/
  now : Nat := 0
  /-- How often a text has been installed or removed, for each element that there has ever been. -/
  cells : List Nat := []
  schedules : List (Schedule σ) := []
  elements : List Element := []
  /-- The tasks whose calls run on workers, in the order in which they were begun. -/
  workers : List TaskId := []
  history : List Entry := []

def State.initial (registry : Registry σ) (floor : Duration) (world : σ) : State σ where
  registry := registry
  floor := floor
  world := world

namespace State

/-! ## Queries -/

def size (s : State σ) : Nat := s.elements.length

def text? (s : State σ) (index : Nat) : Option String := (s.elements[index]?).map Element.raw

def generation? (s : State σ) (index : Nat) : Option Nat :=
  (s.elements[index]?).bind fun element ↦ s.cells[element.cell]?

def tasksOf (s : State σ) (element : Element) : List (Task σ) :=
  ((element.schedule?.bind (s.schedules[·]?)).map Schedule.tasks).getD []

def tasks? (s : State σ) (index : Nat) : Option (List (Task σ)) :=
  (s.elements[index]?).map s.tasksOf

def task? (s : State σ) (id : TaskId) : Option (Task σ) :=
  (s.schedules[id.schedule]?).bind fun schedule ↦ schedule.tasks[id.directive]?

/-- Whether the schedule of a task has been told to stop. -/
def isCancelled (s : State σ) (id : TaskId) : Bool :=
  ((s.schedules[id.schedule]?).map Schedule.cancelled).getD true

/-- Whether the cell of a schedule still holds what it held at the installation. -/
def isInstalled (s : State σ) (schedule : Schedule σ) : Bool :=
  s.cells[schedule.cell]? = some schedule.generation

/-! ## Small changes -/

def record (s : State σ) (event : Event) : State σ :=
  { s with history := ⟨s.now, event⟩ :: s.history }

def modifyTask (s : State σ) (id : TaskId) (f : Task σ → Task σ) : State σ :=
  { s with
    schedules := s.schedules.modify id.schedule fun schedule ↦
      { schedule with tasks := schedule.tasks.modify id.directive f } }

def enter (s : State σ) (id : TaskId) (phase : Phase) : State σ :=
  (s.modifyTask id fun task ↦ { task with phase := phase }).record (.entered id phase.state)

end State

end LiveTemplate.Refresh

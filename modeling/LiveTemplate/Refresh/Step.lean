import LiveTemplate.Refresh.State

/-!
# Steps of tasks and workers

A task moves when it is polled. Between polls it waits for a worker, for a time, or for its turn; a
poll that finds its schedule cancelled ends it there and then. A command that runs on the task
itself keeps the poll busy until the call returns; a command that runs on a worker returns at a time
of its own, and the task takes the fragment at a later poll. A fragment is taken only while the
schedule is the installed one: then the text is rendered, and the task waits for the rest of its
interval. A renderer that panics ends the task in whose tick it was called, and nothing else. The
world of the commands does not wait for their calls: it may change at any time.
-/

namespace LiveTemplate.Refresh

open Command (fragmentOf)

variable {σ : Type}

/-- How a call of the renderer ends. -/
inductive Rendering where
  | returns
  | panics
  deriving DecidableEq, Repr

/-- Where a task goes after a tick. A tick that took the whole interval or longer is followed by the
next one at the task's next turn. -/
def Value.phaseAfter (value : Value σ) (start now : Nat) : Phase :=
  match value.interval with
  | none => .terminated
  | some interval =>
    let remaining := interval.nanoseconds - (now - start)
    if remaining = 0 then .yielded else .asleep (now + remaining)

namespace State

def beginTick (s : State σ) (id : TaskId) (mode : Mode) : State σ :=
  if s.isCancelled id then (s.record (.entered id .running)).enter id .cancelled
  else
    match mode with
    | .onTask => (s.enter id (.calling s.now)).record (.began id)
    | .onWorker =>
      let s := (s.enter id (.awaiting s.now none)).record (.began id)
      { s with workers := s.workers ++ [id] }

/-- Stores a fragment and renders the text of its schedule. -/
def publish (s : State σ) (id : TaskId) (fragment : String) : State σ :=
  let s := s.modifyTask id (Task.publish fragment)
  match s.schedules[id.schedule]? with
  | some schedule => s.record (.rendered schedule.index schedule.merged (some id))
  | none => s

/-- Takes the fragment of a call that belongs to a tick. The task ends if another text has been
installed. -/
def deliver (s : State σ) (id : TaskId) (start : Nat) (fragment : String) (rendering : Rendering) :
    State σ :=
  match s.schedules[id.schedule]?, s.task? id with
  | some schedule, some task =>
    if s.isInstalled schedule then
      let published := s.publish id fragment
      match rendering with
      | .returns => published.enter id (task.value.phaseAfter start s.now)
      | .panics => published.modifyTask id fun task ↦ { task with phase := .broken }
    else s.enter id .cancelled
  | _, _ => s

/-- Gives a task its turn. A poll for which there is no reason changes nothing. -/
def poll (s : State σ) (id : TaskId) (rendering : Rendering) : State σ :=
  match s.task? id with
  | none => s
  | some task =>
    match task.phase with
    | .idle => s.beginTick id task.value.mode
    | .awaiting start fragment? =>
      if s.isCancelled id then s.enter id .cancelled
      else
        match fragment? with
        | some fragment => s.deliver id start fragment rendering
        | none => s
    | .yielded =>
      if s.isCancelled id then s.enter id .cancelled else s.beginTick id task.value.mode
    | .asleep wake =>
      if s.isCancelled id then s.enter id .cancelled
      else if wake ≤ s.now then s.beginTick id task.value.mode
      else s
    | .calling _ | .terminated | .cancelled | .broken => s

/-- Lets the call that a task makes itself return. -/
def finish (s : State σ) (id : TaskId) (rendering : Rendering) : State σ :=
  match s.task? id with
  | none => s
  | some task =>
    match task.phase with
    | .calling start =>
      let (outcome, world) := task.value.command.invoke s.world
      let fragment := fragmentOf outcome.caught
      ({ s with world := world }.record (.returned id fragment)).deliver id start fragment rendering
    | _ => s

/-- Sends a fragment to a task. A task that does not wait for it has been cancelled. -/
def reply (s : State σ) (id : TaskId) (fragment : String) : State σ :=
  s.modifyTask id fun task ↦
    match task.phase with
    | .awaiting start none => { task with phase := .awaiting start (some fragment) }
    | _ => task

/-- Lets a call on a worker return. -/
def complete (s : State σ) (id : TaskId) : State σ :=
  match s.task? id with
  | none => s
  | some task =>
    if id ∈ s.workers then
      let (outcome, world) := task.value.command.invoke s.world
      let fragment := fragmentOf outcome.joined.answer
      ({ s with world := world, workers := s.workers.erase id }.record
        (.returned id fragment)).reply id fragment
    else s

def elapse (s : State σ) (nanoseconds : Nat) : State σ := { s with now := s.now + nanoseconds }

/-- Lets something outside change the world. -/
def disturb (s : State σ) (change : σ → σ) : State σ := { s with world := change s.world }

end State

end LiveTemplate.Refresh

import LiveTemplate.Refresh.Shutdown

/-!
# A deterministic schedule

Tasks take their turns in the order in which they became ready, on a clock that stands still
meanwhile. A new task is ready at once, and so is a task that is told to stop; a sleeping task
becomes ready when the clock has reached the first whole millisecond that is not before its time. A
call that a task makes itself returns within its turn. When no task is ready, the calls on workers
return in the order in which they were begun, except for those that are held up. The world may drift
while time passes. The renderer never panics here.
-/

namespace LiveTemplate.Refresh

variable {σ : Type}

/-- A task that sleeps until a whole millisecond. -/
structure Timer where
  due : Nat
  task : TaskId

/-- A state, the tasks that are ready, and those that sleep, in the order in which they began to. -/
structure Clockwork (σ : Type) where
  state : State σ
  ready : List TaskId := []
  timers : List Timer := []
  /-- What becomes of the world while nanoseconds pass. -/
  drift : Nat → σ → σ := fun _ world ↦ world
  /-- Whether the call of a task on a worker does not return yet. -/
  isHeld : State σ → TaskId → Bool := fun _ _ ↦ false

namespace State

def taskIdsFrom (s : State σ) (first : Nat) : List TaskId :=
  (s.schedules.zipIdx.drop first).flatMap fun entry ↦
    (List.range entry.1.tasks.length).map (⟨entry.2, ·⟩)

/-- The tasks of cancelled schedules that have not ended yet. -/
def stopping (s : State σ) : List TaskId :=
  (s.taskIdsFrom 0).filter fun id ↦
    s.isCancelled id && !((s.task? id).map fun task ↦ task.state.isFinished).getD true

end State

namespace Clockwork

/-! ## Turns -/

def place (c : Clockwork σ) (id : TaskId) : Clockwork σ :=
  match (c.state.task? id).map Task.phase with
  | some .yielded => { c with ready := c.ready ++ [id] }
  | some (.asleep wake) =>
    { c with timers := c.timers ++ [⟨(Duration.mk wake).ceilMilliseconds, id⟩] }
  | _ => c

/-- Gives a task its turn, and lets the call that it makes itself return. -/
def turn (c : Clockwork σ) (id : TaskId) : Clockwork σ :=
  place { c with state := (c.state.poll id .returns).finish id .returns } id

/-- The next turn or the next return of a worker, if there is one. -/
def next? (c : Clockwork σ) : Option (Clockwork σ) :=
  match c.ready with
  | id :: rest => some (turn { c with ready := rest } id)
  | [] =>
    (c.state.workers.find? fun id ↦ !c.isHeld c.state id).map fun id ↦
      { c with state := c.state.complete id, ready := [id] }

/-- A bounded number of turns and returns. -/
def settleWithin : Nat → Clockwork σ → Clockwork σ
  | 0, c => c
  | fuel + 1, c =>
    match c.next? with
    | some c => settleWithin fuel c
    | none => c

/-- Lets the tasks run until none is ready. The bound leaves every task several ticks, and is
reached only by intervals of zero, which never let a task sleep. -/
def settle (c : Clockwork σ) : Clockwork σ :=
  settleWithin (8 * (c.ready.length + c.state.workers.length) + 8) c

/-! ## Time -/

/-- Lets milliseconds pass at once, and wakes the tasks whose time has come. -/
def pass (c : Clockwork σ) (milliseconds : Nat) : Clockwork σ :=
  let nanoseconds := milliseconds * Duration.perMillisecond
  let state := (c.state.elapse nanoseconds).disturb (c.drift nanoseconds)
  let (due, later) := c.timers.partition fun timer ↦ timer.due * Duration.perMillisecond ≤ state.now
  { c with
    state := state
    ready := c.ready ++ (due.mergeSort fun a b ↦ a.due ≤ b.due).map Timer.task
    timers := later }

def advance (c : Clockwork σ) : Nat → Clockwork σ
  | 0 => c.settle
  | n + 1 => (c.settle.pass 1).advance n

/-- Lets milliseconds pass at once, so that late tasks run once, at the end. -/
def jump (c : Clockwork σ) (milliseconds : Nat) : Clockwork σ :=
  (c.settle.pass milliseconds).settle

/-! ## Operations -/

/-- Carries out an operation; its new tasks are ready, and so are those that have to stop. -/
def operate (c : Clockwork σ) (operation : Operation σ) : Clockwork σ :=
  let state := c.state.operate operation
  { c with
    state := state
    ready := c.ready ++ state.stopping ++ state.taskIdsFrom c.state.schedules.length }

/-! ## The end -/

/-- A step of a shutdown. The tasks that it tells to stop are ready. -/
def shut? (wording : TaskId → String) (c : Clockwork σ) (shutdown : Shutdown σ) :
    Option (Clockwork σ × Shutdown σ) :=
  (shutdown.step? wording c.state).map fun (state, shutdown) ↦
    ({ c with
        state := state
        ready := c.ready ++ state.stopping.filter fun id ↦ !c.ready.contains id }, shutdown)

/-- Shuts down within a bounded number of steps. While the shutdown has to wait, tasks take turns. -/
def shutdownWithin (wording : TaskId → String) :
    Nat → Clockwork σ → Shutdown σ → Clockwork σ × Option (Except Error Unit)
  | _, c, .returned result => (c, some result)
  | 0, c, _ => (c, none)
  | fuel + 1, c, shutdown =>
    match c.shut? wording shutdown, c.next? with
    | some (c, shutdown), _ => shutdownWithin wording fuel c shutdown
    | none, some c => shutdownWithin wording fuel c shutdown
    | none, none => (c, none)

/-- Shuts down. Every element takes two changes of the list, and every task a turn and its joining. -/
def shutdown (wording : TaskId → String) (c : Clockwork σ) :
    Clockwork σ × Option (Except Error Unit) :=
  let tasks := (c.state.taskIdsFrom 0).length
  c.shutdownWithin wording (2 * c.state.size + 2 * tasks + c.ready.length + 4) c.state.shutdown

end Clockwork

end LiveTemplate.Refresh

import LiveTemplate.Proofs.Refresh.Frame

/-!
# Turns

Whatever a task or its worker does in a step comes to four things: the task is altered, entries about
it are written down, a call is put on a worker or taken from one, and a call does something to the
world. Which turn it is depends on what the task can see: its own schedule, the cells, the time,
whether it has a call on a worker, and what its command answers. A task takes the same turn in all
states in which it sees the same.
-/

namespace LiveTemplate.Command.Bound

variable {σ : Type} {command : Bound σ} {world other : σ}

/-- What a command answers depends on nothing but its parameter. -/
def IsSteady (command : Bound σ) : Prop :=
  ∀ world other, (command.invoke world).1 = (command.invoke other).1

/-- A command does nothing to the world. -/
def IsHarmless (command : Bound σ) : Prop := ∀ world, (command.invoke world).2 = world

/-- A command that does not exist always answers the same, and does nothing to the world. -/
theorem steady_harmless_of_isValid_eq_false (h : command.isValid = false) :
    command.IsSteady ∧ command.IsHarmless := by
  cases command with
  | call handler param => contradiction
  | invalid name => exact ⟨fun _ _ ↦ rfl, fun _ ↦ rfl⟩

end LiveTemplate.Command.Bound

namespace LiveTemplate.Refresh

variable {σ : Type} {s t : State σ} {id other : TaskId} {index : Nat}

/-! ## Renders at a position -/

/-- The time and the text of a render at a position. -/
def Entry.renderAt? (index : Nat) : Entry → Option (Nat × String)
  | ⟨time, .rendered i text _⟩ => if i = index then some (time, text) else none
  | _ => none

def rendersAt (index : Nat) (history : List Entry) : List (Nat × String) :=
  collect (Entry.renderAt? index) history

theorem collect_eq_nil {β : Type} {read : Entry → Option β} {entries : List Entry}
    (h : ∀ entry ∈ entries, read entry = none) : collect read entries = [] := by
  rw [collect, List.filterMap_eq_nil_iff.2 h, List.reverse_nil]

/-- Entries among which is no render at a position do not change the renders there. -/
theorem rendersAt_append_of_none {entries : List Entry}
    (h : ∀ entry ∈ entries, entry.renderAt? index = none) (history : List Entry) :
    rendersAt index (entries ++ history) = rendersAt index history := by
  rw [rendersAt, collect_append, collect_eq_nil h, List.append_nil]
  rfl

/-! ## Turns -/

/-- What becomes of the calls on workers. -/
inductive Staffing where
  | keep
  /-- A call of the task is put on a worker. -/
  | hire
  /-- A call of the task has returned. -/
  | release
  deriving DecidableEq, Repr

/-- The tasks whose calls are on workers after a turn of a task. -/
def Staffing.apply (id : TaskId) (workers : List TaskId) : Staffing → List TaskId
  | .keep => workers
  | .hire => workers ++ [id]
  | .release => workers.erase id

/-- What a task does in a step. -/
structure Turn (σ : Type) where
  alter : Task σ → Task σ
  /-- What is written down, the latest first. -/
  entries : List Entry
  staffing : Staffing := .keep
  /-- What a call does to the world. -/
  effect : σ → σ := fun world ↦ world

def State.takeTurn (s : State σ) (id : TaskId) (turn : Turn σ) : State σ :=
  { s.modifyTask id turn.alter with
    world := turn.effect s.world
    workers := turn.staffing.apply id s.workers
    history := turn.entries ++ s.history }

/-- The entries of a turn are about its task, and render at the position of its schedule. -/
def Turn.Concerns (turn : Turn σ) (s : State σ) (id : TaskId) : Prop :=
  ∀ entry ∈ turn.entries, entry.event.task? = some id ∧
    ∀ index text source?, entry.event = .rendered index text source? →
      (s.schedules[id.schedule]?).map Schedule.index = some index

/-- A turn renders nothing at other positions than that of the schedule. -/
theorem Turn.Concerns.renderAt?_eq_none {turn : Turn σ} (h : turn.Concerns s id)
    (hindex : (s.schedules[id.schedule]?).map Schedule.index ≠ some index) :
    ∀ entry ∈ turn.entries, entry.renderAt? index = none := by
  rintro ⟨time, event⟩ hentry
  cases event with
  | rendered i text source? =>
    have hi : i ≠ index := fun heq ↦ hindex (heq ▸ (h _ hentry).2 i text source? rfl)
    exact if_neg hi
  | _ => rfl

/-- A turn writes nothing down about other tasks. -/
theorem Turn.Concerns.diary_eq_nil {turn : Turn σ} (h : turn.Concerns s id) (hne : other ≠ id) :
    diary other turn.entries = [] := by
  refine List.filter_eq_nil_iff.2 fun entry hentry ↦ ?_
  have htask := (h entry hentry).1
  simp only [htask, Option.some.injEq, decide_eq_true_eq]
  exact hne.symm

/-- In two states a task sees the same. -/
structure SameFor (id : TaskId) (s t : State σ) : Prop where
  schedule : t.schedules[id.schedule]? = s.schedules[id.schedule]?
  cells : t.cells = s.cells
  now : t.now = s.now
  working : id ∈ t.workers ↔ id ∈ s.workers

/-- In two states the command of a task answers the same. -/
def AnswersSame (id : TaskId) (s t : State σ) : Prop :=
  ∀ task, s.task? id = some task →
    (task.value.command.invoke t.world).1 = (task.value.command.invoke s.world).1

/-- In all states in which a task sees the same, a step is the same turn of the task, in which no
call returns. -/
def State.IsPlainTurn (s : State σ) (id : TaskId) (step : State σ → State σ) : Prop :=
  ∃ turn : Turn σ, turn.Concerns s id ∧ turn.effect = (fun world ↦ world) ∧
    ∀ t, SameFor id s t → step t = t.takeTurn id turn

/-- In all states in which a task sees the same and its command answers the same, a step is the same
turn of the task. A harmless command leaves the world as it is. -/
def State.IsTurn (s : State σ) (id : TaskId) (step : State σ → State σ) : Prop :=
  ∃ turn : Turn σ, turn.Concerns s id ∧
    ((∀ task, s.task? id = some task → task.value.command.IsHarmless) →
      turn.effect = fun world ↦ world) ∧
    ∀ t, SameFor id s t → AnswersSame id s t → step t = t.takeTurn id turn

namespace SameFor

theorem refl (id : TaskId) (s : State σ) : SameFor id s s := ⟨rfl, rfl, rfl, Iff.rfl⟩

theorem task? (h : SameFor id s t) : t.task? id = s.task? id := by
  rw [State.task?, State.task?, h.schedule]

theorem isCancelled (h : SameFor id s t) : t.isCancelled id = s.isCancelled id := by
  rw [State.isCancelled, State.isCancelled, h.schedule]

theorem isInstalled (h : SameFor id s t) (schedule : Schedule σ) :
    t.isInstalled schedule = s.isInstalled schedule := by
  rw [State.isInstalled, State.isInstalled, h.cells]

end SameFor

namespace State

/-! ## Every step is a turn -/

theorem modifyTask_modifyTask (s : State σ) (id : TaskId) (f g : Task σ → Task σ) :
    (s.modifyTask id f).modifyTask id g = s.modifyTask id (g ∘ f) := by
  simp only [modifyTask, List.modify_modify_eq]
  congr 2
  funext schedule
  simp only [Function.comp_apply, List.modify_modify_eq]

theorem modifyTask_self (s : State σ) (id : TaskId) : s.modifyTask id (fun task ↦ task) = s := by
  have hsame : (fun schedule : Schedule σ ↦
      { schedule with tasks := schedule.tasks.modify id.directive fun task ↦ task }) =
        fun schedule ↦ schedule := by
    funext schedule
    exact congrArg (fun tasks ↦ { schedule with tasks := tasks })
      (List.modify_id id.directive schedule.tasks)
  rw [modifyTask, hsame]
  exact congrArg (fun schedules ↦ { s with schedules := schedules })
    (List.modify_id id.schedule s.schedules)

theorem IsPlainTurn.congr {step step' : State σ → State σ} (h : s.IsPlainTurn id step)
    (hsame : ∀ t, SameFor id s t → step' t = step t) : s.IsPlainTurn id step' := by
  obtain ⟨turn, hconcerns, heffect, hturn⟩ := h
  exact ⟨turn, hconcerns, heffect, fun t ht ↦ (hsame t ht).trans (hturn t ht)⟩

theorem IsPlainTurn.isTurn {step : State σ → State σ} (h : s.IsPlainTurn id step) :
    s.IsTurn id step := by
  obtain ⟨turn, hconcerns, heffect, hturn⟩ := h
  exact ⟨turn, hconcerns, fun _ ↦ heffect, fun t ht _ ↦ hturn t ht⟩

theorem isPlainTurn_self (s : State σ) (id : TaskId) : s.IsPlainTurn id fun t ↦ t := by
  refine ⟨⟨fun task ↦ task, [], .keep, fun world ↦ world⟩, ?_, rfl, ?_⟩
  · intro entry hentry
    contradiction
  · intro t _
    rw [takeTurn, modifyTask_self]
    rfl

/-- A turn that shows states and begins calls concerns its task. -/
theorem concerns_of_not_rendered {turn : Turn σ}
    (h : ∀ entry ∈ turn.entries, entry.event.task? = some id ∧
      ∀ index text source?, entry.event ≠ .rendered index text source?) :
    turn.Concerns s id := by
  intro entry hentry
  obtain ⟨htask, hnot⟩ := h entry hentry
  exact ⟨htask, fun index text source? hevent ↦ absurd hevent (hnot index text source?)⟩

/-- A turn may go on to alter its task. -/
theorem IsPlainTurn.modify {step : State σ → State σ} (h : s.IsPlainTurn id step)
    (f : Task σ → Task σ) : s.IsPlainTurn id fun t ↦ (step t).modifyTask id f := by
  obtain ⟨turn, hconcerns, heffect, hturn⟩ := h
  refine ⟨{ turn with alter := f ∘ turn.alter }, hconcerns, heffect, fun t ht ↦ ?_⟩
  have haltered := congrArg State.schedules (modifyTask_modifyTask t id turn.alter f)
  calc
    (step t).modifyTask id f = (t.takeTurn id turn).modifyTask id f := by rw [hturn t ht]
    _ = { t.takeTurn id turn with
          schedules := ((t.modifyTask id turn.alter).modifyTask id f).schedules } := rfl
    _ = t.takeTurn id { turn with alter := f ∘ turn.alter } := by
      rw [haltered]
      rfl

/-- A turn may go on to write something down about its task, other than a render. -/
theorem IsPlainTurn.record {step : State σ → State σ} (h : s.IsPlainTurn id step) (event : Event)
    (htask : event.task? = some id)
    (hrendered : ∀ index text source?, event ≠ .rendered index text source?) :
    s.IsPlainTurn id fun t ↦ (step t).record event := by
  obtain ⟨turn, hconcerns, heffect, hturn⟩ := h
  refine ⟨{ turn with entries := ⟨s.now, event⟩ :: turn.entries }, ?_, heffect, fun t ht ↦ ?_⟩
  · intro entry hentry
    rcases List.mem_cons.1 hentry with rfl | hentry
    · exact ⟨htask, fun index text source? hevent ↦ absurd hevent (hrendered index text source?)⟩
    · exact hconcerns entry hentry
  · show (step t).record event = _
    rw [hturn t ht, ← ht.now]
    rfl

/-- A turn may go on to show another state. -/
theorem IsPlainTurn.enter {step : State σ → State σ} (h : s.IsPlainTurn id step) (phase : Phase) :
    s.IsPlainTurn id fun t ↦ (step t).enter id phase :=
  (h.modify fun task ↦ { task with phase := phase }).record (.entered id phase.state) rfl
    fun _ _ _ ↦ Event.noConfusion

theorem isPlainTurn_beginTick (s : State σ) (id : TaskId) (mode : Mode) :
    s.IsPlainTurn id fun t ↦ t.beginTick id mode := by
  have hstay : s.IsPlainTurn id fun t ↦ t := isPlainTurn_self s id
  cases hcancelled : s.isCancelled id with
  | true =>
    have hrunning := hstay.record (.entered id .running) rfl fun _ _ _ ↦ Event.noConfusion
    refine (hrunning.enter .cancelled).congr fun t h ↦ ?_
    simp only [beginTick, h.isCancelled, hcancelled, if_true]
  | false =>
    cases mode with
    | onTask =>
      have hbegan := (hstay.enter (.calling s.now)).record (.began id) rfl fun _ _ _ ↦
        Event.noConfusion
      refine hbegan.congr fun t h ↦ ?_
      simp only [beginTick, h.isCancelled, hcancelled, h.now, Bool.false_eq_true, if_false]
    | onWorker =>
      refine ⟨⟨fun task ↦ { task with phase := .awaiting s.now none },
        [⟨s.now, .began id⟩, ⟨s.now, .entered id .running⟩], .hire, fun world ↦ world⟩,
        concerns_of_not_rendered (by simp [Event.task?]), rfl, ?_⟩
      intro t h
      simp only [beginTick, h.isCancelled, hcancelled, Bool.false_eq_true, if_false]
      rw [← h.now]
      rfl

/-- A publication shows the text of the schedule in which the task has got its fragment. -/
theorem isPlainTurn_publish {schedule : Schedule σ}
    (hschedule : s.schedules[id.schedule]? = some schedule) (fragment : String) :
    s.IsPlainTurn id fun t ↦ t.publish id fragment := by
  let published : Schedule σ :=
    { schedule with tasks := schedule.tasks.modify id.directive (Task.publish fragment) }
  let rendered : Event := .rendered schedule.index published.merged (some id)
  refine ⟨⟨Task.publish fragment, [⟨s.now, rendered⟩], .keep, fun world ↦ world⟩, ?_, rfl, ?_⟩
  · intro entry hentry
    obtain rfl := List.mem_singleton.1 hentry
    refine ⟨rfl, fun index text source? hevent ↦ ?_⟩
    obtain ⟨rfl, -, -⟩ := Event.rendered.inj hevent
    rw [hschedule]
    rfl
  · intro t h
    have hpublished : (t.modifyTask id (Task.publish fragment)).schedules[id.schedule]? =
        some published := by
      simp [modifyTask, h.schedule, hschedule, published]
    simp only [publish, hpublished]
    rw [← h.now]
    rfl

theorem isPlainTurn_deliver (s : State σ) (id : TaskId) (start : Nat) (fragment : String)
    (rendering : Rendering) : s.IsPlainTurn id fun t ↦ t.deliver id start fragment rendering := by
  cases htask : s.task? id with
  | none =>
    refine (isPlainTurn_self s id).congr fun t h ↦ ?_
    unfold deliver
    rw [h.task?, htask]
    cases t.schedules[id.schedule]? <;> rfl
  | some task =>
    obtain ⟨schedule, hschedule, -⟩ := Option.bind_eq_some_iff.1 htask
    cases hinstalled : s.isInstalled schedule with
    | false =>
      refine ((isPlainTurn_self s id).enter .cancelled).congr fun t h ↦ ?_
      simp only [deliver, h.schedule, hschedule, h.task?, htask, h.isInstalled, hinstalled,
        Bool.false_eq_true, if_false]
    | true =>
      have hpublish := isPlainTurn_publish hschedule fragment
      cases rendering with
      | returns =>
        refine (hpublish.enter (task.value.phaseAfter start s.now)).congr fun t h ↦ ?_
        simp only [deliver, h.schedule, hschedule, h.task?, htask, h.isInstalled, hinstalled, h.now,
          if_true]
      | panics =>
        refine (hpublish.modify fun task ↦ { task with phase := .broken }).congr fun t h ↦ ?_
        simp only [deliver, h.schedule, hschedule, h.task?, htask, h.isInstalled, hinstalled,
          if_true]

/-- A task that looks first whether it has been told to stop takes a turn either way. -/
theorem IsPlainTurn.unlessCancelled {step : State σ → State σ} (h : s.IsPlainTurn id step) :
    s.IsPlainTurn id fun t ↦ if t.isCancelled id then t.enter id .cancelled else step t := by
  cases hcancelled : s.isCancelled id with
  | true =>
    refine ((isPlainTurn_self s id).enter .cancelled).congr fun t ht ↦ ?_
    rw [ht.isCancelled, hcancelled, if_pos rfl]
  | false =>
    refine h.congr fun t ht ↦ ?_
    rw [ht.isCancelled, hcancelled, if_neg Bool.false_ne_true]

/-- A task that waits for a time takes a turn whether or not the time has come. -/
theorem IsPlainTurn.onceDue {step : State σ → State σ} (h : s.IsPlainTurn id step) (wake : Nat) :
    s.IsPlainTurn id fun t ↦ if wake ≤ t.now then step t else t := by
  by_cases hdue : wake ≤ s.now
  · refine h.congr fun t ht ↦ ?_
    rw [ht.now, if_pos hdue]
  · refine (isPlainTurn_self s id).congr fun t ht ↦ ?_
    rw [ht.now, if_neg hdue]

theorem isPlainTurn_poll (s : State σ) (id : TaskId) (rendering : Rendering) :
    s.IsPlainTurn id fun t ↦ t.poll id rendering := by
  have hstay : s.IsPlainTurn id fun t ↦ t := isPlainTurn_self s id
  cases htask : s.task? id with
  | none =>
    refine hstay.congr fun t h ↦ ?_
    simp only [poll, h.task?, htask]
  | some task =>
    have hbegin : s.IsPlainTurn id fun t ↦ t.beginTick id task.value.mode := isPlainTurn_beginTick s id _
    cases hphase : task.phase with
    | idle =>
      refine hbegin.congr fun t h ↦ ?_
      simp only [poll, h.task?, htask, hphase]
    | awaiting start fragment? =>
      cases fragment? with
      | none =>
        refine hstay.unlessCancelled.congr fun t h ↦ ?_
        simp only [poll, h.task?, htask, hphase]
      | some fragment =>
        have hdeliver := isPlainTurn_deliver s id start fragment rendering
        refine hdeliver.unlessCancelled.congr fun t h ↦ ?_
        simp only [poll, h.task?, htask, hphase]
    | yielded =>
      refine hbegin.unlessCancelled.congr fun t h ↦ ?_
      simp only [poll, h.task?, htask, hphase]
    | asleep wake =>
      refine (hbegin.onceDue wake).unlessCancelled.congr fun t h ↦ ?_
      simp only [poll, h.task?, htask, hphase]
    | _ =>
      refine hstay.congr fun t h ↦ ?_
      simp only [poll, h.task?, htask, hphase]

end State

/-- The task that takes a step, if a task or its worker does. -/
def Label.task? : Label σ → Option TaskId
  | .poll task _ | .finish task _ | .complete task => some task
  | .change _ | .elapse _ | .disturb _ => none

namespace State

/-- A call that a task makes itself returns, and the task takes its fragment in the same turn. -/
theorem isTurn_finish (s : State σ) (id : TaskId) (rendering : Rendering) :
    s.IsTurn id fun t ↦ t.finish id rendering := by
  cases htask : s.task? id with
  | none =>
    refine ((isPlainTurn_self s id).congr fun t h ↦ ?_).isTurn
    simp only [finish, h.task?, htask]
  | some task =>
    cases hphase : task.phase with
    | calling start =>
      let fragment := (task.value.command.invoke s.world).1.fragment
      obtain ⟨turn, hconcerns, heffect, hturn⟩ := isPlainTurn_deliver s id start fragment rendering
      refine ⟨{ turn with
        entries := turn.entries ++ [⟨s.now, .returned id fragment⟩]
        effect := fun world ↦ (task.value.command.invoke world).2 }, ?_, ?_, ?_⟩
      · intro entry hentry
        rcases List.mem_append.1 hentry with hentry | hentry
        · exact hconcerns entry hentry
        · obtain rfl := List.mem_singleton.1 hentry
          exact ⟨rfl, fun _ _ _ hevent ↦ Event.noConfusion hevent⟩
      · intro hharmless
        funext world
        exact hharmless task htask world
      · intro t h hanswers
        have hfragment : (task.value.command.invoke t.world).1.fragment = fragment :=
          congrArg _ (hanswers task htask)
        -- The delivery is a turn that does not look at the world, which the call has changed.
        let returned : State σ :=
          { t with world := (task.value.command.invoke t.world).2 }.record
            (.returned id fragment)
        have hreturned : SameFor id s returned := ⟨h.schedule, h.cells, h.now, h.working⟩
        calc
          t.finish id rendering = returned.deliver id start fragment rendering := by
            rw [finish_of_calling (h.task?.trans htask) hphase, hfragment]
          _ = returned.takeTurn id turn := hturn returned hreturned
          _ = _ := by
            simp only [takeTurn, heffect, returned, record, modifyTask, h.now, List.append_assoc,
              List.singleton_append]
    | _ =>
      refine ((isPlainTurn_self s id).congr fun t h ↦ ?_).isTurn
      simp only [finish, h.task?, htask, hphase]

/-- A call on a worker returns, and its fragment waits for the task. -/
theorem isTurn_complete (s : State σ) (id : TaskId) : s.IsTurn id fun t ↦ t.complete id := by
  cases htask : s.task? id with
  | none =>
    refine ((isPlainTurn_self s id).congr fun t h ↦ ?_).isTurn
    simp only [complete, h.task?, htask]
  | some task =>
    by_cases hworking : id ∈ s.workers
    · let fragment := (task.value.command.invoke s.world).1.fragment
      refine ⟨⟨Task.receive fragment, [⟨s.now, .returned id fragment⟩], .release,
        fun world ↦ (task.value.command.invoke world).2⟩,
        concerns_of_not_rendered (by simp [Event.task?]), ?_, ?_⟩
      · intro hharmless
        funext world
        exact hharmless task htask world
      · intro t h hanswers
        have hfragment : (task.value.command.invoke t.world).1.fragment = fragment :=
          congrArg _ (hanswers task htask)
        refine (complete_of_working (h.task?.trans htask) (h.working.2 hworking)).trans ?_
        rw [hfragment]
        simp only [takeTurn, record, modifyTask, h.now]
        rfl
    · refine ((isPlainTurn_self s id).congr fun t h ↦ ?_).isTurn
      simp only [complete, h.task?, htask, h.working, hworking, if_false]

/-- Whatever a task or its worker does in a step is a turn of the task. -/
theorem isTurn_step {label : Label σ} (hlabel : label.task? = some id) (s : State σ) :
    s.IsTurn id fun t ↦ t.step label := by
  cases label with
  | poll task rendering =>
    obtain rfl := Option.some.inj hlabel
    exact (isPlainTurn_poll s task rendering).isTurn
  | finish task rendering =>
    obtain rfl := Option.some.inj hlabel
    exact isTurn_finish s task rendering
  | complete task =>
    obtain rfl := Option.some.inj hlabel
    exact isTurn_complete s task
  | change change => contradiction
  | elapse nanoseconds => contradiction
  | disturb change => contradiction

end State

end LiveTemplate.Refresh

import LiveTemplate.Proofs.Refresh.History

/-!
# The course of a task

What a single task does in a run can be told apart from everything else that happens: the task
itself, the entries about it, and how many of its calls are on workers. The steps of other tasks,
the changes of the list and the passing of time leave it as it is. What a step of its own can do to
it is said here once, as the moves of a course, and whatever the moves preserve holds of every task
in every run.
-/

namespace LiveTemplate.Refresh

open Command (fragmentOf_caught fragmentOf_joined)

variable {σ : Type} {s t : State σ} {id other : TaskId} {now start : Nat} {fragment : String}

/-! ## Phases after a tick -/

/-- After a tick a task ends, gives way to the others, or sleeps for the rest of its interval. -/
theorem Value.phaseAfter_cases (value : Value σ) (start now : Nat) :
    value.interval = none ∧ value.phaseAfter start now = .terminated ∨
      ∃ interval, value.interval = some interval ∧
        (interval.nanoseconds ≤ now - start ∧ value.phaseAfter start now = .yielded ∨
          now - start < interval.nanoseconds ∧ value.phaseAfter start now =
            .asleep (now + (interval.nanoseconds - (now - start)))) := by
  cases hinterval : value.interval with
  | none => exact .inl ⟨rfl, by simp [phaseAfter, hinterval]⟩
  | some interval =>
    refine .inr ⟨interval, rfl, ?_⟩
    by_cases h : interval.nanoseconds ≤ now - start
    · exact .inl ⟨h, by simp [phaseAfter, hinterval, Nat.sub_eq_zero_of_le h]⟩
    · have hpositive : interval.nanoseconds - (now - start) ≠ 0 := by omega
      exact .inr ⟨by omega, by simp [phaseAfter, hinterval, hpositive]⟩

/-! ## Courses -/

/-- A task, the entries about it, and how many of its calls are on workers. -/
structure Course (σ : Type) where
  task : Task σ
  diary : List Entry
  working : Nat

namespace Course

def fresh (value : Value σ) : Course σ := ⟨{ value := value }, [], 0⟩

def note (c : Course σ) (now : Nat) (event : Event) : Course σ :=
  { c with diary := ⟨now, event⟩ :: c.diary }

def alter (c : Course σ) (f : Task σ → Task σ) : Course σ := { c with task := f c.task }

def enter (c : Course σ) (id : TaskId) (now : Nat) (phase : Phase) : Course σ :=
  (c.alter fun task ↦ { task with phase := phase }).note now (.entered id phase.state)

def employ (c : Course σ) (working : Nat) : Course σ := { c with working := working }

/-- What a reading finds in the diary of a course. -/
def reads {β : Type} (c : Course σ) (read : Entry → Option β) : List β := collect read c.diary

section

variable {β : Type} (c : Course σ) (read : Entry → Option β) (event : Event) (phase : Phase)
  (f : Task σ → Task σ)

@[simp] theorem reads_fresh (value : Value σ) : (fresh value).reads read = [] := rfl

@[simp] theorem reads_note :
    (c.note now event).reads read = c.reads read ++ (read ⟨now, event⟩).toList :=
  collect_cons read _ _

@[simp] theorem reads_alter : (c.alter f).reads read = c.reads read := rfl

@[simp] theorem reads_employ (working : Nat) : (c.employ working).reads read = c.reads read := rfl

@[simp] theorem reads_enter : (c.enter id now phase).reads read =
    c.reads read ++ (read ⟨now, .entered id phase.state⟩).toList :=
  collect_cons read _ _

@[simp] theorem task_note : (c.note now event).task = c.task := rfl

@[simp] theorem task_alter : (c.alter f).task = f c.task := rfl

@[simp] theorem task_employ (working : Nat) : (c.employ working).task = c.task := rfl

@[simp] theorem task_enter : (c.enter id now phase).task = { c.task with phase := phase } := rfl

@[simp] theorem working_note : (c.note now event).working = c.working := rfl

@[simp] theorem working_alter : (c.alter f).working = c.working := rfl

@[simp] theorem working_employ (working : Nat) : (c.employ working).working = working := rfl

@[simp] theorem working_enter : (c.enter id now phase).working = c.working := rfl

end

/-- Publishes a fragment, and goes on as the renderer lets it. -/
def deliver (c : Course σ) (id : TaskId) (now start : Nat) (fragment : String) (index : Nat)
    (text : String) : Rendering → Course σ
  | .returns =>
    ((c.alter (Task.publish fragment)).note now (.rendered index text (some id))).enter id now
      (c.task.value.phaseAfter start now)
  | .panics =>
    ((c.alter (Task.publish fragment)).note now (.rendered index text (some id))).alter
      fun task ↦ { task with phase := .broken }

end Course

def Task.receive (fragment : String) (task : Task σ) : Task σ :=
  match task.phase with
  | .awaiting start none => { task with phase := .awaiting start (some fragment) }
  | _ => task

theorem Task.receive_awaiting {task : Task σ} (h : task.phase = .awaiting start none)
    (fragment : String) :
    task.receive fragment = { task with phase := .awaiting start (some fragment) } := by
  rw [receive, h]

/-- A fragment is taken by a task that waits for it, and by no other. -/
theorem Task.receive_cases (fragment : String) (task : Task σ) :
    task.receive fragment = task ∨ ∃ start, task.phase = .awaiting start none ∧
      task.receive fragment = { task with phase := .awaiting start (some fragment) } := by
  unfold receive
  split
  · exact .inr ⟨_, ‹_›, rfl⟩
  · exact .inl rfl

theorem Task.receive_cancelled {task : Task σ} (h : task.phase = .cancelled) (fragment : String) :
    task.receive fragment = task := by
  rw [receive, h]

namespace State

def course? (s : State σ) (id : TaskId) : Option (Course σ) :=
  (s.task? id).map fun task ↦ ⟨task, diary id s.history, s.workers.count id⟩

def isCurrent (s : State σ) (id : TaskId) : Bool := (s.schedules[id.schedule]?).any s.isInstalled

theorem course?_eq_some {c : Course σ} : s.course? id = some c ↔
    s.task? id = some c.task ∧ diary id s.history = c.diary ∧ s.workers.count id = c.working := by
  cases c
  simp only [course?, Option.map_eq_some_iff, Course.mk.injEq]
  constructor
  · rintro ⟨task, htask, rfl, hdiary, hworking⟩
    exact ⟨htask, hdiary, hworking⟩
  · rintro ⟨htask, hdiary, hworking⟩
    exact ⟨_, htask, rfl, hdiary, hworking⟩

/-! ## Small changes, seen from the task they are about -/

theorem task?_record (s : State σ) (event : Event) (id : TaskId) :
    (s.record event).task? id = s.task? id := rfl

theorem task?_modifyTask (s : State σ) (id : TaskId) (f : Task σ → Task σ) :
    (s.modifyTask id f).task? id = (s.task? id).map f := by
  cases h : s.schedules[id.schedule]? <;> simp [task?, modifyTask, h]

theorem task?_modifyTask_of_ne (s : State σ) (f : Task σ → Task σ) (h : other ≠ id) :
    (s.modifyTask other f).task? id = s.task? id := by
  by_cases hs : other.schedule = id.schedule
  · have hd : other.directive ≠ id.directive := fun hd ↦ h (by cases other; cases id; simp_all)
    cases hid : s.schedules[id.schedule]? <;> simp [task?, modifyTask, hs, hid, hd]
  · simp [task?, modifyTask, hs]

theorem course?_record {event : Event} (h : event.task? = some id) :
    (s.record event).course? id = (s.course? id).map (·.note s.now event) := by
  have hdiary : diary id (s.record event).history = ⟨s.now, event⟩ :: diary id s.history :=
    diary_cons_self h s.history
  simp only [course?, task?_record, hdiary, Option.map_map]
  rfl

theorem course?_modifyTask (s : State σ) (id : TaskId) (f : Task σ → Task σ) :
    (s.modifyTask id f).course? id = (s.course? id).map (·.alter f) := by
  simp only [course?, task?_modifyTask, Option.map_map]
  rfl

theorem course?_enter (s : State σ) (id : TaskId) (phase : Phase) :
    (s.enter id phase).course? id = (s.course? id).map (·.enter id s.now phase) := by
  rw [enter, course?_record rfl, course?_modifyTask, Option.map_map]
  rfl

/-! ## Moves -/

end State

/-- Whether a task in a phase begins a tick when it is polled. -/
def Phase.isReady (now : Nat) : Phase → Bool
  | .idle | .yielded => true
  | .asleep wake => wake ≤ now
  | _ => false

/-- Whether a task in a phase has begun to run and is left by a poll that finds it cancelled. -/
def Phase.isSuspended : Phase → Bool
  | .awaiting _ _ | .yielded | .asleep _ => true
  | _ => false

/-- Whether the renderer, if it is called, returns. -/
def Label.isSafe : Label σ → Bool
  | .poll _ .panics | .finish _ .panics => false
  | _ => true

namespace Course

/-- A task that has been told to stop before it has run. -/
def refuse (c : Course σ) (id : TaskId) (now : Nat) : Course σ :=
  (c.note now (.entered id .running)).enter id now .cancelled

/-- A tick that begins with a call on the task itself. -/
def call (c : Course σ) (id : TaskId) (now : Nat) : Course σ :=
  (c.enter id now (.calling now)).note now (.began id)

def dispatch (c : Course σ) (id : TaskId) (now : Nat) : Course σ :=
  ((c.enter id now (.awaiting now none)).note now (.began id)).employ (c.working + 1)

def complete (c : Course σ) (id : TaskId) (now : Nat) (fragment : String) : Course σ :=
  ((c.employ (c.working - 1)).note now (.returned id fragment)).alter (Task.receive fragment)

/-- How a task comes by the fragment of a tick that has started at a given time. -/
inductive Yields (s : State σ) (id : TaskId) (start : Nat) (fragment : String) :
    Course σ → Course σ → Prop
  | awaited {c : Course σ} (phase : c.task.phase = .awaiting start (some fragment))
      (running : s.isCancelled id = false) : Yields s id start fragment c c
  | called {c : Course σ} (phase : c.task.phase = .calling start)
      (outcome : (c.task.value.command.invoke s.world).1.fragment = fragment) :
      Yields s id start fragment c (c.note s.now (.returned id fragment))

/-- What a step can do to a task. -/
inductive Moves (s : State σ) (label : Label σ) (id : TaskId) : Course σ → Course σ → Prop
  | refuse {c : Course σ} (phase : c.task.phase = .idle) (stopped : s.isCancelled id = true) :
      Moves s label id c (c.refuse id s.now)
  | call {c : Course σ} (ready : c.task.phase.isReady s.now = true)
      (running : s.isCancelled id = false) (mode : c.task.value.mode = .onTask) :
      Moves s label id c (c.call id s.now)
  | dispatch {c : Course σ} (ready : c.task.phase.isReady s.now = true)
      (running : s.isCancelled id = false) (mode : c.task.value.mode = .onWorker) :
      Moves s label id c (c.dispatch id s.now)
  | stop {c : Course σ} (suspended : c.task.phase.isSuspended = true)
      (stopped : s.isCancelled id = true) : Moves s label id c (c.enter id s.now .cancelled)
  | deliver {c d : Course σ} {start : Nat} {fragment : String}
      (yields : Yields s id start fragment c d) (current : s.isCurrent id = true) (index : Nat)
      (text : String) (rendering : Rendering)
      (safe : label.isSafe = true → rendering = .returns) :
      Moves s label id c (d.deliver id s.now start fragment index text rendering)
  | discard {c d : Course σ} {start : Nat} {fragment : String}
      (yields : Yields s id start fragment c d) (stale : s.isCurrent id = false) :
      Moves s label id c (d.enter id s.now .cancelled)
  | complete {c : Course σ} {fragment : String} (working : 0 < c.working)
      (outcome : (c.task.value.command.invoke s.world).1.fragment = fragment) :
      Moves s label id c (c.complete id s.now fragment)

end Course

namespace State

/-- A publication renders the text of the schedule after the task has got its fragment. -/
theorem exists_publish_eq {schedule : Schedule σ} (h : s.schedules[id.schedule]? = some schedule)
    (fragment : String) :
    ∃ published, (s.modifyTask id (Task.publish fragment)).schedules[id.schedule]? =
        some published ∧
      s.publish id fragment = (s.modifyTask id (Task.publish fragment)).record
        (.rendered published.index published.merged (some id)) := by
  have hsome : ((s.modifyTask id (Task.publish fragment)).schedules[id.schedule]?).isSome := by
    simp [modifyTask, h]
  obtain ⟨published, hpublished⟩ := Option.isSome_iff_exists.1 hsome
  exact ⟨published, hpublished, by simp only [publish, hpublished]⟩

theorem beginTick_moves {c : Course σ} (h : s.course? id = some c) (label : Label σ)
    (ready : c.task.phase.isReady s.now = true)
    (idle : s.isCancelled id = true → c.task.phase = .idle) :
    ∃ d, (s.beginTick id c.task.value.mode).course? id = some d ∧ c.Moves s label id d := by
  unfold beginTick
  split
  case isTrue stopped =>
    refine ⟨_, ?_, .refuse (idle stopped) stopped⟩
    rw [course?_enter, course?_record rfl, h]
    rfl
  case isFalse running =>
    have running : s.isCancelled id = false := by simpa using running
    split
    case h_1 mode =>
      refine ⟨_, ?_, .call ready running mode⟩
      rw [course?_record rfl, course?_enter, h]
      rfl
    case h_2 mode =>
      refine ⟨_, ?_, .dispatch ready running mode⟩
      have hbegun : ((s.enter id (.awaiting s.now none)).record (.began id)).course? id =
          some ((c.enter id s.now (.awaiting s.now none)).note s.now (.began id)) := by
        rw [course?_record rfl, course?_enter, h]
        rfl
      rw [course?_eq_some] at hbegun ⊢
      refine ⟨hbegun.1, hbegun.2.1, ?_⟩
      have hworking : s.workers.count id = c.working := (course?_eq_some.1 h).2.2
      simp [Course.dispatch, hworking, enter, modifyTask, record]

theorem deliver_moves {c d : Course σ} (h : s.course? id = some d) (label : Label σ)
    (rendering : Rendering) (safe : label.isSafe = true → rendering = .returns)
    (yields : c.Yields t id start fragment d) (hnow : t.now = s.now)
    (hcurrent : t.isCurrent id = s.isCurrent id) :
    ∃ e, (s.deliver id start fragment rendering).course? id = some e ∧ c.Moves t label id e := by
  have htask : s.task? id = some d.task := (course?_eq_some.1 h).1
  obtain ⟨schedule, hschedule, -⟩ := Option.bind_eq_some_iff.1 htask
  have hinstalled : s.isInstalled schedule = t.isCurrent id := by
    rw [hcurrent]
    simp [isCurrent, hschedule]
  simp only [deliver, hschedule, htask, hinstalled]
  split
  case isTrue current =>
    obtain ⟨published, -, hpublish⟩ := exists_publish_eq hschedule fragment
    refine ⟨_, ?_, .deliver yields current published.index published.merged rendering safe⟩
    have hcourse : (s.publish id fragment).course? id = some ((d.alter (Task.publish fragment)).note
        s.now (.rendered published.index published.merged (some id))) := by
      rw [hpublish, course?_record rfl, course?_modifyTask, h]
      rfl
    cases rendering with
    | returns =>
      rw [course?_enter, hcourse, hpublish, hnow]
      rfl
    | panics =>
      rw [course?_modifyTask, hcourse, hnow]
      rfl
  case isFalse stale =>
    refine ⟨_, ?_, .discard yields (by simpa using stale)⟩
    rw [course?_enter, h, hnow]
    rfl

/-- A poll leaves its task alone or moves it. -/
theorem poll_moves {c : Course σ} (h : s.course? id = some c) (rendering : Rendering) :
    (s.poll id rendering).course? id = some c ∨
      ∃ d, (s.poll id rendering).course? id = some d ∧ c.Moves s (.poll id rendering) id d := by
  have htask : s.task? id = some c.task := (course?_eq_some.1 h).1
  have hstop (suspended : c.task.phase.isSuspended = true) (stopped : s.isCancelled id = true) :
      ∃ d, (s.enter id .cancelled).course? id = some d ∧ c.Moves s (.poll id rendering) id d := by
    refine ⟨_, ?_, .stop suspended stopped⟩
    rw [course?_enter, h]
    rfl
  have hbegin (ready : c.task.phase.isReady s.now = true)
      (idle : s.isCancelled id = true → c.task.phase = .idle) :=
    beginTick_moves h (.poll id rendering) ready idle
  simp only [poll, htask]
  cases hphase : c.task.phase with
  | idle => exact .inr (hbegin (by rw [hphase]; rfl) fun _ ↦ hphase)
  | calling start => exact .inl h
  | awaiting start fragment? =>
    by_cases stopped : s.isCancelled id = true
    · simp only [stopped, if_true]
      exact .inr (hstop (by rw [hphase]; rfl) stopped)
    · simp only [stopped, Bool.false_eq_true, if_false]
      cases fragment? with
      | none => exact .inl h
      | some fragment =>
        have safe : (Label.poll (σ := σ) id rendering).isSafe = true → rendering = .returns := by
          cases rendering <;> simp [Label.isSafe]
        exact .inr (deliver_moves h _ rendering safe (.awaited hphase (by simpa using stopped)) rfl
          rfl)
  | yielded =>
    by_cases stopped : s.isCancelled id = true
    · simp only [stopped, if_true]
      exact .inr (hstop (by rw [hphase]; rfl) stopped)
    · simp only [stopped, Bool.false_eq_true, if_false]
      exact .inr (hbegin (by rw [hphase]; rfl) fun h ↦ absurd h stopped)
  | asleep wake =>
    by_cases stopped : s.isCancelled id = true
    · simp only [stopped, if_true]
      exact .inr (hstop (by rw [hphase]; rfl) stopped)
    · simp only [stopped, Bool.false_eq_true, if_false]
      split
      case isTrue due =>
        exact .inr (hbegin (by rw [hphase]; simpa [Phase.isReady] using due)
          fun h ↦ absurd h stopped)
      case isFalse early => exact .inl h
  | terminated => exact .inl h
  | cancelled => exact .inl h
  | broken => exact .inl h

/-- A call that its task makes itself leaves the task alone or moves it when it returns. -/
theorem finish_moves {c : Course σ} (h : s.course? id = some c) (rendering : Rendering) :
    (s.finish id rendering).course? id = some c ∨
      ∃ d, (s.finish id rendering).course? id = some d ∧ c.Moves s (.finish id rendering) id d := by
  have htask : s.task? id = some c.task := (course?_eq_some.1 h).1
  simp only [finish, htask, fragmentOf_caught]
  cases hphase : c.task.phase with
  | calling start =>
    have safe : (Label.finish (σ := σ) id rendering).isSafe = true → rendering = .returns := by
      cases rendering <;> simp [Label.isSafe]
    refine .inr (deliver_moves ?_ _ rendering safe (.called hphase rfl) rfl rfl)
    rw [course?_record rfl]
    simp only [course?, task?] at h ⊢
    rw [h]
    rfl
  | _ => exact .inl h

/-- A call on a worker leaves its task alone or moves it when it returns. -/
theorem complete_moves {c : Course σ} (h : s.course? id = some c) :
    (s.complete id).course? id = some c ∨
      ∃ d, (s.complete id).course? id = some d ∧ c.Moves s (.complete id) id d := by
  obtain ⟨htask, hdiary, hworking⟩ := course?_eq_some.1 h
  simp only [complete, htask, fragmentOf_joined]
  split
  case isTrue working =>
    refine .inr ⟨_, ?_, .complete (hworking ▸ List.count_pos_iff.2 working) rfl⟩
    have herased : ({ s with
        world := (c.task.value.command.invoke s.world).2
        workers := s.workers.erase id } : State σ).course? id =
        some { c with working := c.working - 1 } := by
      rw [course?_eq_some]
      exact ⟨htask, hdiary, by simp [hworking]⟩
    rw [reply, course?_modifyTask, course?_record rfl, herased]
    rfl
  case isFalse => exact .inl h

end State

end LiveTemplate.Refresh

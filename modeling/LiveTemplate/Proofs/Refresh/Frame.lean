import LiveTemplate.Proofs.Refresh.Course

/-!
# What a step leaves alone

The steps of a task and of its worker touch that task alone. The changes of the list touch no task,
except that the placing of a text creates the tasks of a new schedule. While tasks and workers take
steps, the list stands still.
-/

namespace LiveTemplate.Refresh

open Command (fragmentOf_caught fragmentOf_joined)

variable {σ : Type} {s t u : State σ} {id other : TaskId}

/-- Nothing has happened to a task between two states. -/
structure Untouched (id : TaskId) (s t : State σ) : Prop where
  task : t.task? id = s.task? id
  diary : diary id t.history = diary id s.history
  working : t.workers.count id = s.workers.count id

namespace Untouched

theorem refl (id : TaskId) (s : State σ) : Untouched id s s := ⟨rfl, rfl, rfl⟩

theorem trans (h : Untouched id s t) (k : Untouched id t u) : Untouched id s u :=
  ⟨k.task.trans h.task, k.diary.trans h.diary, k.working.trans h.working⟩

theorem course? (h : Untouched id s t) : t.course? id = s.course? id := by
  rw [State.course?, State.course?, h.task, h.diary, h.working]

end Untouched

namespace State

/-! ## What tasks and workers do -/

theorem poll_cases (s : State σ) (id : TaskId) (rendering : Rendering) :
    s.poll id rendering = s ∨ (∃ mode, s.poll id rendering = s.beginTick id mode) ∨
      s.poll id rendering = s.enter id .cancelled ∨
      ∃ start fragment, s.poll id rendering = s.deliver id start fragment rendering := by
  unfold poll
  split
  · exact .inl rfl
  · split
    case h_1 => exact .inr (.inl ⟨_, rfl⟩)
    case h_2 =>
      split
      · exact .inr (.inr (.inl rfl))
      · split
        · exact .inr (.inr (.inr ⟨_, _, rfl⟩))
        · exact .inl rfl
    case h_3 =>
      split
      · exact .inr (.inr (.inl rfl))
      · exact .inr (.inl ⟨_, rfl⟩)
    case h_4 =>
      split
      · exact .inr (.inr (.inl rfl))
      · split
        · exact .inr (.inl ⟨_, rfl⟩)
        · exact .inl rfl
    all_goals exact .inl rfl

theorem finish_cases (s : State σ) (id : TaskId) (rendering : Rendering) :
    s.finish id rendering = s ∨ ∃ world start fragment, s.finish id rendering =
      ({ s with world := world }.record (.returned id fragment)).deliver id start fragment
        rendering := by
  unfold finish
  split
  · exact .inl rfl
  · split
    · exact .inr ⟨_, _, _, rfl⟩
    · exact .inl rfl

/-- A call that its task makes itself returns, and its fragment is delivered. -/
theorem finish_of_calling {task : Task σ} {start : Nat} (htask : s.task? id = some task)
    (hphase : task.phase = .calling start) (rendering : Rendering) :
    s.finish id rendering =
      ({ s with world := (task.value.command.invoke s.world).2 }.record
        (.returned id (task.value.command.invoke s.world).1.fragment)).deliver id start
          (task.value.command.invoke s.world).1.fragment rendering := by
  simp only [finish, htask, hphase, fragmentOf_caught]

/-- A call on a worker returns, and its fragment is sent to the task. -/
theorem complete_of_working {task : Task σ} (htask : s.task? id = some task)
    (hworking : id ∈ s.workers) :
    s.complete id =
      ({ s with
        world := (task.value.command.invoke s.world).2
        workers := s.workers.erase id }.record
          (.returned id (task.value.command.invoke s.world).1.fragment)).modifyTask id
            (Task.receive (task.value.command.invoke s.world).1.fragment) := by
  simp only [complete, htask, hworking, if_true, fragmentOf_joined]
  rfl

theorem complete_cases (s : State σ) (id : TaskId) :
    s.complete id = s ∨ ∃ world fragment, s.complete id =
      ({ s with world := world, workers := s.workers.erase id }.record
        (.returned id fragment)).reply id fragment := by
  unfold complete
  split
  · exact .inl rfl
  · split
    · exact .inr ⟨_, _, rfl⟩
    · exact .inl rfl

/-! ## Steps of other tasks -/

theorem untouched_record (event : Event) (h : event.task? ≠ some id) :
    Untouched id s (s.record event) :=
  ⟨rfl, diary_cons_of_ne h s.history, rfl⟩

theorem untouched_modifyTask (h : other ≠ id) (f : Task σ → Task σ) :
    Untouched id s (s.modifyTask other f) :=
  ⟨task?_modifyTask_of_ne s f h, rfl, rfl⟩

theorem untouched_enter (h : other ≠ id) (phase : Phase) : Untouched id s (s.enter other phase) :=
  (untouched_modifyTask h _).trans (untouched_record _ (by simpa [Event.task?] using h))

theorem untouched_beginTick (h : other ≠ id) (mode : Mode) :
    Untouched id s (s.beginTick other mode) := by
  have hevent {event : Event} (he : event.task? = some other) : event.task? ≠ some id := by
    rw [he]
    simpa using h
  unfold beginTick
  split
  · exact (untouched_record _ (hevent rfl)).trans (untouched_enter h _)
  · split
    · exact (untouched_enter h _).trans (untouched_record _ (hevent rfl))
    · have hbegan := (untouched_enter (s := s) h (.awaiting s.now none)).trans
        (untouched_record (.began other) (hevent rfl))
      exact ⟨hbegan.task, hbegan.diary, by
        rw [← hbegan.working]
        simp [enter, record, modifyTask, List.count_append, h]⟩

theorem untouched_publish (h : other ≠ id) (fragment : String) :
    Untouched id s (s.publish other fragment) := by
  have hmodified := untouched_modifyTask (s := s) h (Task.publish fragment)
  simp only [publish]
  split
  · exact hmodified.trans (untouched_record _ (by simpa [Event.task?] using h))
  · exact hmodified

theorem untouched_deliver (h : other ≠ id) (start : Nat) (fragment : String)
    (rendering : Rendering) : Untouched id s (s.deliver other start fragment rendering) := by
  unfold deliver
  split
  · split
    · have hpublished := untouched_publish (s := s) h fragment
      cases rendering with
      | returns => exact hpublished.trans (untouched_enter h _)
      | panics => exact hpublished.trans (untouched_modifyTask h _)
    · exact untouched_enter h _
  · exact .refl id s

theorem untouched_poll (h : other ≠ id) (rendering : Rendering) :
    Untouched id s (s.poll other rendering) := by
  rcases poll_cases s other rendering with hpoll | ⟨mode, hpoll⟩ | hpoll | ⟨start, fragment, hpoll⟩
  · rw [hpoll]
    exact .refl id s
  · rw [hpoll]
    exact untouched_beginTick h mode
  · rw [hpoll]
    exact untouched_enter h .cancelled
  · rw [hpoll]
    exact untouched_deliver h start fragment rendering

theorem untouched_finish (h : other ≠ id) (rendering : Rendering) :
    Untouched id s (s.finish other rendering) := by
  rcases finish_cases s other rendering with hfinish | ⟨world, start, fragment, hfinish⟩
  · rw [hfinish]
    exact .refl id s
  · rw [hfinish]
    have hworld : Untouched id s { s with world := world } := ⟨rfl, rfl, rfl⟩
    have hreturned := hworld.trans
      (untouched_record (.returned other fragment) (by simpa [Event.task?] using h))
    exact hreturned.trans (untouched_deliver h start fragment rendering)

theorem untouched_complete (h : other ≠ id) : Untouched id s (s.complete other) := by
  rcases complete_cases s other with hcomplete | ⟨world, fragment, hcomplete⟩
  · rw [hcomplete]
    exact .refl id s
  · rw [hcomplete]
    have hworkers : Untouched id s
        { s with world := world, workers := s.workers.erase other } :=
      ⟨rfl, rfl, List.count_erase_of_ne h.symm⟩
    have hreturned := hworkers.trans
      (untouched_record (.returned other fragment) (by simpa [Event.task?] using h))
    exact hreturned.trans (untouched_modifyTask h _)

/-! ## Changes of the list -/

/-- A change that replaces what is installed finds an element, or changes nothing. -/
theorem supersede_cases (s : State σ) (index : Nat) : s.supersede index = s ∨
    ∃ element, s.elements[index]? = some element ∧ s.supersede index = { s with
      cells := s.cells.modify element.cell (· + 1)
      elements := s.elements.set index { element with stage := .superseded }
      history := ⟨s.now, .superseded index⟩ :: s.history } := by
  cases helement : s.elements[index]? with
  | none => exact .inl (by rw [supersede, helement])
  | some element => exact .inr ⟨element, rfl, by rw [supersede, helement]; rfl⟩

theorem vacate_cases (s : State σ) (index : Nat) : s.vacate index = s ∨
    ∃ element schedules, s.elements[index]? = some element ∧ element.stage = .superseded ∧
      (schedules = s.schedules ∨ ∃ n, schedules = s.schedules.modify n Schedule.cancel) ∧
      s.vacate index = { s with
        schedules := schedules
        elements := s.elements.set index
          { element with schedule? := none, stage := .vacant } } := by
  cases helement : s.elements[index]? with
  | none => exact .inl (by rw [vacate, helement])
  | some element =>
    by_cases hstage : element.stage = .superseded
    · right
      cases hschedule : element.schedule? with
      | none =>
        refine ⟨element, s.schedules, rfl, hstage, .inl rfl, ?_⟩
        simp only [vacate, helement, hstage, if_true, hschedule]
      | some n =>
        refine ⟨element, s.schedules.modify n Schedule.cancel, rfl, hstage, .inr ⟨n, rfl⟩, ?_⟩
        simp only [vacate, helement, hstage, if_true, hschedule]
    · exact .inl (by simp only [vacate, helement, hstage, if_false])

theorem place_cases (s : State σ) (index : Nat) (raw : String) : s.place index raw = s ∨
    ∃ element, s.elements[index]? = some element ∧ element.stage = .vacant ∧
      (Directive.parse raw = [] ∧ s.place index raw = s.placeLiteral index element.cell raw ∨
        s.place index raw = s.placeSchedule index element.cell raw
          ((Directive.parse raw).map (resolve s.registry s.floor))) := by
  cases helement : s.elements[index]? with
  | none => exact .inl (by rw [place, helement])
  | some element =>
    by_cases hstage : element.stage = .vacant
    · refine .inr ⟨element, rfl, hstage, ?_⟩
      simp only [place, helement, hstage, if_true, List.isEmpty_map]
      split
      case isTrue hplain => exact .inl ⟨List.isEmpty_iff.1 hplain, rfl⟩
      case isFalse => exact .inr rfl
    · exact .inl (by simp only [place, helement, hstage, if_false])

def removals (now : Nat) (indices : List Nat) : List Entry :=
  (indices.map fun index ↦ ⟨now, .tornDown index⟩).reverse

theorem foldl_tornDown (indices : List Nat) (s : State σ) :
    indices.foldl (fun s index ↦ s.record (.tornDown index)) s =
      { s with history := removals s.now indices ++ s.history } := by
  induction indices generalizing s with
  | nil => rfl
  | cons index rest ih =>
    rw [List.foldl_cons, ih]
    simp [removals, record]

theorem truncate_cases (s : State σ) (size : Nat) : s.truncate size = s ∨
    (∀ element ∈ s.elements.drop size, element.stage = .vacant) ∧ s.truncate size = { s with
      elements := s.elements.take size
      history := removals s.now ((List.range s.elements.length).drop size) ++ s.history } := by
  by_cases h : (s.elements.drop size).all (·.stage = .vacant)
  · refine .inr ⟨by simpa using h, ?_⟩
    simp only [truncate, h, if_true, foldl_tornDown]
  · exact .inl (by simp only [truncate, h]; rfl)

theorem diary_removals (id : TaskId) (now : Nat) (indices : List Nat) (history : List Entry) :
    diary id (removals now indices ++ history) = diary id history := by
  simp [diary, removals, Event.task?]

theorem untouched_append (s : State σ) : Untouched id s s.append := ⟨rfl, rfl, rfl⟩

theorem untouched_supersede (s : State σ) (index : Nat) :
    Untouched id s (s.supersede index) := by
  rcases supersede_cases s index with h | ⟨element, -, h⟩
  · rw [h]
    exact .refl id s
  · rw [h]
    exact ⟨rfl, diary_cons_of_ne (by simp [Event.task?]) s.history, rfl⟩

theorem task?_modify_cancel (schedules : List (Schedule σ)) (n : Nat) (id : TaskId) :
    ((schedules.modify n Schedule.cancel)[id.schedule]?).bind
      (fun schedule ↦ schedule.tasks[id.directive]?) =
    (schedules[id.schedule]?).bind fun schedule ↦ schedule.tasks[id.directive]? := by
  rw [List.getElem?_modify]
  by_cases h : n = id.schedule <;>
    cases schedules[id.schedule]? <;> simp [h, Schedule.cancel]

theorem untouched_vacate (s : State σ) (index : Nat) : Untouched id s (s.vacate index) := by
  rcases vacate_cases s index with h | ⟨element, schedules, -, -, hschedules, h⟩
  · rw [h]
    exact .refl id s
  · rw [h]
    refine ⟨?_, rfl, rfl⟩
    rcases hschedules with rfl | ⟨n, rfl⟩
    · rfl
    · exact task?_modify_cancel s.schedules n id

theorem untouched_truncate (s : State σ) (size : Nat) : Untouched id s (s.truncate size) := by
  rcases truncate_cases s size with h | ⟨-, h⟩
  · rw [h]
    exact .refl id s
  · rw [h]
    exact ⟨rfl, diary_removals id _ _ _, rfl⟩

theorem untouched_placeLiteral (s : State σ) (index cell : Nat) (raw : String) :
    Untouched id s (s.placeLiteral index cell raw) := by
  refine ⟨rfl, ?_, rfl⟩
  exact (diary_cons_of_ne (by simp [Event.task?]) _).trans
    (diary_cons_of_ne (by simp [Event.task?]) _)

/-- A new schedule brings new tasks, and nothing else happens to tasks. -/
theorem placeSchedule_effect (id : TaskId) (s : State σ) (index cell : Nat) (raw : String)
    (values : List (Value σ)) :
    Untouched id s (s.placeSchedule index cell raw values) ∨ s.task? id = none ∧
      ∃ value, (s.placeSchedule index cell raw values).task? id = some { value := value } ∧
        diary id (s.placeSchedule index cell raw values).history = diary id s.history ∧
        (s.placeSchedule index cell raw values).workers.count id = s.workers.count id := by
  have hdiary : diary id (s.placeSchedule index cell raw values).history = diary id s.history :=
    diary_cons_of_ne (by simp [Event.task?]) s.history
  rcases Nat.lt_trichotomy id.schedule s.schedules.length with h | h | h
  · refine .inl ⟨?_, hdiary, rfl⟩
    simp [task?, placeSchedule, record, List.getElem?_append_left h]
  · cases hvalue : values[id.directive]? with
    | none =>
      refine .inl ⟨?_, hdiary, rfl⟩
      simp [task?, placeSchedule, record, h, hvalue]
    | some value =>
      refine .inr ⟨by simp [task?, h], value, ?_, hdiary, rfl⟩
      simp [task?, placeSchedule, record, h, hvalue]
  · refine .inl ⟨?_, hdiary, rfl⟩
    have hbefore : s.schedules[id.schedule]? = none := List.getElem?_eq_none (Nat.le_of_lt h)
    have hafter : (s.placeSchedule index cell raw values).schedules[id.schedule]? = none := by
      apply List.getElem?_eq_none
      rw [placeSchedule, record, List.length_append]
      exact h
    rw [task?, task?, hafter, hbefore]

/-! ## Steps -/

/-- What a step does to a task: nothing, one of the moves of its course, or its creation. -/
inductive Effect (s : State σ) (label : Label σ) (id : TaskId) : Prop
  | untouched (h : Untouched id s (s.step label))
  | moved {c d : Course σ} (before : s.course? id = some c)
      (after : (s.step label).course? id = some d) (moves : c.Moves s label id d)
  | created (absent : s.task? id = none) (value : Value σ)
      (task : (s.step label).task? id = some { value := value })
      (diary : diary id (s.step label).history = diary id s.history)
      (working : (s.step label).workers.count id = s.workers.count id)

/-- A step of a task moves that task or leaves everything as it is. -/
theorem effect_of_moves {label : Label σ}
    (absent : s.task? id = none → s.step label = s)
    (moves : ∀ c, s.course? id = some c → (s.step label).course? id = some c ∨
      ∃ d, (s.step label).course? id = some d ∧ c.Moves s label id d) : Effect s label id := by
  cases hcourse : s.course? id with
  | none =>
    have htask : s.task? id = none := by simpa [course?] using hcourse
    exact .untouched (by rw [absent htask]; exact .refl id s)
  | some c =>
    rcases moves c hcourse with hsame | ⟨d, hafter, hmoves⟩
    · obtain ⟨htask, hdiary, hworking⟩ := course?_eq_some.1 hcourse
      obtain ⟨htask', hdiary', hworking'⟩ := course?_eq_some.1 hsame
      exact .untouched ⟨htask'.trans htask.symm, hdiary'.trans hdiary.symm,
        hworking'.trans hworking.symm⟩
    · exact .moved hcourse hafter hmoves

theorem change_effect (s : State σ) (change : Change σ) (id : TaskId) :
    Effect s (.change change) id := by
  cases change with
  | append => exact .untouched (untouched_append s)
  | supersede index => exact .untouched (untouched_supersede s index)
  | vacate index => exact .untouched (untouched_vacate s index)
  | truncate size => exact .untouched (untouched_truncate s size)
  | exchange registry => exact .untouched ⟨rfl, rfl, rfl⟩
  | place index raw =>
    have hstep : s.step (.change (.place index raw)) = s.place index raw := rfl
    rcases place_cases s index raw with h | ⟨element, -, -, ⟨-, h⟩ | h⟩
    · refine .untouched ?_
      rw [hstep, h]
      exact .refl id s
    · refine .untouched ?_
      rw [hstep, h]
      exact untouched_placeLiteral s index element.cell raw
    · rcases placeSchedule_effect id s index element.cell raw
        ((Directive.parse raw).map (resolve s.registry s.floor)) with
        huntouched | ⟨habsent, value, htask, hdiary, hworking⟩
      · refine .untouched ?_
        rw [hstep, h]
        exact huntouched
      · rw [← h, ← hstep] at htask hdiary hworking
        exact .created habsent value htask hdiary hworking

theorem step_effect (s : State σ) (label : Label σ) (id : TaskId) : Effect s label id := by
  cases label with
  | change change => exact change_effect s change id
  | poll task rendering =>
    by_cases h : task = id
    · subst h
      exact effect_of_moves (fun habsent ↦ by simp only [step, poll, habsent])
        fun c hc ↦ poll_moves hc rendering
    · exact .untouched (untouched_poll h rendering)
  | finish task rendering =>
    by_cases h : task = id
    · subst h
      exact effect_of_moves (fun habsent ↦ by simp only [step, finish, habsent])
        fun c hc ↦ finish_moves hc rendering
    · exact .untouched (untouched_finish h rendering)
  | complete task =>
    by_cases h : task = id
    · subst h
      exact effect_of_moves (fun habsent ↦ by simp only [step, complete, habsent])
        fun c hc ↦ complete_moves hc
    · exact .untouched (untouched_complete h)
  | elapse nanoseconds => exact .untouched ⟨rfl, rfl, rfl⟩
  | disturb change => exact .untouched ⟨rfl, rfl, rfl⟩

end State

/-! ## The list stands still -/

/-- A schedule as it was planned, with tasks to which nothing has happened. -/
def Schedule.plan (schedule : Schedule σ) : Schedule σ :=
  { schedule with tasks := schedule.tasks.map fun task ↦ { value := task.value } }

/-- Between two states no time has passed and nothing has happened to the list of texts. -/
structure Still (s t : State σ) : Prop where
  now : t.now = s.now
  floor : t.floor = s.floor
  cells : t.cells = s.cells
  elements : t.elements = s.elements
  plans : t.schedules.map Schedule.plan = s.schedules.map Schedule.plan
  decisions : decisions t.history = decisions s.history

namespace Still

theorem refl (s : State σ) : Still s s := ⟨rfl, rfl, rfl, rfl, rfl, rfl⟩

theorem trans (h : Still s t) (k : Still t u) : Still s u :=
  ⟨k.now.trans h.now, k.floor.trans h.floor, k.cells.trans h.cells, k.elements.trans h.elements,
    k.plans.trans h.plans, k.decisions.trans h.decisions⟩

end Still

namespace State

theorem still_record (event : Event) (h : event.isDecision = false) : Still s (s.record event) :=
  ⟨rfl, rfl, rfl, rfl, rfl, decisions_cons_of_not h s.history⟩

theorem still_modifyTask (id : TaskId) {f : Task σ → Task σ}
    (h : ∀ task, (f task).value = task.value) : Still s (s.modifyTask id f) := by
  refine ⟨rfl, rfl, rfl, rfl, ?_, rfl⟩
  apply List.ext_getElem?
  intro n
  simp only [modifyTask, List.getElem?_map, List.getElem?_modify]
  cases s.schedules[n]? with
  | none => rfl
  | some schedule =>
    by_cases hn : id.schedule = n
    · simp only [hn, if_true, Option.map_eq_map, Option.map_some, Schedule.plan]
      congr 2
      apply List.ext_getElem?
      intro directive
      simp only [List.getElem?_map, List.getElem?_modify]
      cases schedule.tasks[directive]? with
      | none => rfl
      | some task => by_cases hd : id.directive = directive <;> simp [hd, h]
    · simp [hn]

theorem still_enter (id : TaskId) (phase : Phase) : Still s (s.enter id phase) :=
  (still_modifyTask id (f := fun task ↦ { task with phase := phase }) fun _ ↦ rfl).trans
    (still_record _ rfl)

theorem still_beginTick (id : TaskId) (mode : Mode) : Still s (s.beginTick id mode) := by
  unfold beginTick
  split
  · exact (still_record _ rfl).trans (still_enter id _)
  · split
    · exact (still_enter id _).trans (still_record _ rfl)
    · have hbegan := (still_enter (s := s) id (.awaiting s.now none)).trans
        (still_record (.began id) rfl)
      exact ⟨hbegan.now, hbegan.floor, hbegan.cells, hbegan.elements, hbegan.plans,
        hbegan.decisions⟩

theorem still_publish (id : TaskId) (fragment : String) : Still s (s.publish id fragment) := by
  have hmodified := still_modifyTask (s := s) id (f := Task.publish fragment) fun _ ↦ rfl
  simp only [publish]
  split
  · exact hmodified.trans (still_record _ rfl)
  · exact hmodified

theorem still_deliver (id : TaskId) (start : Nat) (fragment : String) (rendering : Rendering) :
    Still s (s.deliver id start fragment rendering) := by
  unfold deliver
  split
  · split
    · cases rendering with
      | returns => exact (still_publish id fragment).trans (still_enter id _)
      | panics => exact (still_publish id fragment).trans (still_modifyTask id fun _ ↦ rfl)
    · exact still_enter id _
  · exact .refl s

theorem still_poll (id : TaskId) (rendering : Rendering) : Still s (s.poll id rendering) := by
  rcases poll_cases s id rendering with h | ⟨mode, h⟩ | h | ⟨start, fragment, h⟩
  · rw [h]
    exact .refl s
  · rw [h]
    exact still_beginTick id mode
  · rw [h]
    exact still_enter id .cancelled
  · rw [h]
    exact still_deliver id start fragment rendering

theorem still_finish (id : TaskId) (rendering : Rendering) : Still s (s.finish id rendering) := by
  rcases finish_cases s id rendering with h | ⟨world, start, fragment, h⟩
  · rw [h]
    exact .refl s
  · rw [h]
    have hworld : Still s { s with world := world } := ⟨rfl, rfl, rfl, rfl, rfl, rfl⟩
    exact (hworld.trans (still_record _ rfl)).trans (still_deliver id start fragment rendering)

theorem value_receive (fragment : String) (task : Task σ) :
    (task.receive fragment).value = task.value := by
  unfold Task.receive
  split <;> rfl

theorem still_complete (id : TaskId) : Still s (s.complete id) := by
  rcases complete_cases s id with h | ⟨world, fragment, h⟩
  · rw [h]
    exact .refl s
  · rw [h]
    have hworkers : Still s { s with world := world, workers := s.workers.erase id } :=
      ⟨rfl, rfl, rfl, rfl, rfl, rfl⟩
    exact (hworkers.trans (still_record _ rfl)).trans (still_modifyTask id (value_receive _))

end State

end LiveTemplate.Refresh

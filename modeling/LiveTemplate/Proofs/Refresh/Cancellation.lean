import LiveTemplate.Proofs.Refresh.Layout

/-!
# Telling tasks to stop

A task that has been told to stop ends in its next turn, wherever it has been left: before its first
tick, with a worker that may have returned, between two ticks, or asleep until a time that may have
come. It begins no call any more and shows no text, and keeps its fragment and its ticks. A task
that is busy with a call of its own takes its turn when the call returns, and ends there. So once
the end of a text has been carried through, nothing is called on behalf of that text again.
-/

namespace LiveTemplate.Refresh

open Command (Registry)

variable {σ : Type} {s t u : State σ} {id : TaskId} {index n : Nat} {task : Task σ}
  {schedule : Schedule σ} {label : Label σ}

/-! ## The last turn -/

/-- Between two states a task has ended. Nothing has happened but that a task has shown states, or
that a call has returned. -/
structure Stops (id : TaskId) (task : Task σ) (s t : State σ) : Prop where
  task : t.task? id = some { task with phase := .cancelled }
  history : ∃ later, t.history = later ++ s.history ∧ ∀ entry ∈ later,
    (∃ state, entry.event = .entered id state) ∨ ∃ fragment, entry.event = .returned id fragment
  workers : t.workers = s.workers

theorem stops_enter (htask : s.task? id = some task) : Stops id task s (s.enter id .cancelled) := by
  constructor
  case task =>
    rw [State.enter, State.task?_record, State.task?_modifyTask, htask]
    rfl
  case history =>
    refine ⟨[⟨s.now, .entered id .cancelled⟩], rfl, fun entry hentry ↦ .inl ⟨.cancelled, ?_⟩⟩
    rw [List.mem_singleton.1 hentry]
  case workers => rfl

/-- A task that stops after a further entry about it has been written down stops. -/
theorem Stops.of_record {event : Event} (h : Stops id task (s.record event) t)
    (hevent : (∃ state, event = .entered id state) ∨ ∃ fragment, event = .returned id fragment) :
    Stops id task s t := by
  obtain ⟨htask, ⟨later, hhistory, hlater⟩, hworkers⟩ := h
  refine ⟨htask, ⟨later ++ [⟨s.now, event⟩], ?_, fun entry hentry ↦ ?_⟩, hworkers⟩
  · rw [hhistory, List.append_assoc]
    rfl
  · rcases List.mem_append.1 hentry with h | h
    · exact hlater entry h
    · rw [List.mem_singleton.1 h]
      exact hevent

/-- A poll ends a task that has been told to stop and is not busy with a call of its own. -/
theorem stops_poll (htask : s.task? id = some task) (stopped : s.isCancelled id = true)
    (unfinished : task.state.isFinished = false) (intact : task.phase ≠ .broken)
    (idle : ∀ start, task.phase ≠ .calling start) (rendering : Rendering) :
    Stops id task s (s.poll id rendering) := by
  have hsuspended : s.poll id rendering = s.enter id .cancelled →
      Stops id task s (s.poll id rendering) := by
    intro hpoll
    rw [hpoll]
    exact stops_enter htask
  cases hphase : task.phase with
  | idle =>
    have hpoll : s.poll id rendering =
        (s.record (.entered id .running)).enter id .cancelled := by
      simp only [State.poll, htask, hphase, State.beginTick, stopped, if_true]
    have hrecord : (s.record (.entered id .running)).task? id = some task := htask
    rw [hpoll]
    exact (stops_enter hrecord).of_record (.inl ⟨.running, rfl⟩)
  | awaiting start fragment? =>
    exact hsuspended (by simp only [State.poll, htask, hphase, stopped, if_true])
  | yielded => exact hsuspended (by simp only [State.poll, htask, hphase, stopped, if_true])
  | asleep wake => exact hsuspended (by simp only [State.poll, htask, hphase, stopped, if_true])
  | calling start => exact absurd hphase (idle start)
  | broken => exact absurd hphase intact
  | terminated => simp [Task.state, hphase, Phase.state, TaskState.isFinished] at unfinished
  | cancelled => simp [Task.state, hphase, Phase.state, TaskState.isFinished] at unfinished

/-- A task that is busy with a call of its own stays so when it is polled. -/
theorem poll_of_calling {start : Nat} (htask : s.task? id = some task)
    (hphase : task.phase = .calling start) (rendering : Rendering) : s.poll id rendering = s := by
  simp only [State.poll, htask, hphase]

/-- The return of the call ends a task whose schedule is not the installed one any more. -/
theorem stops_finish {start : Nat} (htask : s.task? id = some task)
    (hphase : task.phase = .calling start) (stale : s.isCurrent id = false)
    (rendering : Rendering) : Stops id task s (s.finish id rendering) := by
  obtain ⟨schedule, hschedule, -⟩ := Option.bind_eq_some_iff.1 htask
  rw [State.isCurrent_of_schedule hschedule] at stale
  let outcome := task.value.command.invoke s.world
  let called : State σ := { s with world := outcome.2 }
  let returned := called.record (.returned id outcome.1.fragment)
  have hreturned : returned.task? id = some task := htask
  have hfinish : s.finish id rendering = returned.enter id .cancelled := by
    have hfound : returned.schedules[id.schedule]? = some schedule := hschedule
    have hstale : returned.isInstalled schedule = false := stale
    calc
      s.finish id rendering = returned.deliver id start outcome.1.fragment rendering :=
        State.finish_of_calling htask hphase rendering
      _ = returned.enter id .cancelled := by
        simp only [State.deliver, hfound, hreturned, hstale, Bool.false_eq_true, if_false]
  have hstops : Stops id task called (s.finish id rendering) := by
    rw [hfinish]
    exact (stops_enter hreturned).of_record (.inr ⟨_, rfl⟩)
  exact ⟨hstops.task, hstops.history, hstops.workers⟩

/-! ## Afterwards -/

/-- Between two states a task has begun no call and shown no text. -/
structure Frozen (id : TaskId) (s t : State σ) : Prop where
  calls : calls id t.history = calls id s.history
  publications : publications id t.history = publications id s.history
  task : (t.task? id).map (fun task ↦ (task.fragment, task.ticks)) =
    (s.task? id).map fun task ↦ (task.fragment, task.ticks)

namespace Frozen

theorem refl (id : TaskId) (s : State σ) : Frozen id s s := ⟨rfl, rfl, rfl⟩

theorem trans (h : Frozen id s t) (k : Frozen id t u) : Frozen id s u :=
  ⟨k.calls.trans h.calls, k.publications.trans h.publications, k.task.trans h.task⟩

theorem of_untouched (h : Untouched id s t) : Frozen id s t := by
  constructor
  case calls => rw [Refresh.calls, Refresh.calls, h.diary]
  case publications => rw [Refresh.publications, Refresh.publications, h.diary]
  case task => rw [h.task]

end Frozen

/-- The moves of a task that has been told to stop, and whose schedule is not the installed one. -/
theorem Course.Moves.of_stopped {c d : Course σ} (h : c.Moves s label id d)
    (stopped : s.isCancelled id = true) (stale : s.isCurrent id = false) :
    d.reads Entry.call? = c.reads Entry.call? ∧
      d.reads Entry.publication? = c.reads Entry.publication? ∧
      d.task.fragment = c.task.fragment ∧ d.task.ticks = c.task.ticks := by
  cases h with
  | refuse phase _ => simp [Course.refuse]
  | call ready running mode => rw [stopped] at running; contradiction
  | dispatch ready running mode => rw [stopped] at running; contradiction
  | stop suspended _ => simp
  | deliver yields current => rw [stale] at current; contradiction
  | discard yields _ =>
    cases yields with
    | awaited phase running => rw [stopped] at running; contradiction
    | called phase outcome => simp
  | @complete fragment working outcome =>
    refine ⟨by simp [Course.complete], by simp [Course.complete], ?_⟩
    rcases Task.receive_cases fragment c.task with hsame | ⟨start, -, hreceived⟩
    · simp [Course.complete, hsame]
    · simp [Course.complete, hreceived]

namespace State

/-- A schedule that has been told to stop is not the installed one. -/
theorem isCurrent_of_cancelled (kept : Kept s) (hschedule : s.schedules[id.schedule]? = some schedule)
    (hcancelled : schedule.cancelled = true) : s.isCurrent id = false := by
  rw [isCurrent_of_schedule hschedule, Bool.eq_false_iff]
  intro hinstalled
  rw [running_of_isInstalled kept hschedule hinstalled] at hcancelled
  contradiction

/-- A step does not let a stopped task go on. -/
theorem frozen_step (kept : Kept s) (hschedule : s.schedules[id.schedule]? = some schedule)
    (hcancelled : schedule.cancelled = true) (label : Label σ) : Frozen id s (s.step label) := by
  have stopped : s.isCancelled id = true := (isCancelled_of_schedule hschedule).trans hcancelled
  have stale := isCurrent_of_cancelled kept hschedule hcancelled
  cases step_effect s label id with
  | untouched h => exact .of_untouched h
  | moved before after moves =>
    obtain ⟨htask, hdiary, -⟩ := course?_eq_some.1 before
    obtain ⟨htask', hdiary', -⟩ := course?_eq_some.1 after
    obtain ⟨hcalls, hpublications, hfragment, hticks⟩ := moves.of_stopped stopped stale
    constructor
    case calls => rw [calls, calls, hdiary, hdiary']; exact hcalls
    case publications => rw [publications, publications, hdiary, hdiary']; exact hpublications
    case task =>
      rw [htask, htask', Option.map_some, Option.map_some, hfragment, hticks]
  | created absent value task diary working =>
    -- a schedule that there is gets no further tasks
    obtain ⟨after, hafter, hbecomes⟩ := exists_step label hschedule
    have hlength : after.tasks.length = schedule.tasks.length := by
      simpa using congrArg List.length hbecomes.values
    rw [task?, hschedule, Option.bind_some, List.getElem?_eq_none_iff, ← hlength] at absent
    rw [task?, hafter, Option.bind_some, List.getElem?_eq_none absent] at task
    contradiction

/-- A schedule that has been told to stop stays so. -/
theorem exists_cancelled_step (hschedule : s.schedules[n]? = some schedule)
    (hcancelled : schedule.cancelled = true) (label : Label σ) :
    ∃ after, (s.step label).schedules[n]? = some after ∧ after.cancelled = true := by
  obtain ⟨after, hafter, hbecomes⟩ := exists_step label hschedule
  exact ⟨after, hafter, hbecomes.cancelled hcancelled⟩

/-- A run does not let a stopped task go on. -/
theorem frozen_run (kept : Kept s) (hschedule : s.schedules[id.schedule]? = some schedule)
    (hcancelled : schedule.cancelled = true) (labels : List (Label σ)) :
    Frozen id s (s.run labels) := by
  induction labels generalizing s schedule with
  | nil => exact .refl id s
  | cons label labels ih =>
    obtain ⟨after, hafter, hcancelled'⟩ := exists_cancelled_step hschedule hcancelled label
    exact (frozen_step kept hschedule hcancelled label).trans
      (ih (kept.step label) hafter hcancelled')

theorem exists_cancelled_run (hschedule : s.schedules[n]? = some schedule)
    (hcancelled : schedule.cancelled = true) (labels : List (Label σ)) :
    ∃ after, (s.run labels).schedules[n]? = some after ∧ after.cancelled = true := by
  induction labels generalizing s schedule with
  | nil => exact ⟨schedule, hschedule, hcancelled⟩
  | cons label labels ih =>
    obtain ⟨after, hafter, hcancelled'⟩ := exists_cancelled_step hschedule hcancelled label
    exact ih hafter hcancelled'

/-! ## The end of a text -/

/-- What is not a change of the list leaves its elements alone. -/
theorem elements_step (s : State σ) (h : label.change? = none) :
    (s.step label).elements = s.elements := by
  cases label with
  | change change => contradiction
  | poll task rendering => exact (still_poll task rendering).elements
  | finish task rendering => exact (still_finish task rendering).elements
  | complete task => exact (still_complete task).elements
  | elapse nanoseconds => rfl
  | disturb change => rfl

theorem elements_run (s : State σ) {labels : List (Label σ)}
    (h : ∀ label ∈ labels, label.change? = none) : (s.run labels).elements = s.elements := by
  induction labels generalizing s with
  | nil => rfl
  | cons label labels ih =>
    rw [run_cons, ih _ fun other hother ↦ h other (List.mem_cons_of_mem label hother),
      elements_step s (h label List.mem_cons_self)]

/-- A run with changes begins with steps that are none, and its first change. -/
theorem exists_split {labels : List (Label σ)} {change : Change σ} {rest : List (Change σ)}
    (h : changesOf labels = change :: rest) :
    ∃ before after, labels = before ++ .change change :: after ∧
      (∀ label ∈ before, label.change? = none) ∧ changesOf after = rest := by
  obtain ⟨before, label, after, rfl, hbefore, hlabel, hafter⟩ := List.filterMap_eq_cons_iff.1 h
  have hchange : label = .change change := by
    cases label with
    | change found => exact congrArg Label.change (Option.some.inj hlabel)
    | _ => contradiction
  exact ⟨before, after, by rw [hchange], hbefore, hafter⟩

/-- When the end of a text has been carried through, with anything else happening meanwhile, the
schedule of the text has been told to stop. -/
theorem exists_cancelled_retirement {element : Element} (kept : Kept s)
    (helement : s.elements[index]? = some element) (hn : element.schedule? = some n)
    {during : List (Label σ)} (hduring : changesOf during = retirement index) :
    ∃ schedule, (s.run during).schedules[n]? = some schedule ∧ schedule.cancelled = true := by
  obtain ⟨first, rest, rfl, hfirst, hrest⟩ := exists_split hduring
  obtain ⟨second, last, rfl, hsecond, -⟩ := exists_split hrest
  let superseded := (s.run first).step (.change (.supersede index))
  let stopping := superseded.run second
  have hstopping : stopping.elements[index]? = some { element with stage := .superseded } := by
    have hfound : (s.run first).elements[index]? = some element := by
      rw [elements_run s hfirst]
      exact helement
    have hlength : index < (s.run first).elements.length := (List.getElem?_eq_some_iff.1 hfound).1
    have hset : superseded.elements =
        (s.run first).elements.set index { element with stage := .superseded } := by
      simp only [superseded, step, State.change, supersede, hfound]
      rfl
    rw [elements_run superseded hsecond, hset, List.getElem?_set_self hlength]
  have hkept : Kept stopping := ((kept.run first).step _).run second
  obtain ⟨schedule, hschedule, -⟩ := hkept.housed.runs index _ n hstopping hn
  obtain ⟨after, hafter, -⟩ := exists_step (.change (.vacate index)) hschedule
  have hcancelled : after.cancelled = true := Housed.cancelled_of_vacate hstopping rfl hn hafter
  have hrun : s.run (first ++ .change (.supersede index) :: (second ++
      .change (.vacate index) :: last)) = (stopping.step (.change (.vacate index))).run last := by
    rw [run_append, run_cons, run_append, run_cons]
  rw [hrun]
  exact exists_cancelled_run hafter hcancelled last

end State

/-- In every run, a task that has been told to stop ends in its next turn without a further call or
text, and when the end of a text has been carried through, no call is begun for the text any more.
-/
theorem stopped_within_one_poll (registry : Registry σ) (floor : Duration) (world : σ)
    (labels : List (Label σ)) :
    let s := (State.initial registry floor world).run labels
    (∀ id task, s.task? id = some task → s.isCancelled id = true →
      task.state.isFinished = false → task.phase ≠ .broken → ∀ rendering,
        ((∀ start, task.phase ≠ .calling start) → Stops id task s (s.poll id rendering)) ∧
        ∀ start, task.phase = .calling start →
          s.poll id rendering = s ∧ Stops id task s (s.finish id rendering)) ∧
    ∀ index element n during, s.elements[index]? = some element → element.schedule? = some n →
      changesOf during = retirement index →
      let t := s.run during
      ∀ directive later, t.isCancelled ⟨n, directive⟩ = true ∧
        Frozen ⟨n, directive⟩ t (t.run later) := by
  intro s
  have hkept : Kept s := (Kept.initial registry floor world).run labels
  refine ⟨fun id task htask stopped unfinished intact rendering ↦ ⟨fun idle ↦ ?_, ?_⟩, ?_⟩
  · exact stops_poll htask stopped unfinished intact idle rendering
  · intro start hphase
    obtain ⟨schedule, hschedule, -⟩ := Option.bind_eq_some_iff.1 htask
    rw [State.isCancelled_of_schedule hschedule] at stopped
    have stale := State.isCurrent_of_cancelled hkept hschedule stopped
    exact ⟨poll_of_calling htask hphase rendering, stops_finish htask hphase stale rendering⟩
  · intro index element n during helement hn hduring t directive later
    obtain ⟨schedule, hschedule, hcancelled⟩ :=
      State.exists_cancelled_retirement hkept helement hn hduring
    have hfound : t.schedules[(⟨n, directive⟩ : TaskId).schedule]? = some schedule := hschedule
    refine ⟨?_, State.frozen_run (hkept.run during) hfound hcancelled later⟩
    rw [State.isCancelled_of_schedule hfound]
    exact hcancelled

/-- A text is installed, its task calls on a worker, and the worker returns. -/
def answered : List (Label Unit) :=
  (.append :: installation 0 "{w(), async:true}").map .change ++
    [.poll ⟨0, 0⟩ .returns, .complete ⟨0, 0⟩]

/-- The task is told to stop before it has taken the fragment. Its next turn ends it, and it has
called once and shown nothing. -/
theorem answered_stopped :
    let s := ((State.initial .empty ⟨0⟩ ()).run answered).run ((retirement 0).map .change)
    s.isCancelled ⟨0, 0⟩ = true ∧
      (∃ task, s.task? ⟨0, 0⟩ = some task ∧
        task.phase = .awaiting 0 (some "Invalid command: w") ∧
        Stops ⟨0, 0⟩ task s (s.poll ⟨0, 0⟩ .returns)) ∧
      calls ⟨0, 0⟩ (s.run [.poll ⟨0, 0⟩ .returns]).history = [0] ∧
      publications ⟨0, 0⟩ (s.run [.poll ⟨0, 0⟩ .returns]).history = [] := by
  intro s
  have hrun : s = (State.initial .empty ⟨0⟩ ()).run (answered ++ (retirement 0).map .change) :=
    (State.run_append _ _ _).symm
  obtain ⟨hstops, -⟩ := stopped_within_one_poll .empty ⟨0⟩ ()
    (answered ++ (retirement 0).map .change)
  obtain ⟨-, hfrozen⟩ := stopped_within_one_poll .empty ⟨0⟩ () answered
  have helement : ((State.initial .empty ⟨0⟩ ()).run answered).elements[0]? =
      some ⟨0, "{w(), async:true}", some 0, .settled⟩ := by decide +kernel
  obtain ⟨hstopped, hcalls, hpublications, -⟩ := hfrozen 0 _ 0 ((retirement 0).map .change)
    helement rfl rfl 0 [.poll ⟨0, 0⟩ .returns]
  have hphase : (s.task? ⟨0, 0⟩).map Task.phase = some (.awaiting 0 (some "Invalid command: w")) := by
    decide +kernel
  obtain ⟨task, htask, hphase⟩ := Option.map_eq_some_iff.1 hphase
  rw [← hrun] at hstops
  have hends := (hstops ⟨0, 0⟩ task htask hstopped (by rw [Task.state, hphase]; rfl)
    (by rw [hphase]; exact Phase.noConfusion) .returns).1
    fun start ↦ by rw [hphase]; exact Phase.noConfusion
  refine ⟨hstopped, ⟨task, htask, hphase, hends⟩, hcalls.trans ?_, hpublications.trans ?_⟩
  · decide +kernel
  · decide +kernel

end LiveTemplate.Refresh

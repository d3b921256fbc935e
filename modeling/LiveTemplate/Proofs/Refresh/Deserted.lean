import LiveTemplate.Proofs.Refresh.Cancellation
import LiveTemplate.Proofs.Refresh.LifeCycle
import LiveTemplate.Proofs.Refresh.Turn

/-!
# Without texts

When the list has been cleared, no text is left. Every task has been told to stop then, so that none
calls its command or shows anything any more; and a task that is still about something ends when it
is polled, once its own call, if it makes one, has returned.
-/

namespace LiveTemplate.Refresh

open Command (Registry)

variable {σ : Type} {s t : State σ} {id : TaskId} {task : Task σ} {label : Label σ}
  {labels : List (Label σ)}

/-! ## Tasks that exist -/

namespace State

/-- Tasks do not go away. -/
theorem isSome_task?_step (h : (s.task? id).isSome = true) (label : Label σ) :
    ((s.step label).task? id).isSome = true := by
  cases step_effect s label id with
  | untouched huntouched => rwa [huntouched.task]
  | moved before after moves =>
    rw [(course?_eq_some.1 after).1]
    rfl
  | created absent value found =>
    rw [found]
    rfl

/-! ## Without texts -/

/-- When the list has been cleared, it is empty, whatever else has happened meanwhile. -/
theorem elements_of_clear (kept : Kept s) (h : changesOf labels = Operation.clear.changes s) :
    (s.run labels).elements = [] := by
  have hsites : (s.run labels).layout.sites = [] := by
    rw [layout_run kept, h, foldl_changes]
    rfl
  exact List.map_eq_nil_iff.1 hsites

/-- Where no text is left, every schedule has been told to stop. -/
theorem cancelled_of_deserted (kept : Kept s) (deserted : s.elements = []) {n : Nat}
    {schedule : Schedule σ} (hschedule : s.schedules[n]? = some schedule) :
    schedule.cancelled = true := by
  by_contra hrunning
  obtain ⟨element, helement, -⟩ :=
    kept.housed.housed n schedule hschedule (Bool.eq_false_iff.2 hrunning)
  rw [deserted] at helement
  contradiction

theorem isCancelled_of_deserted (kept : Kept s) (deserted : s.elements = [])
    (htask : s.task? id = some task) : s.isCancelled id = true ∧ s.isCurrent id = false := by
  obtain ⟨schedule, hschedule, -⟩ := Option.bind_eq_some_iff.1 htask
  have hcancelled := cancelled_of_deserted kept deserted hschedule
  exact ⟨(isCancelled_of_schedule hschedule).trans hcancelled,
    isCurrent_of_cancelled kept hschedule hcancelled⟩

/-- Steps that are no changes of the list keep it empty. -/
theorem run_preserves_deserted {P : State σ → Prop}
    (preserved : ∀ s label, Kept s → s.elements = [] → label.change? = none → P s →
      P (s.step label))
    (kept : Kept s) (deserted : s.elements = []) (others : changesOf labels = []) (start : P s) :
    P (s.run labels) := by
  induction labels generalizing s with
  | nil => exact start
  | cons label labels ih =>
    have hlabel : label.change? = none := by
      have hmem := List.filterMap_eq_nil_iff.1 others label List.mem_cons_self
      exact hmem
    have hlater : changesOf labels = [] := by
      rwa [changesOf, List.filterMap_cons_none hlabel] at others
    have hnext : (s.step label).elements = [] := (elements_step s hlabel).trans deserted
    exact ih (kept.step label) hnext hlater (preserved s label kept deserted hlabel start)

end State

/-- A task that has been told to stop shows that it has been cancelled, or nothing new. -/
theorem Course.Moves.state_of_stopped {c d : Course σ} (h : c.Moves s label id d)
    (stopped : s.isCancelled id = true) (stale : s.isCurrent id = false) :
    d.task.state = c.task.state ∨ d.task.state = .cancelled := by
  cases h with
  | refuse phase _ => exact .inr rfl
  | call ready running mode => rw [stopped] at running; contradiction
  | dispatch ready running mode => rw [stopped] at running; contradiction
  | stop suspended _ => exact .inr rfl
  | deliver yields current => rw [stale] at current; contradiction
  | discard yields _ => exact .inr rfl
  | @complete fragment working outcome =>
    left
    have hafter : (c.complete id s.now fragment).task = c.task.receive fragment := rfl
    rcases Task.receive_cases fragment c.task with hsame | ⟨start, hphase, hreceived⟩
    · rw [hafter, hsame]
    · rw [hafter, hreceived, Task.state, Task.state, hphase]
      rfl

namespace State

/-- Where no text is left, a task shows at most that it has been cancelled. -/
theorem exists_task_run_of_deserted (kept : Kept s) (deserted : s.elements = [])
    (others : changesOf labels = []) (htask : s.task? id = some task) :
    ∃ after, (s.run labels).task? id = some after ∧
      (after.state = task.state ∨ after.state = .cancelled) := by
  refine run_preserves_deserted
    (P := fun t ↦ ∃ after, t.task? id = some after ∧
      (after.state = task.state ∨ after.state = .cancelled))
    ?_ kept deserted others ⟨task, htask, .inl rfl⟩
  rintro t label hkept hdeserted - ⟨before, hbefore, hstate⟩
  obtain ⟨stopped, stale⟩ := isCancelled_of_deserted hkept hdeserted hbefore
  cases step_effect t label id with
  | untouched huntouched => exact ⟨before, huntouched.task.trans hbefore, hstate⟩
  | @moved c d hc hd moves =>
    obtain rfl : c.task = before := Option.some.inj ((course?_eq_some.1 hc).1.symm.trans hbefore)
    refine ⟨d.task, (course?_eq_some.1 hd).1, ?_⟩
    rcases moves.state_of_stopped stopped stale with hsame | hcancelled
    · rwa [hsame]
    · exact .inr hcancelled
  | created absent value found =>
    rw [absent] at hbefore
    contradiction

/-! ## The end of a task -/

section Safe

variable {registry : Registry σ} {floor : Duration} {world : σ}
  (safe : ∀ label ∈ labels, label.isSafe = true)
  (htask : ((initial registry floor world).run labels).task? id = some task)

include safe htask

/-- While the renderer returns, a task stands where its ticks and its interval let it. -/
theorem stands_of_safe : task.phase.Stands task.ticks task.value.interval := by
  let s := (initial registry floor world).run labels
  have hcourse : s.course? id = some ⟨task, diary id s.history, s.workers.count id⟩ :=
    course?_eq_some.2 ⟨htask, rfl, rfl⟩
  have horderly := courses_run Course.orderly_invariant registry floor world safe id _ hcourse
  exact horderly.stands

/-- While the renderer returns, no task breaks. -/
theorem intact_of_safe : task.phase ≠ .broken := by
  intro hbroken
  have hstands := stands_of_safe safe htask
  rw [hbroken] at hstands
  exact hstands

end Safe

/-- Where no text is left, a task has ended when its own call, if it makes one, has returned and it
has been polled. -/
theorem exists_finished_of_turn (kept : Kept s) (deserted : s.elements = [])
    (htask : s.task? id = some task) (intact : task.phase ≠ .broken) :
    ∃ after, (s.run [.finish id .returns, .poll id .returns]).task? id = some after ∧
      after.state.isFinished = true := by
  obtain ⟨stopped, stale⟩ := isCancelled_of_deserted kept deserted htask
  by_cases hfinished : task.state.isFinished = true
  · exact ⟨task, task?_run_of_isFinished htask hfinished _, hfinished⟩
  by_cases hcalling : ∃ start, task.phase = .calling start
  · obtain ⟨start, hphase⟩ := hcalling
    have hstops := stops_finish htask hphase stale .returns
    exact ⟨{ task with phase := .cancelled },
      task?_step_of_isFinished hstops.task rfl (.poll id .returns), rfl⟩
  · have hidle (start : Nat) : task.phase ≠ .calling start := fun h ↦ hcalling ⟨start, h⟩
    have hsame : s.finish id .returns = s := by
      unfold finish
      rw [htask]
      cases hphase : task.phase with
      | calling start => exact absurd hphase (hidle start)
      | _ => simp only [hphase]
    have hstops := stops_poll htask stopped (Bool.eq_false_iff.2 hfinished) intact hidle .returns
    refine ⟨{ task with phase := .cancelled }, ?_, rfl⟩
    show ((s.finish id .returns).poll id .returns).task? id = _
    rw [hsame]
    exact hstops.task

end State

end LiveTemplate.Refresh

import LiveTemplate.Proofs.Refresh.Deserted
import LiveTemplate.Refresh.Shutdown

/-!
# Shutting down

Tasks and workers take steps between any two steps of a shutdown. The tasks of every text that is
installed when it is called are minded until it returns: as long as the text is in its element a change
is still to come that takes it out, then its schedule is kept, and then its tasks are waited for. All of
them have been told to stop before the first one is waited for, so each needs one more turn at most.
Calls on workers may outlive the waiting; when they return, no task is left that would take what they
return. So nothing is shown any more, and the tasks stay as they have ended.

Nobody waits for the tasks of texts that had been replaced before. They have been told to stop as well
and do nothing more, but one that has not noticed yet when the shutdown returns is still to show that
it has been cancelled.
-/

namespace LiveTemplate.Refresh

open Command (Registry)

variable {σ : Type} {s t u : State σ} {id : TaskId} {task : Task σ} {label : Label σ}
  {labels during later : List (Label σ)} {n : Nat} {wording : TaskId → String}
  {point next next' : Shutdown σ} {changes : List (Change σ)} {schedules : List Nat}
  {ids : List TaskId} {result : Except Error Unit}

/-! ## Steps of a shutdown -/

/-- What a step of a shutdown can be. -/
inductive Shutdown.Steps (wording : TaskId → String) (s : State σ) :
    Shutdown σ → State σ → Shutdown σ → Prop
  /-- A change of the list is made. -/
  | retire (change : Change σ) (changes : List (Change σ)) (schedules : List Nat) :
      Steps wording s (.retiring (change :: changes) schedules) (s.change change)
        (.retiring changes (schedules ++ (s.retired? change).toList))
  /-- No element is left. -/
  | gather (schedules : List Nat) :
      Steps wording s (.retiring [] schedules) s (.joining (schedules.flatMap s.taskIds))
  /-- The next task has ended. -/
  | join {id : TaskId} {task : Task σ} (ids : List TaskId) (found : s.task? id = some task)
      (finished : task.state.isFinished = true) :
      Steps wording s (.joining (id :: ids)) s (.joining ids)
  /-- The next task has been taken along by a panic of the renderer. -/
  | giveUp {id : TaskId} {task : Task σ} (ids : List TaskId) (found : s.task? id = some task)
      (broken : task.phase = .broken) :
      Steps wording s (.joining (id :: ids)) s (.returned (.error (.join (wording id))))
  /-- No task is left to wait for. -/
  | leave : Steps wording s (.joining []) s (.returned (.ok ()))

theorem Shutdown.step?_eq_some_iff :
    point.step? wording s = some (t, next) ↔ Steps wording s point t next := by
  constructor
  · intro h
    match point, h with
    | .retiring (change :: changes) schedules, h =>
      obtain ⟨rfl, rfl⟩ := Prod.mk.inj (Option.some.inj h)
      exact .retire change changes schedules
    | .retiring [] schedules, h =>
      obtain ⟨rfl, rfl⟩ := Prod.mk.inj (Option.some.inj h)
      exact .gather schedules
    | .joining (id :: ids), h =>
      obtain ⟨result, hjoined, hresult⟩ := Option.map_eq_some_iff.1 h
      obtain ⟨task, found, hjoined⟩ := Option.bind_eq_some_iff.1 hjoined
      split at hjoined
      case isTrue broken =>
        obtain rfl := Option.some.inj hjoined
        obtain ⟨rfl, rfl⟩ := Prod.mk.inj hresult
        exact .giveUp ids found broken
      case isFalse intact =>
        obtain ⟨finished, hjoined⟩ := Option.ite_none_right_eq_some.1 hjoined
        obtain rfl := Option.some.inj hjoined
        obtain ⟨rfl, rfl⟩ := Prod.mk.inj hresult
        exact .join ids found finished
    | .joining [], h =>
      obtain ⟨rfl, rfl⟩ := Prod.mk.inj (Option.some.inj h)
      exact .leave
  · rintro (⟨change, changes, schedules⟩ | schedules | ⟨ids, found, finished⟩ |
      ⟨ids, found, broken⟩ | _)
    · rfl
    · rfl
    · have intact : ∀ task : Task σ, task.state.isFinished = true → task.phase ≠ .broken := by
        intro task finished broken
        rw [Task.state, broken] at finished
        contradiction
      simp [step?, State.joined?, found, finished, intact _ finished]
    · simp [step?, State.joined?, found, broken]
    · rfl

/-- From one point a shutdown comes to another, while tasks and workers take steps. -/
inductive Shutdown.Leads (wording : TaskId → String) (s : State σ) (point : Shutdown σ) :
    List (Label σ) → State σ → Shutdown σ → Prop
  | start : Leads wording s point [] s point
  /-- A task or a worker takes a step, time passes, or the world changes. -/
  | meanwhile {labels : List (Label σ)} {t : State σ} {next : Shutdown σ} {label : Label σ}
      (before : Leads wording s point labels t next) (other : label.change? = none) :
      Leads wording s point (labels ++ [label]) (t.step label) next
  /-- The shutdown takes a step. -/
  | step {labels : List (Label σ)} {t u : State σ} {next later : Shutdown σ}
      (before : Leads wording s point labels t next) (taken : next.step? wording t = some (u, later)) :
      Leads wording s point labels u later

namespace Shutdown.Leads

theorem trans (h : Leads wording s point during t next) (k : Leads wording t next later u next') :
    Leads wording s point (during ++ later) u next' := by
  induction k with
  | start => rwa [List.append_nil]
  | meanwhile before other ih =>
    rw [← List.append_assoc]
    exact ih.meanwhile other
  | step before taken ih => exact ih.step taken

theorem steps (h : Leads wording s point during t next) (k : Steps wording t next u next') :
    Leads wording s point during u next' := h.step (step?_eq_some_iff.2 k)

end Shutdown.Leads

/-- A shutdown can make all its changes before anything else happens. -/
theorem Shutdown.exists_leads_retiring (wording : TaskId → String) (s : State σ)
    (changes : List (Change σ)) (schedules : List Nat) :
    ∃ kept, Leads wording s (.retiring changes schedules) [] (changes.foldl State.change s)
      (.retiring [] kept) := by
  induction changes generalizing s schedules with
  | nil => exact ⟨schedules, .start⟩
  | cons change changes ih =>
    obtain ⟨kept, hlater⟩ := ih (s.change change) (schedules ++ (s.retired? change).toList)
    exact ⟨kept, (Leads.start.steps (.retire change changes schedules)).trans hlater⟩

/-! ## The run behind a shutdown -/

/-- The changes of the list that are still to be made. -/
def Shutdown.remaining : Shutdown σ → List (Change σ)
  | .retiring changes _ => changes
  | _ => []

/-- While a shutdown runs, what the tasks and the workers do and the changes that it makes are a run,
and it makes the changes with which a list is cleared. -/
theorem Shutdown.Leads.exists_run (h : Leads wording s s.shutdown during t point) :
    ∃ labels, t = s.run labels ∧ (∀ label ∈ labels, label.change? = none → label ∈ during) ∧
      changesOf labels ++ point.remaining = Operation.clear.changes s := by
  induction h with
  | start => exact ⟨[], rfl, List.forall_mem_nil _, rfl⟩
  | @meanwhile during t point label before other ih =>
    obtain ⟨labels, rfl, hmem, hchanges⟩ := ih
    refine ⟨labels ++ [label], (State.run_append s labels [label]).symm, ?_, ?_⟩
    · intro found hfound hother
      rcases List.mem_append.1 hfound with hold | hnew
      · exact List.mem_append_left _ (hmem found hold hother)
      · exact List.mem_append_right _ hnew
    · rw [changesOf, List.filterMap_append, List.filterMap_cons_none other, List.filterMap_nil,
        List.append_nil]
      exact hchanges
  | step before taken ih =>
    obtain ⟨labels, rfl, hmem, hchanges⟩ := ih
    cases step?_eq_some_iff.1 taken with
    | retire change changes schedules =>
      refine ⟨labels ++ [Label.change change],
        (State.run_append s labels [Label.change change]).symm, ?_, ?_⟩
      · intro found hfound hother
        rcases List.mem_append.1 hfound with hold | hnew
        · exact hmem found hold hother
        · obtain rfl := List.mem_singleton.1 hnew
          contradiction
      · rw [← hchanges, changesOf, List.filterMap_append, List.append_assoc]
        rfl
    | gather schedules => exact ⟨labels, rfl, hmem, hchanges⟩
    | join ids found finished => exact ⟨labels, rfl, hmem, hchanges⟩
    | giveUp ids found broken => exact ⟨labels, rfl, hmem, hchanges⟩
    | leave => exact ⟨labels, rfl, hmem, hchanges⟩

/-- When a shutdown has made all its changes, the list is empty. -/
theorem Shutdown.Leads.elements_eq_nil (kept : Kept s)
    (h : Leads wording s s.shutdown during t point) (done : point.remaining = []) :
    Kept t ∧ t.elements = [] := by
  obtain ⟨labels, rfl, -, hchanges⟩ := h.exists_run
  rw [done, List.append_nil] at hchanges
  exact ⟨kept.run labels, State.elements_of_clear kept hchanges⟩

section Safe

variable {registry : Registry σ} {floor : Duration} {world : σ}
  (safe : ∀ label ∈ labels, label.isSafe = true)
  (safeDuring : ∀ label ∈ during, label.isSafe = true)
  (h : Shutdown.Leads wording ((State.initial registry floor world).run labels)
    ((State.initial registry floor world).run labels).shutdown during t point)

include safe safeDuring h

/-- While the renderer returns, every state that a shutdown comes to is one of a run in which it
returns. -/
theorem Shutdown.Leads.exists_safe_run :
    ∃ all : List (Label σ), t = (State.initial registry floor world).run all ∧
      ∀ label ∈ all, label.isSafe = true := by
  obtain ⟨made, rfl, hmem, -⟩ := h.exists_run
  refine ⟨labels ++ made, (State.run_append _ _ _).symm, List.forall_mem_append.2 ⟨safe, ?_⟩⟩
  intro label hlabel
  cases label with
  | change change => rfl
  | _ => exact safeDuring _ (hmem _ hlabel rfl)

theorem Shutdown.Leads.intact (htask : t.task? id = some task) : task.phase ≠ .broken := by
  obtain ⟨all, rfl, hall⟩ := h.exists_safe_run safe safeDuring
  exact State.intact_of_safe hall htask

end Safe

/-! ## Tasks that are minded -/

namespace State

/-- A task is one of a text that is installed. -/
def Installs (s : State σ) (id : TaskId) : Prop :=
  (∃ element ∈ s.elements, element.schedule? = some id.schedule) ∧ (s.task? id).isSome = true

/-- A task has ended by itself or has been cancelled. -/
def HasFinished (s : State σ) (id : TaskId) : Prop :=
  ∃ task, s.task? id = some task ∧ task.state.isFinished = true

theorem HasFinished.step (h : s.HasFinished id) (label : Label σ) :
    (s.step label).HasFinished id :=
  let ⟨task, found, finished⟩ := h
  ⟨task, task?_step_of_isFinished found finished label, finished⟩

theorem mem_taskIds (h : (s.task? id).isSome = true) : id ∈ s.taskIds id.schedule := by
  obtain ⟨task, htask⟩ := Option.isSome_iff_exists.1 h
  obtain ⟨schedule, hschedule, hfound⟩ := Option.bind_eq_some_iff.1 htask
  obtain ⟨hlength, -⟩ := List.getElem?_eq_some_iff.1 hfound
  refine List.mem_map.2 ⟨id.directive, ?_, rfl⟩
  rw [List.mem_range, hschedule]
  exact hlength

/-- The changes to come take a schedule out of its element, before they remove the element. -/
def Retires (s : State σ) (n : Nat) (changes : List (Change σ)) : Prop :=
  ∃ front index back element, changes = front ++ .vacate index :: back ∧
    (∀ change ∈ front, ∃ other, change = .supersede other ∨ change = .vacate other) ∧
    s.elements[index]? = some element ∧ element.schedule? = some n

theorem retires_clear {element : Element} (helement : element ∈ s.elements)
    (hschedule : element.schedule? = some n) : s.Retires n (Operation.clear.changes s) := by
  obtain ⟨index, hindex⟩ := List.mem_iff_getElem?.1 helement
  obtain ⟨hlt, -⟩ := List.getElem?_eq_some_iff.1 hindex
  have hvacate : (.vacate index : Change σ) ∈ (List.range s.size).flatMap retirement :=
    List.mem_flatMap.2 ⟨index, List.mem_range.2 hlt, by simp [retirement]⟩
  obtain ⟨front, back, hsplit⟩ := List.append_of_mem hvacate
  refine ⟨front, index, back ++ [.truncate 0], element, ?_, fun change hchange ↦ ?_, hindex,
    hschedule⟩
  · rw [Operation.changes, removal, List.drop_zero, hsplit, List.append_assoc]
    rfl
  · have hmem : change ∈ (List.range s.size).flatMap retirement := by
      rw [hsplit]
      exact List.mem_append_left _ hchange
    obtain ⟨other, -, hother⟩ := List.mem_flatMap.1 hmem
    exact ⟨other, by simpa [retirement] using hother⟩

/-- A schedule that the next change does not take out of its element stays there. -/
theorem Retires.change {change : Change σ} (h : s.Retires n (change :: changes)) :
    s.retired? change = some n ∨ (s.change change).Retires n changes := by
  obtain ⟨front, index, back, element, hsplit, hfront, helement, hschedule⟩ := h
  match front, hsplit, hfront with
  | [], hsplit, _ =>
    obtain ⟨rfl, rfl⟩ := List.cons.inj hsplit
    exact .inl (by rw [retired?, helement]; exact hschedule)
  | first :: front, hsplit, hfront =>
    obtain ⟨rfl, rfl⟩ := List.cons.inj hsplit
    obtain ⟨⟨other, hother⟩, hfront⟩ := List.forall_mem_cons.1 hfront
    have hstays {found : Element} (hfound : (s.change change).elements[index]? = some found)
        (hsame : found.schedule? = some n) :
        (s.change change).Retires n (front ++ .vacate index :: back) :=
      ⟨front, index, back, found, rfl, hfront, hfound, hsame⟩
    obtain ⟨hlt, -⟩ := List.getElem?_eq_some_iff.1 helement
    rcases hother with rfl | rfl
    · right
      simp only [State.change] at hstays ⊢
      rcases supersede_cases s other with hsame | ⟨replaced, hreplaced, hsame⟩
      · exact hstays (by rw [hsame]; exact helement) hschedule
      · by_cases hindex : other = index
        · subst hindex
          obtain rfl : replaced = element := Option.some.inj (hreplaced.symm.trans helement)
          have hset : (s.supersede other).elements[other]? =
              some { replaced with stage := .superseded } := by
            rw [hsame]
            exact List.getElem?_set_self hlt
          exact hstays hset hschedule
        · exact hstays (by rw [hsame]; exact (List.getElem?_set_ne hindex).trans helement) hschedule
    · by_cases hindex : other = index
      · subst hindex
        exact .inl (by rw [retired?, helement]; exact hschedule)
      · right
        simp only [State.change] at hstays ⊢
        rcases vacate_cases s other with hsame | ⟨replaced, schedules, -, -, -, hsame⟩
        · exact hstays (by rw [hsame]; exact helement) hschedule
        · exact hstays (by rw [hsame]; exact (List.getElem?_set_ne hindex).trans helement) hschedule

end State

namespace Shutdown

/-- A shutdown is to wait for a task, or has waited for it. -/
def Minds (s : State σ) (id : TaskId) : Shutdown σ → Prop
  | .retiring changes schedules => s.Retires id.schedule changes ∨ id.schedule ∈ schedules
  | .joining ids => id ∈ ids ∨ s.HasFinished id
  | .returned (.ok ()) => s.HasFinished id
  | .returned (.error _) => True

/-- A step of a shutdown loses no task. -/
theorem Minds.steps (h : point.Minds s id) (found : (s.task? id).isSome = true)
    (steps : Steps wording s point t next) : next.Minds t id := by
  cases steps with
  | retire change changes schedules =>
    rcases h with hretires | hkept
    · rcases hretires.change with hretired | hretires
      · exact .inr (List.mem_append_right _ (by rw [hretired]; exact List.mem_singleton_self _))
      · exact .inl hretires
    · exact .inr (List.mem_append_left _ hkept)
  | gather schedules =>
    rcases h with ⟨front, index, back, element, hsplit, -⟩ | hkept
    · simp at hsplit
    · exact .inl (List.mem_flatMap.2 ⟨id.schedule, hkept, State.mem_taskIds found⟩)
  | @join other task ids hother finished =>
    rcases h with hwaited | hfinished
    · rcases List.mem_cons.1 hwaited with rfl | hmem
      · exact .inr ⟨task, hother, finished⟩
      · exact .inl hmem
    · exact .inr hfinished
  | giveUp ids found broken => trivial
  | leave =>
    rcases h with hwaited | hfinished
    · contradiction
    · exact hfinished

/-- While it is minded, no step of a task or a worker takes a task away. -/
theorem Minds.meanwhile (h : point.Minds s id) (other : label.change? = none) :
    point.Minds (s.step label) id := by
  match point, h with
  | .retiring changes schedules, h =>
    refine h.imp_left fun ⟨front, index, back, element, hsplit, hfront, helement, hschedule⟩ ↦ ?_
    refine ⟨front, index, back, element, hsplit, hfront, ?_, hschedule⟩
    rwa [State.elements_step s other]
  | .joining ids, h => exact h.imp_right (State.HasFinished.step · label)
  | .returned (.ok ()), h => exact State.HasFinished.step h label
  | .returned (.error _), _ => trivial

/-- Whatever else happens, a shutdown minds every task of the texts that are installed when it is
called. -/
theorem Leads.minds (h : Leads wording s s.shutdown during t point) (installed : s.Installs id) :
    point.Minds t id ∧ (t.task? id).isSome = true := by
  obtain ⟨⟨element, helement, hschedule⟩, hfound⟩ := installed
  induction h with
  | start => exact ⟨.inl (State.retires_clear helement hschedule), hfound⟩
  | meanwhile before other ih =>
    exact ⟨ih.1.meanwhile other, State.isSome_task?_step ih.2 _⟩
  | step before taken ih =>
    have hsteps := step?_eq_some_iff.1 taken
    refine ⟨ih.1.steps ih.2 hsteps, ?_⟩
    cases hsteps with
    | retire change changes schedules => exact State.isSome_task?_step ih.2 (.change change)
    | gather schedules => exact ih.2
    | join ids found finished => exact ih.2
    | giveUp ids found broken => exact ih.2
    | leave => exact ih.2

/-! ## The end of the waiting -/

section Safe

variable {registry : Registry σ} {floor : Duration} {world : σ}
  (safe : ∀ label ∈ labels, label.isSafe = true)
  (safeDuring : ∀ label ∈ during, label.isSafe = true)

include safe safeDuring

end Safe

end Shutdown

/-! ## Afterwards -/

/-- Where no text is left, the states of the tasks stay as they are just if every task has ended. A
task that has been told to stop and is not waited for may not have noticed yet. -/
theorem State.states_stay_iff (kept : Kept s) (deserted : s.elements = [])
    (intact : ∀ id task, s.task? id = some task → task.phase ≠ .broken) :
    (∀ later, changesOf later = [] → ∀ id task, s.task? id = some task →
      ∃ after, (s.run later).task? id = some after ∧ after.state = task.state) ↔
        ∀ id, (s.task? id).isSome = true → s.HasFinished id := by
  constructor
  · intro h id hfound
    obtain ⟨task, htask⟩ := Option.isSome_iff_exists.1 hfound
    obtain ⟨after, hafter, hfinished⟩ :=
      exists_finished_of_turn kept deserted htask (intact id task htask)
    obtain ⟨same, hsame, hstate⟩ := h [.finish id .returns, .poll id .returns] rfl id task htask
    obtain rfl : after = same := Option.some.inj (hafter.symm.trans hsame)
    exact ⟨task, htask, hstate ▸ hfinished⟩
  · intro h later _ id task htask
    obtain ⟨found, hfound, hfinished⟩ := h id (by rw [htask]; rfl)
    obtain rfl : found = task := Option.some.inj (hfound.symm.trans htask)
    exact ⟨found, task?_run_of_isFinished hfound hfinished later, rfl⟩

/-- Only the tasks of texts that had been replaced before a shutdown are late. When it has returned, one
of them may still show that it has been cancelled. -/
theorem Shutdown.Leads.late_of_changed (kept : Kept s)
    (h : Leads wording s s.shutdown during t (.returned (.ok ()))) (others : changesOf later = [])
    (htask : t.task? id = some task) :
    ∃ after, (t.run later).task? id = some after ∧
      (after.state ≠ task.state → ¬s.Installs id ∧ after.state = .cancelled) := by
  obtain ⟨ht, hdeserted⟩ := h.elements_eq_nil kept rfl
  obtain ⟨after, hafter, hstate⟩ := State.exists_task_run_of_deserted ht hdeserted others htask
  refine ⟨after, hafter, fun hchanged ↦ ⟨fun installed ↦ hchanged ?_, hstate.resolve_left hchanged⟩⟩
  obtain ⟨found, hfound, hfinished⟩ := (h.minds installed).1
  have hstays := State.task?_run_of_isFinished hfound hfinished later
  obtain rfl : found = task := Option.some.inj (hfound.symm.trans htask)
  obtain rfl : after = found := Option.some.inj (hafter.symm.trans hstays)
  rfl

/-- A shutdown of a list of one text, up to where it waits. -/
theorem Shutdown.leads_joining_of_one (wording : TaskId → String) (hsize : s.size = 1) :
    Leads wording s s.shutdown [] (s.run ((removal 1 0).map .change))
      (.joining (((s.change (.supersede 0)).retired? (.vacate 0)).toList.flatMap
        (s.run ((removal 1 0).map .change)).taskIds)) := by
  have hshutdown : s.shutdown = .retiring [.supersede 0, .vacate 0, .truncate 0] [] := by
    rw [State.shutdown, Operation.changes, hsize]
    rfl
  rw [hshutdown, ← List.append_nil (Option.toList _)]
  exact (((Leads.start.steps (.retire _ _ _)).steps (.retire _ _ _)).steps (.retire _ _ _)).steps
    (.gather _)

/-- A directive calls on a worker, and its text is replaced by one without directives. -/
def replaced : List (Label Unit) :=
  (.append :: installation 0 "{w(), async:true}").map .change ++ [.poll ⟨0, 0⟩ .returns] ++
    (installation 0 "plain").map .change

/-- A shutdown has no task to wait for then. When it has returned, the task of the earlier text has
not noticed yet that it has been told to stop. -/
theorem replaced_shut_down :
    let s := (State.initial .empty ⟨0⟩ ()).run replaced
    let t := s.run ((removal 1 0).map .change)
    Shutdown.Leads (fun _ ↦ "panicked") s s.shutdown [] t (.returned (.ok ())) ∧
      (t.task? ⟨0, 0⟩).map Task.state = some .running ∧
      ((t.run [.poll ⟨0, 0⟩ .returns]).task? ⟨0, 0⟩).map Task.state = some .cancelled := by
  intro s t
  have hids : ((s.change (.supersede 0)).retired? (.vacate 0)).toList.flatMap t.taskIds = [] := by
    decide +kernel
  have hjoining := Shutdown.leads_joining_of_one (s := s) (fun _ ↦ "panicked") (by decide +kernel)
  rw [hids] at hjoining
  exact ⟨hjoining.steps .leave, by decide +kernel, by decide +kernel⟩

end LiveTemplate.Refresh

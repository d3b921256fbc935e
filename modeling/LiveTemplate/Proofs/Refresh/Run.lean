import LiveTemplate.Proofs.Refresh.Frame

/-!
# Runs

What every step preserves holds at the end of every run. For a single task this comes to its course:
what holds of a task to which nothing has happened, is not lost by the passing of time and is
preserved by every move, holds of every task of every run, whatever the other tasks, the workers and
the owner of the list do in between.
-/

namespace LiveTemplate.Refresh

variable {σ : Type} {s : State σ} {id : TaskId}

namespace State

/-! ## Runs and what steps preserve -/

@[simp] theorem run_nil (s : State σ) : s.run [] = s := rfl

@[simp] theorem run_cons (s : State σ) (label : Label σ) (labels : List (Label σ)) :
    s.run (label :: labels) = (s.step label).run labels := rfl

theorem run_append (s : State σ) (before after : List (Label σ)) :
    s.run (before ++ after) = (s.run before).run after := List.foldl_append

/-- An operation without interruption is a run of its changes. -/
theorem run_changes (s : State σ) (operation : Operation σ) :
    s.run ((operation.changes s).map .change) = s.operate operation := by
  rw [run, operate, List.foldl_map]
  rfl

/-- What the allowed steps preserve holds after every run of allowed steps. -/
theorem run_preserves {P : State σ → Prop} {allowed : Label σ → Prop}
    (preserved : ∀ s label, allowed label → P s → P (s.step label)) (start : P s)
    {labels : List (Label σ)} (h : ∀ label ∈ labels, allowed label) : P (s.run labels) := by
  induction labels generalizing s with
  | nil => exact start
  | cons label labels ih =>
    rw [run_cons]
    exact ih (preserved s label (h label (by simp)) start) fun l hl ↦ h l (by simp [hl])

/-! ## Time -/

/-- The changes of the list take no time and leave the floor. -/
theorem now_floor_change (s : State σ) (change : Change σ) :
    (s.change change).now = s.now ∧ (s.change change).floor = s.floor := by
  cases change with
  | append => exact ⟨rfl, rfl⟩
  | exchange registry => exact ⟨rfl, rfl⟩
  | supersede index =>
    simp only [State.change]
    rcases supersede_cases s index with h | ⟨element, -, h⟩ <;> rw [h] <;> exact ⟨rfl, rfl⟩
  | vacate index =>
    simp only [State.change]
    rcases vacate_cases s index with h | ⟨element, schedules, -, -, -, h⟩ <;> rw [h] <;>
      exact ⟨rfl, rfl⟩
  | place index raw =>
    simp only [State.change]
    rcases place_cases s index raw with h | ⟨element, -, -, ⟨-, h⟩ | h⟩ <;> rw [h] <;>
      exact ⟨rfl, rfl⟩
  | truncate size =>
    simp only [State.change]
    rcases truncate_cases s size with h | ⟨-, h⟩ <;> rw [h] <;> exact ⟨rfl, rfl⟩

/-- The floor is chosen once. -/
theorem floor_step (s : State σ) (label : Label σ) : (s.step label).floor = s.floor := by
  cases label with
  | change change => exact (now_floor_change s change).2
  | poll task rendering => exact (still_poll task rendering).floor
  | finish task rendering => exact (still_finish task rendering).floor
  | complete task => exact (still_complete task).floor
  | elapse nanoseconds => rfl
  | disturb change => rfl

theorem floor_run (s : State σ) (labels : List (Label σ)) : (s.run labels).floor = s.floor := by
  induction labels generalizing s with
  | nil => rfl
  | cons label labels ih => rw [run_cons, ih, floor_step]

/-- The clock never goes back. -/
theorem now_le_step (s : State σ) (label : Label σ) : s.now ≤ (s.step label).now := by
  cases label with
  | change change => exact Nat.le_of_eq (now_floor_change s change).1.symm
  | poll task rendering => exact Nat.le_of_eq (still_poll task rendering).now.symm
  | finish task rendering => exact Nat.le_of_eq (still_finish task rendering).now.symm
  | complete task => exact Nat.le_of_eq (still_complete task).now.symm
  | elapse nanoseconds => exact Nat.le_add_right s.now nanoseconds
  | disturb change => exact Nat.le_refl s.now

/-! ## Tasks that do not exist -/

/-- Of tasks that do not exist nothing has been written down, and no worker calls for them. -/
def Tidy (s : State σ) : Prop :=
  ∀ id, s.task? id = none → diary id s.history = [] ∧ s.workers.count id = 0

theorem tidy_step (h : s.Tidy) (label : Label σ) : (s.step label).Tidy := by
  intro id habsent
  cases step_effect s label id with
  | untouched huntouched =>
    rw [huntouched.diary, huntouched.working]
    exact h id (huntouched.task ▸ habsent)
  | moved before after moves =>
    rw [(course?_eq_some.1 after).1] at habsent
    contradiction
  | created absent value task =>
    rw [task] at habsent
    contradiction

theorem tidy_initial (registry : Command.Registry σ) (floor : Duration) (world : σ) :
    (initial registry floor world).Tidy := fun _ _ ↦ ⟨rfl, rfl⟩

end State

/-! ## Invariants of courses -/

/-- A property of a course at a time that every allowed step preserves. -/
structure Course.Invariant (allowed : Label σ → Prop) (P : Nat → Course σ → Prop) : Prop where
  fresh : ∀ now value, P now (.fresh value)
  later : ∀ {now later c}, now ≤ later → P now c → P later c
  moves : ∀ {s label id c d}, allowed label → P s.now c → c.Moves s label id d → P s.now d

namespace State

/-- All courses have a property. -/
def Courses (P : Nat → Course σ → Prop) (s : State σ) : Prop :=
  ∀ id c, s.course? id = some c → P s.now c

theorem courses_step {P : Nat → Course σ → Prop} {allowed : Label σ → Prop}
    (inv : Course.Invariant allowed P) (tidy : s.Tidy) (h : s.Courses P) {label : Label σ}
    (hlabel : allowed label) : (s.step label).Courses P := by
  intro id c hc
  apply inv.later (now_le_step s label)
  cases step_effect s label id with
  | untouched huntouched => exact h id c (huntouched.course? ▸ hc)
  | moved before after moves =>
    rw [hc] at after
    obtain rfl := Option.some.inj after
    exact inv.moves hlabel (h id _ before) moves
  | created absent value task diary working =>
    obtain ⟨hdiary, hworking⟩ := tidy id absent
    have hfresh : (s.step label).course? id = some (.fresh value) :=
      course?_eq_some.2 ⟨task, diary.trans hdiary, working.trans hworking⟩
    rw [hc] at hfresh
    obtain rfl := Option.some.inj hfresh
    exact inv.fresh s.now value

/-- An invariant of courses holds of every task in every run of allowed steps. -/
theorem courses_run {P : Nat → Course σ → Prop} {allowed : Label σ → Prop}
    (inv : Course.Invariant allowed P) (registry : Command.Registry σ) (floor : Duration)
    (world : σ) {labels : List (Label σ)} (h : ∀ label ∈ labels, allowed label) :
    ((initial registry floor world).run labels).Courses P := by
  have hboth := run_preserves (P := fun s ↦ s.Tidy ∧ s.Courses P)
    (fun s label hlabel hs ↦ ⟨tidy_step hs.1 label, courses_step inv hs.1 hs.2 hlabel⟩)
    ⟨tidy_initial registry floor world, fun id c hc ↦ by simp [course?, task?, initial] at hc⟩ h
  exact hboth.2

/-- What every step preserves holds of the course of every task. -/
theorem course_of_task {P : Nat → Course σ → Prop} (inv : Course.Invariant (fun _ ↦ True) P)
    (registry : Command.Registry σ) (floor : Duration) (world : σ) (labels : List (Label σ))
    {task : Task σ} (htask : ((initial registry floor world).run labels).task? id = some task) :
    let s := (initial registry floor world).run labels
    P s.now ⟨task, diary id s.history, s.workers.count id⟩ :=
  courses_run inv registry floor world (fun _ _ ↦ trivial) id _
    (course?_eq_some.2 ⟨htask, rfl, rfl⟩)

end State

end LiveTemplate.Refresh

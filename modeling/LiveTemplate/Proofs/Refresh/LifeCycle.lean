import Mathlib.Data.List.Chain
import LiveTemplate.Proofs.Refresh.Account
import LiveTemplate.Proofs.Refresh.Tenancy

/-!
# The life of a task

A task begins idle, runs and waits in turns, and ends terminated or cancelled; the states that it
shows follow this life cycle without exception. How many ticks it has made and whether it has an
interval can be told from its state. It is cancelled only when its schedule counts no more, and
once it has ended nothing that happens afterwards changes it.
-/

namespace LiveTemplate.Refresh

open Command (Registry)

variable {σ : Type} {s t : State σ} {id : TaskId} {task : Task σ} {label : Label σ}

/-! ## Paths of states -/

namespace TaskState

/-- The steps of the life cycle. -/
def precedes : TaskState → TaskState → Bool
  | .idle, .running => true
  | .running, .waiting => true
  | .running, .terminated => true
  | .running, .cancelled => true
  | .waiting, .running => true
  | .waiting, .cancelled => true
  | _, _ => false

/-- States that a task may show one after the other before it shows the last of them. -/
structure Path (states : List TaskState) (last : TaskState) : Prop where
  chain : (.idle :: states).IsChain fun a b ↦ a.precedes b = true
  latest : (.idle :: states).getLast? = some last

theorem Path.nil : Path [] .idle := ⟨List.isChain_singleton _, rfl⟩

theorem Path.concat {states : List TaskState} {a b : TaskState} (h : Path states a)
    (hnext : a.precedes b = true) : Path (states ++ [b]) b := by
  constructor
  case chain =>
    rw [← List.cons_append, List.isChain_append]
    refine ⟨h.chain, List.isChain_singleton b, fun x hx y hy ↦ ?_⟩
    rw [h.latest] at hx
    obtain rfl : a = x := by simpa using hx
    obtain rfl : b = y := by simpa using hy
    exact hnext
  case latest => rw [← List.cons_append, List.getLast?_concat]

end TaskState

/-! ## Orderly courses -/

/-- What a phase says about the number of ticks and the interval of a task. -/
def Phase.Stands (ticks : Nat) (interval : Option Duration) : Phase → Prop
  | .idle => ticks = 0
  | .calling _ | .awaiting _ _ | .cancelled => interval = none → ticks = 0
  | .yielded | .asleep _ => interval.isSome = true ∧ 1 ≤ ticks
  | .terminated => interval = none ∧ ticks = 1
  | .broken => False

namespace Course

/-- A course that follows the life cycle. -/
structure Orderly (c : Course σ) : Prop where
  stands : c.task.phase.Stands c.task.ticks c.task.value.interval
  path : TaskState.Path (c.reads Entry.state?) c.task.state

/-- A task that is about to run has waited, or has not begun. -/
theorem precedes_running {now : Nat} {phase : Phase} (h : phase.isReady now = true) :
    phase.state.precedes .running = true := by
  cases phase <;> first | rfl | simp [Phase.isReady] at h

theorem precedes_cancelled {phase : Phase} (h : phase.isSuspended = true) :
    phase.state.precedes .cancelled = true := by
  cases phase <;> first | rfl | simp [Phase.isSuspended] at h

/-- A task that goes on without an interval has made no tick yet. -/
theorem Orderly.ticks_eq_zero {c : Course σ} {next : TaskState} (h : c.Orderly)
    (hnext : c.task.state.precedes next = true) (hinterval : c.task.value.interval = none) :
    c.task.ticks = 0 := by
  have hstands := h.stands
  rw [hinterval] at hstands
  rw [Task.state] at hnext
  cases hphase : c.task.phase <;> rw [hphase] at hstands hnext
  case idle => exact hstands
  case calling start => exact hstands rfl
  case awaiting start fragment? => exact hstands rfl
  case cancelled => exact hstands rfl
  case yielded => exact absurd hstands.1 (by simp)
  case asleep wake => exact absurd hstands.1 (by simp)
  case terminated => simp [Phase.state, TaskState.precedes] at hnext
  case broken => exact hstands.elim

/-- A task that has got the fragment of a tick is running, and has shown nothing new. -/
theorem Yields.running {c d : Course σ} {start : Nat} {fragment : String}
    (yields : c.Yields s id start fragment d) :
    c.task.state = .running ∧ d.task = c.task ∧
      d.reads Entry.state? = c.reads Entry.state? := by
  cases yields with
  | awaited phase running => exact ⟨by rw [Task.state, phase]; rfl, rfl, rfl⟩
  | called phase outcome => exact ⟨by rw [Task.state, phase]; rfl, rfl, by simp⟩

theorem Orderly.deliver {c d : Course σ} {start : Nat} {fragment : String} (h : c.Orderly)
    (yields : c.Yields s id start fragment d) (now index : Nat) (text : String) :
    (d.deliver id now start fragment index text .returns).Orderly := by
  obtain ⟨hrunning, htask, hstates⟩ := yields.running
  have hpath := h.path
  rw [hrunning] at hpath
  have hafter : (d.deliver id now start fragment index text .returns).task =
      { d.task with
        fragment := fragment
        ticks := d.task.ticks + 1
        phase := d.task.value.phaseAfter start now } := rfl
  have hshown : (d.deliver id now start fragment index text .returns).reads Entry.state? =
      c.reads Entry.state? ++ [(d.task.value.phaseAfter start now).state] := by
    simp [Course.deliver, hstates]
  constructor
  case stands =>
    rw [hafter]
    rcases d.task.value.phaseAfter_cases start now with
      ⟨hinterval, hphase⟩ | ⟨interval, hinterval, ⟨-, hphase⟩ | ⟨-, hphase⟩⟩
    · have hnext : c.task.state.precedes .terminated = true := by rw [hrunning]; rfl
      have hticks : d.task.ticks = 0 := by
        rw [htask] at hinterval ⊢
        exact h.ticks_eq_zero hnext hinterval
      rw [hphase]
      exact ⟨hinterval, congrArg (· + 1) hticks⟩
    · rw [hphase]
      exact ⟨hinterval ▸ rfl, Nat.le_add_left 1 _⟩
    · rw [hphase]
      exact ⟨hinterval ▸ rfl, Nat.le_add_left 1 _⟩
  case path =>
    rw [hshown, Task.state, hafter]
    apply hpath.concat
    rcases d.task.value.phaseAfter_cases start now with
      ⟨-, hphase⟩ | ⟨interval, -, ⟨-, hphase⟩ | ⟨-, hphase⟩⟩ <;>
      · rw [hphase]
        rfl

theorem Orderly.complete {c : Course σ} (h : c.Orderly) (id : TaskId) (now : Nat)
    (fragment : String) : (c.complete id now fragment).Orderly := by
  obtain ⟨hstands, hpath⟩ := h
  have hafter : (c.complete id now fragment).task = c.task.receive fragment := rfl
  have hshown : (c.complete id now fragment).reads Entry.state? = c.reads Entry.state? := by
    simp [Course.complete]
  rcases Task.receive_cases fragment c.task with hreceive | ⟨start, hphase, hreceive⟩
  · constructor
    case stands => rw [hafter, hreceive]; exact hstands
    case path => rw [hafter, hreceive, hshown]; exact hpath
  · rw [Task.state, hphase] at hpath
    rw [hphase] at hstands
    constructor
    case stands => rw [hafter, hreceive]; exact hstands
    case path => rw [hafter, hreceive, hshown]; exact hpath

/-- The courses of all tasks follow the life cycle while the renderer returns. -/
theorem orderly_invariant :
    Invariant (σ := σ) (fun label ↦ label.isSafe = true) fun _ c ↦ c.Orderly where
  fresh _ value := ⟨rfl, .nil⟩
  later _ h := h
  moves {s label id c d} safe h moves := by
    cases moves with
    | refuse phase stopped =>
      have hpath := h.path
      have hstands := h.stands
      rw [Task.state, phase] at hpath
      rw [phase] at hstands
      constructor
      case stands => exact fun _ ↦ hstands
      case path =>
        simpa [Course.refuse, Task.state, Phase.state] using
          (hpath.concat (b := .running) rfl).concat (b := .cancelled) rfl
    | call ready running mode =>
      have hnext := precedes_running ready
      constructor
      case stands => exact h.ticks_eq_zero hnext
      case path => simpa [Course.call, Task.state, Phase.state] using h.path.concat hnext
    | dispatch ready running mode =>
      have hnext := precedes_running ready
      constructor
      case stands => exact h.ticks_eq_zero hnext
      case path => simpa [Course.dispatch, Task.state, Phase.state] using h.path.concat hnext
    | stop suspended stopped =>
      have hnext := precedes_cancelled suspended
      constructor
      case stands => exact h.ticks_eq_zero hnext
      case path => simpa [Task.state, Phase.state] using h.path.concat hnext
    | deliver yields current index text rendering returns =>
      rw [returns safe]
      exact h.deliver yields s.now index text
    | discard yields stale =>
      obtain ⟨hrunning, htask, hstates⟩ := yields.running
      have hnext : c.task.state.precedes .cancelled = true := by rw [hrunning]; rfl
      constructor
      case stands =>
        intro hinterval
        rw [task_enter, htask] at hinterval ⊢
        exact h.ticks_eq_zero hnext hinterval
      case path => simpa [Task.state, Phase.state, hstates] using h.path.concat hnext
    | complete working outcome => exact h.complete id s.now _

end Course

/-! ## Why a task is cancelled -/

namespace State

/-- The schedule of a task has been told to stop, or is not the installed one any more. -/
def IsOver (s : State σ) (id : TaskId) : Prop := s.isCancelled id = true ∨ s.isCurrent id = false

/-- A schedule that counts no more never counts again. -/
theorem isOver_step (tenancy : Tenancy s) (htask : s.task? id = some task) (h : s.IsOver id)
    (label : Label σ) : (s.step label).IsOver id := by
  obtain ⟨schedule, hschedule, -⟩ := Option.bind_eq_some_iff.1 htask
  obtain ⟨after, hafter, hbecomes⟩ := exists_step label hschedule
  rcases h with hcancelled | hcurrent
  · left
    have hbefore : schedule.cancelled = true := by simpa [isCancelled, hschedule] using hcancelled
    simpa [isCancelled, hafter] using hbecomes.cancelled hbefore
  · right
    obtain ⟨count, hcount, hle⟩ := (tenancy.tenants id.schedule schedule hschedule).counted
    obtain ⟨later, hlater, hle'⟩ := le_count_step label hcount
    have hne : count ≠ schedule.generation := by
      simpa [isCurrent, hschedule, isInstalled, hcount] using hcurrent
    have hlt : schedule.generation < later := by omega
    simpa [isCurrent, hafter, isInstalled, hbecomes.cell, hbecomes.generation, hlater] using
      Nat.ne_of_gt hlt

/-- Every cancelled task has a reason. -/
def Stopped (s : State σ) : Prop :=
  ∀ id task, s.task? id = some task → task.phase = .cancelled → s.IsOver id

/-- A move that leaves a task cancelled has found it cancelled or has had a reason. -/
theorem isOver_of_moves {c d : Course σ} (moves : c.Moves s label id d)
    (hphase : d.task.phase = .cancelled) : c.task.phase = .cancelled ∨ s.IsOver id := by
  cases moves with
  | refuse phase stopped => exact .inr (.inl stopped)
  | call ready running mode => simp [Course.call] at hphase
  | dispatch ready running mode => simp [Course.dispatch] at hphase
  | stop suspended stopped => exact .inr (.inl stopped)
  | deliver yields current index text rendering safe =>
    cases rendering with
    | returns =>
      rename_i d start fragment
      have hafter : d.task.value.phaseAfter start s.now = .cancelled := hphase
      rcases d.task.value.phaseAfter_cases start s.now with
        ⟨-, h⟩ | ⟨interval, -, ⟨-, h⟩ | ⟨-, h⟩⟩ <;>
        · rw [hafter] at h
          contradiction
    | panics => simp [Course.deliver] at hphase
  | discard yields stale => exact .inr (.inr stale)
  | @complete fragment working outcome =>
    left
    have hafter : (c.task.receive fragment).phase = .cancelled := hphase
    rcases Task.receive_cases fragment c.task with h | ⟨start, -, h⟩
    · rw [h] at hafter
      exact hafter
    · rw [h] at hafter
      contradiction

theorem stopped_step (tenancy : Tenancy s) (h : s.Stopped) (label : Label σ) :
    (s.step label).Stopped := by
  intro id task htask hphase
  cases step_effect s label id with
  | untouched huntouched =>
    have hbefore : s.task? id = some task := huntouched.task.symm.trans htask
    exact isOver_step tenancy hbefore (h id task hbefore hphase) label
  | @moved c d before after moves =>
    have hbefore : s.task? id = some c.task := (course?_eq_some.1 before).1
    obtain rfl : d.task = task := Option.some.inj ((course?_eq_some.1 after).1.symm.trans htask)
    refine isOver_step tenancy hbefore ?_ label
    rcases isOver_of_moves moves hphase with hcancelled | hover
    · exact h id c.task hbefore hcancelled
    · exact hover
  | created absent value fresh =>
    obtain rfl := Option.some.inj (fresh.symm.trans htask)
    contradiction

theorem stopped_run (registry : Registry σ) (floor : Duration) (world : σ)
    (labels : List (Label σ)) : ((initial registry floor world).run labels).Stopped := by
  have hstep (s : State σ) (label : Label σ) (_ : True) (h : Tenancy s ∧ s.Stopped) :
      Tenancy (s.step label) ∧ (s.step label).Stopped :=
    ⟨h.1.step label, stopped_step h.1 h.2 label⟩
  have hstart : Tenancy (initial registry floor world) ∧ (initial registry floor world).Stopped :=
    ⟨.initial registry floor world, fun id task htask ↦ by simp [task?, initial] at htask⟩
  exact (run_preserves hstep hstart fun _ _ ↦ trivial).2

/-! ## Tasks that have ended -/

theorem task_of_moves {c d : Course σ} (moves : c.Moves s label id d)
    (h : c.task.state.isFinished = true) : d.task = c.task := by
  have hready (ready : c.task.phase.isReady s.now = true) : d.task = c.task := by
    have hnext := Course.precedes_running ready
    rw [Task.state] at h
    cases hphase : c.task.phase <;> rw [hphase] at h hnext <;> contradiction
  have hyields {e : Course σ} {start : Nat} {fragment : String}
      (yields : c.Yields s id start fragment e) : d.task = c.task := by
    rw [yields.running.1] at h
    contradiction
  cases moves with
  | refuse phase stopped =>
    rw [Task.state, phase] at h
    contradiction
  | call ready running mode => exact hready ready
  | dispatch ready running mode => exact hready ready
  | stop suspended stopped =>
    have hnext := Course.precedes_cancelled suspended
    rw [Task.state] at h
    cases hphase : c.task.phase <;> rw [hphase] at h hnext <;> contradiction
  | deliver yields current index text rendering safe => exact hyields yields
  | discard yields stale => exact hyields yields
  | @complete fragment working outcome =>
    rcases Task.receive_cases fragment c.task with hreceive | ⟨start, hphase, -⟩
    · exact hreceive
    · rw [Task.state, hphase] at h
      contradiction

theorem task?_step_of_isFinished (htask : s.task? id = some task)
    (h : task.state.isFinished = true) (label : Label σ) : (s.step label).task? id = some task := by
  cases step_effect s label id with
  | untouched huntouched => exact huntouched.task.trans htask
  | @moved c d before after moves =>
    obtain rfl : c.task = task := Option.some.inj ((course?_eq_some.1 before).1.symm.trans htask)
    rw [(course?_eq_some.1 after).1, task_of_moves moves h]
  | created absent value fresh =>
    rw [absent] at htask
    contradiction

/-- A task that has ended stays as it is, whatever happens. -/
theorem task?_run_of_isFinished (htask : s.task? id = some task)
    (h : task.state.isFinished = true) (labels : List (Label σ)) :
    (s.run labels).task? id = some task := by
  induction labels generalizing s with
  | nil => exact htask
  | cons label labels ih => exact ih (task?_step_of_isFinished htask h label)

end State

/-! ## The life cycle -/

theorem Phase.Stands.of_waiting {phase : Phase} {ticks : Nat} {interval : Option Duration}
    (h : phase.Stands ticks interval) (hstate : phase.state = .waiting) :
    interval.isSome = true ∧ 1 ≤ ticks := by
  cases phase <;> first | exact h | contradiction

theorem Phase.Stands.of_terminated {phase : Phase} {ticks : Nat} {interval : Option Duration}
    (h : phase.Stands ticks interval) (hstate : phase.state = .terminated) :
    interval = none ∧ ticks = 1 := by
  cases phase <;> first | exact h | contradiction

/-- Without an interval there is one tick, and it is the end. -/
theorem Phase.Stands.of_none {phase : Phase} {ticks : Nat} (h : phase.Stands ticks none) :
    ticks = 0 ∨ ticks = 1 ∧ phase.state = .terminated := by
  cases phase with
  | idle => exact .inl h
  | calling start => exact .inl (h rfl)
  | awaiting start fragment? => exact .inl (h rfl)
  | cancelled => exact .inl (h rfl)
  | yielded => exact absurd h.1 (by simp)
  | asleep wake => exact absurd h.1 (by simp)
  | terminated => exact .inr ⟨h.2, rfl⟩
  | broken => exact h.elim

/-- Every task that has ever been started follows the life cycle as long as the renderer does not
panic, whatever the tasks, the workers, the clock and the owner of the list do in between. Once it
has ended, nothing changes it any more. -/
theorem task_life_cycle (registry : Registry σ) (floor : Duration) (world : σ)
    (labels : List (Label σ)) (safe : ∀ label ∈ labels, label.isSafe = true) :
    let s := (State.initial registry floor world).run labels
    ∀ id task, s.task? id = some task →
      (task.state = .idle → task.ticks = 0 ∧ task.fragment = "") ∧
      (task.state = .waiting → task.value.interval.isSome = true ∧ 1 ≤ task.ticks) ∧
      (task.state = .terminated → task.value.interval = none ∧ task.ticks = 1) ∧
      (task.value.interval = none → task.ticks ≤ 1 ∧ (task.ticks = 1 →
        task.state = .terminated ∧ ∀ more, (s.run more).task? id = some task)) ∧
      (task.state = .cancelled → s.isCancelled id = true ∨ s.isCurrent id = false) ∧
      (task.state = .terminated ∨ task.state = .cancelled →
        ∀ more, (s.run more).task? id = some task) ∧
      TaskState.Path (states id s.history) task.state := by
  intro s id task htask
  have hcourse : s.course? id = some ⟨task, diary id s.history, s.workers.count id⟩ :=
    State.course?_eq_some.2 ⟨htask, rfl, rfl⟩
  obtain ⟨hstands, hpath⟩ : Course.Orderly ⟨task, diary id s.history, s.workers.count id⟩ :=
    State.courses_run Course.orderly_invariant registry floor world safe id _ hcourse
  have haccount : Course.Account ⟨task, diary id s.history, s.workers.count id⟩ :=
    State.courses_run Course.account_invariant registry floor world (fun _ _ ↦ trivial) id _ hcourse
  have hstay (h : task.state = .terminated ∨ task.state = .cancelled) (more : List (Label σ)) :
      (s.run more).task? id = some task := by
    refine State.task?_run_of_isFinished htask ?_ more
    rcases h with h | h <;>
      · rw [h]
        rfl
  refine ⟨?idle, hstands.of_waiting, hstands.of_terminated, ?once, ?cancelled, hstay, hpath⟩
  case idle =>
    intro hstate
    have hticks : task.ticks = 0 := by
      rw [Task.state] at hstate
      cases hphase : task.phase <;> rw [hphase] at hstate hstands <;> first
        | exact hstands
        | contradiction
    have hfragment : task.fragment = nthText (outcomes id s.history) task.ticks :=
      haccount.fragment
    rw [hticks] at hfragment
    exact ⟨hticks, hfragment⟩
  case once =>
    intro hinterval
    have hnone : task.phase.Stands task.ticks none := hinterval ▸ hstands
    rcases hnone.of_none with hticks | ⟨hticks, hterminated⟩
    · exact ⟨by omega, fun hone ↦ by omega⟩
    · exact ⟨by omega, fun _ ↦ ⟨hterminated, hstay (.inl hterminated)⟩⟩
  case cancelled =>
    intro hstate
    apply State.stopped_run registry floor world labels id task htask
    rw [Task.state] at hstate
    cases hphase : task.phase <;> rw [hphase] at hstate <;> first | rfl | contradiction

/-- A text with a directive that runs once, which is replaced after its tick. -/
def oneShot : List (Label Unit) :=
  ((.append :: installation 0 "{w()}" : List (Change Unit)).map .change) ++
    [.poll ⟨0, 0⟩ .returns, .finish ⟨0, 0⟩ .returns]

/-- A directive that has run once stays terminated, also when its text is replaced. -/
theorem oneShot_terminated_for_ever :
    let s := (State.initial .empty ⟨0⟩ ()).run oneShot
    ∃ task, s.task? ⟨0, 0⟩ = some task ∧ task.value.interval = none ∧ task.ticks = 1 ∧
      TaskState.Path [.running, .terminated] .terminated ∧
      (s.run ((installation 0 "other").map .change)).task? ⟨0, 0⟩ = some task := by
  intro s
  have hsome : (s.task? ⟨0, 0⟩).isSome = true := by decide +kernel
  have hstates : states ⟨0, 0⟩ s.history = [.running, .terminated] := by decide +kernel
  have hmap : (s.task? ⟨0, 0⟩).map Task.state = some .terminated := by decide +kernel
  obtain ⟨task, htask⟩ := Option.isSome_iff_exists.1 hsome
  have hstate : task.state = .terminated := by simpa [htask] using hmap
  obtain ⟨-, -, hterminated, -, -, hstay, hpath⟩ :=
    task_life_cycle .empty ⟨0⟩ () oneShot (by decide) ⟨0, 0⟩ task htask
  obtain ⟨hinterval, hticks⟩ := hterminated hstate
  rw [hstates, hstate] at hpath
  exact ⟨task, htask, hinterval, hticks, hpath, hstay (.inl hstate) _⟩

end LiveTemplate.Refresh

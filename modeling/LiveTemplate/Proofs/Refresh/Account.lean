import LiveTemplate.Proofs.Refresh.Run

/-!
# The accounts of a task

A task has at most one call on its way. Every call that returns is published, is about to be, or
never will be because the task has been cancelled. So the numbers of calls that a task has begun, of
those that have returned and of those that have been published differ by one at most, and the
fragment of the task is what the latest published call has returned.
-/

namespace LiveTemplate.Refresh

variable {σ : Type} {s : State σ} {id : TaskId} {now start : Nat} {fragment : String}

/-- How many calls a task in a phase makes itself. -/
def Phase.inline : Phase → Nat
  | .calling _ => 1
  | _ => 0

/-- How the outcomes that a task in a phase has got compare to those that it has published, and how
many of its calls are still on workers. -/
def Phase.Balanced (outcomes : List String) (ticks working : Nat) : Phase → Prop
  | .idle => outcomes.length = 0 ∧ working = 0
  | .awaiting _ none => outcomes.length = ticks ∧ working = 1
  | .awaiting _ (some fragment) =>
    outcomes.length = ticks + 1 ∧ working = 0 ∧ outcomes[ticks]? = some fragment
  | .cancelled => outcomes.length + working ≤ ticks + 1
  | _ => outcomes.length = ticks ∧ working = 0

namespace Course

/-- The calls, the publications and the fragment of a task fit together. -/
structure Account (c : Course σ) : Prop where
  published : (c.reads Entry.publication?).length = c.task.ticks
  returned : c.task.ticks ≤ (c.reads Entry.outcome?).length
  fragment : c.task.fragment = nthText (c.reads Entry.outcome?) c.task.ticks
  begun : (c.reads Entry.call?).length =
    (c.reads Entry.outcome?).length + c.working + c.task.phase.inline
  balanced : c.task.phase.Balanced (c.reads Entry.outcome?) c.task.ticks c.working

theorem account_fresh (value : Value σ) : (fresh value).Account := by
  constructor <;> simp [fresh, reads, nthText, Phase.inline, Phase.Balanced]

/-- A task that is about to begin a tick has published all that has been called for it. -/
theorem Account.of_isReady {c : Course σ} (h : c.Account)
    (ready : c.task.phase.isReady now = true) :
    (c.reads Entry.outcome?).length = c.task.ticks ∧ c.working = 0 ∧ c.task.phase.inline = 0 := by
  obtain ⟨-, hreturned, -, -, hbalanced⟩ := h
  cases hphase : c.task.phase <;> rw [hphase] at ready hbalanced <;>
    simp only [Phase.isReady, Bool.false_eq_true, Phase.Balanced] at ready hbalanced <;>
    exact ⟨by omega, hbalanced.2, rfl⟩

/-- A task that is left by a poll has one call more than it has published, at most. -/
theorem Account.of_isSuspended {c : Course σ} (h : c.Account)
    (suspended : c.task.phase.isSuspended = true) :
    (c.reads Entry.outcome?).length + c.working ≤ c.task.ticks + 1 ∧ c.task.phase.inline = 0 := by
  have hbalanced := h.balanced
  cases hphase : c.task.phase <;> rw [hphase] at suspended hbalanced <;>
    simp only [Phase.isSuspended, Bool.false_eq_true] at suspended
  case awaiting start fragment? =>
    cases fragment? <;> simp only [Phase.Balanced] at hbalanced <;> exact ⟨by omega, rfl⟩
  case yielded => exact ⟨by simp only [Phase.Balanced] at hbalanced; omega, rfl⟩
  case asleep wake => exact ⟨by simp only [Phase.Balanced] at hbalanced; omega, rfl⟩

/-- The task has the fragment of its latest call in hand. -/
structure Holds (c : Course σ) (fragment : String) : Prop where
  published : (c.reads Entry.publication?).length = c.task.ticks
  returned : (c.reads Entry.outcome?).length = c.task.ticks + 1
  outcome : (c.reads Entry.outcome?)[c.task.ticks]? = some fragment
  fragment : c.task.fragment = nthText (c.reads Entry.outcome?) c.task.ticks
  begun : (c.reads Entry.call?).length = (c.reads Entry.outcome?).length
  working : c.working = 0

theorem Account.holds {c d : Course σ} (h : c.Account) (yields : c.Yields s id start fragment d) :
    d.Holds fragment := by
  obtain ⟨hpublished, hreturned, hfragment, hbegun, hbalanced⟩ := h
  cases yields with
  | awaited phase running =>
    rw [phase] at hbalanced hbegun
    obtain ⟨hlength, hworking, houtcome⟩ := hbalanced
    have hcalls : (c.reads Entry.call?).length = (c.reads Entry.outcome?).length := by
      simpa [Phase.inline, hworking] using hbegun
    exact ⟨hpublished, hlength, houtcome, hfragment, hcalls, hworking⟩
  | called phase outcome =>
    rw [phase] at hbalanced hbegun
    obtain ⟨hlength, hworking⟩ := hbalanced
    constructor
    case published => simpa using hpublished
    case returned => simpa using hlength
    case outcome => simp [← hlength]
    case fragment => simpa [nthText_append hreturned] using hfragment
    case begun => simpa [Phase.inline, hworking] using hbegun
    case working => exact hworking

theorem Holds.discard {c : Course σ} (h : c.Holds fragment) (id : TaskId) (now : Nat) :
    (c.enter id now .cancelled).Account := by
  obtain ⟨hpublished, hreturned, -, hfragment, hbegun, hworking⟩ := h
  constructor
  case published => simpa using hpublished
  case returned => simp [hreturned]
  case fragment => simpa using hfragment
  case begun => simpa [Phase.inline, hworking] using hbegun
  case balanced => simp [Phase.Balanced, hreturned, hworking]

theorem Holds.deliver {c : Course σ} (h : c.Holds fragment) (id : TaskId) (now start index : Nat)
    (text : String) (rendering : Rendering) :
    (c.deliver id now start fragment index text rendering).Account := by
  obtain ⟨hpublished, hreturned, houtcome, -, hbegun, hworking⟩ := h
  cases rendering with
  | returns =>
    have hphase := c.task.value.phaseAfter_cases start now
    constructor
    case published => simp [Course.deliver, Task.publish, hpublished]
    case returned => simp [Course.deliver, Task.publish, hreturned]
    case fragment => simp [Course.deliver, Task.publish, nthText, houtcome]
    case begun =>
      rcases hphase with ⟨-, hphase⟩ | ⟨interval, -, ⟨-, hphase⟩ | ⟨-, hphase⟩⟩ <;>
        simp [Course.deliver, Task.publish, Phase.inline, hphase, hbegun, hworking]
    case balanced =>
      rcases hphase with ⟨-, hphase⟩ | ⟨interval, -, ⟨-, hphase⟩ | ⟨-, hphase⟩⟩ <;>
        simp [Course.deliver, Task.publish, Phase.Balanced, hphase, hreturned, hworking]
  | panics =>
    constructor
    case published => simp [Course.deliver, Task.publish, hpublished]
    case returned => simp [Course.deliver, Task.publish, hreturned]
    case fragment => simp [Course.deliver, Task.publish, nthText, houtcome]
    case begun => simp [Course.deliver, Task.publish, Phase.inline, hbegun, hworking]
    case balanced => simp [Course.deliver, Task.publish, Phase.Balanced, hreturned, hworking]

/-- A call is on a worker while its task waits for it, or after its task has been cancelled. -/
theorem Account.of_working {c : Course σ} (h : c.Account) (working : 0 < c.working) :
    (∃ start, c.task.phase = .awaiting start none) ∨ c.task.phase = .cancelled := by
  have hbalanced := h.balanced
  cases hphase : c.task.phase <;> rw [hphase] at hbalanced <;>
    simp only [Phase.Balanced] at hbalanced
  case awaiting start fragment? =>
    cases fragment? with
    | none => exact .inl ⟨start, rfl⟩
    | some fragment => exact absurd hbalanced.2.1 (Nat.ne_of_gt working)
  case cancelled => exact .inr rfl
  all_goals exact absurd hbalanced.2 (Nat.ne_of_gt working)

theorem Account.complete {c : Course σ} (h : c.Account) (working : 0 < c.working) (id : TaskId)
    (now : Nat) (fragment : String) : (c.complete id now fragment).Account := by
  have hphase := h.of_working working
  obtain ⟨hpublished, hreturned, hfragment, hbegun, hbalanced⟩ := h
  rcases hphase with ⟨start, hphase⟩ | hphase
  · rw [hphase] at hbegun hbalanced
    obtain ⟨hlength, hworking⟩ := hbalanced
    have hreceive := Task.receive_awaiting hphase fragment
    constructor
    case published => simpa [Course.complete, hreceive] using hpublished
    case returned => simp [Course.complete, hreceive, hlength]
    case fragment => simpa [Course.complete, hreceive, nthText_append hreturned] using hfragment
    case begun => simp [Course.complete, hreceive, Phase.inline, hbegun, hworking]
    case balanced => simp [Course.complete, hreceive, Phase.Balanced, ← hlength, hworking]
  · rw [hphase] at hbegun hbalanced
    have hreceive := Task.receive_cancelled hphase fragment
    simp only [Phase.inline, Phase.Balanced] at hbegun hbalanced
    constructor
    case published => simpa [Course.complete, hreceive] using hpublished
    case returned =>
      simp only [Course.complete, reads_alter, reads_note, reads_employ, task_alter, task_note,
        task_employ, hreceive, List.length_append]
      omega
    case fragment => simpa [Course.complete, hreceive, nthText_append hreturned] using hfragment
    case begun =>
      simp [Course.complete, hreceive, hphase, Phase.inline, hbegun]
      omega
    case balanced =>
      simp [Course.complete, hreceive, hphase, Phase.Balanced]
      omega

theorem Account.refuse {c : Course σ} (h : c.Account) (phase : c.task.phase = .idle)
    (id : TaskId) (now : Nat) : (c.refuse id now).Account := by
  obtain ⟨hpublished, hreturned, hfragment, hbegun, hbalanced⟩ := h
  rw [phase] at hbalanced hbegun
  obtain ⟨hlength, hworking⟩ := hbalanced
  constructor
  case published => simpa [Course.refuse] using hpublished
  case returned => simpa [Course.refuse] using hreturned
  case fragment => simpa [Course.refuse] using hfragment
  case begun => simpa [Course.refuse, Phase.inline] using hbegun
  case balanced => simp [Course.refuse, Phase.Balanced, hlength, hworking]

theorem Account.call {c : Course σ} (h : c.Account) (ready : c.task.phase.isReady now = true)
    (id : TaskId) : (c.call id now).Account := by
  obtain ⟨hlength, hworking, hinline⟩ := h.of_isReady ready
  obtain ⟨hpublished, hreturned, hfragment, hbegun, -⟩ := h
  rw [hinline] at hbegun
  constructor
  case published => simpa [Course.call] using hpublished
  case returned => simpa [Course.call] using hreturned
  case fragment => simpa [Course.call] using hfragment
  case begun => simp [Course.call, Phase.inline, hbegun]
  case balanced => simp [Course.call, Phase.Balanced, hlength, hworking]

theorem Account.dispatch {c : Course σ} (h : c.Account)
    (ready : c.task.phase.isReady now = true) (id : TaskId) : (c.dispatch id now).Account := by
  obtain ⟨hlength, hworking, hinline⟩ := h.of_isReady ready
  obtain ⟨hpublished, hreturned, hfragment, hbegun, -⟩ := h
  rw [hinline] at hbegun
  constructor
  case published => simpa [Course.dispatch] using hpublished
  case returned => simpa [Course.dispatch] using hreturned
  case fragment => simpa [Course.dispatch] using hfragment
  case begun => simp [Course.dispatch, Phase.inline, hbegun, Nat.add_assoc]
  case balanced => simp [Course.dispatch, Phase.Balanced, hlength, hworking]

theorem Account.stop {c : Course σ} (h : c.Account)
    (suspended : c.task.phase.isSuspended = true) (id : TaskId) (now : Nat) :
    (c.enter id now .cancelled).Account := by
  obtain ⟨hlength, hinline⟩ := h.of_isSuspended suspended
  obtain ⟨hpublished, hreturned, hfragment, hbegun, -⟩ := h
  rw [hinline] at hbegun
  constructor
  case published => simpa using hpublished
  case returned => simpa using hreturned
  case fragment => simpa using hfragment
  case begun => simpa [Phase.inline] using hbegun
  case balanced => simpa [Phase.Balanced] using hlength

/-- The accounts of every task fit together in every run. -/
theorem account_invariant : Invariant (σ := σ) (fun _ ↦ True) fun _ c ↦ c.Account where
  fresh _ := account_fresh
  later _ h := h
  moves {s label id c d} _ h moves := by
    cases moves with
    | refuse phase stopped => exact h.refuse phase id s.now
    | call ready running mode => exact h.call ready id
    | dispatch ready running mode => exact h.dispatch ready id
    | stop suspended stopped => exact h.stop suspended id s.now
    | deliver yields current index text rendering safe =>
      exact (h.holds yields).deliver id s.now _ index text rendering
    | discard yields stale => exact (h.holds yields).discard id s.now
    | complete working outcome => exact h.complete working id s.now _

/-- At most one call is on its way, and at most one has not been published. -/
theorem Account.inFlight {c : Course σ} (h : c.Account) :
    c.working + c.task.phase.inline ≤ 1 ∧
      (c.reads Entry.call?).length ≤ c.task.ticks + 1 := by
  obtain ⟨-, hreturned, -, hbegun, hbalanced⟩ := h
  cases hphase : c.task.phase <;> rw [hphase] at hbegun hbalanced <;>
    simp only [Phase.inline, Phase.Balanced] at hbegun hbalanced ⊢
  case awaiting start fragment? =>
    cases fragment? <;> simp only at hbalanced <;> exact ⟨by omega, by omega⟩
  all_goals exact ⟨by omega, by omega⟩

/-- What a call has returned is published, in the hands of the task, or lost with it. -/
theorem Account.of_unpublished {c : Course σ} (h : c.Account)
    (hticks : c.task.ticks < (c.reads Entry.outcome?).length) :
    (∃ start fragment, c.task.phase = .awaiting start (some fragment) ∧
      (c.reads Entry.outcome?)[c.task.ticks]? = some fragment) ∨ c.task.phase = .cancelled := by
  obtain ⟨-, -, -, -, hbalanced⟩ := h
  cases hphase : c.task.phase <;> rw [hphase] at hbalanced <;>
    simp only [Phase.Balanced] at hbalanced
  case awaiting start fragment? =>
    cases fragment? with
    | none => exact absurd hbalanced.1 (Nat.ne_of_gt hticks)
    | some fragment => exact .inl ⟨start, fragment, rfl, hbalanced.2.2⟩
  case cancelled => exact .inr rfl
  all_goals exact absurd hbalanced.1 (by omega)

end Course

end LiveTemplate.Refresh

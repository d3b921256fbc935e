import LiveTemplate.Proofs.Refresh.Run
import LiveTemplate.Proofs.Refresh.Turn

/-!
# The order of turns

Tasks of different schedules can take their turns in either order, since a turn changes nothing that
another task sees. What comes out differs in the order in which things have been written down and put
on workers, and in nothing else; and neither what has been written down nor that order is ever looked
at, so whatever happens later happens alike after either order.
-/

namespace LiveTemplate.Refresh

variable {σ : Type} {s t : State σ} {id other : TaskId} {index : Nat}

/-- Two states that differ only in the order in which things have been written down and put on
workers, and perhaps in the world: at every position and of every task the same has been written down
in the same order. -/
structure Reordered (s t : State σ) : Prop where
  registry : t.registry = s.registry
  floor : t.floor = s.floor
  now : t.now = s.now
  cells : t.cells = s.cells
  schedules : t.schedules = s.schedules
  elements : t.elements = s.elements
  workers : t.workers.Perm s.workers
  history : t.history.Perm s.history
  renders : ∀ index, rendersAt index t.history = rendersAt index s.history
  diary : ∀ id, diary id t.history = diary id s.history

/-- A task that has gone through the same in two orders is where it was. -/
theorem Reordered.course? (h : Reordered s t) (id : TaskId) : t.course? id = s.course? id := by
  have hworking : t.workers.count id = s.workers.count id := h.workers.count_eq id
  rw [State.course?, State.course?, State.task?, State.task?, h.schedules, h.diary, hworking]

/-! ## Turns of different tasks -/

theorem Staffing.count_apply_of_ne (h : other ≠ id) (workers : List TaskId) (staffing : Staffing) :
    (staffing.apply other workers).count id = workers.count id := by
  cases staffing with
  | keep => rfl
  | hire => simp [apply, h]
  | release => exact List.count_erase_of_ne h.symm

/-- What becomes of the calls of a task depends on how many there have been. -/
theorem Staffing.count_apply_congr {workers others : List TaskId}
    (h : workers.count id = others.count id) (staffing : Staffing) :
    (staffing.apply id workers).count id = (staffing.apply id others).count id := by
  cases staffing with
  | keep => exact h
  | hire => simp [apply, h]
  | release => simp [apply, h]

theorem Staffing.apply_comm (h : id ≠ other) (workers : List TaskId) (first second : Staffing) :
    (first.apply id (second.apply other workers)).Perm
      (second.apply other (first.apply id workers)) := by
  rw [List.perm_iff_count]
  intro task
  by_cases hid : task = id
  · subst hid
    rw [count_apply_of_ne h.symm]
    exact count_apply_congr (count_apply_of_ne h.symm workers second) first
  · rw [count_apply_of_ne (Ne.symm hid)]
    by_cases hother : task = other
    · subst hother
      exact count_apply_congr (count_apply_of_ne h workers first).symm second
    · rw [count_apply_of_ne (Ne.symm hother), count_apply_of_ne (Ne.symm hother),
        count_apply_of_ne (Ne.symm hid)]

/-- Entries with and without something to read can be written down in either order. -/
theorem collect_swap {β : Type} {read : Entry → Option β} {entries others : List Entry}
    (h : (∀ entry ∈ entries, read entry = none) ∨ ∀ entry ∈ others, read entry = none)
    (history : List Entry) :
    collect read (entries ++ (others ++ history)) = collect read (others ++ (entries ++ history)) := by
  simp only [collect_append]
  rcases h with h | h <;> simp [collect_eq_nil h]

namespace State

/-- Another task sees the same after a turn. -/
theorem sameFor_takeTurn (h : id.schedule ≠ other.schedule) (s : State σ) (turn : Turn σ) :
    SameFor other s (s.takeTurn id turn) := by
  have hne : other ≠ id := fun heq ↦ h (by rw [heq])
  constructor
  case schedule => exact List.getElem?_modify_ne _ _ h
  case cells => rfl
  case now => rfl
  case working =>
    rw [← List.count_pos_iff, ← List.count_pos_iff]
    exact iff_of_eq (congrArg (0 < ·) (Staffing.count_apply_of_ne hne.symm s.workers _))

/-- Turns of tasks of schedules at different positions can be taken in either order. -/
theorem takeTurn_comm {first second : Turn σ} (hschedules : id.schedule ≠ other.schedule)
    (hfirst : first.Concerns s id) (hsecond : second.Concerns s other)
    (hpositions : (s.schedules[id.schedule]?).map Schedule.index ≠
      (s.schedules[other.schedule]?).map Schedule.index) :
    Reordered ((s.takeTurn id first).takeTurn other second)
      ((s.takeTurn other second).takeTurn id first) := by
  have hne : id ≠ other := fun heq ↦ hschedules (by rw [heq])
  constructor
  case registry | floor | now | cells | elements => rfl
  case schedules => exact (List.modify_modify_ne _ _ _ hschedules).symm
  case workers => exact Staffing.apply_comm hne s.workers _ _
  case history => exact List.perm_append_comm_assoc _ _ _
  case renders =>
    -- At no position do both turns render.
    intro index
    refine collect_swap ?_ s.history
    by_cases hindex : (s.schedules[id.schedule]?).map Schedule.index = some index
    · exact .inr (hsecond.renderAt?_eq_none fun heq ↦ hpositions (hindex.trans heq.symm))
    · exact .inl (hfirst.renderAt?_eq_none hindex)
  case diary =>
    intro task
    have hnone : diary task first.entries = [] ∨ diary task second.entries = [] := by
      by_cases htask : task = id
      · exact .inr (hsecond.diary_eq_nil (htask ▸ hne))
      · exact .inl (hfirst.diary_eq_nil htask)
    simp only [takeTurn, diary, List.filter_append] at hnone ⊢
    rcases hnone with hnone | hnone <;> simp [hnone]

/-- Steps of tasks at different positions can be taken in either order, if what their commands answer
does not depend on the world. If moreover the commands do nothing to the world, it stays. -/
theorem step_comm {first second : Label σ} {a b : Schedule σ} (hfirst : first.task? = some id)
    (hsecond : second.task? = some other) (ha : s.schedules[id.schedule]? = some a)
    (hb : s.schedules[other.schedule]? = some b) (hpositions : a.index ≠ b.index)
    (hsteady : ∀ task, s.task? id = some task → task.value.command.IsSteady)
    (hsteady' : ∀ task, s.task? other = some task → task.value.command.IsSteady) :
    Reordered ((s.step first).step second) ((s.step second).step first) ∧
      ((∀ task, s.task? id = some task → task.value.command.IsHarmless) →
        (∀ task, s.task? other = some task → task.value.command.IsHarmless) →
        ((s.step first).step second).world = s.world ∧
          ((s.step second).step first).world = s.world) := by
  have hschedules : id.schedule ≠ other.schedule := by
    intro heq
    rw [heq, hb] at ha
    obtain rfl := Option.some.inj ha
    exact hpositions rfl
  have hindices : (s.schedules[id.schedule]?).map Schedule.index ≠
      (s.schedules[other.schedule]?).map Schedule.index := by
    rw [ha, hb]
    exact fun heq ↦ hpositions (Option.some.inj heq)
  obtain ⟨turn, hconcerns, hharmless, hturn⟩ := isTurn_step hfirst s
  obtain ⟨turn', hconcerns', hharmless', hturn'⟩ := isTurn_step hsecond s
  have hforth : (s.step first).step second = (s.takeTurn id turn).takeTurn other turn' := by
    have hstep : s.step first = s.takeTurn id turn := hturn s (.refl id s) fun _ _ ↦ rfl
    rw [hstep]
    exact hturn' _ (sameFor_takeTurn hschedules s turn) fun task htask ↦ hsteady' task htask _ _
  have hback : (s.step second).step first = (s.takeTurn other turn').takeTurn id turn := by
    have hstep : s.step second = s.takeTurn other turn' := hturn' s (.refl other s) fun _ _ ↦ rfl
    rw [hstep]
    exact hturn _ (sameFor_takeTurn hschedules.symm s turn') fun task htask ↦ hsteady task htask _ _
  constructor
  · rw [hforth, hback]
    exact takeTurn_comm hschedules hconcerns hconcerns' hindices
  · intro hnothing hnothing'
    rw [hforth, hback]
    simp only [takeTurn, modifyTask, hharmless hnothing, hharmless' hnothing', and_self]

end State

/-! ## What happens later -/

theorem rendersAt_append (entries history : List Entry) :
    rendersAt index (entries ++ history) = rendersAt index history ++ rendersAt index entries :=
  collect_append _ entries history

namespace State

/-- What a change does and writes down does not depend on what has been written down, on the workers
and on the world. -/
theorem exists_entries_change (s : State σ) (change : Change σ) :
    ∃ entries, ∀ world workers history,
      ({ s with world := world, workers := workers, history := history } : State σ).change change =
        { s.change change with
          world := world, workers := workers, history := entries ++ history } := by
  cases change with
  | append => exact ⟨[], fun _ _ _ ↦ rfl⟩
  | exchange registry => exact ⟨[], fun _ _ _ ↦ rfl⟩
  | supersede i =>
    cases helement : s.elements[i]? with
    | none => exact ⟨[], fun _ _ _ ↦ by simp [State.change, supersede, helement]⟩
    | some element =>
      refine ⟨[⟨s.now, .superseded i⟩], fun _ _ _ ↦ ?_⟩
      simp [State.change, supersede, helement, record]
  | vacate i =>
    refine ⟨[], fun _ _ _ ↦ ?_⟩
    simp only [State.change, vacate]
    cases s.elements[i]? with
    | none => rfl
    | some element => dsimp only; split <;> rfl
  | place i raw =>
    cases helement : s.elements[i]? with
    | none => exact ⟨[], fun _ _ _ ↦ by simp [State.change, place, helement]⟩
    | some element =>
      by_cases hvacant : element.stage = .vacant
      · cases hvalues : (Directive.parse raw).map (resolve s.registry s.floor) with
        | nil =>
          refine ⟨[⟨s.now, .rendered i raw none⟩, ⟨s.now, .installed i raw none⟩], fun _ _ _ ↦ ?_⟩
          simp [State.change, place, helement, hvacant, hvalues, placeLiteral, record]
        | cons value values =>
          refine ⟨[⟨s.now, .installed i raw (some s.schedules.length)⟩], fun _ _ _ ↦ ?_⟩
          simp [State.change, place, helement, hvacant, hvalues, placeSchedule, record]
      · exact ⟨[], fun _ _ _ ↦ by simp [State.change, place, helement, hvacant]⟩
  | truncate size =>
    by_cases hvacant : (s.elements.drop size).all (·.stage = .vacant)
    · refine ⟨removals s.now ((List.range s.elements.length).drop size), fun _ _ _ ↦ ?_⟩
      simp only [State.change, truncate, hvacant, if_true, foldl_tornDown]
    · exact ⟨[], fun _ _ _ ↦ by simp only [State.change, truncate, hvacant]; rfl⟩

theorem world_change (s : State σ) (change : Change σ) : (s.change change).world = s.world := by
  obtain ⟨entries, hentries⟩ := s.exists_entries_change change
  have hchange : s.change change = { s.change change with
      world := s.world, workers := s.workers, history := entries ++ s.history } :=
    hentries s.world s.workers s.history
  rw [hchange]

end State

namespace Reordered

/-- The second of the states, told by the first one. -/
theorem eq_with (h : Reordered s t) :
    t = { s with world := t.world, workers := t.workers, history := t.history } := by
  obtain ⟨hregistry, hfloor, hnow, hcells, hschedules, helements, -⟩ := h
  rw [← hregistry, ← hfloor, ← hnow, ← hcells, ← hschedules, ← helements]

/-- When the same is written down on top, only the order of what is below differs. -/
theorem append (h : Reordered s t) (entries : List Entry) (u : State σ) (world world' : σ)
    {workers workers' : List TaskId} (hworkers : workers'.Perm workers) :
    Reordered { u with world := world, workers := workers, history := entries ++ s.history }
      { u with world := world', workers := workers', history := entries ++ t.history } := by
  constructor
  case registry | floor | now | cells | schedules | elements => rfl
  case workers => exact hworkers
  case history => exact h.history.append_left entries
  case renders =>
    intro index
    rw [rendersAt_append, rendersAt_append, h.renders]
  case diary =>
    intro id
    have hbefore := h.diary id
    rw [Refresh.diary, Refresh.diary] at hbefore ⊢
    rw [List.filter_append, List.filter_append, hbefore]

theorem change (h : Reordered s t) (change : Change σ) :
    Reordered (s.change change) (t.change change) := by
  obtain ⟨entries, hentries⟩ := s.exists_entries_change change
  have hs : s.change change = { s.change change with
      world := s.world, workers := s.workers, history := entries ++ s.history } :=
    hentries s.world s.workers s.history
  have ht : t.change change = { s.change change with
      world := t.world, workers := t.workers, history := entries ++ t.history } := by
    rw [h.eq_with]
    exact hentries t.world t.workers t.history
  rw [hs, ht]
  exact h.append entries (s.change change) s.world t.world h.workers

theorem takeTurn (h : Reordered s t) (id : TaskId) (turn : Turn σ) :
    Reordered (s.takeTurn id turn) (t.takeTurn id turn) := by
  have ht : t.takeTurn id turn = { s.modifyTask id turn.alter with
      world := turn.effect t.world
      workers := turn.staffing.apply id t.workers
      history := turn.entries ++ t.history } := by
    rw [h.eq_with]
    rfl
  rw [ht]
  refine h.append turn.entries (s.modifyTask id turn.alter) _ _ ?_
  cases turn.staffing with
  | keep => exact h.workers
  | hire => exact h.workers.append_right [id]
  | release => exact h.workers.erase id

theorem sameFor (h : Reordered s t) (id : TaskId) : SameFor id s t where
  schedule := by rw [h.schedules]
  cells := h.cells
  now := h.now
  working := h.workers.mem_iff

/-- In the same world, what has been written down in another order makes no difference to a step. -/
theorem step (h : Reordered s t) (hworld : t.world = s.world) (label : Label σ) :
    Reordered (s.step label) (t.step label) ∧ (t.step label).world = (s.step label).world := by
  cases hlabel : label.task? with
  | some id =>
    obtain ⟨turn, -, -, hturn⟩ := State.isTurn_step hlabel s
    have hs : s.step label = s.takeTurn id turn := hturn s (.refl id s) fun _ _ ↦ rfl
    have ht : t.step label = t.takeTurn id turn :=
      hturn t (h.sameFor id) fun _ _ ↦ by rw [hworld]
    rw [hs, ht]
    exact ⟨h.takeTurn id turn, congrArg turn.effect hworld⟩
  | none =>
    cases label with
    | change change =>
      refine ⟨h.change change, ?_⟩
      calc
        (t.change change).world = t.world := t.world_change change
        _ = s.world := hworld
        _ = (s.change change).world := (s.world_change change).symm
    | elapse nanoseconds =>
      refine ⟨?_, hworld⟩
      have ht : t.elapse nanoseconds = { s.elapse nanoseconds with
          world := t.world, workers := t.workers, history := [] ++ t.history } := by
        rw [h.eq_with]
        rfl
      show Reordered (s.elapse nanoseconds) (t.elapse nanoseconds)
      rw [ht]
      exact h.append [] (s.elapse nanoseconds) s.world t.world h.workers
    | disturb disturbance =>
      refine ⟨?_, congrArg disturbance hworld⟩
      have ht : t.disturb disturbance = { s.disturb disturbance with
          world := disturbance t.world, workers := t.workers, history := [] ++ t.history } := by
        rw [h.eq_with]
        rfl
      show Reordered (s.disturb disturbance) (t.disturb disturbance)
      rw [ht]
      exact h.append [] (s.disturb disturbance) (disturbance s.world) _ h.workers
    | _ => contradiction

/-- In the same world, what has been written down in another order never makes a difference. -/
theorem run (h : Reordered s t) (hworld : t.world = s.world) (labels : List (Label σ)) :
    Reordered (s.run labels) (t.run labels) := by
  induction labels generalizing s t with
  | nil => exact h
  | cons label labels ih =>
    rw [State.run_cons, State.run_cons]
    obtain ⟨hstep, hworld'⟩ := h.step hworld label
    exact ih hstep hworld'

end Reordered

end LiveTemplate.Refresh

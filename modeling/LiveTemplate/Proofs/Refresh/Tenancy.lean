import LiveTemplate.Proofs.Refresh.Run

/-!
# Who is installed

The count in the cell of an element tells whether a schedule is the installed one. A cell is never
shared with a later element and never counts down, so that a schedule which has lost its place never
comes back to it, even when its position is taken by another element that has been counted as often.
As long as the count is the same, the element at the position of the schedule is settled, and the
latest decision about that position is the installation of the schedule.
-/

namespace LiveTemplate.Refresh

open Command (Registry)

variable {σ : Type} {s t : State σ} {id : TaskId} {n index : Nat}
  {schedule before after : Schedule σ}

/-- Whether an event installs the schedule with a number. -/
def Event.founds (n : Nat) : Event → Bool
  | .installed _ _ (some schedule) => schedule = n
  | _ => false

/-! ## Schedules -/

/-- What a schedule keeps when its tasks take steps and when it is told to stop. -/
structure Schedule.Becomes (before after : Schedule σ) : Prop where
  index : after.index = before.index
  cell : after.cell = before.cell
  generation : after.generation = before.generation
  raw : after.raw = before.raw
  values : after.tasks.map Task.value = before.tasks.map Task.value
  cancelled : before.cancelled = true → after.cancelled = true

namespace Schedule.Becomes

theorem refl (schedule : Schedule σ) : schedule.Becomes schedule :=
  ⟨rfl, rfl, rfl, rfl, rfl, id⟩

theorem cancel (schedule : Schedule σ) : schedule.Becomes schedule.cancel :=
  ⟨rfl, rfl, rfl, rfl, rfl, fun _ ↦ rfl⟩

theorem of_plan (h : before.plan = after.plan) : before.Becomes after := by
  have hvalues : before.plan.tasks.map Task.value = after.plan.tasks.map Task.value :=
    congrArg (fun schedule ↦ schedule.tasks.map Task.value) h
  have hcancelled : before.plan.cancelled = after.plan.cancelled := congrArg Schedule.cancelled h
  simp only [plan, List.map_map] at hvalues
  constructor
  case index => exact (congrArg Schedule.index h).symm
  case cell => exact (congrArg Schedule.cell h).symm
  case generation => exact (congrArg Schedule.generation h).symm
  case raw => exact (congrArg Schedule.raw h).symm
  case values => exact hvalues.symm
  case cancelled => exact fun hbefore ↦ hcancelled ▸ hbefore

end Schedule.Becomes

theorem Still.symm (h : Still s t) : Still t s :=
  ⟨h.now.symm, h.floor.symm, h.cells.symm, h.elements.symm, h.plans.symm, h.decisions.symm⟩

theorem Still.standing? (h : Still s t) (index : Nat) :
    standing? index t.history = standing? index s.history := by
  rw [← find?_decisions, h.decisions, find?_decisions]

/-- While the list stands still, every schedule keeps its plan. -/
theorem Still.getElem?_plans (h : Still s t) (n : Nat) :
    (t.schedules[n]?).map Schedule.plan = (s.schedules[n]?).map Schedule.plan := by
  simpa using congrArg (·[n]?) h.plans

theorem Still.exists_plan (h : Still s t) (hbefore : s.schedules[n]? = some before) :
    ∃ after, t.schedules[n]? = some after ∧ before.plan = after.plan := by
  have hplan := h.getElem?_plans n
  rw [hbefore, Option.map_some, Option.map_eq_some_iff] at hplan
  obtain ⟨after, hafter, hplan⟩ := hplan
  exact ⟨after, hafter, hplan.symm⟩

/-- Whether a schedule has been told to stop is part of its plan. -/
theorem Still.isCancelled (h : Still s t) (id : TaskId) : t.isCancelled id = s.isCancelled id := by
  have hplan (schedule? : Option (Schedule σ)) : schedule?.map Schedule.cancelled =
      (schedule?.map Schedule.plan).map Schedule.cancelled := by cases schedule? <;> rfl
  rw [State.isCancelled, hplan, h.getElem?_plans, ← hplan]
  rfl

/-- So is its place, which it holds as long as its cell has not been counted up. -/
theorem Still.isCurrent (h : Still s t) (id : TaskId) : t.isCurrent id = s.isCurrent id := by
  have hinstalled : t.isInstalled = s.isInstalled := by
    funext schedule
    rw [State.isInstalled, State.isInstalled, h.cells]
  have hplan (schedule? : Option (Schedule σ)) : schedule?.any s.isInstalled =
      (schedule?.map Schedule.plan).any s.isInstalled := by cases schedule? <;> rfl
  rw [State.isCurrent, hinstalled, hplan, h.getElem?_plans, ← hplan]
  rfl

namespace State

/-- A schedule that is told to stop is not forgotten, and no new one comes with it. -/
theorem schedules_vacate (s : State σ) (index n : Nat) :
    (s.vacate index).schedules[n]? = s.schedules[n]? ∨
      (s.vacate index).schedules[n]? = (s.schedules[n]?).map Schedule.cancel := by
  rcases vacate_cases s index with h | ⟨element, schedules, -, -, rfl | ⟨k, rfl⟩, h⟩
  · exact .inl (by rw [h])
  · exact .inl (by rw [h])
  · rw [h, List.getElem?_modify]
    by_cases hk : k = n
    · exact .inr (by simp [hk])
    · exact .inl (by simp [hk])

/-- Schedules are never removed. -/
theorem schedules_place (s : State σ) (index : Nat) (raw : String) :
    s.schedules <+: (s.place index raw).schedules := by
  rcases place_cases s index raw with h | ⟨element, -, -, ⟨-, h⟩ | h⟩
  · exact ⟨[], by rw [h, List.append_nil]⟩
  · exact ⟨[], by rw [h, List.append_nil]; rfl⟩
  · exact ⟨_, by rw [h]; rfl⟩

/-- Every schedule stays in every step. -/
theorem exists_step (label : Label σ) (hbefore : s.schedules[n]? = some before) :
    ∃ after, (s.step label).schedules[n]? = some after ∧ before.Becomes after := by
  have hstill (h : Still s (s.step label)) :
      ∃ after, (s.step label).schedules[n]? = some after ∧ before.Becomes after := by
    obtain ⟨after, hafter, hplan⟩ := h.exists_plan hbefore
    exact ⟨after, hafter, .of_plan hplan⟩
  have hsame (h : (s.step label).schedules = s.schedules) :
      ∃ after, (s.step label).schedules[n]? = some after ∧ before.Becomes after :=
    ⟨before, h ▸ hbefore, .refl before⟩
  cases label with
  | change change =>
    cases change with
    | append => exact hsame rfl
    | exchange registry => exact hsame rfl
    | supersede index =>
      apply hsame
      simp only [step, State.change]
      rcases supersede_cases s index with h | ⟨element, -, h⟩ <;> rw [h]
    | truncate size =>
      apply hsame
      simp only [step, State.change]
      rcases truncate_cases s size with h | ⟨-, h⟩ <;> rw [h]
    | vacate index =>
      rcases schedules_vacate s index n with h | h
      · exact ⟨before, h.trans hbefore, .refl before⟩
      · exact ⟨before.cancel, h.trans (by rw [hbefore]; rfl), .cancel before⟩
    | place index raw =>
      obtain ⟨added, hplaced⟩ := schedules_place s index raw
      have hlength : n < s.schedules.length := (List.getElem?_eq_some_iff.1 hbefore).1
      refine ⟨before, ?_, .refl before⟩
      calc
        (s.place index raw).schedules[n]? = (s.schedules ++ added)[n]? := by rw [hplaced]
        _ = s.schedules[n]? := List.getElem?_append_left hlength
        _ = some before := hbefore
  | poll task rendering => exact hstill (still_poll task rendering)
  | finish task rendering => exact hstill (still_finish task rendering)
  | complete task => exact hstill (still_complete task)
  | elapse nanoseconds => exact hsame rfl
  | disturb change => exact hsame rfl

/-- No cell counts down. -/
theorem le_count_step (label : Label σ) {cell count : Nat} (h : s.cells[cell]? = some count) :
    ∃ later, (s.step label).cells[cell]? = some later ∧ count ≤ later := by
  have hsame (hcells : (s.step label).cells = s.cells) :
      ∃ later, (s.step label).cells[cell]? = some later ∧ count ≤ later :=
    ⟨count, hcells ▸ h, Nat.le_refl count⟩
  cases label with
  | change change =>
    cases change with
    | append =>
      have hcell : cell < s.cells.length := (List.getElem?_eq_some_iff.1 h).1
      exact ⟨count, (List.getElem?_append_left hcell).trans h, Nat.le_refl count⟩
    | exchange registry => exact hsame rfl
    | supersede index =>
      rcases supersede_cases s index with hstep | ⟨element, -, hstep⟩
      · exact hsame (by simp only [step, State.change, hstep])
      · simp only [step, State.change, hstep, List.getElem?_modify, h]
        by_cases hcell : element.cell = cell
        · exact ⟨count + 1, by simp [hcell], Nat.le_succ count⟩
        · exact ⟨count, by simp [hcell], Nat.le_refl count⟩
    | truncate size =>
      apply hsame
      simp only [step, State.change]
      rcases truncate_cases s size with hstep | ⟨-, hstep⟩ <;> rw [hstep]
    | vacate index =>
      apply hsame
      simp only [step, State.change]
      rcases vacate_cases s index with hstep | ⟨element, schedules, -, -, -, hstep⟩ <;> rw [hstep]
    | place index raw =>
      apply hsame
      simp only [step, State.change]
      rcases place_cases s index raw with hstep | ⟨element, -, -, ⟨-, hstep⟩ | hstep⟩ <;>
        rw [hstep] <;> rfl
  | poll task rendering => exact hsame (still_poll task rendering).cells
  | finish task rendering => exact hsame (still_finish task rendering).cells
  | complete task => exact hsame (still_complete task).cells
  | elapse nanoseconds => exact hsame rfl
  | disturb change => exact hsame rfl

end State

/-! ## Tenants -/

/-- A schedule that has got its place by an installation, and keeps it as long as its cell still
counts that installation. -/
structure Tenant (s : State σ) (n : Nat) (schedule : Schedule σ) : Prop where
  counted : ∃ count, s.cells[schedule.cell]? = some count ∧ schedule.generation ≤ count
  lodged : s.isInstalled schedule = true →
    s.elements[schedule.index]? = some ⟨schedule.cell, schedule.raw, some n, .settled⟩ ∧
      standing? schedule.index s.history =
        some (.installed schedule.index schedule.raw (some n))
  planned : ∃ registry : Registry σ, schedule.tasks.map Task.value =
    (Directive.parse schedule.raw).map (resolve registry s.floor)

namespace Tenant

/-- A tenant has one task for each directive of its text. -/
theorem length_tasks (h : Tenant s n schedule) :
    schedule.tasks.length = (Directive.parse schedule.raw).length := by
  obtain ⟨registry, hvalues⟩ := h.planned
  simpa using congrArg List.length hvalues

/-- Every directive of a tenant's text has a task, with the value that the directive came to when
the text was installed. -/
theorem exists_task (h : Tenant s n schedule) {directive : Nat} {descriptor : Directive.Descriptor}
    (hdescriptor : (Directive.parse schedule.raw)[directive]? = some descriptor) :
    ∃ task registry, schedule.tasks[directive]? = some task ∧
      task.value = resolve registry s.floor descriptor := by
  obtain ⟨registry, hvalues⟩ := h.planned
  have hvalue : (schedule.tasks.map Task.value)[directive]? =
      some (resolve registry s.floor descriptor) := by
    rw [hvalues, List.getElem?_map, hdescriptor]
    rfl
  rw [List.getElem?_map, Option.map_eq_some_iff] at hvalue
  obtain ⟨task, htask, hvalue⟩ := hvalue
  exact ⟨task, registry, htask, hvalue⟩

/-- What happens to its tasks, and their being told to stop, does not move a tenant. -/
theorem becomes (h : Tenant s n before) (hafter : before.Becomes after) : Tenant s n after := by
  obtain ⟨hcounted, hlodged, hplanned⟩ := h
  have hinstalled : s.isInstalled after = s.isInstalled before := by
    rw [State.isInstalled, hafter.cell, hafter.generation]
    rfl
  constructor
  case counted => rw [hafter.cell, hafter.generation]; exact hcounted
  case lodged => rw [hinstalled, hafter.index, hafter.cell, hafter.raw]; exact hlodged
  case planned => rw [hafter.values, hafter.raw]; exact hplanned

/-- A tenant stays one while its cell does not count down and, as long as it is the installed one,
nothing happens at its position. -/
theorem stay (h : Tenant s n schedule) (hfloor : t.floor = s.floor)
    (hcounted : ∃ count, t.cells[schedule.cell]? = some count ∧ schedule.generation ≤ count)
    (hstay : t.isInstalled schedule = true → s.isInstalled schedule = true ∧
      (s.elements[schedule.index]? = some ⟨schedule.cell, schedule.raw, some n, .settled⟩ →
        t.elements[schedule.index]? = s.elements[schedule.index]? ∧
          standing? schedule.index t.history = standing? schedule.index s.history)) :
    Tenant t n schedule := by
  constructor
  case counted => exact hcounted
  case lodged =>
    intro hinstalled
    obtain ⟨hbefore, hsame⟩ := hstay hinstalled
    obtain ⟨helement, hstanding⟩ := h.lodged hbefore
    obtain ⟨helements, hhistory⟩ := hsame helement
    rw [helements, hhistory]
    exact ⟨helement, hstanding⟩
  case planned => rw [hfloor]; exact h.planned

/-- While the cells stand still, it matters only what happens at the position of a tenant. -/
theorem stay_of_cells (h : Tenant s n schedule) (hfloor : t.floor = s.floor)
    (hcells : t.cells = s.cells)
    (hsame : s.elements[schedule.index]? = some ⟨schedule.cell, schedule.raw, some n, .settled⟩ →
      t.elements[schedule.index]? = s.elements[schedule.index]? ∧
        standing? schedule.index t.history = standing? schedule.index s.history) :
    Tenant t n schedule := by
  apply h.stay hfloor
  · rw [hcells]
    exact h.counted
  · intro hinstalled
    rw [State.isInstalled, hcells] at hinstalled
    exact ⟨hinstalled, hsame⟩

end Tenant

/-- Every schedule is a tenant, by one installation. -/
structure Tenancy (s : State σ) : Prop where
  celled : ∀ element ∈ s.elements, element.cell < s.cells.length
  tenants : ∀ n schedule, s.schedules[n]? = some schedule → Tenant s n schedule
  founded : ∀ index raw n, Event.installed index raw (some n) ∈ decisions s.history →
    ∃ schedule, s.schedules[n]? = some schedule ∧ schedule.index = index ∧ schedule.raw = raw
  once : ∀ n, (decisions s.history).countP (·.founds n) ≤ 1

/-- Nothing moves while the list stands still. -/
theorem Still.tenancy (h : Still s t) (tenancy : Tenancy s) : Tenancy t := by
  obtain ⟨hcelled, htenants, hfounded, honce⟩ := tenancy
  constructor
  case celled => rw [h.elements, h.cells]; exact hcelled
  case tenants =>
    intro n after hafter
    obtain ⟨before, hbefore, hplan⟩ := h.symm.exists_plan hafter
    have htenant : Tenant t n before := by
      apply (htenants n before hbefore).stay_of_cells h.floor h.cells
      intro _
      exact ⟨by rw [h.elements], h.standing? before.index⟩
    exact htenant.becomes (.of_plan hplan.symm)
  case founded =>
    intro index raw n hmem
    rw [h.decisions] at hmem
    obtain ⟨before, hbefore, hindex, hraw⟩ := hfounded index raw n hmem
    obtain ⟨after, hafter, hplan⟩ := h.exists_plan hbefore
    have hbecomes := Schedule.Becomes.of_plan hplan
    exact ⟨after, hafter, hbecomes.index.trans hindex, hbecomes.raw.trans hraw⟩
  case once => rw [h.decisions]; exact honce

/-- An element keeps its cell when something else changes about it. -/
theorem celled_set {elements : List Element} {element other : Element} {bound : Nat}
    (h : ∀ element ∈ elements, element.cell < bound) (helement : elements[index]? = some element)
    (hcell : other.cell = element.cell) :
    ∀ element ∈ elements.set index other, element.cell < bound := by
  intro found hfound
  rcases List.mem_or_eq_of_mem_set hfound with hold | rfl
  · exact h found hold
  · rw [hcell]
    exact h element (List.mem_of_getElem? helement)

/-- The position of an installed schedule is settled. -/
theorem ne_of_not_settled {element : Element} {cell : Nat} {raw : String} {schedule? : Option Nat}
    {i : Nat} (helement : s.elements[index]? = some element) (hstage : element.stage ≠ .settled)
    (hsettled : s.elements[i]? = some ⟨cell, raw, schedule?, .settled⟩) : index ≠ i := by
  rintro rfl
  rw [helement] at hsettled
  exact hstage (congrArg Element.stage (Option.some.inj hsettled))

theorem le_of_mem_drop_range {i size length : Nat} (h : i ∈ (List.range length).drop size) :
    size ≤ i := by
  obtain ⟨k, hk⟩ := List.mem_iff_getElem?.1 h
  rw [List.getElem?_drop, List.getElem?_eq_some_iff] at hk
  obtain ⟨hlength, hk⟩ := hk
  rw [List.getElem_range] at hk
  exact hk ▸ Nat.le_add_right size k

theorem decisions_removals (now : Nat) (indices : List Nat) (history : List Entry) :
    decisions (State.removals now indices ++ history) =
      (indices.map Event.tornDown).reverse ++ decisions history := by
  simp [decisions, State.removals, Event.isDecision, Function.comp_def]

theorem standing?_removals {indices : List Nat} (h : index ∉ indices) (now : Nat)
    (history : List Entry) :
    standing? index (State.removals now indices ++ history) = standing? index history := by
  rw [← find?_decisions, decisions_removals, List.find?_append, find?_decisions]
  have hnone : (indices.map Event.tornDown).reverse.find? (·.decides index) = none := by
    rw [List.find?_eq_none]
    intro event hevent
    obtain ⟨i, hi, rfl⟩ := List.mem_map.1 (List.mem_reverse.1 hevent)
    have hne : i ≠ index := fun heq ↦ h (heq ▸ hi)
    simpa [Event.decides] using hne
  rw [hnone, Option.none_or]

namespace Tenancy

theorem append (h : Tenancy s) : Tenancy s.append := by
  obtain ⟨hcelled, htenants, hfounded, honce⟩ := h
  refine ⟨?_, ?_, hfounded, honce⟩
  · intro element helement
    simp only [State.append, List.mem_append, List.mem_singleton, List.length_append,
      List.length_singleton] at helement ⊢
    rcases helement with hold | rfl
    · exact Nat.lt_succ_of_lt (hcelled element hold)
    · exact Nat.lt_succ_self _
  · intro n schedule hschedule
    have htenant := htenants n schedule hschedule
    obtain ⟨count, hcount, hle⟩ := htenant.counted
    have hcell : schedule.cell < s.cells.length := (List.getElem?_eq_some_iff.1 hcount).1
    have hkept : (s.append).cells[schedule.cell]? = s.cells[schedule.cell]? :=
      List.getElem?_append_left hcell
    refine htenant.stay rfl ⟨count, hkept.trans hcount, hle⟩ ?_
    intro hinstalled
    constructor
    · rw [State.isInstalled, hkept] at hinstalled
      exact hinstalled
    · intro hlodged
      have hindex : schedule.index < s.elements.length := (List.getElem?_eq_some_iff.1 hlodged).1
      exact ⟨List.getElem?_append_left hindex, rfl⟩

theorem supersede (h : Tenancy s) (index : Nat) : Tenancy (s.supersede index) := by
  rcases State.supersede_cases s index with hstep | ⟨element, helement, hstep⟩
  · rw [hstep]
    exact h
  rw [hstep]
  obtain ⟨hcelled, htenants, hfounded, honce⟩ := h
  constructor
  case celled =>
    rw [List.length_modify]
    exact celled_set hcelled helement rfl
  case tenants =>
    intro n schedule hschedule
    have htenant := htenants n schedule hschedule
    obtain ⟨count, hcount, hle⟩ := htenant.counted
    by_cases hcell : element.cell = schedule.cell
    · -- the schedule's own cell is counted up, beyond the generation of the schedule
      have hnext : (s.cells.modify element.cell (· + 1))[schedule.cell]? = some (count + 1) := by
        simp [hcell, hcount]
      refine htenant.stay rfl ⟨count + 1, hnext, Nat.le_succ_of_le hle⟩ ?_
      intro hinstalled
      have heq : count + 1 = schedule.generation := by
        simpa [State.isInstalled, hnext] using hinstalled
      omega
    · have hkept : (s.cells.modify element.cell (· + 1))[schedule.cell]? =
          s.cells[schedule.cell]? := by
        simp [hcell]
      refine htenant.stay rfl ⟨count, hkept.trans hcount, hle⟩ ?_
      intro hinstalled
      constructor
      · simpa [State.isInstalled, hkept] using hinstalled
      · intro hlodged
        have hne : index ≠ schedule.index := by
          rintro rfl
          rw [helement] at hlodged
          exact hcell (congrArg Element.cell (Option.some.inj hlodged))
        exact ⟨List.getElem?_set_ne hne, standing?_cons_of_not (by simpa [Event.decides]) _⟩
  case founded =>
    intro i raw n hmem
    apply hfounded i raw n
    simpa [decisions, Event.isDecision] using hmem
  case once =>
    intro n
    simpa [decisions, Event.isDecision, Event.founds] using honce n

theorem vacate (h : Tenancy s) (index : Nat) : Tenancy (s.vacate index) := by
  have hschedules := State.schedules_vacate s index
  rcases State.vacate_cases s index with hstep | ⟨element, schedules, helement, hstage, -, hstep⟩
  · rw [hstep]
    exact h
  rw [hstep] at hschedules ⊢
  obtain ⟨hcelled, htenants, hfounded, honce⟩ := h
  constructor
  case celled => exact celled_set hcelled helement rfl
  case tenants =>
    intro n after hafter
    have hbefore : ∃ before, s.schedules[n]? = some before ∧ before.Becomes after := by
      rcases hschedules n with hsame | hcancel
      · exact ⟨after, hsame.symm.trans hafter, .refl after⟩
      · obtain ⟨before, hbefore, rfl⟩ := Option.map_eq_some_iff.1 (hcancel.symm.trans hafter)
        exact ⟨before, hbefore, .cancel before⟩
    obtain ⟨before, hbefore, hbecomes⟩ := hbefore
    refine Tenant.becomes ?_ hbecomes
    refine (htenants n before hbefore).stay_of_cells rfl rfl ?_
    intro hlodged
    have hne := ne_of_not_settled helement (by rw [hstage]; exact Stage.noConfusion) hlodged
    exact ⟨List.getElem?_set_ne hne, rfl⟩
  case founded =>
    intro i raw n hmem
    obtain ⟨before, hbefore, hindex, hraw⟩ := hfounded i raw n hmem
    rcases hschedules n with hsame | hcancel
    · exact ⟨before, hsame.trans hbefore, hindex, hraw⟩
    · exact ⟨before.cancel, hcancel.trans (by rw [hbefore]; rfl), hindex, hraw⟩
  case once => exact honce

theorem truncate (h : Tenancy s) (size : Nat) : Tenancy (s.truncate size) := by
  rcases State.truncate_cases s size with hstep | ⟨hvacant, hstep⟩
  · rw [hstep]
    exact h
  rw [hstep]
  obtain ⟨hcelled, htenants, hfounded, honce⟩ := h
  constructor
  case celled => exact fun element helement ↦ hcelled element (List.mem_of_mem_take helement)
  case tenants =>
    intro n schedule hschedule
    refine (htenants n schedule hschedule).stay_of_cells rfl rfl ?_
    intro hlodged
    have hindex : schedule.index < size := by
      refine Nat.lt_of_not_le fun hge ↦ ?_
      have hdrop : (s.elements.drop size)[schedule.index - size]? =
          some ⟨schedule.cell, schedule.raw, some n, .settled⟩ := by
        rw [List.getElem?_drop, Nat.add_sub_cancel' hge]
        exact hlodged
      have hstage := hvacant _ (List.mem_of_getElem? hdrop)
      contradiction
    exact ⟨List.getElem?_take_of_lt hindex, standing?_removals (fun hmem ↦
      absurd (le_of_mem_drop_range hmem) (Nat.not_le_of_lt hindex)) _ _⟩
  case founded =>
    intro i raw n hmem
    rw [decisions_removals, List.mem_append, List.mem_reverse, List.mem_map] at hmem
    rcases hmem with ⟨k, -, hremoval⟩ | hold
    · contradiction
    · exact hfounded i raw n hold
  case once =>
    intro n
    have hnone (indices : List Nat) :
        ((indices.map Event.tornDown).reverse).countP (·.founds n) = 0 := by
      rw [List.countP_reverse, List.countP_eq_zero]
      intro event hevent
      obtain ⟨k, -, rfl⟩ := List.mem_map.1 hevent
      simp [Event.founds]
    rw [decisions_removals, List.countP_append, hnone, Nat.zero_add]
    exact honce n

theorem placeLiteral (h : Tenancy s) {element : Element}
    (helement : s.elements[index]? = some element) (hvacant : element.stage = .vacant)
    (raw : String) : Tenancy (s.placeLiteral index element.cell raw) := by
  obtain ⟨hcelled, htenants, hfounded, honce⟩ := h
  constructor
  case celled => exact celled_set hcelled helement rfl
  case tenants =>
    intro n schedule hschedule
    refine (htenants n schedule hschedule).stay_of_cells rfl rfl ?_
    intro hlodged
    have hne := ne_of_not_settled helement (by rw [hvacant]; exact Stage.noConfusion) hlodged
    refine ⟨List.getElem?_set_ne hne, ?_⟩
    rw [State.placeLiteral, State.record, standing?_cons_of_not rfl, State.record,
      standing?_cons_of_not (by simpa [Event.decides])]
  case founded =>
    intro i text n hmem
    apply hfounded i text n
    simpa [State.placeLiteral, State.record, decisions, Event.isDecision] using hmem
  case once =>
    intro n
    have hdecisions : decisions (s.placeLiteral index element.cell raw).history =
        .installed index raw none :: decisions s.history := rfl
    rw [hdecisions, List.countP_cons_of_neg (by simp [Event.founds])]
    exact honce n

/-- A schedule that is placed is the installed one. -/
theorem tenant_placeSchedule (h : Tenancy s) {element : Element}
    (helement : s.elements[index]? = some element) (raw : String) :
    Tenant (s.placeSchedule index element.cell raw
        ((Directive.parse raw).map (resolve s.registry s.floor))) s.schedules.length
      { index := index, cell := element.cell, generation := (s.cells[element.cell]?).getD 0,
        raw := raw,
        tasks := ((Directive.parse raw).map (resolve s.registry s.floor)).map
          fun value ↦ { value := value } } := by
  have hcell := h.celled element (List.mem_of_getElem? helement)
  have hindex : index < s.elements.length := (List.getElem?_eq_some_iff.1 helement).1
  have hcount : s.cells[element.cell]? = some ((s.cells[element.cell]?).getD 0) := by
    rw [List.getElem?_eq_getElem hcell]
    rfl
  constructor
  case counted => exact ⟨_, hcount, Nat.le_refl _⟩
  case lodged =>
    intro _
    refine ⟨List.getElem?_set_self hindex, standing?_cons_self ?_ _⟩
    simp [Event.decides]
  case planned => exact ⟨s.registry, by simp [State.placeSchedule, State.record]⟩

/-- No event starts a schedule that there is not yet. -/
theorem countP_founds_eq_zero (h : Tenancy s) (hn : s.schedules.length ≤ n) :
    (decisions s.history).countP (·.founds n) = 0 := by
  rw [List.countP_eq_zero]
  intro event hevent hfounds
  cases event <;> simp only [Event.founds, Bool.false_eq_true] at hfounds
  case installed index raw schedule? =>
    cases schedule? with
    | none => simp at hfounds
    | some m =>
      obtain rfl : m = n := by simpa using hfounds
      obtain ⟨schedule, hschedule, -⟩ := h.founded index raw m hevent
      exact Nat.not_lt_of_le hn (List.getElem?_eq_some_iff.1 hschedule).1

theorem placeSchedule (h : Tenancy s) {element : Element}
    (helement : s.elements[index]? = some element) (hvacant : element.stage = .vacant)
    (raw : String) : Tenancy (s.placeSchedule index element.cell raw
      ((Directive.parse raw).map (resolve s.registry s.floor))) := by
  have hnew := h.tenant_placeSchedule helement raw
  have hnone := h.countP_founds_eq_zero (Nat.le_refl s.schedules.length)
  obtain ⟨hcelled, htenants, hfounded, honce⟩ := h
  constructor
  case celled => exact celled_set hcelled helement rfl
  case tenants =>
    intro n schedule hschedule
    rcases Nat.lt_trichotomy n s.schedules.length with hn | rfl | hn
    · have hold : s.schedules[n]? = some schedule :=
        (List.getElem?_append_left hn).symm.trans hschedule
      refine (htenants n schedule hold).stay_of_cells rfl rfl ?_
      intro hlodged
      have hne := ne_of_not_settled helement (by rw [hvacant]; exact Stage.noConfusion) hlodged
      exact ⟨List.getElem?_set_ne hne, standing?_cons_of_not (by simpa [Event.decides]) _⟩
    · simp only [State.placeSchedule, State.record, List.getElem?_concat_length,
        Option.some.injEq] at hschedule
      subst hschedule
      exact hnew
    · simp only [State.placeSchedule, State.record] at hschedule
      have hlength := (List.getElem?_eq_some_iff.1 hschedule).1
      simp only [List.length_append, List.length_singleton] at hlength
      omega
  case founded =>
    intro i text n hmem
    have hcases : (i = index ∧ text = raw ∧ n = s.schedules.length) ∨
        Event.installed i text (some n) ∈ decisions s.history := by
      simpa [State.placeSchedule, State.record, decisions, Event.isDecision] using hmem
    rcases hcases with ⟨rfl, rfl, rfl⟩ | hold
    · exact ⟨_, List.getElem?_concat_length, rfl, rfl⟩
    · obtain ⟨schedule, hschedule, hplace⟩ := hfounded i text n hold
      have hn : n < s.schedules.length := (List.getElem?_eq_some_iff.1 hschedule).1
      exact ⟨schedule, (List.getElem?_append_left hn).trans hschedule, hplace⟩
  case once =>
    intro n
    have hdecisions : decisions (s.placeSchedule index element.cell raw
        ((Directive.parse raw).map (resolve s.registry s.floor))).history =
          .installed index raw (some s.schedules.length) :: decisions s.history := rfl
    rw [hdecisions, List.countP_cons]
    by_cases hn : s.schedules.length = n
    · rw [← hn, hnone]
      split <;> omega
    · have hother : Event.founds n (.installed index raw (some s.schedules.length)) = false := by
        simpa [Event.founds] using hn
      rw [hother]
      exact honce n

/-- Every step keeps every tenant. -/
theorem step (h : Tenancy s) (label : Label σ) : Tenancy (s.step label) := by
  cases label with
  | change change =>
    cases change with
    | append => exact h.append
    | supersede index => exact h.supersede index
    | vacate index => exact h.vacate index
    | truncate size => exact h.truncate size
    | exchange registry =>
      have hstill : Still s (s.step (.change (.exchange registry))) :=
        ⟨rfl, rfl, rfl, rfl, rfl, rfl⟩
      exact hstill.tenancy h
    | place index raw =>
      simp only [State.step, State.change]
      rcases State.place_cases s index raw with
        hstep | ⟨element, helement, hvacant, ⟨-, hstep⟩ | hstep⟩
      · rw [hstep]
        exact h
      · rw [hstep]
        exact h.placeLiteral helement hvacant raw
      · rw [hstep]
        exact h.placeSchedule helement hvacant raw
  | poll task rendering => exact (State.still_poll task rendering).tenancy h
  | finish task rendering => exact (State.still_finish task rendering).tenancy h
  | complete task => exact (State.still_complete task).tenancy h
  | elapse nanoseconds =>
    obtain ⟨hcelled, htenants, hfounded, honce⟩ := h
    refine ⟨hcelled, fun n schedule hschedule ↦ ?_, hfounded, honce⟩
    obtain ⟨hcounted, hlodged, hplanned⟩ := htenants n schedule hschedule
    exact ⟨hcounted, hlodged, hplanned⟩
  | disturb disturbance =>
    have hstill : Still s (s.step (.disturb disturbance)) := ⟨rfl, rfl, rfl, rfl, rfl, rfl⟩
    exact hstill.tenancy h

theorem initial (registry : Registry σ) (floor : Duration) (world : σ) :
    Tenancy (State.initial registry floor world) := by
  constructor
  case celled => simp [State.initial]
  case tenants => simp [State.initial]
  case founded => simp [State.initial, decisions]
  case once => simp [State.initial, decisions]

theorem run (registry : Registry σ) (floor : Duration) (world : σ) (labels : List (Label σ)) :
    Tenancy ((State.initial registry floor world).run labels) := by
  have hstep (s : State σ) (label : Label σ) (_ : True) (h : Tenancy s) :
      Tenancy (s.step label) := h.step label
  exact State.run_preserves hstep (initial registry floor world) fun _ _ ↦ trivial

/-- Every task is the resolution of a directive. -/
theorem exists_resolve (h : Tenancy s) {task : Task σ} (htask : s.task? id = some task) :
    ∃ (registry : Registry σ) (d : Directive.Descriptor), task.value = resolve registry s.floor d := by
  obtain ⟨schedule, hschedule, htask⟩ := Option.bind_eq_some_iff.1 htask
  obtain ⟨registry, hvalues⟩ := (h.tenants _ schedule hschedule).planned
  have hmem : task.value ∈ schedule.tasks.map Task.value :=
    List.mem_map_of_mem (List.mem_of_getElem? htask)
  rw [hvalues, List.mem_map] at hmem
  obtain ⟨d, -, hvalue⟩ := hmem
  exact ⟨registry, d, hvalue.symm⟩

end Tenancy

end LiveTemplate.Refresh

import LiveTemplate.Proofs.Refresh.Tenancy

/-!
# Who runs

An element knows the number of the schedule that it runs. No two elements share a cell, and so none
of them takes another one's schedule away. Every schedule that has not been told to stop is run by
the element at its position, and is the installed one as soon as the element is settled; an element
without a text runs nothing, and a settled one runs a schedule if its text has directives. This
holds between any two changes of the list, whatever the order of the changes.
-/

namespace LiveTemplate.Refresh

open Command (Registry)

variable {σ : Type} {s t : State σ} {index n : Nat} {element other : Element}
  {schedule before after : Schedule σ}

/-- An element that is vacated gives its schedule up, which is told to stop. -/
theorem State.vacate_of_superseded (helement : s.elements[index]? = some element)
    (hstage : element.stage = .superseded) :
    s.vacate index = { s with
      schedules :=
        match element.schedule? with
        | some n => s.schedules.modify n Schedule.cancel
        | none => s.schedules
      elements := s.elements.set index { element with schedule? := none, stage := .vacant } } := by
  cases hschedule : element.schedule? <;>
    simp only [vacate, helement, hstage, if_true, hschedule]

/-- A text is placed alone if it has no directives, and with a schedule if it has some. -/
theorem State.place_of_vacant (helement : s.elements[index]? = some element)
    (hvacant : element.stage = .vacant) (raw : String) :
    s.place index raw = if (Directive.parse raw).isEmpty then
        s.placeLiteral index element.cell raw
      else
        s.placeSchedule index element.cell raw
          ((Directive.parse raw).map (resolve s.registry s.floor)) := by
  simp only [place, helement, hvacant, if_true, List.isEmpty_map]

/-! ## Schedules that are run -/

/-- The schedule that an element at a position runs. -/
structure Element.Runs (s : State σ) (index : Nat) (element : Element) (schedule : Schedule σ) :
    Prop where
  index : schedule.index = index
  cell : schedule.cell = element.cell
  raw : schedule.raw = element.raw
  running : schedule.cancelled = false
  installed : element.stage = .settled → s.isInstalled schedule = true

/-- What its tasks do does not matter to the element that runs a schedule. -/
theorem Element.Runs.of_plan (h : element.Runs s index before) (hplan : before.plan = after.plan)
    (hcells : t.cells = s.cells) : element.Runs t index after := by
  obtain ⟨hindex, hcell, hraw, hrunning, hinstalled⟩ := h
  have hbecomes := Schedule.Becomes.of_plan hplan
  have hcancelled : before.plan.cancelled = after.plan.cancelled :=
    congrArg Schedule.cancelled hplan
  constructor
  case index => exact hbecomes.index.trans hindex
  case cell => exact hbecomes.cell.trans hcell
  case raw => exact hbecomes.raw.trans hraw
  case running => exact hcancelled.symm.trans hrunning
  case installed =>
    intro hsettled
    rw [State.isInstalled, hcells, hbecomes.cell, hbecomes.generation]
    exact hinstalled hsettled

/-- An element goes on running its schedule while its own cell stands still. -/
theorem Element.Runs.of_cell (h : element.Runs s index schedule)
    (hcell : t.cells[element.cell]? = s.cells[element.cell]?) : element.Runs t index schedule := by
  obtain ⟨hindex, hschedule, hraw, hrunning, hinstalled⟩ := h
  refine ⟨hindex, hschedule, hraw, hrunning, fun hsettled ↦ ?_⟩
  rw [State.isInstalled, hschedule, hcell, ← hschedule]
  exact hinstalled hsettled

/-- Elements and the schedules that have not been told to stop belong together. -/
structure Housed (s : State σ) : Prop where
  apart : ∀ (i j : Nat) (a b : Element), s.elements[i]? = some a → s.elements[j]? = some b →
    a.cell = b.cell → i = j
  vacant : ∀ element ∈ s.elements, element.stage = .vacant → element.schedule? = none
  settled : ∀ element ∈ s.elements, element.stage = .settled →
    (element.schedule?.isSome = true ↔ Directive.parse element.raw ≠ [])
  runs : ∀ (index : Nat) (element : Element) (n : Nat), s.elements[index]? = some element →
    element.schedule? = some n →
      ∃ schedule, s.schedules[n]? = some schedule ∧ element.Runs s index schedule
  housed : ∀ (n : Nat) (schedule : Schedule σ), s.schedules[n]? = some schedule →
    schedule.cancelled = false →
    ∃ element, s.elements[schedule.index]? = some element ∧ element.schedule? = some n

/-- Two positions do not run one schedule. -/
theorem Housed.ne_of_index_ne (h : Housed s) {i j m : Nat} (hij : i ≠ j)
    (helement : s.elements[i]? = some element) (hn : element.schedule? = some n)
    (hother : s.elements[j]? = some other) (hm : other.schedule? = some m) : n ≠ m := by
  rintro rfl
  obtain ⟨schedule, hschedule, hruns⟩ := h.runs i element n helement hn
  obtain ⟨found, hfound, hruns'⟩ := h.runs j other n hother hm
  obtain rfl : schedule = found := Option.some.inj (hschedule.symm.trans hfound)
  exact hij (hruns.index.symm.trans hruns'.index)

/-- Nothing about the elements changes while the list stands still. -/
theorem Still.housed (h : Still s t) (housed : Housed s) : Housed t := by
  obtain ⟨hapart, hvacant, hsettled, hruns, hhoused⟩ := housed
  constructor
  case apart => rw [h.elements]; exact hapart
  case vacant => rw [h.elements]; exact hvacant
  case settled => rw [h.elements]; exact hsettled
  case runs =>
    intro index element n helement hn
    rw [h.elements] at helement
    obtain ⟨before, hbefore, hrun⟩ := hruns index element n helement hn
    obtain ⟨after, hafter, hplan⟩ := h.exists_plan hbefore
    exact ⟨after, hafter, hrun.of_plan hplan h.cells⟩
  case housed =>
    intro n after hafter hrunning
    obtain ⟨before, hbefore, hplan⟩ := h.symm.exists_plan hafter
    have hindex : after.plan.index = before.plan.index := congrArg Schedule.index hplan
    have hcancelled : before.plan.cancelled = after.plan.cancelled :=
      (congrArg Schedule.cancelled hplan).symm
    rw [h.elements, show after.index = before.index from hindex]
    exact hhoused n before hbefore (hcancelled.trans hrunning)

/-! ## One element is replaced -/

/-- What is found in a list of elements of which one has been replaced. -/
theorem getElem?_set_cases {elements : List Element} {i : Nat} {found : Element}
    (helement : elements[index]? = some element)
    (h : (elements.set index other)[i]? = some found) :
    i = index ∧ found = other ∨ i ≠ index ∧ elements[i]? = some found := by
  have hlength : index < elements.length := (List.getElem?_eq_some_iff.1 helement).1
  by_cases hi : i = index
  · subst hi
    rw [List.getElem?_set_self hlength] at h
    exact .inl ⟨rfl, (Option.some.inj h).symm⟩
  · rw [List.getElem?_set_ne (Ne.symm hi)] at h
    exact .inr ⟨hi, h⟩

/-- An element that is replaced leaves its cell to the next one, so that cells stay apart. -/
theorem Housed.apart_set (h : Housed s) (helement : s.elements[index]? = some element)
    (hcell : other.cell = element.cell) :
    ∀ (i j : Nat) (a b : Element), (s.elements.set index other)[i]? = some a →
      (s.elements.set index other)[j]? = some b → a.cell = b.cell → i = j := by
  have hfound (i : Nat) (a : Element) (ha : (s.elements.set index other)[i]? = some a) :
      ∃ found, s.elements[i]? = some found ∧ found.cell = a.cell := by
    rcases getElem?_set_cases helement ha with ⟨rfl, rfl⟩ | ⟨-, ha⟩
    · exact ⟨element, helement, hcell.symm⟩
    · exact ⟨a, ha, rfl⟩
  intro i j a b ha hb hab
  obtain ⟨first, hfirst, hfirstCell⟩ := hfound i a ha
  obtain ⟨second, hsecond, hsecondCell⟩ := hfound j b hb
  exact h.apart i j first second hfirst hsecond (hfirstCell.trans (hab.trans hsecondCell.symm))

/-- What holds of every element still holds when one is replaced by another one of which it holds. -/
theorem forall_mem_set {P : Element → Prop} {elements : List Element}
    (h : ∀ element ∈ elements, P element) (hother : P other) :
    ∀ element ∈ elements.set index other, P element := by
  intro found hfound
  rcases List.mem_or_eq_of_mem_set hfound with hold | rfl
  · exact h found hold
  · exact hother

namespace Housed

/-! ## Changes -/

theorem append (tenancy : Tenancy s) (h : Housed s) : Housed s.append := by
  obtain ⟨hapart, hvacant, hsettled, hruns, hhoused⟩ := h
  have hcells (i : Nat) (found : Element) (hfound : s.append.elements[i]? = some found) :
      s.elements[i]? = some found ∨ i = s.elements.length ∧ found = { cell := s.cells.length } := by
    rcases Nat.lt_trichotomy i s.elements.length with hi | rfl | hi
    · exact .inl ((List.getElem?_append_left hi).symm.trans hfound)
    · right
      simpa [State.append, eq_comm] using hfound
    · have hlength := (List.getElem?_eq_some_iff.1 hfound).1
      simp only [State.append, List.length_append, List.length_singleton] at hlength
      omega
  have hold (i : Nat) (found : Element) (hfound : s.elements[i]? = some found) :
      found.cell < s.cells.length := tenancy.celled found (List.mem_of_getElem? hfound)
  constructor
  case apart =>
    intro i j a b ha hb hab
    rcases hcells i a ha with ha | ⟨rfl, rfl⟩ <;> rcases hcells j b hb with hb | ⟨rfl, rfl⟩
    · exact hapart i j a b ha hb hab
    · exact absurd hab (Nat.ne_of_lt (hold i a ha))
    · exact absurd hab (Nat.ne_of_gt (hold j b hb))
    · rfl
  case vacant =>
    intro found hfound
    rcases List.mem_append.1 hfound with hfound | hfound
    · exact hvacant found hfound
    · obtain rfl := List.mem_singleton.1 hfound
      exact fun _ ↦ rfl
  case settled =>
    intro found hfound
    rcases List.mem_append.1 hfound with hfound | hfound
    · exact hsettled found hfound
    · obtain rfl := List.mem_singleton.1 hfound
      exact fun hstage ↦ Stage.noConfusion hstage
  case runs =>
    intro i found n hfound hn
    rcases hcells i found hfound with hfound | ⟨-, rfl⟩
    · obtain ⟨schedule, hschedule, hrun⟩ := hruns i found n hfound hn
      exact ⟨schedule, hschedule, hrun.of_cell (List.getElem?_append_left (hold i found hfound))⟩
    · simp at hn
  case housed =>
    intro n schedule hschedule hrunning
    obtain ⟨element, helement, hn⟩ := hhoused n schedule hschedule hrunning
    have hindex : schedule.index < s.elements.length := (List.getElem?_eq_some_iff.1 helement).1
    exact ⟨element, (List.getElem?_append_left hindex).trans helement, hn⟩

theorem supersede (h : Housed s) (index : Nat) : Housed (s.supersede index) := by
  rcases State.supersede_cases s index with hstep | ⟨element, helement, hstep⟩
  · rw [hstep]
    exact h
  rw [hstep]
  constructor
  case apart => exact h.apart_set helement rfl
  case vacant => exact forall_mem_set h.vacant fun hstage ↦ Stage.noConfusion hstage
  case settled => exact forall_mem_set h.settled fun hstage ↦ Stage.noConfusion hstage
  case runs =>
    intro i found n hfound hn
    rcases getElem?_set_cases helement hfound with ⟨rfl, rfl⟩ | ⟨hi, hfound⟩
    · obtain ⟨schedule, hschedule, hrun⟩ := h.runs i element n helement hn
      exact ⟨schedule, hschedule, hrun.index, hrun.cell, hrun.raw, hrun.running,
        fun hstage ↦ Stage.noConfusion hstage⟩
    · obtain ⟨schedule, hschedule, hrun⟩ := h.runs i found n hfound hn
      have hne : element.cell ≠ found.cell :=
        fun heq ↦ hi (h.apart index i element found helement hfound heq).symm
      exact ⟨schedule, hschedule, hrun.of_cell (by simp [hne])⟩
  case housed =>
    intro n schedule hschedule hrunning
    obtain ⟨found, hfound, hn⟩ := h.housed n schedule hschedule hrunning
    by_cases hi : schedule.index = index
    · subst hi
      obtain rfl : element = found := Option.some.inj (helement.symm.trans hfound)
      have hlength : schedule.index < s.elements.length := (List.getElem?_eq_some_iff.1 hfound).1
      exact ⟨_, List.getElem?_set_self hlength, hn⟩
    · exact ⟨found, (List.getElem?_set_ne (Ne.symm hi)).trans hfound, hn⟩

/-- The schedules after an element has been vacated: its own is told to stop, the others stay. -/
theorem schedules_vacate_ne (h : s.elements[index]? = some element)
    (hn : element.schedule? ≠ some n) :
    (s.vacate index).schedules[n]? = s.schedules[n]? := by
  unfold State.vacate
  rw [h]
  simp only
  split
  · cases hschedule : element.schedule? with
    | none => rfl
    | some m =>
      have hne : m ≠ n := fun heq ↦ hn (heq ▸ hschedule)
      simp [hne]
  · rfl

theorem cancelled_of_vacate (h : s.elements[index]? = some element)
    (hstage : element.stage = .superseded) (hn : element.schedule? = some n)
    (hschedule : (s.vacate index).schedules[n]? = some schedule) : schedule.cancelled = true := by
  rw [State.vacate_of_superseded h hstage] at hschedule
  simp only [hn, List.getElem?_modify_eq, Option.map_eq_map, Option.map_eq_some_iff] at hschedule
  obtain ⟨before, -, rfl⟩ := hschedule
  rfl

theorem vacate (h : Housed s) (index : Nat) : Housed (s.vacate index) := by
  rcases State.vacate_cases s index with hstep | ⟨element, schedules, helement, hstage, -, hstep⟩
  · rw [hstep]
    exact h
  have hother {n : Nat} (hn : element.schedule? ≠ some n) : schedules[n]? = s.schedules[n]? := by
    have hsame := schedules_vacate_ne helement hn
    rw [hstep] at hsame
    exact hsame
  have hown {n : Nat} (hn : element.schedule? = some n) {schedule : Schedule σ}
      (hschedule : schedules[n]? = some schedule) : schedule.cancelled = true := by
    apply cancelled_of_vacate helement hstage hn
    rw [hstep]
    exact hschedule
  rw [hstep]
  constructor
  case apart => exact h.apart_set helement rfl
  case vacant => exact forall_mem_set h.vacant fun _ ↦ rfl
  case settled => exact forall_mem_set h.settled fun hstage ↦ Stage.noConfusion hstage
  case runs =>
    intro i found n hfound hn
    rcases getElem?_set_cases helement hfound with ⟨rfl, rfl⟩ | ⟨hi, hfound⟩
    · simp at hn
    · obtain ⟨schedule, hschedule, hrun⟩ := h.runs i found n hfound hn
      have hne : element.schedule? ≠ some n := fun hm ↦
        h.ne_of_index_ne (Ne.symm hi) helement hm hfound hn rfl
      exact ⟨schedule, (hother hne).trans hschedule, hrun.of_cell rfl⟩
  case housed =>
    intro n schedule hschedule hrunning
    have hne : element.schedule? ≠ some n := by
      intro hn
      rw [hown hn hschedule] at hrunning
      contradiction
    obtain ⟨found, hfound, hn⟩ := h.housed n schedule ((hother hne).symm.trans hschedule) hrunning
    have hi : index ≠ schedule.index := by
      rintro rfl
      obtain rfl : element = found := Option.some.inj (helement.symm.trans hfound)
      exact hne hn
    exact ⟨found, (List.getElem?_set_ne hi).trans hfound, hn⟩

theorem truncate (h : Housed s) (size : Nat) : Housed (s.truncate size) := by
  rcases State.truncate_cases s size with hstep | ⟨hdropped, hstep⟩
  · rw [hstep]
    exact h
  rw [hstep]
  have hkept (i : Nat) (found : Element) (hfound : (s.elements.take size)[i]? = some found) :
      s.elements[i]? = some found := by
    rw [List.getElem?_take] at hfound
    split at hfound
    · exact hfound
    · contradiction
  constructor
  case apart => exact fun i j a b ha hb ↦ h.apart i j a b (hkept i a ha) (hkept j b hb)
  case vacant => exact fun element helement ↦ h.vacant element (List.mem_of_mem_take helement)
  case settled => exact fun element helement ↦ h.settled element (List.mem_of_mem_take helement)
  case runs =>
    intro i found n hfound hn
    obtain ⟨schedule, hschedule, hrun⟩ := h.runs i found n (hkept i found hfound) hn
    exact ⟨schedule, hschedule, hrun.of_cell rfl⟩
  case housed =>
    intro n schedule hschedule hrunning
    obtain ⟨found, hfound, hn⟩ := h.housed n schedule hschedule hrunning
    have hindex : schedule.index < size := by
      refine Nat.lt_of_not_le fun hle ↦ ?_
      have hdrop : (s.elements.drop size)[schedule.index - size]? = some found := by
        rw [List.getElem?_drop, Nat.add_sub_cancel' hle]
        exact hfound
      have hnone := h.vacant found (List.mem_of_getElem? hfound)
        (hdropped found (List.mem_of_getElem? hdrop))
      rw [hn] at hnone
      contradiction
    exact ⟨found, (List.getElem?_take_of_lt hindex).trans hfound, hn⟩

theorem placeLiteral (h : Housed s) (helement : s.elements[index]? = some element)
    (hvacant : element.stage = .vacant) {raw : String} (hraw : Directive.parse raw = []) :
    Housed (s.placeLiteral index element.cell raw) := by
  have hnone := h.vacant element (List.mem_of_getElem? helement) hvacant
  constructor
  case apart => exact h.apart_set helement rfl
  case vacant => exact forall_mem_set h.vacant fun hstage ↦ Stage.noConfusion hstage
  case settled => exact forall_mem_set h.settled fun _ ↦ by simp [hraw]
  case runs =>
    intro i found n hfound hn
    rcases getElem?_set_cases helement hfound with ⟨rfl, rfl⟩ | ⟨-, hfound⟩
    · simp at hn
    · obtain ⟨schedule, hschedule, hrun⟩ := h.runs i found n hfound hn
      exact ⟨schedule, hschedule, hrun.of_cell rfl⟩
  case housed =>
    intro n schedule hschedule hrunning
    obtain ⟨found, hfound, hn⟩ := h.housed n schedule hschedule hrunning
    have hi : index ≠ schedule.index := by
      rintro rfl
      obtain rfl : element = found := Option.some.inj (helement.symm.trans hfound)
      rw [hnone] at hn
      contradiction
    exact ⟨found, (List.getElem?_set_ne hi).trans hfound, hn⟩

theorem placeSchedule (tenancy : Tenancy s) (h : Housed s)
    (helement : s.elements[index]? = some element) (hvacant : element.stage = .vacant)
    {raw : String} (hraw : Directive.parse raw ≠ []) (values : List (Value σ)) :
    Housed (s.placeSchedule index element.cell raw values) := by
  have hnone := h.vacant element (List.mem_of_getElem? helement) hvacant
  have hcell := tenancy.celled element (List.mem_of_getElem? helement)
  have hlength : index < s.elements.length := (List.getElem?_eq_some_iff.1 helement).1
  constructor
  case apart => exact h.apart_set helement rfl
  case vacant => exact forall_mem_set h.vacant fun hstage ↦ Stage.noConfusion hstage
  case settled => exact forall_mem_set h.settled fun _ ↦ by simp [hraw]
  case runs =>
    intro i found n hfound hn
    rcases getElem?_set_cases helement hfound with ⟨rfl, rfl⟩ | ⟨-, hfound⟩
    · obtain rfl := Option.some.inj hn
      refine ⟨_, List.getElem?_concat_length, rfl, rfl, rfl, rfl, fun _ ↦ ?_⟩
      simp [State.isInstalled, State.placeSchedule, State.record, hcell]
    · obtain ⟨schedule, hschedule, hrun⟩ := h.runs i found n hfound hn
      have hold : n < s.schedules.length := (List.getElem?_eq_some_iff.1 hschedule).1
      exact ⟨schedule, (List.getElem?_append_left hold).trans hschedule, hrun.of_cell rfl⟩
  case housed =>
    intro n schedule hschedule hrunning
    simp only [State.placeSchedule, State.record] at hschedule
    rcases Nat.lt_or_ge n s.schedules.length with hold | hnew
    · rw [List.getElem?_append_left hold] at hschedule
      obtain ⟨found, hfound, hn⟩ := h.housed n schedule hschedule hrunning
      have hi : index ≠ schedule.index := by
        rintro rfl
        obtain rfl : element = found := Option.some.inj (helement.symm.trans hfound)
        rw [hnone] at hn
        contradiction
      exact ⟨found, (List.getElem?_set_ne hi).trans hfound, hn⟩
    · rw [List.getElem?_append_right hnew, List.getElem?_singleton] at hschedule
      split at hschedule
      case isTrue hsub =>
        obtain rfl : n = s.schedules.length := by omega
        obtain rfl := Option.some.inj hschedule
        exact ⟨_, List.getElem?_set_self hlength, rfl⟩
      case isFalse => contradiction

theorem place (tenancy : Tenancy s) (h : Housed s) (index : Nat) (raw : String) :
    Housed (s.place index raw) := by
  cases helement : s.elements[index]? with
  | none =>
    rw [State.place, helement]
    exact h
  | some element =>
    by_cases hvacant : element.stage = .vacant
    · rw [State.place_of_vacant helement hvacant]
      split
      case isTrue hraw => exact h.placeLiteral helement hvacant (by simpa using hraw)
      case isFalse hraw => exact h.placeSchedule tenancy helement hvacant (by simpa using hraw) _
    · simp only [State.place, helement, hvacant, if_false]
      exact h

/-- Only the elements, the schedules and the cells matter. -/
theorem of_eq (h : Housed s) (helements : t.elements = s.elements)
    (hschedules : t.schedules = s.schedules) (hcells : t.cells = s.cells) : Housed t := by
  obtain ⟨hapart, hvacant, hsettled, hruns, hhoused⟩ := h
  rw [← helements] at hapart hvacant hsettled hruns hhoused
  rw [← hschedules] at hruns hhoused
  refine ⟨hapart, hvacant, hsettled, ?_, hhoused⟩
  intro index element n helement hn
  obtain ⟨schedule, hschedule, hrun⟩ := hruns index element n helement hn
  exact ⟨schedule, hschedule, hrun.of_cell (by rw [hcells])⟩

/-- Every step keeps elements and schedules together. -/
theorem step (tenancy : Tenancy s) (h : Housed s) (label : Label σ) : Housed (s.step label) := by
  cases label with
  | change change =>
    cases change with
    | append => exact h.append tenancy
    | supersede index => exact h.supersede index
    | vacate index => exact h.vacate index
    | place index raw => exact h.place tenancy index raw
    | truncate size => exact h.truncate size
    | exchange registry => exact h.of_eq rfl rfl rfl
  | poll task rendering => exact (State.still_poll task rendering).housed h
  | finish task rendering => exact (State.still_finish task rendering).housed h
  | complete task => exact (State.still_complete task).housed h
  | elapse nanoseconds => exact h.of_eq rfl rfl rfl
  | disturb change => exact h.of_eq rfl rfl rfl

end Housed

/-! ## Runs -/

/-- What holds of the list of texts at every point of every run. -/
structure Kept (s : State σ) : Prop where
  tenancy : Tenancy s
  housed : Housed s

namespace Kept

theorem step (h : Kept s) (label : Label σ) : Kept (s.step label) :=
  ⟨h.tenancy.step label, h.housed.step h.tenancy label⟩

theorem initial (registry : Registry σ) (floor : Duration) (world : σ) :
    Kept (State.initial registry floor world) := by
  refine ⟨.initial registry floor world, ?_⟩
  constructor <;> simp [State.initial]

theorem run (h : Kept s) (labels : List (Label σ)) : Kept (s.run labels) := by
  have hstep (s : State σ) (label : Label σ) (_ : True) (h : Kept s) : Kept (s.step label) :=
    h.step label
  exact State.run_preserves hstep h fun _ _ ↦ trivial

end Kept

/-! ## Schedules and their tasks -/

namespace State

variable {id : TaskId}

theorem isCancelled_of_schedule (h : s.schedules[id.schedule]? = some schedule) :
    s.isCancelled id = schedule.cancelled := by
  rw [isCancelled, h]
  rfl

theorem isCurrent_of_schedule (h : s.schedules[id.schedule]? = some schedule) :
    s.isCurrent id = s.isInstalled schedule := by
  rw [isCurrent, h]
  rfl

/-- A task has a schedule, and is one of the directives of its text. -/
theorem exists_schedule (kept : Kept s) (h : (s.task? id).isSome = true) :
    ∃ schedule, s.schedules[id.schedule]? = some schedule ∧
      id.directive < (Directive.parse schedule.raw).length := by
  obtain ⟨task, htask⟩ := Option.isSome_iff_exists.1 h
  obtain ⟨schedule, hschedule, htask⟩ := Option.bind_eq_some_iff.1 htask
  have hlength := (kept.tenancy.tenants _ schedule hschedule).length_tasks
  exact ⟨schedule, hschedule, hlength ▸ (List.getElem?_eq_some_iff.1 htask).1⟩

/-- The installed schedule has not been told to stop. -/
theorem running_of_isInstalled (kept : Kept s) (hschedule : s.schedules[n]? = some schedule)
    (hinstalled : s.isInstalled schedule = true) : schedule.cancelled = false := by
  obtain ⟨helement, -⟩ := (kept.tenancy.tenants n schedule hschedule).lodged hinstalled
  obtain ⟨found, hfound, hruns⟩ := kept.housed.runs _ _ n helement rfl
  obtain rfl : schedule = found := Option.some.inj (hschedule.symm.trans hfound)
  exact hruns.running

end State

end LiveTemplate.Refresh

import LiveTemplate.Proofs.Refresh.Housing
import LiveTemplate.Proofs.Refresh.Reordering

/-!
# Elements apart

The elements of the list share the registry, the clock, the workers and the renderer, and a position
may be taken again after the list has shrunk. Nothing that happens to one element happens to another:
a change of the list touches the element at its own position, and a task that of its own schedule,
also when the schedule has lost its place. So whatever spares an element from the one point of a run
to another one leaves its text, its generation, its tasks, what they have been told and what has been
shown for it as they were. And since tasks of different elements share nothing that they look at,
their steps can be taken in either order, unless their commands look at the world.
-/

namespace LiveTemplate.Refresh

open Command (Registry)

variable {σ : Type} {s t u : State σ} {id other : TaskId} {index : Nat}

/-! ## Elements to which nothing happens -/

/-- Nothing has happened to the element at a position, nor to the schedules that have ever been
started there. -/
structure Undisturbed (index : Nat) (s t : State σ) : Prop where
  element : t.elements[index]? = s.elements[index]?
  text : t.text? index = s.text? index
  generation : t.generation? index = s.generation? index
  tasks : t.tasks? index = s.tasks? index
  schedules : ∀ (n : Nat) (schedule : Schedule σ), schedule.index = index →
    (t.schedules[n]? = some schedule ↔ s.schedules[n]? = some schedule)
  renders : rendersAt index t.history = rendersAt index s.history

namespace Undisturbed

theorem refl (index : Nat) (s : State σ) : Undisturbed index s s :=
  ⟨rfl, rfl, rfl, rfl, fun _ _ _ ↦ Iff.rfl, rfl⟩

theorem trans (h : Undisturbed index s t) (k : Undisturbed index t u) : Undisturbed index s u where
  element := k.element.trans h.element
  text := k.text.trans h.text
  generation := k.generation.trans h.generation
  tasks := k.tasks.trans h.tasks
  schedules n schedule hindex := (k.schedules n schedule hindex).trans (h.schedules n schedule hindex)
  renders := k.renders.trans h.renders

/-- The text and the tasks of an element come with the element and its schedules. -/
theorem of_element (kept : Kept s) (helement : t.elements[index]? = s.elements[index]?)
    (hgeneration : t.generation? index = s.generation? index)
    (hschedules : ∀ (n : Nat) (schedule : Schedule σ), schedule.index = index →
      (t.schedules[n]? = some schedule ↔ s.schedules[n]? = some schedule))
    (hrenders : rendersAt index t.history = rendersAt index s.history) :
    Undisturbed index s t := by
  have htasks : t.tasks? index = s.tasks? index := by
    rw [State.tasks?, State.tasks?, helement]
    cases hfound : s.elements[index]? with
    | none => rfl
    | some element =>
      refine congrArg some ?_
      rw [State.tasksOf, State.tasksOf]
      cases hn : element.schedule? with
      | none => rfl
      | some n =>
        obtain ⟨schedule, hschedule, hruns⟩ := kept.housed.runs index element n hfound hn
        have hsame := (hschedules n schedule hruns.index).2 hschedule
        simp only [Option.bind_some, hschedule, hsame]
  refine ⟨helement, ?_, hgeneration, htasks, hschedules, hrenders⟩
  rw [State.text?, State.text?, helement]

end Undisturbed

/-! ## What spares an element -/

/-- What happens in a state does not concern the element at a position. -/
def Label.Spares (s : State σ) (index : Nat) : Label σ → Prop
  | .change .append => index ≠ s.size
  | .change (.supersede i) | .change (.vacate i) | .change (.place i _) => index ≠ i
  | .change (.truncate size) => index < size
  | .change (.exchange _) | .elapse _ | .disturb _ => True
  | .poll task _ | .finish task _ | .complete task =>
    (s.schedules[task.schedule]?).map Schedule.index ≠ some index

/-- What happens from a state on never concerns the element at a position. -/
def Spared (index : Nat) : State σ → List (Label σ) → Prop
  | _, [] => True
  | s, label :: labels => label.Spares s index ∧ Spared index (s.step label) labels

namespace State

/-- The schedules of an element stay when one of another element is changed. -/
theorem schedules_modify_iff {schedules : List (Schedule σ)} {f : Schedule σ → Schedule σ} {n : Nat}
    (hf : ∀ schedule, (f schedule).index = schedule.index)
    (hn : (schedules[n]?).map Schedule.index ≠ some index) (m : Nat) (schedule : Schedule σ)
    (hindex : schedule.index = index) :
    (schedules.modify n f)[m]? = some schedule ↔ schedules[m]? = some schedule := by
  by_cases hm : n = m
  · subst hm
    rw [List.getElem?_modify_eq]
    cases hfound : schedules[n]? with
    | none => simp
    | some found =>
      have hne : found.index ≠ index := fun heq ↦ hn (by rw [hfound, Option.map_some, heq])
      constructor
      · intro h
        obtain rfl := Option.some.inj h
        exact absurd ((hf found).symm.trans hindex) hne
      · intro h
        obtain rfl := Option.some.inj h
        exact absurd hindex hne
  · rw [List.getElem?_modify_ne _ _ hm]

theorem undisturbed_takeTurn (kept : Kept s) {turn : Turn σ} (hconcerns : turn.Concerns s id)
    (h : (s.schedules[id.schedule]?).map Schedule.index ≠ some index) :
    Undisturbed index s (s.takeTurn id turn) := by
  refine .of_element kept rfl rfl ?_ ?_
  · exact schedules_modify_iff (fun _ ↦ rfl) h
  · exact rendersAt_append_of_none (hconcerns.renderAt?_eq_none h) s.history

/-- A step of a task spares the elements at other positions. -/
theorem undisturbed_of_task (kept : Kept s) {label : Label σ} (hlabel : label.task? = some id)
    (h : (s.schedules[id.schedule]?).map Schedule.index ≠ some index) :
    Undisturbed index s (s.step label) := by
  obtain ⟨turn, hconcerns, -, hturn⟩ := isTurn_step hlabel s
  have hstep : s.step label = s.takeTurn id turn := hturn s (.refl id s) fun _ _ ↦ rfl
  rw [hstep]
  exact undisturbed_takeTurn kept hconcerns h

theorem undisturbed_append (kept : Kept s) (h : index ≠ s.size) :
    Undisturbed index s s.append := by
  have helement : s.append.elements[index]? = s.elements[index]? := by
    rcases Nat.lt_or_gt_of_ne h with hlt | hgt
    · exact List.getElem?_append_left hlt
    · have hnone : s.elements[index]? = none := List.getElem?_eq_none (Nat.le_of_lt hgt)
      rw [hnone]
      apply List.getElem?_eq_none
      rw [append, List.length_append]
      exact hgt
  refine .of_element kept helement ?_ (fun _ _ _ ↦ Iff.rfl) rfl
  rw [generation?, generation?, helement]
  cases hfound : s.elements[index]? with
  | none => rfl
  | some element =>
    have hcell := kept.tenancy.celled element (List.mem_of_getElem? hfound)
    exact List.getElem?_append_left hcell

theorem undisturbed_supersede (kept : Kept s) {i : Nat} (h : index ≠ i) :
    Undisturbed index s (s.supersede i) := by
  rcases supersede_cases s i with hstep | ⟨element, helement, hstep⟩
  · rw [hstep]
    exact .refl index s
  rw [hstep]
  have hsame : (s.elements.set i { element with stage := .superseded })[index]? =
      s.elements[index]? := List.getElem?_set_ne h.symm
  refine .of_element kept hsame ?_ (fun _ _ _ ↦ Iff.rfl) ?_
  · simp only [generation?, hsame]
    cases hfound : s.elements[index]? with
    | none => rfl
    | some found =>
      have hcell : element.cell ≠ found.cell :=
        fun heq ↦ h (kept.housed.apart i index element found helement hfound heq).symm
      exact List.getElem?_modify_ne _ _ hcell
  · have hentries : ∀ entry ∈ [(⟨s.now, .superseded i⟩ : Entry)], entry.renderAt? index = none := by
      simp [Entry.renderAt?]
    exact rendersAt_append_of_none hentries s.history

theorem undisturbed_vacate (kept : Kept s) {i : Nat} (h : index ≠ i) :
    Undisturbed index s (s.vacate i) := by
  cases helement : s.elements[i]? with
  | none =>
    rw [vacate, helement]
    exact .refl index s
  | some element =>
    by_cases hstage : element.stage = .superseded
    · rw [vacate_of_superseded helement hstage]
      have hsame : (s.elements.set i { element with schedule? := none, stage := .vacant })[index]? =
          s.elements[index]? := List.getElem?_set_ne h.symm
      refine .of_element kept hsame ?_ ?_ rfl
      · simp only [generation?, hsame]
      · cases hn : element.schedule? with
        | none => exact fun _ _ _ ↦ Iff.rfl
        | some n =>
          obtain ⟨schedule, hschedule, hruns⟩ := kept.housed.runs i element n helement hn
          have hother : (s.schedules[n]?).map Schedule.index ≠ some index := by
            rw [hschedule, Option.map_some, hruns.index]
            exact fun heq ↦ h (Option.some.inj heq).symm
          exact schedules_modify_iff (fun _ ↦ rfl) hother
    · simp only [vacate, helement, hstage, if_false]
      exact .refl index s

theorem undisturbed_placeLiteral (kept : Kept s) {i : Nat} (h : index ≠ i) (cell : Nat)
    (raw : String) : Undisturbed index s (s.placeLiteral i cell raw) := by
  have hsame : (s.placeLiteral i cell raw).elements[index]? = s.elements[index]? :=
    List.getElem?_set_ne h.symm
  refine .of_element kept hsame ?_ (fun _ _ _ ↦ Iff.rfl) ?_
  · rw [generation?, generation?, hsame]
    rfl
  · have hentries : ∀ entry ∈ [(⟨s.now, .rendered i raw none⟩ : Entry),
        ⟨s.now, .installed i raw none⟩], entry.renderAt? index = none := by
      simp [Entry.renderAt?, h.symm]
    exact rendersAt_append_of_none hentries s.history

theorem undisturbed_placeSchedule (kept : Kept s) {i : Nat} (h : index ≠ i) (cell : Nat)
    (raw : String) (values : List (Value σ)) :
    Undisturbed index s (s.placeSchedule i cell raw values) := by
  have hsame : (s.placeSchedule i cell raw values).elements[index]? = s.elements[index]? :=
    List.getElem?_set_ne h.symm
  refine .of_element kept hsame ?_ ?_ ?_
  · rw [generation?, generation?, hsame]
    rfl
  · intro n schedule hindex
    rcases Nat.lt_trichotomy n s.schedules.length with hn | rfl | hn
    · simp only [placeSchedule, record, List.getElem?_append_left hn]
    · -- The new schedule belongs to the other element.
      have hnone : s.schedules[s.schedules.length]? = none :=
        List.getElem?_eq_none (Nat.le_refl _)
      simp only [placeSchedule, record, List.getElem?_concat_length, hnone]
      constructor
      · intro hnew
        obtain rfl := Option.some.inj hnew
        exact absurd hindex.symm h
      · intro hnew
        contradiction
    · have hbefore : s.schedules[n]? = none := List.getElem?_eq_none (Nat.le_of_lt hn)
      have hafter : (s.placeSchedule i cell raw values).schedules[n]? = none := by
        apply List.getElem?_eq_none
        rw [placeSchedule, record, List.length_append]
        exact hn
      rw [hbefore, hafter]
  · have hentries : ∀ entry ∈ [(⟨s.now, .installed i raw (some s.schedules.length)⟩ : Entry)],
        entry.renderAt? index = none := by
      simp [Entry.renderAt?]
    exact rendersAt_append_of_none hentries s.history

theorem undisturbed_place (kept : Kept s) {i : Nat} (h : index ≠ i) (raw : String) :
    Undisturbed index s (s.place i raw) := by
  rcases place_cases s i raw with hstep | ⟨element, -, -, ⟨-, hstep⟩ | hstep⟩
  · rw [hstep]
    exact .refl index s
  · rw [hstep]
    exact undisturbed_placeLiteral kept h element.cell raw
  · rw [hstep]
    exact undisturbed_placeSchedule kept h element.cell raw _

theorem undisturbed_truncate (kept : Kept s) {size : Nat} (h : index < size) :
    Undisturbed index s (s.truncate size) := by
  rcases truncate_cases s size with hstep | ⟨-, hstep⟩
  · rw [hstep]
    exact .refl index s
  rw [hstep]
  have hsame : (s.elements.take size)[index]? = s.elements[index]? := List.getElem?_take_of_lt h
  refine .of_element kept hsame ?_ (fun _ _ _ ↦ Iff.rfl) ?_
  · simp only [generation?, hsame]
  · refine rendersAt_append_of_none (fun entry hentry ↦ ?_) s.history
    obtain ⟨i, -, rfl⟩ := List.mem_map.1 (List.mem_reverse.1 hentry)
    rfl

/-- What does not concern an element leaves it alone. -/
theorem undisturbed_step (kept : Kept s) {label : Label σ} (h : label.Spares s index) :
    Undisturbed index s (s.step label) := by
  cases label with
  | change change =>
    cases change with
    | append => exact undisturbed_append kept h
    | supersede i => exact undisturbed_supersede kept h
    | vacate i => exact undisturbed_vacate kept h
    | place i raw => exact undisturbed_place kept h raw
    | truncate size => exact undisturbed_truncate kept h
    | exchange registry => exact .of_element kept rfl rfl (fun _ _ _ ↦ Iff.rfl) rfl
  | poll task rendering => exact undisturbed_of_task kept rfl h
  | finish task rendering => exact undisturbed_of_task kept rfl h
  | complete task => exact undisturbed_of_task kept rfl h
  | elapse nanoseconds => exact .of_element kept rfl rfl (fun _ _ _ ↦ Iff.rfl) rfl
  | disturb change => exact .of_element kept rfl rfl (fun _ _ _ ↦ Iff.rfl) rfl

/-- What never concerns an element leaves it alone from beginning to end. -/
theorem undisturbed_run (kept : Kept s) {labels : List (Label σ)} (h : Spared index s labels) :
    Undisturbed index s (s.run labels) := by
  induction labels generalizing s with
  | nil => exact .refl index s
  | cons label labels ih =>
    rw [run_cons]
    exact (undisturbed_step kept h.1).trans (ih (kept.step label) h.2)

/-! ## Operations on one element -/

theorem spared_installation {i : Nat} (h : index ≠ i) (s : State σ) (raw : String) :
    Spared index s ((installation i raw).map .change) := ⟨h, h, h, trivial⟩

theorem undisturbed_setText (kept : Kept s) {i : Nat} (h : index ≠ i) (text : String) :
    Undisturbed index s (s.operate (.setText i text)) := by
  rw [← run_changes]
  apply undisturbed_run kept
  rw [Operation.changes]
  split
  · exact spared_installation h s text
  · trivial

theorem undisturbed_pushText (kept : Kept s) (h : index ≠ s.size) (text : String) :
    Undisturbed index s (s.operate (.pushText text)) := by
  rw [← run_changes]
  exact undisturbed_run kept ⟨h, spared_installation h s.append text⟩

/-- A text for a position that does not exist is refused, and nothing happens. -/
theorem operate_setText_of_size_le {i : Nat} (h : s.size ≤ i) (text : String) :
    (Operation.setText i text).refusal? s = some (.elementNotFound i) ∧
      s.operate (.setText i text) = s := by
  have hnot : ¬ i < s.size := Nat.not_lt.2 h
  constructor
  · simp only [Operation.refusal?, hnot, if_false]
  · simp only [operate, Operation.changes, hnot, if_false, List.foldl_nil]

/-! ## Steps of different elements -/

/-- A step of a task leaves the other tasks alone. -/
theorem untouched_of_task {label : Label σ} (hlabel : label.task? = some id) (h : id ≠ other) :
    Untouched other s (s.step label) := by
  cases label with
  | poll task rendering =>
    obtain rfl := Option.some.inj hlabel
    exact untouched_poll h rendering
  | finish task rendering =>
    obtain rfl := Option.some.inj hlabel
    exact untouched_finish h rendering
  | complete task =>
    obtain rfl := Option.some.inj hlabel
    exact untouched_complete h
  | change change => contradiction
  | elapse nanoseconds => contradiction
  | disturb change => contradiction

end State

/-- Two steps of different tasks can be taken in either order, and each does to its task what it
would do alone. -/
structure Interchangeable (s : State σ) (id other : TaskId) (first second : Label σ) : Prop where
  reordered : Reordered ((s.step first).step second) ((s.step second).step first)
  first_alone : ((s.step second).step first).course? id = (s.step first).course? id
  second_alone : ((s.step first).step second).course? other = (s.step second).course? other

theorem Reordered.interchangeable {first second : Label σ} (hfirst : first.task? = some id)
    (hsecond : second.task? = some other) (hne : id ≠ other)
    (h : Reordered ((s.step first).step second) ((s.step second).step first)) :
    Interchangeable s id other first second where
  reordered := h
  first_alone := (h.course? id).trans (State.untouched_of_task hsecond hne.symm).course?
  second_alone := (h.course? other).symm.trans (State.untouched_of_task hfirst hne).course?

/-- In every run, a text for one element, a new element and a step of a task or of its worker leave
every other element alone, also when they are interleaved. A text for a position that does not exist
is refused and changes nothing. Steps of tasks at different positions can be taken in either order, if
what their commands answer depends on their parameters only; and if the commands do nothing to the
world, everything that happens later happens alike. -/
theorem elements_do_not_interfere (registry : Registry σ) (floor : Duration) (world : σ)
    (labels : List (Label σ)) :
    let s := (State.initial registry floor world).run labels
    (∀ index text other, other ≠ index →
      Undisturbed other s (s.operate (.setText index text))) ∧
    (∀ text other, other ≠ s.size → Undisturbed other s (s.operate (.pushText text))) ∧
    (∀ (label : Label σ) id schedule other, label.task? = some id →
      s.schedules[id.schedule]? = some schedule → other ≠ schedule.index →
      Undisturbed other s (s.step label)) ∧
    (∀ index during, Spared index s during → Undisturbed index s (s.run during)) ∧
    (∀ index text, s.size ≤ index →
      (Operation.setText index text).refusal? s = some (.elementNotFound index) ∧
        s.operate (.setText index text) = s) ∧
    ∀ (first second : Label σ) id other a b, first.task? = some id → second.task? = some other →
      s.schedules[id.schedule]? = some a → s.schedules[other.schedule]? = some b →
      a.index ≠ b.index →
      (∀ task, s.task? id = some task ∨ s.task? other = some task → task.value.command.IsSteady) →
      Interchangeable s id other first second ∧
        ((∀ task, s.task? id = some task ∨ s.task? other = some task →
            task.value.command.IsHarmless) →
          ((s.step first).step second).world = s.world ∧
            ((s.step second).step first).world = s.world ∧
            ∀ later, Reordered (((s.step first).step second).run later)
              (((s.step second).step first).run later)) := by
  intro s
  have hkept : Kept s := (Kept.initial registry floor world).run labels
  refine ⟨?setText, ?pushText, ?tasks, ?interleaved, ?refused, ?commute⟩
  case setText => exact fun index text other hne ↦ State.undisturbed_setText hkept hne text
  case pushText => exact fun text other hne ↦ State.undisturbed_pushText hkept hne text
  case tasks =>
    intro label id schedule other hlabel hschedule hne
    refine State.undisturbed_of_task hkept hlabel ?_
    rw [hschedule]
    exact fun heq ↦ hne (Option.some.inj heq).symm
  case interleaved => exact fun index during hspared ↦ State.undisturbed_run hkept hspared
  case refused => exact fun index text hsize ↦ State.operate_setText_of_size_le hsize text
  case commute =>
    intro first second id other a b hfirst hsecond ha hb hpositions hsteady
    have hne : id ≠ other := by
      rintro rfl
      exact hpositions (congrArg Schedule.index (Option.some.inj (ha.symm.trans hb)))
    obtain ⟨hreordered, hworld⟩ := State.step_comm hfirst hsecond ha hb hpositions
      (fun task htask ↦ hsteady task (.inl htask)) fun task htask ↦ hsteady task (.inr htask)
    refine ⟨hreordered.interchangeable hfirst hsecond hne, fun hharmless ↦ ?_⟩
    obtain ⟨hforth, hback⟩ := hworld (fun task htask ↦ hharmless task (.inl htask))
      fun task htask ↦ hharmless task (.inr htask)
    exact ⟨hforth, hback, hreordered.run (hback.trans hforth.symm)⟩

/-- Two texts are installed, and the calls of their tasks have returned from the workers. -/
def neighbours : List (Label Unit) :=
  (.append :: installation 0 "{w(), async:true}").map .change ++
    (.append :: installation 1 "{w(), async:true}").map .change ++
    [.poll ⟨0, 0⟩ .returns, .poll ⟨1, 0⟩ .returns, .complete ⟨0, 0⟩, .complete ⟨1, 0⟩]

/-- Whatever happens to the first element leaves the second one alone, and the two tasks can show
what they have got in either order, although the histories come out different. -/
theorem neighbours_do_not_interfere :
    let s := (State.initial .empty ⟨0⟩ ()).run neighbours
    let first : Label Unit := .poll ⟨0, 0⟩ .returns
    let second : Label Unit := .poll ⟨1, 0⟩ .returns
    Undisturbed 1 s (s.operate (.setText 0 "plain")) ∧
      Undisturbed 0 s (s.operate (.pushText "plain")) ∧
      Undisturbed 1 s (s.step first) ∧
      Undisturbed 1 s (s.run (first :: (retirement 0).map .change)) ∧
      s.operate (.setText 2 "plain") = s ∧
      Interchangeable s ⟨0, 0⟩ ⟨1, 0⟩ first second ∧
      (∀ later, Reordered (((s.step first).step second).run later)
        (((s.step second).step first).run later)) ∧
      ((s.step first).step second).history ≠ ((s.step second).step first).history ∧
      rendersAt 1 ((s.step first).step second).history = [(0, "Invalid command: w")] := by
  intro s first second
  obtain ⟨hsetText, hpushText, htasks, hruns, hrefused, hcommute⟩ :=
    elements_do_not_interfere .empty ⟨0⟩ () neighbours
  have hsize : s.size = 2 := by decide +kernel
  have hindex : (s.schedules[0]?).map Schedule.index = some 0 := by decide +kernel
  have hindex' : (s.schedules[1]?).map Schedule.index = some 1 := by decide +kernel
  have hunknown : (s.task? ⟨0, 0⟩).map (·.value.command.isValid) = some false := by decide +kernel
  have hunknown' : (s.task? ⟨1, 0⟩).map (·.value.command.isValid) = some false := by decide +kernel
  obtain ⟨a, ha, hzero⟩ := Option.map_eq_some_iff.1 hindex
  obtain ⟨b, hb, hone⟩ := Option.map_eq_some_iff.1 hindex'
  have hcommand (task : Task Unit) (h : s.task? ⟨0, 0⟩ = some task ∨ s.task? ⟨1, 0⟩ = some task) :
      task.value.command.IsSteady ∧ task.value.command.IsHarmless := by
    refine Command.Bound.steady_harmless_of_isValid_eq_false ?_
    rcases h with h | h
    · rw [h] at hunknown
      exact Option.some.inj hunknown
    · rw [h] at hunknown'
      exact Option.some.inj hunknown'
  have hspared : Spared 1 s (first :: (retirement 0).map .change) := by
    refine ⟨?_, fun heq ↦ ?_, fun heq ↦ ?_, trivial⟩
    · show (s.schedules[0]?).map Schedule.index ≠ some 1
      rw [hindex]
      decide
    · contradiction
    · contradiction
  obtain ⟨hinterchange, hlater⟩ := hcommute first second ⟨0, 0⟩ ⟨1, 0⟩ a b rfl rfl ha hb
    (by rw [hzero, hone]; decide) fun task h ↦ (hcommand task h).1
  obtain ⟨-, -, hlater⟩ := hlater fun task h ↦ (hcommand task h).2
  refine ⟨hsetText 0 "plain" 1 (by decide), hpushText "plain" 0 (by rw [hsize]; decide),
    htasks first ⟨0, 0⟩ a 1 rfl ha (by rw [hzero]; decide), hruns 1 _ hspared,
    (hrefused 2 "plain" (Nat.le_of_eq hsize)).2, hinterchange, hlater, ?_, ?_⟩
  · decide +kernel
  · decide +kernel

end LiveTemplate.Refresh

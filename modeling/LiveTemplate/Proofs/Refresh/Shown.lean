import LiveTemplate.Proofs.Refresh.Account
import LiveTemplate.Proofs.Refresh.Tenancy

/-!
# What is shown

Whatever is shown at a position belongs to what is installed there: the text itself where it has no
directives, and else the text with what the tasks of this very installation have published. A call
that returns late, after its text has been replaced or removed, shows nothing, whatever has been
installed at its position since.
-/

namespace LiveTemplate.Refresh

open Command (Registry)

variable {σ : Type} {s t : State σ} {id : TaskId} {n : Nat} {schedule : Schedule σ}
  {entry : Entry} {history : List Entry}

/-! ## Faithful histories -/

/-- What an installed text lets be shown: itself, or its merge on behalf of a task. -/
def due (raw : String) (source? : Option TaskId) (history : List Entry) : String :=
  match source? with
  | none => raw
  | some task => composed task.schedule raw history

/-- No publication of a schedule without an outcome. -/
def Covered (n : Nat) (raw : String) (history : List Entry) : Prop :=
  ∀ directive < (Directive.parse raw).length,
    (publications ⟨n, directive⟩ history).length ≤ (outcomes ⟨n, directive⟩ history).length

/-- An entry that, if it is a render, shows what is installed at its position. -/
def Entry.Faithful (entry : Entry) (earlier : List Entry) : Prop :=
  ∀ index text source?, entry.event = .rendered index text source? →
    ∃ raw, standing? index earlier = some (.installed index raw (source?.map TaskId.schedule)) ∧
      text = due raw source? (entry :: earlier) ∧
      ∀ task, source? = some task → Covered task.schedule raw (entry :: earlier)

/-- All renders of a history show what is installed. -/
def Faithful (history : List Entry) : Prop :=
  ∀ entry earlier, entry :: earlier <:+ history → entry.Faithful earlier

def Event.isRender : Event → Bool
  | .rendered _ _ _ => true
  | _ => false

theorem Faithful.nil : Faithful [] := fun _ _ h ↦ by simp at h

theorem Faithful.cons (h : Faithful history) (hentry : entry.Faithful history) :
    Faithful (entry :: history) := by
  intro other earlier hsuffix
  rcases List.suffix_cons_iff.1 hsuffix with heq | hsuffix
  · obtain ⟨rfl, rfl⟩ := List.cons.inj heq
    exact hentry
  · exact h other earlier hsuffix

theorem Faithful.cons_of_not (h : Faithful history) (hentry : entry.event.isRender = false) :
    Faithful (entry :: history) := by
  apply h.cons
  intro index text source? hrender
  rw [hrender] at hentry
  contradiction

theorem Faithful.append_of_not (h : Faithful history) {entries : List Entry}
    (hentries : ∀ entry ∈ entries, entry.event.isRender = false) :
    Faithful (entries ++ history) := by
  induction entries with
  | nil => exact h
  | cons entry rest ih =>
    apply Faithful.cons_of_not
    · apply ih
      intro other hother
      exact hentries other (List.mem_cons_of_mem entry hother)
    · exact hentries entry List.mem_cons_self

theorem Faithful.append_removals (h : Faithful history) (now : Nat) (indices : List Nat) :
    Faithful (State.removals now indices ++ history) := by
  apply h.append_of_not
  intro entry hentry
  obtain ⟨index, -, rfl⟩ := List.mem_map.1 (List.mem_reverse.1 hentry)
  rfl

/-! ## The fragments of a schedule -/

/-- The fragment of a task is what has been published of it. -/
structure Course.Shows (c : Course σ) : Prop where
  covered : (c.reads Entry.publication?).length ≤ (c.reads Entry.outcome?).length
  fragment : c.task.fragment =
    nthText (c.reads Entry.outcome?) (c.reads Entry.publication?).length

namespace Course

theorem Account.shows {c : Course σ} (h : c.Account) : c.Shows := by
  constructor
  case covered => rw [h.published]; exact h.returned
  case fragment => rw [h.published]; exact h.fragment

theorem shows_enter {c : Course σ} {now : Nat} {phase : Phase} :
    (c.enter id now phase).Shows ↔ c.Shows := by
  constructor <;> rintro ⟨hcovered, hfragment⟩ <;> constructor <;> simpa using ‹_›

end Course

namespace State

/-- The fragment of every task is what has been published of it. -/
def Shows (s : State σ) : Prop := s.Courses fun _ c ↦ c.Shows

theorem Courses.shows (h : s.Courses fun _ c ↦ c.Account) : s.Shows :=
  fun id c hc ↦ (h id c hc).shows

theorem shows_of_enter {phase : Phase} (h : (s.enter id phase).Shows) : s.Shows := by
  intro other c hc
  by_cases hid : id = other
  · subst hid
    have henter : (s.enter id phase).course? id = some (c.enter id s.now phase) := by
      rw [course?_enter, hc]
      rfl
    exact Course.shows_enter.1 (h id _ henter)
  · exact h other c ((untouched_enter hid phase).course?.trans hc)

theorem shows_of_break (h : (s.modifyTask id fun task ↦ { task with phase := .broken }).Shows) :
    s.Shows := by
  intro other c hc
  by_cases hid : id = other
  · subst hid
    have hbreak : (s.modifyTask id fun task ↦ { task with phase := .broken }).course? id =
        some (c.alter fun task ↦ { task with phase := .broken }) := by
      rw [course?_modifyTask, hc]
      rfl
    obtain ⟨hcovered, hfragment⟩ := h id _ hbreak
    exact ⟨hcovered, hfragment⟩
  · exact h other c ((untouched_modifyTask hid _).course?.trans hc)

/-- The text of a schedule with the fragments of its tasks is that with what they have published. -/
theorem merged_eq_composed (hschedule : s.schedules[n]? = some schedule)
    (hlength : schedule.tasks.length = (Directive.parse schedule.raw).length) (hshows : s.Shows) :
    schedule.merged = composed n schedule.raw s.history ∧ Covered n schedule.raw s.history := by
  have htask (directive : Nat) (h : directive < schedule.tasks.length) :
      Course.Shows ⟨schedule.tasks[directive], diary ⟨n, directive⟩ s.history,
        s.workers.count ⟨n, directive⟩⟩ := by
    apply hshows ⟨n, directive⟩
    simp [course?, task?, hschedule, h]
  constructor
  · rw [Schedule.merged, composed]
    congr 1
    apply List.ext_getElem
    · simp [hlength]
    · intro directive h _
      rw [List.length_map] at h
      rw [List.getElem_map, List.getElem_map, List.getElem_range]
      exact (htask directive h).fragment
  · intro directive h
    exact (htask directive (hlength ▸ h)).covered

/-! ## Steps -/

/-- A publication shows what is installed, because it is made by the installed schedule alone. -/
theorem faithful_publish (tenancy : Tenancy s) (h : Faithful s.history)
    (hschedule : s.schedules[id.schedule]? = some schedule)
    (hinstalled : s.isInstalled schedule = true) (fragment : String)
    (hshows : (s.publish id fragment).Shows) : Faithful (s.publish id fragment).history := by
  obtain ⟨published, hpublished, hpublish⟩ := exists_publish_eq hschedule fragment
  have hstill : Still s (s.publish id fragment) := still_publish id fragment
  have hafter : (s.publish id fragment).schedules[id.schedule]? = some published := by
    rw [hpublish]
    exact hpublished
  have hbecomes : schedule.Becomes published := by
    obtain ⟨after, hafter', hplan⟩ := hstill.exists_plan hschedule
    obtain rfl : after = published := Option.some.inj (hafter'.symm.trans hafter)
    exact .of_plan hplan
  have hhistory : (s.publish id fragment).history =
      ⟨s.now, .rendered published.index published.merged (some id)⟩ :: s.history := by
    rw [hpublish]
    rfl
  have hlodged := ((tenancy.tenants id.schedule schedule hschedule).lodged hinstalled).2
  have hlength := ((hstill.tenancy tenancy).tenants id.schedule published hafter).length_tasks
  have hmerged := merged_eq_composed hafter hlength hshows
  rw [hhistory] at hmerged ⊢
  apply h.cons
  intro index text source? hrender
  obtain ⟨rfl, rfl, rfl⟩ := Event.rendered.inj hrender
  refine ⟨published.raw, ?_, hmerged.1, ?_⟩
  · rw [hbecomes.index, hbecomes.raw]
    exact hlodged
  · rintro task htask
    obtain rfl := Option.some.inj htask
    exact hmerged.2

theorem faithful_deliver (tenancy : Tenancy s) (h : Faithful s.history) (start : Nat)
    (fragment : String) (rendering : Rendering)
    (hshows : (s.deliver id start fragment rendering).Shows) :
    Faithful (s.deliver id start fragment rendering).history := by
  revert hshows
  unfold deliver
  split
  · rename_i schedule task hschedule _
    split
    · rename_i hinstalled
      cases rendering with
      | returns =>
        intro hshows
        exact (faithful_publish tenancy h hschedule hinstalled fragment
          (shows_of_enter hshows)).cons_of_not rfl
      | panics =>
        intro hshows
        exact faithful_publish tenancy h hschedule hinstalled fragment (shows_of_break hshows)
    · intro _
      exact h.cons_of_not rfl
  · intro _
    exact h

theorem faithful_beginTick (h : Faithful s.history) (mode : Mode) :
    Faithful (s.beginTick id mode).history := by
  unfold beginTick
  split
  · exact (h.cons_of_not rfl).cons_of_not rfl
  · split <;> exact (h.cons_of_not rfl).cons_of_not rfl

theorem faithful_change (h : Faithful s.history) (change : Change σ) :
    Faithful (s.change change).history := by
  cases change with
  | append => exact h
  | exchange registry => exact h
  | supersede index =>
    simp only [State.change]
    rcases supersede_cases s index with hstep | ⟨element, -, hstep⟩
    · rw [hstep]
      exact h
    · rw [hstep]
      exact h.cons_of_not rfl
  | vacate index =>
    simp only [State.change]
    rcases vacate_cases s index with hstep | ⟨element, schedules, -, -, -, hstep⟩ <;> rw [hstep] <;>
      exact h
  | place index raw =>
    simp only [State.change]
    rcases place_cases s index raw with hstep | ⟨element, -, -, ⟨-, hstep⟩ | hstep⟩
    · rw [hstep]
      exact h
    · rw [hstep]
      -- a text without directives is shown as soon as it is installed
      have hinstalled : Faithful (⟨s.now, .installed index raw none⟩ :: s.history) :=
        h.cons_of_not rfl
      apply hinstalled.cons
      intro i text source? hrender
      obtain ⟨rfl, rfl, rfl⟩ := Event.rendered.inj hrender
      refine ⟨raw, standing?_cons_self ?_ _, rfl, by simp⟩
      simp [Event.decides]
    · rw [hstep]
      exact h.cons_of_not rfl
  | truncate size =>
    simp only [State.change]
    rcases truncate_cases s size with hstep | ⟨-, hstep⟩
    · rw [hstep]
      exact h
    · rw [hstep]
      exact h.append_removals s.now _

/-- Every step keeps the history faithful. -/
theorem faithful_step (tenancy : Tenancy s) (h : Faithful s.history) (label : Label σ)
    (hshows : (s.step label).Shows) : Faithful (s.step label).history := by
  cases label with
  | change change => exact faithful_change h change
  | poll task rendering =>
    simp only [step] at hshows ⊢
    rcases poll_cases s task rendering with hpoll | ⟨mode, hpoll⟩ | hpoll | ⟨start, fragment, hpoll⟩
    · rw [hpoll]
      exact h
    · rw [hpoll]
      exact faithful_beginTick h mode
    · rw [hpoll]
      exact h.cons_of_not rfl
    · rw [hpoll] at hshows ⊢
      exact faithful_deliver tenancy h start fragment rendering hshows
  | finish task rendering =>
    simp only [step] at hshows ⊢
    rcases finish_cases s task rendering with hfinish | ⟨world, start, fragment, hfinish⟩
    · rw [hfinish]
      exact h
    · rw [hfinish] at hshows ⊢
      have hworld : Still s { s with world := world } := ⟨rfl, rfl, rfl, rfl, rfl, rfl⟩
      have hreturned := hworld.trans (still_record (.returned task fragment) rfl)
      have htenancy := hreturned.tenancy tenancy
      exact faithful_deliver htenancy (h.cons_of_not rfl) start fragment rendering hshows
  | complete task =>
    simp only [step]
    rcases complete_cases s task with hcomplete | ⟨world, fragment, hcomplete⟩
    · rw [hcomplete]
      exact h
    · rw [hcomplete]
      exact h.cons_of_not rfl
  | elapse nanoseconds => exact h
  | disturb change => exact h

end State

/-! ## Runs -/

/-- What holds of the whole state at every point of every run. -/
structure Sound (s : State σ) : Prop where
  tidy : s.Tidy
  accounts : s.Courses fun _ c ↦ c.Account
  tenancy : Tenancy s
  faithful : Faithful s.history

namespace Sound

theorem step (h : Sound s) (label : Label σ) : Sound (s.step label) := by
  have haccounts : (s.step label).Courses fun _ c ↦ c.Account :=
    State.courses_step Course.account_invariant h.tidy h.accounts trivial
  constructor
  case tidy => exact State.tidy_step h.tidy label
  case accounts => exact haccounts
  case tenancy => exact h.tenancy.step label
  case faithful => exact State.faithful_step h.tenancy h.faithful label haccounts.shows

theorem initial (registry : Registry σ) (floor : Duration) (world : σ) :
    Sound (State.initial registry floor world) := by
  constructor
  case tidy => exact State.tidy_initial registry floor world
  case accounts => exact fun id c hc ↦ by simp [State.course?, State.task?, State.initial] at hc
  case tenancy => exact .initial registry floor world
  case faithful => exact .nil

theorem run (registry : Registry σ) (floor : Duration) (world : σ) (labels : List (Label σ)) :
    Sound ((State.initial registry floor world).run labels) := by
  have hstep (s : State σ) (label : Label σ) (_ : True) (h : Sound s) : Sound (s.step label) :=
    h.step label
  exact State.run_preserves hstep (initial registry floor world) fun _ _ ↦ trivial

end Sound

/-- Every render of every run belongs to the installation that is in force at its position: the
latest decision about that position, neither superseded nor removed, has installed the text that is
shown, and has started the task on whose behalf it is shown. No schedule is started twice, so that
an installation at a position which has been removed and created again is never taken for another
one. -/
theorem render_of_installation_in_force (registry : Registry σ) (floor : Duration) (world : σ)
    (labels : List (Label σ)) :
    let s := (State.initial registry floor world).run labels
    (∀ time index text source? earlier,
      ⟨time, .rendered index text source?⟩ :: earlier <:+ s.history →
        ∃ raw, standing? index earlier =
            some (.installed index raw (source?.map TaskId.schedule)) ∧
          text = due raw source? (⟨time, .rendered index text source?⟩ :: earlier)) ∧
      (∀ index raw n, Event.installed index raw (some n) ∈ decisions s.history →
        ∃ schedule, s.schedules[n]? = some schedule ∧ schedule.index = index ∧
          schedule.raw = raw) ∧
      ∀ n, (decisions s.history).countP (·.founds n) ≤ 1 := by
  intro s
  have hsound : Sound s := .run registry floor world labels
  refine ⟨?_, hsound.tenancy.founded, hsound.tenancy.once⟩
  intro time index text source? earlier hsuffix
  obtain ⟨raw, hstanding, htext, -⟩ := hsound.faithful _ earlier hsuffix index text source? rfl
  exact ⟨raw, hstanding, htext⟩

/-- A list that shrinks while a call is on a worker, and grows again before the call returns. The
same text comes to the same position, under the same number of installations. -/
def regrowth : List (Label Unit) :=
  let grow : List (Change Unit) :=
    removal 0 1 ++ [.append] ++ installation 0 "{w(), async:true}"
  let shrink : List (Change Unit) := removal 1 0
  grow.map .change ++ [.poll ⟨0, 0⟩ .returns] ++ shrink.map .change ++ grow.map .change ++
    [.complete ⟨0, 0⟩, .poll ⟨0, 0⟩ .returns, .poll ⟨1, 0⟩ .returns, .complete ⟨1, 0⟩,
      .poll ⟨1, 0⟩ .returns]

/-- The call of the removed text shows nothing; what is shown is the new text's own. -/
theorem regrowth_shows_second_installation :
    let s := (State.initial .empty ⟨0⟩ ()).run regrowth
    s.schedules.map (fun schedule ↦ (schedule.index, schedule.generation)) = [(0, 1), (0, 1)] ∧
      outcomes ⟨0, 0⟩ s.history = ["Invalid command: w"] ∧ renders 0 s.history = [] ∧
      ∃ raw, standing? 0 (s.history.drop 2) = some (.installed 0 raw (some 1)) ∧
        "Invalid command: w" = due raw (some ⟨1, 0⟩)
          (⟨0, .rendered 0 "Invalid command: w" (some ⟨1, 0⟩)⟩ :: s.history.drop 2) := by
  refine ⟨by decide +kernel, by decide +kernel, by decide +kernel, ?_⟩
  exact (render_of_installation_in_force .empty ⟨0⟩ () regrowth).1 0 0 "Invalid command: w"
    (some ⟨1, 0⟩) _ (by decide +kernel)

end LiveTemplate.Refresh

import Mathlib.Algebra.BigOperators.Group.Finset.Piecewise
import Mathlib.Algebra.Ring.Nat
import LiveTemplate.Proofs.Refresh.LifeCycle
import LiveTemplate.Proofs.Refresh.Shown

/-!
# Publishing

Every tick is published once: it is shown in one render, which contains, for every directive of the
text, what the latest published call of that directive has returned. Between a call and its
publication nothing is lost, unless the text has been replaced or removed.
-/

namespace LiveTemplate.Refresh

open Command (Registry)

variable {σ β : Type} {s : State σ} {id : TaskId} {n directive m : Nat} {schedule : Schedule σ}
  {entry : Entry} {history earlier : List Entry} {text : String}

/-! ## Renders and publications -/

/-- The publications of a task are the renders of its schedule that it has caused. -/
theorem length_publications (n directive : Nat) (history : List Entry) :
    (publications ⟨n, directive⟩ history).length =
      (renders n history).countP fun render ↦ render.1 = directive := by
  induction history with
  | nil => rfl
  | cons entry rest ih =>
    have hpublications : publications ⟨n, directive⟩ (entry :: rest) =
        publications ⟨n, directive⟩ rest ++
          if entry.event.task? = some ⟨n, directive⟩ then entry.publication?.toList else [] :=
      collect_diary_cons Entry.publication? entry rest
    have hrenders : renders n (entry :: rest) = renders n rest ++ (entry.renderOf? n).toList :=
      collect_cons _ _ _
    rw [hpublications, hrenders, List.length_append, List.countP_append, ih]
    congr 1
    obtain ⟨time, event⟩ := entry
    cases event with
    | rendered index text source? =>
      cases source? with
      | none => simp [Event.task?]
      | some task =>
        obtain ⟨schedule, number⟩ := task
        by_cases hn : schedule = n <;> by_cases hd : number = directive <;>
          simp [Event.task?, hn, hd]
    | entered task state => split <;> simp
    | began task => split <;> simp
    | returned task fragment => split <;> simp
    | installed index raw schedule? => simp [Event.task?]
    | superseded index => simp [Event.task?]
    | tornDown index => simp [Event.task?]

/-- The renders up to one of them are those of the history up to it. -/
theorem exists_suffix_of_renders (h : (renders n history)[m]? = some (directive, text)) :
    ∃ entry earlier, entry :: earlier <:+ history ∧
      entry.renderOf? n = some (directive, text) ∧
      renders n (entry :: earlier) = (renders n history).take (m + 1) := by
  induction history with
  | nil => simp [renders] at h
  | cons newest rest ih =>
    have hrenders : renders n (newest :: rest) = renders n rest ++ (newest.renderOf? n).toList :=
      collect_cons _ _ _
    rw [hrenders] at h ⊢
    by_cases hm : m < (renders n rest).length
    · rw [List.getElem?_append_left hm] at h
      obtain ⟨entry, earlier, hsuffix, hrender, hrest⟩ := ih h
      refine ⟨entry, earlier, hsuffix.trans (List.suffix_cons _ _), hrender, ?_⟩
      rw [hrest, List.take_append_of_le_length hm]
    · rw [List.getElem?_append_right (Nat.le_of_not_lt hm)] at h
      have hsingle : newest.renderOf? n = some (directive, text) ∧ m = (renders n rest).length := by
        cases hnewest : newest.renderOf? n with
        | none =>
          rw [hnewest] at h
          simp at h
        | some render =>
          rw [hnewest, Option.toList_some, List.getElem?_singleton] at h
          split at h
          · exact ⟨h, by omega⟩
          · contradiction
      obtain ⟨hrender, rfl⟩ := hsingle
      refine ⟨newest, rest, List.suffix_rfl, hrender, ?_⟩
      rw [hrenders, hrender, List.take_of_length_le]
      simp

theorem event_of_renderOf? (h : entry.renderOf? n = some (directive, text)) :
    ∃ index, entry.event = .rendered index text (some ⟨n, directive⟩) := by
  obtain ⟨time, event⟩ := entry
  cases event with
  | rendered index shown source? =>
    cases source? with
    | none => simp at h
    | some task =>
      simp only [Entry.renderOf?, Option.ite_none_right_eq_some, Option.some.injEq,
        Prod.mk.injEq] at h
      obtain ⟨rfl, rfl, rfl⟩ := h
      exact ⟨index, rfl⟩
  | _ => simp at h

/-- The members of a list with a small number each are counted by their numbers. -/
theorem sum_countP_eq_length {renders : List (Nat × String)} {k : Nat}
    (h : ∀ render ∈ renders, render.1 < k) :
    ((List.range k).map fun d ↦ renders.countP fun render ↦ render.1 = d).sum =
      renders.length := by
  induction renders with
  | nil => simp
  | cons render rest ih =>
    have hrest := ih fun other hother ↦ h other (List.mem_cons_of_mem _ hother)
    have hlt : render.1 ∈ Finset.range k := Finset.mem_range.2 (h render List.mem_cons_self)
    have hone : ((List.range k).map fun d ↦ if render.1 = d then 1 else 0).sum = 1 :=
      calc
        ((List.range k).map fun d ↦ if render.1 = d then 1 else 0).sum =
            ∑ d ∈ Finset.range k, if render.1 = d then 1 else 0 := rfl
        _ = 1 := by rw [Finset.sum_ite_eq, if_pos hlt]
    simp only [List.countP_cons, decide_eq_true_eq]
    rw [List.sum_map_add, hrest, hone, List.length_cons]

/-! ## Renders of a schedule -/

section

variable (sound : Sound s) (hschedule : s.schedules[n]? = some schedule)
include sound hschedule

/-- A render of a schedule is caused by one of its tasks. -/
theorem lt_of_mem_renders {render : Nat × String} (h : render ∈ renders n s.history) :
    render.1 < schedule.tasks.length := by
  refine Nat.lt_of_not_le fun hle ↦ ?_
  have habsent : s.task? ⟨n, render.1⟩ = none := by
    rw [State.task?, hschedule, Option.bind_some]
    exact List.getElem?_eq_none hle
  have hnone : (publications ⟨n, render.1⟩ s.history).length = 0 := by
    rw [publications, (sound.tidy ⟨n, render.1⟩ habsent).1]
    rfl
  have hsome : 0 < (renders n s.history).countP fun other ↦ other.1 = render.1 :=
    List.countP_pos_iff.2 ⟨render, h, by simp⟩
  rw [length_publications] at hnone
  omega

/-- The course of a task of a schedule keeps its accounts. -/
theorem account_of_task {task : Task σ} (htask : schedule.tasks[directive]? = some task) :
    Course.Account
      ⟨task, diary ⟨n, directive⟩ s.history, s.workers.count ⟨n, directive⟩⟩ := by
  apply sound.accounts ⟨n, directive⟩
  rw [State.course?, State.task?, hschedule, Option.bind_some, htask]
  rfl

/-- Every tick of a schedule has been rendered once. -/
theorem length_renders :
    (renders n s.history).length = (schedule.tasks.map Task.ticks).sum := by
  have hticks : schedule.tasks.map Task.ticks = (List.range schedule.tasks.length).map fun d ↦
      (renders n s.history).countP fun render ↦ render.1 = d := by
    apply List.ext_getElem
    · simp
    · intro d hd _
      rw [List.length_map] at hd
      rw [List.getElem_map, List.getElem_map, List.getElem_range, ← length_publications]
      exact (account_of_task sound hschedule (List.getElem?_eq_getElem hd)).published.symm
  rw [hticks, sum_countP_eq_length fun render h ↦ lt_of_mem_renders sound hschedule h]

/-- Every render shows what had been published of each directive by then. -/
theorem text_of_renders (h : (renders n s.history)[m]? = some (directive, text)) :
    text = Directive.merge schedule.raw ((List.range schedule.tasks.length).map fun d ↦
      nthText (outcomes ⟨n, d⟩ s.history)
        (((renders n s.history).take (m + 1)).countP fun render ↦ render.1 = d)) := by
  obtain ⟨entry, earlier, hsuffix, hrender, htake⟩ := exists_suffix_of_renders h
  obtain ⟨index, hevent⟩ := event_of_renderOf? hrender
  obtain ⟨raw, hstanding, htext, hcovered⟩ := sound.faithful entry earlier hsuffix _ _ _ hevent
  have hearlier : earlier <:+ s.history := (List.suffix_cons entry earlier).trans hsuffix
  -- the installation in force is the one that has started the schedule
  have hraw : schedule.raw = raw := by
    have hmem := (decisions_sublist hearlier).subset (mem_decisions_of_standing? hstanding)
    obtain ⟨found, hfound, -, hraw⟩ := sound.tenancy.founded index raw n hmem
    obtain rfl : schedule = found := Option.some.inj (hschedule.symm.trans hfound)
    exact hraw
  subst hraw
  have hlength := (sound.tenancy.tenants n schedule hschedule).length_tasks
  rw [htext, hlength]
  refine congrArg (Directive.merge schedule.raw) (List.map_congr_left fun d hd ↦ ?_)
  have hle := hcovered _ rfl d (List.mem_range.1 hd)
  have hcount : (publications ⟨n, d⟩ (entry :: earlier)).length =
      ((renders n s.history).take (m + 1)).countP fun render ↦ render.1 = d := by
    rw [length_publications, htake]
  obtain ⟨rest, hrest⟩ : outcomes ⟨n, d⟩ (entry :: earlier) <+: outcomes ⟨n, d⟩ s.history :=
    collect_diary_prefix Entry.outcome? hsuffix
  calc
    shown ⟨n, d⟩ (entry :: earlier) =
        nthText (outcomes ⟨n, d⟩ (entry :: earlier))
          (publications ⟨n, d⟩ (entry :: earlier)).length := rfl
    _ = nthText (outcomes ⟨n, d⟩ s.history) (publications ⟨n, d⟩ (entry :: earlier)).length := by
      rw [← hrest, nthText_append hle]
    _ = _ := by rw [hcount]

end

/-! ## Runs -/

/-- In every run, every tick of every installed text is rendered once, and every render shows what
the calls of each directive had come to by then. No directive has two calls on their way, and what a
call has returned is not lost while its text is installed. -/
theorem every_tick_rendered_once (registry : Registry σ) (floor : Duration) (world : σ)
    (labels : List (Label σ)) :
    let s := (State.initial registry floor world).run labels
    ∀ n schedule, s.schedules[n]? = some schedule →
      (renders n s.history).length = (schedule.tasks.map Task.ticks).sum ∧
      (∀ m directive text, (renders n s.history)[m]? = some (directive, text) →
        text = Directive.merge schedule.raw ((List.range schedule.tasks.length).map fun d ↦
          nthText (outcomes ⟨n, d⟩ s.history)
            (((renders n s.history).take (m + 1)).countP fun render ↦ render.1 = d))) ∧
      ∀ d task, schedule.tasks[d]? = some task →
        let inFlight := s.workers.count ⟨n, d⟩ + task.phase.inline
        ((renders n s.history).countP fun render ↦ render.1 = d) = task.ticks ∧
        (calls ⟨n, d⟩ s.history).length = (outcomes ⟨n, d⟩ s.history).length + inFlight ∧
        inFlight ≤ 1 ∧
        task.ticks ≤ (calls ⟨n, d⟩ s.history).length ∧
        (calls ⟨n, d⟩ s.history).length ≤ task.ticks + 1 ∧
        task.fragment = nthText (outcomes ⟨n, d⟩ s.history) task.ticks ∧
        (task.ticks < (outcomes ⟨n, d⟩ s.history).length →
          (∃ start fragment, task.phase = .awaiting start (some fragment) ∧
            (outcomes ⟨n, d⟩ s.history)[task.ticks]? = some fragment) ∨
          s.isCancelled ⟨n, d⟩ = true ∨ s.isCurrent ⟨n, d⟩ = false) := by
  intro s n schedule hschedule
  have hsound : Sound s := .run registry floor world labels
  refine ⟨length_renders hsound hschedule, fun m directive text ↦ text_of_renders hsound hschedule,
    fun d task htask ↦ ?_⟩
  have haccount := account_of_task hsound hschedule htask
  have hpublished : (publications ⟨n, d⟩ s.history).length = task.ticks := haccount.published
  have hreturned : task.ticks ≤ (outcomes ⟨n, d⟩ s.history).length := haccount.returned
  have hbegun : (calls ⟨n, d⟩ s.history).length =
      (outcomes ⟨n, d⟩ s.history).length + s.workers.count ⟨n, d⟩ + task.phase.inline :=
    haccount.begun
  obtain ⟨hinFlight, hcalls⟩ := haccount.inFlight
  refine ⟨?_, ?_, hinFlight, ?_, hcalls, haccount.fragment, fun hunpublished ↦ ?_⟩
  · rw [← length_publications, hpublished]
  · rw [hbegun, Nat.add_assoc]
  · omega
  · refine (haccount.of_unpublished hunpublished).imp id fun hcancelled ↦ ?_
    have hfound : s.task? ⟨n, d⟩ = some task := by
      rw [State.task?, hschedule, Option.bind_some]
      exact htask
    exact State.stopped_run registry floor world labels ⟨n, d⟩ task hfound hcancelled

/-- Two directives of one text, of which the second is published first. -/
def twoDirectives : List (Label Unit) :=
  ((.append :: installation 0 "{a(), async:true}/{b()}" : List (Change Unit)).map .change) ++
    [.poll ⟨0, 0⟩ .returns, .poll ⟨0, 1⟩ .returns, .finish ⟨0, 1⟩ .returns, .complete ⟨0, 0⟩,
      .poll ⟨0, 0⟩ .returns]

/-- The first render lacks the fragment of the first directive, the second one has both. -/
theorem twoDirectives_rendered :
    let s := (State.initial .empty ⟨0⟩ ()).run twoDirectives
    renders 0 s.history =
        [(1, "/Invalid command: b"), (0, "Invalid command: a/Invalid command: b")] ∧
      ∃ schedule, s.schedules[0]? = some schedule ∧
        2 = (schedule.tasks.map Task.ticks).sum ∧
        "/Invalid command: b" = Directive.merge schedule.raw ((List.range schedule.tasks.length).map
          fun d ↦ nthText (outcomes ⟨0, d⟩ s.history) ([(1, "/Invalid command: b")].countP
            fun render ↦ render.1 = d)) := by
  have hrenders : renders 0 ((State.initial .empty ⟨0⟩ ()).run twoDirectives).history =
      [(1, "/Invalid command: b"), (0, "Invalid command: a/Invalid command: b")] := by
    decide +kernel
  have hsome : (((State.initial .empty ⟨0⟩ ()).run twoDirectives).schedules[0]?).isSome = true := by
    decide +kernel
  obtain ⟨schedule, hschedule⟩ := Option.isSome_iff_exists.1 hsome
  obtain ⟨hlength, htext, -⟩ :=
    every_tick_rendered_once .empty ⟨0⟩ () twoDirectives 0 schedule hschedule
  rw [hrenders] at hlength htext
  exact ⟨hrenders, schedule, hschedule, hlength, htext 0 1 _ rfl⟩

end LiveTemplate.Refresh

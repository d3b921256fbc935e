import LiveTemplate.Proofs.Directive.Splicing
import LiveTemplate.Proofs.Refresh.Ledger
import LiveTemplate.Proofs.Refresh.Publishing
import LiveTemplate.Proofs.Refresh.Settlement

/-!
# Completion

When every directive of a list of texts has run once, it does not matter any more in which order the
tasks have taken their turns and the calls have returned. On the way the texts that are shown may
differ from one schedule to another; how many are shown and which is the last one does not, as long
as commands look at nothing but their parameter.
-/

namespace LiveTemplate.Command

variable {σ : Type}

/-- What a handler answers depends on the parameter alone. -/
def Handler.IsSteady (handler : Handler σ) : Prop :=
  ∀ param world other, (handler.run param world).1 = (handler.run param other).1

/-- All handlers of a registry answer to the parameter alone. -/
def Registry.IsSteady (registry : Registry σ) : Prop :=
  ∀ name handler, registry.resolve name = .ok handler → handler.IsSteady

theorem Registry.IsSteady.bind {registry : Registry σ} (h : registry.IsSteady)
    (name param : String) : (registry.bind name param).IsSteady := by
  unfold Registry.bind
  split
  case h_1 handler hresolve => exact fun world other ↦ h name handler hresolve param world other
  case h_2 => exact fun _ _ ↦ rfl

end LiveTemplate.Command

namespace LiveTemplate.Refresh

open Command (Handler Registry)

variable {σ β γ δ : Type} {s : State σ} {id : TaskId} {n index : Nat} {schedule : Schedule σ}
  {fragment : String}

/-! ## Answers -/

/-- The fragment of a call of a directive's command in a world. -/
def Value.answer (value : Value σ) (world : σ) : String := (value.command.invoke world).1.fragment

/-- The answer of a steady command is the same in all worlds. -/
theorem Value.answer_congr {value : Value σ} (h : value.command.IsSteady) (world other : σ) :
    value.answer world = value.answer other := congrArg Command.Outcome.fragment (h world other)

/-- How many ticks a task in a phase has made if it makes one at most. -/
def Phase.spent : Phase → Nat
  | .terminated | .broken => 1
  | _ => 0

theorem Phase.spent_of_isReady {phase : Phase} {now : Nat} (h : phase.isReady now = true) :
    phase.spent = 0 := by
  cases phase <;> first | rfl | contradiction

theorem Phase.spent_of_isSuspended {phase : Phase} (h : phase.isSuspended = true) :
    phase.spent = 0 := by
  cases phase <;> first | rfl | contradiction

namespace Course

def Answers (c : Course σ) : Prop :=
  ∀ outcome ∈ c.reads Entry.outcome?, ∃ world, outcome = c.task.value.answer world

/-- The fragment that a task has got is one of its answers. -/
theorem Answers.of_yields {c d : Course σ} {start : Nat} (h : c.Answers)
    (yields : c.Yields s id start fragment d) : d.Answers := by
  cases yields with
  | awaited phase running => exact h
  | called phase outcome =>
    intro found hfound
    rw [reads_note, List.mem_append] at hfound
    rcases hfound with hold | hnew
    · exact h found hold
    · obtain rfl : found = fragment := by simpa using hnew
      exact ⟨s.world, outcome.symm⟩

/-- The calls of every task return its answers. -/
theorem answers_invariant : Invariant (σ := σ) (fun _ ↦ True) fun _ c ↦ c.Answers where
  fresh _ value := by simp [Answers, fresh, reads]
  later _ h := h
  moves {s label id c d} _ h moves := by
    cases moves with
    | refuse phase stopped => simpa [Answers, Course.refuse] using h
    | call ready running mode => simpa [Answers, Course.call] using h
    | dispatch ready running mode => simpa [Answers, Course.dispatch] using h
    | stop suspended stopped => simpa [Answers] using h
    | @deliver d start fragment yields current index text rendering safe =>
      have hyields := h.of_yields yields
      cases rendering <;> simpa [Answers, Course.deliver, Task.publish] using hyields
    | discard yields stale => simpa [Answers] using h.of_yields yields
    | @complete fragment working outcome =>
      intro found hfound
      have hvalue : (c.task.receive fragment).value = c.task.value := State.value_receive fragment _
      change ∃ world, found = (c.task.receive fragment).value.answer world
      rw [hvalue]
      simp only [Course.complete, reads_alter, reads_note, reads_employ, List.mem_append] at hfound
      rcases hfound with hold | hnew
      · exact h found hold
      · obtain rfl : found = fragment := by simpa using hnew
        exact ⟨s.world, outcome.symm⟩

/-- A task without an interval has ticked once when it has ended by itself, and not before. Only
such a task ends by itself. -/
structure Single (c : Course σ) : Prop where
  spent : c.task.value.interval = none → c.task.ticks = c.task.phase.spent
  last : c.task.phase = .terminated → c.task.value.interval = none

/-- A task without an interval that has got a fragment has not ticked before. -/
theorem Single.of_yields {c d : Course σ} {start : Nat} (h : c.Single)
    (yields : c.Yields s id start fragment d) (hnone : d.task.value.interval = none) :
    d.task.ticks = 0 := by
  cases yields with
  | awaited phase running => rw [h.spent hnone, phase]; rfl
  | called phase outcome => rw [task_note, h.spent hnone, phase]; rfl

theorem Single.deliver {c : Course σ} (hticks : c.task.value.interval = none → c.task.ticks = 0)
    (id : TaskId) (now start : Nat) (fragment : String) (index : Nat) (text : String)
    (rendering : Rendering) :
    (c.deliver id now start fragment index text rendering).Single := by
  cases rendering with
  | returns =>
    have hphase : (c.deliver id now start fragment index text .returns).task.phase =
        c.task.value.phaseAfter start now := rfl
    constructor
    case spent =>
      intro (hnone : c.task.value.interval = none)
      have hticked : (c.deliver id now start fragment index text .returns).task.ticks = 0 + 1 :=
        congrArg (· + 1) (hticks hnone)
      rw [hticked, hphase, Value.phaseAfter, hnone]
      rfl
    case last =>
      intro hlast
      rw [hphase] at hlast
      rcases c.task.value.phaseAfter_cases start now with
        ⟨hnone, -⟩ | ⟨interval, -, ⟨-, hafter⟩ | ⟨-, hafter⟩⟩
      · exact hnone
      · rw [hafter] at hlast
        contradiction
      · rw [hafter] at hlast
        contradiction
  | panics =>
    constructor
    case spent => exact fun hnone ↦ congrArg (· + 1) (hticks hnone)
    case last => exact fun hlast ↦ Phase.noConfusion hlast

theorem Single.complete {c : Course σ} (h : c.Single) (id : TaskId) (now : Nat)
    (fragment : String) : (c.complete id now fragment).Single := by
  have hafter : (c.complete id now fragment).task = c.task.receive fragment := rfl
  obtain ⟨hspent, hlast⟩ := h
  rcases Task.receive_cases fragment c.task with hsame | ⟨start, hphase, hreceive⟩
  · constructor
    case spent => rw [hafter, hsame]; exact hspent
    case last => rw [hafter, hsame]; exact hlast
  · rw [hphase] at hspent
    constructor
    case spent => rw [hafter, hreceive]; exact hspent
    case last => rw [hafter, hreceive]; exact fun hlast ↦ Phase.noConfusion hlast

/-- The tasks of every run are single. -/
theorem single_invariant : Invariant (σ := σ) (fun _ ↦ True) fun _ c ↦ c.Single where
  fresh _ value := ⟨fun _ ↦ rfl, fun hphase ↦ Phase.noConfusion hphase⟩
  later _ h := h
  moves {s label id c d} _ h moves := by
    cases moves with
    | refuse phase stopped =>
      refine ⟨fun hnone ↦ ?_, fun hphase ↦ Phase.noConfusion hphase⟩
      exact (h.spent hnone).trans (by rw [phase]; rfl)
    | call ready running mode =>
      refine ⟨fun hnone ↦ ?_, fun hphase ↦ Phase.noConfusion hphase⟩
      exact (h.spent hnone).trans (Phase.spent_of_isReady ready)
    | dispatch ready running mode =>
      refine ⟨fun hnone ↦ ?_, fun hphase ↦ Phase.noConfusion hphase⟩
      exact (h.spent hnone).trans (Phase.spent_of_isReady ready)
    | stop suspended stopped =>
      refine ⟨fun hnone ↦ ?_, fun hphase ↦ Phase.noConfusion hphase⟩
      exact (h.spent hnone).trans (Phase.spent_of_isSuspended suspended)
    | deliver yields current index text rendering safe =>
      exact .deliver (h.of_yields yields) id s.now _ _ index text rendering
    | discard yields stale =>
      have hticks := h.of_yields yields
      exact ⟨hticks, fun hphase ↦ Phase.noConfusion hphase⟩
    | complete working outcome => exact h.complete id s.now _

end Course

/-! ## Schedules that are complete -/

/-- A task that has terminated has ticked once, and its fragment is one of its answers. -/
theorem answer_of_terminated (registry : Registry σ) (floor : Duration) (world : σ)
    (labels : List (Label σ)) {task : Task σ}
    (htask : ((State.initial registry floor world).run labels).task? id = some task)
    (hstate : task.state = .terminated) :
    task.ticks = 1 ∧ ∃ world, task.fragment = task.value.answer world := by
  have hphase : task.phase = .terminated := by
    rw [Task.state] at hstate
    cases hphase : task.phase <;> rw [hphase] at hstate <;> first | rfl | contradiction
  have hsingle := State.course_of_task Course.single_invariant registry floor world labels htask
  have hanswers := State.course_of_task Course.answers_invariant registry floor world labels htask
  have haccount := State.course_of_task Course.account_invariant registry floor world labels htask
  have hticks : task.ticks = 1 := by
    refine (hsingle.spent (hsingle.last hphase)).trans ?_
    rw [hphase]
    rfl
  have hlength : (outcomes id ((State.initial registry floor world).run labels).history).length =
      task.ticks := by
    have hbalanced := haccount.balanced
    rw [hphase] at hbalanced
    exact hbalanced.1
  have hfragment : task.fragment =
      nthText (outcomes id ((State.initial registry floor world).run labels).history) task.ticks :=
    haccount.fragment
  rw [hticks] at hlength hfragment
  obtain ⟨outcome, houtcome⟩ := List.length_eq_one_iff.1 hlength
  rw [houtcome] at hfragment
  have hmem : outcome ∈ outcomes id ((State.initial registry floor world).run labels).history := by
    rw [houtcome]
    exact List.mem_singleton_self outcome
  obtain ⟨world', hanswer⟩ := hanswers outcome hmem
  exact ⟨hticks, world', hfragment.trans hanswer⟩

/-- The last render of a schedule is its text with the fragments that its tasks have in the end. -/
theorem getLast?_renders (sound : Sound s) (hschedule : s.schedules[n]? = some schedule)
    (hne : renders n s.history ≠ []) :
    ((renders n s.history).map Prod.snd).getLast? = some schedule.merged := by
  have hpositive : 0 < (renders n s.history).length := List.length_pos_iff.2 hne
  obtain ⟨⟨directive, text⟩, hlast⟩ :
      ∃ render, (renders n s.history).getLast? = some render :=
    ⟨_, List.getLast?_eq_some_getLast hne⟩
  have hat : (renders n s.history)[(renders n s.history).length - 1]? = some (directive, text) := by
    rw [← List.getLast?_eq_getElem?]
    exact hlast
  have htext := text_of_renders sound hschedule hat
  rw [Nat.sub_add_cancel hpositive, List.take_length] at htext
  have hfragments : ((List.range schedule.tasks.length).map fun d ↦
      nthText (outcomes ⟨n, d⟩ s.history)
        ((renders n s.history).countP fun render ↦ render.1 = d)) =
      schedule.tasks.map Task.fragment := by
    apply List.ext_getElem
    · simp
    · intro d hd _
      rw [List.length_map, List.length_range] at hd
      have haccount := account_of_task sound hschedule (List.getElem?_eq_getElem hd)
      have hpublished : (publications ⟨n, d⟩ s.history).length = schedule.tasks[d].ticks :=
        haccount.published
      rw [List.getElem_map, List.getElem_map, List.getElem_range, ← length_publications,
        hpublished]
      exact haccount.fragment.symm
  rw [List.getLast?_map, hlast, Option.map_some, htext, hfragments]
  rfl

/-! ## Renders at a position -/

/-- Two readings find the same in a history if they find the same in every entry. -/
theorem map_collect_congr {history : List Entry} {read : Entry → Option β}
    {other : Entry → Option γ} {f : β → δ} {g : γ → δ}
    (h : ∀ entry ∈ history, (read entry).map f = (other entry).map g) :
    (collect read history).map f = (collect other history).map g := by
  rw [collect, collect, List.map_reverse, List.map_reverse, List.map_filterMap, List.map_filterMap]
  exact congrArg List.reverse (List.filterMap_congr h)

/-- Every render is owed to an installation at its position. -/
theorem exists_installed_of_render (sound : Sound s) {entry : Entry} (hentry : entry ∈ s.history)
    {i : Nat} {text : String} {source? : Option TaskId}
    (hevent : entry.event = .rendered i text source?) :
    ∃ raw, Event.installed i raw (source?.map TaskId.schedule) ∈ decisions s.history := by
  obtain ⟨later, earlier, hhistory⟩ := List.append_of_mem hentry
  have hsuffix : entry :: earlier <:+ s.history := ⟨later, hhistory.symm⟩
  obtain ⟨raw, hstanding, -⟩ := sound.faithful entry earlier hsuffix i text source? hevent
  have hearlier : earlier <:+ s.history := (List.suffix_cons entry earlier).trans hsuffix
  exact ⟨raw, (decisions_sublist hearlier).subset (mem_decisions_of_standing? hstanding)⟩

section

variable (sound : Sound s) {raw : String}
  (hone : (installationsAt index s.history).length ≤ 1)
include sound hone

/-- Where a text without directives has been installed and nothing else, no task shows anything. -/
theorem rendersAt_of_literal (hinstalled : Event.installed index raw none ∈ decisions s.history) :
    (rendersAt index s.history).map Prod.snd = literalsAt index s.history := by
  refine (map_collect_congr (g := id) ?_).trans (List.map_id _)
  rintro ⟨time, event⟩ hentry
  cases event with
  | rendered i text source? =>
    by_cases hi : i = index
    · subst hi
      obtain ⟨other, hother⟩ := exists_installed_of_render sound hentry rfl
      have hsource := (eq_of_installed hone hinstalled hother).2
      obtain rfl : source? = none := by simpa using hsource
      simp [Entry.renderAt?, Entry.literal?]
    · cases source? <;> simp [Entry.renderAt?, Entry.literal?, hi]
  | _ => rfl

/-- Where a text with directives has been installed and nothing else, its tasks show everything. -/
theorem rendersAt_of_scheduled
    (hinstalled : Event.installed index raw (some n) ∈ decisions s.history) :
    (rendersAt index s.history).map Prod.snd = (renders n s.history).map Prod.snd := by
  refine map_collect_congr ?_
  rintro ⟨time, event⟩ hentry
  cases event with
  | rendered i text source? =>
    obtain ⟨other, hother⟩ := exists_installed_of_render sound hentry rfl
    by_cases hi : i = index
    · subst hi
      obtain ⟨task, rfl, hschedule⟩ :=
        Option.map_eq_some_iff.1 (eq_of_installed hone hinstalled hother).2
      simp [Entry.renderAt?, hschedule]
    · cases source? with
      | none => simp [Entry.renderAt?, hi]
      | some task =>
        have hne : task.schedule ≠ n := by
          rintro rfl
          obtain ⟨schedule, hschedule, hindex, -⟩ :=
            sound.tenancy.founded index raw task.schedule hinstalled
          obtain ⟨found, hfound, hfoundIndex, -⟩ :=
            sound.tenancy.founded i other task.schedule hother
          obtain rfl : schedule = found := Option.some.inj (hschedule.symm.trans hfound)
          exact hi (hfoundIndex.symm.trans hindex)
        simp [Entry.renderAt?, hi, hne]
  | _ => rfl

end

/-! ## Complete runs -/

/-- A run in which a list gets its texts, and at whose end every task has terminated. Whatever the
tasks and the workers do may come between any two changes of the list. -/
structure Completes (start : State σ) (texts : List String) (labels : List (Label σ)) : Prop where
  installs : changesOf labels = (Operation.setTexts texts).changes start
  terminated : ∀ id task, (start.run labels).task? id = some task → task.state = .terminated

/-- A text with the answers of its directives in their places. -/
def answeredText (registry : Registry σ) (floor : Duration) (world : σ) (raw : String) : String :=
  Directive.splice raw 0 raw.utf8ByteSize (Directive.parse raw)
    ((Directive.parse raw).map fun d ↦ (resolve registry floor d).answer world)

namespace Completes

variable {registry : Registry σ} {floor : Duration} {world : σ} {texts : List String}
  {labels : List (Label σ)} {raw : String}

/-- A complete run performs one operation, which returns. -/
theorem performed (h : Completes (.initial registry floor world) texts labels) :
    Performed (.initial registry floor world) ([Operation.setTexts texts].map Deed.whole)
      ((State.initial registry floor world).run labels) := by
  have hmakes : (Deed.whole (.setTexts texts)).Makes (State.initial registry floor world)
      (changesOf labels) := h.installs
  exact Performed.nothing.deed hmakes

/-- Every text has been installed once, without a schedule or with one that has a task for every
directive. -/
theorem exists_installed (h : Completes (.initial registry floor world) texts labels)
    (hraw : texts[index]? = some raw) :
    let s := (State.initial registry floor world).run labels
    (installationsAt index s.history).length ≤ 1 ∧
      (Directive.parse raw = [] ∧ Event.installed index raw none ∈ decisions s.history ∨
        ∃ n schedule, Event.installed index raw (some n) ∈ decisions s.history ∧
          s.schedules[n]? = some schedule ∧ schedule.raw = raw ∧ Directive.parse raw ≠ [] ∧
          schedule.tasks.map Task.value = (Directive.parse raw).map (resolve registry floor)) := by
  intro s
  have hperformed := h.performed
  have hkept : Kept s := (Kept.initial registry floor world).run labels
  have hledger : s.layout.ledger = ⟨registry, texts.mapIdx fun i text ↦ Row.next text none⟩ :=
    hperformed.ledger
  have hregistry : s.registry = registry := congrArg Ledger.registry hledger
  have hfloor : s.floor = floor := State.floor_run _ labels
  have htext : s.text? index = some raw := by
    rw [State.text?_eq_row, hledger]
    simp [hraw, Row.next]
  obtain ⟨tasks, htasks, hvalues, hscheduled⟩ :=
    State.values_of_furnished hkept hperformed.furnished htext
  obtain ⟨element, helement, hraw'⟩ := Option.map_eq_some_iff.1 htext
  have hsettled : element.stage = .settled :=
    (hperformed.furnished _ (List.mem_map_of_mem (List.mem_of_getElem? helement))).1
  have hinstalled : Event.installed index raw element.schedule? ∈ decisions s.history := by
    rw [← hraw']
    exact mem_decisions_of_standing?
      (Settled.run registry floor world labels index element helement hsettled)
  constructor
  · calc
      (installationsAt index s.history).length ≤
          (installationsAt index (State.initial registry floor world).history).length +
            (changesOf labels).countP (·.installs index) := length_installationsAt_run index _ labels
      _ = (changesOf labels).countP (·.installs index) := Nat.zero_add _
      _ ≤ 1 := by
        rw [h.installs]
        exact countP_installs_setTexts _ texts index
  · rw [State.isScheduled, helement, Option.any_some] at hscheduled
    cases hschedule? : element.schedule? with
    | none =>
      rw [hschedule?] at hinstalled hscheduled
      exact .inl ⟨by simpa using hscheduled, hinstalled⟩
    | some n =>
      rw [hschedule?] at hinstalled hscheduled
      obtain ⟨schedule, hschedule, hruns⟩ := hkept.housed.runs index element n helement hschedule?
      have hown : tasks = schedule.tasks := by
        rw [State.tasks?, helement, Option.map_some, State.tasksOf, hschedule?, Option.bind_some,
          hschedule] at htasks
        exact (Option.some.inj htasks).symm
      refine .inr ⟨n, schedule, hinstalled, hschedule, hruns.raw.trans hraw',
        hscheduled.1 rfl, ?_⟩
      rw [← hown, hvalues, hregistry, hfloor]

/-- In the end the tasks of a text have ticked once each, and have answered. -/
theorem tasks (steady : registry.IsSteady)
    (h : Completes (.initial registry floor world) texts labels)
    (hschedule : ((State.initial registry floor world).run labels).schedules[n]? = some schedule)
    (hvalues : schedule.tasks.map Task.value =
      (Directive.parse raw).map (resolve registry floor)) :
    (∀ ticks ∈ schedule.tasks.map Task.ticks, ticks = 1) ∧
      schedule.tasks.map Task.fragment =
        (Directive.parse raw).map fun d ↦ (resolve registry floor d).answer world := by
  have htask (task : Task σ) (hmem : task ∈ schedule.tasks) :
      task.ticks = 1 ∧ task.fragment = task.value.answer world := by
    obtain ⟨d, hd⟩ := List.mem_iff_getElem?.1 hmem
    have hfound : ((State.initial registry floor world).run labels).task? ⟨n, d⟩ = some task := by
      rw [State.task?, hschedule, Option.bind_some]
      exact hd
    obtain ⟨hticks, other, hanswer⟩ :=
      answer_of_terminated registry floor world labels hfound (h.terminated ⟨n, d⟩ task hfound)
    have hvalue : task.value ∈ (Directive.parse raw).map (resolve registry floor) := by
      rw [← hvalues]
      exact List.mem_map_of_mem hmem
    obtain ⟨descriptor, -, hdescriptor⟩ := List.mem_map.1 hvalue
    have hsteady : task.value.command.IsSteady := by
      rw [← hdescriptor]
      exact steady.bind descriptor.command descriptor.param
    exact ⟨hticks, hanswer.trans (Value.answer_congr hsteady other world)⟩
  constructor
  · intro ticks hticks
    obtain ⟨task, hmem, rfl⟩ := List.mem_map.1 hticks
    exact (htask task hmem).1
  · calc
      schedule.tasks.map Task.fragment = schedule.tasks.map fun task ↦ task.value.answer world :=
        List.map_congr_left fun task hmem ↦ (htask task hmem).2
      _ = (schedule.tasks.map Task.value).map (·.answer world) := by
        rw [List.map_map]
        rfl
      _ = ((Directive.parse raw).map (resolve registry floor)).map (·.answer world) := by
        rw [hvalues]
      _ = (Directive.parse raw).map fun d ↦ (resolve registry floor d).answer world :=
        List.map_map

/-- A complete run shows a text without directives once, and any other one as often as it has
directives. What it shows last are the answers of all of them. -/
theorem renders (steady : registry.IsSteady)
    (h : Completes (.initial registry floor world) texts labels)
    (hraw : texts[index]? = some raw) :
    let shown := (rendersAt index ((State.initial registry floor world).run labels).history).map
      Prod.snd
    shown.length = (if Directive.parse raw = [] then 1 else (Directive.parse raw).length) ∧
      shown.getLast? = some (answeredText registry floor world raw) := by
  intro shown
  have hsound := Sound.run registry floor world labels
  obtain ⟨hone, ⟨hnone, hinstalled⟩ | ⟨n, schedule, hinstalled, hschedule, rfl, hsome, hvalues⟩⟩ :=
    h.exists_installed hraw
  · have hshown : shown = [raw] :=
      (rendersAt_of_literal hsound hone hinstalled).trans
        (literalsAt_eq_singleton (proclaimed_run registry floor world labels) hone hinstalled)
    rw [hshown, if_pos hnone, answeredText, hnone, Directive.splice, Directive.slice_whole]
    exact ⟨rfl, rfl⟩
  · have hshown : shown = _ := rendersAt_of_scheduled hsound hone hinstalled
    obtain ⟨hticks, hfragments⟩ := h.tasks steady hschedule hvalues
    have hlength : shown.length = (Directive.parse schedule.raw).length := by
      rw [hshown, List.length_map, length_renders hsound hschedule, List.eq_replicate_of_mem hticks,
        List.sum_replicate_nat, Nat.mul_one]
      simpa using congrArg List.length hvalues
    have hne : renders n ((State.initial registry floor world).run labels).history ≠ [] := by
      intro hempty
      rw [hshown, hempty] at hlength
      exact hsome (List.eq_nil_of_length_eq_zero hlength.symm)
    refine ⟨by rw [hlength, if_neg hsome], ?_⟩
    rw [hshown, getLast?_renders hsound hschedule hne, Schedule.merged, hfragments,
      Directive.merge_eq_splice]
    rfl

end Completes

/-- A command that exists answers with the fragment of a call. -/
theorem answer_of_handler {registry : Registry σ} {d : Directive.Descriptor} {handler : Handler σ}
    (h : registry.resolve d.command = .ok handler) (floor : Duration) (world : σ) :
    (resolve registry floor d).answer world = (handler.run d.param world).1.fragment := by
  have hcommand : (resolve registry floor d).command = .call handler d.param := by
    simp only [resolve, Registry.bind, h]
  rw [Value.answer, hcommand]
  rfl

/-- A command that does not exist answers with its name, as the directive has written it. -/
theorem answer_of_notFound {registry : Registry σ} {d : Directive.Descriptor}
    (h : registry.resolve d.command = .error (.notFound d.command)) (floor : Duration) (world : σ) :
    (resolve registry floor d).answer world = "Invalid command: " ++ d.command := by
  have hcommand : (resolve registry floor d).command = .invalid d.command := by
    simp only [resolve, Registry.bind, h]
  rw [Value.answer, hcommand]
  rfl

/-- As long as commands answer to their parameters alone, it makes no difference to what a list of
texts comes to in which order its tasks take their turns and its calls return. In any two runs at
whose ends every task has terminated, a text has been shown equally often, once if it has no
directives and else as often as it has directives, and has been shown last with the answer of every
directive in its place. A task with an interval never terminates, so that no text of such a run has
one. -/
theorem renders_independent_of_schedule {registry : Registry σ} (steady : registry.IsSteady)
    (floor : Duration) (world : σ) {texts : List String} {labels others : List (Label σ)}
    (h : Completes (.initial registry floor world) texts labels)
    (hothers : Completes (.initial registry floor world) texts others) :
    ∀ index raw, texts[index]? = some raw →
      let shown (labels : List (Label σ)) : List String :=
        (rendersAt index ((State.initial registry floor world).run labels).history).map Prod.snd
      (shown labels).length = (shown others).length ∧
      (shown labels).getLast? = (shown others).getLast? ∧
      (shown labels).length =
        (if Directive.parse raw = [] then 1 else (Directive.parse raw).length) ∧
      (shown labels).getLast? = some (Directive.splice raw 0 raw.utf8ByteSize (Directive.parse raw)
        ((Directive.parse raw).map fun d ↦ (resolve registry floor d).answer world)) ∧
      ∀ d ∈ Directive.parse raw,
        (∀ handler, registry.resolve d.command = .ok handler →
          (resolve registry floor d).answer world = (handler.run d.param world).1.fragment ∧
          ((∀ param world, (handler.run param world).1 = .text param) →
            (resolve registry floor d).answer world = d.param)) ∧
        (registry.resolve d.command = .error (.notFound d.command) →
          (resolve registry floor d).answer world = "Invalid command: " ++ d.command) := by
  intro index raw hraw shown
  obtain ⟨hlength, hlast⟩ := h.renders steady hraw
  obtain ⟨hlength', hlast'⟩ := hothers.renders steady hraw
  refine ⟨hlength.trans hlength'.symm, hlast.trans hlast'.symm, hlength, hlast, fun d _ ↦
    ⟨fun handler hhandler ↦ ?_, fun hnone ↦ answer_of_notFound hnone floor world⟩⟩
  have hanswer := answer_of_handler hhandler floor world
  refine ⟨hanswer, fun hidentity ↦ ?_⟩
  rw [hanswer, hidentity]
  rfl

/-- A text with a directive for a worker, one for its own task and one whose command does not exist,
and a text without directives. -/
def assorted : List String := ["{echo(a)}-{ECHO(b), async:false}-{Nope(c)}", "plain"]

/-- The directives run one after the other, when both texts have been installed. -/
def inOrder : List (Label Unit) :=
  ((Operation.setTexts assorted).changes (.initial .empty ⟨0⟩ ())).map .change ++
    [.poll ⟨0, 0⟩ .returns, .complete ⟨0, 0⟩, .poll ⟨0, 0⟩ .returns, .poll ⟨0, 1⟩ .returns,
      .finish ⟨0, 1⟩ .returns, .poll ⟨0, 2⟩ .returns, .finish ⟨0, 2⟩ .returns]

/-- The last directive runs first, while the second text has not been installed yet, and the call of
the first one returns last. -/
def outOfOrder : List (Label Unit) :=
  let changes := (Operation.setTexts assorted).changes (.initial .empty ⟨0⟩ ())
  (changes.take 6).map .change ++
    [.poll ⟨0, 0⟩ .returns, .poll ⟨0, 2⟩ .returns, .finish ⟨0, 2⟩ .returns] ++
    (changes.drop 6).map .change ++
    [.poll ⟨0, 1⟩ .returns, .finish ⟨0, 1⟩ .returns, .complete ⟨0, 0⟩, .poll ⟨0, 0⟩ .returns]

theorem forall_task_of_all {P : Task σ → Prop} [DecidablePred P]
    (h : s.schedules.all fun schedule ↦ schedule.tasks.all fun task ↦ P task) :
    ∀ id task, s.task? id = some task → P task := by
  intro id task htask
  obtain ⟨schedule, hschedule, htask⟩ := Option.bind_eq_some_iff.1 htask
  have hall := List.all_eq_true.1 h schedule (List.mem_of_getElem? hschedule)
  exact of_decide_eq_true (List.all_eq_true.1 hall task (List.mem_of_getElem? htask))

/-- On the way the two runs show different texts; in the end they have shown as many, and the same
one last. -/
theorem assorted_shown_alike :
    let registry : Registry Unit := Registry.empty.register echo
    let shown (labels : List (Label Unit)) : List String :=
      (rendersAt 0 ((State.initial registry ⟨0⟩ ()).run labels).history).map Prod.snd
    shown inOrder = ["a--", "a-b-", "a-b-Invalid command: Nope"] ∧
      shown outOfOrder = ["--Invalid command: Nope", "-b-Invalid command: Nope",
        "a-b-Invalid command: Nope"] ∧
      (shown inOrder).length = (shown outOfOrder).length ∧
      (shown inOrder).getLast? = (shown outOfOrder).getLast? := by
  intro registry shown
  have hsteady : registry.IsSteady := by
    intro name handler hresolve
    have hfound : registry.handlers.get? (Text.lowercase name) = some handler := by
      unfold Registry.resolve at hresolve
      split at hresolve
      · rwa [← Except.ok.inj hresolve]
      · contradiction
    have hhandlers : registry.handlers = Keyed.put [] (Text.lowercase echo.name) echo := rfl
    rw [hhandlers, Keyed.get?_put] at hfound
    split at hfound
    · obtain rfl := Option.some.inj hfound
      exact fun _ _ _ ↦ rfl
    · contradiction
  have hinOrder : Completes (.initial registry ⟨0⟩ ()) assorted inOrder :=
    ⟨rfl, forall_task_of_all (by decide +kernel)⟩
  have houtOfOrder : Completes (.initial registry ⟨0⟩ ()) assorted outOfOrder :=
    ⟨rfl, forall_task_of_all (by decide +kernel)⟩
  obtain ⟨hlength, hlast, -⟩ :=
    renders_independent_of_schedule hsteady ⟨0⟩ () hinOrder houtOfOrder 0 _ rfl
  exact ⟨by decide +kernel, by decide +kernel, hlength, hlast⟩

end LiveTemplate.Refresh

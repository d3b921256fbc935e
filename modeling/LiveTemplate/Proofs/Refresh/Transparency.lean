import LiveTemplate.Proofs.Refresh.Alike

/-!
# Failures are texts

A call that fails or panics shows a diagnostic line, and nothing else comes of it. If every failing
call returned this line as its text, every run would be the same, to the last entry of its history.
The mode in which a command is called makes no difference to what is shown of its outcome. And
whatever the calls come to, every task is in the same state, ticks as often and starts its ticks at
the same times; the texts of a task depend on the outcomes of its own command alone.
-/

namespace LiveTemplate.Refresh

open Command (Bound Handler Recasting Registry fragmentOf fragmentOf_caught fragmentOf_joined spelling
  sparesAll_spelling)

variable {σ : Type} {f : Recasting σ} {s t : State σ} {id : TaskId}

/-! ## Operations -/

theorem map_recast_removal (f : Recasting σ) (size keep : Nat) :
    (removal size keep).map (Change.recast f) = removal size keep := by
  unfold removal
  rw [List.map_append, List.map_flatMap]
  rfl

theorem map_recast_installAll (f : Recasting σ) (texts : List String) :
    (installAll texts).map (Change.recast f) = installAll texts := by
  unfold installAll
  rw [List.map_flatten]
  congr 1
  apply List.ext_getElem?
  intro i
  rw [List.getElem?_map, List.getElem?_mapIdx]
  cases texts[i]? <;> rfl

/-- Where states are alike, an operation makes the same changes. -/
theorem changes_recast (h : s.Alike f t) (operation : Operation σ) :
    (operation.recast f).changes t = (operation.changes s).map (Change.recast f) := by
  have hsize : t.size = s.size := congrArg List.length h.elements
  cases operation with
  | setTexts texts =>
    simp only [Operation.recast, Operation.changes, hsize, List.map_append, List.map_replicate,
      map_recast_removal, map_recast_installAll]
    rfl
  | setText index text =>
    simp only [Operation.recast, Operation.changes, hsize]
    split <;> rfl
  | pushText text =>
    simp only [Operation.recast, Operation.changes, hsize]
    rfl
  | refresh => simp only [Operation.recast, Operation.changes, h.elements, map_recast_installAll]
  | setRegistry registry =>
    simp only [Operation.recast, Operation.changes, h.elements, List.map_cons,
      map_recast_installAll]
    rfl
  | clear => simp only [Operation.recast, Operation.changes, hsize, map_recast_removal]

/-! ## What calls return -/

namespace State

theorem outcomes_record (s : State σ) (id : TaskId) {event : Event}
    (h : Entry.outcome? ⟨s.now, event⟩ = none) :
    outcomes id (s.record event).history = outcomes id s.history := by
  rw [outcomes, record, collect_diary_cons, h]
  split <;> exact List.append_nil _

theorem outcomes_returned (s : State σ) (id : TaskId) (fragment : String) :
    outcomes id (s.record (.returned id fragment)).history = outcomes id s.history ++ [fragment] := by
  rw [outcomes, record, collect_diary_cons]
  simp [Event.task?, outcomes]

theorem outcomes_publish (s : State σ) (id : TaskId) (fragment : String) :
    outcomes id (s.publish id fragment).history = outcomes id s.history := by
  unfold publish
  simp only
  split
  · exact outcomes_record (s.modifyTask id (Task.publish fragment)) id rfl
  · rfl

theorem outcomes_deliver (s : State σ) (id : TaskId) (start : Nat) (fragment : String)
    (rendering : Rendering) :
    outcomes id (s.deliver id start fragment rendering).history = outcomes id s.history := by
  have henter (s : State σ) (phase : Phase) :
      outcomes id (s.enter id phase).history = outcomes id s.history :=
    outcomes_record (s.modifyTask id fun task ↦ { task with phase := phase }) id rfl
  unfold deliver
  split
  · split
    · cases rendering with
      | returns => exact (henter _ _).trans (outcomes_publish s id fragment)
      | panics => exact outcomes_publish s id fragment
    · exact henter s .cancelled
  · rfl

/-- What a call on the task returns is the fragment of its outcome. -/
theorem outcomes_finish {task : Task σ} {start : Nat} (htask : s.task? id = some task)
    (hphase : task.phase = .calling start) (rendering : Rendering) :
    outcomes id (s.finish id rendering).history =
      outcomes id s.history ++ [(task.value.command.invoke s.world).1.fragment] := by
  rw [finish_of_calling htask hphase, outcomes_deliver, outcomes_returned]

/-- What a call on a worker returns is the fragment of its outcome. -/
theorem outcomes_complete {task : Task σ} (htask : s.task? id = some task)
    (hworking : id ∈ s.workers) :
    outcomes id (s.complete id).history =
      outcomes id s.history ++ [(task.value.command.invoke s.world).1.fragment] := by
  rw [complete_of_working htask hworking]
  exact outcomes_returned _ id _

end State

/-! ## Runs -/

def Task.face (task : Task σ) : TaskState × Nat × String := (task.state, task.ticks, task.fragment)

theorem State.Alike.pace_eq (h : s.Alike f t) (id : TaskId) :
    (t.task? id).map (fun task ↦ (task.state, task.ticks)) =
      (s.task? id).map fun task ↦ (task.state, task.ticks) := by
  rcases h.task? id with ⟨ha, hb⟩ | ⟨a, b, ha, hb, hab⟩
  · rw [ha, hb]
  · have hstate : b.state = a.state := Phase.state_eq_of_muted_eq hab.phase
    rw [ha, hb, Option.map_some, Option.map_some, hstate, hab.ticks]

theorem State.Alike.face_eq (h : s.Alike f t) {task : Task σ} (htask : s.task? id = some task)
    (hspared : task.value.command.Spared f) : (t.task? id).map Task.face = some task.face := by
  rcases h.task? id with ⟨ha, -⟩ | ⟨a, b, ha, hb, hab⟩
  · rw [htask] at ha
    contradiction
  · obtain rfl : task = a := Option.some.inj (htask.symm.trans ha)
    obtain ⟨hphase, hfragment⟩ := hab.told hspared
    rw [hb, Option.map_some, Task.face, Task.face, Task.state, hphase, hab.ticks, hfragment]
    rfl

/-- A run in which every failure is spelled out by its command is the same run. In both modes a call
shows the fragment of its outcome: a panic that is caught on the task and one that a worker leaves
behind come to the same. Whatever the outcomes are, the owner makes the same changes, the histories agree in everything but texts, and
what is shown of a task agrees where the fragments of its own command do. -/
theorem failures_are_texts (registry : Registry σ) (floor : Duration) (world : σ)
    (labels : List (Label σ)) :
    let s := (State.initial registry floor world).run labels
    let spelled := (State.initial (registry.recast spelling) floor world).run
      (labels.map (Label.recast spelling))
    (spelled.history = s.history ∧
      ∀ id, (spelled.task? id).map Task.face = (s.task? id).map Task.face) ∧
    (∀ id task, s.task? id = some task →
      (∀ start rendering, task.phase = .calling start →
        outcomes id (s.finish id rendering).history =
          outcomes id s.history ++ [(task.value.command.invoke s.world).1.fragment]) ∧
      (id ∈ s.workers →
        outcomes id (s.complete id).history =
          outcomes id s.history ++ [(task.value.command.invoke s.world).1.fragment]) ∧
      fragmentOf (task.value.command.invoke s.world).1.caught =
        fragmentOf (task.value.command.invoke s.world).1.joined.answer) ∧
    ∀ f : Recasting σ,
      let t := (State.initial (registry.recast f) floor world).run (labels.map (Label.recast f))
      (∀ operation : Operation σ,
        (operation.recast f).changes t = (operation.changes s).map (Change.recast f)) ∧
      t.history.map Entry.muted = s.history.map Entry.muted ∧
      ∀ id,
        (t.task? id).map (fun task ↦ (task.state, task.ticks)) =
          (s.task? id).map (fun task ↦ (task.state, task.ticks)) ∧
        ∀ task, s.task? id = some task → task.value.command.Spared f →
          (t.task? id).map Task.face = some task.face := by
  intro s spelled
  have halike (f : Recasting σ) :
      s.Alike f ((State.initial (registry.recast f) floor world).run
        (labels.map (Label.recast f))) :=
    (State.Alike.initial f registry floor world).run labels
  refine ⟨⟨(halike spelling).told sparesAll_spelling, fun id ↦ ?_⟩, ?_, fun f ↦
    ⟨changes_recast (halike f), (halike f).history, fun id ↦ ⟨(halike f).pace_eq id,
      fun task htask hspared ↦ (halike f).face_eq htask hspared⟩⟩⟩
  · cases htask : s.task? id with
    | none =>
      rcases (halike spelling).task? id with ⟨-, hb⟩ | ⟨a, b, ha, -, -⟩
      · rw [hb]
      · rw [htask] at ha
        contradiction
    | some task => exact (halike spelling).face_eq htask (sparesAll_spelling.spared _)
  · intro id task htask
    exact ⟨fun start rendering hphase ↦ State.outcomes_finish htask hphase rendering,
      State.outcomes_complete htask, by rw [fragmentOf_caught, fragmentOf_joined]⟩

/-- A command that fails, one that panics, and one that answers. -/
def mixed : Registry Unit :=
  ((Registry.empty.register (.plain "bad" fun _ world ↦ (.failure (.failed "no"), world))).register
    (.plain "boom" fun _ world ↦ (.panicked .other, world))).register
      (.plain "good" fun param world ↦ (.text param, world))

/-- The answer is shown, the failing call is on its task, and the panicking one on a worker. -/
def together : List (Label Unit) :=
  (.append :: installation 0 "{bad()}/{boom(), async:true}/{good(x)}").map .change ++
    [.poll ⟨0, 2⟩ .returns, .finish ⟨0, 2⟩ .returns, .poll ⟨0, 0⟩ .returns, .poll ⟨0, 1⟩ .returns]

/-- The recasting that leaves nothing but the answers of one command. -/
def silencing : Recasting Unit := fun handler _ outcome ↦
  if handler.name = "good" then outcome else .text ""

/-- Failures are shown as texts in both modes, and the answer does not depend on them. -/
theorem together_transparent :
    let s := (State.initial mixed ⟨0⟩ ()).run together
    let spelled := (State.initial (mixed.recast spelling) ⟨0⟩ ()).run
      (together.map (Label.recast spelling))
    let silenced := (State.initial (mixed.recast silencing) ⟨0⟩ ()).run
      (together.map (Label.recast silencing))
    spelled.history = s.history ∧
      outcomes ⟨0, 0⟩ (s.finish ⟨0, 0⟩ .returns).history = ["Error executing command: no"] ∧
      outcomes ⟨0, 1⟩ (s.complete ⟨0, 1⟩).history =
        ["Error executing command: handler panicked"] ∧
      (silenced.task? ⟨0, 2⟩).map Task.face = some (.terminated, 1, "x") := by
  intro s spelled silenced
  obtain ⟨⟨hhistory, -⟩, hcalls, hrecast⟩ := failures_are_texts mixed ⟨0⟩ () together
  have hrun : (s.task? ⟨0, 0⟩).map (fun task ↦
        (task.phase, (task.value.command.invoke s.world).1.fragment)) =
          some (.calling 0, "Error executing command: no") ∧
      (s.task? ⟨0, 1⟩).map (fun task ↦ (task.value.command.invoke s.world).1.fragment) =
        some "Error executing command: handler panicked" ∧
      (s.task? ⟨0, 2⟩).map (fun task ↦ (task.value.command.name, task.face)) =
        some ("good", .terminated, 1, "x") ∧
      ⟨0, 1⟩ ∈ s.workers ∧ outcomes ⟨0, 0⟩ s.history = [] ∧ outcomes ⟨0, 1⟩ s.history = [] := by
    decide +kernel
  obtain ⟨hbad, hboom, hgood, hworking, hnone, hnone'⟩ := hrun
  obtain ⟨bad, hbadTask, hbad⟩ := Option.map_eq_some_iff.1 hbad
  obtain ⟨boom, hboomTask, hboom⟩ := Option.map_eq_some_iff.1 hboom
  obtain ⟨good, hgoodTask, hgood⟩ := Option.map_eq_some_iff.1 hgood
  rw [Prod.mk.injEq] at hbad hgood
  have hfinish := (hcalls ⟨0, 0⟩ bad hbadTask).1 0 .returns hbad.1
  have hcomplete := (hcalls ⟨0, 1⟩ boom hboomTask).2.1 hworking
  have hspared : good.value.command.Spared silencing := by
    cases hcommand : good.value.command with
    | call handler param =>
      intro outcome
      have hname : handler.name = "good" := by
        rw [hcommand] at hgood
        exact hgood.1
      rw [silencing, if_pos hname]
    | invalid name => trivial
  have hface := ((hrecast silencing).2.2 ⟨0, 2⟩).2 good hgoodTask hspared
  refine ⟨hhistory, hfinish.trans ?_, hcomplete.trans ?_, hface.trans ?_⟩
  · rw [hbad.2, hnone]
    rfl
  · rw [hboom, hnone']
    rfl
  · rw [hgood.2]

end LiveTemplate.Refresh

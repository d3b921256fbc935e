import Mathlib.Data.List.Forall2
import LiveTemplate.Proofs.Command.Recasting
import LiveTemplate.Proofs.Refresh.Run

/-!
# Runs with other outcomes

Two runs are alike when they differ only in what the calls of commands come to: the tasks of both
stand at the same points, have ticked as often and do the same at the same times. The texts that are
shown may differ, but a task whose command has not been recast shows the same texts in both runs,
whatever the other tasks show; and if no fragment has changed, everything is the same.

Every step takes states that are alike to states that are alike.
-/

namespace LiveTemplate.Refresh

open Command (Bound Outcome Recasting Registry)

variable {σ : Type} {f : Recasting σ} {s t : State σ} {id : TaskId} {a b : Task σ}

/-! ## Recasting values and changes -/

def Value.recast (f : Recasting σ) (value : Value σ) : Value σ :=
  { value with command := value.command.recast f }

/-- A directive comes to the recast value under the recast registry. -/
theorem resolve_recast (f : Recasting σ) (registry : Registry σ) (floor : Duration)
    (d : Directive.Descriptor) :
    resolve (registry.recast f) floor d = (resolve registry floor d).recast f := by
  simp only [resolve, Value.recast, Registry.bind_recast, Registry.defaultAsync_recast]

def Change.recast (f : Recasting σ) : Change σ → Change σ
  | .exchange registry => .exchange (registry.recast f)
  | .append => .append
  | .supersede index => .supersede index
  | .vacate index => .vacate index
  | .place index raw => .place index raw
  | .truncate size => .truncate size

def Label.recast (f : Recasting σ) : Label σ → Label σ
  | .change made => .change (made.recast f)
  | .poll task rendering => .poll task rendering
  | .finish task rendering => .finish task rendering
  | .complete task => .complete task
  | .elapse nanoseconds => .elapse nanoseconds
  | .disturb disturbance => .disturb disturbance

def Operation.recast (f : Recasting σ) : Operation σ → Operation σ
  | .setRegistry registry => .setRegistry (registry.recast f)
  | .setTexts texts => .setTexts texts
  | .setText index text => .setText index text
  | .pushText text => .pushText text
  | .refresh => .refresh
  | .clear => .clear

/-! ## Without texts -/

/-- A phase without the fragment that the task has been sent. -/
def Phase.muted : Phase → Phase
  | .awaiting start fragment? => .awaiting start (fragment?.map fun _ ↦ "")
  | phase => phase

/-- An event without the text of a call, of a render or of a task. -/
def Event.muted : Event → Event
  | .rendered index _ source? => .rendered index "" source?
  | .returned task _ => .returned task ""
  | event => event

def Entry.muted (entry : Entry) : Entry := ⟨entry.time, entry.event.muted⟩

/-- Phases that are equal without texts are equal, or differ in the fragment that has been sent. -/
theorem Phase.eq_or_of_muted_eq {p q : Phase} (h : q.muted = p.muted) :
    q = p ∨ ∃ start fragment other, p = .awaiting start (some fragment) ∧
      q = .awaiting start (some other) := by
  cases p with
  | awaiting start fragment? =>
    cases q with
    | awaiting start' other? =>
      cases fragment? <;> cases other? <;> simp_all [muted]
    | _ => simp [muted] at h
  | _ => cases q <;> simp_all [muted]

/-- Phases that are equal without texts show the same state. -/
theorem Phase.state_eq_of_muted_eq {p q : Phase} (h : q.muted = p.muted) : q.state = p.state := by
  rcases eq_or_of_muted_eq h with rfl | ⟨start, fragment, other, rfl, rfl⟩ <;> rfl

/-! ## States that are alike -/

/-- Tasks that stand at the same point of the same directive. -/
structure Task.Alike (f : Recasting σ) (a b : Task σ) : Prop where
  value : b.value = a.value.recast f
  phase : b.phase.muted = a.phase.muted
  ticks : b.ticks = a.ticks
  told : a.value.command.Spared f → b.phase = a.phase ∧ b.fragment = a.fragment

/-- Schedules of the same text, with tasks that stand at the same points. -/
structure Schedule.Alike (f : Recasting σ) (a b : Schedule σ) : Prop where
  index : b.index = a.index
  cell : b.cell = a.cell
  generation : b.generation = a.generation
  raw : b.raw = a.raw
  cancelled : b.cancelled = a.cancelled
  tasks : List.Forall₂ (Task.Alike f) a.tasks b.tasks

namespace State

/-- States that differ only in what the calls of commands come to. -/
structure Alike (f : Recasting σ) (s t : State σ) : Prop where
  registry : t.registry = s.registry.recast f
  floor : t.floor = s.floor
  world : t.world = s.world
  now : t.now = s.now
  cells : t.cells = s.cells
  schedules : List.Forall₂ (Schedule.Alike f) s.schedules t.schedules
  elements : t.elements = s.elements
  workers : t.workers = s.workers
  history : t.history.map Entry.muted = s.history.map Entry.muted
  told : f.SparesAll → t.history = s.history

end State

/-! ## Lists -/

section

variable {α β : Type} {R : α → β → Prop} {l : List α} {m : List β}

/-- Related lists have related members at every position, or both have none. -/
theorem forall₂_getElem? (h : List.Forall₂ R l m) (i : Nat) :
    l[i]? = none ∧ m[i]? = none ∨ ∃ a b, l[i]? = some a ∧ m[i]? = some b ∧ R a b := by
  induction h generalizing i with
  | nil => exact .inl ⟨rfl, rfl⟩
  | cons hab _ ih =>
    cases i with
    | zero => exact .inr ⟨_, _, rfl, rfl, hab⟩
    | succ i => exact ih i

/-- Related lists stay related when related members are changed to related ones. -/
theorem forall₂_modify {g : α → α} {g' : β → β} (h : List.Forall₂ R l m) {i : Nat}
    (hg : ∀ a b, l[i]? = some a → R a b → R (g a) (g' b)) :
    List.Forall₂ R (l.modify i g) (m.modify i g') := by
  induction h generalizing i with
  | nil => simp
  | cons hab hrest ih =>
    cases i with
    | zero => exact .cons (hg _ _ rfl hab) hrest
    | succ i => exact .cons hab (ih fun a b ha ↦ hg a b ha)

end

theorem fragments_eq {as bs : List (Task σ)} (h : List.Forall₂ (Task.Alike f) as bs)
    (hall : f.SparesAll) : bs.map Task.fragment = as.map Task.fragment := by
  induction h with
  | nil => rfl
  | cons hab _ ih => rw [List.map_cons, List.map_cons, ih, (hab.told (hall.spared _)).2]

namespace Task.Alike

/-- Tasks that are alike still are after they have gone to the same phase. -/
theorem setPhase (h : a.Alike f b) (phase : Phase) :
    Task.Alike f { a with phase := phase } { b with phase := phase } :=
  ⟨h.value, rfl, h.ticks, fun hspared ↦ ⟨rfl, (h.told hspared).2⟩⟩

/-- They still are after both have published fragments, which may differ if the command has been
recast. -/
theorem publish (h : a.Alike f b) {fragment other : String}
    (htold : a.value.command.Spared f → other = fragment) :
    (a.publish fragment).Alike f (b.publish other) :=
  ⟨h.value, h.phase, congrArg (· + 1) h.ticks, fun hspared ↦
    ⟨(h.told hspared).1, htold hspared⟩⟩

/-- They still are after both have been sent fragments. -/
theorem receive (h : a.Alike f b) {fragment other : String}
    (htold : a.value.command.Spared f → other = fragment) :
    (a.receive fragment).Alike f (b.receive other) := by
  unfold Task.receive
  rcases Phase.eq_or_of_muted_eq h.phase with hsame | ⟨start, sent, sent', hsent, hsent'⟩
  · rw [hsame]
    cases a.phase with
    | awaiting start fragment? =>
      cases fragment? with
      | none =>
        exact ⟨h.value, rfl, h.ticks, fun hspared ↦ ⟨by rw [htold hspared], (h.told hspared).2⟩⟩
      | some sent => exact h
    | _ => exact h
  · rw [hsent, hsent']
    exact h

end Task.Alike

namespace Schedule.Alike

variable {c d : Schedule σ}

theorem cancel (h : c.Alike f d) : c.cancel.Alike f d.cancel :=
  ⟨h.index, h.cell, h.generation, h.raw, rfl, h.tasks⟩

/-- If no fragment has changed, the texts are the same. -/
theorem merged (h : c.Alike f d) (hall : f.SparesAll) : d.merged = c.merged := by
  rw [Schedule.merged, Schedule.merged, h.raw, fragments_eq h.tasks hall]

end Schedule.Alike

namespace State.Alike

/-! ## Queries -/

theorem schedule? (h : s.Alike f t) (n : Nat) :
    s.schedules[n]? = none ∧ t.schedules[n]? = none ∨
      ∃ c d, s.schedules[n]? = some c ∧ t.schedules[n]? = some d ∧ c.Alike f d :=
  forall₂_getElem? h.schedules n

theorem task? (h : s.Alike f t) (id : TaskId) :
    s.task? id = none ∧ t.task? id = none ∨
      ∃ a b, s.task? id = some a ∧ t.task? id = some b ∧ a.Alike f b := by
  unfold State.task?
  rcases h.schedule? id.schedule with ⟨hc, hd⟩ | ⟨c, d, hc, hd, hcd⟩
  · rw [hc, hd]
    exact .inl ⟨rfl, rfl⟩
  · rw [hc, hd]
    exact forall₂_getElem? hcd.tasks id.directive

theorem isCancelled (h : s.Alike f t) (id : TaskId) : t.isCancelled id = s.isCancelled id := by
  unfold State.isCancelled
  rcases h.schedule? id.schedule with ⟨hc, hd⟩ | ⟨c, d, hc, hd, hcd⟩
  · rw [hc, hd]
  · rw [hc, hd]
    exact hcd.cancelled

theorem isInstalled (h : s.Alike f t) {c d : Schedule σ} (hcd : c.Alike f d) :
    t.isInstalled d = s.isInstalled c := by
  rw [State.isInstalled, State.isInstalled, h.cells, hcd.cell, hcd.generation]

/-! ## Small changes -/

theorem record (h : s.Alike f t) {e e' : Event} (hmuted : e'.muted = e.muted)
    (htold : f.SparesAll → e' = e) : (s.record e).Alike f (t.record e') := by
  obtain ⟨hregistry, hfloor, hworld, hnow, hcells, hschedules, helements, hworkers, hhistory,
    hall⟩ := h
  refine ⟨hregistry, hfloor, hworld, hnow, hcells, hschedules, helements, hworkers, ?_, ?_⟩
  · simp only [State.record, List.map_cons, Entry.muted, hmuted, hnow, hhistory]
  · intro hspares
    simp only [State.record, htold hspares, hnow, hall hspares]

theorem modifyTask (h : s.Alike f t) {g g' : Task σ → Task σ}
    (hg : ∀ a b, s.task? id = some a → a.Alike f b → (g a).Alike f (g' b)) :
    (s.modifyTask id g).Alike f (t.modifyTask id g') := by
  obtain ⟨hregistry, hfloor, hworld, hnow, hcells, hschedules, helements, hworkers, hhistory,
    hall⟩ := h
  refine ⟨hregistry, hfloor, hworld, hnow, hcells, ?_, helements, hworkers, hhistory, hall⟩
  refine forall₂_modify hschedules fun c d hc hcd ↦ ?_
  refine ⟨hcd.index, hcd.cell, hcd.generation, hcd.raw, hcd.cancelled, ?_⟩
  refine forall₂_modify hcd.tasks fun a b ha hab ↦ hg a b ?_ hab
  rw [State.task?, hc]
  exact ha

theorem enter (h : s.Alike f t) (id : TaskId) (phase : Phase) :
    (s.enter id phase).Alike f (t.enter id phase) :=
  (h.modifyTask fun _ _ _ hab ↦ hab.setPhase phase).record rfl fun _ ↦ rfl

theorem employ (h : s.Alike f t) (g : List TaskId → List TaskId) :
    State.Alike f { s with workers := g s.workers } { t with workers := g t.workers } :=
  ⟨h.registry, h.floor, h.world, h.now, h.cells, h.schedules, h.elements, congrArg g h.workers,
    h.history, h.told⟩

theorem setWorld (h : s.Alike f t) (world : σ) :
    State.Alike f { s with world := world } { t with world := world } :=
  ⟨h.registry, h.floor, rfl, h.now, h.cells, h.schedules, h.elements, h.workers, h.history, h.told⟩

/-! ## Steps of tasks -/

theorem beginTick (h : s.Alike f t) (id : TaskId) (mode : Mode) :
    (s.beginTick id mode).Alike f (t.beginTick id mode) := by
  unfold State.beginTick
  rw [h.isCancelled id, h.now]
  split
  · exact (h.record rfl fun _ ↦ rfl).enter id .cancelled
  · cases mode with
    | onTask => exact (h.enter id _).record rfl fun _ ↦ rfl
    | onWorker => exact ((h.enter id _).record rfl fun _ ↦ rfl).employ (· ++ [id])

/-- A fragment is published in both states, and may differ if the command has been recast. -/
theorem publish (h : s.Alike f t) {fragment other : String}
    (htold : ∀ a, s.task? id = some a → a.value.command.Spared f → other = fragment) :
    (s.publish id fragment).Alike f (t.publish id other) := by
  have hpublished : (s.modifyTask id (Task.publish fragment)).Alike f
      (t.modifyTask id (Task.publish other)) :=
    h.modifyTask fun a b ha hab ↦ hab.publish (htold a ha)
  unfold State.publish
  rcases hpublished.schedule? id.schedule with ⟨hc, hd⟩ | ⟨c, d, hc, hd, hcd⟩
  · simp only [hc, hd]
    exact hpublished
  · simp only [hc, hd]
    refine hpublished.record ?_ fun hall ↦ ?_
    · simp only [Event.muted, hcd.index]
    · rw [hcd.index, hcd.merged hall]

/-- A fragment is delivered in both states, and may differ if the command has been recast. -/
theorem deliver (h : s.Alike f t) {start : Nat} {fragment other : String}
    (htold : ∀ a, s.task? id = some a → a.value.command.Spared f → other = fragment)
    (rendering : Rendering) :
    (s.deliver id start fragment rendering).Alike f (t.deliver id start other rendering) := by
  have hpublished := h.publish htold
  unfold State.deliver
  rcases h.schedule? id.schedule with ⟨hc, hd⟩ | ⟨c, d, hc, hd, hcd⟩
  · simp only [hc, hd]
    exact h
  · rcases h.task? id with ⟨ha, hb⟩ | ⟨a, b, ha, hb, hab⟩
    · simp only [hc, hd, ha, hb]
      exact h
    · have hphase : b.value.phaseAfter start t.now = a.value.phaseAfter start s.now := by
        rw [hab.value, h.now]
        rfl
      simp only [hc, hd, ha, hb, h.isInstalled hcd, hphase]
      split
      · cases rendering with
        | returns => exact hpublished.enter id _
        | panics => exact hpublished.modifyTask fun _ _ _ hab ↦ hab.setPhase .broken
      · exact h.enter id .cancelled

theorem poll (h : s.Alike f t) (id : TaskId) (rendering : Rendering) :
    (s.poll id rendering).Alike f (t.poll id rendering) := by
  unfold State.poll
  rcases h.task? id with ⟨ha, hb⟩ | ⟨a, b, ha, hb, hab⟩
  · simp only [ha, hb]
    exact h
  have hmode : b.value.mode = a.value.mode := by rw [hab.value]; rfl
  simp only [ha, hb, h.isCancelled id, h.now, hmode]
  rcases Phase.eq_or_of_muted_eq hab.phase with hsame | ⟨start, sent, sent', hsent, hsent'⟩
  · rw [hsame]
    cases a.phase with
    | idle => exact h.beginTick id _
    | awaiting start fragment? =>
      simp only
      split
      · exact h.enter id .cancelled
      · cases fragment? with
        | none => exact h
        | some sent => exact h.deliver (fun _ _ _ ↦ rfl) rendering
    | yielded =>
      simp only
      split
      · exact h.enter id .cancelled
      · exact h.beginTick id _
    | asleep wake =>
      simp only
      split
      · exact h.enter id .cancelled
      · split
        · exact h.beginTick id _
        · exact h
    | _ => exact h
  · -- workers have sent the tasks fragments, which differ only if the command has been recast
    have htold : ∀ found, s.task? id = some found → found.value.command.Spared f →
        sent' = sent := by
      intro found hfound hspared
      obtain rfl : a = found := Option.some.inj (ha.symm.trans hfound)
      have hphase := (hab.told hspared).1
      rw [hsent, hsent'] at hphase
      simpa using hphase
    rw [hsent, hsent']
    simp only
    split
    · exact h.enter id .cancelled
    · exact h.deliver htold rendering

/-- What a call returns is written down in both states, and may differ if the command has been
recast. -/
theorem returned (h : s.Alike f t) (id : TaskId) {fragment other : String}
    (htold : f.SparesAll → other = fragment) :
    (s.record (.returned id fragment)).Alike f (t.record (.returned id other)) :=
  h.record rfl fun hall ↦ by rw [htold hall]

theorem finish (h : s.Alike f t) (id : TaskId) (rendering : Rendering) :
    (s.finish id rendering).Alike f (t.finish id rendering) := by
  rcases h.task? id with ⟨ha, hb⟩ | ⟨a, b, ha, hb, hab⟩
  · simp only [State.finish, ha, hb]
    exact h
  rcases Phase.eq_or_of_muted_eq hab.phase with hsame | ⟨start, sent, sent', hsent, hsent'⟩
  · cases hphase : a.phase with
    | calling start =>
      have htold (hspared : a.value.command.Spared f) :
          (b.value.command.invoke t.world).1.fragment =
            (a.value.command.invoke s.world).1.fragment := by
        rw [hab.value, h.world]
        exact Bound.fragment_invoke_recast s.world hspared
      have hworld : (b.value.command.invoke t.world).2 =
          (a.value.command.invoke s.world).2 := by
        rw [hab.value, h.world]
        exact Bound.world_invoke_recast f a.value.command s.world
      rw [State.finish_of_calling ha hphase, State.finish_of_calling hb (hsame.trans hphase), hworld]
      have hreturned := (h.setWorld (a.value.command.invoke s.world).2).returned id
        fun hall ↦ htold (hall.spared _)
      refine hreturned.deliver (fun found hfound ↦ ?_) rendering
      obtain rfl : a = found := Option.some.inj (ha.symm.trans hfound)
      exact htold
    | _ =>
      simp only [State.finish, ha, hb, hsame, hphase]
      exact h
  · simp only [State.finish, ha, hb, hsent, hsent']
    exact h

theorem complete (h : s.Alike f t) (id : TaskId) : (s.complete id).Alike f (t.complete id) := by
  rcases h.task? id with ⟨ha, hb⟩ | ⟨a, b, ha, hb, hab⟩
  · simp only [State.complete, ha, hb]
    exact h
  by_cases hworking : id ∈ s.workers
  · have htold (hspared : a.value.command.Spared f) :
        (b.value.command.invoke t.world).1.fragment =
          (a.value.command.invoke s.world).1.fragment := by
      rw [hab.value, h.world]
      exact Bound.fragment_invoke_recast s.world hspared
    have hworld : (b.value.command.invoke t.world).2 = (a.value.command.invoke s.world).2 := by
      rw [hab.value, h.world]
      exact Bound.world_invoke_recast f a.value.command s.world
    rw [State.complete_of_working ha hworking, State.complete_of_working hb (h.workers ▸ hworking),
      hworld]
    have hreturned := ((h.setWorld (a.value.command.invoke s.world).2).employ
      (·.erase id)).returned id fun hall ↦ htold (hall.spared _)
    refine hreturned.modifyTask fun found other hfound halike ↦ ?_
    obtain rfl : a = found := Option.some.inj (ha.symm.trans hfound)
    exact halike.receive htold
  · have hworking' : id ∉ t.workers := h.workers ▸ hworking
    simp only [State.complete, ha, hb, hworking, hworking', if_false]
    exact h

/-! ## Changes of the list -/

theorem setCells (h : s.Alike f t) (cells : List Nat) :
    State.Alike f { s with cells := cells } { t with cells := cells } :=
  ⟨h.registry, h.floor, h.world, h.now, rfl, h.schedules, h.elements, h.workers, h.history, h.told⟩

theorem setElements (h : s.Alike f t) (elements : List Element) :
    State.Alike f { s with elements := elements } { t with elements := elements } :=
  ⟨h.registry, h.floor, h.world, h.now, h.cells, h.schedules, rfl, h.workers, h.history, h.told⟩

theorem append (h : s.Alike f t) : s.append.Alike f t.append := by
  unfold State.append
  rw [h.cells, h.elements]
  exact (h.setCells (s.cells ++ [0])).setElements (s.elements ++ [{ cell := s.cells.length }])

theorem supersede (h : s.Alike f t) (index : Nat) :
    (s.supersede index).Alike f (t.supersede index) := by
  unfold State.supersede
  rw [h.elements, h.cells]
  cases s.elements[index]? with
  | none => exact h
  | some element =>
    have hcells := h.setCells (s.cells.modify element.cell (· + 1))
    have helements := hcells.setElements (s.elements.set index { element with stage := .superseded })
    exact helements.record rfl fun _ ↦ rfl

theorem vacate (h : s.Alike f t) (index : Nat) : (s.vacate index).Alike f (t.vacate index) := by
  unfold State.vacate
  rw [h.elements]
  cases s.elements[index]? with
  | none => exact h
  | some element =>
    simp only
    split
    · refine ⟨h.registry, h.floor, h.world, h.now, h.cells, ?_, rfl, h.workers, h.history, h.told⟩
      cases element.schedule? with
      | none => exact h.schedules
      | some n => exact forall₂_modify h.schedules fun _ _ _ hcd ↦ hcd.cancel
    · exact h

/-- New tasks of a directive are alike. -/
theorem forall₂_tasks (f : Recasting σ) (values : List (Value σ)) :
    List.Forall₂ (Task.Alike f) (values.map fun value ↦ { value := value })
      ((values.map (Value.recast f)).map fun value ↦ { value := value }) := by
  induction values with
  | nil => exact .nil
  | cons value values ih => exact .cons ⟨rfl, rfl, rfl, fun _ ↦ ⟨rfl, rfl⟩⟩ ih

theorem placeSchedule (h : s.Alike f t) (index cell : Nat) (raw : String)
    (values : List (Value σ)) :
    (s.placeSchedule index cell raw values).Alike f
      (t.placeSchedule index cell raw (values.map (Value.recast f))) := by
  have hlength : t.schedules.length = s.schedules.length := h.schedules.length_eq.symm
  have hnew : Schedule.Alike f
      { index := index, cell := cell, generation := (s.cells[cell]?).getD 0, raw := raw,
        tasks := values.map fun value ↦ { value := value } }
      { index := index, cell := cell, generation := (t.cells[cell]?).getD 0, raw := raw,
        tasks := (values.map (Value.recast f)).map fun value ↦ { value := value } } :=
    ⟨rfl, rfl, by rw [h.cells], rfl, rfl, forall₂_tasks f values⟩
  unfold State.placeSchedule
  simp only [hlength]
  refine record ?_ rfl fun _ ↦ rfl
  refine ⟨h.registry, h.floor, h.world, h.now, h.cells, ?_, ?_, h.workers, h.history, h.told⟩
  · exact List.rel_append h.schedules (.cons hnew .nil)
  · simp only [h.elements]

theorem place (h : s.Alike f t) (index : Nat) (raw : String) :
    (s.place index raw).Alike f (t.place index raw) := by
  unfold State.place
  rw [h.elements]
  cases s.elements[index]? with
  | none => exact h
  | some element =>
    have hvalues : (Directive.parse raw).map (resolve t.registry t.floor) =
        ((Directive.parse raw).map (resolve s.registry s.floor)).map (Value.recast f) := by
      rw [h.registry, h.floor, List.map_map]
      exact List.map_congr_left fun d _ ↦ resolve_recast f s.registry s.floor d
    simp only [hvalues, List.isEmpty_map]
    split
    · split
      · unfold State.placeLiteral
        rw [h.elements]
        exact ((h.setElements _).record rfl fun _ ↦ rfl).record rfl fun _ ↦ rfl
      · exact h.placeSchedule index element.cell raw _
    · exact h

theorem tornDown (h : s.Alike f t) (indices : List Nat) :
    State.Alike f (indices.foldl (fun s index ↦ s.record (.tornDown index)) s)
      (indices.foldl (fun t index ↦ t.record (.tornDown index)) t) := by
  induction indices generalizing s t with
  | nil => exact h
  | cons index indices ih => exact ih (h.record rfl fun _ ↦ rfl)

theorem truncate (h : s.Alike f t) (size : Nat) :
    (s.truncate size).Alike f (t.truncate size) := by
  unfold State.truncate
  rw [h.elements]
  split
  · have htorn := h.tornDown ((List.range s.elements.length).drop size)
    simp only
    rw [htorn.elements]
    exact htorn.setElements _
  · exact h

theorem change (h : s.Alike f t) (change : Change σ) :
    (s.change change).Alike f (t.change (change.recast f)) := by
  cases change with
  | append => exact h.append
  | supersede index => exact h.supersede index
  | vacate index => exact h.vacate index
  | place index raw => exact h.place index raw
  | truncate size => exact h.truncate size
  | exchange registry =>
    exact ⟨rfl, h.floor, h.world, h.now, h.cells, h.schedules, h.elements, h.workers, h.history,
      h.told⟩

/-! ## Steps and runs -/

/-- Whatever happens, states that are alike stay alike. -/
theorem step (h : s.Alike f t) (label : Label σ) :
    (s.step label).Alike f (t.step (label.recast f)) := by
  cases label with
  | change made => exact h.change made
  | poll task rendering => exact h.poll task rendering
  | finish task rendering => exact h.finish task rendering
  | complete task => exact h.complete task
  | elapse nanoseconds =>
    exact ⟨h.registry, h.floor, h.world, congrArg (· + nanoseconds) h.now, h.cells, h.schedules,
      h.elements, h.workers, h.history, h.told⟩
  | disturb disturbance =>
    exact ⟨h.registry, h.floor, congrArg disturbance h.world, h.now, h.cells, h.schedules,
      h.elements, h.workers, h.history, h.told⟩

theorem run (h : s.Alike f t) (labels : List (Label σ)) :
    (s.run labels).Alike f (t.run (labels.map (Label.recast f))) := by
  induction labels generalizing s t with
  | nil => exact h
  | cons label labels ih => exact ih (h.step label)

theorem initial (f : Recasting σ) (registry : Registry σ) (floor : Duration) (world : σ) :
    (State.initial registry floor world).Alike f
      (State.initial (registry.recast f) floor world) :=
  ⟨rfl, rfl, rfl, rfl, rfl, .nil, rfl, rfl, rfl, fun _ ↦ rfl⟩

end State.Alike

end LiveTemplate.Refresh

import LiveTemplate.Proofs.Refresh.Housing

/-!
# The layout of the list

What the owner of a list of texts has brought about can be told apart from what the tasks do. The
layout says, for every position, how far the replacement of its text has come, which text it is, how
often a text has been installed there, and to what the directives of the text came when it was. A
change of the list is a change of its layout, and nothing else is: a run changes the layout as the
changes in it do, whatever the tasks, the workers and the clock do in between.

On layouts an operation is an operation on lists: it installs texts anew, keeps a beginning, or adds
something at the end.
-/

namespace LiveTemplate.Refresh

open Command (Registry)

variable {σ : Type} {s t : State σ} {index : Nat} {element : Element} {raw : String}
  {label : Label σ}

/-! ## Sites -/

/-- What there is at a position of the list; at first there is nothing. -/
@[ext]
structure Site (σ : Type) where
  stage : Stage := .vacant
  text : String := ""
  generation : Nat := 0
  values : List (Value σ) := []

namespace Site

def supersede (site : Site σ) : Site σ :=
  { site with stage := .superseded, generation := site.generation + 1 }

def vacate (site : Site σ) : Site σ :=
  if site.stage = .superseded then { site with stage := .vacant, values := [] } else site

def place (registry : Registry σ) (floor : Duration) (text : String) (site : Site σ) : Site σ :=
  if site.stage = .vacant then
    { site with
      stage := .settled
      text := text
      values := (Directive.parse text).map (resolve registry floor) }
  else site

def retire (site : Site σ) : Site σ :=
  { site with stage := .vacant, generation := site.generation + 1, values := [] }

def install (registry : Registry σ) (floor : Duration) (text : String) (site : Site σ) :
    Site σ where
  stage := .settled
  text := text
  generation := site.generation + 1
  values := (Directive.parse text).map (resolve registry floor)

theorem vacate_supersede (site : Site σ) : site.supersede.vacate = site.retire := by
  simp [vacate, supersede, retire]

theorem place_retire (registry : Registry σ) (floor : Duration) (text : String) (site : Site σ) :
    place registry floor text site.retire = site.install registry floor text := by
  simp [place, retire, install]

end Site

/-! ## Layouts -/

/-- A function that leaves the member of a list at a position as it is leaves the list as it is. -/
theorem modify_eq_self_of {α : Type} {f : α → α} {l : List α}
    (h : ∀ a, l[index]? = some a → f a = a) : l.modify index f = l := by
  apply List.ext_getElem?
  intro i
  rw [List.getElem?_modify]
  cases hi : l[i]? with
  | none => rfl
  | some a =>
    by_cases hindex : index = i
    · subst hindex
      simp [h a hi]
    · simp [hindex]

/-- The registry, the floor, and what there is at each position. -/
@[ext]
structure Layout (σ : Type) where
  registry : Registry σ
  floor : Duration
  sites : List (Site σ)

/-- The change of the list that a label makes, if it makes one. -/
def Label.change? : Label σ → Option (Change σ)
  | .change made => some made
  | _ => none

def changesOf (labels : List (Label σ)) : List (Change σ) := labels.filterMap Label.change?

def Layout.change (layout : Layout σ) : Change σ → Layout σ
  | .append => { layout with sites := layout.sites ++ [{}] }
  | .supersede index => { layout with sites := layout.sites.modify index Site.supersede }
  | .vacate index => { layout with sites := layout.sites.modify index Site.vacate }
  | .place index raw =>
    { layout with
      sites := layout.sites.modify index (Site.place layout.registry layout.floor raw) }
  | .truncate size =>
    if (layout.sites.drop size).all (·.stage = .vacant) then
      { layout with sites := layout.sites.take size }
    else layout
  | .exchange registry => { layout with registry := registry }

namespace State

def siteOf (s : State σ) (element : Element) : Site σ where
  stage := element.stage
  text := element.raw
  generation := (s.cells[element.cell]?).getD 0
  values := (s.tasksOf element).map Task.value

def layout (s : State σ) : Layout σ where
  registry := s.registry
  floor := s.floor
  sites := s.elements.map s.siteOf

theorem getElem?_sites (s : State σ) (index : Nat) :
    s.layout.sites[index]? = (s.elements[index]?).map s.siteOf :=
  List.getElem?_map

/-- The values of an element, schedule by schedule. -/
theorem values_siteOf (s : State σ) (element : Element) :
    (s.siteOf element).values =
      (((element.schedule?.bind (s.schedules[·]?)).map Schedule.tasks).getD []).map Task.value :=
  rfl

/-! ## Changes of the layout -/

/-- A change that leaves the state as it is, and would leave the site at its position as it is, is a
change of the layout that leaves it as it is. -/
theorem layout_of_same {f : Site σ → Site σ} (hsame : t = s)
    (hf : ∀ element, s.elements[index]? = some element → f (s.siteOf element) = s.siteOf element) :
    t.layout = { s.layout with sites := s.layout.sites.modify index f } := by
  rw [hsame]
  refine Layout.ext rfl rfl (modify_eq_self_of fun site hsite ↦ ?_).symm
  rw [getElem?_sites] at hsite
  obtain ⟨element, helement, rfl⟩ := Option.map_eq_some_iff.1 hsite
  exact hf element helement

/-- A change at a position without an element changes no layout. -/
theorem layout_of_none {f : Site σ → Site σ} (hsame : t = s) (h : s.elements[index]? = none) :
    t.layout = { s.layout with sites := s.layout.sites.modify index f } := by
  refine layout_of_same hsame fun element helement ↦ ?_
  rw [h] at helement
  contradiction

/-- The layout after one element has been replaced and the others have kept what they have. -/
theorem sites_of_set (other : Element) (helement : s.elements[index]? = some element)
    {f : Site σ → Site σ}
    (helements : t.elements = s.elements.set index other)
    (hown : t.siteOf other = f (s.siteOf element))
    (hothers : ∀ i found, i ≠ index → s.elements[i]? = some found →
      t.siteOf found = s.siteOf found) :
    t.layout.sites = s.layout.sites.modify index f := by
  have hlength : index < s.elements.length := (List.getElem?_eq_some_iff.1 helement).1
  apply List.ext_getElem?
  intro i
  rw [List.getElem?_modify, getElem?_sites, getElem?_sites, helements]
  by_cases hi : index = i
  · subst hi
    rw [List.getElem?_set_self hlength, helement]
    simp [hown]
  · rw [List.getElem?_set_ne hi]
    cases hfound : s.elements[i]? with
    | none => rfl
    | some found => simp [hi, hothers i found (Ne.symm hi) hfound]

theorem layout_append (h : Kept s) : s.append.layout = s.layout.change .append := by
  refine Layout.ext rfl rfl ?_
  have hsites : s.elements.map s.append.siteOf = s.elements.map s.siteOf := by
    apply List.map_congr_left
    intro element helement
    have hcell : s.append.cells[element.cell]? = s.cells[element.cell]? :=
      List.getElem?_append_left (h.tenancy.celled element helement)
    unfold siteOf
    rw [hcell]
    rfl
  have hblank : s.append.siteOf { cell := s.cells.length } = {} := by
    unfold siteOf
    simp [State.append, tasksOf]
  calc
    s.append.layout.sites = s.elements.map s.append.siteOf ++
        [s.append.siteOf { cell := s.cells.length }] := by
      simp only [layout, State.append, List.map_append, List.map_singleton]
    _ = s.elements.map s.siteOf ++ [{}] := by rw [hsites, hblank]

theorem layout_supersede (h : Kept s) (index : Nat) :
    (s.supersede index).layout = s.layout.change (.supersede index) := by
  cases helement : s.elements[index]? with
  | none =>
    have hsame : s.supersede index = s := by
      unfold State.supersede
      rw [helement]
    exact layout_of_none hsame helement
  | some element =>
    have hstep : s.supersede index = { s with
        cells := s.cells.modify element.cell (· + 1)
        elements := s.elements.set index { element with stage := .superseded } }.record
          (.superseded index) := by
      unfold State.supersede
      rw [helement]
    have hcell := h.tenancy.celled element (List.mem_of_getElem? helement)
    rw [hstep]
    refine Layout.ext rfl rfl ?_
    apply sites_of_set _ helement rfl
    · simp [siteOf, Site.supersede, record, tasksOf, hcell]
    · intro i found hi hfound
      have hne : element.cell ≠ found.cell :=
        fun heq ↦ hi (h.housed.apart index i element found helement hfound heq).symm
      simp [siteOf, record, tasksOf, hne]

/-- A schedule that is told to stop keeps its tasks. -/
theorem tasks_modify_cancel (schedules : List (Schedule σ)) (n m : Nat) :
    ((schedules.modify n Schedule.cancel)[m]?).map Schedule.tasks =
      (schedules[m]?).map Schedule.tasks := by
  rw [List.getElem?_modify]
  by_cases h : n = m <;> cases schedules[m]? <;> simp [h, Schedule.cancel]

theorem layout_vacate (index : Nat) :
    (s.vacate index).layout = s.layout.change (.vacate index) := by
  cases helement : s.elements[index]? with
  | none =>
    have hsame : s.vacate index = s := by
      unfold State.vacate
      rw [helement]
    exact layout_of_none hsame helement
  | some element =>
    by_cases hstage : element.stage = .superseded
    · rw [vacate_of_superseded helement hstage]
      refine Layout.ext rfl rfl ?_
      apply sites_of_set _ helement rfl
      · simp [siteOf, Site.vacate, hstage, tasksOf]
      · intro i found _ _
        refine Site.ext rfl rfl rfl ?_
        rw [values_siteOf, values_siteOf]
        cases found.schedule? with
        | none => rfl
        | some m =>
          cases element.schedule? with
          | none => rfl
          | some n =>
            simp only [Option.bind_some]
            rw [tasks_modify_cancel]
    · have hsame : s.vacate index = s := by
        unfold State.vacate
        rw [helement]
        simp only [hstage, if_false]
      refine layout_of_same hsame fun found hfound ↦ ?_
      obtain rfl := Option.some.inj (helement.symm.trans hfound)
      exact if_neg hstage

/-- Elements keep their tasks when a schedule is started. -/
theorem siteOf_placeSchedule (h : Kept s) {i cell : Nat} {found : Element}
    (hfound : s.elements[i]? = some found) (values : List (Value σ)) :
    (s.placeSchedule index cell raw values).siteOf found = s.siteOf found := by
  have htasks : (s.placeSchedule index cell raw values).tasksOf found = s.tasksOf found := by
    unfold tasksOf
    cases hn : found.schedule? with
    | none => rfl
    | some n =>
      obtain ⟨schedule, hschedule, -⟩ := h.housed.runs i found n hfound hn
      have hlength : n < s.schedules.length := (List.getElem?_eq_some_iff.1 hschedule).1
      simp only [placeSchedule, record, Option.bind_some]
      rw [List.getElem?_append_left hlength]
  unfold siteOf
  rw [htasks]
  rfl

theorem layout_place (h : Kept s) (index : Nat) (raw : String) :
    (s.place index raw).layout = s.layout.change (.place index raw) := by
  cases helement : s.elements[index]? with
  | none =>
    have hsame : s.place index raw = s := by
      unfold State.place
      rw [helement]
    exact layout_of_none hsame helement
  | some element =>
    by_cases hvacant : element.stage = .vacant
    · have hsite : (s.siteOf element).stage = .vacant := hvacant
      rw [place_of_vacant helement hvacant]
      split
      case isTrue hraw =>
        have hparse : Directive.parse raw = [] := by simpa using hraw
        refine Layout.ext rfl rfl ?_
        apply sites_of_set ⟨element.cell, raw, none, .settled⟩ helement rfl
        · rw [Site.place, if_pos hsite, hparse]
          rfl
        · exact fun i found _ _ ↦ rfl
      case isFalse hraw =>
        refine Layout.ext rfl rfl ?_
        apply sites_of_set ⟨element.cell, raw, some s.schedules.length, .settled⟩ helement rfl
        · rw [Site.place, if_pos hsite]
          refine Site.ext rfl rfl rfl ?_
          rw [values_siteOf]
          simp [placeSchedule, record, Function.comp_def, layout]
        · exact fun i found _ hfound ↦ siteOf_placeSchedule h hfound _
    · have hsame : s.place index raw = s := by
        unfold State.place
        rw [helement]
        simp only [hvacant, if_false]
      refine layout_of_same hsame fun found hfound ↦ ?_
      obtain rfl := Option.some.inj (helement.symm.trans hfound)
      exact if_neg hvacant

theorem layout_truncate (size : Nat) :
    (s.truncate size).layout = s.layout.change (.truncate size) := by
  have hall : (s.layout.sites.drop size).all (·.stage = .vacant) =
      (s.elements.drop size).all (·.stage = .vacant) := by
    rw [layout, ← List.map_drop, List.all_map]
    rfl
  simp only [truncate, Layout.change, hall]
  split
  · rw [foldl_tornDown]
    exact Layout.ext rfl rfl List.map_take
  · rfl

/-- A change of the list is a change of its layout. -/
theorem layout_change (h : Kept s) (change : Change σ) :
    (s.change change).layout = s.layout.change change := by
  cases change with
  | append => exact layout_append h
  | supersede index => exact layout_supersede h index
  | vacate index => exact layout_vacate index
  | place index raw => exact layout_place h index raw
  | truncate size => exact layout_truncate size
  | exchange registry => rfl

/-! ## Runs -/

theorem registry_beginTick (s : State σ) (id : TaskId) (mode : Mode) :
    (s.beginTick id mode).registry = s.registry := by
  unfold beginTick
  split
  · rfl
  · cases mode <;> rfl

theorem registry_deliver (s : State σ) (id : TaskId) (start : Nat) (fragment : String)
    (rendering : Rendering) : (s.deliver id start fragment rendering).registry = s.registry := by
  have hpublish : (s.publish id fragment).registry = s.registry := by
    simp only [publish]
    split <;> rfl
  unfold deliver
  split
  · split
    · cases rendering <;> exact hpublish
    · rfl
  · rfl

/-- Tasks and workers do not touch the registry. -/
theorem registry_step (s : State σ) (h : label.change? = none) :
    (s.step label).registry = s.registry := by
  cases label with
  | change change => contradiction
  | elapse nanoseconds => rfl
  | disturb change => rfl
  | poll task rendering =>
    simp only [step]
    rcases poll_cases s task rendering with hpoll | ⟨mode, hpoll⟩ | hpoll | ⟨start, fragment, hpoll⟩
    · rw [hpoll]
    · rw [hpoll, registry_beginTick]
    · rw [hpoll]
      rfl
    · rw [hpoll, registry_deliver]
  | finish task rendering =>
    simp only [step]
    rcases finish_cases s task rendering with hfinish | ⟨world, start, fragment, hfinish⟩
    · rw [hfinish]
    · rw [hfinish, registry_deliver]
      rfl
  | complete task =>
    simp only [step]
    rcases complete_cases s task with hcomplete | ⟨world, fragment, hcomplete⟩
    · rw [hcomplete]
    · rw [hcomplete]
      rfl

theorem siteOf_of_still (h : Still s t) (element : Element) : t.siteOf element = s.siteOf element := by
  have hvalues (n : Nat) : (t.schedules[n]?).map (fun schedule ↦ schedule.tasks.map Task.value) =
      (s.schedules[n]?).map fun schedule ↦ schedule.tasks.map Task.value := by
    have hplans := congrArg (fun plans : List (Schedule σ) ↦
      (plans[n]?).map fun schedule ↦ schedule.tasks.map Task.value) h.plans
    simpa [Schedule.plan, Function.comp_def] using hplans
  refine Site.ext rfl rfl (by simp only [siteOf, h.cells]) ?_
  rw [values_siteOf, values_siteOf]
  cases element.schedule? with
  | none => rfl
  | some n =>
    have hn := hvalues n
    simp only [Option.bind_some]
    cases hs : s.schedules[n]? <;> cases ht : t.schedules[n]? <;> simp_all

/-- What is not a change of the list leaves its layout alone. -/
theorem layout_step (s : State σ) (h : label.change? = none) :
    (s.step label).layout = s.layout := by
  have hstill (hs : Still s (s.step label)) : (s.step label).layout = s.layout := by
    refine Layout.ext (registry_step s h) hs.floor ?_
    simp only [layout, hs.elements]
    exact List.map_congr_left fun element _ ↦ siteOf_of_still hs element
  cases label with
  | change change => contradiction
  | poll task rendering => exact hstill (still_poll task rendering)
  | finish task rendering => exact hstill (still_finish task rendering)
  | complete task => exact hstill (still_complete task)
  | elapse nanoseconds => rfl
  | disturb change => rfl

/-- The layout after a run is that after its changes, whatever else has happened in between. -/
theorem layout_run (h : Kept s) (labels : List (Label σ)) :
    (s.run labels).layout = (changesOf labels).foldl Layout.change s.layout := by
  induction labels generalizing s with
  | nil => rfl
  | cons label labels ih =>
    rw [run_cons, ih (h.step label)]
    cases hlabel : label.change? with
    | none =>
      rw [changesOf, changesOf, List.filterMap_cons_none hlabel, layout_step s hlabel]
    | some change =>
      have hstep : (s.step label).layout = s.layout.change change := by
        cases label with
        | change found =>
          obtain rfl : found = change := Option.some.inj hlabel
          exact layout_change h found
        | _ => contradiction
      rw [changesOf, changesOf, List.filterMap_cons_some hlabel, List.foldl_cons, hstep]

end State

/-! ## Operations on layouts -/

namespace Layout

variable (layout : Layout σ)

theorem foldl_retirement (index : Nat) :
    (retirement index).foldl change layout =
      { layout with sites := layout.sites.modify index Site.retire } := by
  have hretire : (Site.vacate ∘ Site.supersede : Site σ → Site σ) = Site.retire := by
    funext site
    exact site.vacate_supersede
  simp only [retirement, List.foldl_cons, List.foldl_nil, change, List.modify_modify_eq, hretire]

theorem foldl_installation (index : Nat) (text : String) :
    (installation index text).foldl change layout =
      { layout with
        sites := layout.sites.modify index (Site.install layout.registry layout.floor text) } := by
  have hinstall : Site.place layout.registry layout.floor text ∘ Site.retire =
      Site.install layout.registry layout.floor text := by
    funext site
    exact site.place_retire layout.registry layout.floor text
  rw [installation, List.foldl_append, foldl_retirement]
  simp only [List.foldl_cons, List.foldl_nil, change, List.modify_modify_eq, hinstall]

theorem modify_append_cons {α : Type} (f : α → α) (done : List α) (a : α) (rest : List α) :
    (done ++ a :: rest).modify done.length f = done ++ f a :: rest := by
  induction done with
  | nil => rfl
  | cons first done ih => simp [ih]

/-- Texts are installed one after the other, each at the next position. -/
theorem foldl_installFrom (registry : Registry σ) (floor : Duration) {texts : List String}
    {sites : List (Site σ)} (h : texts.length = sites.length) (done : List (Site σ)) :
    ((texts.mapIdx fun i text ↦ installation (done.length + i) text).flatten).foldl change
        ⟨registry, floor, done ++ sites⟩ =
      ⟨registry, floor, done ++ List.zipWith (Site.install registry floor) texts sites⟩ := by
  induction texts generalizing sites done with
  | nil =>
    obtain rfl : sites = [] := List.length_eq_zero_iff.1 h.symm
    rfl
  | cons text texts ih =>
    cases sites with
    | nil => contradiction
    | cons site sites =>
      have hlength : texts.length = sites.length := Nat.succ.inj h
      have hnext := ih hlength (done ++ [site.install registry floor text])
      simp only [List.length_append, List.length_singleton, List.append_assoc,
        List.singleton_append, Nat.add_assoc, Nat.add_comm 1] at hnext
      rw [List.mapIdx_cons, List.flatten_cons, List.foldl_append, Nat.add_zero,
        foldl_installation, modify_append_cons, hnext, List.zipWith_cons_cons]

theorem foldl_installAll {texts : List String} (h : texts.length = layout.sites.length) :
    (installAll texts).foldl change layout =
      { layout with
        sites := List.zipWith (Site.install layout.registry layout.floor) texts
          layout.sites } := by
  simpa [installAll] using foldl_installFrom layout.registry layout.floor h []

/-- Where every text is installed again, every site has its own text anew. -/
theorem foldl_reinstall :
    (installAll (layout.sites.map Site.text)).foldl change layout =
      { layout with
        sites := layout.sites.map fun site ↦
          site.install layout.registry layout.floor site.text } := by
  rw [foldl_installAll layout (by simp), List.zipWith_map_left, List.zipWith_self]

theorem foldl_append (count : Nat) :
    (List.replicate count Change.append).foldl change layout =
      { layout with sites := layout.sites ++ List.replicate count {} } := by
  induction count generalizing layout with
  | zero => simp
  | succ count ih =>
    rw [List.replicate_succ, List.foldl_cons, ih]
    simp [change, List.replicate_succ]

/-- The texts at some positions are retired, one after the other. -/
def retireAll (sites : List (Site σ)) (indices : List Nat) : List (Site σ) :=
  indices.foldl (fun sites index ↦ sites.modify index Site.retire) sites

theorem foldl_retireAll (indices : List Nat) :
    (indices.flatMap retirement).foldl change layout =
      { layout with sites := retireAll layout.sites indices } := by
  induction indices generalizing layout with
  | nil => rfl
  | cons index indices ih =>
    rw [List.flatMap_cons, List.foldl_append, foldl_retirement, ih]
    rfl

theorem length_retireAll (sites : List (Site σ)) (indices : List Nat) :
    (retireAll sites indices).length = sites.length := by
  induction indices generalizing sites with
  | nil => rfl
  | cons index indices ih =>
    calc
      (retireAll sites (index :: indices)).length =
          (retireAll (sites.modify index Site.retire) indices).length := rfl
      _ = (sites.modify index Site.retire).length := ih _
      _ = sites.length := List.length_modify _ _ _

/-- Positions below those that are retired keep what they have. -/
theorem take_retireAll {keep : Nat} (sites : List (Site σ)) {indices : List Nat}
    (h : ∀ index ∈ indices, keep ≤ index) :
    (retireAll sites indices).take keep = sites.take keep := by
  induction indices generalizing sites with
  | nil => rfl
  | cons index indices ih =>
    have hkeep : keep ≤ index := h index List.mem_cons_self
    have hlength : (sites.take keep).length ≤ index :=
      Nat.le_trans (List.length_take_le keep sites) hkeep
    calc
      (retireAll sites (index :: indices)).take keep =
          (retireAll (sites.modify index Site.retire) indices).take keep := rfl
      _ = (sites.modify index Site.retire).take keep :=
        ih _ fun other hother ↦ h other (List.mem_cons_of_mem index hother)
      _ = sites.take keep := by rw [List.take_modify, List.modify_eq_self hlength]

/-- A position that has been retired is vacant, and stays so while others are retired. -/
theorem stage_retireAll {sites : List (Site σ)} {indices : List Nat} {index : Nat}
    (h : index ∈ indices ∨ ∀ site, sites[index]? = some site → site.stage = .vacant) :
    ∀ site, (retireAll sites indices)[index]? = some site → site.stage = .vacant := by
  induction indices generalizing sites with
  | nil =>
    rcases h with h | h
    · contradiction
    · exact h
  | cons first indices ih =>
    intro site hsite
    apply ih _ site hsite
    by_cases hfirst : first = index
    · right
      intro found hfound
      subst hfirst
      rw [List.getElem?_modify_eq, Option.map_eq_map, Option.map_eq_some_iff] at hfound
      obtain ⟨before, -, rfl⟩ := hfound
      rfl
    · rcases h with h | h
      · exact .inl ((List.mem_cons.1 h).resolve_left (Ne.symm hfirst))
      · right
        intro found hfound
        rw [List.getElem?_modify_ne _ _ hfirst] at hfound
        exact h found hfound

/-- When the texts from a position on are removed, those before it are left. -/
theorem foldl_removal (keep : Nat) :
    (removal layout.sites.length keep).foldl change layout =
      { layout with sites := layout.sites.take keep } := by
  let indices := (List.range layout.sites.length).drop keep
  have htake : (retireAll layout.sites indices).take keep = layout.sites.take keep :=
    take_retireAll layout.sites fun index hindex ↦ le_of_mem_drop_range hindex
  have hvacant : ((retireAll layout.sites indices).drop keep).all (·.stage = .vacant) = true := by
    rw [List.all_eq_true]
    intro site hsite
    obtain ⟨k, hk⟩ := List.mem_iff_getElem?.1 hsite
    rw [List.getElem?_drop] at hk
    have hlength : keep + k < layout.sites.length :=
      length_retireAll layout.sites indices ▸ (List.getElem?_eq_some_iff.1 hk).1
    have hmem : keep + k ∈ indices := by
      apply List.mem_of_getElem? (i := k)
      rw [List.getElem?_drop, List.getElem?_range hlength]
    exact decide_eq_true (stage_retireAll (.inl hmem) site hk)
  rw [removal, List.foldl_append, foldl_retireAll]
  simp only [List.foldl_cons, List.foldl_nil, change]
  rw [if_pos hvacant, htake]

def operate (layout : Layout σ) : Operation σ → Layout σ
  | .setTexts texts =>
    { layout with
      sites := List.zipWith (Site.install layout.registry layout.floor) texts
        (layout.sites.take texts.length ++
          List.replicate (texts.length - layout.sites.length) {}) }
  | .setText index text =>
    { layout with
      sites := layout.sites.modify index (Site.install layout.registry layout.floor text) }
  | .pushText text =>
    { layout with
      sites := layout.sites ++ [Site.install layout.registry layout.floor text {}] }
  | .refresh =>
    { layout with
      sites := layout.sites.map fun site ↦ site.install layout.registry layout.floor site.text }
  | .setRegistry registry =>
    { layout with
      registry := registry
      sites := layout.sites.map fun site ↦ site.install registry layout.floor site.text }
  | .clear => { layout with sites := [] }

end Layout

/-- The changes that make up an operation come to the operation on the layout. -/
theorem State.foldl_changes (s : State σ) (operation : Operation σ) :
    (operation.changes s).foldl Layout.change s.layout = s.layout.operate operation := by
  have hsize : s.size = s.layout.sites.length := (List.length_map _).symm
  have htexts : s.elements.map Element.raw = s.layout.sites.map Site.text := by
    simp only [layout, List.map_map]
    rfl
  cases operation with
  | setTexts texts =>
    rw [Operation.changes, hsize, List.foldl_append, List.foldl_append, Layout.foldl_removal,
      Layout.foldl_append, Layout.foldl_installAll]
    · rfl
    · simp only [List.length_append, List.length_take, List.length_replicate]
      omega
  | setText index text =>
    rw [Operation.changes]
    split
    case isTrue h => exact Layout.foldl_installation s.layout index text
    case isFalse h =>
      have hle : s.layout.sites.length ≤ index := by omega
      exact Layout.ext rfl rfl (List.modify_eq_self hle).symm
  | pushText text =>
    rw [Operation.changes, List.foldl_cons, Layout.foldl_installation, hsize]
    refine Layout.ext rfl rfl ?_
    exact Layout.modify_append_cons _ _ _ []
  | refresh =>
    rw [Operation.changes, htexts, Layout.foldl_reinstall]
    rfl
  | setRegistry registry =>
    rw [Operation.changes, htexts, List.foldl_cons]
    exact Layout.foldl_reinstall { s.layout with registry := registry }
  | clear =>
    rw [Operation.changes, hsize, Layout.foldl_removal]
    rfl

end LiveTemplate.Refresh

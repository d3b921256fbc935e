import LiveTemplate.Proofs.Refresh.Owner

/-!
# The ledger of the list

To its owner the list is a ledger: a text at every position, and how often a text has come there.
Operations that return refine operations on the ledger, in any order and with anything happening in
between. Whatever the operations were, the values at a position are those to which the directives of
its text come under the registry of the moment: no position is left with the values of an earlier
text, or of an earlier registry.
-/

namespace LiveTemplate.Refresh

open Command (Handler Registry)

variable {σ : Type}

/-! ## Ledgers -/

/-- The text at a position, and how often a text has come there. -/
@[ext]
structure Row where
  text : String
  generation : Nat
  deriving DecidableEq, Repr

def Row.next (text : String) : Option Row → Row
  | some row => ⟨text, row.generation + 1⟩
  | none => ⟨text, 1⟩

def Row.again (row : Row) : Row := ⟨row.text, row.generation + 1⟩

@[ext]
structure Ledger (σ : Type) where
  registry : Registry σ
  rows : List Row

def Ledger.operate (ledger : Ledger σ) : Operation σ → Ledger σ
  | .setTexts texts =>
    { ledger with rows := texts.mapIdx fun index text ↦ Row.next text ledger.rows[index]? }
  | .setText index text =>
    { ledger with rows := ledger.rows.modify index fun row ↦ Row.next text (some row) }
  | .pushText text => { ledger with rows := ledger.rows ++ [⟨text, 1⟩] }
  | .refresh => { ledger with rows := ledger.rows.map Row.again }
  | .setRegistry registry => ⟨registry, ledger.rows.map Row.again⟩
  | .clear => { ledger with rows := [] }

def Site.row (site : Site σ) : Row := ⟨site.text, site.generation⟩

theorem Site.row_install (registry : Registry σ) (floor : Duration) (text : String)
    (site : Site σ) : (site.install registry floor text).row = ⟨text, site.generation + 1⟩ := rfl

def Layout.ledger (layout : Layout σ) : Ledger σ := ⟨layout.registry, layout.sites.map Site.row⟩

namespace Layout

/-- A list that is cut or filled up to a length has what it had, and the filling beyond it. -/
theorem getElem?_take_append_replicate {α : Type} (l : List α) (a : α) {n i : Nat} (hi : i < n) :
    (l.take n ++ List.replicate (n - l.length) a)[i]? = some ((l[i]?).getD a) := by
  rcases Nat.lt_or_ge i l.length with hold | hnew
  · have htake : i < (l.take n).length := by
      rw [List.length_take]
      omega
    rw [List.getElem?_append_left htake, List.getElem?_take_of_lt hi, List.getElem?_eq_getElem hold]
    rfl
  · have hlength : (l.take n).length = l.length := by
      rw [List.length_take]
      omega
    rw [List.getElem?_append_right (hlength ▸ hnew), hlength, List.getElem?_replicate,
      if_pos (by omega), List.getElem?_eq_none hnew]
    rfl

/-- Texts that replace all others take over the generations of the positions that there were. -/
theorem rows_setTexts (layout : Layout σ) (texts : List String) :
    (layout.operate (.setTexts texts)).sites.map Site.row =
      texts.mapIdx fun index text ↦ Row.next text (layout.sites.map Site.row)[index]? := by
  apply List.ext_getElem?
  intro i
  simp only [operate, List.map_zipWith, List.getElem?_zipWith, List.getElem?_mapIdx,
    List.getElem?_map]
  cases htext : texts[i]? with
  | none => rfl
  | some text =>
    rw [getElem?_take_append_replicate _ _ (List.getElem?_eq_some_iff.1 htext).1]
    cases layout.sites[i]? <;> rfl

/-- An operation on a layout is the operation on its ledger. -/
theorem ledger_operate (layout : Layout σ) (operation : Operation σ) :
    (layout.operate operation).ledger = layout.ledger.operate operation := by
  have hagain (registry : Registry σ) :
      (layout.sites.map fun site ↦ site.install registry layout.floor site.text).map Site.row =
        (layout.sites.map Site.row).map Row.again := by
    rw [List.map_map, List.map_map]
    rfl
  cases operation with
  | setTexts texts => exact Ledger.ext rfl (rows_setTexts layout texts)
  | setText index text =>
    refine Ledger.ext rfl ?_
    apply List.ext_getElem?
    intro i
    simp only [operate, ledger, Ledger.operate, List.getElem?_map, List.getElem?_modify]
    cases layout.sites[i]? with
    | none => rfl
    | some site =>
      by_cases hi : index = i
      · simp only [hi, if_true, Option.map_eq_map, Option.map_some, Site.row_install]
        rfl
      · simp only [hi, if_false, Option.map_eq_map, Option.map_some]
  | pushText text =>
    refine Ledger.ext rfl ?_
    simp only [operate, ledger, Ledger.operate, List.map_append]
    rfl
  | refresh => exact Ledger.ext rfl (hagain layout.registry)
  | setRegistry registry => exact Ledger.ext rfl (hagain registry)
  | clear => rfl

theorem ledger_foldl_operate (layout : Layout σ) (operations : List (Operation σ)) :
    (operations.foldl operate layout).ledger = operations.foldl Ledger.operate layout.ledger := by
  induction operations generalizing layout with
  | nil => rfl
  | cons operation operations ih => rw [List.foldl_cons, List.foldl_cons, ih, ledger_operate]

/-! ## Values -/

/-- Every site has a text, and the values of its directives under the registry of the layout. -/
def Furnished (layout : Layout σ) : Prop :=
  ∀ site ∈ layout.sites, site.stage = .settled ∧
    site.values = (Directive.parse site.text).map (resolve layout.registry layout.floor)

theorem Furnished.operate {layout : Layout σ} (h : layout.Furnished) (operation : Operation σ) :
    (layout.operate operation).Furnished := by
  cases operation with
  | setTexts texts =>
    intro site hsite
    obtain ⟨i, hi⟩ := List.mem_iff_getElem?.1 hsite
    simp only [Layout.operate, List.getElem?_zipWith] at hi
    split at hi
    · obtain rfl := Option.some.inj hi
      exact ⟨rfl, rfl⟩
    · contradiction
  | setText index text =>
    intro site hsite
    obtain ⟨i, hi⟩ := List.mem_iff_getElem?.1 hsite
    simp only [Layout.operate, List.getElem?_modify] at hi
    obtain ⟨before, hbefore, rfl⟩ := Option.map_eq_some_iff.1 hi
    split
    · exact ⟨rfl, rfl⟩
    · exact h before (List.mem_of_getElem? hbefore)
  | pushText text =>
    intro site hsite
    rcases List.mem_append.1 hsite with hold | hnew
    · exact h site hold
    · obtain rfl := List.mem_singleton.1 hnew
      exact ⟨rfl, rfl⟩
  | refresh =>
    intro site hsite
    obtain ⟨before, -, rfl⟩ := List.mem_map.1 hsite
    exact ⟨rfl, rfl⟩
  | setRegistry registry =>
    intro site hsite
    obtain ⟨before, -, rfl⟩ := List.mem_map.1 hsite
    exact ⟨rfl, rfl⟩
  | clear => exact fun site hsite ↦ absurd hsite List.not_mem_nil

theorem Furnished.foldl_operate {layout : Layout σ} (h : layout.Furnished)
    (operations : List (Operation σ)) : (operations.foldl Layout.operate layout).Furnished := by
  induction operations generalizing layout with
  | nil => exact h
  | cons operation operations ih => exact ih (h.operate operation)

end Layout

/-! ## States -/

namespace State

variable {s : State σ} {index : Nat} {raw : String}

theorem text?_eq_row (s : State σ) (index : Nat) :
    s.text? index = (s.layout.ledger.rows[index]?).map Row.text := by
  simp only [Layout.ledger, text?, List.getElem?_map, getElem?_sites, Option.map_map]
  rfl

theorem generation?_eq_row (h : Kept s) (index : Nat) :
    s.generation? index = (s.layout.ledger.rows[index]?).map Row.generation := by
  simp only [Layout.ledger, generation?, List.getElem?_map, getElem?_sites, Option.map_map]
  cases helement : s.elements[index]? with
  | none => rfl
  | some element =>
    have hcell := h.tenancy.celled element (List.mem_of_getElem? helement)
    simp [Site.row, siteOf, List.getElem?_eq_getElem hcell]

def isScheduled (s : State σ) (index : Nat) : Bool :=
  (s.elements[index]?).any (·.schedule?.isSome)

end State

/-- What a directive comes to under a registry, aspect by aspect. -/
structure Resolution (registry : Registry σ) (floor : Duration) (d : Directive.Descriptor)
    (value : Value σ) : Prop where
  known : ∀ handler, registry.handlers.get? (Text.lowercase d.command) = some handler →
    value.command = .call handler d.param
  unknown : registry.handlers.get? (Text.lowercase d.command) = none →
    value.command = .invalid d.command
  interval : value.interval = resolveInterval d.interval floor
  explicitMode : ∀ isAsync, d.isAsync = some isAsync → value.mode = .ofAsync isAsync
  defaultMode : d.isAsync = none → value.mode = .ofAsync (registry.defaultAsync d.command)

theorem resolution_resolve (registry : Registry σ) (floor : Duration) (d : Directive.Descriptor) :
    Resolution registry floor d (resolve registry floor d) := by
  constructor
  case known =>
    intro handler hhandler
    simp only [resolve, Registry.bind, Registry.resolve, hhandler]
  case unknown =>
    intro hnone
    simp only [resolve, Registry.bind, Registry.resolve, hnone]
  case interval => rfl
  case explicitMode =>
    intro isAsync hexplicit
    simp only [resolve, hexplicit, Option.getD_some]
  case defaultMode =>
    intro hnone
    simp only [resolve, hnone, Option.getD_none]

namespace State

variable {s : State σ} {index : Nat} {raw : String}

/-- In a furnished state every text has its values, and a schedule if there are any. -/
theorem values_of_furnished (kept : Kept s) (h : s.layout.Furnished)
    (hraw : s.text? index = some raw) :
    ∃ tasks, s.tasks? index = some tasks ∧
      tasks.map Task.value = (Directive.parse raw).map (resolve s.registry s.floor) ∧
      (s.isScheduled index = true ↔ Directive.parse raw ≠ []) := by
  obtain ⟨element, helement, rfl⟩ := Option.map_eq_some_iff.1 hraw
  have hsite : s.siteOf element ∈ s.layout.sites :=
    List.mem_map_of_mem (List.mem_of_getElem? helement)
  obtain ⟨hsettled, hvalues⟩ := h _ hsite
  refine ⟨s.tasksOf element, by rw [tasks?, helement]; rfl, hvalues, ?_⟩
  rw [isScheduled, helement]
  exact kept.housed.settled element (List.mem_of_getElem? helement) hsettled

end State

namespace Performed

variable {s : State σ} {registry : Registry σ} {floor : Duration} {world : σ}
  {operations : List (Operation σ)}

/-- What is done between the operations, and between their changes, leaves the layout alone. -/
theorem layout_whole (h : Performed (.initial registry floor world) (operations.map Deed.whole) s) :
    s.layout = operations.foldl Layout.operate (State.initial registry floor world).layout := by
  have hreturns : ∀ deed ∈ operations.map Deed.whole, deed.returns = true := by
    intro deed hdeed
    obtain ⟨operation, -, rfl⟩ := List.mem_map.1 hdeed
    rfl
  have hoperations : (operations.map Deed.whole).map Deed.operation = operations := by
    simp [Function.comp_def, Deed.whole]
  rw [h.layout (.initial registry floor world) hreturns, hoperations]

theorem ledger (h : Performed (.initial registry floor world) (operations.map Deed.whole) s) :
    s.layout.ledger = operations.foldl Ledger.operate ⟨registry, []⟩ := by
  rw [h.layout_whole, Layout.ledger_foldl_operate]
  rfl

theorem furnished (h : Performed (.initial registry floor world) (operations.map Deed.whole) s) :
    s.layout.Furnished := by
  have hempty : (State.initial registry floor world).layout.Furnished :=
    fun site hsite ↦ absurd hsite List.not_mem_nil
  rw [h.layout_whole]
  exact hempty.foldl_operate operations

end Performed

/-- After operations that have returned, the list is as the ledger says, and the tasks at every
position are those of the directives of its text, in their order, under the registry of the moment.
-/
theorem performed_refines_ledger {registry : Registry σ} {floor : Duration} {world : σ}
    {operations : List (Operation σ)} {s : State σ}
    (h : Performed (.initial registry floor world) (operations.map Deed.whole) s) :
    let ledger := operations.foldl Ledger.operate ⟨registry, []⟩
    s.registry = ledger.registry ∧ s.floor = floor ∧ s.size = ledger.rows.length ∧
      (∀ index, s.text? index = (ledger.rows[index]?).map Row.text ∧
        s.generation? index = (ledger.rows[index]?).map Row.generation) ∧
      ∀ index raw, s.text? index = some raw →
        ∃ tasks : List (Task σ), s.tasks? index = some tasks ∧
          tasks.length = (Directive.parse raw).length ∧
          (∀ (k : Nat) (d : Directive.Descriptor), (Directive.parse raw)[k]? = some d →
            ∃ task : Task σ, tasks[k]? = some task ∧
              task.value = resolve s.registry s.floor d ∧
              Resolution s.registry floor d task.value) ∧
          (s.isScheduled index = true ↔ Directive.parse raw ≠ []) := by
  intro ledger
  have hinitial : Kept (State.initial registry floor world) := .initial registry floor world
  have hkept : Kept s := h.kept hinitial
  have hledger : s.layout.ledger = ledger := h.ledger
  have hfloor : s.floor = floor := by
    obtain ⟨labels, rfl⟩ := h.exists_run
    exact State.floor_run _ labels
  refine ⟨congrArg Ledger.registry hledger, hfloor, ?_, fun index ↦ ⟨?_, ?_⟩, ?_⟩
  · rw [← hledger]
    simp [Layout.ledger, State.layout, State.size]
  · rw [← hledger]
    exact s.text?_eq_row index
  · rw [← hledger]
    exact State.generation?_eq_row hkept index
  · intro index raw hraw
    obtain ⟨tasks, htasks, hvalues, hscheduled⟩ :=
      State.values_of_furnished hkept h.furnished hraw
    refine ⟨tasks, htasks, by simpa using congrArg List.length hvalues, ?_, hscheduled⟩
    intro k d hd
    have hvalue : (tasks.map Task.value)[k]? = some (resolve s.registry s.floor d) := by
      rw [hvalues, List.getElem?_map, hd]
      rfl
    rw [List.getElem?_map] at hvalue
    obtain ⟨task, htask, hvalue⟩ := Option.map_eq_some_iff.1 hvalue
    refine ⟨task, htask, hvalue, ?_⟩
    rw [hvalue, hfloor]
    exact resolution_resolve s.registry floor d

/-- A command that runs on a worker and answers with its parameter. -/
def echo : Handler Unit where
  name := "Echo"
  defaultAsync := true
  run := fun param world ↦ (.text param, world)

/-- A text that is installed before its command is known, then again, and then replaced. -/
def learning : List (Operation Unit) :=
  [.pushText "{echo(a), async:true}", .setRegistry (Registry.empty.register echo),
    .setTexts ["{echo(b)}", "plain"]]

/-- The operations, with a call of the first text begun before the second one. -/
def learned : State Unit :=
  let pushed := (State.initial .empty ⟨0⟩ ()).operate (.pushText "{echo(a), async:true}")
  ((pushed.poll ⟨0, 0⟩ .returns).operate (.setRegistry (Registry.empty.register echo))).operate
    (.setTexts ["{echo(b)}", "plain"])

/-- The ledger has counted three installations at the first position and one at the second; the
directive calls the command, although a call for the first text is still on a worker. -/
theorem learned_refines_ledger :
    Performed (.initial .empty ⟨0⟩ ()) (learning.map Deed.whole) learned ∧
      learned.workers = [⟨0, 0⟩] ∧ learned.size = 2 ∧ learned.text? 0 = some "{echo(b)}" ∧
      learned.generation? 0 = some 3 ∧ learned.generation? 1 = some 1 ∧
      ∃ (tasks : List (Task Unit)) (task : Task Unit), learned.tasks? 0 = some tasks ∧
        tasks.length = 1 ∧ tasks[0]? = some task ∧ task.value.command = .call echo "b" ∧
        task.value.mode = .onWorker := by
  have hperformed : Performed (.initial .empty ⟨0⟩ ()) (learning.map Deed.whole) learned := by
    have hpushed := (@Performed.nothing _ (.initial .empty ⟨0⟩ ())).operate
      (.pushText "{echo(a), async:true}")
    have hbegun : Performed _ _ (State.step _ (.poll ⟨0, 0⟩ .returns)) := hpushed.meanwhile rfl
    exact (hbegun.operate (.setRegistry (Registry.empty.register echo))).operate
      (.setTexts ["{echo(b)}", "plain"])
  obtain ⟨hregistry, -, hsize, hrows, hvalues⟩ := performed_refines_ledger hperformed
  have htext : learned.text? 0 = some "{echo(b)}" := (hrows 0).1
  have hparse : Directive.parse "{echo(b)}" = [⟨0, 0, 9, "echo", "b", none, none⟩] := by
    decide +kernel
  obtain ⟨tasks, htasks, hlength, htask, -⟩ := hvalues 0 _ htext
  rw [hparse] at hlength htask
  obtain ⟨task, htask, -, hresolution⟩ := htask 0 _ rfl
  rw [hregistry] at hresolution
  refine ⟨hperformed, by decide +kernel, hsize, htext, (hrows 0).2, (hrows 1).2, tasks, task, htasks,
    hlength, htask, hresolution.known echo rfl, ?_⟩
  exact hresolution.defaultMode rfl

end LiveTemplate.Refresh

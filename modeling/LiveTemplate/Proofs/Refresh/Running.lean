import Mathlib.Logic.ExistsUnique
import LiveTemplate.Proofs.Refresh.Owner

/-!
# Which tasks run

A task runs until it is told to stop. While the owner performs no operation, the tasks that have
not been told to stop are those of the texts that are installed, one for each directive: no task of
an earlier text has been forgotten, and none of an installed text is missing. It does not matter
which operations there have been and what the tasks have done, nor that some of the operations have
not returned: one that is cut short leaves behind it elements with their old texts, with their new
ones, or without any.
-/

namespace LiveTemplate.Refresh

open Command (Registry)

variable {σ : Type} {s : State σ}

/-! ## Operations as replacements -/

/-- The changes with which an operation begins, before it replaces any text. -/
def Operation.groundwork (s : State σ) : Operation σ → List (Change σ)
  | .setTexts texts =>
    removal s.size texts.length ++ List.replicate (texts.length - s.size) .append
  | .pushText _ => [.append]
  | .setRegistry registry => [.exchange registry]
  | .clear => removal s.size 0
  | .setText _ _ | .refresh => []

def Operation.replacements (s : State σ) : Operation σ → List (Nat × String)
  | .setTexts texts => texts.mapIdx Prod.mk
  | .setText index text => if index < s.size then [(index, text)] else []
  | .pushText text => [(s.size, text)]
  | .refresh | .setRegistry _ => (s.elements.map Element.raw).mapIdx Prod.mk
  | .clear => []

def replacing (replacements : List (Nat × String)) : List (Change σ) :=
  replacements.flatMap fun replacement ↦ installation replacement.1 replacement.2

theorem replacing_mapIdx (texts : List String) :
    (replacing (texts.mapIdx Prod.mk) : List (Change σ)) = installAll texts := by
  have hmap : (texts.mapIdx Prod.mk).map (fun r : Nat × String ↦ installation r.1 r.2) =
      (texts.mapIdx installation : List (List (Change σ))) := by
    apply List.ext_getElem?
    intro i
    simp only [List.getElem?_map, List.getElem?_mapIdx, Option.map_map]
    rfl
  rw [replacing, List.flatMap_def, hmap, installAll]

theorem Operation.changes_eq (s : State σ) (operation : Operation σ) :
    operation.changes s = operation.groundwork s ++ replacing (operation.replacements s) := by
  cases operation with
  | setTexts texts => rw [changes, groundwork, replacements, replacing_mapIdx]
  | setText index text =>
    rw [changes, groundwork, replacements]
    split
    · exact (List.append_nil _).symm
    · rfl
  | pushText text => exact (List.append_nil _).symm
  | refresh => rw [changes, groundwork, replacements, replacing_mapIdx, List.nil_append]
  | setRegistry registry => rw [changes, groundwork, replacements, replacing_mapIdx]; rfl
  | clear => exact (List.append_nil _).symm

/-! ## Operations that are cut short -/

def Change.isPlace : Change σ → Bool
  | .place _ _ => true
  | _ => false

/-- The first changes of a replacement, if they end with a text that is installed or there are none,
are the whole replacement or nothing. -/
theorem eq_nil_or_eq_installation {made : List (Change σ)} {index : Nat} {text : String}
    (h : made <+: installation index text) (hlast : made.getLast?.all Change.isPlace = true) :
    made = [] ∨ made = installation index text := by
  have hprefix : made <+: [.supersede index, .vacate index, .place index text] := h
  simp only [List.prefix_cons_iff, List.prefix_nil] at hprefix
  rcases hprefix with rfl | ⟨_, rfl, rfl | ⟨_, rfl, rfl | ⟨_, rfl, rfl⟩⟩⟩
  · exact .inl rfl
  · contradiction
  · contradiction
  · exact .inr rfl

theorem last_of_append {made others : List (Change σ)}
    (h : (made ++ others).getLast?.all Change.isPlace = true) :
    others.getLast?.all Change.isPlace = true := by
  rw [List.getLast?_append] at h
  cases hlast : others.getLast? with
  | none => rfl
  | some change => simpa [hlast] using h

/-- The first changes of a sequence of replacements, if they end with a text that is installed or
there are none, are the first replacements. -/
theorem exists_replacing {made : List (Change σ)} {replacements : List (Nat × String)}
    (h : made <+: replacing replacements) (hlast : made.getLast?.all Change.isPlace = true) :
    ∃ done, made = replacing done := by
  induction replacements generalizing made with
  | nil => exact ⟨[], List.prefix_nil.1 h⟩
  | cons replacement rest ih =>
    obtain ⟨later, hlater⟩ := h
    rcases List.append_eq_append_iff.1 hlater with ⟨more, hmore, -⟩ | ⟨others, rfl, hothers⟩
    · rcases eq_nil_or_eq_installation ⟨more, hmore.symm⟩ hlast with rfl | rfl
      · exact ⟨[], rfl⟩
      · exact ⟨[replacement], (List.append_nil _).symm⟩
    · obtain ⟨done, rfl⟩ := ih ⟨later, hothers.symm⟩ (last_of_append hlast)
      exact ⟨replacement :: done, rfl⟩

/-- No text is installed before an operation has done its groundwork. -/
theorem Operation.isPlace_groundwork (s : State σ) (operation : Operation σ) :
    ∀ change ∈ operation.groundwork s, change.isPlace = false := by
  have hremoval (size keep : Nat) : ∀ change ∈ (removal size keep : List (Change σ)),
      change.isPlace = false := by
    intro change hchange
    simp only [removal, retirement, List.mem_append, List.mem_flatMap, List.mem_cons,
      List.not_mem_nil, or_false] at hchange
    rcases hchange with ⟨index, -, rfl | rfl⟩ | rfl <;> rfl
  intro change hchange
  cases operation with
  | setTexts texts =>
    rcases List.mem_append.1 hchange with h | h
    · exact hremoval _ _ change h
    · obtain rfl := List.eq_of_mem_replicate h
      rfl
  | setText index text => contradiction
  | pushText text =>
    obtain rfl := List.mem_singleton.1 hchange
    rfl
  | refresh => contradiction
  | setRegistry registry =>
    obtain rfl := List.mem_singleton.1 hchange
    rfl
  | clear => exact hremoval _ _ change hchange

/-- Whether or not it returns, an operation does its groundwork and replaces some texts. -/
theorem Deed.Makes.exists_replacing {deed : Deed σ} {made : List (Change σ)}
    (h : deed.Makes s made) : ∃ done, made = deed.operation.groundwork s ++ replacing done := by
  unfold Makes at h
  split at h
  case isTrue => exact ⟨_, h.trans (deed.operation.changes_eq s)⟩
  case isFalse =>
    obtain ⟨⟨later, hlater⟩, earlier, index, raw, hmade, -⟩ := h
    have hlast : made.getLast? = some (.place index raw) := by simp [hmade]
    rw [deed.operation.changes_eq s] at hlater
    rcases List.append_eq_append_iff.1 hlater with ⟨more, hground, -⟩ | ⟨others, rfl, hothers⟩
    · have hmem : .place index raw ∈ deed.operation.groundwork s := by
        rw [hground, hmade]
        simp
      have hplace := deed.operation.isPlace_groundwork s _ hmem
      contradiction
    · have hall : (deed.operation.groundwork s ++ others).getLast?.all Change.isPlace = true := by
        rw [hlast]
        rfl
      obtain ⟨done, rfl⟩ := Refresh.exists_replacing ⟨later, hothers.symm⟩ (last_of_append hall)
      exact ⟨done, rfl⟩

/-! ## Rest -/

/-- Whether a site is between two operations: it has a text, or has never had one. -/
def Site.IsAtRest (site : Site σ) : Prop :=
  site.stage = .settled ∨ site.stage = .vacant ∧ site.text = ""

namespace Layout

/-- No site is in the middle of a replacement. -/
def AtRest (layout : Layout σ) : Prop := ∀ site ∈ layout.sites, site.IsAtRest

variable {layout : Layout σ}

theorem AtRest.foldl_replacing (h : layout.AtRest) (replacements : List (Nat × String)) :
    ((replacing replacements).foldl change layout).AtRest := by
  induction replacements generalizing layout with
  | nil => exact h
  | cons replacement rest ih =>
    have hinstalled : ((installation replacement.1 replacement.2).foldl change layout).AtRest := by
      intro site hsite
      rw [foldl_installation] at hsite
      obtain ⟨i, hi⟩ := List.mem_iff_getElem?.1 hsite
      rw [List.getElem?_modify] at hi
      obtain ⟨before, hbefore, rfl⟩ := Option.map_eq_some_iff.1 hi
      split
      · exact .inl rfl
      · exact h before (List.mem_of_getElem? hbefore)
    have hnext := ih hinstalled
    rwa [← List.foldl_append] at hnext

theorem AtRest.append (h : layout.AtRest) (count : Nat) :
    ((List.replicate count Change.append).foldl change layout).AtRest := by
  intro site hsite
  rw [foldl_append] at hsite
  rcases List.mem_append.1 hsite with hold | hnew
  · exact h site hold
  · obtain rfl := List.eq_of_mem_replicate hnew
    exact .inr ⟨rfl, rfl⟩

theorem AtRest.removal (h : layout.AtRest) (keep : Nat) :
    ((Refresh.removal layout.sites.length keep).foldl change layout).AtRest := by
  intro site hsite
  rw [foldl_removal] at hsite
  exact h site (List.mem_of_mem_take hsite)

end Layout

theorem State.atRest_groundwork (h : s.layout.AtRest) (operation : Operation σ) :
    ((operation.groundwork s).foldl Layout.change s.layout).AtRest := by
  have hsize : s.size = s.layout.sites.length := (List.length_map _).symm
  cases operation with
  | setTexts texts =>
    rw [Operation.groundwork, hsize, List.foldl_append]
    exact (h.removal texts.length).append _
  | setText index text => exact h
  | pushText text => exact h.append 1
  | refresh => exact h
  | setRegistry registry => exact h
  | clear =>
    rw [Operation.groundwork, hsize]
    exact h.removal 0

/-- Between two operations no site is in the middle of a replacement. -/
theorem Performed.atRest {start : State σ} {deeds : List (Deed σ)} (hstart : Kept start)
    (hrest : start.layout.AtRest) (h : Performed start deeds s) : s.layout.AtRest := by
  induction h with
  | nothing => exact hrest
  | meanwhile before other ih => rw [State.layout_step _ other]; exact ih
  | @deed deeds s deed labels before makes ih =>
    obtain ⟨done, hmade⟩ := makes.exists_replacing
    rw [State.layout_run (before.kept hstart), hmade, List.foldl_append]
    exact (State.atRest_groundwork ih deed.operation).foldl_replacing done

/-! ## Running schedules -/

/-- The empty text has no directives. -/
theorem parse_empty : Directive.parse "" = [] := by
  decide +kernel

namespace State

variable {n index k : Nat} {schedule : Schedule σ} {raw : String} {id : TaskId}

/-- The position of the text and the number of the directive for which there is a task. -/
def home? (s : State σ) (id : TaskId) : Option (Nat × Nat) :=
  (s.schedules[id.schedule]?).map fun schedule ↦ (schedule.index, id.directive)

/-- A schedule that has not been told to stop is the installed one. -/
theorem isInstalled_of_running (kept : Kept s) (rest : s.layout.AtRest)
    (hschedule : s.schedules[n]? = some schedule) (hrunning : schedule.cancelled = false) :
    s.isInstalled schedule = true := by
  obtain ⟨element, helement, hn⟩ := kept.housed.housed n schedule hschedule hrunning
  obtain ⟨found, hfound, hruns⟩ := kept.housed.runs _ element n helement hn
  obtain rfl : schedule = found := Option.some.inj (hschedule.symm.trans hfound)
  have hmem : element ∈ s.elements := List.mem_of_getElem? helement
  rcases rest _ (List.mem_map_of_mem hmem) with hsettled | ⟨hvacant, -⟩
  · exact hruns.installed hsettled
  · have hnone := kept.housed.vacant element hmem hvacant
    rw [hn] at hnone
    contradiction

/-- Every text with directives has a schedule that has not been told to stop. -/
theorem exists_running (kept : Kept s) (rest : s.layout.AtRest) (hraw : s.text? index = some raw)
    (hdirectives : Directive.parse raw ≠ []) :
    ∃ (n : Nat) (schedule : Schedule σ), s.schedules[n]? = some schedule ∧
      schedule.index = index ∧ schedule.raw = raw ∧ schedule.cancelled = false := by
  obtain ⟨element, helement, rfl⟩ := Option.map_eq_some_iff.1 hraw
  have hmem : element ∈ s.elements := List.mem_of_getElem? helement
  have hsettled : element.stage = .settled := by
    rcases rest _ (List.mem_map_of_mem hmem) with hsettled | ⟨-, hblank⟩
    · exact hsettled
    · have hempty : element.raw = "" := hblank
      rw [hempty] at hdirectives
      exact absurd parse_empty hdirectives
  obtain ⟨n, hn⟩ := Option.isSome_iff_exists.1 ((kept.housed.settled element hmem hsettled).2
    hdirectives)
  obtain ⟨schedule, hschedule, hruns⟩ := kept.housed.runs index element n helement hn
  exact ⟨n, schedule, hschedule, hruns.index, hruns.raw, hruns.running⟩

/-- Two schedules of one position have not both been left running. -/
theorem eq_of_running (kept : Kept s) {m : Nat} {other : Schedule σ}
    (hschedule : s.schedules[n]? = some schedule) (hrunning : schedule.cancelled = false)
    (hother : s.schedules[m]? = some other) (hother' : other.cancelled = false)
    (hindex : other.index = schedule.index) : m = n := by
  obtain ⟨element, helement, hn⟩ := kept.housed.housed n schedule hschedule hrunning
  obtain ⟨found, hfound, hm⟩ := kept.housed.housed m other hother hother'
  rw [hindex, helement] at hfound
  obtain rfl := Option.some.inj hfound
  exact Option.some.inj (hm.symm.trans hn)

/-- Every directive of a text has exactly one task that has not been told to stop. -/
theorem existsUnique_running (kept : Kept s) (rest : s.layout.AtRest)
    (hraw : s.text? index = some raw) (hk : k < (Directive.parse raw).length) :
    ∃! id, (s.task? id).isSome = true ∧ s.isCancelled id = false ∧
      s.home? id = some (index, k) := by
  obtain ⟨n, schedule, hschedule, rfl, rfl, hrunning⟩ :=
    exists_running kept rest hraw (List.ne_nil_of_length_pos (Nat.zero_lt_of_lt hk))
  refine ⟨⟨n, k⟩, ⟨?_, ?_, ?_⟩, ?_⟩
  · have hlength := (kept.tenancy.tenants n schedule hschedule).length_tasks
    simp [task?, hschedule, hlength, hk]
  · rw [isCancelled_of_schedule hschedule]
    exact hrunning
  · rw [home?, hschedule]
    rfl
  · rintro ⟨m, j⟩ ⟨hsome, hother, hhome⟩
    obtain ⟨other, hfound, -⟩ := exists_schedule kept hsome
    rw [isCancelled_of_schedule hfound] at hother
    simp only [home?, hfound, Option.map_some, Option.some.injEq, Prod.mk.injEq] at hhome
    obtain ⟨hindex, rfl⟩ := hhome
    obtain rfl := eq_of_running kept hschedule hrunning hfound hother hindex
    rfl

/-- A task that has not been told to stop belongs to the text that is installed at its position. -/
theorem installed_of_running (kept : Kept s) (rest : s.layout.AtRest)
    (hsome : (s.task? id).isSome = true) (hrunning : s.isCancelled id = false) :
    ∃ index raw, s.home? id = some (index, id.directive) ∧ s.text? index = some raw ∧
      id.directive < (Directive.parse raw).length ∧
      standing? index s.history = some (.installed index raw (some id.schedule)) := by
  obtain ⟨schedule, hschedule, hdirective⟩ := exists_schedule kept hsome
  rw [isCancelled_of_schedule hschedule] at hrunning
  have hinstalled := isInstalled_of_running kept rest hschedule hrunning
  obtain ⟨helement, hstanding⟩ := (kept.tenancy.tenants _ schedule hschedule).lodged hinstalled
  refine ⟨schedule.index, schedule.raw, ?_, ?_, hdirective, hstanding⟩
  · rw [home?, hschedule]
    rfl
  · rw [text?, helement]
    rfl

/-- A task may publish just as long as it has not been told to stop. -/
theorem isCurrent_iff_running (kept : Kept s) (rest : s.layout.AtRest)
    (hsome : (s.task? id).isSome = true) : s.isCurrent id = true ↔ s.isCancelled id = false := by
  obtain ⟨schedule, hschedule, -⟩ := exists_schedule kept hsome
  rw [isCurrent_of_schedule hschedule, isCancelled_of_schedule hschedule]
  exact ⟨running_of_isInstalled kept hschedule, isInstalled_of_running kept rest hschedule⟩

end State

/-- Whatever operations the owner has performed, and however far those have come that have not
returned: every directive of every text has exactly one task that has not been told to stop, every
such task belongs to the text that is installed at its position, and no other task has been left
running. -/
theorem running_tasks_of_performed {registry : Registry σ} {floor : Duration} {world : σ}
    {deeds : List (Deed σ)} (h : Performed (.initial registry floor world) deeds s) :
    (∀ index raw k, s.text? index = some raw → k < (Directive.parse raw).length →
      ∃! id, (s.task? id).isSome = true ∧ s.isCancelled id = false ∧
        s.home? id = some (index, k)) ∧
    (∀ id, (s.task? id).isSome = true → s.isCancelled id = false →
      ∃ index raw, s.home? id = some (index, id.directive) ∧ s.text? index = some raw ∧
        id.directive < (Directive.parse raw).length ∧
        standing? index s.history = some (.installed index raw (some id.schedule))) ∧
    ∀ id, (s.task? id).isSome = true → (s.isCurrent id = true ↔ s.isCancelled id = false) := by
  have hinitial : Kept (State.initial registry floor world) := .initial registry floor world
  have hkept : Kept s := h.kept hinitial
  have hrest : s.layout.AtRest :=
    h.atRest hinitial fun site hsite ↦ absurd hsite List.not_mem_nil
  exact ⟨fun index raw k hraw hk ↦ State.existsUnique_running hkept hrest hraw hk,
    fun id hsome hrunning ↦ State.installed_of_running hkept hrest hsome hrunning,
    fun id hsome ↦ State.isCurrent_iff_running hkept hrest hsome⟩

/-- Two texts are installed, and replaced until the renderer panics on the second new one. -/
def interrupted : List (Deed Unit) :=
  [.whole (.setTexts ["{a()}", "{b()}"]), ⟨.setTexts ["{c()}", "plain", "{d()}"], false⟩]

/-- The changes of the second operation up to the text on which the renderer panics. -/
def begun : List (Change Unit) :=
  removal 2 3 ++ [.append] ++ installation 0 "{c()}" ++ installation 1 "plain"

def halted : State Unit :=
  ((State.initial .empty ⟨0⟩ ()).operate (.setTexts ["{a()}", "{b()}"])).run (begun.map .change)

/-- The tasks of the two old texts have been told to stop, those of the first new one run, and the
third one has not been installed. -/
theorem halted_running_tasks :
    Performed (.initial .empty ⟨0⟩ ()) interrupted halted ∧
      halted.schedules.map Schedule.cancelled = [true, true, false] ∧
      halted.text? 0 = some "{c()}" ∧ halted.text? 1 = some "plain" ∧ halted.text? 2 = some "" ∧
      (∃! id, (halted.task? id).isSome = true ∧ halted.isCancelled id = false ∧
        halted.home? id = some (0, 0)) ∧
      standing? 0 halted.history = some (.installed 0 "{c()}" (some 2)) ∧
      halted.isCurrent ⟨1, 0⟩ = false := by
  let shown := (State.initial .empty ⟨0⟩ () : State Unit).operate (.setTexts ["{a()}", "{b()}"])
  have hperformed : Performed (.initial .empty ⟨0⟩ ()) interrupted halted := by
    have hshown := (@Performed.nothing _ (.initial .empty ⟨0⟩ ())).operate
      (.setTexts ["{a()}", "{b()}"])
    have hsize : shown.size = 2 := by decide +kernel
    have hmakes : Deed.Makes shown ⟨.setTexts ["{c()}", "plain", "{d()}"], false⟩
        (changesOf (begun.map Label.change)) := by
      refine ⟨?_, removal 2 3 ++ [.append] ++ installation 0 "{c()}" ++ retirement 1, 1, "plain",
        rfl, by decide +kernel⟩
      rw [Operation.changes, hsize]
      exact ⟨installation 2 "{d()}", rfl⟩
    exact hshown.deed hmakes
  obtain ⟨hserved, hrunning, hcurrent⟩ := running_tasks_of_performed hperformed
  have htext : halted.text? 0 = some "{c()}" := by decide +kernel
  have hold : (halted.task? ⟨1, 0⟩).isSome = true := by decide +kernel
  have hnew : (halted.task? ⟨2, 0⟩).isSome = true := by decide +kernel
  have hcancelled : halted.isCancelled ⟨1, 0⟩ = true := by decide +kernel
  refine ⟨hperformed, by decide +kernel, htext, by decide +kernel, by decide +kernel,
    hserved 0 _ 0 htext (by decide +kernel), ?_, ?_⟩
  · obtain ⟨index, raw, hhome, htext', -, hstanding⟩ := hrunning ⟨2, 0⟩ hnew (by decide +kernel)
    have hindex : halted.home? ⟨2, 0⟩ = some (0, 0) := by decide +kernel
    rw [hindex] at hhome
    obtain rfl : 0 = index := congrArg Prod.fst (Option.some.inj hhome)
    obtain rfl : "{c()}" = raw := Option.some.inj (htext.symm.trans htext')
    exact hstanding
  · have hiff := hcurrent ⟨1, 0⟩ hold
    rw [hcancelled] at hiff
    simpa using hiff

end LiveTemplate.Refresh

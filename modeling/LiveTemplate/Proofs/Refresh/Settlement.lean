import Mathlib.Data.List.Nodup
import LiveTemplate.Proofs.Refresh.Running
import LiveTemplate.Proofs.Refresh.Turn

/-!
# Settlement

What a settled element shows is owed to one installation, the latest decision about its position. A
position is installed as often as a change of the list installs it, at most. A text without
directives is shown once, by its installation, and no task ever shows it again.
-/

namespace LiveTemplate.Refresh

open Command (Registry)

variable {σ : Type} {s t : State σ} {id : TaskId} {index : Nat}

/-! ## Settled elements -/

/-- The installation that stands at the position of a settled element is that of its text. -/
def Settled (s : State σ) : Prop :=
  ∀ index element, s.elements[index]? = some element → element.stage = .settled →
    standing? index s.history = some (.installed index element.raw element.schedule?)

theorem Still.settled (h : Still s t) (settled : Settled s) : Settled t := by
  intro i element helement hstage
  rw [h.elements] at helement
  rw [h.standing?]
  exact settled i element helement hstage

namespace Settled

theorem append (h : Settled s) : Settled s.append := by
  intro i element helement hstage
  rcases Nat.lt_or_ge i s.elements.length with hold | hnew
  · exact h i element ((List.getElem?_append_left hold).symm.trans helement) hstage
  · have hadded : element ∈ [({ cell := s.cells.length } : Element)] :=
      List.mem_of_getElem? ((List.getElem?_append_right hnew).symm.trans helement)
    obtain rfl := List.mem_singleton.1 hadded
    contradiction

theorem supersede (h : Settled s) (index : Nat) : Settled (s.supersede index) := by
  rcases State.supersede_cases s index with hstep | ⟨element, helement, hstep⟩
  · rw [hstep]
    exact h
  rw [hstep]
  intro i found hfound hstage
  rcases getElem?_set_cases helement hfound with ⟨-, rfl⟩ | ⟨hne, hfound⟩
  · contradiction
  · refine (standing?_cons_of_not ?_ _).trans (h i found hfound hstage)
    simpa [Event.decides] using Ne.symm hne

theorem vacate (h : Settled s) (index : Nat) : Settled (s.vacate index) := by
  rcases State.vacate_cases s index with hstep | ⟨element, schedules, helement, -, -, hstep⟩
  · rw [hstep]
    exact h
  rw [hstep]
  intro i found hfound hstage
  rcases getElem?_set_cases helement hfound with ⟨-, rfl⟩ | ⟨-, hfound⟩
  · contradiction
  · exact h i found hfound hstage

theorem place (h : Settled s) (index : Nat) (raw : String) : Settled (s.place index raw) := by
  have hinstalled (schedule? : Option Nat) :
      standing? index (⟨s.now, .installed index raw schedule?⟩ :: s.history) =
        some (.installed index raw schedule?) := standing?_cons_self (by simp [Event.decides]) _
  have hother {i : Nat} (hne : i ≠ index) (schedule? : Option Nat) :
      standing? i (⟨s.now, .installed index raw schedule?⟩ :: s.history) =
        standing? i s.history :=
    standing?_cons_of_not (by simpa [Event.decides] using Ne.symm hne) _
  rcases State.place_cases s index raw with hstep | ⟨element, helement, -, ⟨-, hstep⟩ | hstep⟩
  · rw [hstep]
    exact h
  · rw [hstep]
    intro i found hfound hstage
    refine (standing?_cons_of_not rfl _).trans ?_
    rcases getElem?_set_cases helement hfound with ⟨rfl, rfl⟩ | ⟨hne, hfound⟩
    · exact hinstalled none
    · exact (hother hne none).trans (h i found hfound hstage)
  · rw [hstep]
    intro i found hfound hstage
    rcases getElem?_set_cases helement hfound with ⟨rfl, rfl⟩ | ⟨hne, hfound⟩
    · exact hinstalled _
    · exact (hother hne _).trans (h i found hfound hstage)

theorem truncate (h : Settled s) (size : Nat) : Settled (s.truncate size) := by
  rcases State.truncate_cases s size with hstep | ⟨-, hstep⟩
  · rw [hstep]
    exact h
  rw [hstep]
  intro i element helement hstage
  rw [List.getElem?_take] at helement
  split at helement
  case isFalse => contradiction
  case isTrue hi =>
    refine (standing?_removals (fun hmem ↦ ?_) _ _).trans (h i element helement hstage)
    exact absurd (le_of_mem_drop_range hmem) (Nat.not_le_of_lt hi)

theorem step (h : Settled s) (label : Label σ) : Settled (s.step label) := by
  cases label with
  | change change =>
    cases change with
    | append => exact h.append
    | supersede index => exact h.supersede index
    | vacate index => exact h.vacate index
    | place index raw => exact h.place index raw
    | truncate size => exact h.truncate size
    | exchange registry => exact h
  | poll task rendering => exact (State.still_poll task rendering).settled h
  | finish task rendering => exact (State.still_finish task rendering).settled h
  | complete task => exact (State.still_complete task).settled h
  | elapse nanoseconds => exact h
  | disturb change => exact h

theorem run (registry : Registry σ) (floor : Duration) (world : σ) (labels : List (Label σ)) :
    Settled ((State.initial registry floor world).run labels) := by
  have hstep (s : State σ) (label : Label σ) (_ : True) (h : Settled s) : Settled (s.step label) :=
    h.step label
  have hstart : Settled (State.initial registry floor world) :=
    fun _ _ helement ↦ by simp [State.initial] at helement
  exact State.run_preserves hstep hstart fun _ _ ↦ trivial

end Settled

/-! ## Proclamations -/

/-- Whether an event installs a text or shows one on behalf of its installation. -/
def Event.isProclamation : Event → Bool
  | .installed _ _ _ | .rendered _ _ none => true
  | _ => false

/-- What a step proclaims: nothing, or that a text has been installed. A text without directives is
shown at once. -/
inductive Proclaims (s : State σ) (label : Label σ) : Prop
  | nothing (entries : List Entry) (history : (s.step label).history = entries ++ s.history)
      (quiet : ∀ entry ∈ entries, entry.event.isProclamation = false)
  | literal (index : Nat) (raw : String) (change : label.change? = some (.place index raw))
      (plain : Directive.parse raw = [])
      (history : (s.step label).history = ⟨s.now, .rendered index raw none⟩ ::
        ⟨s.now, .installed index raw none⟩ :: s.history)
  | scheduled (index : Nat) (raw : String) (n : Nat)
      (change : label.change? = some (.place index raw))
      (history : (s.step label).history = ⟨s.now, .installed index raw (some n)⟩ :: s.history)

namespace State

/-- What a task or its worker does in a step is no proclamation. -/
theorem proclaims_of_task {label : Label σ} (hlabel : label.task? = some id) :
    Proclaims s label := by
  obtain ⟨turn, hconcerns, -, hturn⟩ := isTurn_step hlabel s
  have hhistory : (s.step label).history = turn.entries ++ s.history :=
    congrArg State.history (hturn s (.refl id s) fun _ _ ↦ rfl)
  refine .nothing turn.entries hhistory ?_
  rintro ⟨time, event⟩ hentry
  have htask : event.task? = some id := (hconcerns _ hentry).1
  cases event with
  | rendered index text source? =>
    obtain rfl : source? = some id := htask
    rfl
  | installed index raw schedule? => contradiction
  | _ => rfl

theorem step_proclaims (s : State σ) (label : Label σ) : Proclaims s label := by
  have hsame (h : (s.step label).history = s.history) : Proclaims s label :=
    .nothing [] h fun entry hentry ↦ absurd hentry List.not_mem_nil
  cases label with
  | change change =>
    cases change with
    | append => exact hsame rfl
    | exchange registry => exact hsame rfl
    | supersede index =>
      rcases supersede_cases s index with hstep | ⟨element, -, hstep⟩
      · exact hsame (congrArg State.history hstep)
      · refine .nothing [⟨s.now, .superseded index⟩] (congrArg State.history hstep) ?_
        intro entry hentry
        obtain rfl := List.mem_singleton.1 hentry
        rfl
    | vacate index =>
      have hhistory : (s.vacate index).history = s.history := by
        rcases vacate_cases s index with hstep | ⟨element, schedules, -, -, -, hstep⟩ <;> rw [hstep]
      exact hsame hhistory
    | place index raw =>
      rcases place_cases s index raw with hstep | ⟨element, -, -, ⟨hplain, hstep⟩ | hstep⟩
      · exact hsame (congrArg State.history hstep)
      · exact .literal index raw rfl hplain (congrArg State.history hstep)
      · exact .scheduled index raw _ rfl (congrArg State.history hstep)
    | truncate size =>
      rcases truncate_cases s size with hstep | ⟨-, hstep⟩
      · exact hsame (congrArg State.history hstep)
      · refine .nothing _ (congrArg State.history hstep) ?_
        intro entry hentry
        obtain ⟨index, -, rfl⟩ := List.mem_map.1 (List.mem_reverse.1 hentry)
        rfl
  | poll task rendering => exact proclaims_of_task rfl
  | finish task rendering => exact proclaims_of_task rfl
  | complete task => exact proclaims_of_task rfl
  | elapse nanoseconds => exact hsame rfl
  | disturb change => exact hsame rfl

end State

/-! ## Installations -/

/-- The text and the schedule of an installation at a position. -/
def Entry.installation? (index : Nat) : Entry → Option (String × Option Nat)
  | ⟨_, .installed i raw schedule?⟩ => if i = index then some (raw, schedule?) else none
  | _ => none

def Entry.literal? (index : Nat) : Entry → Option String
  | ⟨_, .rendered i text none⟩ => if i = index then some text else none
  | _ => none

/-- What has been installed at a position. -/
def installationsAt (index : Nat) (history : List Entry) : List (String × Option Nat) :=
  collect (Entry.installation? index) history

def literalsAt (index : Nat) (history : List Entry) : List String :=
  collect (Entry.literal? index) history

/-- Nothing is installed or shown by an installation unless it is proclaimed. -/
theorem unread_of_quiet {entry : Entry} (h : entry.event.isProclamation = false) :
    entry.installation? index = none ∧ entry.literal? index = none := by
  obtain ⟨time, event⟩ := entry
  cases event with
  | rendered i text source? =>
    cases source? with
    | none => contradiction
    | some task => exact ⟨rfl, rfl⟩
  | installed i raw schedule? => contradiction
  | _ => exact ⟨rfl, rfl⟩

/-- Whether a change of the list installs a text at a position. -/
def Change.installs (index : Nat) : Change σ → Bool
  | .place i _ => i = index
  | _ => false

/-- A text is installed at a position only by a change of the list that does so. -/
theorem length_installationsAt_step (index : Nat) (s : State σ) (label : Label σ) :
    (installationsAt index (s.step label).history).length ≤
      (installationsAt index s.history).length + (changesOf [label]).countP (·.installs index) := by
  have hplaced {i : Nat} {raw : String} (hchange : label.change? = some (.place i raw))
      (schedule? : Option Nat) :
      (Entry.installation? index ⟨s.now, .installed i raw schedule?⟩).toList.length ≤
        (changesOf [label]).countP (·.installs index) := by
    rw [changesOf, List.filterMap_cons_some hchange]
    by_cases hi : i = index <;> simp [Entry.installation?, Change.installs, hi]
  cases s.step_proclaims label with
  | nothing entries history quiet =>
    have hnone : collect (Entry.installation? index) entries = [] :=
      collect_eq_nil fun entry hentry ↦ (unread_of_quiet (quiet entry hentry)).1
    rw [history, installationsAt, collect_append, hnone, List.append_nil]
    exact Nat.le_add_right _ _
  | literal i raw change plain history =>
    have hrest := hplaced change none
    rw [history, installationsAt, collect_cons, collect_cons, List.length_append,
      List.length_append]
    exact Nat.add_le_add_left hrest _
  | scheduled i raw n change history =>
    have hrest := hplaced change (some n)
    rw [history, installationsAt, collect_cons, List.length_append]
    exact Nat.add_le_add_left hrest _

theorem length_installationsAt_run (index : Nat) (s : State σ) (labels : List (Label σ)) :
    (installationsAt index (s.run labels).history).length ≤
      (installationsAt index s.history).length + (changesOf labels).countP (·.installs index) := by
  induction labels generalizing s with
  | nil => exact Nat.le_refl _
  | cons label labels ih =>
    have hchanges : changesOf (label :: labels) = changesOf [label] ++ changesOf labels := by
      rw [changesOf, changesOf, changesOf, ← List.filterMap_append, List.singleton_append]
    have hfirst := length_installationsAt_step index s label
    have hrest := ih (s.step label)
    rw [State.run_cons, hchanges, List.countP_append]
    omega

theorem mem_installationsAt {history : List Entry} {raw : String} {schedule? : Option Nat}
    (h : Event.installed index raw schedule? ∈ decisions history) :
    (raw, schedule?) ∈ installationsAt index history := by
  obtain ⟨⟨time, event⟩, hentry, rfl⟩ := List.mem_map.1 (List.mem_filter.1 h).1
  rw [installationsAt, collect, List.mem_reverse, List.mem_filterMap]
  exact ⟨_, hentry, if_pos rfl⟩

/-- Where a text has been installed once, there is no other installation. -/
theorem installationsAt_eq_singleton {history : List Entry} {raw : String} {schedule? : Option Nat}
    (hone : (installationsAt index history).length ≤ 1)
    (h : Event.installed index raw schedule? ∈ decisions history) :
    installationsAt index history = [(raw, schedule?)] := by
  have hmem := mem_installationsAt h
  obtain ⟨installation, hsingle⟩ :=
    List.length_eq_one_iff.1 (Nat.le_antisymm hone (List.length_pos_of_mem hmem))
  rw [hsingle, List.mem_singleton] at hmem
  rw [hsingle, hmem]

theorem eq_of_installed {history : List Entry} {raw other : String} {schedule? other? : Option Nat}
    (hone : (installationsAt index history).length ≤ 1)
    (h : Event.installed index raw schedule? ∈ decisions history)
    (hother : Event.installed index other other? ∈ decisions history) :
    other = raw ∧ other? = schedule? := by
  have hmem := mem_installationsAt hother
  rw [installationsAt_eq_singleton hone h, List.mem_singleton] at hmem
  exact Prod.mk.inj hmem

/-- Texts that replace all others are installed once each. -/
theorem countP_installs_setTexts (s : State σ) (texts : List String) (index : Nat) :
    ((Operation.setTexts texts).changes s).countP (·.installs index) ≤ 1 := by
  have hground : ((Operation.setTexts texts).groundwork s).countP (·.installs index) = 0 := by
    rw [List.countP_eq_zero]
    intro change hchange
    have hplace := (Operation.setTexts texts).isPlace_groundwork s change hchange
    cases change <;> simp_all [Change.isPlace, Change.installs]
  have hreplacing (replacements : List (Nat × String)) :
      (replacing replacements : List (Change σ)).countP (·.installs index) =
        (replacements.map Prod.fst).count index := by
    induction replacements with
    | nil => rfl
    | cons replacement rest ih =>
      have hone : (installation replacement.1 replacement.2 : List (Change σ)).countP
          (·.installs index) = if replacement.1 = index then 1 else 0 := by
        by_cases h : replacement.1 = index <;>
          simp [installation, retirement, Change.installs, h]
      rw [replacing, List.flatMap_cons, List.countP_append, hone, List.map_cons, List.count_cons]
      rw [replacing] at ih
      rw [ih, Nat.add_comm]
      simp
  have hpositions : (texts.mapIdx Prod.mk).map Prod.fst = List.range texts.length := by
    apply List.ext_getElem
    · simp
    · simp
  rw [Operation.changes_eq, List.countP_append, hground, Nat.zero_add, hreplacing,
    Operation.replacements, hpositions]
  exact List.nodup_iff_count_le_one.1 List.nodup_range index

/-! ## Texts without directives -/

/-- The text of an installation that starts no schedule. -/
def literalOf? : String × Option Nat → Option String
  | (raw, none) => some raw
  | (_, some _) => none

/-- What the installations at a position have shown are the texts that have been installed there
without a schedule. -/
def Proclaimed (index : Nat) (history : List Entry) : Prop :=
  literalsAt index history = (installationsAt index history).filterMap literalOf?

theorem proclaimed_step (h : Proclaimed index s.history) (label : Label σ) :
    Proclaimed index (s.step label).history := by
  unfold Proclaimed literalsAt installationsAt at h ⊢
  cases s.step_proclaims label with
  | nothing entries history quiet =>
    have hinstalled : collect (Entry.installation? index) entries = [] :=
      collect_eq_nil fun entry hentry ↦ (unread_of_quiet (quiet entry hentry)).1
    have hshown : collect (Entry.literal? index) entries = [] :=
      collect_eq_nil fun entry hentry ↦ (unread_of_quiet (quiet entry hentry)).2
    rw [history, collect_append, collect_append, hinstalled, hshown, List.append_nil,
      List.append_nil, h]
  | literal i raw change plain history =>
    rw [history]
    by_cases hi : i = index <;> simp [Entry.literal?, Entry.installation?, hi, h, literalOf?]
  | scheduled i raw n change history =>
    rw [history]
    by_cases hi : i = index <;> simp [Entry.literal?, Entry.installation?, hi, h, literalOf?]

theorem proclaimed_run (registry : Registry σ) (floor : Duration) (world : σ)
    (labels : List (Label σ)) :
    Proclaimed index ((State.initial registry floor world).run labels).history := by
  have hstep (s : State σ) (label : Label σ) (_ : True) (h : Proclaimed index s.history) :
      Proclaimed index (s.step label).history := proclaimed_step h label
  have hstart : Proclaimed index (State.initial registry floor world).history := rfl
  exact State.run_preserves (P := fun s ↦ Proclaimed index s.history) hstep hstart
    fun _ _ ↦ trivial

/-- A text without directives that has been installed once has been shown once by that. -/
theorem literalsAt_eq_singleton {history : List Entry} {raw : String}
    (hproclaimed : Proclaimed index history) (hone : (installationsAt index history).length ≤ 1)
    (h : Event.installed index raw none ∈ decisions history) :
    literalsAt index history = [raw] := by
  rw [hproclaimed, installationsAt_eq_singleton hone h]
  rfl

end LiveTemplate.Refresh

import LiveTemplate.Proofs.Directive.Splicing
import LiveTemplate.Proofs.Refresh.Ledger
import LiveTemplate.Proofs.Refresh.Settlement
import LiveTemplate.Proofs.Refresh.Shown
import LiveTemplate.Proofs.Refresh.Shutdown
import LiveTemplate.Refresh.Clockwork

/-!
# Allotment

A list that gets its texts once has them at their own positions, and shows nothing else there than
these texts with fragments in place of their directives. This holds of every run in which the owner
does nothing but set the texts and shut down at some time, the run that the deterministic schedule
takes among them.
-/

namespace LiveTemplate.Refresh

open Command (Registry)

variable {σ : Type} {s : State σ} {texts : List String} {deeds : List (Deed σ)}

/-! ## The deterministic schedule -/

namespace Clockwork

variable {P : State σ → Prop} {c d : Clockwork σ} {id : TaskId}

theorem state_place (c : Clockwork σ) (id : TaskId) : (c.place id).state = c.state := by
  unfold place
  split <;> rfl

section Preserved

variable (preserved : ∀ s label, label.change? = none → P s → P (s.step label))
include preserved

theorem preserved_turn (h : P c.state) (id : TaskId) : P (c.turn id).state := by
  have hpolled : P (c.state.poll id .returns) := preserved _ (.poll id .returns) rfl h
  rw [turn, state_place]
  exact preserved _ (.finish id .returns) rfl hpolled

theorem preserved_next? (h : P c.state) (hnext : c.next? = some d) : P d.state := by
  unfold next? at hnext
  split at hnext
  case h_1 id rest _ =>
    have hrest : P ({ c with ready := rest } : Clockwork σ).state := h
    obtain rfl := Option.some.inj hnext
    exact preserved_turn preserved hrest id
  case h_2 =>
    obtain ⟨id, -, rfl⟩ := Option.map_eq_some_iff.1 hnext
    exact preserved _ (.complete id) rfl h

theorem preserved_settleWithin (h : P c.state) (fuel : Nat) : P (c.settleWithin fuel).state := by
  induction fuel generalizing c with
  | zero => exact h
  | succ fuel ih =>
    rw [settleWithin]
    cases hnext : c.next? with
    | none => exact h
    | some next => exact ih (preserved_next? preserved h hnext)

theorem preserved_settle (h : P c.state) : P c.settle.state := preserved_settleWithin preserved h _

/-- What tasks, workers and the clock preserve holds after every time. -/
theorem preserved_advance (h : P c.state) (milliseconds : Nat) :
    P (c.advance milliseconds).state := by
  induction milliseconds generalizing c with
  | zero => exact preserved_settle preserved h
  | succ milliseconds ih =>
    let nanoseconds := 1 * Duration.perMillisecond
    have helapsed := preserved _ (.elapse nanoseconds) rfl (preserved_settle preserved h)
    exact ih (preserved _ (.disturb (c.settle.drift nanoseconds)) rfl helapsed)

end Preserved

/-- A schedule does nothing on behalf of the owner. -/
theorem performed_advance {start : State σ} (h : Performed start deeds c.state)
    (milliseconds : Nat) : Performed start deeds (c.advance milliseconds).state :=
  preserved_advance (P := Performed start deeds) (fun _ _ other before ↦ before.meanwhile other) h
    milliseconds

/-- While the deterministic schedule shuts down, it takes steps of the shutdown and, where there are
none, turns. -/
theorem leads_of_shutdownWithin {s : State σ} {wording : TaskId → String}
    {first point : Shutdown σ} {result : Except Error Unit} {fuel : Nat}
    (h : ∃ during, Shutdown.Leads wording s first during c.state point)
    (hreturns : c.shutdownWithin wording fuel point = (d, some result)) :
    ∃ during, Shutdown.Leads wording s first during d.state (.returned result) := by
  fun_induction shutdownWithin wording fuel c point with
  | case1 fuel c found =>
    obtain ⟨rfl, hfound⟩ := Prod.mk.inj hreturns
    exact Option.some.inj hfound ▸ h
  | case2 c point =>
    obtain ⟨-, hnone⟩ := Prod.mk.inj hreturns
    contradiction
  | case3 fuel c point _ next later hshut ih =>
    obtain ⟨⟨state, later⟩, htaken, hnext⟩ := Option.map_eq_some_iff.1 hshut
    obtain ⟨rfl, rfl⟩ := Prod.mk.inj hnext
    obtain ⟨during, hleads⟩ := h
    exact ih ⟨during, hleads.step htaken⟩ hreturns
  | case4 fuel c point _ next hnext _ ih =>
    refine ih ?_ hreturns
    exact preserved_next? (P := fun t ↦ ∃ during, Shutdown.Leads wording s first during t point)
      (fun _ _ other ⟨_, hleads⟩ ↦ ⟨_, hleads.meanwhile other⟩) h hnext
  | case5 fuel c point =>
    obtain ⟨-, hnone⟩ := Prod.mk.inj hreturns
    contradiction

/-- When the deterministic schedule has shut down, the shutdown has come to its end. -/
theorem exists_leads_of_shutdown {wording : TaskId → String} {result : Except Error Unit}
    (h : c.shutdown wording = (d, some result)) :
    ∃ during, Shutdown.Leads wording c.state c.state.shutdown during d.state (.returned result) :=
  leads_of_shutdownWithin ⟨[], .start⟩ h

end Clockwork

/-! ## Histories grow -/

theorem history_suffix_step (s : State σ) (label : Label σ) :
    s.history <:+ (s.step label).history := by
  cases s.step_proclaims label with
  | nothing entries history quiet => exact ⟨entries, history.symm⟩
  | literal index raw change plain history => exact ⟨[_, _], history.symm⟩
  | scheduled index raw n change history => exact ⟨[_], history.symm⟩

theorem history_suffix_run (s : State σ) (labels : List (Label σ)) :
    s.history <:+ (s.run labels).history := by
  induction labels generalizing s with
  | nil => exact List.suffix_refl _
  | cons label labels ih => exact (history_suffix_step s label).trans (ih (s.step label))

/-! ## Positions -/

/-- Every text that has been installed is the one of its position. -/
def Allotted (texts : List String) (history : List Entry) : Prop :=
  ∀ entry ∈ history, ∀ index raw schedule?, entry.event = .installed index raw schedule? →
    texts[index]? = some raw ∧ (schedule? = none → Directive.parse raw = [])

theorem Allotted.append_of_quiet {history entries : List Entry} (h : Allotted texts history)
    (quiet : ∀ entry ∈ entries, entry.event.isProclamation = false) :
    Allotted texts (entries ++ history) := by
  intro entry hentry index raw schedule? hinstalled
  rcases List.mem_append.1 hentry with hnew | hold
  · have hquiet := quiet entry hnew
    rw [hinstalled] at hquiet
    contradiction
  · exact h entry hold index raw schedule? hinstalled

/-- Whether a label places no text at a position other than its own. -/
def Label.Allots (texts : List String) (label : Label σ) : Prop :=
  ∀ index raw, label.change? = some (.place index raw) → texts[index]? = some raw

/-- Whatever places no other texts keeps the texts at their positions. -/
theorem allotted_step (h : Allotted texts s.history) {label : Label σ}
    (hallots : label.Allots texts) : Allotted texts (s.step label).history := by
  cases s.step_proclaims label with
  | nothing entries history quiet =>
    rw [history]
    exact h.append_of_quiet quiet
  | literal index raw change plain history =>
    rw [history]
    intro entry hentry i text schedule? hinstalled
    rcases List.mem_cons.1 hentry with rfl | hentry
    · contradiction
    rcases List.mem_cons.1 hentry with rfl | hold
    · obtain ⟨rfl, rfl, rfl⟩ := Event.installed.inj hinstalled
      exact ⟨hallots _ _ change, fun _ ↦ plain⟩
    · exact h entry hold i text schedule? hinstalled
  | scheduled index raw n change history =>
    rw [history]
    intro entry hentry i text schedule? hinstalled
    rcases List.mem_cons.1 hentry with rfl | hold
    · obtain ⟨rfl, rfl, rfl⟩ := Event.installed.inj hinstalled
      exact ⟨hallots _ _ change, fun hnone ↦ nomatch hnone⟩
    · exact h entry hold i text schedule? hinstalled

/-- An operation places no other texts than those that it installs. -/
theorem mem_replacements_of_place {operation : Operation σ} {index : Nat} {raw : String}
    (h : .place index raw ∈ operation.changes s) : (index, raw) ∈ operation.replacements s := by
  rw [Operation.changes_eq, List.mem_append] at h
  rcases h with hground | hreplacing
  · exact absurd (operation.isPlace_groundwork s _ hground) (by simp [Change.isPlace])
  · obtain ⟨replacement, hmem, hplace⟩ := List.mem_flatMap.1 hreplacing
    simp only [installation, retirement, List.mem_append, List.mem_cons, reduceCtorEq,
      List.not_mem_nil, or_self, or_false, false_or, Change.place.injEq] at hplace
    obtain ⟨rfl, rfl⟩ := hplace
    exact hmem

/-- Setting the texts places each of them at its own position. -/
theorem getElem?_of_place_mem {index : Nat} {raw : String}
    (h : .place index raw ∈ (Operation.setTexts texts).changes s) : texts[index]? = some raw := by
  have hmem : (index, raw) ∈ texts.mapIdx Prod.mk := mem_replacements_of_place h
  obtain ⟨i, hi, hpair⟩ := List.mem_mapIdx.1 hmem
  obtain ⟨rfl, rfl⟩ := Prod.mk.inj hpair
  exact List.getElem?_eq_getElem hi

/-- An operation makes no other changes than its own, whether it returns or not. -/
theorem Deed.Makes.subset {deed : Deed σ} {made : List (Change σ)} (h : deed.Makes s made) :
    made ⊆ deed.operation.changes s := by
  unfold Deed.Makes at h
  split at h
  case isTrue => exact fun change hchange ↦ h ▸ hchange
  case isFalse => exact h.1.subset

namespace Performed

variable {start : State σ}

theorem allotted (h : Performed start deeds s) (hstart : Allotted texts start.history)
    (hdeeds : ∀ deed ∈ deeds, deed.operation = .setTexts texts) : Allotted texts s.history := by
  induction h with
  | nothing => exact hstart
  | @meanwhile deeds s label before other ih =>
    refine allotted_step (ih hdeeds) fun index raw hplace ↦ ?_
    rw [other] at hplace
    contradiction
  | @deed deeds s deed during before makes ih =>
    have hoperation : deed.operation = .setTexts texts := hdeeds deed (by simp)
    have hmade : changesOf during ⊆ (Operation.setTexts texts).changes s :=
      hoperation ▸ makes.subset
    have hbefore := ih fun earlier hearlier ↦ hdeeds earlier (by simp [hearlier])
    have hallowed : ∀ label ∈ during, label.Allots texts := by
      intro label hlabel index raw hplace
      exact getElem?_of_place_mem (hmade (List.mem_filterMap.2 ⟨label, hlabel, hplace⟩))
    exact State.run_preserves (P := fun s ↦ Allotted texts s.history)
      (fun s label hlabel h ↦ allotted_step h hlabel) hbefore hallowed

end Performed

/-! ## What is shown -/

/-- A text with something in place of each of its directives. -/
def IsFilled (raw text : String) : Prop :=
  ∃ fragments : List String, fragments.length = (Directive.parse raw).length ∧
    text = Directive.merge raw fragments

/-- Whatever is shown at a position is the text of the position with its directives filled in. -/
theorem isFilled_of_rendered (sound : Sound s) (h : Allotted texts s.history) {time index : Nat}
    {text : String} {source? : Option TaskId}
    (hrendered : ⟨time, .rendered index text source?⟩ ∈ s.history) :
    ∃ raw, texts[index]? = some raw ∧ IsFilled raw text := by
  obtain ⟨later, earlier, hsplit⟩ := List.append_of_mem hrendered
  have hsuffix : ⟨time, .rendered index text source?⟩ :: earlier <:+ s.history :=
    ⟨later, hsplit.symm⟩
  obtain ⟨raw, hstanding, htext, -⟩ := sound.faithful _ earlier hsuffix index text source? rfl
  obtain ⟨entry, hentry, hinstalled⟩ :=
    List.mem_map.1 (List.mem_filter.1 (mem_decisions_of_standing? hstanding)).1
  have hmem : entry ∈ s.history := hsuffix.subset (List.mem_cons_of_mem _ hentry)
  obtain ⟨hraw, hplain⟩ := h entry hmem index raw _ hinstalled
  refine ⟨raw, hraw, ?_⟩
  cases source? with
  | none =>
    have hnone : Directive.parse raw = [] := hplain rfl
    exact ⟨[], by rw [hnone]; rfl, htext.trans (Directive.merge_eq_self hnone []).symm⟩
  | some task => exact ⟨_, by simp, htext⟩

/-- What a history installs and shows at a position belongs to the text of the position. -/
structure Attributes (texts : List String) (history : List Entry) : Prop where
  installed : ∀ index raw, (∃ schedule?, .installed index raw schedule? ∈ decisions history) ↔
    texts[index]? = some raw
  rendered : ∀ time index text source?, ⟨time, .rendered index text source?⟩ ∈ history →
    ∃ raw, texts[index]? = some raw ∧ IsFilled raw text

/-- The positions of a list belong to texts, in order. -/
structure Serves (texts : List String) (s : State σ) : Prop
    extends Attributes texts s.history where
  size : s.size = texts.length
  text? : ∀ index, s.text? index = texts[index]?

theorem attributes_of_allotted (sound : Sound s) (allotted : Allotted texts s.history)
    (all : ∀ index raw, texts[index]? = some raw →
      ∃ schedule?, .installed index raw schedule? ∈ decisions s.history) :
    Attributes texts s.history where
  installed index raw := by
    refine ⟨?_, all index raw⟩
    rintro ⟨schedule?, hmem⟩
    obtain ⟨entry, hentry, hinstalled⟩ := List.mem_map.1 (List.mem_filter.1 hmem).1
    exact (allotted entry hentry index raw schedule? hinstalled).1
  rendered _ _ _ _ hrendered := isFilled_of_rendered sound allotted hrendered

section

variable {registry : Registry σ} {floor : Duration} {world : σ}
  (h : Performed (.initial registry floor world) ([.setTexts texts].map .whole) s)
include h

theorem allotted_of_performed : Allotted texts s.history := by
  refine h.allotted (fun entry hentry ↦ absurd hentry List.not_mem_nil) fun deed hdeed ↦ ?_
  obtain ⟨operation, hoperation, rfl⟩ := List.mem_map.1 hdeed
  exact List.mem_singleton.1 hoperation

/-- A list whose owner has set its texts, and has done nothing else, serves these texts. -/
theorem serves_of_performed : Serves texts s := by
  have hledger : s.layout.ledger = ⟨registry, texts.mapIdx fun _ text ↦ Row.next text none⟩ :=
    h.ledger
  have htext (index : Nat) : s.text? index = texts[index]? := by
    rw [State.text?_eq_row, hledger]
    simp only [List.getElem?_mapIdx, Option.map_map]
    exact Option.map_id'
  obtain ⟨labels, hrun⟩ := h.exists_run
  have hsound : Sound s := hrun ▸ .run registry floor world labels
  have hsettled : Settled s := hrun ▸ .run registry floor world labels
  have hattributes : Attributes texts s.history := by
    refine attributes_of_allotted hsound (allotted_of_performed h) fun index raw hraw ↦ ?_
    obtain ⟨element, helement, rfl⟩ := Option.map_eq_some_iff.1 ((htext index).trans hraw)
    have hstage : element.stage = .settled :=
      (h.furnished _ (List.mem_map_of_mem (List.mem_of_getElem? helement))).1
    exact ⟨_, mem_decisions_of_standing? (hsettled index element helement hstage)⟩
  have hrows : s.layout.ledger.rows.length = texts.length := by rw [hledger, List.length_mapIdx]
  exact { hattributes with
    size := by simpa [Layout.ledger, State.layout, State.size] using hrows
    text? := htext }

/-- Until it has been shut down, the list installs and shows nothing but its texts. -/
theorem attributes_of_leads {wording : TaskId → String} {during : List (Label σ)} {t : State σ}
    {point : Shutdown σ} (hleads : Shutdown.Leads wording s s.shutdown during t point) :
    Attributes texts t.history := by
  obtain ⟨labels, hrun⟩ := h.exists_run
  obtain ⟨made, rfl, -, hchanges⟩ := hleads.exists_run
  have hsound : Sound (s.run made) := by
    rw [hrun, ← State.run_append]
    exact .run registry floor world _
  have hallowed : ∀ label ∈ made, label.Allots texts := by
    intro label hlabel index raw hplace
    have hmem : .place index raw ∈ Operation.clear.changes s := by
      rw [← hchanges]
      exact List.mem_append_left _ (List.mem_filterMap.2 ⟨label, hlabel, hplace⟩)
    exact absurd (mem_replacements_of_place hmem) List.not_mem_nil
  have hallotted : Allotted texts (s.run made).history :=
    State.run_preserves (P := fun s ↦ Allotted texts s.history)
      (fun s label hlabel h ↦ allotted_step h hlabel) (allotted_of_performed h) hallowed
  refine attributes_of_allotted hsound hallotted fun index raw hraw ↦ ?_
  obtain ⟨schedule?, hmem⟩ := ((serves_of_performed h).installed index raw).2 hraw
  exact ⟨schedule?, (List.Sublist.filter _ ((history_suffix_run s made).sublist.map _)).subset hmem⟩

end

end LiveTemplate.Refresh

import LiveTemplate.Program.Settings
import LiveTemplate.Proofs.Number.Rounding
import LiveTemplate.Proofs.Refresh.Pacing

/-!
# Throttling

The least interval keeps a directive from ticking again at the instant of its latest tick, and it
does so just when it is longer than nothing. A number of seconds that settings may hold becomes
nothing when it is half a nanosecond or less; then a directive with an interval of zero ticks as
often as it gets a turn, and the clock need not move for that.
-/

namespace LiveTemplate

/-! ## Numbers of seconds that come to nothing -/

open Number

namespace Duration

/-- A number of seconds becomes nothing just when it is half a nanosecond or less. -/
theorem ofSeconds?_eq_zero_iff {negative : Bool} {m : Nat} {e : Int} {duration : Duration}
    (h : ofSeconds? (.finite negative m e) = some duration) :
    duration.nanoseconds = 0 ↔ 2 * ((m : ℚ) * 2 ^ e * perSecond) ≤ 1 := by
  obtain ⟨hden, hvalue⟩ := Binary64.ratio_spec (m * perSecond) e
  have hrounded : duration.nanoseconds = roundHalfEven (Binary64.ratio (m * perSecond) e).1
      (Binary64.ratio (m * perSecond) e).2 := by
    simp only [ofSeconds?] at h
    split at h
    · contradiction
    · split at h
      · exact (congrArg nanoseconds (Option.some.inj h)).symm
      · contradiction
  generalize Binary64.ratio (m * perSecond) e = value at hden hvalue hrounded
  have hpositive : (0 : ℚ) < value.2 := Nat.cast_pos.2 hden
  have hexact : 2 * ((m : ℚ) * 2 ^ e * perSecond) * value.2 = 2 * value.1 := by
    rw [(div_eq_iff hpositive.ne').1 hvalue, Nat.cast_mul]
    ring
  calc
    duration.nanoseconds = 0 ↔ 2 * value.1 ≤ value.2 := by
      rw [hrounded, roundHalfEven_eq_zero_iff hden]
    _ ↔ 2 * (value.1 : ℚ) ≤ value.2 := by exact_mod_cast Iff.rfl
    _ ↔ 2 * ((m : ℚ) * 2 ^ e * perSecond) * value.2 ≤ 1 * value.2 := by rw [hexact, one_mul]
    _ ↔ 2 * ((m : ℚ) * 2 ^ e * perSecond) ≤ 1 := mul_le_mul_iff_left₀ hpositive

end Duration

namespace Program.Settings

/-- The settings name no least interval, or one that is longer than half a nanosecond. -/
def IsThrottled (settings : Settings) : Prop :=
  ∀ negative m e, settings.minInterval = some (.finite negative m e) →
    1 < 2 * ((m : ℚ) * 2 ^ e * Duration.perSecond)

/-- The floor of throttled settings, and of no others, is longer than nothing. -/
theorem isThrottled_iff {settings : Settings} {floor : Duration}
    (h : settings.floor = .ok floor) : settings.IsThrottled ↔ 0 < floor.nanoseconds := by
  unfold Settings.floor at h
  split at h
  case h_1 hnone =>
    obtain rfl : defaultFloor = floor := Except.ok.inj h
    simp only [IsThrottled, hnone, reduceCtorEq, false_implies, implies_true, true_iff]
    decide
  case h_2 seconds hseconds =>
    unfold durationOf at h
    split at h
    case h_2 => contradiction
    case h_1 duration hduration =>
      obtain rfl : duration = floor := Except.ok.inj h
      cases seconds with
      | nan => contradiction
      | infinity negative => contradiction
      | finite negative m e =>
        have hzero := Duration.ofSeconds?_eq_zero_iff hduration
        rw [Nat.pos_iff_ne_zero, Ne, hzero, not_le]
        constructor
        · exact fun hthrottled ↦ hthrottled negative m e hseconds
        · intro hlong negative' m' e' hfound
          obtain ⟨rfl, rfl, rfl⟩ := by simpa using hseconds.symm.trans hfound
          exact hlong

end Program.Settings

namespace Refresh

open Command (Registry)

variable {σ : Type} {s t : State σ} {id : TaskId} {task : Task σ}

/-! ## Tasks that rest -/

/-- After a tick that took no time a task with an interval sleeps for the whole of it. -/
theorem Value.phaseAfter_self {value : Value σ} {interval : Duration}
    (hinterval : value.interval = some interval) (hpositive : 0 < interval.nanoseconds)
    (now : Nat) : value.phaseAfter now now = .asleep (now + interval.nanoseconds) := by
  rcases value.phaseAfter_cases now now with
    ⟨hnone, -⟩ | ⟨found, hfound, ⟨hover, -⟩ | ⟨-, hphase⟩⟩
  · rw [hinterval] at hnone
    contradiction
  · obtain rfl := Option.some.inj (hinterval.symm.trans hfound)
    omega
  · obtain rfl := Option.some.inj (hinterval.symm.trans hfound)
    rw [hphase, Nat.sub_self, Nat.sub_zero]

/-- Under a floor that is longer than nothing, no two ticks of a task start at one instant. -/
theorem nodup_starts {registry : Registry σ} {floor : Duration} {world : σ}
    (hfloor : 0 < floor.nanoseconds) (labels : List (Label σ))
    (htask : ((State.initial registry floor world).run labels).task? id = some task)
    (hrepeats : task.value.interval.isSome = true) :
    (starts id ((State.initial registry floor world).run labels).history).Nodup := by
  obtain ⟨interval, hinterval⟩ := Option.isSome_iff_exists.1 hrepeats
  have hspaced := (State.course_of_task Course.paced_invariant registry floor world labels htask
    interval hinterval).spaced
  have hpositive : 0 < interval.nanoseconds := by
    obtain ⟨registry', d, hvalue⟩ :=
      (Tenancy.run registry floor world labels).exists_resolve htask
    rw [hvalue, State.floor_run] at hinterval
    exact Nat.lt_of_lt_of_le hfloor (floor_le_of_resolveInterval hinterval)
  exact hspaced.pairwise.imp fun hapart ↦ by omega

/-! ## Tasks that spin -/

/-- A task calls its command itself, has an interval of zero, and is waiting for its turn only. -/
structure State.Spins (s : State σ) (id : TaskId) : Prop where
  current : s.isCurrent id = true
  running : s.isCancelled id = false
  due : ∃ c, s.course? id = some c ∧ (c.task.phase = .idle ∨ c.task.phase = .yielded) ∧
    c.task.value.mode = .onTask ∧ c.task.value.interval = some ⟨0⟩

/-- A turn of a task and the return of its call. -/
def wholeTick (id : TaskId) : List (Label σ) := [.poll id .returns, .finish id .returns]

/-- A fragment that comes to the installed schedule is published. -/
theorem State.course?_deliver_of_isCurrent {c : Course σ} (hc : s.course? id = some c)
    (hcurrent : s.isCurrent id = true) (start : Nat) (fragment : String) :
    ∃ index text, (s.deliver id start fragment .returns).course? id =
      some (c.deliver id s.now start fragment index text .returns) := by
  have htask : s.task? id = some c.task := (course?_eq_some.1 hc).1
  obtain ⟨schedule, hschedule, -⟩ := Option.bind_eq_some_iff.1 htask
  have hinstalled : s.isInstalled schedule = true := by
    simpa [isCurrent, hschedule] using hcurrent
  obtain ⟨published, -, hpublish⟩ := exists_publish_eq hschedule fragment
  refine ⟨published.index, published.merged, ?_⟩
  simp only [deliver, hschedule, htask, hinstalled, if_true]
  rw [course?_enter, hpublish, course?_record rfl, course?_modifyTask, hc]
  rfl

/-- So is the fragment of a call that a task of the installed schedule makes itself. -/
theorem State.course?_finish_of_isCurrent {c : Course σ} {start : Nat}
    (hc : s.course? id = some c) (hphase : c.task.phase = .calling start)
    (hcurrent : s.isCurrent id = true) :
    ∃ fragment index text, (s.finish id .returns).course? id =
      some ((c.note s.now (.returned id fragment)).deliver id s.now start fragment index text
        .returns) := by
  have hreturned (world : σ) (fragment : String) :
      (({ s with world := world } : State σ).record (.returned id fragment)).course? id =
        some (c.note s.now (.returned id fragment)) := by
    have hworld : ({ s with world := world } : State σ).course? id = some c := hc
    rw [course?_record rfl, hworld]
    rfl
  rw [finish_of_calling (course?_eq_some.1 hc).1 hphase]
  exact ⟨_, course?_deliver_of_isCurrent (hreturned _ _) hcurrent start _⟩

/-- A task that spins begins a tick and ends it at the same instant, and spins on. -/
theorem State.Spins.tick (h : s.Spins id) :
    (s.run (wholeTick id)).Spins id ∧ (s.run (wholeTick id)).now = s.now ∧
      starts id (s.run (wholeTick id)).history = starts id s.history ++ [s.now] := by
  obtain ⟨hcurrent, hrunning, c, hc, hphase, hmode, hinterval⟩ := h
  have htask : s.task? id = some c.task := (course?_eq_some.1 hc).1
  have hpolled := still_poll (s := s) id .returns
  have hstill : Still s (s.run (wholeTick id)) := hpolled.trans (still_finish id .returns)
  have hpoll : s.poll id .returns = (s.enter id (.calling s.now)).record (.began id) := by
    rcases hphase with hphase | hphase <;>
      simp [poll, htask, hphase, hmode, beginTick, hrunning]
  have hcalling : (s.poll id .returns).course? id = some (c.call id s.now) := by
    rw [hpoll, course?_record rfl, course?_enter, hc]
    rfl
  obtain ⟨fragment, index, text, hcourse⟩ :=
    course?_finish_of_isCurrent hcalling rfl ((hpolled.isCurrent id).trans hcurrent)
  have hyielded : c.task.value.phaseAfter s.now s.now = .yielded := by
    simp [Value.phaseAfter, hinterval]
  rw [hpolled.now] at hcourse
  refine ⟨⟨?current, ?running, _, hcourse, ?due⟩, hstill.now, ?starts⟩
  case current => exact (hstill.isCurrent id).trans hcurrent
  case running => exact (hstill.isCancelled id).trans hrunning
  case due => exact ⟨.inr hyielded, hmode, hinterval⟩
  case starts =>
    have hreads {t : State σ} {d : Course σ} (hd : t.course? id = some d) :
        starts id t.history = d.reads Entry.start? := by
      rw [starts, (course?_eq_some.1 hd).2.1]
      rfl
    have hcourse : (s.run (wholeTick id)).course? id = _ := hcourse
    rw [hreads hcourse, hreads hc, Course.deliver, Course.reads_enter, Value.start?_phaseAfter]
    simp [Course.call, Phase.state]

/-- A task that spins ticks as often as it gets its turn, while the clock stands still. -/
theorem State.Spins.ticks (h : s.Spins id) (count : Nat) :
    (s.run (List.replicate count (wholeTick id)).flatten).Spins id ∧
      starts id (s.run (List.replicate count (wholeTick id)).flatten).history =
        starts id s.history ++ List.replicate count s.now := by
  induction count generalizing s with
  | zero => exact ⟨h, by simp⟩
  | succ count ih =>
    obtain ⟨hspins, hnow, hstarts⟩ := h.tick
    obtain ⟨hrest, hall⟩ := ih hspins
    rw [List.replicate_succ, List.flatten_cons, run_append]
    refine ⟨hrest, ?_⟩
    rw [hall, hstarts, hnow, List.append_assoc, List.replicate_succ]
    rfl

/-- A text whose directive asks for no interval at all and calls its command itself. -/
def restless : String := "{dt(HH), interval: 0, async: false}"

def restlessDirective : Directive.Descriptor := ⟨0, 0, 35, "dt", "HH", some "0", some false⟩

theorem parse_restless : Directive.parse restless = [restlessDirective] := by decide +kernel

theorem mem_parse_restless : restlessDirective ∈ Directive.parse restless := by
  rw [parse_restless]
  exact List.mem_singleton_self _

theorem interval_restless (registry : Registry σ) :
    (resolve registry ⟨0⟩ restlessDirective).interval = some ⟨0⟩ := by
  have hinterval : resolveInterval (some "0") ⟨0⟩ = some ⟨0⟩ := by decide +kernel
  exact hinterval

/-- Without a floor the task of such a text spins from its installation on. -/
theorem spins_restless (registry : Registry σ) (world : σ) :
    let s := (State.initial registry ⟨0⟩ world).operate (.setTexts [restless])
    s.Spins ⟨0, 0⟩ ∧ s.now = 0 ∧ starts ⟨0, 0⟩ s.history = [] := by
  let vacant : State σ := ((State.initial registry ⟨0⟩ world).append.supersede 0).vacate 0
  have hoperate : (State.initial registry ⟨0⟩ world).operate (.setTexts [restless]) =
      vacant.placeSchedule 0 0 restless ((Directive.parse restless).map (resolve registry ⟨0⟩)) := by
    have hplace : (State.initial registry ⟨0⟩ world).operate (.setTexts [restless]) =
        vacant.place 0 restless := rfl
    have helement : vacant.elements[0]? = some { cell := 0 } := rfl
    simp only [hplace, State.place, helement, if_true, List.isEmpty_map]
    rw [parse_restless]
    rfl
  rw [hoperate, parse_restless]
  exact ⟨⟨rfl, rfl, _, rfl, .inl rfl, rfl, interval_restless registry⟩, rfl, rfl⟩

/-- Without a floor a task can tick any number of times at the beginning of time. -/
theorem exists_run_spinning (registry : Registry σ) (world : σ) (count : Nat) :
    ∃ labels task, ((State.initial registry ⟨0⟩ world).run labels).task? ⟨0, 0⟩ = some task ∧
      task.value.interval.isSome = true ∧
      starts ⟨0, 0⟩ ((State.initial registry ⟨0⟩ world).run labels).history =
        List.replicate count 0 := by
  obtain ⟨hspins, hnow, hnothing⟩ := spins_restless registry world
  obtain ⟨hspins, hstarts⟩ := hspins.ticks count
  rw [hnow, hnothing, List.nil_append] at hstarts
  rw [← State.run_changes, ← State.run_append] at hspins hstarts
  obtain ⟨c, hc, -, -, hinterval⟩ := hspins.due
  exact ⟨_, c.task, (State.course?_eq_some.1 hc).1, by rw [hinterval]; rfl, hstarts⟩

end Refresh

/-! ## Settings and their floor -/

namespace Program

open Command (Registry)
open Refresh

variable {σ : Type}

/-- The settings decide whether tasks can tick without a pause. Under throttled ones, and under no
others, every interval of every directive is longer than nothing, so that a task sleeps after a tick
that took no time, and no two ticks of a task start at one instant. Under settings that are not
throttled a task can tick any number of times while the clock stands still. -/
theorem no_busy_loop_iff_throttled (settings : Settings) (floor : Duration)
    (h : settings.floor = .ok floor) (registry : Registry σ) (world : σ) :
    (settings.IsThrottled ↔ ∀ text, ∀ d ∈ Directive.parse text, ∀ interval,
      (resolve registry floor d).interval = some interval → 0 < interval.nanoseconds ∧
        ∀ now, (resolve registry floor d).phaseAfter now now =
          .asleep (now + interval.nanoseconds)) ∧
    (settings.IsThrottled ↔ ∀ labels id task,
      ((State.initial registry floor world).run labels).task? id = some task →
      task.value.interval.isSome = true →
      (starts id ((State.initial registry floor world).run labels).history).Nodup) ∧
    (¬ settings.IsThrottled → ∀ count, ∃ labels,
      starts ⟨0, 0⟩ ((State.initial registry floor world).run labels).history =
        List.replicate count 0) := by
  have hthrottled := Settings.isThrottled_iff h
  have hnothing (hfloor : ¬ 0 < floor.nanoseconds) : floor = ⟨0⟩ := by
    cases floor
    simpa using hfloor
  refine ⟨?resolved, ?distinct, ?spins⟩
  case resolved =>
    rw [hthrottled]
    constructor
    · intro hfloor text d hd interval hinterval
      have hpositive := Nat.lt_of_lt_of_le hfloor (floor_le_of_resolveInterval hinterval)
      exact ⟨hpositive, Value.phaseAfter_self hinterval hpositive⟩
    · intro hpositive
      by_contra hfloor
      obtain rfl := hnothing hfloor
      have hd := hpositive restless _ mem_parse_restless _ (interval_restless registry)
      exact absurd hd.1 (Nat.lt_irrefl 0)
  case distinct =>
    rw [hthrottled]
    constructor
    · exact fun hfloor labels id task ↦ nodup_starts hfloor labels
    · intro hdistinct
      by_contra hfloor
      obtain rfl := hnothing hfloor
      obtain ⟨labels, task, htask, hrepeats, hstarts⟩ := exists_run_spinning registry world 2
      have hnodup := hdistinct labels ⟨0, 0⟩ task htask hrepeats
      rw [hstarts] at hnodup
      exact absurd hnodup (by decide)
  case spins =>
    intro hloose count
    rw [hthrottled] at hloose
    obtain rfl := hnothing hloose
    obtain ⟨labels, -, -, -, hstarts⟩ := exists_run_spinning registry world count
    exact ⟨labels, hstarts⟩

def calm : Settings := { minInterval := some (Number.ofDecimal false 5 1 (-2)) }

/-- They are throttled, and raise an interval of zero to their own. -/
theorem calm_raises_zero :
    calm.floor = .ok ⟨50000000⟩ ∧ calm.IsThrottled ∧ ∀ now,
      (resolve (.empty : Registry Unit) ⟨50000000⟩ restlessDirective).phaseAfter now now =
        .asleep (now + 50000000) := by
  have hfloor : calm.floor = .ok ⟨50000000⟩ := by decide +kernel
  have hthrottled : calm.IsThrottled := (Settings.isThrottled_iff hfloor).2 (by decide)
  obtain ⟨hresolved, -⟩ := no_busy_loop_iff_throttled calm ⟨50000000⟩ hfloor
    (.empty : Registry Unit) ()
  have hraised : resolveInterval (some "0") ⟨50000000⟩ = some ⟨50000000⟩ := by decide +kernel
  have hd := hresolved.1 hthrottled restless restlessDirective mem_parse_restless ⟨50000000⟩ hraised
  exact ⟨hfloor, hthrottled, hd.2⟩

def restive : Settings := { minInterval := some (.zero false) }

/-- Such settings are accepted, and leave an interval of zero as it is. -/
theorem zero_setting_leaves_zero :
    ¬ ∀ (settings : Settings) (floor : Duration), settings.floor = .ok floor →
      ∀ (registry : Registry Unit) (text : String), ∀ d ∈ Directive.parse text, ∀ interval,
        (resolve registry floor d).interval = some interval → 0 < interval.nanoseconds := by
  intro hpositive
  have hfloor : restive.floor = .ok ⟨0⟩ := by decide +kernel
  have hd := hpositive restive ⟨0⟩ hfloor .empty restless _ mem_parse_restless _
    (interval_restless .empty)
  exact absurd hd (by decide)

end Program

end LiveTemplate

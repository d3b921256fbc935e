import Mathlib.Data.List.Chain
import LiveTemplate.Proofs.Refresh.Tenancy

/-!
# Pacing

The ticks of a repeating task start an interval apart at least, and none starts before the previous
one has been published. A task that is asleep does not wake before the interval of its latest tick
is over, and a task that only gives way has taken that long already; when the task gets its next
turn, and how long its calls take, does not matter. So there is a bound on the ticks that start in a
span of time.
-/

namespace LiveTemplate.Refresh

open Command (Registry)

variable {σ : Type} {s : State σ} {id : TaskId} {now next start published span : Nat}
  {begun posted earlier times : List Nat}

/-! ## Spaced times -/

/-- Every start but the first comes a span after the one before, and not before the publication of
that one. -/
def Spaced (span : Nat) (begun posted : List Nat) : Prop :=
  ∀ k first next, begun[k]? = some first → begun[k + 1]? = some next →
    first + span ≤ next ∧
      ∃ published, posted[k]? = some published ∧ first ≤ published ∧ published ≤ next

theorem Spaced.nil (posted : List Nat) : Spaced span [] posted :=
  fun _ _ _ h ↦ by simp at h

theorem Spaced.singleton (start : Nat) (posted : List Nat) :
    Spaced span [start] posted :=
  fun _ _ _ _ h ↦ by simp at h

/-- A further publication changes nothing about the starts that there have been. -/
theorem Spaced.publish (h : Spaced span begun posted) (published : Nat) :
    Spaced span begun (posted ++ [published]) := by
  intro k first next hfirst hnext
  obtain ⟨hle, time, htime, hbetween⟩ := h k first next hfirst hnext
  have hk : k < posted.length := (List.getElem?_eq_some_iff.1 htime).1
  exact ⟨hle, time, (List.getElem?_append_left hk).trans htime, hbetween⟩

/-- A tick may start once the latest one has been published and its span is over. -/
theorem Spaced.resume (h : Spaced span (earlier ++ [start]) (times ++ [published]))
    (hlength : times.length = earlier.length) (hspan : start + span ≤ now)
    (hstart : start ≤ published) (hpublished : published ≤ now) :
    Spaced span (earlier ++ [start] ++ [now]) (times ++ [published]) := by
  intro k first next hfirst hnext
  have hlt : k + 1 < (earlier ++ [start] ++ [now]).length := (List.getElem?_eq_some_iff.1 hnext).1
  simp only [List.length_append, List.length_singleton] at hlt
  rcases Nat.lt_or_eq_of_le (Nat.le_of_lt_succ hlt) with hold | hlast
  · -- the two starts are among the old ones
    have hlength' : (earlier ++ [start]).length = earlier.length + 1 := by simp
    rw [List.getElem?_append_left (by omega)] at hfirst hnext
    exact h k first next hfirst hnext
  · obtain rfl : k = earlier.length := by omega
    obtain rfl : start = first := by simpa using hfirst
    obtain rfl : now = next := by simpa using hnext
    exact ⟨hspan, published, by simp [← hlength], hstart, hpublished⟩

/-- Any two starts are a span apart at least. -/
theorem Spaced.pairwise (h : Spaced span begun posted) :
    begun.Pairwise fun a b ↦ a + span ≤ b := by
  have hchain : begun.IsChain fun a b ↦ a + span ≤ b := by
    rw [List.isChain_iff_getElem]
    intro k hk
    exact (h k _ _ (List.getElem?_eq_getElem (Nat.lt_of_succ_lt hk))
      (List.getElem?_eq_getElem hk)).1
  have htrans : Trans (fun a b : Nat ↦ a + span ≤ b) (fun a b ↦ a + span ≤ b)
      (fun a b ↦ a + span ≤ b) := ⟨fun hab hbc ↦ by omega⟩
  exact List.isChain_iff_pairwise.1 hchain

/-- Numbers that are a span apart take up that much room each, but for the last. -/
theorem room_of_pairwise {numbers : List Nat} {low high : Nat}
    (h : numbers.Pairwise fun a b ↦ a + span ≤ b)
    (hrange : ∀ a ∈ numbers, low ≤ a ∧ a ≤ high) (hne : numbers ≠ []) :
    low + (numbers.length - 1) * span ≤ high := by
  induction numbers generalizing low with
  | nil => contradiction
  | cons first rest ih =>
    obtain ⟨hlow, hhigh⟩ := hrange first (by simp)
    rw [List.pairwise_cons] at h
    cases hrest : rest with
    | nil => simpa using Nat.le_trans hlow hhigh
    | cons second others =>
      have hroom : low + span + (rest.length - 1) * span ≤ high := by
        refine ih h.2 (fun a ha ↦ ?_) (by simp [hrest])
        have hspan := h.1 a ha
        have hhigh := (hrange a (by simp [ha])).2
        exact ⟨by omega, hhigh⟩
      have hlength : rest.length - 1 + 1 = rest.length := by simp [hrest]
      calc
        low + ((first :: second :: others).length - 1) * span = low + rest.length * span := by
          simp [hrest]
        _ = low + (rest.length - 1 + 1) * span := by rw [hlength]
        _ = low + span + (rest.length - 1) * span := by rw [Nat.succ_mul]; omega
        _ ≤ high := hroom

/-- In a window of time there is room for one start, and for one more with every span. -/
theorem Spaced.countP_le (h : Spaced span begun posted) (hspan : 0 < span) (low width : Nat) :
    begun.countP (fun time ↦ low ≤ time ∧ time ≤ low + width) ≤ width / span + 1 := by
  rw [List.countP_eq_length_filter]
  by_cases hne : begun.filter (fun time ↦ low ≤ time ∧ time ≤ low + width) = []
  · rw [hne]
    exact Nat.zero_le _
  · have hroom := room_of_pairwise (h.pairwise.filter _) (fun a ha ↦ by simpa using
      (List.mem_filter.1 ha).2) hne
    have hle : (begun.filter (fun time ↦ low ≤ time ∧ time ≤ low + width)).length - 1 ≤
        width / span := by
      rw [Nat.le_div_iff_mul_le hspan]
      omega
    omega

/-! ## Paced courses -/

/-- The latest tick has been published, and its span is over at a given time. -/
def Rested (span now wake : Nat) (begun posted : List Nat) : Prop :=
  ∃ earlier start times published, begun = earlier ++ [start] ∧ posted = times ++ [published] ∧
    times.length = earlier.length ∧ start ≤ published ∧ published ≤ now ∧ start + span ≤ wake

theorem Rested.later {wake : Nat} (h : Rested span now wake begun posted) (hle : now ≤ next) :
    Rested span next wake begun posted := by
  obtain ⟨earlier, start, times, published, hbegun, hposted, hlength, hstart, hpublished, hrest⟩ :=
    h
  exact ⟨earlier, start, times, published, hbegun, hposted, hlength, hstart,
    Nat.le_trans hpublished hle, hrest⟩

theorem Rested.resume {wake : Nat} (h : Rested span now wake begun posted) (hwake : wake ≤ now)
    (hspaced : Spaced span begun posted) : Spaced span (begun ++ [now]) posted := by
  obtain ⟨earlier, start, times, published, rfl, rfl, hlength, hstart, hpublished, hspan⟩ := h
  exact hspaced.resume hlength (Nat.le_trans hspan hwake) hstart hpublished

/-- What a phase says about the ticks so far. -/
def Phase.Paces (span now : Nat) (begun posted : List Nat) : Phase → Prop
  | .idle => begun = [] ∧ posted = []
  | .calling start | .awaiting start _ =>
    start ≤ now ∧ ∃ earlier, begun = earlier ++ [start] ∧ posted.length = earlier.length
  | .yielded => ∃ wake ≤ now, Rested span now wake begun posted
  | .asleep wake => Rested span now wake begun posted
  | .terminated | .cancelled | .broken => True

/-- A phase keeps the pace while time passes. -/
theorem Phase.Paces.later {phase : Phase} (h : phase.Paces span now begun posted)
    (hle : now ≤ next) : phase.Paces span next begun posted := by
  cases phase with
  | idle => exact h
  | calling start => exact ⟨Nat.le_trans h.1 hle, h.2⟩
  | awaiting start fragment? => exact ⟨Nat.le_trans h.1 hle, h.2⟩
  | yielded =>
    obtain ⟨wake, hwake, hrested⟩ := h
    exact ⟨wake, Nat.le_trans hwake hle, hrested.later hle⟩
  | asleep wake => exact Rested.later h hle
  | terminated => trivial
  | cancelled => trivial
  | broken => trivial

/-- A task whose turn it is to begin a tick has kept its interval. -/
theorem Phase.Paces.resume {phase : Phase} (h : phase.Paces span now begun posted)
    (ready : phase.isReady now = true) (hspaced : Spaced span begun posted) :
    Spaced span (begun ++ [now]) posted ∧ posted.length = begun.length := by
  have hlength {wake : Nat} (hrested : Rested span now wake begun posted) :
      posted.length = begun.length := by
    obtain ⟨earlier, start, times, published, rfl, rfl, hlength, -⟩ := hrested
    simp [hlength]
  cases phase <;> simp only [Phase.isReady, Bool.false_eq_true] at ready
  case idle =>
    obtain ⟨rfl, rfl⟩ := h
    exact ⟨.singleton now [], rfl⟩
  case yielded =>
    obtain ⟨wake, hwake, hrested⟩ := h
    exact ⟨hrested.resume hwake hspaced, hlength hrested⟩
  case asleep wake => exact ⟨Rested.resume h (by simpa using ready) hspaced, hlength h⟩

/-- After a publication a task waits for the rest of its interval, if there is a rest. -/
theorem Value.paces_phaseAfter {value : Value σ} {interval : Duration}
    (hinterval : value.interval = some interval) (hstart : start ≤ now)
    (hbegun : begun = earlier ++ [start]) (hlength : posted.length = earlier.length) :
    (value.phaseAfter start now).Paces interval.nanoseconds now begun (posted ++ [now]) := by
  have hrested {wake : Nat} (hwake : start + interval.nanoseconds ≤ wake) :
      Rested interval.nanoseconds now wake begun (posted ++ [now]) :=
    ⟨earlier, start, posted, now, hbegun, rfl, hlength, hstart, Nat.le_refl now, hwake⟩
  rcases value.phaseAfter_cases start now with
    ⟨hnone, -⟩ | ⟨found, hfound, ⟨hover, hphase⟩ | ⟨hrest, hphase⟩⟩
  · rw [hinterval] at hnone
    contradiction
  · obtain rfl := Option.some.inj (hinterval.symm.trans hfound)
    rw [hphase]
    exact ⟨now, Nat.le_refl now, hrested (by omega)⟩
  · obtain rfl := Option.some.inj (hinterval.symm.trans hfound)
    rw [hphase]
    exact hrested (by omega)

/-- No tick starts when another one ends. -/
theorem Value.start?_phaseAfter (value : Value σ) (id : TaskId) (start now : Nat) :
    Entry.start? ⟨now, .entered id (value.phaseAfter start now).state⟩ = none := by
  rcases value.phaseAfter_cases start now with ⟨-, h⟩ | ⟨interval, -, ⟨-, h⟩ | ⟨-, h⟩⟩ <;>
    · rw [h]
      rfl

namespace Course

/-- A course that keeps the interval of its task. -/
structure Paced (now : Nat) (c : Course σ) (interval : Duration) : Prop where
  spaced : Spaced interval.nanoseconds (c.reads Entry.start?) (c.reads Entry.publication?)
  paces : c.task.phase.Paces interval.nanoseconds now (c.reads Entry.start?)
    (c.reads Entry.publication?)

/-- A tick that has got its fragment has started, and has not been published. -/
theorem Paced.of_yields {c d : Course σ} {interval : Duration} {fragment : String}
    (h : c.Paced s.now interval) (yields : c.Yields s id start fragment d) :
    d.reads Entry.start? = c.reads Entry.start? ∧
      d.reads Entry.publication? = c.reads Entry.publication? ∧ start ≤ s.now ∧
      ∃ earlier, c.reads Entry.start? = earlier ++ [start] ∧
        (c.reads Entry.publication?).length = earlier.length := by
  have hpaces := h.paces
  cases yields with
  | awaited phase running =>
    rw [phase] at hpaces
    exact ⟨rfl, rfl, hpaces⟩
  | called phase outcome =>
    rw [phase] at hpaces
    exact ⟨by simp, by simp, hpaces⟩

theorem Paced.refuse {c : Course σ} {interval : Duration} (h : c.Paced now interval)
    (phase : c.task.phase = .idle) (id : TaskId) : (c.refuse id now).Paced now interval := by
  obtain ⟨-, hpaces⟩ := h
  rw [phase] at hpaces
  constructor
  case spaced => simpa [Course.refuse, Phase.state, hpaces.1] using Spaced.singleton now _
  case paces => trivial

theorem Paced.call {c : Course σ} {interval : Duration} (h : c.Paced now interval)
    (ready : c.task.phase.isReady now = true) (id : TaskId) :
    (c.call id now).Paced now interval := by
  obtain ⟨hresumed, hlength⟩ := h.paces.resume ready h.spaced
  constructor
  case spaced => simpa [Course.call, Phase.state] using hresumed
  case paces => simpa [Course.call, Phase.state, Phase.Paces] using hlength

theorem Paced.dispatch {c : Course σ} {interval : Duration} (h : c.Paced now interval)
    (ready : c.task.phase.isReady now = true) (id : TaskId) :
    (c.dispatch id now).Paced now interval := by
  obtain ⟨hresumed, hlength⟩ := h.paces.resume ready h.spaced
  constructor
  case spaced => simpa [Course.dispatch, Phase.state] using hresumed
  case paces => simpa [Course.dispatch, Phase.state, Phase.Paces] using hlength

/-- A publication leaves the starts alone, and what follows it keeps the interval. -/
theorem Paced.deliver {c d : Course σ} {interval : Duration} {fragment : String}
    (h : c.Paced s.now interval) (yields : c.Yields s id start fragment d)
    (hinterval : d.task.value.interval = some interval) (index : Nat) (text : String)
    (rendering : Rendering) :
    (d.deliver id s.now start fragment index text rendering).Paced s.now interval := by
  obtain ⟨hstarts, hpublications, hstart, earlier, hbegun, hlength⟩ := h.of_yields yields
  have hpublished := h.spaced.publish s.now
  cases rendering with
  | returns =>
    have hstarts' : (d.deliver id s.now start fragment index text .returns).reads Entry.start? =
        c.reads Entry.start? := by
      rw [Course.deliver, reads_enter, Value.start?_phaseAfter]
      simpa using hstarts
    have hpublications' : (d.deliver id s.now start fragment index text .returns).reads
        Entry.publication? = c.reads Entry.publication? ++ [s.now] := by
      simp [Course.deliver, hpublications]
    constructor
    case spaced => rw [hstarts', hpublications']; exact hpublished
    case paces =>
      rw [hstarts', hpublications']
      exact Value.paces_phaseAfter hinterval hstart hbegun hlength
  | panics =>
    constructor
    case spaced => simpa [Course.deliver, hstarts, hpublications] using hpublished
    case paces => trivial

theorem Paced.discard {c d : Course σ} {interval : Duration} {fragment : String}
    (h : c.Paced s.now interval) (yields : c.Yields s id start fragment d) :
    (d.enter id s.now .cancelled).Paced s.now interval := by
  obtain ⟨hstarts, hpublications, -⟩ := h.of_yields yields
  constructor
  case spaced => simpa [Phase.state, hstarts, hpublications] using h.spaced
  case paces => trivial

theorem Paced.complete {c : Course σ} {interval : Duration} (h : c.Paced now interval)
    (id : TaskId) (fragment : String) : (c.complete id now fragment).Paced now interval := by
  obtain ⟨hspaced, hpaces⟩ := h
  constructor
  case spaced => simpa [Course.complete] using hspaced
  case paces =>
    rcases Task.receive_cases fragment c.task with hreceive | ⟨start, hphase, hreceive⟩
    · simpa [Course.complete, hreceive] using hpaces
    · rw [hphase] at hpaces
      have hreceived : (Phase.awaiting start (some fragment)).Paces interval.nanoseconds now
          (c.reads Entry.start?) (c.reads Entry.publication?) := hpaces
      simpa [Course.complete, hreceive] using hreceived

/-- Every task keeps its interval in every run. -/
theorem paced_invariant : Invariant (σ := σ) (fun _ ↦ True) fun now c ↦
    ∀ interval, c.task.value.interval = some interval → c.Paced now interval where
  fresh now value interval _ := ⟨.nil _, rfl, rfl⟩
  later hle h interval hinterval :=
    ⟨(h interval hinterval).spaced, (h interval hinterval).paces.later hle⟩
  moves {s label id c d} _ h moves := by
    intro interval hinterval
    cases moves with
    | refuse phase stopped => exact (h interval hinterval).refuse phase id
    | call ready running mode => exact (h interval hinterval).call ready id
    | dispatch ready running mode => exact (h interval hinterval).dispatch ready id
    | stop suspended stopped =>
      constructor
      case spaced => simpa [Phase.state] using (h interval hinterval).spaced
      case paces => trivial
    | @deliver d start fragment yields current index text rendering safe =>
      have hvalue : d.task.value.interval = some interval := by cases rendering <;> exact hinterval
      have hbefore : c.task.value.interval = some interval := by cases yields <;> exact hvalue
      exact (h interval hbefore).deliver yields hvalue index text rendering
    | discard yields stale =>
      have hbefore : c.task.value.interval = some interval := by cases yields <;> exact hinterval
      exact (h interval hbefore).discard yields
    | @complete fragment working outcome =>
      have hbefore : c.task.value.interval = some interval := by
        rw [← State.value_receive fragment c.task]
        exact hinterval
      exact (h interval hbefore).complete id fragment

end Course

/-! ## Runs -/

/-- An interval is never below the floor. -/
theorem floor_le_of_resolveInterval {literal : Option String} {floor interval : Duration}
    (h : resolveInterval literal floor = some interval) :
    floor.nanoseconds ≤ interval.nanoseconds := by
  simp only [resolveInterval, Option.bind_eq_bind, Option.pure_def, Option.bind_eq_some_iff,
    Option.some.injEq] at h
  obtain ⟨text, -, number, -, duration, -, rfl⟩ := h
  exact Nat.le_max_right duration.nanoseconds floor.nanoseconds

/-- In every run, every directive with an interval waits for it between the starts of two ticks,
and for the publication of the first of the two, whatever its calls take and whenever it gets its
turns. So the ticks that start in a window of time are bounded by its width. -/
theorem starts_paced (registry : Registry σ) (floor : Duration) (world : σ)
    (labels : List (Label σ)) :
    let s := (State.initial registry floor world).run labels
    ∀ id schedule descriptor interval, s.schedules[id.schedule]? = some schedule →
      (Directive.parse schedule.raw)[id.directive]? = some descriptor →
      resolveInterval descriptor.interval floor = some interval →
      (∀ k first next, (starts id s.history)[k]? = some first →
        (starts id s.history)[k + 1]? = some next →
        first + interval.nanoseconds ≤ next ∧
          first + floor.nanoseconds ≤ first + interval.nanoseconds ∧
          ∃ published, (publications id s.history)[k]? = some published ∧
            first ≤ published ∧ published ≤ next) ∧
      (0 < interval.nanoseconds → ∀ low width,
        (starts id s.history).countP (fun time ↦ low ≤ time ∧ time ≤ low + width) ≤
          width / interval.nanoseconds + 1) := by
  intro s id schedule descriptor interval hschedule hdescriptor hinterval
  have hfloor : s.floor = floor := State.floor_run _ labels
  have htenancy : Tenancy s := .run registry floor world labels
  obtain ⟨task, registry', htask, hvalue⟩ :=
    (htenancy.tenants id.schedule schedule hschedule).exists_task hdescriptor
  have hcourse : s.course? id = some ⟨task, diary id s.history, s.workers.count id⟩ := by
    rw [State.course?, State.task?, hschedule, Option.bind_some, htask]
    rfl
  have htaskInterval : task.value.interval = some interval := by
    rw [hvalue, hfloor]
    exact hinterval
  have hpaced := State.courses_run Course.paced_invariant registry floor world
    (fun _ _ ↦ trivial) id _ hcourse interval htaskInterval
  have hspaced : Spaced interval.nanoseconds (starts id s.history) (publications id s.history) :=
    hpaced.spaced
  refine ⟨fun k first next hfirst hnext ↦ ?_, fun hpositive ↦ hspaced.countP_le hpositive⟩
  obtain ⟨hspan, hpublished⟩ := hspaced k first next hfirst hnext
  exact ⟨hspan, Nat.add_le_add_left (floor_le_of_resolveInterval hinterval) first, hpublished⟩

/-- A directive that has been asleep for its interval and ticks for the second time. -/
def secondTick : List (Label Unit) :=
  ((.append :: installation 0 "{w(), interval:1}" : List (Change Unit)).map .change) ++
    [.poll ⟨0, 0⟩ .returns, .elapse 300, .finish ⟨0, 0⟩ .returns, .elapse 1000000000,
      .poll ⟨0, 0⟩ .returns]

/-- The second tick starts at its first turn after the interval, which began with the first tick. -/
theorem secondTick_paced :
    let s := (State.initial .empty ⟨100000000⟩ ()).run secondTick
    starts ⟨0, 0⟩ s.history = [0, 1000000300] ∧ 0 + 1000000000 ≤ 1000000300 ∧
      (∃ published, (publications ⟨0, 0⟩ s.history)[0]? = some published ∧ 0 ≤ published ∧
        published ≤ 1000000300) ∧
      (starts ⟨0, 0⟩ s.history).countP (fun time ↦ 0 ≤ time ∧ time ≤ 0 + 2000000000) ≤ 3 := by
  intro s
  have hstarts : starts ⟨0, 0⟩ s.history = [0, 1000000300] := by decide +kernel
  have hsome : (s.schedules[0]?).isSome = true := by decide +kernel
  have hraw : (s.schedules[0]?).map Schedule.raw = some "{w(), interval:1}" := by decide +kernel
  obtain ⟨schedule, hschedule⟩ := Option.isSome_iff_exists.1 hsome
  have hraw : schedule.raw = "{w(), interval:1}" := by simpa [hschedule] using hraw
  have hdescriptor : (Directive.parse schedule.raw)[0]? =
      some ⟨0, 0, 17, "w", "", some "1", none⟩ := by
    rw [hraw]
    decide +kernel
  obtain ⟨hspaced, hwindow⟩ := starts_paced .empty ⟨100000000⟩ () secondTick ⟨0, 0⟩ schedule _
    ⟨1000000000⟩ hschedule hdescriptor (by decide +kernel)
  obtain ⟨hspan, -, hpublished⟩ :=
    hspaced 0 0 1000000300 (by rw [hstarts]; rfl) (by rw [hstarts]; rfl)
  exact ⟨hstarts, hspan, hpublished, hwindow (by decide) 0 2000000000⟩

end LiveTemplate.Refresh

import LiveTemplate.Refresh.Change

/-!
# Reading a history

The history of a run is all that can be seen of it from outside. From it one reads, for every task,
the states that it has shown, the ticks that it has started, the calls that it has begun, what they
have returned and what has been published of it; and for every position of the list, what is
installed there. Histories have their latest entry first, and readings their earliest.
-/

namespace LiveTemplate.Refresh

variable {β : Type} {id : TaskId} {index : Nat}

/-! ## The diary of a task -/

def Event.task? : Event → Option TaskId
  | .rendered _ _ source? => source?
  | .entered task _ | .began task | .returned task _ => some task
  | .installed _ _ _ | .superseded _ | .tornDown _ => none

/-- The entries about a task. -/
def diary (id : TaskId) (history : List Entry) : List Entry :=
  history.filter fun entry ↦ entry.event.task? = some id

theorem diary_cons_self {entry : Entry} (h : entry.event.task? = some id) (history : List Entry) :
    diary id (entry :: history) = entry :: diary id history :=
  List.filter_cons_of_pos (by simpa using h)

theorem diary_cons_of_ne {entry : Entry} (h : entry.event.task? ≠ some id) (history : List Entry) :
    diary id (entry :: history) = diary id history :=
  List.filter_cons_of_neg (by simpa using h)

/-! ## Readings -/

/-- What a reading finds in a history, the earliest first. -/
def collect (read : Entry → Option β) (history : List Entry) : List β :=
  (history.filterMap read).reverse

@[simp] theorem collect_nil (read : Entry → Option β) : collect read [] = [] := rfl

@[simp] theorem collect_cons (read : Entry → Option β) (entry : Entry) (history : List Entry) :
    collect read (entry :: history) = collect read history ++ (read entry).toList := by
  cases h : read entry <;> simp [collect, h]

theorem collect_append (read : Entry → Option β) (later earlier : List Entry) :
    collect read (later ++ earlier) = collect read earlier ++ collect read later := by
  simp [collect]

theorem collect_diary_cons (read : Entry → Option β) (entry : Entry) (history : List Entry) :
    collect read (diary id (entry :: history)) = collect read (diary id history) ++
      if entry.event.task? = some id then (read entry).toList else [] := by
  by_cases h : entry.event.task? = some id
  · rw [diary_cons_self h, collect_cons, if_pos h]
  · rw [diary_cons_of_ne h, if_neg h, List.append_nil]

/-- What is read of a task is read in the same order later. -/
theorem collect_diary_prefix (read : Entry → Option β) {earlier history : List Entry}
    (h : earlier <:+ history) :
    collect read (diary id earlier) <+: collect read (diary id history) := by
  obtain ⟨later, rfl⟩ := h
  rw [diary, diary, List.filter_append, collect_append]
  exact List.prefix_append _ _

@[simp] def Entry.state? : Entry → Option TaskState
  | ⟨_, .entered _ state⟩ => some state
  | _ => none

@[simp] def Entry.start? : Entry → Option Nat
  | ⟨time, .entered _ .running⟩ => some time
  | _ => none

@[simp] def Entry.call? : Entry → Option Nat
  | ⟨time, .began _⟩ => some time
  | _ => none

@[simp] def Entry.outcome? : Entry → Option String
  | ⟨_, .returned _ fragment⟩ => some fragment
  | _ => none

/-- The time at which a tick is published. -/
@[simp] def Entry.publication? : Entry → Option Nat
  | ⟨time, .rendered _ _ (some _)⟩ => some time
  | _ => none

def states (id : TaskId) (history : List Entry) : List TaskState :=
  collect Entry.state? (diary id history)

/-- The times at which the ticks of a task have started. -/
def starts (id : TaskId) (history : List Entry) : List Nat :=
  collect Entry.start? (diary id history)

/-- The times at which the calls of a task have begun. -/
def calls (id : TaskId) (history : List Entry) : List Nat :=
  collect Entry.call? (diary id history)

def outcomes (id : TaskId) (history : List Entry) : List String :=
  collect Entry.outcome? (diary id history)

/-- The times at which the ticks of a task have been published. -/
def publications (id : TaskId) (history : List Entry) : List Nat :=
  collect Entry.publication? (diary id history)

/-! ## Published texts -/

/-- The text with a number, counted from one; the empty text has the number zero. -/
def nthText (texts : List String) : Nat → String
  | 0 => ""
  | n + 1 => (texts[n]?).getD ""

/-- A text keeps its number when texts are added at the end. -/
theorem nthText_append {texts : List String} {n : Nat} (h : n ≤ texts.length)
    (others : List String) : nthText (texts ++ others) n = nthText texts n := by
  cases n with
  | zero => rfl
  | succ n => simp [nthText, List.getElem?_append_left (Nat.lt_of_succ_le h)]

/-- The text of the latest call of a task that has been published. A task publishes the outcomes of
its calls one after the other, so that their numbers are those of the publications. -/
def shown (id : TaskId) (history : List Entry) : String :=
  nthText (outcomes id history) (publications id history).length

/-- A text with the fragments that a schedule has published for its directives. -/
def composed (schedule : Nat) (raw : String) (history : List Entry) : String :=
  Directive.merge raw ((List.range (Directive.parse raw).length).map fun directive ↦
    shown ⟨schedule, directive⟩ history)

/-- The directive and the text of a render that a task of a schedule has caused. -/
@[simp] def Entry.renderOf? (schedule : Nat) : Entry → Option (Nat × String)
  | ⟨_, .rendered _ text (some task)⟩ =>
    if task.schedule = schedule then some (task.directive, text) else none
  | _ => none

def renders (schedule : Nat) (history : List Entry) : List (Nat × String) :=
  collect (Entry.renderOf? schedule) history

/-! ## What is installed -/

/-- Whether an event decides what is installed at a position. -/
def Event.decides (index : Nat) : Event → Bool
  | .installed i _ _ | .superseded i | .tornDown i => i = index
  | .rendered _ _ _ | .entered _ _ | .began _ | .returned _ _ => false

def Event.isDecision : Event → Bool
  | .installed _ _ _ | .superseded _ | .tornDown _ => true
  | .rendered _ _ _ | .entered _ _ | .began _ | .returned _ _ => false

/-- The events that decide what is installed. -/
def decisions (history : List Entry) : List Event :=
  (history.map Entry.event).filter (·.isDecision)

theorem decisions_cons_of_not {entry : Entry} (h : entry.event.isDecision = false)
    (history : List Entry) : decisions (entry :: history) = decisions history := by
  exact List.filter_cons_of_neg (by simpa using h)

/-- The latest event that decides what is installed at a position. -/
def standing? (index : Nat) (history : List Entry) : Option Event :=
  (history.map Entry.event).find? (·.decides index)

theorem standing?_cons_self {entry : Entry} (h : entry.event.decides index = true)
    (history : List Entry) : standing? index (entry :: history) = some entry.event := by
  exact List.find?_cons_of_pos h

theorem standing?_cons_of_not {entry : Entry} (h : entry.event.decides index = false)
    (history : List Entry) : standing? index (entry :: history) = standing? index history := by
  exact List.find?_cons_of_neg (by simpa using h)

/-- What is installed at a position depends on the decisions alone. -/
theorem find?_decisions (index : Nat) (history : List Entry) :
    (decisions history).find? (·.decides index) = standing? index history := by
  rw [decisions, List.find?_filter, standing?]
  congr 1
  funext event
  cases event <;> simp [Event.decides, Event.isDecision]

theorem mem_decisions_of_standing? {event : Event} {history : List Entry}
    (h : standing? index history = some event) : event ∈ decisions history := by
  rw [← find?_decisions] at h
  exact List.mem_of_find?_eq_some h

theorem decisions_sublist {earlier history : List Entry} (h : earlier <:+ history) :
    (decisions earlier).Sublist (decisions history) :=
  (h.sublist.map Entry.event).filter _

end LiveTemplate.Refresh

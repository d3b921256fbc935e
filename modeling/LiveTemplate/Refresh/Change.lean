import LiveTemplate.Refresh.Step

/-!
# Changes of the list of texts

Every operation on the list is a sequence of few changes. An element is appended, the elements from
a position on are removed, the registry is exchanged, and a text is replaced in three changes: its
cell is counted up, its tasks are told to stop, the next text is placed. Tasks and workers may take
steps between any two of these changes, and a run is a sequence of changes and steps in any order.
The stage of an element tells which of the three comes next. An operation that a panic of the
renderer cuts short is a beginning of its sequence.
-/

namespace LiveTemplate.Refresh

open Command (Registry)

variable {σ : Type}

/-! ## Errors -/

inductive Error where
  /-- There is nothing on which tasks could run. -/
  | noRuntime
  | elementNotFound (index : Nat)
  /-- A task has ended in an unforeseen way. -/
  | join (message : String)
  deriving DecidableEq, Repr

def Error.message : Error → String
  | .noRuntime => "no tokio runtime available"
  | .elementNotFound index => "text element not found: " ++ toString index
  | .join message => "task join error: " ++ message

/-- The empty list, where there is something on which tasks can run. -/
def State.new (hasRuntime : Bool) (registry : Registry σ) (floor : Duration) (world : σ) :
    Except Error (State σ) :=
  if hasRuntime then .ok (.initial registry floor world) else .error .noRuntime

/-! ## Changes -/

inductive Change (σ : Type) where
  /-- A new element, at first without a text. -/
  | append
  /-- What is installed at a position counts no more. -/
  | supersede (index : Nat)
  /-- The tasks of a superseded text are told to stop. -/
  | vacate (index : Nat)
  /-- A text is installed where no text is. -/
  | place (index : Nat) (raw : String)
  /-- The elements from a position on are removed. -/
  | truncate (size : Nat)
  | exchange (registry : Registry σ)

namespace State

def append (s : State σ) : State σ :=
  { s with cells := s.cells ++ [0], elements := s.elements ++ [{ cell := s.cells.length }] }

/-- Counts up the cell of an element. From now on its tasks publish nothing. -/
def supersede (s : State σ) (index : Nat) : State σ :=
  match s.elements[index]? with
  | none => s
  | some element =>
    { s with
      cells := s.cells.modify element.cell (· + 1)
      elements := s.elements.set index { element with stage := .superseded } }.record
        (.superseded index)

/-- Tells the tasks of a superseded element to stop. -/
def vacate (s : State σ) (index : Nat) : State σ :=
  match s.elements[index]? with
  | none => s
  | some element =>
    if element.stage = .superseded then
      { s with
        schedules :=
          match element.schedule? with
          | some schedule => s.schedules.modify schedule Schedule.cancel
          | none => s.schedules
        elements := s.elements.set index { element with schedule? := none, stage := .vacant } }
    else s

def placeLiteral (s : State σ) (index cell : Nat) (raw : String) : State σ :=
  ({ s with elements := s.elements.set index ⟨cell, raw, none, .settled⟩ }.record
    (.installed index raw none)).record (.rendered index raw none)

def placeSchedule (s : State σ) (index cell : Nat) (raw : String) (values : List (Value σ)) :
    State σ :=
  let schedule : Schedule σ :=
    { index := index, cell := cell, generation := (s.cells[cell]?).getD 0, raw := raw,
      tasks := values.map fun value ↦ { value := value } }
  { s with
    elements := s.elements.set index ⟨cell, raw, some s.schedules.length, .settled⟩
    schedules := s.schedules ++ [schedule] }.record (.installed index raw (some s.schedules.length))

def place (s : State σ) (index : Nat) (raw : String) : State σ :=
  match s.elements[index]? with
  | none => s
  | some element =>
    if element.stage = .vacant then
      let values := (Directive.parse raw).map (resolve s.registry s.floor)
      if values.isEmpty then s.placeLiteral index element.cell raw
      else s.placeSchedule index element.cell raw values
    else s

/-- Removes the elements that come after the first ones, where no text is any more. -/
def truncate (s : State σ) (size : Nat) : State σ :=
  if (s.elements.drop size).all (·.stage = .vacant) then
    let s := ((List.range s.elements.length).drop size).foldl
      (fun s index ↦ s.record (.tornDown index)) s
    { s with elements := s.elements.take size }
  else s

/-- Makes a change. A change out of order changes nothing. -/
def change (s : State σ) : Change σ → State σ
  | .append => s.append
  | .supersede index => s.supersede index
  | .vacate index => s.vacate index
  | .place index raw => s.place index raw
  | .truncate size => s.truncate size
  | .exchange registry => { s with registry := registry }

end State

/-! ## Operations -/

inductive Operation (σ : Type) where
  | setTexts (texts : List String)
  | setText (index : Nat) (text : String)
  | pushText (text : String)
  | refresh
  | setRegistry (registry : Registry σ)
  | clear

/-- The end of what is installed at a position. -/
def retirement (index : Nat) : List (Change σ) := [.supersede index, .vacate index]

def installation (index : Nat) (raw : String) : List (Change σ) :=
  retirement index ++ [.place index raw]

/-- The replacements of the texts at the positions from the first one on. -/
def installAll (texts : List String) : List (Change σ) :=
  (texts.mapIdx installation).flatten

/-- The removal of the elements from a position on. -/
def removal (size keep : Nat) : List (Change σ) :=
  ((List.range size).drop keep).flatMap retirement ++ [.truncate keep]

def Operation.changes (s : State σ) : Operation σ → List (Change σ)
  | .setTexts texts =>
    removal s.size texts.length ++ List.replicate (texts.length - s.size) .append ++
      installAll texts
  | .setText index text => if index < s.size then installation index text else []
  | .pushText text => .append :: installation s.size text
  | .refresh => installAll (s.elements.map Element.raw)
  | .setRegistry registry => .exchange registry :: installAll (s.elements.map Element.raw)
  | .clear => removal s.size 0

def Operation.refusal? (s : State σ) : Operation σ → Option Error
  | .setText index _ => if index < s.size then none else some (.elementNotFound index)
  | _ => none

def State.operate (s : State σ) (operation : Operation σ) : State σ :=
  (operation.changes s).foldl State.change s

/-! ## Runs -/

/-- What may happen next. -/
inductive Label (σ : Type) where
  | change (change : Change σ)
  | poll (task : TaskId) (rendering : Rendering)
  | finish (task : TaskId) (rendering : Rendering)
  | complete (task : TaskId)
  | elapse (nanoseconds : Nat)
  /-- Something outside changes the world. -/
  | disturb (change : σ → σ)

/-- Lets something happen. Whatever cannot happen changes nothing. -/
def State.step (s : State σ) : Label σ → State σ
  | .change change => s.change change
  | .poll task rendering => s.poll task rendering
  | .finish task rendering => s.finish task rendering
  | .complete task => s.complete task
  | .elapse nanoseconds => s.elapse nanoseconds
  | .disturb change => s.disturb change

def State.run (s : State σ) (labels : List (Label σ)) : State σ := labels.foldl State.step s

end LiveTemplate.Refresh

import LiveTemplate.Keyed

/-!
# The terminal display

Every text that is shown becomes one line with the number of its element. A text that the display
remembers as the last one of its element is not written again. A text is remembered when its line
has been written and flushed; when either fails, what was remembered before stays.
-/

namespace LiveTemplate.Display

inductive Fault where
  | none
  /-- Nothing is written. -/
  | write
  /-- The line is written, but not flushed. -/
  | flush
  deriving DecidableEq, Repr

/-- A text that is to be shown for an element, and what goes wrong with it. -/
structure Call where
  element : Nat
  text : String
  fault : Fault := .none
  deriving DecidableEq, Repr

def lineOf (element : Nat) (text : String) : String :=
  "[" ++ toString element ++ "] " ++ text ++ "\n"

/-- What a display remembers: the last text of each element. -/
structure Terminal where
  last : Keyed Nat String := []

namespace Terminal

/-- Whether a text is the one that is remembered. -/
def isRepeated (terminal : Terminal) (call : Call) : Bool :=
  terminal.last.get? call.element = some call.text

/-- The line that a call writes, if it writes one. -/
def written? (terminal : Terminal) (call : Call) : Option String :=
  if terminal.isRepeated call || call.fault = .write then none
  else some (lineOf call.element call.text)

def display (terminal : Terminal) (call : Call) : Terminal :=
  if terminal.isRepeated call || call.fault ≠ .none then terminal
  else ⟨terminal.last.put call.element call.text⟩

/-- The lines that calls write one after the other, with none for a call that writes nothing. -/
def displayAll : Terminal → List Call → List (Option String)
  | _, [] => []
  | terminal, call :: rest => terminal.written? call :: displayAll (terminal.display call) rest

end Terminal

end LiveTemplate.Display

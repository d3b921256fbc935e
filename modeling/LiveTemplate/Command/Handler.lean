import LiveTemplate.Command.Outcome
import LiveTemplate.Text.Quoted

/-!
# Handlers and bound commands

A handler carries out a command. It is called with the parameter of a directive, and its outcome may
depend on the world around it, which the call may also change; the world's type is left open. A
bound command is a handler together with a parameter, or the name of a command that does not exist.
-/

namespace LiveTemplate.Command

variable {σ : Type}

/-! ## Handlers -/

/-- A command that directives call by name. -/
structure Handler (σ : Type) where
  /-- The name under which the handler was made. -/
  name : String
  /-- Whether calls run on a worker when a directive does not say. -/
  defaultAsync : Bool
  /-- The outcome of a call, and the world after it. -/
  run : String → σ → Outcome × σ

/-- A handler without a default of its own runs on the directive's own task. -/
def Handler.plain (name : String) (run : String → σ → Outcome × σ) : Handler σ where
  name := name
  defaultAsync := false
  run := run

def Handler.describe (handler : Handler σ) : String :=
  "FnCommand \x7b name: " ++ Text.quoted handler.name ++ ", default_async: " ++
    toString handler.defaultAsync ++ " \x7d"

/-! ## Bound commands -/

/-- What a directive calls. -/
inductive Bound (σ : Type) where
  | call (handler : Handler σ) (param : String)
  | invalid (name : String)

namespace Bound

/-- The name of the handler, or the name as the directive wrote it. -/
def name : Bound σ → String
  | .call handler _ => handler.name
  | .invalid name => name

def isValid : Bound σ → Bool
  | .call _ _ => true
  | .invalid _ => false

/-- The text that an unknown command renders. -/
def invalidText (name : String) : String := "Invalid command: " ++ name

def invoke : Bound σ → σ → Outcome × σ
  | .call handler param, world => handler.run param world
  | .invalid name, world => (.text (invalidText name), world)

def describe : Bound σ → String
  | .call handler param =>
    "Handler \x7b name: " ++ Text.quoted handler.name ++ ", param: " ++ Text.quoted param ++ " \x7d"
  | .invalid name => "Invalid \x7b name: " ++ Text.quoted name ++ " \x7d"

end Bound

end LiveTemplate.Command

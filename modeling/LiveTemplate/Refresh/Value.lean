import LiveTemplate.Command.Registry
import LiveTemplate.Directive.Basic
import LiveTemplate.Duration
import LiveTemplate.Number.Literal
import LiveTemplate.Text.Blank

/-!
# Resolved directives

A directive of a template names a command; resolved against a registry it becomes a value: the
command to call, how often, and where its calls run. An interval that cannot be read as a duration
counts as absent, and one below the floor is raised to it.
-/

namespace LiveTemplate.Refresh

open Command (Bound Registry)

variable {σ : Type}

/-- Where the calls of a command run. -/
inductive Mode where
  /-- On the task of the directive, which does nothing else meanwhile. -/
  | onTask
  /-- On a worker, while the task waits for it. -/
  | onWorker
  deriving DecidableEq, Repr

namespace Mode

def ofAsync (isAsync : Bool) : Mode := if isAsync then .onWorker else .onTask

def isAsync (mode : Mode) : Bool := mode = .onWorker

end Mode

/-- What a directive comes to under a registry. -/
structure Value (σ : Type) where
  command : Bound σ
  /-- The time between two ticks; none for a directive that runs once. -/
  interval : Option Duration
  mode : Mode

def resolveInterval (literal : Option String) (floor : Duration) : Option Duration := do
  let number ← Number.parse? (Text.trim (← literal).toList)
  let duration ← Duration.ofSeconds? number
  return duration.max floor

/-- Resolves a directive. A modifier of its own wins over the command's default mode. -/
def resolve (registry : Registry σ) (floor : Duration) (d : Directive.Descriptor) : Value σ where
  command := registry.bind d.command d.param
  interval := resolveInterval d.interval floor
  mode := .ofAsync (d.isAsync.getD (registry.defaultAsync d.command))

end LiveTemplate.Refresh

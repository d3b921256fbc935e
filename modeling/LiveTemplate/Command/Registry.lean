import LiveTemplate.Command.Handler
import LiveTemplate.Keyed
import LiveTemplate.Text.Lowercase

/-!
# The command registry

A registry maps the lowercase forms of names to handlers, and separately to overrides of the
handlers' default modes. An override belongs to a name, not to a handler: it may precede the handler
and it outlives its replacement.
-/

namespace LiveTemplate.Command

open Text (lowercase)

variable {σ : Type}

/-- The commands that directives can name. -/
structure Registry (σ : Type) where
  handlers : Keyed String (Handler σ)
  overrides : Keyed String Bool

namespace Registry

def empty : Registry σ := ⟨[], []⟩

/-! ## Building -/

/-- Registers a handler, in place of the one with the same lowercase name. -/
def register (registry : Registry σ) (handler : Handler σ) : Registry σ :=
  { registry with handlers := registry.handlers.put (lowercase handler.name) handler }

/-- Overrides the default mode of a name. -/
def setDefaultAsync (registry : Registry σ) (name : String) (isAsync : Bool) : Registry σ :=
  { registry with overrides := registry.overrides.put (lowercase name) isAsync }

/-- Overrides the default modes of several names, one after the other. -/
def setDefaults (registry : Registry σ) (modes : List (String × Bool)) : Registry σ :=
  modes.foldl (fun registry mode ↦ registry.setDefaultAsync mode.1 mode.2) registry

/-! ## Queries -/

def resolve (registry : Registry σ) (name : String) : Except Error (Handler σ) :=
  match registry.handlers.get? (lowercase name) with
  | some handler => .ok handler
  | none => .error (.notFound name)

/-- Whether a directive of this name that does not say otherwise runs on a worker. -/
def defaultAsync (registry : Registry σ) (name : String) : Bool :=
  match registry.overrides.get? (lowercase name) with
  | some isAsync => isAsync
  | none => ((registry.handlers.get? (lowercase name)).map Handler.defaultAsync).getD false

def bind (registry : Registry σ) (name param : String) : Bound σ :=
  match registry.resolve name with
  | .ok handler => .call handler param
  | .error _ => .invalid name

def list (registry : Registry σ) : List String :=
  registry.handlers.keys.mergeSort fun a b ↦ decide (a ≤ b)

def size (registry : Registry σ) : Nat := registry.handlers.length

end Registry

end LiveTemplate.Command

import LiveTemplate.Command.Registry

/-!
# Other outcomes

The commands of a registry may be recast: their calls come to other outcomes, and do to the world
what they did before. What is bound to a name is then the recast command, in the same mode. The
recasting that matters most spells errors and panics out: a call that would fail or panic returns
the diagnostic line as its text.
-/

namespace LiveTemplate.Command

variable {σ : Type}

/-! ## Recasting -/

/-- What the outcomes of the calls of a handler with a parameter are recast to. -/
abbrev Recasting (σ : Type) := Handler σ → String → Outcome → Outcome

def Handler.recast (f : Recasting σ) (handler : Handler σ) : Handler σ :=
  { handler with
    run := fun param world ↦
      (f handler param (handler.run param world).1, (handler.run param world).2) }

def Bound.recast (f : Recasting σ) : Bound σ → Bound σ
  | .call handler param => .call (handler.recast f) param
  | .invalid name => .invalid name

def Registry.recast (f : Recasting σ) (registry : Registry σ) : Registry σ :=
  { registry with handlers := registry.handlers.map fun entry ↦ (entry.1, entry.2.recast f) }

/-- Whether the fragments of a command are the same when it is recast. -/
def Bound.Spared (f : Recasting σ) : Bound σ → Prop
  | .call handler param => ∀ outcome, (f handler param outcome).fragment = outcome.fragment
  | .invalid _ => True

/-- Whether the fragments of all commands are the same when they are recast. -/
def Recasting.SparesAll (f : Recasting σ) : Prop :=
  ∀ handler param outcome, (f handler param outcome).fragment = outcome.fragment

theorem Recasting.SparesAll.spared {f : Recasting σ} (h : f.SparesAll) (command : Bound σ) :
    command.Spared f := by
  cases command with
  | call handler param => exact h handler param
  | invalid name => trivial

section

variable (f : Recasting σ) (command : Bound σ) (registry : Registry σ) (name param : String)
  (world : σ)

/-- A recast call does to the world what the call did. -/
theorem Bound.world_invoke_recast :
    ((command.recast f).invoke world).2 = (command.invoke world).2 := by
  cases command <;> rfl

variable {f command} in
theorem Bound.fragment_invoke_recast (h : command.Spared f) :
    ((command.recast f).invoke world).1.fragment = (command.invoke world).1.fragment := by
  cases command with
  | call handler param => exact h _
  | invalid name => rfl

theorem Registry.get?_handlers_recast :
    (registry.recast f).handlers.get? (Text.lowercase name) =
      (registry.handlers.get? (Text.lowercase name)).map (Handler.recast f) :=
  Keyed.get?_map (Handler.recast f) registry.handlers _

/-- A name is bound to the recast command. -/
theorem Registry.bind_recast :
    (registry.recast f).bind name param = (registry.bind name param).recast f := by
  unfold bind resolve
  rw [get?_handlers_recast]
  cases registry.handlers.get? (Text.lowercase name) <;> rfl

/-- Recasting leaves the modes as they are. -/
theorem Registry.defaultAsync_recast :
    (registry.recast f).defaultAsync name = registry.defaultAsync name := by
  unfold defaultAsync
  rw [get?_handlers_recast, Option.map_map]
  rfl

end

/-! ## Errors and panics as texts -/

/-- A failure as the text that says what has gone wrong. -/
def Outcome.spelledOut : Outcome → Outcome
  | .text answer => .text answer
  | .failure error => .text ("Error executing command: " ++ error.message)
  | .panicked (.literal message) => .text ("Error executing command: " ++ message)
  | .panicked (.text message) => .text ("Error executing command: " ++ message)
  | .panicked .other => .text "Error executing command: handler panicked"

/-- The recasting that spells every failure out. -/
def spelling : Recasting σ := fun _ _ outcome ↦ outcome.spelledOut

/-- A failure that is spelled out is shown as it was. -/
theorem sparesAll_spelling : (spelling : Recasting σ).SparesAll := by
  intro handler param outcome
  unfold spelling
  cases outcome with
  | text answer => rfl
  | failure error => rfl
  | panicked payload => cases payload <;> rfl

end LiveTemplate.Command

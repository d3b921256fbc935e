import LiveTemplate.Host.Failure
import LiveTemplate.Number.Shortest
import LiveTemplate.Refresh.Change

/-!
# Errors of the program

The reasons for which the program fails, with their wording. A number of seconds that is not a
duration is reported together with the name of the argument or setting that holds it, and what is
wrong with a settings file is reported in the words of the decoder.
-/

namespace LiveTemplate.Program

inductive Error where
  /-- The host refuses something, a file mostly. -/
  | host (failure : Host.Failure)
  /-- The settings file is not a settings document. -/
  | malformedSettings (complaint : String)
  | invalidDuration (name : String) (seconds : Number.Binary64)
  /-- There is nothing to show. -/
  | noTemplates
  | refresh (error : Refresh.Error)
  deriving DecidableEq, Repr

def Error.message : Error → String
  | .host failure => "I/O error: " ++ failure.message
  | .malformedSettings complaint => "invalid config: " ++ complaint
  | .invalidDuration name seconds => "invalid " ++ name ++ ": " ++ seconds.text
  | .noTemplates => "no templates given; pass TEMPLATES or --file"
  | .refresh error => "runtime error: " ++ error.message

/-- The duration of a number of seconds that is given under a name. -/
def durationOf (name : String) (seconds : Number.Binary64) : Except Error Duration :=
  match Duration.ofSeconds? seconds with
  | some duration => .ok duration
  | none => .error (.invalidDuration name seconds)

end LiveTemplate.Program

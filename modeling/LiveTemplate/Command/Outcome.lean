import LiveTemplate.Host.Failure

/-!
# Outcomes of command calls

A call of a command returns a text, fails with an error, or panics. Where the call is made a panic is
caught, and a worker hands it on to the one who waits; either way it becomes a fragment: the text
itself, or a line that names the error or the panic. No outcome is anything but text to the one who
renders it.
-/

namespace LiveTemplate.Command

/-! ## Errors -/

inductive Error where
  /-- No command has this name. -/
  | notFound (name : String)
  /-- The program could not be started. -/
  | spawn (program : String) (failure : Host.Failure)
  /-- The pattern is not a date format. -/
  | invalidFormat (pattern : String)
  /-- The command says itself what is wrong. -/
  | failed (message : String)
  deriving DecidableEq, Repr

def Error.message : Error → String
  | .notFound name => "command not found: " ++ name
  | .spawn program failure => "failed to run '" ++ program ++ "': " ++ failure.message
  | .invalidFormat pattern => "invalid format: " ++ pattern
  | .failed message => message

/-! ## Panics -/

/-- What a panicking call leaves behind: a text of the program, a text that the call has put
together, or something that is no text. -/
inductive Payload where
  | literal (message : String)
  | text (message : String)
  | other
  deriving DecidableEq, Repr

def Payload.message : Payload → String
  | .literal message => message
  | .text message => message
  | .other => "handler panicked"

/-! ## Outcomes -/

inductive Outcome where
  | text (answer : String)
  | failure (error : Error)
  | panicked (payload : Payload)
  deriving DecidableEq, Repr

/-- What is learned of a call: what the command says, or the wording of a panic. -/
abbrev Answer := Except String (Except Error String)

/-- What is learned of a call where it is made. A panic is caught there. -/
def Outcome.caught : Outcome → Answer
  | .text answer => .ok (.ok answer)
  | .failure error => .ok (.error error)
  | .panicked payload => .error payload.message

/-- What a worker leaves behind for the one who waits for it. -/
inductive Joined where
  | returned (result : Except Error String)
  | panicked (payload : Payload)
  /-- The call has been given up before it was made. This happens only when the workers themselves
  go away, and the tasks that wait for them have gone away by then. -/
  | givenUp (message : String)

/-- What a worker leaves behind when it has made a call. -/
def Outcome.joined : Outcome → Joined
  | .text answer => .returned (.ok answer)
  | .failure error => .returned (.error error)
  | .panicked payload => .panicked payload

def Joined.answer : Joined → Answer
  | .returned result => .ok result
  | .panicked payload => .error payload.message
  | .givenUp message => .error message

/-! ## Fragments -/

def failureText (message : String) : String := "Error executing command: " ++ message

/-- The fragment that is made of what is learned of a call. -/
def fragmentOf : Answer → String
  | .ok (.ok answer) => answer
  | .ok (.error error) => failureText error.message
  | .error message => failureText message

/-- The fragment that an outcome becomes, wherever the call is made. -/
def Outcome.fragment : Outcome → String
  | .text answer => answer
  | .failure error => failureText error.message
  | .panicked payload => failureText payload.message

@[simp] theorem fragmentOf_caught (outcome : Outcome) :
    fragmentOf outcome.caught = outcome.fragment := by
  cases outcome <;> rfl

@[simp] theorem fragmentOf_joined (outcome : Outcome) :
    fragmentOf outcome.joined.answer = outcome.fragment := by
  cases outcome <;> rfl

end LiveTemplate.Command

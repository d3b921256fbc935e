/-!
# Directives

A directive is an occurrence of `{name(param), modifiers}` in a template: it names a command, gives
it a parameter, and may say how often and in which mode the command runs. The fields of a directive
are its text without the decoration; a descriptor also says where in the template it stands.
-/

namespace LiveTemplate.Directive

/-- What a directive says. -/
structure Fields where
  /-- The command's name as written. -/
  command : List Char
  /-- The parameter as written, with its escapes and parentheses. -/
  param : List Char
  /-- The literal after `interval:`. -/
  interval : Option (List Char)
  /-- The value after `async:`. -/
  isAsync : Option Bool
  deriving DecidableEq, Repr

/-- One directive of a template. -/
structure Descriptor where
  /-- Its position among the directives of the template. -/
  index : Nat
  /-- The offset of its opening brace, in octets. -/
  start : Nat
  /-- The offset behind its closing brace, in octets. -/
  stop : Nat
  command : String
  param : String
  interval : Option String
  isAsync : Option Bool
  deriving DecidableEq, Repr

/-- A piece of a template: a character that stands for itself, or a directive and its source. -/
inductive Segment where
  | literal (c : Char)
  | directive (fields : Fields) (source : List Char)
  deriving DecidableEq, Repr

def Segment.source : Segment → List Char
  | .literal c => [c]
  | .directive _ source => source

def Segment.isDirective : Segment → Bool
  | .literal _ => false
  | .directive _ _ => true

end LiveTemplate.Directive

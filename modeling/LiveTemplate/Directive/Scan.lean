import LiveTemplate.Directive.Pattern
import LiveTemplate.Text.Utf8

/-!
# Scanning a template

A template is scanned once from the left. Where a directive begins, it is taken whole and the scan
goes on behind it; any other character stands for itself. The segments cover the template without
gap or overlap, and everything that is said about the directives of a template, their list, their
number, their presence and the merging of fragments, is read off its segments.
-/

namespace LiveTemplate.Directive

open Text

def segments (text : List Char) : List Segment :=
  match text with
  | [] => []
  | c :: rest =>
    match h : takeDirective (c :: rest) with
    | some (fields, tail) =>
      have : tail.length ≤ rest.length := Nat.le_of_lt_succ (length_lt_of_takeDirective h)
      .directive fields ((c :: rest).take ((c :: rest).length - tail.length)) :: segments tail
    | none => .literal c :: segments rest
termination_by text.length

/-! ## Descriptors -/

/-- The descriptor of a directive with the given fields and place. -/
def Fields.describe (fields : Fields) (index start stop : Nat) : Descriptor where
  index := index
  start := start
  stop := stop
  command := String.ofList fields.command
  param := String.ofList fields.param
  interval := fields.interval.map String.ofList
  isAsync := fields.isAsync

/-- The descriptors of the directives among segments that begin at an offset. -/
def describeFrom (offset index : Nat) : List Segment → List Descriptor
  | [] => []
  | .literal c :: rest => describeFrom (offset + c.utf8Size) index rest
  | .directive fields source :: rest =>
    let stop := offset + octetLength source
    fields.describe index offset stop :: describeFrom stop (index + 1) rest

/-- The directives of a template, in order of appearance. -/
def parse (template : String) : List Descriptor :=
  describeFrom 0 0 (segments template.toList)

def count (template : String) : Nat :=
  ((segments template.toList).filter Segment.isDirective).length

def hasDirectives (template : String) : Bool :=
  (segments template.toList).any Segment.isDirective

end LiveTemplate.Directive

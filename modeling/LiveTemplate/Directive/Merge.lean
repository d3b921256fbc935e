import LiveTemplate.Directive.Scan

/-!
# Merging fragments into a template

Each directive of a template is replaced by the fragment of its own position. A missing fragment
counts as the empty text, surplus fragments are ignored, and what has been put in is not scanned
again.
-/

namespace LiveTemplate.Directive

/-- Segments with fragments in place of the directives. -/
def fill : List Segment → List String → List Char
  | [], _ => []
  | .literal c :: rest, fragments => c :: fill rest fragments
  | .directive _ _ :: rest, [] => fill rest []
  | .directive _ _ :: rest, fragment :: others => fragment.toList ++ fill rest others

/-- A template with fragments in place of its directives. -/
def merge (template : String) (fragments : List String) : String :=
  String.ofList (fill (segments template.toList) fragments)

end LiveTemplate.Directive

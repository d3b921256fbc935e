/-!
# Lines of a text

A line ends at a line feed, and a carriage return directly before it belongs to the terminator. The
last line may lack a terminator; then a carriage return at its end belongs to the line.
-/

namespace LiveTemplate.Text

def lines : List Char → List (List Char)
  | [] => []
  | '\n' :: rest => [] :: lines rest
  | '\r' :: '\n' :: rest => [] :: lines rest
  | c :: rest =>
    match lines rest with
    | [] => [[c]]
    | line :: others => (c :: line) :: others

def linesOf (text : String) : List String := (lines text.toList).map String.ofList

end LiveTemplate.Text

import LiveTemplate.Text.CodeRange

/-!
# Blank characters

The characters with the Unicode property `White_Space`, and trimming. The property is stable: it
has held the same twenty-five characters in every version of the standard since 6.3.
-/

namespace LiveTemplate.Text

/-- The characters with the property `White_Space`. -/
def blankTable : CodeTable :=
  [(0x0009, 0x000D), (0x0020, 0x0020), (0x0085, 0x0085), (0x00A0, 0x00A0), (0x1680, 0x1680),
   (0x2000, 0x200A), (0x2028, 0x2029), (0x202F, 0x202F), (0x205F, 0x205F), (0x3000, 0x3000)]

def isBlank (c : Char) : Bool := blankTable.contains c

def trimEnd (text : List Char) : List Char := (text.reverse.dropWhile isBlank).reverse

def trim (text : List Char) : List Char := trimEnd (text.dropWhile isBlank)

def trimString (text : String) : String := String.ofList (trim text.toList)

def isBlankText (text : String) : Bool := text.toList.all isBlank

end LiveTemplate.Text

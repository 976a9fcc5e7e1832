import EntityGate.Text.Blank

/-!
# Safe identifiers

A name that may go to the store: segments of ASCII letters, digits and underscores parted by
dots, none of them starting with a digit.
-/

namespace EntityGate.Identifier

/-- Whether a segment may start with the character. -/
def isStart (char : Char) : Bool := char.isAlpha || char == '_'

/-- Whether the characters are a segment. -/
def isSegment : List Char → Bool
  | [] => false
  | first :: rest => isStart first && rest.all fun char => isStart char || char.isDigit

/-- Whether the name is a column or a path of segments. -/
def isSafe (name : String) : Bool :=
  (Text.splitChars (· == '.') name.toList).all isSegment

/-- Whether the name is a path into a JSON column. -/
def isDotted (name : String) : Bool := name.toList.contains '.'

/-- The segments of a name between the dots. -/
def segments (name : String) : List String := Text.split (· == '.') name

end EntityGate.Identifier

import EntityGate.Text.Blank
import EntityGate.Text.Digest
import EntityGate.Text.Letter

/-!
# Names derived from an entity type

An entity type such as `App\Models\BlogPost` gives the base name `BlogPost`, the table
`blog_posts` and the title `Blog Post`; a gate whose base name is taken goes by a short digest.
-/

namespace EntityGate.Naming

/-- Whether the character parts the segments of an entity type. -/
def isSegmentSeparator (char : Char) : Bool :=
  char == '\\' || char == ':' || char == '.' || char == '/'

/-- The last segment of an entity type that is not empty; the whole text when there is none. -/
def baseName (entity : String) : String :=
  let segments := Text.splitChars isSegmentSeparator entity.toList
  match segments.reverse.find? fun segment => !segment.isEmpty with
  | some segment => String.ofList segment
  | none => entity

/-- Snake case from one character on, knowing whether the one before was a lower-case letter or a
digit. -/
def snakeChars : Bool → List Char → List Char
  | _, [] => []
  | afterLower, char :: rest =>
    if Text.isUppercase char then
      (if afterLower then ['_'] else []) ++ Text.lowerChar char ++ snakeChars false rest
    else if char = '-' ∨ char = ' ' then '_' :: snakeChars false rest
    else char :: snakeChars (Text.isLowercase char || char.isDigit) rest

/-- Snake case: an upper-case letter after a lower-case one or a digit starts a new word. -/
def snakeCase (text : String) : String := String.ofList (snakeChars false text.toList)

/-- The English plural by the common endings; a word ending in a single s stays. -/
def pluralChars (word : List Char) : List Char :=
  match (word.flatMap Text.lowerChar).reverse with
  | 's' :: 's' :: _ => word ++ ['e', 's']
  | 's' :: _ => word
  | 'x' :: _ | 'z' :: _ | 'h' :: 'c' :: _ | 'h' :: 's' :: _ => word ++ ['e', 's']
  | _ =>
    match word.reverse with
    | 'y' :: before :: stem =>
      if "aeiouAEIOU".toList.contains before then word ++ ['s']
      else (before :: stem).reverse ++ ['i', 'e', 's']
    | _ => word ++ ['s']

/-- The English plural by the common endings. -/
def pluralize (word : String) : String := String.ofList (pluralChars word.toList)

/-- A word with its first character in upper case. -/
def capitalizeChars : List Char → List Char
  | [] => []
  | first :: rest => Text.upperChar first ++ rest

/-- The capitalised words of a text in snake case. -/
def titleWords (text : String) : List (List Char) :=
  ((Text.splitChars (· == '_') (snakeChars false text.toList)).filter
    fun word => !word.isEmpty).map capitalizeChars

/-- The words of a text capitalised and parted by blanks. -/
def titleCase (text : String) : String :=
  String.ofList ((titleWords text).intersperse [' ']).flatten

/-- The table of an entity type: the plural of its base name in snake case. -/
def defaultTable (entity : String) : String := pluralize (snakeCase (baseName entity))

/-- Whether the character is an ASCII letter or digit. -/
def isAsciiAlphanumeric (char : Char) : Bool := char.isAlphanum

/-- The text without everything but ASCII letters and digits. -/
def stripNonAlphanumeric (text : String) : String :=
  String.ofList (text.toList.filter isAsciiAlphanumeric)

/-- The first eight digits of the text's digest. -/
def shortHash (text : String) : String :=
  String.ofList ((Digest.sha256Hex text).toList.take 8)

end EntityGate.Naming

/-!
# White space and cutting of text

Texts are cut as lists of characters. Trimming removes white space in the sense of the Unicode
property of that name from both ends.
-/

namespace EntityGate.Text

/-- Whether the character is white space. -/
def isBlank (char : Char) : Bool :=
  let code := char.toNat
  (9 ≤ code && code ≤ 13) || code == 0x20 || code == 0x85 || code == 0xA0 || code == 0x1680 ||
    (0x2000 ≤ code && code ≤ 0x200A) || code == 0x2028 || code == 0x2029 || code == 0x202F ||
    code == 0x205F || code == 0x3000

/-- Removes the characters of a class from the end. -/
def dropEndWhile (inClass : Char → Bool) (chars : List Char) : List Char :=
  (chars.reverse.dropWhile inClass).reverse

/-- Removes the characters of a class from both ends. -/
def stripWhile (inClass : Char → Bool) (chars : List Char) : List Char :=
  dropEndWhile inClass (chars.dropWhile inClass)

/-- Removes white space from both ends. -/
def trimChars (chars : List Char) : List Char := stripWhile isBlank chars

/-- Removes white space from both ends. -/
def trim (text : String) : String := String.ofList (trimChars text.toList)

/-- The text without white space around it, if anything is left. -/
def nonBlank? (text : String) : Option String :=
  let trimmed := trim text
  if trimmed.isEmpty then none else some trimmed

/-- Whether nothing but white space is there. -/
def isBlankText (text : String) : Bool := text.toList.all isBlank

/-- The pieces between the separators, of which there is always at least one. -/
def splitChars (isSeparator : Char → Bool) : List Char → List (List Char)
  | [] => [[]]
  | char :: rest =>
    if isSeparator char then [] :: splitChars isSeparator rest
    else match splitChars isSeparator rest with
      | piece :: pieces => (char :: piece) :: pieces
      | [] => [[char]]

/-- The pieces of a text between the separators. -/
def split (isSeparator : Char → Bool) (text : String) : List String :=
  (splitChars isSeparator text.toList).map String.ofList

/-- The parts before and after the first occurrence of a character. -/
def cutChars? (separator : Char) : List Char → Option (List Char × List Char)
  | [] => none
  | char :: rest =>
    if char = separator then some ([], rest)
    else (cutChars? separator rest).map fun parts => (char :: parts.1, parts.2)

/-- The parts of a text before and after the first occurrence of a character. -/
def cut? (separator : Char) (text : String) : Option (String × String) :=
  (cutChars? separator text.toList).map fun parts => (String.ofList parts.1, String.ofList parts.2)

/-- The parts before and after the last occurrence of a character. -/
def cutLastChars? (separator : Char) (chars : List Char) : Option (List Char × List Char) :=
  (cutChars? separator chars.reverse).map fun parts => (parts.2.reverse, parts.1.reverse)

/-- What follows a given beginning. -/
def afterStart? : List Char → List Char → Option (List Char)
  | [], chars => some chars
  | _ :: _, [] => none
  | wanted :: start, char :: chars => if wanted = char then afterStart? start chars else none

/-- Whether the text starts with the given beginning. -/
def startsWith (start : String) (text : String) : Bool :=
  (afterStart? start.toList text.toList).isSome

/-- The lower-case form of the letters A to Z; other characters stay. -/
def lowerAscii (text : String) : String := String.ofList (text.toList.map Char.toLower)

/-- The upper-case form of the letters a to z; other characters stay. -/
def upperAscii (text : String) : String := String.ofList (text.toList.map Char.toUpper)

/-- Texts joined by a separator. -/
def join (separator : String) (texts : List String) : String :=
  String.ofList ((texts.map String.toList).intersperse separator.toList).flatten

end EntityGate.Text

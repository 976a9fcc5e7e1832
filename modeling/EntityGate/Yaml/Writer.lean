import EntityGate.Json.Printer
import EntityGate.Text.Blank
import EntityGate.Yaml.Scalar

/-!
# Writing YAML

A JSON value in block style: a mapping line by line, a sequence with dashes at the indentation of
the key above it, empty containers in flow style. A text is written plain where it then reads as
the same text, else between single quotes, else between double quotes; a text of several lines is
written literally. A node is a list of lines; what contains it adds its marks and indentation.
-/

namespace EntityGate.Yaml

/-- A double is written as in JSON, but without a sign before a positive exponent. -/
def doubleFormat : DoubleFormat :=
  { lowestPositional := -5, highestPositional := 15, signedExponent := false }

/-! ## Texts -/

/-- Whether the character ends a line. -/
def isBreak (char : Char) : Bool :=
  char == '\n' || char == '\r' || char == '\u0085' || char == '\u2028' || char == '\u2029'

/-- Whether the character parts words. -/
def isGap (char : Char) : Bool := char == ' ' || char == '\t' || isBreak char || char == '\x00'

/-- Whether the character may stand as it is. -/
def isPrintable (char : Char) : Bool :=
  let code := char.toNat
  code == 0x0A || (0x20 ≤ code && code ≤ 0x7E) || (0xA0 ≤ code && code ≤ 0xD7FF) ||
    (0xE000 ≤ code && code ≤ 0xFFFD && code != 0xFEFF) || 0x10000 ≤ code

/-- Whether what follows starts with a gap or nothing follows. -/
def gapFollows : List Char → Bool
  | [] => true
  | char :: _ => isGap char

/-- Characters that mean something at the start of a scalar. -/
def startIndicators : List Char := "#,[]\x7b\x7d&*!|>'\"%@`".toList

/-- Whether the characters after the first hold a mark of a mapping or of a comment. -/
def holdsIndicator : Char → List Char → Bool
  | _, [] => false
  | before, char :: rest =>
    (char == ':' && gapFollows rest) || (char == '#' && isGap before) || holdsIndicator char rest

/-- Whether the characters would be taken for something else than a plain scalar. -/
def hasIndicator : List Char → Bool
  | [] => false
  | first :: rest =>
    startIndicators.contains first ||
      ((first == '?' || first == ':' || first == '-') && gapFollows rest) ||
      holdsIndicator first rest ||
      (Text.afterStart? ['-', '-', '-'] (first :: rest)).isSome ||
      (Text.afterStart? ['.', '.', '.'] (first :: rest)).isSome

/-- Whether somewhere a character of the first class comes right before one of the second. -/
def hasPair (first second : Char → Bool) : List Char → Bool
  | left :: right :: rest => (first left && second right) || hasPair first second (right :: rest)
  | _ => false

/-- Whether the character is the blank. -/
def isSpace (char : Char) : Bool := char == ' '

/-- Whether an end of the text is a blank or a line break. -/
def hasLooseEnd (chars : List Char) : Bool :=
  let loose (char : Option Char) : Bool := char.any fun known => isSpace known || isBreak known
  loose chars.head? || loose chars.getLast?

/-- Whether blanks stand before line breaks or characters need an escape. -/
def needsEscapes (chars : List Char) : Bool :=
  hasPair isSpace isBreak chars || chars.any fun char => !isPrintable char

/-- Whether the text may be written without quotes. -/
def plainAllowed (chars : List Char) : Bool :=
  !hasLooseEnd chars && !needsEscapes chars && !chars.any isBreak && !hasIndicator chars

/-- Whether the text may be written between single quotes. -/
def singleAllowed (chars : List Char) : Bool :=
  !hasPair isBreak isSpace chars && !needsEscapes chars

/-- Whether the text may be written literally. -/
def literalAllowed (chars : List Char) : Bool :=
  !chars.isEmpty && !chars.getLast?.any isSpace && !needsEscapes chars

/-- The words that were truth values once. -/
def formerTruthWords : List String :=
  ["y", "Y", "yes", "Yes", "YES", "n", "N", "no", "No", "NO", "true", "True", "TRUE", "false",
    "False", "FALSE", "on", "On", "ON", "off", "Off", "OFF"]

/-- Whether the text would be read as something else without quotes. -/
def readsOtherwise (text : String) : Bool :=
  formerTruthWords.contains text || (toJson text).text? != some text ||
    isZeroLed (unsignedPart text.toList)

/-- A digit of the hexadecimal notation in upper case. -/
def upperHexDigit (value : Nat) : Char :=
  if value < 10 then Char.ofNat (48 + value) else Char.ofNat (55 + value)

/-- The given number of hexadecimal digits of a number. -/
def upperHex : Nat → Nat → List Char
  | 0, _ => []
  | width + 1, value => upperHex width (value / 16) ++ [upperHexDigit (value % 16)]

/-- The letter that stands for a character after a backslash. -/
def escapeLetter? (char : Char) : Option Char :=
  [('\x00', '0'), ('\x07', 'a'), ('\x08', 'b'), ('\t', 't'), ('\n', 'n'), ('\x0b', 'v'),
    ('\x0c', 'f'), ('\r', 'r'), ('\x1b', 'e'), ('"', '"'), ('\\', '\\'), ('\u0085', 'N'),
    ('\u2028', 'L'), ('\u2029', 'P')].lookup char

/-- A character between double quotes. -/
def escapeChar (char : Char) : List Char :=
  match escapeLetter? char with
  | some letter => ['\\', letter]
  | none =>
    if isPrintable char then [char]
    else if char.toNat ≤ 0xFF then '\\' :: 'x' :: upperHex 2 char.toNat
    else '\\' :: 'u' :: upperHex 4 char.toNat

/-- A text between double quotes. -/
def doubleQuoted (chars : List Char) : List Char := '"' :: (chars.flatMap escapeChar ++ ['"'])

/-- A text between single quotes, in which a quote is written twice. -/
def singleQuoted (chars : List Char) : List Char :=
  '\'' :: (chars.flatMap (fun char => if char == '\'' then ['\'', '\''] else [char]) ++ ['\''])

/-- A text between quotes. -/
def quoted (chars : List Char) : List Char :=
  if singleAllowed chars then singleQuoted chars else doubleQuoted chars

/-- What the head of a literal text says about its end: whether the last line break belongs to the
text, and whether others do. -/
def endMark (chars : List Char) : List Char :=
  match chars.reverse with
  | last :: before =>
    if !isBreak last then ['-']
    else if before.isEmpty || before.head?.any isBreak then ['+']
    else []
  | [] => ['-']

/-- The head of a literal text: the indentation is given where the text starts with a gap. -/
def literalHead (chars : List Char) : List Char :=
  '|' :: ((if chars.head?.any fun char => isSpace char || isBreak char then ['2'] else []) ++
    endMark chars)

/-- A line moved in by two blanks; an empty line stays empty. -/
def indent (line : List Char) : List Char := if line.isEmpty then [] else ' ' :: ' ' :: line

/-- The lines of a literal text. -/
def literalLines (chars : List Char) : List (List Char) :=
  let pieces := Text.splitChars (· == '\n') chars
  let kept := if pieces.getLast? = some [] then pieces.dropLast else pieces
  literalHead chars :: kept.map indent

/-- The lines of a text; those after the first are moved in. -/
def textLines (text : String) : List (List Char) :=
  let chars := text.toList
  if formerTruthWords.contains text then [singleQuoted chars]
  else if chars.contains '\n' then
    if literalAllowed chars then literalLines chars else [doubleQuoted chars]
  else if readsOtherwise text || !plainAllowed chars then [quoted chars]
  else [chars]

/-! ## Values -/

/-- Whether the value is written over several lines. -/
def isBlock : Json → Bool
  | .array (_ :: _) => true
  | .object (_ :: _) => true
  | _ => false

/-- Whether a key may stand before its colon without a mark of its own. -/
def isSimpleKey (key : String) : Bool := key.utf8ByteSize ≤ 128 && !key.toList.any isBreak

/-- Lines after a mark of two characters; the lines of a block after the first are moved in. -/
def hang (mark : List Char) (block : Bool) : List (List Char) → List (List Char)
  | [] => []
  | first :: rest => (mark ++ first) :: (if block then rest.map indent else rest)

/-- The lines of a field from those of its value. -/
def entryLines (key : String) (value : Json) (lines : List (List Char)) : List (List Char) :=
  if isSimpleKey key then
    let name := (textLines key).flatten
    match value with
    | .object (_ :: _) => (name ++ [':']) :: lines.map indent
    | .array (_ :: _) => (name ++ [':']) :: lines
    | _ => hang (name ++ [':', ' ']) false lines
  else
    hang ['?', ' '] false (textLines key) ++ hang [':', ' '] (isBlock value) lines

mutual

/-- The lines of a value. -/
def lines : Json → List (List Char)
  | .null => ["null".toList]
  | .bool value => [(if value then "true" else "false").toList]
  | .number (.int value) => [(JsonNumber.int value).chars]
  | .number (.double value) => [doubleFormat.write value]
  | .string text => textLines text
  | .array [] => [['[', ']']]
  | .array (item :: items) => itemLines (item :: items)
  | .object [] => [['\x7b', '\x7d']]
  | .object (field :: fields) => fieldLines (field :: fields)

/-- The lines of the items of a sequence. -/
def itemLines : List Json → List (List Char)
  | [] => []
  | item :: items => hang ['-', ' '] (isBlock item) (lines item) ++ itemLines items

/-- The lines of the fields of a mapping. -/
def fieldLines : List (String × Json) → List (List Char)
  | [] => []
  | (key, value) :: fields => entryLines key value (lines value) ++ fieldLines fields

end

/-- The text of a value. -/
def write (json : Json) : String :=
  String.ofList ((lines json).flatMap fun line => line ++ ['\n'])

end EntityGate.Yaml

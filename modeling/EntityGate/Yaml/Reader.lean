import EntityGate.Config.Node
import EntityGate.Text.Blank

/-!
# Reading YAML

The YAML of configuration files: block mappings and sequences, plain and quoted scalars, and flow
collections, with comments. A text is cut into lines with their indentation; the structure follows
from the indentation and from the marks at the start of a line. Anchors, tags and block scalars
are not part of it.
-/

namespace EntityGate.Yaml

/-- A line that is not blank: its indentation and what stands after it. -/
structure Line where
  indent : Nat
  content : List Char
  deriving DecidableEq, Repr, Inhabited

/-! ## Lines -/

/-- Whether a quote after this character opens a quoted scalar. -/
def opensQuote (before : Char) : Bool := [' ', '\t', '[', '\x7b', ','].contains before

/-- The line up to a comment; the quote that is open, if one is, and the character before are
given. -/
def cutComment : Option Char → Char → List Char → List Char
  | _, _, [] => []
  | some quote, _, '\\' :: char :: rest =>
    if quote == '"' then '\\' :: char :: cutComment (some quote) char rest
    else '\\' :: cutComment (some quote) '\\' (char :: rest)
  | some quote, _, char :: rest =>
    char :: cutComment (if char == quote then none else some quote) char rest
  | none, before, char :: rest =>
    if char == '#' && (before == ' ' || before == '\t') then []
    else if (char == '"' || char == '\'') && opensQuote before then
      char :: cutComment (some char) char rest
    else char :: cutComment none char rest

/-- The line of its characters, if anything but blanks and a comment is on it. -/
def lineOf? (chars : List Char) : Option Line :=
  let content := Text.dropEndWhile isBlankChar (cutComment none ' ' chars)
  let body := content.dropWhile (· == ' ')
  if body.isEmpty then none else some ⟨content.length - body.length, body⟩
where
  /-- Whether the character is a blank or a tab, or ends a line. -/
  isBlankChar (char : Char) : Bool := char == ' ' || char == '\t' || char == '\r'

/-- How many flow collections are open after the characters. -/
def openAfter : Option Char → Nat → List Char → Nat
  | _, depth, [] => depth
  | some quote, depth, '\\' :: char :: rest =>
    if quote == '"' then openAfter (some quote) depth rest
    else openAfter (some quote) depth (char :: rest)
  | some quote, depth, char :: rest =>
    openAfter (if char == quote then none else some quote) depth rest
  | none, depth, char :: rest =>
    if char == '"' || (char == '\'' && depth != 0) then openAfter (some char) depth rest
    else if char == '[' || char == '\x7b' then openAfter none (depth + 1) rest
    else if char == ']' || char == '\x7d' then openAfter none (depth - 1) rest
    else openAfter none depth rest

/-- Joins the lines over which a flow collection stretches. -/
def joinFlow : List Line → List Line
  | [] => []
  | line :: rest =>
    match joinFlow rest with
    | next :: others =>
      if openAfter none 0 line.content = 0 then line :: next :: others
      else ⟨line.indent, line.content ++ ' ' :: next.content⟩ :: others
    | [] => [line]

/-- The lines of a text, without the mark that may start a document. -/
def linesOf (text : String) : List Line :=
  let lines := joinFlow ((Text.splitChars (· == '\n') text.toList).filterMap lineOf?)
  match lines with
  | ⟨0, ['-', '-', '-']⟩ :: rest => rest
  | _ => lines

/-! ## Scalars and flow collections -/

/-- Drops blanks. -/
def skipBlanks (chars : List Char) : List Char := chars.dropWhile fun char => char == ' ' ||
  char == '\t'

/-- The character that an escape of a few hexadecimal digits writes, and what follows. -/
def hexEscape? (width : Nat) (chars : List Char) : Option (Char × List Char) := do
  let code ← digits? 16 (chars.take width)
  if (chars.take width).length < width then none
  else if h : code.isValidChar then some (Char.ofNatAux code h, chars.drop width)
  else none

/-- The characters that follow a backslash and what they stand for. -/
def letterEscapes : List (Char × Char) :=
  [('0', '\x00'), ('a', '\x07'), ('b', '\x08'), ('t', '\t'), ('\t', '\t'), ('n', '\n'),
    ('v', '\x0b'), ('f', '\x0c'), ('r', '\r'), ('e', '\x1b'), (' ', ' '), ('"', '"'), ('/', '/'),
    ('\\', '\\'), ('N', '\u0085'), ('_', '\u00a0'), ('L', '\u2028'), ('P', '\u2029')]

/-- The text up to the closing double quote, and what follows; the collected characters come in
reverse. -/
def doubleQuotedText : Nat → List Char → List Char → Option (List Char × List Char)
  | 0, _, _ => none
  | _, collected, '"' :: rest => some (collected.reverse, rest)
  | fuel + 1, collected, '\\' :: mark :: rest =>
    let escape := match mark with
      | 'x' => hexEscape? 2 rest
      | 'u' => hexEscape? 4 rest
      | 'U' => hexEscape? 8 rest
      | letter => (letterEscapes.lookup letter).map fun char => (char, rest)
    match escape with
    | some (char, after) => doubleQuotedText fuel (char :: collected) after
    | none => none
  | fuel + 1, collected, char :: rest => doubleQuotedText fuel (char :: collected) rest
  | _, _, [] => none

/-- The text up to the closing single quote, and what follows. -/
def singleQuotedText : List Char → Option (List Char × List Char)
  | [] => none
  | '\'' :: '\'' :: rest => (singleQuotedText rest).map fun parts => ('\'' :: parts.1, parts.2)
  | '\'' :: rest => some ([], rest)
  | char :: rest => (singleQuotedText rest).map fun parts => (char :: parts.1, parts.2)

/-- A quoted scalar at the start of the characters, and what follows. -/
def quotedScalar? : List Char → Option (String × List Char)
  | '"' :: rest =>
    (doubleQuotedText (rest.length + 1) [] rest).map fun parts =>
      (String.ofList parts.1, parts.2)
  | '\'' :: rest => (singleQuotedText rest).map fun parts => (String.ofList parts.1, parts.2)
  | _ => none

/-- Whether what follows a colon makes it the mark of a mapping. -/
def endsKey : List Char → Bool
  | [] => true
  | char :: _ => char == ' ' || char == '\t'

/-- Whether a plain scalar may start with these characters. -/
def startsPlain : List Char → Bool
  | [] => false
  | first :: rest =>
    if first == '-' || first == '?' || first == ':' then !endsKey rest
    else !("#,[]&*!|>'\"%@`".toList.contains first || first == '\x7b' || first == '\x7d')

/-- Whether the character ends a plain scalar inside a flow collection. -/
def isFlowMark (char : Char) : Bool :=
  char == ',' || char == '[' || char == ']' || char == '\x7b' || char == '\x7d'

/-- The plain scalar at the start of the characters inside a flow collection, and what follows. -/
def flowPlain : List Char → List Char × List Char
  | [] => ([], [])
  | char :: rest =>
    if isFlowMark char || (char == ':' && (endsKey rest || rest.head?.any isFlowMark)) then
      ([], char :: rest)
    else
      let (scalar, after) := flowPlain rest
      (char :: scalar, after)

/-- A scalar inside a flow collection, and what follows. -/
def flowScalar? (chars : List Char) : Option (Node × List Char) :=
  match quotedScalar? chars with
  | some (text, rest) => some (.text text, rest)
  | none =>
    if startsPlain chars then
      let (scalar, rest) := flowPlain chars
      some (.plain (Text.trim (String.ofList scalar)), rest)
    else none

mutual

/-- A node inside a flow collection, and what follows. -/
def flowNode : Nat → List Char → Option (Node × List Char)
  | 0, _ => none
  | fuel + 1, chars =>
    match skipBlanks chars with
    | '[' :: rest => flowItems fuel [] (skipBlanks rest)
    | '\x7b' :: rest => flowFields fuel [] (skipBlanks rest)
    | start => flowScalar? start

/-- The items of a flow sequence up to its end; the collected ones come in reverse. -/
def flowItems : Nat → List Node → List Char → Option (Node × List Char)
  | 0, _, _ => none
  | _, collected, ']' :: rest => some (.list collected.reverse, rest)
  | fuel + 1, collected, chars => do
    let (item, after) ← flowNode fuel chars
    match skipBlanks after with
    | ',' :: rest => flowItems fuel (item :: collected) (skipBlanks rest)
    | ']' :: rest => some (.list (item :: collected).reverse, rest)
    | _ => none

/-- The fields of a flow mapping up to its end; the collected ones come in reverse. -/
def flowFields : Nat → List (String × Node) → List Char → Option (Node × List Char)
  | 0, _, _ => none
  | _, collected, '\x7d' :: rest => some (.record collected.reverse, rest)
  | fuel + 1, collected, chars => do
    let (keyNode, afterKey) ← flowScalar? chars
    let key ← keyNode.text?
    let (value, after) ← match skipBlanks afterKey with
      | ':' :: rest =>
        match skipBlanks rest with
        | ',' :: more => some (.plain "", ',' :: more)
        | '\x7d' :: more => some (.plain "", '\x7d' :: more)
        | start => flowNode fuel start
      | rest => some (.plain "", rest)
    match skipBlanks after with
    | ',' :: rest => flowFields fuel ((key, value) :: collected) (skipBlanks rest)
    | '\x7d' :: rest => some (.record ((key, value) :: collected).reverse, rest)
    | _ => none

end

/-- Whether the characters hold the mark of a mapping, which a plain scalar cannot. -/
def holdsKeyMark : List Char → Bool
  | [] => false
  | char :: rest => (char == ':' && endsKey rest) || holdsKeyMark rest

/-- The node that the rest of a line writes. -/
def inlineNode? (content : List Char) : Option Node :=
  match content with
  | '[' :: _ | '\x7b' :: _ | '"' :: _ | '\'' :: _ => do
    let (node, rest) ← flowNode (2 * content.length + 2) content
    if (skipBlanks rest).isEmpty then some node else none
  | _ =>
    if startsPlain content && !holdsKeyMark content then some (.plain (String.ofList content))
    else none

/-! ## Blocks -/

/-- The plain key at the start of a line, and what follows its colon. -/
def plainKey? : List Char → Option (List Char × List Char)
  | [] => none
  | char :: rest =>
    if char == ':' && endsKey rest then some ([], rest)
    else (plainKey? rest).map fun parts => (char :: parts.1, parts.2)

/-- The key at the start of a line, and what follows its colon. -/
def keyOf? (content : List Char) : Option (String × List Char) :=
  match quotedScalar? content with
  | some (key, rest) =>
    match skipBlanks rest with
    | ':' :: after => if endsKey after then some (key, skipBlanks after) else none
    | _ => none
  | none =>
    if startsPlain content then
      (plainKey? content).map fun parts =>
        (Text.trim (String.ofList parts.1), skipBlanks parts.2)
    else none

/-- What follows the dash of a sequence item. -/
def afterDash? : List Char → Option (List Char)
  | '-' :: rest => if endsKey rest then some rest else none
  | _ => none

/-- Whether a line after a key at an indentation belongs to its value: a deeper line does, and so
does a sequence at the same indentation. -/
def startsValue (indent : Nat) (line : Line) : Bool :=
  indent < line.indent || (indent == line.indent && (afterDash? line.content).isSome)

mutual

/-- The node that starts on the first line, and the lines after it. -/
def blockNode : Nat → List Line → Option (Node × List Line)
  | 0, _ => none
  | _, [] => none
  | fuel + 1, line :: rest =>
    if (afterDash? line.content).isSome then blockItems fuel line.indent [] (line :: rest)
    else if (keyOf? line.content).isSome then blockFields fuel line.indent [] (line :: rest)
    else (inlineNode? line.content).map fun node => (node, rest)

/-- The items of a block sequence at an indentation; the collected ones come in reverse. -/
def blockItems : Nat → Nat → List Node → List Line → Option (Node × List Line)
  | 0, _, _, _ => none
  | _, _, collected, [] => some (.list collected.reverse, [])
  | fuel + 1, indent, collected, line :: rest =>
    if line.indent < indent then some (.list collected.reverse, line :: rest)
    else if indent < line.indent then none
    else
      match afterDash? line.content with
      | none => some (.list collected.reverse, line :: rest)
      | some after =>
        let body := skipBlanks after
        let nested :=
          if !body.isEmpty then
            blockNode fuel (⟨indent + (line.content.length - body.length), body⟩ :: rest)
          else if rest.head?.any fun next => indent < next.indent then blockNode fuel rest
          else some (.plain "", rest)
        match nested with
        | some (item, others) => blockItems fuel indent (item :: collected) others
        | none => none

/-- The fields of a block mapping at an indentation; the collected ones come in reverse. -/
def blockFields : Nat → Nat → List (String × Node) → List Line → Option (Node × List Line)
  | 0, _, _, _ => none
  | _, _, collected, [] => some (.record collected.reverse, [])
  | fuel + 1, indent, collected, line :: rest =>
    if line.indent < indent then some (.record collected.reverse, line :: rest)
    else if indent < line.indent then none
    else
      match keyOf? line.content with
      | none => none
      | some (key, body) =>
        let nested :=
          if !body.isEmpty then (inlineNode? body).map fun node => (node, rest)
          else if rest.head?.any (startsValue indent) then blockNode fuel rest
          else some (.plain "", rest)
        match nested with
        | some (value, others) => blockFields fuel indent ((key, value) :: collected) others
        | none => none

end

/-- The node that a text writes; an empty text writes an empty scalar. -/
def read? (text : String) : Option Node :=
  match linesOf text with
  | [] => some (.plain "")
  | lines => do
    let fuel := 4 * (lines.length + lines.foldl (fun sum line => sum + line.content.length) 0) + 4
    let (node, rest) ← blockNode fuel lines
    if rest.isEmpty then some node else none

end EntityGate.Yaml

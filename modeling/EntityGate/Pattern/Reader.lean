import EntityGate.Pattern.Basic
import EntityGate.Text.Percent

/-!
# Reading patterns

The notation of patterns: alternatives, repetition, groups with names and flags, character
classes with set operations, escapes and anchors. There is no look-around and no reference back
to a group; whatever is not in the notation makes the whole pattern unreadable, as does a pattern
that would become too large.
-/

namespace EntityGate.Pattern

/-- What the flags in force say. -/
structure Flags where
  anyCase : Bool := false
  multiLine : Bool := false
  dotMatchesLineBreak : Bool := false
  swapGreed : Bool := false
  unicode : Bool := true
  spaced : Bool := false
  carriageReturn : Bool := false
  deriving Repr, Inhabited

/-- One flag set or cleared. -/
def Flags.set (flags : Flags) (value : Bool) : Char → Option Flags
  | 'i' => some { flags with anyCase := value }
  | 'm' => some { flags with multiLine := value }
  | 's' => some { flags with dotMatchesLineBreak := value }
  | 'U' => some { flags with swapGreed := value }
  | 'u' => some { flags with unicode := value }
  | 'x' => some { flags with spaced := value }
  | 'R' => some { flags with carriageReturn := value }
  | _ => none

/-- Skips blanks and comments where the flags say that they mean nothing. -/
def skipIgnored (flags : Flags) (chars : List Char) : List Char :=
  if flags.spaced then go chars.length chars else chars
where
  /-- Skips with one unit of fuel for each blank and each comment. -/
  go : Nat → List Char → List Char
    | 0, chars => chars
    | fuel + 1, '#' :: rest => go fuel ((rest.dropWhile (· != '\n')).drop 1)
    | fuel + 1, char :: rest => if Text.isBlank char then go fuel rest else char :: rest
    | _ + 1, [] => []

/-- A set with the case ignored where the flags say so. -/
def Flags.fold (flags : Flags) (set : CharSet) : CharSet :=
  if flags.anyCase then .anyCase set else set

/-- A number of hexadecimal digits as a character. -/
def charOfHex? (digits : List Char) : Option Char := do
  let values ← digits.mapM Text.hexDigitValue?
  let code := values.foldl (fun sum digit => min 0x110000 (16 * sum + digit)) 0
  if code < 0xD800 ∨ (0xE000 ≤ code ∧ code < 0x110000) then some (Char.ofNat code) else none

/-- The character written by a fixed number of hexadecimal digits or by digits in braces. -/
def readHexEscape (width : Nat) (chars : List Char) : Option (Char × List Char) :=
  match chars with
  | '{' :: rest =>
    match Text.cutChars? '}' rest with
    | some (digits, after) =>
      if digits.isEmpty then none else (charOfHex? digits).map fun char => (char, after)
    | none => none
  | _ =>
    if chars.length < width then none
    else (charOfHex? (chars.take width)).map fun char => (char, chars.drop width)

/-- The name of a property without what does not distinguish names. -/
def propertyName (chars : List Char) : String :=
  let plain := (chars.filter fun char => char != ' ' && char != '-' && char != '_').map Char.toLower
  String.ofList plain

/-- The set named after `\p` or `\P`. -/
def readProperty (negated : Bool) (flags : Flags) (chars : List Char) :
    Option (CharSet × List Char) := do
  if !flags.unicode then none
  else
    let (name, rest) ← match chars with
      | '{' :: tail => Text.cutChars? '}' tail
      | char :: tail => some ([char], tail)
      | [] => none
    let (inverted, plain) := match name with
      | '^' :: tail => (true, tail)
      | _ => (false, name)
    let value := match Text.cutChars? '=' plain with
      | some (kind, value) =>
        if propertyName kind ∈ ["gc", "generalcategory"] then propertyName value else ""
      | none => propertyName plain
    let set ← CharSet.property? value
    let folded := flags.fold set
    some (if negated != inverted then .complement folded else folded, rest)

/-- What an escape stands for. -/
inductive Escape where
  | char (char : Char)
  | set (set : CharSet)
  | anchor (anchor : Anchor)

/-- Whether the character may be escaped to stand for itself. -/
def isEscapable (char : Char) : Bool :=
  decide (char.toNat < 0x80) && !char.isAlphanum && char != '<' && char != '>'

/-- The kind of word boundary named in braces after `\b`, if one is. -/
def readBoundary (flags : Flags) (chars : List Char) : Option (Anchor × List Char) :=
  match chars with
  | '{' :: rest =>
    match Text.cutChars? '}' rest with
    | some (name, after) =>
      match String.ofList name with
      | "start" => some (.wordStart flags.unicode, after)
      | "end" => some (.wordEnd flags.unicode, after)
      | "start-half" => some (.wordStartHalf flags.unicode, after)
      | "end-half" => some (.wordEndHalf flags.unicode, after)
      | _ => none
    | none => none
  | _ => some (.wordBoundary flags.unicode, chars)

/-- Reads what follows a backslash. -/
def readEscape (flags : Flags) : List Char → Option (Escape × List Char)
  | [] => none
  | char :: rest =>
    match char with
    | 'x' => (readHexEscape 2 rest).map fun read => (.char read.1, read.2)
    | 'u' => (readHexEscape 4 rest).map fun read => (.char read.1, read.2)
    | 'U' => (readHexEscape 8 rest).map fun read => (.char read.1, read.2)
    | 'p' => (readProperty false flags rest).map fun read => (.set read.1, read.2)
    | 'P' => (readProperty true flags rest).map fun read => (.set read.1, read.2)
    | 'd' => some (.set (CharSet.digits flags.unicode), rest)
    | 's' => some (.set (CharSet.spaces flags.unicode), rest)
    | 'w' => some (.set (CharSet.wordChars flags.unicode), rest)
    | 'D' => if flags.unicode then some (.set (.complement (CharSet.digits true)), rest) else none
    | 'S' => if flags.unicode then some (.set (.complement (CharSet.spaces true)), rest) else none
    | 'W' =>
      if flags.unicode then some (.set (.complement (CharSet.wordChars true)), rest) else none
    | 'a' => some (.char '\x07', rest)
    | 'f' => some (.char '\x0c', rest)
    | 't' => some (.char '\t', rest)
    | 'n' => some (.char '\n', rest)
    | 'r' => some (.char '\r', rest)
    | 'v' => some (.char '\x0b', rest)
    | 'A' => some (.anchor .textStart, rest)
    | 'z' => some (.anchor .textEnd, rest)
    | 'b' => (readBoundary flags rest).map fun read => (.anchor read.1, read.2)
    | 'B' => some (.anchor (.notWordBoundary flags.unicode), rest)
    | '<' => some (.anchor (.wordStart flags.unicode), rest)
    | '>' => some (.anchor (.wordEnd flags.unicode), rest)
    | _ => if isEscapable char then some (.char char, rest) else none

/-- A member of a class: one character or a whole set. -/
def readClassAtom (flags : Flags) : List Char → Option (Escape × List Char)
  | [] => none
  | '\\' :: rest =>
    match readEscape flags rest with
    | some (.anchor _, _) => none
    | read => read
  | char :: rest => some (.char char, rest)

/-- The ASCII class at the start of the text, if there is one. -/
def readAsciiClass (flags : Flags) (chars : List Char) : Option (CharSet × List Char) := do
  let named ← Text.afterStart? ['[', ':'] chars
  let (negated, rest) := match named with
    | '^' :: tail => (true, tail)
    | _ => (false, named)
  let name := rest.takeWhile (· != ':')
  let after ← Text.afterStart? [':', ']'] (rest.dropWhile (· != ':'))
  let set ← CharSet.asciiClass? (String.ofList name)
  let folded := flags.fold set
  some (if negated then .complement folded else folded, after)

/-- A range or a single member of a class. -/
def readRange (flags : Flags) (chars : List Char) : Option (CharSet × List Char) := do
  let (first, afterFirst) ← readClassAtom flags chars
  let rest := skipIgnored flags afterFirst
  let alone : CharSet := match first with
    | .char char => flags.fold (.single char)
    | .set set => set
    | .anchor _ => .empty
  match rest with
  | [] => none
  | '-' :: tail =>
    match skipIgnored flags tail with
    | ']' :: _ | '-' :: _ => some (alone, rest)
    | [] => none
    | second =>
      match first, readClassAtom flags second with
      | .char low, some (.char high, after) =>
        if low ≤ high then some (flags.fold (.range low.toNat high.toNat), after) else none
      | _, _ => none
  | _ => some (alone, rest)

/-- A set operation between two classes. -/
inductive SetOperation where
  | intersection
  | difference
  | symmetricDifference

/-- The set of an operation on two sets. -/
def SetOperation.apply (operation : SetOperation) (left right : CharSet) : CharSet :=
  match operation with
  | .intersection => .intersection left right
  | .difference => .intersection left (.complement right)
  | .symmetricDifference =>
    .union (.intersection left (.complement right)) (.intersection right (.complement left))

/-- The class so far: the operand and operation that wait, if any, and the members since. -/
structure PendingClass where
  waiting : Option (CharSet × SetOperation)
  members : CharSet

/-- The set of everything read so far. -/
def PendingClass.close (pending : PendingClass) : CharSet :=
  match pending.waiting with
  | some (left, operation) => operation.apply left pending.members
  | none => pending.members

mutual

/-- Reads a class after its opening bracket. -/
def readClass (flags : Flags) : Nat → List Char → Option (CharSet × List Char)
  | 0, _ => none
  | fuel + 1, chars => do
    let (negated, opened) := match skipIgnored flags chars with
      | '^' :: rest => (true, skipIgnored flags rest)
      | rest => (false, rest)
    let hyphens := opened.takeWhile (· == '-')
    let afterHyphens := skipIgnored flags (opened.dropWhile (· == '-'))
    let (start, rest) : CharSet × List Char := match hyphens, afterHyphens with
      | [], ']' :: tail => (flags.fold (.single ']'), tail)
      | [], tail => (.empty, tail)
      | _ :: _, tail => (.single '-', tail)
    let (set, after) ← readMembers flags fuel ⟨none, start⟩ rest
    if negated && !flags.unicode then none
    else some (if negated then .complement set else set, after)

/-- Reads members and set operations up to the closing bracket. -/
def readMembers (flags : Flags) : Nat → PendingClass → List Char → Option (CharSet × List Char)
  | 0, _, _ => none
  | fuel + 1, pending, chars =>
    match skipIgnored flags chars with
    | [] => none
    | ']' :: rest => some (pending.close, rest)
    | '&' :: '&' :: rest =>
      readMembers flags fuel ⟨some (pending.close, .intersection), .empty⟩ rest
    | '-' :: '-' :: rest =>
      readMembers flags fuel ⟨some (pending.close, .difference), .empty⟩ rest
    | '~' :: '~' :: rest =>
      readMembers flags fuel ⟨some (pending.close, .symmetricDifference), .empty⟩ rest
    | '[' :: rest =>
      match readAsciiClass flags ('[' :: rest) with
      | some (set, after) =>
        readMembers flags fuel { pending with members := .union pending.members set } after
      | none => do
        let (set, after) ← readClass flags fuel rest
        readMembers flags fuel { pending with members := .union pending.members set } after
    | other => do
      let (set, after) ← readRange flags other
      readMembers flags fuel { pending with members := .union pending.members set } after

end

/-- A decimal number with blanks around it, below 2^32; absent when there is none. -/
def readCount (chars : List Char) : Option (Nat × List Char) :=
  let start := chars.dropWhile Text.isBlank
  let digits := start.takeWhile Char.isDigit
  let value : Nat := digits.foldl (fun sum digit => min (2 ^ 32) (10 * sum + (digit.toNat - 48))) 0
  if digits.isEmpty || decide (2 ^ 32 ≤ value) then none
  else some (value, (start.dropWhile Char.isDigit).dropWhile Text.isBlank)

/-- The bounds of a repetition after its opening brace. -/
def readBounds (chars : List Char) : Option ((Nat × Option Nat) × List Char) := do
  let (least, rest) ← readCount chars
  match rest with
  | '}' :: after => some ((least, some least), after)
  | ',' :: tail =>
    match tail.dropWhile Text.isBlank with
    | '}' :: after => some ((least, none), after)
    | more =>
      let (most, afterMost) ← readCount more
      match afterMost with
      | '}' :: after => if least ≤ most then some ((least, some most), after) else none
      | _ => none
  | _ => none

/-- Skips the mark of a reluctant repetition, which does not change what is matched. -/
def skipReluctant (flags : Flags) (chars : List Char) : List Char :=
  match skipIgnored flags chars with
  | '?' :: rest => rest
  | rest => rest

/-- Reads flags up to a colon or a closing parenthesis; each may be given once. -/
def readFlags : Nat → Bool → Bool → List Char → Flags → List Char →
    Option (Flags × Bool × List Char)
  | 0, _, _, _, _, _ => none
  | fuel + 1, clearing, dangling, seen, flags, chars =>
    match chars with
    | ':' :: rest => if dangling then none else some (flags, true, rest)
    | ')' :: rest => if dangling || seen.isEmpty then none else some (flags, false, rest)
    | '-' :: rest => if clearing then none else readFlags fuel true true ('-' :: seen) flags rest
    | flag :: rest =>
      if seen.contains flag then none
      else do
        let changed ← flags.set (!clearing) flag
        readFlags fuel clearing false (flag :: seen) changed rest
    | [] => none

/-- Whether the characters are a name for a group. -/
def isGroupName : List Char → Bool
  | [] => false
  | first :: rest =>
    (first == '_' || Text.isAlphabetic first) &&
      rest.all fun char =>
        char == '_' || char == '.' || char == '[' || char == ']' || Text.isAlphanumeric char

/-- The name of a group and what follows its closing bracket; no name may be given twice. -/
def readGroupName (names : List (List Char)) (chars : List Char) :
    Option (List (List Char) × List Char) := do
  let (name, rest) ← Text.cutChars? '>' chars
  if isGroupName name && !names.contains name then some (name :: names, rest) else none

/-- What has been read of a group: the finished alternatives and the parts of the current one in
reverse, where a change of flags leaves an absent part. -/
structure PendingGroup where
  finished : List Pattern
  parts : List (Option Pattern)

/-- The current alternative. -/
def PendingGroup.current (pending : PendingGroup) : Pattern :=
  sequenceAll (pending.parts.reverse.filterMap id)

/-- The whole group. -/
def PendingGroup.close (pending : PendingGroup) : Pattern :=
  match pending.finished.reverse with
  | [] => pending.current
  | first :: rest => .choice first (rest.foldr .choice pending.current)

/-- Adds a part to the current alternative. -/
def PendingGroup.add (pending : PendingGroup) (part : Pattern) : PendingGroup :=
  { pending with parts := some part :: pending.parts }

/-- Repeats the last part; absent when there is none. -/
def PendingGroup.repeatLast (pending : PendingGroup) (least : Nat) (most : Option Nat) :
    Option PendingGroup :=
  match pending.parts with
  | some part :: parts => some { pending with parts := some (.counted part least most) :: parts }
  | _ => none

/-- The pattern of the dot. -/
def Flags.dot (flags : Flags) : Option Pattern :=
  if !flags.unicode then none
  else if flags.dotMatchesLineBreak then some (.member .all)
  else if flags.carriageReturn then
    some (.member (.complement (.union (.single '\n') (.single '\r'))))
  else some (.member (.complement (.single '\n')))

mutual

/-- Reads a group, or the whole pattern, up to a closing parenthesis or the end. -/
def readGroup : Nat → Flags → List (List Char) → PendingGroup → List Char →
    Option (Pattern × List (List Char) × List Char)
  | 0, _, _, _, _ => none
  | fuel + 1, flags, names, pending, chars =>
    match skipIgnored flags chars with
    | [] => some (pending.close, names, [])
    | ')' :: rest => some (pending.close, names, ')' :: rest)
    | '|' :: rest =>
      readGroup fuel flags names ⟨pending.current :: pending.finished, []⟩ rest
    | '*' :: rest => do
      let repeated ← pending.repeatLast 0 none
      readGroup fuel flags names repeated (skipReluctant flags rest)
    | '+' :: rest => do
      let repeated ← pending.repeatLast 1 none
      readGroup fuel flags names repeated (skipReluctant flags rest)
    | '?' :: rest => do
      let repeated ← pending.repeatLast 0 (some 1)
      readGroup fuel flags names repeated (skipReluctant flags rest)
    | '{' :: rest => do
      let ((least, most), after) ← readBounds rest
      let repeated ← pending.repeatLast least most
      readGroup fuel flags names repeated (skipReluctant flags after)
    | '[' :: rest => do
      let (set, after) ← readClass flags fuel rest
      readGroup fuel flags names (pending.add (.member set)) after
    | '.' :: rest => do
      let dot ← flags.dot
      readGroup fuel flags names (pending.add dot) rest
    | '^' :: rest =>
      let condition := if flags.multiLine then Anchor.lineStart else .textStart
      readGroup fuel flags names (pending.add (.anchor condition)) rest
    | '$' :: rest =>
      let condition := if flags.multiLine then Anchor.lineEnd else .textEnd
      readGroup fuel flags names (pending.add (.anchor condition)) rest
    | '\\' :: rest => do
      let (escape, after) ← readEscape flags rest
      let part : Pattern := match escape with
        | .char char => .member (flags.fold (.single char))
        | .set set => .member set
        | .anchor condition => .anchor condition
      readGroup fuel flags names (pending.add part) after
    | '(' :: '?' :: rest =>
      let named := match rest with
        | 'P' :: '<' :: tail => some tail
        | '<' :: '=' :: _ | '<' :: '!' :: _ => none
        | '<' :: tail => some tail
        | _ => none
      match named with
      | some tail => do
        let (allNames, body) ← readGroupName names tail
        readBody fuel flags flags allNames pending body
      | none => do
        let (changed, isGroup, body) ← readFlags fuel false false [] flags rest
        if isGroup then readBody fuel flags changed names pending body
        else readGroup fuel changed names { pending with parts := none :: pending.parts } body
    | '(' :: rest => readBody fuel flags flags names pending rest
    | char :: rest =>
      readGroup fuel flags names (pending.add (.member (flags.fold (.single char)))) rest

/-- Reads the body of a nested group and goes on after its closing parenthesis. -/
def readBody : Nat → Flags → Flags → List (List Char) → PendingGroup → List Char →
    Option (Pattern × List (List Char) × List Char)
  | 0, _, _, _, _, _ => none
  | fuel + 1, outer, inner, names, pending, body => do
    let (group, allNames, rest) ← readGroup fuel inner names ⟨[], []⟩ body
    match rest with
    | ')' :: after => readGroup fuel outer allNames (pending.add group) after
    | _ => none

end

/-- The greatest weight that a pattern may have. -/
def maxWeight : Nat := 250000

/-- The pattern that a text writes. -/
def read? (text : String) : Option Pattern := do
  let chars := text.toList
  let (pattern, _, rest) ← readGroup (3 * chars.length + 3) {} [] ⟨[], []⟩ chars
  if rest.isEmpty && decide (pattern.weight ≤ maxWeight) then some pattern else none

end EntityGate.Pattern

import EntityGate.Text.LetterTables

/-!
# Letter classes and case mappings

The classes of characters that names and rules ask for, and the full case mappings of single
characters, under which one character may become several.
-/

namespace EntityGate.Text

/-- Whether a code point lies in one of the runs. -/
def inRuns (runs : List (Nat × Nat × Nat)) (code : Nat) : Bool :=
  runs.any fun (first, last, step) =>
    decide (first ≤ code) && decide (code ≤ last) && (code - first) % step == 0

/-- Whether the character is alphabetic. -/
def isAlphabetic (char : Char) : Bool := inRuns alphabeticRanges char.toNat

/-- Whether the character is an upper-case letter. -/
def isUppercase (char : Char) : Bool := inRuns uppercaseRanges char.toNat

/-- Whether the character is a lower-case letter. -/
def isLowercase (char : Char) : Bool := inRuns lowercaseRanges char.toNat

/-- Whether the character is alphabetic or a number of any kind. -/
def isAlphanumeric (char : Char) : Bool :=
  isAlphabetic char || inRuns numericRanges char.toNat

/-- Whether the character may stand in a word: a letter, a mark, a decimal digit, connecting
punctuation or a joiner. -/
def isWordChar (char : Char) : Bool :=
  let code := char.toNat
  inRuns alphabeticRanges code || inRuns decimalDigitRanges code || inRuns markRanges code ||
    inRuns connectorRanges code || code == 0x200C || code == 0x200D

/-- The image of a code point under a case mapping that takes it to one character. -/
def mapRuns (runs : List (Nat × Nat × Nat × Nat)) (code : Nat) : Option Nat :=
  runs.findSome? fun (first, last, step, image) =>
    if first ≤ code ∧ code ≤ last ∧ (code - first) % step = 0 then some (image + (code - first))
    else none

/-- The lower-case form of a character. -/
def lowerChar (char : Char) : List Char :=
  match lowerExpansions.lookup char.toNat with
  | some codes => codes.map Char.ofNat
  | none => [((mapRuns lowerRuns char.toNat).map Char.ofNat).getD char]

/-- The upper-case form of a character. -/
def upperChar (char : Char) : List Char :=
  match upperExpansions.lookup char.toNat with
  | some codes => codes.map Char.ofNat
  | none => [((mapRuns upperRuns char.toNat).map Char.ofNat).getD char]

end EntityGate.Text

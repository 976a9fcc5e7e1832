import EntityGate.Text.Blank
import EntityGate.Text.Letter

/-!
# Sets of characters

The sets that a pattern can write, as a small language of ranges, properties and set operations,
with membership as its only meaning.
-/

namespace EntityGate

/-- A set of characters. -/
inductive CharSet where
  | empty
  | range (first last : Nat)
  | runs (table : List (Nat × Nat × Nat))
  | union (left right : CharSet)
  | intersection (left right : CharSet)
  | complement (set : CharSet)
  | anyCase (set : CharSet)
  deriving Repr, Inhabited

namespace CharSet

/-- The code points that differ from the given one only in case, itself included. -/
def caseVariants (code : Nat) : List Nat :=
  match Text.caseOrbits.find? fun orbit => orbit.contains code with
  | some orbit => orbit
  | none =>
    code :: ((Text.mapRuns Text.lowerRuns code).toList ++ (Text.mapRuns Text.upperRuns code).toList)

/-- Whether the code point is a member. -/
def contains : CharSet → Nat → Bool
  | .empty, _ => false
  | .range first last, code => decide (first ≤ code) && decide (code ≤ last)
  | .runs table, code => Text.inRuns table code
  | .union left right, code => contains left code || contains right code
  | .intersection left right, code => contains left code && contains right code
  | .complement set, code => !contains set code
  | .anyCase set, code => (caseVariants code).any fun variant => contains set variant

/-- How much room the set takes in a compiled pattern, roughly. -/
def weight : CharSet → Nat
  | .empty => 1
  | .range _ last => if last < 0x80 then 1 else 5
  | .runs table => table.length
  | .union left right => weight left + weight right
  | .intersection left right => weight left + weight right
  | .complement set => weight set + 5
  | .anyCase set => weight set

/-- The set of one character. -/
def single (char : Char) : CharSet := .range char.toNat char.toNat

/-- The union of sets. -/
def unionAll (sets : List CharSet) : CharSet := sets.foldr .union .empty

/-- Decimal digits. -/
def digits (unicode : Bool) : CharSet :=
  if unicode then .runs Text.decimalDigitRanges else .range 0x30 0x39

/-- White space. -/
def spaces (unicode : Bool) : CharSet :=
  let ascii := CharSet.union (.range 9 13) (.range 0x20 0x20)
  if unicode then
    .union ascii (.runs [(0x85, 0x85, 1), (0xA0, 0xA0, 1), (0x1680, 0x1680, 1),
      (0x2000, 0x200A, 1), (0x2028, 0x2029, 1), (0x202F, 0x202F, 1), (0x205F, 0x205F, 1),
      (0x3000, 0x3000, 1)])
  else ascii

/-- Characters of words. -/
def wordChars (unicode : Bool) : CharSet :=
  if unicode then
    unionAll [.runs Text.alphabeticRanges, .runs Text.decimalDigitRanges, .runs Text.markRanges,
      .runs Text.connectorRanges, .range 0x200C 0x200D]
  else unionAll [.range 0x30 0x39, .range 0x41 0x5A, .range 0x61 0x7A, .range 0x5F 0x5F]

/-- All characters. -/
def all : CharSet := .range 0 0x10FFFF

/-- The ASCII class of a name between `[:` and `:]`. -/
def asciiClass? (name : String) : Option CharSet :=
  let digit := CharSet.range 0x30 0x39
  let upper := CharSet.range 0x41 0x5A
  let lower := CharSet.range 0x61 0x7A
  match name with
  | "alnum" => some (unionAll [digit, upper, lower])
  | "alpha" => some (.union upper lower)
  | "ascii" => some (.range 0 0x7F)
  | "blank" => some (.union (.range 9 9) (.range 0x20 0x20))
  | "cntrl" => some (.union (.range 0 0x1F) (.range 0x7F 0x7F))
  | "digit" => some digit
  | "graph" => some (.range 0x21 0x7E)
  | "lower" => some lower
  | "print" => some (.range 0x20 0x7E)
  | "punct" =>
    some (unionAll [.range 0x21 0x2F, .range 0x3A 0x40, .range 0x5B 0x60, .range 0x7B 0x7E])
  | "space" => some (.union (.range 9 13) (.range 0x20 0x20))
  | "upper" => some upper
  | "word" => some (unionAll [digit, upper, lower, .range 0x5F 0x5F])
  | "xdigit" => some (unionAll [digit, .range 0x41 0x46, .range 0x61 0x66])
  | _ => none

/-- The set of a character property, its name in lower case without blanks, hyphens and
underscores. -/
def property? (name : String) : Option CharSet :=
  match name with
  | "l" | "letter" => some (.runs Text.letterRanges)
  | "lu" | "uppercaseletter" => some (.runs Text.upperLetterRanges)
  | "ll" | "lowercaseletter" => some (.runs Text.lowerLetterRanges)
  | "m" | "mark" | "combiningmark" => some (.runs Text.markRanges)
  | "n" | "number" => some (.runs Text.numericRanges)
  | "nd" | "decimalnumber" | "digit" => some (.runs Text.decimalDigitRanges)
  | "p" | "punctuation" | "punct" => some (.runs Text.punctuationRanges)
  | "pc" | "connectorpunctuation" => some (.runs Text.connectorRanges)
  | "s" | "symbol" => some (.runs Text.symbolRanges)
  | "alphabetic" | "alpha" => some (.runs Text.alphabeticRanges)
  | "uppercase" | "upper" => some (.runs Text.uppercaseRanges)
  | "lowercase" | "lower" => some (.runs Text.lowercaseRanges)
  | "whitespace" | "wspace" | "space" => some (spaces true)
  | "any" => some all
  | "ascii" => some (.range 0 0x7F)
  | _ => none

end CharSet

end EntityGate

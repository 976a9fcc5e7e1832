import EntityGate.Json.Printer
import EntityGate.Pattern.Basic

/-!
# Like patterns

A like pattern is turned into an expression for the whole text: a percent sign becomes any run of
characters of a line, an underscore any one of them, and every other character stands for itself,
escaped where it means something in an expression.
-/

namespace EntityGate.Like

open Pattern

/-- The text that a like pattern is matched against. -/
def textOf : Json → List Char
  | .string text => text.toList
  | other => other.compactChars

/-- The characters with a meaning of their own somewhere in an expression. -/
def metaChars : List Char :=
  ['\\', '.', '+', '*', '?', '(', ')', '|', '[', ']', '{', '}', '^', '$', '#', '&', '-', '~']

/-- What a character of a like pattern is written as. -/
def markChars (mark : Char) : List Char :=
  if mark = '%' then ['.', '*']
  else if mark = '_' then ['.']
  else if mark ∈ metaChars then ['\\', mark]
  else [mark]

/-- What the characters of a like pattern are written as, up to the end of the text. -/
def tailChars (pattern : List Char) : List Char := pattern.flatMap markChars ++ ['$']

/-- The expression of a like pattern, for the whole text. -/
def expression (pattern : String) : String := String.ofList ('^' :: tailChars pattern.toList)

example : expression "v1.%_" = "^v1\\..*.$" := by decide +kernel

/-- Any one character of a line. -/
def lineChar : Pattern := .member (.complement (.single '\n'))

/-- The pattern that a character of a like pattern is written as. -/
def part (mark : Char) : Pattern :=
  if mark = '%' then .counted lineChar 0 none
  else if mark = '_' then lineChar
  else .member (.single mark)

/-- The pattern that the expression of a like pattern writes. -/
def compiled (pattern : List Char) : Pattern :=
  sequenceAll (.anchor .textStart :: (pattern.map part ++ [.anchor .textEnd]))

end EntityGate.Like

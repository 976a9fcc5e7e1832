import EntityGate.Sql.BoundValue

/-!
# Prepared statements

A statement is prepared while it is written: each value is bound behind those before it, and its
placeholder is numbered by how many values are bound then. So the parts of a statement have to draw
their numbers in the order in which they stand in the text.
-/

namespace EntityGate.Sql

/-- The text of a statement and the values bound to its placeholders. -/
structure Prepared where
  sql : String
  params : List BoundValue
  deriving Repr, Inhabited

/-- Writing that binds values; the state is the values bound so far. -/
abbrev Building := StateM (List BoundValue)

/-- Binds one more value and gives its number. -/
def bindValue (value : BoundValue) : Building Nat := do
  modify fun bound => bound ++ [value]
  return (← get).length

/-- A statement whose text is written with no value bound before. -/
def Prepared.written (text : Building String) : Prepared :=
  let (sql, params) := Id.run (text.run [])
  ⟨sql, params⟩

/-- The characters with every occurrence of one of them doubled. -/
def doubled (mark : Char) (chars : List Char) : List Char :=
  chars.flatMap fun char => if char = mark then [mark, mark] else [char]

/-- The characters between two marks, the mark doubled inside. -/
def quotedChars (mark : Char) (chars : List Char) : List Char :=
  mark :: (doubled mark chars ++ [mark])

end EntityGate.Sql

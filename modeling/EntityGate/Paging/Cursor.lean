import EntityGate.Json.Printer
import EntityGate.Json.Record
import EntityGate.Json.Skipping
import EntityGate.Query.Select
import EntityGate.Text.Base64

/-!
# Cursors

A cursor is a position in a sorted listing: the ordering values of a row and the direction in
which to go on from it. It travels as base 64 of its JSON form. The rows after a position are
those that come strictly later in one ordering and are equal in all orderings before it.
-/

namespace EntityGate

/-- A position and a direction. -/
structure Cursor where
  values : List Json
  forward : Bool
  deriving Repr, Inhabited

namespace Cursor

/-- The JSON form of a cursor. -/
def toJson (cursor : Cursor) : Json :=
  .object [("values", .array cursor.values), ("next", .bool cursor.forward)]

/-- The cursor of its JSON form, which may also be an array of its two parts. -/
def ofJson? (json : Json) : Option Cursor := do
  let parts ← Json.recordParts? ["values", "next"] json
  match parts with
  | [some (.array values), some (.bool forward)] => some ⟨values, forward⟩
  | _ => none

/-- The token of a cursor. -/
def token (cursor : Cursor) : String := Base64.encode cursor.toJson.compact

/-- The cursor of a token, white space around it aside. -/
def ofToken? (text : String) : Option Cursor := do
  let bytes ← Base64.decode? (Text.trim text)
  let json ← Json.readRecord? ["values", "next"] bytes
  ofJson? json

/-- The comparison that leads on in a direction. -/
def strictly : SortDirection → Comparison
  | .ascending => .gt
  | .descending => .lt

/-- For each ordering the condition that it is the first one to differ, the conditions of
equality before it being given. -/
def branches (equal : List Predicate) : List OrderTerm → List Json → List Predicate
  | [], _ => []
  | term :: terms, values =>
    let value := values.headD .null
    let later := Predicate.compare term.field (strictly term.direction) value .json
    let same := match values with
      | [] => []
      | _ :: _ => [Predicate.compare term.field .eq value .json]
    .all (equal ++ [later]) :: branches (equal ++ same) terms values.tail

/-- The rows strictly after a position. -/
def after (orders : List OrderTerm) (values : List Json) : Predicate :=
  .any (branches [] orders values)

end Cursor

end EntityGate

import EntityGate.Gate.ConfigError
import EntityGate.Text.Blank

/-!
# Pagination modes and page sizes

How many rows a page holds follows from the request and the configured defaults: a requested
size is at least one and at most the greater of the two defaults.
-/

namespace EntityGate

/-- How a listing is cut into pages. -/
inductive PaginationMode where
  | classic
  | cursor
  | unpaged
  deriving DecidableEq, Repr, Inhabited

namespace PaginationMode

/-- The name of a mode. -/
def name : PaginationMode → String
  | .classic => "classic"
  | .cursor => "cursor"
  | .unpaged => "none"

/-- The mode of a name, white space around it and the case of its letters aside. -/
def parse (text : String) : Except ConfigError PaginationMode :=
  match Text.lowerAscii (Text.trim text) with
  | "classic" => .ok .classic
  | "cursor" => .ok .cursor
  | "none" => .ok .unpaged
  | other => .error (.invalidPaginationMode other)

/-- The mode that a request asks for; whatever is no mode is the classic one. -/
def ofRequest (text : Option String) : PaginationMode :=
  match text.map parse with
  | some (.ok mode) => mode
  | _ => .classic

end PaginationMode

/-- The page size without a request for one, and the greatest page size. -/
structure PaginationDefaults where
  perPage : Nat := 15
  maxPerPage : Nat := 100
  deriving DecidableEq, Repr, Inhabited

/-- How one listing is to be cut. -/
structure PaginationPlan where
  mode : PaginationMode
  perPage : Option Nat
  cursor : Option String
  deriving DecidableEq, Repr, Inhabited

namespace PaginationPlan

/-- The page size for a requested one. -/
def pageSize (requested : Option Int) (defaults : PaginationDefaults) : Nat :=
  let default := max defaults.perPage 1
  let greatest := max defaults.maxPerPage default
  match requested with
  | some size => if size < 1 then 1 else min size.toNat greatest
  | none => min default greatest

/-- The plan for a requested mode, page size and cursor. -/
def resolve (mode : Option String) (requested : Option Int) (cursor : Option String)
    (defaults : PaginationDefaults) : PaginationPlan :=
  match PaginationMode.ofRequest mode with
  | .unpaged => ⟨.unpaged, none, none⟩
  | .classic => ⟨.classic, some (pageSize requested defaults), none⟩
  | .cursor => ⟨.cursor, some (pageSize requested defaults), cursor⟩

end PaginationPlan

end EntityGate

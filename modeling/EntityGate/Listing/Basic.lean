import EntityGate.Listing.Query
import EntityGate.Session.Basic

/-!
# Listings

A listing runs the query of a request and cuts the result into pages. A request may pick the mode;
without a wish the gate's own mode applies.
-/

namespace EntityGate

namespace GateVersion

/-- How a listing is to be cut. -/
def pagePlan (gate : GateVersion) (defaults : PaginationDefaults) (request : Request) :
    PaginationPlan :=
  PaginationPlan.resolve (some (request.pagination.getD gate.pagination.name)) request.perPage
    request.cursor defaults

/-- The page of a query that a plan and a page number pick. -/
def page [Libraries] (gate : GateVersion) (query : SelectQuery) (plan : PaginationPlan)
    (number : Nat) : Effect PageResult :=
  match plan.mode, plan.perPage with
  | .cursor, some perPage =>
    return .cursor (← Session.cursorPaginate gate.source query perPage plan.cursor)
  | .classic, some perPage =>
    return .classic (← Session.paginate gate.source query perPage number)
  | _, _ => return .unpaged (← Session.fetch gate.source query)

/-- The page that a request asks for. -/
def list [Libraries] (gate : GateVersion) (validate : InputValidator)
    (defaults : PaginationDefaults) (request : Request) : Effect PageResult := do
  let query ← Session.ofExcept (gate.listingQuery validate request)
  gate.page query (gate.pagePlan defaults request) (request.page.getD 1)

end GateVersion

end EntityGate

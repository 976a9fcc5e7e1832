import EntityGate.Text.Blank
import EntityGate.Text.Percent

/-!
# Routes

What a path asks for. Under the prefix of the service stand the document, the gates and their
members and actions; beside it stand the routes about the service itself. Fixed segments win over
variable ones, which are decoded afterwards. The last segment of a path is never empty.
-/

namespace EntityGate

/-- What a path asks for, with the segments that vary. -/
inductive Route (Segment : Type) where
  | listing
  | document
  | collection (gate : Segment)
  | changelog (gate : Segment)
  | member (gate id : Segment)
  | action (gate name : Segment)
  | memberAction (gate name id : Segment)
  | health
  | ready
  | version
  deriving Repr, Inhabited

namespace Route

/-- A segment as it is written. -/
abbrev Written := List Char

/-- The route of the segments after the prefix, the last of which is not empty. -/
def ofFilledSegments? (segments : List Written) : Option (Route Written) :=
  match segments with
  | [gate] =>
    some (if gate = "openapi.json".toList then .document else .collection gate)
  | [gate, last] =>
    some (if last = "changelog".toList then .changelog gate else .member gate last)
  | [gate, second, name] => if second = "actions".toList then some (.action gate name) else none
  | [gate, second, name, id] =>
    if second = "actions".toList then some (.memberAction gate name id) else none
  | _ => none

/-- The route of the segments after the prefix. -/
def ofSegments? (segments : List Written) : Option (Route Written) :=
  if segments.getLast? = some [] then none else ofFilledSegments? segments

/-- The route of a path under a prefix, which starts with a slash or is empty. -/
def underPrefix? (base path : String) : Option (Route Written) :=
  if path = (if base.isEmpty then "/" else base) then some .listing
  else
    (Text.afterStart? (base ++ "/").toList path.toList).bind fun rest =>
      ofSegments? (Text.splitChars (· == '/') rest)

/-- The route of a path. -/
def ofPath? (base path : String) : Option (Route Written) :=
  match path with
  | "/health" => some .health
  | "/ready" => some .ready
  | "/version" => some .version
  | _ => underPrefix? base path

/-- A decoded segment; the failure is the name of a segment that is no text. -/
def decodeSegment (name : String) (written : Written) : Except String String :=
  match Text.decodeSegment? written with
  | some segment => .ok segment
  | none => .error name

/-- The route with its segments decoded; the failure is the name of the first that is no text. -/
def decode : Route Written → Except String (Route String)
  | .listing => .ok .listing
  | .document => .ok .document
  | .collection gate => do return .collection (← decodeSegment "alias" gate)
  | .changelog gate => do return .changelog (← decodeSegment "alias" gate)
  | .member gate id => do
    return .member (← decodeSegment "alias" gate) (← decodeSegment "id" id)
  | .action gate name => do
    return .action (← decodeSegment "alias" gate) (← decodeSegment "action" name)
  | .memberAction gate name id => do
    return .memberAction (← decodeSegment "alias" gate) (← decodeSegment "action" name)
      (← decodeSegment "id" id)
  | .health => .ok .health
  | .ready => .ok .ready
  | .version => .ok .version

variable {Segment : Type}

/-- Whether the route is only read. -/
def isReadOnly : Route Segment → Bool
  | .listing | .document | .changelog _ | .health | .ready | .version => true
  | .collection _ | .member .. | .action .. | .memberAction .. => false

/-- Whether the route is one of those about the service itself. -/
def isCommon : Route Segment → Bool
  | .health | .ready | .version => true
  | _ => false

end Route

end EntityGate

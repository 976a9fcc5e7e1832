import EntityGate.Json.Printer
import EntityGate.Query.Filter
import EntityGate.Request.Policy
import EntityGate.Text.Percent

/-!
# Requests

What a request asks for, read from its query string, its headers and its body. Filters come as
parameters in brackets, `filter[field][operator]=value`, with an empty last pair of brackets for
lists; a few parameters control the listing, and all others are kept by name.
-/

namespace EntityGate

/-- A request to a gate. -/
structure Request where
  method : String := "GET"
  filters : RawFilters := .empty
  sort : Option String := none
  perPage : Option Int := none
  page : Option Nat := none
  cursor : Option String := none
  pagination : Option String := none
  version : Option String := none
  model : Option String := none
  params : TextMap String := .empty
  headers : List (String × String) := []
  actor : Option Actor := none
  payload : JsonFields := []
  expectsJson : Bool := true
  deriving Repr, Inhabited

namespace Request

/-- The segments in square brackets, one after the other up to the end. -/
def bracketTail : Nat → List Char → Option (List (List Char))
  | _, [] => some []
  | 0, _ => none
  | fuel + 1, '[' :: rest => do
    let (segment, after) ← Text.cutChars? ']' rest
    let segments ← bracketTail fuel after
    some (segment :: segments)
  | _, _ => none

/-- The base and the segments of a key such as `filter[status][in][]`. -/
def bracketSegments? (key : List Char) : Option (List Char × List (List Char)) :=
  let base := key.takeWhile (· != '[')
  match key.dropWhile (· != '[') with
  | [] => none
  | tail => (bracketTail tail.length tail).map fun segments => (base, segments)

/-- A parameter that is a filter: its field, its operator token and whether it is one of a
list. -/
structure FilterKey where
  field : String
  token : String
  isList : Bool
  deriving DecidableEq, Repr

/-- How a parameter is to be taken. -/
inductive ParameterKey where
  | filter (key : FilterKey)
  | malformedFilter
  | plain
  deriving DecidableEq, Repr

/-- The filter that the segments name; absent when there are too many of them. -/
def filterKey? : List (List Char) → Option FilterKey
  | [field] => some ⟨String.ofList field, "eq", false⟩
  | [field, []] => some ⟨String.ofList field, "eq", true⟩
  | [field, token] => some ⟨String.ofList field, String.ofList token, false⟩
  | [field, token, []] => some ⟨String.ofList field, String.ofList token, true⟩
  | _ => none

/-- How the parameter of a key is to be taken. -/
def parameterKey (key : String) : ParameterKey :=
  match bracketSegments? key.toList with
  | some (base, segments) =>
    if base = "filter".toList then
      match filterKey? segments with
      | some filter => .filter filter
      | none => .malformedFilter
    else .plain
  | none => .plain

/-- The values collected for one field and operator. -/
structure CollectedFilter where
  field : String
  token : String
  values : List Json
  isList : Bool

/-- Adds a value to what was collected: a list parameter appends to the values of its field and
operator, any other replaces them. -/
def collect (key : FilterKey) (value : Json) : List CollectedFilter → List CollectedFilter
  | [] => [⟨key.field, key.token, [value], key.isList⟩]
  | entry :: rest =>
    if entry.field == key.field && entry.token == key.token then
      (if key.isList then { entry with values := entry.values ++ [value], isList := true }
        else { entry with values := [value] }) :: rest
    else entry :: collect key value rest

/-- The value of a collected filter. -/
def CollectedFilter.value (entry : CollectedFilter) : Json :=
  if entry.isList then .array entry.values else entry.values.getLastD .null

/-- The request after one parameter that is no filter. -/
def withControl (request : Request) (key value : String) : Request :=
  let trimmed := Text.trimChars value.toList
  match key with
  | "sort" => { request with sort := Text.nonBlank? value }
  | "per_page" => { request with perPage := Numeral.signed64? trimmed }
  | "page" => { request with page := Numeral.unsigned64? trimmed }
  | "cursor" => { request with cursor := Text.nonBlank? value }
  | "pagination" => { request with pagination := Text.nonBlank? value }
  | "version" => { request with version := Text.nonBlank? value }
  | "model" => { request with model := Text.nonBlank? value }
  | _ => { request with params := request.params.insert key value }

/-- The request and the collected filters after one parameter. -/
def withParameter (state : Request × List CollectedFilter) (parameter : String × String) :
    Request × List CollectedFilter :=
  let (request, collected) := state
  match parameterKey parameter.1 with
  | .filter key => (request, collect key (.string parameter.2) collected)
  | .malformedFilter => (request, collected)
  | .plain => (request.withControl parameter.1 parameter.2, collected)

/-- The request of decoded parameters. -/
def ofParameters (parameters : List (String × String)) : Request :=
  let (request, collected) := parameters.foldl withParameter ({}, [])
  { request with
    filters := collected.foldl (fun filters entry =>
      filters.push entry.field entry.token entry.value) request.filters }

/-- The request of a query string. -/
def ofQuery (query : String) : Request := ofParameters (Text.decodeForm query)

/-- Whether a header value is plain text: visible characters, blanks and tabs of ASCII. -/
def isPlainHeader (value : String) : Bool :=
  value.toList.all fun char => (0x20 ≤ char.toNat && char.toNat < 0x7F) || char == '\t'

/-- The value of a header; the first one of a name counts, and only if it is plain text. -/
def headerValue? (headers : List (String × String)) (name : String) : Option String :=
  ((headers.find? fun header => Text.lowerAscii header.1 == name).map Prod.snd).filter isPlainHeader

/-- The value of a header of the request. -/
def header? (request : Request) (name : String) : Option String :=
  headerValue? request.headers name

/-- The header with the id of the actor. -/
def actorHeader : String := "x-actor-id"

/-- The header that picks a version where no parameter does. -/
def versionHeader : String := "x-query-version"

/-- Whether one text occurs in another. -/
def occursIn (wanted : List Char) : List Char → Bool
  | [] => wanted.isEmpty
  | char :: rest => (Text.afterStart? wanted (char :: rest)).isSome || occursIn wanted rest

/-- Whether the accepted media types include JSON. -/
def acceptsJson (accepted : String) : Bool :=
  occursIn "json".toList accepted.toList || occursIn "*/*".toList accepted.toList

/-- The request with its method and its headers: the actor, the version and whether JSON is
expected. -/
def withHeaders (request : Request) (method : String) (headers : List (String × String)) :
    Request :=
  { request with
    method := method
    headers := headers
    actor := ((headerValue? headers actorHeader).bind Text.nonBlank?).map Actor.mk
    version := request.version <|> (headerValue? headers versionHeader).bind Text.nonBlank?
    expectsJson := ((headerValue? headers "accept").map acceptsJson).getD false }

/-- The request with a payload. -/
def withPayload (request : Request) (payload : JsonFields) : Request :=
  { request with payload := payload }

/-- What a listing depends on, the version aside, in one order whatever the order of the
parameters that are kept by name. -/
def fingerprint (request : Request) : Json :=
  .object [
    ("actor", Json.ofString? (request.actor.map Actor.id)),
    ("filters", request.filters.toJson),
    ("sort", Json.ofString? request.sort),
    ("per_page", (request.perPage.map Json.ofInt).getD .null),
    ("page", Json.ofNat? request.page),
    ("cursor", Json.ofString? request.cursor),
    ("pagination", Json.ofString? request.pagination),
    ("params", .object (request.params.entries.map fun entry => (entry.1, .string entry.2)))]

end Request

end EntityGate

import EntityGate.Query.Identifier
import EntityGate.Query.Operator
import EntityGate.Request.RequestError
import EntityGate.Validation.Validator

/-!
# Filters

The filters of a request come as fields, operator tokens and values. Parsing turns them into
instructions: a field has to be a safe identifier and declared; tokens outside the catalog or not
permitted on the field are dropped; every other value has to have the shape that its operator
asks for and to pass the rules of its field, which a validator checks. The first failure in order of
encounter is the answer.
-/

namespace EntityGate

/-- The filters of a request in their order: for each field, which occurs once, its operator
tokens and values. -/
structure RawFilters where
  entries : List (String × List (String × Json))
  nodup : (entries.map Prod.fst).Nodup
  deriving Repr

namespace RawFilters

/-- No filters. -/
def empty : RawFilters := ⟨[], List.nodup_nil⟩

instance : Inhabited RawFilters := ⟨empty⟩

/-- Appends to the operators of a field that is present, or appends the field. -/
def pushEntry (field : String) (entry : String × Json) :
    List (String × List (String × Json)) → List (String × List (String × Json))
  | [] => [(field, [entry])]
  | (name, operators) :: rest =>
    if name == field then (name, operators ++ [entry]) :: rest
    else (name, operators) :: pushEntry field entry rest

/-- A field that is present keeps its place, and any other goes to the end. -/
theorem push_entry_fields (field : String) (operator : String × Json)
    (entries : List (String × List (String × Json))) :
    (pushEntry field operator entries).map Prod.fst =
      if field ∈ entries.map Prod.fst then entries.map Prod.fst
      else entries.map Prod.fst ++ [field] := by
  induction entries with
  | nil => simp [pushEntry]
  | cons first rest ih =>
      obtain ⟨name, operators⟩ := first
      by_cases hname : name = field
      · simp [pushEntry, hname]
      · by_cases hmem : field ∈ rest.map Prod.fst
        · simp only [hmem, if_true] at ih
          simp [pushEntry, hname, ih, List.mem_cons, hmem]
        · simp only [hmem, if_false] at ih
          simp [pushEntry, hname, ih, List.mem_cons, hmem, Ne.symm hname]

theorem nodup_push_entry {entries : List (String × List (String × Json))}
    (h : (entries.map Prod.fst).Nodup) (field : String) (operator : String × Json) :
    ((pushEntry field operator entries).map Prod.fst).Nodup := by
  rw [push_entry_fields]
  split
  · exact h
  · rename_i hnew
    refine List.nodup_append.mpr ⟨h, by simp, fun name hname other hother => ?_⟩
    rintro rfl
    exact hnew (List.mem_singleton.mp hother ▸ hname)

/-- The filters with one more. -/
def push (filters : RawFilters) (field token : String) (value : Json) : RawFilters :=
  ⟨pushEntry field (token, value) filters.entries,
    nodup_push_entry filters.nodup field (token, value)⟩

@[simp] theorem entries_push (filters : RawFilters) (field token : String) (value : Json) :
    (filters.push field token value).entries = pushEntry field (token, value) filters.entries := rfl

/-- The filters of one field of a JSON object; a value that is no object means equality. -/
def pushJson (filters : RawFilters) (field : String) (value : Json) : RawFilters :=
  match value with
  | .object operators =>
    operators.foldl (fun pushed operator => pushed.push field operator.1 operator.2) filters
  | other => filters.push field "eq" other

/-- The filters that a JSON object of objects writes; other values write none. -/
def ofJson : Json → RawFilters
  | .object fields => fields.foldl (fun filters field => filters.pushJson field.1 field.2) empty
  | _ => empty

/-- Whether there are no filters. -/
def isEmpty (filters : RawFilters) : Bool := filters.entries.isEmpty

/-- The filters as a JSON object of objects. -/
def toJson (filters : RawFilters) : Json :=
  .object (JsonFields.ofList (filters.entries.map fun entry =>
    (entry.1, .object (JsonFields.ofList entry.2))))

end RawFilters

/-- The value of a filter in the shape that its operator asks for. -/
inductive FilterValue where
  | null
  | scalar (value : Json)
  | list (values : List Json)
  deriving Repr, Inhabited

/-- A filter that may be applied to a query. -/
structure FilterInstruction where
  field : String
  operator : FilterOperator
  value : FilterValue
  deriving Repr, Inhabited

namespace Filter

/-- Whether the value stands for null. -/
def isNullToken : Json → Bool
  | .null => true
  | .string text => Text.lowerAscii (Text.trim text) == "null"
  | _ => false

mutual

/-- The single values that a value holds: the parts of a text between commas, trimmed and not
empty, and the values of the items of an array, to any depth; null holds none. -/
def listValues : Json → List Json
  | .null => []
  | .string text =>
    (((Text.split (· == ',') text).map Text.trim).filter fun part => !part.isEmpty).map .string
  | .array items => listItems items
  | other => [other]

/-- The single values of all items. -/
def listItems : List Json → List Json
  | [] => []
  | item :: items => listValues item ++ listItems items

end

/-- The values without those equal to an earlier one, the ones already seen being given. -/
def distinctFrom (seen : List Json) : List Json → List Json
  | [] => []
  | value :: rest =>
    if seen.any fun earlier => earlier.sameValue value then distinctFrom seen rest
    else value :: distinctFrom (seen ++ [value]) rest

/-- The distinct single values of a value in the order of their first occurrence. -/
def coerceList (value : Json) : List Json := distinctFrom [] (listValues value)

/-- The value in the shape that the operator asks for. -/
def normalize (field : String) (operator : FilterOperator) (raw : Json) :
    Except RequestError FilterValue :=
  let scalar (value : Json) : FilterValue := if isNullToken value then .null else .scalar value
  let single : Except RequestError FilterValue :=
    .error (.invalidField field ("The " ++ field ++ " filter expects a single value."))
  match operator with
  | .oneOf =>
    let values := coerceList raw
    if values.isEmpty then
      .error (.invalidField field
        ("The " ++ field ++ " filter must receive at least one value."))
    else .ok (.list values)
  | .between =>
    let values := coerceList raw
    if values.length = 2 then .ok (.list values)
    else
      .error (.invalidField field ("The " ++ field ++ " filter requires exactly two values."))
  | _ =>
    match raw with
    | .array [item] => .ok (scalar item)
    | .array _ | .object _ => single
    | other => .ok (scalar other)

/-- The values that the rules of the field have to accept. -/
def checkedValues : FilterValue → List Json
  | .null => []
  | .scalar value => [value]
  | .list values => values

/-- Checks values one by one against the rules of their field. -/
def checkValues (validate : InputValidator) (field : String) (tokens : List String) :
    List Json → Except RequestError Unit
  | [] => .ok ()
  | value :: rest =>
    match validate [(field, value)] (.single field tokens) with
    | .ok _ => checkValues validate field tokens rest
    | .error errors => .error (.invalid errors)

/-- What decides whether a filter is accepted. -/
structure Grammar where
  rules : RuleMap
  operators : OperatorMap
  rawFields : List String

namespace Grammar

/-- Whether the field is declared; without any declaration every field is. -/
def declares (grammar : Grammar) (field : String) : Bool :=
  (grammar.rules.isEmpty && grammar.rawFields.isEmpty) || grammar.rules.contains field ||
    grammar.rawFields.contains field

/-- Whether the operator may be used on the field. -/
def permits (grammar : Grammar) (field : String) (operator : FilterOperator) : Bool :=
  match grammar.operators.find? field with
  | some permitted => permitted.contains operator
  | none => true

/-- The operator of a token that is in the catalog and permitted on the field. -/
def liveOperator? (grammar : Grammar) (field token : String) : Option FilterOperator :=
  (FilterOperator.ofToken? token).filter (grammar.permits field)

/-- Checks a value against the rules of the field, if it has any. -/
def check (grammar : Grammar) (validate : InputValidator) (field : String) (value : FilterValue) :
    Except RequestError Unit :=
  match grammar.rules.get? field with
  | none | some [] => .ok ()
  | some tokens => checkValues validate field tokens (checkedValues value)

/-- The instructions of the operators of one field. -/
def parseOperators (grammar : Grammar) (validate : InputValidator) (field : String) :
    List (String × Json) → Except RequestError (List FilterInstruction)
  | [] => .ok []
  | (token, raw) :: rest =>
    match grammar.liveOperator? field token with
    | none => parseOperators grammar validate field rest
    | some operator => do
      let value ← normalize field operator raw
      grammar.check validate field value
      let others ← parseOperators grammar validate field rest
      .ok (⟨field, operator, value⟩ :: others)

/-- The instructions of all fields. -/
def parseFields (grammar : Grammar) (validate : InputValidator) :
    List (String × List (String × Json)) → Except RequestError (List FilterInstruction)
  | [] => .ok []
  | (field, operators) :: rest =>
    if Identifier.isSafe field && grammar.declares field then do
      let instructions ← grammar.parseOperators validate field operators
      let others ← parseFields grammar validate rest
      .ok (instructions ++ others)
    else
      .error (.invalidField ("filter." ++ field)
        ("Filtering by " ++ field ++ " is not allowed."))

/-- The instructions of the filters of a request. -/
def parse (grammar : Grammar) (validate : InputValidator) (filters : RawFilters) :
    Except RequestError (List FilterInstruction) :=
  grammar.parseFields validate filters.entries

end Grammar

end Filter

end EntityGate

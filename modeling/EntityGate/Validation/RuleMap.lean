import EntityGate.Json.Printer
import EntityGate.Text.Blank

/-!
# Rules of fields

A rule list is a list of tokens such as `required` or `max:10`. A rule map gives rule lists to
fields, each field once, and keeps the order in which the fields came; giving new rules to a field
leaves it in its place.
-/

namespace EntityGate

/-- The rules that a declaration takes, as the tokens that are kept. Texts become rules by being
parted into tokens; tokens that are given as such are kept as they are. -/
structure Rules where
  tokens : List String := []
  deriving DecidableEq, Repr, Inhabited

namespace Rules

/-- Whether the token holds a pattern, which may contain bars. -/
def isPatternToken (token : String) : Bool :=
  Text.startsWith "regex:" token || Text.startsWith "not_regex:" token

/-- The tokens of one text: parted by bars and trimmed, except that a pattern stays whole. -/
def splitToken (text : String) : List String :=
  let token := Text.trim text
  if isPatternToken token then [token]
  else ((Text.split (· == '|') token).map Text.trim).filter fun part => !part.isEmpty

/-- The tokens of a list of texts. -/
def normalize (texts : List String) : List String := texts.flatMap splitToken

/-- The rules that texts write. -/
@[coe] def ofTexts (texts : List String) : Rules := ⟨normalize texts⟩

instance : Coe (List String) Rules := ⟨ofTexts⟩

end Rules

/-- Rule lists of fields in the order of declaration, each field once. -/
structure RuleMap where
  entries : List (String × List String)
  nodup : (entries.map Prod.fst).Nodup
  deriving DecidableEq, Repr

namespace RuleMap

/-- The map without fields. -/
def empty : RuleMap := ⟨[], List.nodup_nil⟩

instance : Inhabited RuleMap := ⟨empty⟩

/-- The rules of one field. -/
def single (field : String) (rules : List String) : RuleMap :=
  ⟨[(field, rules)], List.pairwise_singleton ..⟩

@[simp] theorem entries_single (field : String) (rules : List String) :
    (single field rules).entries = [(field, rules)] := rfl

/-- Puts rules to a field that is present, or appends the field. -/
def insertEntry (field : String) (rules : List String) :
    List (String × List String) → List (String × List String)
  | [] => [(field, rules)]
  | (name, old) :: rest =>
    if name == field then (name, rules) :: rest else (name, old) :: insertEntry field rules rest

/-- A field that is present keeps its place, and any other goes to the end. -/
theorem keys_insert_entry (field : String) (rules : List String)
    (entries : List (String × List String)) :
    (insertEntry field rules entries).map Prod.fst =
      if field ∈ entries.map Prod.fst then entries.map Prod.fst
      else entries.map Prod.fst ++ [field] := by
  induction entries with
  | nil => simp [insertEntry]
  | cons entry rest ih =>
      obtain ⟨name, old⟩ := entry
      by_cases hname : name = field
      · simp [insertEntry, hname]
      · simp only [insertEntry, beq_eq_false_iff_ne.mpr hname, Bool.false_eq_true, if_false,
          List.map_cons, ih, List.mem_cons, Ne.symm hname, false_or]
        split <;> rfl

theorem nodup_insert_entry {entries : List (String × List String)}
    (h : (entries.map Prod.fst).Nodup) (field : String) (rules : List String) :
    ((insertEntry field rules entries).map Prod.fst).Nodup := by
  rw [keys_insert_entry]
  split
  · exact h
  · rename_i hfield
    refine List.nodup_append.mpr ⟨h, by simp, ?_⟩
    rintro name hname _ hlast rfl
    exact hfield (List.mem_singleton.mp hlast ▸ hname)

/-- Gives rules to a field. -/
def insert (map : RuleMap) (field : String) (rules : List String) : RuleMap :=
  ⟨insertEntry field rules map.entries, nodup_insert_entry map.nodup field rules⟩

/-- The map without a field; the others keep their order. -/
def remove (map : RuleMap) (field : String) : RuleMap :=
  ⟨map.entries.eraseP fun entry => entry.1 == field,
    map.nodup.sublist (List.eraseP_sublist.map Prod.fst)⟩

/-- The rules of a field and the map without it, whose other fields keep their order. -/
def take (map : RuleMap) (field : String) : Option (List String) × RuleMap :=
  match map.entries.findIdx? fun entry => entry.1 == field with
  | none => (none, map)
  | some place => (map.entries[place]?.map Prod.snd,
      ⟨map.entries.eraseIdx place, map.nodup.sublist ((List.eraseIdx_sublist ..).map Prod.fst)⟩)

/-- The rules of a field. -/
def get? (map : RuleMap) (field : String) : Option (List String) := map.entries.lookup field

/-- Whether the field is present. -/
def contains (map : RuleMap) (field : String) : Bool := (map.get? field).isSome

/-- Whether there are no fields. -/
def isEmpty (map : RuleMap) : Bool := map.entries.isEmpty

/-- The number of fields. -/
def size (map : RuleMap) : Nat := map.entries.length

/-- The fields in order. -/
def keys (map : RuleMap) : List String := map.entries.map Prod.fst

/-- The map of fields inserted one after the other. -/
def ofList (entries : List (String × List String)) : RuleMap :=
  entries.foldl (fun map entry => map.insert entry.1 entry.2) empty

/-- The map of fields and the rules that are declared for them. -/
def ofRules (entries : List (String × Rules)) : RuleMap :=
  ofList (entries.map fun entry => (entry.1, entry.2.tokens))

/-- The map as a JSON object of lists. -/
def toJson (map : RuleMap) : Json :=
  .object (map.entries.map fun entry => (entry.1, Json.ofStrings entry.2))

/-- Why a JSON value is no rule map. -/
inductive ReadError where
  | badRules (value : Json)
  | notAMap (found : String)
  deriving Repr

/-- The sentence for a reading error. -/
def ReadError.message : ReadError → String
  | .badRules value => "rules must be a string or list, got " ++ value.compact
  | .notAMap found =>
    "invalid type: " ++ found ++ ", expected a map of field to rule string or list"

/-- The rules that a JSON value writes: one text, a list whose texts count, or nothing. -/
def rulesOfJson : Json → Except ReadError (List String)
  | .null => .ok []
  | .string text => .ok (Rules.normalize [text])
  | .array items => .ok (Rules.normalize (items.filterMap Json.text?))
  | other => .error (.badRules other)

/-- A sentence shows a double positionally, whatever its size. -/
def shownDouble : DoubleFormat :=
  { lowestPositional := -400, highestPositional := 400, signedExponent := false }

/-- A character of a text that a sentence shows: control characters by their code points. -/
def shownChar (char : Char) : List Char :=
  if char = '"' then ['\\', '"']
  else if char = '\\' then ['\\', '\\']
  else if char = '\n' then ['\\', 'n']
  else if char = '\r' then ['\\', 'r']
  else if char = '\t' then ['\\', 't']
  else if char = '\x00' then ['\\', '0']
  else if char.toNat < 32 ∨ (127 ≤ char.toNat ∧ char.toNat < 160) then
    "\\u\x7b".toList ++ Nat.toDigits 16 char.toNat ++ ['\x7d']
  else [char]

/-- What kind of value was found where another was expected. -/
def describeValue : Json → String
  | .null => "null"
  | .bool value => "boolean `" ++ (Json.bool value).compact ++ "`"
  | .number (.int value) => "integer `" ++ (Json.ofInt value).compact ++ "`"
  | .number (.double value) => "floating point `" ++ String.ofList (shownDouble.write value) ++ "`"
  | .string text =>
    "string " ++ String.ofList ('"' :: (text.toList.flatMap shownChar ++ ['"']))
  | .array _ => "sequence"
  | .object _ => "map"

/-- Reads the fields of an object one after the other. -/
def ofFields : JsonFields → RuleMap → Except ReadError RuleMap
  | [], map => .ok map
  | (field, value) :: rest, map =>
    match rulesOfJson value with
    | .ok rules => ofFields rest (map.insert field rules)
    | .error error => .error error

/-- The rule map that a JSON object writes. -/
def ofJson : Json → Except ReadError RuleMap
  | .object fields => ofFields fields empty
  | other => .error (.notAMap (describeValue other))

end RuleMap

end EntityGate

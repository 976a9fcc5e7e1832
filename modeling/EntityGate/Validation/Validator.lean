import EntityGate.Library.Basic
import EntityGate.Text.Calendar
import EntityGate.Text.Uuid
import EntityGate.Validation.FieldErrors
import EntityGate.Validation.RuleMap
import EntityGate.Validation.ValueKind

/-!
# Checking values against rules

A field is acceptable when it is not both required and blank and, if present, is null and
nullable or passes each of its tokens in turn; a token with an unknown name is passed by every
value. Of a field that is not acceptable the first failing token gives the message.
-/

namespace EntityGate

/-- A rule token: its name and, after a colon, its argument. -/
structure RuleToken where
  name : String
  argument : Option String
  deriving DecidableEq, Repr

namespace RuleToken

/-- The token that a text writes. -/
def ofText (text : String) : RuleToken :=
  match Text.cut? ':' text with
  | some (name, argument) => ⟨name, some argument⟩
  | none => ⟨text, none⟩

end RuleToken

/-- What checks data against rules: the data that it accepts, or the errors of their fields. -/
abbrev InputValidator := JsonFields → RuleMap → Except FieldErrors JsonFields

namespace Validator

/-- Whether a required field lacks a value. -/
def isBlankValue : Option Json → Bool
  | none | some .null => true
  | some (.string text) => Text.isBlankText text
  | some (.array items) => items.isEmpty
  | some _ => false

/-- Whether the value is a number or a text that writes one. -/
def isNumeric : Json → Bool
  | .number _ => true
  | .string text => (Numeral.double? (Text.trimChars text.toList)).isSome
  | _ => false

/-- Whether the value is an integer or a text that writes one. -/
def isInteger : Json → Bool
  | .number (.int _) => true
  | .string text => (Numeral.signed64? (Text.trimChars text.toList)).isSome
  | _ => false

/-- Whether the value counts as a truth value. -/
def isBoolean : Json → Bool
  | .bool _ => true
  | .number (.int value) => value == 0 || value == 1
  | .string text => text ∈ ["0", "1", "true", "false"]
  | _ => false

/-- Whether the value is a text that passes a test. -/
def isText (test : String → Bool) : Json → Bool
  | .string text => test text
  | _ => false

/-- Whether the text is a date and time. -/
def isDateTime (text : String) : Bool :=
  Calendar.isTimeStamp text || Calendar.isSpacedDayTime text || Calendar.isLetteredDayTime text

/-- Whether the text is a date, with or without a time. -/
def isDate (text : String) : Bool := Calendar.isFlexibleDay text || isDateTime text

/-- Whether the text has an at sign with something before it, and after it a dot that is not the
first character. -/
def isEmail (text : String) : Bool :=
  match Text.cutChars? '@' text.toList with
  | some (mailbox, domain) => !mailbox.isEmpty && domain.contains '.' && domain.head? != some '.'
  | none => false

/-- The text by which a value is compared with the options of a list or with a pattern. -/
def plainText : Json → String
  | .string text => text
  | other => other.compact

/-- Whether the value is among the options between the commas. -/
def isOption (argument : Option String) (value : Json) : Bool :=
  (Text.split (· == ',') (argument.getD "")).any fun choice => Text.trim choice == plainText value

/-- The pattern inside slashes, if there are two; what follows the last slash does not count. -/
def innerPattern (text : String) : String :=
  match text.toList with
  | '/' :: rest =>
    match Text.cutLastChars? '/' rest with
    | some (inner, _) => String.ofList inner
    | none => text
  | _ => text

/-- Whether the pattern of the argument occurs in the value; an unreadable one never does. -/
def matchesPattern [Libraries] (argument : Option String) (value : Json) : Bool :=
  match argument with
  | some text =>
    match Libraries.expression (innerPattern text) with
    | .ok occurs => occurs (plainText value).toList
    | .error _ => false
  | none => false

/-- What `min`, `max` and `size` measure of a value, and the unit in the message: the count of an
array, a number itself, and of a text its number where the field is numeric, else its length. -/
def measure? (numeric : Bool) : Json → Option (Binary64 × String)
  | .array items => some (Binary64.ofInt items.length, " items")
  | .number value => some (value.toDouble, "")
  | .string text =>
    if numeric then (Numeral.double? (Text.trimChars text.toList)).map fun value => (value, "")
    else some (Binary64.ofInt text.length, " characters")
  | _ => none

/-- Whether a measure keeps a limit; a comparison with a not-a-number fails. -/
def keepsLimit (name : String) (measure limit : Binary64) : Bool :=
  match name with
  | "min" => measure.compare? limit == some .gt || measure.compare? limit == some .eq
  | "max" => measure.compare? limit == some .lt || measure.compare? limit == some .eq
  | _ => measure.compare? limit == some .eq

/-- The message of a broken limit. -/
def limitMessage (field name shown unit : String) : String :=
  match name with
  | "min" => "The " ++ field ++ " field must be at least " ++ shown ++ unit ++ "."
  | "max" => "The " ++ field ++ " field must not be greater than " ++ shown ++ unit ++ "."
  | _ => "The " ++ field ++ " field must be " ++ shown ++ unit ++ "."

/-- The failure of a size rule. A limit that is no number and a value without a measure pass. -/
def sizeFailure (numeric : Bool) (field name : String) (argument : Option String) (value : Json) :
    Option String := do
  let shown := Text.trim (argument.getD "")
  let limit ← argument.bind fun text => Numeral.double? (Text.trimChars text.toList)
  let (measure, unit) ← measure? numeric value
  if keepsLimit name measure limit then none else some (limitMessage field name shown unit)

/-- The message when a test fails. -/
def messageUnless (passes : Bool) (message : String) : Option String :=
  if passes then none else some message

/-- The failure of one token for a value that is present. -/
def tokenFailure [Libraries] (numeric : Bool) (field : String) (value : Json) (token : RuleToken) :
    Option String :=
  let must (passes : Bool) (rest : String) := messageUnless passes
    ("The " ++ field ++ " field " ++ rest)
  let selected (passes : Bool) := messageUnless passes ("The selected " ++ field ++ " is invalid.")
  match token.name with
  | "string" => must (isText (fun _ => true) value) "must be a string."
  | "integer" | "int" => must (isInteger value) "must be an integer."
  | "numeric" | "decimal" => must (isNumeric value) "must be a number."
  | "boolean" | "bool" => must (isBoolean value) "must be true or false."
  | "array" => must value.items?.isSome "must be an array."
  | "date" => must (isText isDate value) "must be a valid date."
  | "datetime" => must (isText isDateTime value) "must be a valid date-time."
  | "email" => must (isText isEmail value) "must be a valid email address."
  | "uuid" => must (isText (fun text => (Uuid.parse? text).isSome) value) "must be a valid UUID."
  | "url" => must (isText Libraries.hasHost value) "must be a valid URL."
  | "min" | "max" | "size" => sizeFailure numeric field token.name token.argument value
  | "in" => selected (isOption token.argument value)
  | "not_in" => selected (!isOption token.argument value)
  | "regex" => must (matchesPattern token.argument value) "format is invalid."
  | "alpha" =>
    must (isText (fun text => text.toList.all Text.isAlphabetic) value)
      "must only contain letters."
  | "alpha_num" =>
    must (isText (fun text => text.toList.all Text.isAlphanumeric) value)
      "must only contain letters and numbers."
  | "alpha_dash" =>
    must (isText (fun text => text.toList.all fun char =>
        Text.isAlphanumeric char || char == '-' || char == '_') value)
      "must only contain letters, numbers, dashes, and underscores."
  | _ => none

/-- Whether the tokens make texts count as numbers for the size rules. -/
def isNumericField (tokens : List String) : Bool :=
  tokens.contains "integer" || tokens.contains "numeric"

/-- The message of the first rule that a field breaks. -/
def fieldFailure [Libraries] (field : String) (value : Option Json) (tokens : List String) :
    Option String :=
  if tokens.contains "required" && isBlankValue value then
    some ("The " ++ field ++ " field is required.")
  else
    match value with
    | none => none
    | some present =>
      if present.isNull && tokens.contains "nullable" then none
      else tokens.findSome? fun token =>
        tokenFailure (isNumericField tokens) field present (RuleToken.ofText token)

/-- The errors of the fields that break a rule, in the order of the rule map. -/
def errorsOf [Libraries] (data : JsonFields) (rules : RuleMap) : FieldErrors :=
  rules.entries.foldl (fun errors entry =>
    match fieldFailure entry.1 (data.get? entry.1) entry.2 with
    | some message => errors.add entry.1 message
    | none => errors) FieldErrors.none

/-- The ruled fields that are present, in the order of the rule map. -/
def validatedFields (data : JsonFields) (rules : RuleMap) : JsonFields :=
  rules.entries.filterMap fun entry => (data.get? entry.1).map fun value => (entry.1, value)

/-- The ruled fields that are present, or the errors of those that break a rule. -/
def validate [Libraries] : InputValidator := fun data rules =>
  let errors := errorsOf data rules
  if errors.isEmpty then .ok (validatedFields data rules) else .error errors

end Validator

end EntityGate

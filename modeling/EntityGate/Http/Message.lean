import EntityGate.Json.Reader
import EntityGate.Request.Basic

/-!
# Incoming messages

A message as it arrives: a method, a target, headers and a body. A request to a gate is read from
it once the body is known to be within the limit and to be a JSON object.
-/

namespace EntityGate

/-- A message as it arrives. -/
structure Message where
  method : String
  path : String
  query : String := ""
  headers : List (String × String) := []
  body : String := ""
  deriving DecidableEq, Repr, Inhabited

namespace Message

/-- The path and the query of a target; a fragment is dropped. -/
def splitTarget (target : String) : String × String :=
  let shown := target.toList.takeWhile (· != '#')
  match Text.cutChars? '?' shown with
  | some (path, query) => (String.ofList path, String.ofList query)
  | none => (String.ofList shown, "")

/-- The message of its parts. -/
def ofTarget (method target : String) (headers : List (String × String)) (body : String) :
    Message :=
  let (path, query) := splitTarget target
  ⟨method, path, query, headers, body⟩

/-- The length that the headers announce, if they announce one. -/
def announcedLength? (message : Message) : Option Nat :=
  (Request.headerValue? message.headers "content-length").bind fun value =>
    Numeral.unsigned64? value.toList

/-- Whether the announced length is over a limit. -/
def announcesTooMuch (message : Message) (limit : Nat) : Bool :=
  message.announcedLength?.any fun length => limit < length

/-- Refuses a body that is longer than the limit or than what was announced. -/
def checkLength (message : Message) (limit : Nat) : Except RequestError Unit :=
  let allowed := min limit (message.announcedLength?.getD limit)
  if allowed < message.body.utf8ByteSize then
    .error (.badRequest "Failed to buffer the request body: length limit exceeded")
  else .ok ()

/-- Whether the character is white space of ASCII, the vertical tab aside. -/
def isBodyBlank (char : Char) : Bool :=
  char == ' ' || char == '\t' || char == '\n' || char == '\r' || char == '\x0c'

/-- The payload of a body: nothing for a blank one, else the fields of a JSON object. -/
def payloadOf (body : String) : Except RequestError JsonFields :=
  if body.toList.all isBodyBlank then .ok []
  else
    match Json.read? body with
    | some (.object fields) => .ok fields
    | some _ => .error (.badRequest "body must be a JSON object")
    | none => .error (.badRequest "invalid JSON body")

/-- The request that a message makes. -/
def request (message : Message) (limit : Nat) : Except RequestError Request := do
  message.checkLength limit
  let payload ← payloadOf message.body
  return ((Request.ofQuery message.query).withHeaders message.method message.headers).withPayload
    payload

end Message

end EntityGate

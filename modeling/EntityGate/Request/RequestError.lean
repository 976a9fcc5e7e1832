import EntityGate.Gate.ConfigError
import EntityGate.Json.Basic
import EntityGate.Validation.FieldErrors

/-!
# Request errors

Why a request was not answered. Every cause has a status, a code and a sentence, and a failed
validation also carries the messages of its fields. Besides, a computation may be aborted without
any answer: where a number leaves the 64 bits that it is kept in, and where sorting gives up.
-/

namespace EntityGate

/-- A failure reported by the database. -/
inductive DatabaseError where
  | rowNotFound
  | poolClosed
  deriving DecidableEq, Repr, Inhabited

namespace DatabaseError

/-- The sentence for a failure. -/
def message : DatabaseError → String
  | .rowNotFound => "no rows returned by a query that expected to return at least one row"
  | .poolClosed => "attempted to acquire a connection on a closed pool"

end DatabaseError

/-- Why a request was not answered. -/
inductive RequestError where
  | config (cause : ConfigError)
  | notFound (what : String)
  | invalid (errors : FieldErrors)
  | database (cause : DatabaseError)
  | badRequest (reason : String)
  | forbidden (reason : String)
  | methodNotAllowed (reason : String)
  | cache (reason : String)
  | serialization (reason : String)
  | inputOutput (reason : String)
  deriving Repr, Inhabited

namespace RequestError

/-- A validation failure of one field. -/
def invalidField (field message : String) : RequestError := .invalid (.single field message)

/-- The status and the code of an error. -/
def statusAndCode : RequestError → Nat × String
  | .config _ => (500, "config_error")
  | .notFound _ => (404, "not_found")
  | .invalid _ => (422, "validation_error")
  | .database .rowNotFound => (404, "not_found")
  | .database .poolClosed => (500, "database_error")
  | .badRequest _ => (400, "bad_request")
  | .forbidden _ => (403, "forbidden")
  | .methodNotAllowed _ => (405, "method_not_allowed")
  | .cache _ => (500, "cache_error")
  | .serialization _ => (500, "serialization_error")
  | .inputOutput _ => (500, "io_error")

/-- The status of the response. -/
def status (error : RequestError) : Nat := error.statusAndCode.1

/-- The code in the body of the response. -/
def code (error : RequestError) : String := error.statusAndCode.2

/-- The sentence in the body of the response. -/
def message : RequestError → String
  | .config cause => cause.message
  | .notFound what => "not found: " ++ what
  | .invalid errors => errors.text
  | .database cause => "database: " ++ cause.message
  | .badRequest reason => "bad request: " ++ reason
  | .forbidden reason => "forbidden: " ++ reason
  | .methodNotAllowed reason => "method not allowed: " ++ reason
  | .cache reason => "cache: " ++ reason
  | .serialization reason => "serialization: " ++ reason
  | .inputOutput reason => "io: " ++ reason

/-- The messages of each field of a failed validation. -/
def details? : RequestError → Option JsonFields
  | .invalid errors =>
    some (errors.messages.entries.map fun entry => (entry.1, Json.ofStrings entry.2))
  | _ => none

/-- The body of the response. -/
def body (error : RequestError) : Json :=
  let details : JsonFields := match error.details? with
    | some fields => [("details", .object fields)]
    | none => []
  .object [("error", .object
    ([("code", .string error.code), ("message", .string error.message)] ++ details))]

end RequestError

/-- Why a computation has no result: an error to be reported, or it was aborted. -/
inductive Failure where
  | reported (error : RequestError)
  | aborted
  deriving Repr, Inhabited

namespace Failure

/-- A result whose error is reported. -/
def reporting {α : Type} : Except RequestError α → Except Failure α
  | .ok value => .ok value
  | .error error => .error (.reported error)

/-- A number that has to stay within unsigned 64 bits. -/
def unsigned64 (value : Nat) : Except Failure Nat :=
  if value < 2 ^ 64 then .ok value else .error .aborted

/-- A number that has to stay within signed 64 bits. -/
def signed64 (value : Int) : Except Failure Int :=
  if -2 ^ 63 ≤ value ∧ value < 2 ^ 63 then .ok value else .error .aborted

end Failure

end EntityGate

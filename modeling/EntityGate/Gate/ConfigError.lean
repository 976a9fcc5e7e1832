/-!
# Configuration errors

What can be wrong with the declaration of a gate, a registry of gates or the settings. All of
these are mistakes on the side of the server.
-/

namespace EntityGate

/-- A mistake in a declaration. -/
inductive ConfigError where
  | invalidMethod (action method : String)
  | invalidStatus (action : String) (status : Nat)
  | emptyActionName
  | invalidCacheTtl (entity : String)
  | invalidPaginationMode (mode : String)
  | unsupportedOperator (field operator : String)
  | emptyField (entity sectionName : String)
  | emptyEntity
  | duplicateEntity (entity : String)
  | duplicateAlias (name : String)
  | duplicateVersion (entity version : String)
  | unknownDefaultVersion (entity version : String)
  | unknownMiddleware (name : String)
  | unsupportedFormat (format : String)
  | unreadable
  deriving DecidableEq, Repr, Inhabited

namespace ConfigError

/-- The sentence for a mistake. -/
def message : ConfigError → String
  | .invalidMethod action method =>
    "invalid http method '" ++ method ++ "' for action '" ++ action ++ "'"
  | .invalidStatus action status =>
    "invalid status code " ++ toString status ++ " for action '" ++ action ++ "'"
  | .emptyActionName => "action name must not be empty"
  | .invalidCacheTtl entity =>
    "cache ttl must be a positive number of seconds on " ++ entity
  | .invalidPaginationMode mode => "unknown pagination mode: " ++ mode
  | .unsupportedOperator field operator =>
    "unsupported operator '" ++ operator ++ "' on filter '" ++ field ++ "'"
  | .emptyField entity sectionName => "empty field name in " ++ sectionName ++ " of " ++ entity
  | .emptyEntity => "entity type must not be empty"
  | .duplicateEntity entity => "duplicate entity: " ++ entity
  | .duplicateAlias name => "duplicate alias: " ++ name
  | .duplicateVersion entity version =>
    "duplicate version '" ++ version ++ "' on " ++ entity
  | .unknownDefaultVersion entity version =>
    "unknown default version '" ++ version ++ "' on " ++ entity
  | .unknownMiddleware name => "unknown middleware: " ++ name
  | .unsupportedFormat format => "unsupported document format: " ++ format
  | .unreadable => "config load"

end ConfigError

end EntityGate

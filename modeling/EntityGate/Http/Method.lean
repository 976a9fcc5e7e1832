import EntityGate.Text.Blank

/-!
# Methods of requests

The methods that an action may be declared with.
-/

namespace EntityGate

/-- A method of a request. -/
inductive HttpMethod where
  | get
  | post
  | put
  | patch
  | delete
  | options
  | head
  deriving DecidableEq, Repr, Inhabited

namespace HttpMethod

/-- All methods. -/
def all : List HttpMethod := [.get, .post, .put, .patch, .delete, .options, .head]

/-- The token of a method. -/
def token : HttpMethod → String
  | .get => "GET"
  | .post => "POST"
  | .put => "PUT"
  | .patch => "PATCH"
  | .delete => "DELETE"
  | .options => "OPTIONS"
  | .head => "HEAD"

/-- The method of a token, white space around it and the case of its letters aside. -/
def ofToken? (text : String) : Option HttpMethod :=
  let wanted := Text.upperAscii (Text.trim text)
  all.find? fun method => method.token == wanted

end HttpMethod

end EntityGate

import EntityGate.Json.Printer

/-!
# Replies

What is sent back for a request: a status, the media type of the body and the body.
-/

namespace EntityGate

/-- An answer to a request. -/
structure Reply where
  status : Nat
  mediaType : Option String
  body : String
  deriving DecidableEq, Repr, Inhabited

namespace Reply

/-- A reply with a status only. -/
def bare (status : Nat) : Reply := ⟨status, none, ""⟩

/-- A reply of plain text. -/
def text (status : Nat) (body : String) : Reply :=
  ⟨status, some "text/plain; charset=utf-8", body⟩

/-- A reply of JSON. -/
def json (status : Nat) (body : Json) : Reply := ⟨status, some "application/json", body.compact⟩

/-- A reply of JSON with the value wrapped as the data of an envelope. -/
def data (status : Nat) (value : Json) : Reply := json status (.object [("data", value)])

end Reply

end EntityGate

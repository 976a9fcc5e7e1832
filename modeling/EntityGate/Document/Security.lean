import EntityGate.Config.Settings

/-!
# Security schemes

The security scheme that the settings ask for, and the name under which operations require it.
-/

namespace EntityGate.Document

/-- A security scheme under its name. -/
structure SecurityScheme where
  name : String
  json : Json
  deriving Repr, Inhabited

namespace SecurityScheme

/-- The scheme of authentication by a header of the protocol. -/
def http (auth : AuthSettings) : SecurityScheme :=
  if Text.lowerAscii (auth.scheme.getD "bearer") = "basic" then
    ⟨"basicAuth", .object [("type", .string "http"), ("scheme", .string "basic")]⟩
  else
    ⟨"bearerAuth", .object ([("type", .string "http"), ("scheme", .string "bearer")] ++
      optionalField "bearerFormat" (auth.bearerFormat.map .string))⟩

/-- The scheme of a key in a header, a parameter or a cookie. -/
def apiKey (auth : AuthSettings) : SecurityScheme :=
  let place := match auth.location with
    | some "query" => "query"
    | some "cookie" => "cookie"
    | _ => "header"
  ⟨"apiKeyAuth", .object [("type", .string "apiKey"), ("in", .string place),
    ("name", .string (auth.name.getD "X-API-Key"))]⟩

/-- The scheme of authorisation flows, which are passed on as they are. -/
def oauth2 (auth : AuthSettings) : SecurityScheme :=
  ⟨"oauth2", .object [("type", .string "oauth2"), ("flows", auth.flows.getD (.object []))]⟩

/-- The scheme of the settings, if their kind has one. -/
def ofSettings? (auth : AuthSettings) : Option SecurityScheme :=
  match auth.kind with
  | "http" => some (http auth)
  | "apiKey" => some (apiKey auth)
  | "oauth2" => some (oauth2 auth)
  | _ => none

end SecurityScheme

end EntityGate.Document

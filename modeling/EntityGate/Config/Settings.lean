import EntityGate.Config.GateConfig

/-!
# Settings

Where the routes are mounted, how large pages and bodies may be, how cache keys start and what the
document says about the service. Each of them has a default.
-/

namespace EntityGate

/-- A server that the document names. -/
structure ServerSettings where
  url : String
  description : Option String := none
  deriving DecidableEq, Repr, Inhabited

/-- The security scheme of the document. The kinds `http`, `apiKey` and `oauth2` have one. -/
structure AuthSettings where
  kind : String
  scheme : Option String := none
  bearerFormat : Option String := none
  name : Option String := none
  location : Option String := none
  flows : Option Json := none
  deriving Repr, Inhabited

/-- What the document says, and how it is written out. -/
structure DocumentSettings where
  title : String := "Query Gate API"
  version : String := "1.0.0"
  description : Option String := none
  servers : List ServerSettings := []
  auth : Option AuthSettings := none
  output : Option String := none
  format : String := "json"
  modifiers : List String := []
  deriving Repr, Inhabited

/-- The settings of a service. -/
structure GateSettings where
  routePrefix : String := "query"
  perPage : Nat := 15
  maxPerPage : Nat := 100
  cachePrefix : String := "query-gate"
  bodyLimit : Nat := 1048576
  document : DocumentSettings := {}
  deriving Repr, Inhabited

namespace ServerSettings

/-- The JSON form of a server. -/
def toJson (server : ServerSettings) : Json :=
  .object ([("url", .string server.url)] ++
    optionalField "description" (server.description.map .string))

/-- The server that a record writes. -/
def ofNode? (node : Node) : Option ServerSettings := do
  match ← node.parts? ["url", "description"] with
  | [url, description] =>
    return ⟨← Node.required? Node.text? url, ← Node.orNone? Node.text? description⟩
  | _ => none

end ServerSettings

namespace AuthSettings

/-- The JSON form of a security scheme. -/
def toJson (auth : AuthSettings) : Json :=
  .object ([("type", .string auth.kind)] ++
    optionalField "scheme" (auth.scheme.map .string) ++
    optionalField "bearer_format" (auth.bearerFormat.map .string) ++
    optionalField "name" (auth.name.map .string) ++
    optionalField "in" (auth.location.map .string) ++
    optionalField "flows" auth.flows)

/-- The security scheme that a record writes. -/
def ofNode? (node : Node) : Option AuthSettings := do
  match ← node.parts? ["type", "scheme", "bearer_format", "name", "in", "flows"] with
  | [kind, scheme, bearerFormat, name, location, flows] =>
    return {
      kind := ← Node.required? Node.text? kind
      scheme := ← Node.orNone? Node.text? scheme
      bearerFormat := ← Node.orNone? Node.text? bearerFormat
      name := ← Node.orNone? Node.text? name
      location := ← Node.orNone? Node.text? location
      flows := ← Node.orNone? (fun value => some value.toJson) flows }
  | _ => none

end AuthSettings

namespace DocumentSettings

/-- The JSON form of the document's settings. -/
def toJson (settings : DocumentSettings) : Json :=
  .object (
    [("title", .string settings.title), ("version", .string settings.version)] ++
    optionalField "description" (settings.description.map .string) ++
    (if settings.servers.isEmpty then []
      else [("servers", .array (settings.servers.map ServerSettings.toJson))]) ++
    optionalField "auth" (settings.auth.map AuthSettings.toJson) ++
    optionalField "output" (settings.output.map .string) ++
    [("format", .string settings.format)] ++
    nonEmptyField "modifiers" settings.modifiers)

/-- The fields of the document's settings. -/
def fieldNames : List String :=
  ["title", "version", "description", "servers", "auth", "output", "format", "modifiers"]

/-- The document's settings that a record writes. -/
def ofNode? (node : Node) : Option DocumentSettings := do
  let default : DocumentSettings := {}
  match ← node.parts? fieldNames with
  | [title, version, description, servers, auth, output, format, modifiers] =>
    return {
      title := ← Node.orDefault? default.title Node.text? title
      version := ← Node.orDefault? default.version Node.text? version
      description := ← Node.orNone? Node.text? description
      servers := ← Node.orDefault? [] (Node.listOf? ServerSettings.ofNode?) servers
      auth := ← Node.orNone? AuthSettings.ofNode? auth
      output := ← Node.orNone? Node.text? output
      format := ← Node.orDefault? default.format Node.text? format
      modifiers := ← Node.orDefault? [] Node.texts? modifiers }
  | _ => none

end DocumentSettings

namespace GateSettings

/-- The JSON form of settings. -/
def toJson (settings : GateSettings) : Json :=
  .object [
    ("prefix", .string settings.routePrefix),
    ("per_page", Json.ofNat settings.perPage),
    ("max_per_page", Json.ofNat settings.maxPerPage),
    ("cache_prefix", .string settings.cachePrefix),
    ("body_limit", Json.ofNat settings.bodyLimit),
    ("openapi", settings.document.toJson)]

/-- The fields of settings. -/
def fieldNames : List String :=
  ["prefix", "per_page", "max_per_page", "cache_prefix", "body_limit", "openapi"]

/-- The settings that a record writes. -/
def ofNode? (node : Node) : Option GateSettings := do
  let default : GateSettings := {}
  match ← node.parts? fieldNames with
  | [routePrefix, perPage, maxPerPage, cachePrefix, bodyLimit, document] =>
    return {
      routePrefix := ← Node.orDefault? default.routePrefix Node.text? routePrefix
      perPage := ← Node.orDefault? default.perPage Node.natural64? perPage
      maxPerPage := ← Node.orDefault? default.maxPerPage Node.natural64? maxPerPage
      cachePrefix := ← Node.orDefault? default.cachePrefix Node.text? cachePrefix
      bodyLimit := ← Node.orDefault? default.bodyLimit Node.natural64? bodyLimit
      document := ← Node.orDefault? {} DocumentSettings.ofNode? document }
  | _ => none

/-- The text without slashes at its ends. -/
def stripSlashes (text : String) : String :=
  String.ofList (Text.stripWhile (· == '/') text.toList)

/-- The number that a variable holds, white space around it aside. -/
def numberOf? (value : Option String) : Option Nat :=
  value.bind fun text => Numeral.unsigned64? (Text.trimChars text.toList)

/-- The settings that environment variables hold. -/
def ofEnvironment (environment : String → Option String) : GateSettings :=
  let default : GateSettings := {}
  let text (name : String) (other : String) : String :=
    (environment ("QUERY_GATE_" ++ name)).getD other
  let number (name : String) (other : Nat) : Nat :=
    (numberOf? (environment ("QUERY_GATE_" ++ name))).getD other
  { routePrefix := stripSlashes (text "PREFIX" default.routePrefix)
    perPage := number "PER_PAGE" default.perPage
    maxPerPage := number "MAX_PER_PAGE" default.maxPerPage
    cachePrefix := text "CACHE_PREFIX" default.cachePrefix
    bodyLimit := number "BODY_LIMIT" default.bodyLimit
    document := {
      title := text "DOCS_TITLE" default.document.title
      version := text "DOCS_VERSION" default.document.version
      output := environment "QUERY_GATE_DOCS_OUTPUT"
      format := text "DOCS_FORMAT" default.document.format } }

/-- How pages are sized. -/
def paginationDefaults (settings : GateSettings) : PaginationDefaults :=
  ⟨settings.perPage, settings.maxPerPage⟩

/-- What the paths of all routes start with: a slash and the prefix, or nothing. -/
def routeBase (settings : GateSettings) : String :=
  let stripped := stripSlashes settings.routePrefix
  if stripped.isEmpty then "" else "/" ++ stripped

end GateSettings

end EntityGate

import EntityGate.Document.Endpoints
import EntityGate.Document.Prune
import EntityGate.Document.Security

/-!
# The document

The description of a service in OpenAPI: the gates of a registry in their default versions, with
the title, the servers and the security scheme of the settings. Parts without content are pruned.
Modifiers that the settings name may change the document afterwards.
-/

namespace EntityGate.Document

/-- The pages of named gates in their default versions. -/
def pagesOf (base : String) (security : Option String) :
    List (Gate × Names) → Except RequestError (List GatePage)
  | [] => .ok []
  | (gate, names) :: rest => do
    let version ← gate.version none
    let others ← pagesOf base security rest
    return ⟨gate, version, names, base, security⟩ :: others

/-- The security scheme of the settings. -/
def securityScheme? (settings : GateSettings) : Option SecurityScheme :=
  settings.document.auth.bind SecurityScheme.ofSettings?

/-- The pages of the gates of a registry. -/
def pages (registry : GateRegistry) (settings : GateSettings) :
    Except RequestError (List GatePage) :=
  pagesOf settings.routeBase ((securityScheme? settings).map SecurityScheme.name)
    (namedGates registry)

/-- The tags of the pages, each name once with the description of its first gate. -/
def tagsOf : List String → List GatePage → List Json
  | _, [] => []
  | seen, page :: rest =>
    if seen.contains page.names.tag then tagsOf seen rest
    else
      .object [("name", .string page.names.tag),
        ("description", .string ("Operations on " ++ page.gate.entity))] ::
        tagsOf (seen ++ [page.names.tag]) rest

/-- What the settings say about the service. -/
def info (settings : DocumentSettings) : Json :=
  .object ([("title", .string settings.title)] ++
    optionalField "description" (settings.description.map .string) ++
    [("version", .string settings.version)])

/-- The components of the pages; of two components of one name the later one counts. -/
def components (settings : GateSettings) (list : List GatePage) : Json :=
  let schemas := TextMap.ofList (list.flatMap GatePage.schemas)
  .object [
    ("schemas", .object (schemas.entries.map fun entry => (entry.1, entry.2.toJson))),
    ("securitySchemes", .object (((securityScheme? settings).map fun scheme =>
      (scheme.name, scheme.json)).toList))]

/-- The operations of the pages. -/
def pathTable (list : List GatePage) : PathTable := .ofList (list.flatMap GatePage.endpoints)

/-- The document of pages before pruning. -/
def ofPages (settings : GateSettings) (list : List GatePage) : Json :=
  .object [
    ("openapi", .string "3.1.0"),
    ("info", info settings.document),
    ("servers", .array (settings.document.servers.map ServerSettings.toJson)),
    ("paths", (pathTable list).toJson),
    ("components", components settings list),
    ("tags", .array (tagsOf [] list))]

/-- The document of a registry. -/
def generate (registry : GateRegistry) (settings : GateSettings) : Except RequestError Json := do
  let list ← pages registry settings
  return prune (ofPages settings list)

/-! ## Modifiers -/

/-- A change of a document. -/
abbrev Modifier := Json → GateRegistry → GateSettings → Json

/-- Modifiers by name. -/
abbrev Modifiers := List (String × Modifier)

/-- The document after one modifier; a result that is no object becomes the empty one. -/
def modifyBy (modifier : Modifier) (registry : GateRegistry) (settings : GateSettings)
    (document : Json) : Json :=
  match modifier document registry settings with
  | .object fields => .object fields
  | _ => .object []

/-- The document after the modifiers that the settings name, in their order; unknown names are
skipped. -/
def modify (modifiers : Modifiers) (registry : GateRegistry) (settings : GateSettings)
    (document : Json) : Json :=
  (settings.document.modifiers.filterMap fun name => modifiers.lookup name).foldl
    (fun changed modifier => modifyBy modifier registry settings changed) document

/-- The document of a registry after its modifiers. -/
def build (modifiers : Modifiers) (registry : GateRegistry) (settings : GateSettings) :
    Except RequestError Json := do
  return modify modifiers registry settings (← generate registry settings)

end EntityGate.Document

import EntityGate.Config.Declaration
import EntityGate.Config.Settings
import EntityGate.Gate.Registry
import EntityGate.Yaml.Reader

/-!
# Deployments

A configuration file: the settings and the gates of a service. It can be checked as it is written,
and resolved to a registry of built gates.
-/

namespace EntityGate

/-- The settings and the written gates of a service. -/
structure Deployment where
  settings : GateSettings := {}
  gates : List GateConfig := []
  deriving Repr, Inhabited

namespace Deployment

/-- The JSON form of a deployment. -/
def toJson (deployment : Deployment) : Json :=
  .object [
    ("settings", deployment.settings.toJson),
    ("gates", .array (deployment.gates.map GateConfig.toJson))]

/-- The deployment that a record writes. -/
def ofNode? (node : Node) : Option Deployment := do
  match ← node.parts? ["settings", "gates"] with
  | [settings, gates] =>
    return {
      settings := ← Node.orDefault? {} GateSettings.ofNode? settings
      gates := ← Node.orDefault? [] (Node.listOf? GateConfig.ofNode?) gates }
  | _ => none

/-- The deployment of a node, if there is one. -/
def ofRead (node : Option Node) : Except ConfigError Deployment :=
  match node.bind ofNode? with
  | some deployment => .ok deployment
  | none => .error .unreadable

/-- The deployment that a JSON text writes. -/
def ofJsonText (text : String) : Except ConfigError Deployment :=
  ofRead ((Json.readWritten? text).map Node.ofJson)

/-- The deployment that a file with the given extension writes: YAML for two of them, else
JSON. -/
def ofFile (fileExtension text : String) : Except ConfigError Deployment :=
  if fileExtension = "yaml" ∨ fileExtension = "yml" then ofRead (Yaml.read? text)
  else ofJsonText text

/-- The formats in which a document may be written out. -/
def documentFormats : List String := ["json", "yaml"]

/-- Refuses a format that no document is written in. -/
def checkFormat (deployment : Deployment) : Except ConfigError Unit :=
  let format := deployment.settings.document.format
  if documentFormats.contains (Text.lowerAscii format) then .ok ()
  else .error (.unsupportedFormat format)

/-- The names that the gates before have taken. -/
structure TakenNames where
  entities : List String := []
  aliases : List String := []

/-- The alias of a written gate, unless it is blank or the entity type itself. -/
def ownAlias (entity : String) (gate : GateConfig) : Option String :=
  (gate.aliasName.bind Text.nonBlank?).filter fun name => name != entity

/-- The taken names after a gate, which may not take a name again. -/
def takeNames (taken : TakenNames) (gate : GateConfig) : Except ConfigError TakenNames :=
  let entity := Text.trim gate.entity
  if entity.isEmpty then .error .emptyEntity
  else if taken.entities.contains entity then .error (.duplicateEntity entity)
  else if taken.aliases.contains entity then .error (.duplicateAlias entity)
  else
    match ownAlias entity gate with
    | none => .ok { taken with entities := taken.entities ++ [entity] }
    | some name =>
      if taken.entities.contains name || taken.aliases.contains name then
        .error (.duplicateAlias name)
      else .ok ⟨taken.entities ++ [entity], taken.aliases ++ [name]⟩

/-- Checks the pagination mode and the cache of a written gate. -/
def checkGate (gate : GateConfig) : Except ConfigError Unit := do
  let _ ← GateDraft.modeOfConfig gate
  match gate.cache with
  | some policy =>
    if policy.ttl = 0 then throw (.invalidCacheTtl (Text.trim gate.entity)) else return ()
  | none => return ()

/-- Checks the gates one after the other. -/
def checkGates : TakenNames → List GateConfig → Except ConfigError Unit
  | _, [] => .ok ()
  | taken, gate :: rest => do
    let next ← takeNames taken gate
    checkGate gate
    checkGates next rest

/-- Checks what can be checked without building the gates. -/
def validate (deployment : Deployment) : Except ConfigError Unit := do
  deployment.checkFormat
  checkGates {} deployment.gates

/-- Builds written gates and registers them one after the other. -/
def registerAll : GateRegistry → List GateConfig → Except ConfigError GateRegistry
  | registry, [] => .ok registry
  | registry, written :: rest => do
    let draft ← GateDraft.ofConfig written
    let gate ← draft.build
    registerAll (← registry.register gate) rest

/-- The registry of a deployment that passes the checks. -/
def resolve (deployment : Deployment) : Except ConfigError GateRegistry := do
  deployment.validate
  registerAll .empty deployment.gates

end Deployment

end EntityGate

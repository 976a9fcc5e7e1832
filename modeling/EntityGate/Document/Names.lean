import EntityGate.Gate.Registry

/-!
# Names in the document

Each gate has a component, a path segment and a tag. Components of different gates are different:
a name that is taken or empty gives way to one made from the digest of the entity type.
-/

namespace EntityGate.Document

/-- The names of one gate. -/
structure Names where
  component : String
  slug : String
  tag : String
  deriving DecidableEq, Repr, Inhabited

/-- The component of a gate, given the ones that are taken. -/
def componentName (gate : Gate) (taken : List String) : String :=
  let stripped := Naming.stripNonAlphanumeric gate.baseName
  if stripped.isEmpty || taken.contains stripped then "Model" ++ gate.digest else stripped

/-- The tag of a gate: the plural of its alias or base name as a title. -/
def tagName (gate : Gate) : String :=
  Naming.titleCase (Naming.pluralize (gate.aliasName.getD gate.baseName))

/-- The names of a gate, given the components that are taken. -/
def Names.ofGate (registry : GateRegistry) (gate : Gate) (taken : List String) : Names :=
  ⟨componentName gate taken, registry.slug gate, tagName gate⟩

/-- The names of gates one after the other. -/
def namesFrom (registry : GateRegistry) : List String → List Gate → List (Gate × Names)
  | _, [] => []
  | taken, gate :: rest =>
    let names := Names.ofGate registry gate taken
    (gate, names) :: namesFrom registry (taken ++ [names.component]) rest

/-- The gates of a registry with their names. -/
def namedGates (registry : GateRegistry) : List (Gate × Names) :=
  namesFrom registry [] registry.gates

/-- A name as one word of capitalised words. -/
def pascalCase (name : String) : String :=
  String.ofList ((Naming.titleCase name).toList.filter fun char => char != ' ')

/-- The component of the payload of an action. -/
def payloadComponent (names : Names) (action : Action) : String :=
  names.component ++ pascalCase action.name ++ "Request"

end EntityGate.Document

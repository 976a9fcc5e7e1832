import EntityGate.Gate.Basic

/-!
# Registries of gates

Gates by name. A gate goes by its alias, its entity type and a short digest of the entity type. A
gate whose alias or entity type is taken is refused, and a digest that is taken stays with the gate
that has it. Besides, a gate goes by its base name until another gate shares it; from then on the
base name leads nowhere.
-/

namespace EntityGate

namespace Gate

/-- The digest that a gate goes by. -/
def digest (gate : Gate) : String := Naming.shortHash gate.entity

/-- The alias of a gate, unless it is the entity type itself. -/
def ownAlias (gate : Gate) : Option String := gate.aliasName.filter fun name => name != gate.entity

end Gate

/-- Gates in the order of registration, and indexes of their places: by the names of their own and
by base names, where a shared one has no place. Of two entries of a name the first one counts. -/
structure GateRegistry where
  gates : List Gate := []
  ownNames : List (String × Nat) := []
  baseNames : List (String × Option Nat) := []

/-- What may fail and change a registry. -/
abbrev RegistryEffect := ExceptT ConfigError (StateM GateRegistry)

namespace GateRegistry

/-- The registry without gates. -/
def empty : GateRegistry := {}

/-- The place of the gate that has a name of its own. -/
def placeOf? (registry : GateRegistry) (name : String) : Option Nat :=
  registry.ownNames.lookup name

/-- The registry with a name for the gate at a place. -/
def putName (name : String) (place : Nat) (registry : GateRegistry) : GateRegistry :=
  { registry with ownNames := (name, place) :: registry.ownNames }

/-- The registry with a name for the gate at a place, unless another gate has it. -/
def putFreeName (name : String) (place : Nat) (registry : GateRegistry) : GateRegistry :=
  if (registry.placeOf? name).isSome then registry else registry.putName name place

/-- The registry with a base name for the gate at a place. A base name that is there loses its
place, unless it is this one. -/
def putBaseName (name : String) (place : Nat) (registry : GateRegistry) : GateRegistry :=
  if name.isEmpty then registry
  else
    match registry.baseNames.lookup name with
    | none => { registry with baseNames := (name, some place) :: registry.baseNames }
    | some found =>
      if found = some place then registry
      else { registry with baseNames := (name, none) :: registry.baseNames }

/-- The registry with one gate more at the end. -/
def addGate (gate : Gate) (registry : GateRegistry) : GateRegistry :=
  { registry with gates := registry.gates ++ [gate] }

/-- Refuses an entity type that is taken, as an entity type or otherwise. -/
def checkEntity (registry : GateRegistry) (entity : String) : Except ConfigError Unit :=
  match registry.placeOf? entity with
  | none => .ok ()
  | some place =>
    if (registry.gates[place]?.map Gate.entity) = some entity then .error (.duplicateEntity entity)
    else .error (.duplicateAlias entity)

/-- Enters the alias of the gate at a place, which must not be taken. -/
def enterAlias (gate : Gate) (place : Nat) : RegistryEffect Unit :=
  match gate.ownAlias with
  | none => return ()
  | some name => do
    if ((← get).placeOf? name).isSome then throw (.duplicateAlias name)
    modify (putName name place)

/-- Enters a gate with all its names. -/
def enter (gate : Gate) : RegistryEffect Unit := do
  let registry ← get
  let place := registry.gates.length
  registry.checkEntity gate.entity
  enterAlias gate place
  modify (putName gate.entity place)
  modify (putFreeName gate.digest place)
  modify (putBaseName gate.baseName place)
  modify (addGate gate)

/-- The answer to a gate that is to be registered, and the registry afterwards. -/
def perform (registry : GateRegistry) (change : RegistryEffect Unit) :
    Except ConfigError Unit × GateRegistry :=
  change.run.run registry

/-- The registry with one gate more. -/
def register (registry : GateRegistry) (gate : Gate) : Except ConfigError GateRegistry :=
  match registry.perform (enter gate) with
  | (.ok (), after) => .ok after
  | (.error error, _) => .error error

/-- The gate of a name, white space around it aside. -/
def get? (registry : GateRegistry) (name : String) : Option Gate :=
  let key := Text.trim name
  (registry.placeOf? key <|> (registry.baseNames.lookup key).join).bind fun place =>
    registry.gates[place]?

/-- The path segment that leads back to a gate: its alias, else its base name if that does, else
its digest. -/
def slug (registry : GateRegistry) (gate : Gate) : String :=
  match gate.aliasName with
  | some name => name
  | none =>
    match registry.get? gate.baseName with
    | some found => if found.entity == gate.entity then gate.baseName else gate.digest
    | none => gate.digest

end GateRegistry

end EntityGate

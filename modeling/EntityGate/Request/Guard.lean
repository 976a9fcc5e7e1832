import EntityGate.Request.Basic

/-!
# Guards

Named checks that a gate runs on a request before anything else, in the order in which it lists
them. A name that nobody registered is a configuration error.
-/

namespace EntityGate

/-- A check of a request. -/
abbrev Guard := Request → Except RequestError Unit

/-- Refuses requests without an actor. -/
def Guard.authenticated : Guard := fun request =>
  match request.actor with
  | some _ => .ok ()
  | none => .error (.forbidden "authentication required")

/-- The guards by name. -/
structure GuardRegistry where
  entries : List (String × Guard)

namespace GuardRegistry

/-- The registry with the guard that is always there. -/
def builtIn : GuardRegistry := ⟨[("authenticated", Guard.authenticated)]⟩

/-- The registry with a guard under a name, over any earlier one. -/
def register (registry : GuardRegistry) (name : String) (guard : Guard) : GuardRegistry :=
  ⟨(name, guard) :: registry.entries⟩

/-- The guard of a name. -/
def find? (registry : GuardRegistry) (name : String) : Option Guard :=
  registry.entries.lookup name

/-- Whether the name is registered. -/
def contains (registry : GuardRegistry) (name : String) : Bool := (registry.find? name).isSome

/-- Runs the named guards in order; the first failure is the answer. -/
def run (registry : GuardRegistry) (request : Request) : List String → Except RequestError Unit
  | [] => .ok ()
  | name :: rest =>
    match registry.find? name with
    | none => .error (.config (.unknownMiddleware name))
    | some guard =>
      match guard request with
      | .ok () => run registry request rest
      | .error error => .error error

end GuardRegistry

end EntityGate

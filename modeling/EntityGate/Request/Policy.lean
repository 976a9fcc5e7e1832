import EntityGate.Json.Basic

/-!
# Actors and abilities

An action may ask for abilities, which a policy grants or denies to the actor on an entity. A
table of abilities denies the ones that it does not define.
-/

namespace EntityGate

/-- On whose behalf a request is made. -/
structure Actor where
  id : String
  deriving DecidableEq, Repr, Inhabited

/-- Whether an actor may do something with an entity. -/
abbrev AbilityCheck := Option Actor → Option Json → Bool

/-- What decides about abilities. -/
inductive Policy where
  | allowAll
  | abilities (checks : List (String × AbilityCheck))

namespace Policy

/-- Whether the ability is granted. -/
def grants (policy : Policy) (ability : String) (actor : Option Actor) (entity : Option Json) :
    Bool :=
  match policy with
  | .allowAll => true
  | .abilities checks =>
    match checks.lookup ability with
    | some check => check actor entity
    | none => false

end Policy

end EntityGate

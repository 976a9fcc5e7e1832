import EntityGate.Gate.Registry
import EntityGate.Proofs.Gate.Declared

/-!
# Names lead to their gates

Gates are offered to a registry one after another; those that are refused leave it as it is. The
index of a registry stays in step with its gates: see `GateRegistry.Indexed` and its step lemma
`Indexed.entered`. So each gate is found under its entity type, its alias and its slug, and a base
name that two gates share leads to neither: see `registered_gates_reachable`.
-/

namespace EntityGate

namespace Gate

theorem Declared.base_name_ne {gate : Gate} (h : gate.Declared) : gate.baseName ≠ "" := by
  obtain ⟨draft, -, hbuild⟩ := h
  have hbuilds := GateDraft.build_eq_ok_iff.mp hbuild
  have hentity := hbuilds.entity_ne
  show Naming.baseName gate.draft.entity ≠ ""
  rw [hbuilds.draft_eq]
  unfold Naming.baseName
  dsimp only
  split
  · next segment hsegment =>
    have hfilled := List.find?_some hsegment
    intro hempty
    rw [String.ofList_eq_empty_iff.mp hempty] at hfilled
    cases hfilled
  · exact hentity

/-- The names that a gate has for itself. -/
def HasName (gate : Gate) (name : String) : Prop :=
  name = gate.entity ∨ gate.aliasName = some name ∨ name = gate.digest

theorem has_name_iff {gate : Gate} {name : String} :
    gate.HasName name ↔ name = gate.entity ∨ gate.ownAlias = some name ∨ name = gate.digest := by
  unfold HasName ownAlias
  by_cases hentity : name = gate.entity
  · simp [hentity]
  · simp [hentity, Option.filter_eq_some_iff]

/-- The digests of gates tell them apart, and none is a name of another kind. -/
structure DigestsApart (gates : List Gate) : Prop where
  pairwise : gates.Pairwise fun gate other => gate.digest ≠ other.digest
  ne_entity : ∀ gate ∈ gates, ∀ other ∈ gates, gate.digest ≠ other.entity
  ne_alias : ∀ gate ∈ gates, ∀ other ∈ gates, other.aliasName ≠ some gate.digest
  ne_base_name : ∀ gate ∈ gates, ∀ other ∈ gates, gate.digest ≠ other.baseName

theorem DigestsApart.of_sublist {gates more : List Gate} (h : DigestsApart more)
    (hgates : gates.Sublist more) : DigestsApart gates where
  pairwise := h.pairwise.sublist hgates
  ne_entity gate hgate other hother :=
    h.ne_entity gate (hgates.subset hgate) other (hgates.subset hother)
  ne_alias gate hgate other hother :=
    h.ne_alias gate (hgates.subset hgate) other (hgates.subset hother)
  ne_base_name gate hgate other hother :=
    h.ne_base_name gate (hgates.subset hgate) other (hgates.subset hother)

/-- The digest of a gate that comes last is no name of the gates before it. -/
theorem DigestsApart.not_has_name {gates : List Gate} {gate other : Gate}
    (h : DigestsApart (gates ++ [gate])) (hother : other ∈ gates) :
    ¬ other.HasName gate.digest := by
  have hlast : gate ∈ gates ++ [gate] := List.mem_append_right _ (List.mem_singleton_self gate)
  have hbefore : other ∈ gates ++ [gate] := List.mem_append_left _ hother
  rintro (hentity | halias | hdigest)
  · exact h.ne_entity gate hlast other hbefore hentity
  · exact h.ne_alias gate hlast other hbefore halias
  · have hapart := (List.pairwise_append.mp h.pairwise).2.2
    exact hapart other hother gate (List.mem_singleton_self gate) hdigest.symm

end Gate

namespace GateRegistry

/-! ## Entering a gate -/

section Performing

variable (registry : GateRegistry)

/-- A sequence goes on with the registry that its first part leaves. -/
theorem perform_bind (first : RegistryEffect Unit) (next : Unit → RegistryEffect Unit) :
    registry.perform (first >>= next) =
      match registry.perform first with
      | (.ok (), after) => after.perform (next ())
      | (.error error, after) => (.error error, after) := by
  show StateT.run (ExceptT.run (first >>= next)) registry = _
  unfold perform
  simp only [ExceptT.run_bind, StateT.run_bind]
  rcases StateT.run first.run registry with ⟨_ | _, after⟩
  · rfl
  · rfl

theorem perform_get (next : GateRegistry → RegistryEffect Unit) :
    registry.perform (get >>= next) = registry.perform (next registry) := rfl

theorem perform_modify (change : GateRegistry → GateRegistry) :
    registry.perform (modify change) = (.ok (), change registry) := rfl

theorem perform_lift (answer : Except ConfigError Unit) :
    registry.perform (liftM answer) = (answer, registry) := by
  cases answer with
  | error error => rfl
  | ok value => rfl

theorem perform_enter_alias (gate : Gate) (place : Nat) :
    registry.perform (enterAlias gate place) =
      match gate.ownAlias with
      | none => (.ok (), registry)
      | some name =>
        if (registry.placeOf? name).isSome then (.error (.duplicateAlias name), registry)
        else (.ok (), registry.putName name place) := by
  unfold enterAlias
  cases gate.ownAlias with
  | none => rfl
  | some name =>
      rw [perform_get]
      dsimp only
      split
      · rfl
      · rfl

end Performing

/-- The registry with the alias of a gate that is to come. -/
def withAlias (registry : GateRegistry) (gate : Gate) : GateRegistry :=
  match gate.ownAlias with
  | some name => registry.putName name registry.gates.length
  | none => registry

/-- The registry with the names that a gate that is to come has for itself. -/
def withNames (registry : GateRegistry) (gate : Gate) : GateRegistry :=
  ((registry.withAlias gate).putName gate.entity registry.gates.length).putFreeName
    gate.digest registry.gates.length

/-- The registry with a gate that is not refused. -/
def entered (registry : GateRegistry) (gate : Gate) : GateRegistry :=
  ((registry.withNames gate).putBaseName gate.baseName registry.gates.length).addGate gate

theorem check_entity_of_free {registry : GateRegistry} {entity : String}
    (h : registry.placeOf? entity = none) : registry.checkEntity entity = .ok () := by
  simp only [checkEntity, h]

theorem check_entity_of_taken {registry : GateRegistry} {entity : String} {place : Nat}
    (h : registry.placeOf? entity = some place) :
    ∃ error, registry.checkEntity entity = .error error := by
  simp only [checkEntity, h]
  split
  · exact ⟨_, rfl⟩
  · exact ⟨_, rfl⟩

/-- A gate is entered unless its entity type or its alias is taken, which has no effect. -/
theorem perform_enter (registry : GateRegistry) (gate : Gate) :
    registry.perform (enter gate) =
      match registry.placeOf? gate.entity with
      | some _ => (registry.checkEntity gate.entity, registry)
      | none =>
        match gate.ownAlias with
        | none => (.ok (), registry.entered gate)
        | some name =>
          if (registry.placeOf? name).isSome then (.error (.duplicateAlias name), registry)
          else (.ok (), registry.entered gate) := by
  unfold enter
  rw [perform_get]
  simp only [perform_bind, perform_lift, perform_enter_alias, perform_modify]
  cases hentity : registry.placeOf? gate.entity with
  | some place =>
      obtain ⟨error, herror⟩ := check_entity_of_taken hentity
      rw [herror]
  | none =>
      rw [check_entity_of_free hentity]
      cases halias : gate.ownAlias with
      | none => simp only [entered, withNames, withAlias, halias]
      | some name =>
          cases hname : registry.placeOf? name with
          | some place => simp [hname]
          | none => simp [hname, entered, withNames, withAlias, halias]

/-- A gate is refused, with no effect, or its names are free and it is entered. -/
theorem perform_enter_cases (registry : GateRegistry) (gate : Gate) :
    (∃ error, registry.perform (enter gate) = (.error error, registry)) ∨
      (registry.placeOf? gate.entity = none ∧
        (∀ name, gate.ownAlias = some name → registry.placeOf? name = none) ∧
        registry.perform (enter gate) = (.ok (), registry.entered gate)) := by
  rw [perform_enter]
  cases hentity : registry.placeOf? gate.entity with
  | some place =>
      obtain ⟨error, herror⟩ := check_entity_of_taken hentity
      exact .inl ⟨error, by rw [herror]⟩
  | none =>
      cases halias : gate.ownAlias with
      | none => exact .inr ⟨rfl, nofun, rfl⟩
      | some name =>
          cases hname : registry.placeOf? name with
          | some place => exact .inl ⟨.duplicateAlias name, by simp [hname]⟩
          | none =>
              exact .inr ⟨rfl, fun _ h => Option.some.inj h ▸ hname, by simp [hname]⟩

/-! ## Lookups after an entry -/

theorem place_of_put_name (registry : GateRegistry) (name other : String) (place : Nat) :
    (registry.putName name place).placeOf? other =
      if other = name then some place else registry.placeOf? other :=
  lookup_cons_entry registry.ownNames name other place

theorem put_free_name_of_free {registry : GateRegistry} {name : String}
    (h : registry.placeOf? name = none) (place : Nat) :
    registry.putFreeName name place = registry.putName name place := by
  simp [putFreeName, h]

theorem put_base_name_frame (registry : GateRegistry) (name : String) (place : Nat) :
    (registry.putBaseName name place).gates = registry.gates ∧
      (registry.putBaseName name place).ownNames = registry.ownNames := by
  unfold putBaseName
  split
  · exact ⟨rfl, rfl⟩
  · split
    · exact ⟨rfl, rfl⟩
    · split
      · exact ⟨rfl, rfl⟩
      · exact ⟨rfl, rfl⟩

/-- What a base name leads to once it was put for a place that it does not have yet. -/
theorem lookup_put_base_name (registry : GateRegistry) {name : String} {place : Nat}
    (hname : name ≠ "") (hplace : registry.baseNames.lookup name ≠ some (some place))
    (other : String) :
    (registry.putBaseName name place).baseNames.lookup other =
      if other = name then
        some (if (registry.baseNames.lookup name).isSome then none else some place)
      else registry.baseNames.lookup other := by
  unfold putBaseName
  rw [if_neg (by simpa using hname)]
  cases hfound : registry.baseNames.lookup name with
  | none => exact lookup_cons_entry registry.baseNames name other (some place)
  | some found =>
      have hfree : found ≠ some place := fun heq => hplace (heq ▸ hfound)
      dsimp only
      rw [if_neg hfree]
      exact lookup_cons_entry registry.baseNames name other none

section Entered

variable {registry : GateRegistry} {gate : Gate}

theorem place_of_with_alias (name : String) :
    (registry.withAlias gate).placeOf? name =
      if gate.ownAlias = some name then some registry.gates.length else registry.placeOf? name := by
  unfold withAlias
  cases halias : gate.ownAlias with
  | none => simp
  | some own =>
      dsimp only
      rw [place_of_put_name]
      simp only [Option.some.injEq, eq_comm]

theorem with_alias_frame :
    (registry.withAlias gate).gates = registry.gates ∧
      (registry.withAlias gate).baseNames = registry.baseNames := by
  unfold withAlias
  split
  · exact ⟨rfl, rfl⟩
  · exact ⟨rfl, rfl⟩

theorem with_names_frame :
    (registry.withNames gate).gates = registry.gates ∧
      (registry.withNames gate).baseNames = registry.baseNames := by
  unfold withNames putFreeName
  split
  · exact with_alias_frame
  · exact with_alias_frame

/-- With a free digest, the names that a gate has for itself lead to its place and the others where
they led before. -/
theorem place_of_with_names (hdigest : registry.placeOf? gate.digest = none)
    (hentity : gate.digest ≠ gate.entity) (halias : gate.aliasName ≠ some gate.digest)
    (name : String) (place : Nat) :
    (registry.withNames gate).placeOf? name = some place ↔
      gate.HasName name ∧ place = registry.gates.length ∨
        ¬ gate.HasName name ∧ registry.placeOf? name = some place := by
  have hown : gate.ownAlias ≠ some gate.digest := fun hname =>
    halias (Option.filter_eq_some_iff.mp hname).1
  have hfree : ((registry.withAlias gate).putName gate.entity registry.gates.length).placeOf?
      gate.digest = none := by
    rw [place_of_put_name, if_neg hentity, place_of_with_alias, if_neg hown, hdigest]
  unfold withNames
  rw [put_free_name_of_free hfree, place_of_put_name, place_of_put_name, place_of_with_alias,
    Gate.has_name_iff]
  -- What the digest is does not matter any more.
  generalize gate.digest = digest
  split_ifs with hname hname' hname''
  · simp [hname, eq_comm]
  · simp [hname', eq_comm]
  · simp [hname'', eq_comm]
  · simp [hname, hname', hname'']

theorem place_of_entered (name : String) :
    (registry.entered gate).placeOf? name = (registry.withNames gate).placeOf? name := by
  have hframe := (put_base_name_frame (registry.withNames gate) gate.baseName
    registry.gates.length).2
  simp only [placeOf?, entered, addGate, hframe]

theorem gates_entered : (registry.entered gate).gates = registry.gates ++ [gate] := by
  have hframe := (put_base_name_frame (registry.withNames gate) gate.baseName
    registry.gates.length).1
  simp only [entered, addGate, hframe, with_names_frame.1]

theorem lookup_base_of_entered (hbase : gate.baseName ≠ "")
    (hplace : registry.baseNames.lookup gate.baseName ≠ some (some registry.gates.length))
    (name : String) :
    (registry.entered gate).baseNames.lookup name =
      if name = gate.baseName then
        some (if (registry.baseNames.lookup gate.baseName).isSome then none
          else some registry.gates.length)
      else registry.baseNames.lookup name := by
  have hkept : (registry.withNames gate).baseNames = registry.baseNames := with_names_frame.2
  rw [← hkept] at hplace
  have hlookup := lookup_put_base_name (registry.withNames gate) hbase hplace name
  simp only [hkept] at hlookup
  simp only [entered, addGate, hlookup]

end Entered

/-! ## The index -/

theorem getElem_concat_iff {α : Type} {items : List α} {item last : α} {place : Nat} :
    (items ++ [last])[place]? = some item ↔
      items[place]? = some item ∨ place = items.length ∧ item = last := by
  grind

/-- The index of a registry is in step with its gates. -/
structure Indexed (registry : GateRegistry) : Prop where
  /-- A name of its own leads to the one gate that has it. -/
  place_iff : ∀ name place, registry.placeOf? name = some place ↔
    ∃ gate, registry.gates[place]? = some gate ∧ gate.HasName name
  /-- A base name is known from the first gate on that has it. -/
  base_known : ∀ gate ∈ registry.gates, (registry.baseNames.lookup gate.baseName).isSome
  /-- The place of a base name is one of a gate. -/
  base_place : ∀ name place, registry.baseNames.lookup name = some (some place) →
    place < registry.gates.length
  /-- A shared base name has no place. -/
  base_shared : registry.gates.Pairwise fun gate other =>
    gate.baseName = other.baseName → registry.baseNames.lookup gate.baseName = some none

theorem indexed_empty : Indexed empty where
  place_iff name place := by simp [empty, placeOf?]
  base_known := by simp [empty]
  base_place := by simp [empty]
  base_shared := List.Pairwise.nil

namespace Indexed

variable {registry : GateRegistry} {gate other : Gate} {name : String} {place : Nat}

theorem place_of_has_name (h : registry.Indexed) (hplace : registry.gates[place]? = some gate)
    (hname : gate.HasName name) : registry.placeOf? name = some place :=
  (h.place_iff name place).mpr ⟨gate, hplace, hname⟩

theorem place_eq_none (h : registry.Indexed)
    (hfree : ∀ gate ∈ registry.gates, ¬ gate.HasName name) : registry.placeOf? name = none := by
  cases hfound : registry.placeOf? name with
  | none => rfl
  | some place =>
      obtain ⟨gate, hgate, hname⟩ := (h.place_iff name place).mp hfound
      exact (hfree gate (List.mem_of_getElem? hgate) hname).elim

/-- No two gates have one entity type. -/
theorem place_eq_of_entity (h : registry.Indexed) {place' : Nat}
    (hplace : registry.gates[place]? = some gate) (hplace' : registry.gates[place']? = some other)
    (hentity : gate.entity = other.entity) : place = place' := by
  have hfound := h.place_of_has_name hplace (.inl rfl)
  have hfound' := h.place_of_has_name hplace' (.inl hentity)
  exact Option.some.inj (hfound.symm.trans hfound')

/-- A gate that is next has no place yet. -/
theorem lookup_base_ne (h : registry.Indexed) :
    registry.baseNames.lookup name ≠ some (some registry.gates.length) := by
  intro hfound
  have hlt := h.base_place _ _ hfound
  omega

/-! What the index says once a gate is entered whose names are free. -/

theorem place_iff_entered (h : registry.Indexed)
    (hfree : ∀ name, gate.HasName name → registry.placeOf? name = none)
    (hentity : gate.digest ≠ gate.entity) (halias : gate.aliasName ≠ some gate.digest) :
    (registry.entered gate).placeOf? name = some place ↔
      ∃ other, (registry.entered gate).gates[place]? = some other ∧ other.HasName name := by
  rw [place_of_entered, place_of_with_names (hfree _ (.inr (.inr rfl))) hentity halias,
    gates_entered]
  constructor
  · rintro (⟨hname, rfl⟩ | ⟨-, hfound⟩)
    · exact ⟨gate, List.getElem?_concat_length, hname⟩
    · obtain ⟨other, hother, hname⟩ := (h.place_iff _ _).mp hfound
      exact ⟨other, getElem_concat_iff.mpr (.inl hother), hname⟩
  · rintro ⟨other, hother, hname⟩
    rcases getElem_concat_iff.mp hother with hbefore | ⟨rfl, rfl⟩
    · -- A name that leads somewhere already is none of the new gate.
      have hfound := h.place_of_has_name hbefore hname
      refine .inr ⟨fun hown => ?_, hfound⟩
      rw [hfree name hown] at hfound
      cases hfound
    · exact .inl ⟨hname, rfl⟩

theorem base_known_entered (h : registry.Indexed) (hbase : gate.baseName ≠ "")
    (hother : other ∈ (registry.entered gate).gates) :
    ((registry.entered gate).baseNames.lookup other.baseName).isSome := by
  rw [lookup_base_of_entered hbase h.lookup_base_ne]
  split
  · rfl
  · next hname =>
    rw [gates_entered] at hother
    rcases List.mem_append.mp hother with hbefore | hlast
    · exact h.base_known other hbefore
    · exact (hname (List.mem_singleton.mp hlast ▸ rfl)).elim

theorem base_place_entered (h : registry.Indexed) (hbase : gate.baseName ≠ "")
    (hfound : (registry.entered gate).baseNames.lookup name = some (some place)) :
    place < (registry.entered gate).gates.length := by
  rw [lookup_base_of_entered hbase h.lookup_base_ne] at hfound
  rw [gates_entered, List.length_append, List.length_singleton]
  split_ifs at hfound with hname hknown
  · cases hfound
  · obtain rfl : registry.gates.length = place := by simpa using hfound
    omega
  · have hlt := h.base_place name place hfound
    omega

theorem base_shared_entered (h : registry.Indexed) (hbase : gate.baseName ≠ "") :
    (registry.entered gate).gates.Pairwise fun first second =>
      first.baseName = second.baseName →
        (registry.entered gate).baseNames.lookup first.baseName = some none := by
  have hlookup := lookup_base_of_entered hbase h.lookup_base_ne
  rw [gates_entered, List.pairwise_append]
  refine ⟨h.base_shared.imp_of_mem fun {first second} hfirst _ hshared heq => ?_,
    List.pairwise_singleton _ _, fun first hfirst last hlast heq => ?_⟩
  · have hknown := h.base_known first hfirst
    rw [hlookup]
    split_ifs with hsame hknown'
    · rfl
    · exact (hknown' (hsame ▸ hknown)).elim
    · exact hshared heq
  · -- The new gate is the second one of this base name, which has no place from now on.
    obtain rfl := List.mem_singleton.mp hlast
    have hknown := h.base_known first hfirst
    rw [hlookup, if_pos heq, ← heq, if_pos hknown]

/-- A gate whose names are free and whose digest is no name of another keeps the index in step. -/
theorem entered (h : registry.Indexed) (hentity : registry.placeOf? gate.entity = none)
    (halias : ∀ name, gate.ownAlias = some name → registry.placeOf? name = none)
    (hbase : gate.baseName ≠ "") (hdigests : Gate.DigestsApart (registry.gates ++ [gate])) :
    (registry.entered gate).Indexed := by
  have hlast : gate ∈ registry.gates ++ [gate] :=
    List.mem_append_right _ (List.mem_singleton_self gate)
  have hfree (name : String) (hname : gate.HasName name) : registry.placeOf? name = none := by
    rcases Gate.has_name_iff.mp hname with rfl | hname | rfl
    · exact hentity
    · exact halias name hname
    · exact h.place_eq_none fun other hother => hdigests.not_has_name hother
  exact {
    place_iff := fun name place => h.place_iff_entered hfree
      (hdigests.ne_entity gate hlast gate hlast) (hdigests.ne_alias gate hlast gate hlast)
    base_known := fun other hother => h.base_known_entered hbase hother
    base_place := fun name place hfound => h.base_place_entered hbase hfound
    base_shared := h.base_shared_entered hbase }

end Indexed

/-! ## Offers -/

/-- The registry after a gate was offered, refused or not. -/
def offer (registry : GateRegistry) (gate : Gate) : GateRegistry :=
  (registry.perform (enter gate)).2

/-- The registry after gates were offered one after another. -/
def offers (gates : List Gate) : GateRegistry := gates.foldl offer empty

theorem offers_concat (gates : List Gate) (gate : Gate) :
    offers (gates ++ [gate]) = (offers gates).offer gate := by
  simp [offers]

/-- An offer has no effect or enters the gate, whose names are free. -/
theorem offer_cases (registry : GateRegistry) (gate : Gate) :
    registry.offer gate = registry ∨
      (registry.placeOf? gate.entity = none ∧
        (∀ name, gate.ownAlias = some name → registry.placeOf? name = none) ∧
        registry.offer gate = registry.entered gate) := by
  unfold offer
  rcases registry.perform_enter_cases gate with ⟨error, herror⟩ | ⟨hentity, halias, hentered⟩
  · exact .inl (by rw [herror])
  · exact .inr ⟨hentity, halias, by rw [hentered]⟩

theorem mem_offered {offered : List Gate} : ∀ gate ∈ (offers offered).gates, gate ∈ offered := by
  induction offered using List.reverseRecOn with
  | nil => exact fun gate hgate => (List.not_mem_nil hgate).elim
  | append_singleton offered last ih =>
      intro gate hgate
      rw [offers_concat] at hgate
      rcases (offers offered).offer_cases last with hkept | ⟨-, -, hentered⟩
      · rw [hkept] at hgate
        exact List.mem_append_left _ (ih gate hgate)
      · rw [hentered, gates_entered] at hgate
        rcases List.mem_append.mp hgate with hbefore | hlast
        · exact List.mem_append_left _ (ih gate hbefore)
        · exact List.mem_append_right _ hlast

/-- The index is in step with the gates after any offers of declared gates. -/
theorem indexed_offers {offered : List Gate} (hdeclared : ∀ gate ∈ offered, gate.Declared)
    (hdigests : Gate.DigestsApart (offers offered).gates) : (offers offered).Indexed := by
  induction offered using List.reverseRecOn with
  | nil => exact indexed_empty
  | append_singleton offered last ih =>
      have hbefore := ih fun gate hgate => hdeclared gate (List.mem_append_left _ hgate)
      rw [offers_concat] at hdigests ⊢
      rcases (offers offered).offer_cases last with hkept | ⟨hentity, halias, hentered⟩
      · rw [hkept] at hdigests ⊢
        exact hbefore hdigests
      · rw [hentered, gates_entered] at hdigests
        rw [hentered]
        have hindexed := hbefore (hdigests.of_sublist (List.sublist_append_left _ _))
        have hlast : last ∈ offered ++ [last] :=
          List.mem_append_right _ (List.mem_singleton_self last)
        exact hindexed.entered hentity halias (hdeclared last hlast).base_name_ne hdigests

/-! ## Names lead to gates -/

namespace Indexed

variable {registry : GateRegistry} {gate other : Gate} {name : String}

/-- A name of its own leads to the gate. -/
theorem get_of_has_name (h : registry.Indexed) (hgate : gate ∈ registry.gates)
    (hname : gate.HasName name) (htrim : Text.trim name = name) :
    registry.get? name = some gate := by
  obtain ⟨place, hplace⟩ := List.mem_iff_getElem?.mp hgate
  unfold get?
  dsimp only
  rw [htrim, h.place_of_has_name hplace hname]
  exact hplace

theorem eq_of_entity (h : registry.Indexed) (hgate : gate ∈ registry.gates)
    (hother : other ∈ registry.gates) (hentity : gate.entity = other.entity) : gate = other := by
  obtain ⟨place, hplace⟩ := List.mem_iff_getElem?.mp hgate
  obtain ⟨place', hplace'⟩ := List.mem_iff_getElem?.mp hother
  obtain rfl := h.place_eq_of_entity hplace hplace' hentity
  exact Option.some.inj (hplace.symm.trans hplace')

theorem mem_of_get (hfound : registry.get? name = some gate) : gate ∈ registry.gates := by
  obtain ⟨place, -, hplace⟩ := Option.bind_eq_some_iff.mp hfound
  exact List.mem_of_getElem? hplace

/-- The slug leads back to the gate. -/
theorem get_slug (h : registry.Indexed) (hgate : gate ∈ registry.gates)
    (htrimmed : gate.draft.Trimmed) : registry.get? (registry.slug gate) = some gate := by
  have hdigest : registry.get? gate.digest = some gate :=
    h.get_of_has_name hgate (.inr (.inr rfl)) (Naming.trim_short_hash gate.entity)
  unfold slug
  cases halias : gate.aliasName with
  | some name => exact h.get_of_has_name hgate (.inr (.inl halias)) (htrimmed.trim_alias halias)
  | none =>
      dsimp only
      split
      · next found hfound =>
        split
        · next hentity =>
          rw [hfound, h.eq_of_entity (mem_of_get hfound) hgate (beq_iff_eq.mp hentity)]
        · exact hdigest
      · exact hdigest

/-- No two gates have one slug. -/
theorem slugs_nodup (h : registry.Indexed)
    (htrimmed : ∀ gate ∈ registry.gates, gate.draft.Trimmed) :
    (registry.gates.map registry.slug).Nodup := by
  refine List.pairwise_map.mpr (List.pairwise_iff_getElem.mpr ?_)
  intro place place' hplace hplace' hlt hslug
  -- The slugs lead to one gate, which stands in one place only.
  have hget := h.get_slug (List.getElem_mem hplace) (htrimmed _ (List.getElem_mem hplace))
  have hget' := h.get_slug (List.getElem_mem hplace') (htrimmed _ (List.getElem_mem hplace'))
  rw [hslug] at hget
  have hsame : registry.gates[place] = registry.gates[place'] :=
    Option.some.inj (hget.symm.trans hget')
  have heq := h.place_eq_of_entity (List.getElem?_eq_getElem hplace)
    (List.getElem?_eq_getElem hplace') (congrArg Gate.entity hsame)
  omega

/-- A name that no gate has for itself and that has no place as a base name leads nowhere. -/
theorem get_of_shared (h : registry.Indexed) (htrim : Text.trim name = name)
    (hfree : ∀ gate ∈ registry.gates, ¬ gate.HasName name)
    (hshared : registry.baseNames.lookup name = some none) : registry.get? name = none := by
  have hplace := h.place_eq_none hfree
  simp [get?, htrim, hplace, hshared]

end Indexed

end GateRegistry

open GateRegistry in
/-- Every gate stays reachable under each of its names. Whatever gates are offered to a registry one
after another, an offer that is refused leaves the registry as it is, and one that is not adds the
gate at the end. Each gate of the registry is found under its entity type, its alias and its slug.
A base name that two gates share leads nowhere, unless it is an alias or an entity type. -/
theorem registered_gates_reachable (offered : List Gate)
    (hdeclared : ∀ gate ∈ offered, gate.Declared)
    (hdigests : Gate.DigestsApart (offers offered).gates) :
    let registry := offers offered
    (∀ gate error after, registry.perform (enter gate) = (.error error, after) →
      after = registry) ∧
    (∀ gate after, registry.perform (enter gate) = (.ok (), after) →
      after.gates = registry.gates ++ [gate]) ∧
    (∀ gate ∈ registry.gates,
      registry.get? gate.entity = some gate ∧
      (∀ name, gate.aliasName = some name → registry.get? name = some gate) ∧
      registry.get? (registry.slug gate) = some gate) ∧
    registry.gates.Pairwise fun gate other =>
      gate.baseName = other.baseName → Text.trim gate.baseName = gate.baseName →
      (∀ third ∈ registry.gates,
        gate.baseName ≠ third.entity ∧ third.aliasName ≠ some gate.baseName) →
      registry.get? gate.baseName = none := by
  intro registry
  have hindexed : registry.Indexed := indexed_offers hdeclared hdigests
  refine ⟨fun gate error after hperform => ?_, fun gate after hperform => ?_,
    fun gate hgate => ?_, ?_⟩
  · rcases registry.perform_enter_cases gate with ⟨error', herror⟩ | ⟨-, -, hentered⟩
    · cases herror.symm.trans hperform
      rfl
    · cases hentered.symm.trans hperform
  · rcases registry.perform_enter_cases gate with ⟨error, herror⟩ | ⟨-, -, hentered⟩
    · cases herror.symm.trans hperform
    · cases hentered.symm.trans hperform
      exact gates_entered
  · have htrimmed := (hdeclared gate (mem_offered gate hgate)).trimmed
    exact ⟨hindexed.get_of_has_name hgate (.inl rfl) htrimmed.entity_eq,
      fun name hname => hindexed.get_of_has_name hgate (.inr (.inl hname))
        (htrimmed.trim_alias hname),
      hindexed.get_slug hgate htrimmed⟩
  · refine hindexed.base_shared.imp_of_mem fun {gate other} hgate _ hshared hsame htrim hfree => ?_
    refine hindexed.get_of_shared htrim (fun third hthird hname => ?_) (hshared hsame)
    rcases hname with hentity | halias | hdigest
    · exact (hfree third hthird).1 hentity
    · exact (hfree third hthird).2 halias
    · exact hdigests.ne_base_name third hthird gate hgate hdigest.symm

/-! ## Posts of two applications -/

/-- A gate with no more than its names. -/
def plainGate (draft : GateDraft) : Gate where
  draft := draft
  source := draft.source
  cache := none
  base :=
    { entity := draft.entity
      aliasName := draft.aliasName
      version := none
      source := draft.source
      middleware := []
      filters := .empty
      operators := .empty
      customFilters := .empty
      select := []
      sorts := []
      pagination := .classic
      cache := none
      actions := []
      baseQuery := none }
  versions := []
  changelog := []

/-- Posts that go by an alias. -/
def appPosts : Gate := plainGate ((GateDraft.make "App\\Models\\Post").withAlias "posts")

/-- Posts of another application, under the same base name. -/
def blogPosts : Gate := plainGate (GateDraft.make "Blog\\Post")

theorem posts_declared : ∀ gate ∈ [appPosts, blogPosts, appPosts], gate.Declared := by
  have happ : appPosts.Declared := by
    refine ⟨_, .step (.make "App\\Models\\Post") (.aliasName "posts"), ?_⟩
    rfl
  have hblog : blogPosts.Declared := by
    refine ⟨_, .make "Blog\\Post", ?_⟩
    rfl
  simp [happ, hblog]

theorem post_names :
    appPosts.entity = "App\\Models\\Post" ∧ blogPosts.entity = "Blog\\Post" ∧
      appPosts.aliasName = some "posts" ∧ blogPosts.aliasName = none ∧
      appPosts.baseName = "Post" ∧ blogPosts.baseName = "Post" := by
  decide +kernel

theorem post_digests : appPosts.digest = "cf67a70c" ∧ blogPosts.digest = "704dc412" := by
  decide +kernel

open GateRegistry in
/-- The second offer of a gate is refused. -/
theorem posts_offered :
    (offers [appPosts, blogPosts, appPosts]).gates = [appPosts, blogPosts] := by
  let choose (entity : String) : Gate :=
    if entity = appPosts.entity then appPosts else blogPosts
  have hentities : (offers [appPosts, blogPosts, appPosts]).gates.map Gate.entity =
      [appPosts.entity, blogPosts.entity] := by
    decide +kernel
  have hother : blogPosts.entity ≠ appPosts.entity := by decide +kernel
  have hchoose : ∀ gate ∈ (offers [appPosts, blogPosts, appPosts]).gates,
      choose gate.entity = gate := by
    intro gate hgate
    have hoffered := mem_offered gate hgate
    simp only [List.mem_cons, List.not_mem_nil, or_false] at hoffered
    rcases hoffered with rfl | rfl | rfl
    · exact if_pos rfl
    · exact if_neg hother
    · exact if_pos rfl
  calc (offers [appPosts, blogPosts, appPosts]).gates
      = (offers [appPosts, blogPosts, appPosts]).gates.map fun gate => choose gate.entity := by
        rw [List.map_congr_left hchoose, List.map_id']
    _ = [appPosts.entity, blogPosts.entity].map choose := by rw [← hentities, List.map_map]; rfl
    _ = [appPosts, blogPosts] := by simp [choose, hother]

open GateRegistry in
/-- Two gates of one base name, one of them offered twice, are found under their other names. -/
theorem posts_reachable :
    let registry := offers [appPosts, blogPosts, appPosts]
    registry.get? "App\\Models\\Post" = some appPosts ∧ registry.get? "posts" = some appPosts ∧
      registry.get? (registry.slug blogPosts) = some blogPosts ∧ registry.get? "Post" = none := by
  intro registry
  obtain ⟨happ, hblog, halias, halias', hbase, hbase'⟩ := post_names
  obtain ⟨hdigest, hdigest'⟩ := post_digests
  have hdigests : Gate.DigestsApart registry.gates := by
    show Gate.DigestsApart (offers [appPosts, blogPosts, appPosts]).gates
    rw [posts_offered]
    refine ⟨?_, ?_, ?_, ?_⟩ <;>
      simp [happ, hblog, halias, halias', hbase, hbase', hdigest, hdigest']
  obtain ⟨-, -, hfound, hshared⟩ := registered_gates_reachable _ posts_declared hdigests
  rw [posts_offered] at hfound hshared
  obtain ⟨hentity, hname, -⟩ := hfound appPosts (by simp)
  obtain ⟨-, -, hslug⟩ := hfound blogPosts (by simp)
  have hnone := List.rel_of_pairwise_cons hshared (List.mem_singleton_self blogPosts)
    (hbase.trans hbase'.symm) (by rw [hbase]; decide)
    (by simp [happ, hblog, halias, halias', hbase])
  rw [happ] at hentity
  rw [hbase] at hnone
  exact ⟨hentity, hname "posts" halias, hslug, hnone⟩

end EntityGate

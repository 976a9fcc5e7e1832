import EntityGate.Config.Deployment
import EntityGate.Proofs.Gate.Registry

/-!
# Names taken in a deployment and in a registry

A deployment is checked with two lists of taken names, before any gate is built; a registry keeps
one index from names to places. As long as the digest of an entity type is no name of another kind,
the two are in step: see `GateRegistry.Matches`, and `Matches.register_taken` and
`Matches.register_refused` for one gate. So they refuse the same gates for the same reason: see
`validation_agrees_with_registration`.
-/

namespace EntityGate

/-! ## What is refused before a gate is registered -/

namespace ConfigError

/-- Two gates would have one name. -/
def IsDuplicate : ConfigError → Prop
  | .duplicateEntity _ | .duplicateAlias _ => True
  | _ => False

/-- A deployment that passes the checks is free of the mistake. -/
def RuledOut : ConfigError → Prop
  | .duplicateEntity _ | .duplicateAlias _ | .emptyEntity | .invalidPaginationMode _ => True
  | _ => False

section FreeOf

variable {α β : Type}

/-- No mistake of the kind is found. -/
def FreeOf (kind : ConfigError → Prop) (answer : Except ConfigError α) : Prop :=
  ∀ error, answer = .error error → ¬ kind error

variable {kind : ConfigError → Prop}

theorem free_of_ok (value : α) : FreeOf kind (.ok value) := nofun

theorem free_of_error {error : ConfigError} (h : ¬ kind error) :
    FreeOf kind (.error error : Except ConfigError α) := by
  rintro _ ⟨⟩
  exact h

theorem FreeOf.bind {first : Except ConfigError α} {next : α → Except ConfigError β}
    (hfirst : FreeOf kind first) (hnext : ∀ value, FreeOf kind (next value)) :
    FreeOf kind (first >>= next) := by
  cases first with
  | error error => exact free_of_error (hfirst error rfl)
  | ok value => exact hnext value

theorem FreeOf.map_m {check : α → Except ConfigError β}
    (h : ∀ item, FreeOf kind (check item)) (items : List α) : FreeOf kind (items.mapM check) := by
  induction items with
  | nil => exact free_of_ok []
  | cons item rest ih =>
      rw [List.mapM_cons]
      exact (h item).bind fun _ => ih.bind fun _ => free_of_ok _

end FreeOf

end ConfigError

open ConfigError

/-- A declared action has no names that other gates could have. -/
theorem ActionDraft.none_ruled_out_compile (draft : ActionDraft) :
    FreeOf RuledOut draft.compile := by
  have hmethod : FreeOf RuledOut draft.resolveMethod := by
    unfold resolveMethod
    split
    · exact free_of_ok _
    · split
      · exact free_of_ok _
      · exact free_of_error id
  have hstatus : FreeOf RuledOut draft.resolveStatus := by
    unfold resolveStatus
    split
    · exact free_of_ok _
    · split
      · exact free_of_ok _
      · exact free_of_error id
  unfold compile
  split
  · exact free_of_error id
  · exact hmethod.bind fun _ => hstatus.bind fun _ => free_of_ok _

namespace GateDraft

variable (draft : GateDraft)

theorem none_ruled_out_check_names (sectionName : String) (names : List String) :
    FreeOf RuledOut (draft.checkNames sectionName names) := by
  unfold checkNames
  split
  · exact free_of_error id
  · exact free_of_ok ()

theorem none_ruled_out_cache : FreeOf RuledOut draft.resolveCache := by
  unfold resolveCache
  split
  · exact free_of_ok _
  · exact free_of_ok _
  · exact free_of_error id

theorem none_ruled_out_check_versions (seen ids : List String) :
    FreeOf RuledOut (draft.checkVersions seen ids) := by
  induction ids generalizing seen with
  | nil => exact free_of_ok ()
  | cons id rest ih =>
      unfold checkVersions
      split
      · exact free_of_error fun h => h
      · exact ih _

theorem none_ruled_out_default_version : FreeOf RuledOut draft.checkDefaultVersion := by
  unfold checkDefaultVersion
  split
  · exact free_of_ok ()
  · split
    · exact free_of_ok ()
    · exact free_of_error fun h => h

theorem none_ruled_out_tokens (field : String) (found : List FilterOperator)
    (tokens : List String) : FreeOf RuledOut (resolveTokens field found tokens) := by
  induction tokens generalizing found with
  | nil => exact free_of_ok found
  | cons token rest ih =>
      unfold resolveTokens
      split
      · exact free_of_error id
      · exact ih _

theorem none_ruled_out_operators (entries : List (String × List String)) :
    FreeOf RuledOut (draft.resolveOperators entries) := by
  induction entries with
  | nil => exact free_of_ok []
  | cons entry rest ih =>
      exact (none_ruled_out_check_names draft _ _).bind fun _ =>
        (none_ruled_out_tokens _ _ _).bind fun _ => ih.bind fun _ => free_of_ok _

theorem none_ruled_out_compile (cache : Option CachePolicy) (version : Option String)
    (overlay : Overlay) : FreeOf RuledOut (draft.compile cache version overlay) := by
  have hnames := none_ruled_out_check_names draft
  unfold compile
  exact (hnames _ _).bind fun _ => (none_ruled_out_operators draft _).bind fun _ =>
    (hnames _ _).bind fun _ => (hnames _ _).bind fun _ => (hnames _ _).bind fun _ =>
      (FreeOf.map_m ActionDraft.none_ruled_out_compile _).bind fun _ => free_of_ok _

theorem none_ruled_out_compile_versions (cache : Option CachePolicy)
    (overlays : List (String × Overlay)) :
    FreeOf RuledOut (draft.compileVersions cache overlays) := by
  induction overlays with
  | nil => exact free_of_ok []
  | cons overlay rest ih =>
      exact (none_ruled_out_compile draft _ _ _).bind fun _ => ih.bind fun _ =>
        free_of_ok _

/-- What is wrong with the declaration of a gate concerns that gate only. -/
theorem none_ruled_out_build (hentity : draft.entity ≠ "") : FreeOf RuledOut draft.build := by
  unfold build
  rw [if_neg (by simpa using hentity)]
  exact (none_ruled_out_cache draft).bind fun _ =>
    (none_ruled_out_check_names draft _ _).bind fun _ =>
      (none_ruled_out_check_versions draft _ _).bind fun _ =>
        (none_ruled_out_default_version draft).bind fun _ =>
          (none_ruled_out_compile draft _ _ _).bind fun _ =>
            (none_ruled_out_compile_versions draft _ _).bind fun _ => free_of_ok _

/-! ## The names of a written gate -/

theorem names_declare_versions (versions : List VersionConfig) :
    (draft.declareVersions versions).entity = draft.entity ∧
      (draft.declareVersions versions).aliasName = draft.aliasName := by
  induction versions generalizing draft with
  | nil => exact ⟨rfl, rfl⟩
  | cons version rest ih =>
      exact ih (draft.declareVersion version.id fun overlay => overlay.replaceBy version.overlay)

/-- The names of a written gate are trimmed, and a blank alias is none. -/
theorem names_of_config {written : GateConfig} {draft : GateDraft}
    (h : ofConfig written = .ok draft) :
    draft.entity = Text.trim written.entity ∧
      draft.aliasName = written.aliasName.bind Text.nonBlank? := by
  obtain ⟨mode, -, h⟩ := except_bind_eq_ok h
  cases h
  obtain ⟨hentity, halias⟩ := names_declare_versions _ written.versions
  rw [hentity, halias]
  cases written.aliasName with
  | none => exact ⟨rfl, rfl⟩
  | some name =>
      simp only [entity_with_alias, alias_name_with_alias, Option.bind_some, make, and_self]

theorem of_config_error {written : GateConfig} {error : ConfigError}
    (h : ofConfig written = .error error) : modeOfConfig written = .error error := by
  unfold ofConfig at h
  cases hmode : modeOfConfig written with
  | error other =>
      rw [hmode] at h
      cases h
      rfl
  | ok mode =>
      rw [hmode] at h
      cases h

end GateDraft

namespace Deployment

/-- The gate that a written gate is built to. -/
def gateOf (written : GateConfig) : Except ConfigError Gate := do
  (← GateDraft.ofConfig written).build

/-- The names of a written gate: its entity type and its alias, if it has one. -/
def namesOf (written : GateConfig) : List String :=
  Text.trim written.entity :: (written.aliasName.bind Text.nonBlank?).toList

/-- No written gate has the digest of an entity type for a name. -/
def DigestsFree (entities : List String) (gates : List GateConfig) : Prop :=
  ∀ entity ∈ entities, ∀ written ∈ gates, Naming.shortHash entity ∉ namesOf written

variable {written : GateConfig} {gates : List GateConfig} {gate : Gate} {registry : GateRegistry}
  {taken next : TakenNames} {error : ConfigError}

/-- A built gate goes by the names that it was written with. -/
theorem names_of_built (h : gateOf written = .ok gate) :
    gate.entity = Text.trim written.entity ∧ gate.entity ≠ "" ∧
      gate.ownAlias = ownAlias (Text.trim written.entity) written := by
  obtain ⟨draft, hread, hbuild⟩ := except_bind_eq_ok h
  have hbuilds := GateDraft.build_eq_ok_iff.mp hbuild
  obtain ⟨hentity, halias⟩ := GateDraft.names_of_config hread
  have hentity' : gate.entity = Text.trim written.entity := by
    rw [← hentity, ← hbuilds.draft_eq, Gate.entity]
  have halias' : gate.aliasName = written.aliasName.bind Text.nonBlank? := by
    rw [← halias, ← hbuilds.draft_eq, Gate.aliasName]
  refine ⟨hentity', ?_, ?_⟩
  · rw [hentity', ← hentity]
    exact hbuilds.entity_ne
  · rw [Gate.ownAlias, ownAlias, hentity', halias']

theorem mem_names_of_alias {entity name : String} (h : ownAlias entity written = some name) :
    name ∈ namesOf written :=
  List.mem_cons_of_mem _ (Option.mem_toList.mpr (Option.filter_eq_some_iff.mp h).1)

/-- A written gate of an entity type and a known mode is refused for nothing that the checks rule
out. -/
theorem none_ruled_out_built (hentity : Text.trim written.entity ≠ "")
    (hcheck : checkGate written = .ok ()) : FreeOf RuledOut (gateOf written) := by
  obtain ⟨mode, hmode, -⟩ := except_bind_eq_ok hcheck
  cases hread : GateDraft.ofConfig written with
  | error error => cases hmode.symm.trans (GateDraft.of_config_error hread)
  | ok draft =>
      have hbuilt : gateOf written = draft.build := by rw [gateOf, hread]; rfl
      rw [hbuilt]
      refine GateDraft.none_ruled_out_build draft ?_
      rw [(GateDraft.names_of_config hread).1]
      exact hentity

/-- The mode and the cache of a gate are no reason to call a name taken. -/
theorem no_duplicate_check_gate (written : GateConfig) :
    FreeOf IsDuplicate (checkGate written) := by
  have hmode : FreeOf IsDuplicate (GateDraft.modeOfConfig written) := by
    unfold GateDraft.modeOfConfig PaginationMode.parse
    split
    · exact free_of_ok _
    · split
      · exact free_of_ok _
      · exact free_of_ok _
      · exact free_of_ok _
      · exact free_of_error id
  have hcache (policy : CachePolicy) : FreeOf IsDuplicate
      (if policy.ttl = 0 then throw (.invalidCacheTtl (Text.trim written.entity))
        else return ()) := by
    split
    · exact free_of_error id
    · exact free_of_ok ()
  unfold checkGate
  refine hmode.bind fun _ => ?_
  split
  · exact hcache _
  · exact free_of_ok ()

/-! ## One gate in the check of a deployment -/

/-- What has to hold of a written gate that takes names, and of the names taken afterwards. -/
structure Takes (taken : TakenNames) (written : GateConfig) (next : TakenNames) : Prop where
  entity_ne : Text.trim written.entity ≠ ""
  entity : Text.trim written.entity ∉ taken.entities ∧ Text.trim written.entity ∉ taken.aliases
  ownAlias : ∀ name, ownAlias (Text.trim written.entity) written = some name →
    name ∉ taken.entities ∧ name ∉ taken.aliases
  entities_eq : next.entities = taken.entities ++ [Text.trim written.entity]
  aliases_eq : next.aliases =
    taken.aliases ++ (Deployment.ownAlias (Text.trim written.entity) written).toList

theorem takes_of_ok (h : takeNames taken written = .ok next) : Takes taken written next := by
  unfold takeNames at h
  dsimp only at h
  split_ifs at h with hempty hentity halias
  split at h
  · next hnone =>
    cases h
    refine ⟨by simpa using hempty, by simpa using And.intro hentity halias, ?_, rfl, ?_⟩
    · rw [hnone]
      nofun
    · rw [hnone]
      exact (List.append_nil _).symm
  · next name hname =>
    split_ifs at h with htaken
    cases h
    refine ⟨by simpa using hempty, by simpa using And.intro hentity halias, ?_, rfl, ?_⟩
    · rw [hname]
      rintro _ ⟨⟩
      simpa using htaken
    · rw [hname]
      rfl

/-- Why a gate is refused when it takes names. -/
inductive Refuses (taken : TakenNames) (written : GateConfig) : ConfigError → Prop
  | empty (h : Text.trim written.entity = "") : Refuses taken written .emptyEntity
  | entity (h : Text.trim written.entity ∈ taken.entities) :
      Refuses taken written (.duplicateEntity (Text.trim written.entity))
  | entityAsAlias (h : Text.trim written.entity ∉ taken.entities)
      (h' : Text.trim written.entity ∈ taken.aliases) :
      Refuses taken written (.duplicateAlias (Text.trim written.entity))
  | ownAlias {name : String} (h : Text.trim written.entity ∉ taken.entities)
      (h' : Text.trim written.entity ∉ taken.aliases)
      (hname : ownAlias (Text.trim written.entity) written = some name)
      (htaken : name ∈ taken.entities ∨ name ∈ taken.aliases) :
      Refuses taken written (.duplicateAlias name)

theorem refuses_of_error (h : takeNames taken written = .error error) :
    Refuses taken written error := by
  unfold takeNames at h
  dsimp only at h
  split_ifs at h with hempty hentity halias
  · cases h
    exact .empty (by simpa using hempty)
  · cases h
    exact .entity (by simpa using hentity)
  · cases h
    exact .entityAsAlias (by simpa using hentity) (by simpa using halias)
  · split at h
    · cases h
    · next name hname =>
      split_ifs at h with htaken
      cases h
      exact .ownAlias (by simpa using hentity) (by simpa using halias) hname
        (by simpa using htaken)

end Deployment

/-! ## One gate in a registry -/

namespace GateRegistry

variable {registry : GateRegistry} {gate : Gate} {name : String}

theorem register_of_entity {place : Nat} (h : registry.placeOf? gate.entity = some place) :
    registry.register gate =
      if (registry.gates[place]?.map Gate.entity) = some gate.entity then
        .error (.duplicateEntity gate.entity)
      else .error (.duplicateAlias gate.entity) := by
  unfold register
  simp only [perform_enter, h, checkEntity]
  split_ifs
  · rfl
  · rfl

theorem register_of_alias (h : registry.placeOf? gate.entity = none)
    (hname : gate.ownAlias = some name) (htaken : (registry.placeOf? name).isSome) :
    registry.register gate = .error (.duplicateAlias name) := by
  unfold register
  simp only [perform_enter, h, hname, if_pos htaken]

theorem register_of_free (h : registry.placeOf? gate.entity = none)
    (hfree : ∀ name, gate.ownAlias = some name → registry.placeOf? name = none) :
    registry.register gate = .ok (registry.entered gate) := by
  unfold register
  cases halias : gate.ownAlias with
  | none => simp only [perform_enter, h, halias]
  | some name =>
      have hname := hfree name halias
      simp [perform_enter, h, halias, hname]

theorem place_of_put_free_name (registry : GateRegistry) (name other : String) (place : Nat) :
    (registry.putFreeName name place).placeOf? other =
      if other = name ∧ registry.placeOf? name = none then some place
      else registry.placeOf? other := by
  unfold putFreeName
  cases hname : registry.placeOf? name with
  | none =>
      rw [if_neg (by simp), place_of_put_name]
      simp
  | some found => simp

section Entered

variable (hentity : registry.placeOf? gate.entity = none)
  (halias : ∀ name, gate.ownAlias = some name → registry.placeOf? name = none)

/-- Where a name leads once a gate is entered: a digest that led somewhere before still leads
there. -/
theorem place_of_entered_eq :
    (registry.entered gate).placeOf? name =
      if name = gate.entity ∨ gate.ownAlias = some name ∨
        (name = gate.digest ∧ registry.placeOf? name = none) then some registry.gates.length
      else registry.placeOf? name := by
  rw [place_of_entered, withNames, place_of_put_free_name, place_of_put_name, place_of_put_name,
    place_of_with_alias, place_of_with_alias]
  grind

/-- The names that lead somewhere once a gate is entered. -/
theorem is_some_place_of_entered :
    ((registry.entered gate).placeOf? name).isSome ↔
      (registry.placeOf? name).isSome ∨ name = gate.entity ∨ gate.ownAlias = some name ∨
        name = gate.digest := by
  rw [place_of_entered_eq]
  split_ifs with hnew
  · exact iff_of_true rfl (.inr (hnew.imp_right (Or.imp_right And.left)))
  · refine ⟨.inl, fun h => h.elim id fun hname => ?_⟩
    -- Of the new names only a digest that led somewhere is left.
    by_contra hnone
    rw [Option.not_isSome_iff_eq_none] at hnone
    exact hnew (hname.imp_right (Or.imp_right fun hdigest => ⟨hdigest, hnone⟩))

include hentity halias

theorem place_of_entered_kept {place : Nat} (h : registry.placeOf? name = some place) :
    (registry.entered gate).placeOf? name = some place := by
  rw [place_of_entered_eq, if_neg, h]
  rintro (rfl | hname | ⟨-, hfree⟩)
  · cases hentity.symm.trans h
  · cases (halias name hname).symm.trans h
  · cases hfree.symm.trans h

end Entered

/-! ## Both in step -/

/-- The names that a registry knows are those taken by its gates in the check of a deployment, and
the digests of their entity types. -/
structure Matches (taken : Deployment.TakenNames) (registry : GateRegistry) : Prop where
  entities : registry.gates.map Gate.entity = taken.entities
  known : ∀ name, (registry.placeOf? name).isSome ↔
    name ∈ taken.entities ∨ name ∈ taken.aliases ∨ name ∈ taken.entities.map Naming.shortHash
  places : ∀ (place : Nat) gate, registry.gates[place]? = some gate →
    registry.placeOf? gate.entity = some place

theorem matches_empty : Matches {} empty where
  entities := rfl
  known name := by simp [empty, placeOf?]
  places place gate hgate := by cases hgate

namespace Matches

open Deployment

variable {taken next : TakenNames} {written : GateConfig} {error : ConfigError}

/-- A name that is not taken is free in the registry. -/
theorem place_eq_none (h : Matches taken registry) (hfree : DigestsFree taken.entities [written])
    (hname : name ∈ namesOf written) (htaken : name ∉ taken.entities ∧ name ∉ taken.aliases) :
    registry.placeOf? name = none := by
  refine Option.not_isSome_iff_eq_none.mp fun hknown => ?_
  rcases (h.known name).mp hknown with hentity | halias | hdigest
  · exact htaken.1 hentity
  · exact htaken.2 halias
  · obtain ⟨entity, hentity, rfl⟩ := List.mem_map.mp hdigest
    exact hfree entity hentity written (List.mem_singleton_self written) hname

/-- A gate whose names are free is registered, and both sides take the names. -/
theorem register_taken (h : Matches taken registry) (hbuilt : gateOf written = .ok gate)
    (hfree : DigestsFree taken.entities [written]) (htakes : Takes taken written next) :
    ∃ after, registry.register gate = .ok after ∧ Matches next after := by
  obtain ⟨hname, -, hown⟩ := names_of_built hbuilt
  have hentity : registry.placeOf? gate.entity = none := by
    rw [hname]
    exact h.place_eq_none hfree List.mem_cons_self htakes.entity
  have halias (name : String) (hname : gate.ownAlias = some name) :
      registry.placeOf? name = none := by
    rw [hown] at hname
    exact h.place_eq_none hfree (mem_names_of_alias hname) (htakes.ownAlias name hname)
  refine ⟨registry.entered gate, register_of_free hentity halias, ?_, fun name => ?_,
    fun place other hother => ?_⟩
  · rw [gates_entered, List.map_append, h.entities, htakes.entities_eq, ← hname]
    rfl
  · rw [is_some_place_of_entered, h.known, htakes.entities_eq, htakes.aliases_eq, ← hown, ← hname]
    simp only [List.mem_append, List.map_append, List.map_cons, List.map_nil, List.mem_singleton,
      Option.mem_toList, Gate.digest]
    grind
  · rw [gates_entered] at hother
    rcases getElem_concat_iff.mp hother with hbefore | ⟨rfl, rfl⟩
    · exact place_of_entered_kept hentity halias (h.places place other hbefore)
    · rw [place_of_entered_eq, if_pos (.inl rfl)]

/-- A gate that may not take its names is refused by the registry for the same reason. -/
theorem register_refused (h : Matches taken registry) (hbuilt : gateOf written = .ok gate)
    (hfree : DigestsFree taken.entities [written]) (hrefuses : Refuses taken written error) :
    registry.register gate = .error error := by
  obtain ⟨hname, hne, hown⟩ := names_of_built hbuilt
  cases hrefuses with
  | empty hempty => exact (hne (hname.trans hempty)).elim
  | entity hentity =>
      rw [← hname] at hentity ⊢
      rw [← h.entities] at hentity
      obtain ⟨other, hother, heq⟩ := List.mem_map.mp hentity
      obtain ⟨place, hplace⟩ := List.mem_iff_getElem?.mp hother
      have hfound := h.places place other hplace
      rw [heq] at hfound
      rw [register_of_entity hfound, hplace, Option.map_some, heq, if_pos rfl]
  | entityAsAlias hentity halias =>
      rw [← hname] at hentity halias ⊢
      have hknown := (h.known gate.entity).mpr (.inr (.inl halias))
      obtain ⟨place, hplace⟩ := Option.isSome_iff_exists.mp hknown
      rw [register_of_entity hplace, if_neg]
      intro hsame
      obtain ⟨other, hother, heq⟩ := Option.map_eq_some_iff.mp hsame
      rw [← h.entities] at hentity
      exact hentity (List.mem_map.mpr ⟨other, List.mem_of_getElem? hother, heq⟩)
  | ownAlias hentity halias halias' htaken =>
      have hplace := h.place_eq_none hfree List.mem_cons_self ⟨hentity, halias⟩
      rw [← hname] at hplace
      rw [← hown] at halias'
      refine register_of_alias hplace halias' ((h.known _).mpr ?_)
      exact htaken.imp_right .inl

end Matches

end GateRegistry

namespace Deployment

variable {gates : List GateConfig} {registry : GateRegistry} {taken : TakenNames}
  {error : ConfigError}

/-- The entity types of written gates. -/
def entitiesOf (gates : List GateConfig) : List String :=
  gates.map fun written => Text.trim written.entity

section Split

variable {written : GateConfig}
  (h : DigestsFree (taken.entities ++ entitiesOf (written :: gates)) (written :: gates))

include h

theorem DigestsFree.first : DigestsFree taken.entities [written] := by
  intro entity hentity other hother
  obtain rfl := List.mem_singleton.mp hother
  exact h entity (List.mem_append_left _ hentity) other List.mem_cons_self

/-- The gates that follow are left with the names that are taken by then. -/
theorem DigestsFree.others {next : TakenNames} (htakes : Takes taken written next) :
    DigestsFree (next.entities ++ entitiesOf gates) gates := by
  intro entity hentity other hother
  refine h entity ?_ other (List.mem_cons_of_mem _ hother)
  simpa [htakes.entities_eq, entitiesOf] using hentity

end Split

theorem register_all_cons (registry : GateRegistry) (written : GateConfig)
    (rest : List GateConfig) :
    registerAll registry (written :: rest) =
      gateOf written >>= fun gate =>
        registry.register gate >>= fun after => registerAll after rest := by
  unfold gateOf
  cases hread : GateDraft.ofConfig written with
  | error error => simp only [registerAll, hread]; rfl
  | ok draft => simp only [registerAll, hread]; rfl

/-- Of gates that pass the checks, none is refused for something that the checks rule out. -/
theorem none_ruled_out_register_all (hmatches : registry.Matches taken)
    (hfree : DigestsFree (taken.entities ++ entitiesOf gates) gates)
    (hcheck : checkGates taken gates = .ok ()) : FreeOf RuledOut (registerAll registry gates) := by
  induction gates generalizing taken registry with
  | nil => exact free_of_ok registry
  | cons written rest ih =>
      obtain ⟨next, htake, hcheck⟩ := except_bind_eq_ok hcheck
      obtain ⟨_, hgate, hrest⟩ := except_bind_eq_ok hcheck
      have htakes := takes_of_ok htake
      have hbuilds := none_ruled_out_built htakes.entity_ne hgate
      rw [register_all_cons]
      cases hbuilt : gateOf written with
      | error error => exact free_of_error (hbuilds error hbuilt)
      | ok gate =>
          obtain ⟨after, hafter, hmatches'⟩ := hmatches.register_taken hbuilt hfree.first htakes
          show FreeOf RuledOut (registry.register gate >>= fun after => registerAll after rest)
          rw [hafter]
          exact ih hmatches' (hfree.others htakes) hrest

/-- The gates that come first pass the checks and are registered; the next one is refused by the
checks and by the registry for the same reason. -/
def RefusedAlike (taken : TakenNames) (registry : GateRegistry) (gates : List GateConfig)
    (error : ConfigError) : Prop :=
  ∃ before written after registered gate,
    gates = before ++ written :: after ∧
    checkGates taken before = .ok () ∧ checkGates taken (before ++ [written]) = .error error ∧
    registerAll registry before = .ok registered ∧ gateOf written = .ok gate ∧
    registered.register gate = .error error

/-- What holds of the other gates once one is registered holds of all of them. -/
theorem RefusedAlike.cons {next : TakenNames} {written : GateConfig} {gate : Gate}
    {after : GateRegistry} (htake : takeNames taken written = .ok next)
    (hgate : checkGate written = .ok ()) (hbuilt : gateOf written = .ok gate)
    (hafter : registry.register gate = .ok after)
    (hrest : RefusedAlike next after gates error) :
    RefusedAlike taken registry (written :: gates) error := by
  have hchecked (others : List GateConfig) :
      checkGates taken (written :: others) = checkGates next others := by
    rw [checkGates, htake]
    show (checkGate written >>= fun _ => checkGates next others) = _
    rw [hgate]
    rfl
  have hregistered (others : List GateConfig) :
      registerAll registry (written :: others) = registerAll after others := by
    rw [register_all_cons, hbuilt]
    show (registry.register gate >>= fun after => registerAll after others) = _
    rw [hafter]
    rfl
  obtain ⟨before, refused, others, registered, last, rfl, hrest⟩ := hrest
  refine ⟨written :: before, refused, others, registered, last, rfl, ?_⟩
  rw [List.cons_append, hchecked, hchecked, hregistered]
  exact hrest

/-- A name that the checks find taken is found taken at registration, at the same gate. -/
theorem refused_alike_of_duplicate (hmatches : registry.Matches taken)
    (hfree : DigestsFree (taken.entities ++ entitiesOf gates) gates)
    (hbuilds : ∀ written ∈ gates, ∃ gate, gateOf written = .ok gate)
    (hduplicate : error.IsDuplicate) (hcheck : checkGates taken gates = .error error) :
    RefusedAlike taken registry gates error := by
  induction gates generalizing taken registry with
  | nil => cases hcheck
  | cons written rest ih =>
      obtain ⟨gate, hbuilt⟩ := hbuilds written List.mem_cons_self
      cases htake : takeNames taken written with
      | error found =>
          have hchecked (others : List GateConfig) :
              checkGates taken (written :: others) = .error found := by
            rw [checkGates, htake]
            rfl
          obtain rfl : found = error := by simpa [hchecked] using hcheck
          have hrefused := hmatches.register_refused hbuilt hfree.first (refuses_of_error htake)
          exact ⟨[], written, rest, registry, gate, rfl, rfl, hchecked [], rfl, hbuilt, hrefused⟩
      | ok next =>
          rw [checkGates, htake] at hcheck
          replace hcheck : (checkGate written >>= fun _ => checkGates next rest) = .error error :=
            hcheck
          cases hgate : checkGate written with
          | error found =>
              rw [hgate] at hcheck
              cases hcheck
              exact (no_duplicate_check_gate written _ hgate hduplicate).elim
          | ok done =>
              rw [hgate] at hcheck
              have htakes := takes_of_ok htake
              obtain ⟨after, hafter, hmatches'⟩ := hmatches.register_taken hbuilt hfree.first htakes
              have hrest : RefusedAlike next after rest error :=
                ih hmatches' (hfree.others htakes)
                  (fun other hother => hbuilds other (List.mem_cons_of_mem _ hother)) hcheck
              exact hrest.cons htake hgate hbuilt hafter

end Deployment

open Deployment in
/-- The checks of a deployment and the registration of its gates agree on names. If no gate has the
digest of an entity type for a name, a deployment that passes the checks is resolved to a registry
or fails for a mistake within one gate; and if the checks find a name taken and every gate can be
built, then registering the gates one after another in an empty registry fails for the same reason,
at the gate where the checks fail. Whether the digests differ does not matter, since a digest that
is taken is left out. -/
theorem validation_agrees_with_registration (deployment : Deployment)
    (hfree : DigestsFree (entitiesOf deployment.gates) deployment.gates) :
    (deployment.validate = .ok () → ∀ error, deployment.resolve = .error error →
      (∀ name, error ≠ .duplicateEntity name ∧ error ≠ .duplicateAlias name) ∧
        error ≠ .emptyEntity ∧ ∀ mode, error ≠ .invalidPaginationMode mode) ∧
    ∀ name error, error = .duplicateEntity name ∨ error = .duplicateAlias name →
      deployment.validate = .error error →
      (∀ written ∈ deployment.gates, ∃ gate, gateOf written = .ok gate) →
      RefusedAlike {} .empty deployment.gates error := by
  constructor
  · intro hvalid error hresolve
    obtain ⟨_, -, hcheck⟩ := except_bind_eq_ok hvalid
    have hresolve' : registerAll .empty deployment.gates = .error error := by
      rw [resolve, hvalid] at hresolve
      exact hresolve
    have hkind :=
      none_ruled_out_register_all GateRegistry.matches_empty hfree hcheck error hresolve'
    refine ⟨fun name => ⟨?_, ?_⟩, ?_, fun mode => ?_⟩
    all_goals
      rintro rfl
      exact hkind trivial
  · intro name error hname hvalid hbuilds
    have hduplicate : error.IsDuplicate := by
      rcases hname with rfl | rfl
      · trivial
      · trivial
    have hcheck : checkGates {} deployment.gates = .error error := by
      rw [validate] at hvalid
      cases hformat : deployment.checkFormat with
      | ok done =>
          rw [hformat] at hvalid
          exact hvalid
      | error found =>
          rw [hformat] at hvalid
          cases hvalid
          unfold checkFormat at hformat
          dsimp only at hformat
          split at hformat
          · cases hformat
          · cases hformat
            exact hduplicate.elim
    exact refused_alike_of_duplicate GateRegistry.matches_empty hfree hbuilds hduplicate hcheck

/-- Comments under an alias that the next gate has for an entity type. -/
def crossedDeployment : Deployment where
  gates :=
    [{ entity := "Comment", aliasName := some " Post " }, { entity := "Post" }]

/-- The gate whose entity type is an alias already is the one that both refuse. -/
theorem crossed_names_refused :
    crossedDeployment.validate = .error (.duplicateAlias "Post") ∧
      Deployment.RefusedAlike {} .empty crossedDeployment.gates (.duplicateAlias "Post") := by
  have hfree : Deployment.DigestsFree (Deployment.entitiesOf crossedDeployment.gates)
      crossedDeployment.gates := by
    unfold Deployment.DigestsFree
    decide +kernel
  have hvalid : crossedDeployment.validate = .error (.duplicateAlias "Post") := by
    rfl
  have hbuilds : ∀ written ∈ crossedDeployment.gates,
      ∃ gate, Deployment.gateOf written = .ok gate := by
    intro written hwritten
    simp only [crossedDeployment, List.mem_cons, List.not_mem_nil, or_false] at hwritten
    rcases hwritten with rfl | rfl
    · exact ⟨_, rfl⟩
    · exact ⟨_, rfl⟩
  exact ⟨hvalid, (validation_agrees_with_registration crossedDeployment hfree).2 "Post" _ (.inr rfl)
    hvalid hbuilds⟩

end EntityGate

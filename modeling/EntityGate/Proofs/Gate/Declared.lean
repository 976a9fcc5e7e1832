import EntityGate.Config.Declaration
import EntityGate.Proofs.Gate.Versions
import EntityGate.Proofs.Text.Blank

/-!
# Declared gates

A gate is declared step by step or comes from a written gate. Either way its entity type and its
alias have no white space around them: see `GateDraft.Declared.trimmed`.
-/

namespace EntityGate

/-! ## Single steps -/

namespace GateStep

/-- The name of the version that is declared, if one is. -/
def versionName? : GateStep → Option String
  | .version id _ => some (Text.trim id)
  | _ => none

/-- The version that is declared to be the default, if one is. -/
def defaultName? : GateStep → Option String
  | .defaultVersion id => some id
  | _ => none

/-- The names of the versions that are declared, in order. -/
def versionNames (list : List GateStep) : List String := list.filterMap versionName?

/-- The version for requests that ask for none: the one that is declared last to be the default,
else the last one that is declared. -/
def defaultName (list : List GateStep) : Option String :=
  (list.filterMap defaultName?).getLast? <|> (versionNames list).getLast?

end GateStep

namespace GateDraft

/-- A step declares a version, or it leaves the versions and what is kept from before them alone. -/
theorem step_cases (draft : GateDraft) (step : GateStep) :
    (∃ id change, step = .version id change) ∨
      (step.versionName? = none ∧
        (draft.step step).entity = draft.entity ∧
        (draft.step step).versions = draft.versions ∧
        (draft.step step).beforeVersions = draft.beforeVersions ∧
        (draft.step step).defaultVersion = (step.defaultName? <|> draft.defaultVersion)) := by
  cases step with
  | version id change => exact .inl ⟨id, change, rfl⟩
  | aliasName name =>
      simp only [GateDraft.step, withAlias]
      exact .inr ⟨rfl, trivial, trivial, trivial, rfl⟩
  | _ => exact .inr ⟨rfl, rfl, rfl, rfl, rfl⟩

/-! ## Declared gates -/

/-- The declaration was made step by step or comes from a written gate. -/
inductive Declared : GateDraft → Prop
  | make (entity : String) : Declared (make entity)
  | step {draft : GateDraft} (h : Declared draft) (step : GateStep) : Declared (draft.step step)
  | ofConfig {written : GateConfig} {draft : GateDraft} (h : ofConfig written = .ok draft) :
      Declared draft

theorem Declared.steps {draft : GateDraft} (h : draft.Declared) (list : List GateStep) :
    (draft.steps list).Declared :=
  List.foldlRecOn (motive := Declared) list GateDraft.step h fun _ hdraft step _ => hdraft.step step

/-- The names of a declared gate have no white space around them. -/
structure Trimmed (draft : GateDraft) : Prop where
  entity_eq : Text.trim draft.entity = draft.entity
  alias_eq : ∀ name, draft.aliasName = some name → Text.nonBlank? name = some name

theorem Trimmed.trim_alias {draft : GateDraft} (h : draft.Trimmed) {name : String}
    (hname : draft.aliasName = some name) : Text.trim name = name :=
  Text.trim_of_non_blank (h.alias_eq name hname)

theorem trimmed_make (entity : String) : (make entity).Trimmed :=
  ⟨Text.trim_trim entity, nofun⟩

@[simp] theorem entity_with_alias (draft : GateDraft) (name : String) :
    (draft.withAlias name).entity = draft.entity := by
  simp only [withAlias]

@[simp] theorem alias_name_with_alias (draft : GateDraft) (name : String) :
    (draft.withAlias name).aliasName = Text.nonBlank? name := by
  simp only [withAlias]

theorem Trimmed.with_alias {draft : GateDraft} (h : draft.Trimmed) (name : String) :
    (draft.withAlias name).Trimmed := by
  constructor
  · rw [entity_with_alias]
    exact h.entity_eq
  · intro other hname
    rw [alias_name_with_alias] at hname
    exact Text.non_blank_of_non_blank hname

theorem Trimmed.step {draft : GateDraft} (h : draft.Trimmed) (step : GateStep) :
    (draft.step step).Trimmed := by
  cases step with
  | aliasName name => exact h.with_alias name
  | _ => exact ⟨h.entity_eq, h.alias_eq⟩

theorem Trimmed.declare_versions {draft : GateDraft} (h : draft.Trimmed)
    (versions : List VersionConfig) : (draft.declareVersions versions).Trimmed :=
  List.foldlRecOn (motive := Trimmed) versions _ h
    fun _ hdraft _ _ => ⟨hdraft.entity_eq, hdraft.alias_eq⟩

theorem trimmed_of_config {written : GateConfig} {draft : GateDraft}
    (h : ofConfig written = .ok draft) : draft.Trimmed := by
  obtain ⟨mode, -, h⟩ := except_bind_eq_ok h
  cases h
  refine Trimmed.declare_versions ?_ written.versions
  cases written.aliasName with
  | none => exact ⟨Text.trim_trim written.entity, nofun⟩
  | some name =>
      obtain ⟨hentity, halias⟩ := (trimmed_make written.entity).with_alias name
      exact ⟨by simpa only using hentity, by simpa only using halias⟩

theorem Declared.trimmed {draft : GateDraft} (h : draft.Declared) : draft.Trimmed := by
  induction h with
  | make entity => exact trimmed_make entity
  | step _ step ih => exact ih.step step
  | ofConfig hread => exact trimmed_of_config hread

end GateDraft

namespace Gate

/-- The gate was declared and passed all checks. -/
def Declared (gate : Gate) : Prop := ∃ draft : GateDraft, draft.Declared ∧ draft.build = .ok gate

theorem Declared.trimmed {gate : Gate} (h : gate.Declared) : gate.draft.Trimmed := by
  obtain ⟨draft, hdeclared, hbuild⟩ := h
  rw [(GateDraft.build_eq_ok_iff.mp hbuild).draft_eq]
  exact hdeclared.trimmed

end Gate

end EntityGate

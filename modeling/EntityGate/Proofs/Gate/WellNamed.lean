import EntityGate.Proofs.Config.Overlays
import EntityGate.Proofs.Gate.Snapshots

/-!
# Names of actions

The name of an action is trimmed when the action is declared, and an action that is declared under
the name of another one takes its place. So every overlay that is declared step by step has actions
with trimmed names, each name once: see `Overlay.WellNamed.steps`. This carries over to all overlays
of a gate: see `GateDraft.WellNamed.steps`. The actions of a written version are taken over as
they are written, so that a gate that is read has distinct names exactly if the names of each
version are written apart: see `GateDraft.StartsFrom.actions_apart_iff`.
-/

namespace EntityGate

/-- Whatever is declared about an action, its name stays as it was trimmed. -/
theorem ActionDraft.name_steps (draft : ActionDraft) (list : List ActionStep) :
    (draft.steps list).name = draft.name := by
  unfold steps
  induction list generalizing draft with
  | nil => rfl
  | cons change rest ih =>
      refine (ih (draft.step change)).trans ?_
      cases change with
      | ability name =>
          unfold ActionDraft.step
          dsimp only
          split <;> rfl
      | _ => rfl

theorem ActionDraft.trim_name_made (name : String) (list : List ActionStep) :
    Text.trim ((make name).steps list).name = ((make name).steps list).name := by
  rw [name_steps]
  exact Text.trim_trim name

/-! ## Overlays -/

/-- The actions of the overlay have names without white space around them, each one its own. -/
structure Overlay.WellNamed (overlay : Overlay) : Prop where
  trimmed : ∀ draft ∈ overlay.actions.getD [], Text.trim draft.name = draft.name
  distinct : ((overlay.actions.getD []).map ActionDraft.name).Nodup

/-- The actions that are declared have trimmed names, as every action has: see
`ActionDraft.trim_name_made`. -/
def OverlayStep.WellNamed : OverlayStep → Prop
  | .action draft => Text.trim draft.name = draft.name
  | .actions drafts => ∀ draft ∈ drafts, Text.trim draft.name = draft.name
  | _ => True

namespace Overlay

variable {overlay : Overlay}

theorem well_named_empty : WellNamed {} := ⟨nofun, List.nodup_nil⟩

theorem WellNamed.add_action (h : overlay.WellNamed) {draft : ActionDraft}
    (hdraft : Text.trim draft.name = draft.name) : (overlay.addAction draft).WellNamed := by
  refine ⟨fun other hother => ?_, nodup_put_action h.distinct draft⟩
  rcases mem_put_action hother with rfl | hother
  · exact hdraft
  · exact h.trimmed other hother

theorem WellNamed.add_actions (h : overlay.WellNamed) {drafts : List ActionDraft}
    (hdrafts : ∀ draft ∈ drafts, Text.trim draft.name = draft.name) :
    (drafts.foldl addAction overlay).WellNamed :=
  List.foldlRecOn (motive := WellNamed) drafts addAction h
    fun _ hoverlay draft hmem => hoverlay.add_action (hdrafts draft hmem)

/-- Each step keeps the names trimmed and distinct. -/
theorem WellNamed.step (h : overlay.WellNamed) {change : OverlayStep} (hchange : change.WellNamed) :
    (overlay.step change).WellNamed := by
  cases change with
  | action draft => exact h.add_action hchange
  | actions drafts => exact h.add_actions hchange
  | withoutAction name =>
      have hkept : ((overlay.step (.withoutAction name)).actions.getD []).Sublist
          (overlay.actions.getD []) := by
        unfold Overlay.step
        cases overlay.actions with
        | none => exact List.Sublist.refl _
        | some drafts => exact List.filter_sublist
      exact ⟨fun draft hdraft => h.trimmed draft (hkept.subset hdraft),
        h.distinct.sublist (hkept.map _)⟩
  | _ => exact ⟨h.trimmed, h.distinct⟩

theorem WellNamed.steps (h : overlay.WellNamed) {changes : List OverlayStep}
    (hchanges : ∀ change ∈ changes, change.WellNamed) : (overlay.steps changes).WellNamed :=
  List.foldlRecOn (motive := WellNamed) changes Overlay.step h
    fun _ hoverlay change hmem => hoverlay.step (hchanges change hmem)

end Overlay

/-! ## Declarations of gates -/

/-- The actions that are declared have trimmed names, and a version makes a well-named overlay of a
well-named one, as it does where it is declared step by step: see `Overlay.WellNamed.steps`. -/
def GateStep.WellNamed : GateStep → Prop
  | .overlay change => change.WellNamed
  | .version _ change => ∀ overlay : Overlay, overlay.WellNamed → (change overlay).WellNamed
  | _ => True

namespace GateDraft

/-- The entity type and the names of the versions are trimmed, and the actions of each version and
of what is on top have trimmed names, each one its own. -/
structure WellNamed (draft : GateDraft) : Prop where
  entity : Text.trim draft.entity = draft.entity
  overlay : draft.overlay.WellNamed
  versions : ∀ version ∈ draft.versions,
    Text.trim version.1 = version.1 ∧ version.2.WellNamed

variable {draft : GateDraft}

theorem well_named_make (entity : String) : (make entity).WellNamed :=
  ⟨Text.trim_trim entity, Overlay.well_named_empty, nofun⟩

theorem WellNamed.declare_version (h : draft.WellNamed) (id : String) (change : Overlay → Overlay)
    (hchange : (change draft.overlay).WellNamed) : (draft.declareVersion id change).WellNamed := by
  refine ⟨h.entity, hchange, fun version hversion => ?_⟩
  rcases List.mem_append.mp hversion with hbefore | hlast
  · exact h.versions version hbefore
  · obtain rfl := List.mem_singleton.mp hlast
    exact ⟨Text.trim_trim id, hchange⟩

/-- Each step keeps the names in order. -/
theorem WellNamed.step (h : draft.WellNamed) {step : GateStep} (hstep : step.WellNamed) :
    (draft.step step).WellNamed := by
  cases step with
  | overlay change => exact ⟨h.entity, h.overlay.step hstep, h.versions⟩
  | version id change => exact h.declare_version id change (hstep _ h.overlay)
  | aliasName name =>
      simp only [GateDraft.step, withAlias]
      exact ⟨h.entity, h.overlay, h.versions⟩
  | _ => exact ⟨h.entity, h.overlay, h.versions⟩

theorem WellNamed.steps (h : draft.WellNamed) {list : List GateStep}
    (hlist : ∀ step ∈ list, step.WellNamed) : (draft.steps list).WellNamed :=
  List.foldlRecOn (motive := WellNamed) list GateDraft.step h
    fun _ hdraft step hmem => hdraft.step (hlist step hmem)

end GateDraft

/-! ## Written gates -/

theorem ActionDraft.name_of_config (name : String) (config : Option ActionConfig) :
    (ofConfig name config).name = Text.trim name := by
  cases config with
  | none => rfl
  | some written => rfl

theorem ActionDraft.names_of_config (actions : TextMap (Option ActionConfig)) :
    (listOfConfig actions).map name = actions.keys.map Text.trim := by
  rw [listOfConfig, TextMap.keys, List.map_map, List.map_map]
  exact List.map_congr_left fun entry _ => name_of_config entry.1 entry.2

theorem ActionDraft.trim_name_of_config {actions : TextMap (Option ActionConfig)} :
    ∀ draft ∈ listOfConfig actions, Text.trim draft.name = draft.name := by
  intro draft hdraft
  obtain ⟨entry, -, rfl⟩ := List.mem_map.mp hdraft
  rw [name_of_config]
  exact Text.trim_trim entry.1

/-- No two actions have written names that are one name when white space around them is left out. -/
def OverlayConfig.ActionsApart (written : OverlayConfig) : Prop :=
  ((written.actions.getD .empty).keys.map Text.trim).Nodup

instance (written : OverlayConfig) : Decidable written.ActionsApart :=
  inferInstanceAs (Decidable (List.Nodup _))

/-- The actions of each version have distinct names, and so have those of the version without a
name. -/
def Gate.ActionsApart (gate : Gate) : Prop :=
  ∀ version ∈ gate.base :: gate.versions.map Prod.snd, (version.actions.map Action.name).Nodup

namespace Overlay

variable {overlay : Overlay} {written : OverlayConfig}

theorem actions_apart_of_replace_by
    (h : (((overlay.replaceBy written).actions.getD []).map ActionDraft.name).Nodup) :
    written.ActionsApart := by
  unfold OverlayConfig.ActionsApart
  unfold replaceBy at h
  cases hactions : written.actions with
  | none => exact List.nodup_nil
  | some actions =>
      rw [hactions] at h
      rw [Option.getD_some, ← ActionDraft.names_of_config]
      exact h

theorem WellNamed.replace_by (h : overlay.WellNamed) (hwritten : written.ActionsApart) :
    (overlay.replaceBy written).WellNamed := by
  unfold OverlayConfig.ActionsApart at hwritten
  unfold replaceBy
  cases hactions : written.actions with
  | none => exact ⟨h.trimmed, h.distinct⟩
  | some actions =>
      rw [hactions, Option.getD_some, ← ActionDraft.names_of_config] at hwritten
      exact ⟨ActionDraft.trim_name_of_config, hwritten⟩

end Overlay

namespace GateDraft

variable {draft : GateDraft} {gate : Gate} {versions : List VersionConfig}

/-- The steps of a written overlay declare actions with trimmed names. -/
theorem well_named_overlay_steps (written : OverlayConfig) :
    ∀ change ∈ overlaySteps written, change.WellNamed := by
  intro change hchange
  simp only [Overlay.overlay_steps_eq, List.mem_append, List.mem_map] at hchange
  rcases hchange with hother | ⟨action, haction, rfl⟩
  · -- The steps of the other parts declare no actions.
    rcases hother with ((⟨_, -, rfl⟩ | ⟨_, -, rfl⟩) | ⟨_, -, rfl⟩) | ⟨_, -, rfl⟩ <;> trivial
  · exact ActionDraft.trim_name_of_config action haction

/-- The step that declares a written version. -/
def versionStep (version : VersionConfig) : GateStep :=
  .version version.id fun overlay => overlay.replaceBy version.overlay

theorem declare_versions_eq (draft : GateDraft) (versions : List VersionConfig) :
    draft.declareVersions versions = draft.steps (versions.map versionStep) := by
  rw [steps, List.foldl_map]
  rfl

/-- Each written version is declared from what stands before it. -/
theorem mem_declare_versions (draft : GateDraft) {version : VersionConfig}
    (h : version ∈ versions) : ∃ before : Overlay,
      (Text.trim version.id, before.replaceBy version.overlay) ∈
        (draft.declareVersions versions).versions := by
  induction versions generalizing draft with
  | nil => cases h
  | cons first rest ih =>
      rcases List.mem_cons.mp h with rfl | h
      · have hkept := (draft.step (versionStep version)).continues_steps
          (rest.map versionStep)
        rw [← declare_versions_eq] at hkept
        exact ⟨draft.overlay, hkept.versions_kept.subset (by simp [versionStep, step,
          declareVersion])⟩
      · exact ih (draft.step (versionStep first)) h

theorem WellNamed.declare_versions (h : draft.WellNamed)
    (hversions : ∀ version ∈ versions, version.overlay.ActionsApart) :
    (draft.declareVersions versions).WellNamed := by
  rw [declare_versions_eq]
  refine h.steps (List.forall_mem_map.mpr fun version hversion before hbefore => ?_)
  exact hbefore.replace_by (hversions version hversion)

/-- A declaration starts from an entity type, or it is read with its versions. -/
inductive StartsFrom : List VersionConfig → GateDraft → Prop
  | make (entity : String) : StartsFrom [] (make entity)
  | ofConfig {written : GateConfig} {draft : GateDraft} (h : ofConfig written = .ok draft) :
      StartsFrom written.versions draft

/-- What is read is well-named if each version has its actions written apart. -/
theorem StartsFrom.well_named (h : StartsFrom versions draft)
    (happart : ∀ version ∈ versions, version.overlay.ActionsApart) : draft.WellNamed := by
  cases h with
  | make entity => exact well_named_make entity
  | @ofConfig written _ hread =>
      obtain ⟨mode, -, hread⟩ := except_bind_eq_ok hread
      cases hread
      have hoverlay : (({} : Overlay).steps (overlaySteps written.overlay)).WellNamed :=
        Overlay.well_named_empty.steps (well_named_overlay_steps written.overlay)
      refine WellNamed.declare_versions ?_ happart
      cases written.aliasName with
      | none => exact ⟨Text.trim_trim written.entity, hoverlay, List.forall_mem_nil _⟩
      | some name =>
          simp only [withAlias]
          exact ⟨Text.trim_trim written.entity, hoverlay, List.forall_mem_nil _⟩

/-- Each version that is read is declared. -/
theorem StartsFrom.mem_versions (h : StartsFrom versions draft) {version : VersionConfig}
    (hversion : version ∈ versions) : ∃ before : Overlay,
      (Text.trim version.id, before.replaceBy version.overlay) ∈ draft.versions := by
  cases h with
  | make entity => cases hversion
  | ofConfig hread =>
      obtain ⟨mode, -, hread⟩ := except_bind_eq_ok hread
      cases hread
      exact mem_declare_versions _ hversion

/-- A gate has distinct names of actions exactly if its overlays have. -/
theorem Builds.actions_apart_iff (h : draft.Builds gate) : gate.ActionsApart ↔
    ∀ overlay ∈ draft.overlay :: draft.versions.map Prod.snd,
      ((overlay.actions.getD []).map ActionDraft.name).Nodup := by
  have hbase := (compile_eq_ok_iff.mp h.base).action_names
  have hversions : (gate.versions.map fun version => version.2.actions.map Action.name) =
      draft.versions.map fun version => (version.2.actions.getD []).map ActionDraft.name :=
    map_eq_of_forall₂ (compile_versions_eq_ok_iff.mp h.versions)
      fun _ _ hcompiled => hcompiled.2.action_names
  unfold Gate.ActionsApart
  rw [List.forall_mem_cons, List.forall_mem_cons, hbase, List.forall_mem_map, List.forall_mem_map,
    ← List.forall_mem_map, hversions, List.forall_mem_map]

/-- What is read, with whatever is declared afterwards, is built with distinct names of actions
exactly if the names of each version that is read are written apart. -/
theorem StartsFrom.actions_apart_iff {list : List GateStep} (hstart : StartsFrom versions draft)
    (hlist : ∀ step ∈ list, step.WellNamed)
    (h : (draft.steps list).Builds gate) :
    gate.ActionsApart ↔ ∀ version ∈ versions, version.overlay.ActionsApart := by
  rw [h.actions_apart_iff]
  constructor
  · intro hdistinct version hversion
    obtain ⟨before, hmem⟩ := hstart.mem_versions hversion
    have hkept := (draft.continues_steps list).versions_kept.subset hmem
    exact Overlay.actions_apart_of_replace_by
      (hdistinct _ (List.mem_cons_of_mem _ (List.mem_map_of_mem hkept)))
  · intro happart
    have hnamed := (hstart.well_named happart).steps hlist
    exact List.forall_mem_cons.mpr ⟨hnamed.overlay.distinct,
      List.forall_mem_map.mpr fun version hversion => (hnamed.versions version hversion).2.distinct⟩

end GateDraft

end EntityGate

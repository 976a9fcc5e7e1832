import EntityGate.Proofs.Config.Overlays
import EntityGate.Proofs.Gate.Versions

/-!
# Gates whose rules are parted

Rules that are given as texts are parted into tokens when they are declared, and rules that are
given as tokens are kept as they are. The normal form of a declaration has all its rules parted. It
is built like the declaration itself: see `GateDraft.Builds.normalized`. A declaration that is given
its rules as texts is in normal form: see `GateDraft.normalized_steps`.
-/

namespace EntityGate

/-! ## Normal forms -/

/-- The action with its rules parted into tokens. -/
def Action.normalized (action : Action) : Action :=
  { action with rules := action.rules.normalized }

/-- The version with all its rules parted into tokens. -/
def GateVersion.normalized (version : GateVersion) : GateVersion :=
  { version with
    filters := version.filters.normalized
    actions := version.actions.map Action.normalized }

/-- The declared action with its rules parted into tokens. -/
def ActionDraft.normalized (draft : ActionDraft) : ActionDraft :=
  { draft with rules := draft.rules.map RuleMap.normalized }

/-- The overlay with all its rules parted into tokens. -/
def Overlay.normalized (overlay : Overlay) : Overlay :=
  { overlay with
    filters := overlay.filters.map RuleMap.normalized
    actions := overlay.actions.map (List.map ActionDraft.normalized) }

/-- The declaration with all its rules parted into tokens. -/
def GateDraft.normalized (draft : GateDraft) : GateDraft :=
  { draft with
    overlay := draft.overlay.normalized
    beforeVersions := draft.beforeVersions.map Overlay.normalized
    versions := draft.versions.map fun version => (version.1, version.2.normalized) }

/-! ## Written forms of normal forms -/

theorem ActionConfig.normalized_eq_default_iff (config : ActionConfig) :
    config.normalized = {} ↔ config = {} := by
  obtain ⟨method, rules, abilities, required, status, handler, authorize⟩ := config
  simp [normalized]

namespace ActionDraft

theorem config_entry_normalized (draft : ActionDraft) : draft.normalized.configEntry =
    (draft.configEntry.1, draft.configEntry.2.map ActionConfig.normalized) := by
  have hconfig : draft.normalized.config = draft.config.normalized := rfl
  unfold configEntry
  rw [hconfig]
  simp only [ActionConfig.normalized_eq_default_iff]
  split
  · rfl
  · rfl

theorem Plain.normalized {draft : ActionDraft} (h : draft.Plain) : draft.normalized.Plain :=
  ⟨h.name_eq, h.status, h.authorize, h.handler⟩

end ActionDraft

namespace Overlay

variable {overlay : Overlay}

theorem config_normalized (overlay : Overlay) :
    overlay.normalized.config = overlay.config.normalized := by
  have hactions (drafts : List ActionDraft) :
      TextMap.ofList ((drafts.map ActionDraft.normalized).map ActionDraft.configEntry) =
        (TextMap.ofList (drafts.map ActionDraft.configEntry)).mapValues
          (Option.map ActionConfig.normalized) := by
    rw [TextMap.map_values_of_list, List.map_map, List.map_map]
    exact congrArg TextMap.ofList
      (List.map_congr_left fun draft _ => draft.config_entry_normalized)
  unfold config OverlayConfig.normalized normalized
  cases overlay.actions with
  | none => rfl
  | some drafts => simp only [Option.map_some, hactions]

theorem Plain.normalized (h : overlay.Plain) : overlay.normalized.Plain := by
  refine ⟨h.customFilters, fun drafts hdrafts => ?_⟩
  obtain ⟨given, hgiven, rfl⟩ := Option.map_eq_some_iff.mp hdrafts
  obtain ⟨hnodup, hplain⟩ := h.actions given hgiven
  refine ⟨?_, List.forall_mem_map.mpr fun draft hdraft => (hplain draft hdraft).normalized⟩
  rw [List.map_map]
  exact hnodup

theorem Filled.normalized (h : overlay.Filled) : overlay.normalized.Filled := by
  refine ⟨h.operators, fun hempty => h.actions ?_⟩
  obtain ⟨given, hgiven, hnone⟩ := Option.map_eq_some_iff.mp hempty
  rw [hgiven, List.map_eq_nil_iff.mp hnone]

theorem Within.normalized {later : Overlay} (h : overlay.Within later) :
    overlay.normalized.Within later.normalized where
  filters := by simpa [Overlay.normalized] using h.filters
  operators := h.operators
  select := h.select
  sorts := h.sorts
  actions := by simpa [Overlay.normalized] using h.actions

end Overlay

namespace GateDraft

theorem first_overlay_normalized (draft : GateDraft) :
    draft.normalized.firstOverlay = draft.firstOverlay.normalized := by
  unfold firstOverlay normalized
  cases draft.beforeVersions <;> rfl

theorem config_normalized (draft : GateDraft) (cache : Option CachePolicy) :
    draft.normalized.config cache = (draft.config cache).normalized := by
  have hversions : (draft.normalized.versions.map fun version =>
      (⟨version.1, version.2.config⟩ : VersionConfig)) =
      (draft.versions.map fun version => ⟨version.1, version.2.config⟩).map
        VersionConfig.normalized := by
    rw [normalized, List.map_map, List.map_map]
    refine List.map_congr_left fun version _ => ?_
    exact congrArg (VersionConfig.mk version.1) version.2.config_normalized
  unfold config GateConfig.normalized
  rw [first_overlay_normalized, Overlay.config_normalized, hversions]
  rfl

end GateDraft

/-! ## Building normal forms -/

@[simp] theorem ActionDraft.resolve_method_normalized (draft : ActionDraft) :
    draft.normalized.resolveMethod = draft.resolveMethod := by
  simp only [resolveMethod, normalized]

@[simp] theorem ActionDraft.resolve_status_normalized (draft : ActionDraft) :
    draft.normalized.resolveStatus = draft.resolveStatus := by
  simp only [resolveStatus, normalized]

theorem ActionDraft.compile_normalized {draft : ActionDraft} {action : Action}
    (h : draft.compile = .ok action) : draft.normalized.compile = .ok action.normalized := by
  unfold compile at h ⊢
  split at h
  · cases h
  · next hname =>
    obtain ⟨_, hmethod, h⟩ := except_bind_eq_ok h
    obtain ⟨_, hstatus, h⟩ := except_bind_eq_ok h
    cases h
    split
    · next hempty => exact (hname hempty).elim
    · show (draft.normalized.resolveMethod >>= _) = _
      rw [resolve_method_normalized, hmethod]
      show (draft.normalized.resolveStatus >>= _) = _
      rw [resolve_status_normalized, hstatus]
      exact congrArg (fun rules => Except.ok (Action.mk draft.name _ _ rules _ _ _ _ _))
        (RuleMap.normalized_get_d draft.rules)

namespace GateDraft

variable {draft : GateDraft} {cache : Option CachePolicy} {name : Option String}
  {overlay : Overlay} {version : GateVersion} {gate : Gate}

/-- What an overlay is compiled to, its normal form is compiled to in normal form. -/
theorem Compiles.normalized (h : draft.Compiles cache name overlay version) :
    draft.Compiles cache name overlay.normalized version.normalized := by
  have hfilters : overlay.normalized.filters.getD RuleMap.empty =
      (overlay.filters.getD RuleMap.empty).normalized := RuleMap.normalized_get_d overlay.filters
  have hactions : overlay.normalized.actions.getD [] =
      (overlay.actions.getD []).map ActionDraft.normalized := by
    unfold Overlay.normalized
    cases overlay.actions <;> rfl
  refine ⟨?_, h.operators, h.customFilters, h.select, h.sorts, ?_, ?_⟩
  · rw [hfilters, RuleMap.keys_normalized]
    exact h.filters
  · rw [hactions]
    refine map_m_eq_ok_iff.mpr (List.forall₂_map_left_iff.mpr (List.forall₂_map_right_iff.mpr ?_))
    exact (map_m_eq_ok_iff.mp h.actions).imp fun _ _ => ActionDraft.compile_normalized
  · rw [versionOf, hfilters]
    exact congrArg GateVersion.normalized h.version_eq

theorem alike_normalized (draft : GateDraft) : draft.Alike draft.normalized :=
  ⟨rfl, rfl, rfl, rfl, rfl, rfl⟩

/-- What a declaration is built to, its normal form is built to with all versions in normal form. -/
theorem Builds.normalized (h : draft.Builds gate) :
    ∃ other, draft.normalized.Builds other ∧ other.cache = gate.cache ∧
      other.versionNames = gate.versionNames ∧
      other.allVersions = gate.allVersions.map GateVersion.normalized := by
  have hbase := (compile_eq_ok_iff.mp h.base).normalized
  have hversions : draft.normalized.compileVersions gate.cache draft.normalized.versions =
      .ok (gate.versions.map fun version => (version.1, version.2.normalized)) := by
    refine compile_versions_eq_ok_iff.mpr
      (List.forall₂_map_left_iff.mpr (List.forall₂_map_right_iff.mpr ?_))
    exact (compile_versions_eq_ok_iff.mp h.versions).imp fun _ _ hcompiled =>
      ⟨hcompiled.1, draft.alike_normalized.compiles hcompiled.2.normalized⟩
  have hids : draft.normalized.versions.map Prod.fst = draft.versions.map Prod.fst := by
    rw [GateDraft.normalized, List.map_map]
    rfl
  refine ⟨⟨draft.normalized, draft.normalized.source, gate.cache, gate.base.normalized, _,
    Changelog.ofVersions (draft.normalized.beforeVersions.getD {}) draft.normalized.versions⟩,
    ⟨h.entity_ne, h.cache, h.middleware, ?_, ?_,
      compile_eq_ok_iff.mpr (draft.alike_normalized.compiles hbase), hversions, rfl, rfl, rfl⟩,
    rfl, ?_, ?_⟩
  · rw [hids, check_versions_eq draft.alike_normalized.entity_eq]
    exact h.versionNames
  · have hdefault := h.defaultVersion
    unfold checkDefaultVersion at hdefault ⊢
    rw [hids]
    exact hdefault
  · exact List.map_map ..
  · unfold Gate.allVersions
    rw [List.isEmpty_map, List.map_map]
    split
    · rfl
    · rw [List.map_map]
      rfl

end GateDraft

/-! ## Steps that give parted rules -/

/-- The rules that the step gives are parted into tokens. -/
def ActionStep.Normal : ActionStep → Prop
  | .rule _ given => Rules.Normal given.tokens
  | .rules entries => ∀ entry ∈ entries, Rules.Normal entry.2.tokens
  | _ => True

/-- The rules of the action are parted into tokens. -/
def ActionDraft.Normal (draft : ActionDraft) : Prop :=
  ∀ map, draft.rules = some map → map.Normal

/-- The rules that the step gives are parted into tokens. -/
def OverlayStep.Normal : OverlayStep → Prop
  | .filter _ rules => Rules.Normal rules.tokens
  | .filters entries => ∀ entry ∈ entries, Rules.Normal entry.2.tokens
  | .action draft => draft.Normal
  | .actions drafts => ∀ draft ∈ drafts, draft.Normal
  | _ => True

/-- All rules of the overlay are parted into tokens. -/
structure Overlay.Normal (overlay : Overlay) : Prop where
  filters : ∀ map, overlay.filters = some map → map.Normal
  actions : ∀ drafts, overlay.actions = some drafts → ∀ draft ∈ drafts, draft.Normal

/-- The rules that the step gives are parted into tokens. A version leaves the rules that it starts
from parted, as it does where it is declared by such steps: see `Overlay.Normal.steps`. -/
def GateStep.Normal : GateStep → Prop
  | .overlay change => change.Normal
  | .version _ change => ∀ overlay : Overlay, overlay.Normal → (change overlay).Normal
  | _ => True

/-- Rules that are given as texts are parted. -/
theorem Rules.normal_of_texts (texts : List String) : Rules.Normal (Rules.ofTexts texts).tokens :=
  Rules.normal_normalize texts

theorem RuleMap.normal_get_d {map : Option RuleMap} (h : ∀ rules, map = some rules → rules.Normal) :
    (map.getD RuleMap.empty).Normal := by
  cases map with
  | none => exact RuleMap.normal_empty
  | some rules => exact h rules rfl

theorem RuleMap.normal_of_rules {entries : List (String × Rules)}
    (h : ∀ entry ∈ entries, Rules.Normal entry.2.tokens) : (RuleMap.ofRules entries).Normal :=
  RuleMap.normal_of_list (List.forall_mem_map.mpr h)

namespace ActionDraft

theorem normal_make (name : String) : (make name).Normal := nofun

theorem Normal.step {draft : ActionDraft} (h : draft.Normal) {step : ActionStep}
    (hstep : step.Normal) : (draft.step step).Normal := by
  intro map hmap
  cases step with
  | rule field rules =>
      cases hmap
      exact (RuleMap.normal_get_d h).insert field hstep
  | rules entries =>
      cases hmap
      exact RuleMap.normal_of_rules hstep
  | ability name =>
      refine h map ?_
      unfold ActionDraft.step at hmap
      dsimp only at hmap
      split at hmap
      · exact hmap
      · exact hmap
  | method | authorize | handler | requiresIdentifier | status => exact h map hmap

theorem normalized_of_normal {draft : ActionDraft} (h : draft.Normal) :
    draft.normalized = draft := by
  unfold normalized
  cases hrules : draft.rules with
  | none => rw [Option.map_none, ← hrules]
  | some map => rw [Option.map_some, RuleMap.normalized_of_normal (h map hrules), ← hrules]

end ActionDraft

namespace Overlay

variable {overlay : Overlay}

theorem normal_empty : Normal {} := ⟨nofun, nofun⟩

theorem Normal.add_action (h : overlay.Normal) {draft : ActionDraft} (hdraft : draft.Normal) :
    (overlay.addAction draft).Normal := by
  refine ⟨h.filters, fun drafts hdrafts other hother => ?_⟩
  cases hdrafts
  rcases mem_put_action hother with rfl | hother
  · exact hdraft
  · cases hactions : overlay.actions with
    | none => simp [hactions] at hother
    | some drafts =>
        rw [hactions] at hother
        exact h.actions drafts hactions other hother

theorem Normal.add_actions (h : overlay.Normal) {drafts : List ActionDraft}
    (hdrafts : ∀ draft ∈ drafts, draft.Normal) : (drafts.foldl addAction overlay).Normal :=
  List.foldlRecOn (motive := Normal) drafts addAction h
    fun _ hoverlay draft hmem => hoverlay.add_action (hdrafts draft hmem)

/-- A step that gives parted rules keeps all rules parted. -/
theorem Normal.step (h : overlay.Normal) {change : OverlayStep} (hchange : change.Normal) :
    (overlay.step change).Normal := by
  cases change with
  | filter field rules =>
      refine ⟨fun map hmap => ?_, h.actions⟩
      cases hmap
      exact (RuleMap.normal_get_d h.filters).insert field hchange
  | filters entries =>
      refine ⟨fun map hmap => ?_, h.actions⟩
      cases hmap
      exact RuleMap.normal_of_rules hchange
  | withoutFilter field =>
      refine ⟨fun map hmap => ?_, h.actions⟩
      obtain ⟨before, hbefore, rfl⟩ := Option.map_eq_some_iff.mp hmap
      exact (h.filters before hbefore).remove field
  | action draft => exact h.add_action hchange
  | actions drafts => exact h.add_actions hchange
  | withoutAction name =>
      refine ⟨h.filters, fun drafts hdrafts draft hdraft => ?_⟩
      obtain ⟨before, hbefore, rfl⟩ := Option.map_eq_some_iff.mp hdrafts
      exact h.actions before hbefore draft (List.mem_of_mem_filter hdraft)
  | allowedOperators | customFilter | select | sorts => exact ⟨h.filters, h.actions⟩

theorem Normal.steps (h : overlay.Normal) {changes : List OverlayStep}
    (hchanges : ∀ change ∈ changes, change.Normal) : (overlay.steps changes).Normal :=
  List.foldlRecOn (motive := Normal) changes Overlay.step h
    fun _ hoverlay change hmem => hoverlay.step (hchanges change hmem)

theorem normalized_of_normal (h : overlay.Normal) : overlay.normalized = overlay := by
  have hfilters : overlay.filters.map RuleMap.normalized = overlay.filters := by
    cases hmap : overlay.filters with
    | none => rfl
    | some map => rw [Option.map_some, RuleMap.normalized_of_normal (h.filters map hmap)]
  have hactions : overlay.actions.map (List.map ActionDraft.normalized) = overlay.actions := by
    cases hdrafts : overlay.actions with
    | none => rfl
    | some drafts =>
        rw [Option.map_some, List.map_congr_left fun draft hdraft =>
          ActionDraft.normalized_of_normal (h.actions drafts hdrafts draft hdraft), List.map_id']
  rw [normalized, hfilters, hactions]

end Overlay

namespace GateDraft

variable {draft : GateDraft}

/-- All rules of the declaration are parted into tokens. -/
structure Normal (draft : GateDraft) : Prop where
  overlay : draft.overlay.Normal
  before : ∀ first, draft.beforeVersions = some first → first.Normal
  versions : ∀ version ∈ draft.versions, version.2.Normal

theorem Normal.step (h : draft.Normal) {step : GateStep} (hstep : step.Normal) :
    (draft.step step).Normal := by
  cases step with
  | overlay change => exact ⟨h.overlay.step hstep, h.before, h.versions⟩
  | version id change =>
      have hnext : (change draft.overlay).Normal := hstep draft.overlay h.overlay
      refine ⟨hnext, fun first hfirst => ?_, fun version hversion => ?_⟩
      · cases hfirst
        cases hbefore : draft.beforeVersions with
        | none => exact h.overlay
        | some kept => exact h.before kept hbefore
      · rcases List.mem_append.mp hversion with hversion | hlast
        · exact h.versions version hversion
        · exact List.mem_singleton.mp hlast ▸ hnext
  | aliasName name =>
      simp only [GateDraft.step, withAlias]
      exact ⟨h.overlay, h.before, h.versions⟩
  | _ => exact ⟨h.overlay, h.before, h.versions⟩

theorem Normal.steps (h : draft.Normal) {list : List GateStep}
    (hlist : ∀ step ∈ list, step.Normal) : (draft.steps list).Normal :=
  List.foldlRecOn (motive := Normal) list GateDraft.step h
    fun _ hdraft step hmem => hdraft.step (hlist step hmem)

/-- A declaration by steps that give parted rules is in normal form. -/
theorem normalized_steps (entity : String) {list : List GateStep}
    (hlist : ∀ step ∈ list, step.Normal) :
    ((make entity).steps list).normalized = (make entity).steps list := by
  have hmake : (make entity).Normal := ⟨Overlay.normal_empty, nofun, nofun⟩
  have hnormal := hmake.steps hlist
  generalize (make entity).steps list = draft at hnormal
  have hbefore : draft.beforeVersions.map Overlay.normalized = draft.beforeVersions := by
    cases hfirst : draft.beforeVersions with
    | none => rfl
    | some first =>
        rw [Option.map_some, Overlay.normalized_of_normal (hnormal.before first hfirst)]
  have hversions : (draft.versions.map fun version => (version.1, version.2.normalized)) =
      draft.versions := by
    conv_rhs => rw [← List.map_id draft.versions]
    refine List.map_congr_left fun version hversion => ?_
    rw [Overlay.normalized_of_normal (hnormal.versions version hversion)]
    rfl
  rw [normalized, Overlay.normalized_of_normal hnormal.overlay, hbefore, hversions]

end GateDraft

end EntityGate

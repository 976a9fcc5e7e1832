import EntityGate.Proofs.Config.Normalized
import EntityGate.Proofs.Gate.Declared

/-!
# Gates survive their written form

A gate that was declared without functions is written, read back, declared and built again, and is
the same gate but for the order of its actions and for rules that were not parted into tokens: see
`GateDraft.written_gate_is_rebuilt`. What makes this work is kept by every step of the declaration:
see `GateDraft.Plain`. Versions are written as they stand, and declared again on top of one another;
since what is set stays set, none of the earlier one shows through.
-/

namespace EntityGate

/-! ## Compiled versions -/

/-- A pass over the same items in another order answers the same values in another order. -/
theorem map_m_perm {ε α β : Type} {check : α → Except ε β} {items others : List α}
    (hperm : items.Perm others) {values : List β} (h : items.mapM check = .ok values) :
    ∃ again, others.mapM check = .ok again ∧ again.Perm values := by
  obtain ⟨again, hagain, hvalues⟩ := List.perm_comp_forall₂ hperm.symm (map_m_eq_ok_iff.mp h)
  exact ⟨again, map_m_eq_ok_iff.mpr hagain, hvalues⟩

/-- The versions differ in the order of their actions at most. -/
structure GateVersion.Reordered (version other : GateVersion) : Prop where
  rest : other = { version with actions := other.actions }
  perm : other.actions.Perm version.actions
  action_eq : ∀ name, other.action? name = version.action? name

namespace GateDraft

variable {draft : GateDraft} {cache : Option CachePolicy}

/-- The actions in order are the actions, under names of their own. -/
theorem actions_in_order {overlay : Overlay} (h : overlay.Plain) :
    ((overlay.actions.getD []).map ActionDraft.name).Nodup ∧
      (overlay.inOrder.actions.getD []).Perm (overlay.actions.getD []) := by
  unfold Overlay.inOrder
  cases hactions : overlay.actions with
  | none => exact ⟨List.nodup_nil, .refl _⟩
  | some drafts =>
      obtain ⟨hnodup, hplain⟩ := h.actions drafts hactions
      exact ⟨hnodup, ActionDraft.in_order_perm hnodup hplain⟩

/-- A version whose actions are declared in the order of their names. -/
theorem Compiles.in_order {name : Option String} {overlay : Overlay} {version : GateVersion}
    (hplain : overlay.Plain) (h : draft.Compiles cache name overlay version) :
    ∃ other, draft.Compiles cache name overlay.inOrder other ∧ version.Reordered other := by
  obtain ⟨hdrafts, hordered⟩ := actions_in_order hplain
  obtain ⟨again, hagain, hperm⟩ := map_m_perm hordered.symm h.actions
  have hnodup : (version.actions.map Action.name).Nodup := h.action_names ▸ hdrafts
  have hnodup' : (again.map Action.name).Nodup := (hperm.map Action.name).nodup_iff.mpr hnodup
  have hother : draft.Compiles cache name overlay.inOrder { version with actions := again } :=
    ⟨h.filters, h.operators, h.customFilters, h.select, h.sorts, hagain,
      congrArg (fun version => { version with actions := again }) h.version_eq⟩
  refine ⟨_, hother, rfl, hperm, fun wanted => Option.ext fun action => ?_⟩
  show again.find? _ = some action ↔ version.actions.find? _ = some action
  rw [find_name_eq_some_iff hnodup', find_name_eq_some_iff hnodup, hperm.mem_iff]

/-- The name of a version does not decide whether it compiles. -/
theorem Compiles.with_name {name : Option String} {overlay : Overlay} {version : GateVersion}
    (h : draft.Compiles cache name overlay version) (other : Option String) :
    draft.Compiles cache other overlay { version with version := other } :=
  ⟨h.filters, h.operators, h.customFilters, h.select, h.sorts, h.actions,
    congrArg (fun version => { version with version := other }) h.version_eq⟩

end GateDraft

/-! ## Declarations that can be written -/

/-- The step can be written into a configuration. -/
def GateStep.Written : GateStep → Prop
  | .baseQuery _ => False
  | .overlay change => change.Written ∧ change.Adds
  | .cache ttl => ttl < 2 ^ 64
  | .version _ change => ∃ changes : List OverlayStep, (∀ step ∈ changes, step.Written) ∧
      change = fun overlay => overlay.steps changes
  | _ => True

namespace GateDraft

/-- The overlays of a declaration in the order in which they were made. -/
def overlays (draft : GateDraft) : List Overlay :=
  draft.firstOverlay :: draft.versions.map Prod.snd ++ [draft.overlay]

/-- Everything about the declaration can be written, and each overlay unsets nothing that an
earlier one sets. -/
structure Plain (draft : GateDraft) : Prop where
  trimmed : draft.Trimmed
  baseQuery : draft.baseQuery = none
  ttl : ∀ ttl, draft.cacheTtl = some ttl → ttl < 2 ^ 64
  plain : ∀ overlay ∈ draft.overlays, overlay.Plain
  filled : draft.firstOverlay.Filled
  ids : ∀ version ∈ draft.versions, Text.trim version.1 = version.1
  within : draft.overlays.Pairwise Overlay.Within
  before : draft.beforeVersions = none ↔ draft.versions = []

theorem plain_make (entity : String) : (make entity).Plain where
  trimmed := trimmed_make entity
  baseQuery := rfl
  ttl := nofun
  plain overlay hoverlay := by
    have hempty : overlay = {} := by simpa [overlays, firstOverlay, make] using hoverlay
    rw [hempty]
    exact Overlay.plain_empty
  filled := Overlay.filled_empty
  ids := nofun
  within := List.pairwise_pair.mpr (.refl _)
  before := ⟨fun _ => rfl, fun _ => rfl⟩

/-- A last overlay that unsets nothing may replace the one before it. -/
theorem pairwise_within_last {earlier : List Overlay} {last next : Overlay}
    (h : (earlier ++ [last]).Pairwise Overlay.Within) (hwithin : last.Within next) :
    (earlier ++ [next]).Pairwise Overlay.Within := by
  obtain ⟨hearlier, -, hlast⟩ := List.pairwise_append.mp h
  refine List.pairwise_append.mpr ⟨hearlier, List.pairwise_singleton _ _, ?_⟩
  intro overlay hoverlay other hother
  obtain rfl := List.mem_singleton.mp hother
  exact (hlast overlay hoverlay last (List.mem_singleton_self last)).trans hwithin

/-- What is declared beside the overlays does not matter to them. -/
theorem Plain.of_same {draft other : GateDraft} (h : draft.Plain) (htrimmed : other.Trimmed)
    (hbase : other.baseQuery = draft.baseQuery)
    (httl : ∀ ttl, other.cacheTtl = some ttl → ttl < 2 ^ 64)
    (hoverlay : other.overlay = draft.overlay)
    (hbefore : other.beforeVersions = draft.beforeVersions)
    (hversions : other.versions = draft.versions) : other.Plain := by
  have hfirst : other.firstOverlay = draft.firstOverlay := by
    rw [firstOverlay, firstOverlay, hbefore, hoverlay]
  have hoverlays : other.overlays = draft.overlays := by
    rw [GateDraft.overlays, GateDraft.overlays, hfirst, hversions, hoverlay]
  refine ⟨htrimmed, hbase.trans h.baseQuery, httl, ?_, ?_, ?_, ?_, ?_⟩
  · rw [hoverlays]
    exact h.plain
  · rw [hfirst]
    exact h.filled
  · rw [hversions]
    exact h.ids
  · rw [hoverlays]
    exact h.within
  · rw [hbefore, hversions]
    exact h.before

theorem Plain.overlay {draft : GateDraft} (h : draft.Plain) : draft.overlay.Plain :=
  h.plain _ (List.mem_append_right _ (List.mem_singleton_self _))

/-- The declaration with another overlay on top. -/
def withOverlay (draft : GateDraft) (overlay : Overlay) : GateDraft :=
  { draft with overlay := overlay }

theorem Plain.with_overlay {draft : GateDraft} (h : draft.Plain) {overlay : Overlay}
    (hplain : overlay.Plain) (hwithin : draft.overlay.Within overlay)
    (hfilled : draft.overlay.Filled → overlay.Filled) : (draft.withOverlay overlay).Plain := by
  have hoverlays : (draft.withOverlay overlay).overlays =
      (draft.withOverlay overlay).firstOverlay :: draft.versions.map Prod.snd ++ [overlay] := rfl
  cases hbefore : draft.beforeVersions with
  | none =>
      -- There is one overlay only.
      have hversions := h.before.mp hbefore
      have hfirst : (draft.withOverlay overlay).firstOverlay = overlay := by
        simp only [firstOverlay, withOverlay, hbefore, Option.getD_none]
      have hfirst' : draft.firstOverlay = draft.overlay := by
        rw [firstOverlay, hbefore, Option.getD_none]
      rw [hfirst, hversions] at hoverlays
      refine ⟨⟨h.trimmed.entity_eq, h.trimmed.alias_eq⟩, h.baseQuery, h.ttl, ?_, ?_, h.ids, ?_,
        h.before⟩
      · rw [hoverlays]
        intro other hother
        obtain rfl : other = overlay := by simpa using hother
        exact hplain
      · rw [hfirst]
        exact hfilled (hfirst' ▸ h.filled)
      · rw [hoverlays]
        exact List.pairwise_pair.mpr (.refl _)
  | some first =>
      have hfirst : (draft.withOverlay overlay).firstOverlay = draft.firstOverlay := by
        simp only [firstOverlay, withOverlay, hbefore, Option.getD_some]
      rw [hfirst] at hoverlays
      refine ⟨⟨h.trimmed.entity_eq, h.trimmed.alias_eq⟩, h.baseQuery, h.ttl, ?_, ?_, h.ids, ?_,
        h.before⟩
      · rw [hoverlays]
        intro other hother
        rcases List.mem_append.mp hother with hearlier | hlast
        · exact h.plain other (List.mem_append_left _ hearlier)
        · obtain rfl := List.mem_singleton.mp hlast
          exact hplain
      · rw [hfirst]
        exact h.filled
      · rw [hoverlays]
        exact pairwise_within_last h.within hwithin

/-- A version is put on top and stands among the versions. -/
theorem Plain.declare_version {draft : GateDraft} (h : draft.Plain) (id : String)
    {changes : List OverlayStep} (hchanges : ∀ change ∈ changes, change.Written) :
    (draft.declareVersion id fun overlay => overlay.steps changes).Plain := by
  have hsnapshot : (draft.overlay.steps changes).Plain := h.overlay.steps hchanges
  have hwithin : draft.overlay.Within (draft.overlay.steps changes) := Overlay.within_steps _ _
  have hoverlays : (draft.declareVersion id fun overlay => overlay.steps changes).overlays =
      ((draft.firstOverlay :: draft.versions.map Prod.snd) ++ [draft.overlay.steps changes]) ++
        [draft.overlay.steps changes] := by
    simp [GateDraft.overlays, declareVersion, firstOverlay]
  have hpairwise := pairwise_within_last h.within hwithin
  refine ⟨⟨h.trimmed.entity_eq, h.trimmed.alias_eq⟩, h.baseQuery, h.ttl, ?_, h.filled, ?_, ?_, ?_⟩
  · rw [hoverlays]
    intro other hother
    rcases List.mem_append.mp hother with hother | hlast
    · rcases List.mem_append.mp hother with hearlier | hlast
      · exact h.plain other (List.mem_append_left _ hearlier)
      · exact List.mem_singleton.mp hlast ▸ hsnapshot
    · exact List.mem_singleton.mp hlast ▸ hsnapshot
  · intro version hversion
    rcases List.mem_append.mp hversion with hbefore | hlast
    · exact h.ids version hbefore
    · obtain rfl := List.mem_singleton.mp hlast
      exact Text.trim_trim id
  · rw [hoverlays]
    refine List.pairwise_append.mpr ⟨hpairwise, List.pairwise_singleton _ _, ?_⟩
    intro overlay hoverlay other hother
    obtain rfl := List.mem_singleton.mp hother
    rcases List.mem_append.mp hoverlay with hearlier | hlast
    · exact (List.pairwise_append.mp hpairwise).2.2 overlay hearlier _ (List.mem_singleton_self _)
    · exact List.mem_singleton.mp hlast ▸ .refl _
  · simp [declareVersion]

/-- Every step that can be written keeps the declaration writable. -/
theorem Plain.step {draft : GateDraft} (h : draft.Plain) {step : GateStep} (hstep : step.Written) :
    (draft.step step).Plain := by
  have htrimmed := h.trimmed.step step
  cases step with
  | baseQuery base => exact hstep.elim
  | overlay change =>
      exact h.with_overlay (h.overlay.step hstep.1) (Overlay.within_step _ change)
        fun hfilled => hfilled.step hstep.2
  | version id change =>
      obtain ⟨changes, hchanges, rfl⟩ := hstep
      exact h.declare_version id hchanges
  | cache ttl =>
      refine h.of_same htrimmed rfl (fun other hother => ?_) rfl rfl rfl
      cases hother
      exact hstep
  | aliasName name =>
      simp only [GateDraft.step, withAlias] at htrimmed ⊢
      exact h.of_same htrimmed rfl h.ttl rfl rfl rfl
  | table | primaryKey | middleware | pagination | cacheName | defaultVersion =>
      exact h.of_same htrimmed rfl h.ttl rfl rfl rfl

theorem Plain.steps {draft : GateDraft} (h : draft.Plain) {list : List GateStep}
    (hlist : ∀ step ∈ list, step.Written) : (draft.steps list).Plain :=
  List.foldlRecOn (motive := Plain) list GateDraft.step h
    fun _ hdraft step hmem => hdraft.step (hlist step hmem)

/-! ## The declaration made again -/

/-- The last overlay that is written. -/
def lastOverlay (draft : GateDraft) : Overlay :=
  (draft.versions.map Prod.snd).getLastD draft.firstOverlay

/-- The declaration as it is made again from its written form. -/
def again (draft : GateDraft) : GateDraft :=
  { draft with
    overlay := draft.lastOverlay.inOrder
    beforeVersions := draft.beforeVersions.map Overlay.inOrder
    versions := draft.versions.map fun version => (version.1, version.2.inOrder) }

/-- Versions are declared again one after the other, each on top of the one before. -/
theorem declare_versions_written {start : GateDraft} {before : Overlay}
    {versions : List (String × Overlay)} (hstart : start.overlay = before.inOrder)
    (hbefore : before.Plain) (hplain : ∀ version ∈ versions, version.2.Plain)
    (hids : ∀ version ∈ versions, Text.trim version.1 = version.1)
    (hwithin : (before :: versions.map Prod.snd).Pairwise Overlay.Within) :
    start.declareVersions (versions.map fun version => ⟨version.1, version.2.config⟩) =
      { start with
        beforeVersions :=
          if versions.isEmpty then start.beforeVersions else some start.firstOverlay
        overlay := ((versions.map Prod.snd).getLastD before).inOrder
        versions :=
          start.versions ++ versions.map fun version => (version.1, version.2.inOrder) } := by
  induction versions generalizing start before with
  | nil =>
      simp only [List.map_nil, List.append_nil, List.getLastD_nil, List.isEmpty_nil, if_true,
        ← hstart]
      rfl
  | cons version rest ih =>
      obtain ⟨hnext, hrest⟩ := List.pairwise_cons.mp hwithin
      have hversion := hplain version List.mem_cons_self
      -- All that stands before is set in the version too, so that none of it shows through.
      have hreplaced : start.overlay.replaceBy version.2.config = version.2.inOrder := by
        rw [hstart]
        exact Overlay.replace_by_config hbefore.customFilters hversion
          (hnext version.2 List.mem_cons_self)
      have hdeclared : (start.declareVersion version.1 fun overlay =>
          overlay.replaceBy version.2.config) =
          { start with
            beforeVersions := some start.firstOverlay
            overlay := version.2.inOrder
            versions := start.versions ++ [(version.1, version.2.inOrder)] } := by
        simp only [declareVersion, hreplaced, hids version List.mem_cons_self, firstOverlay]
      show (start.declareVersion version.1 fun overlay =>
        overlay.replaceBy version.2.config).declareVersions
          (rest.map fun version => ⟨version.1, version.2.config⟩) = _
      rw [hdeclared, ih rfl hversion
        (fun other hother => hplain other (List.mem_cons_of_mem _ hother))
        (fun other hother => hids other (List.mem_cons_of_mem _ hother)) hrest]
      simp only [firstOverlay, Option.getD_some, ite_self, List.isEmpty_cons, Bool.false_eq_true,
        if_false, List.map_cons, List.getLastD_cons, List.append_assoc, List.singleton_append]

theorem resolve_cache_parts {draft : GateDraft} {cache : Option CachePolicy}
    (h : draft.resolveCache = .ok cache) :
    cache.map CachePolicy.ttl = draft.cacheTtl ∧ cache.bind CachePolicy.name = draft.cacheName := by
  unfold resolveCache at h
  split at h
  · next httl hname =>
    cases h
    exact ⟨httl.symm, hname.symm⟩
  · next httl =>
    cases h
    exact ⟨httl.symm, rfl⟩
  · cases h

theorem mode_of_config (draft : GateDraft) (cache : Option CachePolicy) :
    modeOfConfig (draft.config cache) = .ok draft.pagination := by
  unfold modeOfConfig config
  cases draft.pagination with
  | none => rfl
  | some mode => cases mode <;> rfl

section Again

variable {draft : GateDraft} {cache : Option CachePolicy}

theorem Plain.first (h : draft.Plain) : draft.firstOverlay.Plain :=
  h.plain _ List.mem_cons_self

theorem Plain.version (h : draft.Plain) {version : String × Overlay}
    (hversion : version ∈ draft.versions) : version.2.Plain :=
  h.plain _ (List.mem_append_left _
    (List.mem_cons_of_mem _ (List.mem_map.mpr ⟨version, hversion, rfl⟩)))

/-- The declaration before its versions are declared again. -/
def start (draft : GateDraft) : GateDraft :=
  { draft with
    overlay := draft.firstOverlay.inOrder
    beforeVersions := none
    versions := [] }

theorem of_config_start (h : draft.Plain) (hcache : draft.resolveCache = .ok cache)
    (hnormal : ∀ map, draft.firstOverlay.filters = some map → map.Normal) :
    ofConfig (draft.config cache) = .ok (draft.start.declareVersions
      (draft.versions.map fun version => ⟨version.1, version.2.config⟩)) := by
  obtain ⟨httl, hname⟩ := resolve_cache_parts hcache
  have hoverlay : ({} : Overlay).steps (overlaySteps draft.firstOverlay.config) =
      draft.firstOverlay.inOrder := Overlay.steps_of_config h.first h.filled hnormal
  unfold ofConfig
  rw [mode_of_config]
  show Except.ok (declareVersions _ _) = _
  cases halias : draft.aliasName with
  | none =>
      simp only [config, halias, make, h.trimmed.entity_eq, hoverlay, httl, hname, start,
        h.baseQuery]
  | some name =>
      simp only [config, halias, make, withAlias, h.trimmed.entity_eq,
        h.trimmed.alias_eq name halias, hoverlay, httl, hname, start, h.baseQuery]

/-- What is declared again from the written form, provided that the rules are parted. -/
theorem of_config_config (h : draft.Plain) (hcache : draft.resolveCache = .ok cache)
    (hnormal : ∀ map, draft.firstOverlay.filters = some map → map.Normal) :
    ofConfig (draft.config cache) = .ok draft.again := by
  have hwithin : (draft.firstOverlay :: draft.versions.map Prod.snd).Pairwise Overlay.Within :=
    (List.pairwise_append.mp h.within).1
  have hbefore : (if draft.versions.isEmpty then none else some draft.start.firstOverlay) =
      draft.beforeVersions.map Overlay.inOrder := by
    cases hbefore : draft.beforeVersions with
    | none => simp [h.before.mp hbefore]
    | some first =>
        have hversions : draft.versions ≠ [] := fun hempty => by
          simp [h.before.mpr hempty] at hbefore
        simp [hversions, start, firstOverlay, hbefore]
  rw [of_config_start h hcache hnormal,
    declare_versions_written rfl h.first (fun _ => h.version) h.ids
    hwithin]
  exact congrArg Except.ok (by rw [again, ← hbefore]; rfl)

/-! ## The gate built again -/

theorem alike_again : draft.Alike draft.again := ⟨rfl, rfl, rfl, rfl, rfl, rfl⟩

/-- Versions whose actions are declared in the order of their names. -/
theorem compile_versions_in_order {overlays : List (String × Overlay)}
    {versions : List (String × GateVersion)} (hplain : ∀ overlay ∈ overlays, overlay.2.Plain)
    (h : draft.compileVersions cache overlays = .ok versions) :
    ∃ others, draft.again.compileVersions cache
        (overlays.map fun overlay => (overlay.1, overlay.2.inOrder)) = .ok others ∧
      List.Forall₂ (fun version other => other.1 = version.1 ∧ version.2.Reordered other.2)
        versions others := by
  simp only [compile_versions_eq_ok_iff, List.forall₂_map_left_iff] at h ⊢
  induction h with
  | nil => exact ⟨[], .nil, .nil⟩
  | cons hfirst _ ih =>
      obtain ⟨hname, hcompiles⟩ := hfirst
      obtain ⟨other, hother, hreordered⟩ := hcompiles.in_order (hplain _ List.mem_cons_self)
      obtain ⟨others, hothers, hall⟩ :=
        ih fun overlay hoverlay => hplain overlay (List.mem_cons_of_mem _ hoverlay)
      exact ⟨(_, other) :: others, .cons ⟨rfl, alike_again.compiles hother⟩ hothers,
        .cons ⟨hname.symm, hreordered⟩ hall⟩

/-- The overlay that stands on top of the declaration made again compiles. Without a version it is
the only one there is; else it is that of the last version. -/
theorem last_overlay_compiles {gate : Gate} (h : draft.Plain) (hbuilds : draft.Builds gate) :
    ∃ base, draft.Compiles gate.cache none draft.lastOverlay.inOrder base ∧
      (draft.versions = [] → gate.base.Reordered base) := by
  cases hempty : draft.versions.getLast? with
  | none =>
      have hnone := List.getLast?_eq_none_iff.mp hempty
      have hbefore := h.before.mpr hnone
      have hoverlay : draft.lastOverlay = draft.overlay := by
        simp [lastOverlay, hnone, firstOverlay, hbefore]
      obtain ⟨base, hbase, hreordered⟩ := (compile_eq_ok_iff.mp hbuilds.base).in_order h.overlay
      exact ⟨base, hoverlay ▸ hbase, fun _ => hreordered⟩
  | some last =>
      have hmem := List.mem_of_getLast? hempty
      have hoverlay : draft.lastOverlay = last.2 := by
        simp [lastOverlay, hempty]
      -- That overlay was compiled under the name of its version, so it compiles without one.
      have hcompiled := compile_versions_eq_ok_iff.mp hbuilds.versions
      obtain ⟨version, -, -, hversion⟩ := exists_of_forall₂ hcompiled.flip last hmem
      obtain ⟨other, hother, -⟩ := (hversion.with_name none).in_order (h.version hmem)
      refine ⟨other, hoverlay ▸ hother, fun hnone => ?_⟩
      rw [hnone] at hmem
      cases hmem

/-- The declaration made again is built again. -/
theorem builds_again {gate : Gate} (h : draft.Plain) (hbuilds : draft.Builds gate) :
    ∃ other, draft.again.Builds other ∧ other.cache = gate.cache ∧
      (draft.versions = [] → gate.base.Reordered other.base) ∧
      List.Forall₂ (fun version other => other.1 = version.1 ∧ version.2.Reordered other.2)
        gate.versions other.versions := by
  obtain ⟨versions, hversions, hall⟩ :=
    compile_versions_in_order (fun _ => h.version) hbuilds.versions
  obtain ⟨base, hbase, hreordered⟩ := last_overlay_compiles h hbuilds
  have hids : draft.again.versions.map Prod.fst = draft.versions.map Prod.fst := by
    rw [again, List.map_map]
    rfl
  refine ⟨⟨draft.again, draft.again.source, gate.cache, base, versions,
    Changelog.ofVersions (draft.again.beforeVersions.getD {}) draft.again.versions⟩, ?_, rfl,
    hreordered, hall⟩
  refine ⟨hbuilds.entity_ne, hbuilds.cache, hbuilds.middleware, ?_, ?_,
    compile_eq_ok_iff.mpr (alike_again.compiles hbase), hversions, rfl, rfl, rfl⟩
  · rw [hids, check_versions_eq alike_again.entity_eq]
    exact hbuilds.versionNames
  · have hdefault := hbuilds.defaultVersion
    unfold checkDefaultVersion at hdefault ⊢
    rw [hids]
    exact hdefault

/-- The declaration made again is written as before. -/
theorem config_again (h : draft.Plain) : draft.again.config cache = draft.config cache := by
  have hfirst : draft.again.firstOverlay = draft.firstOverlay.inOrder := by
    cases hbefore : draft.beforeVersions with
    | none => simp [again, firstOverlay, hbefore, lastOverlay, h.before.mp hbefore]
    | some first => simp [again, firstOverlay, hbefore]
  have hversions : (draft.again.versions.map fun version =>
      (⟨version.1, version.2.config⟩ : VersionConfig)) =
      draft.versions.map fun version => ⟨version.1, version.2.config⟩ := by
    rw [again, List.map_map]
    refine List.map_congr_left fun version hversion => ?_
    show VersionConfig.mk version.1 version.2.inOrder.config = _
    rw [Overlay.config_in_order (h.version hversion)]
  unfold config
  rw [hfirst, Overlay.config_in_order h.first, hversions]
  rfl

theorem Plain.readable (h : draft.Plain) (hcache : draft.resolveCache = .ok cache) :
    (draft.config cache).Readable where
  overlay := h.first.readable
  cache policy hpolicy := by
    have hcache' : cache = some policy := hpolicy
    have httl := (resolve_cache_parts hcache).1
    rw [hcache'] at httl
    exact h.ttl policy.ttl httl.symm
  versions version hversion := by
    obtain ⟨source, hsource, rfl⟩ := List.mem_map.mp hversion
    exact (h.version hsource).readable
  baseQuery := by simp [config, h.baseQuery]

end Again

/-- The normal form of a declaration can be written as well. -/
theorem Plain.normalized {draft : GateDraft} (h : draft.Plain) : draft.normalized.Plain := by
  have hoverlays : draft.normalized.overlays = draft.overlays.map Overlay.normalized := by
    rw [overlays, first_overlay_normalized]
    simp [GateDraft.normalized, overlays]
  refine ⟨⟨h.trimmed.entity_eq, h.trimmed.alias_eq⟩, h.baseQuery, h.ttl, ?_, ?_, ?_, ?_, ?_⟩
  · rw [hoverlays]
    exact List.forall_mem_map.mpr fun overlay hoverlay => (h.plain overlay hoverlay).normalized
  · rw [first_overlay_normalized]
    exact h.filled.normalized
  · exact List.forall_mem_map.mpr h.ids
  · rw [hoverlays]
    exact List.pairwise_map.mpr (h.within.imp Overlay.Within.normalized)
  · simpa [GateDraft.normalized] using h.before

theorem normal_first_overlay (draft : GateDraft) (map : RuleMap)
    (hmap : draft.normalized.firstOverlay.filters = some map) : map.Normal := by
  rw [first_overlay_normalized] at hmap
  obtain ⟨given, -, rfl⟩ := Option.map_eq_some_iff.mp hmap
  exact given.normal_normalized

/-- The versions of the gate that is built again are those of the gate, in another order of their
actions at most. -/
theorem all_versions_reordered {draft : GateDraft} {gate other : Gate} (hbuilds : draft.Builds gate)
    (hnames : other.versionNames = gate.versionNames)
    (hbase : draft.versions = [] → gate.base.Reordered other.base)
    (hall : List.Forall₂ (fun version other => other.1 = version.1 ∧ version.2.Reordered other.2)
      gate.versions other.versions) :
    List.Forall₂ GateVersion.Reordered gate.allVersions other.allVersions := by
  -- The names tell that both gates have versions or neither has.
  have hsame : other.versions.isEmpty = gate.versions.isEmpty := by
    have hids : other.versions.map Prod.fst = gate.versions.map Prod.fst := hnames
    rw [← List.isEmpty_map (f := Prod.fst), hids, List.isEmpty_map]
  unfold Gate.allVersions
  rw [hsame]
  split
  · next hempty =>
    have hids := compile_versions_names hbuilds.versions
    rw [List.isEmpty_iff.mp hempty, List.map_nil] at hids
    exact .cons (hbase (List.map_eq_nil_iff.mp hids.symm)) .nil
  · refine List.forall₂_map_left_iff.mpr (List.forall₂_map_right_iff.mpr ?_)
    exact hall.imp fun _ _ h => h.2

/-- A gate survives the trip through its written form. For any gate that is declared by steps that
can be written, its written form as JSON is read back, declared and built again. The gate that comes
out is written alike with all rules parted into tokens, has the same versions in the same order and
the same default version, and each version differs from the original with parted rules in the order
of its actions at most. Where all rules are given as texts or as tokens that are not parted any
more, parting them changes nothing. -/
theorem written_gate_is_rebuilt {entity : String} {list : List GateStep} {gate : Gate}
    (hlist : ∀ step ∈ list, step.Written) (hbuild : ((make entity).steps list).build = .ok gate) :
    (∃ written draft other, GateConfig.ofNode? (Node.ofJson gate.config.toJson) = some written ∧
      ofConfig written = .ok draft ∧ draft.build = .ok other ∧
      other.config = gate.config.normalized ∧ other.versionNames = gate.versionNames ∧
      other.defaultVersion = gate.defaultVersion ∧
      List.Forall₂ GateVersion.Reordered (gate.allVersions.map GateVersion.normalized)
        other.allVersions) ∧
    ((∀ step ∈ list, step.Normal) → gate.config.normalized = gate.config ∧
      gate.allVersions.map GateVersion.normalized = gate.allVersions) := by
  have hplain := (plain_make entity).steps hlist
  have hbuilds := build_eq_ok_iff.mp hbuild
  have hnormalized (hnormal : ∀ step ∈ list, step.Normal) := normalized_steps entity hnormal
  generalize (make entity).steps list = declared at hbuild hplain hbuilds hnormalized
  have hconfig : gate.config = declared.config gate.cache := by
    rw [Gate.config, hbuilds.draft_eq]
  obtain ⟨parted, hparted, hcache, hnames, hversions⟩ := hbuilds.normalized
  constructor
  · obtain ⟨other, hother, hcache', hbase, hall⟩ := builds_again hplain.normalized hparted
    have hnames' : other.versionNames = parted.versionNames := by
      rw [Gate.versionNames, Gate.versionNames, compile_versions_names hother.versions,
        compile_versions_names hparted.versions, again, List.map_map]
      rfl
    refine ⟨gate.config.normalized, _, other, ?_, ?_, build_eq_ok_iff.mpr hother, ?_,
      hnames'.trans hnames, ?_, ?_⟩
    · rw [hconfig]
      exact GateConfig.of_node_to_json (hplain.readable hbuilds.cache)
    · rw [hconfig, ← config_normalized]
      exact of_config_config hplain.normalized hbuilds.cache (normal_first_overlay declared)
    · rw [Gate.config, hother.draft_eq, hcache', hcache, config_again hplain.normalized,
        config_normalized, hconfig]
    · rw [Gate.defaultVersion, Gate.defaultVersion, hnames', hnames, hother.draft_eq,
        hbuilds.draft_eq]
      rfl
    · rw [← hversions]
      exact all_versions_reordered hparted hnames' hbase hall
  · intro hnormal
    rw [hnormalized hnormal] at hparted
    have hsame : parted = gate :=
      Except.ok.inj ((build_eq_ok_iff.mpr hparted).symm.trans hbuild)
    rw [hconfig, ← config_normalized, hnormalized hnormal, ← hversions, hsame]
    exact ⟨rfl, rfl⟩

/-- Declarations about notes: an alias, filters, actions out of order, a cache, and a version that
leaves out a filter and an action. -/
def noteSteps : List GateStep :=
  [.aliasName "notes", .overlay (.filter "title" ["required|string"]),
    .overlay (.allowedOperators "title" ["eq", "like"]),
    .overlay (.action ((ActionDraft.make "publish").step (.method "PUT"))),
    .overlay (.action ((ActionDraft.make "create").step (.rule "title" ["string|max:80"]))),
    .cache 60,
    .version "v1" fun overlay => overlay.steps [.withoutFilter "title", .withoutAction "publish"]]

/-- The notes are declared by steps that can be written and give their rules as texts. -/
theorem note_steps_written : ∀ step ∈ noteSteps, step.Written ∧ step.Normal := by
  have hpublish : ((ActionDraft.make "publish").step (.method "PUT")).Written :=
    ⟨"publish", [.method "PUT"], by simp [ActionStep.Written], rfl⟩
  have hcreate : ((ActionDraft.make "create").step (.rule "title" ["string|max:80"])).Written :=
    ⟨"create", [.rule "title" ["string|max:80"]], by simp [ActionStep.Written], rfl⟩
  have hmethod : ((ActionDraft.make "publish").step (.method "PUT")).Normal :=
    (ActionDraft.normal_make "publish").step trivial
  have hrule : ((ActionDraft.make "create").step (.rule "title" ["string|max:80"])).Normal :=
    (ActionDraft.normal_make "create").step (Rules.normal_of_texts ["string|max:80"])
  simp only [noteSteps, List.forall_mem_cons]
  refine ⟨⟨trivial, trivial⟩, ⟨⟨trivial, trivial⟩, Rules.normal_of_texts _⟩,
    ⟨⟨trivial, trivial⟩, trivial⟩, ⟨⟨hpublish, trivial⟩, hmethod⟩, ⟨⟨hcreate, trivial⟩, hrule⟩,
    ⟨show 60 < 2 ^ 64 by decide, trivial⟩,
    ⟨⟨_, ?_, rfl⟩, fun overlay hoverlay => hoverlay.steps ?_⟩, nofun⟩
  · simp [OverlayStep.Written]
  · simp [OverlayStep.Normal]

/-- The gate of the notes survives the trip through its written form unchanged. -/
theorem notes_are_rebuilt :
    (∀ step ∈ noteSteps, step.Written ∧ step.Normal) ∧
    ∃ gate, ((make "Note").steps noteSteps).build = .ok gate ∧
      ∃ written draft other, GateConfig.ofNode? (Node.ofJson gate.config.toJson) = some written ∧
        ofConfig written = .ok draft ∧ draft.build = .ok other ∧ other.config = gate.config ∧
        List.Forall₂ GateVersion.Reordered gate.allVersions other.allVersions := by
  have hbuilt : (((make "Note").steps noteSteps).build.toOption).isSome = true := by
    decide +kernel
  cases hbuild : ((make "Note").steps noteSteps).build with
  | error error =>
      rw [hbuild] at hbuilt
      cases hbuilt
  | ok gate =>
      obtain ⟨⟨written, draft, other, hread, hdraft, hother, hconfig, -, -, hall⟩, hsame⟩ :=
        written_gate_is_rebuilt (fun step hstep => (note_steps_written step hstep).1) hbuild
      obtain ⟨hconfig', hversions⟩ := hsame fun step hstep => (note_steps_written step hstep).2
      exact ⟨note_steps_written, gate, rfl, written, draft, other, hread, hdraft, hother,
        hconfig.trans hconfig', hversions ▸ hall⟩

/-- Posts whose title has a rule that is given as one token. -/
def wholeToken : List GateStep := [.overlay (.filter "title" ⟨["string|max:10"]⟩)]

/-- A rule that is given as a token is kept as it is. It is parted when the gate is read back, so
that the gate that is built again is written in another way. -/
theorem whole_token_is_parted : (∀ step ∈ wholeToken, step.Written) ∧ ∃ gate written draft other,
    ((make "Post").steps wholeToken).build = .ok gate ∧
      GateConfig.ofNode? (Node.ofJson gate.config.toJson) = some written ∧
      ofConfig written = .ok draft ∧ draft.build = .ok other ∧
      gate.config.overlay.filters.map RuleMap.entries = some [("title", ["string|max:10"])] ∧
      other.config.overlay.filters.map RuleMap.entries = some [("title", ["string", "max:10"])] ∧
      other.config ≠ gate.config := by
  refine ⟨List.forall_mem_singleton.mpr ⟨trivial, trivial⟩, ?_⟩
  refine ⟨_, _, _, _, rfl, rfl, rfl, rfl, ?_, ?_, ?_⟩ <;> decide +kernel

end GateDraft

end EntityGate

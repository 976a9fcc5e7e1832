import EntityGate.Proofs.Gate.WellNamed

/-!
# What can be built

A declaration is checked in many places when it is built. Together the checks say that the
declaration is sound, and they pass every sound declaration: see `GateDraft.is_built_iff`. Every
version of what is built is valid: see `GateDraft.Builds.versions_valid`. Both hold of everything
that is declared about an entity type, see `GateDraft.built_is_valid`.
-/

namespace EntityGate

/-! ## Actions -/

namespace ActionDraft

/-- The action has a name, a method that can be read and a status of replies, where declared. -/
structure Sound (draft : ActionDraft) : Prop where
  name : Text.isBlankText draft.name = false
  method : ∀ token, draft.method = some token → (HttpMethod.ofToken? token).isSome
  status : ∀ code, draft.status = some code → 100 ≤ code ∧ code ≤ 599

end ActionDraft

/-- The action has a name, one of the methods and a status of replies, if any. -/
structure Action.Valid (action : Action) : Prop where
  name : Text.isBlankText action.name = false
  method : action.method ∈ HttpMethod.all
  status : ∀ code, action.status = some code → 100 ≤ code ∧ code ≤ 599

namespace ActionDraft

variable {draft : ActionDraft} {action : Action}

theorem method_is_resolved_iff : (∃ method, draft.resolveMethod = .ok method) ↔
    ∀ token, draft.method = some token → (HttpMethod.ofToken? token).isSome := by
  unfold resolveMethod
  cases draft.method with
  | none => simp
  | some token => cases htoken : HttpMethod.ofToken? token <;> simp [htoken]

theorem resolve_status_eq_ok_iff {status : Option Nat} : draft.resolveStatus = .ok status ↔
    status = draft.status ∧ ∀ code, draft.status = some code → 100 ≤ code ∧ code ≤ 599 := by
  unfold resolveStatus
  cases draft.status with
  | none => simp [eq_comm]
  | some code =>
      by_cases hcode : 100 ≤ code ∧ code ≤ 599
      · simp [hcode, eq_comm]
      · simp [hcode]

theorem status_is_resolved_iff : (∃ status, draft.resolveStatus = .ok status) ↔
    ∀ code, draft.status = some code → 100 ≤ code ∧ code ≤ 599 := by
  simp [resolve_status_eq_ok_iff]

/-- The declaration of an action under a trimmed name is compiled exactly if it is sound. -/
theorem is_compiled_iff (hname : Text.trim draft.name = draft.name) :
    (∃ action, draft.compile = .ok action) ↔ draft.Sound := by
  unfold compile
  split
  · next hempty =>
    have hblank := (Text.blank_iff_empty hname).mpr (by simpa using hempty)
    exact ⟨nofun, fun h => by simp [h.name] at hblank⟩
  · next hfilled =>
    rw [except_bind_is_ok_iff]
    have hfilled := (Text.not_blank_iff hname).mpr (by simpa using hfilled)
    constructor
    · rintro ⟨_, hmethod, _, h⟩
      obtain ⟨_, hstatus, -⟩ := except_bind_eq_ok h
      exact ⟨hfilled, method_is_resolved_iff.mp ⟨_, hmethod⟩,
        status_is_resolved_iff.mp ⟨_, hstatus⟩⟩
    · intro h
      obtain ⟨method, hmethod⟩ := method_is_resolved_iff.mpr h.method
      exact ⟨method, hmethod, except_bind_is_ok_iff.mpr
        ⟨_, resolve_status_eq_ok_iff.mpr ⟨rfl, h.status⟩, _, rfl⟩⟩

theorem valid_of_compile (hname : Text.trim draft.name = draft.name)
    (h : draft.compile = .ok action) : action.Valid := by
  have hsound := (is_compiled_iff hname).mp ⟨action, h⟩
  refine ⟨(compile_name h).1 ▸ hsound.name, ?_, ?_⟩
  · cases action.method <;> decide
  · unfold compile at h
    split at h
    · cases h
    · obtain ⟨_, -, h⟩ := except_bind_eq_ok h
      obtain ⟨_, hstatus, h⟩ := except_bind_eq_ok h
      cases h
      exact (resolve_status_eq_ok_iff.mp hstatus).1 ▸ hsound.status

end ActionDraft

/-! ## Overlays -/

/-- All names are filled, all operators can be read and all actions are sound. -/
structure Overlay.Sound (overlay : Overlay) : Prop where
  filters : ∀ field ∈ (overlay.filters.getD RuleMap.empty).keys, Text.isBlankText field = false
  operators : ∀ entry ∈ (overlay.operators.getD .empty).entries,
    Text.isBlankText entry.1 = false ∧
      ∀ token ∈ entry.2, (FilterOperator.ofToken? token).isSome
  customFilters : ∀ field ∈ (overlay.customFilters.getD .empty).keys,
    Text.isBlankText field = false
  select : ∀ column ∈ overlay.select.getD [], Text.isBlankText column = false
  sorts : ∀ field ∈ overlay.sorts.getD [], Text.isBlankText field = false
  actions : ∀ draft ∈ overlay.actions.getD [], draft.Sound

/-- All names are filled, each field permits operators of the catalog and each of them once, what is
cached is kept for some time, and all actions are valid. -/
structure GateVersion.Valid (version : GateVersion) : Prop where
  filters : ∀ field ∈ version.filters.keys, Text.isBlankText field = false
  operators : ∀ entry ∈ version.operators.entries, Text.isBlankText entry.1 = false ∧
    entry.2.Nodup ∧ ∀ operator ∈ entry.2, operator ∈ FilterOperator.catalog
  customFilters : ∀ field ∈ version.customFilters.keys, Text.isBlankText field = false
  select : ∀ column ∈ version.select, Text.isBlankText column = false
  sorts : ∀ field ∈ version.sorts, Text.isBlankText field = false
  middleware : ∀ name ∈ version.middleware, Text.isBlankText name = false
  cache : ∀ policy, version.cache = some policy → 0 < policy.ttl
  actions : ∀ action ∈ version.actions, action.Valid

namespace GateDraft

variable {draft : GateDraft} {cache : Option CachePolicy} {name : Option String}
  {overlay : Overlay} {version : GateVersion}

theorem check_names_eq_ok_iff {sectionName : String} {names : List String} :
    draft.checkNames sectionName names = .ok () ↔
      ∀ name ∈ names, Text.isBlankText name = false := by
  unfold checkNames
  split
  · next hblank => simpa using hblank
  · next hfilled => simpa using hfilled

theorem tokens_are_resolved_iff (field : String) (found : List FilterOperator)
    {tokens : List String} : (∃ operators, resolveTokens field found tokens = .ok operators) ↔
      ∀ token ∈ tokens, (FilterOperator.ofToken? token).isSome := by
  induction tokens generalizing found with
  | nil => exact ⟨fun _ => nofun, fun _ => ⟨found, rfl⟩⟩
  | cons token rest ih =>
      rw [List.forall_mem_cons, resolveTokens]
      cases htoken : FilterOperator.ofToken? token with
      | none => simp
      | some operator => simpa using ih _

theorem nodup_resolve_tokens {field : String} {found operators : List FilterOperator}
    {tokens : List String} (h : resolveTokens field found tokens = .ok operators)
    (hfound : found.Nodup) : operators.Nodup := by
  induction tokens generalizing found with
  | nil =>
      cases h
      exact hfound
  | cons token rest ih =>
      unfold resolveTokens at h
      split at h
      · cases h
      · next operator _ =>
        refine ih h ?_
        split
        · exact hfound
        · next hnew =>
          rw [← List.concat_eq_append]
          exact hfound.concat (by simpa using hnew)

/-- The operators of each field are resolved on their own. -/
theorem resolve_operators_eq_ok_iff {entries : List (String × List String)}
    {resolved : List (String × List FilterOperator)} :
    draft.resolveOperators entries = .ok resolved ↔
      List.Forall₂ (fun entry value => value.1 = entry.1 ∧ Text.isBlankText entry.1 = false ∧
        resolveTokens entry.1 [] entry.2 = .ok value.2) entries resolved := by
  induction entries generalizing resolved with
  | nil =>
      rw [List.forall₂_nil_left_iff]
      constructor
      · intro h
        cases h
        rfl
      · rintro rfl
        rfl
  | cons entry rest ih =>
      rw [List.forall₂_cons_left_iff]
      constructor
      · intro h
        obtain ⟨_, hfield, h⟩ := except_bind_eq_ok h
        obtain ⟨operators, hoperators, h⟩ := except_bind_eq_ok h
        obtain ⟨others, hothers, h⟩ := except_bind_eq_ok h
        cases h
        have hfilled := check_names_eq_ok_iff.mp hfield entry.1 List.mem_cons_self
        exact ⟨_, others, ⟨rfl, hfilled, hoperators⟩, ih.mp hothers, rfl⟩
      · rintro ⟨⟨field, operators⟩, others, ⟨rfl, hfilled, hoperators⟩, hothers, rfl⟩
        show (draft.checkNames "allowed_operators" [entry.1] >>= _) = _
        rw [check_names_eq_ok_iff.mpr (by simpa using hfilled)]
        show (resolveTokens entry.1 [] entry.2 >>= _) = _
        rw [hoperators]
        show (draft.resolveOperators rest >>= _) = _
        rw [ih.mpr hothers]
        rfl

theorem operators_are_resolved_iff {entries : List (String × List String)} :
    (∃ resolved, draft.resolveOperators entries = .ok resolved) ↔
      ∀ entry ∈ entries, Text.isBlankText entry.1 = false ∧
        ∀ token ∈ entry.2, (FilterOperator.ofToken? token).isSome := by
  simp only [resolve_operators_eq_ok_iff, exists_forall₂_iff]
  refine forall₂_congr fun entry _ => ?_
  rw [← tokens_are_resolved_iff entry.1 []]
  constructor
  · rintro ⟨value, -, hfilled, hoperators⟩
    exact ⟨hfilled, value.2, hoperators⟩
  · rintro ⟨hfilled, operators, hoperators⟩
    exact ⟨(entry.1, operators), rfl, hfilled, hoperators⟩

/-- An overlay with well-named actions is compiled exactly if it is sound. -/
theorem is_compiled_iff (draft : GateDraft) (cache : Option CachePolicy) (name : Option String)
    (hnamed : overlay.WellNamed) :
    (∃ version, draft.compile cache name overlay = .ok version) ↔ overlay.Sound := by
  have hactions : (∃ actions, (overlay.actions.getD []).mapM ActionDraft.compile = .ok actions) ↔
      ∀ draft ∈ overlay.actions.getD [], draft.Sound := by
    rw [map_m_is_ok_iff]
    exact forall₂_congr fun action haction =>
      ActionDraft.is_compiled_iff (hnamed.trimmed action haction)
  simp only [compile_eq_ok_iff]
  constructor
  · rintro ⟨version, h⟩
    exact {
      filters := check_names_eq_ok_iff.mp h.filters
      operators := operators_are_resolved_iff.mp ⟨_, h.operators⟩
      customFilters := check_names_eq_ok_iff.mp h.customFilters
      select := check_names_eq_ok_iff.mp h.select
      sorts := check_names_eq_ok_iff.mp h.sorts
      actions := hactions.mp ⟨_, h.actions⟩ }
  · intro h
    obtain ⟨operators, hoperators⟩ := operators_are_resolved_iff.mpr h.operators
    obtain ⟨actions, hactions⟩ := hactions.mpr h.actions
    have hentries := entries_of_resolved hoperators
    exact ⟨draft.versionOf cache name overlay (.ofList operators) actions, {
      filters := check_names_eq_ok_iff.mpr h.filters
      operators := hoperators.trans (congrArg Except.ok hentries.symm)
      customFilters := check_names_eq_ok_iff.mpr h.customFilters
      select := check_names_eq_ok_iff.mpr h.select
      sorts := check_names_eq_ok_iff.mpr h.sorts
      actions := hactions
      version_eq := rfl }⟩

/-- What is compiled from an overlay with well-named actions is valid. -/
theorem Compiles.valid (h : draft.Compiles cache name overlay version)
    (hnamed : overlay.WellNamed)
    (hmiddleware : ∀ name ∈ draft.middleware, Text.isBlankText name = false)
    (hcache : ∀ policy, cache = some policy → 0 < policy.ttl) : version.Valid := by
  have heq := h.version_eq
  refine {
    filters := ?filters
    operators := fun entry hentry => ?operators
    customFilters := ?customFilters
    select := ?select
    sorts := ?sorts
    middleware := by rw [heq]; exact hmiddleware
    cache := by rw [heq]; exact hcache
    actions := fun action haction => ?actions }
  case filters =>
    rw [heq]
    exact check_names_eq_ok_iff.mp h.filters
  case operators =>
    obtain ⟨written, -, hfield, hfilled, htokens⟩ :=
      exists_of_forall₂ (resolve_operators_eq_ok_iff.mp h.operators) entry hentry
    refine ⟨hfield ▸ hfilled, nodup_resolve_tokens htokens List.nodup_nil, fun operator _ => ?_⟩
    cases operator <;> decide
  case customFilters =>
    rw [heq]
    exact check_names_eq_ok_iff.mp h.customFilters
  case select =>
    rw [heq]
    exact check_names_eq_ok_iff.mp h.select
  case sorts =>
    rw [heq]
    exact check_names_eq_ok_iff.mp h.sorts
  case actions =>
    obtain ⟨written, hwritten, hcompile⟩ :=
      exists_of_forall₂ (map_m_eq_ok_iff.mp h.actions) action haction
    exact ActionDraft.valid_of_compile (hnamed.trimmed written hwritten) hcompile

/-! ## Gates -/

/-- The entity type has a name, a cache has a time to live that is positive, all other names are
filled, the names of the versions are distinct, and all overlays are sound. -/
structure Sound (draft : GateDraft) : Prop where
  entity : Text.isBlankText draft.entity = false
  cacheTtl : draft.cacheTtl ≠ some 0
  cacheName : ∀ name, draft.cacheName = some name → ∃ ttl, draft.cacheTtl = some ttl
  middleware : ∀ name ∈ draft.middleware, Text.isBlankText name = false
  distinct : (draft.versions.map Prod.fst).Nodup
  named : ∀ version ∈ draft.versions, Text.isBlankText version.1 = false
  defaultVersion : ∀ id, draft.defaultVersion = some id → id ∈ draft.versions.map Prod.fst
  overlay : draft.overlay.Sound
  versions : ∀ version ∈ draft.versions, version.2.Sound

theorem cache_is_resolved_iff : (∃ cache, draft.resolveCache = .ok cache) ↔
    draft.cacheTtl ≠ some 0 ∧
      ∀ name, draft.cacheName = some name → ∃ ttl, draft.cacheTtl = some ttl := by
  unfold resolveCache
  rcases draft.cacheTtl with _ | _ | ttl
  · cases draft.cacheName <;> simp
  · simp
  · simp

theorem check_default_version_eq_ok_iff : draft.checkDefaultVersion = .ok () ↔
    ∀ id, draft.defaultVersion = some id → id ∈ draft.versions.map Prod.fst := by
  unfold checkDefaultVersion
  cases draft.defaultVersion with
  | none => simp
  | some id =>
      dsimp only
      split
      · next hknown => simpa using hknown
      · next hunknown => simpa using hunknown

/-- The versions are compiled exactly if their overlays are sound. -/
theorem versions_are_compiled_iff (draft : GateDraft) (cache : Option CachePolicy)
    {overlays : List (String × Overlay)}
    (hnamed : ∀ overlay ∈ overlays, overlay.2.WellNamed) :
    (∃ versions, draft.compileVersions cache overlays = .ok versions) ↔
      ∀ overlay ∈ overlays, overlay.2.Sound := by
  simp only [compile_versions_eq_ok_iff, exists_forall₂_iff]
  refine forall₂_congr fun overlay hoverlay => ?_
  rw [← is_compiled_iff draft cache (some overlay.1) (hnamed overlay hoverlay)]
  constructor
  · rintro ⟨version, -, hcompiles⟩
    exact ⟨version.2, compile_eq_ok_iff.mpr hcompiles⟩
  · rintro ⟨version, hcompile⟩
    exact ⟨(overlay.1, version), rfl, compile_eq_ok_iff.mp hcompile⟩

/-- A well-named declaration is built exactly if it is sound. -/
theorem is_built_iff (hnamed : draft.WellNamed) :
    (∃ gate, draft.build = .ok gate) ↔ draft.Sound := by
  have hversions (cache : Option CachePolicy) := draft.versions_are_compiled_iff cache
    fun version hversion => (hnamed.versions version hversion).2
  have hnames : draft.checkVersions [] (draft.versions.map Prod.fst) = .ok () ↔
      (draft.versions.map Prod.fst).Nodup ∧
        ∀ version ∈ draft.versions, Text.isBlankText version.1 = false := by
    rw [check_versions_eq_ok_iff, List.forall_mem_map]
    refine and_congr_right fun _ => forall₂_congr fun version hversion => ?_
    rw [Text.not_blank_iff (hnamed.versions version hversion).1]
    simp
  constructor
  · rintro ⟨gate, hbuild⟩
    have h := build_eq_ok_iff.mp hbuild
    obtain ⟨httl, hname⟩ := cache_is_resolved_iff.mp ⟨_, h.cache⟩
    obtain ⟨hdistinct, hfilled⟩ := hnames.mp h.versionNames
    exact {
      entity := (Text.not_blank_iff hnamed.entity).mpr h.entity_ne
      cacheTtl := httl
      cacheName := hname
      middleware := check_names_eq_ok_iff.mp h.middleware
      distinct := hdistinct
      named := hfilled
      defaultVersion := check_default_version_eq_ok_iff.mp h.defaultVersion
      overlay := (draft.is_compiled_iff _ _ hnamed.overlay).mp ⟨_, h.base⟩
      versions := (hversions gate.cache).mp ⟨_, h.versions⟩ }
  · intro h
    obtain ⟨cache, hcache⟩ := cache_is_resolved_iff.mpr ⟨h.cacheTtl, h.cacheName⟩
    obtain ⟨base, hbase⟩ := (draft.is_compiled_iff cache none hnamed.overlay).mpr h.overlay
    obtain ⟨versions, hversions⟩ := (hversions cache).mpr h.versions
    exact ⟨⟨draft, draft.source, cache, base, versions,
      Changelog.ofVersions (draft.beforeVersions.getD {}) draft.versions⟩, build_eq_ok_iff.mpr {
        entity_ne := (Text.not_blank_iff hnamed.entity).mp h.entity
        cache := hcache
        middleware := check_names_eq_ok_iff.mpr h.middleware
        versionNames := hnames.mpr ⟨h.distinct, h.named⟩
        defaultVersion := check_default_version_eq_ok_iff.mpr h.defaultVersion
        base := hbase
        versions := hversions
        draft_eq := rfl
        source_eq := rfl
        changelog_eq := rfl }⟩

/-- All versions of what is built from a well-named declaration are valid. -/
theorem Builds.versions_valid {gate : Gate} (h : draft.Builds gate) (hnamed : draft.WellNamed) :
    ∀ version ∈ gate.base :: gate.versions.map Prod.snd, version.Valid := by
  have hmiddleware := check_names_eq_ok_iff.mp h.middleware
  have hcache (policy : CachePolicy) (hpolicy : gate.cache = some policy) : 0 < policy.ttl :=
    Nat.pos_of_ne_zero (resolve_cache_ttl (hpolicy ▸ h.cache))
  rw [List.forall_mem_cons, List.forall_mem_map]
  refine ⟨(compile_eq_ok_iff.mp h.base).valid hnamed.overlay hmiddleware hcache,
    fun entry hentry => ?_⟩
  obtain ⟨overlay, hoverlay, -, hcompiles⟩ :=
    exists_of_forall₂ (compile_versions_eq_ok_iff.mp h.versions) entry hentry
  exact hcompiles.valid (hnamed.versions overlay hoverlay).2 hmiddleware hcache

end GateDraft

/-- The names that a gate serves are those of its versions. -/
theorem Gate.serves_iff (gate : Gate) (id : String) :
    (∃ version, gate.version (some id) = .ok version) ↔ id ∈ gate.versionNames := by
  have hlookup : (∃ version, gate.version (some id) = .ok version) ↔
      (gate.versions.lookup id).isSome := by
    cases hfound : gate.versions.lookup id <;> simp [Gate.version, hfound]
  rw [hlookup, lookup_is_some_iff, Gate.versionNames]

namespace GateDraft

/-- What is declared about an entity type, step by step, is built exactly if it is sound. The gate
that is built has distinct names of versions, the declared ones in order. It serves these versions
under their names and nothing else, serves requests that ask for no version, and the version without
a name and all others are valid. -/
theorem built_is_valid (entity : String) {list : List GateStep}
    (hlist : ∀ step ∈ list, step.WellNamed) :
    ((∃ gate, ((make entity).steps list).build = .ok gate) ↔
      ((make entity).steps list).Sound) ∧
    ∀ gate, ((make entity).steps list).build = .ok gate →
      (GateStep.versionNames list).Nodup ∧
      (∀ id ∈ GateStep.versionNames list, Text.isBlankText id = false) ∧
      (∃ version, gate.version none = .ok version) ∧
      (∀ id, (∃ version, gate.version (some id) = .ok version) ↔
        id ∈ GateStep.versionNames list) ∧
      ∀ version ∈ gate.base :: gate.versions.map Prod.snd, version.Valid := by
  have hnamed := (well_named_make entity).steps hlist
  refine ⟨is_built_iff hnamed, fun gate hbuild => ?_⟩
  have hbuilds := build_eq_ok_iff.mp hbuild
  have hsound := (is_built_iff hnamed).mp ⟨gate, hbuild⟩
  have hnames := version_names_steps (make entity) list
  rw [show (make entity).versions = [] from rfl, List.map_nil, List.nil_append] at hnames
  refine ⟨hnames ▸ hsound.distinct, fun id hid => ?_, Gate.Built.default_version ⟨_, hbuild⟩,
    fun id => ?_, hbuilds.versions_valid hnamed⟩
  · rw [← hnames] at hid
    obtain ⟨version, hversion, rfl⟩ := List.mem_map.mp hid
    exact hsound.named version hversion
  · rw [gate.serves_iff, (default_version_of_builds hbuilds).1]

/-- Posts with an action, one version that permits operators, one that starts from nothing, and a
cache. -/
def cachedPosts : List GateStep :=
  [.overlay (.filter "title" ["string"]),
    .overlay (.action ((ActionDraft.make " publish ").steps [.method "put", .status 202])),
    .version "1" fun overlay => overlay.steps [.allowedOperators "title" ["EQ", " like ", "eq"]],
    .version " 2 " fun _ => {}, .cache 60, .defaultVersion "1"]

/-- The posts are sound, so they are built, and they are served in two versions. -/
theorem posts_are_valid : ∃ gate, ((make "Post").steps cachedPosts).build = .ok gate ∧
    ((make "Post").steps cachedPosts).Sound ∧ gate.base.Valid ∧
    (∃ version, gate.version (some "2") = .ok version) ∧
    ¬ ∃ version, gate.version (some " 2 ") = .ok version := by
  have hnamed : ∀ step ∈ cachedPosts, step.WellNamed := by
    simp only [cachedPosts, List.forall_mem_cons]
    exact ⟨trivial, ActionDraft.trim_name_made _ _,
      fun overlay hoverlay => hoverlay.steps (List.forall_mem_singleton.mpr trivial),
      fun _ _ => Overlay.well_named_empty, trivial, trivial, nofun⟩
  obtain ⟨hbuilt, hvalid⟩ := built_is_valid "Post" hnamed
  obtain ⟨gate, hgate⟩ : ∃ gate, ((make "Post").steps cachedPosts).build = .ok gate :=
    ⟨_, rfl⟩
  obtain ⟨-, -, -, hserves, hversions⟩ := hvalid gate hgate
  refine ⟨gate, hgate, hbuilt.mp ⟨gate, hgate⟩, hversions _ List.mem_cons_self, ?_, ?_⟩
  · exact (hserves "2").mpr (by decide +kernel)
  · exact (hserves " 2 ").not.mpr (by decide +kernel)

end GateDraft

end EntityGate

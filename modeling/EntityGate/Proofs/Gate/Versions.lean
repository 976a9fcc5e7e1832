import Mathlib.Data.List.Perm.Basic
import EntityGate.Gate.Basic
import EntityGate.Proofs.Data.Entries
import EntityGate.Proofs.Data.Results
import EntityGate.Proofs.Data.Sorted

/-!
# Versions of one gate

What a declaration is compiled and built to is said once, for all that follows from it: see
`GateDraft.compile_eq_ok_iff` for one version, `GateDraft.compile_versions_eq_ok_iff` for all of
them and `GateDraft.build_eq_ok_iff` for the gate. The versions of a gate that was built differ in
what may be declared per version only: they share the entity, the source, the cache policy and the
base query. The name of a version tells it apart from the others of its gate: see `version_unique`.
-/

namespace EntityGate

/-! ## Passes over lists -/

section Passes

variable {ε α β γ : Type} {check : α → Except ε β} {related : α → β → Prop} {items : List α}
  {values : List β}

/-- A pass over items answers what the items answer one after the other. -/
theorem map_m_eq_ok_iff : items.mapM check = .ok values ↔
    List.Forall₂ (fun item value => check item = .ok value) items values := by
  induction items generalizing values with
  | nil =>
      rw [List.mapM_nil, List.forall₂_nil_left_iff]
      constructor
      · intro h
        cases h
        rfl
      · rintro rfl
        rfl
  | cons item rest ih =>
      rw [List.mapM_cons, List.forall₂_cons_left_iff]
      constructor
      · intro h
        obtain ⟨value, hvalue, h⟩ := except_bind_eq_ok h
        obtain ⟨others, hothers, h⟩ := except_bind_eq_ok h
        cases h
        exact ⟨value, others, hvalue, ih.mp hothers, rfl⟩
      · rintro ⟨value, others, hvalue, hothers, rfl⟩
        rw [hvalue]
        show (rest.mapM check >>= _) = _
        rw [ih.mpr hothers]
        rfl

/-- A pass over items fails as the first item that fails. -/
theorem map_m_eq_error_iff {error : ε} : items.mapM check = .error error ↔
    ∃ before item after, items = before ++ item :: after ∧
      (∀ earlier ∈ before, ∃ value, check earlier = .ok value) ∧ check item = .error error := by
  induction items with
  | nil =>
      rw [List.mapM_nil]
      constructor
      · intro h
        cases h
      · rintro ⟨before, item, after, h, -, -⟩
        cases before <;> cases h
  | cons item rest ih =>
      rw [List.mapM_cons]
      cases hitem : check item with
      | error failure =>
          constructor
          · intro h
            cases h
            exact ⟨[], item, rest, rfl, nofun, hitem⟩
          · rintro ⟨before, failing, after, hsplit, hbefore, hfailing⟩
            cases before with
            | nil =>
                cases hsplit
                cases hitem.symm.trans hfailing
                rfl
            | cons first before =>
                cases hsplit
                obtain ⟨value, hvalue⟩ := hbefore item List.mem_cons_self
                cases hitem.symm.trans hvalue
      | ok value =>
          have hrest : (do let others ← rest.mapM check; pure (value :: others)) = .error error ↔
              rest.mapM check = .error error := by
            cases rest.mapM check with
            | error failure => exact Iff.rfl
            | ok others => exact ⟨nofun, nofun⟩
          refine hrest.trans (ih.trans ⟨?_, ?_⟩)
          · rintro ⟨before, failing, after, rfl, hbefore, hfailing⟩
            exact ⟨item :: before, failing, after, rfl,
              List.forall_mem_cons.mpr ⟨⟨value, hitem⟩, hbefore⟩, hfailing⟩
          · rintro ⟨before, failing, after, hsplit, hbefore, hfailing⟩
            cases before with
            | nil =>
                cases hsplit
                cases hitem.symm.trans hfailing
            | cons first before =>
                cases hsplit
                exact ⟨before, failing, after, rfl, (List.forall_mem_cons.mp hbefore).2, hfailing⟩

theorem exists_of_forall₂ (h : List.Forall₂ related items values) :
    ∀ value ∈ values, ∃ item ∈ items, related item value := by
  induction h with
  | nil => exact nofun
  | cons hfirst _ ih =>
      intro value hvalue
      rcases List.mem_cons.mp hvalue with rfl | hvalue
      · exact ⟨_, List.mem_cons_self, hfirst⟩
      · obtain ⟨item, hitem, hrelated⟩ := ih value hvalue
        exact ⟨item, List.mem_cons_of_mem _ hitem, hrelated⟩

theorem exists_forall₂_iff : (∃ values, List.Forall₂ related items values) ↔
    ∀ item ∈ items, ∃ value, related item value := by
  induction items with
  | nil => exact ⟨fun _ => nofun, fun _ => ⟨[], .nil⟩⟩
  | cons item rest ih =>
      rw [List.forall_mem_cons, ← ih]
      constructor
      · rintro ⟨_, hfirst | ⟨hfirst, hrest⟩⟩
        exact ⟨⟨_, hfirst⟩, _, hrest⟩
      · rintro ⟨⟨value, hfirst⟩, values, hrest⟩
        exact ⟨value :: values, .cons hfirst hrest⟩

/-- A pass over items answers exactly if each item does. -/
theorem map_m_is_ok_iff : (∃ values, items.mapM check = .ok values) ↔
    ∀ item ∈ items, ∃ value, check item = .ok value := by
  simp only [map_m_eq_ok_iff, exists_forall₂_iff]

theorem map_eq_of_forall₂ (h : List.Forall₂ related items values) {f : α → γ} {g : β → γ}
    (hsame : ∀ item value, related item value → g value = f item) :
    values.map g = items.map f := by
  induction h with
  | nil => rfl
  | cons hfirst _ ih => rw [List.map_cons, List.map_cons, hsame _ _ hfirst, ih]

end Passes

/-! ## What a declaration is built to -/

/-- An action keeps its name, from which its kind follows. -/
theorem ActionDraft.compile_name {draft : ActionDraft} {action : Action}
    (h : draft.compile = .ok action) :
    action.name = draft.name ∧ action.kind = ActionKind.ofName action.name := by
  unfold compile at h
  split at h
  · cases h
  · obtain ⟨_, _, h⟩ := except_bind_eq_ok h
    obtain ⟨_, _, h⟩ := except_bind_eq_ok h
    cases h
    exact ⟨rfl, rfl⟩

namespace GateDraft

variable {draft : GateDraft} {cache : Option CachePolicy} {name : Option String}
  {overlay : Overlay} {version : GateVersion}

/-- The version of an overlay, given its operators and its actions. -/
def versionOf (draft : GateDraft) (cache : Option CachePolicy) (name : Option String)
    (overlay : Overlay) (operators : OperatorMap) (actions : List Action) : GateVersion where
  entity := draft.entity
  aliasName := draft.aliasName
  version := name
  source := draft.source
  middleware := draft.middleware
  filters := overlay.filters.getD RuleMap.empty
  operators := operators
  customFilters := overlay.customFilters.getD .empty
  select := overlay.select.getD []
  sorts := overlay.sorts.getD []
  pagination := draft.pagination.getD .classic
  cache := cache
  actions := actions
  baseQuery := draft.baseQuery

/-- What has to hold of an overlay and of the version that is compiled from it. -/
structure Compiles (draft : GateDraft) (cache : Option CachePolicy) (name : Option String)
    (overlay : Overlay) (version : GateVersion) : Prop where
  filters : draft.checkNames "filters" (overlay.filters.getD RuleMap.empty).keys = .ok ()
  operators : draft.resolveOperators (overlay.operators.getD .empty).entries =
    .ok version.operators.entries
  customFilters : draft.checkNames "raw_filters" (overlay.customFilters.getD .empty).keys = .ok ()
  select : draft.checkNames "select" (overlay.select.getD []) = .ok ()
  sorts : draft.checkNames "sorts" (overlay.sorts.getD []) = .ok ()
  actions : (overlay.actions.getD []).mapM ActionDraft.compile = .ok version.actions
  version_eq : version = draft.versionOf cache name overlay version.operators version.actions

theorem keys_resolve_operators {entries : List (String × List String)}
    {resolved : List (String × List FilterOperator)}
    (h : draft.resolveOperators entries = .ok resolved) :
    resolved.map Prod.fst = entries.map Prod.fst := by
  induction entries generalizing resolved with
  | nil =>
      cases h
      rfl
  | cons entry rest ih =>
      obtain ⟨_, -, h⟩ := except_bind_eq_ok h
      obtain ⟨_, -, h⟩ := except_bind_eq_ok h
      obtain ⟨others, hothers, h⟩ := except_bind_eq_ok h
      cases h
      exact congrArg (entry.1 :: ·) (ih hothers)

/-- The operators of the fields stay in the order of the fields. -/
theorem entries_of_resolved {map : TextMap (List String)}
    {resolved : List (String × List FilterOperator)}
    (h : draft.resolveOperators map.entries = .ok resolved) :
    (TextMap.ofList resolved).entries = resolved :=
  TextMap.entries_of_list (map.sorted.of_keys (keys_resolve_operators h))

theorem compile_eq_ok_iff : draft.compile cache name overlay = .ok version ↔
    draft.Compiles cache name overlay version := by
  constructor
  · intro h
    unfold compile at h
    obtain ⟨_, hfilters, h⟩ := except_bind_eq_ok h
    obtain ⟨_, hoperators, h⟩ := except_bind_eq_ok h
    obtain ⟨_, hcustom, h⟩ := except_bind_eq_ok h
    obtain ⟨_, hselect, h⟩ := except_bind_eq_ok h
    obtain ⟨_, hsorts, h⟩ := except_bind_eq_ok h
    obtain ⟨_, hactions, h⟩ := except_bind_eq_ok h
    cases h
    have hentries := entries_of_resolved hoperators
    exact ⟨hfilters, hoperators.trans (congrArg Except.ok hentries.symm), hcustom, hselect, hsorts,
      hactions, rfl⟩
  · intro h
    unfold compile
    show (draft.checkNames "filters" (overlay.filters.getD RuleMap.empty).keys >>= _) = _
    rw [h.filters]
    show (draft.resolveOperators (overlay.operators.getD .empty).entries >>= _) = _
    rw [h.operators]
    show (draft.checkNames "raw_filters" (overlay.customFilters.getD .empty).keys >>= _) = _
    rw [h.customFilters]
    show (draft.checkNames "select" (overlay.select.getD []) >>= _) = _
    rw [h.select]
    show (draft.checkNames "sorts" (overlay.sorts.getD []) >>= _) = _
    rw [h.sorts]
    show (List.mapM ActionDraft.compile (overlay.actions.getD []) >>= _) = _
    rw [h.actions]
    refine congrArg Except.ok (Eq.trans ?_ h.version_eq.symm)
    exact congrArg (fun operators => draft.versionOf cache name overlay operators version.actions)
      (TextMap.of_list_entries version.operators)

/-- The parts of a version that do not come from an overlay. -/
structure Shares (draft : GateDraft) (cache : Option CachePolicy) (name : Option String)
    (version : GateVersion) : Prop where
  entity_eq : version.entity = draft.entity
  version_eq : version.version = name
  source_eq : version.source = draft.source
  cache_eq : version.cache = cache
  base_query_eq : version.baseQuery = draft.baseQuery

theorem Compiles.shares (h : draft.Compiles cache name overlay version) :
    draft.Shares cache name version where
  entity_eq := congrArg GateVersion.entity h.version_eq
  version_eq := congrArg GateVersion.version h.version_eq
  source_eq := congrArg GateVersion.source h.version_eq
  cache_eq := congrArg GateVersion.cache h.version_eq
  base_query_eq := congrArg GateVersion.baseQuery h.version_eq

/-- The kinds of the actions of a version follow from their names. -/
theorem Compiles.kinds (h : draft.Compiles cache name overlay version) :
    ∀ action ∈ version.actions, action.kind = ActionKind.ofName action.name := by
  intro action haction
  obtain ⟨written, -, hcompile⟩ := exists_of_forall₂ (map_m_eq_ok_iff.mp h.actions) action haction
  exact (ActionDraft.compile_name hcompile).2

/-- The actions of a version have the names that they are declared under. -/
theorem Compiles.action_names (h : draft.Compiles cache name overlay version) :
    version.actions.map Action.name = (overlay.actions.getD []).map ActionDraft.name :=
  map_eq_of_forall₂ (map_m_eq_ok_iff.mp h.actions)
    fun _ _ hcompile => (ActionDraft.compile_name hcompile).1

section Versions

variable {overlays : List (String × Overlay)} {versions : List (String × GateVersion)}

/-- Each version is compiled from its overlay and stands under its name. -/
theorem compile_versions_eq_ok_iff : draft.compileVersions cache overlays = .ok versions ↔
    List.Forall₂ (fun overlay version => version.1 = overlay.1 ∧
      draft.Compiles cache (some overlay.1) overlay.2 version.2) overlays versions := by
  induction overlays generalizing versions with
  | nil =>
      rw [List.forall₂_nil_left_iff]
      constructor
      · intro h
        cases h
        rfl
      · rintro rfl
        rfl
  | cons overlay rest ih =>
      rw [List.forall₂_cons_left_iff]
      constructor
      · intro h
        obtain ⟨version, hversion, h⟩ := except_bind_eq_ok h
        obtain ⟨others, hothers, h⟩ := except_bind_eq_ok h
        cases h
        exact ⟨_, others, ⟨rfl, compile_eq_ok_iff.mp hversion⟩, ih.mp hothers, rfl⟩
      · rintro ⟨⟨id, version⟩, others, ⟨rfl, hversion⟩, hothers, rfl⟩
        show (draft.compile cache (some overlay.1) overlay.2 >>= _) = _
        rw [compile_eq_ok_iff.mpr hversion]
        show (draft.compileVersions cache rest >>= _) = _
        rw [ih.mpr hothers]
        rfl

/-- The versions stand under the names of their overlays. -/
theorem compile_versions_names (h : draft.compileVersions cache overlays = .ok versions) :
    versions.map Prod.fst = overlays.map Prod.fst :=
  map_eq_of_forall₂ (compile_versions_eq_ok_iff.mp h) fun _ _ hcompiled => hcompiled.1

/-- Every version comes from an overlay under its name. -/
theorem compiles_of_version (h : draft.compileVersions cache overlays = .ok versions) :
    ∀ entry ∈ versions, ∃ overlay, draft.Compiles cache (some entry.1) overlay entry.2 := by
  intro entry hentry
  obtain ⟨overlay, -, hname, hcompiled⟩ :=
    exists_of_forall₂ (compile_versions_eq_ok_iff.mp h) entry hentry
  exact ⟨overlay.2, hname ▸ hcompiled⟩

end Versions

/-! ### Declarations that compile alike -/

section Alike

variable {other : GateDraft}

/-- The parts of a declaration that every version takes from it. -/
structure Alike (draft other : GateDraft) : Prop where
  entity_eq : other.entity = draft.entity
  alias_eq : other.aliasName = draft.aliasName
  source_eq : other.source = draft.source
  middleware_eq : other.middleware = draft.middleware
  pagination_eq : other.pagination = draft.pagination
  baseQuery_eq : other.baseQuery = draft.baseQuery

theorem check_names_eq (h : other.entity = draft.entity) (sectionName : String)
    (names : List String) :
    other.checkNames sectionName names = draft.checkNames sectionName names := by
  rw [checkNames, checkNames, h]

theorem check_versions_eq (h : other.entity = draft.entity) (seen ids : List String) :
    other.checkVersions seen ids = draft.checkVersions seen ids := by
  induction ids generalizing seen with
  | nil => rfl
  | cons id rest ih => rw [checkVersions, checkVersions, ih, h]

theorem resolve_operators_eq (h : other.entity = draft.entity)
    (entries : List (String × List String)) :
    other.resolveOperators entries = draft.resolveOperators entries := by
  induction entries with
  | nil => rfl
  | cons entry rest ih => rw [resolveOperators, resolveOperators, ih, check_names_eq h]

theorem Alike.compile_eq (h : draft.Alike other) (name : Option String) (overlay : Overlay) :
    other.compile cache name overlay = draft.compile cache name overlay := by
  unfold compile
  simp only [check_names_eq h.entity_eq, resolve_operators_eq h.entity_eq, h.entity_eq, h.alias_eq,
    h.source_eq, h.middleware_eq, h.pagination_eq, h.baseQuery_eq]

theorem Alike.compiles (h : draft.Alike other)
    (hcompiles : draft.Compiles cache name overlay version) :
    other.Compiles cache name overlay version := by
  rw [← compile_eq_ok_iff] at hcompiles ⊢
  rw [h.compile_eq, hcompiles]

end Alike

/-- What has to hold of a declaration and of the gate that is built from it. -/
structure Builds (draft : GateDraft) (gate : Gate) : Prop where
  entity_ne : draft.entity ≠ ""
  cache : draft.resolveCache = .ok gate.cache
  middleware : draft.checkNames "middleware" draft.middleware = .ok ()
  versionNames : draft.checkVersions [] (draft.versions.map Prod.fst) = .ok ()
  defaultVersion : draft.checkDefaultVersion = .ok ()
  base : draft.compile gate.cache none draft.overlay = .ok gate.base
  versions : draft.compileVersions gate.cache draft.versions = .ok gate.versions
  draft_eq : gate.draft = draft
  source_eq : gate.source = draft.source
  changelog_eq : gate.changelog =
    Changelog.ofVersions (draft.beforeVersions.getD {}) draft.versions

theorem build_eq_ok_iff {gate : Gate} : draft.build = .ok gate ↔ draft.Builds gate := by
  constructor
  · intro h
    unfold build at h
    split at h
    · cases h
    · next hentity =>
      obtain ⟨_, hcache, h⟩ := except_bind_eq_ok h
      obtain ⟨_, hmiddleware, h⟩ := except_bind_eq_ok h
      obtain ⟨_, hnames, h⟩ := except_bind_eq_ok h
      obtain ⟨_, hdefault, h⟩ := except_bind_eq_ok h
      obtain ⟨_, hbase, h⟩ := except_bind_eq_ok h
      obtain ⟨_, hversions, h⟩ := except_bind_eq_ok h
      cases h
      exact ⟨by simpa using hentity, hcache, hmiddleware, hnames, hdefault, hbase, hversions, rfl,
        rfl, rfl⟩
  · intro h
    have hgate : gate = ⟨draft, draft.source, gate.cache, gate.base, gate.versions,
        Changelog.ofVersions (draft.beforeVersions.getD {}) draft.versions⟩ := by
      rw [← h.changelog_eq, ← h.source_eq, ← h.draft_eq]
    unfold build
    rw [if_neg (by simpa using h.entity_ne), h.cache]
    show (draft.checkNames "middleware" draft.middleware >>= _) = _
    rw [h.middleware]
    show (draft.checkVersions [] (draft.versions.map Prod.fst) >>= _) = _
    rw [h.versionNames]
    show (draft.checkDefaultVersion >>= _) = _
    rw [h.defaultVersion]
    show (draft.compile gate.cache none draft.overlay >>= _) = _
    rw [h.base]
    show (draft.compileVersions gate.cache draft.versions >>= _) = _
    rw [h.versions]
    exact congrArg Except.ok hgate.symm

/-- A declared cache keeps entries for some time. -/
theorem resolve_cache_ttl {policy : CachePolicy} (h : draft.resolveCache = .ok (some policy)) :
    policy.ttl ≠ 0 := by
  unfold resolveCache at h
  split at h
  · cases h
  · cases h
    simp
  · cases h

end GateDraft

namespace Gate

/-- The gate comes from a declaration that passed all checks. -/
def Built (gate : Gate) : Prop := ∃ draft : GateDraft, draft.build = .ok gate

/-- The version is one that a request may pick. -/
def Offers (gate : Gate) (version : GateVersion) : Prop :=
  ∃ wanted, gate.version wanted = .ok version

variable {gate : Gate} {version other : GateVersion}

/-- What a gate that was built hands on to its versions. -/
theorem Built.shares (h : gate.Built) :
    gate.draft.Shares gate.cache none gate.base ∧
      (∀ entry ∈ gate.versions, gate.draft.Shares gate.cache (some entry.1) entry.2) ∧
      gate.draft.source = gate.source ∧
      ∀ policy, gate.cache = some policy → policy.ttl ≠ 0 := by
  obtain ⟨draft, hbuild⟩ := h
  have hbuilds := GateDraft.build_eq_ok_iff.mp hbuild
  rw [hbuilds.draft_eq]
  refine ⟨(GateDraft.compile_eq_ok_iff.mp hbuilds.base).shares, fun entry hentry => ?_,
    hbuilds.source_eq.symm, fun policy hpolicy => ?_⟩
  · obtain ⟨overlay, hcompiled⟩ := GateDraft.compiles_of_version hbuilds.versions entry hentry
    exact hcompiled.shares
  · exact GateDraft.resolve_cache_ttl (hpolicy ▸ hbuilds.cache)

/-- An offered version is the one without a name or stands under its name. -/
theorem offers_cases (h : gate.Offers version) :
    version = gate.base ∨ ∃ id, gate.versions.lookup id = some version := by
  obtain ⟨wanted, hwanted⟩ := h
  unfold Gate.version at hwanted
  cases hid : wanted <|> gate.defaultVersion with
  | none =>
      simp only [hid, Except.ok.injEq] at hwanted
      exact .inl hwanted.symm
  | some id =>
      simp only [hid] at hwanted
      cases hfound : gate.versions.lookup id with
      | none => simp [hfound] at hwanted
      | some found =>
          simp only [hfound, Except.ok.injEq] at hwanted
          exact .inr ⟨id, hwanted ▸ hfound⟩

/-- An offered version shares everything but its own name with the gate. -/
theorem Built.offers_shares (h : gate.Built) (hoffers : gate.Offers version) :
    gate.draft.Shares gate.cache version.version version := by
  obtain ⟨hbase, hversions, -⟩ := h.shares
  rcases offers_cases hoffers with rfl | ⟨id, hlookup⟩
  · rw [hbase.version_eq]
    exact hbase
  · have hshares := hversions _ (mem_of_lookup hlookup)
    rw [hshares.version_eq]
    exact hshares

/-- The kinds of the actions of an offered version follow from their names. -/
theorem Built.offers_kinds (h : gate.Built) (hoffers : gate.Offers version) :
    ∀ action ∈ version.actions, action.kind = ActionKind.ofName action.name := by
  obtain ⟨draft, hbuild⟩ := h
  have hbuilds := GateDraft.build_eq_ok_iff.mp hbuild
  rcases offers_cases hoffers with rfl | ⟨id, hlookup⟩
  · exact (GateDraft.compile_eq_ok_iff.mp hbuilds.base).kinds
  · obtain ⟨overlay, hcompiled⟩ :=
      GateDraft.compiles_of_version hbuilds.versions _ (mem_of_lookup hlookup)
    exact hcompiled.kinds

/-- A gate that was built has a version for requests that ask for none. -/
theorem Built.default_version (h : gate.Built) : ∃ version, gate.version none = .ok version := by
  obtain ⟨draft, hbuild⟩ := h
  have hbuilds := GateDraft.build_eq_ok_iff.mp hbuild
  have hnames : gate.versionNames = draft.versions.map Prod.fst :=
    GateDraft.compile_versions_names hbuilds.versions
  have hknown : ∀ id, gate.defaultVersion = some id → id ∈ gate.versionNames := by
    intro id hid
    have hdefault := hbuilds.defaultVersion
    unfold Gate.defaultVersion at hid
    rw [hbuilds.draft_eq] at hid
    unfold GateDraft.checkDefaultVersion at hdefault
    cases hdeclared : draft.defaultVersion with
    | none =>
        rw [hdeclared] at hid
        exact List.mem_of_getLast? hid
    | some declared =>
        rw [hdeclared] at hid hdefault
        obtain rfl : declared = id := Option.some.inj hid
        dsimp only at hdefault
        split at hdefault
        · next hmem => exact hnames ▸ List.contains_iff_mem.mp hmem
        · cases hdefault
  unfold Gate.version
  cases hid : gate.defaultVersion with
  | none => exact ⟨gate.base, rfl⟩
  | some id =>
      obtain ⟨entry, hentry, rfl⟩ := List.mem_map.mp (hknown id hid)
      have hsome : (gate.versions.lookup entry.1).isSome :=
        List.lookup_isSome_iff.mpr ⟨entry, hentry, beq_self_eq_true _⟩
      obtain ⟨version, hlookup⟩ := Option.isSome_iff_exists.mp hsome
      refine ⟨version, ?_⟩
      simp only [Option.none_or, Option.orElse_eq_orElse, Option.orElse_eq_or, hlookup]

/-- The name of an offered version tells it apart from the others of its gate. -/
theorem Built.version_unique (h : gate.Built) (hversion : gate.Offers version)
    (hother : gate.Offers other) (hname : version.version = other.version) : version = other := by
  obtain ⟨hbase, hversions, -⟩ := h.shares
  have hnamed {id : String} {named : GateVersion} (hlookup : gate.versions.lookup id = some named) :
      named.version = some id :=
    (hversions _ (mem_of_lookup hlookup)).version_eq
  -- Only the version without a name has none, and the others carry the name they are found under.
  rcases offers_cases hversion with rfl | ⟨id, hlookup⟩ <;>
    rcases offers_cases hother with rfl | ⟨id', hlookup'⟩
  · rfl
  · simp [hbase.version_eq, hnamed hlookup'] at hname
  · simp [hbase.version_eq, hnamed hlookup] at hname
  · obtain rfl : id = id' := by simpa [hnamed hlookup, hnamed hlookup'] using hname
    exact Option.some.inj (hlookup.symm.trans hlookup')

end Gate

end EntityGate

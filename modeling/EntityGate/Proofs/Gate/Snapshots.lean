import EntityGate.Proofs.Gate.Changelog

/-!
# Versions stay as they were declared

A gate is declared by a sequence of declarations, some of which declare a version. What a sequence
declares is read off it: see `GateDraft.version_names_steps` and
`GateDraft.default_version_steps`. A longer sequence only adds versions behind those that are
there: see `GateDraft.continues_steps`. So what a gate serves under the name of an earlier
version does not depend on what is declared afterwards: see `GateDraft.earlier_versions_kept`.
-/

namespace EntityGate

namespace GateDraft

/-! ## Sequences of steps -/

theorem steps_append (draft : GateDraft) (earlier later : List GateStep) :
    draft.steps (earlier ++ later) = (draft.steps earlier).steps later :=
  List.foldl_append

theorem version_names_steps (draft : GateDraft) (list : List GateStep) :
    (draft.steps list).versions.map Prod.fst =
      draft.versions.map Prod.fst ++ GateStep.versionNames list := by
  induction list generalizing draft with
  | nil => exact (List.append_nil _).symm
  | cons step rest ih =>
      refine (ih (draft.step step)).trans ?_
      rcases draft.step_cases step with ⟨id, change, rfl⟩ | ⟨hname, -, hversions, -⟩
      · simp [GateDraft.step, declareVersion, GateStep.versionNames, GateStep.versionName?]
      · simp [hversions, GateStep.versionNames, hname]

theorem default_version_steps (draft : GateDraft) (list : List GateStep) :
    (draft.steps list).defaultVersion =
      ((list.filterMap GateStep.defaultName?).getLast? <|> draft.defaultVersion) := by
  induction list generalizing draft with
  | nil => rfl
  | cons step rest ih =>
      refine (ih (draft.step step)).trans ?_
      have hdefault : (draft.step step).defaultVersion =
          (step.defaultName? <|> draft.defaultVersion) := by
        rcases draft.step_cases step with ⟨id, change, rfl⟩ | ⟨-, -, -, -, hdefault⟩
        · rfl
        · exact hdefault
      rw [hdefault]
      cases hname : step.defaultName? with
      | none => simp [hname]
      | some name =>
          rw [List.filterMap_cons_some hname, List.getLast?_cons]
          cases (rest.filterMap GateStep.defaultName?).getLast? <;> rfl

/-! ## Going on with a declaration -/

/-- The later declaration goes on from the other one. It has the same entity type, more versions at
most behind the same ones, and the same overlay from before them. -/
structure Continues (draft later : GateDraft) : Prop where
  entity_eq : later.entity = draft.entity
  versions_kept : draft.versions <+: later.versions
  before_eq : ∀ first, draft.beforeVersions = some first → later.beforeVersions = some first

theorem Continues.refl (draft : GateDraft) : draft.Continues draft :=
  ⟨rfl, List.prefix_rfl, fun _ => id⟩

theorem Continues.trans {first second third : GateDraft} (h : first.Continues second)
    (h' : second.Continues third) : first.Continues third where
  entity_eq := h'.entity_eq.trans h.entity_eq
  versions_kept := h.versions_kept.trans h'.versions_kept
  before_eq overlay hoverlay := h'.before_eq overlay (h.before_eq overlay hoverlay)

theorem continues_step (draft : GateDraft) (step : GateStep) :
    draft.Continues (draft.step step) := by
  rcases draft.step_cases step with ⟨id, change, rfl⟩ | ⟨-, hentity, hversions, hbefore, -⟩
  · refine ⟨rfl, List.prefix_append _ _, fun first hfirst => ?_⟩
    simp only [GateDraft.step, declareVersion, hfirst, Option.getD_some]
  · exact ⟨hentity, hversions ▸ List.prefix_rfl, fun first hfirst => hbefore.trans hfirst⟩

theorem continues_steps (draft : GateDraft) (list : List GateStep) :
    draft.Continues (draft.steps list) := by
  induction list generalizing draft with
  | nil => exact .refl draft
  | cons step rest ih => exact (draft.continues_step step).trans (ih _)

/-- Once there is a version, what stood before it is kept. -/
theorem before_of_versions {entity : String} {list : List GateStep}
    (h : ((make entity).steps list).versions ≠ []) :
    ∃ first, ((make entity).steps list).beforeVersions = some first := by
  induction list using List.reverseRecOn with
  | nil => exact (h rfl).elim
  | append_singleton list step ih =>
      rw [steps_append] at h ⊢
      rcases ((make entity).steps list).step_cases step with
        ⟨id, change, rfl⟩ | ⟨-, -, hversions, hbefore, -⟩
      · exact ⟨_, rfl⟩
      · obtain ⟨first, hfirst⟩ := ih fun hnone => h (hversions.trans hnone)
        exact ⟨first, hbefore.trans hfirst⟩

/-! ## Versions of a gate by their names -/

variable {draft : GateDraft} {cache : Option CachePolicy} {name : Option String}
  {overlay : Overlay} {version : GateVersion} {gate : Gate}

/-- The names of versions are accepted if they are distinct, not empty and new. -/
theorem check_versions_eq_ok_iff {seen ids : List String} :
    draft.checkVersions seen ids = .ok () ↔
      ids.Nodup ∧ ∀ id ∈ ids, id ≠ "" ∧ id ∉ seen := by
  induction ids generalizing seen with
  | nil => exact iff_of_true rfl ⟨List.nodup_nil, List.forall_mem_nil _⟩
  | cons id rest ih =>
      unfold checkVersions
      split
      · next hrefused =>
        constructor
        · intro h
          cases h
        · rintro ⟨-, hnew⟩
          obtain ⟨hfilled, hunseen⟩ := hnew id List.mem_cons_self
          simp [hfilled, hunseen] at hrefused
      · next haccepted =>
        have hid : id ≠ "" ∧ id ∉ seen := by simpa using haccepted
        rw [ih, List.nodup_cons, List.forall_mem_cons]
        constructor
        · rintro ⟨hrest, hnew⟩
          exact ⟨⟨fun hmem => (hnew id hmem).2 (by simp), hrest⟩, hid, fun other hother =>
            ⟨(hnew other hother).1, fun hseen => (hnew other hother).2 (by simp [hseen])⟩⟩
        · rintro ⟨⟨hfirst, hrest⟩, -, hnew⟩
          refine ⟨hrest, fun other hother => ⟨(hnew other hother).1, fun hseen => ?_⟩⟩
          rcases List.mem_append.mp hseen with hseen | hsame
          · exact (hnew other hother).2 hseen
          · exact hfirst (List.mem_singleton.mp hsame ▸ hother)

theorem Builds.names_nodup (h : draft.Builds gate) : gate.versionNames.Nodup := by
  rw [Gate.versionNames, compile_versions_names h.versions]
  exact (check_versions_eq_ok_iff.mp h.versionNames).1

/-- Under the name of a version a gate serves what is compiled from the overlay of the version. -/
theorem Builds.version_of_overlay (h : draft.Builds gate) {entry : String × Overlay}
    (hentry : entry ∈ draft.versions) : ∃ version, gate.version (some entry.1) = .ok version ∧
      draft.Compiles gate.cache (some entry.1) entry.2 version := by
  obtain ⟨⟨id, version⟩, hmem, rfl, hcompiles⟩ :=
    exists_of_forall₂ (compile_versions_eq_ok_iff.mp h.versions).flip entry hentry
  have hlookup : gate.versions.lookup entry.1 = some version := lookup_of_mem h.names_nodup hmem
  exact ⟨version, by simp [Gate.version, hlookup], hcompiles⟩

end GateDraft

/-- The versions have the same filters with the same rules, the same operators, custom filters,
columns, orderings and actions. -/
structure GateVersion.OffersSame (version other : GateVersion) : Prop where
  filters_eq : other.filters = version.filters
  operators_eq : other.operators = version.operators
  customFilters_eq : other.customFilters = version.customFilters
  select_eq : other.select = version.select
  sorts_eq : other.sorts = version.sorts
  actions_eq : other.actions = version.actions

namespace GateDraft

/-- What is compiled from one overlay offers the same, whatever else is declared. -/
theorem Compiles.offers_same {draft later : GateDraft} {cache cache' : Option CachePolicy}
    {name name' : Option String} {overlay : Overlay} {version other : GateVersion}
    (h : draft.Compiles cache name overlay version)
    (h' : later.Compiles cache' name' overlay other) (hentity : later.entity = draft.entity) :
    version.OffersSame other := by
  have hoperators : Except.ok other.operators.entries =
      (.ok version.operators.entries : Except ConfigError _) := by
    rw [← h'.operators, resolve_operators_eq hentity, h.operators]
  have hactions : Except.ok other.actions = (.ok version.actions : Except ConfigError _) := by
    rw [← h'.actions, h.actions]
  have hparts {α : Type} (part : GateVersion → α)
      (hsame : part (later.versionOf cache' name' overlay other.operators other.actions) =
        part (draft.versionOf cache name overlay version.operators version.actions)) :
      part other = part version := by
    rw [h'.version_eq, h.version_eq]
    exact hsame
  exact {
    filters_eq := hparts GateVersion.filters rfl
    operators_eq := TextMap.eq_of_entries (Except.ok.inj hoperators)
    customFilters_eq := hparts GateVersion.customFilters rfl
    select_eq := hparts GateVersion.select rfl
    sorts_eq := hparts GateVersion.sorts rfl
    actions_eq := Except.ok.inj hactions }

theorem default_version_of_builds {entity : String} {list : List GateStep} {gate : Gate}
    (h : ((make entity).steps list).Builds gate) :
    gate.versionNames = GateStep.versionNames list ∧
      gate.defaultVersion = GateStep.defaultName list := by
  have hnames : gate.versionNames = GateStep.versionNames list := by
    rw [Gate.versionNames, compile_versions_names h.versions, version_names_steps]
    rfl
  refine ⟨hnames, ?_⟩
  rw [Gate.defaultVersion, hnames, h.draft_eq, default_version_steps]
  simp [GateStep.defaultName, make]

end GateDraft

theorem Changelog.of_versions_extended (first : Overlay) {versions others : List (String × Overlay)}
    (h : versions <+: others) : ofVersions first versions <+: ofVersions first others := by
  induction versions generalizing first others with
  | nil => exact List.nil_prefix
  | cons version rest ih =>
      obtain ⟨added, rfl⟩ := h
      exact List.prefix_cons_inj _ |>.mpr (ih version.2 (List.prefix_append rest added))

namespace GateDraft

/-- Later declarations never change an earlier version. Whatever is declared about a gate and
whatever is declared on top of that, if both can be built: each version that is declared first is
served by both gates under its name, with the same filters and rules, operators, custom filters,
columns, orderings and actions; the changelog of the first gate has one entry for each of its
versions, and these entries are the first ones of the other changelog. Either gate serves requests
that ask for no version with the declared default, else with the version declared last. -/
theorem earlier_versions_kept {entity : String} {earlier later : List GateStep}
    {gate other : Gate} (hgate : ((make entity).steps earlier).build = .ok gate)
    (hother : ((make entity).steps (earlier ++ later)).build = .ok other) :
    (∀ id ∈ GateStep.versionNames earlier, ∃ version version',
      gate.version (some id) = .ok version ∧ other.version (some id) = .ok version' ∧
        version.OffersSame version') ∧
    gate.changelog.map ChangelogEntry.version = GateStep.versionNames earlier ∧
    gate.changelog <+: other.changelog ∧
    gate.defaultVersion = GateStep.defaultName earlier ∧
    other.defaultVersion = GateStep.defaultName (earlier ++ later) := by
  have hbuilds := build_eq_ok_iff.mp hgate
  have hbuilds' := build_eq_ok_iff.mp hother
  have hcontinues := ((make entity).steps earlier).continues_steps later
  rw [← steps_append] at hcontinues
  obtain ⟨hnames, hdefault⟩ := default_version_of_builds hbuilds
  refine ⟨fun id hid => ?_, ?_, ?_, hdefault, (default_version_of_builds hbuilds').2⟩
  · rw [← hnames, Gate.versionNames, compile_versions_names hbuilds.versions] at hid
    obtain ⟨entry, hentry, rfl⟩ := List.mem_map.mp hid
    obtain ⟨version, hversion, hcompiles⟩ := hbuilds.version_of_overlay hentry
    obtain ⟨version', hversion', hcompiles'⟩ :=
      hbuilds'.version_of_overlay (hcontinues.versions_kept.subset hentry)
    exact ⟨version, version', hversion, hversion',
      hcompiles.offers_same hcompiles' hcontinues.entity_eq⟩
  · rw [hbuilds.changelog_eq, Changelog.names_of_versions, ← hnames]
    exact (compile_versions_names hbuilds.versions).symm
  · rw [hbuilds.changelog_eq, hbuilds'.changelog_eq]
    cases hversions : ((make entity).steps earlier).versions with
    | nil => exact List.nil_prefix
    | cons version rest =>
        -- Both changelogs start from the overlay that stood before this version.
        obtain ⟨first, hfirst⟩ := before_of_versions (hversions ▸ List.cons_ne_nil version rest)
        rw [hfirst, hcontinues.before_eq first hfirst, ← hversions]
        exact Changelog.of_versions_extended _ hcontinues.versions_kept

/-- Posts with one version, which permits operators on the title and has an action. -/
def firstPosts : List GateStep :=
  [.overlay (.filter "title" ["string"]),
    .version "1" fun overlay => overlay.steps [.allowedOperators "title" ["eq", "like"],
      .action (ActionDraft.make "publish")]]

/-- What comes later drops the filter and the action, starts a version from nothing, and makes the
first version the default. -/
def laterPosts : List GateStep :=
  [.overlay (.withoutFilter "title"), .overlay (.withoutAction "publish"),
    .version " 2 " fun _ => {}, .defaultVersion "1"]

/-- The first version of the posts still permits two operators on the title and is still the one for
requests that ask for none. -/
theorem earlier_versions_kept_of_posts : ∃ gate other version,
    ((make "Post").steps firstPosts).build = .ok gate ∧
      ((make "Post").steps (firstPosts ++ laterPosts)).build = .ok other ∧
      other.version (some "1") = .ok version ∧
      version.operators.entries = [("title", [.eq, .like])] ∧
      version.actions.map Action.name = ["publish"] ∧
      other.changelog.take 1 = [⟨"1", ["Added operator: title.eq", "Added operator: title.like",
        "Added action: publish"]⟩] ∧
      gate.defaultVersion = some "1" ∧ other.defaultVersion = some "1" := by
  obtain ⟨gate, hgate, hversion, hchangelog⟩ : ∃ gate,
      ((make "Post").steps firstPosts).build = .ok gate ∧
        ((gate.version (some "1")).toOption.map fun version =>
          (version.operators.entries, version.actions.map Action.name)) =
            some ([("title", [.eq, .like])], ["publish"]) ∧
        gate.changelog = [⟨"1", ["Added operator: title.eq", "Added operator: title.like",
          "Added action: publish"]⟩] :=
    ⟨_, rfl, by decide +kernel, by decide +kernel⟩
  obtain ⟨other, hother⟩ : ∃ other,
      ((make "Post").steps (firstPosts ++ laterPosts)).build = .ok other := ⟨_, rfl⟩
  obtain ⟨hkept, -, hentries, hdefault, hdefault'⟩ := earlier_versions_kept hgate hother
  obtain ⟨version, version', hfound, hfound', hsame⟩ := hkept "1" (by decide +kernel)
  rw [hfound, Except.toOption, Option.map_some, Option.some.injEq, Prod.mk.injEq] at hversion
  refine ⟨gate, other, version', hgate, hother, hfound', ?_, ?_, ?_, ?_, ?_⟩
  · rw [hsame.operators_eq, hversion.1]
  · rw [hsame.actions_eq, hversion.2]
  · rw [hchangelog] at hentries
    exact (List.prefix_iff_eq_take.mp hentries).symm
  · rw [hdefault]
    decide +kernel
  · rw [hdefault']
    decide +kernel

end GateDraft

end EntityGate

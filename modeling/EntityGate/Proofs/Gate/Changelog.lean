import Mathlib.Data.Finset.Basic
import EntityGate.Proofs.Gate.Changes
import EntityGate.Proofs.Gate.Declared

/-!
# Replaying changelogs

The lines of a changelog are read and applied to a set of items one after the other: see
`Changelog.replay?`. From the items of one overlay the lines up to the next lead to the items of
the next: see `Changelog.replay_diff`, from which the run over all versions follows. What stood
before the first version is what the declaration had by then: see `GateDraft.DeclaredFrom`. So the
changelog of a gate leads from there to each of its versions: see `changelog_replays`.
-/

namespace EntityGate

namespace Changelog

/-- The items after a change. -/
def Change.apply (items : Finset Item) : Change → Finset Item
  | .added item => insert item items
  | .removed item => items.erase item

/-- The items after the changes that lines say, if all of them can be read. -/
def applyLines? (items : Finset Item) (lines : List String) : Option (Finset Item) :=
  (lines.mapM Change.ofLine?).map fun changes => changes.foldl Change.apply items

/-- The items after the changes of versions that follow one another. -/
def replay? (items : Finset Item) (entries : List ChangelogEntry) : Option (Finset Item) :=
  entries.foldlM (fun items entry => applyLines? items entry.changes) items

/-! ## One version -/

section Version

variable {earlier later items : Finset Item} {changes : List Change} {lines : List String}

/-- A change brings its item to the side that the change leads to and leaves the others alone. -/
theorem Change.Between.mem_apply {change : Change} (h : change.Between earlier later)
    (item : Item) :
    item ∈ change.apply items ↔ if item = change.item then item ∈ later else item ∈ items := by
  cases change with
  | added other =>
      show item ∈ insert other items ↔ if item = other then item ∈ later else item ∈ items
      split_ifs with hitem
      · exact iff_of_true (by simp [hitem]) (hitem ▸ h.2)
      · simp [hitem]
  | removed other =>
      show item ∈ items.erase other ↔ if item = other then item ∈ later else item ∈ items
      split_ifs with hitem
      · exact iff_of_false (by simp [hitem]) (hitem ▸ h.2)
      · simp [hitem]

theorem mem_foldl_apply (h : ∀ change ∈ changes, change.Between earlier later) (item : Item) :
    item ∈ changes.foldl Change.apply items ↔
      if item ∈ changes.map Change.item then item ∈ later else item ∈ items := by
  induction changes generalizing items with
  | nil => simp
  | cons change rest ih =>
      rw [List.foldl_cons, ih fun other hother => h other (List.mem_cons_of_mem _ hother),
        (h change List.mem_cons_self).mem_apply, List.map_cons]
      by_cases hitem : item = change.item
      · simp [hitem]
      · simp [hitem]

/-- Changes from one side to the other lead there if every item that is on one side only has one. -/
theorem foldl_apply_eq (h : ∀ change ∈ changes, change.Between earlier later)
    (hall : ∀ change : Change, change.Between earlier later → change ∈ changes) :
    changes.foldl Change.apply earlier = later := by
  ext item
  rw [mem_foldl_apply h]
  split_ifs with hchanged
  · rfl
  · by_contra hsides
    obtain ⟨change, rfl, hbetween⟩ := Change.exists_between hsides
    exact hchanged (List.mem_map.mpr ⟨change, hall change hbetween, rfl⟩)

/-- Lines that are those of changes are read back to these changes. -/
theorem read_lines (h : ∀ line ∈ lines, ∃ change : Change, change.line = line) :
    ∃ changes : List Change, lines.mapM Change.ofLine? = some changes ∧
      changes.map Change.line = lines := by
  induction lines with
  | nil => exact ⟨[], rfl, rfl⟩
  | cons line rest ih =>
      obtain ⟨change, rfl⟩ := h line List.mem_cons_self
      obtain ⟨changes, hchanges, rfl⟩ := ih fun other hother =>
        h other (List.mem_cons_of_mem _ hother)
      exact ⟨change :: changes, by simp [Change.of_line_line, hchanges], rfl⟩

/-- The lines between two overlays lead from the items of one to those of the other. -/
theorem replay_diff (before after : Overlay) :
    applyLines? before.items (diff before after) = some after.items := by
  have hchanges : ∀ line ∈ diff before after, ∃ change : Change, change.line = line :=
    fun line hline => by
      obtain ⟨change, -, rfl⟩ := mem_diff.mp hline
      exact ⟨change, rfl⟩
  obtain ⟨changes, hread, hlines⟩ := read_lines hchanges
  have hinjective : Function.Injective Change.line := fun change other heq => by
    have hread := Change.of_line_line change
    rw [heq, Change.of_line_line] at hread
    exact (Option.some.inj hread).symm
  have hmem (change : Change) :
      change ∈ changes ↔ change.Between before.items after.items := by
    rw [← List.mem_map_of_injective hinjective, hlines, mem_diff]
    constructor
    · rintro ⟨other, hother, heq⟩
      exact hinjective heq ▸ hother
    · exact fun hchange => ⟨change, hchange, rfl⟩
  rw [applyLines?, hread, Option.map_some,
    foldl_apply_eq (fun change => (hmem change).mp) fun change => (hmem change).mpr]

end Version

/-! ## All versions -/

/-- The entries of the first versions lead from what stood before to the last of these versions. -/
theorem replay_versions (first : Overlay) (versions : List (String × Overlay)) {count : Nat}
    {overlay : Overlay} (h : (first :: versions.map Prod.snd)[count]? = some overlay) :
    replay? first.items ((ofVersions first versions).take count) = some overlay.items := by
  induction versions generalizing first count with
  | nil =>
      cases count with
      | zero =>
          cases h
          rfl
      | succ count => cases h
  | cons version rest ih =>
      cases count with
      | zero =>
          cases h
          rfl
      | succ count =>
          show (applyLines? first.items (diff first version.2) >>= fun items =>
            replay? items ((ofVersions version.2 rest).take count)) = _
          rw [replay_diff]
          exact ih version.2 h

/-- The lines of a version are those between it and what stood before it. -/
theorem changes_of_version (first : Overlay) (versions : List (String × Overlay)) {count : Nat}
    {entry : ChangelogEntry} (h : (ofVersions first versions)[count]? = some entry) :
    ∃ before after, (first :: versions.map Prod.snd)[count]? = some before ∧
      (first :: versions.map Prod.snd)[count + 1]? = some after ∧
      entry.changes = diff before after := by
  induction versions generalizing first count with
  | nil => cases h
  | cons version rest ih =>
      cases count with
      | zero =>
          cases h
          exact ⟨first, version.2, rfl, rfl, rfl⟩
      | succ count => exact ih version.2 h

theorem names_of_versions (first : Overlay) (versions : List (String × Overlay)) :
    (ofVersions first versions).map ChangelogEntry.version = versions.map Prod.fst := by
  induction versions generalizing first with
  | nil => rfl
  | cons version rest ih => exact congrArg (version.1 :: ·) (ih version.2)

end Changelog

namespace GateDraft

/-! ## What stood before the first version -/

/-- The declaration was made step by step, or read, and the overlay stood when the first version was
declared; as long as there is no version, it is the one that stands now. What a version makes of the
overlay it starts from is left open. -/
inductive DeclaredFrom : Overlay → GateDraft → Prop
  | make (entity : String) : DeclaredFrom {} (make entity)
  | unversioned {first : Overlay} {draft : GateDraft} (h : DeclaredFrom first draft)
      (step : GateStep) (hnone : (draft.step step).versions = []) :
      DeclaredFrom (draft.step step).overlay (draft.step step)
  | versioned {first : Overlay} {draft : GateDraft} (h : DeclaredFrom first draft)
      (step : GateStep) (hsome : draft.versions ≠ []) : DeclaredFrom first (draft.step step)
  | version {first : Overlay} {draft : GateDraft} (h : DeclaredFrom first draft) (id : String)
      (change : Overlay → Overlay) : DeclaredFrom first (draft.declareVersion id change)
  | ofConfig {written : GateConfig} {draft : GateDraft} (h : ofConfig written = .ok draft) :
      DeclaredFrom (({} : Overlay).steps (overlaySteps written.overlay)) draft

/-- The declaration keeps the overlay that stood before the first version. -/
def KeepsFirst (first : Overlay) (draft : GateDraft) : Prop :=
  draft.versions = [] ∧ draft.beforeVersions = none ∧ draft.overlay = first ∨
    draft.versions ≠ [] ∧ draft.beforeVersions = some first

variable {first : Overlay} {draft : GateDraft}

theorem KeepsFirst.declare_version (h : draft.KeepsFirst first) (id : String)
    (change : Overlay → Overlay) : (draft.declareVersion id change).KeepsFirst first := by
  refine .inr ⟨by simp [declareVersion], ?_⟩
  rcases h with ⟨-, hbefore, hoverlay⟩ | ⟨-, hbefore⟩
  · simp [declareVersion, hbefore, hoverlay]
  · simp [declareVersion, hbefore]

theorem KeepsFirst.declare_versions (h : draft.KeepsFirst first) (versions : List VersionConfig) :
    (draft.declareVersions versions).KeepsFirst first :=
  List.foldlRecOn (motive := KeepsFirst first) versions _ h
    fun _ hdraft _ _ => hdraft.declare_version _ _

/-- What is kept is what stood before the first version. -/
theorem DeclaredFrom.keeps_first (h : DeclaredFrom first draft) : draft.KeepsFirst first := by
  induction h with
  | make entity => exact .inl ⟨rfl, rfl, rfl⟩
  | @unversioned first draft _ step hnone ih =>
      rcases step_cases draft step with ⟨id, change, rfl⟩ | ⟨-, -, hversions, hbefore, -⟩
      · simp [GateDraft.step, declareVersion] at hnone
      · rcases ih with ⟨-, hnothing, -⟩ | ⟨hsome, -⟩
        · exact .inl ⟨hnone, hbefore.trans hnothing, rfl⟩
        · exact (hsome (hversions.symm.trans hnone)).elim
  | @versioned first draft _ step hsome ih =>
      rcases step_cases draft step with ⟨id, change, rfl⟩ | ⟨-, -, hversions, hbefore, -⟩
      · exact ih.declare_version id _
      · rcases ih with ⟨hnone, -⟩ | ⟨-, hfirst⟩
        · exact (hsome hnone).elim
        · exact .inr ⟨hversions ▸ hsome, hbefore.trans hfirst⟩
  | version _ id change ih => exact ih.declare_version id change
  | @ofConfig written draft hread =>
      obtain ⟨mode, -, hread⟩ := except_bind_eq_ok hread
      cases hread
      refine KeepsFirst.declare_versions (.inl ?_) written.versions
      cases written.aliasName with
      | none => exact ⟨rfl, rfl, rfl⟩
      | some name =>
          simp only [withAlias]
          exact ⟨rfl, rfl, rfl⟩

/-- Every declaration has an overlay that stood before the first version. -/
theorem Declared.declared_from (h : draft.Declared) : ∃ first, DeclaredFrom first draft := by
  induction h with
  | make entity => exact ⟨{}, .make entity⟩
  | @step draft _ step ih =>
      obtain ⟨first, hfirst⟩ := ih
      by_cases hnone : draft.versions = []
      · rcases step_cases draft step with ⟨id, change, rfl⟩ | ⟨-, -, hversions, -⟩
        · exact ⟨first, hfirst.version id change⟩
        · exact ⟨_, hfirst.unversioned step (hversions.trans hnone)⟩
      · exact ⟨first, hfirst.versioned step hnone⟩
  | ofConfig hread => exact ⟨_, .ofConfig hread⟩

/-- The changelog of a gate starts from what stood before the first version. -/
theorem Builds.changelog_from {gate : Gate} (h : draft.Builds gate)
    (hdeclared : DeclaredFrom first draft) :
    gate.changelog = Changelog.ofVersions first draft.versions := by
  rw [h.changelog_eq]
  rcases hdeclared.keeps_first with ⟨hnone, -⟩ | ⟨-, hfirst⟩
  · rw [hnone]
    rfl
  · rw [hfirst, Option.getD_some]

/-- The versions of a gate have the items of their overlays. -/
theorem Builds.items_of_versions {gate : Gate} (h : draft.Builds gate) :
    (gate.versions.map fun version => version.2.items) =
      (draft.versions.map Prod.snd).map Overlay.items := by
  rw [List.map_map]
  exact map_eq_of_forall₂ (compile_versions_eq_ok_iff.mp h.versions)
    fun _ _ hcompiled => hcompiled.2.items_eq

end GateDraft

/-- The changelog of a gate replays to every version. It has one entry for each version, in order.
From what was in force before the first version was declared, the lines of the first entries lead to
exactly what is in force in the version of the last of these entries. And each line of an entry
says of an item that it is added or removed which is in force on one side of the entry only: in the
version, or in the one before it. -/
theorem changelog_replays {first : Overlay} {draft : GateDraft} {gate : Gate}
    (hdeclared : draft.DeclaredFrom first) (hbuild : draft.build = .ok gate) :
    let states := first.items :: gate.versions.map fun version => version.2.items
    gate.changelog.map ChangelogEntry.version = gate.versionNames ∧
    (∀ (count : Nat) items, states[count]? = some items →
      Changelog.replay? first.items (gate.changelog.take count) = some items) ∧
    ∀ (count : Nat) entry, gate.changelog[count]? = some entry →
      ∃ before after, states[count]? = some before ∧ states[count + 1]? = some after ∧
        ∀ line ∈ entry.changes, ∃ change, Changelog.Change.ofLine? line = some change ∧
          (change.item ∈ before ↔ change.item ∉ after) := by
  intro states
  have hbuilds := GateDraft.build_eq_ok_iff.mp hbuild
  have hchangelog := hbuilds.changelog_from hdeclared
  have hstates : states = (first :: draft.versions.map Prod.snd).map Overlay.items := by
    rw [List.map_cons, ← hbuilds.items_of_versions]
  refine ⟨?_, fun count items hitems => ?_, fun count entry hentry => ?_⟩
  · rw [hchangelog, Changelog.names_of_versions]
    exact (GateDraft.compile_versions_names hbuilds.versions).symm
  · rw [hstates, List.getElem?_map] at hitems
    obtain ⟨overlay, hoverlay, rfl⟩ := Option.map_eq_some_iff.mp hitems
    rw [hchangelog]
    exact Changelog.replay_versions first draft.versions hoverlay
  · rw [hchangelog] at hentry
    obtain ⟨before, after, hbefore, hafter, hchanges⟩ :=
      Changelog.changes_of_version first draft.versions hentry
    refine ⟨before.items, after.items, ?_, ?_, fun line hline => ?_⟩
    · rw [hstates, List.getElem?_map, hbefore, Option.map_some]
    · rw [hstates, List.getElem?_map, hafter, Option.map_some]
    · rw [hchanges] at hline
      obtain ⟨change, hbetween, rfl⟩ := Changelog.mem_diff.mp hline
      exact ⟨change, change.of_line_line, hbetween.mem_iff⟩

/-- Posts with a title, whose second version drops what the first one permits. -/
def versionedPosts : GateDraft :=
  (((GateDraft.make "Post").step (.overlay (.filter "title" ["string"]))).step
    (.version "1" fun overlay =>
      overlay.steps [.allowedOperators "title" ["eq", "like"], .select ["id", "title"]])).step
      (.version "2" fun overlay => overlay.steps [.withoutFilter "title", .sorts ["id"]])

/-- The changelog of the posts leads from the title to the second version. -/
theorem posts_replayed : ∃ gate version, versionedPosts.build = .ok gate ∧
    gate.versions[1]? = some ("2", version) ∧
    Changelog.replay? {.filter "title"} gate.changelog = some version.items := by
  have hmade := GateDraft.DeclaredFrom.make "Post"
  have hfirst := hmade.unversioned (.overlay (.filter "title" ["string"])) rfl
  have hone := hfirst.version "1" fun overlay =>
    overlay.steps [.allowedOperators "title" ["eq", "like"], .select ["id", "title"]]
  have hdeclared := hone.versioned
    (.version "2" fun overlay => overlay.steps [.withoutFilter "title", .sorts ["id"]])
    (List.cons_ne_nil _ _)
  obtain ⟨gate, hbuild⟩ : ∃ gate, versionedPosts.build = .ok gate := ⟨_, rfl⟩
  obtain ⟨hchangelog, hreplay, -⟩ := changelog_replays hdeclared hbuild
  have hnames : gate.versionNames = ["1", "2"] :=
    GateDraft.compile_versions_names (GateDraft.build_eq_ok_iff.mp hbuild).versions
  obtain ⟨one, rest, hversions, -, hrest⟩ := List.map_eq_cons_iff.mp hnames
  obtain ⟨two, _, rfl, htwo, hnil⟩ := List.map_eq_cons_iff.mp hrest
  obtain rfl := List.map_eq_nil_iff.mp hnil
  have hlength : gate.changelog.length ≤ 2 := by
    rw [← List.length_map (f := ChangelogEntry.version), hchangelog, hnames]
    exact le_rfl
  have hitems : (((GateDraft.make "Post").step
      (.overlay (.filter "title" ["string"]))).overlay).items = {.filter "title"} := by
    decide +kernel
  have hlast := hreplay 2 two.2.items (by rw [hversions]; rfl)
  rw [List.take_of_length_le hlength, hitems] at hlast
  exact ⟨gate, two.2, hbuild, by rw [hversions, ← htwo]; rfl, hlast⟩

end EntityGate

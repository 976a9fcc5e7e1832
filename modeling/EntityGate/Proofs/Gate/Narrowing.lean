import EntityGate.Config.Declaration
import EntityGate.Library.Bundled
import EntityGate.Proofs.Gate.Versions
import EntityGate.Proofs.Request.Acceptance
import EntityGate.Proofs.Validation.RuleMap

/-!
# Versions that leave out a filter

A version that leaves out the filter of a field accepts no more than the version before it, and no
filters on that field, as long as something else is still declared: see `removal_narrows`. Without
any declaration every field is open, so that the last filter must not be left out.
-/

namespace EntityGate

namespace Filter.Grammar

variable {grammar other : Grammar} {validate : InputValidator} {filters : RawFilters}

/-- Nothing is declared, so that every field may be filtered by. -/
def permissive (grammar : Grammar) : Bool := grammar.rules.isEmpty && grammar.rawFields.isEmpty

theorem declares_eq (grammar : Grammar) (field : String) :
    grammar.declares field =
      (grammar.permissive || grammar.rules.contains field || grammar.rawFields.contains field) :=
  rfl

/-- Filters are accepted by a grammar that declares their fields under the same rules and permits
no more operators on them. -/
theorem Accepts.of_other (h : other.Accepts validate filters)
    (hdeclares : ∀ entry ∈ filters.entries, other.declares entry.1 = true →
      grammar.declares entry.1 = true)
    (hrules : ∀ entry ∈ filters.entries,
      grammar.rules.get? entry.1 = other.rules.get? entry.1)
    (hpermits : ∀ entry ∈ filters.entries, ∀ operator, grammar.permits entry.1 operator = true →
      other.permits entry.1 operator = true) : grammar.Accepts validate filters := by
  intro entry hentry
  obtain ⟨hsafe, hdeclared, htakes⟩ := h entry hentry
  refine ⟨hsafe, hdeclares entry hentry hdeclared, ?_⟩
  intro written hwritten operator hlive
  obtain ⟨htoken, hpermitted⟩ := Option.filter_eq_some_iff.mp hlive
  have hother : other.liveOperator? entry.1 written.1 = some operator :=
    Option.filter_eq_some_iff.mpr ⟨htoken, hpermits entry hentry operator hpermitted⟩
  obtain ⟨value, hvalue, hcheck⟩ := htakes written hwritten operator hother
  refine ⟨value, hvalue, ?_⟩
  unfold check
  rw [hrules entry hentry]
  exact hcheck

end Filter.Grammar

namespace GateDraft

variable {draft : GateDraft} {cache : Option CachePolicy} {name : Option String}
  {overlay : Overlay} {version : GateVersion}

/-- What a version takes from its overlay for its filters. -/
theorem compile_filters (h : draft.compile cache name overlay = .ok version) :
    version.filters = overlay.filters.getD RuleMap.empty ∧
      draft.resolveOperators (overlay.operators.getD .empty).entries =
        .ok version.operators.entries ∧
      version.customFilters = overlay.customFilters.getD .empty := by
  have hcompiles := compile_eq_ok_iff.mp h
  exact ⟨congrArg GateVersion.filters hcompiles.version_eq, hcompiles.operators,
    congrArg GateVersion.customFilters hcompiles.version_eq⟩

/-- The operators of the other fields are resolved as before when those of one field are left
out. -/
theorem resolve_operators_without {entries : List (String × List String)}
    {resolved : List (String × List FilterOperator)}
    (h : draft.resolveOperators entries = .ok resolved) (field : String) :
    draft.resolveOperators (entries.filter fun entry => entry.1 != field) =
      .ok (resolved.filter fun entry => entry.1 != field) := by
  induction entries generalizing resolved with
  | nil =>
      cases h
      rfl
  | cons entry rest ih =>
      obtain ⟨key, tokens⟩ := entry
      obtain ⟨_, hname, h⟩ := except_bind_eq_ok h
      obtain ⟨operators, htokens, h⟩ := except_bind_eq_ok h
      obtain ⟨others, hothers, h⟩ := except_bind_eq_ok h
      cases h
      by_cases hkey : key = field
      · simpa [hkey] using ih hothers
      · rw [List.filter_cons_of_pos (by simpa using hkey),
          List.filter_cons_of_pos (by simpa using hkey)]
        show (draft.checkNames _ [key] >>= fun _ => _) = _
        rw [hname]
        show (resolveTokens key [] tokens >>= fun _ => _) = _
        rw [htokens]
        show (draft.resolveOperators _ >>= fun _ => _) = _
        rw [ih hothers]
        rfl

end GateDraft

namespace GateVersion

/-- The version stands for another one without the filter of a field. A custom filter of the field
stays. -/
structure Drops (version before : GateVersion) (field : String) : Prop where
  rules_eq : ∀ name,
    version.filters.get? name = if name = field then none else before.filters.get? name
  operators_eq : ∀ name,
    version.operators.find? name = if name = field then none else before.operators.find? name
  custom_eq : version.customFilters = before.customFilters

variable {before after : GateVersion} {field : String}

/-- Fields other than the one left out keep their rules, and so does that one if it has none. -/
theorem Drops.rules_eq_of (h : after.Drops before field) {name : String}
    (hname : name = field → before.filters.get? field = none) :
    after.filters.get? name = before.filters.get? name := by
  rw [h.rules_eq]
  split
  · next heq => rw [heq, hname heq]
  · rfl

/-- A field whose rules stay is declared before if it is declared after. -/
theorem Drops.declares (h : after.Drops before field) (hclosed : after.grammar.permissive = false)
    {name : String} (hname : name = field → before.filters.get? field = none)
    (hdeclared : after.grammar.declares name = true) :
    before.grammar.declares name = true := by
  have hrules : before.filters.contains name = after.filters.contains name := by
    rw [RuleMap.contains, RuleMap.contains, h.rules_eq_of hname]
  rw [Filter.Grammar.declares_eq, hclosed, Bool.false_or] at hdeclared
  rw [Filter.Grammar.declares_eq, Bool.or_assoc]
  show (_ || (before.filters.contains name || before.customFilters.keys.contains name)) = true
  rw [hrules, ← h.custom_eq]
  exact Bool.or_eq_true_iff.mpr (.inr hdeclared)

/-- The field that is left out is declared by a custom filter at most. -/
theorem Drops.not_declares (h : after.Drops before field)
    (hclosed : after.grammar.permissive = false) (hcustom : field ∉ before.customFilters.keys) :
    after.grammar.declares field = false := by
  have hrules : after.filters.contains field = false := by
    rw [RuleMap.contains, h.rules_eq field, if_pos rfl, Option.isSome_none]
  have hkeys : after.customFilters.keys.contains field = false := by
    rw [h.custom_eq]
    simpa using hcustom
  rw [Filter.Grammar.declares_eq, hclosed]
  show (_ || after.filters.contains field || after.customFilters.keys.contains field) = false
  rw [hrules, hkeys]
  rfl

/-- The operators permitted on the other fields are the same. -/
theorem Drops.permits_eq (h : after.Drops before field) {name : String} (hname : name ≠ field)
    (operator : FilterOperator) :
    after.grammar.permits name operator = before.grammar.permits name operator := by
  have hoperators : after.grammar.operators.find? name = before.grammar.operators.find? name := by
    show after.operators.find? name = before.operators.find? name
    rw [h.operators_eq, if_neg hname]
  unfold Filter.Grammar.permits
  rw [hoperators]

/-- On the field that is left out all operators are permitted. -/
theorem Drops.permits_field (h : after.Drops before field) (operator : FilterOperator) :
    after.grammar.permits field operator = true := by
  have hoperators : after.grammar.operators.find? field = none := by
    show after.operators.find? field = none
    rw [h.operators_eq, if_pos rfl]
  unfold Filter.Grammar.permits
  rw [hoperators]

/-- An operator permitted on a field before is permitted on it after. -/
theorem Drops.permits_of (h : after.Drops before field) {name : String} {operator : FilterOperator}
    (hpermits : before.grammar.permits name operator = true) :
    after.grammar.permits name operator = true := by
  by_cases hname : name = field
  · rw [hname]
    exact h.permits_field operator
  · rwa [h.permits_eq hname]

/-- What is accepted after a field is left out was accepted before, unless it is about that field
and the field had rules. -/
theorem Drops.accepts (h : after.Drops before field) (hclosed : after.grammar.permissive = false)
    {filters : RawFilters} (haccepts : after.grammar.Accepts validate filters)
    (hfield : ∀ entry ∈ filters.entries, entry.1 = field → before.filters.get? field = none) :
    before.grammar.Accepts validate filters := by
  refine haccepts.of_other ?_ ?_ ?_
  · intro entry hentry
    exact h.declares hclosed (hfield entry hentry)
  · intro entry hentry
    exact (h.rules_eq_of (hfield entry hentry)).symm
  · -- More operators are live on the field itself than before, so that more values are checked.
    exact fun _ _ _ => h.permits_of

/-- A version that declares nothing accepts what is accepted after a field is left out of it. -/
theorem Drops.accepts_of_permissive (h : after.Drops before field)
    (hopen : before.grammar.permissive = true) {filters : RawFilters}
    (haccepts : after.grammar.Accepts validate filters) :
    before.grammar.Accepts validate filters := by
  obtain ⟨hnone, -⟩ := Bool.and_eq_true_iff.mp hopen
  have hrules (name : String) : before.filters.get? name = none := by
    show before.filters.entries.lookup name = none
    rw [show before.filters.entries = [] from List.isEmpty_iff.mp hnone]
    rfl
  refine haccepts.of_other ?_ ?_ ?_
  · intro entry _ _
    rw [Filter.Grammar.declares_eq, hopen]
    rfl
  · intro entry _
    show before.filters.get? entry.1 = after.filters.get? entry.1
    rw [h.rules_eq, hrules, ite_self]
  · exact fun _ _ _ => h.permits_of

end GateVersion

namespace GateDraft

variable {draft : GateDraft} {cache : Option CachePolicy} {name other : Option String}
  {overlay : Overlay} {before after : GateVersion} {field : String} {filters : RawFilters}

/-- Leaving out the filter of a field leaves it out of the version that is made. -/
theorem compile_drops
    (hbefore : draft.compile cache name overlay = .ok before)
    (hafter : draft.compile cache other (overlay.step (.withoutFilter field)) = .ok after) :
    after.Drops before field := by
  obtain ⟨hrules, hoperators, hcustom⟩ := compile_filters hbefore
  obtain ⟨hrules', hoperators', hcustom'⟩ := compile_filters hafter
  refine ⟨fun key => ?_, fun key => ?_, hcustom'.trans hcustom.symm⟩
  · rw [hrules, hrules']
    show ((overlay.filters.map fun map => map.remove field).getD RuleMap.empty).get? key = _
    cases hfilters : overlay.filters with
    | none => exact (ite_self none).symm
    | some map => exact map.get_remove field key
  · have hentries : ((overlay.step (.withoutFilter field)).operators.getD .empty).entries =
        (overlay.operators.getD .empty).entries.filter fun entry => entry.1 != field := by
      unfold Overlay.step
      cases overlay.operators <;> rfl
    rw [hentries, resolve_operators_without hoperators field] at hoperators'
    show after.operators.entries.lookup key = _
    rw [← Except.ok.inj hoperators']
    exact before.operators.find_erase field key

/-- A version that leaves out the filter of a field accepts no filters on that field, custom ones
aside, and nothing else that was refused before, as long as it declares something. Neither does it
accept on the field itself what was refused before if the field had a custom filter only. A version
that leaves it out of nothing accepts nothing that was refused before. -/
theorem removal_narrows (validate : InputValidator)
    (hbefore : draft.compile cache name overlay = .ok before)
    (hafter : draft.compile cache other (overlay.step (.withoutFilter field)) = .ok after)
    (haccepted : ∃ instructions, after.grammar.parse validate filters = .ok instructions) :
    (after.grammar.permissive = false →
      (field ∉ before.customFilters.keys → field ∉ filters.entries.map Prod.fst) ∧
      (field ∉ filters.entries.map Prod.fst ∨ before.filters.get? field = none →
        ∃ instructions, before.grammar.parse validate filters = .ok instructions)) ∧
    (before.grammar.permissive = true →
      ∃ instructions, before.grammar.parse validate filters = .ok instructions) := by
  have hdrops := compile_drops hbefore hafter
  have haccepts := Filter.Grammar.parse_ok_iff.mp haccepted
  refine ⟨fun hclosed => ⟨fun hcustom hfield => ?_, fun hfield => ?_⟩, fun hopen => ?_⟩
  · obtain ⟨entry, hentry, rfl⟩ := List.mem_map.mp hfield
    have hdeclared := (haccepts entry hentry).2.1
    rw [hdrops.not_declares hclosed hcustom] at hdeclared
    cases hdeclared
  · refine Filter.Grammar.parse_ok_iff.mpr (hdrops.accepts hclosed haccepts ?_)
    rintro entry hentry rfl
    exact hfield.resolve_left fun hnone => hnone (List.mem_map_of_mem hentry)
  · exact Filter.Grammar.parse_ok_iff.mpr (hdrops.accepts_of_permissive hopen haccepts)

/-- A declaration of posts. -/
def postsDraft : GateDraft := { entity := "Post" }

/-- Posts may be filtered by title and by status. -/
def titledOverlay : Overlay :=
  Overlay.steps {}
    [.filter "title" ["string"], .filter "status" ["string"], .allowedOperators "status" ["eq"]]

/-- A filter for equality on one field. -/
def onField (field : String) : RawFilters := .push .empty field "eq" (.string "x")

open scoped Bundled in
/-- Without the filter on the status a title is still looked for and a status no more. -/
theorem removal_narrows_of_titles :
    ∃ before after, postsDraft.compile none none titledOverlay = .ok before ∧
      postsDraft.compile none (some "v2") (titledOverlay.step (.withoutFilter "status")) =
        .ok after ∧
      (∃ instructions,
        before.grammar.parse Validator.validate (onField "title") = .ok instructions) ∧
      ¬ ∃ instructions,
        after.grammar.parse Validator.validate (onField "status") = .ok instructions := by
  obtain ⟨before, hbefore, hkeys⟩ : ∃ before,
      postsDraft.compile none none titledOverlay = .ok before ∧ before.customFilters.keys = [] :=
    ⟨_, rfl, rfl⟩
  obtain ⟨after, hafter, hclosed, htitle⟩ : ∃ after,
      postsDraft.compile none (some "v2") (titledOverlay.step (.withoutFilter "status")) =
        .ok after ∧ after.grammar.permissive = false ∧
        after.grammar.parse Validator.validate (onField "title") =
          .ok [⟨"title", .eq, .scalar (.string "x")⟩] :=
    ⟨_, rfl, rfl, rfl⟩
  obtain ⟨htitles, -⟩ := removal_narrows Validator.validate hbefore hafter ⟨_, htitle⟩
  refine ⟨before, after, hbefore, hafter, (htitles hclosed).2 (.inl (by decide)), fun hstatus => ?_⟩
  obtain ⟨hstatuses, -⟩ := removal_narrows Validator.validate hbefore hafter hstatus
  exact (hstatuses hclosed).1 (by rw [hkeys]; exact List.not_mem_nil) List.mem_cons_self

/-- Leaving out the filter of a field refuses all filters on the field and accepts nothing that was
refused before. -/
def RemovalNarrows (draft : GateDraft) (validate : InputValidator) (overlay : Overlay)
    (field : String) (filters : RawFilters) : Prop :=
  ∀ before after, draft.compile none none overlay = .ok before →
    draft.compile none none (overlay.step (.withoutFilter field)) = .ok after →
      (∃ instructions, after.grammar.parse validate filters = .ok instructions) →
        field ∉ filters.entries.map Prod.fst ∧
          ∃ instructions, before.grammar.parse validate filters = .ok instructions

open scoped Bundled in
/-- The last declared filter, a field that has a custom filter too, and a gate that declares nothing
are where leaving out a filter opens a field. -/
theorem removal_opens :
    let one : Overlay := Overlay.steps {} [.filter "status" ["string"]]
    let custom : Overlay := titledOverlay.step (.customFilter "title" fun _ => [])
    ¬ postsDraft.RemovalNarrows Validator.validate one "status" (onField "status") ∧
      ¬ postsDraft.RemovalNarrows Validator.validate one "status" (onField "secret") ∧
      ¬ postsDraft.RemovalNarrows Validator.validate custom "title" (onField "title") ∧
      ¬ postsDraft.RemovalNarrows Validator.validate {} "status" (onField "status") := by
  refine ⟨?_, ?_, ?_, ?_⟩ <;> intro hnarrows
  · exact (hnarrows _ _ rfl rfl ⟨_, rfl⟩).1 List.mem_cons_self
  · obtain ⟨_, hparsed⟩ := (hnarrows _ _ rfl rfl ⟨_, rfl⟩).2
    cases hparsed
  · exact (hnarrows _ _ rfl rfl ⟨_, rfl⟩).1 List.mem_cons_self
  · exact (hnarrows _ _ rfl rfl ⟨_, rfl⟩).1 List.mem_cons_self

end GateDraft

end EntityGate

import EntityGate.Library.Bundled
import EntityGate.Proofs.Gate.Changelog
import EntityGate.Proofs.Validation.RuleMap

/-!
# Changes of permitted operators

The parser drops the operators that a field does not permit: see `Filter.Grammar.lets_through_iff`.
A field without a list permits all of them, and a field with an empty list none. The changelog lists
the operators that come in or fall out of the lists, so that it says nothing where one of the two
takes the place of the other, and something of every other change of what the parser lets through:
see `operator_changes_reported` and `closed_field_not_reported`.
-/

namespace EntityGate

namespace Filter.Grammar

variable {grammar : Grammar} {validate : InputValidator} {field : String}
  {operator : FilterOperator}

/-- The parser does not drop the operator on the field: of some token and value it makes an
instruction, or it refuses the value. -/
def LetsThrough (grammar : Grammar) (validate : InputValidator) (field : String)
    (operator : FilterOperator) : Prop :=
  ∃ token value, FilterOperator.ofToken? token = some operator ∧
    grammar.parse validate (RawFilters.empty.push field token value) ≠ .ok []

/-- A declared field that is safe drops the operators that are not live, and only those. -/
theorem parse_single_eq_nil_iff (hsafe : Identifier.isSafe field = true)
    (hdeclares : grammar.declares field = true) (token : String) (value : Json) :
    grammar.parse validate (RawFilters.empty.push field token value) = .ok [] ↔
      grammar.liveOperator? field token = none := by
  change grammar.parseFields validate [(field, [(token, value)])] = .ok [] ↔ _
  unfold parseFields parseFields
  rw [hsafe, hdeclares, Bool.and_self, if_pos rfl]
  unfold parseOperators parseOperators
  cases hlive : grammar.liveOperator? field token with
  | none => exact iff_of_true rfl rfl
  | some operator =>
      refine iff_of_false (fun h => ?_) nofun
      obtain ⟨instructions, hinstructions, h⟩ := except_bind_eq_ok h
      obtain ⟨_, -, hinstructions⟩ := except_bind_eq_ok hinstructions
      obtain ⟨_, -, hinstructions⟩ := except_bind_eq_ok hinstructions
      cases hinstructions
      cases h

/-- On a declared field the parser lets the permitted operators through. The name of a field that is
not safe is refused, whatever the operator. -/
theorem lets_through_iff (hdeclares : grammar.declares field = true) :
    grammar.LetsThrough validate field operator ↔
      (Identifier.isSafe field = true → grammar.permits field operator = true) := by
  cases hsafe : Identifier.isSafe field with
  | false =>
      refine iff_of_true ⟨operator.token, .null, Changelog.Item.of_token_token operator, ?_⟩ nofun
      change grammar.parseFields validate [(field, [(operator.token, .null)])] ≠ .ok []
      simp [parseFields, hsafe]
  | true =>
      have hlive {token : String} (htoken : FilterOperator.ofToken? token = some operator) :
          grammar.liveOperator? field token = none ↔ ¬ grammar.permits field operator = true := by
        simp [liveOperator?, htoken]
      constructor
      · rintro ⟨token, value, htoken, hkept⟩ -
        rw [ne_eq, parse_single_eq_nil_iff hsafe hdeclares, hlive htoken, not_not] at hkept
        exact hkept
      · intro hpermits
        refine ⟨operator.token, .null, Changelog.Item.of_token_token operator, ?_⟩
        rw [ne_eq, parse_single_eq_nil_iff hsafe hdeclares,
          hlive (Changelog.Item.of_token_token operator), not_not]
        exact hpermits rfl

theorem permits_iff : grammar.permits field operator = true ↔
    ∀ permitted, grammar.operators.find? field = some permitted → operator ∈ permitted := by
  unfold permits
  cases grammar.operators.find? field <;> simp

end Filter.Grammar

namespace GateVersion

variable {version : GateVersion} {validate : InputValidator} {field : String}
    {operator : FilterOperator}

/-- A filter of a version is declared for the parser. -/
theorem declares_of_filter (h : field ∈ version.filterFields) :
    version.grammar.declares field = true := by
  show (version.filters.isEmpty && version.customFilters.keys.isEmpty ||
    version.filters.contains field || version.customFilters.keys.contains field) = true
  rcases List.mem_append.mp h with hruled | hcustom
  · simp [RuleMap.contains_iff_mem_keys.mpr hruled]
  · simp [List.mem_of_mem_filter hcustom]

/-- On a filter of a version the parser lets the operators of its list through, all of them if there
is no list. -/
theorem lets_through_iff (h : field ∈ version.filterFields) :
    version.grammar.LetsThrough validate field operator ↔ (Identifier.isSafe field = true →
      ∀ permitted, version.operators.find? field = some permitted → operator ∈ permitted) :=
  (Filter.Grammar.lets_through_iff (declares_of_filter h)).trans
    (imp_congr_right fun _ => Filter.Grammar.permits_iff)

end GateVersion

namespace Changelog

/-- The line says of an operator on the field that it is added or removed. -/
def IsOperatorLine (field line : String) : Prop :=
  ∃ change operator, Change.ofLine? line = some change ∧ change.item = .permitted field operator

/-- There is a line for an operator on the field exactly if one is permitted on one side only. -/
theorem operator_line_iff {before after : Overlay} {field : String} :
    (∃ line ∈ diff before after, IsOperatorLine field line) ↔
      ∃ operator, ¬ (.permitted field operator ∈ before.items ↔
        .permitted field operator ∈ after.items) := by
  constructor
  · rintro ⟨line, hline, change, operator, hread, hitem⟩
    obtain ⟨other, hbetween, rfl⟩ := mem_diff.mp hline
    rw [Change.of_line_line, Option.some.injEq] at hread
    subst hread
    refine ⟨operator, fun hsame => ?_⟩
    have hsides := hbetween.mem_iff
    rw [hitem, hsame] at hsides
    exact iff_not_self hsides
  · rintro ⟨operator, hsides⟩
    obtain ⟨change, hitem, hbetween⟩ := Change.exists_between hsides
    exact ⟨change.line, mem_diff.mpr ⟨change, hbetween, rfl⟩, change, operator,
      change.of_line_line, hitem⟩

end Changelog

/-- Of the two lists of permitted operators one is missing, which permits all of them, and the other
one is empty, which permits none. -/
def OpenAndClosed (first second : Option (List FilterOperator)) : Prop :=
  first = none ∧ second = some [] ∨ first = some [] ∧ second = none

/-- Where two lists do not permit the same operators, they have the same entries only if one of them
is missing and the other one is empty. -/
theorem entries_differ_iff {first second : Option (List FilterOperator)}
    (h : ∃ operator, ¬ ((∀ permitted, first = some permitted → operator ∈ permitted) ↔
      ∀ permitted, second = some permitted → operator ∈ permitted)) :
    (∃ operator, ¬ (operator ∈ first.getD [] ↔ operator ∈ second.getD [])) ↔
      ¬ OpenAndClosed first second := by
  unfold OpenAndClosed
  cases first with
  | none =>
      cases second with
      | none => simp at h
      | some permitted => simp [List.eq_nil_iff_forall_not_mem]
  | some permitted =>
      cases second with
      | none => simp [List.eq_nil_iff_forall_not_mem]
      | some others => simpa using h

/-- The overlays that the changelog compares: what stood before the first version, then the
versions. -/
def GateDraft.snapshots (draft : GateDraft) : List Overlay :=
  draft.beforeVersions.getD {} :: draft.versions.map Prod.snd

/-- A change of the operators that the parser lets through is reported, unless one list is missing
and the other one empty. Take the snapshots of a gate before and after an entry of its changelog,
what is compiled from them, and a field that is a filter in both. If the parsers do not let the same
operators through on the field, the entry has a line for an operator on the field, except where one
version has no list for the field, which permits all operators, and the other one an empty list,
which permits none; then it has no such line. -/
theorem operator_changes_reported (validate : InputValidator) {draft : GateDraft} {gate : Gate}
    {count : Nat} {entry : ChangelogEntry} {before after : Overlay} {name name' : Option String}
    {version version' : GateVersion} {field : String} (hbuild : draft.build = .ok gate)
    (hentry : gate.changelog[count]? = some entry) (hbefore : draft.snapshots[count]? = some before)
    (hafter : draft.snapshots[count + 1]? = some after)
    (hversion : draft.compile gate.cache name before = .ok version)
    (hversion' : draft.compile gate.cache name' after = .ok version')
    (hfilter : field ∈ version.filterFields) (hfilter' : field ∈ version'.filterFields)
    (hdiffers : ∃ operator, ¬ (version.grammar.LetsThrough validate field operator ↔
      version'.grammar.LetsThrough validate field operator)) :
    (∃ line ∈ entry.changes, Changelog.IsOperatorLine field line) ↔
      ¬ OpenAndClosed (version.operators.find? field) (version'.operators.find? field) := by
  have hchanges : entry.changes = Changelog.diff before after := by
    rw [(GateDraft.build_eq_ok_iff.mp hbuild).changelog_eq] at hentry
    obtain ⟨first, second, hfirst, hsecond, hchanges⟩ :=
      Changelog.changes_of_version _ draft.versions hentry
    cases hfirst.symm.trans hbefore
    cases hsecond.symm.trans hafter
    exact hchanges
  have hpermitted {overlay : Overlay} {name : Option String} {compiled : GateVersion}
      (hcompile : draft.compile gate.cache name overlay = .ok compiled)
      (operator : FilterOperator) : .permitted field operator ∈ overlay.items ↔
        operator ∈ (compiled.operators.find? field).getD [] := by
    rw [← (GateDraft.compile_eq_ok_iff.mp hcompile).items_eq]
    exact Changelog.permitted_mem_items_of
  have hlists : ∃ operator,
      ¬ ((∀ permitted, version.operators.find? field = some permitted → operator ∈ permitted) ↔
        ∀ permitted, version'.operators.find? field = some permitted → operator ∈ permitted) := by
    obtain ⟨operator, hoperator⟩ := hdiffers
    refine ⟨operator, fun hsame => hoperator ?_⟩
    rw [GateVersion.lets_through_iff hfilter, GateVersion.lets_through_iff hfilter']
    exact imp_congr_right fun _ => hsame
  rw [hchanges, Changelog.operator_line_iff, ← entries_differ_iff hlists]
  simp only [hpermitted hversion, hpermitted hversion']

/-- Posts whose title has no list of operators in the first version, an empty one in the second and
one with an operator in the third. -/
def closedPosts : GateDraft :=
  (GateDraft.make "Post").steps
    [.overlay (.filter "title" ["string"]), .version "v1" fun overlay => overlay,
      .version "v2" fun overlay => overlay.step (.allowedOperators "title" []),
      .version "v3" fun overlay => overlay.step (.allowedOperators "title" ["eq"])]

open scoped Bundled in
/-- The third version of the posts lets an operator through and reports it. -/
theorem operator_changes_reported_of_posts : ∃ gate entry version version',
    closedPosts.build = .ok gate ∧ gate.changelog[2]? = some entry ∧ entry.version = "v3" ∧
      gate.version (some "v2") = .ok version ∧ gate.version (some "v3") = .ok version' ∧
      ¬ version.grammar.LetsThrough Validator.validate "title" .eq ∧
      version'.grammar.LetsThrough Validator.validate "title" .eq ∧
      ∃ line ∈ entry.changes, Changelog.IsOperatorLine "title" line := by
  obtain ⟨gate, entry, before, after, version, version', hbuild, hentry, hname, hbefore, hafter,
      hserved, hserved', hversion, hversion', hfields, hfields', hlist, hlist'⟩ :
      ∃ gate entry before after version version', closedPosts.build = .ok gate ∧
        gate.changelog[2]? = some entry ∧ entry.version = "v3" ∧
        closedPosts.snapshots[2]? = some before ∧ closedPosts.snapshots[3]? = some after ∧
        gate.version (some "v2") = .ok version ∧ gate.version (some "v3") = .ok version' ∧
        closedPosts.compile gate.cache (some "v2") before = .ok version ∧
        closedPosts.compile gate.cache (some "v3") after = .ok version' ∧
        version.filterFields = ["title"] ∧ version'.filterFields = ["title"] ∧
        version.operators.find? "title" = some [] ∧
        version'.operators.find? "title" = some [.eq] :=
    ⟨_, _, _, _, _, _, rfl, rfl, rfl, rfl, rfl, rfl, rfl, rfl, rfl, rfl, rfl, rfl, rfl⟩
  have hsafe : Identifier.isSafe "title" = true := by decide
  have hfilter : "title" ∈ version.filterFields := by simp [hfields]
  have hfilter' : "title" ∈ version'.filterFields := by simp [hfields']
  have hclosed : ¬ version.grammar.LetsThrough Validator.validate "title" .eq := by
    simp [GateVersion.lets_through_iff hfilter, hsafe, hlist]
  have hopen : version'.grammar.LetsThrough Validator.validate "title" .eq := by
    simp [GateVersion.lets_through_iff hfilter', hlist']
  refine ⟨gate, entry, version, version', hbuild, hentry, hname, hserved, hserved', hclosed, hopen,
    ?_⟩
  refine (operator_changes_reported Validator.validate hbuild hentry hbefore hafter hversion
    hversion' hfilter hfilter' ⟨.eq, fun hsame => hclosed (hsame.mpr hopen)⟩).mpr ?_
  simp [OpenAndClosed, hlist, hlist']

open scoped Bundled in
/-- The second version of the posts no longer lets the operators of the title through that the first
one does, and its entry of the changelog says nothing. -/
theorem closed_field_not_reported : ∃ gate version version', closedPosts.build = .ok gate ∧
    gate.version (some "v1") = .ok version ∧ gate.version (some "v2") = .ok version' ∧
      "title" ∈ version.filterFields ∧ "title" ∈ version'.filterFields ∧
      version.grammar.LetsThrough Validator.validate "title" .eq ∧
      ¬ version'.grammar.LetsThrough Validator.validate "title" .eq ∧
      gate.changelog[1]? = some ⟨"v2", []⟩ := by
  obtain ⟨gate, version, version', hbuild, hserved, hserved', hfields, hfields', hlist, hlist',
      hentry⟩ :
      ∃ gate version version', closedPosts.build = .ok gate ∧
        gate.version (some "v1") = .ok version ∧ gate.version (some "v2") = .ok version' ∧
        version.filterFields = ["title"] ∧ version'.filterFields = ["title"] ∧
        version.operators.find? "title" = none ∧ version'.operators.find? "title" = some [] ∧
        gate.changelog[1]? = some ⟨"v2", []⟩ :=
    ⟨_, _, _, rfl, rfl, rfl, rfl, rfl, rfl, rfl, by decide +kernel⟩
  have hsafe : Identifier.isSafe "title" = true := by decide
  have hfilter : "title" ∈ version.filterFields := by simp [hfields]
  have hfilter' : "title" ∈ version'.filterFields := by simp [hfields']
  refine ⟨gate, version, version', hbuild, hserved, hserved', hfilter, hfilter', ?_, ?_, hentry⟩
  · simp [GateVersion.lets_through_iff hfilter, hlist]
  · simp [GateVersion.lets_through_iff hfilter', hsafe, hlist']

end EntityGate

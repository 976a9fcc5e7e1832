import EntityGate.Config.Declaration
import EntityGate.Proofs.Config.Reading

/-!
# Overlays and their written forms

An overlay that is declared without functions is declared again from its written form, with its
actions in the order of their names: see `Overlay.steps_of_config` for what stands before the first
version and `Overlay.replace_by_config` for versions. What was set stays set while more is
declared, so that a version hides all of what it replaces: see `Overlay.Within`.
-/

namespace EntityGate

/-! ## Actions -/

/-- The step can be written into a configuration. -/
def ActionStep.Written : ActionStep → Prop
  | .authorize _ | .handler _ => False
  | .status code => code < 2 ^ 16
  | _ => True

namespace ActionDraft

/-- The action is declared by steps that can be written. -/
def Written (draft : ActionDraft) : Prop :=
  ∃ name list, (∀ step ∈ list, step.Written) ∧ draft = (make name).steps list

/-- Everything about the action can be written. -/
structure Plain (draft : ActionDraft) : Prop where
  name_eq : Text.trim draft.name = draft.name
  status : ∀ code, draft.status = some code → code < 2 ^ 16
  authorize : draft.authorize = none
  handler : draft.handler = none

theorem plain_make (name : String) : (make name).Plain :=
  ⟨Text.trim_trim name, nofun, rfl, rfl⟩

theorem Plain.step {draft : ActionDraft} (h : draft.Plain) {step : ActionStep}
    (hstep : step.Written) : (draft.step step).Plain := by
  cases step with
  | ability name =>
      unfold ActionDraft.step
      dsimp only
      split
      · exact h
      · exact ⟨h.name_eq, h.status, h.authorize, h.handler⟩
  | status code =>
      refine ⟨h.name_eq, ?_, h.authorize, h.handler⟩
      intro other hother
      cases hother
      exact hstep
  | rule | rules | method | requiresIdentifier =>
      exact ⟨h.name_eq, h.status, h.authorize, h.handler⟩
  | authorize hook | handler handler => exact hstep.elim

theorem Written.plain {draft : ActionDraft} (h : draft.Written) : draft.Plain := by
  obtain ⟨name, list, hlist, rfl⟩ := h
  suffices ∀ start : ActionDraft, start.Plain → (start.steps list).Plain from
    this (make name) (plain_make name)
  induction list with
  | nil => exact fun _ h => h
  | cons step rest ih =>
      intro start hstart
      exact ih (fun other hother => hlist other (List.mem_cons_of_mem _ hother)) (start.step step)
        (hstart.step (hlist step List.mem_cons_self))

theorem Plain.readable {draft : ActionDraft} (h : draft.Plain) : draft.config.Readable :=
  ⟨h.status, by simp [config, h.handler], by simp [config, h.authorize]⟩

/-- An action is declared again from its written form. -/
theorem of_config_entry {draft : ActionDraft} (h : draft.Plain) :
    ofConfig draft.configEntry.1 draft.configEntry.2 = draft := by
  obtain ⟨name, method, rules, abilities, authorize, handler, required, status⟩ := draft
  obtain ⟨hname, -, rfl, rfl⟩ := h
  simp only [configEntry]
  split
  · next hdefault =>
    -- Nothing is set, so nothing is written.
    simp only [config, ActionConfig.mk.injEq] at hdefault
    obtain ⟨rfl, rfl, rfl, rfl, rfl, -, -⟩ := hdefault
    simp only [ofConfig, make, hname]
  · simp only [ofConfig, make, config, hname]

/-- Actions as they are declared again from their written forms: in the order of their names. -/
def inOrder (drafts : List ActionDraft) : List ActionDraft :=
  listOfConfig (TextMap.ofList (drafts.map configEntry))

section InOrder

variable {drafts : List ActionDraft}

theorem map_of_config_entry (h : ∀ draft ∈ drafts, draft.Plain) :
    (drafts.map configEntry).map (fun entry => ofConfig entry.1 entry.2) = drafts := by
  rw [List.map_map]
  conv_rhs => rw [← List.map_id drafts]
  exact List.map_congr_left fun draft hdraft => of_config_entry (h draft hdraft)

theorem entries_perm (hnodup : (drafts.map ActionDraft.name).Nodup) :
    (TextMap.ofList (drafts.map configEntry)).entries.Perm (drafts.map configEntry) := by
  refine TextMap.of_list_perm ?_
  rw [List.map_map]
  exact hnodup

/-- The same actions are declared again. -/
theorem in_order_perm (hnodup : (drafts.map ActionDraft.name).Nodup)
    (h : ∀ draft ∈ drafts, draft.Plain) : (inOrder drafts).Perm drafts := by
  have hperm := (entries_perm hnodup).map fun entry => ofConfig entry.1 entry.2
  rwa [map_of_config_entry h] at hperm

/-- The actions in order are written like the actions themselves. -/
theorem entries_in_order (hnodup : (drafts.map ActionDraft.name).Nodup)
    (h : ∀ draft ∈ drafts, draft.Plain) :
    TextMap.ofList ((inOrder drafts).map configEntry) =
      TextMap.ofList (drafts.map configEntry) := by
  have hentries : (inOrder drafts).map configEntry =
      (TextMap.ofList (drafts.map configEntry)).entries := by
    rw [inOrder, listOfConfig, List.map_map]
    conv_rhs => rw [← List.map_id (TextMap.ofList (drafts.map configEntry)).entries]
    refine List.map_congr_left fun entry hentry => ?_
    obtain ⟨draft, hdraft, rfl⟩ := List.mem_map.mp ((entries_perm hnodup).mem_iff.mp hentry)
    exact congrArg configEntry (of_config_entry (h draft hdraft))
  rw [hentries, TextMap.of_list_entries]

end InOrder

end ActionDraft

/-! ## Plain overlays -/

namespace OverlayStep

/-- The step can be written into a configuration. -/
def Written : OverlayStep → Prop
  | .customFilter _ _ => False
  | .action draft => draft.Written
  | .actions drafts => ∀ draft ∈ drafts, draft.Written
  | _ => True

/-- The step leaves nothing out. Only versions may leave something out. -/
def Adds : OverlayStep → Prop
  | .withoutFilter _ | .withoutAction _ => False
  | _ => True

end OverlayStep

namespace Overlay

/-- Everything about the overlay can be written. -/
structure Plain (overlay : Overlay) : Prop where
  customFilters : overlay.customFilters = none
  actions : ∀ drafts, overlay.actions = some drafts →
    (drafts.map ActionDraft.name).Nodup ∧ ∀ draft ∈ drafts, draft.Plain

theorem plain_empty : Plain {} := ⟨rfl, nofun⟩

theorem mem_put_action {draft other : ActionDraft} {drafts : List ActionDraft}
    (h : other ∈ putAction draft drafts) : other = draft ∨ other ∈ drafts := by
  induction drafts with
  | nil => exact .inl (List.mem_singleton.mp h)
  | cons first rest ih =>
      unfold putAction at h
      split at h
      · rcases List.mem_cons.mp h with rfl | h
        · exact .inl rfl
        · exact .inr (List.mem_cons_of_mem _ h)
      · rcases List.mem_cons.mp h with rfl | h
        · exact .inr List.mem_cons_self
        · exact (ih h).imp_right (List.mem_cons_of_mem _)

theorem put_action_of_new {draft : ActionDraft} {drafts : List ActionDraft}
    (h : draft.name ∉ drafts.map ActionDraft.name) :
    putAction draft drafts = drafts ++ [draft] := by
  induction drafts with
  | nil => rfl
  | cons first rest ih =>
      rw [List.map_cons, List.mem_cons, not_or] at h
      have hfirst : (first.name == draft.name) = false := beq_eq_false_iff_ne.mpr (Ne.symm h.1)
      simp only [putAction, hfirst, ih h.2, Bool.false_eq_true, if_false, List.cons_append]

/-- An action of a name that is there keeps its place. -/
theorem names_put_action_of_old {draft : ActionDraft} {drafts : List ActionDraft}
    (h : draft.name ∈ drafts.map ActionDraft.name) :
    (putAction draft drafts).map ActionDraft.name = drafts.map ActionDraft.name := by
  induction drafts with
  | nil => cases h
  | cons first rest ih =>
      unfold putAction
      split
      · next hfirst => rw [List.map_cons, List.map_cons, beq_iff_eq.mp hfirst]
      · next hfirst =>
        have hother : draft.name ≠ first.name := fun heq => hfirst (beq_iff_eq.mpr heq.symm)
        have hrest := (List.mem_cons.mp h).resolve_left hother
        rw [List.map_cons, List.map_cons, ih hrest]

theorem nodup_put_action {drafts : List ActionDraft} (h : (drafts.map ActionDraft.name).Nodup)
    (draft : ActionDraft) : ((putAction draft drafts).map ActionDraft.name).Nodup := by
  by_cases hname : draft.name ∈ drafts.map ActionDraft.name
  · rw [names_put_action_of_old hname]
    exact h
  · rw [put_action_of_new hname, List.map_append, List.map_singleton]
    refine List.nodup_append.mpr ⟨h, List.nodup_singleton _, ?_⟩
    rintro name hmem _ hlast rfl
    exact hname (List.mem_singleton.mp hlast ▸ hmem)

theorem Plain.add_action {overlay : Overlay} (h : overlay.Plain) {draft : ActionDraft}
    (hdraft : draft.Plain) : (overlay.addAction draft).Plain := by
  refine ⟨h.customFilters, fun drafts hdrafts => ?_⟩
  cases hdrafts
  have hcurrent : ((overlay.actions.getD []).map ActionDraft.name).Nodup ∧
      ∀ other ∈ overlay.actions.getD [], other.Plain := by
    cases hactions : overlay.actions with
    | none => exact ⟨List.nodup_nil, fun other hother => (List.not_mem_nil hother).elim⟩
    | some drafts => exact h.actions drafts hactions
  refine ⟨nodup_put_action hcurrent.1 draft, fun other hother => ?_⟩
  rcases mem_put_action hother with rfl | hother
  · exact hdraft
  · exact hcurrent.2 other hother

theorem Plain.add_actions {overlay : Overlay} (h : overlay.Plain) {drafts : List ActionDraft}
    (hdrafts : ∀ draft ∈ drafts, draft.Plain) : (drafts.foldl addAction overlay).Plain :=
  List.foldlRecOn (motive := Plain) drafts addAction h
    fun _ hoverlay draft hmem => hoverlay.add_action (hdrafts draft hmem)

/-- A step that can be written keeps the overlay writable. -/
theorem Plain.step {overlay : Overlay} (h : overlay.Plain) {change : OverlayStep}
    (hchange : change.Written) : (overlay.step change).Plain := by
  cases change with
  | customFilter field custom => exact hchange.elim
  | action draft => exact h.add_action hchange.plain
  | actions drafts => exact h.add_actions fun draft hdraft => (hchange draft hdraft).plain
  | withoutAction name =>
      refine ⟨h.customFilters, fun drafts hdrafts => ?_⟩
      obtain ⟨before, hbefore, rfl⟩ := Option.map_eq_some_iff.mp hdrafts
      obtain ⟨hnodup, hplain⟩ := h.actions before hbefore
      exact ⟨hnodup.sublist (List.filter_sublist.map _),
        fun draft hdraft => hplain draft (List.mem_of_mem_filter hdraft)⟩
  | filter | filters | withoutFilter | allowedOperators | select | sorts =>
      exact ⟨h.customFilters, h.actions⟩

theorem Plain.steps {overlay : Overlay} (h : overlay.Plain) {changes : List OverlayStep}
    (hchanges : ∀ change ∈ changes, change.Written) : (overlay.steps changes).Plain :=
  List.foldlRecOn (motive := Plain) changes Overlay.step h
    fun _ hoverlay change hmem => hoverlay.step (hchanges change hmem)

/-! ## What stays set -/

/-- The overlay has no operators and no actions that are set but empty. -/
structure Filled (overlay : Overlay) : Prop where
  operators : overlay.operators ≠ some .empty
  actions : overlay.actions ≠ some []

/-- Every part that is set before is set after. -/
structure Within (before after : Overlay) : Prop where
  filters : before.filters.isSome → after.filters.isSome
  operators : before.operators.isSome → after.operators.isSome
  select : before.select.isSome → after.select.isSome
  sorts : before.sorts.isSome → after.sorts.isSome
  actions : before.actions.isSome → after.actions.isSome

theorem Within.refl (overlay : Overlay) : overlay.Within overlay := ⟨id, id, id, id, id⟩

theorem Within.trans {first second third : Overlay} (h : first.Within second)
    (h' : second.Within third) : first.Within third where
  filters := h'.filters ∘ h.filters
  operators := h'.operators ∘ h.operators
  select := h'.select ∘ h.select
  sorts := h'.sorts ∘ h.sorts
  actions := h'.actions ∘ h.actions

theorem within_add_action (overlay : Overlay) (draft : ActionDraft) :
    overlay.Within (overlay.addAction draft) :=
  ⟨id, id, id, id, fun _ => rfl⟩

theorem within_add_actions (overlay : Overlay) (drafts : List ActionDraft) :
    overlay.Within (drafts.foldl addAction overlay) := by
  induction drafts generalizing overlay with
  | nil => exact .refl overlay
  | cons draft rest ih => exact (within_add_action overlay draft).trans (ih _)

/-- Declaring more unsets nothing. -/
theorem within_step (overlay : Overlay) (change : OverlayStep) :
    overlay.Within (overlay.step change) := by
  cases change with
  | filter field tokens | filters entries => exact ⟨fun _ => rfl, id, id, id, id⟩
  | withoutFilter field =>
      refine ⟨fun h => ?_, fun h => ?_, id, id, id⟩
      · rw [step, Option.isSome_map]
        exact h
      · rw [step, Option.isSome_map]
        exact h
  | allowedOperators field tokens => exact ⟨id, fun _ => rfl, id, id, id⟩
  | customFilter field custom => exact ⟨id, id, id, id, id⟩
  | select columns => exact ⟨id, id, fun _ => rfl, id, id⟩
  | sorts fields => exact ⟨id, id, id, fun _ => rfl, id⟩
  | action draft => exact within_add_action overlay draft
  | actions drafts => exact within_add_actions overlay drafts
  | withoutAction name =>
      refine ⟨id, id, id, id, fun h => ?_⟩
      rw [step, Option.isSome_map]
      exact h

theorem within_steps (overlay : Overlay) (changes : List OverlayStep) :
    overlay.Within (overlay.steps changes) := by
  unfold steps
  induction changes generalizing overlay with
  | nil => exact .refl overlay
  | cons change rest ih => exact (within_step overlay change).trans (ih _)

theorem put_action_ne_nil (draft : ActionDraft) (drafts : List ActionDraft) :
    putAction draft drafts ≠ [] := by
  cases drafts with
  | nil => exact List.cons_ne_nil _ _
  | cons first rest =>
      unfold putAction
      split
      · exact List.cons_ne_nil _ _
      · exact List.cons_ne_nil _ _

theorem filled_empty : Filled {} := ⟨nofun, nofun⟩

theorem Filled.add_action {overlay : Overlay} (h : overlay.Filled) (draft : ActionDraft) :
    (overlay.addAction draft).Filled :=
  ⟨h.operators, fun heq => put_action_ne_nil draft _ (Option.some.inj heq)⟩

theorem Filled.add_actions {overlay : Overlay} (h : overlay.Filled) (drafts : List ActionDraft) :
    (drafts.foldl addAction overlay).Filled :=
  List.foldlRecOn (motive := Filled) drafts addAction h
    fun _ hoverlay draft _ => hoverlay.add_action draft

/-- A step that leaves nothing out leaves no part empty. -/
theorem Filled.step {overlay : Overlay} (h : overlay.Filled) {change : OverlayStep}
    (hchange : change.Adds) : (overlay.step change).Filled := by
  cases change with
  | allowedOperators field tokens =>
      refine ⟨fun heq => ?_, h.actions⟩
      have hentries := congrArg TextMap.entries (Option.some.inj heq)
      exact TextMap.insert_entry_ne_nil hentries
  | action draft => exact h.add_action draft
  | actions drafts => exact h.add_actions drafts
  | withoutFilter field | withoutAction name => exact hchange.elim
  | filter | filters | customFilter | select | sorts => exact ⟨h.operators, h.actions⟩

/-! ## The way back -/

/-- The overlay as it is declared again: with its actions in the order of their names. -/
def inOrder (overlay : Overlay) : Overlay :=
  { overlay with actions := overlay.actions.map ActionDraft.inOrder }

theorem Plain.readable {overlay : Overlay} (h : overlay.Plain) : overlay.config.Readable where
  customFilters := by simp [config, h.customFilters, TextMap.keys, TextMap.empty]
  actions map hmap := by
    obtain ⟨drafts, hdrafts, rfl⟩ := Option.map_eq_some_iff.mp hmap
    obtain ⟨hnodup, hplain⟩ := h.actions drafts hdrafts
    intro entry hentry action haction
    obtain ⟨draft, hdraft, rfl⟩ :=
      List.mem_map.mp ((ActionDraft.entries_perm hnodup).mem_iff.mp hentry)
    simp only [ActionDraft.configEntry] at haction
    split at haction
    · cases haction
    · cases haction
      exact (hplain draft hdraft).readable

theorem config_in_order {overlay : Overlay} (h : overlay.Plain) :
    overlay.inOrder.config = overlay.config := by
  cases hactions : overlay.actions with
  | none => simp only [inOrder, config, hactions, Option.map_none]
  | some drafts =>
      obtain ⟨hnodup, hplain⟩ := h.actions drafts hactions
      simp only [inOrder, config, hactions, Option.map_some,
        ActionDraft.entries_in_order hnodup hplain]

/-- A version is declared again from its written form, on top of what stood before it. -/
theorem replace_by_config {before overlay : Overlay} (hbefore : before.customFilters = none)
    (h : overlay.Plain) (hwithin : before.Within overlay) :
    before.inOrder.replaceBy overlay.config = overlay.inOrder := by
  have hpart {α : Type} (new old : Option α) (hset : old.isSome → new.isSome) :
      (new <|> old) = new := by
    cases new with
    | some value => rfl
    | none =>
        cases old with
        | none => rfl
        | some value => cases hset rfl
  have hactions : ((overlay.config.actions.map ActionDraft.listOfConfig) <|>
      before.inOrder.actions) = overlay.inOrder.actions := by
    have hparts : overlay.config.actions.map ActionDraft.listOfConfig =
        overlay.inOrder.actions := by
      simp only [config, inOrder, Option.map_map]
      rfl
    rw [hparts]
    refine hpart _ _ fun hset => ?_
    rw [inOrder, Option.isSome_map] at hset ⊢
    exact hwithin.actions hset
  show Overlay.mk (overlay.filters <|> before.filters) (overlay.operators <|> before.operators)
    before.customFilters (overlay.select <|> before.select) (overlay.sorts <|> before.sorts) _ = _
  rw [hactions, hpart _ _ hwithin.filters, hpart _ _ hwithin.operators, hpart _ _ hwithin.select,
    hpart _ _ hwithin.sorts, hbefore, ← h.customFilters]
  rfl

theorem steps_append (overlay : Overlay) (changes later : List OverlayStep) :
    overlay.steps (changes ++ later) = (overlay.steps changes).steps later :=
  List.foldl_append

/-- A part that is written only if it is set takes one step at most. -/
theorem overlay_steps_eq (written : OverlayConfig) :
    GateDraft.overlaySteps written =
      written.filters.toList.map (fun map =>
        .filters (map.entries.map fun entry => (entry.1, .ofTexts entry.2))) ++
      ((written.allowedOperators.getD .empty).entries.map fun entry =>
        .allowedOperators entry.1 entry.2) ++
      written.select.toList.map .select ++ written.sorts.toList.map .sorts ++
      (ActionDraft.listOfConfig (written.actions.getD .empty)).map .action := by
  obtain ⟨filters, operators, customFilters, select, sorts, actions⟩ := written
  cases filters <;> cases select <;> cases sorts <;> rfl

theorem steps_operators (overlay : Overlay) {map : TextMap (List String)}
    (hoperators : overlay.operators = none) (hfilled : map ≠ .empty) :
    overlay.steps (map.entries.map fun entry => .allowedOperators entry.1 entry.2) =
      { overlay with operators := some map } := by
  have hrest (entries : List (String × List String)) (start : TextMap (List String)) :
      ({ overlay with operators := some start } : Overlay).steps
        (entries.map fun entry => .allowedOperators entry.1 entry.2) =
      { overlay with
        operators :=
          some (entries.foldl (fun map entry => map.insert entry.1 entry.2) start) } := by
    induction entries generalizing start with
    | nil => rfl
    | cons entry rest ih => exact ih (start.insert entry.1 entry.2)
  cases hentries : map.entries with
  | nil => exact (hfilled (TextMap.eq_of_entries hentries)).elim
  | cons first rest =>
    have hfirst : overlay.step (.allowedOperators first.1 first.2) =
        { overlay with operators := some (TextMap.empty.insert first.1 first.2) } := by
      simp only [step, hoperators, Option.getD_none]
    show (overlay.step (.allowedOperators first.1 first.2)).steps
      (rest.map fun entry => .allowedOperators entry.1 entry.2) = _
    have hmap : TextMap.ofList (first :: rest) = map := hentries ▸ map.of_list_entries
    rw [hfirst, hrest, ← hmap]
    rfl

theorem add_actions_new (overlay : Overlay) {before drafts : List ActionDraft}
    (hnodup : ((before ++ drafts).map ActionDraft.name).Nodup) :
    drafts.foldl addAction { overlay with actions := some before } =
      { overlay with actions := some (before ++ drafts) } := by
  induction drafts generalizing before with
  | nil => rw [List.append_nil, List.foldl_nil]
  | cons draft rest ih =>
      have hnew : draft.name ∉ before.map ActionDraft.name := by
        intro hmem
        rw [List.map_append, List.map_cons] at hnodup
        exact (List.nodup_append.mp hnodup).2.2 draft.name hmem draft.name List.mem_cons_self rfl
      rw [List.append_cons] at hnodup ⊢
      rw [← ih hnodup, List.foldl_cons]
      simp only [addAction, Option.getD_some, put_action_of_new hnew]

theorem steps_actions (overlay : Overlay) {drafts : List ActionDraft}
    (hactions : overlay.actions = none) (hfilled : drafts ≠ [])
    (hnodup : (drafts.map ActionDraft.name).Nodup) :
    overlay.steps (drafts.map .action) = { overlay with actions := some drafts } := by
  cases drafts with
  | nil => exact (hfilled rfl).elim
  | cons first rest =>
      have hfirst : overlay.step (.action first) = { overlay with actions := some [first] } := by
        simp only [step, addAction, hactions, Option.getD_none, putAction]
      show (overlay.step (.action first)).steps (rest.map .action) = _
      have hrest : (([first] ++ rest).map ActionDraft.name).Nodup := hnodup
      rw [hfirst, steps, List.foldl_map]
      exact add_actions_new overlay hrest

/-- What stands before the first version is declared again from its written form, provided that its
rules are parted. -/
theorem steps_of_config {overlay : Overlay} (h : overlay.Plain) (hfilled : overlay.Filled)
    (hnormal : ∀ map, overlay.filters = some map → map.Normal) :
    ({} : Overlay).steps (GateDraft.overlaySteps overlay.config) = overlay.inOrder := by
  obtain ⟨filters, operators, customFilters, select, sorts, actions⟩ := overlay
  obtain rfl : customFilters = none := h.customFilters
  -- One part after the other, each on top of those before it.
  have hfilters : ({} : Overlay).steps (filters.toList.map fun map =>
        .filters (map.entries.map fun entry => (entry.1, .ofTexts entry.2))) =
      ⟨filters, none, none, none, none, none⟩ := by
    cases filters with
    | none => rfl
    | some map =>
        show Overlay.mk (some (RuleMap.ofRules _)) none none none none none = _
        rw [RuleMap.of_rules_entries, RuleMap.normalized_of_normal (hnormal map rfl)]
  have hoperators : (Overlay.mk filters none none none none none).steps
      (((operators.getD .empty).entries).map fun entry => .allowedOperators entry.1 entry.2) =
      ⟨filters, operators, none, none, none, none⟩ := by
    cases operators with
    | none => rfl
    | some map =>
        exact steps_operators _ rfl fun hempty => hfilled.operators (congrArg some hempty)
  have hselect : (Overlay.mk filters operators none none none none).steps
      (select.toList.map .select) = ⟨filters, operators, none, select, none, none⟩ := by
    cases select with
    | none => rfl
    | some columns => rfl
  have hsorts : (Overlay.mk filters operators none select none none).steps
      (sorts.toList.map .sorts) = ⟨filters, operators, none, select, sorts, none⟩ := by
    cases sorts with
    | none => rfl
    | some fields => rfl
  have hactions : (Overlay.mk filters operators none select sorts none).steps
      ((ActionDraft.listOfConfig ((actions.map fun drafts =>
        TextMap.ofList (drafts.map ActionDraft.configEntry)).getD .empty)).map .action) =
      ⟨filters, operators, none, select, sorts, actions.map ActionDraft.inOrder⟩ := by
    cases actions with
    | none => rfl
    | some drafts =>
        obtain ⟨hnodup, hplain⟩ := h.actions drafts rfl
        have hperm := ActionDraft.in_order_perm hnodup hplain
        have hnames : ((ActionDraft.inOrder drafts).map ActionDraft.name).Nodup :=
          (hperm.map ActionDraft.name).nodup_iff.mpr hnodup
        have hsome : ActionDraft.inOrder drafts ≠ [] := by
          intro hempty
          rw [hempty] at hperm
          exact hfilled.actions (congrArg some hperm.symm.eq_nil)
        exact steps_actions _ rfl hsome hnames
  rw [overlay_steps_eq]
  simp only [steps_append, config]
  rw [hfilters, hoperators, hselect, hsorts, hactions]
  rfl

end Overlay

end EntityGate

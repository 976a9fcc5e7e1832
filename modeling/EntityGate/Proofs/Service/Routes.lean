import EntityGate.Proofs.Document.Targets
import EntityGate.Service.Route

/-!
# Routes of documented paths

The path of an operation, with an identifier filled in, leads to the route that the operation is
for: see `route_of_target`. Plain segments stand for themselves, so the route is read as it is
written: see `decode_written`.
-/

namespace EntityGate

open Text Document

namespace Route

/-- The route with its segments as they are written. -/
def written : Route String → Route Written
  | .listing => .listing
  | .document => .document
  | .collection gate => .collection gate.toList
  | .changelog gate => .changelog gate.toList
  | .member gate id => .member gate.toList id.toList
  | .action gate name => .action gate.toList name.toList
  | .memberAction gate name id => .memberAction gate.toList name.toList id.toList
  | .health => .health
  | .ready => .ready
  | .version => .version

/-- The segments of a route. -/
def segments : Route String → List String
  | .collection gate | .changelog gate => [gate]
  | .member gate id => [gate, id]
  | .action gate name => [gate, name]
  | .memberAction gate name id => [gate, name, id]
  | .listing | .document | .health | .ready | .version => []

theorem decode_segment_plain {segment : String} (h : PlainSegment segment) (name : String) :
    decodeSegment name segment.toList = .ok segment := by
  unfold decodeSegment
  rw [decode_plain h]

/-- A route of plain segments is read as it is written. -/
theorem decode_written {route : Route String}
    (h : ∀ segment ∈ route.segments, PlainSegment segment) :
    route.written.decode = .ok route := by
  have hsegment (name segment : String) (hmem : segment ∈ route.segments) :
      decodeSegment name segment.toList = .ok segment :=
    decode_segment_plain (h segment hmem) name
  cases route with
  | collection gate | changelog gate =>
      have hgate := hsegment "alias" gate (by simp [segments])
      simp only [written, decode, hgate]
      rfl
  | member gate id =>
      have hgate := hsegment "alias" gate (by simp [segments])
      have hid := hsegment "id" id (by simp [segments])
      simp only [written, decode, hgate, hid]
      rfl
  | action gate name =>
      have hgate := hsegment "alias" gate (by simp [segments])
      have hname := hsegment "action" name (by simp [segments])
      simp only [written, decode, hgate, hname]
      rfl
  | memberAction gate name id =>
      have hgate := hsegment "alias" gate (by simp [segments])
      have hname := hsegment "action" name (by simp [segments])
      have hid := hsegment "id" id (by simp [segments])
      simp only [written, decode, hgate, hname, hid]
      rfl
  | listing | document | health | ready | version => rfl

section Mounted

variable {mount first : String} {rest : List String}

/-- What a path has after the segment that the routes are mounted on. -/
theorem after_mount (mount first : String) (rest : List String) :
    afterStart? (pathOf [mount] ++ "/").toList (pathOf (mount :: first :: rest)).toList =
      some (first.toList ++ (pathOf rest).toList) := by
  have hchars : (pathOf (mount :: first :: rest)).toList =
      (pathOf [mount] ++ "/").toList ++ (first.toList ++ (pathOf rest).toList) := by
    rw [path_chars_cons, path_chars_cons, String.toList_append, path_chars_cons]
    simp [pathOf]
  rw [hchars, after_start_append]

/-- A path of two segments or more is no path of one. -/
theorem path_of_ne_short (h : ∀ segment ∈ mount :: first :: rest, Unbroken segment) {name : String}
    (hname : Unbroken name) : pathOf (mount :: first :: rest) ≠ pathOf [name] := by
  intro heq
  have hsegments := path_of_injective h (List.forall_mem_singleton.mpr hname) heq
  cases hsegments

theorem under_prefix_mounted (hmount : Unbroken mount)
    (h : ∀ segment ∈ first :: rest, Unbroken segment)
    (hfilled : ∀ segment ∈ first :: rest, segment ≠ "") :
    underPrefix? (pathOf [mount]) (pathOf (mount :: first :: rest)) =
      ofFilledSegments? ((first :: rest).map String.toList) := by
  have hbase : (pathOf [mount]).isEmpty = false := by
    rw [Bool.eq_false_iff, ne_eq, String.isEmpty_iff, ← String.toList_eq_nil_iff, path_chars_cons]
    exact List.cons_ne_nil _ _
  have hlonger : pathOf (mount :: first :: rest) ≠ pathOf [mount] :=
    path_of_ne_short (List.forall_mem_cons.mpr ⟨hmount, h⟩) hmount
  have hlast : ((first :: rest).map String.toList).getLast? ≠ some [] := by
    intro hlast
    obtain ⟨segment, hsegment, hempty⟩ := List.mem_map.mp (List.mem_of_getLast? hlast)
    exact hfilled segment hsegment (String.toList_eq_nil_iff.mp hempty)
  unfold underPrefix?
  rw [hbase, if_neg Bool.false_ne_true, if_neg hlonger, after_mount, Option.bind_some,
    split_segments (h first List.mem_cons_self) fun segment hsegment =>
      h segment (List.mem_cons_of_mem _ hsegment)]
  exact if_neg hlast

/-- A path with segments after the one that the routes are mounted on is taken apart there. -/
theorem of_path_mounted (hmount : Unbroken mount) (h : ∀ segment ∈ first :: rest, Unbroken segment)
    (hfilled : ∀ segment ∈ first :: rest, segment ≠ "") :
    ofPath? (pathOf [mount]) (pathOf (mount :: first :: rest)) =
      ofFilledSegments? ((first :: rest).map String.toList) := by
  -- The routes beside the mounted ones have one segment only.
  have hbeside (name : String) (hname : PlainSegment name) :
      pathOf (mount :: first :: rest) ≠ pathOf [name] :=
    path_of_ne_short (List.forall_mem_cons.mpr ⟨hmount, h⟩) hname.unbroken
  unfold ofPath?
  split
  · next heq => exact (hbeside "health" (by decide +kernel) heq).elim
  · next heq => exact (hbeside "ready" (by decide +kernel) heq).elim
  · next heq => exact (hbeside "version" (by decide +kernel) heq).elim
  · exact under_prefix_mounted hmount h hfilled

end Mounted

end Route

namespace Document

/-- The route of an action of a name on a gate, with an identifier. -/
def ActionPlace.route (gate name id : String) : ActionPlace → Route String
  | .collection => .collection gate
  | .member => .member gate id
  | .named false => .action gate name
  | .named true => .memberAction gate name id

/-- The route that an operation is for, with an identifier. -/
def Target.route (gate id : String) : Target → Route String
  | .listing => .collection gate
  | .changelog => .changelog gate
  | .run action => (placeOf action).route gate action.name id

theorem route_not_common (target : Target) (gate id : String) :
    (target.route gate id).written.isCommon = false := by
  cases target with
  | listing => rfl
  | changelog => rfl
  | run action =>
      show ((placeOf action).route gate action.name id).written.isCommon = false
      rcases placeOf action with _ | _ | (_ | _) <;> rfl

/-- Only the changelog is read and never run. -/
theorem method_of_read_only {target : Target} {gate id : String}
    (h : (target.route gate id).written.isReadOnly = true) : target.method = .get := by
  cases target with
  | listing => rfl
  | changelog => rfl
  | run action =>
      have hread : ((placeOf action).route gate action.name id).written.isReadOnly = false := by
        rcases placeOf action with _ | _ | (_ | _) <;> rfl
      cases hread.symm.trans h

namespace GatePage

variable {page : GatePage} {target : Target} {id : String}

theorem route_segments_plain (hslug : PlainSegment page.names.slug) (h : page.version.Apart)
    (htarget : target ∈ page.targets) (hid : PlainSegment id) :
    ∀ segment ∈ (target.route page.names.slug id).segments, PlainSegment segment := by
  cases target with
  | listing => simpa [Target.route, Route.segments] using hslug
  | changelog => simpa [Target.route, Route.segments] using hslug
  | run action =>
      have hname := h.plain action (mem_actions_of_target htarget)
      unfold Target.route ActionPlace.route
      dsimp only
      split
      · simpa [Route.segments] using hslug
      · simpa [Route.segments] using ⟨hslug, hid⟩
      · simpa [Route.segments] using ⟨hslug, hname⟩
      · simpa [Route.segments] using ⟨hslug, hname, hid⟩

/-- The path of an operation leads where the segments after the slug lead, once the identifier is
filled in. -/
theorem of_path_of_target {mount : String} (hmount : PlainSegment mount)
    (hbase : page.base = pathOf [mount]) (hslug : PlainSegment page.names.slug)
    (htail : ∀ segment ∈ target.tail, Unbroken segment) {rest : List String}
    (hrest : target.tail.map (fillSegment id) = rest)
    (hplain : ∀ segment ∈ rest, PlainSegment segment) :
    Route.ofPath? page.base (fillPath id (page.endpointFor target).path) =
      Route.ofFilledSegments? ((page.names.slug :: rest).map String.toList) := by
  have hpath : (page.endpointFor target).path = pathOf (mount :: page.segments target) := by
    show page.base ++ pathOf (page.segments target) = _
    rw [hbase]
    simp [pathOf]
  have hunbroken : ∀ segment ∈ mount :: page.segments target, Unbroken segment :=
    List.forall_mem_cons.mpr ⟨hmount.unbroken, List.forall_mem_cons.mpr ⟨hslug.unbroken, htail⟩⟩
  have hsegments : (mount :: page.segments target).map (fillSegment id) =
      mount :: page.names.slug :: rest := by
    rw [segments, List.map_cons, List.map_cons, hmount.fill, hslug.fill, hrest]
  have hall := List.forall_mem_cons.mpr ⟨hslug, hplain⟩
  rw [hpath, fill_path_of id hunbroken, hsegments, hbase]
  exact Route.of_path_mounted hmount.unbroken (fun segment hmem => (hall segment hmem).unbroken)
    fun segment hmem => (hall segment hmem).ne_empty

/-- The path of an operation, with an identifier filled in, leads to its route. -/
theorem route_of_target {mount : String} (hmount : PlainSegment mount)
    (hbase : page.base = pathOf [mount]) (hslug : PlainSegment page.names.slug)
    (h : page.version.Apart) (htarget : target ∈ page.targets) (hid : PlainSegment id)
    (hchangelog : id ≠ "changelog") :
    Route.ofPath? page.base (fillPath id (page.endpointFor target).path) =
      some (target.route page.names.slug id).written := by
  have hleads {rest : List String} (hrest : target.tail.map (fillSegment id) = rest)
      (hplain : ∀ segment ∈ rest, PlainSegment segment) :=
    of_path_of_target hmount hbase hslug (tail_unbroken h htarget) hrest hplain
  have hfilled : fillSegment id idSegment = id := if_pos rfl
  have hactions : fillSegment id "actions" = "actions" := actions_plain.fill id
  have hcollection : Route.ofFilledSegments? [page.names.slug.toList] =
      some (.collection page.names.slug.toList) :=
    congrArg some (if_neg fun heq => hslug.ne_document (String.toList_inj.mp heq))
  cases target with
  | listing => exact (hleads rfl nofun).trans hcollection
  | changelog =>
      have hrest : Target.changelog.tail.map (fillSegment id) = ["changelog"] :=
        congrArg (fun segment => [segment]) (changelog_plain.fill id)
      exact hleads hrest (List.forall_mem_singleton.mpr changelog_plain)
  | run action =>
      have hname := h.plain action (mem_actions_of_target htarget)
      have htail : (Target.run action).tail = (placeOf action).tail action.name := rfl
      rw [htail] at hleads
      show _ = some ((placeOf action).route page.names.slug action.name id).written
      generalize placeOf action = place at hleads ⊢
      cases place with
      | collection => exact (hleads rfl nofun).trans hcollection
      | member =>
          have hrest : (ActionPlace.member.tail action.name).map (fillSegment id) = [id] :=
            congrArg (fun segment => [segment]) hfilled
          refine (hleads hrest (List.forall_mem_singleton.mpr hid)).trans ?_
          exact congrArg some (if_neg fun heq => hchangelog (String.toList_inj.mp heq))
      | named takesId =>
          cases takesId with
          | false =>
              have hrest : ((ActionPlace.named false).tail action.name).map (fillSegment id) =
                  ["actions", action.name] := by
                simp [ActionPlace.tail, hactions, hname.fill]
              exact hleads hrest (by simpa using ⟨actions_plain, hname⟩)
          | true =>
              have hrest : ((ActionPlace.named true).tail action.name).map (fillSegment id) =
                  ["actions", action.name, id] := by
                simp [ActionPlace.tail, hactions, hname.fill, hfilled]
              exact hleads hrest (by simpa using ⟨actions_plain, hname, hid⟩)

end GatePage

end Document

end EntityGate

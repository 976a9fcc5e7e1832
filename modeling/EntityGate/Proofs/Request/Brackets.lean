import EntityGate.Proofs.Request.Parameters

/-!
# Keys in brackets

A key is read as a base and segments exactly if it is written as these: see `brackets_read_exactly`.
The segments are read in rounds, each of which takes one segment in brackets off the start of what
is left. `Rounds` says how the rounds come to an end, without a limit on how many there are;
`rounds_bracket_tail` shows that they always do, and that the limit under which they run is never
reached before that.
-/

namespace EntityGate.Request

/-- The key is the base followed by each segment in brackets. A base has no opening bracket, a
segment no closing one, and there is a segment. -/
structure InBrackets (key base : List Char) (segments : List (List Char)) : Prop where
  written : key = base ++ bracketed segments
  filled : segments ≠ []
  base_plain : '[' ∉ base
  closed : ∀ segment ∈ segments, ']' ∉ segment

/-- How the rounds over what stands behind a base end: with the segments if nothing is left, and
without an answer at a character outside of brackets or at a bracket that is not closed. -/
inductive Rounds : List Char → Option (List (List Char)) → Prop
  | finished : Rounds [] (some [])
  | outside {char : Char} {rest : List Char} : char ≠ '[' → Rounds (char :: rest) none
  | unclosed {rest : List Char} : ']' ∉ rest → Rounds ('[' :: rest) none
  | segment {segment rest : List Char} {answer : Option (List (List Char))} : ']' ∉ segment →
      Rounds rest answer → Rounds ('[' :: (segment ++ ']' :: rest)) (answer.map (segment :: ·))

/-! ## One round -/

theorem bracket_tail_outside {char : Char} (h : char ≠ '[') (fuel : Nat) (rest : List Char) :
    bracketTail fuel (char :: rest) = none := by
  unfold bracketTail
  split
  · next hnil => cases hnil
  · rfl
  · next hopen => exact absurd (List.cons.inj hopen).1 h
  · rfl

theorem bracket_tail_unclosed {rest : List Char} (h : ']' ∉ rest) (fuel : Nat) :
    bracketTail fuel ('[' :: rest) = none := by
  cases fuel with
  | zero => rfl
  | succ fuel => simp [bracketTail, Text.cut_chars_of_not_mem h]

/-! ## All rounds -/

/-- The rounds end, and with as many of them allowed as there are characters they end as they would
without a limit. -/
theorem rounds_bracket_tail {tail : List Char} {fuel : Nat} (h : tail.length ≤ fuel) :
    Rounds tail (bracketTail fuel tail) := by
  -- A round takes its brackets off, so that what is left is shorter than the limit again.
  induction fuel generalizing tail with
  | zero =>
      obtain rfl := List.length_eq_zero_iff.mp (Nat.le_zero.mp h)
      exact .finished
  | succ fuel ih =>
      cases tail with
      | nil => exact .finished
      | cons char rest =>
          by_cases hopen : char = '['
          · subst hopen
            by_cases hclose : ']' ∈ rest
            · obtain ⟨segment, after, rfl, hsegment⟩ := List.eq_append_cons_of_mem hclose
              have hafter : after.length ≤ fuel := by
                simp only [List.length_cons, List.length_append] at h
                omega
              rw [bracket_tail_segment hsegment]
              exact .segment hsegment (ih hafter)
            · rw [bracket_tail_unclosed hclose]
              exact .unclosed hclose
          · rw [bracket_tail_outside hopen]
            exact .outside hopen

/-- The rounds end in one way only. -/
theorem Rounds.bracket_tail_eq {tail : List Char} {answer : Option (List (List Char))}
    (h : Rounds tail answer) {fuel : Nat} (hfuel : tail.length ≤ fuel) :
    bracketTail fuel tail = answer := by
  induction h generalizing fuel with
  | finished =>
      unfold bracketTail
      rfl
  | outside hother => exact bracket_tail_outside hother fuel _
  | unclosed hopen => exact bracket_tail_unclosed hopen fuel
  | @segment segment rest answer hsegment _ ih =>
      obtain ⟨fuel, rfl⟩ := Nat.exists_eq_add_of_le' (Nat.le_trans (Nat.le_add_left 1 _) hfuel)
      have hrest : rest.length ≤ fuel := by
        simp only [List.length_cons, List.length_append] at hfuel
        omega
      rw [bracket_tail_segment hsegment, ih hrest]

/-- Rounds that end with segments have read these segments in brackets. -/
theorem Rounds.tail_eq {tail : List Char} {answer : Option (List (List Char))}
    (h : Rounds tail answer) {segments : List (List Char)} (hanswer : answer = some segments) :
    tail = bracketed segments ∧ ∀ segment ∈ segments, ']' ∉ segment := by
  induction h generalizing segments with
  | finished =>
      cases hanswer
      exact ⟨rfl, nofun⟩
  | outside | unclosed => cases hanswer
  | @segment segment rest answer hsegment _ ih =>
      obtain ⟨others, hothers, rfl⟩ := Option.map_eq_some_iff.mp hanswer
      obtain ⟨rfl, hclosed⟩ := ih hothers
      exact ⟨(bracketed_cons segment others).symm, List.forall_mem_cons.mpr ⟨hsegment, hclosed⟩⟩

/-- What is read of a key is what the key is written as. -/
theorem bracket_segments_eq_some_iff {key base : List Char} {segments : List (List Char)} :
    bracketSegments? key = some (base, segments) ↔ InBrackets key base segments := by
  constructor
  · intro h
    unfold bracketSegments? at h
    dsimp only at h
    split at h
    · cases h
    · next tail hopen =>
      obtain ⟨read, hread, hparts⟩ := Option.map_eq_some_iff.mp h
      obtain ⟨rfl, rfl⟩ := Prod.mk.inj hparts
      obtain ⟨htail, hclosed⟩ := (rounds_bracket_tail (Nat.le_refl _)).tail_eq hread
      refine ⟨?_, ?_, fun hmem => ?_, hclosed⟩
      · rw [← htail, List.takeWhile_append_dropWhile]
      · rintro rfl
        exact hopen htail
      · simpa using List.mem_takeWhile_imp hmem
  · rintro ⟨rfl, hfilled, hbase, hclosed⟩
    exact bracket_segments_bracketed hbase hclosed hfilled

/-- A key is read as a base and segments exactly if it is the base followed by each segment in
brackets, with a segment at least, no opening bracket in the base and no closing one in a segment;
every other key is read as none. The rounds over the segments end for every key, in one way, and
however many more of them were allowed, the answer would be the same. -/
theorem brackets_read_exactly (key : List Char) :
    let tail := key.dropWhile (· != '[')
    (∀ base segments, bracketSegments? key = some (base, segments) ↔
      key = base ++ bracketed segments ∧ segments ≠ [] ∧ '[' ∉ base ∧
        ∀ segment ∈ segments, ']' ∉ segment) ∧
    (bracketSegments? key = none ↔ ∀ base segments, ¬InBrackets key base segments) ∧
    ∃ answer, Rounds tail answer ∧ (∀ other, Rounds tail other → other = answer) ∧
      ∀ fuel, tail.length ≤ fuel → bracketTail fuel tail = answer := by
  intro tail
  refine ⟨fun base segments => ?_, ?_, ?_⟩
  · rw [bracket_segments_eq_some_iff]
    exact ⟨fun h => ⟨h.written, h.filled, h.base_plain, h.closed⟩,
      fun ⟨hwritten, hfilled, hbase, hclosed⟩ => ⟨hwritten, hfilled, hbase, hclosed⟩⟩
  · simp only [Option.eq_none_iff_forall_ne_some, Prod.forall, ne_eq, bracket_segments_eq_some_iff]
  · have hrounds := rounds_bracket_tail (Nat.le_refl tail.length)
    refine ⟨_, hrounds, fun other hother => ?_, fun fuel => hrounds.bracket_tail_eq⟩
    exact (hother.bracket_tail_eq (Nat.le_refl _)).symm

/-- A segment may be empty and may hold an opening bracket; more rounds do not change the answer. -/
theorem brackets_read_exactly_of_status :
    bracketSegments? "filter[sta[tus][]".toList = some ("filter".toList, ["sta[tus".toList, []]) ∧
      bracketTail 100 "[sta[tus][]".toList = some ["sta[tus".toList, []] := by
  obtain ⟨hread, -, answer, -, hunique, hfuel⟩ :=
    brackets_read_exactly "filter[sta[tus][]".toList
  have hempty : Rounds "[]".toList (some [[]]) := @Rounds.segment [] [] _ (by decide) .finished
  have hrounds : Rounds "[sta[tus][]".toList (some ["sta[tus".toList, []]) :=
    @Rounds.segment "sta[tus".toList "[]".toList _ (by decide) hempty
  exact ⟨(hread _ _).mpr ⟨rfl, by decide, by decide, by decide⟩,
    (hfuel 100 (by decide)).trans (hunique _ hrounds).symm⟩

end EntityGate.Request

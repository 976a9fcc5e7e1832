import EntityGate.Pattern.Reader
import EntityGate.Proofs.Pattern.Spans
import EntityGate.Proofs.Store.Like

/-!
# Like patterns as expressions

The expression of a like pattern is anchored at both ends. It is read as one part for each character
(see `read_expression`), each part spans what its character may stand for (see `spans_part_iff`),
and so what it writes occurs in a text exactly if the text matches: see `compiled_occurs_in`.
-/

namespace EntityGate.Like

open Pattern

/-! ## Reading the expression -/

section Reading

variable {fuel : Nat} {names : List (List Char)} {pending : PendingGroup} {rest : List Char}
  {mark : Char}

theorem read_group_dot : readGroup (fuel + 1) {} names pending ('.' :: rest) =
    readGroup fuel {} names (pending.add lineChar) rest := rfl

theorem read_group_star {finished : List Pattern} {last : Pattern} {parts : List (Option Pattern)} :
    readGroup (fuel + 1) {} names ⟨finished, some last :: parts⟩ ('*' :: rest) =
      readGroup fuel {} names ⟨finished, some (.counted last 0 none) :: parts⟩
        (skipReluctant {} rest) := rfl

theorem read_group_escape (h : mark ∈ metaChars) :
    readGroup (fuel + 1) {} names pending ('\\' :: mark :: rest) =
      readGroup fuel {} names (pending.add (.member (.single mark))) rest := by
  simp only [metaChars, List.mem_cons, List.not_mem_nil, or_false] at h
  rcases h with rfl | rfl | rfl | rfl | rfl | rfl | rfl | rfl | rfl | rfl | rfl | rfl | rfl | rfl |
    rfl | rfl | rfl | rfl <;> rfl

theorem read_group_plain (h : mark ∉ metaChars) :
    readGroup (fuel + 1) {} names pending (mark :: rest) =
      readGroup fuel {} names (pending.add (.member (.single mark))) rest := by
  have hskip : skipIgnored {} (mark :: rest) = mark :: rest := rfl
  rw [readGroup, hskip]
  split <;> rename_i heq <;> cases heq
  case h_15.refl => rfl
  all_goals exact absurd (by decide) h

theorem tail_chars_cons (mark : Char) (pattern : List Char) :
    tailChars (mark :: pattern) = markChars mark ++ tailChars pattern := by
  simp [tailChars]

/-- No repetition in the expression is reluctant. -/
theorem skip_reluctant_tail (pattern : List Char) :
    skipReluctant {} (tailChars pattern) = tailChars pattern := by
  cases pattern with
  | nil => rfl
  | cons mark pattern =>
      rw [tail_chars_cons, markChars]
      split_ifs with _ _ hmeta
      · rfl
      · rfl
      · rfl
      · have hskip : skipIgnored {} ([mark] ++ tailChars pattern) = mark :: tailChars pattern := rfl
        rw [skipReluctant, hskip]
        split
        · rename_i heq
          cases heq
          exact absurd (by decide) hmeta
        · rfl

/-- Reading what a character of the like pattern is written as adds its part. -/
theorem read_group_mark (fuel : Nat) (names : List (List Char)) (pending : PendingGroup)
    (mark : Char) (pattern : List Char) :
    ∃ left, fuel ≤ left ∧
      readGroup (fuel + (markChars mark).length) {} names pending
          (markChars mark ++ tailChars pattern) =
        readGroup left {} names (pending.add (part mark)) (tailChars pattern) := by
  unfold markChars part
  split_ifs with hrun hone hmeta
  · refine ⟨fuel, le_rfl, read_group_dot.trans (read_group_star.trans ?_)⟩
    exact congrArg (readGroup fuel {} names _) (skip_reluctant_tail pattern)
  · exact ⟨fuel, le_rfl, read_group_dot⟩
  · exact ⟨fuel + 1, Nat.le_succ fuel, read_group_escape hmeta⟩
  · exact ⟨fuel, le_rfl, read_group_plain hmeta⟩

/-- Reading adds the parts of all characters of the like pattern and the end of the text. -/
theorem read_group_tail {pattern : List Char} (hfuel : (tailChars pattern).length < fuel) :
    readGroup fuel {} names pending (tailChars pattern) =
      some (((pattern.map part ++ [Pattern.anchor .textEnd]).foldl PendingGroup.add pending).close,
        names, []) := by
  induction pattern generalizing fuel pending with
  | nil =>
      obtain ⟨fuel, rfl⟩ : ∃ more, fuel = more + 2 := Nat.exists_eq_add_of_le' hfuel
      rfl
  | cons mark pattern ih =>
      rw [tail_chars_cons, List.length_append] at hfuel
      obtain ⟨more, rfl⟩ : ∃ more, fuel = more + (markChars mark).length :=
        Nat.exists_eq_add_of_le' (by omega)
      obtain ⟨left, hleft, hmark⟩ := read_group_mark more names pending mark pattern
      rw [tail_chars_cons, hmark, ih (by omega)]
      rfl

theorem foldl_add_eq (parts : List Pattern) (pending : PendingGroup) :
    parts.foldl PendingGroup.add pending =
      ⟨pending.finished, (parts.map some).reverse ++ pending.parts⟩ := by
  induction parts generalizing pending with
  | nil => rfl
  | cons first rest ih => simp [ih, PendingGroup.add]

/-- The expression of a like pattern is read unless it is too large. -/
theorem read_expression (pattern : String) : Pattern.read? (expression pattern) =
    if (compiled pattern.toList).weight ≤ maxWeight then some (compiled pattern.toList)
    else none := by
  have hstart {fuel : Nat} : readGroup (fuel + 1) {} [] ⟨[], []⟩ ('^' :: tailChars pattern.toList) =
      readGroup fuel {} [] (PendingGroup.add ⟨[], []⟩ (.anchor .textStart))
        (tailChars pattern.toList) := rfl
  have hclose (parts : List Pattern) :
      (parts.foldl PendingGroup.add ⟨[], []⟩).close = sequenceAll parts := by
    rw [foldl_add_eq]
    simp [PendingGroup.close, PendingGroup.current]
  have hread : readGroup (3 * ('^' :: tailChars pattern.toList).length + 3) {} [] ⟨[], []⟩
      ('^' :: tailChars pattern.toList) = some (compiled pattern.toList, [], []) := by
    rw [hstart, read_group_tail (by simp; omega), ← List.foldl_cons, hclose]
    rfl
  unfold Pattern.read? expression
  simp only [String.toList_ofList, hread]
  simp

end Reading

/-! ## What the pattern spans -/

variable {pattern text : List Char} {mark : Char} {start stop : Nat}

theorem spans_line_char_iff : Spans text lineChar start stop ↔
    stop = start + 1 ∧ ∃ char, text.drop start = char :: text.drop stop ∧ char ≠ '\n' := by
  rw [lineChar, spans_member_iff]
  simp only [CharSet.contains, Bool.not_eq_true', ← Bool.not_eq_true,
    CharSet.contains_single_iff]

/-- A repeated character of a line spans the runs without line breaks. -/
theorem steps_line_char_iff {count : Nat} : Steps (Spans text lineChar) count start stop ↔
    ∃ run, text.drop start = run ++ text.drop stop ∧ (∀ char ∈ run, char ≠ '\n') ∧
      run.length = count ∧ stop = start + count := by
  induction count generalizing start with
  | zero =>
      simp only [Steps, List.length_eq_zero_iff]
      constructor
      · rintro rfl
        exact ⟨[], rfl, List.forall_mem_nil _, rfl, rfl⟩
      · rintro ⟨_, -, -, -, rfl⟩
        rfl
  | succ count ih =>
      simp only [steps_succ_iff, ih, spans_line_char_iff]
      constructor
      · rintro ⟨_, ⟨rfl, char, hchar, hne⟩, run, hrun, hfree, rfl, rfl⟩
        exact ⟨char :: run, by rw [hchar, hrun, List.cons_append],
          List.forall_mem_cons.mpr ⟨hne, hfree⟩, rfl, by omega⟩
      · rintro ⟨run, hrun, hfree, hlength, rfl⟩
        obtain ⟨char, run, rfl⟩ := List.exists_cons_of_length_eq_add_one hlength
        obtain ⟨hne, hfree⟩ := List.forall_mem_cons.mp hfree
        have hrest : text.drop (start + 1) = run ++ text.drop (start + (count + 1)) := by
          rw [← List.tail_drop, hrun, List.cons_append, List.tail_cons]
        refine ⟨start + 1, ⟨rfl, char, ?_, hne⟩, run, by rw [hrest], hfree,
          Nat.succ_injective hlength, by omega⟩
        rw [hrun, hrest, List.cons_append]

/-- The part of a character spans what the character may stand for. -/
theorem spans_part_iff : Spans text (part mark) start stop ↔
    ∃ run, text.drop start = run ++ text.drop stop ∧ Stands (· ≠ '\n') mark run ∧
      stop = start + run.length := by
  unfold part
  split_ifs with hrun hone
  · subst hrun
    simp only [stands_run_iff]
    constructor
    · rintro ⟨count, -, -, hsteps⟩
      obtain ⟨run, hrun, hfree, rfl, hstop⟩ := steps_line_char_iff.mp hsteps
      exact ⟨run, hrun, hfree, hstop⟩
    · rintro ⟨run, hrun, hfree, hstop⟩
      exact ⟨run.length, Nat.zero_le _, nofun,
        steps_line_char_iff.mpr ⟨run, hrun, hfree, rfl, hstop⟩⟩
  · subst hone
    simp only [stands_one_iff, spans_line_char_iff]
    constructor
    · rintro ⟨rfl, char, hchar, hne⟩
      exact ⟨[char], hchar, ⟨char, rfl, hne⟩, rfl⟩
    · rintro ⟨_, hchar, ⟨char, rfl, hne⟩, rfl⟩
      exact ⟨rfl, char, hchar, hne⟩
  · simp only [stands_same_iff hrun hone, spans_member_iff, CharSet.contains_single_iff]
    constructor
    · rintro ⟨rfl, char, hchar, rfl⟩
      exact ⟨[char], hchar, rfl, rfl⟩
    · rintro ⟨_, hchar, rfl, rfl⟩
      exact ⟨rfl, mark, hchar, rfl⟩

/-- The parts of a like pattern up to the end of the text span what the like pattern yields. -/
theorem spans_parts_iff (hstart : start ≤ text.length) :
    Spans text (sequenceAll (pattern.map part ++ [.anchor .textEnd])) start stop ↔
      stop = text.length ∧ Yields (· ≠ '\n') pattern (text.drop start) := by
  induction pattern generalizing start with
  | nil =>
      show (∃ between, (start = between ∧ text[start]?.isNone = true) ∧ between = stop) ↔ _
      rw [yields_nil_iff, List.drop_eq_nil_iff, Option.isNone_iff_eq_none,
        List.getElem?_eq_none_iff]
      constructor
      · rintro ⟨_, ⟨rfl, hlength⟩, rfl⟩
        exact ⟨Nat.le_antisymm hstart hlength, hlength⟩
      · rintro ⟨rfl, hlength⟩
        exact ⟨start, ⟨rfl, hlength⟩, Nat.le_antisymm hstart hlength⟩
  | cons mark pattern ih =>
      show (∃ between, Spans text (part mark) start between ∧ Spans text _ between stop) ↔ _
      rw [yields_cons_iff]
      constructor
      · rintro ⟨between, hpart, hrest⟩
        obtain ⟨rfl, hyields⟩ := (ih (hpart.le_length hstart)).mp hrest
        obtain ⟨run, htext, hstands, -⟩ := spans_part_iff.mp hpart
        exact ⟨rfl, run, _, htext, hstands, hyields⟩
      · rintro ⟨rfl, run, rest, htext, hstands, hyields⟩
        have hrest : text.drop (start + run.length) = rest := by
          rw [← List.drop_drop, htext, List.drop_left]
        have hpart : Spans text (part mark) start (start + run.length) :=
          spans_part_iff.mpr ⟨run, by rw [htext, hrest], hstands, rfl⟩
        exact ⟨_, hpart, (ih (hpart.le_length hstart)).mpr ⟨rfl, hrest ▸ hyields⟩⟩

/-- The pattern that the expression of a like pattern writes occurs in the texts that match. -/
theorem compiled_occurs_in (pattern text : List Char) :
    (compiled pattern).occursIn text = matchesAll pattern text := by
  rw [Bool.eq_iff_iff, occurs_in_iff, matches_all_iff]
  constructor
  · rintro ⟨start, stop, hstart, _, ⟨rfl, hanchor⟩, hparts⟩
    obtain ⟨-, hyields⟩ := (spans_parts_iff hstart).mp hparts
    -- The anchor holds before the first character only.
    cases start with
    | zero => exact hyields
    | succ before =>
        have hnone : text[before]? = none := Option.isNone_iff_eq_none.mp hanchor
        exact absurd (List.getElem?_eq_none_iff.mp hnone) (by omega)
  · intro hyields
    exact ⟨0, text.length, Nat.zero_le _, 0, ⟨rfl, rfl⟩,
      (spans_parts_iff (Nat.zero_le _)).mpr ⟨rfl, hyields⟩⟩

end EntityGate.Like

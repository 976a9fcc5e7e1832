import EntityGate.Proofs.Json.Visible
import EntityGate.Store.Like

/-!
# What like patterns mean

The texts of the form of a like pattern, as a relation beside a function that decides it: see
`matches_all_iff`. The characters that a percent sign or an underscore may stand for are a
parameter: matching excludes the line break, which makes no difference for a text of one line (see
`matches_all_of_one_line`) and so for everything but strings (see `text_of_one_line`).
-/

namespace EntityGate.Like

/-- What a character of a like pattern may stand for: a percent sign for a run of free characters,
an underscore for one free character, every other character for itself. -/
inductive Stands (free : Char → Prop) : Char → List Char → Prop
  | run {run} : (∀ char ∈ run, free char) → Stands free '%' run
  | one {char} : free char → Stands free '_' [char]
  | same {mark} : mark ≠ '%' → mark ≠ '_' → Stands free mark [mark]

/-- The text is the pattern with each character replaced by what it may stand for. -/
inductive Yields (free : Char → Prop) : List Char → List Char → Prop
  | nil : Yields free [] []
  | cons {mark run pattern text} : Stands free mark run → Yields free pattern text →
      Yields free (mark :: pattern) (run ++ text)

/-- Whether a test holds of the rest of the text after some run of characters of the same line. -/
def afterSomeRun (test : List Char → Bool) : List Char → Bool
  | [] => test []
  | char :: rest => test (char :: rest) || (char != '\n' && afterSomeRun test rest)

/-- Whether the whole text is of the form of the pattern. -/
def matchesAll : List Char → List Char → Bool
  | [] => fun text => text.isEmpty
  | mark :: pattern =>
    let rest := matchesAll pattern
    if mark = '%' then afterSomeRun rest
    else fun text =>
      match text with
      | [] => false
      | char :: chars => (if mark = '_' then char != '\n' else char == mark) && rest chars

variable {free other : Char → Prop} {pattern text run : List Char} {char mark : Char}

theorem stands_run_iff : Stands free '%' run ↔ ∀ char ∈ run, free char := by
  refine ⟨fun h => ?_, .run⟩
  cases h with
  | run hfree => exact hfree
  | same hne => exact absurd rfl hne

theorem stands_one_iff : Stands free '_' run ↔ ∃ char, run = [char] ∧ free char := by
  constructor
  · intro h
    cases h with
    | one hfree => exact ⟨_, rfl, hfree⟩
    | same _ hne => exact absurd rfl hne
  · rintro ⟨char, rfl, hfree⟩
    exact .one hfree

theorem stands_same_iff (hrun : mark ≠ '%') (hone : mark ≠ '_') :
    Stands free mark run ↔ run = [mark] := by
  constructor
  · intro h
    cases h with
    | run => exact absurd rfl hrun
    | one => exact absurd rfl hone
    | same => rfl
  · rintro rfl
    exact .same hrun hone

theorem yields_nil_iff : Yields free [] text ↔ text = [] := by
  constructor
  · intro h
    cases h
    rfl
  · rintro rfl
    exact .nil

theorem yields_cons_iff : Yields free (mark :: pattern) text ↔
    ∃ run rest, text = run ++ rest ∧ Stands free mark run ∧ Yields free pattern rest := by
  constructor
  · intro h
    cases h with
    | cons hrun hrest => exact ⟨_, _, rfl, hrun, hrest⟩
  · rintro ⟨run, rest, rfl, hrun, hrest⟩
    exact .cons hrun hrest

theorem Stands.mono (h : Stands free mark run) (hfree : ∀ char ∈ run, free char → other char) :
    Stands other mark run := by
  cases h with
  | run hrun => exact .run fun char hchar => hfree char hchar (hrun char hchar)
  | one hchar => exact .one (hfree _ List.mem_cons_self hchar)
  | same hrun hone => exact .same hrun hone

/-- Which characters are free only matters for those of the text. -/
theorem Yields.mono (h : Yields free pattern text)
    (hfree : ∀ char ∈ text, free char → other char) : Yields other pattern text := by
  induction h with
  | nil => exact .nil
  | cons hstands _ ih =>
      obtain ⟨hrun, hrest⟩ := List.forall_mem_append.mp hfree
      exact .cons (hstands.mono hrun) (ih hrest)

/-! ## The decision -/

theorem after_some_run_iff {test : List Char → Bool} : afterSomeRun test text = true ↔
    ∃ run rest, text = run ++ rest ∧ (∀ char ∈ run, char ≠ '\n') ∧ test rest = true := by
  induction text with
  | nil =>
      constructor
      · exact fun htest => ⟨[], [], rfl, nofun, htest⟩
      · rintro ⟨run, rest, hsplit, -, htest⟩
        obtain ⟨rfl, rfl⟩ := List.nil_eq_append_iff.mp hsplit
        exact htest
  | cons char rest ih =>
      simp only [afterSomeRun, Bool.or_eq_true, Bool.and_eq_true, bne_iff_ne, ih]
      constructor
      · rintro (htest | ⟨hchar, run, after, rfl, hrun, htest⟩)
        · exact ⟨[], _, rfl, nofun, htest⟩
        · exact ⟨char :: run, after, rfl, List.forall_mem_cons.mpr ⟨hchar, hrun⟩, htest⟩
      · rintro ⟨run, after, hsplit, hrun, htest⟩
        cases run with
        | nil => exact .inl (hsplit ▸ htest)
        | cons first run =>
            cases hsplit
            obtain ⟨hfirst, hrun⟩ := List.forall_mem_cons.mp hrun
            exact .inr ⟨hfirst, run, after, rfl, hrun, htest⟩

/-- A text matches if the pattern yields it without a line break for a percent sign or an
underscore. -/
theorem matches_all_iff : matchesAll pattern text = true ↔ Yields (· ≠ '\n') pattern text := by
  induction pattern generalizing text with
  | nil => simp [matchesAll, yields_nil_iff]
  | cons mark pattern ih =>
      rw [yields_cons_iff]
      by_cases hrun : mark = '%'
      · subst hrun
        simp only [matchesAll, if_true, after_some_run_iff, ih, stands_run_iff]
      · by_cases hone : mark = '_'
        · subst hone
          simp only [stands_one_iff]
          cases text with
          | nil => simp [matchesAll]
          | cons first rest =>
              simp only [matchesAll, hrun, if_false, if_true, Bool.and_eq_true, bne_iff_ne, ih]
              constructor
              · rintro ⟨hfree, hrest⟩
                exact ⟨[first], rest, rfl, ⟨first, rfl, hfree⟩, hrest⟩
              · rintro ⟨_, _, heq, ⟨char, rfl, hfree⟩, hrest⟩
                cases heq
                exact ⟨hfree, hrest⟩
        · simp only [stands_same_iff hrun hone]
          cases text with
          | nil => simp [matchesAll, hrun]
          | cons first rest =>
              simp only [matchesAll, hrun, hone, if_false, Bool.and_eq_true, beq_iff_eq, ih]
              constructor
              · rintro ⟨rfl, hrest⟩
                exact ⟨[first], rest, rfl, rfl, hrest⟩
              · rintro ⟨_, _, heq, rfl, hrest⟩
                cases heq
                exact ⟨rfl, hrest⟩

/-- On one line a percent sign stands for any run of characters and an underscore for any one. -/
theorem matches_all_of_one_line (h : '\n' ∉ text) :
    matchesAll pattern text = true ↔ Yields (fun _ => True) pattern text := by
  rw [matches_all_iff]
  constructor
  · exact fun hyields => hyields.mono fun _ _ _ => trivial
  · exact fun hyields => hyields.mono fun char hchar _ hbreak => h (hbreak ▸ hchar)

/-- Only strings have line breaks. -/
theorem text_of_one_line {value : Json} (h : value.text? = none) : '\n' ∉ textOf value := by
  cases value with
  | string text => cases h
  | _ => exact (Json.visible_compact _).line_break_not_mem

end EntityGate.Like

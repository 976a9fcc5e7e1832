import EntityGate.Proofs.Data.Results
import EntityGate.Proofs.Library.Bundled
import EntityGate.Store.Basic

/-!
# Testing predicates

Testing a predicate fails where a like pattern cannot be compiled. What it answers otherwise is what
the predicate says of the row: see `Predicate.holds_of_test`. It answers whenever all like patterns
in the predicate can be compiled: see `Predicate.test_of_compile`. What a like predicate says is
settled by `Predicate.like_holds_iff_yields`.
-/

namespace EntityGate

section

variable [Libraries]

namespace Like

/-- The expression of the pattern can be compiled. -/
def Compiles (pattern : String) : Prop :=
  ∃ occurs, Libraries.expression (expression pattern) = .ok occurs

variable [LawfulLibraries] {pattern : String} {value : Json} {answer : Bool}

theorem matches_of_test (h : test pattern value = .ok answer) :
    matchesAll pattern.toList (textOf value) = answer := by
  unfold test at h
  split at h
  · next occurs hocc =>
    rw [← compiled_occurs_in, ← LawfulLibraries.like_occurs hocc]
    exact Except.ok.inj h
  · cases h

end Like

/-! ## What predicates say -/

namespace Predicate

mutual

/-- Whether the predicate says true of the row. -/
def holds (row : Row) : Predicate → Bool
  | .compare field comparison value kind =>
    compares comparison (row.lookup field) (kind.coerce value)
  | .isNull field negated => ((row.lookup field).getD .null).isNull != negated
  | .oneOf field values kind =>
    match row.lookup field with
    | none => false
    | some stored => values.any fun value => Stored.looseEq stored (kind.coerce value)
  | .between field low high kind =>
    match row.lookup field with
    | none => false
    | some stored =>
      let above := (Stored.compare? stored (kind.coerce low)).any (· != .lt)
      let below := (Stored.compare? stored (kind.coerce high)).any (· != .gt)
      above && below
  | .like field pattern =>
    match row.lookup field with
    | none | some .null => false
    | some stored => Like.matchesAll pattern.toList (Like.textOf stored)
  | .any alternatives => holdsSome row alternatives
  | .all conditions => holdsAll row conditions

/-- Whether one of the predicates says true of the row. -/
def holdsSome (row : Row) : List Predicate → Bool
  | [] => false
  | predicate :: rest => holds row predicate || holdsSome row rest

/-- Whether all of the predicates say true of the row. -/
def holdsAll (row : Row) : List Predicate → Bool
  | [] => true
  | predicate :: rest => holds row predicate && holdsAll row rest

end

mutual

/-- The like patterns in a predicate. -/
def likePatterns : Predicate → List String
  | .like _ pattern => [pattern]
  | .any alternatives => likePatternsAll alternatives
  | .all conditions => likePatternsAll conditions
  | .compare .. | .isNull .. | .oneOf .. | .between .. => []

/-- The like patterns in predicates. -/
def likePatternsAll : List Predicate → List String
  | [] => []
  | predicate :: rest => likePatterns predicate ++ likePatternsAll rest

end

/-- All like patterns in the predicates can be compiled. -/
def Compile (predicates : List Predicate) : Prop :=
  ∀ pattern ∈ likePatternsAll predicates, Like.Compiles pattern

omit [Libraries] in
@[simp] theorem like_patterns_all_append (first second : List Predicate) :
    likePatternsAll (first ++ second) = likePatternsAll first ++ likePatternsAll second := by
  induction first with
  | nil => rfl
  | cons predicate rest ih => simp [likePatternsAll, ih]

theorem compile_append_iff {first second : List Predicate} :
    Compile (first ++ second) ↔ Compile first ∧ Compile second := by
  rw [Compile, like_patterns_all_append, List.forall_mem_append]
  rfl

omit [Libraries] in
theorem holds_any (row : Row) (alternatives : List Predicate) :
    holds row (.any alternatives) = holdsSome row alternatives := by
  simp only [holds]

omit [Libraries] in
theorem holds_all (row : Row) (conditions : List Predicate) :
    holds row (.all conditions) = holdsAll row conditions := by
  simp only [holds]

omit [Libraries] in
@[simp] theorem holds_all_append (row : Row) (first second : List Predicate) :
    holdsAll row (first ++ second) = (holdsAll row first && holdsAll row second) := by
  induction first with
  | nil => simp [holdsAll]
  | cons predicate rest ih => simp [holdsAll, ih, Bool.and_assoc]

/-! ## What tests answer -/

variable {row : Row} {predicate : Predicate} {predicates rest : List Predicate} {answer : Bool}

theorem test_some_cons : testSome row (predicate :: rest) =
    (do if ← test row predicate then .ok true else testSome row rest) := by
  rw [testSome]
  rfl

theorem test_all_cons : testAll row (predicate :: rest) =
    (do if ← test row predicate then testAll row rest else .ok false) := by
  rw [testAll]
  refine congrArg (test row predicate >>= ·) (funext fun found => ?_)
  cases found <;> rfl

/-- Conditions that are added are looked at where all of the others say true. -/
theorem test_all_append (row : Row) (first second : List Predicate) :
    testAll row (first ++ second) =
      (do if ← testAll row first then testAll row second else .ok false) := by
  induction first with
  | nil =>
      rw [List.nil_append, testAll]
      rfl
  | cons predicate rest ih =>
      rw [List.cons_append, test_all_cons, test_all_cons, ih]
      cases test row predicate with
      | error error => rfl
      | ok answer => cases answer <;> rfl

mutual

/-- What a test answers is what the predicate says. -/
theorem holds_of_test [LawfulLibraries] {row : Row} {predicate : Predicate} {answer : Bool}
    (h : test row predicate = .ok answer) : holds row predicate = answer := by
  match predicate with
  | .compare .. | .isNull .. =>
      rw [test] at h
      rw [holds]
      exact Except.ok.inj h
  | .oneOf .. | .between .. =>
      rw [test] at h
      rw [holds]
      split at h <;> next hstored => simpa only [hstored] using Except.ok.inj h
  | .like field pattern =>
      rw [test] at h
      rw [holds]
      cases hstored : row.lookup field with
      | none =>
          rw [hstored] at h
          exact Except.ok.inj h
      | some stored =>
          rw [hstored] at h
          cases stored with
          | null => exact Except.ok.inj h
          | bool | number | string | array | object => exact Like.matches_of_test h
  | .any alternatives =>
      rw [test] at h
      rw [holds]
      exact holds_of_test_some h
  | .all conditions =>
      rw [test] at h
      rw [holds]
      exact holds_of_test_all h

theorem holds_of_test_some [LawfulLibraries] {row : Row} {predicates : List Predicate}
    {answer : Bool}
    (h : testSome row predicates = .ok answer) : holdsSome row predicates = answer := by
  match predicates with
  | [] =>
      rw [testSome] at h
      exact Except.ok.inj h
  | predicate :: rest =>
      rw [test_some_cons] at h
      obtain ⟨found, hfirst, hrest⟩ := except_bind_eq_ok h
      rw [holdsSome, holds_of_test hfirst]
      cases found with
      | true => exact Except.ok.inj hrest
      | false => exact holds_of_test_some hrest

theorem holds_of_test_all [LawfulLibraries] {row : Row} {predicates : List Predicate}
    {answer : Bool}
    (h : testAll row predicates = .ok answer) : holdsAll row predicates = answer := by
  match predicates with
  | [] =>
      rw [testAll] at h
      exact Except.ok.inj h
  | predicate :: rest =>
      rw [test_all_cons] at h
      obtain ⟨found, hfirst, hrest⟩ := except_bind_eq_ok h
      rw [holdsAll, holds_of_test hfirst]
      cases found with
      | true => exact holds_of_test_all hrest
      | false => exact Except.ok.inj hrest

end

mutual

/-- A test whose like patterns can be compiled answers. -/
theorem exists_test (row : Row) {predicate : Predicate}
    (h : ∀ pattern ∈ likePatterns predicate, Like.Compiles pattern) :
    ∃ answer, test row predicate = .ok answer := by
  match predicate with
  | .compare .. | .isNull .. =>
      rw [test]
      exact ⟨_, rfl⟩
  | .oneOf .. | .between .. =>
      rw [test]
      split <;> exact ⟨_, rfl⟩
  | .like field pattern =>
      rw [test]
      split
      · exact ⟨_, rfl⟩
      · exact ⟨_, rfl⟩
      · obtain ⟨occurs, hoccurs⟩ := h pattern (by simp [likePatterns])
        exact ⟨_, by rw [Like.test, hoccurs]⟩
  | .any alternatives =>
      rw [likePatterns] at h
      rw [test]
      exact exists_test_some row h
  | .all conditions =>
      rw [likePatterns] at h
      rw [test]
      exact exists_test_all row h

theorem exists_test_some (row : Row) {predicates : List Predicate} (h : Compile predicates) :
    ∃ answer, testSome row predicates = .ok answer := by
  match predicates with
  | [] => exact ⟨false, by rw [testSome]⟩
  | predicate :: rest =>
      rw [Compile, likePatternsAll, List.forall_mem_append] at h
      obtain ⟨found, hfirst⟩ := exists_test row h.1
      rw [test_some_cons, hfirst]
      cases found with
      | true => exact ⟨true, rfl⟩
      | false => exact exists_test_some row h.2

theorem exists_test_all (row : Row) {predicates : List Predicate} (h : Compile predicates) :
    ∃ answer, testAll row predicates = .ok answer := by
  match predicates with
  | [] => exact ⟨true, by rw [testAll]⟩
  | predicate :: rest =>
      rw [Compile, likePatternsAll, List.forall_mem_append] at h
      obtain ⟨found, hfirst⟩ := exists_test row h.1
      rw [test_all_cons, hfirst]
      cases found with
      | true => exact exists_test_all row h.2
      | false => exact ⟨false, rfl⟩

end

/-- With like patterns that can be compiled a test answers what the predicate says. -/
theorem test_of_compile [LawfulLibraries]
    (h : ∀ pattern ∈ likePatterns predicate, Like.Compiles pattern) (row : Row) :
    test row predicate = .ok (holds row predicate) := by
  obtain ⟨answer, hanswer⟩ := exists_test row h
  rw [holds_of_test hanswer, hanswer]

theorem test_all_of_compile [LawfulLibraries] (h : Compile predicates) (row : Row) :
    testAll row predicates = .ok (holdsAll row predicates) := by
  obtain ⟨answer, hanswer⟩ := exists_test_all row h
  rw [holds_of_test_all hanswer, hanswer]

/-! ## Like predicates -/

section

variable {field : String} {stored : Json}

omit [Libraries] in
theorem holds_like_of_stored (pattern : String) (hfield : row.lookup field = some stored)
    (hstored : stored.isNull = false) :
    holds row (.like field pattern) = Like.matchesAll pattern.toList (Like.textOf stored) := by
  rw [holds, hfield]
  cases stored with
  | null => cases hstored
  | _ => rfl

theorem test_like_of_stored (pattern : String) (hfield : row.lookup field = some stored)
    (hstored : stored.isNull = false) :
    test row (.like field pattern) = Like.test pattern stored := by
  rw [test, hfield]
  cases stored with
  | null => cases hstored
  | _ => rfl

/-- A row satisfies a like predicate on a value that is not null exactly if the pattern yields the
text of the value without a line break for a percent sign or an underscore. These are all texts that
the pattern yields if the value is no string or its text is one line. The test of the row answers
this if the expression of the pattern can be compiled, and otherwise fails with the reason. The
expression is in the notation of expressions: the pattern that it is read as, if it is not too large
to be read, occurs in the text exactly then. -/
theorem like_holds_iff_yields [LawfulLibraries] (pattern : String)
    (hfield : row.lookup field = some stored) (hstored : stored.isNull = false) :
    (holds row (.like field pattern) = true ↔
      Like.Yields (· ≠ '\n') pattern.toList (Like.textOf stored)) ∧
    (stored.text? = none ∨ '\n' ∉ Like.textOf stored →
      (holds row (.like field pattern) = true ↔
        Like.Yields (fun _ => True) pattern.toList (Like.textOf stored))) ∧
    (Like.Compiles pattern →
      test row (.like field pattern) = .ok (holds row (.like field pattern))) ∧
    (∀ reason, Libraries.expression (Like.expression pattern) = .error reason →
      test row (.like field pattern) =
        .error (.badRequest ("invalid like pattern: " ++ reason))) ∧
    ((Pattern.read? (Like.expression pattern)).isSome = true ↔
      (Like.compiled pattern.toList).weight ≤ Pattern.maxWeight) ∧
    ∀ compiled, Pattern.read? (Like.expression pattern) = some compiled →
      compiled.occursIn (Like.textOf stored) = holds row (.like field pattern) := by
  have hanswers (h : Like.Compiles pattern) :
      test row (.like field pattern) = .ok (holds row (.like field pattern)) :=
    test_of_compile (by simpa [likePatterns] using h) row
  have hfails (reason : String)
      (h : Libraries.expression (Like.expression pattern) = .error reason) :
      test row (.like field pattern) =
        .error (.badRequest ("invalid like pattern: " ++ reason)) := by
    rw [test_like_of_stored pattern hfield hstored, Like.test, h]
  refine ⟨?_, fun hline => ?_, hanswers, hfails, ?_, ?_⟩
  · rw [holds_like_of_stored pattern hfield hstored]
    exact Like.matches_all_iff
  · rw [holds_like_of_stored pattern hfield hstored]
    exact Like.matches_all_of_one_line (hline.elim Like.text_of_one_line id)
  · rw [Like.read_expression]
    split_ifs with h <;> simp [h]
  · intro compiled hcompiled
    rw [Like.read_expression] at hcompiled
    obtain ⟨-, hcompiled⟩ := Option.ite_none_right_eq_some.mp hcompiled
    cases hcompiled
    rw [Like.compiled_occurs_in, holds_like_of_stored pattern hfield hstored]

end

end Predicate

end

/-! ## Some like predicates -/

open scoped Bundled

/-- The libraries of the project compile a pattern that is not too large. -/
theorem Like.compiles_of_weight {pattern : String}
    (h : (compiled pattern.toList).weight ≤ Pattern.maxWeight) : Compiles pattern := by
  refine ⟨(compiled pattern.toList).occursIn, ?_⟩
  simp only [Libraries.expression, Bundled.expression, read_expression, if_pos h]

namespace Predicate

/-- The brackets, the comma and the full stop of a written array stand for themselves. -/
theorem like_holds_of_pair :
    let row : Row := [("pair", .array [.number (.int 7), .string "a.b"])]
    test row (.like "pair" "[_,%.%]") = .ok true ∧
      holds row (.like "pair" "[_,%.%]") = true ∧
      Like.Yields (fun _ => True) "[_,%.%]".toList "[7,\"a.b\"]".toList ∧
      ∃ compiled, Pattern.read? (Like.expression "[_,%.%]") = some compiled ∧
        compiled.occursIn "[7,\"a.b\"]".toList = true := by
  intro row
  have hpair : row.lookup "pair" = some (.array [.number (.int 7), .string "a.b"]) := by rfl
  have hholds : holds row (.like "pair" "[_,%.%]") = true := by decide +kernel
  obtain ⟨-, hyields, hanswers, -, hread, hoccurs⟩ := like_holds_iff_yields "[_,%.%]" hpair rfl
  obtain ⟨compiled, hcompiled⟩ := Option.isSome_iff_exists.mp (hread.mpr (by decide +kernel))
  have hcompiles : Like.Compiles "[_,%.%]" := Like.compiles_of_weight (by decide +kernel)
  exact ⟨hholds ▸ hanswers hcompiles, hholds, (hyields (.inl rfl)).mp hholds, compiled, hcompiled,
    (hoccurs compiled hcompiled).trans hholds⟩

/-- A percent sign does not stand for a line break, nor does an underscore. -/
theorem line_break_not_like :
    let row : Row := [("title", .string "a\nb")]
    row.lookup "title" = some (.string "a\nb") ∧
      (Like.Yields (fun _ => True) "a%b".toList (Like.textOf (.string "a\nb")) ∧
        test row (.like "title" "a%b") = .ok false) ∧
      (Like.Yields (fun _ => True) "a_b".toList (Like.textOf (.string "a\nb")) ∧
        test row (.like "title" "a_b") = .ok false) := by
  have hfirst : Like.Stands (fun _ => True) 'a' ['a'] := .same (by decide) (by decide)
  have hlast : Like.Yields (fun _ => True) ['b'] (['b'] ++ []) :=
    .cons (.same (by decide) (by decide)) .nil
  have hrun : Like.Stands (fun _ => True) '%' ['\n'] := .run fun _ _ => trivial
  have hone : Like.Stands (fun _ => True) '_' ['\n'] := .one trivial
  have htest (pattern : String) (h : (Like.compiled pattern.toList).weight ≤ Pattern.maxWeight) :
      test [("title", .string "a\nb")] (.like "title" pattern) =
        .ok (holds [("title", .string "a\nb")] (.like "title" pattern)) :=
    test_of_compile (by simpa [likePatterns] using Like.compiles_of_weight h) _
  refine ⟨by rfl, ⟨?_, ?_⟩, ?_, ?_⟩
  · exact .cons hfirst (.cons hrun hlast)
  · rw [htest "a%b" (by decide +kernel)]
    exact congrArg Except.ok (by decide +kernel)
  · exact .cons hfirst (.cons hone hlast)
  · rw [htest "a_b" (by decide +kernel)]
    exact congrArg Except.ok (by decide +kernel)

end Predicate

end EntityGate

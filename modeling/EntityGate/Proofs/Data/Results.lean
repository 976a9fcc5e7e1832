import EntityGate.Request.RequestError

/-!
# Results

What answers and failures of a sequence of results say about its parts, and when a result that may
be aborted is an answer.
-/

namespace EntityGate

/-- A sequence that answers has a first part that answers. -/
theorem except_bind_eq_ok {ε α β : Type} {first : Except ε α} {next : α → Except ε β} {answer : β}
    (h : first >>= next = .ok answer) : ∃ value, first = .ok value ∧ next value = .ok answer := by
  cases first with
  | error error => cases h
  | ok value => exact ⟨value, rfl, h⟩

/-- A sequence answers exactly if its second part answers after the first one has. -/
theorem except_bind_is_ok_iff {ε α β : Type} {first : Except ε α} {next : α → Except ε β} :
    (∃ answer, first >>= next = .ok answer) ↔
      ∃ value, first = .ok value ∧ ∃ answer, next value = .ok answer := by
  cases first with
  | error error => exact ⟨nofun, nofun⟩
  | ok value =>
      refine ⟨fun h => ⟨value, rfl, h⟩, ?_⟩
      rintro ⟨other, hother, h⟩
      cases hother
      exact h

/-- A sequence fails as its first part does, or as its second part after the first has answered. -/
theorem except_bind_eq_error_iff {ε α β : Type} {first : Except ε α} {next : α → Except ε β}
    {error : ε} : first >>= next = .error error ↔
      first = .error error ∨ ∃ value, first = .ok value ∧ next value = .error error := by
  cases first with
  | error other =>
      refine ⟨fun h => .inl (by cases h; rfl), ?_⟩
      rintro (h | ⟨_, h, -⟩)
      · cases h
        rfl
      · cases h
  | ok value =>
      refine ⟨fun h => .inr ⟨value, rfl, h⟩, ?_⟩
      rintro (h | ⟨_, h, hnext⟩)
      · cases h
      · cases h
        exact hnext

theorem except_map_eq_ok_iff {ε α β : Type} {first : Except ε α} {f : α → β} {answer : β} :
    first.map f = .ok answer ↔ ∃ value, first = .ok value ∧ f value = answer := by
  cases first with
  | error error => exact ⟨nofun, nofun⟩
  | ok value => simp [Except.map]

theorem except_map_eq_error_iff {ε α β : Type} {first : Except ε α} {f : α → β} {error : ε} :
    first.map f = .error error ↔ first = .error error := by
  cases first with
  | error other => simp [Except.map]
  | ok value => exact ⟨nofun, nofun⟩

namespace Failure

theorem reporting_eq_ok_iff {α : Type} {result : Except RequestError α} {value : α} :
    reporting result = .ok value ↔ result = .ok value := by
  cases result with
  | error error => exact ⟨nofun, nofun⟩
  | ok other => exact ⟨fun h => congrArg Except.ok (Except.ok.inj h), fun h => by rw [h]; rfl⟩

theorem unsigned64_eq_ok_iff {value result : Nat} :
    unsigned64 value = .ok result ↔ value < 2 ^ 64 ∧ value = result := by
  unfold unsigned64
  split <;> simp [*]

theorem unsigned64_eq_error_iff {value : Nat} {failure : Failure} :
    unsigned64 value = .error failure ↔ 2 ^ 64 ≤ value ∧ failure = .aborted := by
  unfold unsigned64
  split
  · next hbound => simp [Nat.not_le.mpr hbound]
  · next hbound => simp [Nat.not_lt.mp hbound, eq_comm]

theorem signed64_eq_ok_iff {value result : Int} :
    signed64 value = .ok result ↔ (-2 ^ 63 ≤ value ∧ value < 2 ^ 63) ∧ value = result := by
  unfold signed64
  split
  · next hbounds => simp only [hbounds, and_self, Except.ok.injEq, true_and]
  · next hbounds => simp only [hbounds, reduceCtorEq, false_and]

theorem eq_aborted_of_signed64 {value : Int} {failure : Failure}
    (h : signed64 value = .error failure) : failure = .aborted := by
  unfold signed64 at h
  split at h
  · cases h
  · exact (Except.error.inj h).symm

end Failure

end EntityGate

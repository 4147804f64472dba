/-!
# Steps that may fail

What is known of a step that has succeeded, and of steps in a row.
-/

namespace JobHooks

set_option autoImplicit false

/-- Two steps in a row have succeeded only if the first one has. -/
theorem exists_of_bind_ok {ε α β : Type} {first : Except ε α} {next : α → Except ε β} {result : β}
    (succeeded : first >>= next = .ok result) :
    ∃ between, first = .ok between ∧ next between = .ok result := by
  cases first with
  | error fault => cases succeeded
  | ok between => exact ⟨between, rfl, succeeded⟩

theorem mapError_eq_ok_iff {ε ε' α : Type} {change : ε → ε'} {result : Except ε α} {value : α} :
    result.mapError change = .ok value ↔ result = .ok value := by
  cases result with
  | error fault =>
    constructor
    · intro impossible
      exact nomatch (impossible : Except.error _ = Except.ok value)
    · intro impossible
      cases impossible
  | ok other =>
    show (Except.ok other : Except ε' α) = .ok value ↔ _
    rw [Except.ok.injEq, Except.ok.injEq]

theorem exists_ok_iff_isSome {ε α : Type} {result : Except ε α} :
    (∃ value, result = .ok value) ↔ result.toOption.isSome := by
  cases result <;> simp [Except.toOption]

/-- If it does not depend on the state whether a step succeeds, all steps in a row succeed exactly
if each one does. -/
theorem exists_foldlM_iff {α β ε : Type} {step : β → α → Except ε β} {Takes : α → Prop}
    {items : List α}
    (each : ∀ item ∈ items, ∀ state, (∃ after, step state item = .ok after) ↔ Takes item)
    (state : β) :
    (∃ result, items.foldlM step state = .ok result) ↔ ∀ item ∈ items, Takes item := by
  induction items generalizing state with
  | nil => exact iff_of_true ⟨state, rfl⟩ (List.forall_mem_nil _)
  | cons item items ih =>
    obtain ⟨own, others⟩ := List.forall_mem_cons.mp each
    rw [List.forall_mem_cons, ← own state]
    constructor
    · rintro ⟨result, read⟩
      obtain ⟨after, first, rest⟩ := exists_of_bind_ok read
      exact ⟨⟨after, first⟩, (ih others after).mp ⟨result, rest⟩⟩
    · rintro ⟨⟨after, first⟩, rest⟩
      rw [List.foldlM_cons, first]
      exact (ih others after).mpr rest

end JobHooks

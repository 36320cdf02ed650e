import Mathlib.Data.List.Basic
import Mathlib.Data.List.Induction

/-!
# The last value wins

A list in which some elements have a value: the value of the last such element,
or a default if there is none.
-/

namespace Libssc.Library

variable {α β : Type*}

/-- `x` is the value of the last element of the list that has one, or `old` if
none has. `valid b y` says that `b` has the value `y`. -/
def LastWins (valid : β → α → Prop) (l : List β) (old x : α) : Prop :=
  (∃ pre b post, l = pre ++ b :: post ∧ valid b x ∧
      ∀ c ∈ post, ∀ y, ¬ valid c y) ∨
    (∀ c ∈ l, ∀ y, ¬ valid c y) ∧ x = old

/-- Collecting the values that there are and taking the last one. -/
theorem lastWins_getLast? {valid : β → α → Prop} {v : β → Option α}
    (hv : ∀ b y, v b = some y ↔ valid b y) (l : List β) (old : α) :
    LastWins valid l old ((l.filterMap v).getLast?.getD old) := by
  induction l using List.reverseRecOn with
  | nil => exact Or.inr ⟨by simp, rfl⟩
  | append_singleton l b ih =>
      cases hb : v b with
      | some y =>
          refine Or.inl ⟨l, b, [], rfl, (hv b _).mp ?_, by simp⟩
          simp [hb]
      | none =>
          have hnone : ∀ y, ¬ valid b y := by
            intro y hy
            rw [(hv b y).mpr hy] at hb
            exact absurd hb (by simp)
          have hsame : (l ++ [b]).filterMap v = l.filterMap v := by
            simp [hb]
          rw [hsame]
          rcases ih with ⟨pre, c, post, hl, hc, hpost⟩ | ⟨hall, heq⟩
          · refine Or.inl ⟨pre, c, post ++ [b], ?_, hc, ?_⟩
            · rw [hl, List.append_assoc, List.cons_append]
            · exact List.forall_mem_append.mpr
                ⟨hpost, List.forall_mem_singleton.mpr hnone⟩
          · exact Or.inr ⟨List.forall_mem_append.mpr
              ⟨hall, List.forall_mem_singleton.mpr hnone⟩, heq⟩

end Libssc.Library

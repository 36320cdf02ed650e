import Mathlib.Data.List.Destutter

/-!
# Repetitions that arrive one by one

`List.destutter (· ≠ ·)` removes the consecutive repetitions of a list. Here it
meets a list that grows at its end: a new element is kept unless it equals the
last one before it, so whoever remembers that one can remove the repetitions as
they come.
-/

namespace Libssc.Library

variable {α : Type*} [DecidableEq α]

theorem destutter'_concat (a b : α) (l : List α) :
    (l ++ [b]).destutter' (· ≠ ·) a =
      l.destutter' (· ≠ ·) a ++
        if (a :: l).getLast? = some b then [] else [b] := by
  induction l generalizing a with
  | nil =>
      by_cases h : a = b
      · simp [h]
      · simp [h]
  | cons x l ih =>
      rw [List.cons_append, List.destutter'_cons, List.destutter'_cons,
        List.getLast?_cons_cons]
      by_cases h : a = x
      · subst h
        rw [if_neg (not_not_intro rfl), if_neg (not_not_intro rfl), ih]
      · rw [if_pos h, if_pos h, ih, List.cons_append]

/-- **A new element is kept unless it repeats the last one.** -/
theorem destutter_concat (l : List α) (b : α) :
    (l ++ [b]).destutter (· ≠ ·) =
      l.destutter (· ≠ ·) ++ if l.getLast? = some b then [] else [b] := by
  cases l with
  | nil => simp
  | cons a l =>
      rw [List.cons_append, List.destutter_cons', List.destutter_cons']
      exact destutter'_concat a b l

theorem head?_destutter' (a : α) (l : List α) :
    (l.destutter' (· ≠ ·) a).head? = some a := by
  induction l generalizing a with
  | nil => rfl
  | cons x l ih =>
      rw [List.destutter'_cons]
      split
      · rfl
      · exact ih a

/-- The first element is never a repetition. -/
theorem head?_destutter (l : List α) :
    (l.destutter (· ≠ ·)).head? = l.head? := by
  cases l with
  | nil => rfl
  | cons a l => exact head?_destutter' a l

end Libssc.Library

import Mathlib.Algebra.BigOperators.Group.List.Basic
import Mathlib.Algebra.Ring.Nat
import Mathlib.Data.List.Induction

/-!
# A search that walks from record to record

Records lie one after the other in a space of `n` positions, and the record at a
position says how long it is. A search starts at position 0, returns the first
position at which a condition holds, and otherwise goes on by the length of the
record. Nothing keeps the lengths from leading past the end.

The search takes fuel, and `none` means that it has run out. Where no record is
empty it needs at most one unit more than there are positions
(`walk_isSome`). It returns a position that it reaches, and any such position
with the condition is the one it returns (`walk_eq_some_iff`). Over records whose
lengths are known it finds the first one with the condition (`Laid.walk_found`).
-/

namespace Libssc.Library

/-- The search, from position `o` on. -/
def walk (size : ℕ → ℕ) (p : ℕ → Bool) (n : ℕ) : ℕ → ℕ → Option (Option ℕ)
  | 0, _ => none
  | fuel + 1, o =>
      if o < n then
        if p o then some (some o) else walk size p n fuel (o + size o)
      else some none

/-- The positions that the search looks at: the lengths lead to them, past records
without the condition. -/
inductive Reached (size : ℕ → ℕ) (p : ℕ → Bool) (n : ℕ) : ℕ → Prop where
  | start : Reached size p n 0
  | next {o : ℕ} (h : Reached size p n o) (ho : o < n) (hp : p o = false) :
      Reached size p n (o + size o)

variable {size : ℕ → ℕ} {p : ℕ → Bool} {n fuel o : ℕ}

/-- The search ends. -/
theorem walk_isSome (hsize : ∀ o, 0 < size o) (hfuel : n - o < fuel) :
    (walk size p n fuel o).isSome = true := by
  induction fuel generalizing o with
  | zero => exact absurd hfuel (Nat.not_lt_zero _)
  | succ fuel ih =>
      unfold walk
      split_ifs with ho hp
      · rfl
      · apply ih
        have := hsize o
        omega
      · rfl

/-- More fuel changes nothing. -/
theorem walk_of_le {r : Option ℕ} {fuel' : ℕ} (hle : fuel ≤ fuel')
    (h : walk size p n fuel o = some r) : walk size p n fuel' o = some r := by
  induction fuel generalizing o fuel' with
  | zero => exact absurd h (by simp [walk])
  | succ fuel ih =>
      obtain ⟨k, rfl⟩ : ∃ k, fuel' = k + 1 := ⟨fuel' - 1, by omega⟩
      unfold walk at h ⊢
      split_ifs at h ⊢ with ho hp
      · exact h
      · exact ih (Nat.le_of_succ_le_succ hle) h
      · exact h

/-- What the search returns it has reached. -/
theorem reached_of_walk {r : Option ℕ} (h : Reached size p n o)
    (hw : walk size p n fuel o = some r) :
    (∀ i, r = some i → Reached size p n i ∧ i < n ∧ p i = true) ∧
      (r = none → ∃ i, Reached size p n i ∧ n ≤ i) := by
  induction fuel generalizing o with
  | zero => exact absurd hw (by simp [walk])
  | succ fuel ih =>
      unfold walk at hw
      split_ifs at hw with ho hp
      · obtain rfl := Option.some.inj hw
        refine ⟨?_, by simp⟩
        rintro i hi
        obtain rfl := Option.some.inj hi
        exact ⟨h, ho, hp⟩
      · exact ih (h.next ho (by simpa using hp)) hw
      · obtain rfl := Option.some.inj hw
        exact ⟨by simp, fun _ => ⟨o, h, Nat.le_of_not_lt ho⟩⟩

/-- Whatever the condition is, the lengths lead there. -/
theorem Reached.visited (h : Reached size p n o) :
    Reached size (fun _ => false) n o := by
  induction h with
  | start => exact .start
  | next _ ho _ ih => exact ih.next ho rfl

/-- On its way the search passes every position that is reached. -/
theorem walk_of_reached (hsize : ∀ o, 0 < size o) (hfuel : n < fuel)
    (h : Reached size p n o) : ∃ fuel', n - o < fuel' ∧
      walk size p n fuel 0 = walk size p n fuel' o := by
  induction h with
  | start => exact ⟨fuel, hfuel, rfl⟩
  | @next o _ ho hp ih =>
      obtain ⟨fuel', hlt, heq⟩ := ih
      obtain ⟨k, rfl⟩ : ∃ k, fuel' = k + 1 := ⟨fuel' - 1, by omega⟩
      refine ⟨k, ?_, ?_⟩
      · have := hsize o
        omega
      · rw [heq, walk, if_pos ho, hp]
        rfl

/-- **The search returns the first position with the condition.** -/
theorem walk_eq_some_iff (hsize : ∀ o, 0 < size o) (hfuel : n < fuel) {i : ℕ} :
    walk size p n fuel 0 = some (some i) ↔
      Reached size p n i ∧ i < n ∧ p i = true := by
  constructor
  · intro h
    exact (reached_of_walk .start h).1 i rfl
  · rintro ⟨hreached, hi, hp⟩
    obtain ⟨fuel', hlt, heq⟩ := walk_of_reached hsize hfuel hreached
    obtain ⟨k, rfl⟩ : ∃ k, fuel' = k + 1 := ⟨fuel' - 1, by omega⟩
    rw [heq, walk, if_pos hi, if_pos hp]

/-- It finds nothing if it gets to the end. -/
theorem walk_eq_none_iff (hsize : ∀ o, 0 < size o) (hfuel : n < fuel) :
    walk size p n fuel 0 = some none ↔ ∃ i, Reached size p n i ∧ n ≤ i := by
  constructor
  · intro h
    exact (reached_of_walk .start h).2 rfl
  · rintro ⟨i, hreached, hi⟩
    obtain ⟨fuel', hlt, heq⟩ := walk_of_reached hsize hfuel hreached
    obtain ⟨k, rfl⟩ : ∃ k, fuel' = k + 1 := ⟨fuel' - 1, by omega⟩
    rw [heq, walk, if_neg (Nat.not_lt.mpr hi)]

/-! ## Records of known lengths -/

section Records

variable {ρ : Type*} {len : ρ → ℕ} {q : ρ → Bool} {rs : List ρ}

/-- The records `rs` fill the space, and `q` tells which of them have the
condition. -/
structure Laid (size : ℕ → ℕ) (p : ℕ → Bool) (n : ℕ) (len : ρ → ℕ) (q : ρ → Bool)
    (rs : List ρ) : Prop where
  total : (rs.map len).sum = n
  size : ∀ pre r post, rs = pre ++ r :: post → size (pre.map len).sum = len r
  holds : ∀ pre r post, rs = pre ++ r :: post → p (pre.map len).sum = q r
  pos : ∀ r ∈ rs, 0 < len r

/-- A record starts before the end. -/
theorem Laid.lt (h : Laid size p n len q rs) {pre post : List ρ} {r : ρ}
    (hrs : rs = pre ++ r :: post) : (pre.map len).sum < n := by
  have hpos := h.pos r (by rw [hrs]; simp)
  rw [← h.total, hrs, List.map_append, List.sum_append, List.map_cons,
    List.sum_cons]
  omega

/-- The search gets past records without the condition. -/
theorem Laid.reached (h : Laid size p n len q rs) {pre post : List ρ}
    (hrs : rs = pre ++ post) (hpre : ∀ r ∈ pre, q r = false) :
    Reached size p n (pre.map len).sum := by
  induction pre using List.reverseRecOn generalizing post with
  | nil => exact .start
  | append_singleton pre r ih =>
      have hsplit : rs = pre ++ r :: post := by
        rw [hrs, List.append_assoc, List.singleton_append]
      have hr : q r = false := hpre r (by simp)
      have hbefore := ih hsplit fun u hu => hpre u (List.mem_append_left _ hu)
      have hnext := hbefore.next (h.lt hsplit) ((h.holds pre r post hsplit).trans hr)
      rw [h.size pre r post hsplit] at hnext
      rw [List.map_append, List.sum_append, List.map_singleton, List.sum_singleton]
      exact hnext

/-- And to nothing but the records and the end. -/
theorem Laid.split_of_reached (h : Laid size p n len q rs) {p' : ℕ → Bool}
    (hr : Reached size p' n o) :
    ∃ pre post, rs = pre ++ post ∧ (pre.map len).sum = o := by
  induction hr with
  | start => exact ⟨[], rs, rfl, rfl⟩
  | next _ ho _ ih =>
      obtain ⟨pre, post, hrs, rfl⟩ := ih
      cases post with
      | nil =>
          rw [List.append_nil] at hrs
          rw [← hrs, h.total] at ho
          exact absurd ho (Nat.lt_irrefl n)
      | cons r post =>
          refine ⟨pre ++ [r], post, ?_, ?_⟩
          · rw [hrs, List.append_assoc, List.singleton_append]
          · rw [h.size pre r post hrs, List.map_append, List.sum_append,
              List.map_singleton, List.sum_singleton]

/-- **Over records the search finds the first one with the condition.** -/
theorem Laid.walk_found (h : Laid size p n len q rs) (hsize : ∀ o, 0 < size o)
    (hfuel : n < fuel) {pre post : List ρ} {r : ρ} (hrs : rs = pre ++ r :: post)
    (hpre : ∀ u ∈ pre, q u = false) (hr : q r = true) :
    walk size p n fuel 0 = some (some (pre.map len).sum) :=
  (walk_eq_some_iff hsize hfuel).mpr
    ⟨h.reached hrs hpre, h.lt hrs, (h.holds pre r post hrs).trans hr⟩

/-- Without such a record it finds nothing. -/
theorem Laid.walk_missing (h : Laid size p n len q rs) (hsize : ∀ o, 0 < size o)
    (hfuel : n < fuel) (hrs : ∀ u ∈ rs, q u = false) :
    walk size p n fuel 0 = some none := by
  apply (walk_eq_none_iff hsize hfuel).mpr
  exact ⟨_, h.reached (List.append_nil rs).symm hrs, Nat.le_of_eq h.total.symm⟩

end Records

end Libssc.Library

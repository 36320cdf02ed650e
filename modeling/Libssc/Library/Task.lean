import Mathlib.Data.List.Basic

/-!
# Tables of asynchronous tasks

Tasks are numbered in order of creation. Each has a kind, fixed when it is
created, and the list of the results it has been completed with. The table does
not forbid a second completion: that a task is completed at most once is for the
program using the table to guarantee, and for its proof to show.
-/

namespace Libssc.Library

/-- A task of kind `kind` and the results it has been given so far. -/
structure Task (K R : Type*) where
  kind : K
  returns : List R

/-- All tasks created so far; a task's number is its position. -/
structure Tasks (K R : Type*) where
  list : List (Task K R)

namespace Tasks

variable {K R : Type*}

def empty : Tasks K R := ⟨[]⟩

/-- The number the next task will get. -/
def size (ts : Tasks K R) : ℕ := ts.list.length

def find (ts : Tasks K R) (t : ℕ) : Option (Task K R) := ts.list[t]?

def create (ts : Tasks K R) (k : K) : Tasks K R := ⟨ts.list ++ [⟨k, []⟩]⟩

/-- Record that task `t` has been completed with `r`. -/
def complete (ts : Tasks K R) (t : ℕ) (r : R) : Tasks K R :=
  ⟨ts.list.modify t (fun task => { task with returns := task.returns ++ [r] })⟩

/-- The results task `t` has been given, oldest first. -/
def returns (ts : Tasks K R) (t : ℕ) : List R :=
  ((ts.find t).map Task.returns).getD []

/-- The kind task `t` was created with, if it exists. -/
def kind? (ts : Tasks K R) (t : ℕ) : Option K := (ts.find t).map Task.kind

/-- Task `t` exists and has not been completed. -/
def pending (ts : Tasks K R) (t : ℕ) : Bool :=
  ((ts.find t).map (fun task => task.returns.isEmpty)).getD false

@[simp] theorem size_empty : (empty : Tasks K R).size = 0 := rfl

@[simp] theorem size_create (ts : Tasks K R) (k : K) :
    (ts.create k).size = ts.size + 1 := by
  simp [size, create]

@[simp] theorem size_complete (ts : Tasks K R) (t : ℕ) (r : R) :
    (ts.complete t r).size = ts.size := by
  simp [size, complete]

theorem find_eq_none {ts : Tasks K R} {t : ℕ} :
    ts.find t = none ↔ ts.size ≤ t := by
  simp [find, size]

theorem lt_size_of_find {ts : Tasks K R} {t : ℕ} {task : Task K R}
    (h : ts.find t = some task) : t < ts.size := by
  by_contra hlt
  rw [find_eq_none.mpr (Nat.le_of_not_lt hlt)] at h
  exact absurd h (by simp)

theorem find_create (ts : Tasks K R) (k : K) (t : ℕ) :
    (ts.create k).find t = if t = ts.size then some ⟨k, []⟩ else ts.find t := by
  unfold find create size
  rcases Nat.lt_trichotomy t ts.list.length with h | h | h
  · rw [if_neg (Nat.ne_of_lt h)]
    simp [List.getElem?_append_left h]
  · subst h
    simp
  · rw [if_neg (Nat.ne_of_gt h), List.getElem?_eq_none (Nat.le_of_lt h),
      List.getElem?_eq_none]
    simpa using Nat.succ_le_of_lt h

theorem find_complete (ts : Tasks K R) (t u : ℕ) (r : R) :
    (ts.complete t r).find u =
      if u = t then
        (ts.find t).map (fun task => { task with returns := task.returns ++ [r] })
      else ts.find u := by
  unfold find complete
  rw [List.getElem?_modify]
  by_cases h : u = t
  · subst h
    simp
  · rw [if_neg h]
    simp [Ne.symm h]

theorem returns_create (ts : Tasks K R) (k : K) (t : ℕ) :
    (ts.create k).returns t = ts.returns t := by
  unfold returns
  rw [find_create]
  by_cases h : t = ts.size
  · rw [if_pos h, find_eq_none.mpr (Nat.le_of_eq h.symm)]
    rfl
  · rw [if_neg h]

theorem returns_eq_nil_of_size_le {ts : Tasks K R} {t : ℕ}
    (h : ts.size ≤ t) : ts.returns t = [] := by
  simp [returns, find_eq_none.mpr h]

theorem returns_complete_self {ts : Tasks K R} {t : ℕ} {r : R}
    (h : t < ts.size) :
    (ts.complete t r).returns t = ts.returns t ++ [r] := by
  unfold returns
  rw [find_complete, if_pos rfl]
  cases hf : ts.find t with
  | none => exact absurd (find_eq_none.mp hf) (Nat.not_le_of_lt h)
  | some task => rfl

theorem returns_complete_ne {ts : Tasks K R} {t u : ℕ} {r : R} (h : u ≠ t) :
    (ts.complete t r).returns u = ts.returns u := by
  unfold returns
  rw [find_complete, if_neg h]

/-- Completing a task never takes a result away from any task. -/
theorem mem_returns_complete {ts : Tasks K R} {t u : ℕ} {r c : R}
    (h : c ∈ ts.returns u) : c ∈ (ts.complete t r).returns u := by
  by_cases hu : u = t
  · subst hu
    have hlt : u < ts.size := by
      by_contra hlt
      rw [returns_eq_nil_of_size_le (Nat.le_of_not_lt hlt)] at h
      exact absurd h (by simp)
    rw [returns_complete_self hlt]
    exact List.mem_append_left _ h
  · rw [returns_complete_ne hu]
    exact h

theorem pending_iff {ts : Tasks K R} {t : ℕ} :
    ts.pending t = true ↔ t < ts.size ∧ ts.returns t = [] := by
  unfold pending returns
  cases hf : ts.find t with
  | none =>
      have := find_eq_none.mp hf
      simp
      omega
  | some task =>
      have := lt_size_of_find hf
      simp [this]

theorem pending_create_self (ts : Tasks K R) (k : K) :
    (ts.create k).pending ts.size = true := by
  rw [pending_iff, returns_create, returns_eq_nil_of_size_le (Nat.le_refl _)]
  simp

theorem pending_create {ts : Tasks K R} {k : K} {t : ℕ} :
    (ts.create k).pending t = true ↔ t = ts.size ∨ ts.pending t = true := by
  rw [pending_iff, pending_iff, returns_create, size_create]
  constructor
  · rintro ⟨hlt, hret⟩
    rcases Nat.lt_succ_iff_lt_or_eq.mp hlt with h | h
    · exact Or.inr ⟨h, hret⟩
    · exact Or.inl h
  · rintro (rfl | ⟨hlt, hret⟩)
    · exact ⟨Nat.lt_succ_self _, returns_eq_nil_of_size_le (Nat.le_refl _)⟩
    · exact ⟨Nat.lt_succ_of_lt hlt, hret⟩

theorem pending_complete {ts : Tasks K R} {t u : ℕ} {r : R} :
    (ts.complete t r).pending u = true ↔ u ≠ t ∧ ts.pending u = true := by
  rw [pending_iff, pending_iff, size_complete]
  by_cases h : u = t
  · subst h
    constructor
    · rintro ⟨hlt, hret⟩
      rw [returns_complete_self hlt] at hret
      simp at hret
    · rintro ⟨hne, -⟩
      exact absurd rfl hne
  · rw [returns_complete_ne h]
    simp [h]

theorem kind?_empty (t : ℕ) : (empty : Tasks K R).kind? t = none := by
  simp [kind?, find, empty]

theorem kind?_create (ts : Tasks K R) (k : K) (t : ℕ) :
    (ts.create k).kind? t = if t = ts.size then some k else ts.kind? t := by
  unfold kind?
  rw [find_create]
  split <;> rfl

/-- Completing a task changes no task's kind. -/
@[simp] theorem kind?_complete (ts : Tasks K R) (t u : ℕ) (r : R) :
    (ts.complete t r).kind? u = ts.kind? u := by
  unfold kind?
  rw [find_complete]
  split
  · rename_i h
    subst h
    cases ts.find u <;> rfl
  · rfl

theorem kind?_of_find {ts : Tasks K R} {t : ℕ} {task : Task K R}
    (h : ts.find t = some task) : ts.kind? t = some task.kind := by
  simp [kind?, h]

theorem lt_size_of_kind? {ts : Tasks K R} {t : ℕ} {k : K}
    (h : ts.kind? t = some k) : t < ts.size := by
  obtain ⟨task, hf, -⟩ := Option.map_eq_some_iff.mp h
  exact lt_size_of_find hf

/-! ## Growth -/

/-- Tables only grow: `ts'` has the tasks of `ts` and perhaps more, every task
keeps its kind and its results, and the new results satisfy `P`. -/
structure Grows (P : R → Prop) (ts ts' : Tasks K R) : Prop where
  kind : ∀ t task, ts.find t = some task →
    ∃ task', ts'.find t = some task' ∧ task'.kind = task.kind
  returns : ∀ t, ∃ l, ts'.returns t = ts.returns t ++ l ∧ ∀ r ∈ l, P r

theorem Grows.refl (P : R → Prop) (ts : Tasks K R) : Grows P ts ts where
  kind := fun _ task h => ⟨task, h, rfl⟩
  returns := fun _ => ⟨[], by simp, by simp⟩

theorem Grows.trans {P : R → Prop} {ts ts' ts'' : Tasks K R}
    (h : Grows P ts ts') (h' : Grows P ts' ts'') : Grows P ts ts'' where
  kind := by
    intro t task ht
    obtain ⟨task', ht', hk⟩ := h.kind t task ht
    obtain ⟨task'', ht'', hk'⟩ := h'.kind t task' ht'
    exact ⟨task'', ht'', hk'.trans hk⟩
  returns := by
    intro t
    obtain ⟨l, hl, hP⟩ := h.returns t
    obtain ⟨l', hl', hP'⟩ := h'.returns t
    refine ⟨l ++ l', by rw [hl', hl, List.append_assoc], ?_⟩
    intro r hr
    rcases List.mem_append.mp hr with hr | hr
    · exact hP r hr
    · exact hP' r hr

theorem grows_create (P : R → Prop) (ts : Tasks K R) (k : K) :
    Grows P ts (ts.create k) where
  kind := by
    intro t task ht
    refine ⟨task, ?_, rfl⟩
    rw [find_create, if_neg (Nat.ne_of_lt (lt_size_of_find ht))]
    exact ht
  returns := fun t => ⟨[], by simp [returns_create], by simp⟩

theorem grows_complete {P : R → Prop} (ts : Tasks K R) (t : ℕ) {r : R}
    (hr : P r) : Grows P ts (ts.complete t r) where
  kind := by
    intro u task hu
    rw [find_complete]
    by_cases h : u = t
    · subst h
      rw [if_pos rfl, hu]
      exact ⟨_, rfl, rfl⟩
    · rw [if_neg h]
      exact ⟨task, hu, rfl⟩
  returns := by
    intro u
    by_cases h : u = t
    · subst h
      by_cases hlt : u < ts.size
      · exact ⟨[r], returns_complete_self hlt, by simpa using hr⟩
      · refine ⟨[], ?_, by simp⟩
        rw [returns_eq_nil_of_size_le (by simpa using Nat.le_of_not_lt hlt),
          returns_eq_nil_of_size_le (Nat.le_of_not_lt hlt)]
        rfl
    · exact ⟨[], by rw [returns_complete_ne h, List.append_nil], by simp⟩

theorem Grows.mem {P : R → Prop} {ts ts' : Tasks K R} (h : Grows P ts ts')
    {t : ℕ} {r : R} (hr : r ∈ ts.returns t) : r ∈ ts'.returns t := by
  obtain ⟨l, hl, -⟩ := h.returns t
  rw [hl]
  exact List.mem_append_left _ hr

/-- A property of all results that the new ones have is kept. -/
theorem Grows.forall {P : R → Prop} {ts ts' : Tasks K R} (h : Grows P ts ts')
    (hP : ∀ t, ∀ r ∈ ts.returns t, P r) : ∀ t, ∀ r ∈ ts'.returns t, P r := by
  intro t r hr
  obtain ⟨l, hl, hPl⟩ := h.returns t
  rw [hl] at hr
  rcases List.mem_append.mp hr with hr | hr
  · exact hP t r hr
  · exact hPl r hr

theorem Grows.size_le {P : R → Prop} {ts ts' : Tasks K R} (h : Grows P ts ts') :
    ts.size ≤ ts'.size := by
  by_contra hlt
  have hpos : ts'.size < ts.size := Nat.lt_of_not_le hlt
  cases hf : ts.find ts'.size with
  | none => exact absurd (find_eq_none.mp hf) (Nat.not_le_of_lt hpos)
  | some task =>
      obtain ⟨task', hf', -⟩ := h.kind _ task hf
      exact absurd (lt_size_of_find hf') (Nat.lt_irrefl _)

end Tasks

end Libssc.Library

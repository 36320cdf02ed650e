import Mathlib.Data.List.Basic
import Mathlib.Data.List.Induction
import Mathlib.Data.List.Infix

/-!
# Runs of an event machine

A machine is a function `step : S → A → Option S`: the state after an event,
or `none` when the event cannot happen in that state. A run is the list of its
events, and its `trace` lists the states they happen in as well. Two notions are
evaluated along a run: `Always`, a property of every state the run passes
through, and `StepsMeet`, a condition on every event, judged in the state before
it. Both see the events that came before, so that a property may speak about the
past without history fields in the state.

The rules at the end are the only inductions over runs: an invariant that the
steps of a run preserve holds throughout it (`always_of_stepsMeet`); two
conditions agree on a run if they agree wherever an invariant holds that one of
them preserves (`stepsMeet_iff`); a condition whose violation breaks a property
of the event, or of the very next state, is exact for it
(`always_and_stepsMeet_iff`, `always_iff_stepsMeet`); and a bound that every
step lowers bounds the length of the run (`exec_length_le`).
-/

namespace Libssc.Library

variable {S A : Type*} {step : S → A → Option S}

/-! ## Executions -/

/-- The state after the events of `as`, in order. -/
def exec (step : S → A → Option S) : S → List A → Option S
  | s, [] => some s
  | s, a :: as =>
      match step s a with
      | none => none
      | some s' => exec step s' as

@[simp] theorem exec_nil (s : S) : exec step s [] = some s := rfl

theorem exec_cons {s : S} {a : A} {as : List A} {s'' : S} :
    exec step s (a :: as) = some s'' ↔
      ∃ s', step s a = some s' ∧ exec step s' as = some s'' := by
  cases h : step s a with
  | none => simp [exec, h]
  | some s' => simp [exec, h]

theorem exec_append {as bs : List A} : ∀ {s s'' : S},
    exec step s (as ++ bs) = some s'' ↔
      ∃ s', exec step s as = some s' ∧ exec step s' bs = some s'' := by
  induction as with
  | nil => simp
  | cons a as ih =>
      intro s s''
      rw [List.cons_append, exec_cons]
      constructor
      · rintro ⟨s', hs, h⟩
        obtain ⟨t, ht, hb⟩ := ih.mp h
        exact ⟨t, exec_cons.mpr ⟨s', hs, ht⟩, hb⟩
      · rintro ⟨t, ht, hb⟩
        obtain ⟨s', hs, h⟩ := exec_cons.mp ht
        exact ⟨s', hs, ih.mpr ⟨t, h, hb⟩⟩

theorem exec_snoc {as : List A} {a : A} {s s'' : S} :
    exec step s (as ++ [a]) = some s'' ↔
      ∃ s', exec step s as = some s' ∧ step s' a = some s'' := by
  rw [exec_append]
  simp [exec_cons]

/-- A run that can be executed can be stopped after any of its prefixes. -/
theorem exec_prefix {pre as : List A} {s s'' : S} (hpre : pre <+: as)
    (h : exec step s as = some s'') : ∃ s', exec step s pre = some s' := by
  obtain ⟨post, rfl⟩ := hpre
  obtain ⟨s', hs, -⟩ := exec_append.mp h
  exact ⟨s', hs⟩

/-- The events of a run, each with the state it happens in. -/
def trace (step : S → A → Option S) : S → List A → List (S × A)
  | _, [] => []
  | s, a :: as =>
      (s, a) ::
        match step s a with
        | none => []
        | some s' => trace step s' as

@[simp] theorem trace_nil (s : S) : trace step s [] = [] := rfl

theorem trace_append {as bs : List A} {s s' : S}
    (h : exec step s as = some s') :
    trace step s (as ++ bs) = trace step s as ++ trace step s' bs := by
  induction as generalizing s with
  | nil =>
      obtain rfl : s = s' := by simpa using h
      rfl
  | cons a as ih =>
      obtain ⟨t, ht, hrun⟩ := exec_cons.mp h
      simp only [List.cons_append, trace, ht]
      rw [ih hrun]

theorem trace_snoc {as : List A} {a : A} {s s' : S}
    (h : exec step s as = some s') :
    trace step s (as ++ [a]) = trace step s as ++ [(s', a)] := by
  rw [trace_append h]
  cases hstep : step s' a <;> simp [trace, hstep]

/-! ## Properties along a run -/

/-- `P` holds in every state of the run, given the events so far. -/
def Always (step : S → A → Option S) (s₀ : S) (P : List A → S → Prop)
    (as : List A) : Prop :=
  ∀ pre, pre <+: as → ∀ s, exec step s₀ pre = some s → P pre s

/-- Every event of the run meets `C` in the state before it. -/
def StepsMeet (step : S → A → Option S) (s₀ : S)
    (C : List A → S → A → Prop) (as : List A) : Prop :=
  ∀ pre a, pre ++ [a] <+: as → ∀ s, exec step s₀ pre = some s → C pre s a

theorem Always.mono {P Q : List A → S → Prop} {s₀ : S} {as : List A}
    (h : Always step s₀ P as) (hPQ : ∀ pre s, P pre s → Q pre s) :
    Always step s₀ Q as :=
  fun pre hpre s hs => hPQ pre s (h pre hpre s hs)

theorem Always.last {P : List A → S → Prop} {s₀ s : S} {as : List A}
    (h : Always step s₀ P as) (hs : exec step s₀ as = some s) : P as s :=
  h as List.prefix_rfl s hs

theorem StepsMeet.mono {C D : List A → S → A → Prop} {s₀ : S} {as : List A}
    (h : StepsMeet step s₀ C as) (hCD : ∀ pre s a, C pre s a → D pre s a) :
    StepsMeet step s₀ D as :=
  fun pre a hpre s hs => hCD pre s a (h pre a hpre s hs)

theorem StepsMeet.of_prefix {C : List A → S → A → Prop} {s₀ : S}
    {pre as : List A} (h : StepsMeet step s₀ C as) (hpre : pre <+: as) :
    StepsMeet step s₀ C pre :=
  fun p a hp s hs => h p a (hp.trans hpre) s hs

theorem StepsMeet.and {C D : List A → S → A → Prop} {s₀ : S} {as : List A}
    (hC : StepsMeet step s₀ C as) (hD : StepsMeet step s₀ D as) :
    StepsMeet step s₀ (fun pre s a => C pre s a ∧ D pre s a) as :=
  fun pre a hpre s hs => ⟨hC pre a hpre s hs, hD pre a hpre s hs⟩

theorem StepsMeet.nil {C : List A → S → A → Prop} {s₀ : S} :
    StepsMeet step s₀ C [] := by
  intro pre a hpre
  exact absurd hpre (by simp)

theorem StepsMeet.snoc {C : List A → S → A → Prop} {s₀ : S} {as : List A} {a : A}
    (h : StepsMeet step s₀ C as)
    (ha : ∀ s, exec step s₀ as = some s → C as s a) :
    StepsMeet step s₀ C (as ++ [a]) := by
  intro pre b hpre s hs
  rcases List.prefix_concat_iff.mp hpre with heq | hlt
  · obtain ⟨rfl, hb⟩ := List.append_inj' heq rfl
    obtain rfl : b = a := by simpa using hb
    exact ha s hs
  · exact h pre b hlt s hs

/-- A property that can be computed is checked on a run by computing it after
each of its prefixes. -/
theorem always_of_inits {P : S → Prop} {p : S → Bool} {s₀ : S} {as : List A}
    (hp : ∀ s, p s = true → P s)
    (h : as.inits.all (fun pre => (exec step s₀ pre).all p) = true) :
    Always step s₀ (fun _ s => P s) as := by
  intro pre hpre s hs
  have hpre' := List.all_eq_true.mp h pre ((List.mem_inits pre as).mpr hpre)
  rw [hs] at hpre'
  exact hp s hpre'

/-- A condition that can be computed is checked on a run by computing it along
the trace. -/
theorem stepsMeet_of_trace {C : S → A → Prop} {c : S × A → Bool} {s₀ : S}
    {as : List A} (hc : ∀ s a, c (s, a) = true → C s a)
    (h : (trace step s₀ as).all c = true) :
    StepsMeet step s₀ (fun _ s a => C s a) as := by
  rintro pre a ⟨post, rfl⟩ s hs
  apply hc
  apply List.all_eq_true.mp h
  rw [List.append_assoc, trace_append hs]
  exact List.mem_append_right _ List.mem_cons_self

/-! ## Rules -/

/-- An invariant that holds at the start and that every step meeting `C`
preserves holds in every state of a run whose steps all meet `C`. -/
theorem always_of_stepsMeet {C : List A → S → A → Prop}
    {I : List A → S → Prop} {s₀ : S} {as : List A} (hinit : I [] s₀)
    (hstep : ∀ pre s a s', I pre s → C pre s a → step s a = some s' →
      I (pre ++ [a]) s')
    (h : StepsMeet step s₀ C as) : Always step s₀ I as := by
  intro pre
  induction pre using List.reverseRecOn with
  | nil =>
      intro _ s hs
      obtain rfl : s₀ = s := by simpa using hs
      exact hinit
  | append_singleton pre a ih =>
      intro hpre s' hs'
      obtain ⟨s, hs, hsa⟩ := exec_snoc.mp hs'
      have hpre' : pre <+: as := (List.prefix_append pre [a]).trans hpre
      exact hstep pre s a s' (ih hpre' s hs) (h pre a hpre s hs) hsa

/-- The condition `C` is exact for the condition `D` on the runs within `Scope`:
the invariant survives every step meeting `C`, and where it holds the two
conditions agree. -/
theorem stepsMeet_iff {Scope C D : List A → S → A → Prop}
    {I : List A → S → Prop} {s₀ s : S} {as : List A}
    (hrun : exec step s₀ as = some s) (hscope : StepsMeet step s₀ Scope as)
    (hinit : I [] s₀)
    (hstep : ∀ pre s a s', I pre s → Scope pre s a → C pre s a →
      step s a = some s' → I (pre ++ [a]) s')
    (hagree : ∀ pre s a s', I pre s → Scope pre s a → step s a = some s' →
      (D pre s a ↔ C pre s a)) :
    StepsMeet step s₀ D as ↔ StepsMeet step s₀ C as := by
  have hgood : ∀ as, StepsMeet step s₀ Scope as → StepsMeet step s₀ C as →
      Always step s₀ I as := by
    intro as hs hC
    refine always_of_stepsMeet hinit ?_ (hs.and hC)
    intro pre s a s' hinv hsc hsa
    exact hstep pre s a s' hinv hsc.1 hsc.2 hsa
  -- at the end of a prefix that meets `C` throughout, the two agree
  have hlast : ∀ pre a, pre ++ [a] <+: as → StepsMeet step s₀ C pre →
      ∀ t, exec step s₀ pre = some t → (D pre t a ↔ C pre t a) := by
    intro pre a hpre hC t ht
    have hpre' : pre <+: as := (List.prefix_append pre [a]).trans hpre
    obtain ⟨t', ht'⟩ := exec_prefix hpre hrun
    obtain ⟨u, hu, hua⟩ := exec_snoc.mp ht'
    obtain rfl : u = t := Option.some.inj (hu.symm.trans ht)
    exact hagree pre u a t' ((hgood pre (hscope.of_prefix hpre') hC).last hu)
      (hscope pre a hpre u hu) hua
  constructor
  · intro hD
    suffices hmeet : ∀ pre, pre <+: as → StepsMeet step s₀ C pre from
      hmeet as List.prefix_rfl
    intro pre
    induction pre using List.reverseRecOn with
    | nil =>
        intro _ p a hp
        exact absurd hp (by simp)
    | append_singleton pre a ih =>
        intro hpre p b hp t ht
        have hpre' : pre <+: as := (List.prefix_append pre [a]).trans hpre
        rcases List.prefix_concat_iff.mp hp with heq | hlt
        · obtain ⟨rfl, hb⟩ := List.append_inj' heq rfl
          obtain rfl : b = a := by simpa using hb
          exact (hlast p b hpre (ih hpre') t ht).mp (hD p b hpre t ht)
        · exact ih hpre' p b hlt t ht
  · intro hC pre a hpre t ht
    have hpre' : pre <+: as := (List.prefix_append pre [a]).trans hpre
    exact (hlast pre a hpre (hC.of_prefix hpre') t ht).mpr (hC pre a hpre t ht)

/-- A property of all states is one of the first state and of the state after
each event. -/
theorem always_iff_steps {P : List A → S → Prop} {s₀ : S} {as : List A} :
    Always step s₀ P as ↔ P [] s₀ ∧ StepsMeet step s₀
      (fun pre s a => ∀ s', step s a = some s' → P (pre ++ [a]) s') as := by
  constructor
  · intro h
    refine ⟨h [] List.nil_prefix s₀ rfl, ?_⟩
    intro pre a hpre s hs s' hs'
    exact h (pre ++ [a]) hpre s' (exec_snoc.mpr ⟨s, hs, hs'⟩)
  · rintro ⟨hinit, h⟩ pre
    induction pre using List.reverseRecOn with
    | nil =>
        intro _ s hs
        obtain rfl : s₀ = s := by simpa using hs
        exact hinit
    | append_singleton pre a _ =>
        intro hpre s' hs'
        obtain ⟨s, hs, hsa⟩ := exec_snoc.mp hs'
        exact h pre a hpre s hs s' hsa

/-- The condition `C` is exact for `P` in every state and `Q` of every event, on
the runs within `Scope`: an invariant that implies `P` survives every event
meeting `C`, which also meets `Q`, and every other event fails `Q` or leads to a
state where `P` fails. -/
theorem always_and_stepsMeet_iff {Scope C Q : List A → S → A → Prop}
    {P I : List A → S → Prop} {s₀ s : S} {as : List A}
    (hrun : exec step s₀ as = some s) (hscope : StepsMeet step s₀ Scope as)
    (hinit : I [] s₀)
    (hstep : ∀ pre s a s', I pre s → Scope pre s a → C pre s a →
      step s a = some s' → I (pre ++ [a]) s')
    (hsound : ∀ pre s, I pre s → P pre s)
    (hgood : ∀ pre s a s', I pre s → Scope pre s a → C pre s a →
      step s a = some s' → Q pre s a)
    (hbreak : ∀ pre s a s', I pre s → Scope pre s a → ¬ C pre s a →
      step s a = some s' → Q pre s a → ¬ P (pre ++ [a]) s') :
    Always step s₀ P as ∧ StepsMeet step s₀ Q as ↔ StepsMeet step s₀ C as := by
  have hsplit : Always step s₀ P as ∧ StepsMeet step s₀ Q as ↔
      StepsMeet step s₀ (fun pre s a =>
        (∀ s', step s a = some s' → P (pre ++ [a]) s') ∧ Q pre s a) as := by
    rw [always_iff_steps, and_iff_right (hsound [] s₀ hinit)]
    constructor
    · rintro ⟨hP, hQ⟩
      exact hP.and hQ
    · intro h
      exact ⟨h.mono fun _ _ _ hPQ => hPQ.1, h.mono fun _ _ _ hPQ => hPQ.2⟩
  rw [hsplit]
  apply stepsMeet_iff hrun hscope hinit hstep
  intro pre s a s' hinv hsc hsa
  constructor
  · rintro ⟨hP, hQ⟩
    by_contra hC
    exact hbreak pre s a s' hinv hsc hC hsa hQ (hP s' hsa)
  · intro hC
    refine ⟨?_, hgood pre s a s' hinv hsc hC hsa⟩
    intro t hst
    exact hsound _ _ (hstep pre s a t hinv hsc hC hst)

/-- The condition `C` is exact for `P` on the runs within `Scope`: an invariant
that implies `P` survives every step meeting `C`, and every step that does not
meet it leads to a state where `P` fails. -/
theorem always_iff_stepsMeet {Scope C : List A → S → A → Prop}
    {P I : List A → S → Prop} {s₀ s : S} {as : List A}
    (hrun : exec step s₀ as = some s) (hscope : StepsMeet step s₀ Scope as)
    (hinit : I [] s₀)
    (hstep : ∀ pre s a s', I pre s → Scope pre s a → C pre s a →
      step s a = some s' → I (pre ++ [a]) s')
    (hsound : ∀ pre s, I pre s → P pre s)
    (hbreak : ∀ pre s a s', I pre s → Scope pre s a → ¬ C pre s a →
      step s a = some s' → ¬ P (pre ++ [a]) s') :
    Always step s₀ P as ↔ StepsMeet step s₀ C as := by
  have hand : Always step s₀ P as ∧
      StepsMeet step s₀ (fun _ _ _ => True) as ↔ StepsMeet step s₀ C as :=
    always_and_stepsMeet_iff hrun hscope hinit hstep hsound
      (fun _ _ _ _ _ _ _ _ => trivial)
      (fun pre s a s' hinv hsc hC hsa _ => hbreak pre s a s' hinv hsc hC hsa)
  have hall : StepsMeet step s₀ (fun _ _ _ => True) as :=
    fun _ _ _ _ _ => trivial
  exact (and_iff_left hall).symm.trans hand

/-- **A run is no longer than the bound it starts with**, if every step lowers
the bound: `I k s` says that `s` has at most `k` steps left. -/
theorem exec_length_le {I : ℕ → S → Prop}
    (hstep : ∀ k s a s', I k s → step s a = some s' → ∃ k' < k, I k' s')
    {as : List A} : ∀ {k : ℕ} {s s' : S}, I k s → exec step s as = some s' →
      ∃ k', I k' s' ∧ as.length + k' ≤ k := by
  induction as with
  | nil =>
      intro k s s' hs hrun
      obtain rfl : s = s' := by simpa using hrun
      exact ⟨k, hs, by simp⟩
  | cons a as ih =>
      intro k s s' hs hrun
      obtain ⟨t, ht, hrun⟩ := exec_cons.mp hrun
      obtain ⟨j, hj, hIj⟩ := hstep k s a t hs ht
      obtain ⟨k', hk', hle⟩ := ih hIj hrun
      refine ⟨k', hk', ?_⟩
      rw [List.length_cons]
      omega

/-- So every run can be continued until no step is left. -/
theorem exists_stuck {I : ℕ → S → Prop}
    (hstep : ∀ k s a s', I k s → step s a = some s' → ∃ k' < k, I k' s')
    {k : ℕ} : ∀ {s : S}, I k s →
      ∃ as s', exec step s as = some s' ∧ ∀ a, step s' a = none := by
  induction k using Nat.strong_induction_on with
  | _ k ih =>
      intro s hs
      by_cases hstuck : ∀ a, step s a = none
      · exact ⟨[], s, rfl, hstuck⟩
      · obtain ⟨a, ha⟩ := not_forall.mp hstuck
        obtain ⟨t, ht⟩ := Option.ne_none_iff_exists'.mp ha
        obtain ⟨j, hj, hIj⟩ := hstep k s a t hs ht
        obtain ⟨as, s', hrun, hs'⟩ := ih j hj hIj
        exact ⟨a :: as, s', exec_cons.mpr ⟨t, ht, hrun⟩, hs'⟩

/-- **There is a run to an end**, if before the end there is always an allowed step
that lowers the bound. -/
theorem exists_end {I : ℕ → S → Prop} {Done : S → Prop} {allowed : A → Prop}
    (hstep : ∀ k s, I k s → Done s ∨
      ∃ a s', allowed a ∧ step s a = some s' ∧ ∃ k' < k, I k' s')
    {k : ℕ} : ∀ {s : S}, I k s → ∃ as s' k', exec step s as = some s' ∧
      (∀ a ∈ as, allowed a) ∧ I k' s' ∧ Done s' := by
  induction k using Nat.strong_induction_on with
  | _ k ih =>
      intro s hs
      rcases hstep k s hs with hdone | ⟨a, t, ha, ht, j, hj, hIj⟩
      · exact ⟨[], s, k, rfl, fun a ha => absurd ha List.not_mem_nil, hs, hdone⟩
      · obtain ⟨as, s', k', hrun, has, hIk, hs'⟩ := ih j hj hIj
        exact ⟨a :: as, s', k', exec_cons.mpr ⟨t, ht, hrun⟩,
          List.forall_mem_cons.mpr ⟨ha, has⟩, hIk, hs'⟩

end Libssc.Library

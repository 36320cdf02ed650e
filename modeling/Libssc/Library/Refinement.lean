import Libssc.Library.Run

/-!
# Refinement between machines

A machine refines another one if each of its events is matched by events of the
other, which lead from a related state to a related state. Which events match may
depend on the state; there may be none, or several. Then each run is matched by
the run of all these events (`Refines.run`).
-/

namespace Libssc.Library

variable {S A T B : Type*}

/-- Events of `step` that meet `C` are matched by the events `label` of `step'`. -/
structure Refines (step : S → A → Option S) (step' : T → B → Option T)
    (label : S → A → List B) (C : S → A → Prop) (R : S → T → Prop) : Prop where
  matched : ∀ {s a s' t}, R s t → C s a → step s a = some s' →
    ∃ t', exec step' t (label s a) = some t' ∧ R s' t'

/-- The events that match a run. -/
def labels (step : S → A → Option S) (label : S → A → List B) (s : S)
    (as : List A) : List B :=
  (trace step s as).flatMap (fun p => label p.1 p.2)

variable {step : S → A → Option S} {step' : T → B → Option T}
  {label : S → A → List B} {C : S → A → Prop} {R : S → T → Prop}

@[simp] theorem labels_nil (s : S) : labels step label s [] = [] := rfl

theorem labels_snoc {as : List A} {a : A} {s s' : S}
    (h : exec step s as = some s') :
    labels step label s (as ++ [a]) = labels step label s as ++ label s' a := by
  unfold labels
  rw [trace_snoc h, List.flatMap_append, List.flatMap_singleton]

/-- **Runs are matched by runs.** -/
theorem Refines.run (h : Refines step step' label C R) {s s' : S} {t : T}
    {as : List A} (hR : R s t) (hC : StepsMeet step s (fun _ s a => C s a) as)
    (hrun : exec step s as = some s') :
    ∃ t', exec step' t (labels step label s as) = some t' ∧ R s' t' := by
  have hinv : Always step s (fun pre u => exec step s pre = some u ∧
      ∃ v, exec step' t (labels step label s pre) = some v ∧ R u v) as := by
    refine always_of_stepsMeet ⟨rfl, t, rfl, hR⟩ ?_ hC
    rintro pre u a u' ⟨hpre, v, hv, hRuv⟩ ha hstep
    obtain ⟨v', hv', hRv'⟩ := h.matched hRuv ha hstep
    refine ⟨exec_snoc.mpr ⟨u, hpre, hstep⟩, v', ?_, hRv'⟩
    rw [labels_snoc hpre]
    exact exec_append.mpr ⟨v, hv, hv'⟩
  exact (hinv.last hrun).2

end Libssc.Library

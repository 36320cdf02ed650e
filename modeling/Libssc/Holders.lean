import Libssc.Listener

/-!
# Who holds a task

A task is completed by a `report` handler that has it in its context, or by the
callback of a request that has it as user data. Both get the task of the
operation that has created them, so that a task which nobody holds when its
operation returns is never completed again (`returns_exec_of_not_held`).
-/

namespace Libssc

open Library

variable {F : Type} [GFloat F] {pb : Protobuf F}

namespace Sensor

variable {w w' : Sensor F} {t : ℕ}

/-- Some handler has the task in its context, or some request that has been sent
has it as user data. -/
def Held (t : ℕ) (w : Sensor F) : Prop :=
  (∃ id, (id, Closure.sensor t) ∈ w.report.handlers) ∨
    ∃ q ∈ w.sent, q.callback.task = some t

/-- Only new tasks get new holders, and a task that nobody holds keeps its
results. -/
structure KeepsUnheld (w w' : Sensor F) : Prop where
  size : w.tasks.size ≤ w'.tasks.size
  held : ∀ t, w'.Held t → w.Held t ∨ w.tasks.size ≤ t ∧ t < w'.tasks.size
  returns : ∀ t, t < w.tasks.size → ¬ w.Held t →
    w'.tasks.returns t = w.tasks.returns t

omit [GFloat F] in
theorem held_congr (hreport : w'.report.handlers = w.report.handlers)
    (hsent : w'.sent = w.sent) (t : ℕ) : w'.Held t ↔ w.Held t := by
  unfold Held
  rw [hreport, hsent]

omit [GFloat F] in
theorem task_of_isFor {cb : SendCallback} {u : ℕ} (h : cb.IsFor u)
    (ht : cb.task = some t) : t = u := by
  rcases h with rfl | rfl | rfl | rfl
  · exact absurd ht (by simp [SendCallback.task])
  · exact (Option.some.inj ht).symm
  · exact (Option.some.inj ht).symm
  · exact (Option.some.inj ht).symm

/-! ## Calls -/

omit [GFloat F] in
theorem keepsUnheld_refused {k : TaskInfo} (h : Refused k w w') :
    KeepsUnheld w w' := by
  obtain ⟨e, htasks⟩ := h.tasks
  constructor
  · rw [htasks]
    simp
  · intro t ht
    exact Or.inl ((held_congr (by rw [h.report]) h.sent t).mp ht)
  · intro t hlt _
    rw [htasks, Tasks.returns_complete_ne (Nat.ne_of_lt hlt), Tasks.returns_create]

omit [GFloat F] in
theorem keepsUnheld_started {k : TaskInfo} {req : Request F}
    (h : Started k req w w') : KeepsUnheld w w' := by
  have hsize : w'.tasks.size = w.tasks.size + 1 := by
    rw [h.tasks, Tasks.size_create]
  refine ⟨by omega, ?_, ?_⟩
  · rintro t (⟨id, hmem⟩ | ⟨q, hq, hqt⟩)
    · rw [h.report, Signal.handlers_connect] at hmem
      rcases List.mem_append.mp hmem with hold | hnew
      · exact Or.inl (Or.inl ⟨id, hold⟩)
      · obtain rfl : t = w.tasks.size := by
          simpa using congrArg Prod.snd (List.mem_singleton.mp hnew)
        exact Or.inr ⟨Nat.le_refl _, by omega⟩
    · rw [h.sent] at hq
      rcases List.mem_append.mp hq with hold | hnew
      · exact Or.inl (Or.inr ⟨q, hold, hqt⟩)
      · obtain rfl := List.mem_singleton.mp hnew
        obtain rfl := task_of_isFor h.callback hqt
        exact Or.inr ⟨Nat.le_refl _, by omega⟩
  · intro t _ _
    rw [h.tasks, Tasks.returns_create]

omit [GFloat F] in
theorem keepsUnheld_sensorClose (cb : AsyncReadyCallback) (w : Sensor F) :
    KeepsUnheld w (w.sensorClose cb) := by
  have hsize : (w.sensorClose cb).tasks.size = w.tasks.size + 1 :=
    Tasks.size_create _ _
  refine ⟨by omega, ?_, ?_⟩
  · rintro t (⟨id, hmem⟩ | ⟨q, hq, hqt⟩)
    · exact Or.inl (Or.inl ⟨id, hmem⟩)
    · rcases List.mem_append.mp hq with hold | hnew
      · exact Or.inl (Or.inr ⟨q, hold, hqt⟩)
      · obtain rfl := List.mem_singleton.mp hnew
        obtain rfl : w.tasks.size = t := Option.some.inj hqt
        exact Or.inr ⟨Nat.le_refl _, by omega⟩
  · intro t _ _
    exact Tasks.returns_create _ _ _

theorem keepsUnheld_call {c : Call} (h : w.call c = some w') :
    KeepsUnheld w w' := by
  by_cases hc : c = .sensorClose
  · subst hc
    cases called_of_call h with
    | sensorClose => exact keepsUnheld_sensorClose _ w
  · rcases call_cases hc h with hw | ⟨req, hw⟩
    · exact keepsUnheld_refused hw
    · exact keepsUnheld_started hw

/-! ## Events -/

omit [GFloat F] in
/-- A callback completes at most its own task. -/
theorem returns_sendReady {cb : SendCallback} (h : cb.task ≠ some t)
    (error : Option GError) (w : Sensor F) :
    (w.sendReady cb error).tasks.returns t = w.tasks.returns t := by
  have htask : ∀ u, u ≠ t →
      (w.taskSendReady u error).tasks.returns t = w.tasks.returns t := by
    intro u hu
    cases error with
    | none => rfl
    | some e => exact Tasks.returns_complete_ne hu.symm
  cases cb with
  | attributeReady => rfl
  | discoveryReady u => exact htask u fun hu => h (congrArg some hu)
  | waitForSensorServiceReady u => exact htask u fun hu => h (congrArg some hu)
  | sensorOpenReady u => exact htask u fun hu => h (congrArg some hu)
  | sensorCloseReady u =>
      have hu : t ≠ u := fun hu => h (congrArg some hu.symm)
      cases error with
      | none => exact Tasks.returns_complete_ne hu
      | some e => exact Tasks.returns_complete_ne hu

/-- A handler of the signal completes at most its own task, and passes it on to
the requests it sends. -/
theorem keepsUnheld_emitReport (r : Report) :
    KeepsUnheld w (w.emitReport pb r) := by
  refine emitReport_preserves (P := fun v => KeepsUnheld w v)
    ?_ ⟨Nat.le_refl _, fun _ h => Or.inl h, fun _ _ _ => rfl⟩
  intro u id hu v hv
  have hheld : w.Held u := Or.inl ⟨id, mem_listeners_sensor.mp hu⟩
  by_cases hf : u ∈ v.freed
  · rw [reportReceived_freed hf]
    exact ⟨hv.size, hv.held, hv.returns⟩
  · rw [reportReceived_eq hf]
    have hsize : (v.perform u (v.priv.outcome pb r)).tasks.size =
        v.tasks.size := by
      rw [perform_tasks]
      cases (v.priv.outcome pb r).result <;> simp
    refine ⟨hsize ▸ hv.size, ?_, ?_⟩
    · rw [hsize]
      rintro t (⟨i, hmem⟩ | ⟨q, hq, hqt⟩)
      · rw [perform_report] at hmem
        refine hv.held t (Or.inl ⟨i, ?_⟩)
        cases hres : (v.priv.outcome pb r).result with
        | none =>
            rw [hres] at hmem
            exact hmem
        | some res =>
            rw [hres] at hmem
            exact (Signal.mem_disconnect.mp hmem).1
      · rw [perform_sent] at hq
        rcases List.mem_append.mp hq with hold | hnew
        · exact hv.held t (Or.inr ⟨q, hold, hqt⟩)
        · have hreq := Option.mem_toList.mp hnew
          rw [task_of_isFor (request_isFor hreq) hqt]
          exact Or.inl hheld
    · intro t hlt hno
      have hne : t ≠ u := by
        rintro rfl
        exact hno hheld
      rw [perform_tasks]
      cases (v.priv.outcome pb r).result with
      | none => exact hv.returns t hlt hno
      | some res =>
          exact (Tasks.returns_complete_ne hne).trans (hv.returns t hlt hno)

theorem keepsUnheld_act {a : Action} (h : w.act pb a = some w') :
    KeepsUnheld w w' := by
  cases a with
  | call c => exact keepsUnheld_call h
  | event e =>
      rcases step_cases h with ⟨i, error, q, rfl, -, hq, rfl⟩ | ⟨r, rfl, rfl⟩
      · have hmem : q ∈ w.sent := List.mem_of_getElem? hq
        have hran := callbackRan_sendReady q.callback error
          { w with unready := w.unready.erase i }
        refine ⟨?_, fun t ht => ?_, fun t _ hno => ?_⟩
        · rcases hran.tasks with htasks | ⟨b, r, htasks, -⟩
          · rw [htasks]
          · rw [htasks, Tasks.size_complete]
        · exact Or.inl ((held_congr (by rw [hran.report]) hran.sent t).mp ht)
        · exact returns_sendReady (fun ht => hno (Or.inr ⟨q, hmem, ht⟩)) error _
      · exact keepsUnheld_emitReport r

/-! ## Runs -/

/-- Every task with a holder has been created. -/
theorem lt_size_of_held {p : SSCSensorPrivate F} {as : List Action}
    (h : exec (act pb) (Sensor.new p) as = some w) (ht : w.Held t) :
    t < w.tasks.size := by
  induction as using List.reverseRecOn generalizing w t with
  | nil =>
      obtain rfl : Sensor.new p = w := by simpa using h
      rcases ht with ⟨id, hmem⟩ | ⟨q, hq, -⟩
      · exact absurd hmem (by simp [Sensor.new])
      · exact absurd hq (by simp [Sensor.new])
  | append_singleton as a ih =>
      obtain ⟨v, hv, hact⟩ := exec_snoc.mp h
      have hkeeps := keepsUnheld_act hact
      rcases hkeeps.held t ht with hold | ⟨-, hlt⟩
      · exact Nat.lt_of_lt_of_le (ih hv hold) hkeeps.size
      · exact hlt

/-- **A task that nobody holds is never completed again.** -/
theorem returns_exec_of_not_held {as : List Action} (hlt : t < w.tasks.size)
    (hno : ¬ w.Held t) (h : exec (act pb) w as = some w') :
    w'.tasks.returns t = w.tasks.returns t := by
  induction as generalizing w with
  | nil =>
      obtain rfl : w = w' := by simpa using h
      rfl
  | cons a as ih =>
      obtain ⟨v, hact, hrun⟩ := exec_cons.mp h
      have hkeeps := keepsUnheld_act hact
      have hno' : ¬ v.Held t := by
        intro hheld
        rcases hkeeps.held t hheld with hold | ⟨hle, -⟩
        · exact hno hold
        · exact absurd hlt (Nat.not_lt.mpr hle)
      rw [ih (Nat.lt_of_lt_of_le hlt hkeeps.size) hno' hrun]
      exact hkeeps.returns t hlt hno

end Sensor

end Libssc

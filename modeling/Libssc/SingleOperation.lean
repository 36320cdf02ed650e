import Libssc.Outcome

/-!
# One operation at a time

A sensor at rest, one init or open, and then any sequence of events: callbacks
of the requests it sent, each with or without an error and in any order, and any
reports at all. The task of the operation is `w₀.tasks.size`, the next one.

`Sole` is what holds in all of these runs, whatever goes wrong: the operation
has at most one handler, `report_id` names it, its context is alive as long as
it is connected, and all outstanding callbacks belong to the operation.

On top of it the handler and the task keep step as long as no request that
carries the task fails (`InStep`). A failing one completes the task and leaves
the handler connected, with a context that points to the task.
-/

namespace Libssc.Sensor

open Library

variable {F : Type} [GFloat F] {pb : Protobuf F} {w w' w₀ w₁ : Sensor F}

/-- No operation is under way and nothing has gone wrong so far. -/
structure AtRest (w : Sensor F) : Prop where
  listeners : w.listeners = []
  unready : w.unready = []
  freed : ∀ t ∈ w.freed, t < w.tasks.size
  misuse : w.misuse = []

/-! ## What always holds -/

/-- All outstanding callbacks satisfy `P`. -/
def Owed (P : SendCallback → Prop) (w : Sensor F) : Prop :=
  ∀ i ∈ w.unready, ∃ r, w.sent[i]? = some r ∧ P r.callback

/-- Task `t` is the only operation that the sensor still knows about. -/
structure Sole (t : ℕ) (w : Sensor F) : Prop where
  listener : w.listeners = [] ∨
    (w.listeners = [(w.priv.reportId, .sensor t)] ∧ t ∉ w.freed)
  size : t < w.tasks.size
  owed : Owed (·.IsFor t) w

omit [GFloat F] in
theorem owed_send {P : SendCallback → Prop} (h : Owed P w) {req : Request F}
    (hreq : P req.callback) (hsent : w'.sent = w.sent ++ [req])
    (hunready : w'.unready = w.unready ++ [w.sent.length]) : Owed P w' := by
  intro i hi
  rw [hsent]
  rw [hunready, List.mem_append, List.mem_singleton] at hi
  rcases hi with hi | rfl
  · obtain ⟨r, hr, hfor⟩ := h i hi
    have hlt : i < w.sent.length := (List.getElem?_eq_some_iff.mp hr).1
    exact ⟨r, by rw [List.getElem?_append_left hlt]; exact hr, hfor⟩
  · exact ⟨req, by simp, hreq⟩

omit [GFloat F] in
theorem request_isFor {o : Outcome F} {t : ℕ} {p : SSCSensorPrivate F}
    {req : Request F} (h : o.request t p = some req) : req.callback.IsFor t := by
  cases o with
  | serviceFound =>
      obtain rfl := Option.some.inj h
      exact Or.inr (Or.inl rfl)
  | retry =>
      obtain rfl := Option.some.inj h
      exact Or.inr (Or.inr (Or.inl rfl))
  | discovered u =>
      obtain rfl := Option.some.inj h
      exact Or.inl rfl
  | _ => exact absurd h (by simp [Outcome.request])

theorem owed_perform {P : SendCallback → Prop} {t : ℕ} {o : Outcome F}
    (h : Owed P w)
    (hP : ∀ req, o.request t (o.update w.priv) = some req → P req.callback) :
    Owed P (w.perform t o) := by
  have hs := perform_sent t o w
  have hu := perform_unready t o w
  cases hreq : o.request t (o.update w.priv) with
  | none =>
      rw [hreq] at hs hu
      intro i hi
      rw [hs]
      rw [hu] at hi
      simpa using h i (by simpa using hi)
  | some req =>
      rw [hreq] at hs hu
      exact owed_send h (hP req hreq) (by simpa using hs) (by simpa using hu)

theorem reportId_update (o : Outcome F) (p : SSCSensorPrivate F) :
    (o.update p).reportId = p.reportId := by
  cases o <;> simp [Outcome.update]

theorem sole_perform {t : ℕ} {o : Outcome F} (h : Sole t w)
    (hl : w.listeners = [(w.priv.reportId, .sensor t)]) (hf : t ∉ w.freed) :
    Sole t (w.perform t o) where
  listener := by
    have hlist := listeners_perform (t := t) (o := o) (w := w)
    have hpriv := perform_priv t o w
    have hfreed := perform_freed t o w
    cases hr : o.result with
    | some r =>
        rw [hr, hl] at hlist
        exact Or.inl (by simpa using hlist)
    | none =>
        rw [hr] at hlist hpriv hfreed
        refine Or.inr ⟨?_, by rw [hfreed]; exact hf⟩
        rw [hlist, hl, hpriv, reportId_update]
  size := by
    rw [perform_tasks]
    cases o.result with
    | some r => simpa using h.size
    | none => exact h.size
  owed := owed_perform h.owed fun _ => request_isFor

omit [GFloat F] in
/-- Running a callback whose request belongs to `t` touches neither handler nor
requests. -/
theorem sole_sendReady {t i : ℕ} {error : Option GError} {r : Request F}
    (h : Sole t w) (hr : r.callback.IsFor t) :
    Sole t (({ w with unready := w.unready.erase i }).sendReady
      r.callback error) := by
  have herase : Sole t { w with unready := w.unready.erase i } :=
    { listener := h.listener
      size := h.size
      owed := fun j hj => h.owed j (List.mem_of_mem_erase hj) }
  rcases sendReady_of_isFor hr error with ⟨-, heq⟩ | ⟨-, heq⟩
  · rw [heq]
    exact herase
  · rw [heq]
    cases error with
    | none =>
        exact
          { listener := h.listener, size := h.size, owed := herase.owed }
    | some e =>
        exact
          { listener := h.listener
            size := by simpa [taskSendReady, taskReturn, useTask, castTask] using h.size
            owed := herase.owed }

/-- How a report acts on a sensor with a sole operation. -/
theorem sole_report_cases {t : ℕ} (h : Sole t w) (pb : Protobuf F)
    (r : Report) :
    (w.listeners = [] ∧ w.emitReport pb r = w) ∨
      (w.listeners = [(w.priv.reportId, .sensor t)] ∧ t ∉ w.freed ∧
        w.emitReport pb r = w.perform t (w.priv.outcome pb r)) := by
  rcases h.listener with hl | ⟨hl, hf⟩
  · exact Or.inl ⟨hl, emitReport_none hl⟩
  · refine Or.inr ⟨hl, hf, ?_⟩
    rw [emitReport_single hl, reportReceived_eq hf]

theorem sole_step {t : ℕ} {e : Event} (h : Sole t w)
    (hstep : w.step pb e = some w') : Sole t w' := by
  rcases step_cases hstep with ⟨i, error, r, rfl, hi, hr, rfl⟩ | ⟨r, rfl, rfl⟩
  · obtain ⟨r', hr', hfor⟩ := h.owed i hi
    obtain rfl : r' = r := Option.some.inj (hr'.symm.trans hr)
    exact sole_sendReady h hfor
  · rcases sole_report_cases h pb r with
      ⟨-, heq⟩ | ⟨hl, hf, heq⟩
    · rw [heq]
      exact h
    · rw [heq]
      exact sole_perform h hl hf

theorem sole_call {c : Call} (hrest : w₀.AtRest) (hc : c ≠ .sensorClose)
    (hcall : w₀.call c = some w₁) : Sole w₀.tasks.size w₁ := by
  rcases call_cases hc hcall with hw | ⟨req, hw⟩
  · obtain ⟨e, htasks⟩ := hw.tasks
    constructor
    · left
      unfold listeners
      rw [hw.report]
      exact hrest.listeners
    · rw [htasks]
      simp
    · intro i hi
      rw [hw.unready, hrest.unready] at hi
      exact absurd hi (by simp)
  · constructor
    · right
      constructor
      · have := listeners_connectReport w₀.tasks.size w₀
        rw [hrest.listeners] at this
        unfold listeners at this ⊢
        rw [hw.report, hw.reportId]
        exact this
      · rw [hw.freed]
        exact fun hf => Nat.lt_irrefl _ (hrest.freed _ hf)
    · rw [hw.tasks]
      simp
    · refine owed_send (w := w₀) ?_ hw.callback hw.sent hw.unready
      intro i hi
      rw [hrest.unready] at hi
      exact absurd hi (by simp)

/-- What a send callback that runs with `error` does: it touches no handler and
no private data, and completes the task if it holds it and reports a failure. -/
structure SendRan (t i : ℕ) (error : Option GError) (r : Request F)
    (w w' : Sensor F) : Prop where
  request : w.sent[i]? = some r
  isFor : r.callback.IsFor t
  priv : w'.priv = w.priv
  report : w'.report = w.report
  sent : w'.sent = w.sent
  unready : w'.unready = w.unready.erase i
  freed : w'.freed = w.freed
  tasks : w'.tasks =
    match r.callback.task, error with
    | some _, some e => w.tasks.complete t ⟨.error e, none⟩
    | _, _ => w.tasks

omit [GFloat F] in
theorem sendRan_of_isFor {t i : ℕ} {error : Option GError} {r : Request F}
    (hr : w.sent[i]? = some r) (hfor : r.callback.IsFor t) :
    SendRan t i error r w (({ w with unready := w.unready.erase i }).sendReady
      r.callback error) := by
  rcases sendReady_of_isFor hfor error with ⟨htask, heq⟩ | ⟨htask, heq⟩
  · rw [heq]
    constructor
    case request => exact hr
    case isFor => exact hfor
    case tasks => rw [htask]
    all_goals rfl
  · rw [heq]
    cases error with
    | none =>
        constructor
        case request => exact hr
        case isFor => exact hfor
        case tasks => rw [htask]; rfl
        all_goals rfl
    | some e =>
        constructor
        case request => exact hr
        case isFor => exact hfor
        case tasks => rw [htask]; rfl
        all_goals rfl

theorem sole_sendRan {t i : ℕ} {error : Option GError} (h : Sole t w)
    (hstep : w.step pb (.sendReady i error) = some w') :
    ∃ r, i ∈ w.unready ∧ SendRan t i error r w w' := by
  rcases step_cases hstep with ⟨i', error', r, heq, hi, hr, rfl⟩ | ⟨r, heq, -⟩
  · obtain ⟨rfl, rfl⟩ : i = i' ∧ error = error' := by simpa using heq
    obtain ⟨r', hr', hfor⟩ := h.owed i hi
    obtain rfl : r' = r := Option.some.inj (hr'.symm.trans hr)
    exact ⟨r', hi, sendRan_of_isFor hr hfor⟩
  · exact absurd heq (by simp)

omit [GFloat F] in
theorem SendRan.listeners {t i : ℕ} {error : Option GError} {r : Request F}
    (h : SendRan t i error r w w') : w'.listeners = w.listeners := by
  unfold Sensor.listeners
  rw [h.report]

omit [GFloat F] in
/-- An acknowledgement completes no task. -/
theorem SendRan.tasks_of_none {t i : ℕ} {r : Request F}
    (h : SendRan t i none r w w') : w'.tasks = w.tasks := by
  rw [h.tasks]
  cases r.callback.task <;> rfl

/-! ## Handler and task in step -/

/-- The task/handler invariant: the base handler is connected exactly as long
as the task has not been completed, the task is completed at most once, and no
callback or report makes a call on it, or reads its context, afterwards. -/
structure TaskHandler (t : ℕ) (w : Sensor F) : Prop where
  handler : w.listeners ≠ [] ↔ w.tasks.pending t = true
  once : (w.tasks.returns t).length ≤ 1
  unused : ∀ u, .use u ∉ w.misuse ∧ .context u ∉ w.misuse

/-- The same, and not even `G_TASK ()` looks at the task after its
completion. -/
structure TaskHandlerStrict (t : ℕ) (w : Sensor F) : Prop extends
    TaskHandler t w where
  uncast : w.misuse = []

/-- The callback that runs now reports no failure, unless it is that of the
attribute request, which has no task. -/
def SendSucceeds (w : Sensor F) : Event → Prop
  | .sendReady i error => ∀ r, w.sent[i]? = some r →
      r.callback.task ≠ none → error = none
  | .report _ => True

/-- The callback that runs now reports no failure and finds its task pending,
unless it has no task. -/
def SendInTime (w : Sensor F) : Event → Prop
  | .sendReady i error => ∀ r t, w.sent[i]? = some r →
      r.callback.task = some t → error = none ∧ w.tasks.pending t = true
  | .report _ => True

/-- `Sole`, with handler and task in step. -/
structure InStep (t : ℕ) (w : Sensor F) : Prop extends Sole t w where
  phase : (w.listeners ≠ [] ∧ w.tasks.returns t = []) ∨
    (w.listeners = [] ∧ (w.tasks.returns t).length = 1)
  casts : ∀ m ∈ w.misuse, m = .cast t

omit [GFloat F] in
theorem InStep.pending_iff {t : ℕ} (h : InStep t w) :
    w.tasks.pending t = true ↔ w.listeners ≠ [] := by
  rw [Tasks.pending_iff]
  rcases h.phase with ⟨hl, hr⟩ | ⟨hl, hr⟩
  · simp [hl, hr, h.size]
  · have : w.tasks.returns t ≠ [] := by
      intro hnil
      rw [hnil] at hr
      simp at hr
    simp [hl, this]

omit [GFloat F] in
theorem InStep.taskHandler {t : ℕ} (h : InStep t w) : TaskHandler t w where
  handler := h.pending_iff.symm
  once := by
    rcases h.phase with ⟨-, hr⟩ | ⟨-, hr⟩
    · simp [hr]
    · exact Nat.le_of_eq hr
  unused := fun u =>
    ⟨fun hm => by simpa using h.casts _ hm, fun hm => by simpa using h.casts _ hm⟩

theorem inStep_call {c : Call} (hrest : w₀.AtRest) (hc : c ≠ .sensorClose)
    (hcall : w₀.call c = some w₁) :
    InStep w₀.tasks.size w₁ ∧ w₁.misuse = [] := by
  have hsole := sole_call hrest hc hcall
  rcases call_cases hc hcall with hw | ⟨req, hw⟩
  · obtain ⟨e, htasks⟩ := hw.tasks
    have hmisuse : w₁.misuse = [] := hw.misuse.trans hrest.misuse
    refine ⟨{ toSole := hsole, phase := Or.inr ⟨?_, ?_⟩, casts := ?_ }, hmisuse⟩
    · unfold listeners
      rw [hw.report]
      exact hrest.listeners
    · rw [htasks, Tasks.returns_complete_self (by simp), Tasks.returns_create,
        Tasks.returns_eq_nil_of_size_le (Nat.le_refl _)]
      rfl
    · simp [hmisuse]
  · have hmisuse : w₁.misuse = [] := hw.misuse.trans hrest.misuse
    refine ⟨{ toSole := hsole, phase := Or.inl ⟨?_, ?_⟩, casts := ?_ }, hmisuse⟩
    · unfold listeners
      rw [hw.report]
      simp
    · rw [hw.tasks, Tasks.returns_create,
        Tasks.returns_eq_nil_of_size_le (Nat.le_refl _)]
    · simp [hmisuse]

/-- A report keeps handler and task in step, whatever it says. -/
theorem inStep_report {t : ℕ} {r : Report} (h : InStep t w) :
    InStep t (w.emitReport pb r) ∧ (w.emitReport pb r).misuse = w.misuse := by
  rcases sole_report_cases h.toSole pb r with
    ⟨-, heq⟩ | ⟨hl, hf, heq⟩
  · rw [heq]
    exact ⟨h, rfl⟩
  · rw [heq]
    have hne : w.listeners ≠ [] := by simp [hl]
    have hpend : w.tasks.pending t = true := h.pending_iff.mpr hne
    have hmisuse : (w.perform t (w.priv.outcome pb r)).misuse = w.misuse := by
      simp [perform_misuse, hpend]
    refine ⟨{ toSole := sole_perform h.toSole hl hf
              phase := ?_
              casts := by rw [hmisuse]; exact h.casts }, hmisuse⟩
    have hret : w.tasks.returns t = [] := (Tasks.pending_iff.mp hpend).2
    have hlist := listeners_perform (t := t) (o := w.priv.outcome pb r) (w := w)
    have htasks := perform_tasks t (w.priv.outcome pb r) w
    cases hr : (w.priv.outcome pb r).result with
    | none =>
        rw [hr] at hlist htasks
        exact Or.inl ⟨by rw [hlist]; exact hne, by rw [htasks]; exact hret⟩
    | some res =>
        rw [hr] at hlist htasks
        refine Or.inr ⟨?_, ?_⟩
        · rw [hlist, hl]
          simp
        · rw [htasks, Tasks.returns_complete_self h.size, hret]
          rfl

omit [GFloat F] in
/-- A callback that reports no failure only casts its task. -/
theorem inStep_sendReady {t i : ℕ} {r : Request F} (h : InStep t w)
    (hr : r.callback.IsFor t) (cb : Option GError)
    (hcb : r.callback.task ≠ none → cb = none) :
    InStep t (({ w with unready := w.unready.erase i }).sendReady
      r.callback cb) := by
  refine { toSole := sole_sendReady h.toSole hr, phase := ?_, casts := ?_ }
  · rcases sendReady_of_isFor hr cb with ⟨-, heq⟩ | ⟨htask, heq⟩
    · rw [heq]
      exact h.phase
    · rw [heq, hcb (by simp [htask])]
      exact h.phase
  · rcases sendReady_of_isFor hr cb with ⟨-, heq⟩ | ⟨htask, heq⟩
    · rw [heq]
      exact h.casts
    · rw [heq, hcb (by simp [htask])]
      intro m hm
      simp only [taskSendReady, castTask, List.mem_append] at hm
      rcases hm with hm | hm
      · exact h.casts m hm
      · split at hm
        · exact absurd hm (by simp)
        · simpa using hm

omit [GFloat F] in
/-- A callback with a task that reports a failure takes handler and task out of
step: the task is completed, the handler stays. -/
theorem not_taskHandler_of_failure {t i : ℕ} {r : Request F} {e : GError}
    (h : InStep t w) (hr : r.callback.IsFor t) (htask : r.callback.task ≠ none) :
    ¬ TaskHandler t (({ w with unready := w.unready.erase i }).sendReady
      r.callback (some e)) := by
  rcases sendReady_of_isFor hr (some e) with ⟨hnone, -⟩ | ⟨-, heq⟩
  · exact absurd hnone htask
  · rw [heq]
    intro hbad
    rcases h.phase with ⟨hl, -⟩ | ⟨-, hret⟩
    · have hpend := hbad.handler.mp hl
      simp [taskSendReady, taskReturn, Tasks.pending_complete] at hpend
    · have honce := hbad.once
      simp only [taskSendReady, taskReturn, useTask, castTask] at honce
      rw [Tasks.returns_complete_self h.size, List.length_append, hret] at honce
      simp at honce

/-- The request whose callback an event runs, when the operation is the only
one. -/
theorem sole_sendReady_cases {t : ℕ} {e : Event} (h : Sole t w)
    (hstep : w.step pb e = some w') :
    (∃ i error r, e = .sendReady i error ∧ w.sent[i]? = some r ∧
      r.callback.IsFor t ∧
      w' = ({ w with unready := w.unready.erase i }).sendReady
        r.callback error) ∨
    (∃ r, e = .report r ∧ w' = w.emitReport pb r) := by
  rcases step_cases hstep with ⟨i, error, r, rfl, hi, hr, rfl⟩ | hrep
  · obtain ⟨r', hr', hfor⟩ := h.owed i hi
    obtain rfl : r' = r := Option.some.inj (hr'.symm.trans hr)
    exact Or.inl ⟨i, error, r', rfl, hr, hfor, rfl⟩
  · exact Or.inr hrep

/-- An event whose callback, if it has a task, succeeds keeps handler and task in
step. -/
theorem inStep_step {t : ℕ} {e : Event} (h : InStep t w) (he : SendSucceeds w e)
    (hstep : w.step pb e = some w') : InStep t w' := by
  rcases sole_sendReady_cases h.toSole hstep with
    ⟨i, error, r, rfl, hr, hfor, rfl⟩ | ⟨r, rfl, rfl⟩
  · exact inStep_sendReady h hfor error (he r hr)
  · exact (inStep_report h).1

/-- Any other event breaks it. -/
theorem not_taskHandler_step {t : ℕ} {e : Event} (h : InStep t w)
    (he : ¬ SendSucceeds w e) (hstep : w.step pb e = some w') :
    ¬ TaskHandler t w' := by
  rcases sole_sendReady_cases h.toSole hstep with
    ⟨i, error, r, rfl, hr, hfor, rfl⟩ | ⟨r, rfl, rfl⟩
  · cases error with
    | none => exact absurd (fun _ _ _ => rfl) he
    | some e =>
        apply not_taskHandler_of_failure h hfor
        intro hnone
        refine he fun r' hr' htask => ?_
        obtain rfl := Option.some.inj (hr'.symm.trans hr)
        exact absurd hnone htask
  · exact absurd trivial he

/-- With the task pending, such a callback casts no completed task either. -/
theorem uncast_step {t : ℕ} {e : Event} (h : InStep t w) (hw : w.misuse = [])
    (he : SendInTime w e) (hstep : w.step pb e = some w') :
    InStep t w' ∧ w'.misuse = [] := by
  rcases sole_sendReady_cases h.toSole hstep with
    ⟨i, error, r, rfl, hr, hfor, rfl⟩ | ⟨r, rfl, rfl⟩
  · rcases sendReady_of_isFor hfor error with ⟨hnone, heq⟩ | ⟨htask, heq⟩
    · refine ⟨inStep_sendReady h hfor error (absurd hnone), ?_⟩
      rw [heq]
      exact hw
    · obtain ⟨rfl, hpend⟩ := he r _ hr htask
      refine ⟨inStep_sendReady h hfor none (fun _ => rfl), ?_⟩
      rw [heq]
      simp [taskSendReady, castTask, hpend, hw]
  · exact ⟨(inStep_report h).1, (inStep_report h).2.trans hw⟩

theorem not_taskHandlerStrict_step {t : ℕ} {e : Event} (h : InStep t w)
    (he : ¬ SendInTime w e) (hstep : w.step pb e = some w') :
    ¬ TaskHandlerStrict t w' := by
  intro hbad
  rcases sole_sendReady_cases h.toSole hstep with
    ⟨i, error, r, rfl, hr, hfor, rfl⟩ | ⟨r, rfl, rfl⟩
  · rcases sendReady_of_isFor hfor error with ⟨hnone, heq⟩ | ⟨htask, heq⟩
    · refine he fun r' t hr' htask => ?_
      obtain rfl := Option.some.inj (hr'.symm.trans hr)
      exact absurd (hnone.symm.trans htask) (by simp)
    · cases error with
      | some e =>
          exact not_taskHandler_of_failure h hfor (by simp [htask])
            hbad.toTaskHandler
      | none =>
          refine he fun r' t hr' htask' => ⟨rfl, ?_⟩
          obtain rfl := Option.some.inj (hr'.symm.trans hr)
          obtain rfl := Option.some.inj (htask.symm.trans htask')
          have hcast := hbad.uncast
          rw [heq] at hcast
          by_contra hpend
          simp [taskSendReady, castTask, hpend] at hcast
  · exact he trivial

/-- **Handler and task keep step exactly as long as no send fails.** In every
run of one init or open, the task/handler invariant holds throughout if and only
if no callback that carries the task reports a failure; counting the cast at
the start of these callbacks as a use of the task, if and only if each of them
also runs before the task is completed. -/
theorem taskHandler_iff_sends_succeed {c : Call} {es : List Event}
    (hrest : w₀.AtRest) (hc : c ≠ .sensorClose) (hcall : w₀.call c = some w₁)
    (hrun : exec (step pb) w₁ es = some w) :
    (Always (step pb) w₁ (fun _ w => TaskHandler w₀.tasks.size w) es ↔
      StepsMeet (step pb) w₁ (fun _ w e => SendSucceeds w e) es) ∧
    (Always (step pb) w₁ (fun _ w => TaskHandlerStrict w₀.tasks.size w) es ↔
      StepsMeet (step pb) w₁ (fun _ w e => SendInTime w e) es) := by
  have hstart := inStep_call hrest hc hcall
  have hall : StepsMeet (step pb) w₁ (fun _ _ _ => True) es :=
    fun _ _ _ _ _ => trivial
  constructor
  · apply always_iff_stepsMeet (I := fun _ w => InStep w₀.tasks.size w)
      hrun hall hstart.1
    case hstep => exact fun _ _ _ _ h _ he hstep => inStep_step h he hstep
    case hsound => exact fun _ _ h => h.taskHandler
    case hbreak =>
      exact fun _ _ _ _ h _ he hstep => not_taskHandler_step h he hstep
  · apply always_iff_stepsMeet
      (I := fun _ w => InStep w₀.tasks.size w ∧ w.misuse = []) hrun hall hstart
    case hstep => exact fun _ _ _ _ h _ he hstep => uncast_step h.1 h.2 he hstep
    case hsound =>
      exact fun _ _ h => { toTaskHandler := h.1.taskHandler, uncast := h.2 }
    case hbreak =>
      exact fun _ _ _ _ h _ he hstep => not_taskHandlerStrict_step h.1 he hstep

/-! The enable request of the proximity sensor is cancelled: its callback
completes the open with an error and leaves the handler connected. -/

def cancelled : GError := ⟨"g-io-error-quark", 19, "Operation was cancelled"⟩

def proximityOpened : Sensor ℚ :=
  ((Sensor.new proximityMock).call .sensorOpen).get (by decide)

omit [GFloat F] in
theorem atRest_new (p : SSCSensorPrivate F) : AtRest (Sensor.new p) where
  listeners := rfl
  unready := rfl
  freed := by simp [Sensor.new]
  misuse := rfl

theorem taskHandler_broken_by_cancellation :
    ¬ Always (step (Protobuf.ofTables [] [] [])) proximityOpened
      (fun _ w => TaskHandler 0 w) [.sendReady 0 (some cancelled)] := by
  intro h
  have hlast := h.last (s := (proximityOpened.step (Protobuf.ofTables [] [] [])
    (.sendReady 0 (some cancelled))).get (by decide)) (by rfl)
  have hpend := hlast.handler.mp (by decide)
  exact absurd hpend (by decide)

theorem taskHandler_iff_sends_succeed_proximity :
    (Always (step (Protobuf.ofTables [] [] [])) proximityOpened
        (fun _ w => TaskHandler 0 w)
        [.sendReady 0 none, .report ⟨1025, ⟨1, 1⟩, []⟩] ↔
      StepsMeet (step (Protobuf.ofTables [] [] [])) proximityOpened
        (fun _ w e => SendSucceeds w e)
        [.sendReady 0 none, .report ⟨1025, ⟨1, 1⟩, []⟩]) ∧
    (Always (step (Protobuf.ofTables [] [] [])) proximityOpened
        (fun _ w => TaskHandlerStrict 0 w)
        [.sendReady 0 none, .report ⟨1025, ⟨1, 1⟩, []⟩] ↔
      StepsMeet (step (Protobuf.ofTables [] [] [])) proximityOpened
        (fun _ w e => SendInTime w e)
        [.sendReady 0 none, .report ⟨1025, ⟨1, 1⟩, []⟩]) :=
  taskHandler_iff_sends_succeed (c := .sensorOpen)
    (w := (exec (step (Protobuf.ofTables [] [] [])) proximityOpened
      [.sendReady 0 none, .report ⟨1025, ⟨1, 1⟩, []⟩]).get (by decide))
    (atRest_new proximityMock) (by decide) (Option.some_get _).symm
    (Option.some_get _).symm

end Libssc.Sensor

import Libssc.Driver
import Libssc.Outcome

/-!
# Failed results and their errors

A task that fails should do so with an error: `g_task_propagate_boolean` then
sets it, and a caller that gets FALSE or NULL can look at it. The client's
construction keeps to this at every stage, and so does every branch of the base
sensor but one: a discovery response that lists no sensor completes the init, or
whatever else is under way, with a plain FALSE. The drivers pass on what the
base task reports, and have nothing to pass on then.
-/

namespace Libssc

open Library

variable {F S M : Type} [GFloat F] {pb : Protobuf F}

/-- A caller who gets FALSE, or NULL in its place, gets an error as well. -/
def TaskResult.HasError (r : TaskResult) : Prop :=
  r.propagateBoolean.1 = false → r.propagateBoolean.2 ≠ none

theorem TaskResult.hasError_iff {r : TaskResult} :
    r.HasError ↔ r ≠ .boolean false := by
  unfold HasError propagateBoolean
  cases r with
  | error e => simp
  | boolean b => cases b <;> simp

omit [GFloat F] in
theorem Outcome.result_eq_false {o : Outcome F} :
    o.result = some (.boolean false) ↔ o = .notFound := by
  cases o <;> simp [Outcome.result]

/-! ## The base sensor -/

namespace Sensor

variable {w w' : Sensor F}

/-- The tasks of `w'` are those of `w` with results added that have their
errors. -/
abbrev Reports (w w' : Sensor F) : Prop :=
  Tasks.Grows (fun c : Completion => c.result.HasError) w.tasks w'.tasks

omit [GFloat F] in
theorem reports_refused {k : TaskInfo} (h : Refused k w w') : Reports w w' := by
  obtain ⟨e, htasks⟩ := h.tasks
  unfold Reports
  rw [htasks]
  refine (Tasks.grows_create _ _ _).trans (Tasks.grows_complete _ _ ?_)
  exact TaskResult.hasError_iff.mpr (by simp)

omit [GFloat F] in
theorem reports_started {k : TaskInfo} {req : Request F}
    (h : Started k req w w') : Reports w w' := by
  unfold Reports
  rw [h.tasks]
  exact Tasks.grows_create _ _ _

omit [GFloat F] in
theorem reports_sensorClose (cb : AsyncReadyCallback) (w : Sensor F) :
    Reports w (w.sensorClose cb) :=
  Tasks.grows_create _ _ _

theorem reports_sensorOpen {cb : AsyncReadyCallback}
    (h : w.sensorOpen cb = some w') : Reports w w' := by
  rcases sensorOpen_cases h with h | ⟨req, h⟩
  · exact reports_refused h
  · exact reports_started h

theorem reports_call {c : Call} (h : w.call c = some w') : Reports w w' := by
  by_cases hc : c = .sensorClose
  · subst hc
    cases called_of_call h with
    | sensorClose => exact reports_sensorClose _ w
  · rcases call_cases hc h with h | ⟨req, h⟩
    · exact reports_refused h
    · exact reports_started h

omit [GFloat F] in
/-- A send callback completes its task with TRUE or with the error it got. -/
theorem reports_sendReady (cb : SendCallback) (error : Option GError)
    (w : Sensor F) : Reports w (w.sendReady cb error) := by
  have herror : ∀ e, TaskResult.HasError (.error e) :=
    fun e => TaskResult.hasError_iff.mpr (by simp)
  have htrue : TaskResult.HasError (.boolean true) :=
    TaskResult.hasError_iff.mpr (by simp)
  have htask : ∀ t, Reports w (w.taskSendReady t error) := by
    intro t
    cases error with
    | none => exact Tasks.Grows.refl _ _
    | some e => exact Tasks.grows_complete _ _ (herror e)
  cases cb with
  | attributeReady => exact Tasks.Grows.refl _ _
  | discoveryReady t => exact htask t
  | waitForSensorServiceReady t => exact htask t
  | sensorOpenReady t => exact htask t
  | sensorCloseReady t =>
      cases error with
      | none => exact Tasks.grows_complete _ _ htrue
      | some e => exact Tasks.grows_complete _ _ (herror e)

/-- Every outcome but one has a result with an error, or TRUE, or none. -/
theorem reports_perform {t : ℕ} {o : Outcome F} (h : o ≠ .notFound) :
    Reports w (w.perform t o) := by
  unfold Reports
  rw [perform_tasks]
  cases hr : o.result with
  | none => exact Tasks.Grows.refl _ _
  | some r =>
      refine Tasks.grows_complete _ _ (TaskResult.hasError_iff.mpr ?_)
      show r ≠ .boolean false
      rintro rfl
      exact h (Outcome.result_eq_false.mp hr)

theorem perform_dataType (t : ℕ) (o : Outcome F) (w : Sensor F) :
    (w.perform t o).priv.dataType = w.priv.dataType := by
  rw [perform_priv]
  cases o <;> simp [Outcome.result, Outcome.update]

/-- A discovery response that lists no sensor does not make the service
available, so a later handler does not find it so either. -/
theorem isNotFound_of_perform {t : ℕ} {r : Report}
    (h : (w.perform t (w.priv.outcome pb r)).priv.IsNotFound pb r) :
    w.priv.IsNotFound pb r := by
  obtain ⟨hs, havail, hm⟩ := h
  rw [perform_dataType] at hm
  refine ⟨hs, ?_, hm⟩
  by_contra hno
  have hno : w.priv.serviceAvailable = false := by simpa using hno
  rw [perform_priv, SSCSensorPrivate.outcome_of_isSuid hs, hm] at havail
  simp only [SSCSensorPrivate.suidOutcome] at havail
  rw [if_neg (by simp), if_pos hno] at havail
  split_ifs at havail
  · exact absurd (hno.symm.trans havail) (by simp)
  · exact absurd (hno.symm.trans havail) (by simp)

theorem mem_freed_reportReceived {t u : ℕ} {r : Report} (h : u ∈ w.freed) :
    u ∈ (w.reportReceived pb t r).freed := by
  by_cases ht : t ∈ w.freed
  · rw [reportReceived_freed ht]
    exact h
  · rw [reportReceived_eq ht, perform_freed]
    cases (w.priv.outcome pb r).result with
    | none => exact h
    | some res => exact List.mem_append_left _ h

/-- No handler with a context is told that its sensor does not exist. -/
def SensorFound (pb : Protobuf F) (w : Sensor F) (r : Report) : Prop :=
  w.priv.IsNotFound pb r → ∀ id t, (id, .sensor t) ∈ w.listeners → t ∈ w.freed

/-- A report that finds its sensor completes tasks with errors or TRUE only. -/
theorem reports_emitReport {r : Report} (h : SensorFound pb w r) :
    Reports w (w.emitReport pb r) := by
  have hmain : Reports w (w.emitReport pb r) ∧
      ((w.emitReport pb r).priv.IsNotFound pb r → w.priv.IsNotFound pb r) ∧
      ∀ t ∈ w.freed, t ∈ (w.emitReport pb r).freed := by
    refine emitReport_preserves (P := fun v => Reports w v ∧
      (v.priv.IsNotFound pb r → w.priv.IsNotFound pb r) ∧
      ∀ t ∈ w.freed, t ∈ v.freed) ?_
      ⟨Tasks.Grows.refl _ _, fun hn => hn, fun _ ht => ht⟩
    rintro u id hu v ⟨hv, hfound, hfreed⟩
    have hfreed' : ∀ t ∈ w.freed, t ∈ (v.reportReceived pb u r).freed :=
      fun t ht => mem_freed_reportReceived (hfreed t ht)
    by_cases huf : u ∈ v.freed
    · refine ⟨?_, ?_, hfreed'⟩
      · rw [reportReceived_freed huf]
        exact hv
      · rw [reportReceived_freed huf]
        exact hfound
    · refine ⟨?_, ?_, hfreed'⟩
      · rw [reportReceived_eq huf]
        refine hv.trans (reports_perform ?_)
        intro ho
        have hnf := SSCSensorPrivate.outcome_eq_notFound.mp ho
        exact huf (hfreed u (h (hfound hnf) id u hu))
      · rw [reportReceived_eq huf]
        exact fun hn => hfound (isNotFound_of_perform hn)
  exact hmain.1

/-- All connected contexts belong to tasks that exist. -/
def Known (w : Sensor F) : Prop :=
  ∀ id t, (id, Closure.sensor t) ∈ w.report.handlers → t < w.tasks.size

/-- A report that tells a handler with a context that its sensor does not exist
completes a task with FALSE. -/
theorem false_of_not_sensorFound {r : Report} (hknown : Known w)
    (h : ¬ SensorFound pb w r) :
    ∃ t, ∃ c ∈ (w.emitReport pb r).tasks.returns t, c.result = .boolean false := by
  unfold SensorFound at h
  push Not at h
  obtain ⟨hnf, id, t, hmem, hlive⟩ := h
  refine emitReport_reaches
    (Q := fun v => ∃ t, ∃ c ∈ v.tasks.returns t, c.result = .boolean false)
    (mem_listeners_sensor.mp hmem) hlive ?_ ?_
  · -- a handler with a context completes its task with FALSE
    intro l id' u hmem hu
    have ho : SSCSensorPrivate.outcome pb w.priv r = .notFound :=
      SSCSensorPrivate.outcome_eq_notFound.mpr hnf
    have heq : Sensor.reportReceived pb u r { w with misuse := l } =
        Sensor.perform u .notFound { w with misuse := l } := by
      rw [← ho]
      exact reportReceived_eq (w := { w with misuse := l }) hu
    refine ⟨u, ⟨.boolean false, w.report.closure? w.priv.reportId⟩, ?_, rfl⟩
    rw [heq, returns_perform (w := { w with misuse := l }) (hknown id' u hmem)]
    simp [Outcome.result]
  · rintro v u ⟨t', d, hd, hdf⟩
    exact ⟨t', d, mem_returns_reportReceived hd, hdf⟩

/-! ### Contexts -/

omit [GFloat F] in
theorem known_of_report {w w' : Sensor F} (h : Known w)
    (hreport : ∀ x ∈ w'.report.handlers, x ∈ w.report.handlers)
    (hsize : w.tasks.size ≤ w'.tasks.size) : Known w' :=
  fun id t hmem => Nat.lt_of_lt_of_le (h id t (hreport _ hmem)) hsize

omit [GFloat F] in
theorem known_refused {k : TaskInfo} (h : Known w) (hw : Refused k w w') :
    Known w' := by
  obtain ⟨e, htasks⟩ := hw.tasks
  apply known_of_report h
  · rw [hw.report]
    exact fun _ hx => hx
  · rw [htasks]
    simp

omit [GFloat F] in
theorem known_started {k : TaskInfo} {req : Request F} (h : Known w)
    (hw : Started k req w w') : Known w' := by
  intro id t hmem
  rw [hw.tasks, Tasks.size_create]
  rw [hw.report, Signal.handlers_connect] at hmem
  rcases List.mem_append.mp hmem with hmem | hmem
  · exact Nat.lt_succ_of_lt (h id t hmem)
  · obtain rfl : t = w.tasks.size := by
      simpa using congrArg Prod.snd (List.mem_singleton.mp hmem)
    exact Nat.lt_succ_self _

theorem known_emitReport {r : Report} (h : Known w) :
    Known (w.emitReport pb r) := by
  have hmain : (∀ x ∈ (w.emitReport pb r).report.handlers,
      x ∈ w.report.handlers) ∧
      w.tasks.size ≤ (w.emitReport pb r).tasks.size := by
    refine emitReport_preserves (P := fun v =>
      (∀ x ∈ v.report.handlers, x ∈ w.report.handlers) ∧
        w.tasks.size ≤ v.tasks.size) ?_ ⟨fun _ hx => hx, Nat.le_refl _⟩
    rintro u id hu v ⟨hv, hsize⟩
    by_cases huf : u ∈ v.freed
    · rw [reportReceived_freed huf]
      exact ⟨hv, hsize⟩
    · rw [reportReceived_eq huf, perform_report, perform_tasks]
      cases (v.priv.outcome pb r).result with
      | none => exact ⟨hv, hsize⟩
      | some res =>
          refine ⟨fun x hx => hv x (Signal.mem_disconnect.mp hx).1, ?_⟩
          simpa using hsize
  exact known_of_report h hmain.1 hmain.2

omit [GFloat F] in
theorem known_sendReady (h : Known w) (cb : SendCallback)
    (error : Option GError) : Known (w.sendReady cb error) := by
  refine known_of_report h ?_ (reports_sendReady cb error w).size_le
  intro x hx
  cases cb <;> cases error <;> exact hx

theorem known_call {c : Call} (h : Known w) (hcall : w.call c = some w') :
    Known w' := by
  by_cases hc : c = .sensorClose
  · subst hc
    cases called_of_call hcall with
    | sensorClose =>
        exact known_of_report h (fun _ hx => hx) (reports_sensorClose _ w).size_le
  · rcases call_cases hc hcall with hw | ⟨req, hw⟩
    · exact known_refused h hw
    · exact known_started h hw

theorem known_sensorOpen {cb : AsyncReadyCallback} (h : Known w)
    (hopen : w.sensorOpen cb = some w') : Known w' := by
  rcases sensorOpen_cases hopen with hw | ⟨req, hw⟩
  · exact known_refused h hw
  · exact known_started h hw

end Sensor

/-! ## The drivers -/

namespace Driver

variable {d : Driver F S M} {w w' : DriverWorld F S M}

/-- No failed result without an error: the base tasks carry one, and a driver
task that fails carries that of its base task. -/
structure ErrorsSet (w : DriverWorld F S M) : Prop where
  base : ∀ b, ∀ c ∈ w.sensor.tasks.returns b, c.result.HasError
  driver : ∀ t, ∀ r ∈ w.tasks.returns t, r.propagateBoolean.1 = false →
    ∃ b task c e, w.sensor.tasks.find b = some task ∧
      task.kind.callback = .driver t ∧ c ∈ w.sensor.tasks.returns b ∧
      c.result = .error e ∧ r.propagateBoolean.2 = some e

/-- The report of the action, if it is one, finds its sensor. -/
def SensorFound (pb : Protobuf F) (w : DriverWorld F S M) : Action → Prop
  | .report r => w.sensor.SensorFound pb r
  | _ => True

/-- What an action that finds its sensor does to base and driver tasks. -/
structure Passes (w w' : DriverWorld F S M) : Prop where
  reports : w.sensor.Reports w'.sensor
  known : w.sensor.Known → w'.sensor.Known
  tasks : w.tasks.Grows (fun _ => False) w'.tasks ∨
    ∃ b op t c cs, w.sensor.tasks.find b = some ⟨⟨op, .driver t⟩, c :: cs⟩ ∧
      w'.sensor = w.sensor ∧
      w'.tasks = (taskReady t c.result w).tasks

theorem passes_act {a : Action} (hfound : SensorFound pb w a)
    (h : d.act pb w a = some w') : Passes w w' := by
  have hgrows : w.tasks.Grows (fun _ => False) w.tasks := Tasks.Grows.refl _ _
  cases step_of_act h with
  | call hs =>
      exact ⟨Sensor.reports_call hs, fun hk => Sensor.known_call hk hs,
        Or.inl hgrows⟩
  | newFinish => exact ⟨Tasks.Grows.refl _ _, fun hk => hk, Or.inl hgrows⟩
  | sensorOpen hs =>
      have hreports := Sensor.reports_sensorOpen hs
      refine ⟨hreports, ?_, Or.inl (Tasks.grows_create _ _ _)⟩
      intro hk
      refine Sensor.known_sensorOpen ?_ hs
      intro id t hmem
      rcases List.mem_append.mp hmem with hmem | hmem
      · exact hk id t hmem
      · exact absurd (congrArg Prod.snd (List.mem_singleton.mp hmem)) (by simp)
  | sensorClose =>
      refine ⟨?_, ?_, Or.inl ?_⟩
      · rw [sensorClose_eq]
        exact Tasks.grows_create _ _ _
      · intro hk
        apply Sensor.known_of_report hk
        · rw [sensorClose_handlers]
          exact fun x hx => List.mem_of_mem_filter hx
        · rw [sensorClose_eq]
          simp [Sensor.sensorClose, Sensor.clientSend]
      · rw [sensorClose_eq]
        exact Tasks.grows_create _ _ _
  | @sendReady i error r hi hr =>
      refine ⟨Sensor.reports_sendReady r.callback error
        { w.sensor with unready := w.sensor.unready.erase i }, ?_, Or.inl hgrows⟩
      intro hk
      have hk' : Sensor.Known { w.sensor with
          unready := w.sensor.unready.erase i } := hk
      exact Sensor.known_sendReady hk' r.callback error
  | report =>
      refine ⟨?_, ?_, Or.inl ?_⟩
      · rw [emitReport_sensor]
        exact Sensor.reports_emitReport hfound
      · rw [emitReport_sensor]
        exact fun hk => Sensor.known_emitReport hk
      · rw [emitReport_tasks]
        exact hgrows
  | @dispatch b t op c cs hfind hb =>
      rw [taskReady_eq]
      refine ⟨?_, ?_, Or.inr ⟨b, op, t, c, cs, hfind, ?_, ?_⟩⟩
      · split <;> exact Tasks.Grows.refl _ _
      · split <;> exact fun hk => hk
      · split <;> rfl
      · rw [taskReady_eq]
        split <;> rfl
  | idle _ => exact ⟨Tasks.Grows.refl _ _, fun hk => hk, Or.inl hgrows⟩

omit [GFloat F] in
/-- The results in a task's record are its results. -/
theorem returns_of_find {w : DriverWorld F S M} {b : ℕ} {k : TaskInfo}
    {l : List Completion} (h : w.sensor.tasks.find b = some ⟨k, l⟩) :
    w.sensor.tasks.returns b = l := by
  simp [Tasks.returns, h]

omit [GFloat F] in
theorem errorsSet_passes (h : ErrorsSet w) (hp : Passes w w') : ErrorsSet w' where
  base := hp.reports.forall h.base
  driver := by
    have hkeep : ∀ t, ∀ r ∈ w.tasks.returns t, r.propagateBoolean.1 = false →
        ∃ b task c e, w'.sensor.tasks.find b = some task ∧
          task.kind.callback = .driver t ∧ c ∈ w'.sensor.tasks.returns b ∧
          c.result = .error e ∧ r.propagateBoolean.2 = some e := by
      intro t r hr hfalse
      obtain ⟨b, task, c, e, hfind, hcb, hc, hce, hre⟩ := h.driver t r hr hfalse
      obtain ⟨task', hfind', hkind⟩ := hp.reports.kind b task hfind
      exact ⟨b, task', c, e, hfind', by rw [hkind]; exact hcb,
        hp.reports.mem hc, hce, hre⟩
    intro t r hr hfalse
    rcases hp.tasks with hgrows | ⟨b, op, u, c, cs, hfind, hsensor, htasks⟩
    · obtain ⟨l, hl, hno⟩ := hgrows.returns t
      rw [hl] at hr
      rcases List.mem_append.mp hr with hr | hr
      · exact hkeep t r hr hfalse
      · exact (hno r hr).elim
    · -- the callback of base task `b` has run and passed on its result
      rw [htasks] at hr
      cases hres : c.result with
      | boolean v =>
          cases v with
          | false =>
              simp only [taskReady, hres, TaskResult.propagateBoolean] at hr
              exact hkeep t r hr hfalse
          | true =>
              simp only [taskReady, hres, TaskResult.propagateBoolean] at hr
              rcases (Tasks.grows_complete (P := (· = .boolean true)) w.tasks u
                rfl).returns t with ⟨l, hl, hl'⟩
              rw [hl] at hr
              rcases List.mem_append.mp hr with hr | hr
              · exact hkeep t r hr hfalse
              · rw [hl' r hr] at hfalse
                exact absurd hfalse (by simp [TaskResult.propagateBoolean])
      | error e =>
          simp only [taskReady, hres, TaskResult.propagateBoolean] at hr
          by_cases htu : t = u
          · subst htu
            by_cases hlt : t < w.tasks.size
            · rw [Tasks.returns_complete_self hlt] at hr
              rcases List.mem_append.mp hr with hr | hr
              · exact hkeep t r hr hfalse
              · obtain rfl := List.mem_singleton.mp hr
                refine ⟨b, _, c, e, by rw [hsensor]; exact hfind, rfl, ?_, hres, rfl⟩
                rw [hsensor, returns_of_find hfind]
                exact List.mem_cons_self
            · rw [Tasks.returns_eq_nil_of_size_le
                (by simpa using Nat.le_of_not_lt hlt)] at hr
              exact absurd hr (by simp)
          · rw [Tasks.returns_complete_ne htu] at hr
            exact hkeep t r hr hfalse

theorem not_errorsSet_of_not_sensorFound {a : Action}
    (hknown : w.sensor.Known) (h : ¬ SensorFound pb w a)
    (hact : d.act pb w a = some w') : ¬ ErrorsSet w' := by
  cases step_of_act hact with
  | report =>
      obtain ⟨t, c, hc, hfalse⟩ := Sensor.false_of_not_sensorFound hknown h
      intro hbad
      rw [← emitReport_sensor] at hc
      exact TaskResult.hasError_iff.mp (hbad.base t c hc) hfalse
  | _ => exact absurd trivial h

/-- **Failed results carry an error exactly as long as every sensor is found.**
A client whose construction fails reports an error. In every run of a driver and
its base sensor from a new object on, whatever is called and whatever arrives,
every result that fails carries an error, that of a driver the error of its base
task, if and only if no discovery response tells a handler with a context that
its sensor does not exist. -/
theorem errorsSet_iff_sensorFound {p : SSCSensorPrivate F} {as : List Action}
    (hrun : exec (d.act pb) (d.world (Sensor.new p)) as = some w) :
    (∀ c : Construction, (Client.initableInitAsync c).2.HasError) ∧
    (Always (d.act pb) (d.world (Sensor.new p)) (fun _ w => ErrorsSet w) as ↔
      StepsMeet (d.act pb) (d.world (Sensor.new p))
        (fun _ w a => SensorFound pb w a) as) := by
  constructor
  · intro c
    rw [TaskResult.hasError_iff]
    rcases Client.initableInitAsync_result c with ⟨-, h⟩ | ⟨e, -, h⟩
    · simp [h]
    · simp [h]
  · have hall : StepsMeet (d.act pb) (d.world (Sensor.new p))
        (fun _ _ _ => True) as := fun _ _ _ _ _ => trivial
    refine always_iff_stepsMeet
      (I := fun _ w => ErrorsSet w ∧ w.sensor.Known) hrun hall ?_ ?_
      (fun _ _ h => h.1) ?_
    · refine ⟨⟨?_, ?_⟩, ?_⟩
      · intro b c hc
        exact absurd hc (by simp [world, Sensor.new, Tasks.returns, Tasks.find,
          Tasks.empty])
      · intro t r hr
        exact absurd hr (by simp [world, Tasks.returns, Tasks.find, Tasks.empty])
      · intro id t hmem
        exact absurd hmem (by simp [world, Sensor.new])
    · intro _ v a v' h _ hfound hact
      have hp := passes_act hfound hact
      exact ⟨errorsSet_passes h.1 hp, hp.known h.2⟩
    · intro _ v a v' h _ hfound hact
      exact not_errorsSet_of_not_sensorFound h.2 hfound hact

/-! An accelerometer that the service does not list: the init completes with
FALSE, and `new_finish` returns NULL without an error. -/

def accelAbsent : Protobuf ℚ :=
  .ofTables [([0], ⟨"registry", [⟨9, 9⟩]⟩), ([2], ⟨"accel", []⟩)] [] []

def accelNew : DriverWorld ℚ Unit (ℚ × ℚ × ℚ) :=
  accelerometer.toDriver.world (Sensor.new (sscSensorInit "accel"))

def accelNotFound : List Action :=
  [.call (.init none), .report ⟨768, SSC_SENSOR_UID_SUID, [0]⟩,
    .report ⟨768, SSC_SENSOR_UID_SUID, [2]⟩]

theorem errorsSet_broken_by_absence :
    ¬ Always (accelerometer.toDriver.act accelAbsent) accelNew
      (fun _ w => ErrorsSet w) accelNotFound := by
  intro h
  have hlast := h.last (s := (exec (accelerometer.toDriver.act accelAbsent)
    accelNew accelNotFound).get (by decide)) (by rfl)
  have herror := hlast.base 0 ⟨.boolean false, some (.sensor 0)⟩ (by decide)
  exact herror rfl rfl

theorem errorsSet_iff_sensorFound_accel :
    (∀ c : Construction, (Client.initableInitAsync c).2.HasError) ∧
    (Always (accelerometer.toDriver.act accelAbsent) accelNew
        (fun _ w => ErrorsSet w) accelNotFound ↔
      StepsMeet (accelerometer.toDriver.act accelAbsent) accelNew
        (fun _ w a => SensorFound accelAbsent w a) accelNotFound) :=
  errorsSet_iff_sensorFound
    (w := (exec (accelerometer.toDriver.act accelAbsent) accelNew
      accelNotFound).get (by decide)) (Option.some_get _).symm

end Driver

end Libssc

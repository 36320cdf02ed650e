import Libssc.Sensor
import Mathlib.Tactic.Common

/-!
# What the report handler does, by case

`report_received` is one nest of branches, but there are only eight things it
can do. `Outcome` names them, `outcome` computes which one a report leads to
from the private state alone, and `reportReceived_eq` says that the handler does
exactly that. The `perform_*` lemmas give the effect of an outcome on each part
of the state; the invariants of the later modules are read off from them and
never open the handler again.
-/

namespace Libssc

open Library

variable {F : Type} [GFloat F]

/-- What `report_received` does with one report. -/
inductive Outcome (F : Type) where
  | ignored
  | serviceFound
  | retry
  | noService
  | discovered (uid : SscUid)
  | notFound
  | attributes (msg : SscAttrResponse F)
  | enabled

/-- The callbacks that an init or open with task `t` gives its requests. -/
def SendCallback.IsFor (t : ℕ) (cb : SendCallback) : Prop :=
  cb = .attributeReady ∨ cb = .discoveryReady t ∨
    cb = .waitForSensorServiceReady t ∨ cb = .sensorOpenReady t

/-- A report that the handler reads as a discovery response. -/
abbrev Report.IsSuid (r : Report) : Prop :=
  r.uid = SSC_SENSOR_UID_SUID ∧ r.msgId = SSC_MSG_RESPONSE_SUID

namespace SSCSensorPrivate

/-- What a decoded discovery response leads to. -/
def suidOutcome (p : SSCSensorPrivate F) (m : SscSuidResponse) : Outcome F :=
  if m.uid ≠ [] ∧ m.dataType = "registry" then .serviceFound
  else if p.serviceAvailable = false then
    if MAX_RETRIES ≤ p.serviceRetries + 1 then .noService else .retry
  else if m.dataType ≠ p.dataType then .ignored
  else
    match m.uid with
    | u :: _ => .discovered u
    | [] => .notFound

/-- What a report leads to. -/
def outcome (pb : Protobuf F) (p : SSCSensorPrivate F) (r : Report) :
    Outcome F :=
  if r.IsSuid then
    match pb.suidResponseUnpack r.buf with
    | none => .ignored
    | some m => p.suidOutcome m
  else if r.uid = p.uid ∧ r.msgId = SSC_MSG_RESPONSE_GET_ATTRIBUTES then
    match pb.attrResponseUnpack r.buf with
    | none => .ignored
    | some m => .attributes m
  else if r.uid = p.uid ∧ r.msgId = SSC_MSG_RESPONSE_ENABLE_REPORT then
    match pb.configResponseUnpack r.buf with
    | none => .ignored
    | some _ => .enabled
  else if r.uid = p.uid ∧ (r.msgId = SSC_MSG_REPORT_MEASUREMENT ∨
      r.msgId = SSC_MSG_REPORT_MEASUREMENT_PROXIMITY) then .enabled
  else .ignored

/-- An attribute response for the sensor. -/
def IsAttributes (pb : Protobuf F) (p : SSCSensorPrivate F) (r : Report) :
    Prop :=
  r.uid = p.uid ∧ r.msgId = SSC_MSG_RESPONSE_GET_ATTRIBUTES ∧
    (pb.attrResponseUnpack r.buf).isSome

/-- A configuration update or a measurement of the sensor. -/
def IsEnabled (pb : Protobuf F) (p : SSCSensorPrivate F) (r : Report) : Prop :=
  ¬ r.IsSuid ∧ r.uid = p.uid ∧
    ((r.msgId = SSC_MSG_RESPONSE_ENABLE_REPORT ∧
        (pb.configResponseUnpack r.buf).isSome) ∨
      r.msgId = SSC_MSG_REPORT_MEASUREMENT ∨
      r.msgId = SSC_MSG_REPORT_MEASUREMENT_PROXIMITY)

/-- A discovery response that names the sensor's own data type and `u` as its
first UID, once the service is there. -/
def IsDiscovery (pb : Protobuf F) (p : SSCSensorPrivate F) (r : Report)
    (u : SscUid) : Prop :=
  r.IsSuid ∧ p.serviceAvailable = true ∧ p.dataType ≠ "registry" ∧
    ∃ us, pb.suidResponseUnpack r.buf = some ⟨p.dataType, u :: us⟩

/-- A discovery response that knows no sensor of the sensor's own data type,
once the service is there. -/
def IsNotFound (pb : Protobuf F) (p : SSCSensorPrivate F) (r : Report) :
    Prop :=
  r.IsSuid ∧ p.serviceAvailable = true ∧
    pb.suidResponseUnpack r.buf = some ⟨p.dataType, []⟩

variable {pb : Protobuf F} {p : SSCSensorPrivate F} {r : Report}

omit [GFloat F] in
theorem outcome_of_isSuid (h : r.IsSuid) :
    p.outcome pb r =
      match pb.suidResponseUnpack r.buf with
      | none => .ignored
      | some m => p.suidOutcome m := by
  unfold outcome
  rw [if_pos h]

omit [GFloat F] in
/-- A discovery response neither populates attributes nor enables a sensor. -/
theorem outcome_ne_of_isSuid (h : r.IsSuid) :
    (∀ m, p.outcome pb r ≠ .attributes m) ∧ p.outcome pb r ≠ .enabled := by
  rw [outcome_of_isSuid h]
  cases pb.suidResponseUnpack r.buf with
  | none => simp
  | some m =>
      simp only [suidOutcome]
      split_ifs
      · simp
      · simp
      · simp
      · simp
      · cases m.uid <;> simp

omit [GFloat F] in
/-- Only a discovery response discovers a sensor, or tells that there is none. -/
theorem outcome_ne_of_not_isSuid (h : ¬ r.IsSuid) :
    (∀ u, p.outcome pb r ≠ .discovered u) ∧ p.outcome pb r ≠ .notFound := by
  unfold outcome
  rw [if_neg h]
  split_ifs
  · cases pb.attrResponseUnpack r.buf <;> simp
  · cases pb.configResponseUnpack r.buf <;> simp
  · simp
  · simp

omit [GFloat F] in
theorem outcome_eq_attributes {m : SscAttrResponse F} :
    p.outcome pb r = .attributes m ↔
      r.uid = p.uid ∧ r.msgId = SSC_MSG_RESPONSE_GET_ATTRIBUTES ∧
        pb.attrResponseUnpack r.buf = some m := by
  by_cases hs : r.IsSuid
  · have hne : r.msgId ≠ SSC_MSG_RESPONSE_GET_ATTRIBUTES := by
      rw [hs.2]
      decide
    simp [(outcome_ne_of_isSuid hs).1 m, hne]
  · unfold outcome
    rw [if_neg hs]
    split_ifs with h₁ h₂ h₃
    · cases hm : pb.attrResponseUnpack r.buf with
      | none => simp
      | some m' => simp [h₁]
    · cases pb.configResponseUnpack r.buf with
      | none => simpa using fun ha hb => absurd ⟨ha, hb⟩ h₁
      | some m' => simpa using fun ha hb => absurd ⟨ha, hb⟩ h₁
    · simpa using fun ha hb => absurd ⟨ha, hb⟩ h₁
    · simpa using fun ha hb => absurd ⟨ha, hb⟩ h₁

omit [GFloat F] in
theorem outcome_eq_enabled :
    p.outcome pb r = .enabled ↔ p.IsEnabled pb r := by
  unfold IsEnabled
  by_cases hs : r.IsSuid
  · simp [(outcome_ne_of_isSuid hs).2, hs]
  · unfold outcome
    rw [if_neg hs]
    split_ifs with h₁ h₂ h₃
    · have hno : ¬ ((r.msgId = SSC_MSG_RESPONSE_ENABLE_REPORT ∧
          (pb.configResponseUnpack r.buf).isSome) ∨
          r.msgId = SSC_MSG_REPORT_MEASUREMENT ∨
          r.msgId = SSC_MSG_REPORT_MEASUREMENT_PROXIMITY) := by
        rw [h₁.2]
        rintro (⟨h, -⟩ | h | h)
        · exact absurd h (by decide)
        · exact absurd h (by decide)
        · exact absurd h (by decide)
      cases pb.attrResponseUnpack r.buf with
      | none => simp [hno]
      | some m' => simp [hno]
    · have hno : ¬ (r.msgId = SSC_MSG_REPORT_MEASUREMENT ∨
          r.msgId = SSC_MSG_REPORT_MEASUREMENT_PROXIMITY) := by
        rw [h₂.2]
        decide
      cases hm : pb.configResponseUnpack r.buf with
      | none => simp [hno]
      | some m' => simp [h₂, hs]
    · simp [h₃, hs]
    · constructor
      · intro h
        exact absurd h (by simp)
      · rintro ⟨-, huid, ⟨hmsg, -⟩ | hmsg⟩
        · exact absurd ⟨huid, hmsg⟩ h₂
        · exact absurd ⟨huid, hmsg⟩ h₃

omit [GFloat F] in
theorem outcome_eq_discovered {u : SscUid} :
    p.outcome pb r = .discovered u ↔ p.IsDiscovery pb r u := by
  unfold IsDiscovery
  by_cases hs : r.IsSuid
  · rw [outcome_of_isSuid hs]
    cases hm : pb.suidResponseUnpack r.buf with
    | none => simp
    | some m =>
        obtain ⟨d, us⟩ := m
        simp only [suidOutcome]
        split_ifs with h₁ h₂ h₃ h₄
        · constructor
          · intro h
            exact absurd h (by simp)
          · rintro ⟨-, -, hne, v, heq⟩
            obtain rfl : d = p.dataType :=
              congrArg SscSuidResponse.dataType (Option.some.inj heq)
            exact absurd h₁.2 hne
        · simp [h₂]
        · simp [h₂]
        · simp [h₄]
        · obtain rfl : d = p.dataType := by simpa using h₄
          cases us with
          | nil => simp
          | cons v vs =>
              have hreg : p.dataType ≠ "registry" := by simpa using h₁
              have havail : p.serviceAvailable = true := by simpa using h₂
              constructor
              · intro h
                obtain rfl : v = u := by simpa using h
                exact ⟨hs, havail, hreg, vs, rfl⟩
              · rintro ⟨-, -, -, us, heq⟩
                have huid := congrArg SscSuidResponse.uid (Option.some.inj heq)
                rw [List.head_eq_of_cons_eq huid]
  · simp [(outcome_ne_of_not_isSuid hs).1 u, hs]

omit [GFloat F] in
theorem outcome_eq_notFound :
    p.outcome pb r = .notFound ↔ p.IsNotFound pb r := by
  unfold IsNotFound
  by_cases hs : r.IsSuid
  · rw [outcome_of_isSuid hs]
    cases hm : pb.suidResponseUnpack r.buf with
    | none => simp
    | some m =>
        obtain ⟨d, us⟩ := m
        simp only [suidOutcome]
        split_ifs with h₁ h₂ h₃ h₄
        · simp [h₁.1]
        · simp [h₂]
        · simp [h₂]
        · simp [h₄]
        · obtain rfl : d = p.dataType := by simpa using h₄
          cases us with
          | nil =>
              have havail : p.serviceAvailable = true := by simpa using h₂
              exact ⟨fun _ => ⟨hs, havail, rfl⟩, fun _ => rfl⟩
          | cons v vs => simp
  · simp [(outcome_ne_of_not_isSuid hs).2, hs]

omit [GFloat F] in
/-- Everything else is ignored. -/
theorem outcome_eq_ignored (hs : ¬ r.IsSuid) (ha : ¬ p.IsAttributes pb r)
    (he : ¬ p.IsEnabled pb r) : p.outcome pb r = .ignored := by
  cases ho : p.outcome pb r with
  | ignored => rfl
  | attributes m =>
      obtain ⟨huid, hmsg, hm⟩ := outcome_eq_attributes.mp ho
      exact absurd ⟨huid, hmsg, by simp [hm]⟩ ha
  | enabled => exact absurd (outcome_eq_enabled.mp ho) he
  | discovered u => exact absurd (outcome_eq_discovered.mp ho).1 hs
  | notFound => exact absurd (outcome_eq_notFound.mp ho).1 hs
  | _ =>
      unfold outcome at ho
      rw [if_neg hs] at ho
      split_ifs at ho
      · cases hm : pb.attrResponseUnpack r.buf <;> simp [hm] at ho
      · cases hm : pb.configResponseUnpack r.buf <;> simp [hm] at ho

end SSCSensorPrivate

namespace Outcome

/-- The result the task is completed with, if it is. -/
def result : Outcome F → Option TaskResult
  | .noService =>
      some (.error (sscSensorError .noService "Sensor service unavailable"))
  | .notFound => some (.boolean false)
  | .attributes _ => some (.boolean true)
  | .enabled => some (.boolean true)
  | _ => none

/-- What becomes of the private state before a task is completed. -/
def update (o : Outcome F) (p : SSCSensorPrivate F) : SSCSensorPrivate F :=
  match o with
  | .serviceFound => { p with serviceAvailable := true }
  | .retry => { p with serviceRetries := p.serviceRetries + 1 }
  | .noService => { p with serviceRetries := p.serviceRetries + 1 }
  | .discovered u => { p with uid := u }
  | .attributes m => attributesReceived p m
  | _ => p

/-- The request that is sent, if one is; `p` is the updated private state. -/
def request (o : Outcome F) (t : ℕ) (p : SSCSensorPrivate F) :
    Option (Request F) :=
  match o with
  | .serviceFound => some
      { uid := SSC_SENSOR_UID_SUID
        msgId := SSC_MSG_REQUEST_SUID
        protobuf := some (.suid ⟨p.dataType, some false, some true⟩)
        callback := .discoveryReady t }
  | .retry => some
      { uid := SSC_SENSOR_UID_SUID
        msgId := SSC_MSG_REQUEST_SUID
        protobuf := some (.suid ⟨"registry", some false, some true⟩)
        callback := .waitForSensorServiceReady t }
  | .discovered u => some
      { uid := u
        msgId := SSC_MSG_REQUEST_GET_ATTRIBUTES
        protobuf := some (.attr ⟨some false⟩)
        callback := .attributeReady }
  | _ => none

/-- Whether the handler calls anything on the task. -/
def usesTask : Outcome F → Bool
  | .ignored => false
  | _ => true

end Outcome

omit [GFloat F] in
/-- A report completes the task with TRUE exactly in the two branches that do
not ask which operation the task belongs to. -/
theorem SSCSensorPrivate.outcome_result_true {pb : Protobuf F}
    {p : SSCSensorPrivate F} {r : Report} :
    (p.outcome pb r).result = some (.boolean true) ↔
      p.IsAttributes pb r ∨ p.IsEnabled pb r := by
  constructor
  · intro h
    cases ho : p.outcome pb r with
    | attributes m =>
        obtain ⟨huid, hmsg, hm⟩ := outcome_eq_attributes.mp ho
        exact Or.inl ⟨huid, hmsg, by simp [hm]⟩
    | enabled => exact Or.inr (outcome_eq_enabled.mp ho)
    | _ =>
        rw [ho] at h
        exact absurd h (by simp [Outcome.result])
  · rintro (⟨huid, hmsg, hm⟩ | h)
    · obtain ⟨m, hm⟩ := Option.isSome_iff_exists.mp hm
      rw [outcome_eq_attributes.mpr ⟨huid, hmsg, hm⟩]
      rfl
    · rw [outcome_eq_enabled.mpr h]
      rfl

omit [GFloat F] in
/-- Only discovery responses complete a task with anything but TRUE. -/
theorem SSCSensorPrivate.outcome_result_of_not_isSuid {pb : Protobuf F}
    {p : SSCSensorPrivate F} {r : Report} (h : ¬ r.IsSuid) :
    (p.outcome pb r).result = none ∨
      (p.outcome pb r).result = some (.boolean true) := by
  unfold outcome
  rw [if_neg h]
  split_ifs
  · cases pb.attrResponseUnpack r.buf with
    | none => exact Or.inl rfl
    | some m => exact Or.inr rfl
  · cases pb.configResponseUnpack r.buf with
    | none => exact Or.inl rfl
    | some m => exact Or.inr rfl
  · exact Or.inr rfl
  · exact Or.inl rfl

namespace Sensor

/-- Carry out an outcome for task `t`. -/
def perform (t : ℕ) (o : Outcome F) (w : Sensor F) : Sensor F :=
  let p := o.update w.priv
  let w := { w with priv := p }
  match o.result with
  | some r => w.finishReport t r
  | none =>
      match o.request t p with
      | some req => (w.useTask t).clientSend req
      | none => w

theorem suidReceived_eq (t : ℕ) (m : SscSuidResponse) (w : Sensor F) :
    w.suidReceived t m = w.perform t (w.priv.suidOutcome m) := by
  unfold suidReceived SSCSensorPrivate.suidOutcome
  split_ifs with h₁ h₂ h₃ h₄
  · rfl
  · exact if_pos h₃
  · exact if_neg h₃
  · rfl
  · cases m.uid with
    | nil => rfl
    | cons u us => rfl

/-- The handler does what `outcome` says, unless its context is gone. -/
theorem reportReceived_eq {pb : Protobuf F} {t : ℕ} {r : Report} {w : Sensor F}
    (h : t ∉ w.freed) :
    w.reportReceived pb t r = w.perform t (w.priv.outcome pb r) := by
  unfold reportReceived SSCSensorPrivate.outcome Report.IsSuid
  rw [if_neg h]
  split_ifs with h₁ h₂ h₃ h₄
  · cases pb.suidResponseUnpack r.buf with
    | none => rfl
    | some m => exact suidReceived_eq t m w
  · cases pb.attrResponseUnpack r.buf with
    | none => rfl
    | some m => rfl
  · cases pb.configResponseUnpack r.buf with
    | none => rfl
    | some m => rfl
  · rfl
  · rfl

theorem reportReceived_freed {pb : Protobuf F} {t : ℕ} {r : Report}
    {w : Sensor F} (h : t ∈ w.freed) :
    w.reportReceived pb t r = { w with misuse := w.misuse ++ [.context t] } := by
  unfold reportReceived
  rw [if_pos h]

/-! ## The effect of an outcome, part by part -/

variable (t : ℕ) (o : Outcome F) (w : Sensor F)

theorem perform_tasks : (w.perform t o).tasks =
    match o.result with
    | some r => w.tasks.complete t ⟨r, w.report.closure? w.priv.reportId⟩
    | none => w.tasks := by
  cases o with
  | attributes m =>
      simp [perform, Outcome.result, Outcome.update, finishReport, taskReturn,
        useTask]
  | _ => rfl

theorem perform_report : (w.perform t o).report =
    match o.result with
    | some _ => w.report.disconnect w.priv.reportId
    | none => w.report := by
  cases o with
  | attributes m =>
      simp [perform, Outcome.result, Outcome.update, finishReport, taskReturn,
        useTask]
  | _ => rfl

theorem perform_priv : (w.perform t o).priv =
    match o.result with
    | some _ => { o.update w.priv with reportId := 0 }
    | none => o.update w.priv := by
  cases o <;> rfl

theorem perform_freed : (w.perform t o).freed =
    match o.result with
    | some _ => w.freed ++ [t]
    | none => w.freed := by
  cases o <;> rfl

theorem perform_sent : (w.perform t o).sent =
    w.sent ++ (o.request t (o.update w.priv)).toList := by
  cases o <;> simp [perform, Outcome.result, Outcome.request, Outcome.update,
    finishReport, taskReturn, useTask, clientSend]

theorem perform_unready : (w.perform t o).unready =
    w.unready ++
      (o.request t (o.update w.priv)).toList.map (fun _ => w.sent.length) := by
  cases o <;> simp [perform, Outcome.result, Outcome.request, Outcome.update,
    finishReport, taskReturn, useTask, clientSend]

theorem perform_misuse : (w.perform t o).misuse =
    w.misuse ++
      if o.usesTask = false ∨ w.tasks.pending t = true then [] else [.use t] := by
  cases o <;> simp [perform, Outcome.result, Outcome.request, Outcome.usesTask,
    finishReport, taskReturn, useTask, clientSend]

variable {t o w}

/-- An outcome that does not complete the task keeps every handler. -/
theorem perform_report_of_none (h : o.result = none) :
    (w.perform t o).report = w.report := by
  rw [perform_report, h]

theorem returns_perform (h : t < w.tasks.size) :
    (w.perform t o).tasks.returns t = w.tasks.returns t ++
      (o.result.map (fun r =>
        Completion.mk r (w.report.closure? w.priv.reportId))).toList := by
  rw [perform_tasks]
  cases o.result with
  | none => simp
  | some r => exact Tasks.returns_complete_self h

/-- Reports never take a result away from a task. -/
theorem mem_returns_reportReceived {pb : Protobuf F} {r : Report} {t u : ℕ}
    {c : Completion}
    (h : c ∈ w.tasks.returns t) :
    c ∈ (w.reportReceived pb u r).tasks.returns t := by
  by_cases hu : u ∈ w.freed
  · rw [reportReceived_freed hu]
    exact h
  · rw [reportReceived_eq hu, perform_tasks]
    cases (w.priv.outcome pb r).result with
    | none => exact h
    | some res => exact Tasks.mem_returns_complete h

/-! ## Connected base handlers -/

omit [GFloat F] in
theorem mem_listeners {h : ℕ × Closure} :
    h ∈ w.listeners ↔ h ∈ w.report.handlers ∧ h.2 ≠ .driver := by
  simp [listeners]

omit [GFloat F] in
theorem mem_listeners_sensor {id t : ℕ} :
    (id, Closure.sensor t) ∈ w.listeners ↔
      (id, Closure.sensor t) ∈ w.report.handlers := by
  simp [mem_listeners]

omit [GFloat F] in
theorem listeners_connectReport (t : ℕ) (w : Sensor F) :
    (w.connectReport t).listeners =
      w.listeners ++ [(w.report.next, .sensor t)] := by
  simp [listeners, connectReport, List.filter_append]

/-- A completed task disconnects the handler that `report_id` names, of whatever
kind it is. -/
theorem filter_handlers_perform (f : ℕ × Closure → Bool) :
    (w.perform t o).report.handlers.filter f =
      match o.result with
      | some _ => (w.report.handlers.filter f).filter
          (fun h => decide (h.1 ≠ w.priv.reportId))
      | none => w.report.handlers.filter f := by
  rw [perform_report]
  cases o.result with
  | none => rfl
  | some r =>
      simp only [Signal.handlers_disconnect, List.filter_filter]
      exact List.filter_congr fun h _ => Bool.and_comm _ _

theorem listeners_perform : (w.perform t o).listeners =
    match o.result with
    | some _ => w.listeners.filter (fun h => decide (h.1 ≠ w.priv.reportId))
    | none => w.listeners :=
  filter_handlers_perform _

/-! ## Connected driver handlers -/

omit [GFloat F] in
theorem mem_driverHandlers {h : ℕ × Closure} :
    h ∈ w.driverHandlers ↔ h ∈ w.report.handlers ∧ h.2 = .driver := by
  simp [driverHandlers]

omit [GFloat F] in
theorem handlers_eq_nil :
    w.report.handlers = [] ↔ w.listeners = [] ∧ w.driverHandlers = [] := by
  constructor
  · intro h
    simp [listeners, driverHandlers, h]
  · rintro ⟨hl, hd⟩
    apply List.eq_nil_iff_forall_not_mem.mpr
    intro x hx
    by_cases hc : x.2 = .driver
    · have := mem_driverHandlers.mpr ⟨hx, hc⟩
      rw [hd] at this
      exact absurd this List.not_mem_nil
    · have := mem_listeners.mpr ⟨hx, hc⟩
      rw [hl] at this
      exact absurd this List.not_mem_nil

theorem driverHandlers_perform : (w.perform t o).driverHandlers =
    match o.result with
    | some _ => w.driverHandlers.filter (fun h => decide (h.1 ≠ w.priv.reportId))
    | none => w.driverHandlers :=
  filter_handlers_perform _

/-- A task that is completed disconnects no driver's handler as long as
`report_id` names none. -/
theorem driverHandlers_perform_of_ne
    (h : ∀ x ∈ w.driverHandlers, x.1 ≠ w.priv.reportId) :
    (w.perform t o).driverHandlers = w.driverHandlers := by
  rw [driverHandlers_perform]
  cases o.result with
  | none => rfl
  | some r => exact List.filter_eq_self.mpr fun x hx => by simpa using h x hx

/-- A base handler that `report_id` names disconnects no driver's handler. -/
theorem driverHandlers_perform_of_named {u : ℕ}
    (h : (w.priv.reportId, Closure.sensor u) ∈ w.report.handlers) :
    (w.perform t o).driverHandlers = w.driverHandlers := by
  apply driverHandlers_perform_of_ne
  rintro ⟨id, c⟩ hx
  obtain ⟨hmem, rfl⟩ := mem_driverHandlers.mp hx
  rintro rfl
  exact absurd (Signal.eq_of_mem h hmem) (by simp)

/-! ## Emission of a report -/

private theorem runClosure_driver (pb : Protobuf F) (r : Report) (c : Closure)
    (w : Sensor F) (h : (c != .driver) = false) : runClosure pb r c w = w := by
  obtain rfl : c = .driver := by simpa using h
  rfl

/-- With one base handler connected, an emission is that handler. -/
theorem emitReport_single {pb : Protobuf F} {r : Report} {id t : ℕ}
    (h : w.listeners = [(id, .sensor t)]) :
    w.emitReport pb r = w.reportReceived pb t r :=
  Signal.emit_single (runClosure_driver pb r) h

/-- With no base handler connected, an emission changes nothing. -/
theorem emitReport_none {pb : Protobuf F} {r : Report}
    (h : w.listeners = []) : w.emitReport pb r = w :=
  Signal.emit_none (runClosure_driver pb r) h

/-- The oldest base handler runs on the state before the emission, and what it
establishes stays if the later handlers keep it. -/
theorem emitReport_first {pb : Protobuf F} {r : Report} {P : Sensor F → Prop}
    {id t : ℕ} {rest : List (ℕ × Closure)}
    (h : w.listeners = (id, .sensor t) :: rest)
    (hfirst : P (w.reportReceived pb t r))
    (hrest : ∀ u x, (x, Closure.sensor u) ∈ rest → ∀ v : Sensor F, P v →
      P (v.reportReceived pb u r)) : P (w.emitReport pb r) := by
  apply Signal.emit_first (runClosure_driver pb r) h hfirst
  rintro ⟨x, c⟩ hx v hv
  cases c with
  | sensor u => exact hrest u x hx v hv
  | driver => exact hv

/-- What the handlers of all connected contexts preserve, an emission
preserves. -/
theorem emitReport_preserves {pb : Protobuf F} {r : Report}
    {P : Sensor F → Prop}
    (hrun : ∀ u id, (id, Closure.sensor u) ∈ w.listeners → ∀ v : Sensor F,
      P v → P (v.reportReceived pb u r))
    (hw : P w) : P (w.emitReport pb r) := by
  refine Signal.emit_preserves ?_ hw
  rintro ⟨x, c⟩ hx v hv
  cases c with
  | sensor u => exact hrun u x (mem_listeners_sensor.mpr hx) v hv
  | driver => exact hv

/-- Until a handler with a context of its own runs only freed contexts are used.
What that handler establishes holds in the end if the others keep it. -/
theorem emitReport_reaches {pb : Protobuf F} {r : Report} {Q : Sensor F → Prop}
    {id t : ℕ} (hmem : (id, Closure.sensor t) ∈ w.report.handlers)
    (hlive : t ∉ w.freed)
    (hfirst : ∀ l id' u, (id', Closure.sensor u) ∈ w.report.handlers →
      u ∉ w.freed → Q (Sensor.reportReceived pb u r { w with misuse := l }))
    (hkeep : ∀ (v : Sensor F) u, Q v → Q (v.reportReceived pb u r)) :
    Q (w.emitReport pb r) := by
  refine Signal.emit_reaches (h := (id, Closure.sensor t))
    (P := fun v : Sensor F => ∃ l, v = { w with misuse := l })
    hmem ⟨w.misuse, rfl⟩ ?_ ?_ ?_ ?_
  · rintro ⟨id', c⟩ hc v ⟨l, rfl⟩
    cases c with
    | driver => exact Or.inl ⟨l, rfl⟩
    | sensor u =>
        by_cases hu : u ∈ w.freed
        · exact Or.inl ⟨l ++ [Misuse.context u],
            reportReceived_freed (w := { w with misuse := l }) hu⟩
        · exact Or.inr (hfirst l id' u hc hu)
  · rintro ⟨id', c⟩ - v hv
    cases c with
    | driver => exact hv
    | sensor u => exact hkeep v u hv
  · rintro v ⟨l, rfl⟩
    exact List.mem_map.mpr ⟨_, hmem, rfl⟩
  · rintro v ⟨l, rfl⟩
    exact hfirst l id t hmem hlive

/-! ## What calls and events can do -/

/-- What a call does, by call. -/
inductive Called (w : Sensor F) : Call → Sensor F → Prop where
  | init (error : Option GError) (hclient : w.priv.client = false) :
      Called w (.init error) (w.initableInitAsync error)
  | sensorOpen {w' : Sensor F} (hclient : w.priv.client = true)
      (hopen : w.sensorOpen .user = some w') : Called w .sensorOpen w'
  | sensorClose (hclient : w.priv.client = true) :
      Called w .sensorClose (w.sensorClose .user)

theorem called_of_call {w w' : Sensor F} {c : Call} (h : w.call c = some w') :
    Called w c w' := by
  cases c with
  | init error =>
      simp only [call] at h
      split at h
      · exact absurd h (by simp)
      · rename_i hclient
        obtain rfl := Option.some.inj h
        exact .init error (by simpa using hclient)
  | sensorOpen =>
      simp only [call] at h
      split at h
      · rename_i hclient
        exact .sensorOpen hclient h
      · exact absurd h (by simp)
  | sensorClose =>
      simp only [call] at h
      split at h
      · rename_i hclient
        obtain rfl := Option.some.inj h
        exact .sensorClose hclient
      · exact absurd h (by simp)

omit [GFloat F] in
/-- A callback of an init or open: only the attribute request has no task. -/
theorem sendReady_of_isFor {cb : SendCallback} {t : ℕ} {w : Sensor F}
    (h : cb.IsFor t) (error : Option GError) :
    (cb.task = none ∧ w.sendReady cb error = w) ∨
      (cb.task = some t ∧ w.sendReady cb error = w.taskSendReady t error) := by
  rcases h with rfl | rfl | rfl | rfl
  · exact Or.inl ⟨rfl, rfl⟩
  · exact Or.inr ⟨rfl, rfl⟩
  · exact Or.inr ⟨rfl, rfl⟩
  · exact Or.inr ⟨rfl, rfl⟩

theorem step_cases {pb : Protobuf F} {w w' : Sensor F} {e : Event}
    (h : w.step pb e = some w') :
    (∃ i error r, e = .sendReady i error ∧ i ∈ w.unready ∧
      w.sent[i]? = some r ∧
      w' = ({ w with unready := w.unready.erase i }).sendReady
        r.callback error) ∨
    (∃ r, e = .report r ∧ w' = w.emitReport pb r) := by
  cases e with
  | report r => exact Or.inr ⟨r, rfl, (Option.some.inj h).symm⟩
  | sendReady i error =>
      simp only [step] at h
      split at h
      · rename_i r hr
        split at h
        · rename_i hi
          exact Or.inl ⟨i, error, r, rfl, hi, hr, (Option.some.inj h).symm⟩
        · exact absurd h (by simp)
      · exact absurd h (by simp)

/-- An operation that was refused: its task has failed at once. -/
structure Refused (k : TaskInfo) (w w' : Sensor F) : Prop where
  tasks : ∃ e, w'.tasks =
    (w.tasks.create k).complete w.tasks.size ⟨.error e, none⟩
  report : w'.report = w.report
  priv : w'.priv = w.priv
  sent : w'.sent = w.sent
  unready : w'.unready = w.unready
  freed : w'.freed = w.freed
  misuse : w'.misuse = w.misuse

/-- An operation that is under way: handler connected, first request sent. -/
structure Started (k : TaskInfo) (req : Request F) (w w' : Sensor F) :
    Prop where
  tasks : w'.tasks = w.tasks.create k
  report : w'.report = w.report.connect (.sensor w.tasks.size)
  reportId : w'.priv.reportId = w.report.next
  uid : w'.priv.uid = w.priv.uid
  dataType : w'.priv.dataType = w.priv.dataType
  sent : w'.sent = w.sent ++ [req]
  unready : w'.unready = w.unready ++ [w.sent.length]
  callback : req.callback.IsFor w.tasks.size
  freed : w'.freed = w.freed
  misuse : w'.misuse = w.misuse

omit [GFloat F] in
theorem refused_of_taskReturn (k : TaskInfo) (e : GError) (w : Sensor F) :
    Refused k w (({ w with tasks := w.tasks.create k }).taskReturn
      w.tasks.size (.error e) none) where
  tasks := ⟨e, rfl⟩
  report := rfl
  priv := rfl
  sent := rfl
  unready := rfl
  freed := rfl
  misuse := by
    simp [taskReturn, useTask, Tasks.pending_create_self]

theorem sensorOpen_cases {cb : AsyncReadyCallback} {w w' : Sensor F}
    (h : w.sensorOpen cb = some w') :
    Refused ⟨.sensorOpen, cb⟩ w w' ∨
      ∃ req, Started ⟨.sensorOpen, cb⟩ req w w' := by
  simp only [sensorOpen] at h
  have hstarted : ∀ req : Request F,
      req.callback = .sensorOpenReady w.tasks.size →
      Started ⟨.sensorOpen, cb⟩ req w
        ((({ w with tasks := w.tasks.create ⟨.sensorOpen, cb⟩ }).connectReport
          w.tasks.size).clientSend req) := by
    intro req hcb
    constructor
    case callback => exact Or.inr (Or.inr (Or.inr hcb))
    all_goals rfl
  split_ifs at h with h₁ h₂ h₃ h₄
  · obtain rfl := Option.some.inj h
    exact Or.inl (refused_of_taskReturn _ _ w)
  · obtain rfl := Option.some.inj h
    exact Or.inl (refused_of_taskReturn _ _ w)
  · obtain rfl := Option.some.inj h
    exact Or.inr ⟨_, hstarted _ rfl⟩
  · obtain rfl := Option.some.inj h
    exact Or.inr ⟨_, hstarted _ rfl⟩

omit [GFloat F] in
theorem initableInitAsync_cases (error : Option GError) (w : Sensor F) :
    Refused ⟨.init, .user⟩ w (w.initableInitAsync error) ∨
      ∃ req, Started ⟨.init, .user⟩ req w (w.initableInitAsync error) := by
  cases error with
  | some e => exact Or.inl (refused_of_taskReturn _ e w)
  | none =>
      refine Or.inr ⟨
        { uid := SSC_SENSOR_UID_SUID
          msgId := SSC_MSG_REQUEST_SUID
          protobuf := some (.suid ⟨"registry", some false, some true⟩)
          callback := .waitForSensorServiceReady w.tasks.size }, ?_⟩
      constructor
      case callback => exact Or.inr (Or.inr (Or.inl rfl))
      case misuse =>
        simp [initableInitAsync, clientReady, connectReport,
          waitForSensorService, useTask, clientSend,
          Tasks.pending_create_self]
      all_goals rfl

/-- The operation a call starts. -/
def callInfo : Call → TaskInfo
  | .init _ => ⟨.init, .user⟩
  | .sensorOpen => ⟨.sensorOpen, .user⟩
  | .sensorClose => ⟨.sensorClose, .user⟩

/-- An init or open is either refused or under way when the call returns. -/
theorem call_cases {w w' : Sensor F} {c : Call} (hc : c ≠ .sensorClose)
    (h : w.call c = some w') :
    Refused (callInfo c) w w' ∨ ∃ req, Started (callInfo c) req w w' := by
  cases called_of_call h with
  | init error => exact initableInitAsync_cases error w
  | sensorOpen _ hopen => exact sensorOpen_cases hopen
  | sensorClose => exact absurd rfl hc

end Sensor

end Libssc

import Libssc.SingleOperation

/-!
# Which replies complete which operation

`report_received` serves init and open, and its context does not say which of
the two it belongs to. An attribute response completes whatever task it finds,
and so do a configuration update and a measurement. This module says what each
operation should wait for (`Expected`), which replies belong to the other one
(`Foreign`), and that a run respects this exactly as long as no reply takes one
of the two branches out of turn (`InTurn`).
-/

namespace Libssc.Sensor

open Library

variable {F : Type} [GFloat F] {pb : Protobuf F} {w w' w₀ w₁ : Sensor F}

/-! ## Completions and stored UIDs -/

/-- The event completes task `t` with TRUE. -/
def ReturnsTrue (pb : Protobuf F) (t : ℕ) (w : Sensor F) (e : Event) : Prop :=
  ∃ w' c, w.step pb e = some w' ∧
    w'.tasks.returns t = w.tasks.returns t ++ [c] ∧ c.result = .boolean true

/-- The event completes task `t`. -/
def Returns (pb : Protobuf F) (t : ℕ) (w : Sensor F) (e : Event) : Prop :=
  ∃ w' c, w.step pb e = some w' ∧
    w'.tasks.returns t = w.tasks.returns t ++ [c]

/-- Among the events so far a discovery response for the sensor's own data type
told the connected handler the UID `u`. -/
def Stored (pb : Protobuf F) (w₁ : Sensor F) (pre : List Event) (u : SscUid) :
    Prop :=
  ∃ before r v, before ++ [.report r] <+: pre ∧
    exec (step pb) w₁ before = some v ∧ v.listeners ≠ [] ∧
    v.priv.IsDiscovery pb r u

/-! ## What an operation waits for -/

/-- The replies that may complete an operation with TRUE. -/
def Expected (pb : Protobuf F) (c : Call) (w₁ : Sensor F) (pre : List Event)
    (w : Sensor F) : Event → Prop
  | .sendReady _ _ => False
  | .report r =>
      match c with
      | .init _ => r.msgId = SSC_MSG_RESPONSE_GET_ATTRIBUTES ∧
          Stored pb w₁ pre r.uid
      | .sensorOpen => r.uid = w.priv.uid ∧
          (r.msgId = SSC_MSG_RESPONSE_ENABLE_REPORT ∨
            r.msgId = SSC_MSG_REPORT_MEASUREMENT ∨
            r.msgId = SSC_MSG_REPORT_MEASUREMENT_PROXIMITY)
      | .sensorClose => False

/-- The replies that belong to the other operation; during an init also an
attribute response that carries the initial UID before any was stored. -/
def Foreign (pb : Protobuf F) (c : Call) (w₁ : Sensor F) (pre : List Event) :
    Event → Prop
  | .sendReady _ _ => False
  | .report r =>
      match c with
      | .init _ => (¬ r.IsSuid ∧ (r.msgId = SSC_MSG_RESPONSE_ENABLE_REPORT ∨
            r.msgId = SSC_MSG_REPORT_MEASUREMENT ∨
            r.msgId = SSC_MSG_REPORT_MEASUREMENT_PROXIMITY)) ∨
          (r.msgId = SSC_MSG_RESPONSE_GET_ATTRIBUTES ∧ r.uid = ⟨0, 0⟩ ∧
            ¬ Stored pb w₁ pre r.uid)
      | .sensorOpen => r.msgId = SSC_MSG_RESPONSE_GET_ATTRIBUTES
      | .sensorClose => False

/-- An event in phase: it completes the operation with TRUE only if the
operation waits for it, and not at all if it belongs to the other one. -/
structure InPhase (pb : Protobuf F) (c : Call) (t : ℕ) (w₁ : Sensor F)
    (pre : List Event) (w : Sensor F) (e : Event) : Prop where
  expected : ReturnsTrue pb t w e → Expected pb c w₁ pre w e
  foreign : Foreign pb c w₁ pre e → ¬ Returns pb t w e

/-- While the handler is connected, an init sees no configuration update or
measurement of the UID it holds, and no attribute response for it before it was
stored; an open sees no attribute response for it. -/
def InTurn (pb : Protobuf F) (c : Call) (w₁ : Sensor F) (pre : List Event)
    (w : Sensor F) : Event → Prop
  | .sendReady _ _ => True
  | .report r => w.listeners ≠ [] →
      match c with
      | .init _ => ¬ w.priv.IsEnabled pb r ∧
          (w.priv.IsAttributes pb r → Stored pb w₁ pre r.uid)
      | .sensorOpen => ¬ w.priv.IsAttributes pb r
      | .sensorClose => True

/-! ## One event -/

/-- A send callback can only fail the task. -/
theorem not_returnsTrue_sendReady {t i : ℕ} {error : Option GError}
    (h : Sole t w) : ¬ ReturnsTrue pb t w (.sendReady i error) := by
  rintro ⟨w', c, hstep, hret, htrue⟩
  rcases sole_sendReady_cases h hstep with
    ⟨i', error', r, heq, hr, hfor, rfl⟩ | ⟨r, heq, -⟩
  · rcases sendReady_of_isFor hfor error' with ⟨-, hw⟩ | ⟨-, hw⟩
    · rw [hw] at hret
      exact absurd hret (by simp)
    · rw [hw] at hret
      cases error' with
      | none => exact absurd hret (by simp [taskSendReady, castTask])
      | some e =>
          simp only [taskSendReady, taskReturn, useTask, castTask] at hret
          rw [Tasks.returns_complete_self h.size] at hret
          have hc := List.append_cancel_left hret
          obtain rfl : c = ⟨.error e, none⟩ := by simpa using hc.symm
          exact absurd htrue (by simp)
  · exact absurd heq (by simp)

/-- What a report adds to the results of the task. -/
theorem sole_report_returns {t : ℕ} (h : Sole t w) (pb : Protobuf F)
    (r : Report) :
    ∃ d, (w.emitReport pb r).tasks.returns t = w.tasks.returns t ++
      (if w.listeners = [] then none
        else (w.priv.outcome pb r).result.map (Completion.mk · d)).toList := by
  rcases sole_report_cases h pb r with ⟨hl, heq⟩ | ⟨hl, -, heq⟩
  · exact ⟨none, by simp [heq, hl]⟩
  · refine ⟨w.report.closure? w.priv.reportId, ?_⟩
    rw [heq, returns_perform h.size, if_neg (by simp [hl])]

theorem returns_report_iff {t : ℕ} {r : Report} (h : Sole t w) :
    Returns pb t w (.report r) ↔
      w.listeners ≠ [] ∧ (w.priv.outcome pb r).result ≠ none := by
  obtain ⟨d, hd⟩ := sole_report_returns h pb r
  constructor
  · rintro ⟨w', c, hstep, hret⟩
    obtain rfl := Option.some.inj hstep
    rw [hret] at hd
    have hc := List.append_cancel_left hd
    constructor
    · intro hl
      rw [if_pos hl] at hc
      exact absurd hc (by simp)
    · intro hnone
      rw [hnone] at hc
      exact absurd hc (by simp)
  · rintro ⟨hl, hres⟩
    obtain ⟨res, hres⟩ := Option.ne_none_iff_exists'.mp hres
    exact ⟨_, ⟨res, d⟩, rfl, by rw [hd, if_neg hl, hres]; rfl⟩

theorem returnsTrue_report_iff {t : ℕ} {r : Report} (h : Sole t w) :
    ReturnsTrue pb t w (.report r) ↔
      w.listeners ≠ [] ∧ (w.priv.IsAttributes pb r ∨ w.priv.IsEnabled pb r) := by
  rw [← SSCSensorPrivate.outcome_result_true]
  obtain ⟨d, hd⟩ := sole_report_returns h pb r
  constructor
  · rintro ⟨w', c, hstep, hret, htrue⟩
    have hl := (returns_report_iff h).mp ⟨w', c, hstep, hret⟩
    obtain ⟨res, hres⟩ := Option.ne_none_iff_exists'.mp hl.2
    obtain rfl := Option.some.inj hstep
    rw [hret, if_neg hl.1, hres] at hd
    have hc := List.append_cancel_left hd
    obtain rfl : c = ⟨res, d⟩ := by simpa using hc
    exact ⟨hl.1, by rw [hres, ← htrue]⟩
  · rintro ⟨hl, hres⟩
    exact ⟨_, ⟨.boolean true, d⟩, rfl, by rw [hd, if_neg hl, hres]; rfl, rfl⟩

omit [GFloat F] in
/-- The message id of a configuration update or measurement is not that of an
attribute response. -/
theorem msgId_ne_of_isEnabled {p : SSCSensorPrivate F} {r : Report}
    (h : p.IsEnabled pb r) : r.msgId ≠ SSC_MSG_RESPONSE_GET_ATTRIBUTES := by
  rcases h with ⟨-, -, ⟨hmsg, -⟩ | hmsg | hmsg⟩
  · rw [hmsg]
    decide
  · rw [hmsg]
    decide
  · rw [hmsg]
    decide

omit [GFloat F] in
theorem expected_msgId_of_isEnabled {p : SSCSensorPrivate F} {r : Report}
    (h : p.IsEnabled pb r) :
    r.uid = p.uid ∧ (r.msgId = SSC_MSG_RESPONSE_ENABLE_REPORT ∨
      r.msgId = SSC_MSG_REPORT_MEASUREMENT ∨
      r.msgId = SSC_MSG_REPORT_MEASUREMENT_PROXIMITY) := by
  obtain ⟨-, huid, hmsg⟩ := h
  exact ⟨huid, hmsg.imp_left And.left⟩

/-- A report that is not a discovery response completes the task only in the
two branches that return TRUE. -/
theorem returns_of_not_isSuid {t : ℕ} {r : Report} (h : Sole t w)
    (hs : ¬ r.IsSuid) (hret : Returns pb t w (.report r)) :
    w.listeners ≠ [] ∧ (w.priv.IsAttributes pb r ∨ w.priv.IsEnabled pb r) := by
  obtain ⟨hl, hres⟩ := (returns_report_iff h).mp hret
  rcases SSCSensorPrivate.outcome_result_of_not_isSuid hs with hnone | htrue
  · exact absurd hnone hres
  · exact ⟨hl, SSCSensorPrivate.outcome_result_true.mp htrue⟩

/-- An event of an init is in phase if and only if it is in turn. -/
theorem inPhase_init_iff {t : ℕ} {error : Option GError} {pre : List Event}
    {r : Report} (h : Sole t w) :
    InPhase pb (.init error) t w₁ pre w (.report r) ↔
      InTurn pb (.init error) w₁ pre w (.report r) := by
  constructor
  · intro hp hl
    constructor
    · intro hen
      have hexp := hp.expected
        ((returnsTrue_report_iff h).mpr ⟨hl, Or.inr hen⟩)
      exact msgId_ne_of_isEnabled hen hexp.1
    · intro hattr
      exact (hp.expected
        ((returnsTrue_report_iff h).mpr ⟨hl, Or.inl hattr⟩)).2
  · intro ht
    constructor
    · intro hret
      obtain ⟨hl, hattr | hen⟩ := (returnsTrue_report_iff h).mp hret
      · exact ⟨hattr.2.1, (ht hl).2 hattr⟩
      · exact absurd hen (ht hl).1
    · rintro (⟨hs, hmsg⟩ | ⟨hmsg, huid, hno⟩) hret
      · obtain ⟨hl, hattr | hen⟩ := returns_of_not_isSuid h hs hret
        · rw [hattr.2.1] at hmsg
          exact absurd hmsg (by decide)
        · exact absurd hen (ht hl).1
      · have hs : ¬ r.IsSuid := by
          intro hs
          rw [hs.2] at hmsg
          exact absurd hmsg (by decide)
        obtain ⟨hl, hattr | hen⟩ := returns_of_not_isSuid h hs hret
        · exact absurd ((ht hl).2 hattr) hno
        · exact absurd hen (ht hl).1

/-- An event of an open is in phase if and only if it is in turn. -/
theorem inPhase_open_iff {t : ℕ} {pre : List Event} {r : Report}
    (h : Sole t w) :
    InPhase pb .sensorOpen t w₁ pre w (.report r) ↔
      InTurn pb .sensorOpen w₁ pre w (.report r) := by
  constructor
  · intro hp hl hattr
    have hexp := hp.expected
      ((returnsTrue_report_iff h).mpr ⟨hl, Or.inl hattr⟩)
    have hmsg := hexp.2
    rw [hattr.2.1] at hmsg
    exact absurd hmsg (by decide)
  · intro ht
    constructor
    · intro hret
      obtain ⟨hl, hattr | hen⟩ := (returnsTrue_report_iff h).mp hret
      · exact absurd hattr (ht hl)
      · exact expected_msgId_of_isEnabled hen
    · intro hmsg hret
      have hs : ¬ r.IsSuid := by
        intro hs
        rw [Foreign, hs.2] at hmsg
        exact absurd hmsg (by decide)
      obtain ⟨hl, hattr | hen⟩ := returns_of_not_isSuid h hs hret
      · exact ht hl hattr
      · exact msgId_ne_of_isEnabled hen hmsg

/-! ## All events -/

/-- **An operation is completed only by its own replies exactly as long as no
reply comes out of turn.** In every run of one init or open, every event is in
phase if and only if every event is in turn. -/
theorem inPhase_iff_inTurn {c : Call} {es : List Event} (hrest : w₀.AtRest)
    (hc : c ≠ .sensorClose) (hcall : w₀.call c = some w₁)
    (hrun : exec (step pb) w₁ es = some w) :
    StepsMeet (step pb) w₁ (InPhase pb c w₀.tasks.size w₁) es ↔
      StepsMeet (step pb) w₁ (InTurn pb c w₁) es := by
  have hall : StepsMeet (step pb) w₁ (fun _ _ _ => True) es :=
    fun _ _ _ _ _ => trivial
  refine stepsMeet_iff (I := fun _ w => Sole w₀.tasks.size w) hrun hall
    (sole_call hrest hc hcall) (fun _ _ _ _ h _ _ hstep => sole_step h hstep) ?_
  intro pre v e v' h _ hstep
  cases e with
  | sendReady i error =>
      have hp : InPhase pb c w₀.tasks.size w₁ pre v (.sendReady i error) :=
        { expected := fun hret => absurd hret (not_returnsTrue_sendReady h)
          foreign := fun hf => hf.elim }
      exact ⟨fun _ => trivial, fun _ => hp⟩
  | report r =>
      cases c with
      | init error => exact inPhase_init_iff h
      | sensorOpen => exact inPhase_open_iff h
      | sensorClose => exact absurd rfl hc

/-! A second attribute response reaches the proximity sensor while it is being
opened, and completes the open. -/

def attributesKnown : Protobuf ℚ := .ofTables [] [([], ⟨[]⟩)] []

theorem open_completed_by_attributes :
    ¬ StepsMeet (step attributesKnown) proximityOpened
      (InPhase attributesKnown .sensorOpen 0 proximityOpened)
      [.report ⟨SSC_MSG_RESPONSE_GET_ATTRIBUTES, ⟨1, 1⟩, []⟩] := by
  intro h
  have hphase := h [] _ List.prefix_rfl proximityOpened rfl
  exact hphase.foreign rfl
    ⟨(proximityOpened.step attributesKnown
        (.report ⟨SSC_MSG_RESPONSE_GET_ATTRIBUTES, ⟨1, 1⟩, []⟩)).get (by decide),
      ⟨.boolean true, some (.sensor 0)⟩, by rfl, by decide⟩

theorem inPhase_iff_inTurn_proximity :
    StepsMeet (step attributesKnown) proximityOpened
        (InPhase attributesKnown .sensorOpen 0 proximityOpened)
        [.sendReady 0 none, .report ⟨1025, ⟨1, 1⟩, []⟩] ↔
      StepsMeet (step attributesKnown) proximityOpened
        (InTurn attributesKnown .sensorOpen proximityOpened)
        [.sendReady 0 none, .report ⟨1025, ⟨1, 1⟩, []⟩] :=
  inPhase_iff_inTurn (c := .sensorOpen)
    (w := (exec (step attributesKnown) proximityOpened
      [.sendReady 0 none, .report ⟨1025, ⟨1, 1⟩, []⟩]).get (by decide))
    (atRest_new proximityMock) (by decide) (Option.some_get _).symm
    (Option.some_get _).symm

end Libssc.Sensor

import Libssc.Delivery
import Libssc.Listener

/-!
# After a close

A close disconnects the handler that the driver's last open connected when it is
called. If there is no other, nothing new is taken from then on. What has been
taken before is not given up: its idle sources have a lower priority than the
callbacks that complete the close, and the close does not look at them. Whatever
waits when the close completes is emitted afterwards.
-/

namespace Libssc

open Library

variable {F S M : Type} [GFloat F] {pb : Protobuf F}

namespace Sensor

variable {w w' : Sensor F}

/-- A call of the base sensor connects and disconnects no driver's handler. -/
theorem driverHandlers_call {c : Call} (h : w.call c = some w') :
    w'.driverHandlers = w.driverHandlers := by
  unfold driverHandlers
  by_cases hc : c = .sensorClose
  · subst hc
    cases called_of_call h with
    | sensorClose => rfl
  · rcases call_cases hc h with hw | ⟨req, hw⟩
    · rw [hw.report]
    · rw [hw.report]
      simp [List.filter_append]

/-- The base sensor's `report_id` is its own: a number that has been handed out,
or 0, and that of no driver's handler. -/
structure OwnId (w : Sensor F) : Prop where
  lt : w.priv.reportId < w.report.next
  ne : ∀ h ∈ w.driverHandlers, h.1 ≠ w.priv.reportId

theorem ownId_perform {t : ℕ} {o : Outcome F} (h : w.OwnId) :
    (w.perform t o).OwnId := by
  have hdrivers := driverHandlers_perform_of_ne (t := t) (o := o) h.ne
  have hpriv := perform_priv t o w
  have hreport := perform_report t o w
  cases hres : o.result with
  | none =>
      rw [hres] at hpriv hreport
      constructor
      · rw [hpriv, hreport, reportId_update]
        exact h.lt
      · rw [hpriv, hdrivers, reportId_update]
        exact h.ne
  | some res =>
      -- `report_id` becomes 0, which is no handler's number
      rw [hres] at hpriv hreport
      constructor
      · rw [hpriv, hreport]
        exact w.report.next_pos
      · intro x hx
        rw [hdrivers] at hx
        rw [hpriv]
        exact Nat.ne_of_gt (w.report.pos x (mem_driverHandlers.mp hx).1)

theorem ownId_reportReceived (h : w.OwnId) (t : ℕ) (r : Report) :
    (w.reportReceived pb t r).OwnId ∧
      (w.reportReceived pb t r).driverHandlers = w.driverHandlers := by
  by_cases hf : t ∈ w.freed
  · rw [reportReceived_freed hf]
    exact ⟨⟨h.lt, h.ne⟩, rfl⟩
  · rw [reportReceived_eq hf]
    exact ⟨ownId_perform h, driverHandlers_perform_of_ne h.ne⟩

theorem ownId_emitReport (h : w.OwnId) (r : Report) : (w.emitReport pb r).OwnId :=
  emitReport_preserves (fun _ _ _ _ hv => (ownId_reportReceived hv _ _).1) h

/-- The base handlers disconnect no driver's handler. -/
theorem driverHandlers_emitReport (h : w.OwnId) (r : Report) :
    (w.emitReport pb r).driverHandlers = w.driverHandlers := by
  refine (emitReport_preserves (P := fun v : Sensor F =>
    v.OwnId ∧ v.driverHandlers = w.driverHandlers) ?_ ⟨h, rfl⟩).2
  rintro t _ - v ⟨hv, heq⟩
  obtain ⟨hv', heq'⟩ := ownId_reportReceived hv t r
  exact ⟨hv', heq'.trans heq⟩

omit [GFloat F] in
/-- A driver that connects its handler gets a number of its own. -/
theorem ownId_connect (h : w.OwnId) :
    OwnId { w with report := w.report.connect .driver } where
  lt := Nat.lt_succ_of_lt h.lt
  ne := by
    intro x hx
    obtain ⟨hmem, hdriver⟩ := mem_driverHandlers.mp hx
    rcases List.mem_append.mp hmem with hold | hnew
    · exact h.ne x (mem_driverHandlers.mpr ⟨hold, hdriver⟩)
    · obtain rfl := List.mem_singleton.mp hnew
      exact Nat.ne_of_gt h.lt

omit [GFloat F] in
theorem ownId_refused {k : TaskInfo} (h : w.OwnId) (hw : Refused k w w') :
    w'.OwnId where
  lt := by
    rw [hw.priv, hw.report]
    exact h.lt
  ne := by
    unfold driverHandlers
    rw [hw.priv, hw.report]
    exact h.ne

omit [GFloat F] in
theorem ownId_started {k : TaskInfo} {req : Request F}
    (hw : Started k req w w') : w'.OwnId where
  lt := by
    rw [hw.reportId, hw.report]
    exact Nat.lt_succ_self _
  ne := by
    intro x hx
    obtain ⟨hmem, hdriver⟩ := mem_driverHandlers.mp hx
    rw [hw.reportId]
    rw [hw.report] at hmem
    rcases List.mem_append.mp hmem with hold | hnew
    · exact Nat.ne_of_lt (w.report.lt_next x hold)
    · obtain rfl := List.mem_singleton.mp hnew
      exact absurd hdriver (by simp)

theorem ownId_call {c : Call} (h : w.OwnId) (hw : w.call c = some w') :
    w'.OwnId := by
  by_cases hc : c = .sensorClose
  · subst hc
    cases called_of_call hw with
    | sensorClose => exact ⟨h.lt, h.ne⟩
  · rcases call_cases hc hw with hw | ⟨req, hw⟩
    · exact ownId_refused h hw
    · exact ownId_started hw

/-- Only a discovery response gives the sensor another UID. -/
theorem uid_reportReceived {r : Report} (hr : r.msgId ≠ SSC_MSG_RESPONSE_SUID)
    (t : ℕ) : (w.reportReceived pb t r).priv.uid = w.priv.uid := by
  by_cases hf : t ∈ w.freed
  · rw [reportReceived_freed hf]
  rw [reportReceived_eq hf, perform_priv]
  cases ho : w.priv.outcome pb r with
  | discovered u =>
      exact absurd (SSCSensorPrivate.outcome_eq_discovered.mp ho).1.2 hr
  | attributes m => exact attributesReceived_uid _ _
  | _ => rfl

end Sensor

namespace Driver

variable {d : Driver F S M} {w w' w₀ : DriverWorld F S M}

/-! ## Between opens -/

/-- Without an open no handler of the driver is connected anew. -/
theorem driverHandlers_act {a : Action} (ha : a ≠ .sensorOpen)
    (h : d.act pb w a = some w') :
    List.Sublist w'.sensor.driverHandlers w.sensor.driverHandlers := by
  cases step_of_act h with
  | call hs => rw [← Sensor.driverHandlers_call hs]
  | sensorOpen _ => exact absurd rfl ha
  | sensorClose =>
      unfold Sensor.driverHandlers
      rw [sensorClose_handlers]
      exact List.filter_sublist.filter _
  | sendReady _ _ =>
      unfold Sensor.driverHandlers
      rw [(Sensor.callbackRan_sendReady _ _ _).report]
  | report =>
      rw [emitReport_sensor]
      exact (Sensor.emitReport_handlers _ w.sensor).filter _
  | dispatch _ _ =>
      rw [taskReady_eq]
      split <;> exact List.Sublist.refl _
  | _ => exact List.Sublist.refl _

/-- Without a handler of the driver an emission runs those of the base sensor
only. -/
theorem emitReport_unobserved {P : DriverWorld F S M → Prop} {r : Report}
    (hnone : w.sensor.driverHandlers = [])
    (hsensor : ∀ t v, P v → P (d.runClosure pb r (.sensor t) v)) (hw : P w) :
    P (d.emitReport pb r w) := by
  apply Signal.emit_preserves _ hw
  rintro ⟨id, c⟩ hmem v hv
  cases c with
  | sensor t => exact hsensor t v hv
  | driver =>
      have hdriver := Sensor.mem_driverHandlers.mpr ⟨hmem, rfl⟩
      rw [hnone] at hdriver
      exact absurd hdriver List.not_mem_nil

/-- Without a handler of the driver nothing is taken. -/
theorem act_taken {a : Action} (hnone : w.sensor.driverHandlers = [])
    (h : d.act pb w a = some w') : taken w' = taken w := by
  cases step_of_act h with
  | sensorClose => rw [sensorClose_eq]; rfl
  | report =>
      exact emitReport_unobserved (P := fun v => taken v = taken w) hnone
        (fun _ _ hv => hv) rfl
  | dispatch _ _ =>
      rw [taskReady_eq]
      split <;> rfl
  | idle hidle => simp [taken, hidle]
  | _ => rfl

/-- What was emitted stays emitted. -/
theorem act_measurements {a : Action} (h : d.act pb w a = some w') :
    w.measurements <+: w'.measurements := by
  cases step_of_act h with
  | sensorClose => rw [sensorClose_eq]
  | report =>
      rw [show (d.emitReport pb _ w).measurements = w.measurements from
        congrArg (·.2.1) (emitReport_control _ w)]
  | dispatch _ _ =>
      rw [taskReady_eq]
      split <;> exact List.prefix_rfl
  | idle _ => exact List.prefix_append _ _
  | _ => exact List.prefix_rfl

/-! ## Runs without an open -/

/-- A run without an open that starts without a handler of the driver takes
nothing and loses nothing. -/
theorem run_taken {bs : List Action} (hnone : w.sensor.driverHandlers = [])
    (hbs : ∀ b ∈ bs, b ≠ .sensorOpen) (hrun : exec (d.act pb) w bs = some w') :
    taken w' = taken w ∧ w.measurements <+: w'.measurements := by
  have hscope : StepsMeet (d.act pb) w (fun _ _ a => a ≠ .sensorOpen) bs :=
    fun pre a hpre _ _ => hbs a (hpre.subset (by simp))
  have hinv : Always (d.act pb) w (fun _ v => v.sensor.driverHandlers = [] ∧
      taken v = taken w ∧ w.measurements <+: v.measurements) bs := by
    refine always_of_stepsMeet ⟨hnone, rfl, List.prefix_rfl⟩ ?_ hscope
    rintro pre v a v' ⟨hv, htaken, hm⟩ ha hact
    refine ⟨?_, (act_taken hv hact).trans htaken, hm.trans (act_measurements hact)⟩
    have hsub := driverHandlers_act ha hact
    rw [hv] at hsub
    exact List.sublist_nil.mp hsub
  exact (hinv.last hrun).2

/-! ## What can still be taken -/

/-- Measurements exist for the driver: whatever its private data, some payload
gives one, and no private data make it fail on that payload. -/
def Measures (d : Driver F S M) (pb : Protobuf F) : Prop :=
  ∀ s, ∃ msgId buf,
    (msgId = SSC_MSG_REPORT_MEASUREMENT ∨
      msgId = SSC_MSG_REPORT_MEASUREMENT_PROXIMITY) ∧
    (∀ p s', d.measure pb p s' msgId buf ≠ none) ∧
    ∀ p, ∃ s' m, d.measure pb p s msgId buf = some (s', some m)

omit [GFloat F] in
/-- A stream driver has measurements if some payload decodes to enough values
that it keeps. -/
theorem measures_stream (c : StreamSpec F M) {buf : GArray}
    {v : SscFloatResponse F} (hv : c.unpack pb buf = some v)
    (hneed : c.need ≤ v.length) (hkeep : c.keep v = true) :
    c.toDriver.Measures pb := by
  intro s
  refine ⟨SSC_MSG_REPORT_MEASUREMENT, buf, Or.inl rfl, fun _ _ => by
    simp [StreamDriver.toDriver], fun p => ⟨(), c.value p.mountMatrix v, ?_⟩⟩
  simp [StreamDriver.toDriver, c.convert_eq, hv, hneed, hkeep]

/-- The proximity driver has measurements if some payloads decode to "near" and
to "far": one of the two is a change. -/
theorem measures_proximity {near far : GArray}
    (hnear : pb.proximityResponseUnpack near = some ⟨1⟩)
    (hfar : pb.proximityResponseUnpack far = some ⟨0⟩) :
    proximity.Measures pb := by
  have hmeasure : ∀ buf v near, pb.proximityResponseUnpack buf = some ⟨v⟩ →
      proximityNear v.toInt = some near → ∀ p s,
        proximity.measure pb p s SSC_MSG_REPORT_MEASUREMENT_PROXIMITY buf =
          some (proximityChanged s near) := by
    intro buf v near hbuf hv p s
    simp [proximity, hbuf, hv]
  -- the value that is not the current one
  have hother : ∀ buf near, (∀ p s,
      proximity.measure pb p s SSC_MSG_REPORT_MEASUREMENT_PROXIMITY buf =
        some (proximityChanged s near)) → ∀ s : ProximityState, s.near ≠ near →
      ∃ msgId buf,
        (msgId = SSC_MSG_REPORT_MEASUREMENT ∨
          msgId = SSC_MSG_REPORT_MEASUREMENT_PROXIMITY) ∧
        (∀ p s', proximity.measure pb p s' msgId buf ≠ none) ∧
        ∀ p, ∃ s' m, proximity.measure pb p s msgId buf = some (s', some m) := by
    intro buf near h s hs
    refine ⟨_, buf, Or.inr rfl, fun p s' => by simp [h p s'], fun p =>
      ⟨⟨near, true⟩, near, ?_⟩⟩
    rw [h p s, proximityChanged, if_pos (Or.inl hs)]
  intro s
  cases hs : s.near with
  | false =>
      exact hother near true (hmeasure near 1 true hnear (by decide)) s (by simp [hs])
  | true =>
      exact hother far false (hmeasure far 0 false hfar (by decide)) s (by simp [hs])

theorem act_aborted {a : Action} (h : w.aborted = false)
    (hact : d.act pb w a = some w') : w'.aborted = false := by
  by_cases ha : ∃ r, a = .report r
  · obtain ⟨r, rfl⟩ := ha
    simp only [act] at hact
    split at hact
    · exact absurd hact (by simp)
    · rename_i hw
      obtain rfl := Option.some.inj hact
      simpa using hw
  · cases step_of_act hact with
    | sensorClose =>
        rw [sensorClose_eq]
        exact h
    | report => exact absurd ⟨_, rfl⟩ ha
    | dispatch _ _ =>
        rw [taskReady_eq]
        split <;> exact h
    | _ => exact h

theorem ownId_act {a : Action} (h : w.sensor.OwnId)
    (hact : d.act pb w a = some w') : w'.sensor.OwnId := by
  cases step_of_act hact with
  | call hs => exact Sensor.ownId_call h hs
  | sensorOpen hs =>
      rcases Sensor.sensorOpen_cases hs with hw | ⟨req, hw⟩
      · exact Sensor.ownId_refused (Sensor.ownId_connect h) hw
      · exact Sensor.ownId_started hw
  | sensorClose =>
      have hnext : (sensorClose w).sensor.report.next = w.sensor.report.next := by
        rw [sensorClose_eq]
        show Signal.next (if _ then _ else _) = _
        split <;> rfl
      have hpriv : (sensorClose w).sensor.priv = w.sensor.priv := by
        rw [sensorClose_eq]
        rfl
      refine ⟨?_, ?_⟩
      · rw [hpriv, hnext]
        exact h.lt
      · rw [hpriv]
        exact fun x hx => h.ne x ((driverHandlers_act (by simp) hact).subset hx)
  | sendReady _ _ =>
      refine ⟨?_, ?_⟩
      · rw [(Sensor.callbackRan_sendReady _ _ _).priv,
          (Sensor.callbackRan_sendReady _ _ _).report]
        exact h.lt
      · unfold Sensor.driverHandlers
        rw [(Sensor.callbackRan_sendReady _ _ _).priv,
          (Sensor.callbackRan_sendReady _ _ _).report]
        exact h.ne
  | report =>
      rw [emitReport_sensor]
      exact Sensor.ownId_emitReport h _
  | dispatch _ _ =>
      rw [taskReady_eq]
      split <;> exact h
  | _ => exact h

/-- What base handlers that run first leave to the driver's. -/
structure Untaken (w v : DriverWorld F S M) : Prop where
  aborted : v.aborted = false
  state : v.state = w.state
  uid : v.sensor.priv.uid = w.sensor.priv.uid
  own : v.sensor.OwnId
  drivers : v.sensor.driverHandlers = w.sensor.driverHandlers

/-- A handler of the driver that is connected can still take a measurement. -/
theorem exists_report_taken (hd : d.Measures pb) (hid : w.sensor.OwnId)
    (halive : w.aborted = false) (hne : w.sensor.driverHandlers ≠ []) :
    ∃ r w', d.act pb w (.report r) = some w' ∧ w'.idle ≠ [] := by
  obtain ⟨⟨id, c⟩, hmem⟩ := List.exists_mem_of_ne_nil _ hne
  obtain ⟨hconn, rfl⟩ := Sensor.mem_driverHandlers.mp hmem
  obtain ⟨msgId, buf, hmsg, hsafe, htake⟩ := hd w.state
  have hsuid : msgId ≠ SSC_MSG_RESPONSE_SUID := by
    rcases hmsg with rfl | rfl <;> decide
  have htaken : ∀ v, Untaken w v →
      (d.reportReceived pb ⟨msgId, w.sensor.priv.uid, buf⟩ v).aborted = false ∧
        (d.reportReceived pb ⟨msgId, w.sensor.priv.uid, buf⟩ v).idle ≠ [] := by
    intro v hv
    obtain ⟨s', m, hm⟩ := htake v.sensor.priv
    simp [reportReceived, hv.uid, hv.state, hm, hv.aborted]
  have hreaches :
      (d.emitReport pb ⟨msgId, w.sensor.priv.uid, buf⟩ w).aborted = false ∧
        (d.emitReport pb ⟨msgId, w.sensor.priv.uid, buf⟩ w).idle ≠ [] := by
    refine Signal.emit_reaches (h := (id, .driver)) (P := Untaken w)
      (Q := fun v : DriverWorld F S M => v.aborted = false ∧ v.idle ≠ [])
      hconn ⟨halive, rfl, rfl, hid, rfl⟩ ?_ ?_ ?_ htaken
    · rintro ⟨x, c⟩ - v hv
      cases c with
      | driver => exact Or.inr (htaken v hv)
      | sensor t =>
          exact Or.inl
            { aborted := hv.aborted
              state := hv.state
              uid := (Sensor.uid_reportReceived hsuid t).trans hv.uid
              own := (Sensor.ownId_reportReceived hv.own t _).1
              drivers := (Sensor.ownId_reportReceived hv.own t _).2.trans hv.drivers }
    · rintro ⟨x, c⟩ - v ⟨hv, hidle⟩
      cases c with
      | sensor t => exact ⟨hv, hidle⟩
      | driver =>
          -- a second handler may take the report too, and does not fail
          show (d.reportReceived pb _ v).aborted = false ∧
            (d.reportReceived pb _ v).idle ≠ []
          unfold reportReceived
          split_ifs
          · split
            · rename_i hnone
              exact absurd hnone (hsafe _ _)
            · exact ⟨hv, by simp [hidle]⟩
          · exact ⟨hv, hidle⟩
    · intro v hv
      have hmem : (id, Closure.driver) ∈ v.sensor.driverHandlers := by
        rw [hv.drivers]
        exact hmem
      exact List.mem_map.mpr ⟨_, (Sensor.mem_driverHandlers.mp hmem).1, rfl⟩
  refine ⟨⟨msgId, w.sensor.priv.uid, buf⟩, _, ?_, hreaches.2⟩
  simp only [act]
  rw [if_neg (by simp [hreaches.1])]

/-! ## Closing what was opened -/

/-- An opened driver, as far as closing it is concerned: `report_id` names its
only handler, and no handler is left once a close is pending. -/
structure Closable (w : DriverWorld F S M) : Prop where
  own : ∀ h ∈ w.sensor.driverHandlers, h.1 = w.reportId
  closing : ∀ t, w.tasks.kind? t = some .sensorClose →
    w.tasks.pending t = true → w.sensor.driverHandlers = []

theorem closable_act {a : Action} (h : Closable w) (ha : a ≠ .sensorOpen)
    (hact : d.act pb w a = some w') : Closable w' := by
  have hsub := driverHandlers_act ha hact
  constructor
  · intro x hx
    rw [act_reportId ha hact]
    exact h.own x (hsub.subset hx)
  · intro t hkind hp
    have hold : ∀ t, w.tasks.kind? t = some .sensorClose →
        w.tasks.pending t = true → w'.sensor.driverHandlers = [] := by
      intro t hk hp
      rw [h.closing t hk hp] at hsub
      exact List.sublist_nil.mp hsub
    rcases act_tasks hact with heq | ⟨rfl, -⟩ | ⟨rfl, heq⟩ |
      ⟨b, op, u, c, cs, -, -, -, rfl⟩
    · rw [heq] at hkind hp
      exact hold t hkind hp
    · exact absurd rfl ha
    · -- the call itself disconnects the handler
      cases step_of_act hact with
      | sensorClose =>
          unfold Sensor.driverHandlers
          rw [sensorClose_handlers, List.filter_eq_nil_iff]
          intro x hx hdriver
          obtain ⟨hmem, hne⟩ := List.mem_filter.mp hx
          have hown := h.own x (Sensor.mem_driverHandlers.mpr
            ⟨hmem, by simpa using hdriver⟩)
          simp [hown] at hne
    · rw [taskReady_eq] at hkind hp
      by_cases hfalse : c.result = .boolean false
      · rw [if_pos hfalse] at hkind hp
        exact hold t hkind hp
      · rw [if_neg hfalse] at hkind hp
        rw [Tasks.kind?_complete] at hkind
        exact hold t hkind (Tasks.pending_complete.mp hp).2

/-- Opens are called while no handler of the driver is connected and no close is
pending. -/
def OpenApart (w : DriverWorld F S M) : Action → Prop
  | .sensorOpen => w.sensor.driverHandlers = [] ∧
      ∀ t, w.tasks.kind? t = some .sensorClose → w.tasks.pending t = false
  | _ => True

theorem closable_open (h : OpenApart w .sensorOpen)
    (hact : d.act pb w .sensorOpen = some w') : Closable w' := by
  obtain ⟨hnone, hclosed⟩ := h
  have hdrivers := driverHandlers_open hact
  cases step_of_act hact with
  | sensorOpen hs =>
      constructor
      · intro x hx
        rw [hdrivers, hnone] at hx
        obtain rfl := List.mem_singleton.mp hx
        rfl
      · intro t hkind hp
        -- the new task is that of an open, and the others do not close
        exfalso
        have hold : t ≠ w.tasks.size := by
          rintro rfl
          rw [Tasks.kind?_create, if_pos rfl] at hkind
          exact absurd hkind (by simp)
        rw [Tasks.kind?_create, if_neg hold] at hkind
        have hpending := (Tasks.pending_create.mp hp).resolve_left hold
        rw [hclosed t hkind] at hpending
        exact absurd hpending (by simp)

/-! ## The signal is silent -/

/-- No run without an open emits a measurement. -/
def Silent (d : Driver F S M) (pb : Protobuf F) (w : DriverWorld F S M) : Prop :=
  ∀ bs v, (∀ b ∈ bs, b ≠ .sensorOpen) → exec (d.act pb) w bs = some v →
    v.measurements = w.measurements

theorem silent_of_drained (hidle : w.idle = [])
    (hnone : w.sensor.driverHandlers = []) : Silent d pb w := by
  intro bs v hbs hexec
  obtain ⟨htaken, hm⟩ := run_taken hnone hbs hexec
  unfold taken at htaken
  rw [hidle, List.append_nil] at htaken
  refine (hm.eq_of_length_le ?_).symm
  rw [← htaken, List.length_append]
  exact Nat.le_add_right _ _

/-- The idle source that has waited longest runs. -/
theorem Silent.idle_eq_nil (h : Silent d pb w) : w.idle = [] := by
  cases hidle : w.idle with
  | nil => rfl
  | cons m ms =>
      have hm := h [.idle] { w with
        idle := ms
        measurements := w.measurements ++ [m] } (by simp)
        (by simp [exec, act, emitSignal, hidle])
      exact absurd hm (by simp)

/-- A report that is taken would be emitted. -/
theorem Silent.driverHandlers_eq_nil (h : Silent d pb w) (hd : d.Measures pb)
    (hid : w.sensor.OwnId) (halive : w.aborted = false) :
    w.sensor.driverHandlers = [] := by
  by_contra hne
  obtain ⟨r, w', hact, hidle⟩ := exists_report_taken hd hid halive hne
  have hsilent : Silent d pb w' := by
    intro bs v hbs hexec
    have hrun : ∀ cs u, (∀ c ∈ cs, c ≠ .sensorOpen) → exec (d.act pb) w' cs = some u →
        u.measurements = w.measurements := by
      intro cs u hcs hu
      exact h (.report r :: cs) u (by simpa using hcs) (exec_cons.mpr ⟨w', hact, hu⟩)
    rw [hrun bs v hbs hexec, hrun [] w' (by simp) rfl]
  exact hidle hsilent.idle_eq_nil

/-- **After a close nothing is emitted exactly if nothing was left.** From a new
object on, a driver is opened, closed and used in any way. Once a close task has
completed with TRUE, no run without an open emits a measurement, if and only if
no idle source was waiting at that time and no handler of the driver was
connected. If opens are called only while none is connected and no close is
pending, none is left, and it is the idle sources alone that matter. -/
theorem silent_iff_drained {p : SSCSensorPrivate F} {as : List Action}
    {a : Action} {t : ℕ} (hp : p.reportId = 0)
    (hrun : exec (d.act pb) (d.world (Sensor.new p)) as = some w)
    (hact : d.act pb w a = some w')
    (hclosed : Completes .sensorClose t (.boolean true) w w') :
    (d.Measures pb →
      (Silent d pb w' ↔ w.idle = [] ∧ w.sensor.driverHandlers = [])) ∧
    (StepsMeet (d.act pb) (d.world (Sensor.new p)) (fun _ w a => OpenApart w a) as →
      (Silent d pb w' ↔ w.idle = [])) := by
  have hall : StepsMeet (d.act pb) (d.world (Sensor.new p)) (fun _ _ _ => True) as :=
    fun _ _ _ _ _ => trivial
  have hstart : (d.world (Sensor.new p)).sensor.OwnId := by
    refine ⟨?_, fun x hx => absurd hx List.not_mem_nil⟩
    show p.reportId < 1
    omega
  have hinv : Always (d.act pb) (d.world (Sensor.new p))
      (fun _ w => w.sensor.OwnId ∧ w.aborted = false) as :=
    always_of_stepsMeet ⟨hstart, rfl⟩ (fun _ _ _ _ h _ hact =>
      ⟨ownId_act h.1 hact, act_aborted h.2 hact⟩) hall
  obtain ⟨hid, halive⟩ := hinv.last hrun
  obtain ⟨b, op, c, cs, rfl, -, -, -, -, rfl⟩ := hclosed.dispatched hact
  constructor
  · intro hd
    constructor
    · intro h
      exact ⟨h.idle_eq_nil, h.driverHandlers_eq_nil hd hid halive⟩
    · rintro ⟨hidle, hnone⟩
      exact silent_of_drained hidle hnone
  · intro hopen
    have hclosable : Always (d.act pb) (d.world (Sensor.new p))
        (fun _ w => Closable w) as := by
      refine always_of_stepsMeet
        ⟨fun x hx => absurd hx List.not_mem_nil, fun t ht => ?_⟩ ?_ hopen
      · exact absurd (ht.symm.trans (Tasks.kind?_empty t)) (by simp)
      · intro _ v a v' h ha hact
        by_cases hopens : a = .sensorOpen
        · subst hopens
          exact closable_open ha hact
        · exact closable_act h hopens hact
    have hnone := (hclosable.last hrun).closing t hclosed.kind hclosed.pending
    exact ⟨fun h => h.idle_eq_nil, fun hidle => silent_of_drained hidle hnone⟩

/-! A light sensor is opened, its report arrives, the driver is closed, and the
idle source of the report runs after the close has completed. -/

def lightWorld : DriverWorld ℚ Unit ℚ :=
  lightSpec.toDriver.world (Sensor.new lightAvailable)

def lightClosing : List Action :=
  [.sensorOpen, .report ⟨1025, ⟨1, 1⟩, [30]⟩, .sendReady 0 none, .dispatch 0,
    .sensorClose, .sendReady 1 none]

def lightClosed : List Action := lightClosing ++ [.dispatch 1]

theorem emits_after_close :
    Completes .sensorClose 1 (.boolean true)
      ((exec (lightSpec.toDriver.act lightMock) lightWorld lightClosing).get
        (by decide))
      ((exec (lightSpec.toDriver.act lightMock) lightWorld lightClosed).get
        (by decide)) ∧
    ¬ Silent lightSpec.toDriver lightMock
      ((exec (lightSpec.toDriver.act lightMock) lightWorld lightClosed).get
        (by decide)) := by
  refine ⟨⟨by decide, by decide, by decide⟩, fun h => ?_⟩
  have hm := h [.idle] ((exec (lightSpec.toDriver.act lightMock) lightWorld
    (lightClosed ++ [.idle])).get (by decide)) (by simp) (by rfl)
  exact absurd hm (by decide)

theorem openApart_lightClosing :
    StepsMeet (lightSpec.toDriver.act lightMock) lightWorld
      (fun _ w a => OpenApart w a) lightClosing := by
  intro pre a hpre w hw
  cases a with
  | sensorOpen =>
      cases pre with
      | nil =>
          obtain rfl := Option.some.inj hw
          exact ⟨rfl, fun t ht => absurd (ht.symm.trans (Tasks.kind?_empty t)) (by simp)⟩
      | cons b pre =>
          -- the driver is opened once
          have htail := (List.cons_prefix_cons.mp hpre).2
          exact absurd (htail.subset (List.mem_append_right _ (List.mem_singleton_self _)))
            (by decide)
  | _ => trivial

theorem silent_iff_drained_light :
    (Silent lightSpec.toDriver lightMock
        ((exec (lightSpec.toDriver.act lightMock) lightWorld lightClosed).get
          (by decide)) ↔
      ((exec (lightSpec.toDriver.act lightMock) lightWorld lightClosing).get
        (by decide)).idle = [] ∧
      ((exec (lightSpec.toDriver.act lightMock) lightWorld lightClosing).get
        (by decide)).sensor.driverHandlers = []) ∧
    (Silent lightSpec.toDriver lightMock
        ((exec (lightSpec.toDriver.act lightMock) lightWorld lightClosed).get
          (by decide)) ↔
      ((exec (lightSpec.toDriver.act lightMock) lightWorld lightClosing).get
        (by decide)).idle = []) := by
  have hrun : exec (lightSpec.toDriver.act lightMock) lightWorld lightClosing =
      some _ := (Option.some_get (by decide)).symm
  have hact : lightSpec.toDriver.act lightMock
      ((exec (lightSpec.toDriver.act lightMock) lightWorld lightClosing).get
        (by decide)) (.dispatch 1) =
      some ((exec (lightSpec.toDriver.act lightMock) lightWorld lightClosed).get
        (by decide)) := by rfl
  obtain ⟨hall, hapart⟩ := silent_iff_drained (t := 1) rfl hrun hact
    ⟨by decide, by decide, by decide⟩
  have hthirty : lightMock.lightResponseUnpack [30] = some [30] := by decide
  exact ⟨hall (measures_stream lightSpec hthirty (by decide) (by decide)),
    hapart openApart_lightClosing⟩

end Driver

end Libssc

import Libssc.References
import Libssc.Silence

/-!
# What a sensor has been told about itself

A sensor learns its attributes from attribute responses. Whichever handlers of
the base sensor are connected when one arrives read it, that of an init or that
of an open, and reading it twice is no different from reading it once. Nothing
else changes an attribute.

So a run has told the sensor a list of attributes (`attributesHeard`), whatever
else happened in it, and each field holds the last value that the list has for
it (`attributeField_exec`).
-/

namespace Libssc

open Library

variable {F : Type} [GFloat F] {pb : Protobuf F} {α : Type}

/-! ## Fields that attributes set -/

/-- The fields of the private state that attributes are about. -/
def SSCSensorPrivate.attributes (p : SSCSensorPrivate F) :
    Option String × Option String × UInt32 × Bool × F × (Fin 3 → Fin 3 → F) :=
  (p.name, p.vendor, p.streamType, p.available, p.sampleRate, p.mountMatrix)

/-- `π` is a field of the attributes, and `v` reads its value from one. -/
structure AttributeField (π : SSCSensorPrivate F → α)
    (v : SscAttr F → Option α) : Prop where
  received : ∀ p a, π (attributeReceived p a) = (v a).getD (π p)
  stable : ∀ p q, p.attributes = q.attributes → π p = π q

theorem attributeField_streamType :
    AttributeField (F := F) SSCSensorPrivate.streamType
      (fieldValue SSC_ATTRIBUTE_STREAM_TYPE readInt) where
  received p a := by rw [attributeReceived_eq]
  stable _ _ h := congrArg (·.2.2.1) h

theorem attributeField_available :
    AttributeField (F := F) SSCSensorPrivate.available
      (fieldValue SSC_ATTRIBUTE_AVAILABLE readBool) where
  received p a := by rw [attributeReceived_eq]
  stable _ _ h := congrArg (·.2.2.2.1) h

theorem attributeField_sampleRate :
    AttributeField (F := F) SSCSensorPrivate.sampleRate
      (fieldValue SSC_ATTRIBUTE_SAMPLE_RATE firstSampleRate) where
  received p a := by rw [attributeReceived_eq]
  stable _ _ h := congrArg (·.2.2.2.2.1) h

/-- The attribute response in a report, if it is one of the sensor's and
decodes. -/
def Report.attrResponse? (pb : Protobuf F) (p : SSCSensorPrivate F)
    (r : Report) : Option (SscAttrResponse F) :=
  if r.uid = p.uid ∧ r.msgId = SSC_MSG_RESPONSE_GET_ATTRIBUTES then
    pb.attrResponseUnpack r.buf
  else none

omit [GFloat F] in
theorem attrResponse?_eq_some {p : SSCSensorPrivate F} {r : Report}
    {m : SscAttrResponse F} :
    r.attrResponse? pb p = some m ↔ p.outcome pb r = .attributes m := by
  rw [SSCSensorPrivate.outcome_eq_attributes]
  unfold Report.attrResponse?
  split_ifs with h
  · simp [h]
  · constructor
    · intro hm
      exact absurd hm (by simp)
    · rintro ⟨huid, hmsg, -⟩
      exact absurd ⟨huid, hmsg⟩ h

theorem attributes_update {o : Outcome F} (p : SSCSensorPrivate F)
    (ho : ∀ m, o ≠ .attributes m) :
    (o.update p).attributes = p.attributes := by
  cases o with
  | attributes m => exact absurd rfl (ho m)
  | _ => rfl

namespace Sensor

variable {w w' : Sensor F} {r : Report} {π : SSCSensorPrivate F → α}
  {v : SscAttr F → Option α}

/-! ## What leaves the attributes alone -/

/-- A report that is no attribute response of the sensor leaves its attributes
alone. -/
theorem attributes_reportReceived (t : ℕ)
    (hr : r.attrResponse? pb w.priv = none) :
    (w.reportReceived pb t r).priv.attributes = w.priv.attributes := by
  by_cases hf : t ∈ w.freed
  · rw [reportReceived_freed hf]
  · have hupdate := attributes_update (o := w.priv.outcome pb r) w.priv (by
      intro m ho
      rw [attrResponse?_eq_some.mpr ho] at hr
      exact absurd hr (by simp))
    rw [reportReceived_eq hf, perform_priv]
    cases (w.priv.outcome pb r).result with
    | none => exact hupdate
    | some _ => exact hupdate

theorem attributes_emitReport (hr : r.attrResponse? pb w.priv = none) :
    (w.emitReport pb r).priv.attributes = w.priv.attributes := by
  refine (emitReport_preserves (w := w) (P := fun s =>
    s.priv.attributes = w.priv.attributes ∧
      r.attrResponse? pb s.priv = none) ?_ ⟨rfl, hr⟩).1
  rintro t id - s ⟨hs, hno⟩
  refine ⟨(attributes_reportReceived t hno).trans hs, ?_⟩
  unfold Report.attrResponse? at hno ⊢
  by_cases hmsg : r.msgId = SSC_MSG_RESPONSE_GET_ATTRIBUTES
  · -- no handler changes the UID on an attribute response
    rw [uid_reportReceived (by rw [hmsg]; decide) t]
    exact hno
  · exact if_neg fun h => hmsg h.2

theorem attributes_call {c : Call} (h : w.call c = some w') :
    w'.priv.attributes = w.priv.attributes := by
  cases called_of_call h with
  | init error => cases error <;> rfl
  | sensorOpen _ hopen =>
      rw [sensorOpen_priv hopen]
      rfl
  | sensorClose => rfl

/-! ## What an attribute response does -/

/-- A handler that still reads reports: one of the base sensor whose context has
not been freed. -/
def reads (w : Sensor F) : Closure → Bool
  | .sensor t => decide (t ∉ w.freed)
  | .driver => false

/-- The attributes that an action tells the sensor: those of an attribute
response that some handler reads. -/
def attributesTold (pb : Protobuf F) : Sensor F × Action → List (SscAttr F)
  | (w, .event (.report r)) =>
      if w.report.handlers.any (fun h => w.reads h.2) then
        ((r.attrResponse? pb w.priv).map SscAttrResponse.attr).getD []
      else []
  | _ => []

/-- Nobody reads the report: it changes nothing but `misuse`. -/
theorem priv_emitReport_of_unread
    (h : w.report.handlers.any (fun h => w.reads h.2) = false) :
    (w.emitReport pb r).priv = w.priv := by
  refine (emitReport_preserves (w := w) (P := fun s =>
    s.priv = w.priv ∧ s.freed = w.freed) ?_ ⟨rfl, rfl⟩).1
  rintro t id hmem s ⟨hpriv, hfreed⟩
  have hunread := List.any_eq_false.mp h _ (mem_listeners_sensor.mp hmem)
  have hf : t ∈ w.freed := by simpa [reads] using hunread
  rw [reportReceived_freed (hfreed ▸ hf)]
  exact ⟨hpriv, hfreed⟩

/-- One handler reads an attribute response. -/
theorem attributeField_reportReceived (hπ : AttributeField π v) {t : ℕ}
    {m : SscAttrResponse F} (hf : t ∉ w.freed)
    (hm : r.attrResponse? pb w.priv = some m) :
    π (w.reportReceived pb t r).priv =
      (m.attr.filterMap v).getLast?.getD (π w.priv) := by
  rw [reportReceived_eq hf, perform_priv, attrResponse?_eq_some.mp hm]
  have hreportId : π { attributesReceived w.priv m with reportId := 0 } =
      π (attributesReceived w.priv m) := hπ.stable _ _ rfl
  exact hreportId.trans (attributesReceived_field hπ.received w.priv m)

/-- An attribute response that some handler reads sets the field as one reading
does, however many handlers read it. -/
theorem attributeField_emitReport_of_read (hπ : AttributeField π v)
    {m : SscAttrResponse F} (hm : r.attrResponse? pb w.priv = some m)
    (h : w.report.handlers.any (fun h => w.reads h.2) = true) :
    π (w.emitReport pb r).priv =
      (m.attr.filterMap v).getLast?.getD (π w.priv) := by
  obtain ⟨⟨id, c⟩, hmem, hreads⟩ := List.any_eq_true.mp h
  cases c with
  | driver => exact absurd hreads (by simp [reads])
  | sensor t =>
      have hlive : t ∉ w.freed := by simpa [reads] using hreads
      have hmsg : r.msgId = SSC_MSG_RESPONSE_GET_ATTRIBUTES :=
        (SSCSensorPrivate.outcome_eq_attributes.mp
          (attrResponse?_eq_some.mp hm)).2.1
      have huid : ∀ (s : Sensor F) u,
          (s.reportReceived pb u r).priv.uid = s.priv.uid :=
        fun s u => uid_reportReceived (by rw [hmsg]; decide) u
      have hread : ∀ (s : Sensor F) u, s.priv.uid = w.priv.uid → u ∉ s.freed →
          π (s.reportReceived pb u r).priv =
            (m.attr.filterMap v).getLast?.getD (π s.priv) := by
        intro s u hs hu
        apply attributeField_reportReceived hπ hu
        unfold Report.attrResponse? at hm ⊢
        rw [hs]
        exact hm
      refine (emitReport_reaches (Q := fun s => s.priv.uid = w.priv.uid ∧
        π s.priv = (m.attr.filterMap v).getLast?.getD (π w.priv))
        hmem hlive ?_ ?_).2
      · intro l _ u _ hu
        exact ⟨huid _ u, hread _ u rfl hu⟩
      · -- a second reading finds the same values
        rintro s u ⟨hs, hval⟩
        refine ⟨(huid s u).trans hs, ?_⟩
        by_cases hu : u ∈ s.freed
        · exact (congrArg (fun s : Sensor F => π s.priv)
            (reportReceived_freed hu)).trans hval
        · refine (hread s u hs hu).trans ?_
          rw [hval]
          cases (m.attr.filterMap v).getLast? <;> rfl

omit [GFloat F] in
theorem attributesTold_report (w : Sensor F) (r : Report) :
    attributesTold pb (w, .event (.report r)) =
      if w.report.handlers.any (fun h => w.reads h.2) then
        ((r.attrResponse? pb w.priv).map SscAttrResponse.attr).getD []
      else [] := rfl

/-- **A report sets each field to the last value it tells for it.** -/
theorem attributeField_emitReport (hπ : AttributeField π v) (r : Report) :
    π (w.emitReport pb r).priv =
      ((attributesTold pb (w, .event (.report r))).filterMap v).getLast?.getD
        (π w.priv) := by
  rw [attributesTold_report]
  cases hany : w.report.handlers.any (fun h => w.reads h.2) with
  | false =>
      rw [priv_emitReport_of_unread hany]
      rfl
  | true =>
      cases hm : r.attrResponse? pb w.priv with
      | none =>
          rw [hπ.stable _ _ (attributes_emitReport hm)]
          rfl
      | some m => exact attributeField_emitReport_of_read hπ hm hany

/-! ## Over a run -/

theorem attributeField_act (hπ : AttributeField π v) {a : Action}
    (h : w.act pb a = some w') :
    π w'.priv =
      ((attributesTold pb (w, a)).filterMap v).getLast?.getD (π w.priv) := by
  cases a with
  | call c => exact hπ.stable _ _ (attributes_call h)
  | event e =>
      rcases step_cases h with ⟨i, error, q, rfl, -, -, rfl⟩ | ⟨q, rfl, rfl⟩
      · show π (Sensor.sendReady _ _ _).priv = π w.priv
        rw [(callbackRan_sendReady _ _ _).priv]
      · exact attributeField_emitReport hπ q

/-- All attributes that a run has told the sensor, in order. -/
def attributesHeard (pb : Protobuf F) (w₀ : Sensor F) (as : List Action) :
    List (SscAttr F) :=
  (trace (act pb) w₀ as).flatMap (attributesTold pb)

/-- **Each field holds the last value the sensor has been told for it**, or still
its first one. -/
theorem attributeField_exec (hπ : AttributeField π v) {w₀ : Sensor F}
    {as : List Action} (h : exec (act pb) w₀ as = some w) :
    π w.priv =
      ((attributesHeard pb w₀ as).filterMap v).getLast?.getD (π w₀.priv) := by
  induction as using List.reverseRecOn generalizing w with
  | nil =>
      obtain rfl : w₀ = w := by simpa using h
      rfl
  | append_singleton as a ih =>
      obtain ⟨s, hs, hact⟩ := exec_snoc.mp h
      rw [attributeField_act hπ hact, ih hs]
      unfold attributesHeard
      rw [trace_snoc hs, List.flatMap_append, List.flatMap_singleton,
        List.filterMap_append, List.getLast?_append]
      cases ((attributesTold pb (s, a)).filterMap v).getLast? <;> rfl

end Sensor

end Libssc

import Libssc.Holders
import Libssc.Populating

/-!
# Opening a sensor

An open is refused, or it sends one request that enables the sensor and waits
for a report. Which of the two it does, and which request it sends, is decided by
three attributes: whether the sensor is available, its stream type and its
sample rate. What these hold is known from what the sensor has been told about
itself, since no other sample rate than a positive one is ever stored.

Sensors report stream types with 64 bits, and the object has 32 for them. There
are two that an open knows, and an assertion for the rest.
-/

namespace Libssc

open Library

variable {F : Type} [GFloat F] {pb : Protobuf F}

/-! ## What attributes report -/

omit [GFloat F] in
/-- The last stream type in a list of attributes; continuous if there is none. -/
def reportedStreamType (l : List (SscAttr F)) : UInt64 :=
  (l.filterMap (fieldValue SSC_ATTRIBUTE_STREAM_TYPE
    (fun vs => (single vs).bind SscAttrValue.i))).getLast?.getD 0

/-- Whether a list of attributes says in the end that the sensor is available. -/
def reportedAvailable (l : List (SscAttr F)) : Bool :=
  (l.filterMap (fieldValue SSC_ATTRIBUTE_AVAILABLE readBool)).getLast?.getD false

theorem firstSampleRate_pos {vs : List (SscAttrValue F)} {f : F}
    (h : firstSampleRate vs = some f) : GFloat.lt GFloat.zero f = true := by
  induction vs with
  | nil => exact absurd h (by simp [firstSampleRate])
  | cons v vs ih =>
      unfold firstSampleRate at h
      cases hv : v.f with
      | none =>
          rw [hv] at h
          exact ih h
      | some g =>
          rw [hv] at h
          by_cases hg : GFloat.lt GFloat.zero g = true
          · obtain rfl : g = f := by simpa [hg] using h
            exact hg
          · exact ih (by simpa [hg] using h)

namespace Sensor

variable {w w' : Sensor F} {d : String} {as : List Action}

/-- The field keeps the low 32 bits of the stream type that was reported. -/
theorem streamType_exec
    (h : exec (act pb) (Sensor.new (sscSensorInit d)) as = some w) :
    w.priv.streamType = (reportedStreamType
      (attributesHeard pb (Sensor.new (sscSensorInit d)) as)).toUInt32 := by
  have hread : fieldValue (F := F) SSC_ATTRIBUTE_STREAM_TYPE readInt =
      fun a => (fieldValue SSC_ATTRIBUTE_STREAM_TYPE
        (fun vs => (single vs).bind SscAttrValue.i) a).map UInt64.toUInt32 := by
    funext a
    unfold fieldValue
    split_ifs <;> rfl
  rw [attributeField_exec attributeField_streamType h, hread,
    ← List.map_filterMap, List.getLast?_map]
  unfold reportedStreamType
  cases (List.filterMap _ _).getLast? <;> rfl

theorem available_exec
    (h : exec (act pb) (Sensor.new (sscSensorInit d)) as = some w) :
    w.priv.available = reportedAvailable
      (attributesHeard pb (Sensor.new (sscSensorInit d)) as) :=
  attributeField_exec attributeField_available h

/-- A sensor has a positive sample rate or none. -/
theorem sampleRate_exec
    (h : exec (act pb) (Sensor.new (sscSensorInit d)) as = some w) :
    w.priv.sampleRate = GFloat.zero ∨
      GFloat.lt GFloat.zero w.priv.sampleRate = true := by
  rw [attributeField_exec attributeField_sampleRate h]
  cases hlast : ((attributesHeard pb (Sensor.new (sscSensorInit d)) as).filterMap
      (fieldValue SSC_ATTRIBUTE_SAMPLE_RATE firstSampleRate)).getLast? with
  | none => exact Or.inl rfl
  | some f =>
      obtain ⟨a, -, hf⟩ := List.mem_filterMap.mp (List.mem_of_getLast? hlast)
      unfold fieldValue at hf
      split_ifs at hf
      exact Or.inr (firstSampleRate_pos hf)

/-- The check of the open leaves only positive sample rates. -/
theorem pos_of_not_le (hzero : GFloat.le (GFloat.zero : F) GFloat.zero = true)
    (h : exec (act pb) (Sensor.new (sscSensorInit d)) as = some w)
    (hle : GFloat.le w.priv.sampleRate GFloat.zero = false) :
    GFloat.lt GFloat.zero w.priv.sampleRate = true := by
  apply (sampleRate_exec h).resolve_left
  intro heq
  rw [heq, hzero] at hle
  exact absurd hle (by simp)

/-! ## What an open may do -/

/-- A request that enables a sensor with stream type `T`: at the sample rate that
is stored, which has to be positive, or without a payload. -/
def Enables (p : SSCSensorPrivate F) (T : UInt64) (q : Request F) : Prop :=
  q.uid = p.uid ∧
    (T.toNat = SSC_STREAM_TYPE_CONTINUOUS.toNat ∧
        q.msgId = SSC_MSG_REQUEST_ENABLE_REPORT_CONTINUOUS ∧
        GFloat.lt GFloat.zero p.sampleRate = true ∧
        q.protobuf = some (.enableConfig { sampleRate := p.sampleRate }) ∨
      T.toNat = SSC_STREAM_TYPE_ON_CHANGE.toNat ∧
        q.msgId = SSC_MSG_REQUEST_ENABLE_REPORT_ON_CHANGE ∧ q.protobuf = none)

/-- The open has sent its one request and waits for an answer to it. -/
structure OpenStarted (T : UInt64) (w w' : Sensor F) : Prop where
  sent : ∃ q, w'.sent = w.sent ++ [q] ∧ Enables w.priv T q
  pending : w'.tasks.pending w.tasks.size = true
  handler : w'.report.handlers =
    w.report.handlers ++ [(w'.priv.reportId, .sensor w.tasks.size)]

/-- The open has failed, once and for all, and done nothing else. -/
structure OpenFailed (pb : Protobuf F) (w w' : Sensor F) : Prop where
  failed : ∃ e d, ∀ as v, exec (act pb) w' as = some v →
    v.tasks.returns w.tasks.size = [⟨.error e, d⟩]
  sent : w'.sent = w.sent
  report : w'.report = w.report
  priv : w'.priv = w.priv

/-- Opening a sensor with stream type `T` is well defined: the type is not
mistaken for another one, no assertion fails, and the open starts or fails. -/
structure OpenDefined (pb : Protobuf F) (T : UInt64) (w : Sensor F) : Prop where
  streamType : w.priv.streamType.toNat = T.toNat
  opens : ∀ cb, ∃ w', w.sensorOpen cb = some w' ∧
    (OpenStarted T w w' ∨ OpenFailed pb w w')

/-- A refused open has failed, and nobody holds its task. -/
theorem openFailed_of_refused {k : TaskInfo} (h : Refused k w w')
    (hno : ¬ w.Held w.tasks.size) : OpenFailed pb w w' where
  failed := by
    obtain ⟨e, htasks⟩ := h.tasks
    have hlt : w.tasks.size < (w.tasks.create k).size := by simp
    refine ⟨e, none, fun as v hv => ?_⟩
    have hno' : ¬ w'.Held w.tasks.size := by
      rw [held_congr (by rw [h.report]) h.sent]
      exact hno
    have hlt' : w.tasks.size < w'.tasks.size := by
      rw [htasks, Tasks.size_complete]
      exact hlt
    rw [returns_exec_of_not_held hlt' hno' hv, htasks,
      Tasks.returns_complete_self hlt, Tasks.returns_create,
      Tasks.returns_eq_nil_of_size_le (Nat.le_refl _)]
    rfl
  sent := h.sent
  report := h.report
  priv := h.priv

theorem openStarted_of_started {T : UInt64} {k : TaskInfo} {q : Request F}
    (h : Started k q w w') (hq : Enables w.priv T q) : OpenStarted T w w' where
  sent := ⟨q, h.sent, hq⟩
  pending := by
    rw [h.tasks]
    exact Tasks.pending_create_self _ _
  handler := by
    rw [h.report, h.reportId]
    rfl

/-- An open that an assertion does not stop fails, or starts with the request for
the stream type in the field. -/
theorem openStarted_or_openFailed {T : UInt64} {cb : AsyncReadyCallback}
    (hpos : GFloat.le w.priv.sampleRate GFloat.zero = false →
      GFloat.lt GFloat.zero w.priv.sampleRate = true)
    (hT : w.priv.streamType.toNat = T.toNat) (hno : ¬ w.Held w.tasks.size)
    (h : w.sensorOpen cb = some w') :
    OpenStarted T w w' ∨ OpenFailed pb w w' := by
  rcases sensorOpen_cases h with hw | ⟨q, hw⟩
  · exact Or.inr (openFailed_of_refused hw hno)
  · refine Or.inl (openStarted_of_started hw ?_)
    have hsent := hw.sent
    simp only [sensorOpen] at h
    split_ifs at h with h₁ h₂ h₃ h₄
    · -- refused, so that nothing would have been sent
      obtain rfl := Option.some.inj h
      exact absurd hsent (by simp [taskReturn, useTask])
    · obtain rfl := Option.some.inj h
      exact absurd hsent (by simp [taskReturn, useTask])
    · obtain rfl := Option.some.inj h
      obtain rfl := List.singleton_inj.mp (List.append_cancel_left hsent)
      refine ⟨rfl, Or.inl ⟨?_, rfl, hpos (by simpa using h₃), rfl⟩⟩
      rw [← hT, h₂]
    · obtain rfl := Option.some.inj h
      obtain rfl := List.singleton_inj.mp (List.append_cancel_left hsent)
      refine ⟨rfl, Or.inr ⟨?_, rfl, rfl⟩⟩
      rw [← hT, h₄]

/-- The assertion is reached for available sensors of any other stream type. -/
theorem sensorOpen_eq_none {cb : AsyncReadyCallback} :
    w.sensorOpen cb = none ↔ w.priv.available = true ∧
      w.priv.streamType ≠ SSC_STREAM_TYPE_CONTINUOUS ∧
      w.priv.streamType ≠ SSC_STREAM_TYPE_ON_CHANGE := by
  simp only [sensorOpen]
  split_ifs with h₁ h₂ h₃ h₄
  · simp [h₁]
  · simp [h₂]
  · simp [h₂]
  · simp [h₄]
  · simp [h₁, h₂, h₄]

/-- The assertion, in terms of a stream type that has not been mistaken. -/
theorem sensorOpen_eq_none_of_type {T : UInt64} {cb : AsyncReadyCallback}
    (hT : w.priv.streamType.toNat = T.toNat) :
    w.sensorOpen cb = none ↔ w.priv.available = true ∧ 1 < T.toNat := by
  have hcont : w.priv.streamType = SSC_STREAM_TYPE_CONTINUOUS ↔ T.toNat = 0 := by
    rw [← UInt32.toNat_inj, hT]
    rfl
  have hchange : w.priv.streamType = SSC_STREAM_TYPE_ON_CHANGE ↔ T.toNat = 1 := by
    rw [← UInt32.toNat_inj, hT]
    rfl
  rw [sensorOpen_eq_none, Ne, Ne, hcont, hchange]
  apply and_congr_right
  intro _
  omega

/-- **An open is well defined if and only if** the stream type the sensor reported
fits the field and, unless the sensor is not available anyway, is one of the two
that the open knows. -/
theorem openDefined_iff_reported {l : List (SscAttr F)}
    (hzero : GFloat.le (GFloat.zero : F) GFloat.zero = true)
    (hrun : exec (act pb) (Sensor.new (sscSensorInit d)) as = some w)
    (hl : attributesHeard pb (Sensor.new (sscSensorInit d)) as = l) :
    OpenDefined pb (reportedStreamType l) w ↔
      (reportedStreamType l).toNat < 2 ^ 32 ∧
      (reportedAvailable l = false ∨ (reportedStreamType l).toNat ≤ 1) := by
  have hno : ¬ w.Held w.tasks.size :=
    fun hheld => absurd (lt_size_of_held hrun hheld) (Nat.lt_irrefl _)
  have hstored := congrArg UInt32.toNat (streamType_exec hrun)
  have havailable := available_exec hrun
  rw [hl, UInt64.toNat_toUInt32] at hstored
  rw [hl] at havailable
  rw [← havailable]
  generalize reportedStreamType l = T at hstored ⊢
  constructor
  · intro h
    refine ⟨?_, ?_⟩
    · have := h.streamType
      omega
    · by_contra hbig
      rw [not_or, Bool.not_eq_false, Nat.not_le] at hbig
      obtain ⟨w', hw', -⟩ := h.opens .user
      rw [(sensorOpen_eq_none_of_type h.streamType).mpr hbig] at hw'
      exact absurd hw' (by simp)
  · rintro ⟨hlt, hknown⟩
    have hT : w.priv.streamType.toNat = T.toNat := by omega
    refine ⟨hT, fun cb => ?_⟩
    cases hopen : w.sensorOpen cb with
    | none =>
        obtain ⟨havail, hbig⟩ := (sensorOpen_eq_none_of_type hT).mp hopen
        rcases hknown with hfalse | hle
        · exact absurd havail (by simp [hfalse])
        · exact absurd hbig (Nat.not_lt.mpr hle)
    | some w' =>
        have hpos := pos_of_not_le hzero hrun
        exact ⟨w', rfl, openStarted_or_openFailed hpos hT hno hopen⟩

/-! An accelerometer that reports itself available and of stream type `T`. There is
no type 2, which the assertion stops, and 0x100000000 becomes a continuous sensor. -/

def accelReporting (T : UInt64) : Protobuf ℚ :=
  .ofTables [([0], ⟨"registry", [⟨9, 9⟩]⟩), ([1], ⟨"accel", [⟨1, 1⟩]⟩)]
    [([3], ⟨[⟨SSC_ATTRIBUTE_AVAILABLE, [⟨none, none, none, some true⟩]⟩,
      ⟨SSC_ATTRIBUTE_SAMPLE_RATE, [⟨none, some 5, none, none⟩]⟩,
      ⟨SSC_ATTRIBUTE_STREAM_TYPE, [⟨none, none, some T, none⟩]⟩]⟩)] []

def accelPopulated : List Action :=
  [.call (.init none), .event (.report ⟨768, SSC_SENSOR_UID_SUID, [0]⟩),
    .event (.report ⟨768, SSC_SENSOR_UID_SUID, [1]⟩),
    .event (.report ⟨128, ⟨1, 1⟩, [3]⟩)]

def accelHeard (T : UInt64) : List (SscAttr ℚ) :=
  attributesHeard (accelReporting T) (Sensor.new (sscSensorInit "accel"))
    accelPopulated

theorem openDefined_broken_by_streamType :
    (∃ w, exec (act (accelReporting 2)) (Sensor.new (sscSensorInit "accel"))
        accelPopulated = some w ∧
      ¬ OpenDefined (accelReporting 2) (reportedStreamType (accelHeard 2)) w) ∧
    ∃ w, exec (act (accelReporting 0x100000000))
        (Sensor.new (sscSensorInit "accel")) accelPopulated = some w ∧
      ¬ OpenDefined (accelReporting 0x100000000)
        (reportedStreamType (accelHeard 0x100000000)) w := by
  constructor
  · refine ⟨_, (Option.some_get (by decide)).symm, fun h => ?_⟩
    obtain ⟨w', hw', -⟩ := h.opens .user
    exact absurd (Option.isSome_iff_exists.mpr ⟨w', hw'⟩) (by decide)
  · refine ⟨_, (Option.some_get (by decide)).symm, fun h => ?_⟩
    exact absurd h.streamType (by decide)

theorem openDefined_iff_reported_accel :
    ∃ w, exec (act (accelReporting 1)) (Sensor.new (sscSensorInit "accel"))
        accelPopulated = some w ∧
      (OpenDefined (accelReporting 1) (reportedStreamType (accelHeard 1)) w ↔
        (reportedStreamType (accelHeard 1)).toNat < 2 ^ 32 ∧
        (reportedAvailable (accelHeard 1) = false ∨
          (reportedStreamType (accelHeard 1)).toNat ≤ 1)) :=
  have hrun : exec (act (accelReporting 1)) (Sensor.new (sscSensorInit "accel"))
      accelPopulated = some _ := (Option.some_get (by decide)).symm
  ⟨_, hrun, openDefined_iff_reported (decide_eq_true (le_refl (0 : ℚ))) hrun rfl⟩

end Sensor

end Libssc

import Libssc.Driver
import Libssc.Outcome

/-!
# From indications to measurements

A measurement passes three stages: the client takes the bodies out of an
envelope and emits `report` for each, the driver's handler picks those of its
sensor and leaves an idle source behind, and the idle source emits
`measurement`. What a driver has taken so far (`taken`) is what it has emitted
followed by what is waiting. A report adds to its end, an idle source moves the
border between the two parts, and nothing else touches it.
-/

namespace Libssc

open Library

variable {F M : Type} [GFloat F] {pb : Protobuf F}

/-! ## What a stream driver is for -/

/-- A stream driver and its purpose: every payload that decodes to `need` values
or more and passes `keep` becomes the measurement `value`, in which the mount
matrix may play a part. -/
structure StreamSpec (F M : Type) extends StreamDriver F M where
  unpack : Protobuf F → GArray → Option (SscFloatResponse F)
  need : ℕ
  keep : SscFloatResponse F → Bool
  value : (Fin 3 → Fin 3 → F) → SscFloatResponse F → M
  convert_eq : ∀ pb p buf, convert pb p buf =
    ((unpack pb buf).filter (fun v => decide (need ≤ v.length) && keep v)).map
      (value p.mountMatrix)

/-- The values of a response, 0 where it is too short. -/
def axis (v : SscFloatResponse F) (i : ℕ) : F := v.getD i GFloat.zero

def accelerometerSpec : StreamSpec F (F × F × F) where
  toStreamDriver := accelerometer
  unpack := Protobuf.accelerometerResponseUnpack
  need := 3
  keep _ := true
  value m v := mountVector m (axis v 0) (axis v 1) (axis v 2)
  convert_eq pb p buf := by
    simp only [accelerometer]
    rcases pb.accelerometerResponseUnpack buf with
      _ | (_ | ⟨x, _ | ⟨y, _ | ⟨z, v⟩⟩⟩) <;> simp [axis]

/-- The first three values of a decoded response, if there are three. -/
theorem bind_firstThree (o : Option (SscFloatResponse F)) :
    o.bind firstThree =
      (o.filter (fun v => decide (3 ≤ v.length) && true)).map
        (fun v => (axis v 0, axis v 1, axis v 2)) := by
  rcases o with _ | (_ | ⟨x, _ | ⟨y, _ | ⟨z, v⟩⟩⟩) <;> simp [axis, firstThree]

def magnetometerSpec : StreamSpec F (F × F × F) where
  toStreamDriver := magnetometer
  unpack := Protobuf.magnetometerResponseUnpack
  need := 3
  keep _ := true
  value _ v := (axis v 0, axis v 1, axis v 2)
  convert_eq _ _ _ := bind_firstThree _

def gyroscopeSpec : StreamSpec F (F × F × F) where
  toStreamDriver := gyroscope
  unpack := Protobuf.gyroscopeResponseUnpack
  need := 3
  keep _ := true
  value _ v := (axis v 0, axis v 1, axis v 2)
  convert_eq _ _ _ := bind_firstThree _

def lightSpec : StreamSpec F F where
  toStreamDriver := light
  unpack := Protobuf.lightResponseUnpack
  need := 1
  keep v := GFloat.le GFloat.zero (axis v 0)
  value _ v := axis v 0
  convert_eq pb p buf := by
    simp only [light]
    rcases pb.lightResponseUnpack buf with _ | (_ | ⟨x, v⟩)
    · rfl
    · simp
    · by_cases h : GFloat.le GFloat.zero x = true <;> simp [axis, h]

def compassSpec {F : Type} [GFloatMath F] : StreamSpec F F where
  toStreamDriver := compass
  unpack := Protobuf.rotationvectorResponseUnpack
  need := 4
  keep _ := true
  value _ v := calculateAzimuth (axis v 0) (axis v 1) (axis v 2) (axis v 3)
  convert_eq pb p buf := by
    simp only [compass]
    rcases pb.rotationvectorResponseUnpack buf with
      _ | (_ | ⟨x, _ | ⟨y, _ | ⟨z, _ | ⟨w, v⟩⟩⟩⟩) <;> simp [axis]

/-- What a report contributes to a driver of the sensor `uid`: the value of a
measurement of that sensor that decodes to `need` values or more and passes
`keep`. -/
def contribution (unpack : GArray → Option (SscFloatResponse F)) (need : ℕ)
    (keep : SscFloatResponse F → Bool) (value : SscFloatResponse F → M)
    (uid : SscUid) (r : Report) : Option M :=
  if r.uid = uid ∧ r.msgId = SSC_MSG_REPORT_MEASUREMENT then
    ((unpack r.buf).filter (fun v => decide (need ≤ v.length) && keep v)).map value
  else none

section Accepted

variable (take : SSCSensorPrivate F → Report → Option M)

/-- What reports contribute, one after the other, each with the UID and the
mount matrix that the sensor has when it arrives. -/
def accepted (pb : Protobuf F) : Sensor F → List Report → List M
  | _, [] => []
  | s, r :: rs => (take s.priv r).toList ++ accepted pb (s.emitReport pb r) rs

theorem accepted_append (s : Sensor F) (rs rs' : List Report) :
    accepted take pb s (rs ++ rs') = accepted take pb s rs ++
      accepted take pb (rs.foldl (fun s r => s.emitReport pb r) s) rs' := by
  induction rs generalizing s with
  | nil => rfl
  | cons r rs ih =>
      show _ ++ accepted take pb _ (rs ++ rs') = _
      rw [ih, ← List.append_assoc]
      rfl

/-- Without a base handler the UID and the mount matrix stay what they are, and
each report contributes on its own. -/
theorem accepted_of_listeners_eq_nil {s : Sensor F} (h : s.listeners = [])
    (rs : List Report) :
    accepted take pb s rs = rs.filterMap (take s.priv) := by
  induction rs with
  | nil => rfl
  | cons r rs ih =>
      show _ ++ accepted take pb (s.emitReport pb r) rs = _
      rw [Sensor.emitReport_none h, ih]
      cases ht : take s.priv r <;> simp [ht]

end Accepted

namespace StreamSpec

variable (c : StreamSpec F M)

/-- What a report contributes, given the private state of the sensor. -/
def take (pb : Protobuf F) (p : SSCSensorPrivate F) (r : Report) : Option M :=
  contribution (c.unpack pb) c.need c.keep (c.value p.mountMatrix) p.uid r

/-- A base handler that runs first does not change what a report contributes. -/
theorem take_reportReceived (s : Sensor F) (t : ℕ) (r : Report) :
    c.take pb (s.reportReceived pb t r).priv r = c.take pb s.priv r := by
  by_cases hf : t ∈ s.freed
  · rw [Sensor.reportReceived_freed hf]
  rw [Sensor.reportReceived_eq hf]
  by_cases hmsg : r.msgId = SSC_MSG_REPORT_MEASUREMENT
  · -- a measurement is no discovery and no attribute response
    have hs : ¬ r.IsSuid := fun hs => by
      rw [hs.2] at hmsg
      exact absurd hmsg (by decide)
    have ha : ¬ s.priv.IsAttributes pb r := fun ha => by
      rw [ha.2.1] at hmsg
      exact absurd hmsg (by decide)
    by_cases he : s.priv.IsEnabled pb r
    · rw [SSCSensorPrivate.outcome_eq_enabled.mpr he, Sensor.perform_priv]
      rfl
    · rw [SSCSensorPrivate.outcome_eq_ignored hs ha he, Sensor.perform_priv]
      rfl
  · unfold take contribution
    rw [if_neg (fun h => hmsg h.2), if_neg (fun h => hmsg h.2)]

end StreamSpec

/-! ## Handlers that stay connected -/

namespace Sensor

variable {s : Sensor F}

theorem reportReceived_handlers (t : ℕ) (r : Report) (s : Sensor F) :
    List.Sublist (s.reportReceived pb t r).report.handlers s.report.handlers := by
  by_cases hf : t ∈ s.freed
  · rw [reportReceived_freed hf]
  · rw [reportReceived_eq hf, perform_report]
    cases (s.priv.outcome pb r).result with
    | none => exact List.Sublist.refl _
    | some res => exact List.filter_sublist

/-- An emission connects no handler. -/
theorem emitReport_handlers (r : Report) (s : Sensor F) :
    List.Sublist (s.emitReport pb r).report.handlers s.report.handlers := by
  refine emitReport_preserves (P := fun v =>
    List.Sublist v.report.handlers s.report.handlers) ?_ (List.Sublist.refl _)
  intro u id _ v hv
  exact (reportReceived_handlers u r v).trans hv

theorem emitReports_handlers (rs : List Report) (s : Sensor F) :
    List.Sublist (rs.foldl (fun s r => s.emitReport pb r) s).report.handlers
      s.report.handlers := by
  induction rs generalizing s with
  | nil => exact List.Sublist.refl _
  | cons r rs ih => exact (ih _).trans (emitReport_handlers r s)

/-- Exactly one driver handler is connected. -/
def OneDriver (s : Sensor F) : Prop :=
  ∃ id, s.driverHandlers = [(id, .driver)]

omit [GFloat F] in
/-- One handler before and one after is the same one all the time. -/
theorem OneDriver.between {s' s'' : Sensor F} (h : s.OneDriver)
    (h'' : s''.OneDriver)
    (hsub : List.Sublist s'.report.handlers s.report.handlers)
    (hsub' : List.Sublist s''.report.handlers s'.report.handlers) :
    s'.driverHandlers = s.driverHandlers := by
  obtain ⟨id, hid⟩ := h
  obtain ⟨id'', hid''⟩ := h''
  have hs : List.Sublist s'.driverHandlers s.driverHandlers := hsub.filter _
  have hs' : List.Sublist s''.driverHandlers s'.driverHandlers := hsub'.filter _
  apply hs.eq_of_length_le
  have hlen := hs'.length_le
  rw [hid''] at hlen
  rw [hid]
  exact hlen

end Sensor

/-! ## Measurements taken -/

namespace Driver

variable {S : Type} {d : Driver F S M} {w w' w₀ : DriverWorld F S M}

/-- All measurements the driver has taken: those it has emitted, then those that
wait for their idle source. -/
def taken (w : DriverWorld F S M) : List M := w.measurements ++ w.idle

omit [GFloat F] in
/-- An idle source emits what was waiting longest. -/
theorem emitSignal_taken (h : emitSignal w = some w') :
    taken w' = taken w ∧ w'.sensor = w.sensor := by
  simp only [emitSignal] at h
  split at h
  · exact absurd h (by simp)
  · rename_i m ms hidle
    obtain rfl := Option.some.inj h
    simp [taken, hidle]

/-- No handler connects another one. -/
theorem mem_handlers_of_runClosure {r : Report} {id : ℕ} {cl : Closure}
    (h : id ∈ ((d.runClosure pb r cl w).sensor.report.handlers.map Prod.fst)) :
    id ∈ w.sensor.report.handlers.map Prod.fst := by
  cases cl with
  | driver =>
      rw [show (d.runClosure pb r .driver w).sensor = w.sensor from
        reportReceived_sensor r w] at h
      exact h
  | sensor t =>
      exact ((Sensor.reportReceived_handlers t r w.sensor).map _).subset h

/-- A driver's handler that the base sensor keeps is still there after the
emission. -/
theorem mem_handlers_emitReport {r : Report} {id : ℕ}
    (h : (id, Closure.driver) ∈ (w.sensor.emitReport pb r).driverHandlers) :
    id ∈ (d.emitReport pb r w).sensor.report.handlers.map Prod.fst := by
  have hmem := (Sensor.mem_driverHandlers.mp h).1
  rw [← emitReport_sensor (d := d)] at hmem
  exact List.mem_map.mpr ⟨_, hmem, rfl⟩

/-- **A report is taken exactly once**, wherever among the base handlers the
driver's handler is. -/
theorem emitReport_taken (c : StreamSpec F M) {w : DriverWorld F Unit M}
    {r : Report} (h : w.sensor.OneDriver)
    (hafter : (w.sensor.emitReport pb r).OneDriver) :
    taken (c.toDriver.emitReport pb r w) =
      taken w ++ (c.take pb w.sensor.priv r).toList := by
  have hsame : (w.sensor.emitReport pb r).driverHandlers =
      w.sensor.driverHandlers :=
    h.between hafter (Sensor.emitReport_handlers r w.sensor) (List.Sublist.refl _)
  obtain ⟨id, hid⟩ := h
  refine Signal.emit_once (p := fun x => x == Closure.driver)
    (P := fun v : DriverWorld F Unit M => taken v = taken w ∧
      c.take pb v.sensor.priv r = c.take pb w.sensor.priv r)
    (Q := fun v => taken v = taken w ++ (c.take pb w.sensor.priv r).toList)
    hid ⟨rfl, rfl⟩ ?_ ?_ ?_ ?_
  · rintro ⟨x, cl⟩ - hcl v
    cases cl with
    | driver => exact absurd hcl (by simp)
    | sensor t =>
        refine ⟨?_, fun hQ => hQ⟩
        rintro ⟨htaken, htake⟩
        exact ⟨htaken, (c.take_reportReceived v.sensor t r).trans htake⟩
  · rintro v ⟨htaken, htake⟩
    show taken (c.toDriver.reportReceived pb r v) = _
    rw [← htaken, ← htake]
    unfold reportReceived StreamSpec.take contribution
    by_cases huid : r.uid = v.sensor.priv.uid
    · by_cases hmsg : r.msgId = SSC_MSG_REPORT_MEASUREMENT
      · rw [if_pos huid, if_pos ⟨huid, hmsg⟩]
        simp only [StreamDriver.toDriver, if_pos hmsg, c.convert_eq]
        simp [taken]
      · rw [if_pos huid, if_neg (fun h => hmsg h.2)]
        simp only [StreamDriver.toDriver, if_neg hmsg]
        simp [taken]
    · rw [if_neg huid, if_neg (fun h => huid h.1)]
      simp
  · exact fun _ _ hmem => mem_handlers_of_runClosure hmem
  · apply mem_handlers_emitReport
    rw [hsame, hid]
    exact List.mem_singleton_self _

/-- The reports of an indication, one after the other. -/
theorem emitReports_taken (c : StreamSpec F M) {w : DriverWorld F Unit M}
    {rs : List Report} (h : w.sensor.OneDriver)
    (hafter : (rs.foldl (fun s r => s.emitReport pb r) w.sensor).OneDriver) :
    (rs.foldl (fun w r => c.toDriver.emitReport pb r w) w).sensor =
        rs.foldl (fun s r => s.emitReport pb r) w.sensor ∧
      taken (rs.foldl (fun w r => c.toDriver.emitReport pb r w) w) =
        taken w ++ accepted (c.take pb) pb w.sensor rs := by
  induction rs generalizing w with
  | nil => simp [accepted]
  | cons r rs ih =>
      have hmid : (w.sensor.emitReport pb r).OneDriver := by
        obtain ⟨id, hid⟩ := h
        exact ⟨id, (Sensor.OneDriver.between ⟨id, hid⟩ hafter
          (Sensor.emitReport_handlers r w.sensor)
          (Sensor.emitReports_handlers rs _)).trans hid⟩
      have hsensor : (c.toDriver.emitReport pb r w).sensor =
          w.sensor.emitReport pb r := emitReport_sensor r w
      have hr := emitReport_taken c h hmid
      rw [← hsensor] at hmid
      rw [List.foldl_cons, ← hsensor] at hafter
      obtain ⟨hs, ht⟩ := ih hmid hafter
      rw [List.foldl_cons, List.foldl_cons]
      refine ⟨by rw [hs, hsensor], ?_⟩
      rw [ht, hr, hsensor, List.append_assoc]
      rfl

/-! ## All deliveries -/

/-- The client's report indications arrive, and idle sources run, in any
order. -/
inductive Delivery where
  | indication (i : Client.Indication)
  | idle
deriving DecidableEq, Repr

def Delivery.indication? : Delivery → Option Client.Indication
  | .indication i => some i
  | .idle => none

def deliver (d : Driver F S M) (pb : Protobuf F) (w : DriverWorld F S M) :
    Delivery → Option (DriverWorld F S M)
  | .indication i => some (Client.indicationReceived pb (d.emitReport pb) i w)
  | .idle => emitSignal w

/-- The bodies of all envelopes, in order, each with the UID of its envelope.
An envelope that does not decode has none. -/
def reports (pb : Protobuf F) (es : List Delivery) : List Report :=
  (Client.envelopes pb (es.filterMap Delivery.indication?)).flatMap Client.bodies

omit [GFloat F] in
theorem reports_snoc (es : List Delivery) (e : Delivery) :
    reports pb (es ++ [e]) = reports pb es ++ reports pb [e] := by
  simp [reports, Client.envelopes]

/-- What a delivery takes. -/
theorem deliver_taken (c : StreamSpec F M) {w w' : DriverWorld F Unit M}
    {e : Delivery} (h : w.sensor.OneDriver) (h' : w'.sensor.OneDriver)
    (hstep : deliver c.toDriver pb w e = some w') :
    w'.sensor = (reports pb [e]).foldl (fun s r => s.emitReport pb r) w.sensor ∧
      taken w' = taken w ++ accepted (c.take pb) pb w.sensor (reports pb [e]) := by
  cases e with
  | idle =>
      obtain ⟨ht, hs⟩ := emitSignal_taken hstep
      have hnil : reports pb [.idle] = [] := rfl
      rw [hnil, ht, hs]
      simp [accepted]
  | indication i =>
      obtain rfl := Option.some.inj hstep
      have hreports : reports pb [.indication i] =
          (Client.envelopes pb [i]).flatMap Client.bodies := rfl
      rw [hreports, Client.indicationReceived_eq] at *
      -- the sensor sees the emissions whatever the driver takes
      have hsensor : ∀ (rs : List Report) (v : DriverWorld F Unit M),
          (rs.foldl (fun w r => c.toDriver.emitReport pb r w) v).sensor =
            rs.foldl (fun s r => s.emitReport pb r) v.sensor := by
        intro rs
        induction rs with
        | nil => exact fun _ => rfl
        | cons r rs ih =>
            intro v
            rw [List.foldl_cons, List.foldl_cons, ih, emitReport_sensor]
      rw [hsensor] at h'
      exact emitReports_taken c h h'

/-- Idle sources run until none is left. -/
theorem drain (d : Driver F S M) (pb : Protobuf F) (w : DriverWorld F S M) :
    exec (deliver d pb) w (List.replicate w.idle.length .idle) =
      some { w with
        idle := []
        measurements := taken w } := by
  generalize hidle : w.idle = ms
  induction ms generalizing w with
  | nil =>
      show some w = _
      rw [taken, hidle, List.append_nil, ← hidle]
  | cons m ms ih =>
      show exec _ w (Delivery.idle :: List.replicate ms.length Delivery.idle) = _
      have hstep : deliver d pb w .idle = some { w with
          idle := ms
          measurements := w.measurements ++ [m] } := by
        simp [deliver, emitSignal, hidle]
      simp only [exec, hstep]
      rw [ih _ rfl]
      simp [taken, hidle]

/-- The driver delivers what `take` makes of the reports, once and in order,
however they are batched. While exactly one of its handlers stays connected, any
indications arrive and idle sources run in between. When the idle sources that
are left have run, the driver has emitted what it had taken before, followed by
what the bodies of the envelopes contribute, in order. Without a base handler
each contributes on its own. Two runs with the same bodies emit the same. -/
def Delivers (d : Driver F Unit M) (pb : Protobuf F)
    (take : SSCSensorPrivate F → Report → Option M) : Prop :=
  ∀ (w₀ w : DriverWorld F Unit M) (es : List Delivery),
    Always (deliver d pb) w₀ (fun _ w => w.sensor.OneDriver) es →
    exec (deliver d pb) w₀ es = some w →
    (∃ w', exec (deliver d pb) w (List.replicate w.idle.length .idle) = some w' ∧
      w'.idle = [] ∧
      w'.measurements = w₀.measurements ++ w₀.idle ++
        accepted take pb w₀.sensor (reports pb es)) ∧
    (w₀.sensor.listeners = [] → accepted take pb w₀.sensor (reports pb es) =
      (reports pb es).filterMap (take w₀.sensor.priv)) ∧
    ∀ es' v, reports pb es' = reports pb es →
      Always (deliver d pb) w₀ (fun _ w => w.sensor.OneDriver) es' →
      exec (deliver d pb) w₀ es' = some v → taken v = taken w

/-- A run takes what the bodies of its envelopes contribute. -/
theorem taken_of_exec (c : StreamSpec F M) {w₀ w : DriverWorld F Unit M}
    {es : List Delivery}
    (hone : Always (deliver c.toDriver pb) w₀ (fun _ w => w.sensor.OneDriver) es)
    (hrun : exec (deliver c.toDriver pb) w₀ es = some w) :
    taken w = taken w₀ ++ accepted (c.take pb) pb w₀.sensor (reports pb es) := by
  obtain ⟨hstart, hsteps⟩ := always_iff_steps.mp hone
  have hinv : Always (deliver c.toDriver pb) w₀ (fun pre w =>
      w.sensor.OneDriver ∧
      w.sensor = (reports pb pre).foldl (fun s r => s.emitReport pb r)
        w₀.sensor ∧
      taken w = taken w₀ ++ accepted (c.take pb) pb w₀.sensor (reports pb pre))
      es := by
    refine always_of_stepsMeet ⟨hstart, rfl, ?_⟩ ?_ hsteps
    · have hnil : reports pb [] = [] := rfl
      rw [hnil]
      simp [accepted]
    · rintro pre v e v' ⟨hv, hsensor, htaken⟩ hnext hstep
      have hv' := hnext v' hstep
      obtain ⟨hs, ht⟩ := deliver_taken c hv hv' hstep
      refine ⟨hv', ?_, ?_⟩
      · rw [hs, hsensor, reports_snoc, List.foldl_append]
      · rw [ht, htaken, reports_snoc, accepted_append, ← hsensor,
          List.append_assoc]
  exact (hinv.last hrun).2.2

theorem delivers (c : StreamSpec F M) (pb : Protobuf F) :
    Delivers c.toDriver pb (c.take pb) := by
  intro w₀ w es hone hrun
  refine ⟨⟨{ w with
      idle := []
      measurements := taken w }, drain c.toDriver pb w, rfl, ?_⟩, ?_, ?_⟩
  · exact taken_of_exec c hone hrun
  · exact fun hl => accepted_of_listeners_eq_nil (c.take pb) hl _
  · intro es' v hreports hone' hrun'
    rw [taken_of_exec c hone' hrun', hreports, taken_of_exec c hone hrun]

/-- **Every measurement is delivered once and in order, however it is batched**,
by each of the five stream drivers: three values or more that the accelerometer
multiplies by the mount matrix and that the magnetometer and the gyroscope pass
on, one value that is not negative from the light sensor, and four values that
the compass makes a heading of. -/
theorem measurements_eq_accepted {F : Type} [GFloatMath F] (pb : Protobuf F) :
    Delivers accelerometer.toDriver pb (fun p =>
        contribution pb.accelerometerResponseUnpack 3 (fun _ => true)
          (fun v => mountVector p.mountMatrix (axis v 0) (axis v 1) (axis v 2))
          p.uid) ∧
      Delivers magnetometer.toDriver pb (fun p =>
        contribution pb.magnetometerResponseUnpack 3 (fun _ => true)
          (fun v => (axis v 0, axis v 1, axis v 2)) p.uid) ∧
      Delivers gyroscope.toDriver pb (fun p =>
        contribution pb.gyroscopeResponseUnpack 3 (fun _ => true)
          (fun v => (axis v 0, axis v 1, axis v 2)) p.uid) ∧
      Delivers light.toDriver pb (fun p =>
        contribution pb.lightResponseUnpack 1
          (fun v => GFloat.le GFloat.zero (axis v 0)) (fun v => axis v 0) p.uid) ∧
      Delivers compass.toDriver pb (fun p =>
        contribution pb.rotationvectorResponseUnpack 4 (fun _ => true)
          (fun v =>
            calculateAzimuth (axis v 0) (axis v 1) (axis v 2) (axis v 3))
          p.uid) :=
  ⟨delivers accelerometerSpec pb, delivers magnetometerSpec pb,
    delivers gyroscopeSpec pb, delivers lightSpec pb, delivers compassSpec pb⟩

/-! A light sensor that is being opened: two envelopes of its own, the second of
which brings a second value and a negative one, and one of another sensor. -/

def lightMock : Protobuf ℚ :=
  { Protobuf.ofTables [] [] [] with
    clientResponseUnpack := fun buf => List.lookup buf
      [([1], (⟨⟨1, 1⟩, [⟨1025, [30]⟩]⟩ : SscClientResponse)),
        ([2], ⟨⟨2, 2⟩, [⟨1025, [40]⟩]⟩),
        ([3], ⟨⟨1, 1⟩, [⟨1025, [50]⟩, ⟨1025, [0]⟩]⟩)]
    lightResponseUnpack := fun buf =>
      some (buf.map fun b => if b = 0 then -1 else (b.toNat : ℚ)) }

def lightAvailable : SSCSensorPrivate ℚ :=
  { sscSensorInit "ambient_light" with
    uid := ⟨1, 1⟩
    available := true
    sampleRate := 5
    client := true }

def lightOpened : DriverWorld ℚ Unit ℚ :=
  (light.toDriver.act lightMock
    (light.toDriver.world (Sensor.new lightAvailable)) .sensorOpen).get
      (by decide)

def lightDeliveries : List Delivery :=
  [.indication (.small (some [1])), .indication (.large (some [2])),
    .indication (.large (some [9])), .idle, .indication (.large (some [3]))]

/-- `atan2` at the points of the compass, in half turns. -/
@[reducible] def compassPoints : GFloatMath ℚ where
  toGFloat := inferInstance
  atan2 y x :=
    if y = 0 then (if x < 0 then 1 else 0)
    else if 0 < y then 1 / 2
    else -1 / 2
  toDegrees x := 180 * x

theorem measurements_eq_accepted_light :
    ∃ w', exec (deliver light.toDriver lightMock)
        ((exec (deliver light.toDriver lightMock) lightOpened
          lightDeliveries).get (by decide)) [.idle] = some w' ∧ w'.idle = [] ∧
      w'.measurements = [30, 50] := by
  have hone : Always (deliver light.toDriver lightMock) lightOpened
      (fun _ w => w.sensor.OneDriver) lightDeliveries :=
    always_of_inits
      (p := fun w => decide (w.sensor.driverHandlers = [(1, .driver)]))
      (fun _ h => ⟨1, of_decide_eq_true h⟩) (by decide)
  have hlight := (@measurements_eq_accepted ℚ compassPoints lightMock).2.2.2.1
  obtain ⟨w', hexec, hidle, hm⟩ := (hlight lightOpened
    ((exec (deliver light.toDriver lightMock) lightOpened
      lightDeliveries).get (by decide)) lightDeliveries hone
    (Option.some_get _).symm).1
  refine ⟨w', hexec, hidle, hm.trans ?_⟩
  decide

end Driver

end Libssc

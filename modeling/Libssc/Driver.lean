import Libssc.Client
import Libssc.Outcome

/-!
# The sensor drivers

The six drivers open and close a sensor with the same code. They differ in what
they make of a measurement report, and in the private data they keep for that.
A `Driver` is what one of them has of its own; everything else is written once,
over a `DriverWorld`: the base sensor, the driver's private data, its tasks, and
the idle sources that wait to emit `measurement`.

A driver connects its own handler to the client's `report` signal, the same one
the base sensor connects its handlers to. An emission runs both kinds, in order
of connection, on the one state.

Where the source fails an assertion or reads outside of an array the process is
gone, and there is no next state.
-/

namespace Libssc

open Library

variable {F S M : Type} [GFloat F]

/-! ## One driver -/

/-- What a driver has of its own: the data type it is constructed with, its
private data when it is new, when `new_finish` returns it and when it is opened,
and what it does with the id and the payload of a report of its sensor. `measure`
gives the new private data and the measurement to emit, if any; `none` is a
failed assertion or a read outside of an array. -/
structure Driver (F S M : Type) where
  dataType : String
  init : S
  newFinish : S → S
  opened : S → S
  measure : Protobuf F → SSCSensorPrivate F → S → UInt32 → GArray →
    Option (S × Option M)

/-- A driver that turns each measurement on its own into what it emits. -/
structure StreamDriver (F M : Type) where
  dataType : String
  convert : Protobuf F → SSCSensorPrivate F → GArray → Option M

/-- The reports a stream driver takes are those with `msg_id ==
SSC_MSG_REPORT_MEASUREMENT`. -/
def StreamDriver.toDriver (d : StreamDriver F M) : Driver F Unit M where
  dataType := d.dataType
  init := ()
  newFinish := id
  opened := id
  measure pb p _ msgId buf :=
    some ((),
      if msgId = SSC_MSG_REPORT_MEASUREMENT then d.convert pb p buf else none)

/-! ## The stream drivers -/

/-- Row `i` of the mount matrix times the vector. -/
def mountRow (m : Fin 3 → Fin 3 → F) (i : Fin 3) (x y z : F) : F :=
  GFloat.add (GFloat.add (GFloat.mul (m i 0) x) (GFloat.mul (m i 1) y))
    (GFloat.mul (m i 2) z)

/-- The mount matrix times the vector. -/
def mountVector (m : Fin 3 → Fin 3 → F) (x y z : F) : F × F × F :=
  (mountRow m 0 x y z, mountRow m 1 x y z, mountRow m 2 x y z)

def accelerometer : StreamDriver F (F × F × F) where
  dataType := "accel"
  convert pb p buf :=
    match pb.accelerometerResponseUnpack buf with
    | some (x :: y :: z :: _) => some (mountVector p.mountMatrix x y z)
    | _ => none

/-- The first three values of a response. -/
def firstThree : SscFloatResponse F → Option (F × F × F)
  | x :: y :: z :: _ => some (x, y, z)
  | _ => none

def magnetometer : StreamDriver F (F × F × F) where
  dataType := "mag"
  convert pb _ buf := (pb.magnetometerResponseUnpack buf).bind firstThree

def gyroscope : StreamDriver F (F × F × F) where
  dataType := "gyro"
  convert pb _ buf := (pb.gyroscopeResponseUnpack buf).bind firstThree

def light : StreamDriver F F where
  dataType := "ambient_light"
  convert pb _ buf :=
    match pb.lightResponseUnpack buf with
    | some (intensity :: _) =>
        if GFloat.le GFloat.zero intensity then some intensity else none
    | _ => none

/-- The functions of `math.h` that the compass needs: `atan2`, and the factor
`180 / M_PI`. -/
class GFloatMath (F : Type) extends GFloat F where
  atan2 : F → F → F
  toDegrees : F → F

/-- The two numbers `calculate_azimuth` passes to `atan2`, `r1` and `r4`. -/
def azimuthPair (x y z w : F) : F × F :=
  let two : F := GFloat.ofInt 2
  let q1q2 := GFloat.mul (GFloat.mul two x) y
  let q3q0 := GFloat.mul (GFloat.mul two z) w
  let sqq1 := GFloat.mul (GFloat.mul two x) x
  let sqq3 := GFloat.mul (GFloat.mul two z) z
  (GFloat.sub q1q2 q3q0, GFloat.sub (GFloat.sub GFloat.one sqq1) sqq3)

def calculateAzimuth {F : Type} [GFloatMath F] (x y z w : F) : F :=
  let r := azimuthPair x y z w
  let azimuth := GFloatMath.toDegrees (GFloatMath.atan2 r.1 r.2)
  if GFloat.lt azimuth GFloat.zero then
    GFloat.add azimuth (GFloat.ofInt 360)
  else azimuth

def compass {F : Type} [GFloatMath F] : StreamDriver F F where
  dataType := "rotv"
  convert pb _ buf :=
    match pb.rotationvectorResponseUnpack buf with
    | some (x :: y :: z :: w :: _) => some (calculateAzimuth x y z w)
    | _ => none

/-! ## The proximity driver -/

def SSC_SENSOR_PROXIMITY_NEAR : Int := 1
def SSC_SENSOR_PROXIMITY_FAR : Int := 0

/-- `SSCSensorProximityPrivate`, without the handler id. -/
structure ProximityState where
  near : Bool
  reportedOnce : Bool
deriving DecidableEq, Repr

/-- The `switch` on a proximity value; `none` is `g_assert_not_reached ()`. -/
def proximityNear (value : Int) : Option Bool :=
  if value = SSC_SENSOR_PROXIMITY_NEAR then some true
  else if value = SSC_SENSOR_PROXIMITY_FAR then some false
  else none

/-- Emit only when the value changed or the sensor was recently opened. -/
def proximityChanged (s : ProximityState) (near : Bool) :
    ProximityState × Option Bool :=
  if s.near ≠ near ∨ s.reportedOnce = false then
    ({ near := near, reportedOnce := true }, some near)
  else (s, none)

/-- `sizeof (ProximityDataDavinci)`: sixteen floats. -/
def PROXIMITY_DATA_DAVINCI_SIZE : ℕ := 64

def proximity : Driver F ProximityState Bool where
  dataType := "proximity"
  init := ⟨false, false⟩
  -- only bypass reporting once if the sensor is opened, not during init
  newFinish s := { s with reportedOnce := true }
  opened s := { s with reportedOnce := false }
  measure pb _ s msgId buf :=
    if msgId = SSC_MSG_REPORT_MEASUREMENT_PROXIMITY then
      match pb.proximityResponseUnpack buf with
      | none => some (s, none)
      | some msg => (proximityNear msg.near.toInt).map (proximityChanged s)
    else if msgId = SSC_MSG_REPORT_MEASUREMENT then
      match pb.proximityResponseDavinciUnpack buf with
      | none => some (s, none)
      | some msg =>
          match msg.data with
          -- `msg->data->len` reads the first chunk without asking for one
          | [] => none
          | chunk :: _ =>
              if chunk.length ≠ PROXIMITY_DATA_DAVINCI_SIZE then some (s, none)
              else (proximityNear (GFloat.trunc (pb.davinciNear chunk)).toInt).map
                (proximityChanged s)
    else some (s, none)

/-! ## The state of an opened driver -/

/-- A driver on its base sensor. `reportId` and `state` are the driver's private
data; `idle` are the idle sources that have not run, oldest first, and
`measurements` the `measurement` signals emitted so far. `dispatched` are the
base tasks whose callback has run, `clientRefs` the references to the client
that `g_object_get` has returned, and `aborted` says that the process is gone. -/
structure DriverWorld (F S M : Type) where
  sensor : Sensor F
  reportId : ℕ
  state : S
  idle : List M
  measurements : List M
  tasks : Tasks Operation TaskResult
  dispatched : List ℕ
  clientRefs : ℕ
  aborted : Bool

namespace Driver

/-- A driver object on a base sensor nobody has opened through it. -/
def world (d : Driver F S M) (w : Sensor F) : DriverWorld F S M where
  sensor := w
  reportId := 0
  state := d.init
  idle := []
  measurements := []
  tasks := .empty
  dispatched := []
  clientRefs := 0
  aborted := false

/-! ## Reports -/

/-- `report_received` of the driver. -/
def reportReceived (d : Driver F S M) (pb : Protobuf F) (r : Report)
    (w : DriverWorld F S M) : DriverWorld F S M :=
  if r.uid = w.sensor.priv.uid then
    match d.measure pb w.sensor.priv w.state r.msgId r.buf with
    | none => { w with aborted := true }
    | some (s, m) => { w with state := s, idle := w.idle ++ m.toList }
  else w

/-- What a handler of the `report` signal does. -/
def runClosure (d : Driver F S M) (pb : Protobuf F) (r : Report) :
    Closure → DriverWorld F S M → DriverWorld F S M
  | .sensor t, w => { w with sensor := w.sensor.reportReceived pb t r }
  | .driver, w => d.reportReceived pb r w

/-- `g_signal_emit` of `report`. -/
def emitReport (d : Driver F S M) (pb : Protobuf F) (r : Report)
    (w : DriverWorld F S M) : DriverWorld F S M :=
  Signal.emit (fun w => w.sensor.report) (d.runClosure pb r) w

/-- `emit_signal`: the oldest idle source runs. -/
def emitSignal (w : DriverWorld F S M) : Option (DriverWorld F S M) :=
  match w.idle with
  | [] => none
  | m :: ms => some { w with idle := ms, measurements := w.measurements ++ [m] }

/-! ## Opening and closing -/

/-- `ssc_sensor_*_open`. -/
def sensorOpen (d : Driver F S M) (w : DriverWorld F S M) :
    Option (DriverWorld F S M) :=
  let t := w.tasks.size
  let w := { w with
    state := d.opened w.state
    tasks := w.tasks.create .sensorOpen
    clientRefs := w.clientRefs + 1
    reportId := w.sensor.report.next
    sensor := { w.sensor with report := w.sensor.report.connect .driver } }
  (w.sensor.sensorOpen (.driver t)).map (fun s => { w with sensor := s })

/-- `ssc_sensor_*_close`. -/
def sensorClose (w : DriverWorld F S M) : DriverWorld F S M :=
  let t := w.tasks.size
  let w := { w with
    tasks := w.tasks.create .sensorClose
    clientRefs := w.clientRefs + 1 }
  let w :=
    if w.reportId ≠ 0 then
      { w with sensor :=
        { w.sensor with report := w.sensor.report.disconnect w.reportId } }
    else w
  { w with sensor := w.sensor.sensorClose (.driver t) }

/-- `*_open_ready` and `*_close_ready` for the driver's task `t`: pass on the
result of the base task. A FALSE without an error becomes
`g_task_return_error (task, NULL)`, which completes nothing. -/
def taskReady (t : ℕ) (result : TaskResult) (w : DriverWorld F S M) :
    DriverWorld F S M :=
  match result.propagateBoolean with
  | (true, _) => { w with tasks := w.tasks.complete t (.boolean true) }
  | (false, some e) => { w with tasks := w.tasks.complete t (.error e) }
  | (false, none) => w

/-- The callback of the completed base task `b` runs, once. -/
def dispatch (b : ℕ) (w : DriverWorld F S M) : Option (DriverWorld F S M) :=
  match w.sensor.tasks.find b with
  | some ⟨⟨_, .driver t⟩, c :: _⟩ =>
      if b ∈ w.dispatched then none
      else some (taskReady t c.result
        { w with dispatched := w.dispatched ++ [b] })
  | _ => none

omit [GFloat F] in
theorem taskReady_eq (t : ℕ) (result : TaskResult) (w : DriverWorld F S M) :
    taskReady t result w = if result = .boolean false then w
      else { w with tasks := w.tasks.complete t result } := by
  unfold taskReady TaskResult.propagateBoolean
  cases result with
  | error e => rfl
  | boolean b => cases b <;> rfl

/-! ## The machine -/

/-- What can happen to a driver and its sensor: user code calls an operation of
the base sensor or of the driver, a send callback runs, the client emits
`report`, the callback of a base task runs, or an idle source runs. -/
inductive Action where
  | call (c : Sensor.Call)
  | newFinish
  | sensorOpen
  | sensorClose
  | sendReady (i : ℕ) (error : Option GError)
  | report (r : Report)
  | dispatch (b : ℕ)
  | idle
deriving DecidableEq, Repr

def act (d : Driver F S M) (pb : Protobuf F) (w : DriverWorld F S M) :
    Action → Option (DriverWorld F S M)
  | .call c => (w.sensor.call c).map (fun s => { w with sensor := s })
  | .newFinish => some { w with state := d.newFinish w.state }
  | .sensorOpen => if w.sensor.priv.client then d.sensorOpen w else none
  | .sensorClose => if w.sensor.priv.client then some (sensorClose w) else none
  | .sendReady i error =>
      (w.sensor.step pb (.sendReady i error)).map
        (fun s => { w with sensor := s })
  | .report r =>
      let w := d.emitReport pb r w
      if w.aborted then none else some w
  | .dispatch b => dispatch b w
  | .idle => emitSignal w

/-! ## What the parts of the state see -/

variable {d : Driver F S M} {pb : Protobuf F} {w w' : DriverWorld F S M}

omit [GFloat F] in
theorem reportReceived_sensor (r : Report) (w : DriverWorld F S M) :
    (d.reportReceived pb r w).sensor = w.sensor := by
  unfold reportReceived
  split_ifs
  · split <;> rfl
  · rfl

/-- The base sensor sees an emission as its own. -/
theorem emitReport_sensor (r : Report) (w : DriverWorld F S M) :
    (d.emitReport pb r w).sensor = w.sensor.emitReport pb r := by
  refine Signal.emit_map (fun w : DriverWorld F S M => w.sensor)
    (fun _ => rfl) ?_ w
  intro c w
  cases c with
  | sensor t => rfl
  | driver => exact reportReceived_sensor r w

/-- The parts of the state that no handler touches. -/
def control (w : DriverWorld F S M) :
    ℕ × List M × Tasks Operation TaskResult × List ℕ × ℕ :=
  (w.reportId, w.measurements, w.tasks, w.dispatched, w.clientRefs)

omit [GFloat F] in
theorem reportReceived_control (r : Report) (w : DriverWorld F S M) :
    control (d.reportReceived pb r w) = control w := by
  unfold reportReceived
  split_ifs
  · split <;> rfl
  · rfl

theorem emitReport_control (r : Report) (w : DriverWorld F S M) :
    control (d.emitReport pb r w) = control w := by
  refine Signal.emit_preserves (P := fun v => control v = control w) ?_ rfl
  rintro ⟨id, c⟩ _ v hv
  cases c with
  | sensor t => exact hv
  | driver => exact (reportReceived_control r v).trans hv

theorem emitReport_tasks (r : Report) (w : DriverWorld F S M) :
    (d.emitReport pb r w).tasks = w.tasks :=
  congrArg (·.2.2.1) (emitReport_control r w)

theorem sensorOpen_eq_some (h : d.sensorOpen w = some w') :
    ∃ s, Sensor.sensorOpen (.driver w.tasks.size)
        { w.sensor with report := w.sensor.report.connect .driver } = some s ∧
      w' = { w with
        state := d.opened w.state
        tasks := w.tasks.create .sensorOpen
        clientRefs := w.clientRefs + 1
        reportId := w.sensor.report.next
        sensor := s } := by
  obtain ⟨s, hs, rfl⟩ := Option.map_eq_some_iff.mp h
  exact ⟨s, hs, rfl⟩

omit [GFloat F] in
theorem dispatch_eq_some {b : ℕ} (h : dispatch b w = some w') :
    ∃ op t c cs, w.sensor.tasks.find b = some ⟨⟨op, .driver t⟩, c :: cs⟩ ∧
      b ∉ w.dispatched ∧
      w' = taskReady t c.result { w with dispatched := w.dispatched ++ [b] } := by
  unfold dispatch at h
  split at h
  · rename_i op t c cs hfind
    split at h
    · exact absurd h (by simp)
    · rename_i hb
      exact ⟨op, t, c, cs, hfind, hb, (Option.some.inj h).symm⟩
  · exact absurd h (by simp)

omit [GFloat F] in
theorem sensorClose_eq (w : DriverWorld F S M) :
    sensorClose w = { w with
      tasks := w.tasks.create .sensorClose
      clientRefs := w.clientRefs + 1
      sensor := Sensor.sensorClose (.driver w.tasks.size) { w.sensor with
        report := if w.reportId ≠ 0 then
          w.sensor.report.disconnect w.reportId else w.sensor.report } } := by
  unfold sensorClose
  dsimp only
  split <;> rfl

omit [GFloat F] in
/-- Only the handler with the driver's id is gone after a close was called. -/
theorem sensorClose_handlers (w : DriverWorld F S M) :
    (sensorClose w).sensor.report.handlers =
      w.sensor.report.handlers.filter (fun h => decide (h.1 ≠ w.reportId)) := by
  rw [sensorClose_eq]
  show (if w.reportId ≠ 0 then w.sensor.report.disconnect w.reportId
    else w.sensor.report).handlers = _
  split
  · rfl
  · rename_i hzero
    have hzero : w.reportId = 0 := by simpa using hzero
    symm
    apply List.filter_eq_self.mpr
    intro h hh
    have := w.sensor.report.pos h hh
    simp
    omega

/-- What an action does when it can happen. -/
inductive Step (d : Driver F S M) (pb : Protobuf F) (w : DriverWorld F S M) :
    Action → DriverWorld F S M → Prop where
  | call {c : Sensor.Call} {s : Sensor F} (h : w.sensor.call c = some s) :
      Step d pb w (.call c) { w with sensor := s }
  | newFinish : Step d pb w .newFinish { w with state := d.newFinish w.state }
  | sensorOpen {s : Sensor F} (h : Sensor.sensorOpen (.driver w.tasks.size)
        { w.sensor with report := w.sensor.report.connect .driver } = some s) :
      Step d pb w .sensorOpen { w with
        state := d.opened w.state
        tasks := w.tasks.create .sensorOpen
        clientRefs := w.clientRefs + 1
        reportId := w.sensor.report.next
        sensor := s }
  | sensorClose : Step d pb w .sensorClose (sensorClose w)
  | sendReady {i : ℕ} {error : Option GError} {r : Request F}
      (hi : i ∈ w.sensor.unready) (hr : w.sensor.sent[i]? = some r) :
      Step d pb w (.sendReady i error) { w with
        sensor := Sensor.sendReady r.callback error
          { w.sensor with unready := w.sensor.unready.erase i } }
  | report {r : Report} : Step d pb w (.report r) (d.emitReport pb r w)
  | dispatch {b t : ℕ} {op : Operation} {c : Completion} {cs : List Completion}
      (hfind : w.sensor.tasks.find b = some ⟨⟨op, .driver t⟩, c :: cs⟩)
      (hb : b ∉ w.dispatched) :
      Step d pb w (.dispatch b)
        (taskReady t c.result { w with dispatched := w.dispatched ++ [b] })
  | idle {m : M} {ms : List M} (h : w.idle = m :: ms) :
      Step d pb w .idle { w with
        idle := ms
        measurements := w.measurements ++ [m] }

theorem step_of_act {a : Action} (h : d.act pb w a = some w') :
    Step d pb w a w' := by
  cases a with
  | call c =>
      obtain ⟨s, hs, rfl⟩ := Option.map_eq_some_iff.mp h
      exact .call hs
  | newFinish =>
      obtain rfl := Option.some.inj h
      exact .newFinish
  | sensorOpen =>
      simp only [act] at h
      split at h
      · obtain ⟨s, hs, rfl⟩ := sensorOpen_eq_some h
        exact .sensorOpen hs
      · exact absurd h (by simp)
  | sensorClose =>
      simp only [act] at h
      split at h
      · obtain rfl := Option.some.inj h
        exact .sensorClose
      · exact absurd h (by simp)
  | sendReady i error =>
      obtain ⟨s, hs, rfl⟩ := Option.map_eq_some_iff.mp h
      rcases Sensor.step_cases hs with ⟨j, e, r, heq, hi, hr, rfl⟩ | ⟨r, heq, -⟩
      · obtain ⟨rfl, rfl⟩ := Sensor.Event.sendReady.inj heq
        exact .sendReady hi hr
      · exact absurd heq (by simp)
  | report r =>
      simp only [act] at h
      split at h
      · exact absurd h (by simp)
      · obtain rfl := Option.some.inj h
        exact .report
  | dispatch b =>
      obtain ⟨op, t, c, cs, hfind, hb, rfl⟩ := dispatch_eq_some h
      exact .dispatch hfind hb
  | idle =>
      simp only [act, emitSignal] at h
      split at h
      · exact absurd h (by simp)
      · rename_i m ms hidle
        obtain rfl := Option.some.inj h
        exact .idle hidle

/-- What an action does to the driver's tasks. -/
theorem act_tasks {a : Action} (h : d.act pb w a = some w') :
    w'.tasks = w.tasks ∨
      (a = .sensorOpen ∧ w'.tasks = w.tasks.create .sensorOpen) ∨
      (a = .sensorClose ∧ w'.tasks = w.tasks.create .sensorClose) ∨
      ∃ b op t c cs, a = .dispatch b ∧
        w.sensor.tasks.find b = some ⟨⟨op, .driver t⟩, c :: cs⟩ ∧
        b ∉ w.dispatched ∧ w' = taskReady t c.result
          { w with dispatched := w.dispatched ++ [b] } := by
  cases step_of_act h with
  | call _ => exact Or.inl rfl
  | newFinish => exact Or.inl rfl
  | sensorOpen _ => exact Or.inr (Or.inl ⟨rfl, rfl⟩)
  | sensorClose =>
      rw [sensorClose_eq]
      exact Or.inr (Or.inr (Or.inl ⟨rfl, rfl⟩))
  | sendReady _ _ => exact Or.inl rfl
  | report => exact Or.inl (emitReport_tasks _ w)
  | dispatch hfind hb =>
      exact Or.inr (Or.inr (Or.inr ⟨_, _, _, _, _, rfl, hfind, hb, rfl⟩))
  | idle _ => exact Or.inl rfl

end Driver

end Libssc

import Libssc.Attributes
import Libssc.Library.Run
import Libssc.Library.Signal
import Libssc.Library.Task

/-!
# The base sensor

The asynchronous operations of `SSCSensor` (init, open, close), the callbacks
they leave behind and the `report` handler they share. A `Sensor` is the state
all of them act on: the private data of the object, the handlers of its client's
`report` signal, the tasks, and the requests handed to `ssc_client_send` whose
callbacks have not run yet.

Main loop and DSP decide what happens next. They appear as events: the callback
of some request runs, with or without an error, or the client emits `report`.
The user starts operations by calls. The user's own completion callbacks are
not run inside these steps; what they do comes as later calls.

Memory the code gives back is remembered, since the same pointers stay in the
hands of other callbacks. A task's only reference is dropped right after it has
been completed, and a `ReportReceivedContext` is freed with it, so a callback
that touches either one afterwards is recorded in `misuse`. It then goes on as
it would if the memory were still intact.
-/

namespace Libssc

open Library

variable {F : Type} [GFloat F]

def MAX_RETRIES : ℕ := 100

/-! ## State -/

/-- What a task was created for. -/
inductive Operation where
  | init
  | sensorOpen
  | sensorClose
deriving DecidableEq, Repr

/-- Who asked: user code, or a driver on behalf of its own task. -/
inductive AsyncReadyCallback where
  | user
  | driver (task : ℕ)
deriving DecidableEq, Repr

structure TaskInfo where
  operation : Operation
  callback : AsyncReadyCallback
deriving DecidableEq, Repr

/-- A handler of the client's `report` signal: `report_received` of the base
sensor with the context of a task, or the driver's own `report_received`. -/
inductive Closure where
  | sensor (task : ℕ)
  | driver
deriving DecidableEq, Repr

/-- One completion of a task, with the handler that was disconnected for it. -/
structure Completion where
  result : TaskResult
  disconnected : Option Closure
deriving DecidableEq, Repr

/-- The callback given to `ssc_client_send` and its user data. -/
inductive SendCallback where
  | attributeReady
  | discoveryReady (task : ℕ)
  | waitForSensorServiceReady (task : ℕ)
  | sensorOpenReady (task : ℕ)
  | sensorCloseReady (task : ℕ)
deriving DecidableEq, Repr

/-- The task that a send callback has as its user data. -/
def SendCallback.task : SendCallback → Option ℕ
  | .attributeReady => none
  | .discoveryReady t => some t
  | .waitForSensorServiceReady t => some t
  | .sensorOpenReady t => some t
  | .sensorCloseReady t => some t

structure Request (F : Type) where
  uid : SscUid
  msgId : UInt32
  protobuf : Option (RequestMessage F)
  callback : SendCallback
deriving DecidableEq, Repr

/-- A callback touched memory that is gone: a completed task in the run-time
check of `G_TASK ()`, a completed task in a call on it, or a freed context. -/
inductive Misuse where
  | cast (task : ℕ)
  | use (task : ℕ)
  | context (task : ℕ)
deriving DecidableEq, Repr

/-- A sensor with everything its operations act on. `sent` are all requests
so far, `unready` the positions of those whose callback has not run, `freed`
the tasks whose context has been freed. -/
structure Sensor (F : Type) where
  priv : SSCSensorPrivate F
  report : Signal Closure
  tasks : Tasks TaskInfo Completion
  sent : List (Request F)
  unready : List ℕ
  freed : List ℕ
  misuse : List Misuse

/-- A sensor object nothing has been done with yet. -/
def Sensor.new (p : SSCSensorPrivate F) : Sensor F where
  priv := p
  report := .empty
  tasks := .empty
  sent := []
  unready := []
  freed := []
  misuse := []

/-- The mocking server's proximity sensor, as its init leaves it. -/
def proximityMock : SSCSensorPrivate ℚ :=
  { sscSensorInit "proximity" with
    uid := ⟨1, 1⟩
    name := some "proximity-mock"
    vendor := some "libssc"
    streamType := SSC_STREAM_TYPE_ON_CHANGE
    available := true
    sampleRate := 5
    client := true
    serviceAvailable := true }

namespace Sensor

/-! ## Tasks, requests and contexts -/

/-- `G_TASK ()` on a callback's user data. -/
def castTask (t : ℕ) (w : Sensor F) : Sensor F :=
  { w with misuse := w.misuse ++ if w.tasks.pending t then [] else [.cast t] }

/-- A call on a task, such as `g_task_get_cancellable`. -/
def useTask (t : ℕ) (w : Sensor F) : Sensor F :=
  { w with misuse := w.misuse ++ if w.tasks.pending t then [] else [.use t] }

/-- `g_task_return_*` and the unref that follows it. -/
def taskReturn (t : ℕ) (r : TaskResult) (disconnected : Option Closure)
    (w : Sensor F) : Sensor F :=
  let w := w.useTask t
  { w with tasks := w.tasks.complete t ⟨r, disconnected⟩ }

/-- `ssc_client_send`. -/
def clientSend (r : Request F) (w : Sensor F) : Sensor F :=
  { w with
    sent := w.sent ++ [r]
    unready := w.unready ++ [w.sent.length] }

/-- Connect `report_received` with a new context for `t`. -/
def connectReport (t : ℕ) (w : Sensor F) : Sensor F :=
  { w with
    priv := { w.priv with reportId := w.report.next }
    report := w.report.connect (.sensor t) }

/-- The end of every branch of `report_received` that completes the task: stop
listening, complete the task, free the context. The handler to disconnect is
the one `priv->report_id` names. -/
def finishReport (t : ℕ) (r : TaskResult) (w : Sensor F) : Sensor F :=
  let id := w.priv.reportId
  let closure := w.report.closure? id
  let w := { w with
    report := w.report.disconnect id
    priv := { w.priv with reportId := 0 } }
  let w := w.taskReturn t r closure
  { w with freed := w.freed ++ [t] }

/-! ## Sending requests -/

/-- `attribute`: ask the discovered sensor for its attributes. The callback
gets no user data. -/
def requestAttribute (t : ℕ) (w : Sensor F) : Sensor F :=
  (w.useTask t).clientSend
    { uid := w.priv.uid
      msgId := SSC_MSG_REQUEST_GET_ATTRIBUTES
      protobuf := some (.attr { enableUpdates := some false })
      callback := .attributeReady }

/-- `discover`: ask for the UID of the sensor's own data type. -/
def discover (t : ℕ) (w : Sensor F) : Sensor F :=
  (w.useTask t).clientSend
    { uid := SSC_SENSOR_UID_SUID
      msgId := SSC_MSG_REQUEST_SUID
      protobuf := some (.suid
        { dataType := w.priv.dataType
          enableUpdates := some false
          onlyDefaultValues := some true })
      callback := .discoveryReady t }

/-- `wait_for_sensor_service`: poll for the 'registry' sensor. -/
def waitForSensorService (t : ℕ) (w : Sensor F) : Sensor F :=
  (w.useTask t).clientSend
    { uid := SSC_SENSOR_UID_SUID
      msgId := SSC_MSG_REQUEST_SUID
      protobuf := some (.suid
        { dataType := "registry"
          enableUpdates := some false
          onlyDefaultValues := some true })
      callback := .waitForSensorServiceReady t }

/-! ## Send callbacks -/

/-- The callbacks that hold the operation's task and complete it only on
failure. -/
def taskSendReady (t : ℕ) (error : Option GError) (w : Sensor F) : Sensor F :=
  let w := w.castTask t
  match error with
  | some e => w.taskReturn t (.error e) none
  | none => w

def discoveryReady (t : ℕ) (error : Option GError) (w : Sensor F) : Sensor F :=
  w.taskSendReady t error

def waitForSensorServiceReady (t : ℕ) (error : Option GError)
    (w : Sensor F) : Sensor F :=
  w.taskSendReady t error

def sensorOpenReady (t : ℕ) (error : Option GError) (w : Sensor F) : Sensor F :=
  w.taskSendReady t error

/-- `attribute_ready`: a failure is only logged. -/
def attributeReady (_error : Option GError) (w : Sensor F) : Sensor F := w

/-- `sensor_close_ready`: the acknowledgement completes the close. -/
def sensorCloseReady (t : ℕ) (error : Option GError) (w : Sensor F) :
    Sensor F :=
  let w := w.castTask t
  match error with
  | some e => w.taskReturn t (.error e) none
  | none => w.taskReturn t (.boolean true) none

/-- The callback of a request, with the result of `ssc_client_send_finish`. -/
def sendReady (cb : SendCallback) (error : Option GError) (w : Sensor F) :
    Sensor F :=
  match cb with
  | .attributeReady => w.attributeReady error
  | .discoveryReady t => w.discoveryReady t error
  | .waitForSensorServiceReady t => w.waitForSensorServiceReady t error
  | .sensorOpenReady t => w.sensorOpenReady t error
  | .sensorCloseReady t => w.sensorCloseReady t error

/-! ## The report handler -/

/-- The branch of `report_received` for a decoded discovery response. -/
def suidReceived (t : ℕ) (m : SscSuidResponse) (w : Sensor F) : Sensor F :=
  if m.uid ≠ [] ∧ m.dataType = "registry" then
    discover t { w with priv := { w.priv with serviceAvailable := true } }
  else if w.priv.serviceAvailable = false then
    let w := { w with
      priv := { w.priv with serviceRetries := w.priv.serviceRetries + 1 } }
    if MAX_RETRIES ≤ w.priv.serviceRetries then
      w.finishReport t
        (.error (sscSensorError .noService "Sensor service unavailable"))
    else w.waitForSensorService t
  -- ignore if data type does not match due to concurrency
  else if m.dataType ≠ w.priv.dataType then w
  else
    match m.uid with
    | u :: _ => requestAttribute t { w with priv := { w.priv with uid := u } }
    | [] => w.finishReport t (.boolean false)

/-- `report_received` of the base sensor, with the context of task `t`. -/
def reportReceived (pb : Protobuf F) (t : ℕ) (r : Report) (w : Sensor F) :
    Sensor F :=
  -- `ctx->sensor` is read before anything else
  if t ∈ w.freed then { w with misuse := w.misuse ++ [.context t] }
  else if r.uid = SSC_SENSOR_UID_SUID ∧ r.msgId = SSC_MSG_RESPONSE_SUID then
    match pb.suidResponseUnpack r.buf with
    | none => w
    | some m => w.suidReceived t m
  else if r.uid = w.priv.uid ∧ r.msgId = SSC_MSG_RESPONSE_GET_ATTRIBUTES then
    match pb.attrResponseUnpack r.buf with
    | none => w
    | some m =>
        finishReport t (.boolean true)
          { w with priv := attributesReceived w.priv m }
  else if r.uid = w.priv.uid ∧ r.msgId = SSC_MSG_RESPONSE_ENABLE_REPORT then
    match pb.configResponseUnpack r.buf with
    | none => w
    | some _ => w.finishReport t (.boolean true)
  else if r.uid = w.priv.uid ∧ (r.msgId = SSC_MSG_REPORT_MEASUREMENT ∨
      r.msgId = SSC_MSG_REPORT_MEASUREMENT_PROXIMITY) then
    w.finishReport t (.boolean true)
  else w

/-- What a handler of the `report` signal does to the base sensor. -/
def runClosure (pb : Protobuf F) (r : Report) : Closure → Sensor F → Sensor F
  | .sensor t, w => w.reportReceived pb t r
  | .driver, w => w

/-- `g_signal_emit` of `report`, as far as the base sensor is concerned. -/
def emitReport (pb : Protobuf F) (r : Report) (w : Sensor F) : Sensor F :=
  Signal.emit Sensor.report (runClosure pb r) w

/-! ## Operations -/

/-- `client_ready`, with what `ssc_client_new_finish` reports. -/
def clientReady (t : ℕ) (error : Option GError) (w : Sensor F) : Sensor F :=
  match error with
  | some e => w.taskReturn t (.error e) none
  | none =>
      let w := { w with priv := { w.priv with client := true } }
      let w := w.connectReport t
      let w := { w with priv := { w.priv with
        serviceAvailable := false
        serviceRetries := 0 } }
      w.waitForSensorService t

/-- `initable_init_async` up to the point where the client is there. -/
def initableInitAsync (error : Option GError) (w : Sensor F) : Sensor F :=
  let t := w.tasks.size
  clientReady t error { w with tasks := w.tasks.create ⟨.init, .user⟩ }

/-- `sensor_open`; `none` is the failed assertion on the stream type. -/
def sensorOpen (cb : AsyncReadyCallback) (w : Sensor F) : Option (Sensor F) :=
  let t := w.tasks.size
  let w := { w with tasks := w.tasks.create ⟨.sensorOpen, cb⟩ }
  if w.priv.available = false then
    some (w.taskReturn t
      (.error (sscSensorError .unavailable "Cannot open sensor, unavailable"))
      none)
  else if w.priv.streamType = SSC_STREAM_TYPE_CONTINUOUS then
    if GFloat.le w.priv.sampleRate GFloat.zero then
      some (w.taskReturn t
        (.error (sscSensorError .sampleRateUnavailable
          "Sensor sample rate is unavailable")) none)
    else
      some ((w.connectReport t).clientSend
        { uid := w.priv.uid
          msgId := SSC_MSG_REQUEST_ENABLE_REPORT_CONTINUOUS
          protobuf := some (.enableConfig { sampleRate := w.priv.sampleRate })
          callback := .sensorOpenReady t })
  else if w.priv.streamType = SSC_STREAM_TYPE_ON_CHANGE then
    some ((w.connectReport t).clientSend
      { uid := w.priv.uid
        msgId := SSC_MSG_REQUEST_ENABLE_REPORT_ON_CHANGE
        protobuf := none
        callback := .sensorOpenReady t })
  else none

/-- `sensor_close`. -/
def sensorClose (cb : AsyncReadyCallback) (w : Sensor F) : Sensor F :=
  let t := w.tasks.size
  clientSend
    { uid := w.priv.uid
      msgId := SSC_MSG_REQUEST_DISABLE_REPORT
      protobuf := none
      callback := .sensorCloseReady t }
    { w with tasks := w.tasks.create ⟨.sensorClose, cb⟩ }

/-! ## The machine -/

/-- What main loop and DSP do: run the callback of request `i`, or deliver a
report. -/
inductive Event where
  | sendReady (i : ℕ) (error : Option GError)
  | report (r : Report)
deriving DecidableEq, Repr

/-- What user code does. `init` comes with the outcome of `ssc_client_new`. -/
inductive Call where
  | init (error : Option GError)
  | sensorOpen
  | sensorClose
deriving DecidableEq, Repr

inductive Action where
  | call (c : Call)
  | event (e : Event)
deriving DecidableEq, Repr

/-- An event; `none` when request `i` has no callback left to run. -/
def step (pb : Protobuf F) (w : Sensor F) : Event → Option (Sensor F)
  | .sendReady i error =>
      match w.sent[i]? with
      | some r =>
          if i ∈ w.unready then
            some (({ w with unready := w.unready.erase i }).sendReady
              r.callback error)
          else none
      | none => none
  | .report r => some (w.emitReport pb r)

/-- A call; `none` when it is made too early or fails an assertion. -/
def call (w : Sensor F) : Call → Option (Sensor F)
  | .init error =>
      if w.priv.client then none else some (w.initableInitAsync error)
  | .sensorOpen => if w.priv.client then w.sensorOpen .user else none
  | .sensorClose => if w.priv.client then some (w.sensorClose .user) else none

def act (pb : Protobuf F) (w : Sensor F) : Action → Option (Sensor F)
  | .call c => w.call c
  | .event e => w.step pb e

/-- The base `report` handlers that are connected, with their tasks. -/
def listeners (w : Sensor F) : List (ℕ × Closure) :=
  w.report.handlers.filter (fun h => h.2 != .driver)

/-- The drivers' `report` handlers that are connected. -/
def driverHandlers (w : Sensor F) : List (ℕ × Closure) :=
  w.report.handlers.filter (fun h => h.2 == .driver)

end Sensor

end Libssc

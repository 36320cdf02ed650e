import Libssc.Measurements
import Mathlib.Data.List.AList

/-!
# The workers of the mocking server

The server handles the requests that arrive at its socket one after the other. A
request that enables a sensor starts a process that sends measurements to the
client at ten per second until a send fails; a request that disables one
terminates the process. Which process is in charge of a sensor stands in a
dictionary, whose keys are UIDs. `SSCMockingServer` is the server with its
processes and its clients, and its actions are interleaved in any order.

Whatever the order is, the processes that run are those in the dictionary
(`Supervised`). `step_of_act` says what the actions can do then. A process ends by
itself when its client has disappeared, or when a measurement is too long to be
sent.
-/

namespace Libssc

variable {F : Type}

/-! ## State -/

/-- The node and the port that a client of the server has on the QRTR bus. -/
structure QrtrAddress where
  node : Int32
  port : Int32
deriving DecidableEq, Repr

/-- What the server sends: a success reply, or an indication. -/
inductive Outgoing where
  | controlOutput
  | reportLarge (data : GArray)
deriving DecidableEq, Repr

/-- A process that runs `_sensor_measurement`: the sensor, the client, and the
index it has reached. -/
structure Worker where
  uid : SscUid
  client : QrtrAddress
  index : ℕ
  running : Bool
deriving DecidableEq, Repr

/-- The server, with all processes it has started. `inbox` are the requests that
wait at the socket, `workers` the process that each enabled sensor has, by its
number; sends to the clients in `gone` fail. -/
structure SSCMockingServer where
  inbox : List (QrtrAddress × GArray)
  workers : AList (fun _ : SscUid => ℕ)
  processes : List Worker
  gone : List QrtrAddress
  exited : Bool
  sent : List (QrtrAddress × Outgoing)

namespace SSCMockingServer

/-- The server as it starts to listen. -/
def new : SSCMockingServer where
  inbox := []
  workers := ∅
  processes := []
  gone := []
  exited := false
  sent := []

/-! ## Requests -/

/-- A send that succeeds. -/
def sendto (c : QrtrAddress) (m : Outgoing) (s : SSCMockingServer) :
    SSCMockingServer :=
  { s with sent := s.sent ++ [(c, m)] }

/-- Receive the first request, leaving `rest`, and acknowledge it. -/
def acknowledge (c : QrtrAddress) (rest : List (QrtrAddress × GArray))
    (s : SSCMockingServer) : SSCMockingServer :=
  { s with inbox := rest }.sendto c .controlOutput

/-- Start a process for the sensor and enter it. -/
def startWorker (uid : SscUid) (c : QrtrAddress) (s : SSCMockingServer) :
    SSCMockingServer :=
  { s with
    workers := s.workers.insert uid s.processes.length
    processes := s.processes ++
      [{ uid := uid, client := c, index := 0, running := true }] }

/-- Process `i` is no more. -/
def endProcess (i : ℕ) (s : SSCMockingServer) : SSCMockingServer :=
  { s with processes := s.processes.modify i (fun w => { w with running := false }) }

/-- Terminate process `i`, join it and delete the sensor's entry. -/
def stopWorker (uid : SscUid) (i : ℕ) (s : SSCMockingServer) :
    SSCMockingServer :=
  { s.endProcess i with workers := s.workers.erase uid }

/-- `_reply_msg`, after the acknowledgement. An exception ends the server. -/
def replyMsg (wire : Wire F) (data : List (MeasuredEntry F)) (c : QrtrAddress)
    (message : GArray) (s : SSCMockingServer) : SSCMockingServer :=
  match Server.replyMsg wire (data.map MeasuredEntry.toEntry) message with
  | .error _ => { s with exited := true }
  | .ok (.indication buf) => s.sendto c (.reportLarge buf)
  | .ok (.enable uid) =>
      match s.workers.lookup uid with
      | some _ => s
      | none => s.startWorker uid c
  | .ok (.disable uid) =>
      match s.workers.lookup uid with
      | some i => s.stopWorker uid i
      | none => s
  | .ok (.unsupported _) => s

/-- One turn of the loop in `_process`, for the request that has waited longest.
The server exits when it cannot acknowledge a request. -/
def process (wire : Wire F) (data : List (MeasuredEntry F))
    (s : SSCMockingServer) : Option SSCMockingServer :=
  if s.exited then none
  else
    match s.inbox with
    | [] => none
    | (c, message) :: rest =>
        if c ∈ s.gone then some { s with inbox := rest, exited := true }
        else some ((s.acknowledge c rest).replyMsg wire data c message)

/-! ## Measurements -/

/-- One turn of the loop in `_sensor_measurement`, in process `i`. -/
def sensorMeasurement (wire : MeasurementWire F) (data : List (MeasuredEntry F))
    (i : ℕ) (w : Worker) (s : SSCMockingServer) : SSCMockingServer :=
  match Server.generateProtobufSensorMeasurement wire (w.index + 1) data w.uid
      w.index with
  -- it never gets to the send
  | none => s
  | some (.error _) => s.endProcess i
  | some (.ok response) =>
      match Server.reportLargeIndication response with
      | .error _ => s.endProcess i
      | .ok buf =>
          -- stop when the client has disappeared
          if w.client ∈ s.gone then s.endProcess i
          else
            { s.sendto w.client (.reportLarge buf) with
              processes := s.processes.modify i
                (fun w => { w with index := w.index + 1 }) }

/-! ## The machine -/

/-- A client sends a request or disappears, the server handles a request, or a
process sends its next measurement. -/
inductive Action where
  | request (c : QrtrAddress) (message : GArray)
  | disappear (c : QrtrAddress)
  | process
  | measure (i : ℕ)
deriving DecidableEq, Repr

def act (wire : MeasurementWire F) (data : List (MeasuredEntry F))
    (s : SSCMockingServer) : Action → Option SSCMockingServer
  | .request c message =>
      if c ∈ s.gone then none
      else some { s with inbox := s.inbox ++ [(c, message)] }
  | .disappear c => some { s with gone := c :: s.gone }
  | .process => s.process wire.toWire data
  | .measure i =>
      match s.processes[i]? with
      | none => none
      | some w =>
          if w.running then some (s.sensorMeasurement wire data i w) else none

/-- Process `i` sends measurements of sensor `u` that reach client `c`. -/
def LiveWorker (s : SSCMockingServer) (i : ℕ) (c : QrtrAddress) (u : SscUid) :
    Prop :=
  ∃ w, s.processes[i]? = some w ∧ w.running = true ∧ w.client = c ∧ w.uid = u ∧
    c ∉ s.gone

variable {wire : MeasurementWire F} {data : List (MeasuredEntry F)}
  {s s' : SSCMockingServer}

/-! ## Requests that switch a sensor -/

/-- The sensor that a request switches, and whether it is switched on. -/
def switches (wire : Wire F) (message : GArray) : Option (SscUid × Bool) :=
  match Server.parseProtobufClientRequest wire message with
  | .error _ => none
  | .ok (messageId, uid) =>
      if messageId = SSC_PROTOBUF_ENABLE_REPORT_MSG_ID ∨
          messageId = SSC_PROTOBUF_ENABLE_CONTINUOUS_MSG_ID then
        some (uid, true)
      else if messageId = SSC_PROTOBUF_DISABLE_REPORT_MSG_ID then
        some (uid, false)
      else none

theorem replyMsg_of_switches {wire : Wire F} {table : List (Entry F)}
    {message : GArray} {u : SscUid} {b : Bool}
    (h : switches wire message = some (u, b)) :
    Server.replyMsg wire table message =
      .ok (if b then .enable u else .disable u) := by
  unfold switches at h
  unfold Server.replyMsg Server.respond
  cases hparse : Server.parseProtobufClientRequest wire message with
  | error e =>
      rw [hparse] at h
      exact absurd h (by simp)
  | ok p =>
      obtain ⟨messageId, uid⟩ := p
      rw [hparse] at h
      simp only [bind, Except.bind]
      simp only at h
      split_ifs at h with henable hdisable
      · obtain ⟨rfl, rfl⟩ := Prod.mk.inj (Option.some.inj h)
        have h₁ : ¬ (messageId = SSC_PROTOBUF_DISCOVER_MSG_ID ∧
            uid = SSC_SUID_SENSOR_UID) := by
          rintro ⟨hid, -⟩
          rw [hid] at henable
          exact absurd henable (by decide)
        have h₂ : messageId ≠ SSC_PROTOBUF_GET_ATTRIBUTE_MSG_ID := by
          intro hid
          rw [hid] at henable
          exact absurd henable (by decide)
        rw [if_neg h₁, if_neg h₂, if_pos henable]
        rfl
      · obtain ⟨rfl, rfl⟩ := Prod.mk.inj (Option.some.inj h)
        have h₁ : ¬ (messageId = SSC_PROTOBUF_DISCOVER_MSG_ID ∧
            uid = SSC_SUID_SENSOR_UID) := by
          rintro ⟨hid, -⟩
          rw [hid] at hdisable
          exact absurd hdisable (by decide)
        have h₂ : messageId ≠ SSC_PROTOBUF_GET_ATTRIBUTE_MSG_ID := by
          rw [hdisable]
          decide
        rw [if_neg h₁, if_neg h₂, if_neg henable, if_pos hdisable]
        rfl

/-- The requests are all about switching sensors that have measurements. -/
def Switching (wire : MeasurementWire F) (data : List (MeasuredEntry F)) :
    Action → Prop
  | .request _ message => ∃ u b, switches wire.toWire message = some (u, b) ∧
      Server.HasMeasurements wire data u
  | _ => True

/-! ## What keeps the processes and the dictionary together -/

/-- The processes that run are those in the dictionary. -/
structure Supervised (wire : MeasurementWire F) (data : List (MeasuredEntry F))
    (s : SSCMockingServer) : Prop where
  inbox : ∀ q ∈ s.inbox, Switching wire data (.request q.1 q.2)
  entry : ∀ u i, s.workers.lookup u = some i →
    ∃ w, s.processes[i]? = some w ∧ w.uid = u
  running : ∀ i w, s.processes[i]? = some w → w.running = true →
    s.workers.lookup w.uid = some i ∧ Server.HasMeasurements wire data w.uid

/-- The data of the measurement that a process has come to. -/
def Measures (wire : MeasurementWire F) (data : List (MeasuredEntry F)) (w : Worker)
    (response : GArray) : Prop :=
  Server.generateProtobufSensorMeasurement wire (w.index + 1) data w.uid w.index =
    some (.ok response)

/-- What an action does. -/
inductive Step (wire : MeasurementWire F) (data : List (MeasuredEntry F))
    (s : SSCMockingServer) : Action → SSCMockingServer → Prop where
  | request {c : QrtrAddress} {message : GArray} (hc : c ∉ s.gone) :
      Step wire data s (.request c message)
        { s with inbox := s.inbox ++ [(c, message)] }
  | disappear (c : QrtrAddress) :
      Step wire data s (.disappear c) { s with gone := c :: s.gone }
  | exit {c : QrtrAddress} {message : GArray}
      {rest : List (QrtrAddress × GArray)}
      (hexited : s.exited = false) (hinbox : s.inbox = (c, message) :: rest)
      (hc : c ∈ s.gone) :
      Step wire data s .process { s with inbox := rest, exited := true }
  | warn {c : QrtrAddress} {message : GArray} {rest : List (QrtrAddress × GArray)}
      {u : SscUid} {b : Bool}
      (hexited : s.exited = false) (hinbox : s.inbox = (c, message) :: rest)
      (hc : c ∉ s.gone) (hm : switches wire.toWire message = some (u, b))
      (hu : (s.workers.lookup u).isSome = b) :
      Step wire data s .process (s.acknowledge c rest)
  | enable {c : QrtrAddress} {message : GArray}
      {rest : List (QrtrAddress × GArray)} {u : SscUid}
      (hexited : s.exited = false) (hinbox : s.inbox = (c, message) :: rest)
      (hc : c ∉ s.gone) (hm : switches wire.toWire message = some (u, true))
      (hu : s.workers.lookup u = none) :
      Step wire data s .process ((s.acknowledge c rest).startWorker u c)
  | disable {c : QrtrAddress} {message : GArray}
      {rest : List (QrtrAddress × GArray)} {u : SscUid} {i : ℕ}
      (hexited : s.exited = false) (hinbox : s.inbox = (c, message) :: rest)
      (hc : c ∉ s.gone) (hm : switches wire.toWire message = some (u, false))
      (hu : s.workers.lookup u = some i) :
      Step wire data s .process ((s.acknowledge c rest).stopWorker u i)
  | measure {i : ℕ} {w : Worker} {response : GArray}
      (hw : s.processes[i]? = some w) (hrunning : w.running = true)
      (hm : Measures wire data w response) (hfits : DataFits response)
      (hc : w.client ∉ s.gone) :
      Step wire data s (.measure i)
        { s.sendto w.client (.reportLarge response) with
          processes := s.processes.modify i
            (fun w => { w with index := w.index + 1 }) }
  | stop {i : ℕ} {w : Worker}
      (hw : s.processes[i]? = some w) (hrunning : w.running = true)
      (hc : w.client ∈ s.gone) :
      Step wire data s (.measure i) (s.endProcess i)
  | overflow {i : ℕ} {w : Worker} {response : GArray}
      (hw : s.processes[i]? = some w) (hrunning : w.running = true)
      (hm : Measures wire data w response) (hlong : ¬ DataFits response)
      (hc : w.client ∉ s.gone) :
      Step wire data s (.measure i) (s.endProcess i)

/-- A turn of the server takes the first request. -/
theorem process_cases {wire : Wire F} (h : s.process wire data = some s') :
    s.exited = false ∧ ∃ c message rest, s.inbox = (c, message) :: rest ∧
      (c ∈ s.gone ∧ s' = { s with inbox := rest, exited := true } ∨
        c ∉ s.gone ∧ s' = (s.acknowledge c rest).replyMsg wire data c message) := by
  unfold process at h
  split_ifs at h with hexited
  cases hinbox : s.inbox with
  | nil =>
      rw [hinbox] at h
      exact absurd h (by simp)
  | cons q rest =>
      rw [hinbox] at h
      simp only at h
      refine ⟨by simpa using hexited, q.1, q.2, rest, rfl, ?_⟩
      split_ifs at h with hc
      · exact Or.inl ⟨hc, (Option.some.inj h).symm⟩
      · exact Or.inr ⟨hc, (Option.some.inj h).symm⟩

/-- A turn of a process is one of a process that runs. -/
theorem turn_of_act {i : ℕ} (h : s.act wire data (.measure i) = some s') :
    ∃ w, s.processes[i]? = some w ∧ w.running = true ∧
      s' = s.sensorMeasurement wire data i w := by
  simp only [act] at h
  cases hw : s.processes[i]? with
  | none =>
      rw [hw] at h
      exact absurd h (by simp)
  | some w =>
      rw [hw] at h
      simp only at h
      split_ifs at h with hrunning
      exact ⟨w, rfl, hrunning, (Option.some.inj h).symm⟩

theorem step_of_process (hs : Supervised wire data s)
    (h : s.process wire.toWire data = some s') : Step wire data s .process s' := by
  obtain ⟨hexited, c, message, rest, hinbox, hs'⟩ := process_cases h
  obtain ⟨u, b, hm, -⟩ := hs.inbox (c, message) (by
    rw [hinbox]
    exact List.mem_cons_self)
  rcases hs' with ⟨hc, rfl⟩ | ⟨hc, rfl⟩
  · exact .exit hexited hinbox hc
  · unfold replyMsg
    rw [replyMsg_of_switches hm]
    cases b with
    | true =>
        simp only [if_true]
        cases hu : s.workers.lookup u with
        | some i =>
            simp only [acknowledge, sendto, hu]
            exact .warn hexited hinbox hc hm (by rw [hu]; rfl)
        | none =>
            simp only [acknowledge, sendto, hu]
            exact .enable hexited hinbox hc hm hu
    | false =>
        simp only [Bool.false_eq_true, if_false]
        cases hu : s.workers.lookup u with
        | some i =>
            simp only [acknowledge, sendto, hu]
            exact .disable hexited hinbox hc hm hu
        | none =>
            simp only [acknowledge, sendto, hu]
            exact .warn hexited hinbox hc hm (by rw [hu]; rfl)

theorem step_of_measure {i : ℕ} {w : Worker} (hs : Supervised wire data s)
    (hw : s.processes[i]? = some w) (hrunning : w.running = true) :
    Step wire data s (.measure i) (s.sensorMeasurement wire data i w) := by
  obtain ⟨response, hm⟩ := Server.generate_of_hasMeasurements
    (hs.running i w hw hrunning).2 w.index
  unfold sensorMeasurement
  rw [hm]
  simp only
  by_cases hfits : DataFits response
  · rw [Server.reportLargeIndication_of_fits hfits]
    simp only
    split_ifs with hc
    · exact .stop hw hrunning hc
    · exact .measure hw hrunning hm hfits hc
  · rw [Server.reportLargeIndication_of_not_fits hfits]
    by_cases hc : w.client ∈ s.gone
    · exact .stop hw hrunning hc
    · exact .overflow hw hrunning hm hfits hc

theorem step_of_act {a : Action} (hs : Supervised wire data s)
    (h : s.act wire data a = some s') : Step wire data s a s' := by
  cases a with
  | request c message =>
      simp only [act] at h
      split_ifs at h with hc
      obtain rfl := Option.some.inj h
      exact .request hc
  | disappear c =>
      obtain rfl := Option.some.inj h
      exact .disappear c
  | process => exact step_of_process hs h
  | measure i =>
      obtain ⟨w, hw, hrunning, rfl⟩ := turn_of_act h
      exact step_of_measure hs hw hrunning

/-! ## The invariant -/

theorem supervised_new : Supervised wire data new where
  inbox _ hq := absurd hq List.not_mem_nil
  entry _ _ h := absurd h (by simp [new])
  running _ _ h _ := absurd h (by simp [new])

/-- The rest of the state is of no importance. -/
theorem supervised_of_same (h : Supervised wire data s)
    (hworkers : s'.workers = s.workers) (hprocesses : s'.processes = s.processes)
    (hinbox : ∀ q ∈ s'.inbox, Switching wire data (.request q.1 q.2)) :
    Supervised wire data s' where
  inbox := hinbox
  entry := by
    rw [hworkers, hprocesses]
    exact h.entry
  running := by
    rw [hworkers, hprocesses]
    exact h.running

/-- The request that is next. -/
theorem switching_of_inbox (h : Supervised wire data s) {q : QrtrAddress × GArray}
    {rest : List (QrtrAddress × GArray)} (hinbox : s.inbox = q :: rest) :
    Switching wire data (.request q.1 q.2) := by
  apply h.inbox
  rw [hinbox]
  exact List.mem_cons_self

theorem supervised_acknowledge (h : Supervised wire data s) (c : QrtrAddress)
    {q : QrtrAddress × GArray} {rest : List (QrtrAddress × GArray)}
    (hinbox : s.inbox = q :: rest) :
    Supervised wire data (s.acknowledge c rest) := by
  refine supervised_of_same h rfl rfl fun x hx => ?_
  apply h.inbox
  rw [hinbox]
  exact List.mem_cons_of_mem _ hx

theorem getElem?_startWorker {u : SscUid} {c : QrtrAddress} {j : ℕ} {v : Worker} :
    (s.startWorker u c).processes[j]? = some v ↔ s.processes[j]? = some v ∨
      j = s.processes.length ∧
        v = { uid := u, client := c, index := 0, running := true } := by
  show (s.processes ++ [_])[j]? = some v ↔ _
  rcases Nat.lt_trichotomy j s.processes.length with hlt | heq | hgt
  · simp [List.getElem?_append_left hlt, Nat.ne_of_lt hlt]
  · subst heq
    simp [eq_comm]
  · simp [List.getElem?_eq_none (Nat.le_of_lt hgt), Nat.ne_of_gt hgt,
      List.getElem?_append_right (Nat.le_of_lt hgt), Nat.sub_ne_zero_of_lt hgt]

/-- The processes when `f` has been done to one of them. -/
theorem getElem?_modify_eq_some {f : Worker → Worker} {l : List Worker} {i j : ℕ}
    {v : Worker} :
    (l.modify i f)[j]? = some v ↔
      ∃ w, l[j]? = some w ∧ v = if i = j then f w else w := by
  rw [List.getElem?_modify]
  cases l[j]? with
  | none => simp
  | some w => simp [eq_comm]

theorem supervised_startWorker {u : SscUid} (h : Supervised wire data s)
    (c : QrtrAddress) (hu : s.workers.lookup u = none)
    (hm : Server.HasMeasurements wire data u) :
    Supervised wire data (s.startWorker u c) where
  inbox := h.inbox
  entry := by
    intro v i hv
    by_cases hvu : v = u
    · subst hvu
      obtain rfl : s.processes.length = i := by simpa [startWorker] using hv
      exact ⟨_, getElem?_startWorker.mpr (Or.inr ⟨rfl, rfl⟩), rfl⟩
    · have hv' : s.workers.lookup v = some i := by
        simpa [startWorker, AList.lookup_insert_ne hvu] using hv
      obtain ⟨w, hw, huid⟩ := h.entry v i hv'
      exact ⟨w, getElem?_startWorker.mpr (Or.inl hw), huid⟩
  running := by
    intro j w hw hrunning
    rcases getElem?_startWorker.mp hw with hold | ⟨rfl, rfl⟩
    · obtain ⟨hlookup, hmeas⟩ := h.running j w hold hrunning
      have hne : w.uid ≠ u := by
        rintro rfl
        rw [hu] at hlookup
        exact absurd hlookup (by simp)
      refine ⟨?_, hmeas⟩
      simpa [startWorker, AList.lookup_insert_ne hne] using hlookup
    · exact ⟨by simp [startWorker], hm⟩

theorem supervised_stopWorker {u : SscUid} {i : ℕ} (h : Supervised wire data s)
    (hu : s.workers.lookup u = some i) :
    Supervised wire data (s.stopWorker u i) where
  inbox := h.inbox
  entry := by
    intro v j hv
    have hne : v ≠ u := by
      rintro rfl
      exact absurd hv (by simp [stopWorker])
    obtain ⟨w, hw, huid⟩ := h.entry v j (by
      simpa [stopWorker, AList.lookup_erase_ne hne] using hv)
    refine ⟨_, getElem?_modify_eq_some.mpr ⟨w, hw, rfl⟩, ?_⟩
    split_ifs <;> exact huid
  running := by
    intro j v hv hrunning
    obtain ⟨w, hw, rfl⟩ := getElem?_modify_eq_some.mp hv
    by_cases hij : i = j
    · rw [if_pos hij] at hrunning
      exact absurd hrunning (by simp)
    · rw [if_neg hij] at hrunning ⊢
      obtain ⟨hlookup, hmeas⟩ := h.running j w hw hrunning
      have hne : w.uid ≠ u := by
        intro heq
        rw [heq, hu] at hlookup
        exact hij (Option.some.inj hlookup)
      exact ⟨by simpa [stopWorker, AList.lookup_erase_ne hne] using hlookup, hmeas⟩

/-- A process may end by itself. -/
theorem supervised_endProcess {i : ℕ} (h : Supervised wire data s) :
    Supervised wire data (s.endProcess i) where
  inbox := h.inbox
  entry := by
    intro u j hu
    obtain ⟨x, hx, huid⟩ := h.entry u j hu
    refine ⟨_, getElem?_modify_eq_some.mpr ⟨x, hx, rfl⟩, ?_⟩
    split_ifs <;> exact huid
  running := by
    intro j v hv hrunning
    obtain ⟨x, hx, rfl⟩ := getElem?_modify_eq_some.mp hv
    by_cases hij : i = j
    · rw [if_pos hij] at hrunning
      exact absurd hrunning (by simp)
    · rw [if_neg hij] at hrunning ⊢
      exact h.running j x hx hrunning

/-- A process that goes on with the next measurement. -/
theorem supervised_advance {i : ℕ} (h : Supervised wire data s)
    (hprocesses : s'.processes =
      s.processes.modify i (fun w => { w with index := w.index + 1 }))
    (hworkers : s'.workers = s.workers) (hinbox : s'.inbox = s.inbox) :
    Supervised wire data s' where
  inbox := by
    rw [hinbox]
    exact h.inbox
  entry := by
    rw [hworkers, hprocesses]
    intro u j hu
    obtain ⟨x, hx, huid⟩ := h.entry u j hu
    refine ⟨_, getElem?_modify_eq_some.mpr ⟨x, hx, rfl⟩, ?_⟩
    split_ifs <;> exact huid
  running := by
    rw [hworkers, hprocesses]
    intro j v hv hrunning
    obtain ⟨x, hx, rfl⟩ := getElem?_modify_eq_some.mp hv
    by_cases hij : i = j
    · rw [if_pos hij] at hrunning ⊢
      exact h.running j x hx hrunning
    · rw [if_neg hij] at hrunning ⊢
      exact h.running j x hx hrunning

/-- **The dictionary stays in charge of the processes**, whatever the order of the
actions is. -/
theorem supervised_step {a : Action} (h : Supervised wire data s)
    (ha : Switching wire data a) (hstep : Step wire data s a s') :
    Supervised wire data s' := by
  cases hstep with
  | @request c message hc =>
      refine supervised_of_same h rfl rfl ?_
      intro q hq
      rcases List.mem_append.mp hq with hq | hq
      · exact h.inbox q hq
      · obtain rfl := List.mem_singleton.mp hq
        exact ha
  | disappear c =>
      exact supervised_of_same h rfl rfl h.inbox
  | @exit c _ _ _ hinbox _ =>
      have h' := supervised_acknowledge h c hinbox
      exact supervised_of_same h' rfl rfl h'.inbox
  | @warn c _ _ _ _ _ hinbox _ _ _ => exact supervised_acknowledge h c hinbox
  | @enable c message rest u _ hinbox _ hm hu =>
      have h' := supervised_acknowledge h c hinbox
      obtain ⟨v, b, hv, hmeas⟩ := switching_of_inbox h hinbox
      obtain ⟨rfl, -⟩ := Prod.mk.inj (Option.some.inj (hm.symm.trans hv))
      exact supervised_startWorker h' c hu hmeas
  | @disable c message rest u i _ hinbox _ _ hu =>
      exact supervised_stopWorker (supervised_acknowledge h c hinbox) hu
  | measure _ _ _ _ _ => exact supervised_advance h rfl rfl rfl
  | stop _ _ _ => exact supervised_endProcess h
  | overflow _ _ _ _ _ => exact supervised_endProcess h

/-- Two processes for one client and one sensor are one. -/
theorem eq_of_liveWorker (h : Supervised wire data s) {i j : ℕ}
    {c : QrtrAddress} {u : SscUid} (hi : s.LiveWorker i c u)
    (hj : s.LiveWorker j c u) : i = j := by
  obtain ⟨w, hw, hwr, -, rfl, -⟩ := hi
  obtain ⟨x, hx, hxr, -, hxu, -⟩ := hj
  have hlookup := (h.running j x hx hxr).1
  rw [hxu, (h.running i w hw hwr).1] at hlookup
  exact Option.some.inj hlookup

end SSCMockingServer

end Libssc

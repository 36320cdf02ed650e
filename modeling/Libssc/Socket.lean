import Libssc.Library.Run
import Libssc.Service
import Libssc.Workers

/-!
# The mocking server at its socket

What arrives at the server's socket are datagrams, and what it sends are
datagrams. `SocketServer` is the server with these: it tells requests from other
datagrams by their first byte, reads them, and repeats their transaction id in
what it sends on their behalf, which includes the measurements of a process that a
request has started.

Any exception ends the server, or the process that has raised it. `step_of_act`
says what the actions can do.
-/

namespace Libssc

open Library

variable {F : Type}

def QMI_REQUEST : UInt8 := 0x0
def QRTR_REQUEST : UInt8 := 0x6

/-! ## State -/

/-- A process with the transaction id of the request that has started it. -/
structure SocketWorker extends Worker where
  transactionId : ℕ
deriving DecidableEq, Repr

/-- The server with the datagrams that wait at its socket and those it has sent.
The rest is as in `SSCMockingServer`. -/
structure SocketServer where
  inbox : List (QrtrAddress × GArray)
  workers : AList (fun _ : SscUid => ℕ)
  processes : List SocketWorker
  gone : List QrtrAddress
  exited : Bool
  sent : List (QrtrAddress × GArray)

namespace SocketServer

open SSCMockingServer (Action)

/-- The server as it starts to listen. -/
def new : SocketServer where
  inbox := []
  workers := ∅
  processes := []
  gone := []
  exited := false
  sent := []

/-! ## Datagrams -/

/-- The size of the buffer that `_process` receives into; a longer datagram is
cut. -/
def bufferSize : ℕ := 65536

/-- The end of the process, by `sys.exit` or an exception. -/
def exit (s : SocketServer) : SocketServer := { s with exited := true }

/-- A send that succeeds. -/
def sendto (c : QrtrAddress) (buf : GArray) (s : SocketServer) : SocketServer :=
  { s with sent := s.sent ++ [(c, buf)] }

def startWorker (uid : SscUid) (c : QrtrAddress) (transactionId : ℕ)
    (s : SocketServer) : SocketServer :=
  { s with
    workers := s.workers.insert uid s.processes.length
    processes := s.processes ++
      [{ uid := uid, client := c, index := 0, running := true
         transactionId := transactionId }] }

/-- Process `i` is no more. -/
def endProcess (i : ℕ) (s : SocketServer) : SocketServer :=
  { s with processes := s.processes.modify i (fun w => { w with running := false }) }

def stopWorker (uid : SscUid) (i : ℕ) (s : SocketServer) : SocketServer :=
  { s.endProcess i with workers := s.workers.erase uid }

/-- The state after a call: `raised` if it has raised an exception. -/
def afterCall {ε α : Type} (raised : SocketServer) (k : α → SocketServer) :
    Except ε α → SocketServer
  | .error _ => raised
  | .ok a => k a

@[simp] theorem afterCall_error {ε α : Type} (raised : SocketServer)
    (k : α → SocketServer) (e : ε) : afterCall raised k (.error e) = raised := rfl

@[simp] theorem afterCall_ok {ε α : Type} (raised : SocketServer)
    (k : α → SocketServer) (a : α) :
    afterCall raised k (.ok a : Except ε α) = k a := rfl

/-- What is done about a request with the transaction id, once it is known. -/
def reply (c : QrtrAddress) (transactionId : ℕ) (s : SocketServer) :
    Server.Reply → SocketServer
  | .indication response =>
      afterCall s.exit (fun buf => s.sendto c buf)
        (SSC.generateReportLargeIndication response transactionId)
  | .enable uid =>
      match s.workers.lookup uid with
      | some _ => s
      | none => s.startWorker uid c transactionId
  | .disable uid =>
      match s.workers.lookup uid with
      | some i => s.stopWorker uid i
      | none => s
  | .unsupported _ => s

theorem reply_indication (c : QrtrAddress) (tx : ℕ) (response : GArray)
    (s : SocketServer) : s.reply c tx (.indication response) =
      afterCall s.exit (fun buf => s.sendto c buf)
        (SSC.generateReportLargeIndication response tx) := rfl

/-- The part of `_reply_msg` that follows the acknowledgement, for a request with
the data `message`. -/
def answer (wire : Wire F) (data : List (MeasuredEntry F)) (c : QrtrAddress)
    (transactionId : ℕ) (message : GArray) (s : SocketServer) : SocketServer :=
  afterCall s.exit (s.reply c transactionId)
    (Server.respond wire (data.map MeasuredEntry.toEntry) message)

/-- `_reply_msg` for a request: read it, send the QMI success reply, and answer. -/
def replyRequest (wire : Wire F) (data : List (MeasuredEntry F)) (c : QrtrAddress)
    (s : SocketServer) (input : ReportType × GArray × ℕ) : SocketServer :=
  afterCall s.exit
    (fun buf =>
      if c ∈ s.gone then s.exit
      else (s.sendto c buf).answer wire data c input.2.2 input.2.1)
    (SSC.generateMessageControlOutput input.2.2)

/-- `_reply_msg`. -/
def replyMsg (wire : Wire F) (data : List (MeasuredEntry F)) (c : QrtrAddress)
    (incoming : GArray) (s : SocketServer) : SocketServer :=
  match incoming.head? with
  -- `_receive_msg` has not received anything
  | none => s.exit
  | some b =>
      if b = QMI_REQUEST then
        -- without a result it never gets any further
        (SSC.parseMessageControlInput (incoming.length + 1) incoming).elim s
          (afterCall s.exit (s.replyRequest wire data c))
      -- a QRTR request, or no request: a line of output
      else if b = QRTR_REQUEST then s
      else s

/-- One turn of the loop in `_process`, for the datagram that has waited longest. -/
def process (wire : Wire F) (data : List (MeasuredEntry F)) (s : SocketServer) :
    Option SocketServer :=
  if s.exited then none
  else
    match s.inbox with
    | [] => none
    | (c, incoming) :: rest =>
        some ({ s with inbox := rest }.replyMsg wire data c
          (incoming.take bufferSize))

/-- One turn of the loop in `_sensor_measurement`, in process `i`. -/
def sensorMeasurement (wire : MeasurementWire F) (data : List (MeasuredEntry F))
    (i : ℕ) (w : SocketWorker) (s : SocketServer) : SocketServer :=
  -- without a result it never gets to the send
  (Server.generateProtobufSensorMeasurement wire (w.index + 1) data w.uid
    w.index).elim s (afterCall (s.endProcess i) (fun response =>
      afterCall (s.endProcess i)
        (fun buf =>
          -- stop when the client has disappeared
          if w.client ∈ s.gone then s.endProcess i
          else
            { s.sendto w.client buf with
              processes := s.processes.modify i
                (fun w => { w with index := w.index + 1 }) })
        (SSC.generateReportLargeIndication response w.transactionId)))

/-- The actions are those of `SSCMockingServer`, with datagrams for requests. -/
def act (wire : MeasurementWire F) (data : List (MeasuredEntry F))
    (s : SocketServer) : Action → Option SocketServer
  | .request c incoming =>
      if c ∈ s.gone then none
      else some { s with inbox := s.inbox ++ [(c, incoming)] }
  | .disappear c => some { s with gone := c :: s.gone }
  | .process => s.process wire.toWire data
  | .measure i =>
      match s.processes[i]? with
      | none => none
      | some w =>
          if w.running then some (s.sensorMeasurement wire data i w) else none

/-! ## Requests among the datagrams -/

/-- The transaction id and the data of a datagram that is a request. -/
def requestOf (incoming : GArray) : Option (ℕ × GArray) :=
  if incoming.head? = some QMI_REQUEST then
    match SSC.parseMessageControlInput (incoming.length + 1) incoming with
    | some (.ok (_, message, transactionId)) => some (transactionId, message)
    | _ => none
  else none

/-- A datagram that the server does not look into. -/
def Passed (incoming : GArray) : Prop :=
  ∃ b, incoming.head? = some b ∧ b ≠ QMI_REQUEST

/-- The server can deal with a datagram: it passes it by, or it is a request, and
if it is answered with an indication then the answer fits. -/
def Understood (wire : Wire F) (data : List (MeasuredEntry F))
    (incoming : GArray) : Prop :=
  Passed incoming ∨ ∃ transactionId message,
    requestOf incoming = some (transactionId, message) ∧
      ∃ reply, Server.respond wire (data.map MeasuredEntry.toEntry) message =
        .ok reply ∧ ∀ response, reply = .indication response → DataFits response

variable {wire : Wire F} {data : List (MeasuredEntry F)} {c : QrtrAddress}
  {incoming message : GArray} {tx : ℕ} {s : SocketServer}

theorem requestOf_of_passed (h : Passed incoming) : requestOf incoming = none := by
  obtain ⟨b, hb, hne⟩ := h
  unfold requestOf
  rw [hb, if_neg (by simpa using hne)]

theorem replyMsg_of_passed (h : Passed incoming) :
    s.replyMsg wire data c incoming = s := by
  obtain ⟨b, hb, hne⟩ := h
  unfold replyMsg
  rw [hb]
  show (if b = QMI_REQUEST then _ else _) = s
  rw [if_neg hne, ite_self]

theorem requestOf_eq_some (h : requestOf incoming = some (tx, message)) :
    incoming.head? = some QMI_REQUEST ∧ ∃ report,
      SSC.parseMessageControlInput (incoming.length + 1) incoming =
        some (.ok (report, message, tx)) := by
  unfold requestOf at h
  split_ifs at h with hb
  split at h
  · rename_i report m t hparse
    obtain ⟨rfl, rfl⟩ := Prod.mk.inj (Option.some.inj h)
    exact ⟨hb, report, hparse⟩
  · exact absurd h (by simp)

theorem transactionId_lt (h : requestOf incoming = some (tx, message)) :
    tx < 65536 := by
  obtain ⟨-, report, hparse⟩ := requestOf_eq_some h
  exact SSC.transactionId_lt hparse

/-- A request is acknowledged and answered, if the client is there. -/
theorem replyMsg_of_request (h : requestOf incoming = some (tx, message)) :
    s.replyMsg wire data c incoming =
      if c ∈ s.gone then s.exit
      else (s.sendto c (SSC.controlOutput tx)).answer wire data c tx message := by
  have htx := transactionId_lt h
  obtain ⟨hb, report, hparse⟩ := requestOf_eq_some h
  unfold replyMsg
  rw [hb]
  show (if QMI_REQUEST = QMI_REQUEST then _ else _) = _
  rw [if_pos rfl, hparse, Option.elim_some, afterCall_ok, replyRequest,
    SSC.generateMessageControlOutput_of_lt htx, afterCall_ok]

/-- Any other datagram ends the server. -/
theorem replyMsg_of_rejected (hpassed : ¬ Passed incoming)
    (hrequest : requestOf incoming = none) :
    s.replyMsg wire data c incoming = s.exit := by
  cases hhead : incoming.head? with
  | none =>
      unfold replyMsg
      rw [hhead]
  | some b =>
      obtain rfl : b = QMI_REQUEST := by
        by_contra hb
        exact hpassed ⟨b, hhead, hb⟩
      obtain ⟨r, hr⟩ := Option.isSome_iff_exists.mp
        (SSC.parseMessageControlInput_isSome (Nat.lt_succ_self incoming.length))
      unfold requestOf at hrequest
      rw [if_pos hhead, hr] at hrequest
      unfold replyMsg
      rw [hhead]
      show (if QMI_REQUEST = QMI_REQUEST then _ else _) = _
      rw [if_pos rfl, hr, Option.elim_some]
      cases r with
      | error e => rfl
      | ok r => exact absurd hrequest (by simp)

/-! ## What an action does -/

/-- What becomes of a request after its acknowledgement: nothing, the end of the
server, an indication with its transaction id, or a process that starts or ends. -/
inductive Answered (c : QrtrAddress) (tx : ℕ) (s : SocketServer) :
    SocketServer → Prop where
  | same : Answered c tx s s
  | exit : Answered c tx s s.exit
  | indication {response buf : GArray}
      (h : SSC.generateReportLargeIndication response tx = .ok buf) :
      Answered c tx s (s.sendto c buf)
  | start (uid : SscUid) : Answered c tx s (s.startWorker uid c tx)
  | stop (uid : SscUid) (i : ℕ) : Answered c tx s (s.stopWorker uid i)

theorem answered_answer (c : QrtrAddress) (tx : ℕ) (message : GArray)
    (s : SocketServer) : Answered c tx s (s.answer wire data c tx message) := by
  unfold answer
  cases Server.respond wire (data.map MeasuredEntry.toEntry) message with
  | error e => exact .exit
  | ok r =>
      rw [afterCall_ok]
      cases r with
      | indication response =>
          rw [reply_indication]
          cases hbuf : SSC.generateReportLargeIndication response tx with
          | error e => exact .exit
          | ok buf => exact .indication hbuf
      | enable uid =>
          simp only [reply]
          cases s.workers.lookup uid with
          | none => exact .start uid
          | some i => exact .same
      | disable uid =>
          simp only [reply]
          cases s.workers.lookup uid with
          | none => exact .same
          | some i => exact .stop uid i
      | unsupported messageId => exact .same

/-- What an action does. -/
inductive Step (s : SocketServer) : Action → SocketServer → Prop where
  | request {c : QrtrAddress} {incoming : GArray} (hc : c ∉ s.gone) :
      Step s (.request c incoming)
        { s with inbox := s.inbox ++ [(c, incoming)] }
  | disappear (c : QrtrAddress) :
      Step s (.disappear c) { s with gone := c :: s.gone }
  | pass {c : QrtrAddress} {incoming : GArray} {rest : List (QrtrAddress × GArray)}
      (hinbox : s.inbox = (c, incoming) :: rest)
      (h : Passed (incoming.take bufferSize)) :
      Step s .process { s with inbox := rest }
  | fail {c : QrtrAddress} {incoming : GArray} {rest : List (QrtrAddress × GArray)}
      (hinbox : s.inbox = (c, incoming) :: rest)
      (h : ¬ Passed (incoming.take bufferSize))
      (hc : requestOf (incoming.take bufferSize) = none ∨ c ∈ s.gone) :
      Step s .process { s with
        inbox := rest
        exited := true }
  | answer {c : QrtrAddress} {incoming message : GArray} {tx : ℕ}
      {rest : List (QrtrAddress × GArray)} {s' : SocketServer}
      (hinbox : s.inbox = (c, incoming) :: rest)
      (h : requestOf (incoming.take bufferSize) = some (tx, message))
      (hc : c ∉ s.gone) (hs' : Answered c tx
        ({ s with inbox := rest }.sendto c (SSC.controlOutput tx)) s') :
      Step s .process s'
  | never (i : ℕ) : Step s (.measure i) s
  | stop (i : ℕ) : Step s (.measure i) (s.endProcess i)
  | measure {i : ℕ} {w : SocketWorker} {response buf : GArray}
      (hw : s.processes[i]? = some w) (hc : w.client ∉ s.gone)
      (h : SSC.generateReportLargeIndication response w.transactionId = .ok buf) :
      Step s (.measure i)
        { s.sendto w.client buf with
          processes := s.processes.modify i
            (fun w => { w with index := w.index + 1 }) }

theorem step_of_process {s' : SocketServer} (h : s.process wire data = some s') :
    Step s .process s' := by
  unfold process at h
  split_ifs at h with hexited
  cases hinbox : s.inbox with
  | nil =>
      rw [hinbox] at h
      exact absurd h (by simp)
  | cons q rest =>
      obtain ⟨c, incoming⟩ := q
      rw [hinbox] at h
      obtain rfl := Option.some.inj h
      by_cases hpassed : Passed (incoming.take bufferSize)
      · rw [replyMsg_of_passed hpassed]
        exact .pass hinbox hpassed
      cases hrequest : requestOf (incoming.take bufferSize) with
      | none =>
          rw [replyMsg_of_rejected hpassed hrequest]
          exact .fail hinbox hpassed (Or.inl hrequest)
      | some r =>
          rw [replyMsg_of_request hrequest]
          split_ifs with hc
          · exact .fail hinbox hpassed (Or.inr hc)
          · exact .answer hinbox hrequest hc (answered_answer _ _ _ _)

theorem step_of_act {a : Action} {s' : SocketServer} {wire : MeasurementWire F}
    (h : s.act wire data a = some s') : Step s a s' := by
  cases a with
  | request c incoming =>
      simp only [act] at h
      split_ifs at h with hc
      obtain rfl := Option.some.inj h
      exact .request hc
  | disappear c =>
      obtain rfl := Option.some.inj h
      exact .disappear c
  | process => exact step_of_process h
  | measure i =>
      simp only [act] at h
      cases hw : s.processes[i]? with
      | none =>
          rw [hw] at h
          exact absurd h (by simp)
      | some w =>
          rw [hw] at h
          simp only at h
          split_ifs at h with hrunning
          obtain rfl := Option.some.inj h
          unfold sensorMeasurement
          cases Server.generateProtobufSensorMeasurement wire (w.index + 1) data
              w.uid w.index with
          | none => exact .never i
          | some r =>
              rw [Option.elim_some]
              cases r with
              | error e => exact .stop i
              | ok response =>
                  rw [afterCall_ok]
                  cases hbuf : SSC.generateReportLargeIndication response
                      w.transactionId with
                  | error e => exact .stop i
                  | ok buf =>
                      rw [afterCall_ok]
                      split_ifs with hc
                      · exact .stop i
                      · exact .measure hw hc hbuf

/-! A client enables its proximity sensor in transaction 3, and sends a datagram
that is no request. -/

def proximityClient : QrtrAddress := ⟨1, 2⟩

/-- A wire that knows the request for measurements. -/
def proximityWire : MeasurementWire ℚ :=
  .ofRequests [([10, 18], ⟨⟨1, 1⟩, SSC_PROTOBUF_ENABLE_REPORT_MSG_ID, none⟩)]

def proximityRun : List Action :=
  [.request proximityClient
      [0, 3, 0, 0x20, 0, 11, 0, 0x10, 1, 0, 1, 1, 4, 0, 2, 0, 10, 18],
    .process, .measure 0, .request proximityClient [6, 1], .process, .measure 0]

def proximityServer : SocketServer :=
  (exec (act proximityWire proximityTable) new proximityRun).get (by decide)

theorem exec_proximityRun : exec (act proximityWire proximityTable) new
    proximityRun = some proximityServer :=
  (Option.some_get _).symm

end SocketServer

end Libssc

import Libssc.Datagrams
import Libssc.Descriptors
import Libssc.Emissions

/-!
# Over datagrams

The driver and the server of `EndToEnd` once more, now with what they really
exchange: the datagrams of QRTR. A request is packed by protobuf and framed by
libqmi, the server reads the frame, and its acknowledgements and indications are
framed as well. libqmi is not part of this repository, and a parameter
(`Libqmi`); protobuf is the format of the message definitions (`Descriptors`).

A response of QMI is matched with its request by the transaction id, which
libqmi counts up and starts again. It is always the oldest request that a
response belongs to (`Matches.unanswered`), so that every run over datagrams is
one of `EndToEnd`, and what the application gets is what the table lists
(`measurements_over_datagrams`).
-/

namespace Libssc

open Library

variable {F S M : Type} [GFloat F]

/-! ## libqmi -/

/-- A message that libqmi has received for the client. -/
inductive QmiReceived where
  | controlOutput (transactionId : ℕ)
  | reportLarge (data : GArray)
deriving DecidableEq, Repr

def QmiReceived.transactionId : QmiReceived → Option ℕ
  | .controlOutput transactionId => some transactionId
  | .reportLarge _ => none

def QmiReceived.data : QmiReceived → Option GArray
  | .controlOutput _ => none
  | .reportLarge data => some data

/-- libqmi, as far as the client uses it: the transaction id of a control request
by the number of the request, its datagram, and what is made of a datagram that
arrives. -/
structure Libqmi where
  transactionId : ℕ → ℕ
  control : ℕ → GArray → GArray
  receive : GArray → Option QmiReceived

/-- A control request has a TLV with the data and one that asks for large reports.
What the server generates is understood. -/
structure Libqmi.Lawful (qmi : Libqmi) : Prop where
  control : ∀ i data, data.length ≤ 65519 → ∃ ts,
    Qmi.generateMessage .request (qmi.transactionId i) SSC_CONTROL_MSG_ID ts =
        .ok (qmi.control (qmi.transactionId i) data) ∧
      (qmi.control (qmi.transactionId i) data).length ≤ SocketServer.bufferSize ∧
      ts.find? (fun t => t.id = SSC_CONTROL_MSG_REPORT_TYPE_ID) =
        some ⟨SSC_CONTROL_MSG_REPORT_TYPE_ID, [1], .int⟩ ∧
      ts.find? (fun t => t.id = SSC_CONTROL_MSG_DATA_ID) =
        some ⟨SSC_CONTROL_MSG_DATA_ID, data, .array⟩
  controlOutput : ∀ tx buf, SSC.generateMessageControlOutput tx = .ok buf →
    qmi.receive buf = some (.controlOutput tx)
  reportLarge : ∀ data tx buf, SSC.generateReportLargeIndication data tx = .ok buf →
    qmi.receive buf = some (.reportLarge data)

theorem Qmi.head?_frame (tx id n : ℕ) (tlvs : GArray) :
    (Qmi.frame .request tx id n tlvs).head? = some QMI_REQUEST := rfl

/-- The server takes the data of a request out of its datagram. -/
theorem Libqmi.Lawful.requestOf_control {qmi : Libqmi} (h : qmi.Lawful) (i : ℕ)
    {data : GArray} (hdata : data.length ≤ 65519) :
    SocketServer.requestOf
        ((qmi.control (qmi.transactionId i) data).take SocketServer.bufferSize) =
      some (qmi.transactionId i, data) := by
  obtain ⟨ts, hts, hlength, htype, hvalue⟩ := h.control i data hdata
  rw [List.take_of_length_le hlength]
  have hparse := (SSC.parseMessageControlInput_eq hts (Nat.lt_succ_self _)).trans
    (congrArg some (SSC.readControlInput_eq_ok.mpr ⟨rfl, rfl, rfl, Or.inr rfl,
      ⟨_, htype, rfl⟩, ⟨_, hvalue, List.drop_left' (length_leBytes 2 _)⟩⟩))
  have hhead : (qmi.control (qmi.transactionId i) data).head? = some QMI_REQUEST := by
    obtain ⟨-, -, heq⟩ := Qmi.eq_frame_of_generateMessage hts
    rw [heq]
    exact Qmi.head?_frame _ _ _ _
  unfold SocketServer.requestOf
  rw [if_pos hhead, hparse]

/-- The transaction id of a datagram that acknowledges a request. -/
def Libqmi.acknowledges (qmi : Libqmi) (buf : GArray) : Option ℕ :=
  (qmi.receive buf).bind QmiReceived.transactionId

theorem Libqmi.Lawful.acknowledges_controlOutput {qmi : Libqmi} (h : qmi.Lawful)
    {tx : ℕ} {buf : GArray} (hbuf : SSC.generateMessageControlOutput tx = .ok buf) :
    qmi.acknowledges buf = some tx := by
  unfold Libqmi.acknowledges
  rw [h.controlOutput tx buf hbuf]
  rfl

theorem Libqmi.Lawful.acknowledges_reportLarge {qmi : Libqmi} (h : qmi.Lawful)
    {tx : ℕ} {data buf : GArray}
    (hbuf : SSC.generateReportLargeIndication data tx = .ok buf) :
    qmi.acknowledges buf = none := by
  unfold Libqmi.acknowledges
  rw [h.reportLarge data tx buf hbuf]
  rfl

/-- The data of a datagram that is an indication. -/
def Libqmi.report (qmi : Libqmi) (buf : GArray) : Option GArray :=
  (qmi.receive buf).bind QmiReceived.data

/-! ## What the server has sent to a client, and has still to acknowledge -/

namespace SocketServer

open SSCMockingServer (Action)

variable {c d : QrtrAddress} {s s' : SocketServer} {qmi : Libqmi} {tx : ℕ}

/-- The datagrams that a client has been sent. -/
def sentTo (c : QrtrAddress) (s : SocketServer) : List GArray :=
  (s.sent.filter (fun q => q.1 = c)).map Prod.snd

/-- The transaction id of a datagram in the inbox that is a request of the client. -/
def waitingFor (c : QrtrAddress) (q : QrtrAddress × GArray) : Option ℕ :=
  if q.1 = c then (requestOf (q.2.take bufferSize)).map Prod.fst else none

/-- The transaction ids of the requests of a client that are not yet answered. -/
def waiting (c : QrtrAddress) (s : SocketServer) : List ℕ :=
  s.inbox.filterMap (waitingFor c)

theorem sentTo_sendto (buf : GArray) :
    (s.sendto d buf).sentTo c = s.sentTo c ++ if d = c then [buf] else [] := by
  unfold sentTo sendto
  rw [List.filter_append, List.map_append]
  split_ifs with h <;> simp [h]

/-- What has been sent stands for what the server that is handed requests has sent. -/
theorem forall₂_sentTo {l : List (QrtrAddress × GArray)}
    {m : List (QrtrAddress × Outgoing)} (h : List.Forall₂ Carries l m) :
    List.Forall₂ (fun buf o => Carries (c, buf) (c, o))
      ((l.filter (fun q => q.1 = c)).map Prod.snd)
      ((m.filter (fun q => q.1 = c)).map Prod.snd) := by
  induction h with
  | nil => exact .nil
  | @cons q r l m hqr _ ih =>
      have hsame : r.1 = q.1 := by cases hqr <;> rfl
      by_cases hc : q.1 = c
      · obtain ⟨d, buf⟩ := q
        obtain ⟨e, o⟩ := r
        obtain rfl : d = c := hc
        obtain rfl : e = d := hsame
        simp only [List.filter_cons, decide_true, if_true, List.map_cons]
        exact .cons hqr ih
      · simpa only [List.filter_cons, hsame, hc, decide_false, Bool.false_eq_true,
          if_false] using ih

/-- After its acknowledgement a request leads to indications only. -/
theorem sentTo_answered (hqmi : qmi.Lawful) (h : Answered d tx s s') :
    ∃ l, s'.sentTo c = s.sentTo c ++ l ∧ l.filterMap qmi.acknowledges = [] ∧
      s'.inbox = s.inbox := by
  cases h with
  | @indication response buf hbuf =>
      refine ⟨_, sentTo_sendto buf, ?_, rfl⟩
      have hreport := hqmi.acknowledges_reportLarge hbuf
      split_ifs <;> simp [hreport]
  | _ => exact ⟨[], (List.append_nil _).symm, rfl, rfl⟩

/-- **Requests are acknowledged in the order of their arrival.** What the server
sends to a client takes from the front of what it has still to acknowledge. -/
theorem waiting_step (hqmi : qmi.Lawful) {a : Action}
    (ha : EndToEnd.isOthers c a = true) (h : Step s a s') (hup : s'.exited = false) :
    ∃ l, s'.sentTo c = s.sentTo c ++ l ∧
      l.filterMap qmi.acknowledges ++ s'.waiting c = s.waiting c := by
  cases h with
  | @request d incoming _ =>
      have hd : d ≠ c := by simpa [EndToEnd.isOthers] using ha
      have hnone : waitingFor c (d, incoming) = none := if_neg hd
      refine ⟨[], (List.append_nil _).symm, ?_⟩
      unfold waiting
      rw [List.filterMap_append, List.filterMap_cons_none hnone]
      simp
  | @pass d incoming rest hinbox hpassed =>
      have hnone : waitingFor c (d, incoming) = none := by
        unfold waitingFor
        rw [requestOf_of_passed hpassed]
        exact ite_self _
      refine ⟨[], (List.append_nil _).symm, ?_⟩
      unfold waiting
      rw [hinbox, List.filterMap_cons_none hnone]
      rfl
  | fail => exact absurd hup (by simp)
  | @answer d incoming message tx rest _ hinbox hrequest hc hs' =>
      obtain ⟨l, hl, hnone, hrest⟩ := sentTo_answered (c := c) hqmi hs'
      have hack := hqmi.acknowledges_controlOutput
        (SSC.generateMessageControlOutput_of_lt (transactionId_lt hrequest))
      have hwaiting : s.waiting c =
          (if d = c then [tx] else []) ++ rest.filterMap (waitingFor c) := by
        unfold waiting
        rw [hinbox]
        by_cases hd : d = c
        · have hsome : waitingFor c (d, incoming) = some tx := by
            unfold waitingFor
            rw [if_pos hd, hrequest]
            rfl
          rw [List.filterMap_cons_some hsome, if_pos hd]
          rfl
        · have hnone : waitingFor c (d, incoming) = none := if_neg hd
          rw [List.filterMap_cons_none hnone, if_neg hd]
          rfl
      refine ⟨(if d = c then [SSC.controlOutput tx] else []) ++ l, ?_, ?_⟩
      · rw [hl, sentTo_sendto, List.append_assoc]
        rfl
      · rw [hwaiting, List.filterMap_append, hnone, List.append_nil]
        unfold waiting
        rw [hrest]
        split_ifs <;> simp [hack, sendto]
  | @measure i w response buf _ _ hbuf =>
      have hreport := hqmi.acknowledges_reportLarge hbuf
      refine ⟨_, sentTo_sendto buf, ?_⟩
      split_ifs <;> simp [hreport, waiting, sendto]
  | _ => exact ⟨[], (List.append_nil _).symm, rfl⟩

end SocketServer

/-! ## The machine -/

/-- A driver's world and the server at its socket. `posted` is how many of the
requests that the library has sent have come to the server's socket, `delivered`
how many of the datagrams that the server has sent to the library have arrived,
and `pending` are the requests that libqmi waits to be answered. -/
structure Stack (F S M : Type) where
  world : DriverWorld F S M
  server : SocketServer
  posted : ℕ
  delivered : ℕ
  pending : List ℕ

namespace Stack

open EndToEnd (Action InTime isLocal isOthers timedOut)

/-- libqmi has received something. A response is that to the oldest request with
its transaction id; without one it is dropped, as is what it does not know. -/
def receive (qmi : Libqmi) (d : Driver F S M) (pb : Protobuf F) (x : Stack F S M) :
    Option QmiReceived → Option (Stack F S M)
  | none => some x
  | some (.controlOutput transactionId) =>
      match x.pending.find? (fun i => qmi.transactionId i = transactionId) with
      | none => some x
      | some i =>
          (d.act pb x.world (.sendReady i none)).map
            (fun w => { x with world := w, pending := x.pending.erase i })
  | some (.reportLarge data) =>
      some { x with
        world := Client.indicationReceived pb (d.emitReport pb)
          (.large (some data)) x.world }

/-- The actions are those of `EndToEnd`, with datagrams for requests. A send times
out while libqmi waits for the response, and then it does no longer. -/
def act (qmi : Libqmi) (d : Driver F S M) (pb : Protobuf F)
    (wire : MeasurementWire F) (data : List (MeasuredEntry F)) (c : QrtrAddress)
    (x : Stack F S M) : Action → Option (Stack F S M)
  | .user a =>
      if isLocal a ∧ x.world.aborted = false ∧ ∀ i ∈ timedOut a, i ∈ x.pending then
        (d.act pb x.world a).map (fun w => { x with
          world := w
          pending := x.pending.filter (fun i => timedOut a ≠ some i) })
      else none
  | .post =>
      match x.world.sensor.sent[x.posted]? with
      | none => none
      | some q =>
          (x.server.act wire data (.request c
            (qmi.control (qmi.transactionId x.posted)
              (wire.pack q.uid q.msgId q.protobuf)))).map
            (fun s => { x with
              server := s
              posted := x.posted + 1
              pending := x.pending ++ [x.posted] })
  | .server a =>
      if isOthers c a then
        (x.server.act wire data a).map (fun s => { x with server := s })
      else none
  | .deliver =>
      if x.world.aborted then none
      else
        match (x.server.sentTo c)[x.delivered]? with
        | none => none
        | some buf =>
            ({ x with delivered := x.delivered + 1 } : Stack F S M).receive qmi d pb
              (qmi.receive buf)

/-- The data that have arrived since the channel had delivered `n` datagrams. -/
def arrived (qmi : Libqmi) (c : QrtrAddress) (n : ℕ) (x : Stack F S M) : List GArray :=
  (((x.server.sentTo c).take x.delivered).drop n).filterMap qmi.report

/-- A run over datagrams and one of `EndToEnd`. -/
structure Matches (qmi : Libqmi) (c : QrtrAddress) (x : Stack F S M)
    (y : EndToEnd F S M) : Prop where
  world : y.world = x.world
  echoing : SocketServer.Echoing x.server
  server : SocketServer.Abstracts x.server y.server
  posted : y.posted = x.posted
  delivered : y.delivered = x.delivered
  pending : x.pending = List.range' y.acked (x.posted - y.acked)
  acked_le : y.acked ≤ x.posted
  unanswered : ((x.server.sentTo c).drop x.delivered).filterMap qmi.acknowledges ++
    x.server.waiting c = x.pending.map qmi.transactionId
  delivered_le : x.delivered ≤ (x.server.sentTo c).length

variable {qmi : Libqmi} {d : Driver F S M} {pb : Protobuf F}
  {wire : MeasurementWire F} {data : List (MeasuredEntry F)} {c : QrtrAddress}
  {x x' : Stack F S M} {y : EndToEnd F S M}

omit [GFloat F] in
/-- What others do comes to what others do. -/
theorem isOthers_label {s : SocketServer} {a : SSCMockingServer.Action}
    (ha : isOthers c a = true) :
    ∀ b ∈ SocketServer.label s a, isOthers c b = true := by
  intro b hb
  cases a with
  | request e incoming =>
      obtain ⟨q, hq, rfl⟩ := List.mem_map.mp hb
      obtain ⟨r, -, rfl⟩ := Option.map_eq_some_iff.mp (Option.mem_toList.mp hq)
      exact ha
  | process =>
      obtain ⟨-, -, rfl⟩ := List.mem_map.mp hb
      rfl
  | _ =>
      obtain rfl := List.mem_singleton.mp hb
      rfl

/-- Steps of the server alone. -/
theorem exec_server {as : List SSCMockingServer.Action} {t : SSCMockingServer}
    (has : ∀ a ∈ as, isOthers c a = true)
    (h : exec (SSCMockingServer.act wire data) y.server as = some t) :
    exec (EndToEnd.act d pb wire data c) y (as.map .server) =
      some { y with server := t } := by
  induction as generalizing y with
  | nil =>
      obtain rfl := Option.some.inj h
      rfl
  | cons a as ih =>
      obtain ⟨u, hu, hrest⟩ := exec_cons.mp h
      have hact : y.act d pb wire data c (.server a) = some { y with server := u } := by
        simp only [EndToEnd.act, if_pos (has a List.mem_cons_self), hu, Option.map_some]
      exact exec_cons.mpr ⟨_, hact, ih (y := { y with server := u })
        (fun b hb => has b (List.mem_cons_of_mem a hb)) hrest⟩

/-- The server takes steps, and the library posts nothing. -/
theorem matches_server (hqmi : qmi.Lawful) (h : Matches qmi c x y)
    {a : SSCMockingServer.Action} {s : SocketServer} (ha : isOthers c a = true)
    (hs : x.server.act wire data a = some s) (hup : s.exited = false) :
    ∃ y', exec (EndToEnd.act d pb wire data c) y
        ((SocketServer.label x.server a).map .server) = some y' ∧
      Matches qmi c { x with server := s } y' := by
  have hstep := SocketServer.step_of_act hs
  have hlegible := SocketServer.legible_of_survives
    ((SocketServer.exited_act hs).mp hup).2
  obtain ⟨t, ht, habs⟩ := SocketServer.matched_act h.server h.echoing hlegible hs
  obtain ⟨l, hl, hwaiting⟩ := SocketServer.waiting_step hqmi ha hstep hup
  refine ⟨{ y with server := t }, exec_server (isOthers_label ha) ht, ?_⟩
  · refine { h with
      echoing := SocketServer.echoing_step h.echoing hstep
      server := habs
      unanswered := ?_
      delivered_le := ?_ }
    · show ((s.sentTo c).drop x.delivered).filterMap _ ++ s.waiting c = _
      rw [hl, List.drop_append_of_le_length h.delivered_le, List.filterMap_append,
        List.append_assoc, hwaiting]
      exact h.unanswered
    · show x.delivered ≤ (s.sentTo c).length
      rw [hl, List.length_append]
      exact h.delivered_le.trans (Nat.le_add_right _ _)

omit [GFloat F] in
/-- A request of the library reaches the server's socket. -/
theorem matches_post (h : Matches qmi c x y) {buf message : GArray}
    (hrequest : SocketServer.requestOf (buf.take SocketServer.bufferSize) =
      some (qmi.transactionId x.posted, message)) {s : SocketServer}
    (hs : x.server.act wire data (.request c buf) = some s) :
    ∃ t, y.server.act wire data (.request c message) = some t ∧
      Matches qmi c
        { x with
          server := s
          posted := x.posted + 1
          pending := x.pending ++ [x.posted] }
        { y with server := t, posted := y.posted + 1 } := by
  have hstep := SocketServer.step_of_act hs
  have hlegible : SocketServer.Legible x.server (.request c buf) := trivial
  obtain ⟨t, ht, habs⟩ := SocketServer.matched_act h.server h.echoing hlegible hs
  have hlabel : SocketServer.label x.server (.request c buf) = [.request c message] := by
    simp only [SocketServer.label, SocketServer.requestIn, hrequest, Option.map_some,
      Option.toList_some, List.map_cons, List.map_nil]
  rw [hlabel, exec_cons] at ht
  obtain ⟨u, hu, hut⟩ := ht
  obtain rfl := Option.some.inj hut
  have hwaiting : SocketServer.waitingFor c (c, buf) =
      some (qmi.transactionId x.posted) := by
    unfold SocketServer.waitingFor
    rw [if_pos rfl, hrequest]
    rfl
  refine ⟨u, hu, { h with
    echoing := SocketServer.echoing_step h.echoing hstep
    server := habs
    posted := congrArg (· + 1) h.posted
    pending := ?_
    acked_le := h.acked_le.trans (Nat.le_succ _)
    unanswered := ?_
    delivered_le := ?_ }⟩
  · have hle := h.acked_le
    show x.pending ++ [x.posted] = List.range' y.acked (x.posted + 1 - y.acked)
    rw [Nat.sub_add_comm hle, List.range'_concat, ← h.pending, Nat.one_mul,
      Nat.add_sub_cancel' hle]
  · cases hstep with
    | request _ =>
        show ((x.server.sentTo c).drop x.delivered).filterMap _ ++
          (x.server.inbox ++ [_]).filterMap _ = _
        rw [List.filterMap_append, List.filterMap_cons_some hwaiting,
          List.filterMap_nil, ← List.append_assoc, List.map_append]
        exact congrArg (· ++ [qmi.transactionId x.posted]) h.unanswered
  · cases hstep with
    | request _ => exact h.delivered_le

omit [GFloat F] in
/-- What is delivered stands for what `EndToEnd` delivers. -/
theorem exists_carries (h : Matches qmi c x y) {buf : GArray}
    (hbuf : (x.server.sentTo c)[x.delivered]? = some buf) :
    ∃ o, (y.server.sentTo c)[y.delivered]? = some o ∧
      SocketServer.Carries (c, buf) (c, o) := by
  have hsent := SocketServer.forall₂_sentTo (c := c) h.server.sent
  obtain ⟨hlt, rfl⟩ := List.getElem?_eq_some_iff.mp hbuf
  have hlt' : x.delivered < (y.server.sentTo c).length := hsent.length_eq ▸ hlt
  refine ⟨(y.server.sentTo c)[x.delivered], ?_, hsent.get hlt hlt'⟩
  rw [h.delivered]
  exact List.getElem?_eq_getElem hlt'

omit [GFloat F] in
/-- **A response is that to the oldest request**, whatever the transaction ids are. -/
theorem oldest_pending (h : Matches qmi c x y) {buf : GArray} {tx : ℕ}
    (hbuf : (x.server.sentTo c)[x.delivered]? = some buf)
    (htx : qmi.acknowledges buf = some tx) :
    ∃ rest, x.pending = y.acked :: rest ∧ qmi.transactionId y.acked = tx ∧
      y.acked < x.posted ∧
      rest = List.range' (y.acked + 1) (x.posted - (y.acked + 1)) ∧
      ((x.server.sentTo c).drop (x.delivered + 1)).filterMap qmi.acknowledges ++
        x.server.waiting c = rest.map qmi.transactionId := by
  obtain ⟨hlt, rfl⟩ := List.getElem?_eq_some_iff.mp hbuf
  have hunanswered := h.unanswered
  rw [List.drop_eq_getElem_cons hlt, List.filterMap_cons_some htx, List.cons_append]
    at hunanswered
  have hpending := h.pending
  cases hn : x.posted - y.acked with
  | zero =>
      rw [hn, List.range'_zero] at hpending
      rw [hpending] at hunanswered
      exact absurd hunanswered (List.cons_ne_nil _ _)
  | succ n =>
      rw [hn, List.range'_succ] at hpending
      rw [hpending, List.map_cons] at hunanswered
      obtain ⟨hid, hrest⟩ := List.cons.inj hunanswered
      have hn' : x.posted - (y.acked + 1) = n := by omega
      exact ⟨_, hpending, hid.symm, by omega, by rw [hn'], hrest⟩

/-- Something arrives. -/
theorem matches_deliver (hqmi : qmi.Lawful) (h : Matches qmi c x y)
    (hact : x.act qmi d pb wire data c .deliver = some x') :
    ∃ y', y.act d pb wire data c .deliver = some y' ∧ Matches qmi c x' y' := by
  simp only [act] at hact
  split_ifs at hact with haborted
  have hsafe : x.world.aborted = false := by simpa using haborted
  cases hbuf : (x.server.sentTo c)[x.delivered]? with
  | none =>
      rw [hbuf] at hact
      exact absurd hact (by simp)
  | some buf =>
      rw [hbuf] at hact
      obtain ⟨o, ho, hcarries⟩ := exists_carries h hbuf
      have hlt : x.delivered < (x.server.sentTo c).length :=
        (List.getElem?_eq_some_iff.mp hbuf).1
      cases hcarries with
      | @controlOutput _ tx _ hgen =>
          have hreceive := hqmi.controlOutput tx buf hgen
          have htx := hqmi.acknowledges_controlOutput hgen
          obtain ⟨rest, hpending, hid, hposted, hrest, hunanswered⟩ :=
            oldest_pending h hbuf htx
          have hfind : x.pending.find? (fun i => qmi.transactionId i = tx) =
              some y.acked := by
            rw [hpending, List.find?_cons_of_pos (by simpa using hid)]
          simp only [hreceive, receive, hfind] at hact
          obtain ⟨w, hw, rfl⟩ := Option.map_eq_some_iff.mp hact
          have herase : x.pending.erase y.acked = rest := by
            rw [hpending, List.erase_cons_head]
          refine ⟨{ y with
            world := w
            delivered := y.delivered + 1
            acked := y.acked + 1 }, ?_, { h with
              world := rfl
              delivered := congrArg (· + 1) h.delivered
              pending := herase.trans hrest
              acked_le := hposted
              unanswered := ?_
              delivered_le := hlt }⟩
          · have hready : y.acked ∈ x.world.sensor.unready := by
              cases Driver.step_of_act hw with
              | sendReady hi _ => exact hi
            simp [EndToEnd.act, ho, h.world, hsafe, hready, hw]
          · show _ = (x.pending.erase y.acked).map qmi.transactionId
            rw [herase]
            exact hunanswered
      | @reportLarge _ tx response _ hgen =>
          have hreceive := hqmi.reportLarge response tx buf hgen
          simp only [hreceive, receive] at hact
          obtain rfl := Option.some.inj hact
          have hnone := hqmi.acknowledges_reportLarge hgen
          refine ⟨{ y with
            world := Client.indicationReceived pb (d.emitReport pb)
              (.large (some response)) x.world
            delivered := y.delivered + 1 }, ?_, { h with
              world := rfl
              delivered := congrArg (· + 1) h.delivered
              unanswered := ?_
              delivered_le := hlt }⟩
          · simp [EndToEnd.act, ho, h.world, hsafe]
          · have hunanswered := h.unanswered
            obtain ⟨hlt', rfl⟩ := List.getElem?_eq_some_iff.mp hbuf
            rw [List.drop_eq_getElem_cons hlt', List.filterMap_cons_none hnone]
              at hunanswered
            exact hunanswered

/-! ## Runs -/

/-- What is posted is short enough for a datagram. -/
def Fits (wire : MeasurementWire F) (x : Stack F S M) (b : Action) : Prop :=
  b = .post → ∀ q, x.world.sensor.sent[x.posted]? = some q →
    (wire.pack q.uid q.msgId q.protobuf).length ≤ 65519

theorem server_receive {r : Option QmiReceived}
    (h : x.receive qmi d pb r = some x') : x'.server = x.server := by
  cases r with
  | none =>
      obtain rfl := Option.some.inj h
      rfl
  | some r =>
      cases r with
      | controlOutput tx =>
          simp only [receive] at h
          split at h
          · obtain rfl := Option.some.inj h
            rfl
          · obtain ⟨w, -, rfl⟩ := Option.map_eq_some_iff.mp h
            rfl
      | reportLarge data =>
          obtain rfl := Option.some.inj h
          rfl

/-- A server that is there has been there before. -/
theorem not_exited_of_act {b : Action} (h : x.act qmi d pb wire data c b = some x')
    (hup : x'.server.exited = false) : x.server.exited = false := by
  cases b with
  | user a =>
      simp only [act] at h
      split_ifs at h
      obtain ⟨w, -, rfl⟩ := Option.map_eq_some_iff.mp h
      exact hup
  | post =>
      simp only [act] at h
      split at h
      · exact absurd h (by simp)
      · obtain ⟨s, hs, rfl⟩ := Option.map_eq_some_iff.mp h
        exact ((SocketServer.exited_act hs).mp hup).1
  | server a =>
      simp only [act] at h
      split_ifs at h
      obtain ⟨s, hs, rfl⟩ := Option.map_eq_some_iff.mp h
      exact ((SocketServer.exited_act hs).mp hup).1
  | deliver =>
      simp only [act] at h
      split_ifs at h
      split at h
      · exact absurd h (by simp)
      · rw [server_receive h] at hup
        exact hup

/-- The application or the main loop does something. -/
theorem matches_user (h : Matches qmi c x y) {a : Driver.Action}
    (ha : InTime (.user a))
    (hact : x.act qmi d pb wire data c (.user a) = some x') :
    ∃ y', y.act d pb wire data c (.user a) = some y' ∧ Matches qmi c x' y' := by
  simp only [act] at hact
  split_ifs at hact with hlocal
  obtain ⟨w, hw, rfl⟩ := Option.map_eq_some_iff.mp hact
  have hnone : timedOut a = none := ha
  have hpending : x.pending.filter (fun i => timedOut a ≠ some i) = x.pending := by
    simp [hnone]
  refine ⟨{ y with world := w }, ?_, ?_⟩
  · simp [EndToEnd.act, h.world, hlocal, hw]
  · rw [hpending]
    exact { h with world := rfl }

/-- Whatever happens over datagrams happens in `EndToEnd`. -/
theorem matches_act (hqmi : qmi.Lawful) (h : Matches qmi c x y)
    {b : Action} (hb : InTime b) (hpost : Fits wire x b)
    (hact : x.act qmi d pb wire data c b = some x') (hup : x'.server.exited = false) :
    ∃ bs y', exec (EndToEnd.act d pb wire data c) y bs = some y' ∧
      (∀ a, .user a ∈ bs → .user a = b) ∧ Matches qmi c x' y' := by
  cases b with
  | user a =>
      obtain ⟨y', hy', hmatch⟩ := matches_user h hb hact
      exact ⟨[.user a], y', exec_cons.mpr ⟨y', hy', rfl⟩,
        fun e he => List.mem_singleton.mp he, hmatch⟩
  | post =>
      simp only [act] at hact
      split at hact
      · exact absurd hact (by simp)
      · rename_i q hq
        obtain ⟨s, hs, rfl⟩ := Option.map_eq_some_iff.mp hact
        obtain ⟨t, ht, hmatch⟩ := matches_post h
          (hqmi.requestOf_control x.posted (hpost rfl q hq)) hs
        have hact' : y.act d pb wire data c .post =
            some { y with server := t, posted := y.posted + 1 } := by
          simp only [EndToEnd.act, h.world, h.posted, hq, ht, Option.map_some]
        exact ⟨[.post], _, exec_cons.mpr ⟨_, hact', rfl⟩,
          fun e he => List.mem_singleton.mp he, hmatch⟩
  | server a =>
      simp only [act] at hact
      split_ifs at hact with ha
      obtain ⟨s, hs, rfl⟩ := Option.map_eq_some_iff.mp hact
      obtain ⟨y', hy', hmatch⟩ := matches_server hqmi h ha hs hup
      refine ⟨_, y', hy', fun e he => ?_, hmatch⟩
      obtain ⟨e', -, hno⟩ := List.mem_map.mp he
      exact absurd hno (by simp)
  | deliver =>
      obtain ⟨y', hy', hmatch⟩ := matches_deliver hqmi h hact
      exact ⟨[.deliver], y', exec_cons.mpr ⟨y', hy', rfl⟩,
        fun e he => List.mem_singleton.mp he, hmatch⟩

/-- A run over datagrams is a run of `EndToEnd`, with the same actions of the
application. -/
theorem matches_run (hqmi : qmi.Lawful) (h : Matches qmi c x y)
    {bs : List Action} (hbs : ∀ b ∈ bs, InTime b)
    (hpost : ∀ pre b u bs' v, pre ++ [b] <+: bs →
      exec (act qmi d pb wire data c) x pre = some u →
      exec (EndToEnd.act d pb wire data c) y bs' = some v →
      (∀ a, .user a ∈ bs' → .user a ∈ pre) → Matches qmi c u v → Fits wire u b)
    (hrun : exec (act qmi d pb wire data c) x bs = some x')
    (hup : x'.server.exited = false) :
    ∃ bs' y', exec (EndToEnd.act d pb wire data c) y bs' = some y' ∧
      (∀ a, .user a ∈ bs' → .user a ∈ bs) ∧ Matches qmi c x' y' := by
  induction bs using List.reverseRecOn generalizing x' with
  | nil =>
      obtain rfl : x = x' := by simpa using hrun
      exact ⟨[], y, rfl, fun a ha => absurd ha List.not_mem_nil, h⟩
  | append_singleton bs b ih =>
      obtain ⟨u, hu, hact⟩ := exec_snoc.mp hrun
      obtain ⟨bs', v, hv, husers, hmatch⟩ := ih
        (fun b' hb' => hbs b' (List.mem_append_left _ hb'))
        (fun pre b' u' cs v' hpre => hpost pre b' u' cs v'
          (hpre.trans (List.prefix_append _ _)))
        hu (not_exited_of_act hact hup)
      have hb := hpost bs b u bs' v List.prefix_rfl hu hv husers hmatch
      obtain ⟨cs, y', hy', hcs, hmatch'⟩ := matches_act hqmi hmatch
        (hbs b (List.mem_append_right _ (List.mem_singleton_self b))) hb hact hup
      refine ⟨bs' ++ cs, y', exec_append.mpr ⟨v, hv, hy'⟩, fun a ha => ?_, hmatch'⟩
      rw [List.mem_append, List.mem_singleton]
      exact (List.mem_append.mp ha).imp (husers a) (hcs a)

theorem not_exited_of_run {bs : List Action}
    (hrun : exec (act qmi d pb wire data c) x bs = some x')
    (hup : x'.server.exited = false) : x.server.exited = false := by
  induction bs using List.reverseRecOn generalizing x' with
  | nil =>
      obtain rfl : x = x' := by simpa using hrun
      exact hup
  | append_singleton bs b ih =>
      obtain ⟨u, hu, hact⟩ := exec_snoc.mp hrun
      exact ih hu (not_exited_of_act hact hup)

/-! ## The start -/

/-- The application has not opened the driver, the channels are empty, libqmi waits
for nothing, and the server, which may have served others, does not know the
library. -/
structure Ready (wire : MeasurementWire F) (data : List (MeasuredEntry F))
    (c : QrtrAddress) (x : Stack F S M) : Prop where
  own : x.world.sensor.OwnId
  unopened : x.world.sensor.driverHandlers = []
  posted : x.posted = x.world.sensor.sent.length
  pending : x.pending = []
  delivered : x.delivered = (x.server.sentTo c).length
  reached : ∃ as, exec (SocketServer.act wire data) .new as = some x.server
  processes : ∀ w ∈ x.server.processes, w.client ≠ c
  inbox : ∀ buf, (c, buf) ∉ x.server.inbox

omit [GFloat F] in
/-- Then so it is in `EndToEnd`. -/
theorem exists_start (h : Ready wire data c x) (hup : x.server.exited = false) :
    ∃ y, EndToEnd.Ready c y ∧ Matches qmi c x y := by
  obtain ⟨as, has⟩ := h.reached
  obtain ⟨t, ht, hechoing, habs⟩ := SocketServer.exists_abstracts has hup
  have hsent := (SocketServer.forall₂_sentTo (c := c) habs.sent).length_eq
  refine ⟨{
    world := x.world
    server := t
    posted := x.posted
    delivered := x.delivered
    acked := x.posted }, ?_, ?_⟩
  · constructor
    case own => exact h.own
    case unopened => exact h.unopened
    case posted => exact h.posted
    case delivered => exact h.delivered.trans hsent
    case entered => exact SSCMockingServer.entered_run ht
    case processes =>
      show t.processes.filter _ = []
      rw [habs.processes, List.filter_eq_nil_iff]
      intro w hw
      obtain ⟨v, hv, rfl⟩ := List.mem_map.mp hw
      simpa using h.processes v hv
    case inbox =>
      intro m hm
      rw [habs.inbox] at hm
      obtain ⟨q, hq, hr⟩ := List.mem_filterMap.mp hm
      obtain ⟨r, -, heq⟩ := Option.map_eq_some_iff.mp hr
      obtain ⟨rfl, -⟩ := Prod.mk.inj heq
      exact h.inbox q.2 hq
  · constructor
    case world => rfl
    case echoing => exact hechoing
    case server => exact habs
    case posted => rfl
    case delivered => rfl
    case pending =>
      rw [h.pending, Nat.sub_self]
      rfl
    case acked_le => exact Nat.le_refl _
    case unanswered =>
      have hwaiting : x.server.waiting c = [] := by
        unfold SocketServer.waiting
        rw [List.filterMap_eq_nil_iff]
        rintro ⟨e, buf⟩ hq
        refine if_neg fun he => ?_
        obtain rfl : e = c := he
        exact h.inbox buf hq
      rw [h.delivered, List.drop_length, hwaiting, h.pending]
      rfl
    case delivered_le => exact h.delivered.le

/-- Lists that are read alike. -/
theorem filterMap_of_forall₂ {α β γ : Type} {f : α → Option γ} {g : β → Option γ}
    {l : List α} {m : List β} (h : List.Forall₂ (fun a b => f a = g b) l m) :
    l.filterMap f = m.filterMap g := by
  induction h with
  | nil => rfl
  | cons hfg _ ih => rw [List.filterMap_cons, List.filterMap_cons, hfg, ih]

omit [GFloat F] in
/-- What has arrived carries what has arrived in `EndToEnd`. -/
theorem arrived_eq (hqmi : qmi.Lawful) (h : Matches qmi c x y) (n : ℕ) :
    x.arrived qmi c n = y.arrived c n := by
  have hreport : ∀ {buf : GArray} {o : Outgoing},
      SocketServer.Carries (c, buf) (c, o) → qmi.report buf = o.report := by
    intro buf o hcarries
    unfold Libqmi.report
    cases hcarries with
    | controlOutput hgen =>
        rw [hqmi.controlOutput _ _ hgen]
        rfl
    | reportLarge hgen =>
        rw [hqmi.reportLarge _ _ _ hgen]
        rfl
  have hsent := List.forall₂_drop n (List.forall₂_take x.delivered
    (SocketServer.forall₂_sentTo (c := c) h.server.sent))
  unfold arrived EndToEnd.arrived
  rw [h.delivered]
  exact filterMap_of_forall₂ (hsent.imp fun _ _ => hreport)

/-! ## Responses -/

/-- **No response is lost or given to another request.** In every run what libqmi
waits for are the requests from some number on, and their transaction ids are
those of the acknowledgements that are on their way and of the requests that the
server has not read, in this order, as long as no send times out. -/
theorem pending_of_run (hqmi : qmi.Lawful) {x₀ : Stack F S M}
    (hready : Ready wire data c x₀) {bs : List Action} (hbs : ∀ b ∈ bs, InTime b)
    (hpost : StepsMeet (act qmi d pb wire data c) x₀ (fun _ x b => Fits wire x b) bs)
    (hrun : exec (act qmi d pb wire data c) x₀ bs = some x)
    (hup : x.server.exited = false) :
    (∃ n ≤ x.posted, x.pending = List.range' n (x.posted - n)) ∧
      ((x.server.sentTo c).drop x.delivered).filterMap qmi.acknowledges ++
        x.server.waiting c = x.pending.map qmi.transactionId := by
  obtain ⟨y₀, -, hmatch₀⟩ :=
    exists_start hready (not_exited_of_run hrun hup)
  obtain ⟨-, y, -, -, hmatch⟩ := matches_run hqmi hmatch₀ hbs
    (fun pre b u _ _ hpre hu _ _ _ => hpost pre b hpre u hu) hrun hup
  exact ⟨⟨y.acked, hmatch.acked_le, hmatch.pending⟩, hmatch.unanswered⟩

/-! ## The measurements -/

section Measurements

variable [GFloatBits F] {x₀ : Stack F S M}

omit [GFloat F] in
/-- A request that enables or disables a sensor is short. -/
theorem length_pack_le (timestamp : UInt64) {u : SscUid} {q : Request F}
    (hq : q.Switches u) :
    ((Wire.descriptors F timestamp).pack q.uid q.msgId q.protobuf).length ≤ 65519 := by
  have hnone : ((Wire.descriptors F timestamp).pack q.uid q.msgId none).length = 33 := by
    rfl
  have hconfig : ∀ m, ((Wire.descriptors F timestamp).pack q.uid q.msgId
      (some (.enableConfig m))).length = 40 := by
    intro m
    rfl
  rcases hq.protobuf with h | ⟨m, h⟩
  · rw [h, hnone]
    norm_num
  · rw [h, hconfig]
    norm_num

/-- **Whatever happens over datagrams after an open flows in `EndToEnd`**, if it has
been a run of it before. -/
theorem flowing_of_matches {timestamp : UInt64} (src : Source d)
    {entry : MeasuredEntry F} {y₀ : EndToEnd F S M} (hqmi : qmi.Lawful)
    (hready : EndToEnd.Ready c y₀) (hmatch₀ : Matches qmi c x₀ y₀)
    (hfind : data.find? (fun e => e.uid = x₀.world.sensor.priv.uid) = some entry)
    (hdata : entry.dataType = d.dataType)
    (hstreamed : EndToEnd.StreamedEntry entry) {bs : List Action}
    (hwithin : ∀ b ∈ bs, EndToEnd.Within d b) (hbs : ∀ b ∈ bs, InTime b)
    (hrun : exec (act qmi d (.descriptors F) (.descriptors F timestamp) data c) x₀
      (.user .sensorOpen :: bs) = some x)
    (hup : x.server.exited = false) :
    ∃ bs' y, EndToEnd.Flowing src entry (.descriptors F timestamp) data c y₀ bs' y ∧
      y.world = x.world ∧ y.arrived c y₀.delivered = x.arrived qmi c x₀.delivered ∧
      (∀ a, .user a ∈ bs' → .user a ∈ bs) := by
  have hlossless := measurementLossless_descriptors (F := F) timestamp
  obtain ⟨x₁, hopen, hrest⟩ := exec_cons.mp hrun
  obtain ⟨y₁, hopen', hmatch₁⟩ := matches_user hmatch₀
    (show InTime (.user .sensorOpen) from rfl) hopen
  rw [← hmatch₀.world] at hfind
  -- every run of `EndToEnd` that is met with flows
  have hflowing : ∀ {pre bs' v}, pre <+: bs →
      exec (EndToEnd.act d (.descriptors F) (.descriptors F timestamp) data c) y₁
        bs' = some v →
      (∀ a, .user a ∈ bs' → .user a ∈ pre) →
      EndToEnd.Flowing src entry (.descriptors F timestamp) data c y₀ bs' v := by
    intro pre bs' v hpre hv husers
    refine EndToEnd.flowing_run src hlossless hfind hdata hstreamed hready
      (fun b hb => ?_) (exec_cons.mpr ⟨y₁, hopen', hv⟩)
    have hin : ∀ a, b = .user a → EndToEnd.Within d b := by
      rintro a rfl
      exact hwithin _ (hpre.subset (husers a hb))
    exact ⟨fun hb => (hin _ hb).open_ne hb, fun k hb => (hin _ hb).call_ne k hb,
      fun hb => (hin _ hb).newFinish hb⟩
  obtain ⟨bs', y, hy, husers, hmatch⟩ := matches_run hqmi hmatch₁ hbs (by
    rintro pre b u bs' v hpre - hv husers hmatch - q hq
    have hopened := (hflowing ((List.prefix_append _ _).trans hpre) hv husers).opened
    rw [← hmatch.world, ← hmatch.posted] at hq
    exact length_pack_le timestamp (EndToEnd.switches_posted hready hopened hq))
    hrest hup
  refine ⟨bs', y, hflowing List.prefix_rfl hy husers, hmatch.world, ?_, husers⟩
  rw [hmatch₀.delivered]
  exact (arrived_eq hqmi hmatch x₀.delivered).symm

/-- So it is from the start. -/
theorem exists_flowing {timestamp : UInt64} (src : Source d) {entry : MeasuredEntry F}
    (hqmi : qmi.Lawful)
    (hfind : data.find? (fun e => e.uid = x₀.world.sensor.priv.uid) = some entry)
    (hdata : entry.dataType = d.dataType)
    (hstreamed : EndToEnd.StreamedEntry entry)
    (hready : Ready (.descriptors F timestamp) data c x₀) {bs : List Action}
    (hwithin : ∀ b ∈ bs, EndToEnd.Within d b) (hbs : ∀ b ∈ bs, InTime b)
    (hrun : exec (act qmi d (.descriptors F) (.descriptors F timestamp) data c) x₀
      (.user .sensorOpen :: bs) = some x)
    (hup : x.server.exited = false) :
    ∃ y₀ bs' y, EndToEnd.Flowing src entry (.descriptors F timestamp) data c y₀ bs' y ∧
      y₀.world = x₀.world ∧ y.world = x.world ∧
      (y.arrived c y₀.delivered) = x.arrived qmi c x₀.delivered ∧
      (∀ a, .user a ∈ bs' → .user a ∈ bs) := by
  obtain ⟨y₀, hready', hmatch₀⟩ :=
    exists_start hready (not_exited_of_run hrun hup)
  obtain ⟨bs', y, hflowing, hworld, harrived, husers⟩ := flowing_of_matches src hqmi
    hready' hmatch₀ hfind hdata hstreamed hwithin hbs hrun hup
  exact ⟨y₀, bs', y, hflowing, hmatch₀.world, hworld, harrived, husers⟩

/-- **From the table to the application, over datagrams.** The driver, libqmi,
protobuf and the server's sockets and processes together: the application opens
the driver, and whatever happens then, in any order, short of a second open, of a
send that times out and of the end of the server, what the driver has taken since
are the first measurements of its sensor in the table, in turn and round and round,
each as the driver converts it. They are all that have arrived unless the driver
has been closed. -/
theorem measurements_over_datagrams {spec : StreamSpec F M} {x x₀ : Stack F Unit M}
    {timestamp : UInt64} (src : StreamSource spec) {entry : MeasuredEntry F}
    (hqmi : qmi.Lawful)
    (hfind : data.find? (fun e => e.uid = x₀.world.sensor.priv.uid) = some entry)
    (hdata : entry.dataType = spec.dataType)
    (hstreamed : EndToEnd.StreamedEntry entry)
    (hready : Ready (.descriptors F timestamp) data c x₀) {bs : List Action}
    (honce : ∀ b ∈ bs, b ≠ .user .sensorOpen ∧ ∀ k, b ≠ .user (.call k))
    (hbs : ∀ b ∈ bs, InTime b)
    (hrun : exec (act qmi spec.toDriver (.descriptors F) (.descriptors F timestamp)
      data c) x₀ (.user .sensorOpen :: bs) = some x)
    (hup : x.server.exited = false) :
    ∃ k ≤ (x.arrived qmi c x₀.delivered).length,
      x.world.measurements ++ x.world.idle =
        x₀.world.measurements ++ x₀.world.idle ++ (List.range k).filterMap
          (src.convertedAt x₀.world.sensor.priv.mountMatrix entry) ∧
      (.user .sensorClose ∉ bs → k = (x.arrived qmi c x₀.delivered).length) := by
  obtain ⟨y₀, bs', y, hflowing, hstart, hworld, harrived, husers⟩ :=
    exists_flowing src.toSource hqmi hfind hdata hstreamed hready
      (EndToEnd.within_of_once honce) hbs hrun hup
  obtain ⟨-, k, hle, hk, hall⟩ := EndToEnd.converted_of_flowing src hflowing
  rw [harrived] at hle hall
  rw [hworld, hstart] at hk
  exact ⟨k, hle, hk, fun hclose => hall fun hin => hclose (husers _ hin)⟩

/-- **Near and far, over datagrams.** The proximity driver, libqmi, protobuf and the
server's sockets and processes together, under the same conditions: the process
is still there exactly if the measurements that the driver has been told of are
near or far, and then what it has taken since the open is what they tell without
repetitions. -/
theorem changes_over_datagrams {x x₀ : Stack F ProximityState Bool}
    {timestamp : UInt64} {entry : MeasuredEntry F} (hqmi : qmi.Lawful)
    (hfind : data.find? (fun e => e.uid = x₀.world.sensor.priv.uid) = some entry)
    (hdata : entry.dataType = (proximity (F := F)).dataType)
    (hstreamed : EndToEnd.StreamedEntry entry)
    (hready : Ready (.descriptors F timestamp) data c x₀) {bs : List Action}
    (hwithin : ∀ b ∈ bs, b ≠ .user .sensorOpen ∧ (∀ k, b ≠ .user (.call k)) ∧
      b ≠ .user .newFinish)
    (hbs : ∀ b ∈ bs, InTime b)
    (hrun : exec (act qmi proximity (.descriptors F) (.descriptors F timestamp)
      data c) x₀ (.user .sensorOpen :: bs) = some x)
    (hup : x.server.exited = false) :
    ∃ k ≤ (x.arrived qmi c x₀.delivered).length,
      (x.world.aborted = false ↔ ∀ v ∈ toldValues entry k, NearOrFar v) ∧
      (x.world.aborted = false → x.world.measurements ++ x.world.idle =
        x₀.world.measurements ++ x₀.world.idle ++
          ((toldValues entry k).filterMap proximityNear).destutter (· ≠ ·)) ∧
      (.user .sensorClose ∉ bs → k = (x.arrived qmi c x₀.delivered).length) := by
  obtain ⟨y₀, bs', y, hflowing, hstart, hworld, harrived, husers⟩ :=
    exists_flowing proximitySource hqmi hfind hdata hstreamed hready
      (EndToEnd.within_proximity hwithin) hbs hrun hup
  obtain ⟨k, hle, haborted, hk, hall⟩ := EndToEnd.destuttered_of_flowing hflowing
  rw [harrived] at hle hall
  rw [hworld] at haborted
  rw [hworld, hstart] at hk
  exact ⟨k, hle, haborted, hk, fun hclose => hall fun hin => hclose (husers _ hin)⟩

end Measurements

end Stack

/-! ## The light sensor over datagrams -/

/-- The TLVs of a control request. -/
def controlTlvs (data : GArray) : List Tlv :=
  [⟨SSC_CONTROL_MSG_DATA_ID, data, .array⟩, ⟨SSC_CONTROL_MSG_REPORT_TYPE_ID, [1], .int⟩]

namespace Libqmi

/-- The datagram of a control request. -/
def controlDatagram (tx : ℕ) (data : GArray) : GArray :=
  Qmi.frame .request tx SSC_CONTROL_MSG_ID (Qmi.lengthField (controlTlvs data))
    (encodeTlvs (controlTlvs data))

/-- What a datagram contains. -/
def received (buf : GArray) : Option QmiReceived :=
  match Qmi.parseHeader buf with
  | .ok (.response, tx, _, _) => some (.controlOutput tx)
  | .ok (.indication, _, _, _) =>
      match SSC.tlvValue (buf.length + 1) buf SSC_REPORT_LARGE_DATA .array with
      | some (.ok (.bytes data)) => some (.reportLarge data)
      | _ => none
  | _ => none

/-- A library that counts its transactions from 1 to 65535, and again from 1. -/
def counting : Libqmi where
  transactionId i := i % 65535 + 1
  control := controlDatagram
  receive := received

variable {tx id n : ℕ} {data buf : GArray}

theorem received_response (h : Qmi.parseHeader buf = .ok (.response, tx, id, n)) :
    received buf = some (.controlOutput tx) := by
  unfold received
  rw [h]

theorem received_indication (h : Qmi.parseHeader buf = .ok (.indication, tx, id, n))
    (hdata : SSC.tlvValue (buf.length + 1) buf SSC_REPORT_LARGE_DATA .array =
      some (.ok (.bytes data))) : received buf = some (.reportLarge data) := by
  unfold received
  simp only [h, hdata]

theorem totalSize_controlTlvs (data : GArray) :
    totalSize (controlTlvs data) = data.length + 9 := by
  simp only [totalSize, controlTlvs, Tlv.size, Tlv.encodedLength, List.map_cons,
    List.map_nil, List.sum_cons, List.sum_nil, List.length_singleton]
  omega

theorem tlvsFit_controlTlvs (h : data.length ≤ 65519) :
    Qmi.TlvsFit (controlTlvs data) := by
  refine ⟨?_, by rw [totalSize_controlTlvs]; omega⟩
  simp only [controlTlvs, List.forall_mem_cons, Tlv.Fits, Tlv.encodedLength]
  exact ⟨⟨by decide, by omega⟩, ⟨by decide, by decide⟩, by simp⟩

theorem lawful_counting : counting.Lawful where
  control i data hdata := by
    have htx : i % 65535 + 1 < 65536 := by omega
    have hgen := Qmi.generateMessage_eq .request (i % 65535 + 1) SSC_CONTROL_MSG_ID
      (controlTlvs data)
    rw [if_pos ⟨⟨by decide, htx, by decide⟩, tlvsFit_controlTlvs hdata⟩] at hgen
    refine ⟨controlTlvs data, hgen, ?_, rfl, rfl⟩
    show (controlDatagram _ data).length ≤ SocketServer.bufferSize
    unfold controlDatagram SocketServer.bufferSize
    rw [Qmi.length_frame, length_encodeTlvs, totalSize_controlTlvs]
    omega
  controlOutput tx buf h := by
    rw [SSC.generateMessageControlOutput_eq] at h
    obtain ⟨hheader, hts, rfl⟩ := Qmi.eq_frame_of_generateMessage h
    exact received_response (Qmi.parseHeader_frame hheader (Qmi.lengthField_lt hts) _)
  reportLarge data tx buf h := by
    rw [SSC.generateReportLargeIndication_eq] at h
    obtain ⟨⟨n, hheader⟩, -, hdata⟩ :=
      SSC.indicates_of_generateMessage (by decide) h
    exact received_indication hheader (hdata _ (Nat.lt_succ_self _))

end Libqmi

namespace Stack

open EndToEnd (Action InTime lightEntry proximityEntry)

/-- A driver whose sensor has been found, and a server that has just started. -/
def mockStart (d : Driver Int32 S M) (uid : SscUid) : Stack Int32 S M where
  world := (EndToEnd.mockStart d uid).world
  server := .new
  posted := 0
  delivered := 0
  pending := []

theorem ready_mockStart (data : List (MeasuredEntry Int32)) (d : Driver Int32 S M)
    (uid : SscUid) : Ready (.descriptors Int32 0) data ⟨1, 20⟩ (mockStart d uid) where
  own := ⟨Nat.zero_lt_one, fun _ h => absurd h List.not_mem_nil⟩
  unopened := rfl
  posted := rfl
  pending := rfl
  delivered := rfl
  reached := ⟨[], rfl⟩
  processes _ hw := absurd hw List.not_mem_nil
  inbox _ hbuf := absurd hbuf List.not_mem_nil

def lightStart : Stack Int32 Unit Int32 := mockStart light.toDriver lightEntry.uid

/-- The light sensor is opened and sends three measurements, of which two arrive. -/
def lightRun : List Action :=
  [.post, .server .process, .server (.measure 0), .server (.measure 0), .deliver,
    .deliver, .user .idle, .server (.measure 0), .deliver]

def lightStack : Stack Int32 Unit Int32 :=
  (exec (act .counting light.toDriver (.descriptors Int32) (.descriptors Int32 0)
    [lightEntry] ⟨1, 20⟩) lightStart (.user .sensorOpen :: lightRun)).get (by decide +kernel)

theorem exec_lightRun : exec (act .counting light.toDriver (.descriptors Int32)
    (.descriptors Int32 0) [lightEntry] ⟨1, 20⟩) lightStart
      (.user .sensorOpen :: lightRun) = some lightStack :=
  (Option.some_get _).symm

theorem measurements_over_datagrams_light :
    lightStack.world.measurements ++ lightStack.world.idle = [5, 7] := by
  have honce : ∀ b ∈ lightRun, b ≠ .user .sensorOpen ∧ ∀ k, b ≠ .user (.call k) := by
    simp [lightRun]
  obtain ⟨k, -, hk, hall⟩ := measurements_over_datagrams lightSource
    Libqmi.lawful_counting rfl rfl EndToEnd.streamedEntry_light
    (ready_mockStart _ _ _) honce (by simp [lightRun, InTime, EndToEnd.timedOut])
    exec_lightRun (by decide +kernel)
  have harrived : (lightStack.arrived .counting ⟨1, 20⟩ 0).length = 2 := by
    decide +kernel
  obtain rfl : k = 2 := (hall (by decide)).trans harrived
  refine hk.trans ?_
  decide

def proximityStart : Stack Int32 ProximityState Bool :=
  mockStart proximity proximityEntry.uid

/-- The proximity sensor is opened and sends four measurements, which all arrive. -/
def proximityRun : List Action :=
  [.post, .server .process, .server (.measure 0), .deliver, .deliver,
    .server (.measure 0), .server (.measure 0), .deliver, .user .idle, .deliver,
    .server (.measure 0), .deliver]

def proximityStack : Stack Int32 ProximityState Bool :=
  (exec (act .counting proximity (.descriptors Int32) (.descriptors Int32 0)
    [proximityEntry] ⟨1, 20⟩) proximityStart
      (.user .sensorOpen :: proximityRun)).get (by decide +kernel)

theorem exec_proximityRun : exec (act .counting proximity (.descriptors Int32)
    (.descriptors Int32 0) [proximityEntry] ⟨1, 20⟩) proximityStart
      (.user .sensorOpen :: proximityRun) = some proximityStack :=
  (Option.some_get _).symm

theorem changes_over_datagrams_proximity :
    proximityStack.world.aborted = false ∧
      proximityStack.world.measurements ++ proximityStack.world.idle =
        [false, true, false] := by
  have hwithin : ∀ b ∈ proximityRun, b ≠ .user .sensorOpen ∧
      (∀ k, b ≠ .user (.call k)) ∧ b ≠ .user .newFinish := by
    simp [proximityRun]
  obtain ⟨k, -, haborted, hk, hall⟩ := changes_over_datagrams Libqmi.lawful_counting
    rfl rfl EndToEnd.streamedEntry_proximity (ready_mockStart _ _ _) hwithin
    (by simp [proximityRun, InTime, EndToEnd.timedOut]) exec_proximityRun
    (by decide +kernel)
  have harrived : (proximityStack.arrived .counting ⟨1, 20⟩ 0).length = 4 := by
    decide +kernel
  obtain rfl : k = 4 := (hall (by decide)).trans harrived
  have hsafe := haborted.mpr (by unfold NearOrFar; decide)
  exact ⟨hsafe, (hk hsafe).trans (by decide)⟩

/-- The sensor is opened and closed, and the server has read the first request. -/
def switchedRun : List Action :=
  [.user .sensorOpen, .post, .user .sensorClose, .post, .server .process]

def switchedStack : Stack Int32 Unit Int32 :=
  (exec (act .counting light.toDriver (.descriptors Int32) (.descriptors Int32 0)
    [lightEntry] ⟨1, 20⟩) lightStart switchedRun).get (by decide +kernel)

theorem exec_switchedRun : exec (act .counting light.toDriver (.descriptors Int32)
    (.descriptors Int32 0) [lightEntry] ⟨1, 20⟩) lightStart switchedRun =
      some switchedStack :=
  (Option.some_get _).symm

/-- Each request of the run fits. -/
theorem fits_switchedRun : StepsMeet (act .counting light.toDriver (.descriptors Int32)
    (.descriptors Int32 0) [lightEntry] ⟨1, 20⟩) lightStart
      (fun _ x b => Fits (.descriptors Int32 0) x b) switchedRun := by
  have hall : ∀ pre ∈ switchedRun.inits, ((exec (act .counting light.toDriver
      (.descriptors Int32) (.descriptors Int32 0) [lightEntry] ⟨1, 20⟩) lightStart
        pre).bind (fun x => x.world.sensor.sent[x.posted]?)).all (fun q =>
          ((MeasurementWire.descriptors Int32 0).pack q.uid q.msgId
            q.protobuf).length ≤ 65519) = true := by
    decide +kernel
  intro pre b hpre x hx _ q hq
  have hinits : pre ∈ switchedRun.inits :=
    (List.mem_inits _ _).mpr ((List.prefix_append _ _).trans hpre)
  have hfits := hall pre hinits
  rw [hx, Option.bind_some, hq] at hfits
  simpa using hfits

theorem pending_of_run_light :
    [1] ++ [2] = switchedStack.pending.map Libqmi.counting.transactionId := by
  obtain ⟨-, hunanswered⟩ := pending_of_run Libqmi.lawful_counting (ready_mockStart _ _ _)
    (by simp [switchedRun, InTime, EndToEnd.timedOut]) fits_switchedRun exec_switchedRun
    (by decide +kernel)
  rw [← hunanswered]
  decide +kernel

end Stack

end Libssc

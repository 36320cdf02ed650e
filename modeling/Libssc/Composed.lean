import Libssc.Discovery
import Libssc.Client
import Libssc.Descriptors
import Libssc.Table

/-!
# The library against the mocking server

An init and the server, joined by two reliable FIFO channels. The channel to the
server holds the requests sent but not yet received. The channel back carries
the acknowledgements and the indications, so that each acknowledgement arrives
before its indication. Server and library take their steps in any order.

The library's side is the machine of `Exchange`. What is new here is the way of
one request through the channels and the server (`Leg`): whatever is under way
at a stage of the init leads to the next stage, in at most four steps. That is so
if no answer is too long for an indication (`AnswersFit`); where one is, the server
ends and the init is never completed (`long_name_unanswered`).
-/

namespace Libssc

open Library

variable {F : Type} [GFloat F]

/-! ## The machine -/

/-- What the server sends: the acknowledgement of request `i`, or a report
indication. -/
inductive Packet where
  | controlOutput (i : ℕ)
  | reportLarge (data : GArray)
deriving DecidableEq, Repr

/-- A sensor object and the server. The server has received the first `received`
requests and has yet to act on `replying`; `raised` is the exception that has
ended it. Requests to stream measurements start a worker, which is not part of
this; an init sends none. -/
structure Composed (F : Type) where
  sensor : Sensor F
  received : ℕ
  replying : Option GArray
  toClient : List Packet
  raised : Option PyError

namespace Composed

/-- An init of a new sensor object for data type `d`, once its client is there. -/
def start (d : String) : Composed F where
  sensor := (Sensor.new (sscSensorInit d)).initableInitAsync none
  received := 0
  replying := none
  toClient := []
  raised := none

/-- The server receives and acknowledges a request, or acts on the one it has
received, or the library handles what has arrived first. -/
inductive Action where
  | receive
  | reply
  | deliver
deriving DecidableEq, Repr

/-- The rest of `_reply_msg`. -/
def reply (wire : Wire F) (data : List (Entry F)) (message : GArray)
    (x : Composed F) : Composed F :=
  match Server.replyMsg wire data message with
  | .error e => { x with replying := none, raised := some e }
  | .ok (.indication buf) =>
      { x with replying := none, toClient := x.toClient ++ [.reportLarge buf] }
  | .ok _ => { x with replying := none }

def act (pb : Protobuf F) (wire : Wire F) (data : List (Entry F))
    (x : Composed F) : Action → Option (Composed F)
  | .receive =>
      match x.raised, x.replying, x.sensor.sent[x.received]? with
      | none, none, some q =>
          some { x with
            received := x.received + 1
            replying := some (wire.pack q.uid q.msgId q.protobuf)
            toClient := x.toClient ++ [.controlOutput x.received] }
      | _, _, _ => none
  | .reply =>
      match x.raised, x.replying with
      | none, some message => some (x.reply wire data message)
      | _, _ => none
  | .deliver =>
      match x.toClient with
      | [] => none
      | .controlOutput i :: packets =>
          (x.sensor.step pb (.sendReady i none)).map
            (fun w => { x with sensor := w, toClient := packets })
      | .reportLarge buf :: packets =>
          some { x with
            sensor := Client.indicationReceived pb (Sensor.emitReport pb)
              (.large (some buf)) x.sensor
            toClient := packets }

variable {pb : Protobuf F} {wire : Wire F} {data : List (Entry F)}
  {x x' : Composed F}

/-- What an action does. -/
inductive Step (pb : Protobuf F) (wire : Wire F) (data : List (Entry F))
    (x : Composed F) : Composed F → Prop where
  | receive (q : Request F) (hraised : x.raised = none)
      (hreplying : x.replying = none)
      (hq : x.sensor.sent[x.received]? = some q) :
      Step pb wire data x { x with
        received := x.received + 1
        replying := some (wire.pack q.uid q.msgId q.protobuf)
        toClient := x.toClient ++ [.controlOutput x.received] }
  | reply (message : GArray) (hraised : x.raised = none)
      (hreplying : x.replying = some message) :
      Step pb wire data x (x.reply wire data message)
  | ready (i : ℕ) (packets : List Packet) (w : Sensor F)
      (hto : x.toClient = .controlOutput i :: packets)
      (hstep : x.sensor.step pb (.sendReady i none) = some w) :
      Step pb wire data x { x with sensor := w, toClient := packets }
  | indication (buf : GArray) (packets : List Packet)
      (hto : x.toClient = .reportLarge buf :: packets) :
      Step pb wire data x { x with
        sensor := Client.indicationReceived pb (Sensor.emitReport pb)
          (.large (some buf)) x.sensor
        toClient := packets }

theorem step_of_act {a : Action} (h : x.act pb wire data a = some x') :
    Step pb wire data x x' := by
  cases a with
  | receive =>
      simp only [act] at h
      split at h
      · rename_i q hraised hreplying hq
        obtain rfl := Option.some.inj h
        exact .receive q hraised hreplying hq
      · exact absurd h (by simp)
  | reply =>
      simp only [act] at h
      split at h
      · rename_i message hraised hreplying
        obtain rfl := Option.some.inj h
        exact .reply message hraised hreplying
      · exact absurd h (by simp)
  | deliver =>
      simp only [act] at h
      split at h
      · exact absurd h (by simp)
      · rename_i i packets hto
        obtain ⟨w, hw, rfl⟩ := Option.map_eq_some_iff.mp h
        exact .ready i packets w hto hw
      · rename_i buf packets hto
        obtain rfl := Option.some.inj h
        exact .indication buf packets hto

/-! ## What the server replies to a request -/

/-- The service that a server with this table offers. -/
def service (data : List (Entry F)) : Exchange.Service F where
  suid d := ((data.find? (fun e => e.dataType = d)).map Entry.uid).toList
  attributes u m := ∃ e attr, data.find? (fun e => e.uid = u) = some e ∧
    List.Forall₂ Server.EncodesTo e.attributes attr ∧
    m = ⟨attr.map SscAttr.received⟩

/-- The server replies to `q` with the indication `buf`, which holds one report,
and this is an answer to `q` from the table. -/
structure Replies (pb : Protobuf F) (wire : Wire F) (data : List (Entry F))
    (q : Request F) (buf : GArray) (r : Report) : Prop where
  reply : Server.replyMsg wire data (wire.pack q.uid q.msgId q.protobuf) =
    .ok (.indication buf)
  report : (Client.envelopes pb [.large (some buf)]).flatMap Client.bodies = [r]
  answered : q.isAnsweredBy pb r = true
  suid : ∀ m, q.protobuf = some (.suid m) →
    pb.suidResponseUnpack r.buf =
      some ⟨m.dataType, (service data).suid m.dataType⟩
  attr : ∀ m, q.protobuf = some (.attr m) → ∀ m',
    pb.attrResponseUnpack r.buf = some m' →
      (service data).attributes q.uid m'

omit [GFloat F] in
/-- The library takes an envelope apart as the server put it together. -/
theorem bodies_envelope (h : Lossless pb wire) (uid : SscUid) (msgId : UInt32)
    (msg : GArray) :
    (Client.envelopes pb
      [.large (some (Server.envelope wire uid msgId msg))]).flatMap
        Client.bodies = [⟨msgId, uid, msg⟩] := by
  simp [Client.envelopes, Client.Indication.protobuf, Server.envelope,
    h.clientResponse, Client.bodies]

/-- No answer to an init for `d` is too long for an indication. -/
structure AnswersFit (wire : Wire F) (data : List (Entry F)) (d : String) : Prop where
  registry : DataFits
    (Server.generateProtobufDiscoveryResponse wire data "registry")
  discovery : DataFits (Server.generateProtobufDiscoveryResponse wire data d)
  attributes : ∀ e ∈ data, e.dataType = d → ∀ response,
    Server.generateProtobufAttributesResponse wire data e.uid = .ok response →
      DataFits response

omit [GFloat F] in
/-- For a table that is at hand this can be evaluated. -/
theorem answersFit_of_forall {d : String}
    (hregistry : DataFits
      (Server.generateProtobufDiscoveryResponse wire data "registry"))
    (hdiscovery : DataFits (Server.generateProtobufDiscoveryResponse wire data d))
    (hall : ∀ e ∈ data, (Server.generateProtobufAttributesResponse wire data
      e.uid).toOption.all (fun r => DataFits r) = true) : AnswersFit wire data d where
  registry := hregistry
  discovery := hdiscovery
  attributes := by
    intro e he _ response hresponse
    have hfits := hall e he
    rw [hresponse] at hfits
    exact of_decide_eq_true hfits

omit [GFloat F] in
/-- Discovery requests are answered from the table. -/
theorem replies_suid (h : Lossless pb wire) {q : Request F} {m : SscSuidRequest}
    (huid : q.uid = SSC_SENSOR_UID_SUID) (hmsg : q.msgId = SSC_MSG_REQUEST_SUID)
    (hq : q.protobuf = some (.suid m)) (hm : IsCString m.dataType)
    (hfits : DataFits
      (Server.generateProtobufDiscoveryResponse wire data m.dataType)) :
    ∃ buf r, Replies pb wire data q buf r := by
  have hunpack : pb.suidResponseUnpack (wire.suidResponseSerialize
      ⟨m.dataType, (service data).suid m.dataType⟩) =
        some ⟨m.dataType, (service data).suid m.dataType⟩ := by
    rw [h.suidResponse, cString_of_isCString hm]
  refine ⟨Server.generateProtobufDiscoveryResponse wire data m.dataType,
    ⟨SSC_MSG_RESPONSE_SUID, SSC_SENSOR_UID_SUID, wire.suidResponseSerialize
      ⟨m.dataType, (service data).suid m.dataType⟩⟩, ?_⟩
  constructor
  case reply =>
    rw [huid, hmsg, hq]
    exact Server.replyMsg_of_fits (Server.respond_suid h hm) hfits
  case report => exact bodies_envelope h _ _ _
  case answered =>
    rw [Request.isAnsweredBy, hq]
    simp only [hunpack]
    simp [Report.IsSuid]
  case suid =>
    intro m' hm'
    obtain rfl : m = m' := by simpa [hq] using hm'
    exact hunpack
  case attr =>
    intro m' hm'
    exact absurd (hq.symm.trans hm') (by simp)

omit [GFloat F] in
/-- So are attribute requests to a sensor of the table. -/
theorem replies_attr (h : Lossless pb wire) {q : Request F} {m : SscAttrRequest}
    {e : Entry F} {attr : List (SscAttr F)}
    (hfind : data.find? (fun e => e.uid = q.uid) = some e)
    (hne : e.attributes ≠ [])
    (hattr : List.Forall₂ Server.EncodesTo e.attributes attr)
    (hmsg : q.msgId = SSC_MSG_REQUEST_GET_ATTRIBUTES)
    (hq : q.protobuf = some (.attr m))
    (hfits : ∀ response,
      Server.generateProtobufAttributesResponse wire data q.uid = .ok response →
        DataFits response) :
    ∃ buf r, Replies pb wire data q buf r := by
  have hresponse : Server.generateProtobufAttributesResponse wire data q.uid = _ :=
    Server.generateProtobufAttributesResponse_eq hfind hne hattr
  refine ⟨Server.envelope wire q.uid
      SSC_PROTOBUF_RESPONSE_GET_ATTRIBUTES_MSG_ID
      (wire.attrResponseSerialize ⟨attr⟩),
    ⟨SSC_MSG_RESPONSE_GET_ATTRIBUTES, q.uid,
      wire.attrResponseSerialize ⟨attr⟩⟩, ?_⟩
  constructor
  case reply =>
    rw [hmsg, hq]
    exact Server.replyMsg_of_fits (Server.respond_attr h hresponse)
      (hfits _ hresponse)
  case report => exact bodies_envelope h _ _ _
  case answered =>
    rw [Request.isAnsweredBy, hq]
    simp [h.attrResponse]
  case suid =>
    intro m' hm'
    exact absurd (hq.symm.trans hm') (by simp)
  case attr =>
    intro m' _ m'' hm''
    refine ⟨e, attr, hfind, hattr, ?_⟩
    exact Option.some.inj (hm''.symm.trans (h.attrResponse _))

/-- The service lists a UID for a data type exactly if the table has an entry
for it, and then it is the UID of the entry. -/
theorem suid_eq_cons (table : SensorTable F) {d : String} {u : SscUid}
    {us : List SscUid} (h : (service table.data).suid d = u :: us) :
    ∃ e ∈ table.data, e.dataType = d ∧ e.uid = u := by
  simp only [service] at h
  cases hfind : table.data.find? (fun e => e.dataType = d) with
  | none => simp [hfind] at h
  | some e =>
      obtain ⟨hmem, hd⟩ := of_find?_key hfind
      rw [hfind] at h
      exact ⟨e, hmem, hd, by simpa using (List.cons.inj h).1⟩

theorem suid_eq_nil (table : SensorTable F) {d : String} :
    (service table.data).suid d = [] ↔ ¬ ∃ e ∈ table.data, e.dataType = d := by
  simp [service]

/-- At every stage of an init that waits for an answer the server has one. -/
theorem replies_of_stage (h : Lossless pb wire) (table : SensorTable F)
    {d : String} (hfit : AnswersFit wire table.data d) (hd : IsCString d)
    {s : Exchange.Stage F} {q : Request F} (hvalid : s.Valid (service table.data) d)
    (hs : s.result = none) (hq : (s.sent d)[s.answers]? = some q) :
    ∃ buf r, Replies pb wire table.data q buf r := by
  cases s with
  | polling =>
      obtain rfl := Option.some.inj hq
      exact replies_suid h rfl rfl rfl (by decide) hfit.registry
  | discovering =>
      obtain rfl := Option.some.inj hq
      exact replies_suid h rfl rfl rfl hd hfit.discovery
  | populating u =>
      obtain rfl := Option.some.inj hq
      obtain ⟨us, hus⟩ := hvalid
      obtain ⟨e, he, hdata, rfl⟩ := suid_eq_cons table hus
      have hwf := table.wellFormed e he
      obtain ⟨attr, hattr⟩ := Server.exists_forall₂ hwf.accepted
      exact replies_attr h (find?_key table.uids he) hwf.nonempty hattr rfl rfl
        (hfit.attributes e he hdata)
  | absent => exact absurd hs (by simp [Exchange.Stage.result])
  | populated u m => exact absurd hs (by simp [Exchange.Stage.result])

/-! ## The way of a request -/

/-- Where request `n`, packed as `message`, is on its way: sent, received, its
acknowledgement delivered, replied to with `buf`, or both. The last index bounds
the actions until the answer is handled. -/
inductive Leg (message buf : GArray) (n : ℕ) (x : Composed F) : ℕ → Prop where
  | sent (received : x.received = n) (replying : x.replying = none)
      (toClient : x.toClient = []) (unready : x.sensor.unready = [n]) :
      Leg message buf n x 4
  | received (received : x.received = n + 1)
      (replying : x.replying = some message)
      (toClient : x.toClient = [.controlOutput n])
      (unready : x.sensor.unready = [n]) : Leg message buf n x 3
  | acked (received : x.received = n + 1) (replying : x.replying = some message)
      (toClient : x.toClient = []) (unready : x.sensor.unready = []) :
      Leg message buf n x 2
  | replied (received : x.received = n + 1) (replying : x.replying = none)
      (toClient : x.toClient = [.controlOutput n, .reportLarge buf])
      (unready : x.sensor.unready = [n]) : Leg message buf n x 2
  | answering (received : x.received = n + 1) (replying : x.replying = none)
      (toClient : x.toClient = [.reportLarge buf])
      (unready : x.sensor.unready = []) : Leg message buf n x 1

/-- The init is at stage `s`, as far as the library is concerned. -/
structure Staged (svc : Exchange.Service F) (p : SSCSensorPrivate F)
    (s : Exchange.Stage F) (x : Composed F) : Prop where
  valid : s.Valid svc p.dataType
  raised : x.raised = none
  stage : ∃ y : Exchange F, y.sensor = x.sensor ∧ y.failed = [] ∧
    Exchange.AtStage p s y

/-- The init waits for the answer to its last request, which is on its way. -/
structure Waiting (pb : Protobuf F) (wire : Wire F) (data : List (Entry F))
    (p : SSCSensorPrivate F) (s : Exchange.Stage F) (q : Request F)
    (buf : GArray) (r : Report) (j : ℕ) (x : Composed F) : Prop extends
    Staged (service data) p s x where
  result : s.result = none
  last : (s.sent p.dataType)[s.answers]? = some q
  replies : Replies pb wire data q buf r
  leg : Leg (wire.pack q.uid q.msgId q.protobuf) buf s.answers x j

/-- The init is done, and nothing is on its way. -/
structure Done (data : List (Entry F)) (p : SSCSensorPrivate F)
    (s : Exchange.Stage F) (x : Composed F) : Prop extends
    Staged (service data) p s x where
  result : s.result ≠ none
  received : x.received = x.sensor.sent.length
  replying : x.replying = none
  toClient : x.toClient = []

/-- The init waits or is done, and at most `k` actions are to come. -/
def Underway (pb : Protobuf F) (wire : Wire F) (data : List (Entry F))
    (p : SSCSensorPrivate F) (k : ℕ) (x : Composed F) : Prop :=
  (∃ s q buf r j, Waiting pb wire data p s q buf r j x ∧
      k = 4 * (2 - s.answers) + j) ∨
    ∃ s, Done data p s x

variable {svc : Exchange.Service F} {p : SSCSensorPrivate F}
  {s : Exchange.Stage F}

theorem Staged.sent (h : Staged svc p s x) :
    x.sensor.sent = s.sent p.dataType := by
  obtain ⟨y, hy, -, hstage⟩ := h.stage
  rw [← hy]
  exact hstage.sent

/-- What the server does leaves the stage alone. -/
theorem Staged.of_sensor (h : Staged svc p s x) (hsensor : x'.sensor = x.sensor)
    (hraised : x'.raised = none) : Staged svc p s x' where
  valid := h.valid
  raised := hraised
  stage := by
    obtain ⟨y, hy, hfailed, hstage⟩ := h.stage
    exact ⟨y, hy.trans hsensor.symm, hfailed, hstage⟩

/-- So does an acknowledgement. -/
theorem Staged.ready (h : Staged svc p s x) {i : ℕ} (packets : List Packet)
    {w : Sensor F} (hstep : x.sensor.step pb (.sendReady i none) = some w) :
    Staged svc p s { x with sensor := w, toClient := packets } ∧
      w.unready = x.sensor.unready.erase i := by
  obtain ⟨y, hy, hfailed, hstage⟩ := h.stage
  rw [← hy] at hstep
  obtain ⟨q, -, hran⟩ := Sensor.sole_sendRan hstage.sole hstep
  refine ⟨⟨h.valid, h.raised, ?_⟩, by rw [hran.unready, hy]⟩
  exact ⟨{ y with sensor := w, acked := y.acked ++ [i] }, rfl, hfailed,
    Exchange.atStage_ack hstage hstep⟩

/-- A report makes the sensor owe the callbacks of the requests it sends. -/
theorem unready_emitReport {t : ℕ} {w : Sensor F} (h : Sensor.Sole t w)
    (pb : Protobuf F) (r : Report) :
    (w.emitReport pb r).unready = w.unready ++ List.range' w.sent.length
      ((w.emitReport pb r).sent.length - w.sent.length) := by
  rcases Sensor.sole_report_cases h pb r with ⟨-, heq⟩ | ⟨-, -, heq⟩
  · rw [heq]
    simp
  · rw [heq, Sensor.perform_unready, Sensor.perform_sent]
    cases ((w.priv.outcome pb r).request t
        ((w.priv.outcome pb r).update w.priv)) with
    | none => simp
    | some q => simp

/-- The answer leads to the next stage, and to the next request if there is
one. -/
theorem Waiting.next {table : SensorTable F} {q : Request F} {buf : GArray}
    {r : Report} (h : Waiting pb wire table.data p s q buf r 1 x)
    (hd : p.dataType ≠ "registry") (packets : List Packet) :
    ∃ s' : Exchange.Stage F, s'.answers = s.answers + 1 ∧
      Staged (service table.data) p s'
        { x with sensor := x.sensor.emitReport pb r, toClient := packets } ∧
      (x.sensor.emitReport pb r).unready =
        if s'.result = none then [s'.answers] else [] := by
  have hreg : (service table.data).suid "registry" ≠ [] := by
    intro hnil
    exact (suid_eq_nil table).mp hnil table.registry
  obtain ⟨y, hy, hfailed, hstage⟩ := h.stage
  have hsent : y.sensor.sent[s.answers]? = some q := by
    rw [hstage.sent]
    exact h.last
  have hans : s.answers ∉ y.answered := by
    rw [hstage.answered]
    simp
  have hact : y.act pb (.answer s.answers r) = some { y with
      sensor := y.sensor.emitReport pb r
      answered := y.answered ++ [s.answers] } := by
    simp only [Exchange.act, hsent]
    exact if_pos ⟨h.replies.answered, hans, by rw [hfailed]; simp⟩
  have hserved : Exchange.Served pb (service table.data) y
      (.answer s.answers r) := by
    intro q' hq'
    obtain rfl : q = q' := Option.some.inj (hsent.symm.trans hq')
    exact ⟨h.replies.suid, h.replies.attr⟩
  obtain ⟨s', hs', hvalid', hstage'⟩ :=
    Exchange.atStage_answer hreg hd hstage h.valid hserved hact
  refine ⟨s', hs', ⟨hvalid', h.raised, ?_⟩, ?_⟩
  · refine ⟨{ y with
      sensor := y.sensor.emitReport pb r
      answered := y.answered ++ [s.answers] }, ?_, hfailed, hstage'⟩
    rw [← hy]
  · have hlen := congrArg List.length hstage'.sent
    have hlen₀ := congrArg List.length hstage.sent
    rw [Exchange.Stage.length_sent, if_pos h.result] at hlen₀
    rw [Exchange.Stage.length_sent] at hlen
    have hunready : y.sensor.unready = [] := by
      rw [hy]
      cases h.leg with
      | answering _ _ _ unready => exact unready
    rw [← hy, unready_emitReport hstage.sole, hunready, hlen, hlen₀]
    split
    · simp [hs']
    · simp [hs']

/-! ## One action -/

omit [GFloat F] in
theorem reply_eq {message buf : GArray}
    (h : Server.replyMsg wire data message = .ok (.indication buf)) :
    x.reply wire data message =
      { x with replying := none, toClient := x.toClient ++ [.reportLarge buf] } := by
  simp only [reply, h]

omit [GFloat F] in
theorem reply_of_error {message : GArray} {e : PyError}
    (h : Server.replyMsg wire data message = .error e) :
    x.reply wire data message = { x with replying := none, raised := some e } := by
  simp only [reply, h]

theorem Waiting.sent_last {q : Request F} {buf : GArray} {r : Report} {j : ℕ}
    (h : Waiting pb wire data p s q buf r j x) :
    x.sensor.sent[s.answers]? = some q := by
  rw [h.toStaged.sent]
  exact h.last

/-- The server has received all requests once it has received the last one. -/
theorem Waiting.no_request {q : Request F} {buf : GArray} {r : Report} {j : ℕ}
    (h : Waiting pb wire data p s q buf r j x)
    (hreceived : x.received = s.answers + 1) :
    x.sensor.sent[x.received]? = none := by
  rw [hreceived, h.toStaged.sent]
  apply List.getElem?_eq_none
  rw [Exchange.Stage.length_sent, if_pos h.result]

/-- The handling of the indication that `q` is answered by emits the answer. -/
theorem Replies.emits {q : Request F} {buf : GArray} {r : Report}
    (h : Replies pb wire data q buf r) (w : Sensor F) :
    Client.indicationReceived pb (Sensor.emitReport pb) (.large (some buf)) w =
      w.emitReport pb r := by
  rw [Client.indicationReceived_eq, h.report]
  rfl

/-! One lemma for each action: on which legs it is possible, and which leg comes
after it. -/

theorem Waiting.receive {q q' : Request F} {buf : GArray} {r : Report} {j : ℕ}
    (h : Waiting pb wire data p s q buf r j x) (hreplying : x.replying = none)
    (hq' : x.sensor.sent[x.received]? = some q') :
    ∃ j' < j, Waiting pb wire data p s q buf r j' { x with
      received := x.received + 1
      replying := some (wire.pack q'.uid q'.msgId q'.protobuf)
      toClient := x.toClient ++ [.controlOutput x.received] } := by
  cases h.leg with
  | sent received _ toClient unready =>
      rw [received, h.sent_last] at hq'
      obtain rfl := Option.some.inj hq'
      exact ⟨3, by decide, h.toStaged.of_sensor rfl h.raised, h.result, h.last,
        h.replies, .received (by rw [received]) rfl
          (by simp [toClient, received]) unready⟩
  | received _ replying _ _ =>
      exact absurd (replying.symm.trans hreplying) (by simp)
  | acked _ replying _ _ =>
      exact absurd (replying.symm.trans hreplying) (by simp)
  | replied received _ _ _ =>
      exact absurd ((h.no_request received).symm.trans hq') (by simp)
  | answering received _ _ _ =>
      exact absurd ((h.no_request received).symm.trans hq') (by simp)

theorem Waiting.reply {q : Request F} {buf : GArray} {r : Report} {j : ℕ}
    {message : GArray} (h : Waiting pb wire data p s q buf r j x)
    (hreplying : x.replying = some message) :
    ∃ j' < j, Waiting pb wire data p s q buf r j'
      (x.reply wire data message) := by
  cases h.leg with
  | received received replying toClient unready =>
      obtain rfl := Option.some.inj (replying.symm.trans hreplying)
      rw [reply_eq h.replies.reply]
      exact ⟨2, by decide, h.toStaged.of_sensor rfl h.raised, h.result, h.last,
        h.replies, .replied received rfl (by simp [toClient]) unready⟩
  | acked received replying toClient unready =>
      obtain rfl := Option.some.inj (replying.symm.trans hreplying)
      rw [reply_eq h.replies.reply]
      exact ⟨1, by decide, h.toStaged.of_sensor rfl h.raised, h.result, h.last,
        h.replies, .answering received rfl (by simp [toClient]) unready⟩
  | sent _ replying _ _ =>
      exact absurd (replying.symm.trans hreplying) (by simp)
  | replied _ replying _ _ =>
      exact absurd (replying.symm.trans hreplying) (by simp)
  | answering _ replying _ _ =>
      exact absurd (replying.symm.trans hreplying) (by simp)

theorem Waiting.ready {q : Request F} {buf : GArray} {r : Report} {i j : ℕ}
    {packets : List Packet} {w : Sensor F}
    (h : Waiting pb wire data p s q buf r j x)
    (hto : x.toClient = .controlOutput i :: packets)
    (hw : x.sensor.step pb (.sendReady i none) = some w) :
    ∃ j' < j, Waiting pb wire data p s q buf r j'
      { x with sensor := w, toClient := packets } := by
  obtain ⟨hstaged, hunready⟩ := h.toStaged.ready packets hw
  cases h.leg with
  | received received replying toClient unready =>
      obtain ⟨rfl, rfl⟩ : i = s.answers ∧ packets = [] := by
        simpa [eq_comm] using toClient.symm.trans hto
      exact ⟨2, by decide, hstaged, h.result, h.last, h.replies,
        .acked received replying rfl (by simp [hunready, unready])⟩
  | replied received replying toClient unready =>
      obtain ⟨rfl, rfl⟩ : i = s.answers ∧ packets = [.reportLarge buf] := by
        simpa [eq_comm] using toClient.symm.trans hto
      exact ⟨1, by decide, hstaged, h.result, h.last, h.replies,
        .answering received replying rfl (by simp [hunready, unready])⟩
  | sent _ _ toClient _ => exact absurd (toClient.symm.trans hto) (by simp)
  | acked _ _ toClient _ => exact absurd (toClient.symm.trans hto) (by simp)
  | answering _ _ toClient _ =>
      exact absurd (toClient.symm.trans hto) (by simp)

/-- An indication arrives on the last leg only, and is the answer. -/
theorem Waiting.indication {q : Request F} {buf buf' : GArray} {r : Report}
    {j : ℕ} {packets : List Packet} (h : Waiting pb wire data p s q buf r j x)
    (hto : x.toClient = .reportLarge buf' :: packets) :
    j = 1 ∧ buf' = buf ∧ packets = [] ∧ x.received = s.answers + 1 ∧
      x.replying = none := by
  cases h.leg with
  | answering received replying toClient _ =>
      obtain ⟨rfl, rfl⟩ : buf = buf' ∧ packets = [] := by
        simpa [eq_comm] using toClient.symm.trans hto
      exact ⟨rfl, rfl, rfl, received, replying⟩
  | sent _ _ toClient _ => exact absurd (toClient.symm.trans hto) (by simp)
  | received _ _ toClient _ => exact absurd (toClient.symm.trans hto) (by simp)
  | acked _ _ toClient _ => exact absurd (toClient.symm.trans hto) (by simp)
  | replied _ _ toClient _ => exact absurd (toClient.symm.trans hto) (by simp)

/-- Done means that no action is left. -/
theorem Done.no_step (h : Done data p s x) : ¬ Step pb wire data x x' := by
  intro hstep
  cases hstep with
  | receive q _ _ hq =>
      rw [h.received, List.getElem?_eq_none (le_refl _)] at hq
      exact absurd hq (by simp)
  | reply message _ hreplying =>
      exact absurd (h.replying.symm.trans hreplying) (by simp)
  | ready i packets w hto _ => exact absurd (h.toClient.symm.trans hto) (by simp)
  | indication buf packets hto =>
      exact absurd (h.toClient.symm.trans hto) (by simp)

/-- A waiting init is never stuck: whatever leg the request is on, the next
action is possible. -/
theorem Waiting.act_ne_none {q : Request F} {buf : GArray} {r : Report} {j : ℕ}
    (h : Waiting pb wire data p s q buf r j x) :
    ∃ a, x.act pb wire data a ≠ none := by
  have hlast := h.sent_last
  have hraised := h.raised
  cases h.leg with
  | sent received replying _ _ =>
      refine ⟨.receive, ?_⟩
      simp [act, hraised, replying, received, hlast]
  | received _ replying _ _ =>
      refine ⟨.reply, ?_⟩
      simp [act, hraised, replying]
  | acked _ replying _ _ =>
      refine ⟨.reply, ?_⟩
      simp [act, hraised, replying]
  | replied _ _ toClient unready =>
      refine ⟨.deliver, ?_⟩
      simp [act, toClient, Sensor.step, hlast, unready]
  | answering _ _ toClient _ =>
      refine ⟨.deliver, ?_⟩
      simp [act, toClient]

omit [GFloat F] in
theorem answers_le {s : Exchange.Stage F} (h : s.result = none) :
    s.answers ≤ 2 := by
  cases s with
  | populated u m => exact absurd h (by simp [Exchange.Stage.result])
  | _ => simp [Exchange.Stage.answers]

/-- An init at a stage with a fresh request waits, one with a result is done. -/
theorem underway_of_staged (h : Lossless pb wire) (table : SensorTable F)
    (hfit : AnswersFit wire table.data p.dataType) (hc : IsCString p.dataType)
    (hstaged : Staged (service table.data) p s x)
    (hreceived : x.received = s.answers) (hreplying : x.replying = none)
    (htoClient : x.toClient = [])
    (hunready : x.sensor.unready =
      if s.result = none then [s.answers] else []) :
    Underway pb wire table.data p (4 * (3 - s.answers)) x := by
  have hlen : x.sensor.sent.length =
      if s.result = none then s.answers + 1 else s.answers := by
    rw [hstaged.sent]
    exact s.length_sent p.dataType
  by_cases hs : s.result = none
  · rw [if_pos hs] at hlen hunready
    have hlt : s.answers < x.sensor.sent.length := by omega
    have hlast : (s.sent p.dataType)[s.answers]? =
        some x.sensor.sent[s.answers] := by
      rw [← hstaged.sent]
      exact List.getElem?_eq_getElem hlt
    obtain ⟨buf, r, hreplies⟩ :=
      replies_of_stage h table hfit hc hstaged.valid hs hlast
    have hle := answers_le hs
    refine Or.inl ⟨s, _, buf, r, 4, ⟨hstaged, hs, hlast, hreplies,
      .sent hreceived hreplying htoClient hunready⟩, ?_⟩
    omega
  · rw [if_neg hs] at hlen
    exact Or.inr ⟨s, hstaged, hs, hreceived.trans hlen.symm, hreplying,
      htoClient⟩

/-- An acknowledgement on its way is one that the library waits for. -/
theorem Underway.unready {k i : ℕ} {packets : List Packet}
    (h : Underway pb wire data p k x) (hto : x.toClient = .controlOutput i :: packets) :
    i ∈ x.sensor.unready := by
  rcases h with ⟨s, q, buf, r, j, hw, -⟩ | ⟨s, hdone⟩
  · cases hw.leg with
    | received _ _ toClient unready =>
        obtain ⟨rfl, -⟩ : i = s.answers ∧ packets = [] := by
          simpa [eq_comm] using toClient.symm.trans hto
        rw [unready]
        exact List.mem_singleton_self _
    | replied _ _ toClient unready =>
        obtain ⟨rfl, -⟩ : i = s.answers ∧ packets = [.reportLarge buf] := by
          simpa [eq_comm] using toClient.symm.trans hto
        rw [unready]
        exact List.mem_singleton_self _
    | sent _ _ toClient _ => exact absurd (toClient.symm.trans hto) (by simp)
    | acked _ _ toClient _ => exact absurd (toClient.symm.trans hto) (by simp)
    | answering _ _ toClient _ => exact absurd (toClient.symm.trans hto) (by simp)
  · exact absurd (hdone.toClient.symm.trans hto) (by simp)

/-- **Every action brings the init closer to its end.** -/
theorem underway_act (h : Lossless pb wire) (table : SensorTable F)
    (hfit : AnswersFit wire table.data p.dataType)
    (hd : p.dataType ≠ "registry") (hc : IsCString p.dataType) {k : ℕ}
    {a : Action} (hx : Underway pb wire table.data p k x)
    (hact : x.act pb wire table.data a = some x') :
    ∃ k' < k, Underway pb wire table.data p k' x' := by
  rcases hx with ⟨s, q, buf, r, j, hw, rfl⟩ | ⟨s, hdone⟩
  · have hcloser : ∀ {x'}, (∃ j' < j, Waiting pb wire table.data p s q buf r j' x') →
        ∃ k' < 4 * (2 - s.answers) + j, Underway pb wire table.data p k' x' := by
      rintro x' ⟨j', hj', hw'⟩
      exact ⟨4 * (2 - s.answers) + j', by omega,
        Or.inl ⟨s, q, buf, r, j', hw', rfl⟩⟩
    cases step_of_act hact with
    | receive q' _ hreplying hq' => exact hcloser (hw.receive hreplying hq')
    | reply message _ hreplying => exact hcloser (hw.reply hreplying)
    | ready i packets w hto hstep => exact hcloser (hw.ready hto hstep)
    | indication buf' packets hto =>
        obtain ⟨rfl, rfl, rfl, hreceived, hreplying⟩ := hw.indication hto
        rw [hw.replies.emits x.sensor]
        obtain ⟨s', hs', hstaged, hunready⟩ := hw.next hd []
        have hle := answers_le hw.result
        refine ⟨4 * (3 - s'.answers), by omega, ?_⟩
        exact underway_of_staged h table hfit hc hstaged (hreceived.trans hs'.symm)
          hreplying rfl hunready
  · exact absurd (step_of_act hact) hdone.no_step

/-! ## All actions -/

theorem underway_start (h : Lossless pb wire) (table : SensorTable F) {d : String}
    (hfit : AnswersFit wire table.data d) (hc : IsCString d) :
    Underway pb wire table.data (sscSensorInit d) 12 (start d) := by
  have hstage : Exchange.AtStage (sscSensorInit d) .polling
      (Exchange.start (start d : Composed F).sensor) :=
    Exchange.atStage_start rfl
  have hstaged : Staged (service table.data) (sscSensorInit d) .polling
      (start d) :=
    { valid := trivial
      raised := rfl
      stage := ⟨_, rfl, rfl, hstage⟩ }
  exact underway_of_staged h table hfit hc hstaged rfl rfl rfl rfl

/-- The object of an init that has been populated matches the entry it was
populated from. -/
theorem matches_of_populated (table : SensorTable F) {d : String} {u : SscUid}
    {m : SscAttrResponse F} {e : Entry F} (he : e ∈ table.data) (hu : e.uid = u)
    (hm : (service table.data).attributes u m) :
    e.Matches ((Exchange.Stage.populated u m).priv (sscSensorInit d)) := by
  obtain ⟨e', attr, hfind, hattr, rfl⟩ := hm
  rw [← hu, find?_key table.uids he] at hfind
  obtain rfl := Option.some.inj hfind
  have hmatches := matches_of_encodesTo (table.wellFormed e he) hattr
    (p := { sscSensorInit d with
      client := true
      reportId := 1
      serviceRetries := 0
      serviceAvailable := true
      uid := u })
    hu.symm rfl rfl rfl rfl rfl
  exact ⟨hmatches.uid, hmatches.name, hmatches.vendor, hmatches.available,
    hmatches.sampleRate, hmatches.streamType⟩

/-- What an init has found when it is done. -/
theorem Done.found (table : SensorTable F) {d : String}
    (h : Done table.data (sscSensorInit d) s x) :
    ∃ c, x.sensor.tasks.returns 0 = [c] ∧
      (c.result = .boolean true ↔ ∃ e ∈ table.data, e.dataType = d) ∧
      (c.result = .boolean true →
        ∀ e ∈ table.data, e.dataType = d → e.Matches x.sensor.priv) := by
  obtain ⟨y, hy, -, hstage⟩ := h.stage
  have hpriv := hstage.priv
  have hresults := hstage.results
  have hvalid := h.valid
  rw [hy] at hpriv hresults
  cases s with
  | polling => exact absurd rfl h.result
  | discovering => exact absurd rfl h.result
  | populating u => exact absurd rfl h.result
  | absent =>
      obtain ⟨c, hc, hfalse⟩ := List.map_eq_singleton_iff.mp hresults
      have hnot := (suid_eq_nil table).mp hvalid
      exact ⟨c, hc, ⟨fun htrue => absurd (hfalse.symm.trans htrue) (by simp),
        fun he => absurd he hnot⟩,
        fun htrue => absurd (hfalse.symm.trans htrue) (by simp)⟩
  | populated u m =>
      obtain ⟨c, hc, htrue⟩ := List.map_eq_singleton_iff.mp hresults
      obtain ⟨⟨us, hus⟩, hm⟩ := hvalid
      obtain ⟨e, he, hd, hu⟩ := suid_eq_cons table hus
      refine ⟨c, hc, ⟨fun _ => ⟨e, he, hd⟩, fun _ => htrue⟩, ?_⟩
      intro _ e' he' hd'
      obtain rfl : e' = e :=
        List.inj_on_of_nodup_map table.dataTypes he' he (hd'.trans hd.symm)
      rw [hpriv]
      exact matches_of_populated table he' hu hm

/-- There is a run of every init in which no action is left. -/
theorem init_ends (h : Lossless pb wire) (table : SensorTable F) {d : String}
    (hfit : AnswersFit wire table.data d) (hd : d ≠ "registry") (hc : IsCString d) :
    ∃ as x, exec (act pb wire table.data) (start d) as = some x ∧
      ∀ a, x.act pb wire table.data a = none :=
  exists_stuck (I := Underway pb wire table.data (sscSensorInit d))
    (fun _ _ _ _ hx hact => underway_act h table hfit hd hc hx hact)
    (underway_start h table hfit hc)

/-- **An init against the mocking server ends, and finds what the server has**, if
the answers fit. No run is longer than twelve actions. When no action is left, the
init has been completed once, with TRUE if and only if the server's table has an
entry for the data type, and the object then matches the entry. -/
theorem init_finds_entry (h : Lossless pb wire) (table : SensorTable F)
    {d : String} (hfit : AnswersFit wire table.data d) (hd : d ≠ "registry")
    (hc : IsCString d) {as : List Action}
    (hrun : exec (act pb wire table.data) (start d) as = some x) :
    as.length ≤ 12 ∧
      ((∀ a, x.act pb wire table.data a = none) →
        ∃ c, x.sensor.tasks.returns 0 = [c] ∧
          (c.result = .boolean true ↔ ∃ e ∈ table.data, e.dataType = d) ∧
          (c.result = .boolean true →
            ∀ e ∈ table.data, e.dataType = d → e.Matches x.sensor.priv)) := by
  obtain ⟨k, hk, hle⟩ := exec_length_le
    (I := Underway pb wire table.data (sscSensorInit d))
    (fun _ _ _ _ hx hact => underway_act h table hfit hd hc hx hact)
    (underway_start h table hfit hc) hrun
  refine ⟨by omega, fun hstuck => ?_⟩
  rcases hk with ⟨s, q, buf, r, j, hw, -⟩ | ⟨s, hdone⟩
  · obtain ⟨a, ha⟩ := hw.act_ne_none
    exact absurd (hstuck a) ha
  · exact hdone.found table

/-! The registry and the accelerometer of the server's own data files, where the
accelerometer has the name `name`. -/

def mockAccel (name : String) : Entry Int32 :=
  mockSensor "accel" name 2 5 false [1, 0, 0, 0, 1, 0, 0, 0, 1]

def accelTable (name : String) (h : IsCString name) : SensorTable Int32 :=
  mockTable 5 (by decide) (mockAccel name)
    (wellFormed_mockSensor _ _ _ _ h (by decide))
    (show "accel" ≠ "registry" by decide)
    (show (⟨2, 2⟩ : SscUid) ≠ ⟨8, 8⟩ by decide)

theorem answersFit_accel : AnswersFit (Wire.descriptors Int32 0)
    (accelTable "accelerometer-mock" (by decide)).data "accel" :=
  answersFit_of_forall (by decide +kernel) (by decide +kernel) (by decide +kernel)

theorem init_finds_entry_accel :
    ∃ as x, exec (act (Protobuf.descriptors Int32) (Wire.descriptors Int32 0)
        (accelTable "accelerometer-mock" (by decide)).data) (start "accel") as =
          some x ∧
      as.length ≤ 12 ∧
      ∃ c, x.sensor.tasks.returns 0 = [c] ∧ c.result = .boolean true ∧
        (mockAccel "accelerometer-mock").Matches x.sensor.priv := by
  obtain ⟨as, x, hrun, hstuck⟩ := init_ends (lossless_descriptors 0)
    (accelTable "accelerometer-mock" (by decide)) answersFit_accel (by decide)
    (by decide)
  obtain ⟨hlength, hend⟩ := init_finds_entry (lossless_descriptors 0)
    (accelTable "accelerometer-mock" (by decide)) answersFit_accel (by decide)
    (by decide) hrun
  obtain ⟨c, hc, htrue, hmatches⟩ := hend hstuck
  have hmem : mockAccel "accelerometer-mock" ∈
      (accelTable "accelerometer-mock" (by decide)).data :=
    List.mem_cons_of_mem _ List.mem_cons_self
  have hret := htrue.mpr ⟨_, hmem, rfl⟩
  exact ⟨as, x, hrun, hlength, c, hc, hret, hmatches hret _ hmem rfl⟩

/-! An accelerometer with a name of 66000 characters. Its attributes do not fit an
indication. -/

def longName : String := String.ofList (List.replicate 66000 'x')

theorem isCString_longName : IsCString longName := by
  unfold IsCString longName
  rw [String.toList_ofList]
  intro h
  exact absurd (List.eq_of_mem_replicate h) (by decide)

def longTable : SensorTable Int32 := accelTable longName isCString_longName

/-- What the server makes of the attributes of the accelerometer is too long. -/
theorem longTable_overflows (r : SscAttrRequest) :
    Server.replyMsg (Wire.descriptors Int32 0) longTable.data
        ((Wire.descriptors Int32 0).pack ⟨2, 2⟩ SSC_MSG_REQUEST_GET_ATTRIBUTES
          (some (.attr r))) = .error .overflowError := by
  have hwf := longTable.wellFormed (mockAccel longName)
    (List.mem_cons_of_mem _ List.mem_cons_self)
  obtain ⟨attr, hattr⟩ := Server.exists_forall₂ hwf.accepted
  have hfind : longTable.data.find? (fun e => e.uid = ⟨2, 2⟩) =
      some (mockAccel longName) := rfl
  have hresponse : Server.generateProtobufAttributesResponse
      (Wire.descriptors Int32 0) longTable.data ⟨2, 2⟩ = _ :=
    Server.generateProtobufAttributesResponse_eq hfind hwf.nonempty hattr
  rw [Server.replyMsg_of_respond
    (Server.respond_attr (lossless_descriptors 0) hresponse),
    Server.reportLargeIndication_of_not_fits]
  · rfl
  intro hfits
  -- the first attribute is the name
  obtain ⟨a, attrs, rfl, hname⟩ : ∃ a attrs, attr = a :: attrs ∧
      a.valueArray = [⟨some longName, none, none, none⟩] := by
    cases hattr with
    | cons ha _ =>
        exact ⟨_, _, rfl, valueArray_of_encodesTo ha rfl rfl⟩
  have hvalue : ⟨some longName, none, none, none⟩ ∈ a.valueArray := by
    rw [hname]
    exact List.mem_singleton_self _
  have hlong : (List.replicate 66000 'x').length ≤
      ((Wire.descriptors Int32 0).attrResponseSerialize ⟨a :: attrs⟩).length :=
    length_le_attrResponseSerialize List.mem_cons_self hvalue rfl
  have henvelope := (length_le_envelope
    ((Wire.descriptors Int32 0).attrResponseSerialize ⟨a :: attrs⟩)).trans hfits
  rw [List.length_replicate] at hlong
  exact absurd (hlong.trans henvelope) (by decide)

/-- The registry is found, then the accelerometer, and its attributes are asked
for. -/
def longRun : List Action :=
  [.receive, .reply, .deliver, .deliver, .receive, .reply, .deliver, .deliver,
    .receive, .deliver]

def longAsked : Composed Int32 :=
  (exec (act (Protobuf.descriptors Int32) (Wire.descriptors Int32 0)
    longTable.data) (start "accel") longRun).get (by decide +kernel)

theorem exec_longRun :
    exec (act (Protobuf.descriptors Int32) (Wire.descriptors Int32 0)
      longTable.data) (start "accel") longRun = some longAsked :=
  (Option.some_get _).symm

theorem longAsked_eq :
    longAsked.raised = none ∧ longAsked.toClient = [] ∧
      longAsked.replying = some ((Wire.descriptors Int32 0).pack ⟨2, 2⟩
        SSC_MSG_REQUEST_GET_ATTRIBUTES (some (.attr ⟨some false⟩))) ∧
      longAsked.sensor.tasks.returns 0 = [] := by
  decide +kernel

theorem long_name_unanswered :
    Lossless (Protobuf.descriptors Int32) (Wire.descriptors Int32 0) ∧
      ∃ x, exec (act (Protobuf.descriptors Int32) (Wire.descriptors Int32 0)
          longTable.data) (start "accel") (longRun ++ [.reply]) = some x ∧
        (∀ a, x.act (Protobuf.descriptors Int32) (Wire.descriptors Int32 0)
          longTable.data a = none) ∧
        x.raised = some .overflowError ∧ x.sensor.tasks.returns 0 = [] := by
  obtain ⟨hraised, htoClient, hreplying, hreturns⟩ := longAsked_eq
  refine ⟨lossless_descriptors 0,
    { longAsked with replying := none, raised := some .overflowError }, ?_, ?_, rfl,
    hreturns⟩
  · refine exec_snoc.mpr ⟨longAsked, exec_longRun, ?_⟩
    simp only [act, hraised, hreplying, reply_of_error (longTable_overflows _)]
  · intro a
    cases a with
    | deliver => simp only [act, htoClient]
    | _ => rfl

end Composed

end Libssc

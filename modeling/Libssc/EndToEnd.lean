import Libssc.Reactions

/-!
# From the table to the application

A driver that has been opened, and the mocking server, joined by two reliable
FIFO channels. The server has other clients, which do as they like. What passes
between the measurements that the table lists and the `measurement` signals that
the application gets are the process at the server, the envelopes, the channel,
the client, the driver's handler and its idle sources; each of these is as it
was modelled before, and takes its steps whenever it likes.

The main result (`flowing_run`) leaves all of them out: the driver has reacted to
the first measurements of the table in turn (`Source.after`), and to nothing
else.
-/

namespace Libssc

open Library

variable {F S M : Type} [GFloat F]

/-! ## The machine -/

/-- A driver's world and the server. `posted` is how many of the requests that
the library has sent have come to the server's socket, `delivered` how many of
the things that the server has sent to the library have arrived, and `acked` how
many of its requests have been acknowledged. -/
structure EndToEnd (F S M : Type) where
  world : DriverWorld F S M
  server : SSCMockingServer
  posted : ℕ
  delivered : ℕ
  acked : ℕ

namespace EndToEnd

/-- The application or the main loop does something or a send times out, a request
of the library reaches the server, the server or another client does something, or
what has been on its way to the library longest arrives. -/
inductive Action where
  | user (a : Driver.Action)
  | post
  | server (a : SSCMockingServer.Action)
  | deliver
deriving DecidableEq, Repr

/-- What comes from the application or the main loop, and not from the server. So
does the error of a send that has timed out. -/
def isLocal : Driver.Action → Bool
  | .sendReady _ error => error.isSome
  | .report _ => false
  | _ => true

/-- The request whose send times out. -/
def timedOut : Driver.Action → Option ℕ
  | .sendReady i _ => some i
  | _ => none

/-- No send times out. -/
def InTime : Action → Prop
  | .user a => timedOut a = none
  | _ => True

/-- The actions of the server and of the clients other than `c`. -/
def isOthers (c : QrtrAddress) : SSCMockingServer.Action → Bool
  | .request d _ => decide (d ≠ c)
  | _ => true

/-- A process that is gone does nothing any more. The acknowledgement of a request
whose send has timed out is dropped. -/
def act (d : Driver F S M) (pb : Protobuf F) (wire : MeasurementWire F)
    (data : List (MeasuredEntry F)) (c : QrtrAddress) (x : EndToEnd F S M) :
    Action → Option (EndToEnd F S M)
  | .user a =>
      if isLocal a ∧ x.world.aborted = false then
        (d.act pb x.world a).map (fun w => { x with world := w })
      else none
  | .post =>
      match x.world.sensor.sent[x.posted]? with
      | none => none
      | some q =>
          (x.server.act wire data
            (.request c (wire.pack q.uid q.msgId q.protobuf))).map
            (fun s => { x with server := s, posted := x.posted + 1 })
  | .server a =>
      if isOthers c a then
        (x.server.act wire data a).map (fun s => { x with server := s })
      else none
  | .deliver =>
      if x.world.aborted then none
      else
        match (x.server.sentTo c)[x.delivered]? with
        | none => none
        | some .controlOutput =>
            if x.acked ∈ x.world.sensor.unready then
              (d.act pb x.world (.sendReady x.acked none)).map
                (fun w => { x with
                  world := w
                  delivered := x.delivered + 1
                  acked := x.acked + 1 })
            else
              some { x with
                delivered := x.delivered + 1
                acked := x.acked + 1 }
        | some (.reportLarge buf) =>
            some { x with
              world := Client.indicationReceived pb (d.emitReport pb)
                (.large (some buf)) x.world
              delivered := x.delivered + 1 }

variable {d : Driver F S M} {pb : Protobuf F} {wire : MeasurementWire F}
  {data : List (MeasuredEntry F)} {c : QrtrAddress} {x x' : EndToEnd F S M}

/-- What an action does. -/
inductive Step (d : Driver F S M) (pb : Protobuf F) (wire : MeasurementWire F)
    (data : List (MeasuredEntry F)) (c : QrtrAddress) (x : EndToEnd F S M) :
    Action → EndToEnd F S M → Prop where
  | user {a : Driver.Action} {w : DriverWorld F S M} (ha : isLocal a = true)
      (hsafe : x.world.aborted = false) (hw : d.act pb x.world a = some w) :
      Step d pb wire data c x (.user a) { x with world := w }
  | post {q : Request F} {s : SSCMockingServer}
      (hq : x.world.sensor.sent[x.posted]? = some q)
      (hs : x.server.act wire data
        (.request c (wire.pack q.uid q.msgId q.protobuf)) = some s) :
      Step d pb wire data c x .post
        { x with server := s, posted := x.posted + 1 }
  | server {a : SSCMockingServer.Action} {s : SSCMockingServer}
      (ha : isOthers c a = true) (hs : x.server.act wire data a = some s) :
      Step d pb wire data c x (.server a) { x with server := s }
  | ready {w : DriverWorld F S M} (hsafe : x.world.aborted = false)
      (hsent : (x.server.sentTo c)[x.delivered]? = some .controlOutput)
      (hw : d.act pb x.world (.sendReady x.acked none) = some w) :
      Step d pb wire data c x .deliver { x with
        world := w
        delivered := x.delivered + 1
        acked := x.acked + 1 }
  | late (hsafe : x.world.aborted = false)
      (hsent : (x.server.sentTo c)[x.delivered]? = some .controlOutput)
      (hlate : x.acked ∉ x.world.sensor.unready) :
      Step d pb wire data c x .deliver { x with
        delivered := x.delivered + 1
        acked := x.acked + 1 }
  | indication {buf : GArray} (hsafe : x.world.aborted = false)
      (hsent : (x.server.sentTo c)[x.delivered]? = some (.reportLarge buf)) :
      Step d pb wire data c x .deliver { x with
        world := Client.indicationReceived pb (d.emitReport pb)
          (.large (some buf)) x.world
        delivered := x.delivered + 1 }

theorem step_of_act {a : Action} (h : x.act d pb wire data c a = some x') :
    Step d pb wire data c x a x' := by
  cases a with
  | user a =>
      simp only [act] at h
      split_ifs at h with ha
      obtain ⟨w, hw, rfl⟩ := Option.map_eq_some_iff.mp h
      exact .user ha.1 ha.2 hw
  | post =>
      simp only [act] at h
      split at h
      · exact absurd h (by simp)
      · rename_i q hq
        obtain ⟨s, hs, rfl⟩ := Option.map_eq_some_iff.mp h
        exact .post hq hs
  | server a =>
      simp only [act] at h
      split_ifs at h with ha
      obtain ⟨s, hs, rfl⟩ := Option.map_eq_some_iff.mp h
      exact .server ha hs
  | deliver =>
      have hsafe : x.world.aborted = false := by
        cases haborted : x.world.aborted with
        | false => rfl
        | true => exact absurd h (by simp [act, haborted])
      simp only [act, hsafe, Bool.false_eq_true, if_false] at h
      split at h
      · exact absurd h (by simp)
      · rename_i hsent
        split_ifs at h with hready
        · obtain ⟨w, hw, rfl⟩ := Option.map_eq_some_iff.mp h
          exact .ready hsafe hsent hw
        · obtain rfl := Option.some.inj h
          exact .late hsafe hsent hready
      · rename_i buf hsent
        obtain rfl := Option.some.inj h
        exact .indication hsafe hsent

/-! ## An indication -/

/-- What the arrival of a measurement comes to. -/
structure Arrived {d : Driver F S M} (src : Source d) (m : Measurement F)
    (w w' : DriverWorld F S M) : Prop where
  own : w'.sensor.OwnId
  settings : w'.sensor.settings = w.sensor.settings
  driverHandlers : w'.sensor.driverHandlers = w.sensor.driverHandlers
  observed : w.sensor.OneDriver → Driver.progress w' =
    Driver.progressAfter w (src.react w.sensor.priv.mountMatrix w.state m)
  unobserved : w.sensor.driverHandlers = [] →
    Driver.progress w' = Driver.progress w

/-- No measurement of the entry is sent as a response. -/
def StreamedEntry (entry : MeasuredEntry F) : Prop :=
  ∀ m ∈ entry.measurements, ∀ msgId, Server.fixed32Item m "id" = .ok msgId →
    msgId ≠ SSC_MSG_RESPONSE_SUID ∧ msgId ≠ SSC_MSG_RESPONSE_GET_ATTRIBUTES

omit [GFloat F] in
/-- For a table that is at hand this can be evaluated. -/
theorem streamedEntry_of_forall {entry : MeasuredEntry F}
    (h : ∀ m ∈ entry.measurements, (Server.fixed32Item m "id").toOption.all
      (fun msgId => msgId ≠ SSC_MSG_RESPONSE_SUID ∧
        msgId ≠ SSC_MSG_RESPONSE_GET_ATTRIBUTES) = true) :
    StreamedEntry entry := by
  intro m hm msgId hid
  have hall := h m hm
  rw [hid] at hall
  simpa [Except.toOption] using hall

theorem arrived_indicationReceived (src : Source d)
    (hlossless : MeasurementLossless pb wire) {entry : MeasuredEntry F}
    {m : Measurement F} (hstreamed : StreamedEntry entry) (hm : m ∈ entry.measurements)
    {w : DriverWorld F S M} {buf : GArray} (hown : w.sensor.OwnId)
    (hbuf : Server.measurementMessage wire w.sensor.priv.uid d.dataType m = .ok buf) :
    Arrived src m w (Client.indicationReceived pb (d.emitReport pb)
      (.large (some buf)) w) := by
  obtain ⟨r, huid, hid, hbodies, hreact⟩ := src.measure_eq hlossless hbuf
  have hr : r.Streamed := by
    obtain ⟨hsuid, hattr⟩ := hstreamed m hm r.msgId hid
    exact ⟨hsuid, hattr⟩
  have heq : Client.indicationReceived pb (d.emitReport pb) (.large (some buf)) w =
      d.emitReport pb r w := by
    rw [Client.indicationReceived_eq, hbodies]
    rfl
  rw [heq]
  constructor
  case own =>
    rw [Driver.emitReport_sensor]
    exact Sensor.ownId_emitReport hown r
  case settings =>
    rw [Driver.emitReport_sensor]
    exact Sensor.settings_emitReport hr
  case driverHandlers =>
    rw [Driver.emitReport_sensor]
    exact Sensor.driverHandlers_emitReport hown r
  case observed =>
    exact fun hone => Driver.progress_emitReport
      (fun matrix s => src.react matrix s m) hr hown hone huid hreact
  case unobserved => exact Driver.progress_unobserved

/-! ## The invariant -/

/-- The data that have arrived since the channel had delivered `n` things. -/
def arrived (c : QrtrAddress) (n : ℕ) (x : EndToEnd F S M) : List GArray :=
  (((x.server.sentTo c).take x.delivered).drop n).filterMap Outgoing.report

/-- The application has not opened the driver, the channels are empty, and the
server does not know the library. -/
structure Ready (c : QrtrAddress) (x : EndToEnd F S M) : Prop where
  own : x.world.sensor.OwnId
  unopened : x.world.sensor.driverHandlers = []
  posted : x.posted = x.world.sensor.sent.length
  delivered : x.delivered = (x.server.sentTo c).length
  entered : x.server.Entered
  processes : x.server.processesOf c = []
  inbox : ∀ m, (c, m) ∉ x.server.inbox

/-- Since the start `x₀` the application has opened the driver once, and the
driver has sent one request at most that enables the sensor. -/
structure Opened (wire : MeasurementWire F) (data : List (MeasuredEntry F))
    (c : QrtrAddress) (x₀ x : EndToEnd F S M) : Prop where
  own : x.world.sensor.OwnId
  uid : x.world.sensor.priv.uid = x₀.world.sensor.priv.uid
  matrix : x.world.sensor.priv.mountMatrix = x₀.world.sensor.priv.mountMatrix
  connected : x.world.sensor.OneDriver ∨ x.world.sensor.driverHandlers = []
  requests : ∃ qs, x.world.sensor.sent = x₀.world.sensor.sent ++ qs ∧
    (∀ q ∈ qs, q.Switches x₀.world.sensor.priv.uid) ∧
    qs.countP Request.enables ≤ 1
  posted_ge : x₀.posted ≤ x.posted
  posted_le : x.posted ≤ x.world.sensor.sent.length
  subscribed : SSCMockingServer.Subscribed wire data c x₀.world.sensor.priv.uid
    (x₀.server.reportsTo c)
    (((x.world.sensor.sent.take x.posted).drop x₀.posted).countP Request.enables)
    x.server
  sent : x₀.server.sentTo c <+: x.server.sentTo c
  delivered_ge : x₀.delivered ≤ x.delivered
  delivered_le : x.delivered ≤ (x.server.sentTo c).length

section Invariant

omit [GFloat F]

variable {x₀ : EndToEnd F S M}

/-- What has been posted are requests that the driver has sent since. -/
theorem posted_sublist (hready : Ready c x₀) (h : Opened wire data c x₀ x)
    {qs : List (Request F)} (hqs : x.world.sensor.sent =
      x₀.world.sensor.sent ++ qs) :
    (x.world.sensor.sent.take x.posted).drop x₀.posted =
      qs.take (x.posted - x₀.posted) := by
  have hge := h.posted_ge
  rw [List.drop_take, hqs, hready.posted, List.drop_left]

/-- Of the requests posted at most one enables the sensor. -/
theorem posted_le_one (hready : Ready c x₀) (h : Opened wire data c x₀ x) :
    ((x.world.sensor.sent.take x.posted).drop x₀.posted).countP
      Request.enables ≤ 1 := by
  obtain ⟨qs, hqs, -, hone⟩ := h.requests
  rw [posted_sublist hready h hqs]
  exact ((List.take_sublist _ _).countP_le).trans hone

/-- Something happens to the driver, and the channel delivers one thing at most. -/
theorem opened_world (h : Opened wire data c x₀ x)
    (hserver : x'.server = x.server) (hposted : x'.posted = x.posted)
    (hge : x.delivered ≤ x'.delivered)
    (hle : x'.delivered ≤ (x.server.sentTo c).length)
    (hown : x'.world.sensor.OwnId)
    (huid : x'.world.sensor.priv.uid = x.world.sensor.priv.uid)
    (hmatrix : x'.world.sensor.priv.mountMatrix = x.world.sensor.priv.mountMatrix)
    (hdrivers : x'.world.sensor.driverHandlers.Sublist x.world.sensor.driverHandlers)
    (hsent : ∃ qs, x'.world.sensor.sent = x.world.sensor.sent ++ qs ∧
      ∀ q ∈ qs, q.Switches x.world.sensor.priv.uid ∧ q.enables = false) :
    Opened wire data c x₀ x' := by
  obtain ⟨new, hnew, hdisable⟩ := hsent
  have htake : x'.world.sensor.sent.take x'.posted =
      x.world.sensor.sent.take x.posted := by
    rw [hnew, hposted, List.take_append_of_le_length h.posted_le]
  constructor
  case own => exact hown
  case uid => exact huid.trans h.uid
  case matrix => exact hmatrix.trans h.matrix
  case connected =>
    rcases h.connected with ⟨id, hid⟩ | hnone
    · rw [hid] at hdrivers
      rcases List.sublist_singleton.mp hdrivers with hnil | hone
      · exact Or.inr hnil
      · exact Or.inl ⟨id, hone⟩
    · rw [hnone] at hdrivers
      exact Or.inr (List.sublist_nil.mp hdrivers)
  case requests =>
    obtain ⟨qs, hqs, hswitches, hone⟩ := h.requests
    refine ⟨qs ++ new, by rw [hnew, hqs, List.append_assoc], ?_, ?_⟩
    · intro q hq
      rcases List.mem_append.mp hq with hold | hq
      · exact hswitches q hold
      · rw [← h.uid]
        exact (hdisable q hq).1
    · have hzero : new.countP Request.enables = 0 := by
        rw [List.countP_eq_zero]
        intro q hq
        simp [(hdisable q hq).2]
      rw [List.countP_append, hzero]
      exact hone
  case posted_ge =>
    rw [hposted]
    exact h.posted_ge
  case posted_le =>
    rw [hposted, hnew, List.length_append]
    exact h.posted_le.trans (Nat.le_add_right _ _)
  case subscribed =>
    rw [htake, hserver]
    exact h.subscribed
  case sent =>
    rw [hserver]
    exact h.sent
  case delivered_ge => exact h.delivered_ge.trans hge
  case delivered_le =>
    rw [hserver]
    exact hle

/-- What is posted enables or disables the sensor. -/
theorem switches_posted (hready : Ready c x₀) (h : Opened wire data c x₀ x)
    {q : Request F} (hq : x.world.sensor.sent[x.posted]? = some q) :
    q.Switches x₀.world.sensor.priv.uid := by
  obtain ⟨qs, hqs, hswitches, -⟩ := h.requests
  apply hswitches
  rw [hqs, List.getElem?_append_right (hready.posted ▸ h.posted_ge)] at hq
  exact List.mem_of_getElem? hq

/-- A request of the driver reaches the server. -/
theorem opened_post (hlossless : Lossless pb wire.toWire) (hready : Ready c x₀)
    (h : Opened wire data c x₀ x) {q : Request F} {s : SSCMockingServer}
    (hq : x.world.sensor.sent[x.posted]? = some q)
    (hs : x.server.act wire data
      (.request c (wire.pack q.uid q.msgId q.protobuf)) = some s) :
    Opened wire data c x₀ { x with server := s, posted := x.posted + 1 } := by
  obtain ⟨hlt, -⟩ := List.getElem?_eq_some_iff.mp hq
  have hpack : SSCMockingServer.switches wire.toWire
      (wire.pack q.uid q.msgId q.protobuf) =
        some (x₀.world.sensor.priv.uid, q.enables) :=
    switches_pack hlossless (switches_posted hready h hq)
  have hposted : (x.world.sensor.sent.take (x.posted + 1)).drop x₀.posted =
      (x.world.sensor.sent.take x.posted).drop x₀.posted ++ [q] := by
    rw [List.take_add_one, hq, List.drop_append_of_le_length]
    · rfl
    · rw [List.length_take_of_le h.posted_le]
      exact h.posted_ge
  refine { h with
    posted_ge := h.posted_ge.trans (Nat.le_succ _)
    posted_le := hlt
    subscribed := ?_
    sent := h.sent.trans (SSCMockingServer.sentTo_prefix hs)
    delivered_le := h.delivered_le.trans
      (SSCMockingServer.sentTo_prefix hs).length_le }
  have hstep := SSCMockingServer.subscribed_step h.subscribed (by
    intro p hp _
    obtain rfl := Option.some.inj hp
    exact ⟨_, hpack⟩) hs
  rw [hposted, List.countP_append]
  have henabling : SSCMockingServer.enabling wire.toWire c
      (SSCMockingServer.requestIn
        (.request c (wire.pack q.uid q.msgId q.protobuf))).toList =
        [q].countP Request.enables := by
    simp [SSCMockingServer.enabling, SSCMockingServer.requestIn,
      List.countP_singleton, SSCMockingServer.enables_of_switches hpack]
  rw [henabling] at hstep
  exact hstep

/-- The server or another client does something. -/
theorem opened_server (h : Opened wire data c x₀ x)
    {a : SSCMockingServer.Action} {s : SSCMockingServer}
    (ha : isOthers c a = true) (hs : x.server.act wire data a = some s) :
    Opened wire data c x₀ { x with server := s } := by
  refine { h with
    subscribed := ?_
    sent := h.sent.trans (SSCMockingServer.sentTo_prefix hs)
    delivered_le := h.delivered_le.trans
      (SSCMockingServer.sentTo_prefix hs).length_le }
  cases a with
  | request d message =>
      have hd : d ≠ c := by simpa [isOthers] using ha
      have hstep := SSCMockingServer.subscribed_step h.subscribed (by
        rintro p hp rfl
        obtain rfl := Option.some.inj hp
        exact absurd rfl hd) hs
      have hzero : SSCMockingServer.enabling wire.toWire c
          (SSCMockingServer.requestIn (.request d message)).toList = 0 := by
        simp [SSCMockingServer.enabling, SSCMockingServer.requestIn, hd]
      rw [hzero] at hstep
      exact hstep
  | _ =>
      exact SSCMockingServer.subscribed_step h.subscribed
        (fun q hq => absurd hq (by simp [SSCMockingServer.requestIn])) hs

/-! ## What arrives -/

/-- Reading on in a list that is read through a filter. -/
theorem filterMap_take_succ {α β : Type} {f : α → Option β} {l : List α} {k : ℕ}
    {a : α} (ha : l[k]? = some a) :
    (l.take (k + 1)).filterMap f = (l.take k).filterMap f ++ (f a).toList := by
  rw [List.take_add_one, ha, List.filterMap_append]
  cases hfa : f a <;> simp [hfa]

theorem getElem?_filterMap_take {α β : Type} {f : α → Option β} {l : List α}
    {k : ℕ} {a : α} {b : β} (ha : l[k]? = some a) (hb : f a = some b) :
    (l.filterMap f)[((l.take k).filterMap f).length]? = some b := by
  have hprefix : (l.take (k + 1)).filterMap f <+: l.filterMap f :=
    (List.take_prefix _ _).filterMap f
  rw [filterMap_take_succ ha, hb] at hprefix
  obtain ⟨rest, hrest⟩ := hprefix
  rw [← hrest]
  simp

/-- What the channel has delivered next. -/
theorem arrived_deliver (h : Opened wire data c x₀ x) {o : Outgoing}
    (ho : (x.server.sentTo c)[x.delivered]? = some o)
    (hserver : x'.server = x.server) (hdelivered : x'.delivered = x.delivered + 1) :
    x'.arrived c x₀.delivered = x.arrived c x₀.delivered ++ o.report.toList := by
  unfold arrived
  rw [hserver, hdelivered, List.take_add_one, ho, List.drop_append_of_le_length,
    List.filterMap_append]
  · cases hr : o.report <;> simp [hr]
  · rw [List.length_take_of_le h.delivered_le]
    exact h.delivered_ge

/-- The server only adds to what it has sent. -/
theorem arrived_server (h : Opened wire data c x₀ x)
    (hsent : x.server.sentTo c <+: x'.server.sentTo c)
    (hdelivered : x'.delivered = x.delivered) :
    x'.arrived c x₀.delivered = x.arrived c x₀.delivered := by
  obtain ⟨more, hmore⟩ := hsent
  unfold arrived
  rw [← hmore, hdelivered, List.take_append_of_le_length h.delivered_le]

/-- **An indication that arrives is the measurement that is next in turn.** -/
theorem inTurn_of_delivered (hready : Ready c x₀)
    (h : Opened wire data c x₀ x) {buf : GArray}
    (hbuf : (x.server.sentTo c)[x.delivered]? = some (.reportLarge buf)) :
    Server.InTurn wire data x₀.world.sensor.priv.uid
      (x.arrived c x₀.delivered).length buf := by
  obtain ⟨l, hl, hsession⟩ := h.subscribed.session (posted_le_one hready h)
  obtain ⟨more, hmore⟩ := h.sent
  -- since the start the server has sent `more`, with the data `l`
  have hreports : more.filterMap Outgoing.report = l := by
    unfold SSCMockingServer.reportsTo at hl
    rw [← hmore, List.filterMap_append] at hl
    exact List.append_cancel_left hl
  have hge : (x₀.server.sentTo c).length ≤ x.delivered := by
    rw [← hready.delivered]
    exact h.delivered_ge
  apply hsession
  rw [← hreports]
  unfold arrived
  rw [← hmore, hready.delivered, List.drop_take, List.drop_left]
  apply getElem?_filterMap_take (a := .reportLarge buf)
  · rw [← List.getElem?_append_right hge, hmore]
    exact hbuf
  · rfl

end Invariant

/-! ## What the driver reacts to -/

variable {x₀ : EndToEnd F S M}

/-- The driver has reacted to the first measurements of those that have arrived:
all of them, while its handler is connected. If an assertion has failed the process
is gone. -/
def Reacted (src : Source d) (entry : MeasuredEntry F) (c : QrtrAddress)
    (x₀ x : EndToEnd F S M) : Prop :=
  ∃ k ≤ (x.arrived c x₀.delivered).length,
    (match src.after x₀.world.sensor.priv.mountMatrix entry
        (d.opened x₀.world.state) k with
      | none => x.world.aborted = true
      | some (s, ms) => x.world.aborted = false ∧
          Driver.taken x.world = Driver.taken x₀.world ++ ms ∧
          (x.world.sensor.driverHandlers ≠ [] → x.world.state = s)) ∧
    (x.world.sensor.driverHandlers ≠ [] →
      k = (x.arrived c x₀.delivered).length)

omit [GFloat F] in
/-- What takes nothing and lets nothing arrive. -/
theorem reacted_of_same {src : Source d} {entry : MeasuredEntry F}
    (h : Reacted src entry c x₀ x)
    (harrived : x'.arrived c x₀.delivered = x.arrived c x₀.delivered)
    (haborted : x'.world.aborted = x.world.aborted)
    (htaken : Driver.taken x'.world = Driver.taken x.world)
    (hstate : x'.world.state = x.world.state)
    (hdrivers : x'.world.sensor.driverHandlers.Sublist x.world.sensor.driverHandlers) :
    Reacted src entry c x₀ x' := by
  obtain ⟨k, hle, hk, hall⟩ := h
  have hne : x'.world.sensor.driverHandlers ≠ [] →
      x.world.sensor.driverHandlers ≠ [] := by
    intro hne hnil
    rw [hnil] at hdrivers
    exact hne (List.sublist_nil.mp hdrivers)
  unfold Reacted
  rw [harrived, haborted, htaken, hstate]
  refine ⟨k, hle, ?_, fun h' => hall (hne h')⟩
  split at hk
  · exact hk
  · exact ⟨hk.1, hk.2.1, fun h' => hk.2.2 (hne h')⟩

/-- The measurement that is next arrives. -/
theorem reacted_indication {src : Source d} {entry : MeasuredEntry F}
    (hlossless : MeasurementLossless pb wire)
    (hfind : data.find? (fun e => e.uid = x₀.world.sensor.priv.uid) = some entry)
    (hdata : entry.dataType = d.dataType) (hstreamed : StreamedEntry entry)
    (hready : Ready c x₀) (h : Opened wire data c x₀ x)
    (hreacted : Reacted src entry c x₀ x) (hsafe : x.world.aborted = false)
    {buf : GArray} (hbuf : (x.server.sentTo c)[x.delivered]? = some (.reportLarge buf))
    {w : DriverWorld F S M}
    (hw : w = Client.indicationReceived pb (d.emitReport pb)
      (.large (some buf)) x.world) :
    Opened wire data c x₀ { x with world := w, delivered := x.delivered + 1 } ∧
      Reacted src entry c x₀ { x with world := w, delivered := x.delivered + 1 } ∧
      w.sensor.driverHandlers = x.world.sensor.driverHandlers := by
  obtain ⟨entry', m, hfind', hm, hmessage⟩ := inTurn_of_delivered hready h hbuf
  obtain rfl := Option.some.inj (hfind'.symm.trans hfind)
  rw [hdata, ← h.uid] at hmessage
  have hr : Arrived src m x.world w := hw ▸ arrived_indicationReceived src hlossless
    hstreamed (List.mem_of_getElem? hm) h.own hmessage
  have harrived : ({ x with world := w, delivered := x.delivered + 1 } :
      EndToEnd F S M).arrived c x₀.delivered = x.arrived c x₀.delivered ++ [buf] :=
    arrived_deliver h hbuf rfl rfl
  obtain ⟨hlt, -⟩ := List.getElem?_eq_some_iff.mp hbuf
  refine ⟨?_, ?_, hr.driverHandlers⟩
  · refine opened_world h rfl rfl (Nat.le_succ _) hlt hr.own
      (congrArg (·.1) hr.settings) (congrArg (·.2.1) hr.settings) ?_
      ⟨[], ?_, by simp⟩
    · rw [hr.driverHandlers]
    · rw [List.append_nil]
      exact congrArg (·.2.2) hr.settings
  · obtain ⟨k, hle, hk, hall⟩ := hreacted
    unfold Reacted
    rw [harrived, List.length_append]
    cases hafter : src.after x₀.world.sensor.priv.mountMatrix entry'
        (d.opened x₀.world.state) k with
    | none =>
        rw [hafter] at hk
        exact absurd (hsafe.symm.trans hk) (by simp)
    | some p =>
        obtain ⟨s, ms⟩ := p
        rw [hafter] at hk
        obtain ⟨-, htaken, hstate⟩ := hk
        rcases h.connected with hone | hnone
        · -- the handler reacts to it
          have hne : x.world.sensor.driverHandlers ≠ [] := by
            obtain ⟨id, hid⟩ := hone
            rw [hid]
            exact List.cons_ne_nil _ _
          obtain rfl := hall hne
          refine ⟨_, Nat.le_refl _, ?_, fun _ => rfl⟩
          have hobserved := hr.observed hone
          rw [h.matrix, hstate hne] at hobserved
          have hnext : src.after x₀.world.sensor.priv.mountMatrix entry'
              (d.opened x₀.world.state) ((x.arrived c x₀.delivered).length + 1) =
                (src.react x₀.world.sensor.priv.mountMatrix s m).map
                  (fun q => (q.1, ms ++ q.2.toList)) := by
            rw [Source.after, hafter, Option.bind_some, hm]
          rw [List.length_singleton, hnext]
          cases hreact : src.react x₀.world.sensor.priv.mountMatrix s m with
          | none =>
              rw [hreact] at hobserved
              exact congrArg (·.2.2) hobserved
          | some q =>
              rw [hreact] at hobserved
              obtain ⟨hstate', htaken', haborted'⟩ : w.state = q.1 ∧
                  Driver.taken w = Driver.taken x.world ++ q.2.toList ∧
                  w.aborted = x.world.aborted := by
                simpa [Driver.progress, Driver.progressAfter] using hobserved
              rw [htaken, List.append_assoc] at htaken'
              exact ⟨haborted'.trans hsafe, htaken', fun _ => hstate'⟩
        · have hsame := hr.unobserved hnone
          obtain ⟨hstate', htaken', haborted'⟩ : w.state = x.world.state ∧
              Driver.taken w = Driver.taken x.world ∧ w.aborted = x.world.aborted := by
            simpa [Driver.progress] using hsame
          refine ⟨k, hle.trans (Nat.le_add_right _ _), ?_, ?_⟩
          · rw [hafter]
            exact ⟨haborted'.trans hsafe, htaken'.trans htaken, fun hno =>
              absurd (hr.driverHandlers.trans hnone) hno⟩
          · intro hno
            exact absurd (hr.driverHandlers.trans hnone) hno

/-- The open finds everything ready. -/
theorem opened_sensorOpen {src : Source d} {entry : MeasuredEntry F}
    (hready : Ready c x₀)
    (hact : x₀.act d pb wire data c (.user .sensorOpen) = some x) :
    Opened wire data c x₀ x ∧ Reacted src entry c x₀ x ∧
      x.world.sensor.driverHandlers ≠ [] := by
  cases step_of_act hact with
  | user _ hsafe hw =>
      have hdrivers := Driver.driverHandlers_open hw
      rw [hready.unopened, List.nil_append] at hdrivers
      have hown := Driver.ownId_act hready.own hw
      have haborted := Driver.act_aborted hsafe hw
      have hempty : ∀ w, ({ x₀ with world := w } : EndToEnd F S M).arrived c
          x₀.delivered = [] := by
        intro w
        unfold arrived
        rw [List.drop_take, Nat.sub_self]
        rfl
      cases Driver.step_of_act hw with
      | sensorOpen hs =>
          obtain ⟨huid, hmatrix, qs, hqs, hlength, hswitches⟩ :=
            Sensor.sensorOpen_sent hs
          refine ⟨?_, ?_, by rw [hdrivers]; exact List.cons_ne_nil _ _⟩
          · constructor
            case own => exact hown
            case uid => exact huid
            case matrix => exact hmatrix
            case connected => exact Or.inl ⟨_, hdrivers⟩
            case requests =>
              exact ⟨qs, hqs, hswitches, List.countP_le_length.trans hlength⟩
            case posted_ge => exact Nat.le_refl _
            case posted_le =>
              show x₀.posted ≤ _
              rw [hready.posted, hqs, List.length_append]
              exact Nat.le_add_right _ _
            case subscribed =>
              show SSCMockingServer.Subscribed wire data c _ _
                (((List.take x₀.posted _).drop x₀.posted).countP _) x₀.server
              rw [List.drop_take, Nat.sub_self]
              exact SSCMockingServer.subscribed_start hready.entered
                hready.processes hready.inbox
            case sent => exact List.prefix_rfl
            case delivered_ge => exact Nat.le_refl _
            case delivered_le => exact hready.delivered.le
          · unfold Reacted
            rw [hempty]
            exact ⟨0, Nat.le_refl 0,
              ⟨haborted, (List.append_nil _).symm, fun _ => rfl⟩, fun _ => rfl⟩

/-- What may happen after the open: there is no other one, the base sensor is not
initialised or opened behind the driver's back, and `new_finish`, which belongs
to the construction, only comes if it leaves everything as it is. -/
structure Within (d : Driver F S M) (b : Action) : Prop where
  open_ne : b ≠ .user .sensorOpen
  call_ne : ∀ k, b ≠ .user (.call k)
  newFinish : b = .user .newFinish → ∀ s, d.newFinish s = s

/-- What holds in every state of a run after the open. -/
structure Flowing (src : Source d) (entry : MeasuredEntry F)
    (wire : MeasurementWire F) (data : List (MeasuredEntry F)) (c : QrtrAddress)
    (x₀ : EndToEnd F S M) (pre : List Action) (x : EndToEnd F S M) : Prop where
  opened : Opened wire data c x₀ x
  reacted : Reacted src entry c x₀ x
  connected : .user .sensorClose ∉ pre → x.world.sensor.driverHandlers ≠ []

/-- The driver does something and no indication arrives. -/
theorem flowing_world {src : Source d} {entry : MeasuredEntry F}
    {pre : List Action} (h : Flowing src entry wire data c x₀ pre x) {b : Action}
    {a : Driver.Action} {w : DriverWorld F S M} {n k : ℕ}
    (hcall : ∀ k, a ≠ .call k) (hopen : a ≠ .sensorOpen) (hreport : ∀ r, a ≠ .report r)
    (hfinish : a = .newFinish → ∀ s, d.newFinish s = s)
    (hclose : a = .sensorClose → b = .user .sensorClose)
    (hsafe : x.world.aborted = false) (hw : d.act pb x.world a = some w)
    (hge : x.delivered ≤ n) (hle : n ≤ (x.server.sentTo c).length)
    (harrived : ({ x with world := w, delivered := n, acked := k } :
      EndToEnd F S M).arrived c x₀.delivered = x.arrived c x₀.delivered) :
    Flowing src entry wire data c x₀ (pre ++ [b])
      { x with world := w, delivered := n, acked := k } := by
  obtain ⟨hsame, hpriv, hsent⟩ := Driver.act_aside hcall hopen hreport hw
  have hsub := Driver.driverHandlers_act hopen hw
  constructor
  case opened =>
    exact opened_world h.opened rfl rfl hge hle (Driver.ownId_act h.opened.own hw)
      (by rw [hpriv]) (by rw [hpriv]) hsub hsent
  case reacted =>
    exact reacted_of_same h.reacted harrived
      ((Driver.act_aborted hsafe hw).trans hsafe.symm) hsame
      (Driver.act_state_aside hopen hreport hfinish hw) hsub
  case connected =>
    rw [List.mem_append, List.mem_singleton, not_or]
    rintro ⟨hpre, hb⟩
    have hkept := Driver.driverHandlers_aside hcall hopen hreport
      (fun ha => hb (hclose ha).symm) hw
    show w.sensor.driverHandlers ≠ []
    rw [hkept]
    exact h.connected hpre

/-- **Whatever happens, what has been reacted to stays the beginning of the
table.** -/
theorem flowing_step {src : Source d} {entry : MeasuredEntry F}
    (hlossless : MeasurementLossless pb wire)
    (hfind : data.find? (fun e => e.uid = x₀.world.sensor.priv.uid) = some entry)
    (hdata : entry.dataType = d.dataType) (hstreamed : StreamedEntry entry)
    (hready : Ready c x₀) {pre : List Action} {b : Action}
    (h : Flowing src entry wire data c x₀ pre x) (hwithin : Within d b)
    (hstep : Step d pb wire data c x b x') :
    Flowing src entry wire data c x₀ (pre ++ [b]) x' := by
  have hpre : ∀ {P : Prop}, (.user .sensorClose ∉ pre → P) →
      .user .sensorClose ∉ pre ++ [b] → P :=
    fun hP hmem => hP fun hin => hmem (List.mem_append_left _ hin)
  cases hstep with
  | @user a w ha hsafe hw =>
      refine flowing_world h (fun k hk => hwithin.call_ne k (hk ▸ rfl))
        (fun hk => hwithin.open_ne (hk ▸ rfl)) ?_
        (fun hk => hwithin.newFinish (hk ▸ rfl)) (fun hk => hk ▸ rfl) hsafe hw
        (Nat.le_refl _) h.opened.delivered_le rfl
      rintro r rfl
      exact absurd ha (by simp [isLocal])
  | post hq hs =>
      exact ⟨opened_post hlossless.toLossless hready h.opened hq hs,
        reacted_of_same h.reacted (arrived_server h.opened
          (SSCMockingServer.sentTo_prefix hs) rfl) rfl rfl rfl (List.Sublist.refl _),
        hpre h.connected⟩
  | server ha hs =>
      exact ⟨opened_server h.opened ha hs,
        reacted_of_same h.reacted (arrived_server h.opened
          (SSCMockingServer.sentTo_prefix hs) rfl) rfl rfl rfl (List.Sublist.refl _),
        hpre h.connected⟩
  | ready hsafe hsent hw =>
      obtain ⟨hlt, -⟩ := List.getElem?_eq_some_iff.mp hsent
      refine flowing_world h (by simp) (by simp) (by simp) (by simp) (by simp) hsafe hw
        (Nat.le_succ _) hlt ?_
      have harrived : ({ x with delivered := x.delivered + 1 } :
          EndToEnd F S M).arrived c x₀.delivered =
            x.arrived c x₀.delivered ++ [] := arrived_deliver h.opened hsent rfl rfl
      exact harrived.trans (List.append_nil _)
  | late hsafe hsent _ =>
      obtain ⟨hlt, -⟩ := List.getElem?_eq_some_iff.mp hsent
      have harrived : ({ x with
          delivered := x.delivered + 1
          acked := x.acked + 1 } : EndToEnd F S M).arrived c x₀.delivered =
            x.arrived c x₀.delivered ++ [] := arrived_deliver h.opened hsent rfl rfl
      exact ⟨opened_world h.opened rfl rfl (Nat.le_succ _) hlt h.opened.own rfl rfl
          (List.Sublist.refl _) ⟨[], (List.append_nil _).symm, by simp⟩,
        reacted_of_same h.reacted (harrived.trans (List.append_nil _)) rfl rfl rfl
          (List.Sublist.refl _),
        hpre h.connected⟩
  | indication hsafe hbuf =>
      obtain ⟨hopened, hreacted, hdrivers⟩ := reacted_indication hlossless hfind hdata
        hstreamed hready h.opened h.reacted hsafe hbuf rfl
      refine ⟨hopened, hreacted, hpre fun hnot => ?_⟩
      intro hnil
      exact h.connected hnot (hdrivers.symm.trans hnil)

/-- So it is after any run that begins with the open and has no other. -/
theorem flowing_run (src : Source d) {entry : MeasuredEntry F}
    (hlossless : MeasurementLossless pb wire)
    (hfind : data.find? (fun e => e.uid = x₀.world.sensor.priv.uid) = some entry)
    (hdata : entry.dataType = d.dataType) (hstreamed : StreamedEntry entry)
    (hready : Ready c x₀) {bs : List Action} (hwithin : ∀ b ∈ bs, Within d b)
    (hrun : exec (act d pb wire data c) x₀ (.user .sensorOpen :: bs) = some x) :
    Flowing src entry wire data c x₀ bs x := by
  obtain ⟨x₁, hopen, hbs⟩ := exec_cons.mp hrun
  have hscope : StepsMeet (act d pb wire data c) x₁ (fun _ _ b => Within d b) bs :=
    fun pre b hpre _ _ => hwithin b (hpre.subset (by simp))
  have hinv : Always (act d pb wire data c) x₁
      (Flowing src entry wire data c x₀) bs := by
    obtain ⟨hopened, hreacted, hconnected⟩ := opened_sensorOpen hready hopen
    refine always_of_stepsMeet ⟨hopened, hreacted, fun _ => hconnected⟩ ?_ hscope
    rintro pre v b v' hv hb hact
    exact flowing_step hlossless hfind hdata hstreamed hready hv hb (step_of_act hact)
  exact hinv.last hbs

/-! ## The measurements get through -/

/-- Nothing is in the way of an open: the sensor can be opened, the server runs, has
nothing to do, and nobody uses the sensor, whose measurements can all be sent. -/
structure Unhindered (wire : MeasurementWire F) (data : List (MeasuredEntry F))
    (c : QrtrAddress) (x₀ : EndToEnd F S M) : Prop extends Ready c x₀ where
  client : x₀.world.sensor.priv.client = true
  available : x₀.world.sensor.priv.available = true
  streamType : x₀.world.sensor.priv.streamType = SSC_STREAM_TYPE_ON_CHANGE ∨
    x₀.world.sensor.priv.streamType = SSC_STREAM_TYPE_CONTINUOUS ∧
      GFloat.le x₀.world.sensor.priv.sampleRate GFloat.zero = false
  idle : x₀.world.idle = []
  running : x₀.world.aborted = false
  acked : x₀.acked = x₀.world.sensor.sent.length
  exited : x₀.server.exited = false
  waiting : x₀.server.inbox = []
  gone : c ∉ x₀.server.gone
  unused : x₀.server.workers.lookup x₀.world.sensor.priv.uid = none
  measurements : Server.HasMeasurements wire data x₀.world.sensor.priv.uid
  fits : Server.MeasurementsFit wire data x₀.world.sensor.priv.uid

/-- The process of the library runs, everything sent has arrived, and the
application has got all of it. -/
structure Settled (c : QrtrAddress) (u : SscUid) (i : ℕ) (x : EndToEnd F S M) :
    Prop where
  process : ∃ w, x.server.processes[i]? = some w ∧ w.running = true ∧
    w.client = c ∧ w.uid = u
  gone : c ∉ x.server.gone
  delivered : x.delivered = (x.server.sentTo c).length
  idle : x.world.idle = []
  running : x.world.aborted = false

/-- The idle sources run. -/
theorem drain_user (d : Driver F S M) (pb : Protobuf F)
    (wire : MeasurementWire F) (data : List (MeasuredEntry F)) (c : QrtrAddress)
    (x : EndToEnd F S M) (hrunning : x.world.aborted = false) : ∃ w,
      exec (act d pb wire data c) x
        (List.replicate x.world.idle.length (.user .idle)) =
          some { x with world := w } ∧ w.idle = [] ∧ w.aborted = false := by
  generalize hidle : x.world.idle = ms
  induction ms generalizing x with
  | nil => exact ⟨x.world, rfl, hidle, hrunning⟩
  | cons m ms ih =>
      have hact : x.act d pb wire data c (.user .idle) = some { x with
          world := { x.world with
            idle := ms
            measurements := x.world.measurements ++ [m] } } := by
        simp [act, isLocal, Driver.act, Driver.emitSignal, hidle, hrunning]
      obtain ⟨w, hw, hnil⟩ := ih { x with
        world := { x.world with
          idle := ms
          measurements := x.world.measurements ++ [m] } } hrunning rfl
      exact ⟨w, exec_cons.mpr ⟨_, hact, hw⟩, hnil⟩

/-- One more measurement is sent, arrives and is emitted, if it does not end the
process. -/
theorem exists_round {u : SscUid} {i : ℕ}
    (hmeasurements : Server.HasMeasurements wire data u)
    (hfits : Server.MeasurementsFit wire data u) (h : Settled c u i x)
    (hnext : ∀ x', exec (act d pb wire data c) x [.server (.measure i), .deliver] =
      some x' → x'.world.aborted = false) :
    ∃ m x', exec (act d pb wire data c) x
        (.server (.measure i) :: .deliver :: List.replicate m (.user .idle)) =
          some x' ∧ Settled c u i x' ∧
      ∃ buf, x'.server.sentTo c = x.server.sentTo c ++ [.reportLarge buf] := by
  obtain ⟨w, hw, hrunning, rfl, rfl⟩ := h.process
  obtain ⟨buf, hbuf⟩ := Server.generate_of_hasMeasurements hmeasurements w.index
  have hmeasure : x.server.act wire data (.measure i) = some
      { x.server.sendto w.client (.reportLarge buf) with
        processes := x.server.processes.modify i
          (fun w => { w with index := w.index + 1 }) } := by
    simp only [SSCMockingServer.act, hw, if_pos hrunning]
    unfold SSCMockingServer.sensorMeasurement
    rw [hbuf]
    simp only [Server.reportLargeIndication_of_fits
      (Server.dataFits_of_generate hfits hbuf), if_neg h.gone]
  generalize hs : ({ x.server.sendto w.client (.reportLarge buf) with
    processes := x.server.processes.modify i
      (fun w => { w with index := w.index + 1 }) } : SSCMockingServer) = s at hmeasure
  have hsent : s.sentTo w.client =
      x.server.sentTo w.client ++ [.reportLarge buf] := by
    rw [← hs]
    exact (SSCMockingServer.sentTo_sendto _).trans (by rw [if_pos rfl])
  have hdeliver : (s.sentTo w.client)[x.delivered]? = some (.reportLarge buf) := by
    rw [hsent, h.delivered]
    simp
  have hserved : x.act d pb wire data w.client (.server (.measure i)) =
      some { x with server := s } := by
    simp [act, isOthers, hmeasure]
  have hdelivered : ({ x with server := s } : EndToEnd F S M).act d pb wire data
      w.client .deliver = some { x with
        server := s
        world := Client.indicationReceived pb (d.emitReport pb)
          (.large (some buf)) x.world
        delivered := x.delivered + 1 } := by
    simp [act, hdeliver, h.running]
  have hsafe := hnext _
    (exec_cons.mpr ⟨_, hserved, exec_cons.mpr ⟨_, hdelivered, rfl⟩⟩)
  obtain ⟨v, hv, hidle, hsafe'⟩ := drain_user d pb wire data w.client _ hsafe
  refine ⟨_, _, exec_cons.mpr ⟨_, hserved, exec_cons.mpr ⟨_, hdelivered, hv⟩⟩, ?_,
    buf, hsent⟩
  · constructor
    case process =>
      refine ⟨{ w with index := w.index + 1 }, ?_, hrunning, rfl, rfl⟩
      rw [← hs]
      exact SSCMockingServer.getElem?_modify_eq_some.mpr
        ⟨w, hw, (if_pos rfl).symm⟩
    case gone =>
      rw [← hs]
      exact h.gone
    case delivered =>
      show x.delivered + 1 = (s.sentTo w.client).length
      rw [hsent, List.length_append, h.delivered]
      rfl
    case idle => exact hidle
    case running => exact hsafe'

omit [GFloat F] in
/-- The server starts a process for the request that enables an unused sensor. -/
theorem exists_enabled (data : List (MeasuredEntry F)) {s : SSCMockingServer}
    {u : SscUid} {message : GArray}
    (hexited : s.exited = false) (hinbox : s.inbox = []) (hc : c ∉ s.gone)
    (hu : s.workers.lookup u = none)
    (hm : SSCMockingServer.switches wire.toWire message = some (u, true)) :
    ∃ s₁ s₂, s.act wire data (.request c message) = some s₁ ∧
      s₁.act wire data .process = some s₂ ∧
      s₂.processes[s.processes.length]? =
        some { uid := u, client := c, index := 0, running := true } ∧
      c ∉ s₂.gone ∧ s₂.sentTo c = s.sentTo c ++ [.controlOutput] := by
  refine ⟨{ s with inbox := s.inbox ++ [(c, message)] },
    (s.acknowledge c []).startWorker u c, by simp [SSCMockingServer.act, hc], ?_, ?_,
    hc, ?_⟩
  · have hreply : Server.replyMsg wire.toWire (data.map MeasuredEntry.toEntry)
        message = .ok (if true then .enable u else .disable u) :=
      SSCMockingServer.replyMsg_of_switches hm
    simp only [SSCMockingServer.act, SSCMockingServer.process, hexited, hinbox,
      List.nil_append, if_neg hc, SSCMockingServer.replyMsg, hreply, if_true,
      SSCMockingServer.acknowledge, SSCMockingServer.sendto, hu,
      Bool.false_eq_true, if_false]
  · exact SSCMockingServer.getElem?_startWorker.mpr (Or.inr ⟨rfl, rfl⟩)
  · exact (SSCMockingServer.sentTo_sendto _).trans (by rw [if_pos rfl]; rfl)

/-- The open gets through, and is acknowledged. -/
theorem exists_settled (hlossless : Lossless pb wire.toWire)
    (h : Unhindered wire data c x₀) : ∃ x,
      exec (act d pb wire data c) x₀
        [.user .sensorOpen, .post, .server .process, .deliver] = some x ∧
      Settled c x₀.world.sensor.priv.uid x₀.server.processes.length x ∧
      x.server.sentTo c = x₀.server.sentTo c ++ [.controlOutput] := by
  obtain ⟨w, q, hopen, hsent, hunready, hswitches, henables⟩ :=
    Sensor.exists_sensorOpen (w := { x₀.world.sensor with
      report := x₀.world.sensor.report.connect .driver })
      (.driver x₀.world.tasks.size) h.available h.streamType
  obtain ⟨v, hv, rfl, hidle⟩ : ∃ v, d.act pb x₀.world .sensorOpen =
      some v ∧ v.sensor = w ∧ v.idle = [] := by
    refine ⟨{ x₀.world with
      state := d.opened x₀.world.state
      tasks := x₀.world.tasks.create .sensorOpen
      clientRefs := x₀.world.clientRefs + 1
      reportId := x₀.world.sensor.report.next
      sensor := w }, ?_, rfl, h.idle⟩
    simp only [Driver.act, h.client, if_true, Driver.sensorOpen, hopen]
    rfl
  have hpack := switches_pack hlossless hswitches
  rw [henables] at hpack
  obtain ⟨s₁, s₂, hs₁, hs₂, hprocess, hgone, hsentTo⟩ :=
    exists_enabled data h.exited h.waiting h.gone h.unused hpack
  have hq : v.sensor.sent[x₀.world.sensor.sent.length]? = some q := by
    rw [hsent]
    simp
  have hready : x₀.world.sensor.sent.length ∈ v.sensor.unready := by
    rw [hunready]
    simp
  have hack : (s₂.sentTo c)[x₀.delivered]? = some .controlOutput := by
    rw [hsentTo, h.delivered]
    simp
  have hrunning := Driver.act_aborted h.running hv
  obtain ⟨v', hv', hidle'⟩ : ∃ v', d.act pb v
      (.sendReady x₀.world.sensor.sent.length none) = some v' ∧ v'.idle = [] := by
    refine ⟨{ v with
      sensor := Sensor.sendReady q.callback none { v.sensor with
        unready := v.sensor.unready.erase x₀.world.sensor.sent.length } },
      ?_, hidle⟩
    simp only [Driver.act, Sensor.step, hq, if_pos hready]
    rfl
  have hopened : x₀.act d pb wire data c (.user .sensorOpen) =
      some { x₀ with world := v } := by
    simp only [act, isLocal, h.running, and_self, if_true, hv]
    rfl
  have hposted : ({ x₀ with world := v } : EndToEnd F S M).act d pb
      wire data c .post =
        some { x₀ with world := v, server := s₁, posted := x₀.posted + 1 } := by
    simp only [act, h.posted, hq, hs₁]
    rfl
  have hprocessed : ({ x₀ with world := v, server := s₁, posted := x₀.posted + 1 } :
      EndToEnd F S M).act d pb wire data c (.server .process) =
        some { x₀ with world := v, server := s₂, posted := x₀.posted + 1 } := by
    simp only [act, isOthers, if_true, hs₂]
    rfl
  have hdelivered : ({ x₀ with world := v, server := s₂, posted := x₀.posted + 1 } :
      EndToEnd F S M).act d pb wire data c .deliver =
        some { x₀ with
          world := v'
          server := s₂
          posted := x₀.posted + 1
          delivered := x₀.delivered + 1
          acked := x₀.acked + 1 } := by
    simp only [act, hrunning, Bool.false_eq_true, if_false, hack, h.acked, hready,
      if_true, hv']
    rfl
  refine ⟨_, exec_cons.mpr ⟨_, hopened, exec_cons.mpr ⟨_, hposted,
    exec_cons.mpr ⟨_, hprocessed, exec_cons.mpr ⟨_, hdelivered, rfl⟩⟩⟩⟩, ?_, hsentTo⟩
  constructor
  case process => exact ⟨_, hprocess, rfl, rfl, rfl⟩
  case gone => exact hgone
  case delivered =>
    show x₀.delivered + 1 = (s₂.sentTo c).length
    rw [hsentTo, List.length_append, h.delivered]
    rfl
  case idle => exact hidle'
  case running => exact Driver.act_aborted hrunning hv'

/-- What keeps an open driver going. -/
def Going (d : Driver F S M) (b : Action) : Prop :=
  Within d b ∧ b ≠ .user .sensorClose

omit [GFloat F] in
theorem going_of_eq {b : Action} (hb : b = .post ∨ (∃ a, b = .server a) ∨
    b = .deliver ∨ b = .user .idle) : Going d b := by
  rcases hb with rfl | ⟨a, rfl⟩ | rfl | rfl
  all_goals exact ⟨⟨by simp, by simp, by simp⟩, by simp⟩

/-- As many measurements as one likes, one after the other, as long as the process
is there. -/
theorem exists_rounds
    (hrunning : ∀ bs x, exec (act d pb wire data c) x₀ (.user .sensorOpen :: bs) =
      some x → (∀ b ∈ bs, Going d b) → x.world.aborted = false)
    {u : SscUid} {i : ℕ} (hmeasurements : Server.HasMeasurements wire data u)
    (hfits : Server.MeasurementsFit wire data u) (n : ℕ) {as : List Action}
    (hx : exec (act d pb wire data c) x₀ (.user .sensorOpen :: as) = some x)
    (has : ∀ b ∈ as, Going d b) (h : Settled c u i x) :
    ∃ bs x', exec (act d pb wire data c) x₀ (.user .sensorOpen :: bs) = some x' ∧
      (∀ b ∈ bs, Going d b) ∧
      Settled c u i x' ∧ ∃ bufs : List GArray, bufs.length = n ∧
        x'.server.sentTo c = x.server.sentTo c ++ bufs.map Outgoing.reportLarge := by
  induction n with
  | zero => exact ⟨as, x, hx, has, h, [], rfl, (List.append_nil _).symm⟩
  | succ n ih =>
      obtain ⟨bs, v, hbs, hgoing, hv, bufs, hlength, hsent⟩ := ih
      have hround : ∀ cs x', exec (act d pb wire data c) v cs = some x' →
          exec (act d pb wire data c) x₀ (.user .sensorOpen :: (bs ++ cs)) =
            some x' :=
        fun cs x' hcs => exec_append.mpr ⟨v, hbs, hcs⟩
      have hnew : ∀ m, ∀ b ∈ bs ++ (.server (.measure i) :: .deliver ::
          List.replicate m (.user .idle)), Going d b := by
        intro m b hb
        rcases List.mem_append.mp hb with hold | hnew
        · exact hgoing b hold
        · rcases List.mem_cons.mp hnew with rfl | hnew
          · exact going_of_eq (Or.inr (Or.inl ⟨_, rfl⟩))
          · rcases List.mem_cons.mp hnew with rfl | hnew
            · exact going_of_eq (Or.inr (Or.inr (Or.inl rfl)))
            · obtain rfl := List.eq_of_mem_replicate hnew
              exact going_of_eq (Or.inr (Or.inr (Or.inr rfl)))
      obtain ⟨m, x', hx', hsettled, buf, hbuf⟩ := exists_round hmeasurements hfits hv
        (fun x' hx' => hrunning _ x' (hround _ x' hx') (hnew 0))
      refine ⟨_, x', hround _ x' hx', hnew m, hsettled, bufs ++ [buf], ?_, ?_⟩
      · rw [List.length_append, hlength]
        rfl
      · rw [hbuf, hsent, List.append_assoc, List.map_append]
        rfl

/-- There are runs in which `n` measurements arrive and are emitted. -/
theorem exists_arrived (hlossless : Lossless pb wire.toWire)
    (h : Unhindered wire data c x₀)
    (hrunning : ∀ bs x, exec (act d pb wire data c) x₀ (.user .sensorOpen :: bs) =
      some x → (∀ b ∈ bs, Going d b) → x.world.aborted = false) (n : ℕ) :
    ∃ bs x, exec (act d pb wire data c) x₀ (.user .sensorOpen :: bs) = some x ∧
      (∀ b ∈ bs, Going d b) ∧ x.world.idle = [] ∧
      (x.arrived c x₀.delivered).length = n := by
  obtain ⟨v, hopen, hv, hack⟩ := exists_settled hlossless h
  have hgoing : ∀ b ∈ [.post, .server .process, .deliver], Going d b := by
    intro b hb
    apply going_of_eq
    simp only [List.mem_cons, List.not_mem_nil, or_false] at hb
    rcases hb with rfl | rfl | rfl <;> simp
  obtain ⟨bs, x, hbs, hkinds, hx, bufs, hlength, hsent⟩ :=
    exists_rounds hrunning h.measurements h.fits n hopen hgoing hv
  refine ⟨bs, x, hbs, hkinds, hx.idle, ?_⟩
  -- all that has been sent are the acknowledgement and `n` data
  unfold arrived
  rw [hx.delivered, List.take_length, hsent, hack, h.delivered,
    List.append_assoc, List.drop_left, List.filterMap_append, List.filterMap_map,
    ← hlength]
  exact congrArg List.length List.filterMap_some

/-- **The measurements get through.** However many of them the application wants,
there is a run after which the driver has reacted to exactly the first ones of the
table, and the application has got all that it has taken, if none of them ends the
process. -/
theorem exists_reacted (src : Source d) {entry : MeasuredEntry F}
    (hlossless : MeasurementLossless pb wire)
    (hfind : data.find? (fun e => e.uid = x₀.world.sensor.priv.uid) = some entry)
    (hdata : entry.dataType = d.dataType) (hstreamed : StreamedEntry entry)
    (h : Unhindered wire data c x₀)
    (hafter : ∀ k, src.after x₀.world.sensor.priv.mountMatrix entry
      (d.opened x₀.world.state) k ≠ none) (n : ℕ) :
    ∃ bs x s ms, exec (act d pb wire data c) x₀ (.user .sensorOpen :: bs) = some x ∧
      (∀ b ∈ bs, Going d b) ∧ x.world.idle = [] ∧
      (x.arrived c x₀.delivered).length = n ∧
      src.after x₀.world.sensor.priv.mountMatrix entry (d.opened x₀.world.state) n =
        some (s, ms) ∧
      x.world.measurements = x₀.world.measurements ++ ms := by
  have hflowing : ∀ {bs x}, exec (act d pb wire data c) x₀
      (.user .sensorOpen :: bs) = some x → (∀ b ∈ bs, Going d b) →
        Flowing src entry wire data c x₀ bs x :=
    fun hrun hgoing => flowing_run src hlossless hfind hdata hstreamed h.toReady
      (fun b hb => (hgoing b hb).1) hrun
  obtain ⟨bs, x, hrun, hgoing, hidle, hlength⟩ :=
    exists_arrived hlossless.toLossless h (fun bs x hrun hgoing => by
      obtain ⟨k, -, hk, -⟩ := (hflowing hrun hgoing).reacted
      cases hs : src.after x₀.world.sensor.priv.mountMatrix entry
          (d.opened x₀.world.state) k with
      | none => exact absurd hs (hafter k)
      | some p =>
          rw [hs] at hk
          exact hk.1) n
  obtain ⟨-, ⟨k, -, hk, hall⟩, hconnected⟩ := hflowing hrun hgoing
  rw [hlength] at hall
  obtain rfl := hall (hconnected fun hclose => (hgoing _ hclose).2 rfl)
  cases hs : src.after x₀.world.sensor.priv.mountMatrix entry
      (d.opened x₀.world.state) k with
  | none => exact absurd hs (hafter k)
  | some p =>
      rw [hs] at hk
      obtain ⟨-, htaken, -⟩ := hk
      unfold Driver.taken at htaken
      rw [hidle, h.idle, List.append_nil, List.append_nil] at htaken
      exact ⟨bs, x, p.1, p.2, hrun, hgoing, hidle, hlength, rfl, htaken⟩

end EndToEnd

end Libssc

import Libssc.Library.Refinement
import Libssc.EndToEnd

/-!
# An init among other clients

`Composed` joins an init with a server that has nothing else to do. Here it runs
in `EndToEnd`: its requests wait with those of other clients, and the server may
exit on account of any of them. All the same the library is in a run of
`Composed` (`follows`), so that an init that ends has found what the table has
(`init_among_others`), and has told the server nothing (`unserved_run`).
-/

namespace Libssc

open Library

variable {F S M : Type} [GFloat F]

namespace SSCMockingServer

open SSCMockingServer (Action)

/-- The requests of a client that the server has not handled. -/
def waitingOf (c : QrtrAddress) (s : SSCMockingServer) : List GArray :=
  (s.inbox.filter (fun q => q.1 = c)).map Prod.snd

variable {wire : MeasurementWire F} {data : List (MeasuredEntry F)}
  {c e : QrtrAddress} {s s' : SSCMockingServer} {message : GArray}
  {rest : List (QrtrAddress × GArray)}

theorem waitingOf_cons (s' : SSCMockingServer) (h : s.inbox = (e, message) :: rest)
    (hrest : s'.inbox = rest) :
    s.waitingOf c = (if e = c then [message] else []) ++ s'.waitingOf c := by
  unfold waitingOf
  rw [h, hrest, List.filter_cons]
  by_cases he : e = c
  · simp [he]
  · simp [he]

theorem processesOf_eq_nil :
    s.processesOf c = [] ↔ ∀ w ∈ s.processes, w.client ≠ c := by
  unfold processesOf
  simp

/-- A process stays its client's. -/
theorem processesOf_modify {i : ℕ} {f : Worker → Worker} (h : s.processesOf c = [])
    (hs : s'.processes = s.processes.modify i f) (hf : ∀ w, (f w).client = w.client) :
    s'.processesOf c = [] := by
  rw [processesOf_eq_nil] at h ⊢
  intro w hw
  rw [hs] at hw
  obtain ⟨j, hj⟩ := List.mem_iff_getElem?.mp hw
  obtain ⟨v, hv, rfl⟩ := getElem?_modify_eq_some.mp hj
  have hclient := h v (List.mem_of_getElem? hv)
  split_ifs
  · rw [hf]
    exact hclient
  · exact hclient

/-- Nothing is sent to a client, none of its requests is handled, and nothing is
started for it. -/
structure Bypassed (c : QrtrAddress) (s s' : SSCMockingServer) : Prop where
  sentTo : s'.sentTo c = s.sentTo c
  waitingOf : s'.waitingOf c = s.waitingOf c
  processes : s'.processesOf c = []
  exited : s'.exited = false → s.exited = false

/-- The reply to a request of another client. -/
theorem bypassed_replied (hnone : s.processesOf c = []) (he : e ≠ c)
    (h : Replied e s s') : Bypassed c s s' := by
  cases h with
  | same => exact ⟨rfl, rfl, hnone, id⟩
  | exit => exact ⟨rfl, rfl, hnone, fun h => absurd h (by simp)⟩
  | indication buf =>
      refine ⟨?_, rfl, hnone, id⟩
      rw [sentTo_sendto, if_neg he, List.append_nil]
  | start huid =>
      refine ⟨rfl, rfl, ?_, id⟩
      rw [processesOf_startWorker, hnone, if_neg he, List.append_nil]
  | stop huid => exact ⟨rfl, rfl, processesOf_modify hnone rfl (fun _ => rfl), id⟩

/-- The acknowledgement of a request of another client. -/
theorem bypassed_acknowledge (hnone : s.processesOf c = []) (he : e ≠ c)
    (hinbox : s.inbox = (e, message) :: rest) :
    Bypassed c s (s.acknowledge e rest) := by
  refine ⟨?_, ?_, hnone, id⟩
  · rw [acknowledge, sentTo_sendto, if_neg he, List.append_nil]
    rfl
  · rw [waitingOf_cons (s.acknowledge e rest) hinbox rfl, if_neg he]
    rfl

theorem Bypassed.trans {s'' : SSCMockingServer} (h : Bypassed c s s')
    (h' : Bypassed c s' s'') : Bypassed c s s'' where
  sentTo := h'.sentTo.trans h.sentTo
  waitingOf := h'.waitingOf.trans h.waitingOf
  processes := h'.processes
  exited := fun hs => h.exited (h'.exited hs)

omit [GFloat F] in
/-- **What is not a client's own leaves it alone**, if the server has not started
anything for it. -/
theorem bypassed_act {a : Action} (hnone : s.processesOf c = [])
    (ha : ∀ q ∈ requestIn a, q.1 ≠ c)
    (hfirst : a = .process → ∀ message rest, s.inbox ≠ (c, message) :: rest)
    (hact : s.act wire data a = some s') : Bypassed c s s' := by
  cases a with
  | request e message =>
      simp only [act] at hact
      split_ifs at hact
      obtain rfl := Option.some.inj hact
      have he : e ≠ c := ha (e, message) rfl
      refine ⟨rfl, ?_, hnone, id⟩
      unfold waitingOf
      rw [List.filter_append, List.filter_cons_of_neg (by simpa using he)]
      simp
  | disappear e =>
      obtain rfl := Option.some.inj hact
      exact ⟨rfl, rfl, hnone, id⟩
  | process =>
      obtain ⟨-, e, message, rest, hinbox, hcases⟩ := process_cases hact
      have he : e ≠ c := by
        rintro rfl
        exact hfirst rfl message rest hinbox
      rcases hcases with ⟨-, rfl⟩ | ⟨-, rfl⟩
      · refine ⟨rfl, ?_, hnone, fun hs => absurd hs (by simp)⟩
        rw [waitingOf_cons { s with inbox := rest, exited := true } hinbox rfl,
          if_neg he]
        rfl
      · have hacked := bypassed_acknowledge hnone he hinbox
        exact hacked.trans (bypassed_replied hacked.processes he
          (replied_replyMsg e message _))
  | measure i =>
      obtain ⟨w, hw, -, rfl⟩ := turn_of_act hact
      have hclient : w.client ≠ c :=
        processesOf_eq_nil.mp hnone w (List.mem_of_getElem? hw)
      rcases turn_cases wire data s i w with ⟨buf, -, hs⟩ | hs | ⟨hs, -⟩
      · rw [hs]
        refine ⟨?_, rfl, processesOf_modify hnone rfl (fun _ => rfl), id⟩
        exact (sentTo_sendto (.reportLarge buf)).trans (by
          rw [if_neg hclient, List.append_nil])
      · rw [hs]
        exact ⟨rfl, rfl, processesOf_modify hnone rfl (fun _ => rfl), id⟩
      · rw [hs]
        exact ⟨rfl, rfl, hnone, id⟩

omit [GFloat F] in
/-- A request that is replied to with an indication. -/
theorem replyMsg_of_indication {buf : GArray}
    (h : Server.replyMsg wire.toWire (data.map MeasuredEntry.toEntry) message =
      .ok (.indication buf)) :
    s.replyMsg wire.toWire data c message = s.sendto c (.reportLarge buf) := by
  unfold replyMsg
  rw [h]

end SSCMockingServer

namespace Sensor

/-- A report adds to the requests. -/
theorem sent_emitReport (pb : Protobuf F) (r : Report) (w : Sensor F) :
    w.sent <+: (w.emitReport pb r).sent := by
  refine emitReport_preserves (P := fun v => w.sent <+: v.sent) ?_ List.prefix_rfl
  intro t id _ v hv
  by_cases ht : t ∈ v.freed
  · rw [reportReceived_freed ht]
    exact hv
  · rw [reportReceived_eq ht, perform_sent]
    exact hv.trans (List.prefix_append _ _)

end Sensor

namespace Driver

variable {d : Driver F S M} {pb : Protobuf F} {w : DriverWorld F S M}
  {i : Client.Indication}

/-- What reports preserve, an indication preserves. -/
theorem indicationReceived_preserves {P : DriverWorld F S M → Prop}
    (hemit : ∀ r v, P v → P (d.emitReport pb r v)) (hw : P w) :
    P (Client.indicationReceived pb (d.emitReport pb) i w) := by
  rw [Client.indicationReceived_eq]
  generalize (Client.envelopes pb [i]).flatMap Client.bodies = rs
  induction rs generalizing w with
  | nil => exact hw
  | cons r rs ih => exact ih (hemit r w hw)

/-- The base sensor sees the indication as well. -/
theorem indicationReceived_sensor :
    (Client.indicationReceived pb (d.emitReport pb) i w).sensor =
      Client.indicationReceived pb (Sensor.emitReport pb) i w.sensor := by
  rw [Client.indicationReceived_eq, Client.indicationReceived_eq]
  generalize (Client.envelopes pb [i]).flatMap Client.bodies = rs
  induction rs generalizing w with
  | nil => rfl
  | cons r rs ih => rw [List.foldl_cons, ih, emitReport_sensor, List.foldl_cons]

end Driver

namespace EndToEnd

/-! ## The way back -/

/-- What is on its way to the library, with the acknowledgements numbered from `n`
on. -/
def packets : ℕ → List Outgoing → List Packet
  | _, [] => []
  | n, .controlOutput :: os => .controlOutput n :: packets (n + 1) os
  | n, .reportLarge buf :: os => .reportLarge buf :: packets n os

theorem packets_append (n : ℕ) (os ps : List Outgoing) :
    packets n (os ++ ps) =
      packets n os ++ packets (n + os.count .controlOutput) ps := by
  induction os generalizing n with
  | nil => rfl
  | cons o os ih =>
      cases o with
      | controlOutput =>
          rw [List.cons_append, packets, packets, ih, List.count_cons_self,
            Nat.add_right_comm, Nat.add_assoc]
          rfl
      | reportLarge buf =>
          rw [List.cons_append, packets, packets, ih,
            List.count_cons_of_ne (by simp)]
          rfl

theorem packets_eq_nil {n : ℕ} {os : List Outgoing} : packets n os = [] ↔ os = [] := by
  cases os with
  | nil => simp [packets]
  | cons o os => cases o <;> simp [packets]

/-! ## Which run of `Composed` it is -/

/-- What an action is to the init: the server receives a request of the library and
replies to it, or something is delivered. -/
def label (c : QrtrAddress) (x : EndToEnd F S M) : Action → List Composed.Action
  | .server .process =>
      match x.server.inbox with
      | [] => []
      | (e, _) :: _ =>
          if e = c ∧ c ∉ x.server.gone then [.receive, .reply] else []
  | .deliver => [.deliver]
  | _ => []

/-- The application waits for the construction to end, and no send times out. -/
def Constructing : Action → Prop
  | .user .newFinish => True
  | .user (.dispatch _) => True
  | .user .idle => True
  | .user _ => False
  | _ => True

/-- How a request is packed. -/
def packed (wire : MeasurementWire F) (q : Request F) : GArray :=
  wire.pack q.uid q.msgId q.protobuf

/-- The requests that have reached the server, and of which `n` have been handled. -/
def unhandled (n : ℕ) (x : EndToEnd F S M) : List (Request F) :=
  (x.world.sensor.sent.take x.posted).drop n

/-- What is on its way to the library. -/
def incoming (c : QrtrAddress) (x : EndToEnd F S M) : List Outgoing :=
  (x.server.sentTo c).drop x.delivered

/-- The library and what is on its way between it and the server are those of `z`.
A server that has exited may have dropped a request. -/
structure Follows (wire : MeasurementWire F) (c : QrtrAddress)
    (x : EndToEnd F S M) (z : Composed F) : Prop where
  sensor : z.sensor = x.world.sensor
  replying : z.replying = none
  toClient : z.toClient = packets x.acked (x.incoming c)
  received : z.received = x.acked + (x.incoming c).count .controlOutput
  received_le : z.received ≤ x.posted
  posted_le : x.posted ≤ x.world.sensor.sent.length
  waiting : x.server.exited = false →
    x.server.waitingOf c = (x.unhandled z.received).map (packed wire)
  waiting_suffix :
    x.server.waitingOf c <:+ (x.unhandled z.received).map (packed wire)
  delivered_le : x.delivered ≤ (x.server.sentTo c).length

/-- The driver has not been opened, and the server has started nothing for it. -/
structure Unserved (c : QrtrAddress) (x : EndToEnd F S M) : Prop where
  own : x.world.sensor.OwnId
  unopened : x.world.sensor.driverHandlers = []
  taken : Driver.taken x.world = []
  running : x.world.aborted = false
  entered : x.server.Entered
  processes : x.server.processesOf c = []

variable {d : Driver F S M} {pb : Protobuf F} {wire : MeasurementWire F}
  {data : List (MeasuredEntry F)} {c : QrtrAddress} {x x' : EndToEnd F S M}
  {z : Composed F}

omit [GFloat F] in
/-- What leaves the client alone leaves it alone. -/
theorem follows_bypassed (h : Follows wire c x z) {s : SSCMockingServer}
    (hs : SSCMockingServer.Bypassed c x.server s) :
    Follows wire c { x with server := s } z := by
  have hincoming : ({ x with server := s } : EndToEnd F S M).incoming c =
      x.incoming c := by
    unfold incoming
    rw [hs.sentTo]
  refine { h with
    toClient := by rw [hincoming]; exact h.toClient
    received := by rw [hincoming]; exact h.received
    waiting := fun hup => hs.waitingOf.trans (h.waiting (hs.exited hup))
    waiting_suffix := hs.waitingOf ▸ h.waiting_suffix
    delivered_le := hs.sentTo ▸ h.delivered_le }

/-! ### A request comes to the server -/

omit [GFloat F] in
theorem unhandled_eq_cons {n : ℕ} {q : Request F} {qs : List (Request F)}
    (h : x.unhandled n = q :: qs) : n < x.posted ∧
      x.world.sensor.sent[n]? = some q ∧ x.unhandled (n + 1) = qs := by
  unfold unhandled at h ⊢
  have hhead : (x.world.sensor.sent.take x.posted)[n]? = some q := by
    rw [← List.head?_drop, h]
    rfl
  rw [List.getElem?_take] at hhead
  split_ifs at hhead with hlt
  refine ⟨hlt, hhead, ?_⟩
  rw [← List.tail_drop, h, List.tail_cons]

omit [GFloat F] in
/-- A request of the library arrives at the server's socket. -/
theorem follows_post (h : Follows wire c x z) {q : Request F} {s : SSCMockingServer}
    (hq : x.world.sensor.sent[x.posted]? = some q)
    (hs : x.server.act wire data (.request c (packed wire q)) = some s) :
    Follows wire c { x with server := s, posted := x.posted + 1 } z := by
  have hunhandled : ({ x with server := s, posted := x.posted + 1 } :
      EndToEnd F S M).unhandled z.received = x.unhandled z.received ++ [q] := by
    unfold unhandled
    rw [List.take_add_one, hq, List.drop_append_of_le_length]
    · rfl
    · rw [List.length_take_of_le h.posted_le]
      exact h.received_le
  simp only [SSCMockingServer.act] at hs
  split_ifs at hs
  obtain rfl := Option.some.inj hs
  have hwaiting : ({ x.server with inbox := x.server.inbox ++ [(c, packed wire q)] } :
      SSCMockingServer).waitingOf c = x.server.waitingOf c ++ [packed wire q] := by
    unfold SSCMockingServer.waitingOf
    simp
  refine { h with
    received_le := h.received_le.trans (Nat.le_succ _)
    posted_le := (List.getElem?_eq_some_iff.mp hq).1
    waiting := fun hup => ?_
    waiting_suffix := ?_ }
  · rw [hunhandled, List.map_append]
    exact hwaiting.trans (congrArg (· ++ [packed wire q]) (h.waiting hup))
  · rw [hunhandled, List.map_append, hwaiting]
    obtain ⟨handled, heq⟩ := h.waiting_suffix
    exact ⟨handled, by rw [← heq, List.append_assoc, List.map_singleton]⟩

/-- The server handles a request of the library, which `z` has received and replied
to then. -/
theorem follows_reply (pb : Protobuf F) (h : Follows wire c x z) {message : GArray}
    {rest : List (QrtrAddress × GArray)} (hup : x.server.exited = false)
    (hinbox : x.server.inbox = (c, message) :: rest)
    (hraised : z.raised = none)
    (hreplies : ∀ q, z.sensor.sent[z.received]? = some q → ∃ buf,
      Server.replyMsg wire.toWire (data.map MeasuredEntry.toEntry) (packed wire q) =
        .ok (.indication buf)) :
    ∃ z' buf, exec (Composed.act pb wire.toWire (data.map MeasuredEntry.toEntry)) z
        [.receive, .reply] = some z' ∧
      (x.server.acknowledge c rest).replyMsg wire.toWire data c message =
        (x.server.acknowledge c rest).sendto c (.reportLarge buf) ∧
      Follows wire c { x with
        server := (x.server.acknowledge c rest).sendto c (.reportLarge buf) } z' := by
  have hwaiting := h.waiting hup
  rw [SSCMockingServer.waitingOf_cons (x.server.acknowledge c rest) hinbox rfl,
    if_pos rfl, List.singleton_append] at hwaiting
  obtain ⟨q, qs, hqs, rfl, hrest⟩ := List.map_eq_cons_iff.mp hwaiting.symm
  obtain ⟨hlt, hq, hunhandled⟩ := unhandled_eq_cons hqs
  rw [← h.sensor] at hq
  obtain ⟨buf, hbuf⟩ := hreplies q hq
  generalize hs : (x.server.acknowledge c rest).sendto c (.reportLarge buf) = s
  have hsent : s.sentTo c =
      x.server.sentTo c ++ [.controlOutput, .reportLarge buf] := by
    rw [← hs, SSCMockingServer.sentTo_sendto, SSCMockingServer.acknowledge,
      SSCMockingServer.sentTo_sendto, if_pos rfl, if_pos rfl, List.append_assoc]
    rfl
  have hincoming : ({ x with server := s } : EndToEnd F S M).incoming c =
      x.incoming c ++ [.controlOutput, .reportLarge buf] := by
    unfold incoming
    rw [hsent, List.drop_append_of_le_length h.delivered_le]
  refine ⟨{ z with
    received := z.received + 1
    toClient := z.toClient ++ [.controlOutput z.received] ++ [.reportLarge buf] },
    buf, ?_, ?_, ?_⟩
  · have hreceive : z.act pb wire.toWire (data.map MeasuredEntry.toEntry) .receive =
        some { z with
          received := z.received + 1
          replying := some (packed wire q)
          toClient := z.toClient ++ [.controlOutput z.received] } := by
      simp [Composed.act, hraised, h.replying, hq, packed]
    refine exec_cons.mpr ⟨_, hreceive, exec_cons.mpr ⟨_, ?_, rfl⟩⟩
    simp [Composed.act, Composed.reply_eq hbuf, hraised, h.replying]
  · rw [SSCMockingServer.replyMsg_of_indication hbuf]
  · rw [hs]
    constructor
    case sensor => exact h.sensor
    case replying => exact h.replying
    case toClient =>
      rw [hincoming, packets_append, ← h.toClient, ← h.received]
      simp [packets]
    case received =>
      rw [hincoming, List.count_append, ← Nat.add_assoc, ← h.received]
      rfl
    case received_le => exact hlt
    case posted_le => exact h.posted_le
    case waiting =>
      intro _
      show s.waitingOf c = (x.unhandled (z.received + 1)).map (packed wire)
      rw [hunhandled, hrest, ← hs]
      rfl
    case waiting_suffix =>
      show s.waitingOf c <:+ (x.unhandled (z.received + 1)).map (packed wire)
      rw [hunhandled, hrest, ← hs]
      exact List.suffix_rfl
    case delivered_le =>
      show x.delivered ≤ (s.sentTo c).length
      rw [hsent, List.length_append]
      exact h.delivered_le.trans (Nat.le_add_right _ _)

omit [GFloat F] in
/-- A server that exits drops the request of a client that has gone. -/
theorem follows_exit (h : Follows wire c x z) {message : GArray}
    {rest : List (QrtrAddress × GArray)}
    (hinbox : x.server.inbox = (c, message) :: rest) :
    Follows wire c { x with
      server := { x.server with inbox := rest, exited := true } } z := by
  have hcons := SSCMockingServer.waitingOf_cons (c := c)
    { x.server with inbox := rest, exited := true } hinbox rfl
  refine { h with
    waiting := fun hup => absurd hup (by simp)
    waiting_suffix := ?_ }
  exact List.IsSuffix.trans ⟨_, hcons.symm⟩ h.waiting_suffix

omit [GFloat F] in
/-- The application does something that the sensor does not see. -/
theorem follows_user (h : Follows wire c x z) {w : DriverWorld F S M}
    (hw : w.sensor = x.world.sensor) : Follows wire c { x with world := w } z := by
  have hunhandled : ({ x with world := w } : EndToEnd F S M).unhandled z.received =
      x.unhandled z.received := by
    unfold unhandled
    rw [hw]
  refine { h with
    sensor := h.sensor.trans hw.symm
    posted_le := hw ▸ h.posted_le
    waiting := ?_
    waiting_suffix := ?_ }
  · rw [hunhandled]
    exact h.waiting
  · rw [hunhandled]
    exact h.waiting_suffix

/-! ### Something comes to the library -/

omit [GFloat F] in
theorem incoming_eq_cons {o : Outgoing}
    (ho : (x.server.sentTo c)[x.delivered]? = some o) :
    x.incoming c = o :: (x.server.sentTo c).drop (x.delivered + 1) := by
  obtain ⟨hlt, rfl⟩ := List.getElem?_eq_some_iff.mp ho
  exact List.drop_eq_getElem_cons hlt

omit [GFloat F] in
/-- Something is delivered, and the library sends more at most. -/
theorem follows_delivered (h : Follows wire c x z) {o : Outgoing}
    (ho : (x.server.sentTo c)[x.delivered]? = some o) {w : DriverWorld F S M}
    (hsent : x.world.sensor.sent <+: w.sensor.sent) {n : ℕ}
    (hn : n = x.acked + [o].count .controlOutput) :
    Follows wire c { x with world := w, delivered := x.delivered + 1, acked := n }
      { z with
        sensor := w.sensor
        toClient := packets n ((x.server.sentTo c).drop (x.delivered + 1)) } := by
  have hunhandled : ({ x with world := w, delivered := x.delivered + 1, acked := n } :
      EndToEnd F S M).unhandled z.received = x.unhandled z.received := by
    obtain ⟨qs, hqs⟩ := hsent
    unfold unhandled
    rw [← hqs, List.take_append_of_le_length h.posted_le]
  constructor
  case sensor => rfl
  case replying => exact h.replying
  case toClient => rfl
  case received =>
    have hreceived := h.received
    rw [incoming_eq_cons ho, ← List.singleton_append, List.count_append,
      ← Nat.add_assoc, ← hn] at hreceived
    exact hreceived
  case received_le => exact h.received_le
  case posted_le => exact h.posted_le.trans hsent.length_le
  case waiting =>
    rw [hunhandled]
    exact h.waiting
  case waiting_suffix =>
    rw [hunhandled]
    exact h.waiting_suffix
  case delivered_le => exact (List.getElem?_eq_some_iff.mp ho).1

/-- An acknowledgement is delivered. -/
theorem follows_ready (h : Follows wire c x z)
    (ho : (x.server.sentTo c)[x.delivered]? = some .controlOutput)
    {w : DriverWorld F S M}
    (hw : d.act pb x.world (.sendReady x.acked none) = some w) :
    ∃ z', z.act pb wire.toWire (data.map MeasuredEntry.toEntry) .deliver = some z' ∧
      Follows wire c { x with
        world := w
        delivered := x.delivered + 1
        acked := x.acked + 1 } z' := by
  obtain ⟨-, -, qs, hqs, -⟩ := Driver.act_aside (by simp) (by simp) (by simp) hw
  obtain ⟨v, hv, rfl⟩ := Option.map_eq_some_iff.mp hw
  have hto := h.toClient
  rw [incoming_eq_cons ho, packets] at hto
  refine ⟨_, ?_, follows_delivered h ho ⟨qs, hqs.symm⟩ rfl⟩
  simp only [Composed.act, hto, h.sensor, hv, Option.map_some]

/-- An indication is delivered. -/
theorem follows_indication (h : Follows wire c x z) {buf : GArray}
    (ho : (x.server.sentTo c)[x.delivered]? = some (.reportLarge buf)) :
    ∃ z', z.act pb wire.toWire (data.map MeasuredEntry.toEntry) .deliver = some z' ∧
      Follows wire c { x with
        world := Client.indicationReceived pb (d.emitReport pb)
          (.large (some buf)) x.world
        delivered := x.delivered + 1 } z' := by
  have hsent : x.world.sensor.sent <+: (Client.indicationReceived pb
      (d.emitReport pb) (.large (some buf)) x.world).sensor.sent :=
    Driver.indicationReceived_preserves
      (P := fun v => x.world.sensor.sent <+: v.sensor.sent)
      (fun r v hv => by
        rw [Driver.emitReport_sensor]
        exact hv.trans (Sensor.sent_emitReport pb r v.sensor))
      List.prefix_rfl
  have hto := h.toClient
  rw [incoming_eq_cons ho, packets] at hto
  refine ⟨_, ?_, follows_delivered h ho hsent rfl⟩
  simp only [Composed.act, hto, h.sensor, Driver.indicationReceived_sensor]

/-! ## Nothing is started yet -/

/-- While it is constructed the application does not touch the base sensor. -/
theorem sensor_constructing {a : Driver.Action} (ha : Constructing (.user a))
    {w w' : DriverWorld F S M} (h : d.act pb w a = some w') :
    w'.sensor = w.sensor ∧ Driver.taken w' = Driver.taken w := by
  cases Driver.step_of_act h with
  | newFinish => exact ⟨rfl, rfl⟩
  | dispatch _ _ =>
      rw [Driver.taskReady_eq]
      split_ifs <;> exact ⟨rfl, rfl⟩
  | idle hidle => exact ⟨rfl, by simp [Driver.taken, hidle]⟩
  | _ => exact ha.elim

omit [GFloat F] in
theorem unserved_server (h : Unserved c x) {s : SSCMockingServer}
    (hentered : s.Entered) (hprocesses : s.processesOf c = []) {n : ℕ} :
    Unserved c { x with server := s, posted := n } :=
  { h with entered := hentered, processes := hprocesses }

theorem unserved_ready (h : Unserved c x) {w : DriverWorld F S M} {i n k : ℕ}
    (hw : d.act pb x.world (.sendReady i none) = some w) :
    Unserved c { x with world := w, delivered := n, acked := k } where
  own := Driver.ownId_act h.own hw
  unopened := by
    have hsub := Driver.driverHandlers_act (by simp) hw
    rw [h.unopened] at hsub
    exact List.sublist_nil.mp hsub
  taken := (Driver.act_aside (by simp) (by simp) (by simp) hw).1.trans h.taken
  running := Driver.act_aborted h.running hw
  entered := h.entered
  processes := h.processes

/-- The driver has no handler for what is indicated. -/
theorem unserved_indication (h : Unserved c x) {i : Client.Indication} {n : ℕ} :
    Unserved c { x with
      world := Client.indicationReceived pb (d.emitReport pb) i x.world
      delivered := n } := by
  generalize hw : Client.indicationReceived pb (d.emitReport pb) i x.world = w
  have hkept : w.sensor.OwnId ∧ w.sensor.driverHandlers = [] ∧
      Driver.progress w = Driver.progress x.world := by
    rw [← hw]
    refine Driver.indicationReceived_preserves (P := fun v => v.sensor.OwnId ∧
      v.sensor.driverHandlers = [] ∧ Driver.progress v = Driver.progress x.world)
      ?_ ⟨h.own, h.unopened, rfl⟩
    rintro r v ⟨hown, hunopened, hprogress⟩
    rw [Driver.emitReport_sensor]
    exact ⟨Sensor.ownId_emitReport hown r,
      (Sensor.driverHandlers_emitReport hown r).trans hunopened,
      (Driver.progress_unobserved hunopened).trans hprogress⟩
  obtain ⟨hown, hunopened, hprogress⟩ := hkept
  obtain ⟨-, htaken, haborted⟩ : _ ∧ Driver.taken _ = Driver.taken x.world ∧
      _ = x.world.aborted := by
    simpa [Driver.progress] using hprogress
  exact { h with
    own := hown
    unopened := hunopened
    taken := htaken.trans h.taken
    running := haborted.trans h.running }

/-! ## The refinement -/

/-- The construction is as far as the init `z` of a driver that starts as `p`. -/
structure Constructs (pb : Protobuf F) (wire : MeasurementWire F)
    (data : List (MeasuredEntry F)) (p : SSCSensorPrivate F) (c : QrtrAddress)
    (x : EndToEnd F S M) (z : Composed F) : Prop extends
    Follows wire c x z, Unserved c x where
  underway : ∃ k, Composed.Underway pb wire.toWire (data.map MeasuredEntry.toEntry) p k z

/-- The server has a reply to each request of an init. -/
theorem indication_of_underway {wire : Wire F} {data : List (Entry F)}
    {p : SSCSensorPrivate F} {k : ℕ} (h : Composed.Underway pb wire data p k z)
    (hreplying : z.replying = none) : z.raised = none ∧
      ∀ q, z.sensor.sent[z.received]? = some q → ∃ buf,
        Server.replyMsg wire data (wire.pack q.uid q.msgId q.protobuf) =
          .ok (.indication buf) := by
  rcases h with ⟨s, q, buf, r, j, hw, -⟩ | ⟨s, hdone⟩
  · refine ⟨hw.raised, fun q' hq' => ?_⟩
    cases hw.leg with
    | sent received _ _ _ =>
        rw [received, hw.sent_last] at hq'
        obtain rfl := Option.some.inj hq'
        exact ⟨buf, hw.replies.reply⟩
    | received _ replying _ _ => exact absurd (replying.symm.trans hreplying) (by simp)
    | acked _ replying _ _ => exact absurd (replying.symm.trans hreplying) (by simp)
    | replied received _ _ _ =>
        exact absurd ((hw.no_request received).symm.trans hq') (by simp)
    | answering received _ _ _ =>
        exact absurd ((hw.no_request received).symm.trans hq') (by simp)
  · refine ⟨hdone.raised, fun q' hq' => ?_⟩
    rw [hdone.received, List.getElem?_eq_none (le_refl _)] at hq'
    exact absurd hq' (by simp)

omit [GFloat F] in
theorem label_process {e : QrtrAddress} {message : GArray}
    {rest : List (QrtrAddress × GArray)}
    (hinbox : x.server.inbox = (e, message) :: rest) :
    label c x (.server .process) =
      if e = c ∧ c ∉ x.server.gone then [.receive, .reply] else [] := by
  simp only [label, hinbox]

/-- The server or another client does something. -/
theorem constructs_server {p : SSCSensorPrivate F} (h : Constructs pb wire data p c x z)
    {a : SSCMockingServer.Action} {s : SSCMockingServer} (ha : isOthers c a = true)
    (hs : x.server.act wire data a = some s)
    (hfirst : a = .process → ∀ message rest, x.server.inbox ≠ (c, message) :: rest) :
    label c x (.server a) = [] ∧
      Constructs pb wire data p c { x with server := s } z := by
  have hother : ∀ q ∈ SSCMockingServer.requestIn a, q.1 ≠ c := by
    intro q hq
    cases a with
    | request e message =>
        obtain rfl := Option.some.inj hq
        simpa [isOthers] using ha
    | _ => exact absurd hq (by simp [SSCMockingServer.requestIn])
  have hbypassed := SSCMockingServer.bypassed_act h.processes hother hfirst hs
  refine ⟨?_, follows_bypassed h.toFollows hbypassed,
    unserved_server h.toUnserved (SSCMockingServer.entered_act h.entered hs)
      hbypassed.processes, h.underway⟩
  cases a with
  | process =>
      obtain ⟨-, e, message, rest, hinbox, -⟩ := SSCMockingServer.process_cases hs
      rw [label_process hinbox]
      refine if_neg fun he => ?_
      exact hfirst rfl message rest (he.1 ▸ hinbox)
  | _ => rfl

/-- **The construction of a driver is an init of `Composed`**, whatever other
clients do. -/
theorem refines_init (hlossless : Lossless pb wire.toWire) {table : SensorTable F}
    (htable : data.map MeasuredEntry.toEntry = table.data) {p : SSCSensorPrivate F}
    (hfit : Composed.AnswersFit wire.toWire table.data p.dataType)
    (hd : p.dataType ≠ "registry") (hc : IsCString p.dataType) :
    Refines (act d pb wire data c)
      (Composed.act pb wire.toWire (data.map MeasuredEntry.toEntry)) (label c)
      (fun _ b => Constructing b) (Constructs pb wire data p c) where
  matched := by
    intro x b x' z h hb hact
    have hnext : ∀ {as z'}, exec (Composed.act pb wire.toWire
        (data.map MeasuredEntry.toEntry)) z as = some z' → ∃ k,
          Composed.Underway pb wire.toWire (data.map MeasuredEntry.toEntry) p k z' := by
      intro as z' has
      obtain ⟨k, hk⟩ := h.underway
      rw [htable] at hk has ⊢
      obtain ⟨k', hk', -⟩ := exec_length_le
        (I := Composed.Underway pb wire.toWire table.data p)
        (fun _ _ _ _ hx ha => Composed.underway_act hlossless table hfit hd hc hx ha)
        hk has
      exact ⟨k', hk'⟩
    cases step_of_act hact with
    | @user a w ha hsafe hw =>
        obtain ⟨hsensor, htaken⟩ := sensor_constructing hb hw
        refine ⟨z, rfl, follows_user h.toFollows hsensor, ?_, h.underway⟩
        exact { h.toUnserved with
          own := hsensor ▸ h.own
          unopened := hsensor ▸ h.unopened
          taken := htaken.trans h.taken
          running := Driver.act_aborted hsafe hw }
    | post hq hs =>
        refine ⟨z, rfl, follows_post h.toFollows hq hs, ?_, h.underway⟩
        refine unserved_server h.toUnserved (SSCMockingServer.entered_act h.entered hs) ?_
        simp only [SSCMockingServer.act] at hs
        split_ifs at hs
        obtain rfl := Option.some.inj hs
        exact h.processes
    | @server a s ha hs =>
        by_cases hfirst : ∃ message rest, a = .process ∧
            x.server.inbox = (c, message) :: rest
        · obtain ⟨message, rest, rfl, hinbox⟩ := hfirst
          obtain ⟨hup, e, message', rest', hinbox', hcases⟩ :=
            SSCMockingServer.process_cases hs
          obtain ⟨heq, rfl⟩ := List.cons.inj (hinbox.symm.trans hinbox')
          obtain ⟨rfl, rfl⟩ := Prod.mk.inj heq
          have hentered := SSCMockingServer.entered_act h.entered hs
          rcases hcases with ⟨hgone, rfl⟩ | ⟨hgone, rfl⟩
          · rw [label_process hinbox, if_neg (fun hlabel => hlabel.2 hgone)]
            exact ⟨z, rfl, follows_exit h.toFollows hinbox,
              unserved_server h.toUnserved hentered h.processes, h.underway⟩
          · obtain ⟨k, hk⟩ := h.underway
            obtain ⟨hraised, hreplies⟩ := indication_of_underway hk h.replying
            obtain ⟨z', buf, hz', hs', hfollows⟩ :=
              follows_reply pb h.toFollows hup hinbox hraised hreplies
            rw [label_process hinbox, if_pos ⟨rfl, hgone⟩]
            rw [hs'] at hentered ⊢
            exact ⟨z', hz', hfollows,
              unserved_server h.toUnserved hentered h.processes, hnext hz'⟩
        · obtain ⟨hlabel, hserver⟩ := constructs_server h ha hs
            (fun hp message rest hin => hfirst ⟨message, rest, hp, hin⟩)
          rw [hlabel]
          exact ⟨z, rfl, hserver⟩
    | ready hsafe hsent hw =>
        obtain ⟨z', hz', hfollows⟩ := follows_ready h.toFollows hsent hw
        have hexec : exec (Composed.act pb wire.toWire
            (data.map MeasuredEntry.toEntry)) z [.deliver] = some z' :=
          exec_cons.mpr ⟨z', hz', rfl⟩
        exact ⟨z', hexec, hfollows, unserved_ready h.toUnserved hw, hnext hexec⟩
    | late hsafe hsent hlate =>
        obtain ⟨k, hk⟩ := h.underway
        have hto := h.toClient
        rw [incoming_eq_cons hsent, packets] at hto
        exact absurd (h.sensor ▸ hk.unready hto) hlate
    | indication hsafe hsent =>
        obtain ⟨z', hz', hfollows⟩ := follows_indication h.toFollows hsent
        have hexec : exec (Composed.act pb wire.toWire
            (data.map MeasuredEntry.toEntry)) z [.deliver] = some z' :=
          exec_cons.mpr ⟨z', hz', rfl⟩
        exact ⟨z', hexec, hfollows, unserved_indication h.toUnserved, hnext hexec⟩

/-! ## Inits -/

/-- A driver object that has just been created, whose client the server does not
know. -/
structure Fresh (d : Driver F S M) (c : QrtrAddress) (x : EndToEnd F S M) : Prop where
  world : x.world = d.world (Sensor.new (sscSensorInit d.dataType))
  posted : x.posted = 0
  acked : x.acked = 0
  delivered : x.delivered = (x.server.sentTo c).length
  entered : x.server.Entered
  processes : x.server.processesOf c = []
  inbox : ∀ m, (c, m) ∉ x.server.inbox

variable {x₀ : EndToEnd F S M} {table : SensorTable F}

/-- The construction begins as `Composed` does. -/
theorem constructs_start (hlossless : Lossless pb wire.toWire)
    (htable : data.map MeasuredEntry.toEntry = table.data)
    (hfit : Composed.AnswersFit wire.toWire table.data d.dataType)
    (hc : IsCString d.dataType) (hfresh : Fresh d c x₀)
    (hact : x₀.act d pb wire data c (.user (.call (.init none))) = some x) :
    Constructs pb wire data (sscSensorInit d.dataType) c x
      (Composed.start d.dataType) := by
  obtain ⟨hworld, hposted, hacked, hdelivered, hentered, hprocesses, hinbox⟩ := hfresh
  have hwaiting : x₀.server.waitingOf c = [] := by
    unfold SSCMockingServer.waitingOf
    rw [List.map_eq_nil_iff, List.filter_eq_nil_iff]
    rintro ⟨e, m⟩ hm he
    obtain rfl : e = c := by simpa using he
    exact hinbox m hm
  cases step_of_act hact with
  | @user a w _ _ hw =>
      rw [hworld] at hw
      have hown : (d.world (Sensor.new (sscSensorInit d.dataType))).sensor.OwnId :=
        ⟨Nat.zero_lt_one, fun h hh => absurd hh List.not_mem_nil⟩
      have hown' := Driver.ownId_act hown hw
      obtain rfl := Option.some.inj hw
      have hincoming : x₀.incoming c = [] := by
        unfold incoming
        rw [hdelivered, List.drop_length]
      constructor
      case toFollows =>
        constructor
        case sensor => rfl
        case replying => rfl
        case toClient =>
          show [] = packets x₀.acked (x₀.incoming c)
          rw [hincoming]
          rfl
        case received =>
          show 0 = x₀.acked + (x₀.incoming c).count .controlOutput
          rw [hincoming, hacked]
          rfl
        case received_le => exact Nat.zero_le _
        case posted_le => exact hposted.le.trans (Nat.zero_le _)
        case waiting =>
          intro _
          show x₀.server.waitingOf c = ((List.take x₀.posted _).drop 0).map (packed wire)
          rw [hwaiting, hposted]
          rfl
        case waiting_suffix =>
          show x₀.server.waitingOf c <:+ _
          rw [hwaiting]
          exact List.nil_suffix
        case delivered_le => exact hdelivered.le
      case toUnserved =>
        exact ⟨hown', rfl, rfl, rfl, hentered, hprocesses⟩
      case underway =>
        rw [htable]
        exact ⟨12, Composed.underway_start hlossless table hfit hc⟩

/-- So it goes on while the application waits. -/
theorem constructs_run (hlossless : Lossless pb wire.toWire)
    (htable : data.map MeasuredEntry.toEntry = table.data)
    (hfit : Composed.AnswersFit wire.toWire table.data d.dataType)
    (hd : d.dataType ≠ "registry") (hc : IsCString d.dataType) (hfresh : Fresh d c x₀)
    {bs : List Action} (hbs : ∀ b ∈ bs, Constructing b)
    (hrun : exec (act d pb wire data c) x₀ (.user (.call (.init none)) :: bs) = some x) :
    ∃ as z, exec (Composed.act pb wire.toWire (data.map MeasuredEntry.toEntry))
        (Composed.start d.dataType) as = some z ∧
      Constructs pb wire data (sscSensorInit d.dataType) c x z := by
  obtain ⟨x₁, hinit, hbs'⟩ := exec_cons.mp hrun
  have hstart := constructs_start hlossless htable hfit hc hfresh hinit
  have hmeet : StepsMeet (act d pb wire data c) x₁ (fun _ _ b => Constructing b) bs :=
    fun pre b hpre _ _ => hbs b (hpre.subset (by simp))
  obtain ⟨z, hz, hconstructs⟩ :=
    (refines_init (p := sscSensorInit d.dataType) hlossless htable hfit hd hc).run
      hstart hmeet hbs'
  exact ⟨_, z, hz, hconstructs⟩

/-- An init that has a result is done. -/
theorem done_of_returned {p : SSCSensorPrivate F} (h : Constructs pb wire data p c x z)
    (hreturned : x.world.sensor.tasks.returns 0 ≠ []) :
    ∃ s, Composed.Done (data.map MeasuredEntry.toEntry) p s z := by
  obtain ⟨k, ⟨s, q, buf, r, j, hw, -⟩ | hdone⟩ := h.underway
  · obtain ⟨y, hy, -, hstage⟩ := hw.stage
    have hresults := hstage.results
    rw [hy, h.sensor, hw.result] at hresults
    exact absurd (List.map_eq_nil_iff.mp hresults) hreturned
  · exact hdone

/-- Then nothing is on its way, and the driver can be opened. -/
theorem ready_of_done {p : SSCSensorPrivate F} {s : Exchange.Stage F}
    (h : Constructs pb wire data p c x z)
    (hdone : Composed.Done (data.map MeasuredEntry.toEntry) p s z) :
    Ready c x ∧ x.acked = x.world.sensor.sent.length := by
  have hreceived : z.received = x.world.sensor.sent.length :=
    hdone.received.trans (by rw [h.sensor])
  have hposted : x.posted = x.world.sensor.sent.length :=
    Nat.le_antisymm h.posted_le (hreceived.symm.le.trans h.received_le)
  have hincoming : x.incoming c = [] :=
    packets_eq_nil.mp (h.toClient.symm.trans hdone.toClient)
  have hunhandled : x.unhandled z.received = [] := by
    unfold unhandled
    rw [hreceived, hposted, List.take_length, List.drop_length]
  refine ⟨?_, ?_⟩
  · constructor
    case own => exact h.own
    case unopened => exact h.unopened
    case posted => exact hposted
    case delivered =>
      exact Nat.le_antisymm h.delivered_le (List.drop_eq_nil_iff.mp hincoming)
    case entered => exact h.entered
    case processes => exact h.processes
    case inbox =>
      intro m hm
      have hsuffix := h.waiting_suffix
      rw [hunhandled, List.map_nil, List.suffix_nil] at hsuffix
      have hmem : m ∈ x.server.waitingOf c :=
        List.mem_map.mpr ⟨(c, m), List.mem_filter.mpr ⟨hm, by simp⟩, rfl⟩
      rw [hsuffix] at hmem
      exact absurd hmem List.not_mem_nil
  · have hacked := h.received
    rw [hincoming, List.count_nil, Nat.add_zero] at hacked
    exact hacked.symm.trans hreceived

/-- The result of an init, and what it has found. -/
theorem found_of_returned (htable : data.map MeasuredEntry.toEntry = table.data)
    (h : Constructs pb wire data (sscSensorInit d.dataType) c x z)
    (hreturned : x.world.sensor.tasks.returns 0 ≠ []) :
    ∃ r, x.world.sensor.tasks.returns 0 = [r] ∧
      (r.result = .boolean true ↔ ∃ e ∈ data, e.dataType = d.dataType) ∧
      (r.result = .boolean true → ∀ e ∈ data, e.dataType = d.dataType →
        e.toEntry.Matches x.world.sensor.priv) := by
  obtain ⟨s, hdone⟩ := done_of_returned h hreturned
  rw [htable] at hdone
  obtain ⟨r, hr, hfound, hmatches⟩ := hdone.found table
  rw [h.sensor] at hr
  rw [← htable] at hfound hmatches
  rw [h.sensor] at hmatches
  refine ⟨r, hr, hfound.trans ?_, fun htrue e he =>
    hmatches htrue e.toEntry (List.mem_map_of_mem he)⟩
  constructor
  · rintro ⟨e, he, hdata⟩
    obtain ⟨e', he', rfl⟩ := List.mem_map.mp he
    exact ⟨e', he', hdata⟩
  · rintro ⟨e, he, hdata⟩
    exact ⟨e.toEntry, List.mem_map_of_mem he, hdata⟩

end EndToEnd

end Libssc

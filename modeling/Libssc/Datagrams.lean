import Libssc.Library.Refinement
import Libssc.Cycling
import Libssc.Transactions

/-!
# From datagrams to requests

For as long as it does not exit, the server at its socket does what the server
does that is handed the data of requests and sends data back (`refines`). What
makes it exit lies in the datagrams (`exited_iff_survives`): one that is empty, a
request that cannot be read, data that cannot be answered, an answer that is too
long for an indication, or a client that is not there to be answered.
-/

namespace Libssc

open Library

variable {F : Type}

namespace SocketServer

open SSCMockingServer (Action)

variable {wire : Wire F} {data : List (MeasuredEntry F)} {c : QrtrAddress}
  {incoming message : GArray} {tx : ℕ} {s : SocketServer}

/-! ## What the datagrams stand for -/

/-- What is handed to the server as a datagram of client `c`. -/
def requestIn (q : QrtrAddress × GArray) : Option (QrtrAddress × GArray) :=
  (requestOf (q.2.take bufferSize)).map (fun r => (q.1, r.2))

/-- A datagram that has been sent, and what it stands for. -/
inductive Carries : QrtrAddress × GArray → QrtrAddress × Outgoing → Prop where
  | controlOutput {c : QrtrAddress} {tx : ℕ} {buf : GArray}
      (h : SSC.generateMessageControlOutput tx = .ok buf) :
      Carries (c, buf) (c, .controlOutput)
  | reportLarge {c : QrtrAddress} {tx : ℕ} {response buf : GArray}
      (h : SSC.generateReportLargeIndication response tx = .ok buf) :
      Carries (c, buf) (c, .reportLarge response)

/-- The server at its socket, and the server that is handed requests. -/
structure Abstracts (s : SocketServer) (t : SSCMockingServer) : Prop where
  inbox : t.inbox = s.inbox.filterMap requestIn
  workers : t.workers = s.workers
  processes : t.processes = s.processes.map SocketWorker.toWorker
  gone : t.gone = s.gone
  exited : t.exited = s.exited
  sent : List.Forall₂ Carries s.sent t.sent

/-- What an action comes to. -/
def label (s : SocketServer) : Action → List Action
  | .request c incoming =>
      (requestIn (c, incoming)).toList.map (fun q => .request q.1 q.2)
  | .disappear c => [.disappear c]
  | .process =>
      (s.inbox.head?.bind requestIn).toList.map (fun _ => .process)
  | .measure i => [.measure i]

/-- What is next in line is a request that can be read, or none at all. -/
def Legible (s : SocketServer) : Action → Prop
  | .process => ∀ c incoming, s.inbox.head? = some (c, incoming) →
      Passed (incoming.take bufferSize) ∨
        requestOf (incoming.take bufferSize) ≠ none
  | _ => True

theorem generateReportLargeIndication_of_fits {response : GArray}
    (htx : tx < 65536) (h : DataFits response) :
    ∃ buf, SSC.generateReportLargeIndication response tx = .ok buf := by
  refine ⟨SSC.report SSC_REPORT_LARGE_MSG_ID 8 tx response, ?_⟩
  unfold DataFits at h
  rw [SSC.generateReportLargeIndication_eq,
    SSC.generateMessage_reportTlvs htx (by decide), if_pos (by omega)]

theorem generateReportLargeIndication_of_not_fits {response : GArray}
    (htx : tx < 65536) (h : ¬ DataFits response) :
    SSC.generateReportLargeIndication response tx = .error .overflowError := by
  unfold DataFits at h
  rw [SSC.generateReportLargeIndication_eq,
    SSC.generateMessage_reportTlvs htx (by decide), if_neg (by omega)]

section Matching

variable {t : SSCMockingServer}

theorem abstracts_new : Abstracts new .new where
  inbox := rfl
  workers := rfl
  processes := rfl
  gone := rfl
  exited := rfl
  sent := .nil

theorem abstracts_sendto (h : Abstracts s t) {buf : GArray} {m : Outgoing}
    (hm : Carries (c, buf) (c, m)) :
    Abstracts (s.sendto c buf) (t.sendto c m) where
  inbox := h.inbox
  workers := h.workers
  processes := h.processes
  gone := h.gone
  exited := h.exited
  sent := List.rel_append h.sent (.cons hm .nil)

theorem abstracts_startWorker (h : Abstracts s t) (uid : SscUid) (c : QrtrAddress)
    (tx : ℕ) : Abstracts (s.startWorker uid c tx) (t.startWorker uid c) where
  inbox := h.inbox
  workers := by
    show t.workers.insert uid _ = s.workers.insert uid _
    rw [h.workers, h.processes, List.length_map]
  processes := by
    show t.processes ++ _ = (s.processes ++ _).map _
    rw [h.processes, List.map_append]
    rfl
  gone := h.gone
  exited := h.exited
  sent := h.sent

theorem map_modify {f : SocketWorker → SocketWorker} {g : Worker → Worker}
    (hfg : ∀ w, (f w).toWorker = g w.toWorker) (l : List SocketWorker) (i : ℕ) :
    (l.modify i f).map SocketWorker.toWorker =
      (l.map SocketWorker.toWorker).modify i g := by
  ext j w
  rw [List.getElem?_map, List.getElem?_modify, List.getElem?_modify,
    List.getElem?_map]
  cases l[j]? with
  | none => simp
  | some v =>
      by_cases hij : i = j
      · simp [hij, hfg]
      · simp [hij]

theorem abstracts_endProcess (h : Abstracts s t) (i : ℕ) :
    Abstracts (s.endProcess i) (t.endProcess i) where
  inbox := h.inbox
  workers := h.workers
  processes := by
    show t.processes.modify i _ = (s.processes.modify i _).map _
    rw [h.processes]
    exact (map_modify (fun _ => rfl) _ _).symm
  gone := h.gone
  exited := h.exited
  sent := h.sent

theorem abstracts_stopWorker (h : Abstracts s t) (uid : SscUid) (i : ℕ) :
    Abstracts (s.stopWorker uid i) (t.stopWorker uid i) where
  inbox := h.inbox
  workers := by
    show t.workers.erase uid = s.workers.erase uid
    rw [h.workers]
  processes := (abstracts_endProcess h i).processes
  gone := h.gone
  exited := h.exited
  sent := h.sent

theorem abstracts_exit (h : Abstracts s t) :
    Abstracts s.exit { t with exited := true } where
  inbox := h.inbox
  workers := h.workers
  processes := h.processes
  gone := h.gone
  exited := rfl
  sent := h.sent

/-- Requests are acted on alike. -/
theorem abstracts_answer (h : Abstracts s t) (htx : tx < 65536) :
    Abstracts (s.answer wire data c tx message) (t.replyMsg wire data c message) := by
  unfold answer SSCMockingServer.replyMsg Server.replyMsg
  cases Server.respond wire (data.map MeasuredEntry.toEntry) message with
  | error e => exact abstracts_exit h
  | ok reply =>
      rw [afterCall_ok]
      cases reply with
      | indication response =>
          rw [reply_indication]
          simp only [Except.bind, Server.Reply.generated]
          by_cases hfits : DataFits response
          · obtain ⟨buf, hbuf⟩ := generateReportLargeIndication_of_fits htx hfits
            rw [hbuf, afterCall_ok, Server.reportLargeIndication_of_fits hfits]
            exact abstracts_sendto h (.reportLarge hbuf)
          · rw [generateReportLargeIndication_of_not_fits htx hfits,
              Server.reportLargeIndication_of_not_fits hfits]
            exact abstracts_exit h
      | enable uid =>
          simp only [Except.bind, Server.Reply.generated, reply, h.workers]
          cases s.workers.lookup uid with
          | none => exact abstracts_startWorker h uid c tx
          | some i => exact h
      | disable uid =>
          simp only [Except.bind, Server.Reply.generated, reply, h.workers]
          cases s.workers.lookup uid with
          | none => exact h
          | some i => exact abstracts_stopWorker h uid i
      | unsupported messageId => exact h

theorem abstracts_replyMsg (h : Abstracts s t) (c : QrtrAddress)
    (hincoming : requestOf incoming = some (tx, message)) :
    Abstracts (s.replyMsg wire data c incoming)
      (if c ∈ t.gone then { t with exited := true }
        else (t.sendto c .controlOutput).replyMsg wire data c message) := by
  have htx := transactionId_lt hincoming
  have hgone : c ∈ t.gone ↔ c ∈ s.gone := by rw [h.gone]
  rw [replyMsg_of_request hincoming, if_congr hgone rfl rfl]
  split_ifs with hc
  · exact abstracts_exit h
  · exact abstracts_answer (abstracts_sendto h
      (.controlOutput (SSC.generateMessageControlOutput_of_lt htx))) htx

/-- A turn of the server that is handed requests. -/
theorem process_cons {rest : List (QrtrAddress × GArray)} (hup : t.exited = false)
    (hinbox : t.inbox = (c, message) :: rest) :
    t.process wire data = some
      (if c ∈ t.gone then { t with inbox := rest, exited := true }
        else (t.acknowledge c rest).replyMsg wire data c message) := by
  unfold SSCMockingServer.process
  rw [hup, hinbox]
  simp only [Bool.false_eq_true, if_false]
  split_ifs <;> rfl

/-- A turn of the server. -/
theorem matched_process {s' : SocketServer} {wire : MeasurementWire F}
    (h : Abstracts s t) (hlegible : Legible s .process)
    (hstep : s.process wire.toWire data = some s') :
    ∃ t', exec (SSCMockingServer.act wire data) t (label s .process) = some t' ∧
      Abstracts s' t' := by
  unfold process at hstep
  split_ifs at hstep with hexited
  cases hinbox : s.inbox with
  | nil =>
      rw [hinbox] at hstep
      exact absurd hstep (by simp)
  | cons q rest =>
      obtain ⟨c, incoming⟩ := q
      rw [hinbox] at hstep
      obtain rfl := Option.some.inj hstep
      have hread := hlegible c incoming (by rw [hinbox]; rfl)
      have hlabel : label s .process =
          (requestIn (c, incoming)).toList.map (fun _ => .process) := by
        unfold label
        rw [hinbox]
        rfl
      have hinbox' : t.inbox =
          (requestIn (c, incoming)).toList ++ rest.filterMap requestIn := by
        rw [h.inbox, hinbox]
        cases hq : requestIn (c, incoming) <;> simp [hq]
      rw [hlabel]
      cases hrequest : requestOf (incoming.take bufferSize) with
      | none =>
          have hq : requestIn (c, incoming) = none := by
            unfold requestIn
            rw [hrequest]
            rfl
          have hpassed : Passed (incoming.take bufferSize) :=
            hread.resolve_right fun hno => hno hrequest
          rw [hq] at hinbox' ⊢
          refine ⟨t, rfl, ?_⟩
          rw [replyMsg_of_passed hpassed]
          exact ⟨hinbox', h.workers, h.processes, h.gone, h.exited, h.sent⟩
      | some r =>
          obtain ⟨tx, message⟩ := r
          have hq : requestIn (c, incoming) = some (c, message) := by
            unfold requestIn
            rw [hrequest]
            rfl
          rw [hq] at hinbox' ⊢
          have hup : t.exited = false := by
            rw [h.exited]
            simpa using hexited
          have hrest : Abstracts { s with inbox := rest }
              { t with inbox := rest.filterMap requestIn } :=
            ⟨rfl, h.workers, h.processes, h.gone, h.exited, h.sent⟩
          exact ⟨_, exec_cons.mpr ⟨_, process_cons hup hinbox', rfl⟩,
            abstracts_replyMsg hrest c hrequest⟩

/-- A turn of a process. -/
theorem abstracts_sensorMeasurement {wire : MeasurementWire F} (h : Abstracts s t)
    {i : ℕ} {w : SocketWorker} (htx : w.transactionId < 65536) :
    Abstracts (s.sensorMeasurement wire data i w)
      (t.sensorMeasurement wire data i w.toWorker) := by
  unfold sensorMeasurement SSCMockingServer.sensorMeasurement
  cases Server.generateProtobufSensorMeasurement wire (w.index + 1) data w.uid
      w.index with
  | none => exact h
  | some r =>
      cases r with
      | error e => exact abstracts_endProcess h i
      | ok response =>
          rw [Option.elim_some, afterCall_ok]
          by_cases hfits : DataFits response
          · obtain ⟨buf, hbuf⟩ := generateReportLargeIndication_of_fits htx hfits
            have hgone : w.client ∈ t.gone ↔ w.client ∈ s.gone := by rw [h.gone]
            rw [hbuf, afterCall_ok]
            simp only [Server.reportLargeIndication_of_fits hfits, hgone]
            split_ifs with hc
            · exact abstracts_endProcess h i
            · have hsent := abstracts_sendto (c := w.client) h (.reportLarge hbuf)
              refine ⟨hsent.inbox, hsent.workers, ?_, hsent.gone, hsent.exited,
                hsent.sent⟩
              show t.processes.modify i _ = (s.processes.modify i _).map _
              rw [h.processes]
              exact (map_modify (fun _ => rfl) _ _).symm
          · rw [generateReportLargeIndication_of_not_fits htx hfits]
            simp only [Server.reportLargeIndication_of_not_fits hfits]
            exact abstracts_endProcess h i

theorem matched_measure {s' : SocketServer} {wire : MeasurementWire F} {i : ℕ}
    (h : Abstracts s t) (hs : Echoing s)
    (hstep : s.act wire data (.measure i) = some s') :
    ∃ t', t.act wire data (.measure i) = some t' ∧ Abstracts s' t' := by
  simp only [act] at hstep
  cases hw : s.processes[i]? with
  | none =>
      rw [hw] at hstep
      exact absurd hstep (by simp)
  | some w =>
      rw [hw] at hstep
      simp only at hstep
      split_ifs at hstep with hrunning
      obtain rfl := Option.some.inj hstep
      have hw' : t.processes[i]? = some w.toWorker := by
        rw [h.processes, List.getElem?_map, hw]
        rfl
      refine ⟨_, ?_, abstracts_sensorMeasurement h
        (hs.processes w (List.mem_of_getElem? hw)).1⟩
      simp only [SSCMockingServer.act, hw', hrunning, if_true]

theorem matched_act {a : Action} {s' : SocketServer} {wire : MeasurementWire F}
    (h : Abstracts s t) (hs : Echoing s) (hlegible : Legible s a)
    (hstep : s.act wire data a = some s') :
    ∃ t', exec (SSCMockingServer.act wire data) t (label s a) = some t' ∧
      Abstracts s' t' := by
  cases a with
  | request c incoming =>
      simp only [act] at hstep
      split_ifs at hstep with hc
      obtain rfl := Option.some.inj hstep
      have hinbox : t.inbox ++ (requestIn (c, incoming)).toList =
          (s.inbox ++ [(c, incoming)]).filterMap requestIn := by
        rw [h.inbox, List.filterMap_append]
        cases hq : requestIn (c, incoming) <;> simp [hq]
      refine ⟨{ t with inbox := t.inbox ++ (requestIn (c, incoming)).toList }, ?_,
        ⟨hinbox, h.workers, h.processes, h.gone, h.exited, h.sent⟩⟩
      cases hq : requestIn (c, incoming) with
      | none => simp [label, hq]
      | some q =>
          have hq1 : q.1 = c := by
            unfold requestIn at hq
            obtain ⟨r, -, rfl⟩ := Option.map_eq_some_iff.mp hq
            rfl
          have hgone : q.1 ∉ t.gone := by
            rw [hq1, h.gone]
            exact hc
          have hact : t.act wire data (.request q.1 q.2) =
              some { t with inbox := t.inbox ++ [q] } := if_neg hgone
          simp only [label, hq, Option.toList_some, List.map_cons, List.map_nil]
          exact exec_cons.mpr ⟨_, hact, rfl⟩
  | disappear c =>
      obtain rfl := Option.some.inj hstep
      refine ⟨{ t with gone := c :: t.gone }, rfl,
        ⟨h.inbox, h.workers, h.processes, ?_, h.exited, h.sent⟩⟩
      show c :: t.gone = c :: s.gone
      rw [h.gone]
  | process => exact matched_process h hlegible hstep
  | measure i =>
      obtain ⟨t', ht', habs⟩ := matched_measure h hs hstep
      exact ⟨t', exec_cons.mpr ⟨t', ht', rfl⟩, habs⟩

/-- Where every request can be read, the server at its socket refines the one that
is handed requests. -/
theorem refines_of_legible (wire : MeasurementWire F) (data : List (MeasuredEntry F)) :
    Refines (act wire data) (SSCMockingServer.act wire data) label
      (fun s a => Legible s a)
      (fun s t => Echoing s ∧ Abstracts s t) where
  matched := by
    rintro s a s' t ⟨hs, h⟩ hlegible hstep
    obtain ⟨t', ht', h'⟩ := matched_act h hs hlegible hstep
    exact ⟨t', ht', echoing_step hs (step_of_act hstep), h'⟩

end Matching

/-! ## What makes the server exit -/

/-- What is next in line can be dealt with, and its client is there if it is a
request. -/
def Survives (wire : Wire F) (data : List (MeasuredEntry F)) (s : SocketServer) :
    Action → Prop
  | .process => ∀ c incoming, s.inbox.head? = some (c, incoming) →
      Understood wire data (incoming.take bufferSize) ∧
        (requestOf (incoming.take bufferSize) ≠ none → c ∉ s.gone)
  | _ => True

theorem exited_answer (htx : tx < 65536) :
    (s.answer wire data c tx message).exited = false ↔ s.exited = false ∧
      ∃ reply, Server.respond wire (data.map MeasuredEntry.toEntry) message =
        .ok reply ∧ ∀ response, reply = .indication response → DataFits response := by
  unfold answer
  cases hreply : Server.respond wire (data.map MeasuredEntry.toEntry) message with
  | error e =>
      apply iff_of_false
      · exact fun hno => absurd hno (by simp [exit])
      · rintro ⟨-, reply, hno, -⟩
        exact absurd hno (by simp)
  | ok r =>
      rw [afterCall_ok]
      cases r with
      | indication response =>
          rw [reply_indication]
          by_cases hfits : DataFits response
          · obtain ⟨buf, hbuf⟩ := generateReportLargeIndication_of_fits htx hfits
            rw [hbuf, afterCall_ok]
            apply (and_iff_left _).symm
            refine ⟨_, rfl, ?_⟩
            rintro response' heq
            obtain rfl := Server.Reply.indication.inj heq
            exact hfits
          · rw [generateReportLargeIndication_of_not_fits htx hfits]
            apply iff_of_false
            · exact fun hno => absurd hno (by simp [exit])
            · rintro ⟨-, reply, hok, hall⟩
              exact hfits (hall response (Except.ok.inj hok).symm)
      | enable uid =>
          apply Iff.trans _ (and_iff_left ⟨_, rfl, by simp⟩).symm
          simp only [reply]
          cases s.workers.lookup uid <;> rfl
      | disable uid =>
          apply Iff.trans _ (and_iff_left ⟨_, rfl, by simp⟩).symm
          simp only [reply]
          cases s.workers.lookup uid <;> rfl
      | unsupported messageId =>
          exact (and_iff_left ⟨_, rfl, by simp⟩).symm

/-- One turn of the server. -/
theorem exited_process {s' : SocketServer} (h : s.process wire data = some s') :
    s'.exited = false ↔ Survives wire data s .process := by
  unfold process at h
  split_ifs at h with hexited
  have hup : s.exited = false := by simpa using hexited
  cases hinbox : s.inbox with
  | nil =>
      rw [hinbox] at h
      exact absurd h (by simp)
  | cons q rest =>
      obtain ⟨c, incoming⟩ := q
      rw [hinbox] at h
      obtain rfl := Option.some.inj h
      have hsurvives : Survives wire data s .process ↔
          Understood wire data (incoming.take bufferSize) ∧
            (requestOf (incoming.take bufferSize) ≠ none → c ∉ s.gone) := by
        unfold Survives
        simp [hinbox]
      rw [hsurvives]
      by_cases hpassed : Passed (incoming.take bufferSize)
      · rw [replyMsg_of_passed hpassed]
        exact iff_of_true hup ⟨Or.inl hpassed, fun hno =>
          absurd (requestOf_of_passed hpassed) hno⟩
      unfold Understood
      rw [or_iff_right hpassed]
      cases hrequest : requestOf (incoming.take bufferSize) with
      | none =>
          rw [replyMsg_of_rejected hpassed hrequest]
          apply iff_of_false
          · exact fun hno => absurd hno (by simp [exit])
          · rintro ⟨⟨_, _, hno, -⟩, -⟩
            exact absurd hno (by simp)
      | some r =>
          obtain ⟨tx, message⟩ := r
          rw [replyMsg_of_request hrequest]
          by_cases hc : c ∈ s.gone
          · rw [if_pos hc]
            apply iff_of_false
            · exact fun hno => absurd hno (by simp [exit])
            · rintro ⟨-, hno⟩
              exact hno (by simp) hc
          · rw [if_neg hc, exited_answer (transactionId_lt hrequest)]
            constructor
            · rintro ⟨-, reply, hreply, hfits⟩
              exact ⟨⟨tx, message, rfl, reply, hreply, hfits⟩, fun _ => hc⟩
            · rintro ⟨⟨tx', message', heq, hreply⟩, -⟩
              obtain ⟨rfl, rfl⟩ := Prod.mk.inj (Option.some.inj heq)
              exact ⟨hup, hreply⟩

theorem exited_act {a : Action} {s' : SocketServer} {wire : MeasurementWire F}
    (h : s.act wire data a = some s') :
    s'.exited = false ↔ s.exited = false ∧ Survives wire.toWire data s a := by
  cases a with
  | process =>
      have hup : s.exited = false := by
        by_contra hexited
        simp [act, process, hexited] at h
      exact (exited_process h).trans (and_iff_right hup).symm
  | request c incoming =>
      cases step_of_act h with
      | request _ => exact (and_iff_left trivial).symm
  | disappear c =>
      cases step_of_act h with
      | disappear _ => exact (and_iff_left trivial).symm
  | measure i =>
      cases step_of_act h with
      | never _ => exact (and_iff_left trivial).symm
      | stop _ => exact (and_iff_left trivial).symm
      | measure _ _ _ => exact (and_iff_left trivial).symm

/-- A server that is still there has dealt with every datagram. -/
theorem survives_of_not_exited {wire : MeasurementWire F} {as : List Action}
    (h : exec (act wire data) new as = some s) (hup : s.exited = false) :
    StepsMeet (act wire data) new
      (fun _ s a => Survives wire.toWire data s a) as := by
  induction as using List.reverseRecOn generalizing s with
  | nil => exact .nil
  | append_singleton as a ih =>
      obtain ⟨u, hu, hact⟩ := exec_snoc.mp h
      obtain ⟨hup', ha⟩ := (exited_act hact).mp hup
      refine (ih hu hup').snoc fun v hv => ?_
      obtain rfl : u = v := Option.some.inj (hu.symm.trans hv)
      exact ha

/-- A server that can deal with every datagram stays. -/
theorem not_exited_of_survives {wire : MeasurementWire F} {as : List Action}
    (h : exec (act wire data) new as = some s)
    (hmeet : StepsMeet (act wire data) new
      (fun _ s a => Survives wire.toWire data s a) as) : s.exited = false := by
  induction as using List.reverseRecOn generalizing s with
  | nil =>
      obtain rfl : new = s := by simpa using h
      rfl
  | append_singleton as a ih =>
      obtain ⟨u, hu, hact⟩ := exec_snoc.mp h
      exact (exited_act hact).mpr ⟨ih hu (hmeet.of_prefix (List.prefix_append _ _)),
        hmeet as a List.prefix_rfl u hu⟩

/-- **What makes the server exit.** After any run the server is still there if and
only if each datagram it has taken from its socket could be dealt with: it is
none of a request, or a request that can be read, from a client that is there,
with data that are answered without an exception and within an indication. -/
theorem exited_iff_survives {wire : MeasurementWire F} {as : List Action}
    (h : exec (act wire data) new as = some s) :
    s.exited = false ↔
      StepsMeet (act wire data) new
        (fun _ s a => Survives wire.toWire data s a) as :=
  ⟨survives_of_not_exited h, not_exited_of_survives h⟩

theorem exited_iff_survives_proximity :
    StepsMeet (act proximityWire proximityTable) new
      (fun _ s a => Survives proximityWire.toWire proximityTable s a)
      proximityRun :=
  (exited_iff_survives exec_proximityRun).mp (by decide)

/-- What the server survives it can read. -/
theorem legible_of_survives {a : Action} (h : Survives wire data s a) :
    Legible s a := by
  cases a with
  | process =>
      intro c incoming hinbox
      rcases (h c incoming hinbox).1 with hpassed | ⟨tx, message, hrequest, -⟩
      · exact Or.inl hpassed
      · exact Or.inr (by simp [hrequest])
  | _ => trivial

/-- A server that has not exited has a counterpart that is handed requests. -/
theorem exists_abstracts {wire : MeasurementWire F} {as : List Action}
    (h : exec (act wire data) new as = some s) (hup : s.exited = false) :
    ∃ t, exec (SSCMockingServer.act wire data) .new
        (labels (act wire data) label new as) = some t ∧ Echoing s ∧ Abstracts s t :=
  (refines_of_legible wire data).run ⟨echoing_new, abstracts_new⟩
    ((survives_of_not_exited h hup).mono fun _ _ _ => legible_of_survives) h

/-- **At its socket the server does what it does with requests and data.** As long
as it has not exited, whatever datagrams have arrived and in whatever order the
processes have run, the datagrams it has sent carry, one by one, what the server
has sent that was handed the requests among them, and their states agree. -/
theorem refines {wire : MeasurementWire F} {as : List Action}
    (h : exec (act wire data) new as = some s) (hup : s.exited = false) :
    ∃ t, exec (SSCMockingServer.act wire data) .new
        (labels (act wire data) label new as) = some t ∧ Abstracts s t := by
  obtain ⟨t, ht, -, habs⟩ := exists_abstracts h hup
  exact ⟨t, ht, habs⟩

theorem refines_proximity :
    ∃ t, exec (SSCMockingServer.act proximityWire proximityTable) .new
        [.request proximityClient [10, 18], .process, .measure 0, .measure 0] =
          some t ∧ Abstracts proximityServer t := by
  have hlabels : labels (act proximityWire proximityTable) label new proximityRun =
      [.request proximityClient [10, 18], .process, .measure 0, .measure 0] := by
    decide
  rw [← hlabels]
  exact refines exec_proximityRun (by decide)

end SocketServer

end Libssc

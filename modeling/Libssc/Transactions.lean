import Libssc.Library.Run
import Libssc.Socket

/-!
# Transaction ids

QMI matches a reply to its request by the transaction id, which the server takes
from the request and repeats: in the acknowledgement, in an indication that
follows, and in the measurements of a process that the request has started. No
reply is lost or sent twice, and none is sent to another client
(`transactionIds_echoed`).
-/

namespace Libssc

open Library

variable {F : Type}

namespace SocketServer

open SSCMockingServer (Action)

variable {wire : Wire F} {data : List (MeasuredEntry F)} {c : QrtrAddress}
  {incoming message : GArray} {tx : ℕ} {s : SocketServer}

/-! ## What is repeated -/

/-- Every request is acknowledged with its transaction id, and an indication
repeats a transaction id that its client has been sent before. -/
inductive Echoes : List (QrtrAddress × GArray) → Prop where
  | nil : Echoes []
  | acknowledge {l : List (QrtrAddress × GArray)} {c : QrtrAddress} {tx : ℕ}
      (h : Echoes l) (htx : tx < 65536) : Echoes (l ++ [(c, SSC.controlOutput tx)])
  | indicate {l : List (QrtrAddress × GArray)} {c : QrtrAddress} {tx : ℕ}
      {response buf : GArray} (h : Echoes l) (hc : (c, SSC.controlOutput tx) ∈ l)
      (hbuf : SSC.generateReportLargeIndication response tx = .ok buf) :
      Echoes (l ++ [(c, buf)])

/-- The transaction id of an acknowledgement, with the client it is sent to. -/
def acknowledged (q : QrtrAddress × GArray) : Option (QrtrAddress × ℕ) :=
  match Qmi.parseHeader q.2 with
  | .ok (.response, transactionId, _, _) => some (q.1, transactionId)
  | _ => none

/-- The request that is answered in an action, by its transaction id. -/
def answeredIn : SocketServer × Action → Option (QrtrAddress × ℕ)
  | (s, .process) => s.inbox.head?.bind (fun q =>
      if q.1 ∈ s.gone then none
      else (requestOf (q.2.take bufferSize)).map (fun r => (q.1, r.1)))
  | _ => none

/-- The requests that have been answered in a run. -/
def answered (wire : MeasurementWire F) (data : List (MeasuredEntry F))
    (as : List Action) : List (QrtrAddress × ℕ) :=
  (trace (act wire data) new as).filterMap answeredIn

theorem acknowledged_controlOutput (c : QrtrAddress) (h : tx < 65536) :
    acknowledged (c, SSC.controlOutput tx) = some (c, tx) := by
  have hheader : Qmi.HeaderFits .response tx SSC_CONTROL_MSG_ID :=
    ⟨by decide, h, by decide⟩
  have hlen : totalSize SSC.controlOutputTlvs < 65536 := by decide
  unfold acknowledged SSC.controlOutput
  rw [Qmi.parseHeader_frame hheader hlen]

theorem acknowledged_indication (c : QrtrAddress) {response buf : GArray}
    (h : SSC.generateReportLargeIndication response tx = .ok buf) :
    acknowledged (c, buf) = none := by
  rw [SSC.generateReportLargeIndication_eq] at h
  obtain ⟨n, hn⟩ := (SSC.indicates_of_generateMessage (by decide) h).header
  unfold acknowledged
  rw [hn]

/-- What the server has sent, and the transaction ids of its processes. -/
structure Echoing (s : SocketServer) : Prop where
  sent : Echoes s.sent
  processes : ∀ w ∈ s.processes, w.transactionId < 65536 ∧
    (w.client, SSC.controlOutput w.transactionId) ∈ s.sent

section Echoing

variable {s' : SocketServer}

theorem echoing_new : Echoing new := ⟨.nil, by simp [new]⟩

theorem echoing_of_same (h : Echoing s) (hsent : s'.sent = s.sent)
    (hprocesses : s'.processes = s.processes) : Echoing s' := by
  constructor
  · rw [hsent]
    exact h.sent
  · rw [hsent, hprocesses]
    exact h.processes

theorem echoing_sendto {buf : GArray} (h : Echoing s)
    (hbuf : Echoes (s.sent ++ [(c, buf)])) : Echoing (s.sendto c buf) where
  sent := hbuf
  processes w hw := by
    obtain ⟨htx, hmem⟩ := h.processes w hw
    exact ⟨htx, List.mem_append_left _ hmem⟩

/-- Changing a process keeps its client and its transaction id. -/
theorem echoing_modify {f : SocketWorker → SocketWorker} {i : ℕ} (h : Echoing s)
    (hprocesses : s'.processes = s.processes.modify i f) (hsent : s'.sent = s.sent)
    (hf : ∀ w, (f w).client = w.client ∧ (f w).transactionId = w.transactionId) :
    Echoing s' := by
  constructor
  · rw [hsent]
    exact h.sent
  · intro w hw
    rw [hprocesses] at hw
    obtain ⟨j, hj⟩ := List.mem_iff_getElem?.mp hw
    rw [List.getElem?_modify] at hj
    obtain ⟨v, hv, rfl⟩ := Option.map_eq_some_iff.mp hj
    have hkept := h.processes v (List.mem_of_getElem? hv)
    rw [hsent]
    split_ifs
    · rw [(hf v).1, (hf v).2]
      exact hkept
    · exact hkept

theorem echoing_answered (h : Echoing s)
    (hack : (c, SSC.controlOutput tx) ∈ s.sent) (htx : tx < 65536)
    (hs' : Answered c tx s s') : Echoing s' := by
  cases hs' with
  | same => exact h
  | exit => exact echoing_of_same h rfl rfl
  | indication hbuf => exact echoing_sendto h (.indicate h.sent hack hbuf)
  | start uid =>
      refine ⟨h.sent, fun w hw => ?_⟩
      rcases List.mem_append.mp hw with hold | hnew
      · exact h.processes w hold
      · obtain rfl := List.mem_singleton.mp hnew
        exact ⟨htx, hack⟩
  | stop uid i =>
      exact echoing_modify h rfl rfl (fun _ => ⟨rfl, rfl⟩)

/-- What an action sends. -/
theorem echoing_step {a : Action} (h : Echoing s) (hstep : Step s a s') :
    Echoing s' := by
  cases hstep with
  | @answer c incoming message tx rest _ hinbox hrequest hc hs' =>
      have htx := transactionId_lt hrequest
      have hsame : Echoing { s with inbox := rest } := echoing_of_same h rfl rfl
      have hack := echoing_sendto (c := c) hsame (.acknowledge h.sent htx)
      exact echoing_answered hack (List.mem_append_right _ (List.mem_singleton_self _))
        htx hs'
  | @measure i w response buf hw hc hbuf =>
      obtain ⟨-, hmem⟩ := h.processes w (List.mem_of_getElem? hw)
      exact echoing_modify (echoing_sendto h (.indicate h.sent hmem hbuf)) rfl rfl
        (fun _ => ⟨rfl, rfl⟩)
  | stop i => exact echoing_modify h rfl rfl (fun _ => ⟨rfl, rfl⟩)
  | _ => exact echoing_of_same h rfl rfl

/-- What an action acknowledges. -/
theorem acknowledged_step {a : Action} (hstep : Step s a s') :
    s'.sent.filterMap acknowledged =
      s.sent.filterMap acknowledged ++ (answeredIn (s, a)).toList := by
  cases hstep with
  | request _ => simp [answeredIn]
  | disappear c => simp [answeredIn]
  | pass hinbox hpassed =>
      simp [answeredIn, hinbox, requestOf_of_passed hpassed]
  | fail hinbox _ hc =>
      rcases hc with hnone | hgone
      · simp [answeredIn, hinbox, hnone]
      · simp [answeredIn, hinbox, hgone]
  | @answer c incoming message tx rest _ hinbox hrequest hc hs' =>
      have htx := transactionId_lt hrequest
      have hack : (s.sent ++ [(c, SSC.controlOutput tx)]).filterMap acknowledged =
          s.sent.filterMap acknowledged ++ (answeredIn (s, .process)).toList := by
        simp [answeredIn, hinbox, hrequest, hc, acknowledged_controlOutput c htx]
      rw [← hack]
      cases hs' with
      | @indication response buf hbuf =>
          show (s.sent ++ [(c, SSC.controlOutput tx)] ++ [(c, buf)]).filterMap _ = _
          rw [List.filterMap_append]
          simp [acknowledged_indication c hbuf]
      | _ => rfl
  | never i => simp [answeredIn]
  | stop i => simp [answeredIn, endProcess]
  | @measure i w response buf hw hc hbuf =>
      show (s.sent ++ [(w.client, buf)]).filterMap _ = _
      simp [acknowledged_indication _ hbuf, answeredIn]

/-- **Transaction ids are repeated faithfully, whatever arrives.** In any run the
acknowledgements that have been sent are those of the requests that have been
answered, each once and in order, with the request's own transaction id; and an
indication has a transaction id that was acknowledged to its client before. -/
theorem transactionIds_echoed {as : List Action} {wire : MeasurementWire F}
    (h : exec (act wire data) new as = some s) :
    Echoes s.sent ∧
      s.sent.filterMap acknowledged = answered wire data as := by
  have hinv : Always (act wire data) new (fun pre s =>
      exec (act wire data) new pre = some s ∧ Echoing s ∧
        s.sent.filterMap acknowledged = answered wire data pre) as := by
    refine always_of_stepsMeet (C := fun _ _ _ => True)
      ⟨rfl, echoing_new, rfl⟩ ?_ (fun _ _ _ _ _ => trivial)
    rintro pre u a u' ⟨hpre, hu, hanswered⟩ - hact
    have hstep := step_of_act hact
    refine ⟨exec_snoc.mpr ⟨u, hpre, hact⟩, echoing_step hu hstep, ?_⟩
    rw [acknowledged_step hstep, hanswered, answered, answered, trace_snoc hpre,
      List.filterMap_append]
    cases hq : answeredIn (u, a) <;> simp [hq]
  obtain ⟨-, hs, hanswered⟩ := hinv.last h
  exact ⟨hs.sent, hanswered⟩

theorem transactionIds_echoed_proximity :
    Echoes proximityServer.sent ∧
      proximityServer.sent.filterMap acknowledged = [(proximityClient, 3)] := by
  obtain ⟨hechoes, hanswered⟩ := transactionIds_echoed exec_proximityRun
  exact ⟨hechoes, hanswered.trans (by decide)⟩

end Echoing

end SocketServer

end Libssc

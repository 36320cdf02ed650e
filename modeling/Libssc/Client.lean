import Libssc.Message

/-!
# The client

How a client is constructed, and how it turns the payload of an indication into
`report` signals. The bus, the nodes on it and the QMI device belong to other
libraries; what they answer at each stage is an argument.
-/

namespace Libssc

inductive SSCClientError where
  | protobuf
  | lookup
deriving DecidableEq, Repr

def SSCClientError.code : SSCClientError → ℕ
  | .protobuf => 0
  | .lookup => 1

/-- An error of the domain `ssc_client_error_quark ()`. -/
def sscClientError (e : SSCClientError) (message : String) : GError where
  domain := "ssc-client"
  code := e.code
  message := message

/-! ## Construction -/

/-- What the stages of a construction answer. The bus has a list of nodes, each
with the port of the SSC service on it, which is negative when the node does not
offer the service; a NULL node is `none`. The later stages only fail or not. -/
structure Construction where
  bus : Except GError (List (Option Int))
  device : Option GError
  deviceOpen : Option GError
  allocateClient : Option GError
deriving Repr

/-- What a client owns: the bus, the device, and the QMI client, to whose two
report signals it is then connected. -/
structure SSCClientPrivate where
  bus : Bool
  device : Bool
  qmiClientSsc : Bool
deriving DecidableEq, Repr

namespace Client

def allocateClientReady (c : Construction) (p : SSCClientPrivate) :
    SSCClientPrivate × TaskResult :=
  match c.allocateClient with
  | some e => (p, .error e)
  | none => ({ p with qmiClientSsc := true }, .boolean true)

def deviceOpenReady (c : Construction) (p : SSCClientPrivate) :
    SSCClientPrivate × TaskResult :=
  match c.deviceOpen with
  | some e => (p, .error e)
  | none => allocateClientReady c p

def deviceNewReady (c : Construction) (p : SSCClientPrivate) :
    SSCClientPrivate × TaskResult :=
  match c.device with
  | some e => (p, .error e)
  | none => deviceOpenReady c { p with device := true }

/-- The search for a node that offers the SSC service. -/
def nodeFound (nodes : List (Option Int)) : Bool :=
  nodes.any fun node =>
    match node with
    | none => false
    | some port => decide (0 ≤ port)

def busNewReady (c : Construction) (p : SSCClientPrivate) :
    SSCClientPrivate × TaskResult :=
  match c.bus with
  | .error e => (p, .error e)
  | .ok nodes =>
      if nodeFound nodes then deviceNewReady c { p with bus := true }
      else
        ({ p with bus := true },
          .error (sscClientError .lookup "SSC QMI Service not found"))

/-- `initable_init_async` of the client, up to the end of its task. -/
def initableInitAsync (c : Construction) : SSCClientPrivate × TaskResult :=
  busNewReady c ⟨false, false, false⟩

/-- The error that `ssc_client_new_finish` sets. -/
def newFinish (c : Construction) : Option GError :=
  (initableInitAsync c).2.propagateBoolean.2

/-- A construction ends with TRUE or with an error, and with TRUE exactly when
the client has all it needs. -/
theorem initableInitAsync_result (c : Construction) :
    (newFinish c = none ∧ initableInitAsync c = (⟨true, true, true⟩, .boolean true)) ∨
      ∃ e, newFinish c = some e ∧ (initableInitAsync c).2 = .error e := by
  unfold newFinish initableInitAsync busNewReady
  cases c.bus with
  | error e => exact Or.inr ⟨e, rfl, rfl⟩
  | ok nodes =>
      by_cases hfound : nodeFound nodes = true
      · simp only [hfound, if_true, deviceNewReady]
        cases c.device with
        | some e => exact Or.inr ⟨e, rfl, rfl⟩
        | none =>
            simp only [deviceOpenReady]
            cases c.deviceOpen with
            | some e => exact Or.inr ⟨e, rfl, rfl⟩
            | none =>
                simp only [allocateClientReady]
                cases c.allocateClient with
                | some e => exact Or.inr ⟨e, rfl, rfl⟩
                | none => exact Or.inl ⟨rfl, rfl⟩
      · simp only [hfound]
        exact Or.inr ⟨_, rfl, rfl⟩

/-! ## Indications -/

/-- A report indication of the QMI client; `none` when its data cannot be
extracted. -/
inductive Indication where
  | large (protobuf : Option GArray)
  | small (protobuf : Option GArray)
deriving DecidableEq, Repr

variable {F σ : Type}

/-- `handle_report`: emit `report` for every body of the response. -/
def handleReport (pb : Protobuf F) (emit : Report → σ → σ) (protobuf : GArray)
    (s : σ) : σ :=
  match pb.clientResponseUnpack protobuf with
  | none => s
  | some msg =>
      msg.response.foldl (fun s body => emit ⟨body.msgId, msg.uid, body.msg⟩ s) s

def reportLargeReceived (pb : Protobuf F) (emit : Report → σ → σ)
    (output : Option GArray) (s : σ) : σ :=
  match output with
  | none => s
  | some protobuf => handleReport pb emit protobuf s

def reportSmallReceived (pb : Protobuf F) (emit : Report → σ → σ)
    (output : Option GArray) (s : σ) : σ :=
  match output with
  | none => s
  | some protobuf => handleReport pb emit protobuf s

/-- An indication, handled by the function connected to it. -/
def indicationReceived (pb : Protobuf F) (emit : Report → σ → σ) :
    Indication → σ → σ
  | .large output, s => reportLargeReceived pb emit output s
  | .small output, s => reportSmallReceived pb emit output s

/-- The payload of an indication. -/
def Indication.protobuf : Indication → Option GArray
  | .large p => p
  | .small p => p

/-- The envelopes of a list of indications: what their payloads decode to. -/
def envelopes (pb : Protobuf F) (is : List Indication) : List SscClientResponse :=
  is.filterMap fun i => i.protobuf.bind pb.clientResponseUnpack

/-- The bodies of an envelope, each with the UID of the envelope. -/
def bodies (m : SscClientResponse) : List Report :=
  m.response.map fun body => ⟨body.msgId, m.uid, body.msg⟩

/-- **An indication emits its bodies in order**; one that carries no data, or
data that does not decode, emits nothing. -/
theorem indicationReceived_eq (pb : Protobuf F) (emit : Report → σ → σ)
    (i : Indication) (s : σ) :
    indicationReceived pb emit i s =
      ((envelopes pb [i]).flatMap bodies).foldl (fun s r => emit r s) s := by
  have hhandle : ∀ protobuf, handleReport pb emit protobuf s =
      ((pb.clientResponseUnpack protobuf).toList.flatMap bodies).foldl
        (fun s r => emit r s) s := by
    intro protobuf
    unfold handleReport
    cases pb.clientResponseUnpack protobuf with
    | none => rfl
    | some m => simp [bodies, List.foldl_map]
  have henv : envelopes pb [i] =
      (i.protobuf.bind pb.clientResponseUnpack).toList := by
    unfold envelopes
    cases h : i.protobuf.bind pb.clientResponseUnpack <;> simp [h]
  rw [henv]
  cases i with
  | large output =>
      cases output with
      | none => rfl
      | some protobuf => exact hhandle protobuf
  | small output =>
      cases output with
      | none => rfl
      | some protobuf => exact hhandle protobuf

end Client

end Libssc

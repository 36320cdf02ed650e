import Libssc.Attributes
import Mathlib.Data.List.Forall2
import Mathlib.Data.List.TakeWhile

/-!
# The mocking server

`SSCMockingServer` answers requests from a table of sensors, which it reads from
JSON files. `replyMsg` is what it does with the data of a request after it has
acknowledged it. Any exception ends the server process, and so does an answer
that is too long to be sent.

Serialising and parsing are protobuf's, on both sides, and are parameters
(`Wire`). `Lossless` says that what one side writes the other side reads. The C
side reads a string up to its first NUL.
-/

namespace Libssc

variable {F : Type}

def SSC_PROTOBUF_DISCOVERY_MSG_ID : UInt32 := 768
def SSC_PROTOBUF_DISCOVER_MSG_ID : UInt32 := 512
def SSC_PROTOBUF_GET_ATTRIBUTE_MSG_ID : UInt32 := 1
def SSC_PROTOBUF_RESPONSE_GET_ATTRIBUTES_MSG_ID : UInt32 := 128
def SSC_PROTOBUF_ENABLE_REPORT_MSG_ID : UInt32 := 514
def SSC_PROTOBUF_DISABLE_REPORT_MSG_ID : UInt32 := 10
def SSC_PROTOBUF_ENABLE_CONTINUOUS_MSG_ID : UInt32 := 513

/-- `SSC_SUID_SENSOR_UID_HIGH` and `SSC_SUID_SENSOR_UID_LOW`. -/
def SSC_SUID_SENSOR_UID : SscUid where
  low := 0xABABABABABABABAB
  high := 0xABABABABABABABAB

/-! ## The sensor table -/

/-- A JSON value as Python's `json` reads it. Of the types the server does not
support only the texts in its error message matter. Floats are those of the
wire format. -/
inductive JsonValue (F : Type) where
  | int (value : ℤ)
  | float (value : F)
  | str (value : String)
  | bool (value : Bool)
  | other (text type : String)
deriving DecidableEq, Repr

/-- The value of an attribute: a single one, or a list. -/
inductive AttributeValue (F : Type) where
  | single (value : JsonValue F)
  | list (values : List (JsonValue F))
deriving DecidableEq, Repr

/-- An attribute of the table. The names of attributes are not read. -/
structure Attribute (F : Type) where
  id : ℤ
  value : AttributeValue F
deriving DecidableEq, Repr

/-- An entry of the table, with the UID in numbers. -/
structure Entry (F : Type) where
  dataType : String
  uid : SscUid
  attributes : List (Attribute F)
deriving DecidableEq, Repr

/-! ## Protobuf -/

/-- An exception in the server. The first kind is raised by the server itself,
the next ones by protobuf: a value that does not fit its field, a message that
does not parse, a message with a required field missing. The last is Python's,
where a length does not fit its two bytes. -/
inductive PyError where
  | notImplementedError (message : String)
  | valueError
  | decodeError
  | encodeError
  | overflowError
deriving DecidableEq, Repr

/-- A request to the service; the body's message is optional. -/
structure SscClientRequest where
  uid : SscUid
  msgId : UInt32
  msg : Option GArray
deriving DecidableEq, Repr

/-- The serialisation of what the two sides send, and the parsing of what the
server receives; `none` raises a `DecodeError`. -/
structure Wire (F : Type) where
  requestPack : RequestMessage F → GArray
  clientRequestPack : SscClientRequest → GArray
  clientRequestParse : GArray → Option SscClientRequest
  suidRequestParse : GArray → Option SscSuidRequest
  suidResponseSerialize : SscSuidResponse → GArray
  attrResponseSerialize : SscAttrResponse F → GArray
  clientResponseSerialize : SscClientResponse → GArray

/-- The bytes `ssc_client_send` packs for a request. -/
def Wire.pack (wire : Wire F) (uid : SscUid) (msgId : UInt32)
    (protobuf : Option (RequestMessage F)) : GArray :=
  wire.clientRequestPack ⟨uid, msgId, protobuf.map wire.requestPack⟩

/-- A string as C reads it: up to the first NUL. -/
def cString (s : String) : String :=
  String.ofList (s.toList.takeWhile (· ≠ '\x00'))

/-- A string that C can hold. -/
def IsCString (s : String) : Prop := '\x00' ∉ s.toList

instance : DecidablePred IsCString := fun s =>
  inferInstanceAs (Decidable ('\x00' ∉ s.toList))

theorem cString_of_isCString {s : String} (h : IsCString s) : cString s = s := by
  unfold cString
  have htake : s.toList.takeWhile (· ≠ '\x00') = s.toList := by
    apply List.takeWhile_eq_self_iff.mpr
    intro c hc
    simp only [ne_eq, decide_eq_true_eq]
    rintro rfl
    exact h hc
  rw [htake, String.ofList_toList]

/-- An attribute value, with its string as C reads it. -/
def SscAttrValue.received (v : SscAttrValue F) : SscAttrValue F :=
  { v with s := v.s.map cString }

def SscAttr.received (a : SscAttr F) : SscAttr F :=
  { a with valueArray := a.valueArray.map SscAttrValue.received }

/-- Nothing is lost on the way, except for what follows a NUL. -/
structure Lossless (pb : Protobuf F) (wire : Wire F) : Prop where
  clientRequest : ∀ m,
    wire.clientRequestParse (wire.clientRequestPack m) = some m
  suidRequest : ∀ m, IsCString m.dataType →
    wire.suidRequestParse (wire.requestPack (.suid m)) = some m
  suidResponse : ∀ m, pb.suidResponseUnpack (wire.suidResponseSerialize m) =
    some { m with dataType := cString m.dataType }
  attrResponse : ∀ m, pb.attrResponseUnpack (wire.attrResponseSerialize m) =
    some ⟨m.attr.map SscAttr.received⟩
  clientResponse : ∀ m,
    pb.clientResponseUnpack (wire.clientResponseSerialize m) = some m

/-- Data that fit an indication, with the 16 bytes that are put around them and
counted in two bytes. -/
def DataFits (response : GArray) : Prop := response.length ≤ 65519

instance : DecidablePred DataFits := fun response =>
  inferInstanceAs (Decidable (response.length ≤ 65519))

/-! ## Requests and responses -/

namespace Server

/-- `parse_protobuf_client_request`. -/
def parseProtobufClientRequest (wire : Wire F) (message : GArray) :
    Except PyError (UInt32 × SscUid) :=
  match wire.clientRequestParse message with
  | none => .error .decodeError
  | some clientRequest => .ok (clientRequest.msgId, clientRequest.uid)

/-- `parse_protobuf_discovery_request`: the data type to discover. -/
def parseProtobufDiscoveryRequest (wire : Wire F) (message : GArray) :
    Except PyError String :=
  match wire.clientRequestParse message with
  | none => .error .decodeError
  | some clientRequest =>
      match wire.suidRequestParse (clientRequest.msg.getD []) with
      | none => .error .decodeError
      | some suidRequest => .ok suidRequest.dataType

/-- The envelope of a response with one body. -/
def envelope (wire : Wire F) (uid : SscUid) (msgId : UInt32) (msg : GArray) :
    GArray :=
  wire.clientResponseSerialize ⟨uid, [⟨msgId, msg⟩]⟩

/-- `generate_protobuf_discovery_response`: the UID of the first entry with the
data type, or none. -/
def generateProtobufDiscoveryResponse (wire : Wire F) (data : List (Entry F))
    (dataType : String) : GArray :=
  let uid := (data.find? (fun entry => entry.dataType = dataType)).map Entry.uid
  envelope wire SSC_SUID_SENSOR_UID SSC_PROTOBUF_DISCOVERY_MSG_ID
    (wire.suidResponseSerialize ⟨dataType, uid.toList⟩)

/-- `SscAttrValue (i=...)` and its siblings; `list` tells which message an
unsupported type gets. -/
def attrValue (list : Bool) : JsonValue F → Except PyError (SscAttrValue F)
  | .int i =>
      if 0 ≤ i ∧ i < 2 ^ 64 then
        .ok { s := none, f := none, i := some (.ofNat i.toNat), b := none }
      else .error .valueError
  | .float f => .ok { s := none, f := some f, i := none, b := none }
  | .str s => .ok { s := some s, f := none, i := none, b := none }
  | .bool b => .ok { s := none, f := none, i := none, b := some b }
  | .other text type =>
      .error (.notImplementedError
        (if list then
          "Attribute value type in list unsupported: " ++ text ++ " (" ++ type ++ ")"
        else
          "Attribute value type unsupported: " ++ text ++ " (" ++ type ++ ")"))

/-- The first loop, on one attribute. -/
def attributeValues (a : Attribute F) :
    Except PyError (ℤ × List (SscAttrValue F)) :=
  match a.value with
  | .single v => (attrValue false v).map (fun value => (a.id, [value]))
  | .list vs => (vs.mapM (attrValue true)).map (fun values => (a.id, values))

/-- The second loop, on one attribute: the id has to fit an `int32`. -/
def attrMessage (a : ℤ × List (SscAttrValue F)) : Except PyError (SscAttr F) :=
  if -2 ^ 31 ≤ a.1 ∧ a.1 < 2 ^ 31 then .ok ⟨.ofInt a.1, a.2⟩
  else .error .valueError

/-- `generate_protobuf_attributes_response`: the attributes of the first entry
with the UID. An attribute without values lacks a required field. -/
def generateProtobufAttributesResponse (wire : Wire F) (data : List (Entry F))
    (uid : SscUid) : Except PyError GArray := do
  let attributes ←
    match data.find? (fun entry => entry.uid = uid) with
    | none => pure []
    | some entry => entry.attributes.mapM attributeValues
  if attributes = [] then
    throw (.notImplementedError ("Unable to match sensor " ++
      toString uid.high ++ "," ++ toString uid.low ++ " with attributes"))
  let attr ← attributes.mapM attrMessage
  if attr.any (fun a => a.valueArray.isEmpty) then throw .encodeError
  return envelope wire uid SSC_PROTOBUF_RESPONSE_GET_ATTRIBUTES_MSG_ID
    (wire.attrResponseSerialize ⟨attr⟩)

/-- What `_reply_msg` does about a request: send an indication with the data,
start or stop a measurement worker, or warn that the message is not supported. -/
inductive Reply where
  | indication (data : GArray)
  | enable (uid : SscUid)
  | disable (uid : SscUid)
  | unsupported (messageId : UInt32)
deriving DecidableEq, Repr

/-- What `_reply_msg` decides to do, after the acknowledgement. -/
def respond (wire : Wire F) (data : List (Entry F)) (message : GArray) :
    Except PyError Reply := do
  let (messageId, uid) ← parseProtobufClientRequest wire message
  if messageId = SSC_PROTOBUF_DISCOVER_MSG_ID ∧ uid = SSC_SUID_SENSOR_UID then
    let sensor ← parseProtobufDiscoveryRequest wire message
    return .indication (generateProtobufDiscoveryResponse wire data sensor)
  else if messageId = SSC_PROTOBUF_GET_ATTRIBUTE_MSG_ID then
    let response ← generateProtobufAttributesResponse wire data uid
    return .indication response
  else if messageId = SSC_PROTOBUF_ENABLE_REPORT_MSG_ID ∨
      messageId = SSC_PROTOBUF_ENABLE_CONTINUOUS_MSG_ID then
    return .enable uid
  else if messageId = SSC_PROTOBUF_DISABLE_REPORT_MSG_ID then
    return .disable uid
  else
    return .unsupported messageId

/-- `generate_report_large_indication`, which raises an exception where the length
of the message does not fit its field. -/
def reportLargeIndication (response : GArray) : Except PyError GArray :=
  if DataFits response then .ok response else .error .overflowError

theorem reportLargeIndication_of_fits {response : GArray} (h : DataFits response) :
    reportLargeIndication response = .ok response := if_pos h

theorem reportLargeIndication_of_not_fits {response : GArray}
    (h : ¬ DataFits response) :
    reportLargeIndication response = .error .overflowError := if_neg h

/-- A reply as far as it can be sent: an indication has to be generated first. -/
def Reply.generated : Reply → Except PyError Reply
  | .indication response => (reportLargeIndication response).map .indication
  | reply => .ok reply

/-- `_reply_msg`, after the acknowledgement. -/
def replyMsg (wire : Wire F) (data : List (Entry F)) (message : GArray) :
    Except PyError Reply :=
  (respond wire data message).bind Reply.generated

theorem replyMsg_of_respond {wire : Wire F} {data : List (Entry F)}
    {message response : GArray}
    (h : respond wire data message = .ok (.indication response)) :
    replyMsg wire data message = (reportLargeIndication response).map .indication := by
  unfold replyMsg
  rw [h]
  rfl

/-! ## What the server replies -/

/-- The attribute is encoded as `m`: its value has a supported type, its numbers
fit, and it has at least one value. -/
def EncodesTo (a : Attribute F) (m : SscAttr F) : Prop :=
  ∃ v, attributeValues a = .ok v ∧ attrMessage v = .ok m ∧ m.valueArray ≠ []

/-- The encoder accepts the attribute. -/
def Accepted (a : Attribute F) : Prop := ∃ m, EncodesTo a m

/-- A loop that raises nothing has processed each element. -/
theorem mapM_eq_ok {α β : Type} {f : α → Except PyError β} {l : List α}
    {l' : List β} (h : List.Forall₂ (fun a b => f a = .ok b) l l') :
    l.mapM f = .ok l' := by
  induction h with
  | nil => rfl
  | cons ha _ ih =>
      rw [List.mapM_cons, ha, ih]
      rfl

theorem exists_forall₂ {α β : Type} {R : α → β → Prop} {l : List α}
    (h : ∀ a ∈ l, ∃ b, R a b) : ∃ l', List.Forall₂ R l l' := by
  induction l with
  | nil => exact ⟨[], .nil⟩
  | cons a l ih =>
      obtain ⟨b, hb⟩ := h a List.mem_cons_self
      obtain ⟨l', hl'⟩ := ih fun a ha => h a (List.mem_cons_of_mem _ ha)
      exact ⟨b :: l', .cons hb hl'⟩

/-- Both loops, one after the other. -/
theorem forall₂_encodesTo {as : List (Attribute F)} {attr : List (SscAttr F)}
    (h : List.Forall₂ EncodesTo as attr) :
    ∃ values, List.Forall₂ (fun a v => attributeValues a = .ok v) as values ∧
      List.Forall₂ (fun v m => attrMessage v = .ok m) values attr ∧
      ∀ m ∈ attr, m.valueArray ≠ [] := by
  induction h with
  | nil => exact ⟨[], .nil, .nil, by simp⟩
  | cons ha _ ih =>
      obtain ⟨v, hv, hm, hnil⟩ := ha
      obtain ⟨values, hvs, hms, hnils⟩ := ih
      exact ⟨v :: values, .cons hv hvs, .cons hm hms,
        List.forall_mem_cons.mpr ⟨hnil, hnils⟩⟩

/-- The response for an entry whose attributes are encoded as `attr`. -/
theorem generateProtobufAttributesResponse_eq {wire : Wire F}
    {data : List (Entry F)} {uid : SscUid} {entry : Entry F}
    {attr : List (SscAttr F)}
    (hfind : data.find? (fun entry => entry.uid = uid) = some entry)
    (hne : entry.attributes ≠ [])
    (hattr : List.Forall₂ EncodesTo entry.attributes attr) :
    generateProtobufAttributesResponse wire data uid =
      .ok (envelope wire uid SSC_PROTOBUF_RESPONSE_GET_ATTRIBUTES_MSG_ID
        (wire.attrResponseSerialize ⟨attr⟩)) := by
  obtain ⟨values, hvs, hms, hnils⟩ := forall₂_encodesTo hattr
  have hvne : values ≠ [] := by
    rintro rfl
    exact hne (List.forall₂_nil_right_iff.mp hvs)
  have hany : attr.any (fun a => a.valueArray.isEmpty) = false := by
    apply List.any_eq_false.mpr
    intro m hm
    simpa using hnils m hm
  unfold generateProtobufAttributesResponse
  simp only [hfind, mapM_eq_ok hvs, bind, Except.bind, if_neg hvne, pure,
    Except.pure]
  rw [mapM_eq_ok hms]
  simp only [hany]
  rfl

variable {pb : Protobuf F} {wire : Wire F} {data : List (Entry F)}

/-- A discovery request gets a discovery response. -/
theorem respond_suid (h : Lossless pb wire) {m : SscSuidRequest}
    (hm : IsCString m.dataType) :
    respond wire data
        (wire.pack SSC_SENSOR_UID_SUID SSC_MSG_REQUEST_SUID (some (.suid m))) =
      .ok (.indication
        (generateProtobufDiscoveryResponse wire data m.dataType)) := by
  simp only [respond, Wire.pack, parseProtobufClientRequest,
    parseProtobufDiscoveryRequest, h.clientRequest, Option.map_some,
    Option.getD_some, h.suidRequest m hm]
  rfl

/-- An attribute request gets the attribute response. -/
theorem respond_attr (h : Lossless pb wire) {uid : SscUid} {m : SscAttrRequest}
    {response : GArray}
    (hresponse :
      generateProtobufAttributesResponse wire data uid = .ok response) :
    respond wire data
        (wire.pack uid SSC_MSG_REQUEST_GET_ATTRIBUTES (some (.attr m))) =
      .ok (.indication response) := by
  have hdiscover : ¬ (SSC_MSG_REQUEST_GET_ATTRIBUTES =
      SSC_PROTOBUF_DISCOVER_MSG_ID ∧ uid = SSC_SUID_SENSOR_UID) :=
    fun hand => absurd hand.1 (by decide)
  have hattr : SSC_MSG_REQUEST_GET_ATTRIBUTES =
      SSC_PROTOBUF_GET_ATTRIBUTE_MSG_ID := rfl
  simp only [respond, Wire.pack, parseProtobufClientRequest, h.clientRequest,
    bind, Except.bind, if_neg hdiscover, if_pos hattr, hresponse]
  rfl

/-- Either is sent if it fits. -/
theorem replyMsg_of_fits {message response : GArray}
    (h : respond wire data message = .ok (.indication response))
    (hfits : DataFits response) :
    replyMsg wire data message = .ok (.indication response) := by
  rw [replyMsg_of_respond h, reportLargeIndication_of_fits hfits]
  rfl

end Server

end Libssc

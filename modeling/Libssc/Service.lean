import Libssc.QmiRoundTrip

/-!
# The QMI messages of the service

The three kinds of messages that the mocking server exchanges with a client: a
request with a report type and data, its acknowledgement, and indications with
data, each of which repeats the transaction id of a request.

A request is read from whatever TLVs it carries, so what is read from one that
has been generated depends only on the first TLV of either type
(`parseMessageControlInput_generateMessage`). What the server generates is
limited by the length fields of QMI, and within the limits it is what a parser
reads back.
-/

namespace Libssc

open Library

def SSC_CLIENT_ID : ℕ := 1

def SSC_CONTROL_MSG_ID : ℕ := 0x0020
def SSC_CONTROL_MSG_SUCCESS_ID : ℕ := 0x2
def SSC_CONTROL_MSG_REPORT_TYPE_ID : ℕ := 0x10
def SSC_CONTROL_MSG_CLIENT_ID : ℕ := 0x10
def SSC_CONTROL_MSG_DATA_ID : ℕ := 0x1

def SSC_REPORT_SMALL_MSG_ID : ℕ := 0x0021
def SSC_REPORT_SMALL_CLIENT_ID : ℕ := 0x01
def SSC_REPORT_SMALL_DATA : ℕ := 0x02
def SSC_REPORT_LARGE_MSG_ID : ℕ := 0x0022
def SSC_REPORT_LARGE_CLIENT_ID : ℕ := 0x01
def SSC_REPORT_LARGE_DATA : ℕ := 0x02

/-- SSC report types; the value of the last one is `sys.maxsize`. -/
inductive ReportType where
  | small
  | large
  | unknown
deriving DecidableEq, Repr

def ReportType.value : ReportType → ℕ
  | .small => 0x0
  | .large => 0x1
  | .unknown => 9223372036854775807

/-- The exceptions of reading a request: one of the codec, a failed assertion, the
`None` of a TLV that is not there, which is then taken apart, and the parser's
own. -/
inductive ControlError where
  | qmi (error : QmiError)
  | assertionError
  | typeError
  | notImplementedError (message : String)
deriving DecidableEq, Repr

namespace SSC

open Qmi

/-! ## Requests -/

/-- The value of a TLV, once `parse_tlv` has looked for it. -/
def tlvValue (fuel : ℕ) (message : GArray) (tlv : ℕ) (valueType : ValueType) :
    Option (Except ControlError TlvValue) :=
  (parseTlv fuel message tlv valueType).map (fun
    | .error e => .error (.qmi e)
    | .ok none => .error .typeError
    | .ok (some (_, _, value)) => .ok value)

/-- The report type that a value stands for. -/
def reportType : TlvValue → Except ControlError ReportType
  | .int value =>
      if value = ReportType.small.value then .ok .small
      else if value = ReportType.large.value then .ok .large
      else .error (.notImplementedError ("Unknown report type: " ++ toString value))
  -- the value has been decoded as a number
  | .bytes _ => .error .typeError

/-- The bytes of an array. -/
def arrayValue : TlvValue → Except ControlError GArray
  | .bytes value => .ok value
  -- the value has been decoded as an array
  | .int _ => .error .typeError

/-- What the two TLVs of a request say. -/
def controlInput (transactionId : ℕ) (type data : Except ControlError TlvValue) :
    Except ControlError (ReportType × GArray × ℕ) := do
  let reportType ← reportType (← type)
  let data ← arrayValue (← data)
  return (reportType, data, transactionId)

/-- `parse_message_control_input`: the report type, the data and the transaction
id of a request. -/
def parseMessageControlInput (fuel : ℕ) (message : GArray) :
    Option (Except ControlError (ReportType × GArray × ℕ)) :=
  match parseHeader message with
  | .error e => some (.error (.qmi e))
  | .ok (messageType, transactionId, messageId, _) =>
      if messageType ≠ .request ∨ messageId ≠ SSC_CONTROL_MSG_ID then
        some (.error .assertionError)
      else
        match tlvValue fuel message SSC_CONTROL_MSG_REPORT_TYPE_ID .int,
            tlvValue fuel message SSC_CONTROL_MSG_DATA_ID .array with
        | some type, some data => some (controlInput transactionId type data)
        | _, _ => none

/-! ## Acknowledgements and indications -/

/-- `generate_message_control_output`: QMI success, and the id of the client. -/
def generateMessageControlOutput (transactionId : ℕ) : Except QmiError GArray := do
  let message ← generateHeader .response transactionId SSC_CONTROL_MSG_ID
  let value := (← toBytes 0x000 2) ++ (← toBytes 0x000 2)
  let message ← generateTlv message SSC_CONTROL_MSG_SUCCESS_ID value .sequence
  let value ← toBytes SSC_CLIENT_ID 4
  generateTlv message SSC_CONTROL_MSG_CLIENT_ID value .int

/-- `generate_report_large_indication`. -/
def generateReportLargeIndication (data : GArray) (transactionId : ℕ) :
    Except QmiError GArray := do
  let message ← generateHeader .indication transactionId SSC_REPORT_LARGE_MSG_ID
  let value ← toBytes SSC_CLIENT_ID 8
  let message ← generateTlv message SSC_REPORT_LARGE_CLIENT_ID value .int
  generateTlv message SSC_REPORT_LARGE_DATA data .array

/-- `generate_report_small_indication`. -/
def generateReportSmallIndication (data : GArray) (transactionId : ℕ) :
    Except QmiError GArray := do
  let message ← generateHeader .indication transactionId SSC_REPORT_SMALL_MSG_ID
  let value ← toBytes SSC_CLIENT_ID 4
  let message ← generateTlv message SSC_REPORT_SMALL_CLIENT_ID value .int
  generateTlv message SSC_REPORT_SMALL_DATA data .array

/-! ## What is read from a request -/

variable {fuel : ℕ} {message : GArray}

/-- Enough fuel, and the search for a TLV has a result. -/
theorem tlvValue_isSome (h : message ≠ []) (hfuel : message.length < fuel)
    (tlv : ℕ) (valueType : ValueType) :
    (tlvValue fuel message tlv valueType).isSome = true := by
  have hlen : (message.drop 7).length - 0 < fuel := by
    rw [List.length_drop]
    omega
  unfold tlvValue
  rw [parseTlv_eq h, Option.isSome_map, Option.isSome_map]
  exact walk_isSome (sizeAt_pos _) hlen

/-- Reading a request always ends. -/
theorem parseMessageControlInput_isSome (hfuel : message.length < fuel) :
    (parseMessageControlInput fuel message).isSome = true := by
  unfold parseMessageControlInput
  cases message with
  | nil => rfl
  | cons b message =>
      simp only [parseHeader]
      split_ifs with hheader
      · rfl
      · obtain ⟨type, htype⟩ := Option.isSome_iff_exists.mp (tlvValue_isSome
          (List.cons_ne_nil b message) hfuel SSC_CONTROL_MSG_REPORT_TYPE_ID .int)
        obtain ⟨data, hdata⟩ := Option.isSome_iff_exists.mp (tlvValue_isSome
          (List.cons_ne_nil b message) hfuel SSC_CONTROL_MSG_DATA_ID .array)
        rw [htype, hdata]
        rfl

/-- The first TLV of a type, decoded as it is asked for. -/
def firstValue (ts : List Tlv) (tlv : ℕ) (valueType : ValueType) :
    Except ControlError TlvValue :=
  match ts.find? (fun t => t.id = tlv) with
  | none => .error .typeError
  | some t => .ok (decodeValue t.encodedValue valueType)

/-- Of the TLVs of a message the first one of a type is found, whatever kind of
value it was sent as. -/
theorem tlvValue_generateMessage {ty : MessageType} {tx id : ℕ} {ts : List Tlv}
    (h : generateMessage ty tx id ts = .ok message)
    (hfuel : message.length < fuel) (tlv : ℕ) (valueType : ValueType) :
    tlvValue fuel message tlv valueType = some (firstValue ts tlv valueType) := by
  obtain ⟨-, hts, rfl⟩ := eq_frame_of_generateMessage h
  have hlen : (encodeTlvs ts).length < fuel := by
    rw [length_frame] at hfuel
    omega
  unfold tlvValue firstValue
  rw [parseTlv_eq (frame_ne_nil _ _ _ _ _), drop_frame]
  cases hfind : ts.find? (fun t => t.id = tlv) with
  | none =>
      have hwalk := (laid_encodeTlvs hts tlv).walk_missing (sizeAt_pos _) hlen
        (fun t ht => decide_eq_false (by simpa using List.find?_eq_none.mp hfind t ht))
      rw [hwalk]
      rfl
  | some t =>
      obtain ⟨hid, pre, post, rfl, hpre⟩ := List.find?_eq_some_iff_append.mp hfind
      have ht : t.Fits := hts.1 t (by simp)
      have hwalk := (laid_encodeTlvs hts tlv).walk_found (sizeAt_pos _) hlen rfl
        (fun u hu => by simpa using hpre u hu) hid
      have hvalue : valueAt (encodeTlvs (pre ++ t :: post)) (totalSize pre) =
          t.encodedValue := by
        rw [encodeTlvs_split]
        exact valueAt_encode (length_encodeTlvs pre) ht
      rw [hwalk]
      show some (Except.ok (decodeValue (valueAt _ (totalSize pre)) valueType)) = _
      rw [hvalue]

/-- What the header of a request says, and what its TLVs do. -/
def readControlInput (messageType : MessageType) (transactionId messageId : ℕ)
    (ts : List Tlv) : Except ControlError (ReportType × GArray × ℕ) :=
  if messageType ≠ .request ∨ messageId ≠ SSC_CONTROL_MSG_ID then
    .error .assertionError
  else controlInput transactionId
    (firstValue ts SSC_CONTROL_MSG_REPORT_TYPE_ID .int)
    (firstValue ts SSC_CONTROL_MSG_DATA_ID .array)

/-- Reading a message that has been generated. -/
theorem parseMessageControlInput_eq {ty : MessageType} {tx id : ℕ}
    {ts : List Tlv} (h : generateMessage ty tx id ts = .ok message)
    (hfuel : message.length < fuel) :
    parseMessageControlInput fuel message =
      some (readControlInput ty tx id ts) := by
  have htype := tlvValue_generateMessage h hfuel
    SSC_CONTROL_MSG_REPORT_TYPE_ID .int
  have hdata := tlvValue_generateMessage h hfuel SSC_CONTROL_MSG_DATA_ID .array
  obtain ⟨hheader, hts, rfl⟩ := eq_frame_of_generateMessage h
  unfold parseMessageControlInput readControlInput
  rw [parseHeader_frame hheader (lengthField_lt hts), htype, hdata]
  simp only
  split_ifs <;> rfl

theorem reportType_eq_ok {v : TlvValue} {report : ReportType} :
    reportType v = .ok report ↔
      (report = .small ∨ report = .large) ∧ v = .int report.value := by
  cases v with
  | bytes value => simp [reportType]
  | int value =>
      simp only [reportType, TlvValue.int.injEq]
      constructor
      · intro h
        split_ifs at h with hsmall hlarge
        · obtain rfl := Except.ok.inj h
          exact ⟨Or.inl rfl, hsmall⟩
        · obtain rfl := Except.ok.inj h
          exact ⟨Or.inr rfl, hlarge⟩
      · rintro ⟨rfl | rfl, rfl⟩ <;> rfl

theorem controlInput_eq_ok {tx transactionId : ℕ} {report : ReportType}
    {data : GArray} {type value : Except ControlError TlvValue} :
    controlInput tx type value = .ok (report, data, transactionId) ↔
      transactionId = tx ∧ (∃ v, type = .ok v ∧ reportType v = .ok report) ∧
        value = .ok (.bytes data) := by
  unfold controlInput
  cases type with
  | error e => simp [bind, Except.bind]
  | ok v =>
      cases hv : reportType v with
      | error e => simp [bind, Except.bind, hv]
      | ok r =>
          cases value with
          | error e => simp [bind, Except.bind, hv]
          | ok d =>
              cases d with
              | int n => simp [bind, Except.bind, hv, arrayValue]
              | bytes b =>
                  simp only [bind, Except.bind, hv, arrayValue, pure, Except.pure,
                    Except.ok.injEq, Prod.mk.injEq, TlvValue.bytes.injEq,
                    exists_eq_left']
                  tauto

theorem firstValue_eq_ok {ts : List Tlv} {tlv : ℕ} {valueType : ValueType}
    {v : TlvValue} :
    firstValue ts tlv valueType = .ok v ↔
      ∃ t, ts.find? (fun t => t.id = tlv) = some t ∧
        decodeValue t.encodedValue valueType = v := by
  unfold firstValue
  cases ts.find? (fun t => t.id = tlv) <;> simp

theorem readControlInput_eq_ok {ty : MessageType} {tx id : ℕ} {ts : List Tlv}
    {report : ReportType} {data : GArray} {transactionId : ℕ} :
    readControlInput ty tx id ts = .ok (report, data, transactionId) ↔
      ty = .request ∧ id = SSC_CONTROL_MSG_ID ∧ transactionId = tx ∧
        (report = .small ∨ report = .large) ∧
        (∃ t, ts.find? (fun t => t.id = SSC_CONTROL_MSG_REPORT_TYPE_ID) = some t ∧
          ofBytes t.encodedValue = report.value) ∧
        ∃ t, ts.find? (fun t => t.id = SSC_CONTROL_MSG_DATA_ID) = some t ∧
          t.encodedValue.drop 2 = data := by
  unfold readControlInput
  split_ifs with hheader
  · apply iff_of_false (by simp)
    rintro ⟨hty, hid, -⟩
    exact hheader.elim (fun hno => hno hty) (fun hno => hno hid)
  · obtain ⟨hty, hid⟩ : ty = .request ∧ id = SSC_CONTROL_MSG_ID := by
      simpa using hheader
    rw [controlInput_eq_ok, firstValue_eq_ok]
    simp only [firstValue_eq_ok, reportType_eq_ok, decodeValue,
      TlvValue.bytes.injEq]
    constructor
    · rintro ⟨htx, ⟨v, ⟨t, ht, rfl⟩, hreport, hv⟩, hdata⟩
      exact ⟨hty, hid, htx, hreport, ⟨t, ht, TlvValue.int.inj hv⟩, hdata⟩
    · rintro ⟨-, -, htx, hreport, ⟨t, ht, hv⟩, hdata⟩
      exact ⟨htx, ⟨_, ⟨t, ht, rfl⟩, hreport, congrArg TlvValue.int hv⟩, hdata⟩

/-- **What is read from a message.** Whatever TLVs a message carries besides, and
in whatever order, a request is read from it exactly if it is a control request,
its first TLV of the report type is a number that stands for one, and there is a
TLV with data; then the data are those of the first one, and the transaction id
is the one of the message. -/
theorem parseMessageControlInput_generateMessage {ty : MessageType} {tx id : ℕ}
    {ts : List Tlv} (h : generateMessage ty tx id ts = .ok message)
    (hfuel : message.length < fuel) (report : ReportType) (data : GArray)
    (transactionId : ℕ) :
    parseMessageControlInput fuel message =
        some (.ok (report, data, transactionId)) ↔
      ty = .request ∧ id = SSC_CONTROL_MSG_ID ∧ transactionId = tx ∧
        (report = .small ∨ report = .large) ∧
        (∃ t, ts.find? (fun t => t.id = SSC_CONTROL_MSG_REPORT_TYPE_ID) = some t ∧
          ofBytes t.encodedValue = report.value) ∧
        ∃ t, ts.find? (fun t => t.id = SSC_CONTROL_MSG_DATA_ID) = some t ∧
          t.encodedValue.drop 2 = data := by
  rw [parseMessageControlInput_eq h hfuel, Option.some_inj]
  exact readControlInput_eq_ok

/-- A request as the library's QMI client may send it, with a TLV in front that
the server does not know. -/
def libraryRequest : List Tlv :=
  [⟨0x30, [7], .int⟩, ⟨0x1, [10, 18], .array⟩, ⟨0x10, [1], .int⟩]

theorem parseMessageControlInput_libraryRequest :
    generateMessage .request 3 0x20 libraryRequest = .ok
        [0, 3, 0, 0x20, 0, 15, 0, 0x30, 1, 0, 7, 1, 4, 0, 2, 0, 10, 18, 0x10, 1, 0,
          1] ∧
      parseMessageControlInput 23 [0, 3, 0, 0x20, 0, 15, 0, 0x30, 1, 0, 7, 1, 4, 0,
        2, 0, 10, 18, 0x10, 1, 0, 1] = some (.ok (.large, [10, 18], 3)) := by
  have h : generateMessage .request 3 0x20 libraryRequest = .ok
      [0, 3, 0, 0x20, 0, 15, 0, 0x30, 1, 0, 7, 1, 4, 0, 2, 0, 10, 18, 0x10, 1, 0,
        1] := by rfl
  refine ⟨h, (parseMessageControlInput_generateMessage h (by decide) _ _ _).mpr
    ⟨rfl, rfl, rfl, Or.inr rfl, ⟨⟨0x10, [1], .int⟩, by decide, by decide⟩,
      ⟨0x1, [10, 18], .array⟩, by decide, by decide⟩⟩

/-- The transaction id of a request fits two bytes. -/
theorem transactionId_lt {report : ReportType} {data : GArray} {tx : ℕ}
    (h : parseMessageControlInput fuel message = some (.ok (report, data, tx))) :
    tx < 65536 := by
  cases message with
  | nil => exact absurd h (by simp [parseMessageControlInput, parseHeader])
  | cons b message =>
      have htx : tx = ofBytes (slice (b :: message) 1 3) := by
        simp only [parseMessageControlInput, parseHeader] at h
        split_ifs at h
        · exact absurd h (by simp)
        · split at h
          · exact (controlInput_eq_ok.mp (Option.some.inj h)).1
          · exact absurd h (by simp)
      have hlength : (slice (b :: message) 1 3).length ≤ 2 := by
        rw [length_slice]
        omega
      rw [htx]
      calc ofBytes (slice (b :: message) 1 3)
          < 256 ^ (slice (b :: message) 1 3).length := ofBytes_lt _
        _ ≤ 256 ^ 2 := Nat.pow_le_pow_right (by norm_num) hlength
        _ = 65536 := by norm_num

/-! ## What the server sends -/

/-- The TLVs of an acknowledgement. -/
def controlOutputTlvs : List Tlv :=
  [⟨SSC_CONTROL_MSG_SUCCESS_ID, [0, 0, 0, 0], .sequence⟩,
    ⟨SSC_CONTROL_MSG_CLIENT_ID, leBytes 4 SSC_CLIENT_ID, .int⟩]

/-- The TLVs of an indication, with a client id of `width` bytes. -/
def reportTlvs (width : ℕ) (data : GArray) : List Tlv :=
  [⟨SSC_REPORT_LARGE_CLIENT_ID, leBytes width SSC_CLIENT_ID, .int⟩,
    ⟨SSC_REPORT_LARGE_DATA, data, .array⟩]

/-- The id of the client fits any field. -/
theorem toBytes_clientId {w : ℕ} (hw : w ≠ 0) :
    toBytes SSC_CLIENT_ID w = .ok (leBytes w SSC_CLIENT_ID) := by
  have hlt : SSC_CLIENT_ID < 256 ^ w := Nat.one_lt_pow hw (by norm_num)
  rw [toBytes_natCast rfl, if_pos hlt]

theorem generateMessage_two (ty : MessageType) (tx id : ℕ) (t u : Tlv) :
    generateMessage ty tx id [t, u] =
      generateHeader ty tx id >>= fun message =>
        generateTlv message t.id t.value t.kind >>= fun message =>
          generateTlv message u.id u.value u.kind := by
  unfold generateMessage appendTlvs
  simp only [List.foldlM_cons, List.foldlM_nil, bind_pure]

theorem ok_bind {α β : Type} (a : α) (f : α → Except QmiError β) :
    (Except.ok a >>= f) = f a := rfl

theorem generateMessageControlOutput_eq (tx : ℕ) :
    generateMessageControlOutput tx =
      generateMessage .response tx SSC_CONTROL_MSG_ID controlOutputTlvs := by
  have hzero : toBytes 0x000 2 = .ok [0, 0] := toBytes_two 0
  unfold generateMessageControlOutput controlOutputTlvs
  rw [generateMessage_two, hzero, toBytes_clientId (by decide)]
  apply bind_congr
  intro message
  apply (ok_bind _ _).trans
  apply (ok_bind _ _).trans
  apply bind_congr
  intro message
  exact ok_bind _ _

theorem generateReportLargeIndication_eq (data : GArray) (tx : ℕ) :
    generateReportLargeIndication data tx =
      generateMessage .indication tx SSC_REPORT_LARGE_MSG_ID (reportTlvs 8 data) := by
  unfold generateReportLargeIndication reportTlvs
  rw [generateMessage_two, toBytes_clientId (by decide)]
  apply bind_congr
  intro message
  exact ok_bind _ _

theorem generateReportSmallIndication_eq (data : GArray) (tx : ℕ) :
    generateReportSmallIndication data tx =
      generateMessage .indication tx SSC_REPORT_SMALL_MSG_ID (reportTlvs 4 data) := by
  unfold generateReportSmallIndication reportTlvs
  rw [generateMessage_two, toBytes_clientId (by decide)]
  apply bind_congr
  intro message
  exact ok_bind _ _

theorem totalSize_reportTlvs (w : ℕ) (data : GArray) :
    totalSize (reportTlvs w data) = w + data.length + 8 := by
  simp only [totalSize, reportTlvs, Tlv.size, Tlv.encodedLength, List.map_cons,
    List.map_nil, List.sum_cons, List.sum_nil, length_leBytes]
  omega

theorem tlvsFit_reportTlvs {w : ℕ} {data : GArray} :
    TlvsFit (reportTlvs w data) ↔ w + data.length + 8 ≤ 65535 := by
  unfold TlvsFit
  rw [totalSize_reportTlvs]
  apply and_iff_right_of_imp
  intro h
  simp only [reportTlvs, List.forall_mem_cons, Tlv.Fits, Tlv.encodedLength,
    length_leBytes]
  refine ⟨⟨by decide, by omega⟩, ⟨by decide, by omega⟩, by simp⟩

/-- The bytes of an acknowledgement. -/
def controlOutput (transactionId : ℕ) : GArray :=
  frame .response transactionId SSC_CONTROL_MSG_ID (totalSize controlOutputTlvs)
    (encodeTlvs controlOutputTlvs)

/-- The bytes of an indication. -/
def report (messageId width transactionId : ℕ) (data : GArray) : GArray :=
  frame .indication transactionId messageId (totalSize (reportTlvs width data))
    (encodeTlvs (reportTlvs width data))

theorem generateMessageControlOutput_of_lt {tx : ℕ} (h : tx < 65536) :
    generateMessageControlOutput tx = .ok (controlOutput tx) := by
  rw [generateMessageControlOutput_eq, generateMessage_eq,
    if_pos ⟨⟨by decide, h, by decide⟩, by decide⟩]
  rfl

/-- An indication is generated exactly if its data are not too long. -/
theorem generateMessage_reportTlvs {tx id : ℕ} (htx : tx < 65536) (hid : id < 65536)
    (w : ℕ) (data : GArray) :
    generateMessage .indication tx id (reportTlvs w data) =
      if w + data.length + 8 ≤ 65535 then .ok (report id w tx data)
      else .error .overflowError := by
  rw [generateMessage_eq]
  have hheader : HeaderFits .indication tx id := ⟨by decide, htx, hid⟩
  apply if_congr _ rfl rfl
  rw [tlvsFit_reportTlvs]
  exact and_iff_right hheader

example : generateReportLargeIndication [] 1 = .ok
    [0x04, 0x01, 0x00, 0x22, 0x00, 0x10, 0x00, 0x01, 0x08, 0x00, 0x01, 0x00, 0x00,
      0x00, 0x00, 0x00, 0x00, 0x00, 0x02, 0x02, 0x00, 0x00, 0x00] := by rfl

/-- What a reader finds in an indication: the transaction id, the client and the
data. -/
structure Indicates (messageId transactionId : ℕ) (data message : GArray) :
    Prop where
  header : ∃ n, parseHeader message =
    .ok (.indication, transactionId, messageId, n)
  client : ∀ fuel, message.length < fuel →
    tlvValue fuel message SSC_REPORT_LARGE_CLIENT_ID .int =
      some (.ok (.int SSC_CLIENT_ID))
  data : ∀ fuel, message.length < fuel →
    tlvValue fuel message SSC_REPORT_LARGE_DATA .array = some (.ok (.bytes data))

theorem indicates_of_generateMessage {tx id w : ℕ} (hw : w ≠ 0) {data : GArray}
    (h : generateMessage .indication tx id (reportTlvs w data) = .ok message) :
    Indicates id tx data message where
  header := by
    obtain ⟨hheader, hts, rfl⟩ := eq_frame_of_generateMessage h
    exact ⟨_, parseHeader_frame hheader (lengthField_lt hts) _⟩
  client := by
    intro fuel hfuel
    have hlt : SSC_CLIENT_ID < 256 ^ w := Nat.one_lt_pow hw (by norm_num)
    rw [tlvValue_generateMessage h hfuel, ← ofBytes_leBytes hlt]
    rfl
  data := by
    intro fuel hfuel
    rw [tlvValue_generateMessage h hfuel]
    show some (Except.ok (TlvValue.bytes ((leBytes 2 data.length ++ data).drop 2))) = _
    rw [List.drop_left' (length_leBytes 2 _)]

/-- **What the server sends is read back, whatever it contains.** An indication is
generated exactly if its data have at most 65519 bytes, or 65523 in a small one;
nothing is cut to fit. A reader then finds the transaction id and the data. -/
theorem indication_read {tx : ℕ} (htx : tx < 65536) (data : GArray) :
    (generateReportLargeIndication data tx = .error .overflowError ↔
        65519 < data.length) ∧
      (generateReportSmallIndication data tx = .error .overflowError ↔
        65523 < data.length) ∧
      (∀ message, generateReportLargeIndication data tx = .ok message →
        Indicates SSC_REPORT_LARGE_MSG_ID tx data message) ∧
      ∀ message, generateReportSmallIndication data tx = .ok message →
        Indicates SSC_REPORT_SMALL_MSG_ID tx data message := by
  rw [generateReportLargeIndication_eq, generateReportSmallIndication_eq]
  refine ⟨?_, ?_, fun message => indicates_of_generateMessage (by decide),
    fun message => indicates_of_generateMessage (by decide)⟩
  · rw [generateMessage_reportTlvs htx (by decide)]
    split_ifs with h
    · exact iff_of_false (by simp) (by omega)
    · exact iff_of_true rfl (by omega)
  · rw [generateMessage_reportTlvs htx (by decide)]
    split_ifs with h
    · exact iff_of_false (by simp) (by omega)
    · exact iff_of_true rfl (by omega)

theorem indication_read_one :
    (generateReportLargeIndication [10, 18] 1 = .error .overflowError ↔
        65519 < [10, 18].length) ∧
      (generateReportSmallIndication [10, 18] 1 = .error .overflowError ↔
        65523 < [10, 18].length) ∧
      (∀ message, generateReportLargeIndication [10, 18] 1 = .ok message →
        Indicates SSC_REPORT_LARGE_MSG_ID 1 [10, 18] message) ∧
      ∀ message, generateReportSmallIndication [10, 18] 1 = .ok message →
        Indicates SSC_REPORT_SMALL_MSG_ID 1 [10, 18] message :=
  indication_read (by norm_num) [10, 18]

end SSC

end Libssc

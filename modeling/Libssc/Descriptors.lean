import Libssc.Library.Schema
import Libssc.Driver
import Libssc.Measurements

/-!
# The messages on the wire

`Protobuf` and `Wire` are what the model takes of protobuf. Here they are the
format that the message definitions in `data/` stand for: field numbers, types
and labels are theirs. A `float` is its 32 bits (`GFloatBits`).

Of `SscAttrValue` the field with a nested array is not known, which no code
reads. A string that is not UTF-8 does not parse.
-/

namespace Libssc

open Library

/-- A type of floats that can be sent. -/
class GFloatBits (F : Type) where
  toBits : F → UInt32
  ofBits : UInt32 → F
  ofBits_toBits : ∀ x, ofBits (toBits x) = x

/-- The bits themselves. -/
instance : GFloatBits UInt32 where
  toBits := id
  ofBits := id
  ofBits_toBits _ := rfl

/-- Whole numbers in place of floats, and `atan2` in degrees at the points of the
compass. -/
instance : GFloatMath Int32 where
  zero := 0
  one := 1
  add := (· + ·)
  sub := (· - ·)
  mul := (· * ·)
  lt x y := decide (x < y)
  le x y := decide (x ≤ y)
  ofInt := Int32.ofInt
  trunc := id
  atan2 y x :=
    if y = 0 then (if x < 0 then 180 else 0)
    else if 0 < y then 90
    else -90
  toDegrees := id

instance : GFloatBits Int32 where
  toBits := Int32.toUInt32
  ofBits := UInt32.toInt32
  ofBits_toBits _ := rfl

namespace Descriptors

open ValueCodec MessageCodec

variable {F : Type} [GFloatBits F]

/-! ## Floats -/

def float : ValueCodec F :=
  fixed32.imap GFloatBits.toBits GFloatBits.ofBits GFloatBits.ofBits_toBits

/-- `repeated float`, which is also read where it is packed. -/
def repeatedFloat (n : ℕ) : MessageCodec [n] (List F) :=
  repeatedWith n float.write
    (fun p => match p with
      | .delimited bs => (readFixed32s bs).map (List.map GFloatBits.ofBits)
      | p => (float.read p).map (fun x => [x]))
    (fun x => congrArg (fun y => some [y]) (GFloatBits.ofBits_toBits x))

/-! ## `ssc-common.proto` -/

def sscUid : MessageCodec [1, 2] SscUid :=
  ((required 1 fixed64).and (required 2 fixed64) (by decide)).imap
    (fun u => (u.low, u.high)) (fun (low, high) => ⟨low, high⟩) (fun _ => rfl)

/-- `processor` and `suspend_mode`. -/
def sscClientConfig : MessageCodec [1, 2] (Int32 × Int32) :=
  (required 1 int32).and (required 2 int32) (by decide)

/-- `unknown`, `msg` and `is_passive`. -/
def sscClientRequestBody :
    MessageCodec [1, 2, 3] (Option GArray × Option GArray × Option Bool) :=
  (optional 1 bytes).and ((optional 2 bytes).and (optional 3 bool) (by decide))
    (by decide)

def SSC_PROCESSOR_APSS : Int32 := 1
def SSC_SUSPEND_MODE_WAKEUP : Int32 := 0

/-- A request with the configuration that the client gives it. -/
def sscClientRequest : MessageCodec [1, 2, 3, 4] SscClientRequest :=
  ((requiredMessage 1 sscUid).and ((required 2 fixed32).and
    ((requiredMessage 3 sscClientConfig).and (requiredMessage 4 sscClientRequestBody)
      (by decide)) (by decide)) (by decide)).imap
    (fun m => (m.uid, m.msgId, (SSC_PROCESSOR_APSS, SSC_SUSPEND_MODE_WAKEUP),
      (none, m.msg, none)))
    (fun p => ⟨p.1, p.2.1, p.2.2.2.2.1⟩) (fun _ => rfl)

/-- `msg_id`, `timestamp` and `msg`. -/
def sscClientResponseBody : MessageCodec [1, 2, 3] (UInt32 × UInt64 × GArray) :=
  (required 1 fixed32).and ((required 2 fixed64).and (required 3 bytes) (by decide))
    (by decide)

def sscClientResponse : MessageCodec [1, 2] (SscUid × List (UInt32 × UInt64 × GArray)) :=
  (requiredMessage 1 sscUid).and (repeated 2 sscClientResponseBody.embedded)
    (by decide)

def sscAttrRequest : MessageCodec [2] SscAttrRequest :=
  (optional 2 bool).imap SscAttrRequest.enableUpdates SscAttrRequest.mk
    (fun _ => rfl)

def sscAttrValue : MessageCodec [2, 3, 4, 5] (SscAttrValue F) :=
  ((optional 2 string).and ((optional 3 float).and
    ((optional 4 fixed64).and (optional 5 bool) (by decide)) (by decide))
    (by decide)).imap
    (fun v => (v.s, v.f, v.i, v.b)) (fun (s, f, i, b) => ⟨s, f, i, b⟩)
    (fun _ => rfl)

def sscAttrArrayValue : MessageCodec [1] (List (SscAttrValue F)) :=
  repeated 1 sscAttrValue.embedded

def sscAttr : MessageCodec [1, 2] (SscAttr F) :=
  ((required 1 int32).and (requiredMessage 2 sscAttrArrayValue) (by decide)).imap
    (fun a => (a.id, a.valueArray)) (fun (id, valueArray) => ⟨id, valueArray⟩)
    (fun _ => rfl)

def sscAttrResponse : MessageCodec [1] (SscAttrResponse F) :=
  (repeated 1 sscAttr.embedded).imap (fun ⟨attr⟩ => attr) SscAttrResponse.mk
    (fun _ => rfl)

def sscEnableConfigRequest : MessageCodec [1] (SscEnableConfigRequest F) :=
  (required 1 float).imap SscEnableConfigRequest.sampleRate
    SscEnableConfigRequest.mk (fun _ => rfl)

def sscConfigResponse : MessageCodec [1, 5] (SscConfigResponse F) :=
  ((optional 1 float).and (optional 5 string) (by decide)).imap
    (fun m => (m.sampleRate, m.mode)) (fun (sampleRate, mode) => ⟨sampleRate, mode⟩)
    (fun _ => rfl)

/-! ## `ssc-sensor-suid.proto` -/

def sscSuidRequest : MessageCodec [1, 2, 3] SscSuidRequest :=
  ((required 1 string).and ((optional 2 bool).and (optional 3 bool) (by decide))
    (by decide)).imap
    (fun m => (m.dataType, m.enableUpdates, m.onlyDefaultValues))
    (fun (dataType, enableUpdates, onlyDefaultValues) =>
      ⟨dataType, enableUpdates, onlyDefaultValues⟩) (fun _ => rfl)

def sscSuidResponse : MessageCodec [1, 2] SscSuidResponse :=
  ((required 1 string).and (repeated 2 sscUid.embedded) (by decide)).imap
    (fun m => (m.dataType, m.uid)) (fun (dataType, uid) => ⟨dataType, uid⟩)
    (fun _ => rfl)

/-! ## The sensors' definitions -/

/-- The responses of the accelerometer, the gyroscope, the magnetometer, the light
sensor and the rotation vector: the values and `accuracy`. -/
def sscFloatResponse : MessageCodec [1, 2] (List F × Int32) :=
  (repeatedFloat 1).and (required 2 int32) (by decide)

/-- `near`, `distance` and `accuracy`. -/
def sscProximityResponse : MessageCodec [1, 2, 3] (Int32 × Int32 × Int32) :=
  (required 1 int32).and ((required 2 int32).and (required 3 int32) (by decide))
    (by decide)

/-- `data` and `accuracy`. -/
def sscProximityResponseDavinci : MessageCodec [1, 2] (List GArray × Int32) :=
  (repeated 1 bytes).and (required 2 int32) (by decide)

end Descriptors

open Descriptors

variable {F : Type} [GFloatBits F]

/-! ## What the model takes of protobuf -/

/-- A string as C packs it ends before its first NUL. -/
def SscSuidRequest.packed (m : SscSuidRequest) : SscSuidRequest :=
  { m with dataType := cString m.dataType }

/-- The bodies of a response at a time. -/
def SscClientResponse.stamped (timestamp : UInt64) (m : SscClientResponse) :
    SscUid × List (UInt32 × UInt64 × GArray) :=
  (m.uid, m.response.map (fun body => (body.msgId, timestamp, body.msg)))

def SscClientResponse.ofStamped (p : SscUid × List (UInt32 × UInt64 × GArray)) :
    SscClientResponse :=
  ⟨p.1, p.2.map (fun body => ⟨body.1, body.2.2⟩)⟩

/-- The server's clock shows `timestamp`. -/
def Wire.descriptors (F : Type) [GFloatBits F] (timestamp : UInt64) : Wire F where
  requestPack
    | .suid m => sscSuidRequest.serialize m.packed
    | .attr m => sscAttrRequest.serialize m
    | .enableConfig m => sscEnableConfigRequest.serialize m
  clientRequestPack := sscClientRequest.serialize
  clientRequestParse := sscClientRequest.parse
  suidRequestParse := sscSuidRequest.parse
  suidResponseSerialize := sscSuidResponse.serialize
  attrResponseSerialize := sscAttrResponse.serialize
  clientResponseSerialize m := sscClientResponse.serialize (m.stamped timestamp)

def MeasurementWire.descriptors (F : Type) [GFloatBits F] (timestamp : UInt64) :
    MeasurementWire F where
  toWire := .descriptors F timestamp
  measurementSerialize
    | .proximity near distance accuracy =>
        sscProximityResponse.serialize (near, distance, accuracy)
    | .accelerometer acceleration accuracy =>
        sscFloatResponse.serialize (acceleration, accuracy)
    | .magnetometer magneticField accuracy =>
        sscFloatResponse.serialize (magneticField, accuracy)
    | .light intensity accuracy => sscFloatResponse.serialize (intensity, accuracy)
    | .rotationvector rotation accuracy =>
        sscFloatResponse.serialize (rotation, accuracy)

/-- The `ssc_*__unpack` functions. -/
def Protobuf.descriptors (F : Type) [GFloatBits F] : Protobuf F where
  clientResponseUnpack buf :=
    (sscClientResponse.parse buf).map SscClientResponse.ofStamped
  suidResponseUnpack buf := (sscSuidResponse.parse buf).map
    (fun m => { m with dataType := cString m.dataType })
  attrResponseUnpack buf := (sscAttrResponse.parse buf).map
    (fun m => ⟨m.attr.map SscAttr.received⟩)
  configResponseUnpack buf := (sscConfigResponse.parse buf).map
    (fun m => { m with mode := m.mode.map cString })
  accelerometerResponseUnpack buf := (sscFloatResponse.parse buf).map Prod.fst
  magnetometerResponseUnpack buf := (sscFloatResponse.parse buf).map Prod.fst
  gyroscopeResponseUnpack buf := (sscFloatResponse.parse buf).map Prod.fst
  lightResponseUnpack buf := (sscFloatResponse.parse buf).map Prod.fst
  rotationvectorResponseUnpack buf := (sscFloatResponse.parse buf).map Prod.fst
  proximityResponseUnpack buf :=
    (sscProximityResponse.parse buf).map (fun m => ⟨m.1⟩)
  proximityResponseDavinciUnpack buf :=
    (sscProximityResponseDavinci.parse buf).map (fun m => ⟨m.1⟩)
  davinciNear buf := GFloatBits.ofBits (UInt32.ofNat (ofBytes (buf.take 4)))

/-! ## Nothing is lost -/

theorem lossless_descriptors (timestamp : UInt64) :
    Lossless (Protobuf.descriptors F) (Wire.descriptors F timestamp) where
  clientRequest m := sscClientRequest.parse_serialize m
  suidRequest m hm := by
    have hpacked : m.packed = m := by
      unfold SscSuidRequest.packed
      rw [cString_of_isCString hm]
    show sscSuidRequest.parse (sscSuidRequest.serialize m.packed) = some m
    rw [hpacked, MessageCodec.parse_serialize]
  suidResponse m :=
    congrArg (Option.map _) (sscSuidResponse.parse_serialize m)
  attrResponse m :=
    congrArg (Option.map _) (sscAttrResponse.parse_serialize m)
  clientResponse m := by
    have hstamped : SscClientResponse.ofStamped (m.stamped timestamp) = m := by
      unfold SscClientResponse.ofStamped SscClientResponse.stamped
      rw [List.map_map]
      exact congrArg (SscClientResponse.mk m.uid) (List.map_id m.response)
    show (sscClientResponse.parse
      (sscClientResponse.serialize (m.stamped timestamp))).map _ = some m
    rw [MessageCodec.parse_serialize, Option.map_some, hstamped]

omit [GFloatBits F] in
/-- A response for proximity is none of the other format: what that has as bytes
in its first field is a number here. -/
theorem davinci_proximity (m : Int32 × Int32 × Int32) :
    sscProximityResponseDavinci.parse (sscProximityResponse.serialize m) = none := by
  have hread : sscProximityResponseDavinci.read (sscProximityResponse.write m) =
      none := rfl
  unfold MessageCodec.parse MessageCodec.serialize
  rw [parseFields_fieldBytes, Option.bind_some, hread]

/-- Nor of the measurements. -/
theorem measurementLossless_descriptors [GFloat F] (timestamp : UInt64) :
    MeasurementLossless (Protobuf.descriptors F)
      (MeasurementWire.descriptors F timestamp) where
  toLossless := lossless_descriptors timestamp
  accelerometer v a :=
    congrArg (Option.map Prod.fst) (sscFloatResponse.parse_serialize (v, a))
  magnetometer v a :=
    congrArg (Option.map Prod.fst) (sscFloatResponse.parse_serialize (v, a))
  light v a :=
    congrArg (Option.map Prod.fst) (sscFloatResponse.parse_serialize (v, a))
  rotationvector v a :=
    congrArg (Option.map Prod.fst) (sscFloatResponse.parse_serialize (v, a))
  proximity near distance accuracy := congrArg (Option.map _)
    (sscProximityResponse.parse_serialize (near, distance, accuracy))
  davinci near distance accuracy := congrArg (Option.map _)
    (davinci_proximity (near, distance, accuracy))

/-! ## Lengths -/

/-- An attribute response is no shorter than a string in it. -/
theorem length_le_attrResponseSerialize {timestamp : UInt64} {m : SscAttrResponse F}
    {a : SscAttr F} {v : SscAttrValue F} {l : List Char} (ha : a ∈ m.attr)
    (hv : v ∈ a.valueArray) (hs : v.s = some (String.ofList l)) :
    l.length ≤ ((Wire.descriptors F timestamp).attrResponseSerialize m).length := by
  have hvalue : ⟨2, .delimited (String.ofList l).toByteArray.data.toList⟩ ∈
      sscAttrValue.write v := by
    refine List.mem_append_left _ ?_
    show _ ∈ (MessageCodec.optional 2 ValueCodec.string).write v.s
    rw [hs]
    exact List.mem_singleton_self _
  have harray : ⟨1, .delimited (sscAttrValue.serialize v)⟩ ∈
      sscAttrArrayValue.write a.valueArray :=
    List.mem_map_of_mem (List.mem_map_of_mem hv)
  have hattr : ⟨2, .delimited (sscAttrArrayValue.serialize a.valueArray)⟩ ∈
      sscAttr.write a := List.mem_append_right _ (List.mem_singleton_self _)
  have hresponse : ⟨1, .delimited (sscAttr.serialize a)⟩ ∈ sscAttrResponse.write m :=
    List.mem_map_of_mem (List.mem_map_of_mem ha)
  calc l.length
    _ ≤ _ := ValueCodec.length_le_utf8 l
    _ ≤ _ := sscAttrValue.length_le_serialize hvalue
    _ ≤ _ := sscAttrArrayValue.length_le_serialize harray
    _ ≤ _ := sscAttr.length_le_serialize hattr
    _ ≤ _ := sscAttrResponse.length_le_serialize hresponse

/-- An envelope is no shorter than what is in it. -/
theorem length_le_envelope {timestamp : UInt64} {uid : SscUid} {msgId : UInt32}
    (msg : GArray) : msg.length ≤
      (Server.envelope (Wire.descriptors F timestamp) uid msgId msg).length := by
  have hbody : ⟨3, .delimited msg⟩ ∈
      sscClientResponseBody.write (msgId, timestamp, msg) :=
    List.mem_append_right _ (List.mem_append_right _ (List.mem_singleton_self _))
  have hresponse : ⟨2, .delimited (sscClientResponseBody.serialize
        (msgId, timestamp, msg))⟩ ∈
      sscClientResponse.write
        (SscClientResponse.stamped timestamp ⟨uid, [⟨msgId, msg⟩]⟩) :=
    List.mem_append_right _ (List.mem_singleton_self _)
  exact (sscClientResponseBody.length_le_serialize hbody).trans
    (sscClientResponse.length_le_serialize hresponse)

/-! The first request in `utils/strace.txt`, and the discovery response that the
service has sent for it. -/

example : (Wire.descriptors UInt32 0).pack SSC_SENSOR_UID_SUID SSC_MSG_REQUEST_SUID
      (some (.suid ⟨"registry", some true, some false⟩)) =
    [0x0a, 0x12, 0x09, 0xab, 0xab, 0xab, 0xab, 0xab, 0xab, 0xab, 0xab, 0x11, 0xab,
      0xab, 0xab, 0xab, 0xab, 0xab, 0xab, 0xab, 0x15, 0x00, 0x02, 0x00, 0x00, 0x1a,
      0x04, 0x08, 0x01, 0x10, 0x00, 0x22, 0x10, 0x12, 0x0e, 0x0a, 0x08, 0x72, 0x65,
      0x67, 0x69, 0x73, 0x74, 0x72, 0x79, 0x10, 0x01, 0x18, 0x00] := by
  decide +kernel

example : (Protobuf.descriptors UInt32).suidResponseUnpack
      [0x0a, 0x08, 0x72, 0x65, 0x67, 0x69, 0x73, 0x74, 0x72, 0x79, 0x12, 0x12, 0x09,
        0x75, 0x22, 0x1e, 0x70, 0xb4, 0x41, 0x25, 0x5e, 0x11, 0x59, 0x27, 0x7f, 0x00,
        0xa7, 0x54, 0x27, 0xe1] =
    some ⟨"registry", [⟨0x5e2541b4701e2275, 0xe12754a7007f2759⟩]⟩ := by
  decide +kernel

/-! ## What else a message may contain -/

/-- Fields with other numbers than these change nothing, wherever they stand. -/
def IgnoresOthers {α : Type} (numbers : List ℕ) (parse : GArray → Option α) : Prop :=
  ∀ before others after fs gs hs, parseFields before = some fs →
    parseFields others = some gs → parseFields after = some hs →
    (∀ f ∈ gs, f.number ∉ numbers) →
    parse (before ++ others ++ after) = parse (before ++ after)

theorem ignoresOthers_map {α β : Type} {numbers : List ℕ}
    (c : MessageCodec numbers α) (f : α → β) :
    IgnoresOthers numbers (fun buf => (c.parse buf).map f) := by
  intro before others after fs gs hs hbefore hothers hafter hunknown
  exact congrArg (Option.map f) (c.parse_others hbefore hothers hafter hunknown)

theorem ignoresOthers_parse {α : Type} {numbers : List ℕ}
    (c : MessageCodec numbers α) : IgnoresOthers numbers c.parse :=
  fun _ _ _ _ _ _ hbefore hothers hafter hunknown =>
    c.parse_others hbefore hothers hafter hunknown

/-- What either side reads of a message are the fields that it knows. -/
structure Extensible (pb : Protobuf F) (wire : Wire F) : Prop where
  clientRequest : IgnoresOthers [1, 2, 3, 4] wire.clientRequestParse
  suidRequest : IgnoresOthers [1, 2, 3] wire.suidRequestParse
  clientResponse : IgnoresOthers [1, 2] pb.clientResponseUnpack
  suidResponse : IgnoresOthers [1, 2] pb.suidResponseUnpack
  attrResponse : IgnoresOthers [1] pb.attrResponseUnpack
  configResponse : IgnoresOthers [1, 5] pb.configResponseUnpack
  accelerometer : IgnoresOthers [1, 2] pb.accelerometerResponseUnpack
  magnetometer : IgnoresOthers [1, 2] pb.magnetometerResponseUnpack
  gyroscope : IgnoresOthers [1, 2] pb.gyroscopeResponseUnpack
  light : IgnoresOthers [1, 2] pb.lightResponseUnpack
  rotationvector : IgnoresOthers [1, 2] pb.rotationvectorResponseUnpack
  proximity : IgnoresOthers [1, 2, 3] pb.proximityResponseUnpack
  davinci : IgnoresOthers [1, 2] pb.proximityResponseDavinciUnpack

theorem extensible_descriptors (timestamp : UInt64) :
    Extensible (Protobuf.descriptors F) (Wire.descriptors F timestamp) where
  clientRequest := ignoresOthers_parse sscClientRequest
  suidRequest := ignoresOthers_parse sscSuidRequest
  clientResponse := ignoresOthers_map sscClientResponse _
  suidResponse := ignoresOthers_map sscSuidResponse _
  attrResponse := ignoresOthers_map sscAttrResponse _
  configResponse := ignoresOthers_map sscConfigResponse _
  accelerometer := ignoresOthers_map sscFloatResponse _
  magnetometer := ignoresOthers_map sscFloatResponse _
  gyroscope := ignoresOthers_map sscFloatResponse _
  light := ignoresOthers_map sscFloatResponse _
  rotationvector := ignoresOthers_map sscFloatResponse _
  proximity := ignoresOthers_map sscProximityResponse _
  davinci := ignoresOthers_map sscProximityResponseDavinci _

/-- **The message definitions are a sound format.** Whatever message one side packs
or serialises, the other side reads as that message, up to what follows a NUL in a
string; and a message to which fields have been added reads as before. -/
theorem descriptors_format [GFloat F] (timestamp : UInt64) :
    MeasurementLossless (Protobuf.descriptors F)
        (MeasurementWire.descriptors F timestamp) ∧
      Extensible (Protobuf.descriptors F) (Wire.descriptors F timestamp) :=
  ⟨measurementLossless_descriptors timestamp, extensible_descriptors timestamp⟩

end Libssc

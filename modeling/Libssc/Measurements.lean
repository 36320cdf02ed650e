import Libssc.Server

/-!
# The measurements of the mocking server

The table also lists measurements for each sensor.
`generate_protobuf_sensor_measurement` selects one of them by the UID of the
sensor and a running index, and packs it into the response of the sensor's data
type.

The index is brought into range by subtracting the number of measurements as
often as that is possible. The loop takes fuel here, and `none` means that it
has run out. Where there are measurements an index needs at most one unit more
than its value (`wrapIndex_eq_mod`); where there are none the loop never ends
(`wrapIndex_zero`).
-/

namespace Libssc

variable {F : Type}

/-- `DataType`: the sensors that the server can generate measurements for. -/
inductive DataType where
  | proximity
  | accelerometer
  | magnetometer
  | light
  | rotationvector
deriving DecidableEq, Repr

def DataType.value : DataType → String
  | .proximity => "proximity"
  | .accelerometer => "accel"
  | .magnetometer => "mag"
  | .light => "ambient_light"
  | .rotationvector => "rotv"

/-- What a measurement of the table has for a key: a number or several. -/
inductive MeasurementValue (F : Type) where
  | int (value : ℤ)
  | list (values : List F)
deriving DecidableEq, Repr

abbrev Measurement (F : Type) := List (String × MeasurementValue F)

/-- An entry of the table with its measurements. -/
structure MeasuredEntry (F : Type) extends Entry F where
  measurements : List (Measurement F)
deriving DecidableEq, Repr

/-- The exceptions that generating a measurement raises. -/
inductive MeasurementError where
  | notImplementedError (message : String)
  | unboundLocalError (name : String)
  | indexError
  | keyError (key : String)
  | typeError
  | valueError
deriving DecidableEq, Repr

/-- The responses with measurements, as the server fills them in. -/
inductive MeasurementResponse (F : Type) where
  | proximity (near distance accuracy : Int32)
  | accelerometer (acceleration : List F) (accuracy : Int32)
  | magnetometer (magneticField : List F) (accuracy : Int32)
  | light (intensity : List F) (accuracy : Int32)
  | rotationvector (rotation : List F) (accuracy : Int32)
deriving DecidableEq, Repr

/-- What the server needs of protobuf to send measurements as well. -/
structure MeasurementWire (F : Type) extends Wire F where
  measurementSerialize : MeasurementResponse F → GArray

/-- A wire that knows finitely many requests and serialises nothing. -/
def MeasurementWire.ofRequests (requests : List (GArray × SscClientRequest)) :
    MeasurementWire F where
  requestPack _ := []
  clientRequestPack _ := []
  clientRequestParse buf := requests.lookup buf
  suidRequestParse _ := none
  suidResponseSerialize _ := []
  attrResponseSerialize _ := []
  clientResponseSerialize _ := []
  measurementSerialize _ := []

/-- Nothing is lost of the measurements either, and the message in which the
server sends near or far is none of the other format. -/
structure MeasurementLossless (pb : Protobuf F) (wire : MeasurementWire F) : Prop
    extends Lossless pb wire.toWire where
  accelerometer : ∀ v a, pb.accelerometerResponseUnpack
    (wire.measurementSerialize (.accelerometer v a)) = some v
  magnetometer : ∀ v a, pb.magnetometerResponseUnpack
    (wire.measurementSerialize (.magnetometer v a)) = some v
  light : ∀ v a, pb.lightResponseUnpack
    (wire.measurementSerialize (.light v a)) = some v
  rotationvector : ∀ v a, pb.rotationvectorResponseUnpack
    (wire.measurementSerialize (.rotationvector v a)) = some v
  proximity : ∀ near distance a, pb.proximityResponseUnpack
    (wire.measurementSerialize (.proximity near distance a)) = some ⟨near⟩
  davinci : ∀ near distance a, pb.proximityResponseDavinciUnpack
    (wire.measurementSerialize (.proximity near distance a)) = none

namespace Server

/-! ## Selecting a measurement -/

/-- `while len(entry['measurements']) <= index`, with `n` measurements. -/
def wrapIndex (n : ℕ) : ℕ → ℕ → Option ℕ
  | 0, _ => none
  | fuel + 1, index =>
      if n ≤ index then wrapIndex n fuel (index - n) else some index

theorem wrapIndex_eq_mod {n : ℕ} (hn : 0 < n) {fuel index : ℕ}
    (h : index < fuel) : wrapIndex n fuel index = some (index % n) := by
  induction fuel generalizing index with
  | zero => exact absurd h (Nat.not_lt_zero _)
  | succ fuel ih =>
      unfold wrapIndex
      split_ifs with hle
      · rw [ih (by omega), Nat.mod_eq_sub_mod hle]
      · rw [Nat.mod_eq_of_lt (Nat.not_le.mp hle)]

theorem wrapIndex_zero (fuel index : ℕ) : wrapIndex 0 fuel index = none := by
  induction fuel generalizing index with
  | zero => rfl
  | succ fuel ih =>
      unfold wrapIndex
      rw [if_pos (Nat.zero_le _), ih]

/-- The search of `generate_protobuf_sensor_measurement`: the data type and the
measurement it ends up with. The text of the first message is no f-string. -/
def selectMeasurement (fuel : ℕ) (data : List (MeasuredEntry F)) (uid : SscUid)
    (index : ℕ) : Option (Except MeasurementError (String × Measurement F)) :=
  match data.find? (fun entry => entry.uid = uid) with
  -- nothing has been assigned to `measurement`
  | none => some (.error (.unboundLocalError "measurement"))
  | some entry =>
      (wrapIndex entry.measurements.length fuel index).map (fun index =>
        match entry.measurements[index]? with
        | none => .error .indexError
        | some [] =>
            .error (.notImplementedError
              "Unable to match sensor \x7buid_high\x7d,\x7buid_low\x7d with measurements")
        | some (item :: items) => .ok (entry.dataType, item :: items))

/-! ## Packing it -/

/-- `measurement[key]`. -/
def getItem (m : Measurement F) (key : String) :
    Except MeasurementError (MeasurementValue F) :=
  match m.lookup key with
  | none => .error (.keyError key)
  | some v => .ok v

/-- A value assigned to a number field that holds `lo` up to, but not, `hi`. -/
def numberItem (lo hi : ℤ) (m : Measurement F) (key : String) :
    Except MeasurementError ℤ := do
  match ← getItem m key with
  | .int i => if lo ≤ i ∧ i < hi then .ok i else .error .valueError
  | .list _ => .error .typeError

def int32Item (m : Measurement F) (key : String) :
    Except MeasurementError Int32 :=
  (numberItem (-2 ^ 31) (2 ^ 31) m key).map Int32.ofInt

def fixed32Item (m : Measurement F) (key : String) :
    Except MeasurementError UInt32 :=
  (numberItem 0 (2 ^ 32) m key).map (fun i => .ofNat i.toNat)

/-- The loop that appends the values to a repeated field. -/
def listItem (m : Measurement F) (key : String) :
    Except MeasurementError (List F) := do
  match ← getItem m key with
  | .int _ => .error .typeError
  | .list vs => .ok vs

/-- The response for a measurement of a sensor with the data type. -/
def measurementResponse (uid : SscUid) (dataType : String) (m : Measurement F) :
    Except MeasurementError (MeasurementResponse F) := do
  if dataType = DataType.proximity.value then
    let near ← int32Item m "near"
    let distance ← int32Item m "distance"
    return .proximity near distance (← int32Item m "accuracy")
  else if dataType = DataType.accelerometer.value then
    let acceleration ← listItem m "acceleration"
    return .accelerometer acceleration (← int32Item m "accuracy")
  else if dataType = DataType.magnetometer.value then
    let magneticField ← listItem m "magnetic_field"
    return .magnetometer magneticField (← int32Item m "accuracy")
  else if dataType = DataType.light.value then
    let intensity ← listItem m "intensity"
    return .light intensity (← int32Item m "accuracy")
  else if dataType = DataType.rotationvector.value then
    let rotation ← listItem m "rotation"
    return .rotationvector rotation (← int32Item m "accuracy")
  else
    throw (.notImplementedError ("Unsupported sensor " ++ toString uid.high ++
      "," ++ toString uid.low ++ " for measurement generation"))

/-- The response as it is sent. -/
def measurementMessage (wire : MeasurementWire F) (uid : SscUid)
    (dataType : String) (m : Measurement F) : Except MeasurementError GArray := do
  let response ← measurementResponse uid dataType m
  let msgId ← fixed32Item m "id"
  return envelope wire.toWire uid msgId (wire.measurementSerialize response)

/-- `generate_protobuf_sensor_measurement`. -/
def generateProtobufSensorMeasurement (wire : MeasurementWire F) (fuel : ℕ)
    (data : List (MeasuredEntry F)) (uid : SscUid) (index : ℕ) :
    Option (Except MeasurementError GArray) :=
  (selectMeasurement fuel data uid index).map (fun selected =>
    selected.bind (fun m => measurementMessage wire uid m.1 m.2))

/-! ## Sensors with measurements -/

/-- The table has measurements for the sensor, and each of them can be sent. -/
def HasMeasurements (wire : MeasurementWire F) (data : List (MeasuredEntry F))
    (uid : SscUid) : Prop :=
  ∃ entry, data.find? (fun entry => entry.uid = uid) = some entry ∧
    entry.measurements ≠ [] ∧ ∀ m ∈ entry.measurements,
      m ≠ [] ∧ ∃ buf, measurementMessage wire uid entry.dataType m = .ok buf

/-- A sensor with measurements has one for every index. -/
theorem generate_of_hasMeasurements {wire : MeasurementWire F}
    {data : List (MeasuredEntry F)} {uid : SscUid}
    (h : HasMeasurements wire data uid) (index : ℕ) :
    ∃ buf, generateProtobufSensorMeasurement wire (index + 1) data uid index =
      some (.ok buf) := by
  obtain ⟨entry, hfind, hne, hall⟩ := h
  have hlen : 0 < entry.measurements.length := List.length_pos_iff.mpr hne
  have hlt : index % entry.measurements.length < entry.measurements.length :=
    Nat.mod_lt _ hlen
  obtain ⟨hm, buf, hbuf⟩ := hall _ (List.getElem_mem hlt)
  refine ⟨buf, ?_⟩
  unfold generateProtobufSensorMeasurement selectMeasurement
  rw [hfind]
  simp only [wrapIndex_eq_mod hlen (Nat.lt_succ_self index), Option.map_some,
    List.getElem?_eq_getElem hlt]
  cases hsel : entry.measurements[index % entry.measurements.length] with
  | nil => exact absurd hsel hm
  | cons item items =>
      rw [hsel] at hbuf
      exact congrArg some hbuf

/-- No measurement of the sensor is too long for an indication. -/
def MeasurementsFit (wire : MeasurementWire F) (data : List (MeasuredEntry F))
    (uid : SscUid) : Prop :=
  ∀ entry, data.find? (fun entry => entry.uid = uid) = some entry →
    ∀ m ∈ entry.measurements, ∀ response,
      measurementMessage wire uid entry.dataType m = .ok response → DataFits response

theorem dataFits_of_generate {wire : MeasurementWire F}
    {data : List (MeasuredEntry F)} {uid : SscUid} (h : MeasurementsFit wire data uid)
    {fuel index : ℕ} {response : GArray}
    (hgen : generateProtobufSensorMeasurement wire fuel data uid index =
      some (.ok response)) : DataFits response := by
  unfold generateProtobufSensorMeasurement selectMeasurement at hgen
  cases hfind : data.find? (fun entry => entry.uid = uid) with
  | none =>
      rw [hfind] at hgen
      exact absurd hgen (by simp [Except.bind])
  | some entry =>
      rw [hfind] at hgen
      simp only [Option.map_map, Option.map_eq_some_iff, Function.comp_apply] at hgen
      obtain ⟨j, -, hj⟩ := hgen
      cases hm : entry.measurements[j]? with
      | none =>
          rw [hm] at hj
          exact absurd hj (by simp [Except.bind])
      | some m =>
          rw [hm] at hj
          cases m with
          | nil => exact absurd hj (by simp [Except.bind])
          | cons item items => exact h entry hfind _ (List.mem_of_getElem? hm) _ hj

end Server

/-- A table with a proximity sensor. -/
def proximityTable : List (MeasuredEntry ℚ) :=
  [{ dataType := "proximity"
     uid := ⟨1, 1⟩
     attributes := []
     measurements :=
      [[("id", .int 769), ("near", .int 0), ("distance", .int 10),
        ("accuracy", .int 3)]] }]

end Libssc

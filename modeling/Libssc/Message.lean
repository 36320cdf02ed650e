import Mathlib.Data.List.Basic
import Mathlib.Data.Rat.Defs
import Mathlib.Algebra.Order.Ring.Rat
import Mathlib.Data.Rat.Floor

/-!
# Messages of the Snapdragon Sensor Core

The message ids, the UIDs and the protobuf messages that the library and the
sensors exchange, with the fields the code reads or writes. Bytes stay bytes:
decoding is done by protobuf, which is not part of this repository, so the
model takes it as a parameter (`Protobuf`). The same payload may decode as
several messages, and message id 768 really stands for two of them.

`gfloat` is a parameter as well (`GFloat`), with the operations the code
applies to it and nothing assumed about them; the rationals are its exact
instance.
-/

namespace Libssc

/-- The bytes of a `GArray` with one-byte elements. -/
abbrev GArray := List UInt8

/-! ## Message ids and reserved values -/

def SSC_MSG_REQUEST_ENABLE_REPORT_CONTINUOUS : UInt32 := 513
def SSC_MSG_REQUEST_ENABLE_REPORT_ON_CHANGE : UInt32 := 514
def SSC_MSG_RESPONSE_ENABLE_REPORT : UInt32 := 768
def SSC_MSG_REQUEST_DISABLE_REPORT : UInt32 := 10
def SSC_MSG_REQUEST_GET_ATTRIBUTES : UInt32 := 1
def SSC_MSG_RESPONSE_GET_ATTRIBUTES : UInt32 := 128
def SSC_MSG_REPORT_MEASUREMENT_PROXIMITY : UInt32 := 769
def SSC_MSG_REPORT_MEASUREMENT : UInt32 := 1025
def SSC_MSG_REQUEST_SUID : UInt32 := 512
def SSC_MSG_RESPONSE_SUID : UInt32 := 768

def SSC_ATTRIBUTE_NAME : Int32 := 0
def SSC_ATTRIBUTE_VENDOR : Int32 := 1
def SSC_ATTRIBUTE_AVAILABLE : Int32 := 3
def SSC_ATTRIBUTE_SAMPLE_RATE : Int32 := 6
def SSC_ATTRIBUTE_STREAM_TYPE : Int32 := 16
def SSC_ATTRIBUTE_MOUNT_MATRIX : Int32 := 20

def SSC_STREAM_TYPE_CONTINUOUS : UInt32 := 0
def SSC_STREAM_TYPE_ON_CHANGE : UInt32 := 1

/-- A sensor UID, 128 bits in two halves. -/
structure SscUid where
  low : UInt64
  high : UInt64
deriving DecidableEq, Repr

/-- `SSC_SENSOR_UID_SUID_HIGH` and `SSC_SENSOR_UID_SUID_LOW`: the sensor that
answers discovery requests. -/
def SSC_SENSOR_UID_SUID : SscUid where
  low := 0xABABABABABABABAB
  high := 0xABABABABABABABAB

/-! ## Floats -/

/-- The operations the code applies to `gfloat`. Comparisons are those of C, so
a NaN compares false. `trunc` is the conversion to `gint`, which has 32 bits. -/
class GFloat (F : Type) where
  zero : F
  one : F
  add : F → F → F
  sub : F → F → F
  mul : F → F → F
  lt : F → F → Bool
  le : F → F → Bool
  ofInt : Int → F
  trunc : F → Int32

/-- What becomes of a number that is converted to `gint` and does not fit: C leaves
this to the compiler. -/
class GintOverflow where
  convert : ℚ → Int32

/-- As on x86, where it is `INT_MIN`. -/
instance : GintOverflow where
  convert _ := -2147483648

/-- A number without its fraction, towards zero. -/
def truncate (x : ℚ) : Int := if 0 ≤ x then ⌊x⌋ else ⌈x⌉

/-- The numbers that a `gint` holds. -/
def FitsGint (n : Int) : Prop := -2 ^ 31 ≤ n ∧ n < 2 ^ 31

instance : DecidablePred FitsGint := fun n =>
  inferInstanceAs (Decidable (-2 ^ 31 ≤ n ∧ n < 2 ^ 31))

/-- Exact rational arithmetic, with C's truncation towards zero. -/
instance [GintOverflow] : GFloat ℚ where
  zero := 0
  one := 1
  add := (· + ·)
  sub := (· - ·)
  mul := (· * ·)
  lt x y := decide (x < y)
  le x y := decide (x ≤ y)
  ofInt n := n
  trunc x :=
    if FitsGint (truncate x) then .ofInt (truncate x) else GintOverflow.convert x

/-! ## Messages the library sends -/

structure SscSuidRequest where
  dataType : String
  enableUpdates : Option Bool
  onlyDefaultValues : Option Bool
deriving DecidableEq, Repr

structure SscAttrRequest where
  enableUpdates : Option Bool
deriving DecidableEq, Repr

structure SscEnableConfigRequest (F : Type) where
  sampleRate : F
deriving DecidableEq, Repr

/-- The protobuf message that a request to a sensor carries. -/
inductive RequestMessage (F : Type) where
  | suid (msg : SscSuidRequest)
  | attr (msg : SscAttrRequest)
  | enableConfig (msg : SscEnableConfigRequest F)
deriving DecidableEq, Repr

/-! ## Messages the library receives -/

structure SscSuidResponse where
  dataType : String
  uid : List SscUid
deriving DecidableEq, Repr

/-- An attribute value; which of the fields is present depends on the
attribute. -/
structure SscAttrValue (F : Type) where
  s : Option String
  f : Option F
  i : Option UInt64
  b : Option Bool
deriving DecidableEq, Repr

structure SscAttr (F : Type) where
  id : Int32
  valueArray : List (SscAttrValue F)
deriving DecidableEq, Repr

structure SscAttrResponse (F : Type) where
  attr : List (SscAttr F)
deriving DecidableEq, Repr

structure SscConfigResponse (F : Type) where
  sampleRate : Option F
  mode : Option String
deriving DecidableEq, Repr

structure SscClientResponseBody where
  msgId : UInt32
  msg : GArray
deriving DecidableEq, Repr

structure SscClientResponse where
  uid : SscUid
  response : List SscClientResponseBody
deriving DecidableEq, Repr

/-- The response of a sensor with one float per axis or per value. -/
abbrev SscFloatResponse (F : Type) := List F

structure SscProximityResponse where
  near : Int32
deriving DecidableEq, Repr

structure SscProximityResponseDavinci where
  data : List GArray
deriving DecidableEq, Repr

/-- Decoding of payloads: the `ssc_*__unpack` functions that protobuf-c
provides; `none` is their NULL. `davinciNear` reads the first `float` of the
64 bytes of a `ProximityDataDavinci`. -/
structure Protobuf (F : Type) where
  clientResponseUnpack : GArray → Option SscClientResponse
  suidResponseUnpack : GArray → Option SscSuidResponse
  attrResponseUnpack : GArray → Option (SscAttrResponse F)
  configResponseUnpack : GArray → Option (SscConfigResponse F)
  accelerometerResponseUnpack : GArray → Option (SscFloatResponse F)
  magnetometerResponseUnpack : GArray → Option (SscFloatResponse F)
  gyroscopeResponseUnpack : GArray → Option (SscFloatResponse F)
  lightResponseUnpack : GArray → Option (SscFloatResponse F)
  rotationvectorResponseUnpack : GArray → Option (SscFloatResponse F)
  proximityResponseUnpack : GArray → Option SscProximityResponse
  proximityResponseDavinciUnpack : GArray → Option SscProximityResponseDavinci
  davinciNear : GArray → F

/-- A decoder that knows finitely many payloads of the base sensor and no
measurements. -/
def Protobuf.ofTables {F : Type} [GFloat F]
    (suid : List (GArray × SscSuidResponse))
    (attr : List (GArray × SscAttrResponse F))
    (config : List (GArray × SscConfigResponse F)) : Protobuf F where
  clientResponseUnpack _ := none
  suidResponseUnpack buf := suid.lookup buf
  attrResponseUnpack buf := attr.lookup buf
  configResponseUnpack buf := config.lookup buf
  accelerometerResponseUnpack _ := none
  magnetometerResponseUnpack _ := none
  gyroscopeResponseUnpack _ := none
  lightResponseUnpack _ := none
  rotationvectorResponseUnpack _ := none
  proximityResponseUnpack _ := none
  proximityResponseDavinciUnpack _ := none
  davinciNear _ := GFloat.zero

/-- One `report` signal of the client: the arguments its handlers get. -/
structure Report where
  msgId : UInt32
  uid : SscUid
  buf : GArray
deriving DecidableEq, Repr

/-! ## Errors and results -/

/-- A `GError`: the domain's quark, the code within it, the message. -/
structure GError where
  domain : String
  code : ℕ
  message : String
deriving DecidableEq, Repr

/-- The argument of `g_task_return_boolean` or `g_task_return_error`. -/
inductive TaskResult where
  | boolean (value : Bool)
  | error (error : GError)
deriving DecidableEq, Repr

/-- `g_task_propagate_boolean`: the value it returns, and the error it sets. -/
def TaskResult.propagateBoolean : TaskResult → Bool × Option GError
  | .boolean value => (value, none)
  | .error e => (false, some e)

inductive SSCSensorError where
  | unavailable
  | sampleRateUnavailable
  | noService
deriving DecidableEq, Repr

def SSCSensorError.code : SSCSensorError → ℕ
  | .unavailable => 0
  | .sampleRateUnavailable => 1
  | .noService => 2

/-- An error of the domain `ssc_sensor_error_quark ()`. -/
def sscSensorError (e : SSCSensorError) (message : String) : GError where
  domain := "ssc-sensor"
  code := e.code
  message := message

end Libssc

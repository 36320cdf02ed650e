import Libssc.Library.Bytes
import Libssc.Library.Walk
import Libssc.Message

/-!
# QMI messages

The mocking server's own codec for QMI: a header of seven bytes, and after it any
number of TLVs, each with its type, the length of its value and the value.
Numbers are little endian. An array is a value with a length of its own in front.

`generate_header` starts a message and `generate_tlv` appends to it, each raising
an `OverflowError` where a number does not fit its field. `parse_tlv` walks from
TLV to TLV by their lengths and decodes every one it passes; its loop takes fuel
here, and `none` means that it has run out (`parseTlvLoop_eq` makes it a
`Library.walk`). Python's slices end where the message does.
-/

namespace Libssc

open Library

/-! ## Values and messages -/

inductive ValueType where
  | int
  | array
  | sequence
deriving DecidableEq, Repr

inductive MessageType where
  | request
  | response
  | indication
  | unknown
deriving DecidableEq, Repr

/-- The values of the enumeration; the last one is `sys.maxsize`. -/
def MessageType.value : MessageType → ℕ
  | .request => 0
  | .response => 2
  | .indication => 4
  | .unknown => 9223372036854775807

/-- A decoded value: a number, or the bytes of an array. -/
inductive TlvValue where
  | int (value : ℕ)
  | bytes (value : GArray)
deriving DecidableEq, Repr

/-- The exceptions of the codec: a number that does not fit, and `message[0]` of
an empty message. -/
inductive QmiError where
  | overflowError
  | indexError
deriving DecidableEq, Repr

/-- `to_bytes (length, byteorder='little')`. -/
def toBytes (n : ℤ) (length : ℕ) : Except QmiError GArray :=
  if 0 ≤ n ∧ n < 256 ^ length then .ok (leBytes length n.toNat)
  else .error .overflowError

namespace Qmi

/-! ## Generating -/

/-- `generate_header`. -/
def generateHeader (messageType : MessageType) (transactionId messageId : ℕ) :
    Except QmiError GArray := do
  let message ← toBytes messageType.value 1
  let message := message ++ (← toBytes transactionId 2)
  let message := message ++ (← toBytes messageId 2)
  return message ++ (← toBytes (message.length + 2) 2)

/-- The length of a TLV, and the one of an array. -/
def appendLength (message tlvValue : GArray) :
    ValueType → Except QmiError GArray
  | .array => do
      let message := message ++ (← toBytes (tlvValue.length + 2) 2)
      return message ++ (← toBytes tlvValue.length 2)
  | .int | .sequence => do
      return message ++ (← toBytes tlvValue.length 2)

/-- `generate_tlv`. -/
def generateTlv (message : GArray) (tlvId : ℕ) (tlvValue : GArray)
    (valueType : ValueType) : Except QmiError GArray := do
  -- add TLV and calculate its length
  let message := message ++ (← toBytes tlvId 1)
  let message ← appendLength message tlvValue valueType
  let message := message ++ tlvValue
  -- update QMI header length
  return message.take 5 ++ (← toBytes (message.length - 7) 2) ++ message.drop 7

/-! ## Parsing -/

/-- The type of a message with first byte `b`. -/
def messageType (b : UInt8) : MessageType :=
  if b.toNat = MessageType.request.value then .request
  else if b.toNat = MessageType.response.value then .response
  else if b.toNat = MessageType.indication.value then .indication
  else .unknown

/-- `parse_header`: the type, the transaction id, the message id and the length. -/
def parseHeader (message : GArray) :
    Except QmiError (MessageType × ℕ × ℕ × ℕ) :=
  match message with
  | [] => .error .indexError
  | b :: _ =>
      .ok (messageType b, ofBytes (slice message 1 3), ofBytes (slice message 3 5),
        ofBytes (slice message 5 7))

/-- The value of a TLV, with the length of an array stripped. -/
def decodeValue (tlvValue : GArray) : ValueType → TlvValue
  | .int | .sequence => .int (ofBytes tlvValue)
  | .array => .bytes (tlvValue.drop 2)

/-- The loop of `parse_tlv`, at `offset`. -/
def parseTlvLoop (tlvs : GArray) (tlv : ℕ) (valueType : ValueType) :
    ℕ → ℕ → Option (Option (ℕ × ℕ × TlvValue))
  | 0, _ => none
  | fuel + 1, offset =>
      if offset < tlvs.length then
        let tlvType := ofBytes (slice tlvs (0 + offset) (1 + offset))
        let tlvLength := ofBytes (slice tlvs (1 + offset) (3 + offset))
        let tlvValue := slice tlvs (3 + offset) (3 + tlvLength + offset)
        let value := decodeValue tlvValue valueType
        -- look for TLV in message, skip others
        if tlv ≠ tlvType then
          parseTlvLoop tlvs tlv valueType fuel (offset + (1 + 2 + tlvLength))
        else some (some (tlvType, tlvLength, value))
      else some none

/-- `parse_tlv`. -/
def parseTlv (fuel : ℕ) (message : GArray) (tlv : ℕ) (valueType : ValueType) :
    Option (Except QmiError (Option (ℕ × ℕ × TlvValue))) :=
  match parseHeader message with
  | .error e => some (.error e)
  | .ok _ => (parseTlvLoop (message.drop 7) tlv valueType fuel 0).map .ok

/-! ## The fields of a TLV -/

/-- The type of the TLV at an offset. -/
def typeAt (tlvs : GArray) (offset : ℕ) : ℕ :=
  ofBytes (slice tlvs offset (offset + 1))

/-- The length of its value. -/
def lengthAt (tlvs : GArray) (offset : ℕ) : ℕ :=
  ofBytes (slice tlvs (offset + 1) (offset + 3))

/-- The bytes of its value that are there. -/
def valueAt (tlvs : GArray) (offset : ℕ) : GArray :=
  slice tlvs (offset + 3) (offset + 3 + lengthAt tlvs offset)

/-- The TLV with its header. -/
def sizeAt (tlvs : GArray) (offset : ℕ) : ℕ := 3 + lengthAt tlvs offset

theorem sizeAt_pos (tlvs : GArray) (offset : ℕ) : 0 < sizeAt tlvs offset := by
  unfold sizeAt
  omega

/-- **The loop is a walk over the TLVs.** -/
theorem parseTlvLoop_eq (tlvs : GArray) (tlv : ℕ) (valueType : ValueType)
    (fuel offset : ℕ) :
    parseTlvLoop tlvs tlv valueType fuel offset =
      (walk (sizeAt tlvs) (fun o => typeAt tlvs o = tlv) tlvs.length fuel
        offset).map
        (Option.map (fun o => (tlv, lengthAt tlvs o,
          decodeValue (valueAt tlvs o) valueType))) := by
  induction fuel generalizing offset with
  | zero => rfl
  | succ fuel ih =>
      have htype : ofBytes (slice tlvs (0 + offset) (1 + offset)) =
          typeAt tlvs offset := by
        unfold typeAt
        rw [Nat.zero_add, Nat.add_comm 1]
      have hlength : ofBytes (slice tlvs (1 + offset) (3 + offset)) =
          lengthAt tlvs offset := by
        unfold lengthAt
        rw [Nat.add_comm 1, Nat.add_comm 3]
      have hvalue : slice tlvs (3 + offset) (3 + lengthAt tlvs offset + offset) =
          valueAt tlvs offset := by
        unfold valueAt
        congr 1
        · omega
        · omega
      unfold parseTlvLoop walk
      simp only [htype, hlength, hvalue]
      by_cases ho : offset < tlvs.length
      · rw [if_pos ho, if_pos ho]
        by_cases ht : typeAt tlvs offset = tlv
        · simp [ht]
        · have hne : tlv ≠ typeAt tlvs offset := fun h => ht h.symm
          rw [if_pos hne, ih]
          simp [ht, sizeAt]
      · rw [if_neg ho, if_neg ho]
        rfl

/-- With a header there is nothing to raise. -/
theorem parseTlv_eq {message : GArray} (h : message ≠ []) (fuel tlv : ℕ)
    (valueType : ValueType) :
    parseTlv fuel message tlv valueType =
      (walk (sizeAt (message.drop 7)) (fun o => typeAt (message.drop 7) o = tlv)
        (message.drop 7).length fuel 0).map (fun r => .ok (r.map (fun o =>
          (tlv, lengthAt (message.drop 7) o,
            decodeValue (valueAt (message.drop 7) o) valueType)))) := by
  cases message with
  | nil => exact absurd rfl h
  | cons b message =>
      unfold parseTlv
      simp only [parseHeader, parseTlvLoop_eq, Option.map_map]
      rfl

end Qmi

end Libssc

import Libssc.Qmi

/-!
# What is generated is parsed

A message is generated from a header and a list of TLVs, appended one by one. Its
bytes are the header, with the number of bytes after it, and the TLVs as they are
encoded (`generateMessage_eq`), or an `OverflowError` has been raised: there is no
third outcome, since no number is cut to fit its field. Parsing finds the header
and, for each type, the first TLV of that type, whatever lies around it.

Only a message without TLVs has a header of its own: there the length field is
seven, which counts the header.
-/

namespace Libssc

open Library

/-! ## TLVs and their encoding -/

/-- The arguments of one `generate_tlv`. -/
structure Tlv where
  id : ℕ
  value : GArray
  kind : ValueType
deriving DecidableEq, Repr

namespace Tlv

/-- The value as it is sent: an array has its length in front. -/
def encodedValue (t : Tlv) : GArray :=
  match t.kind with
  | .array => leBytes 2 t.value.length ++ t.value
  | .int | .sequence => t.value

/-- The number of bytes of the value as it is sent. -/
def encodedLength (t : Tlv) : ℕ :=
  match t.kind with
  | .array => t.value.length + 2
  | .int | .sequence => t.value.length

/-- The TLV as it is sent. -/
def encode (t : Tlv) : GArray :=
  leBytes 1 t.id ++ leBytes 2 t.encodedLength ++ t.encodedValue

/-- The number of bytes of the TLV as it is sent. -/
def size (t : Tlv) : ℕ := 3 + t.encodedLength

/-- What the value is decoded to. -/
def decoded (t : Tlv) : TlvValue :=
  match t.kind with
  | .array => .bytes t.value
  | .int | .sequence => .int (ofBytes t.value)

/-- The type and the length fit their fields. -/
def Fits (t : Tlv) : Prop := t.id < 256 ∧ t.encodedLength ≤ 65535

instance (t : Tlv) : Decidable t.Fits :=
  inferInstanceAs (Decidable (_ ∧ _))

@[simp] theorem length_encodedValue (t : Tlv) :
    t.encodedValue.length = t.encodedLength := by
  unfold encodedValue encodedLength
  cases t.kind with
  | array => simp [Nat.add_comm]
  | _ => rfl

@[simp] theorem length_encode (t : Tlv) : t.encode.length = t.size := by
  unfold encode size
  rw [List.length_append, List.length_append, length_leBytes, length_leBytes,
    length_encodedValue]

theorem size_pos (t : Tlv) : 0 < t.size := by
  unfold size
  omega

theorem decodeValue_encodedValue (t : Tlv) :
    Qmi.decodeValue t.encodedValue t.kind = t.decoded := by
  unfold encodedValue decoded
  cases t.kind with
  | array =>
      show TlvValue.bytes _ = _
      rw [List.drop_left' (length_leBytes 2 _)]
  | _ => rfl

end Tlv

/-- The bytes of TLVs, one after the other. -/
def encodeTlvs (ts : List Tlv) : GArray := ts.flatMap Tlv.encode

/-- The number of bytes of TLVs. -/
def totalSize (ts : List Tlv) : ℕ := (ts.map Tlv.size).sum

@[simp] theorem length_encodeTlvs (ts : List Tlv) :
    (encodeTlvs ts).length = totalSize ts := by
  unfold encodeTlvs totalSize
  rw [List.length_flatMap]
  simp

theorem encodeTlvs_append (ts us : List Tlv) :
    encodeTlvs (ts ++ us) = encodeTlvs ts ++ encodeTlvs us :=
  List.flatMap_append

theorem totalSize_append (ts us : List Tlv) :
    totalSize (ts ++ us) = totalSize ts + totalSize us := by
  unfold totalSize
  rw [List.map_append, List.sum_append]

theorem totalSize_singleton (t : Tlv) : totalSize [t] = t.size := by
  unfold totalSize
  simp

theorem encodeTlvs_singleton (t : Tlv) : encodeTlvs [t] = t.encode := by
  unfold encodeTlvs
  simp

namespace Qmi

/-! ## Generating a message -/

/-- The TLVs appended to a message, in order. -/
def appendTlvs (message : GArray) (ts : List Tlv) : Except QmiError GArray :=
  ts.foldlM (fun message t => generateTlv message t.id t.value t.kind) message

/-- A header and TLVs. -/
def generateMessage (messageType : MessageType) (transactionId messageId : ℕ)
    (ts : List Tlv) : Except QmiError GArray := do
  appendTlvs (← generateHeader messageType transactionId messageId) ts

/-- The first five bytes of a header. -/
def headerStart (messageType : MessageType) (transactionId messageId : ℕ) :
    GArray :=
  leBytes 1 messageType.value ++ leBytes 2 transactionId ++ leBytes 2 messageId

/-- A message with the length field `n`. -/
def frame (messageType : MessageType) (transactionId messageId n : ℕ)
    (tlvs : GArray) : GArray :=
  headerStart messageType transactionId messageId ++ leBytes 2 n ++ tlvs

/-- The length field of a message with the TLVs `ts`. -/
def lengthField (ts : List Tlv) : ℕ := if ts = [] then 7 else totalSize ts

/-- `to_bytes` of a number that is not negative. -/
theorem toBytes_natCast {w b : ℕ} (hb : 256 ^ w = b) (n : ℕ) :
    toBytes n w =
      if n < b then .ok (leBytes w n) else .error .overflowError := by
  unfold toBytes
  have h : (0 ≤ (n : ℤ) ∧ (n : ℤ) < 256 ^ w) ↔ n < b := by
    rw [← hb]
    constructor
    · rintro ⟨-, hlt⟩
      exact_mod_cast hlt
    · intro hlt
      exact ⟨Int.natCast_nonneg n, by exact_mod_cast hlt⟩
  rw [if_congr h rfl rfl, Int.toNat_natCast]

theorem toBytes_one (n : ℕ) :
    toBytes n 1 = if n < 256 then .ok (leBytes 1 n) else .error .overflowError :=
  toBytes_natCast (by norm_num) n

theorem toBytes_two (n : ℕ) :
    toBytes n 2 = if n < 65536 then .ok (leBytes 2 n)
      else .error .overflowError :=
  toBytes_natCast (by norm_num) n

theorem value_lt_iff {ty : MessageType} : ty.value < 256 ↔ ty ≠ .unknown := by
  cases ty with
  | unknown => exact iff_of_false (by norm_num [MessageType.value]) (by simp)
  | _ => exact iff_of_true (by norm_num [MessageType.value]) (by simp)

@[simp] theorem length_headerStart (ty : MessageType) (tx id : ℕ) :
    (headerStart ty tx id).length = 5 := by
  unfold headerStart
  simp

@[simp] theorem length_frame (ty : MessageType) (tx id n : ℕ) (tlvs : GArray) :
    (frame ty tx id n tlvs).length = 7 + tlvs.length := by
  unfold frame
  rw [List.length_append, List.length_append, length_headerStart, length_leBytes]

/-- The numbers of a header fit their fields. -/
def HeaderFits (messageType : MessageType) (transactionId messageId : ℕ) : Prop :=
  messageType ≠ .unknown ∧ transactionId < 65536 ∧ messageId < 65536

instance (ty : MessageType) (tx id : ℕ) : Decidable (HeaderFits ty tx id) :=
  inferInstanceAs (Decidable (_ ∧ _))

/-- A header is generated if its numbers fit. -/
theorem generateHeader_eq (ty : MessageType) (tx id : ℕ) :
    generateHeader ty tx id =
      if HeaderFits ty tx id then .ok (frame ty tx id 7 [])
      else .error .overflowError := by
  have hlength : toBytes ((leBytes 1 ty.value ++ leBytes 2 tx ++
      leBytes 2 id).length + 2) 2 = .ok (leBytes 2 7) := by
    rw [← headerStart, length_headerStart]
    exact toBytes_two 7
  by_cases hty : ty = .unknown
  · have hfirst : toBytes ty.value 1 = .error .overflowError := by
      rw [toBytes_one, if_neg (fun h => value_lt_iff.mp h hty)]
    rw [if_neg (fun h => h.1 hty), generateHeader, hfirst]
    rfl
  have hfirst : toBytes ty.value 1 = .ok (leBytes 1 ty.value) := by
    rw [toBytes_one, if_pos (value_lt_iff.mpr hty)]
  by_cases htx : tx < 65536
  · have hsecond : toBytes tx 2 = .ok (leBytes 2 tx) := by
      rw [toBytes_two, if_pos htx]
    by_cases hid : id < 65536
    · have hthird : toBytes id 2 = .ok (leBytes 2 id) := by
        rw [toBytes_two, if_pos hid]
      rw [if_pos ⟨hty, htx, hid⟩, generateHeader, hfirst, hsecond, hthird]
      simp only [bind, Except.bind]
      rw [hlength]
      exact congrArg Except.ok (List.append_nil _).symm
    · have hthird : toBytes id 2 = .error .overflowError := by
        rw [toBytes_two, if_neg hid]
      rw [if_neg (fun h => hid h.2.2), generateHeader, hfirst, hsecond, hthird]
      rfl
  · have hsecond : toBytes tx 2 = .error .overflowError := by
      rw [toBytes_two, if_neg htx]
    rw [if_neg (fun h => htx h.2.1), generateHeader, hfirst, hsecond]
    rfl

/-- The length fields of a TLV are written if its length fits. -/
theorem appendLength_eq (message : GArray) (t : Tlv) :
    (appendLength message t.value t.kind).map (· ++ t.value) =
      if t.encodedLength ≤ 65535 then
        .ok (message ++ leBytes 2 t.encodedLength ++ t.encodedValue)
      else .error .overflowError := by
  obtain ⟨id, value, kind⟩ := t
  have hplain : Except.map (· ++ value)
      (do return message ++ (← toBytes value.length 2)) =
      if value.length ≤ 65535 then
        .ok (message ++ leBytes 2 value.length ++ value)
      else .error .overflowError := by
    rw [toBytes_two]
    split_ifs with h₁ h₂ h₂
    · rfl
    · omega
    · omega
    · rfl
  cases kind with
  | int => exact hplain
  | sequence => exact hplain
  | array =>
      have hlength : toBytes (value.length + 2) 2 = toBytes (value.length + 2 : ℕ) 2 :=
        rfl
      show Except.map _ (appendLength message value .array) =
        if value.length + 2 ≤ 65535 then _ else _
      unfold appendLength
      rw [hlength, toBytes_two, toBytes_two]
      by_cases h : value.length + 2 ≤ 65535
      · have h₁ : value.length + 2 < 65536 := by omega
        have h₂ : value.length < 65536 := by omega
        rw [if_pos h₁, if_pos h₂, if_pos h]
        simp [Except.map, bind, Except.bind, pure, Except.pure, Tlv.encodedValue,
          Tlv.encodedLength]
      · have h₁ : ¬ value.length + 2 < 65536 := by omega
        rw [if_neg h₁, if_neg h]
        rfl

theorem take_frame (ty : MessageType) (tx id n : ℕ) (tlvs : GArray) :
    (frame ty tx id n tlvs).take 5 = headerStart ty tx id := by
  unfold frame
  rw [List.append_assoc, List.take_left' (length_headerStart ty tx id)]

@[simp] theorem drop_frame (ty : MessageType) (tx id n : ℕ) (tlvs : GArray) :
    (frame ty tx id n tlvs).drop 7 = tlvs := by
  unfold frame
  rw [List.drop_left' (by simp)]

theorem frame_append (ty : MessageType) (tx id n : ℕ) (tlvs l : GArray) :
    frame ty tx id n tlvs ++ l = frame ty tx id n (tlvs ++ l) :=
  List.append_assoc _ _ _

/-- The last step of `generate_tlv`: the length field counts what comes after the
header, if that fits. -/
theorem updateLength_eq (ty : MessageType) (tx id n : ℕ) (tlvs : GArray) :
    (do
      let message := frame ty tx id n tlvs
      return message.take 5 ++ (← toBytes (message.length - 7) 2) ++
        message.drop 7) =
      if tlvs.length ≤ 65535 then .ok (frame ty tx id tlvs.length tlvs)
      else .error .overflowError := by
  have hlength : ((frame ty tx id n tlvs).length : ℤ) - 7 = tlvs.length := by
    rw [length_frame]
    omega
  simp only [take_frame, drop_frame, hlength]
  rw [toBytes_two]
  by_cases h : tlvs.length ≤ 65535
  · have h' : tlvs.length < 65536 := by omega
    rw [if_pos h', if_pos h]
    rfl
  · have h' : ¬ tlvs.length < 65536 := by omega
    rw [if_neg h', if_neg h]
    rfl

/-- **A TLV is appended if it fits, and the length field counts it.** -/
theorem generateTlv_eq (ty : MessageType) (tx id n : ℕ) (tlvs : GArray)
    (t : Tlv) :
    generateTlv (frame ty tx id n tlvs) t.id t.value t.kind =
      if t.Fits ∧ tlvs.length + t.size ≤ 65535 then
        .ok (frame ty tx id (tlvs.length + t.size) (tlvs ++ t.encode))
      else .error .overflowError := by
  by_cases hid : t.id < 256
  · have hfirst : toBytes t.id 1 = .ok (leBytes 1 t.id) := by
      rw [toBytes_one, if_pos hid]
    have hfields := appendLength_eq (frame ty tx id n tlvs ++ leBytes 1 t.id) t
    unfold generateTlv
    rw [hfirst]
    simp only [bind, Except.bind]
    cases happ : appendLength (frame ty tx id n tlvs ++ leBytes 1 t.id) t.value
        t.kind with
    | error e =>
        rw [happ] at hfields
        split_ifs at hfields with hlen
        · exact absurd hfields (by simp [Except.map])
        · rw [if_neg (fun h => hlen h.1.2)]
          exact hfields
    | ok message =>
        rw [happ] at hfields
        split_ifs at hfields with hlen
        · have hmessage : message ++ t.value =
              frame ty tx id n (tlvs ++ t.encode) := by
            rw [← frame_append, Tlv.encode]
            simpa [Except.map] using hfields
          have hupdate := updateLength_eq ty tx id n (tlvs ++ t.encode)
          simp only
          rw [hmessage]
          apply hupdate.trans
          rw [List.length_append, Tlv.length_encode]
          exact if_congr (by simp [Tlv.Fits, hid, hlen]) rfl rfl
        · exact absurd hfields (by simp [Except.map])
  · have hfirst : toBytes t.id 1 = .error .overflowError := by
      rw [toBytes_one, if_neg hid]
    rw [if_neg (fun h => hid h.1.1), generateTlv, hfirst]
    rfl

/-- The numbers of TLVs fit, and so does the length of all of them. -/
def TlvsFit (ts : List Tlv) : Prop := (∀ t ∈ ts, t.Fits) ∧ totalSize ts ≤ 65535

theorem tlvsFit_concat {ts : List Tlv} {t : Tlv} :
    TlvsFit (ts ++ [t]) ↔
      TlvsFit ts ∧ t.Fits ∧ totalSize ts + t.size ≤ 65535 := by
  unfold TlvsFit
  rw [totalSize_append, totalSize_singleton, List.forall_mem_append,
    List.forall_mem_singleton]
  constructor
  · rintro ⟨⟨hts, ht⟩, htotal⟩
    exact ⟨⟨hts, by omega⟩, ht, htotal⟩
  · rintro ⟨⟨hts, -⟩, ht, htotal⟩
    exact ⟨⟨hts, ht⟩, htotal⟩

instance (ts : List Tlv) : Decidable (TlvsFit ts) :=
  inferInstanceAs (Decidable (_ ∧ _))

theorem generateMessage_concat (ty : MessageType) (tx id : ℕ) (ts : List Tlv)
    (t : Tlv) :
    generateMessage ty tx id (ts ++ [t]) =
      generateMessage ty tx id ts >>=
        fun message => generateTlv message t.id t.value t.kind := by
  unfold generateMessage appendTlvs
  simp only [List.foldlM_append, List.foldlM_cons, List.foldlM_nil, bind_pure,
    bind_assoc]

/-- **A message is generated if all its numbers fit, and then they are what they
stand for.** -/
theorem generateMessage_eq (ty : MessageType) (tx id : ℕ) (ts : List Tlv) :
    generateMessage ty tx id ts =
      if HeaderFits ty tx id ∧ TlvsFit ts then
        .ok (frame ty tx id (lengthField ts) (encodeTlvs ts))
      else .error .overflowError := by
  induction ts using List.reverseRecOn with
  | nil =>
      have hnil : TlvsFit [] := ⟨by simp, by simp [totalSize]⟩
      unfold generateMessage
      rw [generateHeader_eq]
      by_cases h : HeaderFits ty tx id
      · rw [if_pos h, if_pos ⟨h, hnil⟩]
        rfl
      · rw [if_neg h, if_neg (fun h' => h h'.1)]
        rfl
  | append_singleton ts t ih =>
      have hfield : lengthField (ts ++ [t]) = totalSize ts + t.size := by
        unfold lengthField
        rw [if_neg (by simp), totalSize_append, totalSize_singleton]
      rw [generateMessage_concat, ih, hfield, encodeTlvs_append,
        encodeTlvs_singleton]
      by_cases h : HeaderFits ty tx id ∧ TlvsFit ts
      · rw [if_pos h]
        simp only [bind, Except.bind]
        rw [generateTlv_eq, length_encodeTlvs]
        apply if_congr _ rfl rfl
        rw [tlvsFit_concat]
        exact ⟨fun h' => ⟨h.1, h.2, h'⟩, fun h' => h'.2.2⟩
      · have hconcat : ¬ (HeaderFits ty tx id ∧ TlvsFit (ts ++ [t])) :=
          fun h' => h ⟨h'.1, (tlvsFit_concat.mp h'.2).1⟩
        rw [if_neg h, if_neg hconcat]
        rfl

/-! ## Parsing it -/

/-- A header that has been generated is parsed. -/
theorem parseHeader_frame {ty : MessageType} {tx id n : ℕ}
    (h : HeaderFits ty tx id) (hn : n < 65536) (tlvs : GArray) :
    parseHeader (frame ty tx id n tlvs) = .ok (ty, tx, id, n) := by
  obtain ⟨hty, htx, hid⟩ := h
  have hcons : frame ty tx id n tlvs = UInt8.ofNat ty.value ::
      (leBytes 2 tx ++ leBytes 2 id ++ leBytes 2 n ++ tlvs) := by
    simp only [frame, headerStart, List.append_assoc]
    rfl
  have htype : messageType (UInt8.ofNat ty.value) = ty := by
    cases ty with
    | unknown => exact absurd rfl hty
    | _ => rfl
  have htransaction : slice (frame ty tx id n tlvs) 1 3 = leBytes 2 tx := by
    apply slice_eq (leBytes 1 ty.value) _ (leBytes 2 id ++ leBytes 2 n ++ tlvs)
      _ (by simp) (by simp)
    simp only [frame, headerStart, List.append_assoc]
  have hmessage : slice (frame ty tx id n tlvs) 3 5 = leBytes 2 id := by
    apply slice_eq (leBytes 1 ty.value ++ leBytes 2 tx) _ (leBytes 2 n ++ tlvs)
      _ (by simp) (by simp)
    simp only [frame, headerStart, List.append_assoc]
  have hlength : slice (frame ty tx id n tlvs) 5 7 = leBytes 2 n :=
    slice_eq (headerStart ty tx id) _ tlvs rfl (by simp) (by simp)
  have hparse : parseHeader (frame ty tx id n tlvs) =
      .ok (messageType (UInt8.ofNat ty.value),
        ofBytes (slice (frame ty tx id n tlvs) 1 3),
        ofBytes (slice (frame ty tx id n tlvs) 3 5),
        ofBytes (slice (frame ty tx id n tlvs) 5 7)) := by
    rw [hcons]
    rfl
  rw [hparse, htype, htransaction, hmessage, hlength, ofBytes_leBytes htx,
    ofBytes_leBytes hid, ofBytes_leBytes hn]

/-! ### One TLV among others -/

section OneTlv

variable {pre post : GArray} {t : Tlv} {o : ℕ}

theorem typeAt_encode (ho : pre.length = o) (ht : t.Fits) :
    typeAt (pre ++ t.encode ++ post) o = t.id := by
  have hslice : slice (pre ++ t.encode ++ post) o (o + 1) = leBytes 1 t.id := by
    apply slice_eq pre _ (leBytes 2 t.encodedLength ++ t.encodedValue ++ post) _ ho
      (by simp)
    simp only [Tlv.encode, List.append_assoc]
  rw [typeAt, hslice, ofBytes_leBytes (by simpa using ht.1)]

theorem lengthAt_encode (ho : pre.length = o) (ht : t.Fits) :
    lengthAt (pre ++ t.encode ++ post) o = t.encodedLength := by
  have hslice : slice (pre ++ t.encode ++ post) (o + 1) (o + 3) =
      leBytes 2 t.encodedLength := by
    apply slice_eq (pre ++ leBytes 1 t.id) _ (t.encodedValue ++ post) _
      (by simp [ho]) (by simp)
    simp only [Tlv.encode, List.append_assoc]
  have hlt : t.encodedLength < 256 ^ 2 := Nat.lt_succ_of_le ht.2
  rw [lengthAt, hslice, ofBytes_leBytes hlt]

theorem valueAt_encode (ho : pre.length = o) (ht : t.Fits) :
    valueAt (pre ++ t.encode ++ post) o = t.encodedValue := by
  rw [valueAt, lengthAt_encode ho ht]
  apply slice_eq (pre ++ leBytes 1 t.id ++ leBytes 2 t.encodedLength) _ post _
    (by simp [ho]) (by simp)
  simp only [Tlv.encode, List.append_assoc]

/-- The length in front of an array. -/
theorem arrayLengthAt_encode (ho : pre.length = o) (ht : t.Fits)
    (hkind : t.kind = .array) :
    ofBytes (slice (pre ++ t.encode ++ post) (o + 3) (o + 5)) =
      t.value.length := by
  have hvalue : t.encodedValue = leBytes 2 t.value.length ++ t.value := by
    unfold Tlv.encodedValue
    rw [hkind]
  have hlength : t.encodedLength = t.value.length + 2 := by
    unfold Tlv.encodedLength
    rw [hkind]
  have hslice : slice (pre ++ t.encode ++ post) (o + 3) (o + 5) =
      leBytes 2 t.value.length := by
    apply slice_eq (pre ++ leBytes 1 t.id ++ leBytes 2 t.encodedLength) _
      (t.value ++ post) _ (by simp [ho]) (by simp)
    simp only [Tlv.encode, hvalue, List.append_assoc]
  have hlt : t.value.length < 256 ^ 2 := by
    have := ht.2
    omega
  rw [hslice, ofBytes_leBytes hlt]

end OneTlv

theorem encodeTlvs_split (pre post : List Tlv) (t : Tlv) :
    encodeTlvs (pre ++ t :: post) =
      encodeTlvs pre ++ t.encode ++ encodeTlvs post := by
  rw [List.append_cons, encodeTlvs_append, encodeTlvs_append,
    encodeTlvs_singleton]

/-- The TLVs are the records that the parser walks over. -/
theorem laid_encodeTlvs {ts : List Tlv} (hts : TlvsFit ts) (tlv : ℕ) :
    Laid (sizeAt (encodeTlvs ts)) (fun o => typeAt (encodeTlvs ts) o = tlv)
      (encodeTlvs ts).length Tlv.size (fun t => t.id = tlv) ts where
  total := (length_encodeTlvs ts).symm
  size := by
    rintro pre t post rfl
    have ht : t.Fits := hts.1 t (by simp)
    rw [encodeTlvs_split]
    show 3 + lengthAt _ (totalSize pre) = 3 + t.encodedLength
    rw [lengthAt_encode (length_encodeTlvs pre) ht]
  holds := by
    rintro pre t post rfl
    have ht : t.Fits := hts.1 t (by simp)
    rw [encodeTlvs_split]
    show decide (typeAt _ (totalSize pre) = tlv) = _
    rw [typeAt_encode (length_encodeTlvs pre) ht]
  pos t _ := t.size_pos

/-! ## The round trip -/

/-- `message` is what the header and the TLVs stand for: all length fields count
what comes after them, and parsing returns what went in. -/
structure RoundTrip (messageType : MessageType) (transactionId messageId : ℕ)
    (ts : List Tlv) (message : GArray) : Prop where
  header : ∃ n, parseHeader message =
    .ok (messageType, transactionId, messageId, n)
  length : message.length = 7 + totalSize ts
  lengthField : ts ≠ [] → ofBytes (slice message 5 7) = message.length - 7
  tlvLength : ∀ pre t post, ts = pre ++ t :: post →
    lengthAt (message.drop 7) (totalSize pre) = t.encodedLength
  arrayLength : ∀ pre t post, ts = pre ++ t :: post → t.kind = .array →
    ofBytes (slice (message.drop 7) (totalSize pre + 3) (totalSize pre + 5)) =
      t.value.length
  found : ∀ pre t post, ts = pre ++ t :: post → (∀ u ∈ pre, u.id ≠ t.id) →
    ∀ fuel, message.length < fuel → parseTlv fuel message t.id t.kind =
      some (.ok (some (t.id, t.encodedLength, t.decoded)))
  missing : ∀ tlv, (∀ t ∈ ts, t.id ≠ tlv) → ∀ valueType fuel,
    message.length < fuel →
      parseTlv fuel message tlv valueType = some (.ok none)

theorem frame_ne_nil (ty : MessageType) (tx id n : ℕ) (tlvs : GArray) :
    frame ty tx id n tlvs ≠ [] := by
  intro h
  have hlen := length_frame ty tx id n tlvs
  rw [h, List.length_nil] at hlen
  omega

theorem lengthField_lt {ts : List Tlv} (h : TlvsFit ts) :
    lengthField ts < 65536 := by
  unfold lengthField
  split_ifs
  · norm_num
  · exact Nat.lt_succ_of_le h.2

/-- The message that is generated is. -/
theorem roundTrip_frame {ty : MessageType} {tx id : ℕ} {ts : List Tlv}
    (h : HeaderFits ty tx id) (hts : TlvsFit ts) :
    RoundTrip ty tx id ts (frame ty tx id (lengthField ts) (encodeTlvs ts)) where
  header := ⟨_, parseHeader_frame h (lengthField_lt hts) _⟩
  length := by
    rw [length_frame, length_encodeTlvs]
  lengthField hne := by
    have hlt := lengthField_lt hts
    have hslice : slice (frame ty tx id (Qmi.lengthField ts) (encodeTlvs ts)) 5 7 =
        leBytes 2 (Qmi.lengthField ts) :=
      slice_eq (headerStart ty tx id) _ (encodeTlvs ts) rfl (by simp) (by simp)
    rw [hslice, ofBytes_leBytes hlt, length_frame, length_encodeTlvs,
      Nat.add_sub_cancel_left]
    exact if_neg hne
  tlvLength := by
    rintro pre t post rfl
    rw [drop_frame, encodeTlvs_split]
    exact lengthAt_encode (length_encodeTlvs pre) (hts.1 t (by simp))
  arrayLength := by
    rintro pre t post rfl hkind
    rw [drop_frame, encodeTlvs_split]
    exact arrayLengthAt_encode (length_encodeTlvs pre) (hts.1 t (by simp)) hkind
  found := by
    intro pre t post hsplit hpre fuel hfuel
    have ht : t.Fits := hts.1 t (by rw [hsplit]; simp)
    have hlen : (encodeTlvs ts).length < fuel := by
      rw [length_frame] at hfuel
      omega
    have hwalk := (laid_encodeTlvs hts t.id).walk_found (sizeAt_pos _) hlen hsplit
      (fun u hu => decide_eq_false (hpre u hu)) (decide_eq_true rfl)
    have hlength : lengthAt (encodeTlvs ts) (totalSize pre) = t.encodedLength := by
      rw [hsplit, encodeTlvs_split]
      exact lengthAt_encode (length_encodeTlvs pre) ht
    have hvalue : valueAt (encodeTlvs ts) (totalSize pre) = t.encodedValue := by
      rw [hsplit, encodeTlvs_split]
      exact valueAt_encode (length_encodeTlvs pre) ht
    rw [parseTlv_eq (frame_ne_nil _ _ _ _ _), drop_frame, hwalk]
    show some (Except.ok (some (t.id, lengthAt _ (totalSize pre),
      decodeValue (valueAt _ (totalSize pre)) t.kind))) = _
    rw [hlength, hvalue, Tlv.decodeValue_encodedValue]
  missing := by
    intro tlv hmissing valueType fuel hfuel
    have hlen : (encodeTlvs ts).length < fuel := by
      rw [length_frame] at hfuel
      omega
    have hwalk := (laid_encodeTlvs hts tlv).walk_missing (sizeAt_pos _) hlen
      (fun u hu => decide_eq_false (hmissing u hu))
    rw [parseTlv_eq (frame_ne_nil _ _ _ _ _), drop_frame, hwalk]
    rfl

/-- An exception is raised exactly when the type of a TLV, the length of its value
or that of all TLVs does not fit, at the TLV that is the first to do so. -/
structure RaisesExactly (messageType : MessageType)
    (transactionId messageId : ℕ) (ts : List Tlv) : Prop where
  tlv : ∀ pre t post, ts = pre ++ t :: post → ∀ message,
    generateMessage messageType transactionId messageId pre = .ok message →
      ((∃ e, generateTlv message t.id t.value t.kind = .error e) ↔
        256 ≤ t.id ∨ 65535 < t.encodedLength ∨ 65535 < totalSize (pre ++ [t]))
  message : (∃ e, generateMessage messageType transactionId messageId ts =
      .error e) ↔
    (∃ t ∈ ts, 256 ≤ t.id ∨ 65535 < t.encodedLength) ∨ 65535 < totalSize ts

/-- A message that has been generated. -/
theorem eq_frame_of_generateMessage {ty : MessageType} {tx id : ℕ}
    {ts : List Tlv} {message : GArray}
    (h : generateMessage ty tx id ts = .ok message) :
    HeaderFits ty tx id ∧ TlvsFit ts ∧
      message = frame ty tx id (lengthField ts) (encodeTlvs ts) := by
  rw [generateMessage_eq] at h
  split_ifs at h with hfit
  exact ⟨hfit.1, hfit.2, (Except.ok.inj h).symm⟩

theorem not_fits_iff {t : Tlv} :
    ¬ t.Fits ↔ 256 ≤ t.id ∨ 65535 < t.encodedLength := by
  unfold Tlv.Fits
  omega

theorem not_tlvsFit_iff {ts : List Tlv} :
    ¬ TlvsFit ts ↔
      (∃ t ∈ ts, 256 ≤ t.id ∨ 65535 < t.encodedLength) ∨ 65535 < totalSize ts := by
  unfold TlvsFit
  rw [not_and_or, Nat.not_le]
  apply or_congr_left
  simp only [not_forall, not_fits_iff, exists_prop]

theorem raisesExactly {ty : MessageType} {tx id : ℕ} (h : HeaderFits ty tx id)
    (ts : List Tlv) : RaisesExactly ty tx id ts where
  tlv := by
    rintro pre t post - message hmessage
    obtain ⟨-, hpre, rfl⟩ := eq_frame_of_generateMessage hmessage
    rw [generateTlv_eq, length_encodeTlvs, totalSize_append, totalSize_singleton]
    split_ifs with hfits
    · apply iff_of_false (by simp)
      have := hfits.1
      unfold Tlv.Fits at this
      omega
    · refine iff_of_true ⟨_, rfl⟩ ?_
      by_contra hno
      apply hfits
      unfold Tlv.Fits
      omega
  message := by
    rw [generateMessage_eq, ← not_tlvsFit_iff]
    split_ifs with hfits
    · exact iff_of_false (by simp) (not_not_intro hfits.2)
    · exact iff_of_true ⟨_, rfl⟩ fun hts => hfits ⟨h, hts⟩

/-- **What is generated is parsed.** Generating raises an exception exactly when a
number does not fit its field; otherwise parsing returns the header, and for each
type the first TLV of that type, complete. -/
theorem roundTrip {ty : MessageType} (hty : ty ≠ .unknown) {tx id : ℕ}
    (htx : tx < 2 ^ 16) (hid : id < 2 ^ 16) (ts : List Tlv) :
    RaisesExactly ty tx id ts ∧
      ∀ message, generateMessage ty tx id ts = .ok message →
        RoundTrip ty tx id ts message := by
  refine ⟨raisesExactly ⟨hty, htx, hid⟩ ts, fun message hmessage => ?_⟩
  obtain ⟨hheader, hts, rfl⟩ := eq_frame_of_generateMessage hmessage
  exact roundTrip_frame hheader hts

/-- An indication with its two TLVs. -/
def reportLarge : List Tlv :=
  [⟨1, leBytes 8 1, .int⟩, ⟨2, [10, 18], .array⟩]

theorem roundTrip_reportLarge :
    RaisesExactly .indication 1 0x22 reportLarge ∧
      ∀ message, generateMessage .indication 1 0x22 reportLarge = .ok message →
        RoundTrip .indication 1 0x22 reportLarge message :=
  roundTrip (by decide) (by norm_num) (by norm_num) reportLarge

/-! ## The length field -/

/-- The length in the header is the number of bytes after it. -/
def LengthCounts (message : GArray) : Prop :=
  ∃ messageType transactionId messageId messageLength,
    parseHeader message =
        .ok (messageType, transactionId, messageId, messageLength) ∧
      messageLength = message.length - 7

/-- **The length field counts what comes after the header if and only if there is
something.** -/
theorem lengthCounts_iff {ty : MessageType} {tx id : ℕ} {ts : List Tlv}
    {message : GArray} (h : generateMessage ty tx id ts = .ok message) :
    LengthCounts message ↔ ts ≠ [] := by
  obtain ⟨hheader, hts, rfl⟩ := eq_frame_of_generateMessage h
  have hparse := parseHeader_frame hheader (lengthField_lt hts) (encodeTlvs ts)
  have hlength : (frame ty tx id (lengthField ts) (encodeTlvs ts)).length - 7 =
      totalSize ts := by
    rw [length_frame, length_encodeTlvs, Nat.add_sub_cancel_left]
  constructor
  · rintro ⟨_, _, _, n, hn, heq⟩ rfl
    obtain ⟨-, -, -, rfl⟩ : _ ∧ _ ∧ _ ∧ n = lengthField [] := by
      simpa using hn.symm.trans hparse
    rw [hlength] at heq
    exact absurd heq (by simp [lengthField, totalSize])
  · intro hne
    refine ⟨_, _, _, _, hparse, ?_⟩
    rw [hlength]
    exact if_neg hne

theorem lengthCounts_broken_by_header :
    generateMessage .request 1 0x20 [] = .ok [0, 1, 0, 0x20, 0, 7, 0] ∧
      ¬ LengthCounts [0, 1, 0, 0x20, 0, 7, 0] := by
  refine ⟨by rfl, ?_⟩
  rintro ⟨ty, tx, id, n, hparse, hn⟩
  have hseven : parseHeader [0, 1, 0, 0x20, 0, 7, 0] = .ok (.request, 1, 0x20, 7) :=
    by rfl
  rw [hseven] at hparse
  obtain ⟨-, -, -, rfl⟩ : _ ∧ _ ∧ _ ∧ 7 = n := by simpa using hparse
  exact absurd hn (by decide)

theorem lengthCounts_iff_reportLarge :
    generateMessage .indication 1 0x22 reportLarge =
        .ok [4, 1, 0, 0x22, 0, 18, 0, 1, 8, 0, 1, 0, 0, 0, 0, 0, 0, 0, 2, 4, 0, 2, 0,
          10, 18] ∧
      (LengthCounts [4, 1, 0, 0x22, 0, 18, 0, 1, 8, 0, 1, 0, 0, 0, 0, 0, 0, 0, 2, 4,
          0, 2, 0, 10, 18] ↔ reportLarge ≠ []) := by
  have h : generateMessage .indication 1 0x22 reportLarge =
      .ok [4, 1, 0, 0x22, 0, 18, 0, 1, 8, 0, 1, 0, 0, 0, 0, 0, 0, 0, 2, 4, 0, 2, 0,
        10, 18] := by rfl
  exact ⟨h, lengthCounts_iff h⟩

end Qmi

end Libssc

import Libssc.QmiRoundTrip

/-!
# TLVs that are cut short

The parser trusts the lengths in a message. They lead it from one TLV to the next,
and it slices the value out of the message, which yields what is there. Neither
the length in the header nor the one in front of an array is compared with
anything. So it always ends, with the first TLV of the type it looks for; but
that TLV is complete only if the message is. Messages that have been generated
are.
-/

namespace Libssc

open Library

namespace Qmi

variable {message : GArray} {tlv : ℕ} {valueType : ValueType}

/-- The first TLV of the type starts at the offset: the lengths lead there, past
TLVs of other types. -/
structure FirstTlv (message : GArray) (tlv offset : ℕ) : Prop where
  reached : Reached (sizeAt (message.drop 7))
    (fun o => typeAt (message.drop 7) o = tlv) (message.drop 7).length offset
  lt : offset < (message.drop 7).length
  type : typeAt (message.drop 7) offset = tlv

/-- The length in front of an array at the offset. -/
def arrayLengthAt (message : GArray) (offset : ℕ) : ℕ :=
  ofBytes (slice message (7 + (offset + 3)) (7 + (offset + 5)))

/-- The TLV at the offset is inside the message with its header and its `length`
bytes, and an array has as many bytes as both of its lengths say. -/
structure Complete (message : GArray) (valueType : ValueType)
    (offset length : ℕ) (value : TlvValue) : Prop where
  inside : 7 + (offset + 3 + length) ≤ message.length
  array : valueType = .array → 2 ≤ length ∧
    arrayLengthAt message offset = length - 2 ∧
      ∃ bytes, value = .bytes bytes ∧ bytes.length = length - 2

/-- Whatever is returned is of the type that was looked for, and complete. -/
def ReturnsComplete (message : GArray) (tlv : ℕ) (valueType : ValueType) : Prop :=
  ∀ fuel type length value,
    parseTlv fuel message tlv valueType = some (.ok (some (type, length, value))) →
      type = tlv ∧ ∃ offset, FirstTlv message tlv offset ∧
        Complete message valueType offset length value

/-- The message is made of TLVs that are inside of it, and the arrays among those
of the type have the right length in front. -/
structure WellFormed (message : GArray) (tlv : ℕ) (valueType : ValueType) :
    Prop where
  inside : ∀ offset, Reached (sizeAt (message.drop 7)) (fun _ => false)
      (message.drop 7).length offset → offset < (message.drop 7).length →
    offset + sizeAt (message.drop 7) offset ≤ (message.drop 7).length
  array : valueType = .array → ∀ offset,
    Reached (sizeAt (message.drop 7)) (fun _ => false) (message.drop 7).length
        offset → offset < (message.drop 7).length →
      typeAt (message.drop 7) offset = tlv →
        arrayLengthAt message offset + 2 = lengthAt (message.drop 7) offset

/-- The bytes of the value that are returned are sliced out of the message. -/
theorem valueAt_drop (message : GArray) (offset : ℕ) :
    valueAt (message.drop 7) offset =
      slice message (7 + (offset + 3))
        (7 + (offset + 3 + lengthAt (message.drop 7) offset)) := by
  unfold valueAt
  rw [slice_drop]

/-- The parser ends, with one result, and raises nothing. -/
theorem parseTlv_ends (h : message ≠ []) (tlv : ℕ) (valueType : ValueType) :
    ∃ r, ∀ fuel, message.length < fuel →
      parseTlv fuel message tlv valueType = some (.ok r) := by
  have hlen : (message.drop 7).length - 0 < message.length + 1 := by
    rw [List.length_drop]
    omega
  obtain ⟨r, hr⟩ := Option.isSome_iff_exists.mp
    (walk_isSome (p := fun o => typeAt (message.drop 7) o = tlv)
      (sizeAt_pos (message.drop 7)) hlen)
  refine ⟨r.map (fun o => (tlv, lengthAt (message.drop 7) o,
    decodeValue (valueAt (message.drop 7) o) valueType)), fun fuel hfuel => ?_⟩
  rw [parseTlv_eq h, walk_of_le hfuel hr]
  rfl

/-- It returns the first TLV of the type, with the bytes that are there. -/
theorem firstTlv_of_parseTlv (h : message ≠ []) {fuel type length : ℕ}
    {value : TlvValue} (hparse : parseTlv fuel message tlv valueType =
      some (.ok (some (type, length, value)))) :
    type = tlv ∧ ∃ offset, FirstTlv message tlv offset ∧
      length = lengthAt (message.drop 7) offset ∧
      value = decodeValue (valueAt (message.drop 7) offset) valueType := by
  rw [parseTlv_eq h] at hparse
  cases hwalk : walk (sizeAt (message.drop 7))
      (fun o => typeAt (message.drop 7) o = tlv) (message.drop 7).length fuel 0 with
  | none =>
      rw [hwalk] at hparse
      exact absurd hparse (by simp)
  | some r =>
      cases r with
      | none =>
          rw [hwalk] at hparse
          exact absurd hparse (by simp)
      | some offset =>
          obtain ⟨hreached, hlt, htype⟩ :=
            (reached_of_walk .start hwalk).1 offset rfl
          rw [hwalk] at hparse
          obtain ⟨rfl, rfl, rfl⟩ : tlv = type ∧ lengthAt _ offset = length ∧
              decodeValue (valueAt _ offset) valueType = value := by
            simpa using hparse
          exact ⟨rfl, offset, ⟨hreached, hlt, by simpa using htype⟩, rfl, rfl⟩

/-- The TLV that is returned is complete if the message goes on to its end and the
length in front of an array is right. -/
theorem complete_iff {offset : ℕ} {value : TlvValue}
    (hvalue : value = decodeValue (valueAt (message.drop 7) offset) valueType) :
    Complete message valueType offset (lengthAt (message.drop 7) offset) value ↔
      7 + (offset + 3 + lengthAt (message.drop 7) offset) ≤ message.length ∧
        (valueType = .array → arrayLengthAt message offset + 2 =
          lengthAt (message.drop 7) offset) := by
  constructor
  · intro h
    refine ⟨h.inside, fun hkind => ?_⟩
    obtain ⟨htwo, hlength, -⟩ := h.array hkind
    omega
  · rintro ⟨hinside, harray⟩
    refine ⟨hinside, fun hkind => ?_⟩
    have hlength := harray hkind
    refine ⟨by omega, by omega, (valueAt (message.drop 7) offset).drop 2, ?_, ?_⟩
    · rw [hvalue, hkind]
      rfl
    · rw [valueAt_drop, List.length_drop, length_slice]
      omega

/-- In a well-formed message what is returned is complete. -/
theorem returnsComplete_of_wellFormed (h : message ≠ [])
    (hwell : WellFormed message tlv valueType) :
    ReturnsComplete message tlv valueType := by
  intro fuel type length value hparse
  obtain ⟨htype, offset, hfirst, rfl, hvalue⟩ := firstTlv_of_parseTlv h hparse
  refine ⟨htype, offset, hfirst, (complete_iff hvalue).mpr ⟨?_, ?_⟩⟩
  · have hinside := hwell.inside offset hfirst.reached.visited hfirst.lt
    rw [sizeAt, List.length_drop] at hinside
    have hlt := hfirst.lt
    rw [List.length_drop] at hlt
    omega
  · intro hkind
    exact hwell.array hkind offset hfirst.reached.visited hfirst.lt hfirst.type

/-- A message that has been generated is made of the TLVs that were appended. -/
theorem wellFormed_of_generateMessage {ty : MessageType} {tx id : ℕ}
    {ts : List Tlv} (h : generateMessage ty tx id ts = .ok message) (tlv : ℕ)
    (hkind : valueType = .array → ∀ t ∈ ts, t.id = tlv → t.kind = .array) :
    WellFormed message tlv valueType := by
  obtain ⟨-, hts, rfl⟩ := eq_frame_of_generateMessage h
  have hlaid := laid_encodeTlvs hts tlv
  -- the lengths lead to the TLVs that were appended
  have hsplit : ∀ offset, Reached (sizeAt (encodeTlvs ts)) (fun _ => false)
      (encodeTlvs ts).length offset → offset < (encodeTlvs ts).length →
      ∃ pre t post, ts = pre ++ t :: post ∧ totalSize pre = offset := by
    intro offset hreached hlt
    obtain ⟨pre, post, rfl, rfl⟩ := hlaid.split_of_reached hreached
    cases post with
    | nil =>
        rw [length_encodeTlvs, List.append_nil] at hlt
        exact absurd hlt (Nat.lt_irrefl _)
    | cons t post => exact ⟨pre, t, post, rfl, rfl⟩
  constructor
  · intro offset hreached hlt
    rw [drop_frame] at hreached hlt ⊢
    obtain ⟨pre, t, post, rfl, rfl⟩ := hsplit offset hreached hlt
    have hsize : sizeAt (encodeTlvs (pre ++ t :: post)) (totalSize pre) = t.size :=
      hlaid.size pre t post rfl
    rw [hsize, length_encodeTlvs, List.append_cons, totalSize_append,
      totalSize_append, totalSize_singleton]
    exact Nat.le_add_right _ _
  · intro harray offset hreached hlt htype
    rw [drop_frame] at hreached hlt htype ⊢
    obtain ⟨pre, t, post, rfl, rfl⟩ := hsplit offset hreached hlt
    have ht : t.Fits := hts.1 t (by simp)
    have hpre := length_encodeTlvs pre
    rw [arrayLengthAt, ← slice_drop, drop_frame]
    rw [encodeTlvs_split] at htype ⊢
    rw [typeAt_encode hpre ht] at htype
    have hk : t.kind = .array := hkind harray t (by simp) htype
    have hlength : t.encodedLength = t.value.length + 2 := by
      unfold Tlv.encodedLength
      rw [hk]
    rw [arrayLengthAt_encode hpre ht hk, lengthAt_encode hpre ht, hlength]

/-- So from such a message only complete TLVs are returned. -/
theorem returnsComplete_of_generateMessage {ty : MessageType} {tx id : ℕ}
    {ts : List Tlv} (h : generateMessage ty tx id ts = .ok message) (tlv : ℕ)
    (hkind : valueType = .array → ∀ t ∈ ts, t.id = tlv → t.kind = .array) :
    ReturnsComplete message tlv valueType := by
  have hne : message ≠ [] := by
    obtain ⟨-, -, rfl⟩ := eq_frame_of_generateMessage h
    exact frame_ne_nil _ _ _ _ _
  exact returnsComplete_of_wellFormed hne
    (wellFormed_of_generateMessage h tlv hkind)

/-- **What the parser returns.** It ends, with the first TLV of the type or
nothing. The value is decoded from the bytes of the TLV that are inside the
message. They are complete if and only if the message goes on to the end of the
TLV and an array has the right length in front; in a well-formed message they
always are. -/
theorem parseTlv_returns (hlen : 7 ≤ message.length) (tlv : ℕ)
    (valueType : ValueType) :
    (∃ r, ∀ fuel, message.length < fuel →
        parseTlv fuel message tlv valueType = some (.ok r)) ∧
      (∀ fuel type length value,
        parseTlv fuel message tlv valueType =
            some (.ok (some (type, length, value))) →
          type = tlv ∧ ∃ offset, FirstTlv message tlv offset ∧
            length = lengthAt (message.drop 7) offset ∧
            value = decodeValue (slice message (7 + (offset + 3))
              (7 + (offset + 3 + length))) valueType ∧
            (Complete message valueType offset length value ↔
              7 + (offset + 3 + length) ≤ message.length ∧
                (valueType = .array →
                  arrayLengthAt message offset + 2 = length))) ∧
      (WellFormed message tlv valueType →
        ReturnsComplete message tlv valueType) := by
  have hne : message ≠ [] := by
    rintro rfl
    exact absurd hlen (by simp)
  refine ⟨parseTlv_ends hne tlv valueType, ?_, returnsComplete_of_wellFormed hne⟩
  intro fuel type length value hparse
  obtain ⟨htype, offset, hfirst, rfl, hvalue⟩ := firstTlv_of_parseTlv hne hparse
  refine ⟨htype, offset, hfirst, rfl, ?_, complete_iff hvalue⟩
  rw [hvalue, valueAt_drop]

/-! A TLV of four bytes of which one is there, and an array with a length of nine
in front of its two bytes. -/

def cutShort : GArray := [4, 1, 0, 0x22, 0, 7, 0, 1, 4, 0, 170]

def disagreeing : GArray := [4, 1, 0, 0x22, 0, 7, 0, 2, 4, 0, 9, 0, 10, 18]

theorem incomplete_returned :
    ¬ ReturnsComplete cutShort 1 .int ∧
      ¬ ReturnsComplete disagreeing 2 .array := by
  constructor
  · intro h
    obtain ⟨-, offset, -, hcomplete⟩ := h 12 1 4 (.int 170) (by rfl)
    have hinside := hcomplete.inside
    have hlength : cutShort.length = 11 := rfl
    omega
  · intro h
    obtain ⟨-, offset, -, hcomplete⟩ := h 12 2 4 (.bytes [10, 18]) (by rfl)
    have hinside := hcomplete.inside
    have hlength : disagreeing.length = 14 := rfl
    obtain rfl : offset = 0 := by omega
    exact absurd (hcomplete.array rfl).2.1 (by decide)

theorem parseTlv_returns_cutShort :
    (∃ r, ∀ fuel, cutShort.length < fuel →
        parseTlv fuel cutShort 1 .int = some (.ok r)) ∧
      (∀ fuel type length value,
        parseTlv fuel cutShort 1 .int =
            some (.ok (some (type, length, value))) →
          type = 1 ∧ ∃ offset, FirstTlv cutShort 1 offset ∧
            length = lengthAt (cutShort.drop 7) offset ∧
            value = decodeValue (slice cutShort (7 + (offset + 3))
              (7 + (offset + 3 + length))) .int ∧
            (Complete cutShort .int offset length value ↔
              7 + (offset + 3 + length) ≤ cutShort.length ∧
                (ValueType.int = .array →
                  arrayLengthAt cutShort offset + 2 = length))) ∧
      (WellFormed cutShort 1 .int → ReturnsComplete cutShort 1 .int) :=
  parseTlv_returns (by decide) 1 .int

end Qmi

end Libssc

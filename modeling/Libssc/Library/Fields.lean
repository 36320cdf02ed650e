import Libssc.Library.Bytes

/-!
# Tagged fields

The encoding that protocol buffers give a message: fields in any order, each with
a number and a payload of one of four kinds. The kind says how the payload ends,
so that a reader gets past fields it does not know. Groups, which are obsolete,
are not read.

What is written is read back (`parseFields_fieldBytes`), and messages in a row are
the message of all their fields (`parseFields_append`).
-/

namespace Libssc.Library

/-! ## Varints -/

/-- The digits of a number to base 128, the least significant first. All but the
last have the highest bit set. -/
def varintDigits : ℕ → ℕ → List UInt8
  | 0, n => [UInt8.ofNat n]
  | fuel + 1, n =>
      if n < 128 then [UInt8.ofNat n]
      else UInt8.ofNat (n % 128 + 128) :: varintDigits fuel (n / 128)

def varint (n : ℕ) : List UInt8 := varintDigits n n

/-- The number at the start of the bytes, and what follows it. -/
def readVarint : List UInt8 → Option (ℕ × List UInt8)
  | [] => none
  | b :: bs =>
      if b < 128 then some (b.toNat, bs)
      else (readVarint bs).map (fun p => (b.toNat - 128 + 128 * p.1, p.2))

theorem readVarint_varintDigits {fuel n : ℕ} (h : n < 128 ∨ n ≤ fuel)
    (rest : List UInt8) : readVarint (varintDigits fuel n ++ rest) = some (n, rest) := by
  have hlast : ∀ m, m < 128 → readVarint ([UInt8.ofNat m] ++ rest) = some (m, rest) := by
    intro m hm
    have hbyte : (UInt8.ofNat m).toNat = m :=
      UInt8.toNat_ofNat_of_lt' (Nat.lt_trans hm (by decide))
    have hlt : UInt8.ofNat m < 128 := by
      rw [UInt8.lt_iff_toNat_lt, hbyte]
      exact hm
    rw [List.singleton_append, readVarint, if_pos hlt, hbyte]
  induction fuel generalizing n with
  | zero => exact hlast n (by omega)
  | succ fuel ih =>
      unfold varintDigits
      split_ifs with hn
      · exact hlast n hn
      · have hsize : n % 128 + 128 < UInt8.size := by
          show n % 128 + 128 < 256
          omega
        have hbyte : (UInt8.ofNat (n % 128 + 128)).toNat = n % 128 + 128 :=
          UInt8.toNat_ofNat_of_lt' hsize
        have hlt : ¬ UInt8.ofNat (n % 128 + 128) < 128 := by
          rw [UInt8.lt_iff_toNat_lt, hbyte]
          exact Nat.not_lt.mpr (Nat.le_add_left _ _)
        have hrest : n / 128 < 128 ∨ n / 128 ≤ fuel := by omega
        rw [List.cons_append, readVarint, if_neg hlt, ih hrest, hbyte]
        simp only [Option.map_some, Option.some.injEq, Prod.mk.injEq, and_true]
        omega

theorem readVarint_varint (n : ℕ) (rest : List UInt8) :
    readVarint (varint n ++ rest) = some (n, rest) :=
  readVarint_varintDigits (Or.inr (Nat.le_refl n)) rest

/-- What is left is shorter, and bytes at the end are left as well. -/
theorem readVarint_append {bs rest : List UInt8} {n : ℕ}
    (h : readVarint bs = some (n, rest)) :
    rest.length < bs.length ∧
      ∀ cs, readVarint (bs ++ cs) = some (n, rest ++ cs) := by
  induction bs generalizing n rest with
  | nil => exact absurd h (by simp [readVarint])
  | cons b bs ih =>
      unfold readVarint at h
      split_ifs at h with hb
      · obtain ⟨rfl, rfl⟩ := Prod.mk.inj (Option.some.inj h)
        refine ⟨Nat.lt_succ_self _, fun cs => ?_⟩
        rw [List.cons_append, readVarint, if_pos hb]
      · obtain ⟨⟨m, r⟩, hm, heq⟩ := Option.map_eq_some_iff.mp h
        obtain ⟨rfl, rfl⟩ := Prod.mk.inj heq
        obtain ⟨hlt, hcs⟩ := ih hm
        refine ⟨Nat.lt_succ_of_lt hlt, fun cs => ?_⟩
        rw [List.cons_append, readVarint, if_neg hb, hcs cs]
        rfl

/-! ## Fields -/

/-- What a field holds: a number, eight bytes, a text with its length in front, or
four bytes. -/
inductive Payload where
  | varint (n : ℕ)
  | fixed64 (n : UInt64)
  | delimited (bytes : List UInt8)
  | fixed32 (n : UInt32)
deriving DecidableEq, Repr

/-- The wire type, three bits. -/
def Payload.wireType : Payload → ℕ
  | .varint _ => 0
  | .fixed64 _ => 1
  | .delimited _ => 2
  | .fixed32 _ => 5

def Payload.bytes : Payload → List UInt8
  | .varint n => Library.varint n
  | .fixed64 n => leBytes 8 n.toNat
  | .delimited bytes => Library.varint bytes.length ++ bytes
  | .fixed32 n => leBytes 4 n.toNat

structure Field where
  number : ℕ
  payload : Payload
deriving DecidableEq, Repr

def Field.bytes (f : Field) : List UInt8 :=
  varint (8 * f.number + f.payload.wireType) ++ f.payload.bytes

/-- The first `n` bytes, and what follows them. -/
def readBytes (n : ℕ) (bs : List UInt8) : Option (List UInt8 × List UInt8) :=
  if bs.length < n then none else some (bs.take n, bs.drop n)

def readPayload (wireType : ℕ) (bs : List UInt8) :
    Option (Payload × List UInt8) :=
  match wireType with
  | 0 => (readVarint bs).map (fun p => (.varint p.1, p.2))
  | 1 => (readBytes 8 bs).map
      (fun p => (.fixed64 (UInt64.ofNat (ofBytes p.1)), p.2))
  | 2 => (readVarint bs).bind (fun p =>
      (readBytes p.1 p.2).map (fun q => (.delimited q.1, q.2)))
  | 5 => (readBytes 4 bs).map
      (fun p => (.fixed32 (UInt32.ofNat (ofBytes p.1)), p.2))
  | _ => none

def readField (bs : List UInt8) : Option (Field × List UInt8) :=
  (readVarint bs).bind (fun key =>
    (readPayload (key.1 % 8) key.2).map (fun p => (⟨key.1 / 8, p.1⟩, p.2)))

/-- Numbers of four bytes until nothing is left. -/
def readFixed32s : List UInt8 → Option (List UInt32)
  | [] => some []
  | a :: b :: c :: d :: bs =>
      (readFixed32s bs).map (UInt32.ofNat (ofBytes [a, b, c, d]) :: ·)
  | _ => none

/-- Read fields until nothing is left. -/
def readFields : ℕ → List UInt8 → Option (List Field)
  | _, [] => some []
  | 0, _ :: _ => none
  | fuel + 1, b :: bs =>
      (readField (b :: bs)).bind (fun p => (readFields fuel p.2).map (p.1 :: ·))

def parseFields (bs : List UInt8) : Option (List Field) := readFields bs.length bs

def fieldBytes (fs : List Field) : List UInt8 := fs.flatMap Field.bytes

/-- A text in a field makes the message no shorter than itself. -/
theorem length_le_fieldBytes {fs : List Field} {n : ℕ} {bs : List UInt8}
    (h : ⟨n, .delimited bs⟩ ∈ fs) : bs.length ≤ (fieldBytes fs).length := by
  obtain ⟨before, after, rfl⟩ := List.append_of_mem h
  simp only [fieldBytes, List.flatMap_append, List.flatMap_cons, List.length_append,
    Field.bytes, Payload.bytes]
  omega

/-! ## What is written is read back -/

theorem readBytes_append (bs rest : List UInt8) :
    readBytes bs.length (bs ++ rest) = some (bs, rest) := by
  have h : ¬ (bs ++ rest).length < bs.length := by
    rw [List.length_append]
    exact Nat.not_lt.mpr (Nat.le_add_right _ _)
  unfold readBytes
  rw [if_neg h, List.take_left, List.drop_left]

theorem readPayload_bytes (p : Payload) (rest : List UInt8) :
    readPayload p.wireType (p.bytes ++ rest) = some (p, rest) := by
  have hfixed : ∀ w n, readBytes w (leBytes w n ++ rest) = some (leBytes w n, rest) := by
    intro w n
    have h := readBytes_append (leBytes w n) rest
    rwa [length_leBytes] at h
  cases p with
  | varint n =>
      show (readVarint (varint n ++ rest)).map _ = _
      rw [readVarint_varint]
      rfl
  | fixed64 n =>
      simp only [readPayload, Payload.wireType, Payload.bytes]
      rw [hfixed, Option.map_some, ofBytes_leBytes n.toNat_lt, UInt64.ofNat_toNat]
  | delimited bs =>
      show (readVarint (varint bs.length ++ bs ++ rest)).bind _ = _
      rw [List.append_assoc, readVarint_varint, Option.bind_some, readBytes_append]
      rfl
  | fixed32 n =>
      simp only [readPayload, Payload.wireType, Payload.bytes]
      rw [hfixed, Option.map_some, ofBytes_leBytes n.toNat_lt, UInt32.ofNat_toNat]

theorem readField_bytes (f : Field) (rest : List UInt8) :
    readField (f.bytes ++ rest) = some (f, rest) := by
  have htype : f.payload.wireType < 8 := by
    cases f.payload <;> simp [Payload.wireType]
  have hmod : (8 * f.number + f.payload.wireType) % 8 = f.payload.wireType := by omega
  have hdiv : (8 * f.number + f.payload.wireType) / 8 = f.number := by omega
  unfold readField Field.bytes
  rw [List.append_assoc, readVarint_varint, Option.bind_some, hmod, hdiv,
    readPayload_bytes]
  rfl

/-! ## Bytes at the end -/

theorem readBytes_eq_some {n : ℕ} {bs mid rest : List UInt8}
    (h : readBytes n bs = some (mid, rest)) : bs = mid ++ rest ∧ mid.length = n := by
  unfold readBytes at h
  split_ifs at h with hlt
  obtain ⟨rfl, rfl⟩ := Prod.mk.inj (Option.some.inj h)
  exact ⟨(List.take_append_drop n bs).symm,
    List.length_take_of_le (Nat.not_lt.mp hlt)⟩

/-- A field is read from the bytes that it takes up, whatever follows. -/
def Reads {α : Type} (read : List UInt8 → Option (α × List UInt8)) : Prop :=
  ∀ bs a rest, read bs = some (a, rest) → rest.length ≤ bs.length ∧
    ∀ cs, read (bs ++ cs) = some (a, rest ++ cs)

theorem reads_readVarint : Reads readVarint := fun _ _ _ h =>
  ⟨Nat.le_of_lt (readVarint_append h).1, (readVarint_append h).2⟩

theorem reads_readBytes (n : ℕ) : Reads (readBytes n) := by
  intro bs mid rest h
  obtain ⟨rfl, rfl⟩ := readBytes_eq_some h
  refine ⟨by rw [List.length_append]; exact Nat.le_add_left _ _, fun cs => ?_⟩
  rw [List.append_assoc]
  exact readBytes_append mid (rest ++ cs)

theorem Reads.map {α β : Type} {read : List UInt8 → Option (α × List UInt8)}
    (h : Reads read) (f : α → β) :
    Reads (fun bs => (read bs).map (fun p => (f p.1, p.2))) := by
  intro bs b rest hb
  obtain ⟨⟨a, r⟩, ha, heq⟩ := Option.map_eq_some_iff.mp hb
  obtain ⟨rfl, rfl⟩ := Prod.mk.inj heq
  refine ⟨(h bs a r ha).1, fun cs => ?_⟩
  show (read (bs ++ cs)).map _ = _
  rw [(h bs a r ha).2 cs]
  rfl

theorem Reads.bind {α β : Type} {read : List UInt8 → Option (α × List UInt8)}
    {next : α → List UInt8 → Option (β × List UInt8)} (h : Reads read)
    (hnext : ∀ a, Reads (next a)) :
    Reads (fun bs => (read bs).bind (fun p => next p.1 p.2)) := by
  intro bs b rest hb
  obtain ⟨⟨a, r⟩, ha, hr⟩ := Option.bind_eq_some_iff.mp hb
  refine ⟨Nat.le_trans (hnext a r b rest hr).1 (h bs a r ha).1, fun cs => ?_⟩
  show (read (bs ++ cs)).bind _ = _
  rw [(h bs a r ha).2 cs]
  exact (hnext a r b rest hr).2 cs

theorem reads_readPayload (wireType : ℕ) : Reads (readPayload wireType) := by
  unfold readPayload
  split
  · exact reads_readVarint.map Payload.varint
  · exact (reads_readBytes 8).map fun bs => Payload.fixed64 (UInt64.ofNat (ofBytes bs))
  · exact reads_readVarint.bind fun n => (reads_readBytes n).map Payload.delimited
  · exact (reads_readBytes 4).map fun bs => Payload.fixed32 (UInt32.ofNat (ofBytes bs))
  · intro bs a rest h
    exact absurd h (by simp)

theorem reads_readField : Reads readField :=
  reads_readVarint.bind fun key =>
    (reads_readPayload (key % 8)).map (Field.mk (key / 8))

/-- A field takes up at least one byte. -/
theorem length_of_readField {bs rest : List UInt8} {f : Field}
    (h : readField bs = some (f, rest)) : rest.length < bs.length := by
  obtain ⟨⟨key, r⟩, hkey, hr⟩ := Option.bind_eq_some_iff.mp h
  obtain ⟨⟨p, r'⟩, hp, heq⟩ := Option.map_eq_some_iff.mp hr
  obtain ⟨-, rfl⟩ := Prod.mk.inj heq
  exact Nat.lt_of_le_of_lt (reads_readPayload _ r p r' hp).1 (readVarint_append hkey).1

/-! ## Sequences of fields -/

/-- Any fuel from the number of bytes on does. -/
theorem readFields_fuel {fuel : ℕ} {bs : List UInt8} (h : bs.length ≤ fuel) :
    readFields fuel bs = parseFields bs := by
  have hsame : ∀ (a b : ℕ) (cs : List UInt8), cs.length ≤ a → cs.length ≤ b →
      readFields a cs = readFields b cs := by
    intro a
    induction a with
    | zero =>
        intro b cs ha _
        rw [List.length_eq_zero_iff.mp (Nat.le_zero.mp ha)]
        cases b <;> rfl
    | succ a ih =>
        intro b cs ha hb
        cases cs with
        | nil => cases b <;> rfl
        | cons c cs =>
            cases b with
            | zero => exact absurd hb (by simp)
            | succ b =>
                unfold readFields
                cases hf : readField (c :: cs) with
                | none => rfl
                | some p =>
                    have hlt : p.2.length < (c :: cs).length := length_of_readField hf
                    have ha' := Nat.le_of_lt_succ (Nat.lt_of_lt_of_le hlt ha)
                    have hb' := Nat.le_of_lt_succ (Nat.lt_of_lt_of_le hlt hb)
                    rw [Option.bind_some, Option.bind_some, ih b p.2 ha' hb']
  exact hsame fuel bs.length bs h (Nat.le_refl _)

/-- The first field, and the others. -/
theorem parseFields_of_readField {bs rest : List UInt8} {f : Field}
    (h : readField bs = some (f, rest)) :
    parseFields bs = (parseFields rest).map (f :: ·) := by
  cases bs with
  | nil => exact absurd (length_of_readField h) (by simp)
  | cons b bs =>
      have hlt := length_of_readField h
      rw [parseFields, List.length_cons, readFields, h, Option.bind_some,
        readFields_fuel (Nat.le_of_lt_succ hlt)]

/-- What is read begins with a field and goes on with a message. -/
theorem parseFields_eq_some {bs : List UInt8} {fs : List Field}
    (h : parseFields bs = some fs) :
    bs = [] ∧ fs = [] ∨ ∃ f rest gs, readField bs = some (f, rest) ∧
      parseFields rest = some gs ∧ fs = f :: gs := by
  cases bs with
  | nil => exact Or.inl ⟨rfl, (Option.some.inj h).symm⟩
  | cons b bs =>
      unfold parseFields at h
      rw [List.length_cons, readFields] at h
      obtain ⟨⟨f, rest⟩, hf, hr⟩ := Option.bind_eq_some_iff.mp h
      obtain ⟨gs, hgs, rfl⟩ := Option.map_eq_some_iff.mp hr
      have hlt := length_of_readField hf
      rw [readFields_fuel (Nat.le_of_lt_succ hlt)] at hgs
      exact Or.inr ⟨f, rest, gs, hf, hgs, rfl⟩

/-- Messages in a row are the message of all their fields. -/
theorem parseFields_append {bs cs : List UInt8} {fs gs : List Field}
    (hb : parseFields bs = some fs) (hc : parseFields cs = some gs) :
    parseFields (bs ++ cs) = some (fs ++ gs) := by
  induction fs generalizing bs with
  | nil =>
      obtain ⟨rfl, -⟩ | ⟨f, rest, gs', -, -, heq⟩ := parseFields_eq_some hb
      · exact hc
      · exact absurd heq (by simp)
  | cons f fs ih =>
      obtain ⟨-, heq⟩ | ⟨f', rest, fs', hf, hfs, heq⟩ := parseFields_eq_some hb
      · exact absurd heq (by simp)
      · obtain ⟨rfl, rfl⟩ := List.cons.inj heq
        rw [parseFields_of_readField ((reads_readField bs f rest hf).2 cs), ih hfs]
        rfl

/-- **What is written is read back.** -/
theorem parseFields_fieldBytes (fs : List Field) :
    parseFields (fieldBytes fs) = some fs := by
  induction fs with
  | nil => rfl
  | cons f fs ih =>
      have hbytes : fieldBytes (f :: fs) = f.bytes ++ fieldBytes fs :=
        List.flatMap_cons
      rw [hbytes, parseFields_of_readField (readField_bytes f (fieldBytes fs)), ih]
      rfl

end Libssc.Library

import Libssc.Library.Fields

/-!
# Messages with known fields

A `ValueCodec` writes values of a type as payloads, a `MessageCodec` writes
messages of a type as fields. Both carry the proof that they read what they
write. A message codec knows finitely many field numbers, and what it reads
depends on the fields with these numbers only, and for each of them on their
order (`read_congr`).

Messages are put together from single fields (`required`, `optional`,
`repeated`, `requiredMessage`) by `and`, and brought into the form of a structure
by `pmap` and `imap`. A field that is not repeated has its last value; if it is a
message, its occurrences are merged.
-/

namespace Libssc.Library

variable {α β : Type}

/-! ## Values -/

structure ValueCodec (α : Type) where
  write : α → Payload
  read : Payload → Option α
  read_write : ∀ a, read (write a) = some a

namespace ValueCodec

def fixed64 : ValueCodec UInt64 where
  write := .fixed64
  read
    | .fixed64 n => some n
    | _ => none
  read_write _ := rfl

def fixed32 : ValueCodec UInt32 where
  write := .fixed32
  read
    | .fixed32 n => some n
    | _ => none
  read_write _ := rfl

def bytes : ValueCodec (List UInt8) where
  write := .delimited
  read
    | .delimited bytes => some bytes
    | _ => none
  read_write _ := rfl

/-- A text in UTF-8. -/
def string : ValueCodec String where
  write s := .delimited s.toByteArray.data.toList
  read
    | .delimited bytes => String.fromUTF8? ⟨bytes.toArray⟩
    | _ => none
  read_write s := by
    show String.fromUTF8? ⟨s.toByteArray.data.toList.toArray⟩ = some s
    rw [Array.toArray_toList]
    exact dif_pos s.isValidUTF8

def bool : ValueCodec Bool where
  write b := .varint b.toNat
  read
    | .varint n => some (n != 0)
    | _ => none
  read_write b := by cases b <;> rfl

/-- A number with a sign as the 64 bits of its two's complement. -/
def int32 : ValueCodec Int32 where
  write i := .varint (i.toInt % 2 ^ 64).toNat
  read
    | .varint n => some (Int32.ofNat n)
    | _ => none
  read_write i := by
    have hcast : ((i.toInt % 2 ^ 64).toNat : ℤ) = i.toInt % 2 ^ 64 :=
      Int.toNat_of_nonneg (Int.emod_nonneg _ (by norm_num))
    have hi : Int32.ofNat (i.toInt % 2 ^ 64).toNat = i := by
      rw [← Int32.ofInt_eq_ofNat, hcast]
      apply Int32.toInt.inj
      rw [Int32.toInt_ofInt, Int.bmod_def]
      have hle : -2 ^ 31 ≤ i.toInt := i.minValue_le_toInt
      have hlt : i.toInt ≤ 2 ^ 31 - 1 := i.toInt_le
      simp only [Int32.size]
      omega
    exact congrArg some hi

/-- Values of another type that stand for those of a codec. -/
def imap (c : ValueCodec β) (f : α → β) (g : β → α) (h : ∀ a, g (f a) = a) :
    ValueCodec α where
  write a := c.write (f a)
  read p := (c.read p).map g
  read_write a := by rw [c.read_write, Option.map_some, h]

/-- A text has a byte or more for each character. -/
theorem length_le_utf8 (l : List Char) :
    l.length ≤ (String.ofList l).toByteArray.data.toList.length := by
  rw [String.toByteArray_ofList]
  show l.length ≤ l.utf8Encode.size
  induction l with
  | nil => exact Nat.zero_le _
  | cons c l ih =>
      have hc : 1 ≤ (String.utf8EncodeChar c).length :=
        List.length_pos_iff.mpr String.utf8EncodeChar_ne_nil
      rw [List.utf8Encode_cons, ByteArray.size_append, List.utf8Encode_singleton,
        List.size_toByteArray, List.length_cons]
      omega

end ValueCodec

/-! ## Messages -/

/-- The payloads of the fields with number `n`. -/
def payloads (n : ℕ) (fs : List Field) : List Payload :=
  (fs.filter (fun f => f.number = n)).map Field.payload

theorem payloads_append (n : ℕ) (fs gs : List Field) :
    payloads n (fs ++ gs) = payloads n fs ++ payloads n gs := by
  unfold payloads
  rw [List.filter_append, List.map_append]

theorem payloads_eq_nil {n : ℕ} {fs : List Field} (h : ∀ f ∈ fs, f.number ≠ n) :
    payloads n fs = [] := by
  unfold payloads
  rw [List.filter_eq_nil_iff.mpr (by simpa using h), List.map_nil]

theorem payloads_map (n : ℕ) (ps : List Payload) :
    payloads n (ps.map (Field.mk n)) = ps := by
  have hfilter : (ps.map (Field.mk n)).filter (fun f => f.number = n) =
      ps.map (Field.mk n) :=
    List.filter_eq_self.mpr (by simp)
  unfold payloads
  rw [hfilter, List.map_map]
  exact List.map_id ps

/-- Messages whose fields have the given numbers. -/
structure MessageCodec (numbers : List ℕ) (α : Type) where
  write : α → List Field
  read : List Field → Option α
  number_mem : ∀ a, ∀ f ∈ write a, f.number ∈ numbers
  read_write : ∀ a, read (write a) = some a
  read_congr : ∀ fs gs, (∀ n ∈ numbers, payloads n fs = payloads n gs) →
    read fs = read gs

namespace MessageCodec

variable {ns ms : List ℕ}

/-- A field that may occur any number of times, where an occurrence may hold
several values. -/
def repeatedWith (n : ℕ) (write : α → Payload) (read : Payload → Option (List α))
    (h : ∀ a, read (write a) = some [a]) : MessageCodec [n] (List α) where
  write as := (as.map write).map (Field.mk n)
  read fs := ((payloads n fs).mapM read).map List.flatten
  number_mem as f hf := by
    obtain ⟨p, -, rfl⟩ := List.mem_map.mp hf
    exact List.mem_singleton_self n
  read_write as := by
    have hread : (as.map write).mapM read = some (as.map (fun a => [a])) := by
      induction as with
      | nil => rfl
      | cons a as ih =>
          rw [List.map_cons, List.mapM_cons, h, ih]
          rfl
    rw [payloads_map, hread, Option.map_some, ← List.flatMap_def,
      List.flatMap_singleton']
  read_congr fs gs hsame := by rw [hsame n (List.mem_singleton_self n)]

/-- Messages of another type that stand for some of a codec. -/
def pmap (c : MessageCodec ns β) (f : α → β) (g : β → Option α)
    (h : ∀ a, g (f a) = some a) : MessageCodec ns α where
  write a := c.write (f a)
  read fs := (c.read fs).bind g
  number_mem a := c.number_mem (f a)
  read_write a := by rw [c.read_write, Option.bind_some, h]
  read_congr fs gs hsame := by rw [c.read_congr fs gs hsame]

def imap (c : MessageCodec ns β) (f : α → β) (g : β → α) (h : ∀ a, g (f a) = a) :
    MessageCodec ns α :=
  c.pmap f (fun b => some (g b)) (fun a => congrArg some (h a))

/-! ### Single fields -/

def repeated (n : ℕ) (c : ValueCodec α) : MessageCodec [n] (List α) :=
  repeatedWith n c.write (fun p => (c.read p).map (fun a => [a]))
    (fun a => by rw [c.read_write, Option.map_some])

def optional (n : ℕ) (c : ValueCodec α) : MessageCodec [n] (Option α) :=
  (repeated n c).imap Option.toList List.getLast? (fun a => by cases a <;> rfl)

def required (n : ℕ) (c : ValueCodec α) : MessageCodec [n] α :=
  (repeated n c).pmap (fun a => [a]) List.getLast? (fun _ => rfl)

/-! ### Several fields -/

/-- The fields of both, which have no number in common. -/
def and (c : MessageCodec ns α) (d : MessageCodec ms β) (h : ∀ n ∈ ns, n ∉ ms) :
    MessageCodec (ns ++ ms) (α × β) where
  write p := c.write p.1 ++ d.write p.2
  read fs := (c.read fs).bind (fun a => (d.read fs).map (fun b => (a, b)))
  number_mem p f hf := by
    rw [List.mem_append] at hf ⊢
    exact hf.imp (c.number_mem p.1 f) (d.number_mem p.2 f)
  read_write p := by
    have hc : c.read (c.write p.1 ++ d.write p.2) = some p.1 := by
      rw [← c.read_write p.1]
      apply c.read_congr
      intro n hn
      have hnone : payloads n (d.write p.2) = [] := by
        apply payloads_eq_nil
        rintro f hf rfl
        exact h _ hn (d.number_mem p.2 f hf)
      rw [payloads_append, hnone, List.append_nil]
    have hd : d.read (c.write p.1 ++ d.write p.2) = some p.2 := by
      rw [← d.read_write p.2]
      apply d.read_congr
      intro n hn
      have hnone : payloads n (c.write p.1) = [] := by
        apply payloads_eq_nil
        rintro f hf rfl
        exact h _ (c.number_mem p.1 f hf) hn
      rw [payloads_append, hnone, List.nil_append]
    rw [hc, Option.bind_some, hd]
    rfl
  read_congr fs gs hsame := by
    rw [c.read_congr fs gs fun n hn => hsame n (List.mem_append_left _ hn),
      d.read_congr fs gs fun n hn => hsame n (List.mem_append_right _ hn)]

/-! ### Bytes -/

def serialize (c : MessageCodec ns α) (a : α) : List UInt8 := fieldBytes (c.write a)

def parse (c : MessageCodec ns α) (bs : List UInt8) : Option α :=
  (parseFields bs).bind c.read

/-- **What is serialised is parsed.** -/
theorem parse_serialize (c : MessageCodec ns α) (a : α) :
    c.parse (c.serialize a) = some a := by
  unfold parse serialize
  rw [parseFields_fieldBytes, Option.bind_some, c.read_write]

/-- A text in a message makes it no shorter than itself. -/
theorem length_le_serialize (c : MessageCodec ns α) {a : α} {n : ℕ} {bs : List UInt8}
    (h : ⟨n, .delimited bs⟩ ∈ c.write a) : bs.length ≤ (c.serialize a).length :=
  length_le_fieldBytes h

/-- A message in a payload. -/
def embedded (c : MessageCodec ns α) : ValueCodec α where
  write a := .delimited (c.serialize a)
  read
    | .delimited bs => c.parse bs
    | _ => none
  read_write a := c.parse_serialize a

/-- A field with a message, whose occurrences are merged. -/
def requiredMessage (n : ℕ) (c : MessageCodec ns α) : MessageCodec [n] α :=
  (repeated n .bytes).pmap (fun a => [c.serialize a])
    (fun bss => if bss = [] then none else c.parse bss.flatten)
    (fun a => by
      rw [if_neg (List.cons_ne_nil _ _), List.flatten_singleton, c.parse_serialize])

/-! ### Other fields -/

/-- What is read depends on the fields with known numbers only. -/
theorem parse_congr (c : MessageCodec ns α) {bs cs : List UInt8} {fs gs : List Field}
    (hb : parseFields bs = some fs) (hc : parseFields cs = some gs)
    (h : ∀ n ∈ ns, payloads n fs = payloads n gs) : c.parse bs = c.parse cs := by
  unfold parse
  rw [hb, hc, Option.bind_some, Option.bind_some, c.read_congr fs gs h]

/-- Fields with other numbers change nothing, wherever they stand. -/
theorem parse_others (c : MessageCodec ns α) {before others after : List UInt8}
    {fs gs hs : List Field} (hbefore : parseFields before = some fs)
    (hothers : parseFields others = some gs) (hafter : parseFields after = some hs)
    (hunknown : ∀ f ∈ gs, f.number ∉ ns) :
    c.parse (before ++ others ++ after) = c.parse (before ++ after) := by
  refine c.parse_congr
    (parseFields_append (parseFields_append hbefore hothers) hafter)
    (parseFields_append hbefore hafter) fun n hn => ?_
  have hnone : payloads n gs = [] :=
    payloads_eq_nil fun f hf => by
      rintro rfl
      exact hunknown f hf hn
  rw [payloads_append, payloads_append, payloads_append, hnone, List.append_nil]

end MessageCodec

end Libssc.Library

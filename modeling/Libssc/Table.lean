import Libssc.Server
import Mathlib.Data.List.Nodup

/-!
# Sensor tables

The tables a server can answer every request of an init from (`SensorTable`),
and what becomes of an entry on its way into a sensor object: the server encodes
its attributes, the library decodes them, and each field holds the entry's
value, or its default if the entry has none (`Entry.Matches`).
-/

namespace Libssc

open Server

variable {F : Type}

/-! ## Attributes of an entry -/

/-- The value of the attribute with id `k`. -/
def Entry.attribute? (e : Entry F) (k : Int32) : Option (AttributeValue F) :=
  (e.attributes.find? (fun a => a.id = k.toInt)).map Attribute.value

namespace AttributeValue

def str? : AttributeValue F → Option String
  | .single (.str s) => some s
  | _ => none

def bool? : AttributeValue F → Option Bool
  | .single (.bool b) => some b
  | _ => none

def float? : AttributeValue F → Option F
  | .single (.float f) => some f
  | _ => none

def int? : AttributeValue F → Option ℤ
  | .single (.int i) => some i
  | _ => none

end AttributeValue

variable [GFloat F]

/-- An entry with attributes that the server can encode, and with values of the
types that the library reads. -/
structure Entry.WellFormed (e : Entry F) : Prop where
  nonempty : e.attributes ≠ []
  ids : (e.attributes.map Attribute.id).Nodup
  accepted : ∀ a ∈ e.attributes, Accepted a
  name : ∀ v, e.attribute? SSC_ATTRIBUTE_NAME = some v →
    ∃ s, v = .single (.str s) ∧ IsCString s
  vendor : ∀ v, e.attribute? SSC_ATTRIBUTE_VENDOR = some v →
    ∃ s, v = .single (.str s) ∧ IsCString s
  available : ∀ v, e.attribute? SSC_ATTRIBUTE_AVAILABLE = some v →
    ∃ b, v = .single (.bool b)
  sampleRate : ∀ v, e.attribute? SSC_ATTRIBUTE_SAMPLE_RATE = some v →
    ∃ f, v = .single (.float f) ∧ GFloat.lt GFloat.zero f = true
  streamType : ∀ v, e.attribute? SSC_ATTRIBUTE_STREAM_TYPE = some v →
    ∃ i, v = .single (.int i) ∧ 0 ≤ i ∧ i < 2 ^ 32

/-- A table with one entry for each data type and each UID, and an entry for
'registry'. -/
structure SensorTable (F : Type) [GFloat F] where
  data : List (Entry F)
  dataTypes : (data.map Entry.dataType).Nodup
  uids : (data.map Entry.uid).Nodup
  registry : ∃ e ∈ data, e.dataType = "registry"
  wellFormed : ∀ e ∈ data, e.WellFormed

/-- The object has the UID and the attributes of the entry, and the defaults
where the entry has none. -/
structure Entry.Matches (e : Entry F) (p : SSCSensorPrivate F) : Prop where
  uid : p.uid = e.uid
  name : p.name = (e.attribute? SSC_ATTRIBUTE_NAME).bind AttributeValue.str?
  vendor : p.vendor =
    (e.attribute? SSC_ATTRIBUTE_VENDOR).bind AttributeValue.str?
  available : p.available =
    ((e.attribute? SSC_ATTRIBUTE_AVAILABLE).bind AttributeValue.bool?).getD
      false
  sampleRate : p.sampleRate =
    ((e.attribute? SSC_ATTRIBUTE_SAMPLE_RATE).bind AttributeValue.float?).getD
      GFloat.zero
  streamType : (p.streamType.toNat : ℤ) =
    ((e.attribute? SSC_ATTRIBUTE_STREAM_TYPE).bind AttributeValue.int?).getD 0

/-! ## Encoded attributes -/

omit [GFloat F] in
theorem id_of_encodesTo {a : Attribute F} {m : SscAttr F} (h : EncodesTo a m) :
    m.id.toInt = a.id := by
  obtain ⟨v, hv, hm, -⟩ := h
  have hid : v.1 = a.id := by
    unfold attributeValues at hv
    cases hval : a.value with
    | single w =>
        rw [hval] at hv
        cases hw : attrValue false w with
        | error e => simp [hw, Except.map] at hv
        | ok x =>
            simp only [hw, Except.map, Except.ok.injEq] at hv
            rw [← hv]
    | list ws =>
        rw [hval] at hv
        cases hw : ws.mapM (attrValue true) with
        | error e => simp [hw, Except.map] at hv
        | ok x =>
            simp only [hw, Except.map, Except.ok.injEq] at hv
            rw [← hv]
  unfold attrMessage at hm
  split at hm
  · rename_i hrange
    obtain rfl := Except.ok.inj hm
    rw [← hid]
    exact Int32.toInt_ofInt_of_le hrange.1 hrange.2
  · exact absurd hm (by simp)

omit [GFloat F] in
theorem valueArray_of_encodesTo {a : Attribute F} {m : SscAttr F}
    {v : JsonValue F} {x : SscAttrValue F} (h : EncodesTo a m)
    (hv : a.value = .single v) (hx : attrValue false v = .ok x) :
    m.valueArray = [x] := by
  obtain ⟨w, hw, hm, -⟩ := h
  simp only [attributeValues, hv, hx, Except.map, Except.ok.injEq] at hw
  unfold attrMessage at hm
  split at hm
  · obtain rfl := Except.ok.inj hm
    rw [← hw]
  · exact absurd hm (by simp)

/-- Lists that correspond element by element are searched alike by predicates
that correspond. -/
theorem find?_of_forall₂ {α β : Type} {R : α → β → Prop} {p : α → Bool}
    {q : β → Bool} {l : List α} {l' : List β} (h : List.Forall₂ R l l')
    (hpq : ∀ a b, R a b → p a = q b) :
    (l.find? p = none ∧ l'.find? q = none) ∨
      ∃ a b, l.find? p = some a ∧ l'.find? q = some b ∧ R a b := by
  induction h with
  | nil => exact Or.inl ⟨rfl, rfl⟩
  | @cons a b l l' hab _ ih =>
      have hp := hpq a b hab
      cases hq : q b with
      | true =>
          rw [hq] at hp
          exact Or.inr ⟨a, b, List.find?_cons_of_pos hp,
            List.find?_cons_of_pos hq, hab⟩
      | false =>
          rw [hq] at hp
          rw [List.find?_cons_of_neg (by simp [hp]),
            List.find?_cons_of_neg (by simp [hq])]
          exact ih

omit [GFloat F] in
/-- The received attribute with id `k`, if the entry has one. -/
theorem find?_received {e : Entry F} {attr : List (SscAttr F)}
    (h : List.Forall₂ EncodesTo e.attributes attr) (k : Int32) :
    (e.attribute? k = none ∧
        (attr.map SscAttr.received).find? (fun m => m.id = k) = none) ∨
      ∃ a m, e.attribute? k = some a.value ∧ EncodesTo a m ∧
        (attr.map SscAttr.received).find? (fun m => m.id = k) =
          some m.received := by
  have hkey : ∀ (a : Attribute F) (m : SscAttr F), EncodesTo a m →
      decide (a.id = k.toInt) = decide (m.id = k) := by
    intro a m ham
    rw [← id_of_encodesTo ham]
    exact decide_eq_decide.mpr Int32.toInt_inj
  have hreceived : (attr.map SscAttr.received).find? (fun m => m.id = k) =
      (attr.find? (fun m => m.id = k)).map SscAttr.received := by
    rw [List.find?_map]
    rfl
  rw [hreceived]
  unfold Entry.attribute?
  rcases find?_of_forall₂ h hkey with ⟨hn, hn'⟩ | ⟨a, m, ha, hm, ham⟩
  · exact Or.inl ⟨by rw [hn]; rfl, by rw [hn']; rfl⟩
  · exact Or.inr ⟨a, m, by rw [ha]; rfl, ham, by rw [hm]; rfl⟩

omit [GFloat F] in
theorem nodup_received {e : Entry F} {attr : List (SscAttr F)}
    (h : List.Forall₂ EncodesTo e.attributes attr)
    (hids : (e.attributes.map Attribute.id).Nodup) :
    ((attr.map SscAttr.received).map SscAttr.id).Nodup := by
  have hmap : attr.map (fun m => m.id.toInt) = e.attributes.map Attribute.id := by
    clear hids
    generalize e.attributes = as at h
    induction h with
    | nil => rfl
    | cons ham _ ih => rw [List.map_cons, List.map_cons, ih, id_of_encodesTo ham]
  rw [← hmap] at hids
  rw [List.map_map]
  apply List.Nodup.of_map Int32.toInt
  rw [List.map_map]
  exact hids

/-! ## Populated objects -/

/-- A field that attributes with id `k` set holds what `f` makes of the entry's
value, or what it held before. -/
theorem field_of_encodesTo {α : Type} {π : SSCSensorPrivate F → α} {k : Int32}
    {read : List (SscAttrValue F) → Option α}
    {f : AttributeValue F → Option α} {e : Entry F} {attr : List (SscAttr F)}
    (hπ : ∀ p a, π (attributeReceived p a) = (fieldValue k read a).getD (π p))
    (hids : (e.attributes.map Attribute.id).Nodup)
    (h : List.Forall₂ EncodesTo e.attributes attr)
    (hread : ∀ a m, e.attribute? k = some a.value → EncodesTo a m →
      read (m.valueArray.map SscAttrValue.received) = f a.value)
    (p : SSCSensorPrivate F) :
    π (attributesReceived p ⟨attr.map SscAttr.received⟩) =
      ((e.attribute? k).bind f).getD (π p) := by
  rw [attributesReceived_of_nodup hπ (nodup_received h hids)]
  rcases find?_received h k with ⟨hn, hn'⟩ | ⟨a, m, ha, ham, hm⟩
  · rw [hn, hn']
    rfl
  · rw [ha, hm]
    show (read (m.valueArray.map SscAttrValue.received)).getD _ = _
    rw [hread a m ha ham]
    rfl

/-! What the library reads from the encoding of each type of value. -/

omit [GFloat F] in
theorem readString_of_encodesTo {a : Attribute F} {m : SscAttr F}
    (h : ∃ s, a.value = .single (.str s) ∧ IsCString s) (ham : EncodesTo a m) :
    readString (m.valueArray.map SscAttrValue.received) =
      a.value.str?.map some := by
  obtain ⟨s, hs, hc⟩ := h
  rw [valueArray_of_encodesTo ham hs rfl, hs]
  show some (some (cString s)) = _
  rw [cString_of_isCString hc]
  rfl

omit [GFloat F] in
theorem readBool_of_encodesTo {a : Attribute F} {m : SscAttr F}
    (h : ∃ b, a.value = .single (.bool b)) (ham : EncodesTo a m) :
    readBool (m.valueArray.map SscAttrValue.received) = a.value.bool? := by
  obtain ⟨b, hb⟩ := h
  rw [valueArray_of_encodesTo ham hb rfl, hb]
  rfl

theorem firstSampleRate_of_encodesTo {a : Attribute F} {m : SscAttr F}
    (h : ∃ f, a.value = .single (.float f) ∧
      GFloat.lt GFloat.zero f = true)
    (ham : EncodesTo a m) :
    firstSampleRate (m.valueArray.map SscAttrValue.received) =
      a.value.float? := by
  obtain ⟨f, hf, hpos⟩ := h
  rw [valueArray_of_encodesTo ham hf rfl, hf]
  exact if_pos hpos

omit [GFloat F] in
theorem readInt_of_encodesTo {a : Attribute F} {m : SscAttr F}
    (h : ∃ i, a.value = .single (.int i) ∧ 0 ≤ i ∧ i < 2 ^ 32)
    (ham : EncodesTo a m) :
    readInt (m.valueArray.map SscAttrValue.received) =
      a.value.int?.map (fun i => UInt32.ofNat i.toNat) := by
  obtain ⟨i, hi, hnonneg, hlt⟩ := h
  have hx : attrValue false (.int i : JsonValue F) =
      .ok { s := none, f := none, i := some (.ofNat i.toNat), b := none } :=
    if_pos ⟨hnonneg, by omega⟩
  rw [valueArray_of_encodesTo ham hi hx, hi]
  show some (UInt64.ofNat i.toNat).toUInt32 = _
  rw [UInt64.toUInt32_ofNat']
  rfl

/-- The two fields that hold strings. -/
theorem string_of_encodesTo {π : SSCSensorPrivate F → Option String} {k : Int32}
    {e : Entry F} {attr : List (SscAttr F)} {p : SSCSensorPrivate F}
    (hπ : ∀ p a,
      π (attributeReceived p a) = (fieldValue k readString a).getD (π p))
    (hids : (e.attributes.map Attribute.id).Nodup)
    (h : List.Forall₂ EncodesTo e.attributes attr)
    (hstr : ∀ v, e.attribute? k = some v →
      ∃ s, v = .single (.str s) ∧ IsCString s)
    (hp : π p = none) :
    π (attributesReceived p ⟨attr.map SscAttr.received⟩) =
      (e.attribute? k).bind AttributeValue.str? := by
  rw [field_of_encodesTo (f := fun v => v.str?.map some) hπ hids h
    (fun a m ha => readString_of_encodesTo (hstr _ ha)), hp]
  cases e.attribute? k with
  | none => rfl
  | some v => cases hv : v.str? <;> simp [hv]

/-- **An object populated from an encoded entry matches the entry.** -/
theorem matches_of_encodesTo {e : Entry F} {attr : List (SscAttr F)}
    (he : e.WellFormed) (h : List.Forall₂ EncodesTo e.attributes attr)
    {p : SSCSensorPrivate F} (huid : p.uid = e.uid) (hname : p.name = none)
    (hvendor : p.vendor = none) (havailable : p.available = false)
    (hrate : p.sampleRate = GFloat.zero) (hstream : p.streamType = 0) :
    e.Matches (attributesReceived p ⟨attr.map SscAttr.received⟩) where
  uid := by
    rw [attributesReceived_uid]
    exact huid
  name := string_of_encodesTo (π := SSCSensorPrivate.name)
    (fun p a => congrArg SSCSensorPrivate.name (attributeReceived_eq p a))
    he.ids h he.name hname
  vendor := string_of_encodesTo (π := SSCSensorPrivate.vendor)
    (fun p a => congrArg SSCSensorPrivate.vendor (attributeReceived_eq p a))
    he.ids h he.vendor hvendor
  available := by
    rw [field_of_encodesTo (π := SSCSensorPrivate.available)
      (fun p a => congrArg SSCSensorPrivate.available (attributeReceived_eq p a))
      he.ids h (fun a m ha => readBool_of_encodesTo (he.available _ ha)),
      havailable]
  sampleRate := by
    rw [field_of_encodesTo (π := SSCSensorPrivate.sampleRate)
      (fun p a => congrArg SSCSensorPrivate.sampleRate (attributeReceived_eq p a))
      he.ids h (fun a m ha => firstSampleRate_of_encodesTo (he.sampleRate _ ha)),
      hrate]
  streamType := by
    rw [field_of_encodesTo (π := SSCSensorPrivate.streamType)
      (f := fun v => v.int?.map (fun i => UInt32.ofNat i.toNat))
      (fun p a => congrArg SSCSensorPrivate.streamType (attributeReceived_eq p a))
      he.ids h (fun a m ha => readInt_of_encodesTo (he.streamType _ ha)), hstream]
    cases hv : e.attribute? SSC_ATTRIBUTE_STREAM_TYPE with
    | none => rfl
    | some v =>
        obtain ⟨i, rfl, hnonneg, hlt⟩ := he.streamType v hv
        have hsize : i.toNat < UInt32.size := by
          show i.toNat < 4294967296
          omega
        show ((UInt32.ofNat i.toNat).toNat : ℤ) = i
        rw [UInt32.toNat_ofNat_of_lt' hsize]
        exact Int.toNat_of_nonneg hnonneg

/-! ## Lookup -/

/-- An element is found by a key that no other element has. -/
theorem find?_key {α β : Type} [DecidableEq β] {f : α → β} {l : List α} {a : α}
    (h : (l.map f).Nodup) (ha : a ∈ l) :
    l.find? (fun x => f x = f a) = some a := by
  induction l with
  | nil => exact absurd ha (List.not_mem_nil)
  | cons b l ih =>
      rw [List.map_cons, List.nodup_cons] at h
      rcases List.mem_cons.mp ha with rfl | hmem
      · exact List.find?_cons_of_pos (by simp)
      · have hne : f b ≠ f a := fun heq =>
          h.1 (heq ▸ List.mem_map_of_mem hmem)
        rw [List.find?_cons_of_neg (by simpa using hne)]
        exact ih h.2 hmem

/-- An entry that is looked up has the key it was looked up by. -/
theorem of_find?_key {α β : Type} [DecidableEq β] {f : α → β} {l : List α}
    {a : α} {b : β} (h : l.find? (fun x => f x = b) = some a) :
    a ∈ l ∧ f a = b :=
  ⟨List.mem_of_find?_eq_some h, by simpa using List.find?_some h⟩

/-! ## The entries of the server's data files -/

/-- An entry as in the data files, with a mount matrix or without one. -/
def mockSensor (dataType name : String) (uid : UInt64) (rate : F) (onChange : Bool)
    (matrix : List F) : Entry F where
  dataType := dataType
  uid := ⟨uid, uid⟩
  attributes :=
    [⟨0, .single (.str name)⟩, ⟨1, .single (.str "libssc")⟩,
      ⟨3, .single (.bool true)⟩, ⟨6, .single (.float rate)⟩,
      ⟨16, .single (.int (if onChange then 1 else 0))⟩] ++
    match matrix with
    | [] => []
    | f :: fs => [⟨20, .list (.float f :: fs.map JsonValue.float)⟩]

omit [GFloat F] in
/-- Floats are always encoded. -/
theorem mapM_attrValue_float (fs : List F) :
    (fs.map JsonValue.float).mapM (attrValue true) =
      .ok (fs.map fun f => ⟨none, some f, none, none⟩) := by
  apply mapM_eq_ok
  induction fs with
  | nil => exact .nil
  | cons f fs ih => exact .cons rfl ih

theorem wellFormed_mockSensor (dataType : String) {name : String} (uid : UInt64)
    {rate : F} (onChange : Bool) (matrix : List F) (hname : IsCString name)
    (hrate : GFloat.lt GFloat.zero rate = true) :
    (mockSensor dataType name uid rate onChange matrix).WellFormed where
  nonempty := by simp [mockSensor]
  ids := by
    cases matrix with
    | nil =>
        show ([0, 1, 3, 6, 16] : List ℤ).Nodup
        decide
    | cons f fs =>
        show ([0, 1, 3, 6, 16, 20] : List ℤ).Nodup
        decide
  accepted := by
    intro a ha
    simp only [mockSensor, List.mem_append, List.mem_cons, List.not_mem_nil,
      or_false] at ha
    rcases ha with (rfl | rfl | rfl | rfl | rfl) | ha
    · exact ⟨_, _, rfl, rfl, List.cons_ne_nil _ _⟩
    · exact ⟨_, _, rfl, rfl, List.cons_ne_nil _ _⟩
    · exact ⟨_, _, rfl, rfl, List.cons_ne_nil _ _⟩
    · exact ⟨_, _, rfl, rfl, List.cons_ne_nil _ _⟩
    · cases onChange with
      | false => exact ⟨_, _, rfl, rfl, List.cons_ne_nil _ _⟩
      | true => exact ⟨_, _, rfl, rfl, List.cons_ne_nil _ _⟩
    · cases matrix with
      | nil => exact absurd ha List.not_mem_nil
      | cons f fs =>
          obtain rfl := List.mem_singleton.mp ha
          have hvalues : attributeValues
              ⟨20, .list ((f :: fs).map JsonValue.float)⟩ =
                .ok (20, (f :: fs).map fun f => ⟨none, some f, none, none⟩) := by
            simp only [attributeValues, mapM_attrValue_float]
            rfl
          exact ⟨_, _, hvalues, rfl, List.cons_ne_nil _ _⟩
  name := by
    intro v hv
    obtain rfl := Option.some.inj hv
    exact ⟨name, rfl, hname⟩
  vendor := by
    intro v hv
    obtain rfl := Option.some.inj hv
    exact ⟨"libssc", rfl, by decide⟩
  available := by
    intro v hv
    obtain rfl := Option.some.inj hv
    exact ⟨true, rfl⟩
  sampleRate := by
    intro v hv
    obtain rfl := Option.some.inj hv
    exact ⟨rate, rfl, hrate⟩
  streamType := by
    intro v hv
    obtain rfl := Option.some.inj hv
    exact ⟨if onChange then 1 else 0, rfl, by cases onChange <;> decide⟩

/-- The registry and another sensor. -/
def mockTable (rate : F) (hrate : GFloat.lt GFloat.zero rate = true) (e : Entry F)
    (he : e.WellFormed) (hdata : e.dataType ≠ "registry") (huid : e.uid ≠ ⟨8, 8⟩) :
    SensorTable F where
  data := [mockSensor "registry" "registry-mock" 8 rate true [], e]
  dataTypes := List.nodup_cons.mpr
    ⟨fun h => hdata (List.mem_singleton.mp h).symm, List.nodup_singleton _⟩
  uids := List.nodup_cons.mpr
    ⟨fun h => huid (List.mem_singleton.mp h).symm, List.nodup_singleton _⟩
  registry := ⟨_, List.mem_cons_self, rfl⟩
  wellFormed := by
    intro e' he'
    rcases List.mem_pair.mp he' with rfl | rfl
    · exact wellFormed_mockSensor _ _ _ _ (by decide) hrate
    · exact he

end Libssc

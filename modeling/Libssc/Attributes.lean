import Libssc.Message
import Mathlib.Data.Fin.Basic
import Mathlib.Data.List.Induction

/-!
# The private state of a sensor and its attributes

`SSCSensorPrivate` and the loop of `report_received` that decodes an attribute
response into it. `attributeReceived_eq` says what one attribute does to every
field at once; after the loop each field holds the last value the response has
for it (`attributesReceived_field`).
-/

namespace Libssc

variable {F : Type} [GFloat F]

/-- `SSCSensorPrivate`. `client` says whether the client pointer is set. -/
structure SSCSensorPrivate (F : Type) where
  uid : SscUid
  name : Option String
  vendor : Option String
  dataType : String
  streamType : UInt32
  available : Bool
  sampleRate : F
  mountMatrix : Fin 3 → Fin 3 → F
  client : Bool
  reportId : ℕ
  serviceAvailable : Bool
  serviceRetries : ℕ

/-- The 3x3 identity, in row-major order. -/
def identityMatrix : Fin 3 → Fin 3 → F :=
  fun i j => if i = j then GFloat.one else GFloat.zero

/-- A sensor object as `ssc_sensor_init` leaves it: zero-filled, except for the
data type it is constructed with and the mount matrix. -/
def sscSensorInit (dataType : String) : SSCSensorPrivate F where
  uid := ⟨0, 0⟩
  name := none
  vendor := none
  dataType := dataType
  streamType := 0
  available := false
  sampleRate := GFloat.zero
  mountMatrix := identityMatrix
  client := false
  reportId := 0
  serviceAvailable := false
  serviceRetries := 0

/-! ## One attribute -/

/-- The only element of a value array that must have exactly one. -/
def single {α : Type} : List α → Option α
  | [v] => some v
  | _ => none

/-- The loop over the sample rates: the first one that is positive. -/
def firstSampleRate : List (SscAttrValue F) → Option F
  | [] => none
  | v :: vs =>
      match v.f with
      | none => firstSampleRate vs
      | some f => if GFloat.lt GFloat.zero f then some f else firstSampleRate vs

/-- Write entry `k` of the matrix, counted row by row. -/
def setEntry (m : Fin 3 → Fin 3 → F) (k : ℕ) (f : F) : Fin 3 → Fin 3 → F :=
  fun i j => if i.val = k / 3 ∧ j.val = k % 3 then f else m i j

/-- The loop over the first nine values of a mount matrix attribute, from entry
`k` on. -/
def copyEntries : ℕ → List (SscAttrValue F) → (Fin 3 → Fin 3 → F) →
    Fin 3 → Fin 3 → F
  | _, [], m => m
  | k, v :: vs, m =>
      copyEntries (k + 1) vs
        (match v.f with
        | none => m
        | some f => setEntry m k f)

/-- Entry `k` of the matrix, counted row by row. -/
def entry (m : Fin 3 → Fin 3 → F) (k : Fin 9) : F :=
  m ⟨k.val / 3, by omega⟩ ⟨k.val % 3, by omega⟩

/-- `sum += priv->mount_matrix[k/3][k%3]` over the nine entries, into a `gint`:
each sum is computed as a float and truncated. -/
def entrySum (m : Fin 3 → Fin 3 → F) : Int32 :=
  (List.finRange 9).foldl
    (fun sum k => GFloat.trunc (GFloat.add (GFloat.ofInt sum.toInt) (entry m k))) 0

/-- `SSC_ATTRIBUTE_MOUNT_MATRIX`: copy the values, then set the diagonal if the
entries add up to zero. -/
def mountMatrixAttribute (vs : List (SscAttrValue F))
    (m : Fin 3 → Fin 3 → F) : Fin 3 → Fin 3 → F :=
  let m := copyEntries 0 (vs.take 9) m
  if entrySum m = 0 then
    fun i j => if i = j then GFloat.one else m i j
  else m

/-- The body of the loop: one attribute. -/
def attributeReceived (p : SSCSensorPrivate F) (a : SscAttr F) :
    SSCSensorPrivate F :=
  if a.id = SSC_ATTRIBUTE_NAME then
    match (single a.valueArray).bind SscAttrValue.s with
    | some s => { p with name := some s }
    | none => p
  else if a.id = SSC_ATTRIBUTE_VENDOR then
    match (single a.valueArray).bind SscAttrValue.s with
    | some s => { p with vendor := some s }
    | none => p
  else if a.id = SSC_ATTRIBUTE_AVAILABLE then
    match (single a.valueArray).bind SscAttrValue.b with
    | some b => { p with available := b }
    | none => p
  else if a.id = SSC_ATTRIBUTE_SAMPLE_RATE then
    match firstSampleRate a.valueArray with
    | some f => { p with sampleRate := f }
    | none => p
  else if a.id = SSC_ATTRIBUTE_STREAM_TYPE then
    match (single a.valueArray).bind SscAttrValue.i with
    -- `guint` is narrower than the `guint64` of the message
    | some i => { p with streamType := i.toUInt32 }
    | none => p
  else if a.id = SSC_ATTRIBUTE_MOUNT_MATRIX then
    { p with mountMatrix := mountMatrixAttribute a.valueArray p.mountMatrix }
  else p

/-- The loop over all attributes of a response. -/
def attributesReceived (p : SSCSensorPrivate F) (m : SscAttrResponse F) :
    SSCSensorPrivate F :=
  m.attr.foldl attributeReceived p

/-! ## What one attribute does to each field -/

/-! What each kind of field is set to, given the value array of an attribute. -/

def readString (vs : List (SscAttrValue F)) : Option (Option String) :=
  ((single vs).bind SscAttrValue.s).map some

def readBool (vs : List (SscAttrValue F)) : Option Bool :=
  (single vs).bind SscAttrValue.b

def readInt (vs : List (SscAttrValue F)) : Option UInt32 :=
  ((single vs).bind SscAttrValue.i).map UInt64.toUInt32

/-- The value an attribute has for the field that attributes with id `k` set. -/
def fieldValue {α : Type} (k : Int32) (read : List (SscAttrValue F) → Option α)
    (a : SscAttr F) : Option α :=
  if a.id = k then read a.valueArray else none

/-- An attribute replaces the field it has a value for. -/
theorem attributeReceived_eq (p : SSCSensorPrivate F) (a : SscAttr F) :
    attributeReceived p a =
      { p with
        name := (fieldValue SSC_ATTRIBUTE_NAME readString a).getD p.name
        vendor := (fieldValue SSC_ATTRIBUTE_VENDOR readString a).getD p.vendor
        available := (fieldValue SSC_ATTRIBUTE_AVAILABLE readBool a).getD
          p.available
        sampleRate :=
          (fieldValue SSC_ATTRIBUTE_SAMPLE_RATE firstSampleRate a).getD
            p.sampleRate
        streamType := (fieldValue SSC_ATTRIBUTE_STREAM_TYPE readInt a).getD
          p.streamType
        mountMatrix := if a.id = SSC_ATTRIBUTE_MOUNT_MATRIX then
            mountMatrixAttribute a.valueArray p.mountMatrix
          else p.mountMatrix } := by
  unfold attributeReceived fieldValue readString readBool readInt
  -- once the id is known, every condition on it computes
  by_cases h₀ : a.id = SSC_ATTRIBUTE_NAME
  · rw [h₀]
    cases (single a.valueArray).bind SscAttrValue.s <;> rfl
  by_cases h₁ : a.id = SSC_ATTRIBUTE_VENDOR
  · rw [h₁]
    cases (single a.valueArray).bind SscAttrValue.s <;> rfl
  by_cases h₂ : a.id = SSC_ATTRIBUTE_AVAILABLE
  · rw [h₂]
    cases (single a.valueArray).bind SscAttrValue.b <;> rfl
  by_cases h₃ : a.id = SSC_ATTRIBUTE_SAMPLE_RATE
  · rw [h₃]
    cases firstSampleRate a.valueArray <;> rfl
  by_cases h₄ : a.id = SSC_ATTRIBUTE_STREAM_TYPE
  · rw [h₄]
    cases (single a.valueArray).bind SscAttrValue.i <;> rfl
  simp only [if_neg h₀, if_neg h₁, if_neg h₂, if_neg h₃, if_neg h₄]
  split <;> rfl

/-! ## What the loop leaves alone -/

/-- The fields of the private state that attributes say nothing about. -/
def SSCSensorPrivate.control (p : SSCSensorPrivate F) :
    SscUid × String × Bool × ℕ × Bool × ℕ :=
  (p.uid, p.dataType, p.client, p.reportId, p.serviceAvailable,
    p.serviceRetries)

theorem attributeReceived_control (p : SSCSensorPrivate F) (a : SscAttr F) :
    (attributeReceived p a).control = p.control := by
  rw [attributeReceived_eq]
  rfl

theorem attributesReceived_control (p : SSCSensorPrivate F)
    (m : SscAttrResponse F) :
    (attributesReceived p m).control = p.control := by
  unfold attributesReceived
  induction m.attr generalizing p with
  | nil => rfl
  | cons a as ih =>
      rw [List.foldl_cons, ih, attributeReceived_control]

@[simp] theorem attributesReceived_uid (p : SSCSensorPrivate F)
    (m : SscAttrResponse F) : (attributesReceived p m).uid = p.uid :=
  congrArg (·.1) (attributesReceived_control p m)

@[simp] theorem attributesReceived_dataType (p : SSCSensorPrivate F)
    (m : SscAttrResponse F) : (attributesReceived p m).dataType = p.dataType :=
  congrArg (·.2.1) (attributesReceived_control p m)

@[simp] theorem attributesReceived_client (p : SSCSensorPrivate F)
    (m : SscAttrResponse F) : (attributesReceived p m).client = p.client :=
  congrArg (·.2.2.1) (attributesReceived_control p m)

@[simp] theorem attributesReceived_reportId (p : SSCSensorPrivate F)
    (m : SscAttrResponse F) : (attributesReceived p m).reportId = p.reportId :=
  congrArg (·.2.2.2.1) (attributesReceived_control p m)

@[simp] theorem attributesReceived_serviceAvailable (p : SSCSensorPrivate F)
    (m : SscAttrResponse F) :
    (attributesReceived p m).serviceAvailable = p.serviceAvailable :=
  congrArg (·.2.2.2.2.1) (attributesReceived_control p m)

@[simp] theorem attributesReceived_serviceRetries (p : SSCSensorPrivate F)
    (m : SscAttrResponse F) :
    (attributesReceived p m).serviceRetries = p.serviceRetries :=
  congrArg (·.2.2.2.2.2) (attributesReceived_control p m)

/-! ## What the loop does to one field -/

/-- **Each field ends up with the last value the response has for it**, and with
its old value if there is none. -/
theorem attributesReceived_field {α : Type} {π : SSCSensorPrivate F → α}
    {v : SscAttr F → Option α}
    (h : ∀ p a, π (attributeReceived p a) = (v a).getD (π p))
    (p : SSCSensorPrivate F) (m : SscAttrResponse F) :
    π (attributesReceived p m) = (m.attr.filterMap v).getLast?.getD (π p) := by
  unfold attributesReceived
  induction m.attr using List.reverseRecOn with
  | nil => rfl
  | append_singleton as a ih =>
      rw [List.foldl_append, List.foldl_cons, List.foldl_nil, h, ih,
        List.filterMap_append]
      cases hv : v a with
      | none => simp [hv]
      | some x => simp [hv]

omit [GFloat F] in
/-- If no two attributes share an id, the one with id `k` decides. -/
theorem getLast?_fieldValue {α : Type} {k : Int32}
    {read : List (SscAttrValue F) → Option α} {as : List (SscAttr F)}
    (h : (as.map SscAttr.id).Nodup) :
    (as.filterMap (fieldValue k read)).getLast? =
      (as.find? (fun a => a.id = k)).bind (fun a => read a.valueArray) := by
  induction as with
  | nil => rfl
  | cons a as ih =>
      rw [List.map_cons, List.nodup_cons] at h
      by_cases hk : a.id = k
      · have hnil : as.filterMap (fieldValue k read) = [] := by
          apply List.filterMap_eq_nil_iff.mpr
          intro b hb
          apply if_neg
          intro hbk
          exact h.1 (List.mem_map.mpr ⟨b, hb, hbk.trans hk.symm⟩)
        rw [List.find?_cons_of_pos (by simpa using hk)]
        cases hr : read a.valueArray with
        | none => simp [fieldValue, hk, hr, hnil]
        | some x => simp [fieldValue, hk, hr, hnil]
      · have hnone : fieldValue k read a = none := if_neg hk
        rw [List.find?_cons_of_neg (by simpa using hk), ← ih h.2,
          List.filterMap_cons_none hnone]
/-- With distinct ids a field that attributes with id `k` set gets the value of
the attribute with that id. -/
theorem attributesReceived_of_nodup {α : Type} {π : SSCSensorPrivate F → α}
    {k : Int32} {read : List (SscAttrValue F) → Option α}
    (hπ : ∀ p a, π (attributeReceived p a) = (fieldValue k read a).getD (π p))
    {m : SscAttrResponse F} (hm : (m.attr.map SscAttr.id).Nodup)
    (p : SSCSensorPrivate F) :
    π (attributesReceived p m) =
      ((m.attr.find? (fun a => a.id = k)).bind
        (fun a => read a.valueArray)).getD (π p) := by
  rw [attributesReceived_field hπ, getLast?_fieldValue hm]

end Libssc

import Libssc.Attributes
import Mathlib.Data.List.Nodup
import Libssc.Library.LastWins

/-!
# What an attribute response says

The loop over the attributes of a response reads the value arrays by index, with
the number of values as its only guard. `attributesIndexed` is that loop with the
reads as they are made, and `none` is a read outside of an array; it never
happens (`attributesIndexed_eq`).

What the loop leaves behind does not mention its steps: each field has the last
value that the response has for it (`LastWins`), where an attribute has a value
for a field only in the form the field takes. Attributes with distinct ids can
come in any order (`attributeReceived_comm`).
-/

namespace Libssc

open Library

variable {F : Type} [GFloat F]

/-! ## The loops with their reads -/

/-- `value_array->v[0]`, guarded by `value_array->n_v == 1`. -/
def singleIndexed (vs : List (SscAttrValue F)) :
    Option (Option (SscAttrValue F)) :=
  if vs.length = 1 then (vs[0]?).map some else some none

/-- The loop over the sample rates, with `n` turns left. -/
def sampleRateIndexed (vs : List (SscAttrValue F)) :
    ℕ → ℕ → Option (Option F)
  | 0, _ => some none
  | n + 1, j =>
      match vs[j]? with
      | none => none
      | some v =>
          match v.f with
          | none => sampleRateIndexed vs n (j + 1)
          | some f =>
              if GFloat.lt GFloat.zero f then some (some f)
              else sampleRateIndexed vs n (j + 1)

/-- The loop over the values of a mount matrix, with `n` turns left. -/
def entriesIndexed (vs : List (SscAttrValue F)) :
    ℕ → ℕ → (Fin 3 → Fin 3 → F) → Option (Fin 3 → Fin 3 → F)
  | 0, _, m => some m
  | n + 1, j, m =>
      match vs[j]? with
      | none => none
      | some v =>
          entriesIndexed vs n (j + 1)
            (match v.f with
            | none => m
            | some f => setEntry m j f)

def mountMatrixIndexed (vs : List (SscAttrValue F)) (m : Fin 3 → Fin 3 → F) :
    Option (Fin 3 → Fin 3 → F) :=
  (entriesIndexed vs (min vs.length 9) 0 m).map (fun m =>
    if entrySum m = 0 then fun i j => if i = j then GFloat.one else m i j else m)

/-- The body of the loop: one attribute. -/
def attributeIndexed (p : SSCSensorPrivate F) (a : SscAttr F) :
    Option (SSCSensorPrivate F) :=
  if a.id = SSC_ATTRIBUTE_NAME then
    (singleIndexed a.valueArray).map (fun v =>
      match v.bind SscAttrValue.s with
      | some s => { p with name := some s }
      | none => p)
  else if a.id = SSC_ATTRIBUTE_VENDOR then
    (singleIndexed a.valueArray).map (fun v =>
      match v.bind SscAttrValue.s with
      | some s => { p with vendor := some s }
      | none => p)
  else if a.id = SSC_ATTRIBUTE_AVAILABLE then
    (singleIndexed a.valueArray).map (fun v =>
      match v.bind SscAttrValue.b with
      | some b => { p with available := b }
      | none => p)
  else if a.id = SSC_ATTRIBUTE_SAMPLE_RATE then
    (sampleRateIndexed a.valueArray a.valueArray.length 0).map (fun f =>
      match f with
      | some f => { p with sampleRate := f }
      | none => p)
  else if a.id = SSC_ATTRIBUTE_STREAM_TYPE then
    (singleIndexed a.valueArray).map (fun v =>
      match v.bind SscAttrValue.i with
      | some i => { p with streamType := i.toUInt32 }
      | none => p)
  else if a.id = SSC_ATTRIBUTE_MOUNT_MATRIX then
    (mountMatrixIndexed a.valueArray p.mountMatrix).map (fun m =>
      { p with mountMatrix := m })
  else some p

/-- The loop over all attributes of a response. -/
def attributesIndexed (p : SSCSensorPrivate F) (m : SscAttrResponse F) :
    Option (SSCSensorPrivate F) :=
  m.attr.foldlM attributeIndexed p

omit [GFloat F] in
theorem singleIndexed_eq (vs : List (SscAttrValue F)) :
    singleIndexed vs = some (single vs) := by
  cases vs with
  | nil => rfl
  | cons v vs =>
      cases vs with
      | nil => rfl
      | cons w vs => simp [singleIndexed, single]

theorem sampleRateIndexed_eq (vs : List (SscAttrValue F)) {n j : ℕ}
    (h : j + n = vs.length) :
    sampleRateIndexed vs n j = some (firstSampleRate (vs.drop j)) := by
  induction n generalizing j with
  | zero =>
      rw [List.drop_eq_nil_of_le (by omega)]
      rfl
  | succ n ih =>
      have hj : j < vs.length := by omega
      have hnext := ih (j := j + 1) (by omega)
      rw [List.drop_eq_getElem_cons hj]
      unfold sampleRateIndexed firstSampleRate
      rw [List.getElem?_eq_getElem hj]
      simp only
      cases vs[j].f with
      | none => exact hnext
      | some f =>
          simp only
          split_ifs
          · rfl
          · exact hnext

omit [GFloat F] in
theorem entriesIndexed_eq (vs : List (SscAttrValue F)) {n j : ℕ}
    (h : j + n ≤ vs.length) (m : Fin 3 → Fin 3 → F) :
    entriesIndexed vs n j m = some (copyEntries j ((vs.drop j).take n) m) := by
  induction n generalizing j m with
  | zero => rfl
  | succ n ih =>
      have hj : j < vs.length := by omega
      rw [List.drop_eq_getElem_cons hj, List.take_succ_cons]
      unfold entriesIndexed copyEntries
      rw [List.getElem?_eq_getElem hj]
      exact ih (by omega) _

theorem mountMatrixIndexed_eq (vs : List (SscAttrValue F))
    (m : Fin 3 → Fin 3 → F) :
    mountMatrixIndexed vs m = some (mountMatrixAttribute vs m) := by
  have htake : vs.take (min vs.length 9) = vs.take 9 := by
    rw [Nat.min_comm, ← List.take_take, List.take_length]
  unfold mountMatrixIndexed mountMatrixAttribute
  rw [entriesIndexed_eq vs (by omega), List.drop_zero, htake]
  rfl

theorem attributeIndexed_eq (p : SSCSensorPrivate F) (a : SscAttr F) :
    attributeIndexed p a = some (attributeReceived p a) := by
  unfold attributeIndexed attributeReceived
  rw [singleIndexed_eq, sampleRateIndexed_eq a.valueArray (Nat.zero_add _),
    mountMatrixIndexed_eq, List.drop_zero]
  split_ifs <;> rfl

/-- **No value is read outside of its array.** -/
theorem attributesIndexed_eq (p : SSCSensorPrivate F) (m : SscAttrResponse F) :
    attributesIndexed p m = some (attributesReceived p m) := by
  unfold attributesIndexed attributesReceived
  induction m.attr generalizing p with
  | nil => rfl
  | cons a as ih =>
      rw [List.foldlM_cons, attributeIndexed_eq]
      exact ih (attributeReceived p a)

/-! ## What the fields hold afterwards -/

/-- The attribute with id `k` has exactly one value, of the kind that is asked
for. -/
def Carries {α : Type} (k : Int32) (kind : SscAttrValue F → Option α)
    (a : SscAttr F) (x : α) : Prop :=
  a.id = k ∧ ∃ v, a.valueArray = [v] ∧ kind v = some x

/-- The first positive float of a value array. -/
def FirstPositive (vs : List (SscAttrValue F)) (f : F) : Prop :=
  ∃ pre v post, vs = pre ++ v :: post ∧ v.f = some f ∧
    GFloat.lt GFloat.zero f = true ∧
    ∀ u ∈ pre, ∀ g, u.f = some g → GFloat.lt GFloat.zero g = false

/-- The ids of the attributes that the loop knows. -/
def knownAttributes : List Int32 :=
  [SSC_ATTRIBUTE_NAME, SSC_ATTRIBUTE_VENDOR, SSC_ATTRIBUTE_AVAILABLE,
    SSC_ATTRIBUTE_SAMPLE_RATE, SSC_ATTRIBUTE_STREAM_TYPE,
    SSC_ATTRIBUTE_MOUNT_MATRIX]

/-- `q` is the state `p` after a response with the attributes `as`. -/
structure Decoded (as : List (SscAttr F)) (p q : SSCSensorPrivate F) : Prop where
  name : LastWins (fun a x => ∃ s, x = some s ∧
    Carries SSC_ATTRIBUTE_NAME SscAttrValue.s a s) as p.name q.name
  vendor : LastWins (fun a x => ∃ s, x = some s ∧
    Carries SSC_ATTRIBUTE_VENDOR SscAttrValue.s a s) as p.vendor q.vendor
  available : LastWins (Carries SSC_ATTRIBUTE_AVAILABLE SscAttrValue.b) as
    p.available q.available
  streamType : LastWins (fun a x => ∃ i : UInt64, x = i.toUInt32 ∧
    Carries SSC_ATTRIBUTE_STREAM_TYPE SscAttrValue.i a i) as
    p.streamType q.streamType
  sampleRate : LastWins (fun a f => a.id = SSC_ATTRIBUTE_SAMPLE_RATE ∧
    FirstPositive a.valueArray f) as p.sampleRate q.sampleRate
  control : q.control = p.control

omit [GFloat F] in
theorem single_bind_iff {α : Type} {kind : SscAttrValue F → Option α}
    {vs : List (SscAttrValue F)} {x : α} :
    (single vs).bind kind = some x ↔ ∃ v, vs = [v] ∧ kind v = some x := by
  cases vs with
  | nil => simp [single]
  | cons v vs =>
      cases vs with
      | nil => simp [single]
      | cons w vs => simp [single]

omit [GFloat F] in
/-- A field that is set to `f` of the single value of its kind. -/
theorem map_single_iff {α β : Type} {k : Int32} {kind : SscAttrValue F → Option α}
    {f : α → β} {a : SscAttr F} {x : β} :
    (a.id = k ∧ ((single a.valueArray).bind kind).map f = some x) ↔
      ∃ y, x = f y ∧ Carries k kind a y := by
  unfold Carries
  rw [Option.map_eq_some_iff]
  simp only [single_bind_iff]
  constructor
  · rintro ⟨hid, y, hy, rfl⟩
    exact ⟨y, rfl, hid, hy⟩
  · rintro ⟨y, rfl, hid, hy⟩
    exact ⟨hid, y, hy, rfl⟩

theorem firstSampleRate_eq (vs : List (SscAttrValue F)) :
    firstSampleRate vs =
      vs.findSome? (fun v => v.f.filter (GFloat.lt GFloat.zero)) := by
  induction vs with
  | nil => rfl
  | cons v vs ih =>
      rw [firstSampleRate, List.findSome?_cons, ih]
      cases v.f with
      | none => rfl
      | some f =>
          by_cases hf : GFloat.lt GFloat.zero f = true
          · rw [Option.filter_some_pos hf]
            simp [hf]
          · rw [Option.filter_some_neg (by simpa using hf)]
            simp [hf]

theorem firstSampleRate_iff {vs : List (SscAttrValue F)} {f : F} :
    firstSampleRate vs = some f ↔ FirstPositive vs f := by
  rw [firstSampleRate_eq, List.findSome?_eq_some_iff]
  unfold FirstPositive
  simp only [Option.filter_eq_some_iff, Option.filter_eq_none_iff,
    Bool.not_eq_true, and_assoc]

/-- A field that attributes with id `k` set has its last value. -/
theorem lastWins_field {α : Type} {π : SSCSensorPrivate F → α} {k : Int32}
    {read : List (SscAttrValue F) → Option α} {valid : SscAttr F → α → Prop}
    (hπ : ∀ p a, π (attributeReceived p a) = (fieldValue k read a).getD (π p))
    (hvalid : ∀ a x, (a.id = k ∧ read a.valueArray = some x) ↔ valid a x)
    (p : SSCSensorPrivate F) (m : SscAttrResponse F) :
    LastWins valid m.attr (π p) (π (attributesReceived p m)) := by
  rw [attributesReceived_field hπ]
  apply lastWins_getLast?
  intro a x
  rw [← hvalid]
  unfold fieldValue
  split_ifs with hk
  · simp [hk]
  · simp [hk]

/-- **Each field has its last valid value.** -/
theorem decoded_attributesReceived (p : SSCSensorPrivate F)
    (m : SscAttrResponse F) :
    Decoded m.attr p (attributesReceived p m) where
  name := by
    apply lastWins_field (π := SSCSensorPrivate.name) (fun p a => by
      rw [attributeReceived_eq])
    intro a x
    exact map_single_iff
  vendor := by
    apply lastWins_field (π := SSCSensorPrivate.vendor) (fun p a => by
      rw [attributeReceived_eq])
    intro a x
    exact map_single_iff
  available := by
    apply lastWins_field (π := SSCSensorPrivate.available) (fun p a => by
      rw [attributeReceived_eq])
    intro a x
    exact and_congr_right fun _ => single_bind_iff
  streamType := by
    apply lastWins_field (π := SSCSensorPrivate.streamType) (fun p a => by
      rw [attributeReceived_eq])
    intro a x
    exact map_single_iff
  sampleRate := by
    apply lastWins_field (π := SSCSensorPrivate.sampleRate) (fun p a => by
      rw [attributeReceived_eq])
    intro a x
    exact and_congr_right fun _ => firstSampleRate_iff
  control := attributesReceived_control p m

/-! ## Order, and what is left out -/

theorem attributeReceived_of_unknown {a : SscAttr F} (h : a.id ∉ knownAttributes)
    (p : SSCSensorPrivate F) : attributeReceived p a = p := by
  unfold attributeReceived
  simp only [knownAttributes, List.mem_cons, List.not_mem_nil, or_false,
    not_or] at h
  obtain ⟨h₀, h₁, h₂, h₃, h₄, h₅⟩ := h
  rw [if_neg h₀, if_neg h₁, if_neg h₂, if_neg h₃, if_neg h₄, if_neg h₅]

theorem attributesReceived_filter (p : SSCSensorPrivate F)
    (m : SscAttrResponse F) :
    attributesReceived p ⟨m.attr.filter (fun a => a.id ∈ knownAttributes)⟩ =
      attributesReceived p m := by
  unfold attributesReceived
  simp only
  induction m.attr generalizing p with
  | nil => rfl
  | cons a as ih =>
      by_cases ha : a.id ∈ knownAttributes
      · rw [List.filter_cons_of_pos (by simpa using ha)]
        exact ih (attributeReceived p a)
      · rw [List.filter_cons_of_neg (by simpa using ha), List.foldl_cons,
          attributeReceived_of_unknown ha]
        exact ih p

omit [GFloat F] in
/-- Attributes with distinct ids do not both have a value for one field. -/
theorem fieldValue_comm {α : Type} {k : Int32}
    {read : List (SscAttrValue F) → Option α} {a b : SscAttr F}
    (h : a.id ≠ b.id) (x : α) :
    (fieldValue k read b).getD ((fieldValue k read a).getD x) =
      (fieldValue k read a).getD ((fieldValue k read b).getD x) := by
  unfold fieldValue
  by_cases ha : a.id = k
  · have hb : b.id ≠ k := fun hb => h (ha.trans hb.symm)
    rw [if_neg hb]
    rfl
  · rw [if_neg ha]
    rfl

theorem attributeReceived_comm {a b : SscAttr F} (h : a.id ≠ b.id)
    (p : SSCSensorPrivate F) :
    attributeReceived (attributeReceived p a) b =
      attributeReceived (attributeReceived p b) a := by
  rw [attributeReceived_eq _ b, attributeReceived_eq p a,
    attributeReceived_eq _ a, attributeReceived_eq p b]
  simp only [fieldValue_comm h]
  congr 1
  by_cases ha : a.id = SSC_ATTRIBUTE_MOUNT_MATRIX
  · have hb : b.id ≠ SSC_ATTRIBUTE_MOUNT_MATRIX :=
      fun hb => h (ha.trans hb.symm)
    rw [if_neg hb, if_neg hb]
  · rw [if_neg ha, if_neg ha]

theorem attributesReceived_perm {m m' : SscAttrResponse F}
    (hm : (m.attr.map SscAttr.id).Nodup) (h : m'.attr.Perm m.attr)
    (p : SSCSensorPrivate F) :
    attributesReceived p m' = attributesReceived p m := by
  apply Eq.symm
  apply h.symm.foldl_eq'
  intro a ha b hb q
  by_cases hid : a.id = b.id
  · rw [List.inj_on_of_nodup_map hm ha hb hid]
  · exact attributeReceived_comm hid q

/-- **Decoding an attribute response.** No value is read outside of its array;
each field has the last value that is valid for it, or its old one; attributes
with other ids change nothing; and if the ids are distinct the order does not
matter. -/
theorem attributes_decoded (p : SSCSensorPrivate F) (m : SscAttrResponse F) :
    attributesIndexed p m = some (attributesReceived p m) ∧
      Decoded m.attr p (attributesReceived p m) ∧
      attributesReceived p ⟨m.attr.filter (fun a => a.id ∈ knownAttributes)⟩ =
        attributesReceived p m ∧
      ((m.attr.map SscAttr.id).Nodup → ∀ m' : SscAttrResponse F,
        m'.attr.Perm m.attr →
          attributesReceived p m' = attributesReceived p m) :=
  ⟨attributesIndexed_eq p m, decoded_attributesReceived p m,
    attributesReceived_filter p m, fun hm _ h => attributesReceived_perm hm h p⟩

end Libssc

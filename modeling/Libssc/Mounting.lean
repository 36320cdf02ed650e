import Libssc.Reactions
import Libssc.MountMatrix

/-!
# The mount matrix of a table's entry

What `Entry.Matches` leaves out: the matrix that an object has when it has been
populated from an entry. The server encodes the attribute value by value, the
library reads its floats, and both together are a function of the entry
(`Entry.mountMatrix`), which is the matrix in the data file unless the library
mistakes it for one that is all 0 (`MountMatrix`).
-/

namespace Libssc

open Server

variable {F : Type}

/-! ## The floats of an attribute -/

/-- The values as the library reads a matrix from them: their floats, and nothing
where a value is of another type. -/
def JsonValue.entryValue : JsonValue F → SscAttrValue F
  | .float f => { s := none, f := some f, i := none, b := none }
  | _ => { s := none, f := none, i := none, b := none }

def AttributeValue.entryValues : AttributeValue F → List (SscAttrValue F)
  | .single v => [v.entryValue]
  | .list vs => vs.map JsonValue.entryValue

/-- The encoding of a value has its float. -/
theorem f_attrValue {list : Bool} {v : JsonValue F} {x : SscAttrValue F}
    (h : attrValue list v = .ok x) : x.f = v.entryValue.f := by
  cases v with
  | int i =>
      simp only [attrValue] at h
      split at h
      · rw [← Except.ok.inj h]
        rfl
      · exact absurd h (by simp)
  | float f =>
      rw [← Except.ok.inj h]
      rfl
  | str s =>
      rw [← Except.ok.inj h]
      rfl
  | bool b =>
      rw [← Except.ok.inj h]
      rfl
  | other text type => exact absurd h (by simp [attrValue])

theorem f_mapM_attrValue {vs : List (JsonValue F)} {xs : List (SscAttrValue F)}
    (h : vs.mapM (attrValue true) = .ok xs) :
    xs.map SscAttrValue.f = (vs.map JsonValue.entryValue).map SscAttrValue.f := by
  induction vs generalizing xs with
  | nil =>
      rw [← Except.ok.inj h]
      rfl
  | cons v vs ih =>
      rw [List.mapM_cons] at h
      obtain ⟨x, hx, h⟩ := bind_eq_ok h
      obtain ⟨ys, hys, h⟩ := bind_eq_ok h
      obtain rfl := Except.ok.inj h
      rw [List.map_cons, List.map_cons, List.map_cons, ih hys, f_attrValue hx]

/-- So has the encoding of an attribute. -/
theorem f_of_encodesTo {a : Attribute F} {m : SscAttr F} (h : EncodesTo a m) :
    m.valueArray.map SscAttrValue.f = a.value.entryValues.map SscAttrValue.f := by
  obtain ⟨w, hw, hm, -⟩ := h
  have hvalues : m.valueArray = w.2 := by
    unfold attrMessage at hm
    split at hm
    · rw [← Except.ok.inj hm]
    · exact absurd hm (by simp)
  rw [hvalues]
  unfold attributeValues at hw
  cases hval : a.value with
  | single v =>
      rw [hval] at hw
      cases hx : attrValue false v with
      | error e => simp [hx, Except.map] at hw
      | ok x =>
          simp only [hx, Except.map, Except.ok.injEq] at hw
          rw [← hw]
          exact congrArg (fun f => [f]) (f_attrValue hx)
  | list vs =>
      rw [hval] at hw
      cases hxs : vs.mapM (attrValue true) with
      | error e => simp [hxs, Except.map] at hw
      | ok xs =>
          simp only [hxs, Except.map, Except.ok.injEq] at hw
          rw [← hw]
          exact f_mapM_attrValue hxs

/-- The library copies nothing but floats. -/
theorem copyEntries_congr {vs vs' : List (SscAttrValue F)}
    (h : vs.map SscAttrValue.f = vs'.map SscAttrValue.f) (k : ℕ)
    (m : Fin 3 → Fin 3 → F) : copyEntries k vs m = copyEntries k vs' m := by
  induction vs generalizing vs' k m with
  | nil =>
      obtain rfl := List.map_eq_nil_iff.mp h.symm
      rfl
  | cons v vs ih =>
      cases vs' with
      | nil => exact absurd h (by simp)
      | cons v' vs' =>
          obtain ⟨hv, hvs⟩ := List.cons.inj h
          rw [copyEntries, copyEntries, hv]
          exact ih hvs _ _

variable [GFloat F]

theorem mountMatrixAttribute_congr {vs vs' : List (SscAttrValue F)}
    (h : vs.map SscAttrValue.f = vs'.map SscAttrValue.f) (m : Fin 3 → Fin 3 → F) :
    mountMatrixAttribute vs m = mountMatrixAttribute vs' m := by
  have htake : (vs.take 9).map SscAttrValue.f = (vs'.take 9).map SscAttrValue.f := by
    rw [List.map_take, List.map_take, h]
  unfold mountMatrixAttribute
  rw [copyEntries_congr htake]

/-! ## From the entry to the object -/

/-- The matrix of an object that has been populated from the entry. -/
def Entry.mountMatrix (e : Entry F) : Fin 3 → Fin 3 → F :=
  match e.attribute? SSC_ATTRIBUTE_MOUNT_MATRIX with
  | none => identityMatrix
  | some v => mountMatrixAttribute v.entryValues identityMatrix

omit [GFloat F] in
/-- With distinct ids at most one attribute has an id. -/
theorem filter_id {attr : List (SscAttr F)} (h : (attr.map SscAttr.id).Nodup)
    (k : Int32) :
    attr.filter (fun a => a.id = k) = (attr.find? (fun a => a.id = k)).toList := by
  induction attr with
  | nil => rfl
  | cons a as ih =>
      obtain ⟨hnotin, hnodup⟩ := List.nodup_cons.mp h
      by_cases hk : a.id = k
      · have hnone : as.filter (fun a => a.id = k) = [] := by
          refine List.filter_eq_nil_iff.mpr fun b hb hbk => hnotin ?_
          rw [hk, ← of_decide_eq_true hbk]
          exact List.mem_map_of_mem hb
        rw [List.filter_cons_of_pos (by simpa using hk),
          List.find?_cons_of_pos (by simpa using hk), hnone]
        rfl
      · rw [List.filter_cons_of_neg (by simpa using hk),
          List.find?_cons_of_neg (by simpa using hk), ih hnodup]

/-- **The matrix of the object is that of the entry.** -/
theorem mountMatrix_of_encodesTo {e : Entry F} {attr : List (SscAttr F)}
    (he : e.WellFormed) (h : List.Forall₂ EncodesTo e.attributes attr)
    {p : SSCSensorPrivate F} (hp : p.mountMatrix = identityMatrix) :
    (attributesReceived p ⟨attr.map SscAttr.received⟩).mountMatrix = e.mountMatrix := by
  rw [attributesReceived_mountMatrix, filter_id (nodup_received h he.ids), hp]
  unfold Entry.mountMatrix
  rcases find?_received h SSC_ATTRIBUTE_MOUNT_MATRIX with ⟨hn, hn'⟩ | ⟨a, m, ha, ham, hm⟩
  · rw [hn, hn']
    rfl
  · rw [ha, hm]
    refine mountMatrixAttribute_congr ?_ _
    rw [← f_of_encodesTo ham]
    show (m.valueArray.map SscAttrValue.received).map SscAttrValue.f = _
    rw [List.map_map]
    rfl

namespace Composed

variable {x : Composed F} {s : Exchange.Stage F}

/-- An init that has ended with TRUE leaves the matrix of the entry. -/
theorem Done.mountMatrix (table : SensorTable F) {d : String}
    (h : Done table.data (sscSensorInit d) s x) {r : Completion}
    (hr : r ∈ x.sensor.tasks.returns 0) (htrue : r.result = .boolean true)
    {e : Entry F} (he : e ∈ table.data) (hd : e.dataType = d) :
    x.sensor.priv.mountMatrix = e.mountMatrix := by
  obtain ⟨y, hy, -, hstage⟩ := h.stage
  have hpriv := hstage.priv
  have hresults := hstage.results
  have hvalid := h.valid
  rw [hy] at hpriv hresults
  cases s with
  | polling => exact absurd rfl h.result
  | discovering => exact absurd rfl h.result
  | populating u => exact absurd rfl h.result
  | absent =>
      obtain ⟨c, hc, hfalse⟩ := List.map_eq_singleton_iff.mp hresults
      rw [hc, List.mem_singleton] at hr
      rw [hr, hfalse] at htrue
      exact absurd htrue (by simp)
  | populated u m =>
      obtain ⟨⟨us, hus⟩, e', attr, hfind, hattr, rfl⟩ := hvalid
      obtain ⟨e'', he'', hd'', hu⟩ := suid_eq_cons table hus
      obtain rfl : e'' = e :=
        List.inj_on_of_nodup_map table.dataTypes he'' he (hd''.trans hd.symm)
      rw [← hu, find?_key table.uids he''] at hfind
      obtain rfl := Option.some.inj hfind
      rw [hpriv]
      exact mountMatrix_of_encodesTo (table.wellFormed _ he'') hattr rfl

end Composed

end Libssc

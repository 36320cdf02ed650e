import Libssc.Exchange
import Libssc.Populating
import Mathlib.Data.Matrix.Mul
import Mathlib.Data.Fin.VecNotation
import Mathlib.Algebra.BigOperators.Fin
import Mathlib.Tactic.FinCases

/-!
# The mount matrix

How the accelerometer is mounted is a 3x3 matrix that the sensor reports among
its attributes, row by row, and every measurement is multiplied by it. A matrix
of zeros stands for none and is replaced by the identity.

The code looks for it by adding the nine entries up. The sum is an integer: each
addition is carried out on floats and truncated to 32 bits, so that entries below
1 vanish and others may cancel. Whenever the sum is zero the diagonal is
overwritten, whatever the entries are. Arithmetic is exact here, over the
rationals, and a partial sum that 32 bits do not hold becomes whatever the
compiler makes of it (`GintOverflow`).
-/

namespace Libssc

open Library

variable {F : Type} [GFloat F]

/-! ## The loops over the values -/

omit [GFloat F] in
theorem setEntry_apply (m : Fin 3 → Fin 3 → F) (k : ℕ) (f : F) (i j : Fin 3) :
    setEntry m k f i j = if 3 * i.val + j.val = k then f else m i j := by
  unfold setEntry
  apply if_congr _ rfl rfl
  omega

omit [GFloat F] in
/-- The copying loop, entry by entry: one without a value keeps the old entry. -/
theorem copyEntries_apply (vs : List (SscAttrValue F)) (k : ℕ)
    (m : Fin 3 → Fin 3 → F) (i j : Fin 3) :
    copyEntries k vs m i j =
      if k ≤ 3 * i.val + j.val then
        (vs[3 * i.val + j.val - k]?.bind SscAttrValue.f).getD (m i j)
      else m i j := by
  induction vs generalizing k m with
  | nil => simp [copyEntries]
  | cons v vs ih =>
      rw [copyEntries, ih]
      rcases Nat.lt_trichotomy k (3 * i.val + j.val) with hlt | heq | hgt
      · have hsub : 3 * i.val + j.val - k = 3 * i.val + j.val - (k + 1) + 1 := by
          omega
        rw [if_pos (by omega), if_pos (by omega), hsub, List.getElem?_cons_succ]
        cases v.f with
        | none => rfl
        | some f => simp [setEntry_apply, Nat.ne_of_gt hlt]
      · rw [if_neg (by omega), if_pos (by omega), heq, Nat.sub_self]
        cases hf : v.f with
        | none => simp [hf]
        | some f => simp [setEntry_apply, hf]
      · rw [if_neg (by omega), if_neg (by omega)]
        cases v.f with
        | none => rfl
        | some f => simp [setEntry_apply, Nat.ne_of_lt hgt]

/-- The matrix that a value array reports: its first nine values, row by row. -/
def reportedMatrix (vs : List (SscAttrValue F)) : Fin 3 → Fin 3 → F :=
  fun i j => (vs[3 * i.val + j.val]?.bind SscAttrValue.f).getD GFloat.zero

/-- With nine values there is nothing left of the old matrix. -/
theorem copyEntries_complete {vs : List (SscAttrValue F)}
    (hlen : 9 ≤ vs.length) (hf : ∀ v ∈ vs, v.f ≠ none)
    (m : Fin 3 → Fin 3 → F) :
    copyEntries 0 (vs.take 9) m = reportedMatrix vs := by
  ext i j
  have hlt : 3 * i.val + j.val < vs.length := by omega
  rw [copyEntries_apply, if_pos (Nat.zero_le _), Nat.sub_zero,
    List.getElem?_take_of_lt (by omega), reportedMatrix,
    List.getElem?_eq_getElem hlt]
  obtain ⟨f, hv⟩ := Option.ne_none_iff_exists'.mp
    (hf _ (List.getElem_mem hlt))
  simp [hv]

/-- Only mount matrix attributes change the mount matrix. -/
theorem attributesReceived_mountMatrix (p : SSCSensorPrivate F)
    (m : SscAttrResponse F) :
    (attributesReceived p m).mountMatrix =
      (m.attr.filter (fun a => a.id = SSC_ATTRIBUTE_MOUNT_MATRIX)).foldl
        (fun M a => mountMatrixAttribute a.valueArray M) p.mountMatrix := by
  unfold attributesReceived
  induction m.attr generalizing p with
  | nil => rfl
  | cons a as ih =>
      have ha : (attributeReceived p a).mountMatrix =
          if a.id = SSC_ATTRIBUTE_MOUNT_MATRIX then
            mountMatrixAttribute a.valueArray p.mountMatrix
          else p.mountMatrix := by
        rw [attributeReceived_eq]
      rw [List.foldl_cons, ih, ha]
      by_cases hid : a.id = SSC_ATTRIBUTE_MOUNT_MATRIX
      · rw [if_pos hid, List.filter_cons_of_pos (by simpa using hid)]
        rfl
      · rw [if_neg hid, List.filter_cons_of_neg (by simpa using hid)]

/-! ## The fallback -/

section Fallback

variable [GintOverflow]

/-- What a matrix attribute is meant to set: the matrix it reports, or the
identity if it reports zeros. -/
def intendedMatrix (vs : List (SscAttrValue ℚ)) : Fin 3 → Fin 3 → ℚ :=
  if ∀ i j, reportedMatrix vs i j = 0 then identityMatrix
  else reportedMatrix vs

/-- The values that the test for zeros tells from zeros, or that it may mistake
for them without harm. -/
def Unmistaken (vs : List (SscAttrValue ℚ)) : Prop :=
  (∀ i j, reportedMatrix vs i j = 0) ∨ entrySum (reportedMatrix vs) ≠ 0 ∨
    ∀ i, reportedMatrix vs i i = 1

/-- Numbers between -1 and 1 are truncated to 0. -/
theorem trunc_of_fraction {x : ℚ} (hlo : -1 < x) (hhi : x < 1) :
    GFloat.trunc x = 0 := by
  have hzero : truncate x = 0 := by
    unfold truncate
    split_ifs with hpos
    · exact Int.floor_eq_zero_iff.mpr ⟨hpos, hhi⟩
    · exact Int.ceil_eq_zero_iff.mpr ⟨hlo, le_of_lt (not_le.mp hpos)⟩
  show (if FitsGint (truncate x) then Int32.ofInt (truncate x)
    else GintOverflow.convert x) = 0
  rw [hzero, if_pos (by decide)]
  rfl

/-- Entries between -1 and 1 all vanish in the sum. -/
theorem entrySum_of_fractions {m : Fin 3 → Fin 3 → ℚ}
    (h : ∀ i j, -1 < m i j ∧ m i j < 1) : entrySum m = 0 := by
  have hstep : ∀ l : List (Fin 9), l.foldl (fun (sum : Int32) k => GFloat.trunc
      (GFloat.add (GFloat.ofInt sum.toInt) (entry m k))) 0 = 0 := by
    intro l
    induction l with
    | nil => rfl
    | cons k l ih =>
        obtain ⟨hlo, hhi⟩ : -1 < entry m k ∧ entry m k < 1 := h _ _
        have hzero : GFloat.trunc (GFloat.add
            (GFloat.ofInt (0 : Int32).toInt) (entry m k)) = 0 := by
          have hadd : GFloat.add (GFloat.ofInt (0 : Int32).toInt) (entry m k) =
              entry m k := by
            show (((0 : Int32).toInt : ℤ) : ℚ) + entry m k = entry m k
            rw [Int32.toInt_zero, Int.cast_zero, zero_add]
          rw [hadd]
          exact trunc_of_fraction hlo hhi
        rw [List.foldl_cons, hzero]
        exact ih
  exact hstep _

/-- **The attribute sets the matrix it should** if and only if its values are not
mistaken for zeros. -/
theorem mountMatrixAttribute_eq_iff {vs : List (SscAttrValue ℚ)}
    (hlen : 9 ≤ vs.length) (hf : ∀ v ∈ vs, v.f ≠ none)
    (m : Fin 3 → Fin 3 → ℚ) :
    mountMatrixAttribute vs m = intendedMatrix vs ↔ Unmistaken vs := by
  have heq : mountMatrixAttribute vs m =
      if entrySum (reportedMatrix vs) = 0 then
        fun i j => if i = j then 1 else reportedMatrix vs i j
      else reportedMatrix vs := by
    unfold mountMatrixAttribute
    rw [copyEntries_complete hlen hf]
    rfl
  rw [heq]
  unfold intendedMatrix Unmistaken
  by_cases hzero : ∀ i j, reportedMatrix vs i j = 0
  · have hfun : reportedMatrix vs = fun _ _ => 0 := by
      ext i j
      exact hzero i j
    refine iff_of_true ?_ (Or.inl hzero)
    rw [if_pos hzero, hfun, if_pos (entrySum_of_fractions (by simp))]
    rfl
  · rw [if_neg hzero]
    by_cases hsum : entrySum (reportedMatrix vs) = 0
    · rw [if_pos hsum]
      constructor
      · intro h
        refine Or.inr (Or.inr fun i => ?_)
        have hi := congrFun (congrFun h i) i
        rw [if_pos rfl] at hi
        exact hi.symm
      · rintro (h | h | hdiag)
        · exact absurd h hzero
        · exact absurd hsum h
        · ext i j
          by_cases hij : i = j
          · rw [if_pos hij, ← hij]
            exact (hdiag i).symm
          · exact if_neg hij
    · rw [if_neg hsum]
      exact iff_of_true rfl (Or.inr (Or.inl hsum))

/-! ## From the attribute to the measurements -/

/-- The driver multiplies the vector by the matrix. -/
theorem mountVector_mulVec (M : Fin 3 → Fin 3 → ℚ) (x y z : ℚ) :
    ![(mountVector M x y z).1, (mountVector M x y z).2.1,
        (mountVector M x y z).2.2] =
      (Matrix.of M).mulVec ![x, y, z] := by
  ext i
  fin_cases i <;>
    simp [mountVector, mountRow, Matrix.mulVec, dotProduct,
      Fin.sum_univ_three, GFloat.add, GFloat.mul]

end Fallback

namespace Driver

variable {S M : Type} {pb : Protobuf F} {d : Driver F S M}
  {w w' : DriverWorld F S M} {a : Action}

/-- The action delivers no attribute response of the sensor. -/
def NoAttributes (w : DriverWorld F S M) (a : Action) : Prop :=
  ∀ r, a = .report r →
    ¬ (r.uid = w.sensor.priv.uid ∧ r.msgId = SSC_MSG_RESPONSE_GET_ATTRIBUTES)

theorem mountMatrix_act (ha : NoAttributes w a) (h : d.act pb w a = some w') :
    w'.sensor.priv.mountMatrix = w.sensor.priv.mountMatrix := by
  cases step_of_act h with
  | call hs => exact congrArg (·.2.2.2.2.2) (Sensor.attributes_call hs)
  | sensorOpen hs => rw [Sensor.sensorOpen_priv hs]
  | sensorClose => rw [sensorClose_eq]; rfl
  | sendReady _ _ =>
      show (Sensor.sendReady _ _ _).priv.mountMatrix = _
      rw [(Sensor.callbackRan_sendReady _ _ _).priv]
  | report =>
      rw [emitReport_sensor]
      exact congrArg (·.2.2.2.2.2)
        (Sensor.attributes_emitReport (if_neg (ha _ rfl)))
  | dispatch _ _ =>
      rw [taskReady_eq]
      split <;> rfl
  | _ => rfl

/-- A stream driver never ends the process. -/
theorem report_stream (pb : Protobuf F) (c : StreamSpec F M)
    {w : DriverWorld F Unit M}
    (h : w.aborted = false) (r : Report) :
    c.toDriver.act pb w (.report r) = some (c.toDriver.emitReport pb r w) := by
  have hsafe : (c.toDriver.emitReport pb r w).aborted = false := by
    refine Signal.emit_preserves (P := fun v : DriverWorld F Unit M =>
      v.aborted = false) ?_ h
    rintro ⟨id, cl⟩ - v hv
    cases cl with
    | sensor t => exact hv
    | driver =>
        show (c.toDriver.reportReceived pb r v).aborted = false
        unfold reportReceived
        split_ifs
        · exact hv
        · exact hv
  simp only [act, hsafe]
  rfl

section Mounted

variable [GintOverflow]

/-- The sensor has the mount matrix `M`, and as long as no other attributes arrive
every measurement of the accelerometer on it is multiplied by `M`. -/
def Mounted (pb : Protobuf ℚ) (s : Sensor ℚ) (M : Fin 3 → Fin 3 → ℚ) : Prop :=
  s.priv.mountMatrix = M ∧
    ∀ as v q x y z rest,
      exec (accelerometer.toDriver.act pb) (accelerometer.toDriver.world s) as =
        some v →
      StepsMeet (accelerometer.toDriver.act pb) (accelerometer.toDriver.world s)
        (fun _ v a => NoAttributes v a) as →
      v.sensor.OneDriver → q.uid = v.sensor.priv.uid →
      q.msgId = SSC_MSG_REPORT_MEASUREMENT →
      pb.accelerometerResponseUnpack q.buf = some (x :: y :: z :: rest) →
      ∃ v' t, accelerometer.toDriver.act pb v (.report q) = some v' ∧
        taken v' = taken v ++ [t] ∧
        ![t.1, t.2.1, t.2.2] = (Matrix.of M).mulVec ![x, y, z]

/-- A sensor with the matrix `M` and a `report_id` of its own is mounted so. -/
theorem mounted_of_mountMatrix {pb : Protobuf ℚ} {s : Sensor ℚ}
    (hown : s.OwnId) : Mounted pb s s.priv.mountMatrix := by
  refine ⟨rfl, ?_⟩
  intro as v q x y z rest has hno hone huid hmsg hunpack
  have hinv : Always (accelerometer.toDriver.act pb)
      (accelerometer.toDriver.world s) (fun _ v => v.sensor.OwnId ∧
        v.aborted = false ∧
        v.sensor.priv.mountMatrix = s.priv.mountMatrix) as := by
    refine always_of_stepsMeet ⟨hown, rfl, rfl⟩ ?_ hno
    rintro pre v a v' ⟨hid, hsafe, hM⟩ ha hact
    exact ⟨ownId_act hid hact, act_aborted hsafe hact,
      (mountMatrix_act ha hact).trans hM⟩
  obtain ⟨hid, hsafe, hM⟩ := hinv.last has
  have hact := report_stream pb accelerometerSpec hsafe q
  refine ⟨_, mountVector s.priv.mountMatrix x y z, hact, ?_,
    mountVector_mulVec _ x y z⟩
  have hafter : (v.sensor.emitReport pb q).OneDriver := by
    obtain ⟨id, hdriver⟩ := hone
    exact ⟨id, (Sensor.driverHandlers_emitReport hid q).trans hdriver⟩
  have htake : accelerometerSpec.take pb v.sensor.priv q =
      some (mountVector s.priv.mountMatrix x y z) := by
    unfold StreamSpec.take contribution
    rw [if_pos ⟨huid, hmsg⟩, ← hM]
    simp [accelerometerSpec, hunpack, axis]
  rw [emitReport_taken accelerometerSpec hone hafter, htake]
  rfl

/-- An init that is told the attributes of its sensor stores what the mount matrix
attribute sets, and every later measurement is multiplied by that. -/
theorem mounted_iff_attribute {pb : Protobuf ℚ} {p : SSCSensorPrivate ℚ}
    {w₁ w : Sensor ℚ} {es : List Sensor.Event} {r : Report}
    {m : SscAttrResponse ℚ} {a : SscAttr ℚ} {M : Fin 3 → Fin 3 → ℚ}
    (hcall : (Sensor.new p).call (.init none) = some w₁)
    (hrun : exec (Sensor.step pb) w₁ es = some w) (hconn : w.listeners ≠ [])
    (huid : r.uid = w.priv.uid)
    (hmsg : r.msgId = SSC_MSG_RESPONSE_GET_ATTRIBUTES)
    (hm : pb.attrResponseUnpack r.buf = some m)
    (ha : m.attr.filter (fun a => a.id = SSC_ATTRIBUTE_MOUNT_MATRIX) = [a]) :
    Mounted pb (w.emitReport pb r) M ↔
      mountMatrixAttribute a.valueArray w.priv.mountMatrix = M := by
  have hall : StepsMeet (Sensor.step pb) w₁ (fun _ _ _ => True) es :=
    fun _ _ _ _ _ => trivial
  have hsole : Sensor.Sole 0 w :=
    (always_of_stepsMeet (I := fun _ v => Sensor.Sole 0 v)
      (Sensor.sole_call (Sensor.atRest_new p) (by simp) hcall)
      (fun _ _ _ _ h _ hstep => Sensor.sole_step h hstep) hall).last hrun
  obtain ⟨hl, -, heq⟩ :=
    (Sensor.sole_report_cases hsole pb r).resolve_left fun h => hconn h.1
  have ho : w.priv.outcome pb r = .attributes m :=
    SSCSensorPrivate.outcome_eq_attributes.mpr ⟨huid, hmsg, hm⟩
  rw [ho] at heq
  have hpriv := Sensor.perform_priv 0 (.attributes m) w
  have hmatrix : (w.emitReport pb r).priv.mountMatrix =
      mountMatrixAttribute a.valueArray w.priv.mountMatrix := by
    rw [heq, hpriv]
    show (attributesReceived w.priv m).mountMatrix = _
    rw [attributesReceived_mountMatrix, ha]
    rfl
  have hown : (w.emitReport pb r).OwnId := by
    have hid : (w.emitReport pb r).priv.reportId = 0 := by
      rw [heq, hpriv]
      rfl
    refine ⟨?_, fun x hx => ?_⟩
    · rw [hid]
      exact (w.emitReport pb r).report.next_pos
    · rw [hid]
      exact Nat.ne_of_gt ((w.emitReport pb r).report.pos x
        (Sensor.mem_driverHandlers.mp hx).1)
  rw [← hmatrix]
  constructor
  · exact fun h => h.1
  · rintro rfl
    exact mounted_of_mountMatrix hown

/-- **The mount matrix from the attribute to the measurement.** An init is told
the attributes of its sensor, among them one mount matrix with nine values or
more. The matrix it reports, or the identity if it reports zeros, is the one that
is stored and that every later measurement is multiplied by, if and only if the
nine values are zeros, or do not add up to zero in the code's integer sum, or have
ones on the diagonal already. -/
theorem mounted_iff_unmistaken {pb : Protobuf ℚ} {p : SSCSensorPrivate ℚ}
    {w₁ w : Sensor ℚ} {es : List Sensor.Event} {r : Report}
    {m : SscAttrResponse ℚ} {a : SscAttr ℚ}
    (hcall : (Sensor.new p).call (.init none) = some w₁)
    (hrun : exec (Sensor.step pb) w₁ es = some w) (hconn : w.listeners ≠ [])
    (huid : r.uid = w.priv.uid)
    (hmsg : r.msgId = SSC_MSG_RESPONSE_GET_ATTRIBUTES)
    (hm : pb.attrResponseUnpack r.buf = some m)
    (ha : m.attr.filter (fun a => a.id = SSC_ATTRIBUTE_MOUNT_MATRIX) = [a])
    (hlen : 9 ≤ a.valueArray.length) (hf : ∀ v ∈ a.valueArray, v.f ≠ none) :
    Mounted pb (w.emitReport pb r) (intendedMatrix a.valueArray) ↔
      Unmistaken a.valueArray :=
  (mounted_iff_attribute hcall hrun hconn huid hmsg hm ha).trans
    (mountMatrixAttribute_eq_iff hlen hf w.priv.mountMatrix)

end Mounted

/-! The matrix of the documented dump: 0.1 three times, then zeros. -/

def dumpedValues : List (SscAttrValue ℚ) :=
  List.replicate 3 ⟨none, some (1 / 10), none, none⟩ ++
    List.replicate 9 ⟨none, some 0, none, none⟩

/-- A sensor that is mounted upside down, with x and y interchanged. -/
def turnedValues : List (SscAttrValue ℚ) :=
  [0, 1, 0, 1, 0, 0, 0, 0, -1].map fun f => ⟨none, some f, none, none⟩

def dumpedMatrix : Protobuf ℚ :=
  .ofTables
    [([0], ⟨"registry", [⟨9, 9⟩]⟩), ([1], ⟨"accel", [⟨1, 1⟩]⟩)]
    [([2], ⟨[⟨SSC_ATTRIBUTE_MOUNT_MATRIX, dumpedValues⟩]⟩),
      ([3], ⟨[⟨SSC_ATTRIBUTE_MOUNT_MATRIX, turnedValues⟩]⟩)] []

def accelDiscovered : Sensor ℚ :=
  (exec (Sensor.step dumpedMatrix) Exchange.accelInit
    [.report ⟨768, SSC_SENSOR_UID_SUID, [0]⟩,
      .report ⟨768, SSC_SENSOR_UID_SUID, [1]⟩]).get (by decide)

theorem dumpedValues_isSome : ∀ v ∈ dumpedValues, v.f ≠ none := by
  intro v hv
  rcases List.mem_append.mp hv with hv | hv
  · rw [(List.mem_replicate.mp hv).2]
    simp
  · rw [(List.mem_replicate.mp hv).2]
    simp

theorem reportedMatrix_dumped : reportedMatrix dumpedValues =
    fun i _ => if i = 0 then 1 / 10 else 0 := by
  ext i j
  fin_cases i <;> fin_cases j <;> rfl

theorem dumped_mistaken : ¬ Unmistaken dumpedValues := by
  unfold Unmistaken
  rw [reportedMatrix_dumped]
  rintro (hzero | hsum | hdiag)
  · exact absurd (hzero 0 0) (by norm_num)
  · refine hsum (entrySum_of_fractions fun i j => ?_)
    split_ifs <;> norm_num
  · exact absurd (hdiag 1) (by norm_num)

theorem dumped_not_mounted :
    ¬ Mounted dumpedMatrix
      (accelDiscovered.emitReport dumpedMatrix ⟨128, ⟨1, 1⟩, [2]⟩)
      (intendedMatrix dumpedValues) := by
  have hrun : exec (Sensor.step dumpedMatrix) Exchange.accelInit
      [.report ⟨768, SSC_SENSOR_UID_SUID, [0]⟩,
        .report ⟨768, SSC_SENSOR_UID_SUID, [1]⟩] = some accelDiscovered :=
    (Option.some_get _).symm
  rw [mounted_iff_attribute (p := sscSensorInit "accel")
    (a := ⟨SSC_ATTRIBUTE_MOUNT_MATRIX, dumpedValues⟩) (Option.some_get _).symm
    hrun (by decide) (by rfl) rfl rfl rfl,
    mountMatrixAttribute_eq_iff (by decide) dumpedValues_isSome]
  exact dumped_mistaken

/-- The dumped matrix, which is mistaken, and the turned one, which is not. -/
theorem mounted_iff_unmistaken_dumped :
    (Mounted dumpedMatrix
          (accelDiscovered.emitReport dumpedMatrix ⟨128, ⟨1, 1⟩, [2]⟩)
          (intendedMatrix dumpedValues) ↔
        Unmistaken dumpedValues) ∧
      Unmistaken turnedValues ∧
      Mounted dumpedMatrix
        (accelDiscovered.emitReport dumpedMatrix ⟨128, ⟨1, 1⟩, [3]⟩)
        (intendedMatrix turnedValues) := by
  have hrun : exec (Sensor.step dumpedMatrix) Exchange.accelInit
      [.report ⟨768, SSC_SENSOR_UID_SUID, [0]⟩,
        .report ⟨768, SSC_SENSOR_UID_SUID, [1]⟩] = some accelDiscovered :=
    (Option.some_get _).symm
  have hturned : Unmistaken turnedValues := by
    refine Or.inr (Or.inl ?_)
    decide +kernel
  refine ⟨?_, hturned, ?_⟩
  · exact mounted_iff_unmistaken (p := sscSensorInit "accel")
      (a := ⟨SSC_ATTRIBUTE_MOUNT_MATRIX, dumpedValues⟩) (Option.some_get _).symm
      hrun (by decide) (by rfl) rfl rfl rfl (by decide) dumpedValues_isSome
  · exact (mounted_iff_unmistaken (p := sscSensorInit "accel")
      (a := ⟨SSC_ATTRIBUTE_MOUNT_MATRIX, turnedValues⟩) (Option.some_get _).symm
      hrun (by decide) (by rfl) rfl rfl rfl (by decide)
      (by decide +kernel)).mpr hturned

end Driver

end Libssc

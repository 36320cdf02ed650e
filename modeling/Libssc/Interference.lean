import Libssc.Retries

/-!
# Responses that concern others

Every client of the service sees the responses to everybody's discovery requests.
Those that name neither 'registry' nor the sensor's own data type are foreign to
an init, and a run in which they have been left out should look the same to it.

It does as long as they come when the service is known to be available, or when
nobody listens. One that comes during the wait for the service is counted as a
retry before its data type is looked at, and answered with another poll.
-/

namespace Libssc.Sensor

open Library
open Exchange (accelInit)

variable {F : Type} [GFloat F] {pb : Protobuf F} {w w' w₁ : Sensor F}
  {d : String} {e : Event} {es pre : List Event}

/-- A discovery response that names neither 'registry' nor data type `d`. -/
def foreign (pb : Protobuf F) (d : String) (e : Event) : Bool :=
  match suidDelivered pb e with
  | none => false
  | some m => decide (m.dataType ≠ "registry" ∧ m.dataType ≠ d)

/-- The events that remain when all foreign responses are left out. -/
def withoutForeign (pb : Protobuf F) (d : String) (es : List Event) :
    List Event :=
  es.filter (fun e => !foreign pb d e)

/-- The run without the foreign responses leads to the same requests, the same
state of the wait for the service and the same completions of the init. -/
def Unaffected (pb : Protobuf F) (d : String) (w₁ : Sensor F)
    (es : List Event) (w : Sensor F) : Prop :=
  ∃ v, exec (step pb) w₁ (withoutForeign pb d es) = some v ∧
    v.sent = w.sent ∧ v.priv.serviceRetries = w.priv.serviceRetries ∧
    v.priv.serviceAvailable = w.priv.serviceAvailable ∧
    v.tasks.returns 0 = w.tasks.returns 0

/-- A foreign response comes when the service is available or nobody listens. -/
def ForeignIgnored (pb : Protobuf F) (d : String) (w : Sensor F) (e : Event) :
    Prop :=
  foreign pb d e = true → w.priv.serviceAvailable = true ∨ w.listeners = []

omit [GFloat F] in
theorem foreign_iff : foreign pb d e = true ↔ ∃ m,
    suidDelivered pb e = some m ∧ m.dataType ≠ "registry" ∧ m.dataType ≠ d := by
  unfold foreign
  cases suidDelivered pb e with
  | none => simp
  | some m => simp

omit [GFloat F] in
theorem withoutForeign_snoc : withoutForeign pb d (es ++ [e]) =
    withoutForeign pb d es ++ if foreign pb d e = true then [] else [e] := by
  unfold withoutForeign
  rw [List.filter_append]
  cases h : foreign pb d e <;> simp [h]

omit [GFloat F] in
/-- Once the service is there, a response for another data type is ignored. -/
theorem suidOutcome_of_foreign {p : SSCSensorPrivate F} {m : SscSuidResponse}
    (hp : p.serviceAvailable = true) (hreg : m.dataType ≠ "registry")
    (hd : m.dataType ≠ p.dataType) : p.suidOutcome m = .ignored := by
  unfold SSCSensorPrivate.suidOutcome
  rw [if_neg (fun h => hreg h.2), if_neg (by simp [hp]), if_pos hd]

/-- A foreign response that comes when it should changes nothing at all. -/
theorem step_of_foreign (h : Sole 0 w) (hd : w.priv.dataType = d)
    (hf : foreign pb d e = true) (he : ForeignIgnored pb d w e)
    (hstep : w.step pb e = some w') : w' = w := by
  obtain ⟨m, hm, hreg, hne⟩ := foreign_iff.mp hf
  by_cases hl : w.listeners = []
  · cases e with
    | sendReady i error => exact absurd hm (by simp [suidDelivered])
    | report r =>
        obtain rfl := Option.some.inj hstep
        exact emitReport_none hl
  · have htold := (told_of_connected pb e hl).trans hm
    obtain ⟨-, -, rfl⟩ := step_of_told h hstep htold
    have havail := (he hf).resolve_right hl
    rw [suidOutcome_of_foreign havail hreg (by rw [hd]; exact hne)]
    rfl

/-- A foreign response during the wait is counted. -/
theorem retries_of_foreign (h : Sole 0 w) (hf : foreign pb d e = true)
    (he : ¬ ForeignIgnored pb d w e) (hstep : w.step pb e = some w') :
    w'.priv.serviceRetries = w.priv.serviceRetries + 1 := by
  obtain ⟨m, hm, hreg, -⟩ := foreign_iff.mp hf
  obtain ⟨havail, hl⟩ := not_or.mp fun hor => he fun _ => hor
  have htold := (told_of_connected pb e hl).trans hm
  obtain ⟨-, -, rfl⟩ := step_of_told h hstep htold
  rw [perform_priv, suidOutcome_of_not_positive (by simpa using havail)
    (fun hpos => hreg hpos.2)]
  split_ifs <;> rfl

/-- **Foreign responses do not interfere with an init**, at any point of any run,
if and only if none of them reaches it while it waits for the service. -/
theorem unaffected_iff {p : SSCSensorPrivate F}
    (hcall : (Sensor.new p).call (.init none) = some w₁)
    (hrun : exec (step pb) w₁ es = some w) :
    Always (step pb) w₁ (Unaffected pb p.dataType w₁) es ↔
      StepsMeet (step pb) w₁ (fun _ w e => ForeignIgnored pb p.dataType w e)
        es := by
  have hstage := Exchange.atStage_start hcall
  have hdata : w₁.priv.dataType = p.dataType := by
    rw [show w₁.priv = _ from hstage.priv]
    rfl
  -- as long as they do not interfere, both runs are in the same state
  have hall : StepsMeet (step pb) w₁ (fun _ _ _ => True) es :=
    fun _ _ _ _ _ => trivial
  apply always_iff_stepsMeet
    (I := fun pre w => Sole 0 w ∧ w.priv.dataType = p.dataType ∧
      exec (step pb) w₁ (withoutForeign pb p.dataType pre) = some w)
    hrun hall ⟨hstage.sole, hdata, rfl⟩
  case hstep =>
    rintro pre v e v' ⟨hsole, hd, hsame⟩ - he hstep
    refine ⟨sole_step hsole hstep, (dataType_step hsole hstep).trans hd, ?_⟩
    rw [withoutForeign_snoc]
    by_cases hf : foreign pb p.dataType e = true
    · obtain rfl := step_of_foreign hsole hd hf he hstep
      rw [if_pos hf, List.append_nil]
      exact hsame
    · rw [if_neg hf]
      exact exec_snoc.mpr ⟨v, hsame, hstep⟩
  case hsound =>
    rintro pre v ⟨-, -, hsame⟩
    exact ⟨v, hsame, rfl, rfl, rfl, rfl⟩
  case hbreak =>
    rintro pre v e v' ⟨hsole, -, hsame⟩ - he hstep ⟨u, hu, -, hretries, -, -⟩
    have hf : foreign pb p.dataType e = true := by
      by_contra hf
      exact he fun h => absurd h hf
    rw [withoutForeign_snoc, if_pos hf, List.append_nil] at hu
    obtain rfl : v = u := Option.some.inj (hsame.symm.trans hu)
    rw [retries_of_foreign hsole hf he hstep] at hretries
    omega

/-! Somebody asks for the gyroscope while the accelerometer waits. -/

def gyroFound : Protobuf ℚ := .ofTables [([0], ⟨"gyro", [⟨3, 3⟩]⟩)] [] []

def gyroAnswered : List Event := [.report ⟨768, SSC_SENSOR_UID_SUID, [0]⟩]

theorem accel_affected :
    ¬ Always (step gyroFound) accelInit
      (Unaffected gyroFound "accel" accelInit) gyroAnswered := by
  intro h
  obtain ⟨v, hv, hsent, -⟩ := h.last (s := (exec (step gyroFound) accelInit
    gyroAnswered).get (by decide)) (Option.some_get _).symm
  obtain rfl : accelInit = v := Option.some.inj hv
  exact absurd hsent (by decide)

theorem unaffected_iff_accel :
    Always (step gyroFound) accelInit
        (Unaffected gyroFound "accel" accelInit) gyroAnswered ↔
      StepsMeet (step gyroFound) accelInit
        (fun _ w e => ForeignIgnored gyroFound "accel" w e) gyroAnswered :=
  unaffected_iff (p := sscSensorInit "accel")
    (w := (exec (step gyroFound) accelInit gyroAnswered).get (by decide))
    (Option.some_get _).symm (Option.some_get _).symm

end Libssc.Sensor

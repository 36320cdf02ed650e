import Libssc.Driver
import Libssc.Listener
import Libssc.Release

/-!
# Who holds on to the client

A sensor owns one reference to its client, and every request that has not been
answered holds another one until its callback has run. The drivers get the
client with `g_object_get`, which returns a new reference each time, in their
open and in their close, and never drop it. The last reference is the one whose
release runs `ssc_client_dispose`.

So the client of a sensor object is disposed together with it if and only if
nobody has opened or closed the sensor through its driver.
-/

namespace Libssc

open Library

variable {F S M : Type} [GFloat F] {pb : Protobuf F}

namespace Sensor

variable {w w' : Sensor F}

/-! ## The sensor's own reference -/

theorem client_update (o : Outcome F) (p : SSCSensorPrivate F) :
    (o.update p).client = p.client := by
  cases o <;> simp [Outcome.update]

theorem client_reportReceived (t : ℕ) (r : Report) :
    (w.reportReceived pb t r).priv.client = w.priv.client := by
  by_cases hf : t ∈ w.freed
  · rw [reportReceived_freed hf]
  · have hupdate := client_update (w.priv.outcome pb r) w.priv
    rw [reportReceived_eq hf, perform_priv]
    cases (w.priv.outcome pb r).result <;> exact hupdate

theorem client_emitReport (r : Report) :
    (w.emitReport pb r).priv.client = w.priv.client :=
  emitReport_preserves (P := fun v => v.priv.client = w.priv.client)
    (fun t _ _ _ hv => (client_reportReceived t r).trans hv) rfl

/-- An open changes no private data but the number of its handler. -/
theorem sensorOpen_priv {cb : AsyncReadyCallback}
    (h : w.sensorOpen cb = some w') :
    w'.priv = { w.priv with reportId := w'.priv.reportId } := by
  simp only [sensorOpen] at h
  split_ifs at h
  all_goals
    obtain rfl := Option.some.inj h
    rfl

/-- Once there is a client, no call takes it away or creates another one. -/
theorem client_call {c : Call} (hclient : w.priv.client = true)
    (h : w.call c = some w') : w'.priv.client = true := by
  cases called_of_call h with
  | init error hno => exact absurd (hno.symm.trans hclient) (by simp)
  | sensorOpen _ hopen =>
      rw [sensorOpen_priv hopen]
      exact hclient
  | sensorClose => exact hclient

end Sensor

namespace Driver

variable {d : Driver F S M} {w w' : DriverWorld F S M} {a : Action}

/-! ## Counting references -/

/-- The references to the client that are outstanding: the sensor's, those the
driver got, and one for each request whose callback has not run. -/
def references (w : DriverWorld F S M) : ℕ :=
  (if w.sensor.priv.client then 1 else 0) + w.clientRefs +
    w.sensor.unready.length

/-- `sensor_dispose`, as far as the client `c` is concerned: the sensor's
reference is dropped, and the client is disposed if it was the last one. -/
def sensorDispose (c : SSCClientPrivate) (w : DriverWorld F S M) :
    SSCClientPrivate × List Release :=
  let rest := { w with sensor :=
    { w.sensor with priv := { w.sensor.priv with client := false } } }
  if w.sensor.priv.client = true ∧ references rest = 0 then Client.dispose c
  else (c, [])

/-- Opening or closing the driver, which gets the client. -/
def Action.GetsClient : Action → Prop
  | .sensorOpen => True
  | .sensorClose => True
  | _ => False

/-- Nothing but the sensor holds on to the client, so that disposing the sensor
releases the QMI client and closes the device. -/
structure Unpinned (c : SSCClientPrivate) (w : DriverWorld F S M) : Prop where
  references : references w = 1
  sensor : w.sensor.priv.client = true
  released : .releaseClient ∈ (sensorDispose c w).2
  closed : .closeDevice ∈ (sensorDispose c w).2

theorem client_act (hclient : w.sensor.priv.client = true)
    (h : d.act pb w a = some w') : w'.sensor.priv.client = true := by
  cases step_of_act h with
  | call hs => exact Sensor.client_call hclient hs
  | sensorOpen hs =>
      rw [Sensor.sensorOpen_priv hs]
      exact hclient
  | sensorClose =>
      rw [sensorClose_eq]
      exact hclient
  | sendReady _ _ =>
      show (Sensor.sendReady _ _ _).priv.client = true
      rw [(Sensor.callbackRan_sendReady _ _ _).priv]
      exact hclient
  | report =>
      rw [emitReport_sensor, Sensor.client_emitReport]
      exact hclient
  | dispatch _ _ =>
      rw [taskReady_eq]
      split <;> exact hclient
  | _ => exact hclient

/-- No reference that the driver got is ever dropped. -/
theorem clientRefs_act (h : d.act pb w a = some w') :
    w'.clientRefs = w.clientRefs ∧ ¬ a.GetsClient ∨
      w'.clientRefs = w.clientRefs + 1 ∧ a.GetsClient := by
  cases step_of_act h with
  | call _ => exact Or.inl ⟨rfl, id⟩
  | newFinish => exact Or.inl ⟨rfl, id⟩
  | sensorOpen _ => exact Or.inr ⟨rfl, trivial⟩
  | sensorClose =>
      rw [sensorClose_eq]
      exact Or.inr ⟨rfl, trivial⟩
  | sendReady _ _ => exact Or.inl ⟨rfl, id⟩
  | report =>
      exact Or.inl ⟨congrArg (·.2.2.2.2) (emitReport_control _ w), id⟩
  | dispatch _ _ =>
      rw [taskReady_eq]
      split <;> exact Or.inl ⟨rfl, id⟩
  | idle _ => exact Or.inl ⟨rfl, id⟩

/-- The sensor keeps its reference through every run, and the driver has got one
in addition unless it was never opened or closed. -/
theorem references_run {as : List Action} (hclient : w.sensor.priv.client = true)
    (hrefs : w.clientRefs = 0) (hrun : exec (d.act pb) w as = some w') :
    w'.sensor.priv.client = true ∧
      (w'.clientRefs = 0 ↔ ∀ a ∈ as, ¬ a.GetsClient) := by
  induction as using List.reverseRecOn generalizing w' with
  | nil =>
      obtain rfl : w = w' := by simpa using hrun
      exact ⟨hclient, iff_of_true hrefs (by simp)⟩
  | append_singleton as a ih =>
      obtain ⟨v, hv, hact⟩ := exec_snoc.mp hrun
      obtain ⟨hvclient, hvrefs⟩ := ih hv
      refine ⟨client_act hvclient hact, ?_⟩
      have hall : (∀ b ∈ as ++ [a], ¬ b.GetsClient) ↔
          (∀ b ∈ as, ¬ b.GetsClient) ∧ ¬ a.GetsClient := by
        simp [or_imp, forall_and]
      rw [hall, ← hvrefs]
      rcases clientRefs_act hact with ⟨heq, hno⟩ | ⟨heq, hyes⟩
      · rw [heq, and_iff_left hno]
      · rw [heq]
        exact iff_of_false (Nat.succ_ne_zero _) (fun h => h.2 hyes)

/-- **A sensor does not pin its client** if and only if its driver has never been
opened or closed: in every state in which no request is under way, the sensor's
reference is the only one and disposing the sensor releases the QMI client and
closes the device. -/
theorem unpinned_iff {c : Construction} {as : List Action}
    (hc : Client.newFinish c = none)
    (hrun : exec (d.act pb) (d.world (Sensor.new (sscSensorInit d.dataType)))
      (.call (.init (Client.newFinish c)) :: as) = some w)
    (hquiet : w.sensor.unready = []) :
    Unpinned (Client.initableInitAsync c).1 w ↔ ∀ a ∈ as, ¬ a.GetsClient := by
  rw [hc] at hrun
  obtain ⟨v, hinit, has⟩ := exec_cons.mp hrun
  obtain rfl := Option.some.inj hinit
  obtain ⟨hclient, hrefs⟩ := references_run rfl rfl has
  have hcount : references w = 1 + w.clientRefs := by
    simp [references, hclient, hquiet]
  rw [← hrefs]
  constructor
  · intro h
    have := h.references
    omega
  · intro hzero
    have hone : references w = 1 := by rw [hcount, hzero]
    have hcomplete : (Client.initableInitAsync c).1 = ⟨true, true, true⟩ := by
      rcases Client.initableInitAsync_result c with ⟨-, h⟩ | ⟨e, he, -⟩
      · rw [h]
      · exact absurd (hc.symm.trans he) (by simp)
    have hdispose : sensorDispose (Client.initableInitAsync c).1 w =
        Client.dispose ⟨true, true, true⟩ := by
      unfold sensorDispose
      rw [if_pos ⟨hclient, by simp [references, hzero, hquiet]⟩, hcomplete]
    constructor
    · exact hone
    · exact hclient
    · rw [hdispose]
      decide
    · rw [hdispose]
      decide

/-! An accelerometer that has been opened and closed again, with everything
answered. -/

def clientComplete : Construction where
  bus := .ok [some 1]
  device := none
  deviceOpen := none
  allocateClient := none

def accelService : Protobuf ℚ :=
  .ofTables
    [([0], ⟨"registry", [⟨9, 9⟩]⟩), ([1], ⟨"accel", [⟨1, 1⟩]⟩)]
    [([2], ⟨[⟨SSC_ATTRIBUTE_AVAILABLE, [⟨none, none, none, some true⟩]⟩,
      ⟨SSC_ATTRIBUTE_SAMPLE_RATE, [⟨none, some 5, none, none⟩]⟩]⟩)] []

def accelOpenedAndClosed : List Action :=
  [.sendReady 0 none, .report ⟨768, SSC_SENSOR_UID_SUID, [0]⟩,
    .sendReady 1 none, .report ⟨768, SSC_SENSOR_UID_SUID, [1]⟩,
    .sendReady 2 none, .report ⟨128, ⟨1, 1⟩, [2]⟩, .newFinish,
    .sensorOpen, .sendReady 3 none, .report ⟨1025, ⟨1, 1⟩, []⟩, .dispatch 1,
    .sensorClose, .sendReady 4 none, .dispatch 2]

def accelWorld : DriverWorld ℚ Unit (ℚ × ℚ × ℚ) :=
  (exec (accelerometer.toDriver.act accelService)
    (accelerometer.toDriver.world (Sensor.new (sscSensorInit "accel")))
    (.call (.init (Client.newFinish clientComplete)) ::
      accelOpenedAndClosed)).get (by decide)

theorem accel_pinned :
    accelWorld.sensor.unready = [] ∧
      ¬ Unpinned (Client.initableInitAsync clientComplete).1 accelWorld := by
  refine ⟨by decide, fun h => ?_⟩
  exact absurd h.references (by decide)

theorem unpinned_iff_accel :
    Unpinned (Client.initableInitAsync clientComplete).1 accelWorld ↔
      ∀ a ∈ accelOpenedAndClosed, ¬ a.GetsClient :=
  unpinned_iff (d := accelerometer.toDriver) (by decide)
    (Option.some_get _).symm (by decide)

end Driver

end Libssc

import Libssc.Library.Destutter
import Libssc.Silence

/-!
# Near and far

The proximity driver reads one of two message formats, compares the value with
the last one it reported and emits changes only. The two variables it remembers
are reset in other functions than the one that uses them: an open makes it report
the first value whatever it is.

`proximityValue` says what a report tells, and `IsUnderstood` for which reports
the handler is defined: a value other than near and far is an assertion failure,
and a Davinci message without any chunk is read all the same. On what it
understands, the handler emits in each session the values it was told, with
consecutive repetitions removed.
-/

namespace Libssc

open Library

variable {F : Type} [GFloat F] {pb : Protobuf F} {u : SscUid} {r : Report}

/-! ## What a report tells -/

/-- The value in a proximity report for the sensor with UID `u`, in either
format. -/
def proximityValue (pb : Protobuf F) (u : SscUid) (r : Report) : Option Int :=
  if r.uid ≠ u then none
  else if r.msgId = SSC_MSG_REPORT_MEASUREMENT_PROXIMITY then
    match pb.proximityResponseUnpack r.buf with
    | some msg => some msg.near.toInt
    | none => none
  else if r.msgId = SSC_MSG_REPORT_MEASUREMENT then
    match pb.proximityResponseDavinciUnpack r.buf with
    | some ⟨chunk :: _⟩ =>
        if chunk.length = PROXIMITY_DATA_DAVINCI_SIZE then
          some (GFloat.trunc (pb.davinciNear chunk)).toInt
        else none
    | _ => none
  else none

/-- Near or far, if the report tells one of them. -/
def decodedNear (pb : Protobuf F) (u : SscUid) (r : Report) : Option Bool :=
  (proximityValue pb u r).bind proximityNear

/-- A value that is near or far. -/
def NearOrFar (value : Int) : Prop :=
  value = SSC_SENSOR_PROXIMITY_NEAR ∨ value = SSC_SENSOR_PROXIMITY_FAR

/-- If the report is for the sensor with UID `u` and in one of the two formats,
it tells near or far; in the second format there must be a chunk, and one of the
wrong size tells nothing. -/
def IsUnderstood (pb : Protobuf F) (u : SscUid) (r : Report) : Prop :=
  r.uid = u →
    (r.msgId = SSC_MSG_REPORT_MEASUREMENT_PROXIMITY →
      ∀ msg, pb.proximityResponseUnpack r.buf = some msg →
        NearOrFar msg.near.toInt) ∧
    (r.msgId = SSC_MSG_REPORT_MEASUREMENT →
      ∀ msg, pb.proximityResponseDavinciUnpack r.buf = some msg →
        ∃ chunk rest, msg.data = chunk :: rest ∧
          (chunk.length = PROXIMITY_DATA_DAVINCI_SIZE →
            NearOrFar (GFloat.trunc (pb.davinciNear chunk)).toInt))

theorem proximityNear_eq_none {value : Int} :
    proximityNear value = none ↔ ¬ NearOrFar value := by
  unfold proximityNear NearOrFar
  split_ifs with h₁ h₂
  · simp [h₁]
  · simp [h₂]
  · simp [h₁, h₂]

omit [GFloat F] in
/-- The two formats have different message ids. -/
theorem proximity_ne_measurement :
    SSC_MSG_REPORT_MEASUREMENT ≠ SSC_MSG_REPORT_MEASUREMENT_PROXIMITY := by
  decide

/-! ## One report -/

/-- A near or far value is compared, any other is an assertion failure. -/
theorem map_proximityNear (s : ProximityState) (value : Int) :
    (NearOrFar value ∧ (proximityNear value).map (proximityChanged s) =
        some (match (some value).bind proximityNear with
          | some near => proximityChanged s near
          | none => (s, none))) ∨
      (¬ NearOrFar value ∧
        (proximityNear value).map (proximityChanged s) = none) := by
  cases hnear : proximityNear value with
  | none => exact Or.inr ⟨proximityNear_eq_none.mp hnear, rfl⟩
  | some near =>
      refine Or.inl ⟨?_, ?_⟩
      · by_contra hno
        exact absurd (hnear.symm.trans (proximityNear_eq_none.mpr hno)) (by simp)
      · rw [Option.bind_some, hnear]
        rfl

/-- **What the handler makes of a report for its sensor.** If it understands the
report, the value told is compared and everything else is ignored; otherwise the
process is gone. -/
theorem measure_cases (p : SSCSensorPrivate F) (s : ProximityState)
    (hu : r.uid = u) :
    (IsUnderstood pb u r ∧ proximity.measure pb p s r.msgId r.buf =
      some (match decodedNear pb u r with
        | some near => proximityChanged s near
        | none => (s, none))) ∨
    (¬ IsUnderstood pb u r ∧
      proximity.measure pb p s r.msgId r.buf = none) := by
  unfold IsUnderstood decodedNear proximityValue
  rw [if_neg (not_not_intro hu)]
  simp only [proximity]
  by_cases h₁ : r.msgId = SSC_MSG_REPORT_MEASUREMENT_PROXIMITY
  · -- the usual format
    have h₁₂ := proximity_ne_measurement.symm
    rw [if_pos h₁, if_pos h₁]
    cases hmsg : pb.proximityResponseUnpack r.buf with
    | none => exact Or.inl ⟨by simp [h₁, h₁₂], rfl⟩
    | some msg =>
        rcases map_proximityNear s msg.near.toInt with ⟨hv, hm⟩ | ⟨hv, hm⟩
        · exact Or.inl ⟨by simpa [h₁, h₁₂, hu] using hv, hm⟩
        · exact Or.inr ⟨by simpa [h₁, h₁₂, hu] using hv, hm⟩
  · rw [if_neg h₁, if_neg h₁]
    by_cases h₂ : r.msgId = SSC_MSG_REPORT_MEASUREMENT
    · -- the format with chunks of bytes
      have h₂₁ := proximity_ne_measurement
      rw [if_pos h₂, if_pos h₂]
      rcases hmsg : pb.proximityResponseDavinciUnpack r.buf with
        _ | ⟨_ | ⟨chunk, rest⟩⟩
      · exact Or.inl ⟨by simp [h₁], rfl⟩
      · exact Or.inr ⟨by simp [h₂, h₂₁, hu], rfl⟩
      · by_cases hlen : chunk.length = PROXIMITY_DATA_DAVINCI_SIZE
        · simp only [ne_eq, hlen, not_true_eq_false, if_false, if_true]
          rcases map_proximityNear s (GFloat.trunc (pb.davinciNear chunk)).toInt with
            ⟨hv, hm⟩ | ⟨hv, hm⟩
          · exact Or.inl ⟨by simpa [h₂, h₂₁, hu, hlen] using hv, hm⟩
          · exact Or.inr ⟨by simpa [h₂, h₂₁, hu, hlen] using hv, hm⟩
        · simp only [ne_eq, hlen, not_false_eq_true, if_true, if_false]
          exact Or.inl ⟨by simp [h₂, h₂₁, hu, hlen], rfl⟩
    · rw [if_neg h₂, if_neg h₂]
      exact Or.inl ⟨by simp [h₁, h₂], rfl⟩

namespace Driver

variable {w w' : DriverWorld F ProximityState Bool}

theorem understood_of_uid_ne (pb : Protobuf F) (hu : r.uid ≠ u) :
    IsUnderstood pb u r ∧ decodedNear pb u r = none := by
  refine ⟨fun h => absurd h hu, ?_⟩
  unfold decodedNear proximityValue
  rw [if_pos hu]
  rfl

/-- The handler on a report it understands. -/
theorem reportReceived_of_understood
    (h : IsUnderstood pb w.sensor.priv.uid r) :
    proximity.reportReceived pb r w =
      match decodedNear pb w.sensor.priv.uid r with
      | some near => { w with
          state := (proximityChanged w.state near).1
          idle := w.idle ++ (proximityChanged w.state near).2.toList }
      | none => w := by
  unfold reportReceived
  by_cases hu : r.uid = w.sensor.priv.uid
  · rw [if_pos hu]
    rcases measure_cases w.sensor.priv w.state hu with ⟨-, hm⟩ | ⟨hno, -⟩
    · rw [hm]
      cases decodedNear pb w.sensor.priv.uid r with
      | none => simp
      | some near => rfl
    · exact absurd h hno
  · rw [if_neg hu, (understood_of_uid_ne pb hu).2]

/-- The handler is total on a report: no assertion fails and nothing outside of
the message is read, and unless the report tells near or far it is ignored. -/
def TotalOn (pb : Protobuf F) (r : Report)
    (w : DriverWorld F ProximityState Bool) : Prop :=
  (proximity.reportReceived pb r w).aborted = false ∧
    (decodedNear pb w.sensor.priv.uid r = none →
      proximity.reportReceived pb r w = w)

/-- **The report handler is total on a report if and only if it understands
it**, whatever the state of the driver and its sensor. -/
theorem totalOn_iff_understood (h : w.aborted = false) :
    TotalOn pb r w ↔ IsUnderstood pb w.sensor.priv.uid r := by
  constructor
  · rintro ⟨hsafe, -⟩
    by_contra hno
    have hu : r.uid = w.sensor.priv.uid := by
      by_contra hne
      exact hno (understood_of_uid_ne pb hne).1
    rcases measure_cases w.sensor.priv w.state hu with ⟨hyes, -⟩ | ⟨-, hm⟩
    · exact hno hyes
    · unfold reportReceived at hsafe
      rw [if_pos hu, hm] at hsafe
      exact absurd hsafe (by simp)
  · intro hyes
    have heq := reportReceived_of_understood hyes
    constructor
    · rw [heq]
      cases decodedNear pb w.sensor.priv.uid r with
      | none => exact h
      | some near => exact h
    · intro hnone
      rw [heq, hnone]

/-! Near, a value that is neither near nor far, and a Davinci message without
data. -/

def proximityStrange : Protobuf ℚ :=
  { Protobuf.ofTables [] [] [] with
    proximityResponseUnpack := fun buf =>
      if buf = [1] then some ⟨1⟩ else if buf = [2] then some ⟨2⟩ else none
    proximityResponseDavinciUnpack := fun buf =>
      if buf = [] then some ⟨[]⟩ else none }

theorem not_totalOn_strange :
    ¬ TotalOn proximityStrange ⟨769, ⟨1, 1⟩, [2]⟩
        (proximity.world (Sensor.new proximityMock)) ∧
      ¬ TotalOn proximityStrange ⟨1025, ⟨1, 1⟩, []⟩
        (proximity.world (Sensor.new proximityMock)) := by
  constructor
  · rintro ⟨hsafe, -⟩
    exact absurd hsafe (by decide)
  · rintro ⟨hsafe, -⟩
    exact absurd hsafe (by decide)

theorem totalOn_iff_understood_mock :
    (TotalOn proximityStrange ⟨769, ⟨1, 1⟩, [2]⟩
        (proximity.world (Sensor.new proximityMock)) ↔
      IsUnderstood proximityStrange ⟨1, 1⟩ ⟨769, ⟨1, 1⟩, [2]⟩) ∧
    TotalOn proximityStrange ⟨769, ⟨1, 1⟩, [1]⟩
      (proximity.world (Sensor.new proximityMock)) ∧
    decodedNear proximityStrange ⟨1, 1⟩ ⟨769, ⟨1, 1⟩, [1]⟩ = some true := by
  refine ⟨totalOn_iff_understood (w := proximity.world (Sensor.new proximityMock)) rfl,
    ?_, by decide⟩
  refine (totalOn_iff_understood rfl).mpr fun _ => ⟨?_, fun hid => ?_⟩
  · rintro _ msg hmsg
    obtain rfl : msg = ⟨1⟩ := (Option.some.inj hmsg).symm
    exact Or.inl rfl
  · exact absurd hid (by decide)

/-! ## Emissions -/

/-- A base handler that runs first does not change what a report tells. -/
theorem understood_reportReceived (pb : Protobuf F) (s : Sensor F) (t : ℕ)
    (r : Report) :
    (IsUnderstood pb (s.reportReceived pb t r).priv.uid r ↔
        IsUnderstood pb s.priv.uid r) ∧
      decodedNear pb (s.reportReceived pb t r).priv.uid r =
        decodedNear pb s.priv.uid r := by
  by_cases hmsg : r.msgId = SSC_MSG_RESPONSE_SUID
  · -- a discovery response is no proximity report, whatever the UID
    have h₁ : r.msgId ≠ SSC_MSG_REPORT_MEASUREMENT_PROXIMITY := by
      rw [hmsg]
      decide
    have h₂ : r.msgId ≠ SSC_MSG_REPORT_MEASUREMENT := by
      rw [hmsg]
      decide
    have hund : ∀ u, IsUnderstood pb u r := fun u _ =>
      ⟨fun h => absurd h h₁, fun h => absurd h h₂⟩
    have hnone : ∀ u, decodedNear pb u r = none := by
      intro u
      simp [decodedNear, proximityValue, h₁, h₂]
    exact ⟨iff_of_true (hund _) (hund _), by rw [hnone, hnone]⟩
  · rw [Sensor.uid_reportReceived hmsg]
    exact ⟨Iff.rfl, rfl⟩

/-- What the driver remembers, what it has taken, and whether it still runs. -/
def memory (w : DriverWorld F ProximityState Bool) :
    ProximityState × List Bool × Bool := (w.state, taken w, w.aborted)

/-- The memory after a report that tells `value`. -/
def memoryAfter (value : Option Bool)
    (w : DriverWorld F ProximityState Bool) :
    ProximityState × List Bool × Bool :=
  match value with
  | some near =>
      ((proximityChanged w.state near).1,
        taken w ++ (proximityChanged w.state near).2.toList, w.aborted)
  | none => memory w

/-- **An emission tells the connected handler exactly once**, wherever among the
base handlers it is. -/
theorem memory_emitReport (hown : w.sensor.OwnId) (hone : w.sensor.OneDriver)
    (h : IsUnderstood pb w.sensor.priv.uid r) :
    memory (proximity.emitReport pb r w) =
      memoryAfter (decodedNear pb w.sensor.priv.uid r) w := by
  have hsame : (w.sensor.emitReport pb r).driverHandlers =
      w.sensor.driverHandlers := Sensor.driverHandlers_emitReport hown r
  obtain ⟨id, hid⟩ := hone
  refine Signal.emit_once (p := fun x => x == Closure.driver)
    (P := fun v : DriverWorld F ProximityState Bool =>
      memory v = memory w ∧ IsUnderstood pb v.sensor.priv.uid r ∧
        decodedNear pb v.sensor.priv.uid r = decodedNear pb w.sensor.priv.uid r)
    (Q := fun v => memory v = memoryAfter (decodedNear pb w.sensor.priv.uid r) w)
    hid ⟨rfl, h, rfl⟩ ?_ ?_ ?_ ?_
  · rintro ⟨x, cl⟩ - hcl v
    cases cl with
    | driver => exact absurd hcl (by simp)
    | sensor t =>
        refine ⟨?_, fun hQ => hQ⟩
        rintro ⟨hmem, hund, hdec⟩
        have hkeep := understood_reportReceived pb v.sensor t r
        exact ⟨hmem, hkeep.1.mpr hund, hkeep.2.trans hdec⟩
  · rintro v ⟨hmem, hund, hdec⟩
    obtain ⟨hstate, htaken, hsafe⟩ : v.state = w.state ∧ taken v = taken w ∧
        v.aborted = w.aborted := by
      simpa [memory] using hmem
    show memory (proximity.reportReceived pb r v) = _
    rw [reportReceived_of_understood hund, hdec]
    cases decodedNear pb w.sensor.priv.uid r with
    | none => exact hmem
    | some near =>
        simp only [memory, memoryAfter, ← hstate, ← htaken, ← hsafe]
        simp [taken]
  · exact fun _ _ hmem => mem_handlers_of_runClosure hmem
  · apply mem_handlers_emitReport
    rw [hsame, hid]
    exact List.mem_singleton_self _

/-! ## Sessions -/

variable {a : Action} {as : List Action}

/-- The value that a report tells the driver, if its handler is connected. -/
def toldNear (pb : Protobuf F) :
    DriverWorld F ProximityState Bool × Action → Option Bool
  | (w, .report r) =>
      if w.sensor.driverHandlers = [] then none
      else decodedNear pb w.sensor.priv.uid r
  | _ => none

/-- An open starts a session, and what is told belongs to the last one. -/
def observe (pb : Protobuf F) (ss : List (List Bool))
    (x : DriverWorld F ProximityState Bool × Action) : List (List Bool) :=
  if x.2 = .sensorOpen then ss ++ [[]]
  else ss.dropLast ++ (ss.getLast?.map (· ++ (toldNear pb x).toList)).toList

/-- The values told in each session of a run. -/
def sessions (pb : Protobuf F) (w₀ : DriverWorld F ProximityState Bool)
    (as : List Action) : List (List Bool) :=
  (trace (proximity.act pb) w₀ as).foldl (observe pb) []

/-- Sessions do not overlap, `new_finish` belongs to none, and every report is
understood. -/
def Orderly (pb : Protobuf F) (w : DriverWorld F ProximityState Bool) :
    Action → Prop
  | .sensorOpen => w.sensor.driverHandlers = []
  | .newFinish => w.sensor.driverHandlers = []
  | .report r => IsUnderstood pb w.sensor.priv.uid r
  | _ => True

/-- What the driver remembers in a session with the values `cur` so far. -/
def Remembers (cur : List Bool) (s : ProximityState) : Prop :=
  match cur.getLast? with
  | none => s.reportedOnce = false
  | some near => s = ⟨near, true⟩

theorem changed_of_remembers {cur : List Bool} {s : ProximityState}
    (h : Remembers cur s) (near : Bool) :
    Remembers (cur ++ [near]) (proximityChanged s near).1 ∧
      (cur ++ [near]).destutter (· ≠ ·) =
        cur.destutter (· ≠ ·) ++ (proximityChanged s near).2.toList := by
  unfold Remembers at h ⊢
  rw [destutter_concat, List.getLast?_concat]
  unfold proximityChanged
  cases hlast : cur.getLast? with
  | none =>
      rw [hlast] at h
      rw [if_pos (Or.inr h)]
      exact ⟨rfl, rfl⟩
  | some last =>
      rw [hlast] at h
      obtain rfl := h
      by_cases hsame : last = near
      · subst hsame
        simp
      · simp [hsame]

/-- After a run that has told `ss`, the driver has taken each session's values
without repetitions, and while its handler is connected it remembers those of the
current session. -/
structure Sessioned (ss : List (List Bool))
    (w : DriverWorld F ProximityState Bool) : Prop where
  own : w.sensor.OwnId
  handlers : w.sensor.driverHandlers = [] ∨ w.sensor.OneDriver
  safe : w.aborted = false
  taken : taken w = ss.flatMap (·.destutter (· ≠ ·))
  current : w.sensor.driverHandlers ≠ [] →
    ∃ init cur, ss = init ++ [cur] ∧ Remembers cur w.state

theorem observe_of_told_none {ss : List (List Bool)} (ha : a ≠ .sensorOpen)
    (h : toldNear pb (w, a) = none) : observe pb ss (w, a) = ss := by
  unfold observe
  rw [if_neg ha, h]
  rcases List.eq_nil_or_concat ss with rfl | ⟨init, cur, rfl⟩
  · rfl
  · simp

/-- Other actions touch neither what the driver remembers nor what it has
taken. -/
theorem act_state (h : proximity.act pb w a = some w') (hopen : a ≠ .sensorOpen)
    (hfinish : a ≠ .newFinish) (hreport : ∀ r, a ≠ .report r) :
    w'.state = w.state ∧ taken w' = taken w := by
  cases step_of_act h with
  | call _ => exact ⟨rfl, rfl⟩
  | newFinish => exact absurd rfl hfinish
  | sensorOpen _ => exact absurd rfl hopen
  | sensorClose =>
      rw [sensorClose_eq]
      exact ⟨rfl, rfl⟩
  | sendReady _ _ => exact ⟨rfl, rfl⟩
  | report => exact absurd rfl (hreport _)
  | dispatch _ _ =>
      rw [taskReady_eq]
      split <;> exact ⟨rfl, rfl⟩
  | idle hidle => exact ⟨rfl, by simp [taken, hidle]⟩

omit [GFloat F] in
theorem handlers_of_sublist
    (hsub : List.Sublist w'.sensor.driverHandlers w.sensor.driverHandlers)
    (h : w.sensor.driverHandlers = [] ∨ w.sensor.OneDriver) :
    w'.sensor.driverHandlers = [] ∨ w'.sensor.OneDriver := by
  rcases h with hnil | ⟨id, hid⟩
  · rw [hnil] at hsub
    exact Or.inl (List.sublist_nil.mp hsub)
  · rw [hid] at hsub
    rcases List.sublist_singleton.mp hsub with hnil | hone
    · exact Or.inl hnil
    · exact Or.inr ⟨id, hone⟩

/-- Without a handler of the driver, whatever is not an open keeps the
sessions. -/
theorem sessioned_closed {ss : List (List Bool)} (h : Sessioned ss w)
    (hnone : w.sensor.driverHandlers = []) (hopen : a ≠ .sensorOpen)
    (hact : proximity.act pb w a = some w') : Sessioned ss w' := by
  have hsub := driverHandlers_act hopen hact
  rw [hnone] at hsub
  have hnone' := List.sublist_nil.mp hsub
  exact
    { own := ownId_act h.own hact
      handlers := Or.inl hnone'
      safe := act_aborted h.safe hact
      taken := (act_taken hnone hact).trans h.taken
      current := fun hne => absurd hnone' hne }

/-- A report in a session. -/
theorem sessioned_report {ss : List (List Bool)} (h : Sessioned ss w)
    (hne : w.sensor.driverHandlers ≠ [])
    (hund : IsUnderstood pb w.sensor.priv.uid r)
    (hact : proximity.act pb w (.report r) = some w') :
    Sessioned (observe pb ss (w, .report r)) w' := by
  obtain ⟨init, cur, rfl, hrem⟩ := h.current hne
  have hone := h.handlers.resolve_left hne
  have hmem := memory_emitReport h.own hone hund
  have hown := ownId_act h.own hact
  have hhandlers := handlers_of_sublist
    (driverHandlers_act (by simp) hact) h.handlers
  have hsafe := act_aborted h.safe hact
  have hw' : w' = proximity.emitReport pb r w := by
    simp only [act] at hact
    split at hact
    · exact absurd hact (by simp)
    · exact (Option.some.inj hact).symm
  have htold : toldNear pb (w, .report r) =
      decodedNear pb w.sensor.priv.uid r := if_neg hne
  rw [← hw'] at hmem
  cases hdec : decodedNear pb w.sensor.priv.uid r with
  | none =>
      rw [hdec] at htold hmem
      obtain ⟨hstate, htaken, -⟩ : w'.state = w.state ∧
          Driver.taken w' = Driver.taken w ∧ w'.aborted = w.aborted := by
        simpa [memory, memoryAfter] using hmem
      rw [observe_of_told_none (by simp) htold]
      exact
        { own := hown
          handlers := hhandlers
          safe := hsafe
          taken := htaken.trans h.taken
          current := fun _ => ⟨init, cur, rfl, by rw [hstate]; exact hrem⟩ }
  | some near =>
      rw [hdec] at htold hmem
      obtain ⟨hstate, htaken, -⟩ :
          w'.state = (proximityChanged w.state near).1 ∧
          Driver.taken w' = Driver.taken w ++
            (proximityChanged w.state near).2.toList ∧
          w'.aborted = w.aborted := by
        simpa [memory, memoryAfter] using hmem
      obtain ⟨hrem', hdestutter⟩ := changed_of_remembers hrem near
      have hobserve : observe pb (init ++ [cur]) (w, .report r) =
          init ++ [cur ++ [near]] := by
        unfold observe
        rw [htold]
        simp
      rw [hobserve]
      exact
        { own := hown
          handlers := hhandlers
          safe := hsafe
          taken := by
            rw [htaken, h.taken]
            simp only [List.flatMap_append, List.flatMap_singleton]
            rw [hdestutter, List.append_assoc]
          current := fun _ => ⟨init, cur ++ [near], rfl,
            by rw [hstate]; exact hrem'⟩ }

/-- An open starts a session about which nothing is remembered. -/
theorem sessioned_open {ss : List (List Bool)} (h : Sessioned ss w)
    (hnone : w.sensor.driverHandlers = [])
    (hact : proximity.act pb w .sensorOpen = some w') :
    Sessioned (ss ++ [[]]) w' := by
  have hown := ownId_act h.own hact
  have hsafe := act_aborted h.safe hact
  have hone := driverHandlers_open hact
  rw [hnone] at hone
  cases step_of_act hact with
  | sensorOpen hs =>
      exact
        { own := hown
          handlers := Or.inr ⟨_, hone⟩
          safe := hsafe
          taken := by
            rw [List.flatMap_append]
            exact h.taken.trans (List.append_nil _).symm
          current := fun _ => ⟨ss, [], rfl, rfl⟩ }

theorem sessioned_act {ss : List (List Bool)} (h : Sessioned ss w)
    (ha : Orderly pb w a) (hact : proximity.act pb w a = some w') :
    Sessioned (observe pb ss (w, a)) w' := by
  by_cases hopen : a = .sensorOpen
  · subst hopen
    exact sessioned_open h ha hact
  by_cases hnone : w.sensor.driverHandlers = []
  · have htold : toldNear pb (w, a) = none := by
      cases a with
      | report r => exact if_pos hnone
      | _ => rfl
    rw [observe_of_told_none hopen htold]
    exact sessioned_closed h hnone hopen hact
  by_cases hreport : ∃ r, a = .report r
  · obtain ⟨r, rfl⟩ := hreport
    exact sessioned_report h hnone ha hact
  · have hfinish : a ≠ .newFinish := by
      rintro rfl
      exact hnone ha
    have htold : toldNear pb (w, a) = none := by
      cases a with
      | report r => exact absurd ⟨r, rfl⟩ hreport
      | _ => rfl
    obtain ⟨hstate, htaken⟩ :=
      act_state hact hopen hfinish fun r hr => hreport ⟨r, hr⟩
    obtain ⟨init, cur, rfl, hrem⟩ := h.current hnone
    rw [observe_of_told_none hopen htold]
    exact
      { own := ownId_act h.own hact
        handlers := handlers_of_sublist (driverHandlers_act hopen hact) h.handlers
        safe := act_aborted h.safe hact
        taken := htaken.trans h.taken
        current := fun _ => ⟨init, cur, rfl, by rw [hstate]; exact hrem⟩ }

theorem sessioned_start {p : SSCSensorPrivate F}
    (hp : p.reportId = 0) :
    Sessioned [] (proximity.world (Sensor.new p)) where
  own :=
    { lt := by
        show p.reportId < 1
        omega
      ne := fun x hx => absurd hx List.not_mem_nil }
  handlers := Or.inl rfl
  safe := rfl
  taken := rfl
  current := fun hne => absurd rfl hne

/-- A report that is understood never ends the process. -/
theorem report_of_sessioned {ss : List (List Bool)} (h : Sessioned ss w)
    (hund : IsUnderstood pb w.sensor.priv.uid r) :
    ∃ w', proximity.act pb w (.report r) = some w' := by
  have hsafe : (proximity.emitReport pb r w).aborted = false := by
    rcases h.handlers with hnone | hone
    · exact emitReport_unobserved (P := fun v => v.aborted = false) hnone
        (fun _ _ hv => hv) h.safe
    · have hmem := congrArg (·.2.2) (memory_emitReport h.own hone hund)
      apply hmem.trans
      unfold memoryAfter
      cases decodedNear pb w.sensor.priv.uid r with
      | none => exact h.safe
      | some near => exact h.safe
  refine ⟨proximity.emitReport pb r w, ?_⟩
  simp only [act, hsafe]
  rfl

/-- The idle sources that are left run one after the other. -/
theorem drain_act (n : ℕ) (hn : w.idle.length = n) :
    exec (proximity.act pb) w (List.replicate n .idle) =
      some { w with
        idle := []
        measurements := taken w } := by
  induction n generalizing w with
  | zero =>
      have hnil : w.idle = [] := List.length_eq_zero_iff.mp hn
      show some w = _
      rw [taken, hnil, List.append_nil, ← hnil]
  | succ n ih =>
      obtain ⟨m, ms, hidle⟩ := List.exists_cons_of_length_eq_add_one hn
      have hstep : proximity.act pb w .idle = some { w with
          idle := ms
          measurements := w.measurements ++ [m] } := by
        simp [act, emitSignal, hidle]
      rw [List.replicate_succ]
      simp only [exec, hstep]
      rw [ih (by simpa [hidle] using hn)]
      simp [taken, hidle]

/-- **The proximity driver emits changes, session by session.** In every run of a
proximity sensor with orderly sessions the values taken for emission, which the
idle sources then emit in order, are those told in each session with consecutive
repetitions removed. So each session begins with the first value it was told, two
consecutive emissions of a session differ, and no report that is understood ends
the process. -/
theorem sessions_destuttered {p : SSCSensorPrivate F} (hp : p.reportId = 0)
    (hrun : exec (proximity.act pb) (proximity.world (Sensor.new p)) as = some w)
    (hord : StepsMeet (proximity.act pb) (proximity.world (Sensor.new p))
      (fun _ w a => Orderly pb w a) as) :
    taken w = (sessions pb (proximity.world (Sensor.new p)) as).flatMap
        (·.destutter (· ≠ ·)) ∧
    (∃ w', exec (proximity.act pb) w (List.replicate w.idle.length .idle) =
      some w' ∧ w'.idle = [] ∧ w'.measurements = taken w) ∧
    (∀ s ∈ sessions pb (proximity.world (Sensor.new p)) as,
      (s.destutter (· ≠ ·)).head? = s.head? ∧
        (s.destutter (· ≠ ·)).IsChain (· ≠ ·)) ∧
    ∀ r, IsUnderstood pb w.sensor.priv.uid r →
      ∃ w', proximity.act pb w (.report r) = some w' := by
  have hinv : Always (proximity.act pb) (proximity.world (Sensor.new p))
      (fun pre v => exec (proximity.act pb) (proximity.world (Sensor.new p)) pre =
          some v ∧
        Sessioned (sessions pb (proximity.world (Sensor.new p)) pre) v) as := by
    refine always_of_stepsMeet ⟨rfl, ?_⟩ ?_ hord
    · exact sessioned_start hp
    · rintro pre v a v' ⟨hpre, h⟩ ha hact
      refine ⟨exec_snoc.mpr ⟨v, hpre, hact⟩, ?_⟩
      unfold sessions
      rw [trace_snoc hpre, List.foldl_append]
      exact sessioned_act h ha hact
  have hw := (hinv.last hrun).2
  refine ⟨hw.taken, ⟨_, drain_act _ rfl, rfl, rfl⟩, ?_, ?_⟩
  · intro s _
    exact ⟨head?_destutter s, List.isChain_destutter _ s⟩
  · exact fun r hund => report_of_sessioned hw hund

/-! The mocking server's proximity sensor in two sessions: near twice, then near
again after it was closed. -/

def proximityKnown : Protobuf ℚ :=
  { Protobuf.ofTables [] [] [] with
    proximityResponseUnpack := fun buf =>
      List.lookup buf [([0], ⟨0⟩), ([1], ⟨1⟩), ([2], ⟨2⟩)] }

def proximityTwoSessions : List Action :=
  [.newFinish, .sensorOpen, .report ⟨769, ⟨1, 1⟩, [1]⟩,
    .report ⟨769, ⟨1, 1⟩, [1]⟩, .idle, .sensorClose,
    .report ⟨769, ⟨1, 1⟩, [0]⟩, .sensorOpen, .report ⟨769, ⟨1, 1⟩, [1]⟩]

theorem orderly_proximityTwoSessions :
    StepsMeet (proximity.act proximityKnown)
      (proximity.world (Sensor.new proximityMock))
      (fun _ w a => Orderly proximityKnown w a) proximityTwoSessions := by
  apply stepsMeet_of_trace (c := fun x => decide
    (x.2 = .report ⟨769, ⟨1, 1⟩, [0]⟩ ∨ x.2 = .report ⟨769, ⟨1, 1⟩, [1]⟩ ∨
      x.2 = .idle ∨ x.2 = .sensorClose ∨ x.1.sensor.driverHandlers = [] ∧
        (x.2 = .sensorOpen ∨ x.2 = .newFinish)))
  · intro w a h
    obtain rfl | rfl | rfl | rfl | ⟨hnone, rfl | rfl⟩ := of_decide_eq_true h
    · refine fun _ => ⟨fun _ msg hm => ?_, fun hmsg => absurd hmsg (by decide)⟩
      obtain rfl : ⟨0⟩ = msg := Option.some.inj hm
      exact Or.inr rfl
    · refine fun _ => ⟨fun _ msg hm => ?_, fun hmsg => absurd hmsg (by decide)⟩
      obtain rfl : ⟨1⟩ = msg := Option.some.inj hm
      exact Or.inl rfl
    · trivial
    · trivial
    · exact hnone
    · exact hnone
  · decide

theorem sessions_destuttered_mock :
    taken ((exec (proximity.act proximityKnown)
      (proximity.world (Sensor.new proximityMock)) proximityTwoSessions).get
        (by decide)) = [true, true] := by
  have hrun : exec (proximity.act proximityKnown)
      (proximity.world (Sensor.new proximityMock)) proximityTwoSessions =
        some _ := (Option.some_get (by decide)).symm
  refine (sessions_destuttered rfl hrun orderly_proximityTwoSessions).1.trans ?_
  decide

end Driver

end Libssc

import Libssc.Composed
import Libssc.Proximity
import Libssc.Subscription

/-!
# What a driver makes of a measurement

A measurement of the table arrives at a driver as a report, for which the base
sensor has no use. `Source` says what the driver makes of it: a step of its
private data, with a measurement to emit or not, or a failed assertion. So the
drivers are state machines over the measurements (`Source.after`); four of them
have no state, and the proximity driver compares.
-/

namespace Libssc

open Library

variable {F M : Type} [GFloat F]

/-! ## Reports that tell the base sensor nothing -/

/-- The report is no response to a discovery or an attribute request. -/
structure Report.Streamed (r : Report) : Prop where
  suid : r.msgId ≠ SSC_MSG_RESPONSE_SUID
  attributes : r.msgId ≠ SSC_MSG_RESPONSE_GET_ATTRIBUTES

namespace Sensor

variable {pb : Protobuf F} {w : Sensor F} {r : Report}

/-- What a measurement cannot change: the UID, the mount matrix, the requests. -/
def settings (w : Sensor F) : SscUid × (Fin 3 → Fin 3 → F) × List (Request F) :=
  (w.priv.uid, w.priv.mountMatrix, w.sent)

theorem settings_reportReceived (hr : r.Streamed) (t : ℕ) :
    (w.reportReceived pb t r).settings = w.settings := by
  by_cases hf : t ∈ w.freed
  · rw [reportReceived_freed hf]
    rfl
  have hs : ¬ r.IsSuid := fun hs => hr.suid hs.2
  have ha : ¬ w.priv.IsAttributes pb r := fun ha => hr.attributes ha.2.1
  rw [reportReceived_eq hf]
  unfold settings
  rw [perform_priv, perform_sent]
  by_cases he : w.priv.IsEnabled pb r
  · rw [SSCSensorPrivate.outcome_eq_enabled.mpr he]
    simp [Outcome.result, Outcome.update, Outcome.request]
  · rw [SSCSensorPrivate.outcome_eq_ignored hs ha he]
    simp [Outcome.result, Outcome.update, Outcome.request]

theorem settings_emitReport (hr : r.Streamed) :
    (w.emitReport pb r).settings = w.settings :=
  emitReport_preserves (P := fun v => v.settings = w.settings)
    (fun t _ _ _ hv => (settings_reportReceived hr t).trans hv) rfl

end Sensor

/-! ## Requests that enable or disable a sensor -/

/-- The request enables or disables sensor `u`. -/
structure Request.Switches (u : SscUid) (q : Request F) : Prop where
  uid : q.uid = u
  msgId : q.msgId = SSC_MSG_REQUEST_ENABLE_REPORT_CONTINUOUS ∨
    q.msgId = SSC_MSG_REQUEST_ENABLE_REPORT_ON_CHANGE ∨
    q.msgId = SSC_MSG_REQUEST_DISABLE_REPORT
  protobuf : q.protobuf = none ∨ ∃ m, q.protobuf = some (.enableConfig m)

/-- It enables it. -/
def Request.enables (q : Request F) : Bool :=
  decide (q.msgId ≠ SSC_MSG_REQUEST_DISABLE_REPORT)

omit [GFloat F] in
/-- The server understands such a request. -/
theorem switches_pack {pb : Protobuf F} {wire : Wire F} (h : Lossless pb wire)
    {u : SscUid} {q : Request F} (hq : q.Switches u) :
    SSCMockingServer.switches wire (wire.pack q.uid q.msgId q.protobuf) =
      some (u, q.enables) := by
  unfold SSCMockingServer.switches Wire.pack Server.parseProtobufClientRequest
    Request.enables
  rw [h.clientRequest]
  obtain ⟨rfl, hmsg | hmsg | hmsg, -⟩ := hq
  · rw [hmsg]
    rfl
  · rw [hmsg]
    rfl
  · rw [hmsg]
    rfl

namespace Sensor

variable {w w' : Sensor F}

/-- An open sends one request at most. -/
theorem sensorOpen_sent {cb : AsyncReadyCallback} (h : w.sensorOpen cb = some w') :
    w'.priv.uid = w.priv.uid ∧ w'.priv.mountMatrix = w.priv.mountMatrix ∧
      ∃ qs, w'.sent = w.sent ++ qs ∧ qs.length ≤ 1 ∧
        ∀ q ∈ qs, q.Switches w.priv.uid := by
  simp only [sensorOpen] at h
  split_ifs at h with h₁ h₂ h₃ h₄
  · obtain rfl := Option.some.inj h
    exact ⟨rfl, rfl, [], (List.append_nil _).symm, Nat.zero_le 1, by simp⟩
  · obtain rfl := Option.some.inj h
    exact ⟨rfl, rfl, [], (List.append_nil _).symm, Nat.zero_le 1, by simp⟩
  · obtain rfl := Option.some.inj h
    refine ⟨rfl, rfl, [_], rfl, Nat.le_refl 1, fun q hq => ?_⟩
    obtain rfl := List.mem_singleton.mp hq
    exact ⟨rfl, Or.inl rfl, Or.inr ⟨_, rfl⟩⟩
  · obtain rfl := Option.some.inj h
    refine ⟨rfl, rfl, [_], rfl, Nat.le_refl 1, fun q hq => ?_⟩
    obtain rfl := List.mem_singleton.mp hq
    exact ⟨rfl, Or.inr (Or.inl rfl), Or.inl rfl⟩

/-- An open of a sensor that is available sends the request that enables it. -/
theorem exists_sensorOpen (cb : AsyncReadyCallback)
    (havailable : w.priv.available = true)
    (hstream : w.priv.streamType = SSC_STREAM_TYPE_ON_CHANGE ∨
      w.priv.streamType = SSC_STREAM_TYPE_CONTINUOUS ∧
        GFloat.le w.priv.sampleRate GFloat.zero = false) :
    ∃ w' q, w.sensorOpen cb = some w' ∧ w'.sent = w.sent ++ [q] ∧
      w'.unready = w.unready ++ [w.sent.length] ∧ q.Switches w.priv.uid ∧
      q.enables = true := by
  simp only [sensorOpen, havailable]
  rcases hstream with hchange | ⟨hcontinuous, hrate⟩
  · have hne : SSC_STREAM_TYPE_ON_CHANGE ≠ SSC_STREAM_TYPE_CONTINUOUS := by decide
    simp only [hchange, if_neg hne]
    exact ⟨_, _, rfl, rfl, rfl, ⟨rfl, Or.inr (Or.inl rfl), Or.inl rfl⟩, by rfl⟩
  · simp only [hcontinuous, hrate]
    exact ⟨_, _, rfl, rfl, rfl, ⟨rfl, Or.inl rfl, Or.inr ⟨_, rfl⟩⟩, by rfl⟩

end Sensor

namespace Driver

variable {S : Type} {d : Driver F S M} {pb : Protobuf F} {w w' : DriverWorld F S M}

/-- What the main loop and a close do: they take nothing, leave the sensor as it
is, and send at most a request that disables it. -/
theorem act_aside {a : Action} (hcall : ∀ k, a ≠ .call k) (hopen : a ≠ .sensorOpen)
    (hreport : ∀ r, a ≠ .report r) (h : d.act pb w a = some w') :
    taken w' = taken w ∧ w'.sensor.priv = w.sensor.priv ∧
      ∃ qs, w'.sensor.sent = w.sensor.sent ++ qs ∧
        ∀ q ∈ qs, q.Switches w.sensor.priv.uid ∧ q.enables = false := by
  have hsame : w'.sensor.sent = w.sensor.sent →
      ∃ qs, w'.sensor.sent = w.sensor.sent ++ qs ∧
        ∀ q ∈ qs, q.Switches w.sensor.priv.uid ∧ q.enables = false :=
    fun hsent => ⟨[], by rw [hsent, List.append_nil], by simp⟩
  cases step_of_act h with
  | call _ => exact absurd rfl (hcall _)
  | sensorOpen _ => exact absurd rfl hopen
  | report => exact absurd rfl (hreport _)
  | newFinish => exact ⟨rfl, rfl, hsame rfl⟩
  | sensorClose =>
      rw [sensorClose_eq]
      refine ⟨rfl, rfl, [_], rfl, fun q hq => ?_⟩
      obtain rfl := List.mem_singleton.mp hq
      exact ⟨⟨rfl, Or.inr (Or.inr rfl), Or.inl rfl⟩, by rfl⟩
  | @sendReady i error r _ _ =>
      have hran := Sensor.callbackRan_sendReady r.callback error
        { w.sensor with unready := w.sensor.unready.erase i }
      exact ⟨rfl, hran.priv, hsame hran.sent⟩
  | dispatch _ _ =>
      rw [taskReady_eq]
      split_ifs <;> exact ⟨rfl, rfl, [], (List.append_nil _).symm, by simp⟩
  | idle hidle => exact ⟨by simp [taken, hidle], rfl, hsame rfl⟩

/-- Only a close disconnects the driver's handler. -/
theorem driverHandlers_aside {a : Action} (hcall : ∀ k, a ≠ .call k)
    (hopen : a ≠ .sensorOpen) (hreport : ∀ r, a ≠ .report r)
    (hclose : a ≠ .sensorClose) (h : d.act pb w a = some w') :
    w'.sensor.driverHandlers = w.sensor.driverHandlers := by
  cases step_of_act h with
  | call _ => exact absurd rfl (hcall _)
  | sensorOpen _ => exact absurd rfl hopen
  | report => exact absurd rfl (hreport _)
  | sensorClose => exact absurd rfl hclose
  | sendReady _ _ =>
      unfold Sensor.driverHandlers
      rw [(Sensor.callbackRan_sendReady _ _ _).report]
  | dispatch _ _ =>
      rw [taskReady_eq]
      split_ifs <;> rfl
  | _ => rfl

/-- What a driver has of its own and what it has taken is left alone by what is no
open and no report; `new_finish` is asked not to change anything. -/
theorem act_state_aside {a : Action} (hopen : a ≠ .sensorOpen)
    (hreport : ∀ r, a ≠ .report r)
    (hfinish : a = .newFinish → ∀ s, d.newFinish s = s)
    (h : d.act pb w a = some w') : w'.state = w.state := by
  cases step_of_act h with
  | newFinish => exact hfinish rfl w.state
  | sensorOpen _ => exact absurd rfl hopen
  | report => exact absurd rfl (hreport _)
  | sensorClose => rw [sensorClose_eq]
  | dispatch _ _ =>
      rw [taskReady_eq]
      split_ifs <;> rfl
  | _ => rfl

end Driver

/-! ## A reaction -/

namespace Driver

variable {S : Type} {d : Driver F S M} {pb : Protobuf F} {w : DriverWorld F S M}
  {r : Report}

/-- What a driver has of its own, what it has taken, and whether the process is
gone. -/
def progress (w : DriverWorld F S M) : S × List M × Bool :=
  (w.state, taken w, w.aborted)

/-- The same after a reaction, which `none` says is a failed assertion. -/
def progressAfter (w : DriverWorld F S M) :
    Option (S × Option M) → S × List M × Bool
  | none => (w.state, taken w, true)
  | some (s, m) => (s, taken w ++ m.toList, w.aborted)

omit [GFloat F] in
theorem progress_reportReceived (hu : r.uid = w.sensor.priv.uid) :
    progress (d.reportReceived pb r w) =
      progressAfter w (d.measure pb w.sensor.priv w.state r.msgId r.buf) := by
  unfold reportReceived
  rw [if_pos hu]
  cases d.measure pb w.sensor.priv w.state r.msgId r.buf with
  | none => rfl
  | some p => simp [progress, progressAfter, taken]

/-- **A streamed report is reacted to exactly once**, wherever among the base
handlers the driver's handler is. -/
theorem progress_emitReport
    (react : (Fin 3 → Fin 3 → F) → S → Option (S × Option M)) (hr : r.Streamed)
    (hown : w.sensor.OwnId) (hone : w.sensor.OneDriver)
    (hu : r.uid = w.sensor.priv.uid)
    (hreact : ∀ p s, d.measure pb p s r.msgId r.buf = react p.mountMatrix s) :
    progress (d.emitReport pb r w) =
      progressAfter w (react w.sensor.priv.mountMatrix w.state) := by
  have hsame : (w.sensor.emitReport pb r).driverHandlers =
      w.sensor.driverHandlers := Sensor.driverHandlers_emitReport hown r
  obtain ⟨id, hid⟩ := hone
  refine Signal.emit_once (p := fun x => x == Closure.driver)
    (P := fun v : DriverWorld F S M =>
      progress v = progress w ∧ v.sensor.settings = w.sensor.settings)
    (Q := fun v => progress v =
      progressAfter w (react w.sensor.priv.mountMatrix w.state))
    hid ⟨rfl, rfl⟩ ?_ ?_ ?_ ?_
  · rintro ⟨x, cl⟩ - hcl v
    cases cl with
    | driver => exact absurd hcl (by simp)
    | sensor t =>
        exact ⟨fun ⟨hprogress, hsettings⟩ => ⟨hprogress,
          (Sensor.settings_reportReceived hr t).trans hsettings⟩, fun hQ => hQ⟩
  · rintro v ⟨hprogress, hsettings⟩
    have huid : v.sensor.priv.uid = w.sensor.priv.uid := congrArg (·.1) hsettings
    have hmatrix : v.sensor.priv.mountMatrix = w.sensor.priv.mountMatrix :=
      congrArg (·.2.1) hsettings
    obtain ⟨hstate, htaken, haborted⟩ : v.state = w.state ∧ taken v = taken w ∧
        v.aborted = w.aborted := by
      simpa [progress] using hprogress
    show progress (d.reportReceived pb r v) = _
    rw [progress_reportReceived (hu.trans huid.symm), hreact, hmatrix, hstate]
    unfold progressAfter
    rw [hstate, htaken, haborted]
  · exact fun _ _ hmem => mem_handlers_of_runClosure hmem
  · apply mem_handlers_emitReport
    rw [hsame, hid]
    exact List.mem_singleton_self _

/-- Without a handler of the driver there is no reaction. -/
theorem progress_unobserved (hnone : w.sensor.driverHandlers = []) :
    progress (d.emitReport pb r w) = progress w :=
  emitReport_unobserved (P := fun v => progress v = progress w) hnone
    (fun _ _ hv => hv) rfl

end Driver

/-! ## What a measurement of the table comes to -/

omit [GFloat F] in
theorem bind_eq_ok {α β ε : Type} {x : Except ε α} {f : α → Except ε β} {b : β}
    (h : x >>= f = .ok b) : ∃ a, x = .ok a ∧ f a = .ok b := by
  cases x with
  | error e => exact absurd h (by simp [bind, Except.bind])
  | ok a => exact ⟨a, rfl, h⟩

omit [GFloat F] in
/-- A measurement of the table as it arrives at the library. -/
theorem report_of_measurementMessage {pb : Protobuf F} {wire : MeasurementWire F}
    (h : Lossless pb wire.toWire) {uid : SscUid} {dataType : String}
    {m : Measurement F} {buf : GArray}
    (hm : Server.measurementMessage wire uid dataType m = .ok buf) :
    ∃ response msgId, Server.measurementResponse uid dataType m = .ok response ∧
      Server.fixed32Item m "id" = .ok msgId ∧
      (Client.envelopes pb [.large (some buf)]).flatMap Client.bodies =
        [⟨msgId, uid, wire.measurementSerialize response⟩] := by
  unfold Server.measurementMessage at hm
  obtain ⟨response, hresponse, hm⟩ := bind_eq_ok hm
  obtain ⟨msgId, hid, hm⟩ := bind_eq_ok hm
  obtain rfl := Except.ok.inj hm
  exact ⟨response, msgId, hresponse, hid, Composed.bodies_envelope h _ _ _⟩

/-- What a driver makes of the measurements of the table, from its private data to
its private data, for a mount matrix. -/
structure Source {S : Type} (d : Driver F S M) where
  react : (Fin 3 → Fin 3 → F) → S → Measurement F → Option (S × Option M)
  measure_eq : ∀ {pb : Protobuf F} {wire : MeasurementWire F},
    MeasurementLossless pb wire → ∀ {uid : SscUid} {m : Measurement F} {buf : GArray},
      Server.measurementMessage wire uid d.dataType m = .ok buf →
      ∃ r : Report, r.uid = uid ∧ Server.fixed32Item m "id" = .ok r.msgId ∧
        (Client.envelopes pb [.large (some buf)]).flatMap Client.bodies = [r] ∧
        ∀ p s, d.measure pb p s r.msgId r.buf = react p.mountMatrix s m

/-- What the driver has of its own and has taken after the first `k` measurements,
in turn and round and round; `none` if an assertion has failed. -/
def Source.after {S : Type} {d : Driver F S M} (src : Source d)
    (matrix : Fin 3 → Fin 3 → F) (entry : MeasuredEntry F) (s : S) :
    ℕ → Option (S × List M)
  | 0 => some (s, [])
  | k + 1 =>
      (src.after matrix entry s k).bind fun (s, ms) =>
        match entry.measurements[k % entry.measurements.length]? with
        | none => some (s, ms)
        | some m => (src.react matrix s m).map fun (s, o) => (s, ms ++ o.toList)

/-! ## The stream drivers -/

/-- Where the values of a stream driver stand in the table, and the response that
brings them. -/
structure StreamSource (d : StreamSpec F M) where
  key : String
  response : List F → Int32 → MeasurementResponse F
  response_eq : ∀ uid m, Server.measurementResponse uid d.dataType m = (do
    let v ← Server.listItem m key
    return response v (← Server.int32Item m "accuracy"))
  unpack_eq : ∀ pb wire, MeasurementLossless pb wire → ∀ v a,
    d.unpack pb (wire.measurementSerialize (response v a)) = some v

def lightSource : StreamSource (lightSpec (F := F)) where
  key := "intensity"
  response := .light
  response_eq _ _ := rfl
  unpack_eq _ _ h := h.light

namespace StreamSource

variable {d : StreamSpec F M}

/-- What the driver is to make of a measurement of the table. -/
def converted (src : StreamSource d) (matrix : Fin 3 → Fin 3 → F)
    (m : Measurement F) : Option M :=
  match Server.fixed32Item m "id", Server.listItem m src.key with
  | .ok msgId, .ok v =>
      if msgId = SSC_MSG_REPORT_MEASUREMENT ∧ d.need ≤ v.length ∧ d.keep v = true then
        some (d.value matrix v)
      else none
  | _, _ => none

/-- What the driver makes of the measurement with index `j`. -/
def convertedAt (src : StreamSource d) (matrix : Fin 3 → Fin 3 → F)
    (entry : MeasuredEntry F) (j : ℕ) : Option M :=
  entry.measurements[j % entry.measurements.length]?.bind (src.converted matrix)

/-- A stream driver has no state, and no assertion fails. -/
def toSource (src : StreamSource d) : Source d.toDriver where
  react matrix _ m := some ((), src.converted matrix m)
  measure_eq := by
    intro pb wire h uid m buf hm
    obtain ⟨response, msgId, hresponse, hid, hbodies⟩ :=
      report_of_measurementMessage h.toLossless hm
    refine ⟨_, rfl, hid, hbodies, fun p _ => ?_⟩
    have heq := (src.response_eq uid m).symm.trans hresponse
    obtain ⟨v, hv, heq⟩ := bind_eq_ok heq
    obtain ⟨a, -, heq⟩ := bind_eq_ok heq
    obtain rfl := Except.ok.inj heq
    unfold converted
    rw [hid, hv]
    show some ((), if msgId = _ then d.convert pb p _ else none) = _
    rw [d.convert_eq, src.unpack_eq pb wire h]
    by_cases hmsg : msgId = SSC_MSG_REPORT_MEASUREMENT
    · by_cases hneed : d.need ≤ v.length
      · by_cases hkeep : d.keep v = true
        · simp [hmsg, hneed, hkeep]
        · simp [hmsg, hneed, hkeep]
      · simp [hmsg, hneed]
    · simp [hmsg]

omit [GFloat F] in
/-- What a stream driver takes of the first measurements is what each of them
converts to. -/
theorem after_eq (src : StreamSource d) (matrix : Fin 3 → Fin 3 → F)
    (entry : MeasuredEntry F) (s : Unit) (k : ℕ) :
    src.toSource.after matrix entry s k =
      some ((), (List.range k).filterMap (src.convertedAt matrix entry)) := by
  induction k with
  | zero => rfl
  | succ k ih =>
      rw [Source.after, ih, List.range_succ, List.filterMap_append]
      unfold convertedAt
      cases hm : entry.measurements[k % entry.measurements.length]? with
      | none => simp [hm]
      | some m =>
          cases hc : src.converted matrix m <;> simp [toSource, hm, hc]

end StreamSource

/-! ## The proximity driver -/

/-- What a measurement of the table tells the proximity driver. -/
def toldValue (m : Measurement F) : Option Int :=
  match Server.fixed32Item m "id", Server.int32Item m "near" with
  | .ok msgId, .ok near =>
      if msgId = SSC_MSG_REPORT_MEASUREMENT_PROXIMITY then some near.toInt else none
  | _, _ => none

/-- What the first `k` measurements tell, in turn and round and round. -/
def toldValues (entry : MeasuredEntry F) (k : ℕ) : List Int :=
  (List.range k).filterMap fun j =>
    entry.measurements[j % entry.measurements.length]?.bind toldValue

/-- The proximity driver compares what it is told with what it has reported. -/
def proximitySource : Source (proximity (F := F)) where
  react _ s m :=
    match toldValue m with
    | none => some (s, none)
    | some value => (proximityNear value).map (proximityChanged s)
  measure_eq := by
    intro pb wire h uid m buf hm
    obtain ⟨response, msgId, hresponse, hid, hbodies⟩ :=
      report_of_measurementMessage h.toLossless hm
    refine ⟨_, rfl, hid, hbodies, fun p s => ?_⟩
    obtain ⟨near, hnear, hresponse⟩ := bind_eq_ok hresponse
    obtain ⟨distance, -, hresponse⟩ := bind_eq_ok hresponse
    obtain ⟨accuracy, -, hresponse⟩ := bind_eq_ok hresponse
    obtain rfl := Except.ok.inj hresponse
    unfold toldValue
    rw [hid, hnear]
    simp only [proximity, h.proximity, h.davinci]
    split_ifs <;> rfl

omit [GFloat F] in
theorem toldValues_succ (entry : MeasuredEntry F) (k : ℕ) :
    toldValues entry (k + 1) = toldValues entry k ++
      (entry.measurements[k % entry.measurements.length]?.bind toldValue).toList := by
  unfold toldValues
  rw [List.range_succ, List.filterMap_append]
  cases hv : entry.measurements[k % entry.measurements.length]?.bind toldValue <;>
    simp [hv]

/-- **The proximity driver takes what it is told without repetitions.** After an
open this holds for as long as it is told near or far; any other value ends the
process. -/
theorem proximity_after (matrix : Fin 3 → Fin 3 → F) (entry : MeasuredEntry F)
    {s : ProximityState} (hs : s.reportedOnce = false) (k : ℕ) :
    (∀ v ∈ toldValues entry k, NearOrFar v) ∧
      (∃ s', proximitySource.after matrix entry s k =
          some (s', ((toldValues entry k).filterMap proximityNear).destutter (· ≠ ·)) ∧
        Driver.Remembers ((toldValues entry k).filterMap proximityNear) s') ∨
    (¬ ∀ v ∈ toldValues entry k, NearOrFar v) ∧
      proximitySource.after matrix entry s k = none := by
  induction k with
  | zero => exact Or.inl ⟨by simp [toldValues], s, rfl, hs⟩
  | succ k ih =>
      rw [Source.after, toldValues_succ]
      rcases ih with ⟨hall, s', hafter, hremembers⟩ | ⟨hno, hafter⟩
      · rw [hafter]
        cases hm : entry.measurements[k % entry.measurements.length]? with
        | none =>
            exact Or.inl ⟨by simpa using hall, s', by simp, by simpa using hremembers⟩
        | some m =>
            cases htold : toldValue m with
            | none =>
                refine Or.inl ⟨by simpa [htold] using hall, s', ?_,
                  by simpa [htold] using hremembers⟩
                simp [proximitySource, htold]
            | some value =>
                have hvalue : (some m).bind toldValue = some value := htold
                rw [hvalue, Option.toList_some, List.filterMap_append]
                cases hnear : proximityNear value with
                | none =>
                    have hstrange := proximityNear_eq_none.mp hnear
                    refine Or.inr ⟨fun h => hstrange (h value (by simp)), ?_⟩
                    simp [proximitySource, htold, hnear]
                | some near =>
                    have htells : NearOrFar value := by
                      by_contra hno
                      rw [proximityNear_eq_none.mpr hno] at hnear
                      exact absurd hnear (by simp)
                    obtain ⟨hremembers', hdestutter⟩ :=
                      Driver.changed_of_remembers hremembers near
                    have hone : [value].filterMap proximityNear = [near] := by
                      simp [hnear]
                    rw [hone, hdestutter]
                    refine Or.inl ⟨?_, _, ?_, hremembers'⟩
                    · intro v hv
                      rcases List.mem_append.mp hv with hold | hnew
                      · exact hall v hold
                      · obtain rfl := List.mem_singleton.mp hnew
                        exact htells
                    · simp [proximitySource, htold, hnear]
      · rw [hafter]
        refine Or.inr ⟨fun hall => hno fun v hv => hall v ?_, rfl⟩
        exact List.mem_append_left _ hv

/-- A table that tells near or far only never ends the process. -/
theorem proximity_after_of_tells (matrix : Fin 3 → Fin 3 → F)
    {entry : MeasuredEntry F} {s : ProximityState} (hs : s.reportedOnce = false)
    (htells : ∀ m ∈ entry.measurements, ∀ v, toldValue m = some v → NearOrFar v)
    (k : ℕ) : ∃ s', proximitySource.after matrix entry s k =
      some (s', ((toldValues entry k).filterMap proximityNear).destutter (· ≠ ·)) := by
  have hall : ∀ v ∈ toldValues entry k, NearOrFar v := by
    intro v hv
    obtain ⟨j, -, hj⟩ := List.mem_filterMap.mp hv
    obtain ⟨m, hm, htold⟩ := Option.bind_eq_some_iff.mp hj
    exact htells m (List.mem_of_getElem? hm) v htold
  rcases proximity_after matrix entry hs k with ⟨-, hafter⟩ | ⟨hno, -⟩
  · obtain ⟨s', hafter, -⟩ := hafter
    exact ⟨s', hafter⟩
  · exact absurd hall hno

theorem proximity_after_ne_none (matrix : Fin 3 → Fin 3 → F)
    {entry : MeasuredEntry F} {s : ProximityState} (hs : s.reportedOnce = false)
    (htells : ∀ m ∈ entry.measurements, ∀ v, toldValue m = some v → NearOrFar v)
    (k : ℕ) : proximitySource.after matrix entry s k ≠ none := by
  obtain ⟨s', hafter⟩ := proximity_after_of_tells matrix hs htells k
  rw [hafter]
  exact Option.some_ne_none _

end Libssc

import Libssc.EndToEnd

/-!
# What the application gets

`EndToEnd.flowing_run` for the drivers there are: what a stream driver has taken
are the first measurements of its sensor, each as it converts it
(`taken_eq_converted`), and what the proximity driver has taken is what they tell
without repetitions (`taken_eq_destuttered`). However many measurements the
application wants, there is a run that brings them (`exists_reacted`).
-/

namespace Libssc

open Library

variable {F S M : Type} [GFloat F]

namespace EndToEnd

variable {pb : Protobuf F} {wire : MeasurementWire F}
  {data : List (MeasuredEntry F)} {c : QrtrAddress} {entry : MeasuredEntry F}
  {bs : List Action}

/-! ## The stream drivers -/

section Stream

variable {spec : StreamSpec F M} {x x₀ : EndToEnd F Unit M}

omit [GFloat F] in
/-- No measurement of the table ends the process of a stream driver. -/
theorem converted_of_flowing (src : StreamSource spec)
    (h : Flowing src.toSource entry wire data c x₀ bs x) :
    x.world.aborted = false ∧ ∃ k ≤ (x.arrived c x₀.delivered).length,
      x.world.measurements ++ x.world.idle =
        x₀.world.measurements ++ x₀.world.idle ++ (List.range k).filterMap
          (src.convertedAt x₀.world.sensor.priv.mountMatrix entry) ∧
      (.user .sensorClose ∉ bs → k = (x.arrived c x₀.delivered).length) := by
  obtain ⟨k, hle, hk, hall⟩ := h.reacted
  rw [src.after_eq] at hk
  exact ⟨hk.1, k, hle, hk.2.1, fun hclose => hall (h.connected hclose)⟩

omit [GFloat F] in
/-- A stream driver leaves `new_finish` without effect. -/
theorem within_of_once
    (honce : ∀ b ∈ bs, b ≠ .user .sensorOpen ∧ ∀ k, b ≠ .user (.call k)) :
    ∀ b ∈ bs, Within spec.toDriver b :=
  fun b hb => ⟨(honce b hb).1, (honce b hb).2, fun _ _ => rfl⟩

/-- **What the application gets is what the table lists.** The application opens
the driver, and whatever it, the library, the server and the server's other
clients do then, in any order and short of a second open: what the driver has
taken since are the first measurements of its sensor, in turn and round and
round, each as the driver converts it, and nothing else. They are no more than
have arrived, and they are all that have arrived unless the driver has been
closed. -/
theorem taken_eq_converted (src : StreamSource spec)
    (hlossless : MeasurementLossless pb wire)
    (hfind : data.find? (fun e => e.uid = x₀.world.sensor.priv.uid) = some entry)
    (hdata : entry.dataType = spec.dataType) (hstreamed : StreamedEntry entry)
    (hready : Ready c x₀)
    (honce : ∀ b ∈ bs, b ≠ .user .sensorOpen ∧ ∀ k, b ≠ .user (.call k))
    (hrun : exec (act spec.toDriver pb wire data c) x₀
      (.user .sensorOpen :: bs) = some x) :
    ∃ k ≤ (x.arrived c x₀.delivered).length,
      x.world.measurements ++ x.world.idle =
        x₀.world.measurements ++ x₀.world.idle ++ (List.range k).filterMap
          (src.convertedAt x₀.world.sensor.priv.mountMatrix entry) ∧
      (.user .sensorClose ∉ bs → k = (x.arrived c x₀.delivered).length) :=
  (converted_of_flowing src (flowing_run src.toSource hlossless hfind hdata hstreamed
    hready (within_of_once honce) hrun)).2

end Stream

/-! ## The proximity driver -/

section Proximity

variable {x x₀ : EndToEnd F ProximityState Bool}

/-- What has arrived decides whether the process is still there, and what it has
taken. -/
theorem destuttered_of_flowing
    (h : Flowing proximitySource entry wire data c x₀ bs x) :
    ∃ k ≤ (x.arrived c x₀.delivered).length,
      (x.world.aborted = false ↔ ∀ v ∈ toldValues entry k, NearOrFar v) ∧
      (x.world.aborted = false → x.world.measurements ++ x.world.idle =
        x₀.world.measurements ++ x₀.world.idle ++
          ((toldValues entry k).filterMap proximityNear).destutter (· ≠ ·)) ∧
      (.user .sensorClose ∉ bs → k = (x.arrived c x₀.delivered).length) := by
  obtain ⟨k, hle, hk, hall⟩ := h.reacted
  have hopened : (proximity.opened (F := F) x₀.world.state).reportedOnce = false := rfl
  refine ⟨k, hle, ?_⟩
  rcases proximity_after x₀.world.sensor.priv.mountMatrix entry hopened k with
    ⟨htells, s, hafter, -⟩ | ⟨hno, hafter⟩
  · rw [hafter] at hk
    exact ⟨iff_of_true hk.1 htells, fun _ => hk.2.1,
      fun hclose => hall (h.connected hclose)⟩
  · rw [hafter] at hk
    have haborted : ¬ x.world.aborted = false := by simp [hk]
    exact ⟨iff_of_false haborted hno, fun hsafe => absurd hsafe haborted,
      fun hclose => hall (h.connected hclose)⟩

/-- The proximity driver does not leave `new_finish` without effect. -/
theorem within_proximity (hwithin : ∀ b ∈ bs, b ≠ .user .sensorOpen ∧
    (∀ k, b ≠ .user (.call k)) ∧ b ≠ .user .newFinish) :
    ∀ b ∈ bs, Within (proximity (F := F)) b :=
  fun b hb => ⟨(hwithin b hb).1, (hwithin b hb).2.1,
    fun hfinish => absurd hfinish (hwithin b hb).2.2⟩

/-- **The application is told when near and far change.** It opens the proximity
driver, and whatever happens then, in any order and short of a second open: the
process is still there exactly if the measurements that the driver has been told
of, the first ones of its sensor in turn and round and round, are near or far,
and then what it has taken since is what they tell without repetitions, the first
one included. They are all that have arrived unless the driver has been closed. -/
theorem taken_eq_destuttered (hlossless : MeasurementLossless pb wire)
    (hfind : data.find? (fun e => e.uid = x₀.world.sensor.priv.uid) = some entry)
    (hdata : entry.dataType = (proximity (F := F)).dataType)
    (hstreamed : StreamedEntry entry) (hready : Ready c x₀)
    (hwithin : ∀ b ∈ bs, b ≠ .user .sensorOpen ∧ (∀ k, b ≠ .user (.call k)) ∧
      b ≠ .user .newFinish)
    (hrun : exec (act proximity pb wire data c) x₀
      (.user .sensorOpen :: bs) = some x) :
    ∃ k ≤ (x.arrived c x₀.delivered).length,
      (x.world.aborted = false ↔ ∀ v ∈ toldValues entry k, NearOrFar v) ∧
      (x.world.aborted = false → x.world.measurements ++ x.world.idle =
        x₀.world.measurements ++ x₀.world.idle ++
          ((toldValues entry k).filterMap proximityNear).destutter (· ≠ ·)) ∧
      (.user .sensorClose ∉ bs → k = (x.arrived c x₀.delivered).length) :=
  destuttered_of_flowing (flowing_run proximitySource hlossless hfind hdata hstreamed
    hready (within_proximity hwithin) hrun)

end Proximity

end EndToEnd

/-! ## The sensors of the server's own data files -/

namespace EndToEnd

/-- Every measurement can be packed, and fits. -/
theorem sendable_of_forall {entry : MeasuredEntry Int32} {uid : SscUid}
    {data : List (MeasuredEntry Int32)}
    (hfind : data.find? (fun e => e.uid = uid) = some entry)
    (hne : entry.measurements ≠ [])
    (hall : ∀ m ∈ entry.measurements, m ≠ [] ∧ (Server.measurementMessage
      (.descriptors Int32 0) uid entry.dataType m).toOption.any
        (fun r => DataFits r) = true) :
    Server.HasMeasurements (.descriptors Int32 0) data uid ∧
      Server.MeasurementsFit (.descriptors Int32 0) data uid := by
  constructor
  · refine ⟨entry, hfind, hne, fun m hm => ⟨(hall m hm).1, ?_⟩⟩
    have hany := (hall m hm).2
    cases hmessage : Server.measurementMessage (.descriptors Int32 0) uid
        entry.dataType m with
    | error e =>
        rw [hmessage] at hany
        exact absurd hany (by simp [Except.toOption])
    | ok buf => exact ⟨buf, rfl⟩
  · intro entry' hfind' m hm response hmessage
    obtain rfl : entry = entry' := Option.some.inj (hfind.symm.trans hfind')
    have hany := (hall m hm).2
    rw [hmessage] at hany
    exact of_decide_eq_true hany

/-- A driver whose sensor has been found, and a server that has just started. -/
def mockStart (d : Driver Int32 S M) (uid : SscUid) : EndToEnd Int32 S M where
  world := d.world (Sensor.new { sscSensorInit d.dataType with
    uid := uid
    available := true
    sampleRate := 5
    client := true })
  server := SSCMockingServer.new
  posted := 0
  delivered := 0
  acked := 0

theorem unhindered_mockStart (d : Driver Int32 S M) (entry : MeasuredEntry Int32)
    (hne : entry.measurements ≠ [])
    (hall : ∀ m ∈ entry.measurements, m ≠ [] ∧ (Server.measurementMessage
      (.descriptors Int32 0) entry.uid entry.dataType m).toOption.any
        (fun r => DataFits r) = true) :
    Unhindered (.descriptors Int32 0) [entry] ⟨1, 20⟩ (mockStart d entry.uid) where
  own := ⟨Nat.zero_lt_one, fun _ h => absurd h List.not_mem_nil⟩
  unopened := rfl
  posted := rfl
  delivered := rfl
  entered i w hw _ := absurd hw (by simp [mockStart, SSCMockingServer.new])
  processes := rfl
  inbox m hm := absurd hm List.not_mem_nil
  client := rfl
  available := rfl
  streamType := Or.inr ⟨rfl, show GFloat.le (5 : Int32) GFloat.zero = false by decide⟩
  running := rfl
  idle := rfl
  acked := rfl
  exited := rfl
  waiting := rfl
  gone := List.not_mem_nil
  unused := rfl
  measurements :=
    (sendable_of_forall (List.find?_cons_of_pos (decide_eq_true rfl)) hne hall).1
  fits :=
    (sendable_of_forall (List.find?_cons_of_pos (decide_eq_true rfl)) hne hall).2

/-- A measurement with values under `key`. -/
def listMeasurement (key : String) (values : List Int32) : Measurement Int32 :=
  [("id", .int 1025), (key, .list values), ("accuracy", .int 3)]

def lightEntry : MeasuredEntry Int32 where
  dataType := "ambient_light"
  uid := ⟨4, 4⟩
  attributes := []
  measurements := [[5, 42], [7, 50], [1, 30], [0, 10], [-5, -42]].map
    (listMeasurement "intensity")

theorem unhindered_light : Unhindered (.descriptors Int32 0) [lightEntry] ⟨1, 20⟩
    (mockStart light.toDriver lightEntry.uid) :=
  unhindered_mockStart _ _ (by decide) (by decide +kernel)

theorem streamedEntry_light : StreamedEntry lightEntry :=
  streamedEntry_of_forall (by decide)

theorem taken_eq_converted_light : ∃ bs x,
    exec (act light.toDriver (.descriptors Int32) (.descriptors Int32 0) [lightEntry]
        ⟨1, 20⟩) (mockStart light.toDriver lightEntry.uid) (.user .sensorOpen :: bs) =
          some x ∧
      x.world.measurements ++ x.world.idle = [5, 7, 1] := by
  obtain ⟨bs, x, s, ms, hrun, hgoing, -, hlength, -⟩ := exists_reacted
    lightSource.toSource (measurementLossless_descriptors 0) rfl rfl
    streamedEntry_light unhindered_light (fun k => by simp [lightSource.after_eq]) 3
  obtain ⟨k, -, hk, hall⟩ := taken_eq_converted lightSource
    (measurementLossless_descriptors 0) rfl rfl streamedEntry_light
    unhindered_light.toReady
    (fun b hb => ⟨(hgoing b hb).1.open_ne, (hgoing b hb).1.call_ne⟩) hrun
  obtain rfl : k = 3 := (hall fun hb => (hgoing _ hb).2 rfl).trans hlength
  exact ⟨bs, x, hrun, hk.trans (by decide)⟩

def proximityMeasurement (near distance accuracy : Int) : Measurement Int32 :=
  [("id", .int 769), ("near", .int near), ("distance", .int distance),
    ("accuracy", .int accuracy)]

def proximityEntry : MeasuredEntry Int32 where
  dataType := "proximity"
  uid := ⟨1, 1⟩
  attributes := []
  measurements := [proximityMeasurement 0 10 3, proximityMeasurement 1 1 3,
    proximityMeasurement 0 17 3, proximityMeasurement 0 17 3,
    proximityMeasurement 1 0 3, proximityMeasurement 1 0 3,
    proximityMeasurement 1 0 3, proximityMeasurement 0 20 2,
    proximityMeasurement 0 20 1, proximityMeasurement 0 30 0,
    proximityMeasurement 1 1 3, proximityMeasurement 0 15 3]

theorem streamedEntry_proximity : StreamedEntry proximityEntry :=
  streamedEntry_of_forall (by decide)

theorem unhindered_proximity : Unhindered (.descriptors Int32 0) [proximityEntry]
    ⟨1, 20⟩ (mockStart proximity proximityEntry.uid) :=
  unhindered_mockStart _ _ (by decide) (by decide +kernel)

theorem nearOrFar_proximity :
    ∀ m ∈ proximityEntry.measurements, ∀ v, toldValue m = some v → NearOrFar v := by
  have hall : ∀ m ∈ proximityEntry.measurements,
      ∃ near : Bool, toldValue m = some (if near then 1 else 0) := by
    decide
  intro m hm v hv
  obtain ⟨near, hnear⟩ := hall m hm
  obtain rfl := Option.some.inj (hnear.symm.trans hv)
  cases near with
  | false => exact Or.inr rfl
  | true => exact Or.inl rfl

theorem taken_eq_destuttered_proximity : ∃ bs x,
    exec (act proximity (.descriptors Int32) (.descriptors Int32 0) [proximityEntry]
        ⟨1, 20⟩) (mockStart proximity proximityEntry.uid) (.user .sensorOpen :: bs) =
          some x ∧
      x.world.aborted = false ∧
      x.world.measurements ++ x.world.idle = [false, true, false, true] := by
  obtain ⟨bs, x, s, ms, hrun, hgoing, -, hlength, -⟩ := exists_reacted
    proximitySource (measurementLossless_descriptors 0) rfl rfl
    streamedEntry_proximity unhindered_proximity
    (proximity_after_ne_none _ rfl nearOrFar_proximity) 6
  obtain ⟨k, -, haborted, hk, hall⟩ := taken_eq_destuttered
    (measurementLossless_descriptors 0) rfl rfl streamedEntry_proximity
    unhindered_proximity.toReady (fun b hb => ⟨(hgoing b hb).1.open_ne,
      (hgoing b hb).1.call_ne, fun hb' => by
        have hid := (hgoing b hb).1.newFinish hb' ⟨false, false⟩
        exact absurd hid (by decide)⟩) hrun
  obtain rfl : k = 6 := (hall fun hb => (hgoing _ hb).2 rfl).trans hlength
  have hsafe := haborted.mpr (by unfold NearOrFar; decide)
  exact ⟨bs, x, hrun, hsafe, (hk hsafe).trans (by decide)⟩

end EndToEnd

end Libssc

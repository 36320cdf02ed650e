import Libssc.Library.Run
import Libssc.Workers

/-!
# The measurements in turn

A process of the mocking server asks for measurement 0, 1, 2 and so on of its
sensor, without end. The index is wrapped within the search for the sensor's
entry, whose variables are read after it: the data type and the measurement are
those of the entry that has ended the search (`search`).

A sensor with measurements gets them in turn. Without an entry nothing has been
assigned to `measurement`, which is not the exception that the documentation
names; and with an entry that lists no measurement the index is never in range.
-/

namespace Libssc

open Library

variable {F : Type}

namespace Server

/-! ## The search -/

/-- The variables of the search. There is no `measurement` before an entry has
been found. -/
structure Search (F : Type) where
  dataType : String
  index : ℕ
  measurement : Option (Measurement F)
deriving DecidableEq, Repr

/-- The loop over the entries, with its variables. -/
def search (fuel : ℕ) (uid : SscUid) : List (MeasuredEntry F) → Search F →
    Option (Except MeasurementError (Search F))
  | [], vars => some (.ok vars)
  | entry :: data, vars =>
      let vars := { vars with dataType := entry.dataType }
      if entry.uid = uid then
        (wrapIndex entry.measurements.length fuel vars.index).map (fun index =>
          match entry.measurements[index]? with
          | none => .error .indexError
          | some m => .ok { vars with index := index, measurement := some m })
      else search fuel uid data vars

/-- What is done with the variables after the loop, before the packing. -/
def afterSearch (vars : Search F) :
    Except MeasurementError (String × Measurement F) :=
  match vars.measurement with
  | none => .error (.unboundLocalError "measurement")
  | some [] =>
      .error (.notImplementedError
        "Unable to match sensor \x7buid_high\x7d,\x7buid_low\x7d with measurements")
  | some (item :: items) => .ok (vars.dataType, item :: items)

/-- The variables before the loop. -/
def Search.start (index : ℕ) : Search F where
  dataType := ""
  index := index
  measurement := none

/-- The variables that the loop leaves behind are those of the first entry with
the UID, also after entries with other data types. -/
theorem search_of_find {data : List (MeasuredEntry F)} {uid : SscUid}
    {entry : MeasuredEntry F}
    (hfind : data.find? (fun entry => entry.uid = uid) = some entry)
    (fuel : ℕ) (vars : Search F) :
    search fuel uid data vars =
      (wrapIndex entry.measurements.length fuel vars.index).map (fun index =>
        match entry.measurements[index]? with
        | none => .error .indexError
        | some m => .ok
            { dataType := entry.dataType
              index := index
              measurement := some m }) := by
  induction data generalizing vars with
  | nil => exact absurd hfind (by simp)
  | cons head data ih =>
      unfold search
      by_cases huid : head.uid = uid
      · rw [List.find?_cons_of_pos (by simpa using huid)] at hfind
        obtain rfl := Option.some.inj hfind
        simp only [huid, if_true]
      · rw [List.find?_cons_of_neg (by simpa using huid)] at hfind
        simp only [huid, if_false]
        exact ih hfind _

theorem search_of_none {data : List (MeasuredEntry F)} {uid : SscUid}
    (hfind : data.find? (fun entry => entry.uid = uid) = none)
    (fuel : ℕ) (vars : Search F) : ∃ dataType,
      search fuel uid data vars = some (.ok { vars with dataType := dataType }) := by
  induction data generalizing vars with
  | nil => exact ⟨vars.dataType, rfl⟩
  | cons head data ih =>
      unfold search
      by_cases huid : head.uid = uid
      · rw [List.find?_cons_of_pos (by simpa using huid)] at hfind
        exact absurd hfind (by simp)
      · rw [List.find?_cons_of_neg (by simpa using huid)] at hfind
        simp only [huid, if_false]
        exact ih hfind _

/-- What `selectMeasurement` comes to is what the loop leaves behind. -/
theorem selectMeasurement_eq_search (fuel : ℕ) (data : List (MeasuredEntry F))
    (uid : SscUid) (index : ℕ) : selectMeasurement fuel data uid index =
      (search fuel uid data (.start index)).map (fun found =>
        found.bind afterSearch) := by
  unfold selectMeasurement
  cases hfind : data.find? (fun entry => entry.uid = uid) with
  | none =>
      obtain ⟨dataType, hsearch⟩ := search_of_none hfind fuel (.start index)
      rw [hsearch]
      rfl
  | some entry =>
      rw [search_of_find hfind, Option.map_map]
      apply congrArg (fun f => Option.map f _)
      ext index
      simp only [Function.comp_apply]
      cases entry.measurements[index]? with
      | none => rfl
      | some m => cases m <;> rfl

/-! ## What is selected -/

section Selection

variable {wire : MeasurementWire F} {data : List (MeasuredEntry F)}
  {uid : SscUid} {entry : MeasuredEntry F}

/-- The search ends with the measurement that has the index modulo the number
of measurements. -/
theorem search_of_ne_nil
    (hfind : data.find? (fun entry => entry.uid = uid) = some entry)
    (hne : entry.measurements ≠ []) (index : ℕ) :
    ∃ m, entry.measurements[index % entry.measurements.length]? = some m ∧
      ∀ fuel, index < fuel → search fuel uid data (.start index) = some (.ok
        { dataType := entry.dataType
          index := index % entry.measurements.length
          measurement := some m }) := by
  have hlen : 0 < entry.measurements.length := List.length_pos_iff.mpr hne
  have hlt : index % entry.measurements.length < entry.measurements.length :=
    Nat.mod_lt _ hlen
  refine ⟨_, List.getElem?_eq_getElem hlt, ?_⟩
  intro fuel hfuel
  rw [search_of_find hfind]
  simp only [Search.start, wrapIndex_eq_mod hlen hfuel, Option.map_some,
    List.getElem?_eq_getElem hlt]

theorem generate_of_none
    (hfind : data.find? (fun entry => entry.uid = uid) = none) (fuel index : ℕ) :
    generateProtobufSensorMeasurement wire fuel data uid index =
      some (.error (.unboundLocalError "measurement")) := by
  unfold generateProtobufSensorMeasurement selectMeasurement
  rw [hfind]
  rfl

theorem generate_of_empty
    (hfind : data.find? (fun entry => entry.uid = uid) = some entry)
    (hempty : entry.measurements = []) (fuel index : ℕ) :
    generateProtobufSensorMeasurement wire fuel data uid index = none := by
  unfold generateProtobufSensorMeasurement selectMeasurement
  rw [hfind]
  simp only [hempty, List.length_nil, wrapIndex_zero, Option.map_none]

theorem generate_of_ne_nil
    (hfind : data.find? (fun entry => entry.uid = uid) = some entry)
    (hne : entry.measurements ≠ []) (index : ℕ) :
    ∃ m, entry.measurements[index % entry.measurements.length]? = some m ∧
      ∀ fuel, index < fuel →
        generateProtobufSensorMeasurement wire fuel data uid index =
          some ((afterSearch
            { dataType := entry.dataType
              index := index % entry.measurements.length
              measurement := some m }).bind
            (fun m => measurementMessage wire uid m.1 m.2)) := by
  obtain ⟨m, hm, hsearch⟩ := search_of_ne_nil hfind hne index
  refine ⟨m, hm, ?_⟩
  intro fuel hfuel
  unfold generateProtobufSensorMeasurement
  rw [selectMeasurement_eq_search, hsearch fuel hfuel]
  rfl

/-- The documented behaviour of `generate_protobuf_sensor_measurement`: it
terminates, it selects measurements in turn, and it raises
`NotImplementedError` where there is none. -/
structure Selects (wire : MeasurementWire F) (data : List (MeasuredEntry F))
    (uid : SscUid) (index : ℕ) : Prop where
  terminates : ∃ fuel,
    (generateProtobufSensorMeasurement wire fuel data uid index).isSome = true
  selects : ∀ entry,
    data.find? (fun entry => entry.uid = uid) = some entry →
    entry.measurements ≠ [] → (∀ m ∈ entry.measurements, m ≠ []) →
    ∃ m, entry.measurements[index % entry.measurements.length]? = some m ∧
      ∀ fuel, index < fuel →
        search fuel uid data (.start index) = some (.ok
          { dataType := entry.dataType
            index := index % entry.measurements.length
            measurement := some m }) ∧
        generateProtobufSensorMeasurement wire fuel data uid index =
          some (measurementMessage wire uid entry.dataType m)
  raises : (∀ entry, data.find? (fun entry => entry.uid = uid) = some entry →
      entry.measurements = []) →
    ∃ fuel message, generateProtobufSensorMeasurement wire fuel data uid index =
      some (.error (.notImplementedError message))

/-- The sensor has an entry, and its first one lists measurements. -/
def Listed (data : List (MeasuredEntry F)) (uid : SscUid) : Prop :=
  ∃ entry, data.find? (fun entry => entry.uid = uid) = some entry ∧
    entry.measurements ≠ []

theorem selects_of_listed (h : Listed data uid) (index : ℕ) :
    Selects wire data uid index := by
  obtain ⟨entry, hfind, hne⟩ := h
  obtain ⟨m, hm, hsearch⟩ := search_of_ne_nil hfind hne index
  obtain ⟨m', hm', hgen⟩ := generate_of_ne_nil hfind hne index
  obtain rfl : m = m' := Option.some.inj (hm.symm.trans hm')
  constructor
  · refine ⟨index + 1, ?_⟩
    rw [hgen (index + 1) (Nat.lt_succ_self index)]
    rfl
  · intro entry' hfind' _ hfull
    obtain rfl : entry = entry' := Option.some.inj (hfind.symm.trans hfind')
    refine ⟨m, hm, ?_⟩
    intro fuel hfuel
    refine ⟨hsearch fuel hfuel, ?_⟩
    rw [hgen fuel hfuel]
    cases m with
    | nil => exact absurd rfl (hfull [] (List.mem_of_getElem? hm))
    | cons item items => rfl
  · intro hnone
    exact absurd (hnone entry hfind) hne

/-- Without measurements the exception is another one, or there is none. -/
theorem listed_of_selects {index : ℕ} (h : Selects wire data uid index) :
    Listed data uid := by
  by_contra hnot
  have hnone : ∀ entry, data.find? (fun entry => entry.uid = uid) = some entry →
      entry.measurements = [] := by
    intro entry hfind
    by_contra hne
    exact hnot ⟨entry, hfind, hne⟩
  obtain ⟨fuel, message, hraise⟩ := h.raises hnone
  cases hfind : data.find? (fun entry => entry.uid = uid) with
  | none =>
      rw [generate_of_none hfind] at hraise
      exact absurd hraise (by simp)
  | some entry =>
      rw [generate_of_empty hfind (hnone entry hfind)] at hraise
      exact absurd hraise (by simp)

/-- `buf` is the message for index `j`: measurement `j`, counted round and
round. -/
def InTurn (wire : MeasurementWire F) (data : List (MeasuredEntry F))
    (uid : SscUid) (j : ℕ) (buf : GArray) : Prop :=
  ∃ entry m, data.find? (fun entry => entry.uid = uid) = some entry ∧
    entry.measurements[j % entry.measurements.length]? = some m ∧
    measurementMessage wire uid entry.dataType m = .ok buf

theorem inTurn_of_generate {fuel index : ℕ} {buf : GArray} (hfuel : index < fuel)
    (h : generateProtobufSensorMeasurement wire fuel data uid index =
      some (.ok buf)) : InTurn wire data uid index buf := by
  cases hfind : data.find? (fun entry => entry.uid = uid) with
  | none =>
      rw [generate_of_none hfind] at h
      exact absurd h (by simp)
  | some entry =>
      by_cases hne : entry.measurements = []
      · rw [generate_of_empty hfind hne] at h
        exact absurd h (by simp)
      · obtain ⟨m, hm, hgen⟩ := generate_of_ne_nil hfind hne index
        rw [hgen fuel hfuel] at h
        cases m with
        | nil => exact absurd h (by simp [afterSearch, Except.bind])
        | cons item items =>
            exact ⟨entry, item :: items, hfind, hm, Option.some.inj h⟩

/-- Only the wrapping of the index can keep it from returning. -/
theorem empty_of_generate {fuel index : ℕ} (hfuel : index < fuel)
    (h : generateProtobufSensorMeasurement wire fuel data uid index = none) :
    ∃ entry, data.find? (fun entry => entry.uid = uid) = some entry ∧
      entry.measurements = [] := by
  cases hfind : data.find? (fun entry => entry.uid = uid) with
  | none =>
      rw [generate_of_none hfind] at h
      exact absurd h (by simp)
  | some entry =>
      refine ⟨entry, rfl, ?_⟩
      by_contra hne
      obtain ⟨m, -, hgen⟩ := generate_of_ne_nil hfind hne index
      rw [hgen fuel hfuel] at h
      exact absurd h (by simp)

end Selection

end Server

/-! ## The loop that sends them -/

namespace SSCMockingServer

variable {wire : MeasurementWire F} {data : List (MeasuredEntry F)}
  {s s' : SSCMockingServer}

/-- What process `i` sends in an action. -/
def measuredIn (wire : MeasurementWire F) (data : List (MeasuredEntry F)) (i : ℕ)
    (p : SSCMockingServer × Action) : List (QrtrAddress × Outgoing) :=
  if p.2 = .measure i then
    match p.1.act wire data p.2 with
    | none => []
    | some s => s.sent.drop p.1.sent.length
  else []

/-- What process `i` has sent in a run. -/
def measured (wire : MeasurementWire F) (data : List (MeasuredEntry F))
    (s : SSCMockingServer) (i : ℕ) (as : List Action) :
    List (QrtrAddress × Outgoing) :=
  (trace (act wire data) s as).flatMap (measuredIn wire data i)

/-- The loop of each process for the sensor keeps sending the measurements in
turn, one with every turn it gets, or ends. -/
def KeepsOrEnds (wire : MeasurementWire F) (data : List (MeasuredEntry F))
    (uid : SscUid) : Prop :=
  ∀ s i w as s', s.processes[i]? = some w → w.uid = uid → w.index = 0 →
    exec (act wire data) s as = some s' →
    (∀ j p, (measured wire data s i as)[j]? = some p →
      ∃ buf, Server.InTurn wire data uid j buf ∧
        p = (w.client, .reportLarge buf)) ∧
    ∃ w', s'.processes[i]? = some w' ∧ (w'.running = true →
      (measured wire data s i as).length = as.count (.measure i))

/-! ## What happens to a process -/

/-- Process `i` is as it was, or it has ended. -/
def Untouched (s : SSCMockingServer) (i : ℕ) (w : Worker) : Prop :=
  s.processes[i]? = some w ∨ s.processes[i]? = some { w with running := false }

theorem untouched_endProcess {i : ℕ} {w : Worker}
    (hw : s.processes[i]? = some w) (j : ℕ) : (s.endProcess j).Untouched i w := by
  by_cases hij : j = i
  · right
    exact getElem?_modify_eq_some.mpr ⟨w, hw, by rw [if_pos hij]⟩
  · left
    exact getElem?_modify_eq_some.mpr ⟨w, hw, by rw [if_neg hij]⟩

theorem untouched_replyMsg {wire : Wire F} {i : ℕ} {w : Worker}
    (hw : s.processes[i]? = some w) (c : QrtrAddress) (message : GArray) :
    (s.replyMsg wire data c message).Untouched i w := by
  unfold replyMsg
  cases Server.replyMsg wire (data.map MeasuredEntry.toEntry) message with
  | error _ => exact Or.inl hw
  | ok r =>
      cases r with
      | indication buf => exact Or.inl hw
      | enable uid =>
          cases hlookup : s.workers.lookup uid with
          | none =>
              simp only [hlookup]
              exact Or.inl (getElem?_startWorker.mpr (Or.inl hw))
          | some k =>
              simp only [hlookup]
              exact Or.inl hw
      | disable uid =>
          cases hlookup : s.workers.lookup uid with
          | none =>
              simp only [hlookup]
              exact Or.inl hw
          | some k =>
              simp only [hlookup]
              exact untouched_endProcess hw k
      | unsupported _ => exact Or.inl hw

theorem untouched_process {i : ℕ} {w : Worker} (hw : s.processes[i]? = some w)
    (h : s.process wire.toWire data = some s') : s'.Untouched i w := by
  obtain ⟨-, c, message, rest, -, ⟨-, rfl⟩ | ⟨-, rfl⟩⟩ := process_cases h
  · exact Or.inl hw
  · exact untouched_replyMsg (s := s.acknowledge c rest) hw c message

/-- A turn sends a measurement, ends the process, or never gets to the send. -/
theorem turn_cases (wire : MeasurementWire F) (data : List (MeasuredEntry F))
    (s : SSCMockingServer) (i : ℕ) (w : Worker) :
    (∃ buf, Server.InTurn wire data w.uid w.index buf ∧
      s.sensorMeasurement wire data i w =
        { s.sendto w.client (.reportLarge buf) with
          processes := s.processes.modify i
            (fun w => { w with index := w.index + 1 }) }) ∨
    s.sensorMeasurement wire data i w = s.endProcess i ∨
    s.sensorMeasurement wire data i w = s ∧
      ∃ entry, data.find? (fun entry => entry.uid = w.uid) = some entry ∧
        entry.measurements = [] := by
  unfold sensorMeasurement
  cases hgen : Server.generateProtobufSensorMeasurement wire (w.index + 1) data
      w.uid w.index with
  | none =>
      exact Or.inr (Or.inr ⟨rfl,
        Server.empty_of_generate (Nat.lt_succ_self _) hgen⟩)
  | some r =>
      cases r with
      | error e => exact Or.inr (Or.inl rfl)
      | ok buf =>
          by_cases hfits : DataFits buf
          · simp only [Server.reportLargeIndication_of_fits hfits]
            split_ifs with hc
            · exact Or.inr (Or.inl rfl)
            · exact Or.inl ⟨buf,
                Server.inTurn_of_generate (Nat.lt_succ_self _) hgen, rfl⟩
          · simp only [Server.reportLargeIndication_of_not_fits hfits]
            exact Or.inr (Or.inl trivial)

/-- The turn of one process is nothing to another. -/
theorem untouched_sensorMeasurement {i j : ℕ} {w v : Worker}
    (hw : s.processes[i]? = some w) (hij : j ≠ i) :
    (s.sensorMeasurement wire data j v).Untouched i w := by
  rcases turn_cases wire data s j v with
    ⟨buf, -, hs⟩ | hs | ⟨hs, -⟩
  · rw [hs]
    left
    exact getElem?_modify_eq_some.mpr ⟨w, hw, by rw [if_neg hij]⟩
  · rw [hs]
    exact untouched_endProcess hw j
  · rw [hs]
    exact Or.inl hw

theorem untouched_of_act {a : Action} {i : ℕ} {w : Worker}
    (hw : s.processes[i]? = some w) (ha : a ≠ .measure i)
    (h : s.act wire data a = some s') : s'.Untouched i w := by
  cases a with
  | request c message =>
      simp only [act] at h
      split_ifs at h with hc
      obtain rfl := Option.some.inj h
      exact Or.inl hw
  | disappear c =>
      obtain rfl := Option.some.inj h
      exact Or.inl hw
  | process => exact untouched_process hw h
  | measure j =>
      obtain ⟨v, -, -, rfl⟩ := turn_of_act h
      apply untouched_sensorMeasurement hw
      rintro rfl
      exact ha rfl

/-! ## What it has sent -/

theorem measured_snoc {i : ℕ} {as : List Action} {a : Action}
    {s₀ : SSCMockingServer} (h : exec (act wire data) s₀ as = some s) :
    measured wire data s₀ i (as ++ [a]) =
      measured wire data s₀ i as ++ measuredIn wire data i (s, a) := by
  unfold measured
  rw [trace_snoc h, List.flatMap_append, List.flatMap_singleton]

theorem measuredIn_of_ne {a : Action} {i : ℕ} (ha : a ≠ .measure i) :
    measuredIn wire data i (s, a) = [] :=
  if_neg ha

theorem measuredIn_measure {i : ℕ} (h : s.act wire data (.measure i) = some s') :
    measuredIn wire data i (s, .measure i) = s'.sent.drop s.sent.length := by
  unfold measuredIn
  rw [if_pos rfl]
  simp only [h]

/-- How far process `i`, which was `w` at the start, has got: its index is the
number of measurements it has sent, and these were in turn. -/
structure Progress (wire : MeasurementWire F) (data : List (MeasuredEntry F))
    (i : ℕ) (w : Worker) (turns : ℕ) (sent : List (QrtrAddress × Outgoing))
    (s : SSCMockingServer) : Prop where
  process : ∃ running,
    s.processes[i]? = some { w with index := sent.length, running := running } ∧
    (running = true → sent.length = turns)
  inTurn : ∀ j p, sent[j]? = some p →
    ∃ buf, Server.InTurn wire data w.uid j buf ∧ p = (w.client, .reportLarge buf)

theorem progress_untouched {i : ℕ} {w : Worker} {turns : ℕ}
    {sent : List (QrtrAddress × Outgoing)}
    (h : Progress wire data i w turns sent s)
    (hkept : ∀ v, s.processes[i]? = some v → s'.Untouched i v) :
    Progress wire data i w turns sent s' := by
  obtain ⟨running, hw, hturns⟩ := h.process
  refine ⟨?_, h.inTurn⟩
  rcases hkept _ hw with hsame | hend
  · exact ⟨running, hsame, hturns⟩
  · exact ⟨false, hend, fun hno => absurd hno (by simp)⟩

theorem progress_ended {i : ℕ} {w : Worker} {turns : ℕ}
    {sent : List (QrtrAddress × Outgoing)}
    (h : Progress wire data i w turns sent s) :
    Progress wire data i w (turns + 1) sent (s.endProcess i) := by
  obtain ⟨running, hw, -⟩ := h.process
  refine ⟨⟨false, ?_, fun hno => absurd hno (by simp)⟩, h.inTurn⟩
  exact getElem?_modify_eq_some.mpr ⟨_, hw, by rw [if_pos rfl]⟩

/-- A turn of the process, when the sensor's list is not empty. -/
theorem progress_turn {i : ℕ} {w : Worker} {turns : ℕ}
    {sent : List (QrtrAddress × Outgoing)}
    (hlisted : ∀ entry, data.find? (fun entry => entry.uid = w.uid) = some entry →
      entry.measurements ≠ [])
    (h : Progress wire data i w turns sent s)
    (hact : s.act wire data (.measure i) = some s') :
    Progress wire data i w (turns + 1)
      (sent ++ s'.sent.drop s.sent.length) s' := by
  obtain ⟨v, hv, hrunning, rfl⟩ := turn_of_act hact
  obtain ⟨running, hw, hturns⟩ := h.process
  obtain rfl := Option.some.inj (hv.symm.trans hw)
  obtain rfl : running = true := hrunning
  rcases turn_cases wire data s i
      { w with index := sent.length, running := true } with
    ⟨buf, hbuf, hs⟩ | hs | ⟨-, entry, hfind, hempty⟩
  · rw [hs]
    have hdrop : (s.sent ++ [(w.client, Outgoing.reportLarge buf)]).drop
        s.sent.length = [(w.client, .reportLarge buf)] := List.drop_left
    simp only [sendto, hdrop]
    refine ⟨⟨true, ?_, ?_⟩, ?_⟩
    · rw [List.length_append, List.length_singleton]
      exact getElem?_modify_eq_some.mpr ⟨_, hw, by rw [if_pos rfl]⟩
    · intro _
      rw [List.length_append, List.length_singleton, hturns rfl]
    · intro j p hp
      rcases Nat.lt_or_ge j sent.length with hlt | hge
      · rw [List.getElem?_append_left hlt] at hp
        exact h.inTurn j p hp
      · rw [List.getElem?_append_right hge] at hp
        obtain ⟨hj, rfl⟩ := List.getElem?_eq_some_iff.mp hp
        obtain rfl : j = sent.length := by
          rw [List.length_singleton] at hj
          omega
        exact ⟨buf, hbuf, by simp⟩
  · rw [hs]
    have hdrop : (s.endProcess i).sent.drop s.sent.length = [] := by
      simp [endProcess]
    rw [hdrop, List.append_nil]
    exact progress_ended h
  · exact absurd hempty (hlisted entry hfind)

theorem progress_act {i : ℕ} {w : Worker} {turns : ℕ}
    {sent : List (QrtrAddress × Outgoing)} {a : Action}
    (hlisted : ∀ entry, data.find? (fun entry => entry.uid = w.uid) = some entry →
      entry.measurements ≠ [])
    (h : Progress wire data i w turns sent s)
    (hact : s.act wire data a = some s') :
    Progress wire data i w (turns + if a = .measure i then 1 else 0)
      (sent ++ measuredIn wire data i (s, a)) s' := by
  by_cases ha : a = .measure i
  · subst ha
    rw [if_pos rfl, measuredIn_measure hact]
    exact progress_turn hlisted h hact
  · rw [if_neg ha, measuredIn_of_ne ha, List.append_nil]
    exact progress_untouched h fun v hv => untouched_of_act hv ha hact

theorem progress_run {i : ℕ} {w : Worker} {as : List Action}
    (hlisted : ∀ entry, data.find? (fun entry => entry.uid = w.uid) = some entry →
      entry.measurements ≠ [])
    (hw : s.processes[i]? = some w) (hindex : w.index = 0)
    (hrun : exec (act wire data) s as = some s') :
    Progress wire data i w (as.count (.measure i)) (measured wire data s i as)
      s' := by
  induction as using List.reverseRecOn generalizing s' with
  | nil =>
      obtain rfl : s = s' := by simpa using hrun
      refine ⟨⟨w.running, ?_, fun _ => rfl⟩, ?_⟩
      · rw [hw]
        simp [measured, ← hindex]
      · intro j p hp
        exact absurd hp (by simp [measured])
  | append_singleton as a ih =>
      obtain ⟨t, ht, hact⟩ := exec_snoc.mp hrun
      have hstep := progress_act hlisted (ih ht) hact
      rw [measured_snoc ht, List.count_append, List.count_singleton]
      simpa using hstep

/-- **The loop keeps sending the measurements in turn, or it ends, exactly when
the sensor's list is not empty**, whatever else the server does. -/
theorem keepsOrEnds_iff {uid : SscUid} : KeepsOrEnds wire data uid ↔
    ∀ entry, data.find? (fun entry => entry.uid = uid) = some entry →
      entry.measurements ≠ [] := by
  constructor
  · intro h entry hfind hempty
    -- a process for the sensor, and its first turn
    have hw : (new.startWorker uid ⟨0, 0⟩).processes[0]? =
        some { uid := uid, client := ⟨0, 0⟩, index := 0, running := true } := rfl
    have hgen : Server.generateProtobufSensorMeasurement wire 1 data uid 0 =
        none := Server.generate_of_empty hfind hempty 1 0
    have hact : (new.startWorker uid ⟨0, 0⟩).act wire data (.measure 0) =
        some (new.startWorker uid ⟨0, 0⟩) := by
      simp only [act, hw, if_true, sensorMeasurement, hgen]
    have hrun : exec (act wire data) (new.startWorker uid ⟨0, 0⟩) [.measure 0] =
        some (new.startWorker uid ⟨0, 0⟩) :=
      exec_cons.mpr ⟨_, hact, rfl⟩
    obtain ⟨-, w, hw', hlen⟩ := h _ 0 _ _ _ hw rfl rfl hrun
    obtain rfl := Option.some.inj (hw.symm.trans hw')
    have hsent : measured wire data (new.startWorker uid ⟨0, 0⟩) 0
        ([] ++ [.measure 0]) =
          [] ++ measuredIn wire data 0
            (new.startWorker uid ⟨0, 0⟩, .measure 0) := measured_snoc rfl
    rw [measuredIn_measure hact, List.drop_length] at hsent
    have hone := hlen rfl
    rw [List.nil_append] at hsent
    rw [hsent] at hone
    exact absurd hone (by decide)
  · intro hlisted s i w as s' hw huid hindex hrun
    subst huid
    have hprogress := progress_run hlisted hw hindex hrun
    refine ⟨hprogress.inTurn, ?_⟩
    obtain ⟨running, hw', hturns⟩ := hprogress.process
    exact ⟨_, hw', hturns⟩

/-- **Measurements are selected in turn, and the loop sends them in turn or ends,
exactly for a sensor whose first entry lists measurements**: without an entry
the exception is not `NotImplementedError`, and with an empty list the index is
wrapped for ever. -/
theorem cycles_iff_listed (wire : MeasurementWire F)
    (data : List (MeasuredEntry F)) (uid : SscUid) (index : ℕ) :
    Server.Selects wire data uid index ∧ KeepsOrEnds wire data uid ↔
      Server.Listed data uid := by
  constructor
  · rintro ⟨hselects, -⟩
    exact Server.listed_of_selects hselects
  · intro hlisted
    refine ⟨Server.selects_of_listed hlisted index, ?_⟩
    rw [keepsOrEnds_iff]
    intro entry hfind
    obtain ⟨entry', hfind', hne⟩ := hlisted
    obtain rfl := Option.some.inj (hfind'.symm.trans hfind)
    exact hne

/-! The registry sensor of the table has an empty list. -/

def registryTable : List (MeasuredEntry ℚ) :=
  [{ dataType := "proximity"
     uid := ⟨1, 1⟩
     attributes := []
     measurements :=
      [[("id", .int 769), ("near", .int 0), ("distance", .int 10),
        ("accuracy", .int 3)]] },
   { dataType := "registry"
     uid := ⟨8, 8⟩
     attributes := []
     measurements := [] }]

theorem cycling_broken_by_registry :
    ¬ Server.Selects (.ofRequests []) registryTable ⟨8, 8⟩ 0 ∧
      ¬ KeepsOrEnds (.ofRequests []) registryTable ⟨8, 8⟩ ∧
      ¬ Server.Selects (.ofRequests []) registryTable ⟨9, 9⟩ 0 := by
  refine ⟨?_, ?_, ?_⟩
  · intro hselects
    obtain ⟨entry, hfind, hne⟩ := Server.listed_of_selects hselects
    obtain rfl := Option.some.inj hfind
    exact hne rfl
  · intro hkeeps
    exact keepsOrEnds_iff.mp hkeeps _ rfl rfl
  · intro hselects
    obtain ⟨entry, hfind, -⟩ := Server.listed_of_selects hselects
    have hnone : registryTable.find? (fun entry => entry.uid = ⟨9, 9⟩) = none := by
      decide
    rw [hnone] at hfind
    exact absurd hfind (by simp)

end SSCMockingServer

end Libssc

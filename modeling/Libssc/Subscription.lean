import Libssc.Cycling
import Libssc.Streaming

/-!
# What one client is sent

A client that asks for one sensor only, as the drivers of the library do, and
enables and disables it any number of times. Whatever other clients do to the
server meanwhile, also with the same sensor, the processes that send to the client
come one after the other, and what it has been sent are, for each of them, the
first measurements of the sensor, in turn (`Subscribed`). Between them lie the
acknowledgements.
-/

namespace Libssc

open Library

variable {F : Type}

/-- The data of an indication. -/
def Outgoing.report : Outgoing → Option GArray
  | .controlOutput => none
  | .reportLarge data => some data

namespace SSCMockingServer

/-- All that a client has been sent. -/
def sentTo (c : QrtrAddress) (s : SSCMockingServer) : List Outgoing :=
  (s.sent.filter (fun p => p.1 = c)).map Prod.snd

/-- The data that a client has been sent. -/
def reportsTo (c : QrtrAddress) (s : SSCMockingServer) : List GArray :=
  (s.sentTo c).filterMap Outgoing.report

/-- The processes that have been started for a client, oldest first. -/
def processesOf (c : QrtrAddress) (s : SSCMockingServer) : List Worker :=
  s.processes.filter (fun w => w.client = c)

/-- The request enables a sensor. -/
def enables (wire : Wire F) (message : GArray) : Bool :=
  (switches wire message).any Prod.snd

/-- How many of the requests are the client's and enable a sensor. -/
def enabling (wire : Wire F) (c : QrtrAddress) (l : List (QrtrAddress × GArray)) :
    ℕ :=
  l.countP (fun q => decide (q.1 = c) && enables wire q.2)

/-- The first measurements of sensor `u`, in turn. -/
def Session (wire : MeasurementWire F) (data : List (MeasuredEntry F))
    (u : SscUid) (l : List GArray) : Prop :=
  ∀ j buf, l[j]? = some buf → Server.InTurn wire data u j buf

/-- A process that runs is in the dictionary. -/
def Entered (s : SSCMockingServer) : Prop :=
  ∀ (i : ℕ) (w : Worker), s.processes[i]? = some w → w.running = true →
    s.workers.lookup w.uid = some i

/-- Of the processes of the client, none but the newest runs. -/
def Successive (c : QrtrAddress) (s : SSCMockingServer) : Prop :=
  ∀ (i j : ℕ) (w v : Worker), s.processes[i]? = some w → s.processes[j]? = some v →
    w.client = c → v.client = c → w.running = true → j ≤ i

/-- The data are, process by process, the first measurements of the sensor. -/
def InSessions (wire : MeasurementWire F) (data : List (MeasuredEntry F))
    (u : SscUid) (ws : List Worker) (reports : List GArray) : Prop :=
  ∃ sessions : List (List GArray), reports = sessions.flatten ∧
    sessions.map List.length = ws.map Worker.index ∧
    ∀ l ∈ sessions, Session wire data u l

/-- A client that had been sent `before`, and has since then sent requests about
sensor `u` only, of which `k` enable it. -/
structure Subscribed (wire : MeasurementWire F) (data : List (MeasuredEntry F))
    (c : QrtrAddress) (u : SscUid) (before : List GArray) (k : ℕ)
    (s : SSCMockingServer) : Prop where
  inbox : ∀ m, (c, m) ∈ s.inbox → ∃ b, switches wire.toWire m = some (u, b)
  uid : ∀ w ∈ s.processesOf c, w.uid = u
  entered : s.Entered
  successive : s.Successive c
  enabled : (s.processesOf c).length + enabling wire.toWire c s.inbox ≤ k
  sessions : ∃ l, s.reportsTo c = before ++ l ∧
    InSessions wire data u (s.processesOf c) l

variable {wire : MeasurementWire F} {data : List (MeasuredEntry F)}
  {s s' : SSCMockingServer} {c d : QrtrAddress} {u : SscUid}
  {before : List GArray} {k : ℕ}

/-! ## What is sent -/

theorem sentTo_sendto (m : Outgoing) :
    (s.sendto d m).sentTo c = s.sentTo c ++ if d = c then [m] else [] := by
  unfold sentTo sendto
  rw [List.filter_append, List.map_append]
  split_ifs with h <;> simp [h]

theorem reportsTo_sendto (m : Outgoing) : (s.sendto d m).reportsTo c =
    s.reportsTo c ++ if d = c then m.report.toList else [] := by
  unfold reportsTo
  rw [sentTo_sendto, List.filterMap_append]
  split_ifs
  · cases hm : m.report <;> simp [hm]
  · rfl

theorem reportsTo_congr (h : s'.sent = s.sent) : s'.reportsTo c = s.reportsTo c := by
  unfold reportsTo sentTo
  rw [h]

/-- An acknowledgement is no report. -/
theorem reportsTo_acknowledge (rest : List (QrtrAddress × GArray)) :
    (s.acknowledge d rest).reportsTo c = s.reportsTo c := by
  rw [acknowledge, reportsTo_sendto]
  simp [Outgoing.report, reportsTo, sentTo]

/-! ## The processes of the client -/

theorem mem_processesOf {w : Worker} : w ∈ s.processesOf c ↔
    ∃ i : ℕ, s.processes[i]? = some w ∧ w.client = c := by
  unfold processesOf
  rw [List.mem_filter, List.mem_iff_getElem?]
  simp

theorem processesOf_startWorker (uid : SscUid) :
    (s.startWorker uid d).processesOf c = s.processesOf c ++
      if d = c then [{ uid := uid, client := d, index := 0, running := true }]
      else [] := by
  unfold processesOf startWorker
  rw [List.filter_append]
  split_ifs with h <;> simp [h]

/-- A change of a process that stays the client's, or another one's. -/
theorem filter_modify {f : Worker → Worker} {l : List Worker} {i : ℕ} {w : Worker}
    (hw : l[i]? = some w) (hf : (f w).client = w.client) :
    (w.client ≠ c → (l.modify i f).filter (fun w => w.client = c) =
        l.filter (fun w => w.client = c)) ∧
      (w.client = c → ∃ l₁ l₂, l.filter (fun w => w.client = c) = l₁ ++ w :: l₂ ∧
        (l.modify i f).filter (fun w => w.client = c) = l₁ ++ f w :: l₂ ∧
        ∀ v ∈ l₂, ∃ j : ℕ, i < j ∧ l[j]? = some v ∧ v.client = c) := by
  obtain ⟨hi, rfl⟩ := List.getElem?_eq_some_iff.mp hw
  have hsplit : l = l.take i ++ l[i] :: l.drop (i + 1) := by
    rw [← List.drop_eq_getElem_cons hi, List.take_append_drop]
  rw [List.modify_eq_take_cons_drop hi]
  constructor
  · intro hc
    conv_rhs => rw [hsplit]
    rw [List.filter_append, List.filter_append,
      List.filter_cons_of_neg (by simpa [hf] using hc),
      List.filter_cons_of_neg (by simpa using hc)]
  · intro hc
    refine ⟨(l.take i).filter (fun w => w.client = c),
      (l.drop (i + 1)).filter (fun w => w.client = c), ?_, ?_, ?_⟩
    · conv_lhs => rw [hsplit]
      rw [List.filter_append, List.filter_cons_of_pos (by simp [hc])]
    · rw [List.filter_append, List.filter_cons_of_pos (by simp [hf, hc])]
    · intro v hv
      obtain ⟨hmem, hvc⟩ := List.mem_filter.mp hv
      obtain ⟨j, hj⟩ := List.mem_iff_getElem?.mp hmem
      rw [List.getElem?_drop] at hj
      exact ⟨i + 1 + j, by omega, hj, by simpa using hvc⟩

/-- To end a process is nothing to what it has sent. -/
theorem processesOf_endProcess (i : ℕ) :
    ((s.endProcess i).processesOf c).map Worker.index =
      (s.processesOf c).map Worker.index := by
  unfold processesOf endProcess
  cases hw : s.processes[i]? with
  | none =>
      rw [List.modify_eq_self (List.getElem?_eq_none_iff.mp hw)]
  | some w =>
      obtain ⟨hother, hself⟩ := filter_modify (c := c)
        (f := fun w => { w with running := false }) hw rfl
      by_cases hc : w.client = c
      · obtain ⟨l₁, l₂, hl, hl', -⟩ := hself hc
        rw [hl, hl']
        simp
      · rw [hother hc]

/-! ## The data of the sessions -/

theorem session_nil : Session wire data u [] := by
  intro j buf hj
  exact absurd hj (by simp)

/-- The measurement after the last one. -/
theorem session_snoc {l : List GArray} {buf : GArray} (h : Session wire data u l)
    (hbuf : Server.InTurn wire data u l.length buf) :
    Session wire data u (l ++ [buf]) := by
  intro j buf' hj
  rcases Nat.lt_or_ge j l.length with hlt | hge
  · rw [List.getElem?_append_left hlt] at hj
    exact h j buf' hj
  · rw [List.getElem?_append_right hge] at hj
    obtain ⟨hlast, rfl⟩ := List.getElem?_eq_some_iff.mp hj
    rw [List.length_singleton] at hlast
    obtain rfl : j = l.length := by omega
    simpa using hbuf

theorem inSessions_congr {ws ws' : List Worker} {l : List GArray}
    (h : InSessions wire data u ws l)
    (hindices : ws'.map Worker.index = ws.map Worker.index) :
    InSessions wire data u ws' l := by
  obtain ⟨sessions, hl, hlength, hsessions⟩ := h
  exact ⟨sessions, hl, hlength.trans hindices.symm, hsessions⟩

/-- A session begins with nothing. -/
theorem inSessions_start {ws : List Worker} {l : List GArray} {w : Worker}
    (h : InSessions wire data u ws l) (hw : w.index = 0) :
    InSessions wire data u (ws ++ [w]) l := by
  obtain ⟨sessions, rfl, hlength, hsessions⟩ := h
  refine ⟨sessions ++ [[]], by simp, by simp [hlength, hw], ?_⟩
  intro l hl
  rcases List.mem_append.mp hl with hold | hnew
  · exact hsessions l hold
  · obtain rfl := List.mem_singleton.mp hnew
    exact session_nil

/-- The last session goes on. -/
theorem inSessions_advance {ws : List Worker} {l : List GArray} {w w' : Worker}
    {buf : GArray} (h : InSessions wire data u (ws ++ [w]) l)
    (hbuf : Server.InTurn wire data u w.index buf) (hw' : w'.index = w.index + 1) :
    InSessions wire data u (ws ++ [w']) (l ++ [buf]) := by
  obtain ⟨sessions, rfl, hlength, hsessions⟩ := h
  rw [List.map_append, List.map_singleton] at hlength
  obtain ⟨init, rest, rfl, hinit, hrest⟩ := List.map_eq_append_iff.mp hlength
  obtain ⟨last, rfl, hlast⟩ := List.map_eq_singleton_iff.mp hrest
  refine ⟨init ++ [last ++ [buf]], by simp, by simp [hinit, hlast, hw'], ?_⟩
  intro l hl
  rcases List.mem_append.mp hl with hold | hnew
  · exact hsessions l (List.mem_append_left _ hold)
  · obtain rfl := List.mem_singleton.mp hnew
    apply session_snoc (hsessions last (by simp))
    rw [hlast]
    exact hbuf

/-! ## The dictionary and the processes -/

theorem entered_of_same (h : s.Entered) (hworkers : s'.workers = s.workers)
    (hprocesses : s'.processes = s.processes) : s'.Entered := by
  unfold Entered
  rw [hworkers, hprocesses]
  exact h

theorem entered_startWorker (h : s.Entered) {uid : SscUid}
    (huid : s.workers.lookup uid = none) : (s.startWorker uid d).Entered := by
  intro i w hw hrunning
  rcases getElem?_startWorker.mp hw with hold | ⟨rfl, rfl⟩
  · have hlookup := h i w hold hrunning
    have hne : w.uid ≠ uid := by
      intro heq
      rw [heq, huid] at hlookup
      exact absurd hlookup (by simp)
    simpa [startWorker, AList.lookup_insert_ne hne] using hlookup
  · simp [startWorker]

theorem entered_endProcess (h : s.Entered) (i : ℕ) : (s.endProcess i).Entered := by
  intro j v hv hrunning
  obtain ⟨w, hw, rfl⟩ := getElem?_modify_eq_some.mp hv
  by_cases hij : i = j
  · rw [if_pos hij] at hrunning
    exact absurd hrunning (by simp)
  · rw [if_neg hij] at hrunning ⊢
    exact h j w hw hrunning

theorem entered_stopWorker (h : s.Entered) {uid : SscUid} {i : ℕ}
    (huid : s.workers.lookup uid = some i) : (s.stopWorker uid i).Entered := by
  intro j v hv hrunning
  obtain ⟨w, hw, rfl⟩ := getElem?_modify_eq_some.mp hv
  by_cases hij : i = j
  · rw [if_pos hij] at hrunning
    exact absurd hrunning (by simp)
  · rw [if_neg hij] at hrunning ⊢
    have hlookup := h j w hw hrunning
    have hne : w.uid ≠ uid := by
      intro heq
      rw [heq, huid] at hlookup
      exact hij (Option.some.inj hlookup)
    simpa [stopWorker, AList.lookup_erase_ne hne] using hlookup

/-- The turn of a process changes its index only. -/
theorem entered_measured (h : s.Entered) (m : Outgoing) (i : ℕ) :
    ({ s.sendto d m with
      processes := s.processes.modify i (fun w => { w with index := w.index + 1 }) }
        : SSCMockingServer).Entered := by
  intro j v hv hrunning
  obtain ⟨w, hw, rfl⟩ := getElem?_modify_eq_some.mp hv
  by_cases hij : i = j
  · rw [if_pos hij] at hrunning ⊢
    exact h j w hw hrunning
  · rw [if_neg hij] at hrunning ⊢
    exact h j w hw hrunning

/-- Processes that were there, and of which none has begun to run. -/
theorem successive_of_processes (h : s.Successive c)
    (hprocesses : ∀ (i : ℕ) (v : Worker), s'.processes[i]? = some v → v.client = c →
      ∃ w, s.processes[i]? = some w ∧ w.client = c ∧
        (v.running = true → w.running = true)) :
    s'.Successive c := by
  intro i j v v' hv hv' hc hc' hrunning
  obtain ⟨w, hw, hwc, hkept⟩ := hprocesses i v hv hc
  obtain ⟨w', hw', hwc', -⟩ := hprocesses j v' hv' hc'
  exact h i j w w' hw hw' hwc hwc' (hkept hrunning)

/-! ## What keeps a subscription -/

/-- What the client has been sent is what its processes have sent still. -/
theorem subscribed_of_processes (h : Subscribed wire data c u before k s)
    (hinbox : ∀ m, (c, m) ∈ s'.inbox → (c, m) ∈ s.inbox)
    (henabled : enabling wire.toWire c s'.inbox ≤ enabling wire.toWire c s.inbox)
    (hreports : s'.reportsTo c = s.reportsTo c) (hentered : s'.Entered)
    (hprocesses : ∀ (i : ℕ) (v : Worker), s'.processes[i]? = some v → v.client = c →
      ∃ w, s.processes[i]? = some w ∧ w.client = c ∧ w.uid = v.uid ∧
        (v.running = true → w.running = true))
    (hindices : (s'.processesOf c).map Worker.index =
      (s.processesOf c).map Worker.index) :
    Subscribed wire data c u before k s' where
  inbox m hm := h.inbox m (hinbox m hm)
  uid := by
    intro v hv
    obtain ⟨i, hi, hc⟩ := mem_processesOf.mp hv
    obtain ⟨w, hw, hwc, huid, -⟩ := hprocesses i v hi hc
    exact huid.symm.trans (h.uid w (mem_processesOf.mpr ⟨i, hw, hwc⟩))
  entered := hentered
  successive := successive_of_processes h.successive fun i v hv hc => by
    obtain ⟨w, hw, hwc, -, hrunning⟩ := hprocesses i v hv hc
    exact ⟨w, hw, hwc, hrunning⟩
  enabled := by
    have hlength : (s'.processesOf c).length = (s.processesOf c).length := by
      simpa using congrArg List.length hindices
    have hle := h.enabled
    omega
  sessions := by
    obtain ⟨l, hl, hsessions⟩ := h.sessions
    exact ⟨l, hreports.trans hl, inSessions_congr hsessions hindices⟩

/-- Nothing has happened to the processes. -/
theorem subscribed_of_same (h : Subscribed wire data c u before k s)
    (hinbox : s'.inbox = s.inbox) (hworkers : s'.workers = s.workers)
    (hprocesses : s'.processes = s.processes)
    (hreports : s'.reportsTo c = s.reportsTo c) :
    Subscribed wire data c u before k s' := by
  apply subscribed_of_processes h
  · rw [hinbox]
    exact fun _ hm => hm
  · rw [hinbox]
  · exact hreports
  · exact entered_of_same h.entered hworkers hprocesses
  · rw [hprocesses]
    exact fun i v hv hc => ⟨v, hv, hc, rfl, id⟩
  · unfold processesOf
    rw [hprocesses]

/-- The first request is taken from the socket. -/
theorem subscribed_acknowledge (h : Subscribed wire data c u before k s)
    {message : GArray} {rest : List (QrtrAddress × GArray)}
    (hinbox : s.inbox = (d, message) :: rest) :
    Subscribed wire data c u before k (s.acknowledge d rest) := by
  apply subscribed_of_processes h
  · intro m hm
    rw [hinbox]
    exact List.mem_cons_of_mem _ hm
  · rw [hinbox, enabling, enabling, List.countP_cons]
    exact Nat.le_add_right _ _
  · exact reportsTo_acknowledge rest
  · exact entered_of_same h.entered rfl rfl
  · exact fun i v hv hc => ⟨v, hv, hc, rfl, id⟩
  · rfl

theorem subscribed_endProcess (h : Subscribed wire data c u before k s) (i : ℕ) :
    Subscribed wire data c u before k (s.endProcess i) := by
  apply subscribed_of_processes h
  · exact fun _ hm => hm
  · exact Nat.le_refl _
  · exact reportsTo_congr rfl
  · exact entered_endProcess h.entered i
  · intro j v hv hc
    obtain ⟨w, hw, rfl⟩ := getElem?_modify_eq_some.mp hv
    refine ⟨w, hw, ?_⟩
    split_ifs at hc ⊢
    · exact ⟨hc, rfl, fun hno => absurd hno (by simp)⟩
    · exact ⟨hc, rfl, id⟩
  · exact processesOf_endProcess i

theorem subscribed_stopWorker (h : Subscribed wire data c u before k s)
    {uid : SscUid} {i : ℕ} (huid : s.workers.lookup uid = some i) :
    Subscribed wire data c u before k (s.stopWorker uid i) := by
  have hend := subscribed_endProcess h i
  apply subscribed_of_processes hend
  · exact fun _ hm => hm
  · exact Nat.le_refl _
  · exact reportsTo_congr rfl
  · exact entered_stopWorker h.entered huid
  · exact fun j v hv hc => ⟨v, hv, hc, rfl, id⟩
  · rfl

/-- A process for another client. -/
theorem subscribed_startWorker_of_ne (h : Subscribed wire data c u before k s)
    (hd : d ≠ c) {uid : SscUid} (huid : s.workers.lookup uid = none) :
    Subscribed wire data c u before k (s.startWorker uid d) := by
  apply subscribed_of_processes h
  · exact fun _ hm => hm
  · exact Nat.le_refl _
  · exact reportsTo_congr rfl
  · exact entered_startWorker h.entered huid
  · intro j v hv hc
    rcases getElem?_startWorker.mp hv with hold | ⟨-, rfl⟩
    · exact ⟨v, hold, hc, rfl, id⟩
    · exact absurd hc hd
  · rw [processesOf_startWorker, if_neg hd, List.append_nil]

/-- A process for the client, when no other one of it runs. -/
theorem subscribed_startWorker (h : Subscribed wire data c u before k s)
    (hu : s.workers.lookup u = none)
    (hlt : (s.processesOf c).length + enabling wire.toWire c s.inbox < k) :
    Subscribed wire data c u before k (s.startWorker u c) where
  inbox := h.inbox
  uid := by
    intro w hw
    rw [processesOf_startWorker, if_pos rfl] at hw
    rcases List.mem_append.mp hw with hold | hnew
    · exact h.uid w hold
    · obtain rfl := List.mem_singleton.mp hnew
      rfl
  entered := entered_startWorker h.entered hu
  successive := by
    intro i j w v hw hv hwc hvc hrunning
    rcases getElem?_startWorker.mp hw with hold | ⟨rfl, -⟩
    · -- a process of the client that runs would have an entry
      have hlookup := h.entered i w hold hrunning
      rw [h.uid w (mem_processesOf.mpr ⟨i, hold, hwc⟩), hu] at hlookup
      exact absurd hlookup (by simp)
    · rcases getElem?_startWorker.mp hv with hold | ⟨rfl, -⟩
      · exact (List.getElem?_eq_some_iff.mp hold).1.le
      · exact Nat.le_refl _
  enabled := by
    rw [processesOf_startWorker, if_pos rfl, List.length_append, Nat.add_right_comm]
    exact hlt
  sessions := by
    obtain ⟨l, hl, hsessions⟩ := h.sessions
    refine ⟨l, (reportsTo_congr rfl).trans hl, ?_⟩
    rw [processesOf_startWorker, if_pos rfl]
    exact inSessions_start hsessions rfl

/-- The turn of a process. -/
theorem subscribed_measured (h : Subscribed wire data c u before k s) {i : ℕ}
    {w : Worker} (hw : s.processes[i]? = some w) (hrunning : w.running = true)
    {buf : GArray} (hbuf : Server.InTurn wire data w.uid w.index buf) :
    Subscribed wire data c u before k { s.sendto w.client (.reportLarge buf) with
      processes := s.processes.modify i
        (fun w => { w with index := w.index + 1 }) } := by
  have hreports : ∀ p, ({ s.sendto w.client (.reportLarge buf) with
      processes := p } : SSCMockingServer).reportsTo c =
        s.reportsTo c ++ if w.client = c then [buf] else [] :=
    fun _ => reportsTo_sendto _
  -- the processes are the same but for the index
  have hkept : ∀ (j : ℕ) (v : Worker), (s.processes.modify i
      (fun w => { w with index := w.index + 1 }))[j]? = some v →
      ∃ x, s.processes[j]? = some x ∧ x.client = v.client ∧ x.uid = v.uid ∧
        x.running = v.running := by
    intro j v hv
    obtain ⟨x, hx, rfl⟩ := getElem?_modify_eq_some.mp hv
    exact ⟨x, hx, by split_ifs <;> exact ⟨rfl, rfl, rfl⟩⟩
  obtain ⟨hother, hself⟩ := filter_modify (c := c)
    (f := fun w => { w with index := w.index + 1 }) hw rfl
  have hentered := entered_measured (d := w.client) h.entered (.reportLarge buf) i
  by_cases hc : w.client = c
  · simp only [if_pos hc] at hreports
    obtain ⟨l₁, l₂, hl, hl', hlater⟩ := hself hc
    -- no process of the client is newer
    obtain rfl : l₂ = [] := by
      apply List.eq_nil_iff_forall_not_mem.mpr
      intro v hv
      obtain ⟨j, hlt, hj, hvc⟩ := hlater v hv
      exact absurd (h.successive i j w v hw hj hc hvc hrunning) (Nat.not_le.mpr hlt)
    have huid : w.uid = u := h.uid w (mem_processesOf.mpr ⟨i, hw, hc⟩)
    constructor
    case inbox => exact h.inbox
    case uid =>
      intro v hv
      obtain ⟨j, hj, hvc⟩ := mem_processesOf.mp hv
      obtain ⟨x, hx, hxc, hxu, -⟩ := hkept j v hj
      exact hxu.symm.trans (h.uid x (mem_processesOf.mpr ⟨j, hx, hxc.trans hvc⟩))
    case entered => exact hentered
    case successive =>
      apply successive_of_processes h.successive
      intro j v hv hvc
      obtain ⟨x, hx, hxc, -, hxrun⟩ := hkept j v hv
      exact ⟨x, hx, hxc.trans hvc, fun hrun => hxrun.trans hrun⟩
    case enabled =>
      have hle := h.enabled
      unfold processesOf at hle ⊢
      rw [hl, List.length_append] at hle
      rw [hl', List.length_append]
      exact hle
    case sessions =>
      obtain ⟨l, hl₀, hsessions⟩ := h.sessions
      refine ⟨l ++ [buf], by rw [hreports, hl₀, List.append_assoc], ?_⟩
      unfold processesOf at hsessions ⊢
      rw [hl] at hsessions
      rw [hl']
      exact inSessions_advance hsessions (huid ▸ hbuf) rfl
  · simp only [if_neg hc, List.append_nil] at hreports
    apply subscribed_of_processes h
    · exact fun _ hm => hm
    · exact Nat.le_refl _
    · exact hreports _
    · exact hentered
    · intro j v hv hvc
      obtain ⟨x, hx, hxc, hxu, hxrun⟩ := hkept j v hv
      exact ⟨x, hx, hxc.trans hvc, hxu, fun hrun => hxrun.trans hrun⟩
    · unfold processesOf
      rw [hother hc]

/-! ## What a request leads to -/

/-- What becomes of a request of client `d` after its acknowledgement. -/
inductive Replied (d : QrtrAddress) (s : SSCMockingServer) :
    SSCMockingServer → Prop where
  | same : Replied d s s
  | exit : Replied d s { s with exited := true }
  | indication (buf : GArray) : Replied d s (s.sendto d (.reportLarge buf))
  | start {uid : SscUid} (huid : s.workers.lookup uid = none) :
      Replied d s (s.startWorker uid d)
  | stop {uid : SscUid} {i : ℕ} (huid : s.workers.lookup uid = some i) :
      Replied d s (s.stopWorker uid i)

theorem replied_replyMsg {wire : Wire F} (d : QrtrAddress) (message : GArray)
    (s : SSCMockingServer) : Replied d s (s.replyMsg wire data d message) := by
  unfold replyMsg
  cases Server.replyMsg wire (data.map MeasuredEntry.toEntry) message with
  | error e => exact .exit
  | ok r =>
      cases r with
      | indication buf => exact .indication buf
      | enable uid =>
          simp only
          cases huid : s.workers.lookup uid with
          | none => exact .start huid
          | some i => exact .same
      | disable uid =>
          simp only
          cases huid : s.workers.lookup uid with
          | none => exact .same
          | some i => exact .stop huid
      | unsupported messageId => exact .same

theorem enables_of_switches {wire : Wire F} {message : GArray} {b : Bool}
    (h : switches wire message = some (u, b)) : enables wire message = b := by
  unfold enables
  rw [h]
  rfl

/-- The client's own request, once it has been acknowledged. -/
theorem subscribed_replyMsg (h : Subscribed wire data c u before k s)
    {message : GArray} {b : Bool} (hm : switches wire.toWire message = some (u, b))
    (hlt : b = true →
      (s.processesOf c).length + enabling wire.toWire c s.inbox < k) :
    Subscribed wire data c u before k (s.replyMsg wire.toWire data c message) := by
  unfold replyMsg
  rw [replyMsg_of_switches hm]
  cases b with
  | false =>
      simp only [Bool.false_eq_true, if_false]
      cases hu : s.workers.lookup u with
      | none => exact h
      | some i => exact subscribed_stopWorker h hu
  | true =>
      simp only [if_true]
      cases hu : s.workers.lookup u with
      | none => exact subscribed_startWorker h hu (hlt rfl)
      | some i => exact h

/-- Another client's request, whatever it asks for. -/
theorem subscribed_replied (h : Subscribed wire data c u before k s) (hd : d ≠ c)
    (hreplied : Replied d s s') : Subscribed wire data c u before k s' := by
  cases hreplied with
  | same => exact h
  | exit => exact subscribed_of_same h rfl rfl rfl (reportsTo_congr rfl)
  | indication buf =>
      refine subscribed_of_same h rfl rfl rfl ?_
      rw [reportsTo_sendto, if_neg hd, List.append_nil]
  | start huid => exact subscribed_startWorker_of_ne h hd huid
  | stop huid => exact subscribed_stopWorker h huid

theorem subscribed_process (h : Subscribed wire data c u before k s)
    (hact : s.process wire.toWire data = some s') :
    Subscribed wire data c u before k s' := by
  obtain ⟨-, d, message, rest, hinbox, ⟨-, rfl⟩ | ⟨-, rfl⟩⟩ := process_cases hact
  · exact subscribed_of_same (subscribed_acknowledge h hinbox) rfl rfl rfl
      (reportsTo_acknowledge rest).symm
  have hacked := subscribed_acknowledge h hinbox
  by_cases hd : d = c
  · subst hd
    obtain ⟨b, hm⟩ := h.inbox message (by simp [hinbox])
    apply subscribed_replyMsg hacked hm
    rintro rfl
    -- it is counted among those that wait
    have hle := h.enabled
    rw [hinbox, enabling, List.countP_cons, enables_of_switches hm] at hle
    simp only [decide_true, Bool.and_true, if_true] at hle
    exact Nat.lt_of_succ_le hle
  · exact subscribed_replied hacked hd (replied_replyMsg d message _)

/-! ## The actions -/

/-- The request is about sensor `u`, if it is the client's. -/
def AsksFor (wire : Wire F) (c : QrtrAddress) (u : SscUid)
    (q : QrtrAddress × GArray) : Prop :=
  q.1 = c → ∃ b, switches wire q.2 = some (u, b)

/-- **No action of any client disturbs the subscription**, which goes on with the
requests of its own client. -/
theorem subscribed_step {a : Action} (h : Subscribed wire data c u before k s)
    (ha : ∀ q ∈ requestIn a, AsksFor wire.toWire c u q)
    (hact : s.act wire data a = some s') :
    Subscribed wire data c u before
      (k + enabling wire.toWire c (requestIn a).toList) s' := by
  cases a with
  | request d message =>
      simp only [act] at hact
      split_ifs at hact with hd
      obtain rfl := Option.some.inj hact
      refine ⟨?_, h.uid, h.entered, h.successive, ?_, h.sessions⟩
      · intro m hm
        rcases List.mem_append.mp hm with hold | hnew
        · exact h.inbox m hold
        · obtain ⟨rfl, rfl⟩ := Prod.mk.inj (List.mem_singleton.mp hnew)
          exact ha _ rfl rfl
      · have hle := h.enabled
        show (s.processesOf c).length +
          enabling wire.toWire c (s.inbox ++ [(d, message)]) ≤ _
        unfold enabling at hle ⊢
        rw [List.countP_append, ← Nat.add_assoc]
        exact Nat.add_le_add_right hle _
  | disappear d =>
      obtain rfl := Option.some.inj hact
      exact subscribed_of_same h rfl rfl rfl (reportsTo_congr rfl)
  | process => exact subscribed_process h hact
  | measure i =>
      obtain ⟨w, hw, hrunning, rfl⟩ := turn_of_act hact
      rcases turn_cases wire data s i w with ⟨buf, hbuf, hs⟩ | hs | ⟨hs, -⟩
      · rw [hs]
        exact subscribed_measured h hw hrunning hbuf
      · rw [hs]
        exact subscribed_endProcess h i
      · rw [hs]
        exact h

/-! ## Over a run -/

theorem subscribed_new : Subscribed wire data c u [] 0 new where
  inbox m hm := absurd hm List.not_mem_nil
  uid w hw := absurd hw List.not_mem_nil
  entered i w hw _ := absurd hw (by simp [new])
  successive i j w v hw _ _ _ _ := absurd hw (by simp [new])
  enabled := Nat.le_refl 0
  sessions := ⟨[], rfl, [], rfl, rfl, fun l hl => absurd hl List.not_mem_nil⟩

/-- A client of which nothing waits and no process has been started. -/
theorem subscribed_start (hentered : s.Entered) (hprocesses : s.processesOf c = [])
    (hinbox : ∀ m, (c, m) ∉ s.inbox) :
    Subscribed wire data c u (s.reportsTo c) 0 s where
  inbox m hm := absurd hm (hinbox m)
  uid w hw := by
    rw [hprocesses] at hw
    exact absurd hw List.not_mem_nil
  entered := hentered
  successive i j w v hw _ hwc _ _ := by
    have hmem := mem_processesOf.mpr ⟨i, hw, hwc⟩
    rw [hprocesses] at hmem
    exact absurd hmem List.not_mem_nil
  enabled := by
    rw [hprocesses, List.length_nil, Nat.zero_add, Nat.le_zero, enabling,
      List.countP_eq_zero]
    rintro ⟨d, m⟩ hm
    have hd : d ≠ c := by
      rintro rfl
      exact hinbox m hm
    simp [hd]
  sessions := ⟨[], (List.append_nil _).symm, [], rfl, by rw [hprocesses]; rfl,
    fun l hl => absurd hl List.not_mem_nil⟩

/-- In a run from any server that the client has a subscription with. -/
theorem subscribed_run {as : List Action} (h : Subscribed wire data c u before k s)
    (hasks : ∀ q ∈ requests as, AsksFor wire.toWire c u q)
    (hrun : exec (act wire data) s as = some s') :
    Subscribed wire data c u before
      (k + enabling wire.toWire c (requests as)) s' := by
  induction as using List.reverseRecOn generalizing s' with
  | nil =>
      obtain rfl : s = s' := by simpa using hrun
      exact h
  | append_singleton as a ih =>
      obtain ⟨t, ht, hact⟩ := exec_snoc.mp hrun
      rw [requests_snoc] at hasks ⊢
      have hbefore := ih (fun q hq => hasks q (List.mem_append_left _ hq)) ht
      have hstep := subscribed_step hbefore
        (fun q hq => hasks q (List.mem_append_right _ (by simpa using hq))) hact
      unfold enabling at hstep ⊢
      rw [List.countP_append, ← Nat.add_assoc]
      exact hstep

/-- A client that has enabled the sensor at most once has one session. -/
theorem Subscribed.session (h : Subscribed wire data c u before k s) (hk : k ≤ 1) :
    ∃ l, s.reportsTo c = before ++ l ∧ Session wire data u l := by
  obtain ⟨l, hl, sessions, rfl, hlength, hsessions⟩ := h.sessions
  refine ⟨_, hl, ?_⟩
  have hone : sessions.length ≤ 1 := by
    have hsame := congrArg List.length hlength
    rw [List.length_map, List.length_map] at hsame
    rw [hsame]
    exact (Nat.le_add_right _ _).trans (h.enabled.trans hk)
  match sessions, hone with
  | [], _ => exact session_nil
  | [session], _ => simpa using hsessions session (List.mem_singleton_self _)

/-- What has been sent stays sent. -/
theorem sentTo_prefix {a : Action} (hact : s.act wire data a = some s') :
    s.sentTo c <+: s'.sentTo c := by
  have hsame : ∀ {t t' : SSCMockingServer}, t'.sent = t.sent →
      t.sentTo c <+: t'.sentTo c := by
    intro t t' ht
    unfold sentTo
    rw [ht]
  have hsendto : ∀ (t : SSCMockingServer) (d : QrtrAddress) (m : Outgoing),
      t.sentTo c <+: (t.sendto d m).sentTo c := by
    intro t d m
    rw [sentTo_sendto]
    exact List.prefix_append _ _
  cases a with
  | request d message =>
      simp only [act] at hact
      split_ifs at hact
      obtain rfl := Option.some.inj hact
      exact hsame rfl
  | disappear d =>
      obtain rfl := Option.some.inj hact
      exact hsame rfl
  | process =>
      obtain ⟨-, d, message, rest, -, ⟨-, rfl⟩ | ⟨-, rfl⟩⟩ := process_cases hact
      · exact hsame rfl
      · have hack : s.sentTo c <+: (s.acknowledge d rest).sentTo c :=
          hsendto { s with inbox := rest } d .controlOutput
        have hreplied : ∀ {t t' : SSCMockingServer}, Replied d t t' →
            t.sentTo c <+: t'.sentTo c := by
          intro t t' ht
          cases ht with
          | indication buf => exact hsendto t d (.reportLarge buf)
          | _ => exact hsame rfl
        exact hack.trans (hreplied (replied_replyMsg d message _))
  | measure i =>
      obtain ⟨w, -, -, rfl⟩ := turn_of_act hact
      rcases turn_cases wire data s i w with ⟨buf, -, hs⟩ | hs | ⟨hs, -⟩
      · rw [hs]
        exact hsendto s w.client (.reportLarge buf)
      · rw [hs]
        exact hsame rfl
      · rw [hs]

/-- **A client that asks for one sensor only is sent sessions of it**, whatever
else the server does for others, and whoever else enables or disables the sensor:
for each process that has been started for the client, the first measurements of
the sensor in turn. No process is started while an older one runs, and there are
no more of them than the client has sent requests that enable the sensor. -/
theorem inSessions_reports {as : List Action}
    (hrun : exec (act wire data) new as = some s)
    (hasks : ∀ m, (c, m) ∈ requests as →
      ∃ b, switches wire.toWire m = some (u, b)) :
    InSessions wire data u (s.processesOf c) (s.reportsTo c) ∧ s.Successive c ∧
      (s.processesOf c).length ≤ enabling wire.toWire c (requests as) := by
  have hstart : Subscribed wire data c u [] 0 new := subscribed_new
  have hsubscribed := subscribed_run hstart (by
    rintro ⟨d, m⟩ hm rfl
    exact hasks m hm) hrun
  rw [Nat.zero_add] at hsubscribed
  obtain ⟨l, hl, hsessions⟩ := hsubscribed.sessions
  rw [List.nil_append] at hl
  rw [hl]
  exact ⟨hsessions, hsubscribed.successive,
    (Nat.le_add_right _ _).trans hsubscribed.enabled⟩

/-! The first client enables the proximity sensor, loses it to a second one, and
enables it again. -/

def enabledAgain : List Action :=
  secondDisables ++ [.request ⟨1, 20⟩ [1], .process, .measure 1, .measure 1]

def afterEnabledAgain : SSCMockingServer :=
  (exec (act switchWire proximityTable) new enabledAgain).get (by decide)

example : (afterEnabledAgain.processesOf ⟨1, 20⟩).map Worker.index = [1, 2] := by
  decide

theorem inSessions_reports_proximity :
    InSessions switchWire proximityTable ⟨1, 1⟩
        (afterEnabledAgain.processesOf ⟨1, 20⟩)
        (afterEnabledAgain.reportsTo ⟨1, 20⟩) ∧
      afterEnabledAgain.Successive ⟨1, 20⟩ ∧
      (afterEnabledAgain.processesOf ⟨1, 20⟩).length ≤
        enabling switchWire.toWire ⟨1, 20⟩ (requests enabledAgain) := by
  have hrun : exec (act switchWire proximityTable) new enabledAgain =
      some afterEnabledAgain := by
    rfl
  refine inSessions_reports hrun fun m hm => ?_
  have hlist : requests enabledAgain =
      [(⟨1, 20⟩, [1]), (⟨1, 21⟩, [0]), (⟨1, 20⟩, [1])] := by
    rfl
  rw [hlist] at hm
  obtain rfl : m = [1] := by simpa using hm
  exact ⟨true, by rfl⟩

/-! ## The end of the server -/

theorem entered_replied (h : s.Entered) (hreplied : Replied d s s') : s'.Entered := by
  cases hreplied with
  | same => exact h
  | exit => exact h
  | indication buf => exact h
  | start huid => exact entered_startWorker h huid
  | stop huid => exact entered_stopWorker h huid

/-- Whatever the clients do, the processes that run are in the dictionary. -/
theorem entered_act {a : Action} (h : s.Entered)
    (hact : s.act wire data a = some s') : s'.Entered := by
  cases a with
  | request d message =>
      simp only [act] at hact
      split_ifs at hact
      obtain rfl := Option.some.inj hact
      exact h
  | disappear d =>
      obtain rfl := Option.some.inj hact
      exact h
  | process =>
      obtain ⟨-, d, message, rest, -, ⟨-, rfl⟩ | ⟨-, rfl⟩⟩ := process_cases hact
      · exact h
      · have hacked : (s.acknowledge d rest).Entered := h
        exact entered_replied hacked (replied_replyMsg d message _)
  | measure i =>
      obtain ⟨w, hw, hrunning, rfl⟩ := turn_of_act hact
      rcases turn_cases wire data s i w with ⟨buf, -, hs⟩ | hs | ⟨hs, -⟩
      · rw [hs]
        exact entered_measured h (.reportLarge buf) i
      · rw [hs]
        exact entered_endProcess h i
      · rw [hs]
        exact h

theorem entered_run {as : List Action} (hrun : exec (act wire data) new as = some s) :
    s.Entered := by
  induction as using List.reverseRecOn generalizing s with
  | nil =>
      obtain rfl : new = s := by simpa using hrun
      exact fun i w hw _ => absurd hw (by simp [new])
  | append_singleton as a ih =>
      obtain ⟨t, ht, hact⟩ := exec_snoc.mp hrun
      exact entered_act (ih ht) hact

/-- `__del__`, as far as the processes are concerned, when it is called in the
process that has run the server: each one in the dictionary is terminated and
joined. -/
def del (s : SSCMockingServer) : SSCMockingServer :=
  s.workers.entries.foldl (fun s e => s.endProcess e.2) s

/-- Processes that are terminated are left as they were but for that. -/
theorem foldl_endProcess (l : List (Sigma fun _ : SscUid => ℕ)) (s : SSCMockingServer)
    (i : ℕ) :
    (l.foldl (fun s e => s.endProcess e.2) s).processes[i]? =
      s.processes[i]?.map (fun w =>
        if i ∈ l.map Sigma.snd then { w with running := false } else w) := by
  induction l generalizing s with
  | nil => simp
  | cons e l ih =>
      rw [List.foldl_cons, ih]
      unfold endProcess
      rw [List.getElem?_modify]
      cases s.processes[i]? with
      | none => rfl
      | some w =>
          simp only [List.map_cons, List.mem_cons, Option.map_some]
          by_cases hi : e.2 = i
          · simp [hi]
          · simp only [hi, Ne.symm hi, if_false, false_or]
            rfl

/-- **`__del__` misses no process.** Whatever has happened before, it leaves none of
the processes running that the server has ever started. -/
theorem not_running_del {as : List Action}
    (hrun : exec (act wire data) new as = some s) :
    ∀ w ∈ s.del.processes, w.running = false := by
  intro w hw
  obtain ⟨i, hi⟩ := List.mem_iff_getElem?.mp hw
  rw [del, foldl_endProcess] at hi
  obtain ⟨v, hv, rfl⟩ := Option.map_eq_some_iff.mp hi
  split_ifs with hmem
  · rfl
  · -- a process that runs is in the dictionary
    by_contra hrunning
    have hlookup := entered_run hrun i v hv (by simpa using hrunning)
    have hentry := AList.mem_lookup_iff.mp (Option.mem_def.mpr hlookup)
    exact hmem (List.mem_map.mpr ⟨_, hentry, rfl⟩)

theorem not_running_del_proximity :
    afterEnabledAgain.del.processes.any Worker.running = false := by
  have hrun : exec (act switchWire proximityTable) new enabledAgain =
      some afterEnabledAgain := by
    rfl
  rw [List.any_eq_false]
  intro w hw
  rw [not_running_del hrun w hw]
  exact Bool.false_ne_true

end SSCMockingServer

end Libssc

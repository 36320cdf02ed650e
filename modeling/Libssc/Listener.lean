import Libssc.Driver
import Libssc.SingleOperation

/-!
# The handlers of the drivers

Every open of a driver connects the driver's own `report` handler before it
opens the base sensor, and puts its id into the driver's `report_id`. Only a
close disconnects the handler, and nothing ever sets `report_id` back to 0. So an
open that fails leaves its handler connected, a second open adds another one,
and after a close `report_id` names a handler that is gone.

Both halves of the result say exactly when this does no harm: the first for all
that one would expect of `report_id` and the handlers, which allows for hardly
more than a single open; the second without `report_id`, for runs in which no
close is called while an open is pending.
-/

namespace Libssc

open Library

variable {F S M : Type} [GFloat F] {pb : Protobuf F}

/-! ## What a step of the base sensor keeps -/

namespace Sensor

variable {w w' : Sensor F}

/-- What the callback of a request does: it touches no handler and completes at
most one task, with TRUE only if it is the callback of a close. -/
structure CallbackRan (cb : SendCallback) (w w' : Sensor F) : Prop where
  priv : w'.priv = w.priv
  report : w'.report = w.report
  sent : w'.sent = w.sent
  unready : w'.unready = w.unready
  freed : w'.freed = w.freed
  tasks : w'.tasks = w.tasks ∨ ∃ b r, w'.tasks = w.tasks.complete b ⟨r, none⟩ ∧
    (r = .boolean true → cb = .sensorCloseReady b)

omit [GFloat F] in
theorem callbackRan_sendReady (cb : SendCallback) (error : Option GError)
    (w : Sensor F) : CallbackRan cb w (w.sendReady cb error) := by
  have htask : ∀ t, CallbackRan cb w (w.taskSendReady t error) := by
    intro t
    cases error with
    | none => exact ⟨rfl, rfl, rfl, rfl, rfl, Or.inl rfl⟩
    | some e =>
        exact ⟨rfl, rfl, rfl, rfl, rfl, Or.inr ⟨t, .error e, rfl, by simp⟩⟩
  cases cb with
  | attributeReady => exact ⟨rfl, rfl, rfl, rfl, rfl, Or.inl rfl⟩
  | discoveryReady t => exact htask t
  | waitForSensorServiceReady t => exact htask t
  | sensorOpenReady t => exact htask t
  | sensorCloseReady t =>
      cases error with
      | none =>
          exact ⟨rfl, rfl, rfl, rfl, rfl,
            Or.inr ⟨t, .boolean true, rfl, fun _ => rfl⟩⟩
      | some e =>
          exact ⟨rfl, rfl, rfl, rfl, rfl, Or.inr ⟨t, .error e, rfl, by simp⟩⟩

/-- Task `b` has not been completed with TRUE first. -/
def Unopened (b : ℕ) (w : Sensor F) : Prop :=
  ∀ c cs, w.tasks.returns b = c :: cs → c.result ≠ .boolean true

omit [GFloat F] in
theorem unopened_complete {b b' : ℕ} {c : Completion}
    (h : Unopened b w) (hc : b' = b → c.result ≠ .boolean true)
    (hw : w'.tasks = w.tasks.complete b' c) : Unopened b w' := by
  intro x xs hx
  rw [hw] at hx
  by_cases hb : b = b'
  · subst hb
    by_cases hlt : b < w.tasks.size
    · rw [Tasks.returns_complete_self hlt] at hx
      cases hr : w.tasks.returns b with
      | nil =>
          rw [hr] at hx
          obtain rfl : c = x := (List.cons.inj hx).1
          exact hc rfl
      | cons y ys =>
          rw [hr] at hx
          obtain rfl : y = x := (List.cons.inj hx).1
          exact h y ys hr
    · rw [Tasks.returns_eq_nil_of_size_le (by simpa using hlt)] at hx
      exact absurd hx (by simp)
  · rw [Tasks.returns_complete_ne hb] at hx
    exact h x xs hx

/-- What an event of the base sensor leaves as it was: the tasks but for their
results, the handlers of the drivers, and the base handler unless it is gone
afterwards. -/
structure Kept (w w' : Sensor F) : Prop where
  size : w'.tasks.size = w.tasks.size
  kind : ∀ b, w'.tasks.kind? b = w.tasks.kind? b
  drivers : w'.driverHandlers = w.driverHandlers
  listeners : w'.listeners = [] ∨ (w'.listeners = w.listeners ∧
    w'.priv.reportId = w.priv.reportId ∧ w'.freed = w.freed)

/-- The report of a sensor with at most one base handler, that of task `b`. -/
theorem kept_report {b : ℕ} {r : Report}
    (h : w.listeners = [(w.priv.reportId, .sensor b)]) (hb : b ∉ w.freed) :
    Kept w (w.emitReport pb r) ∧ ((w.emitReport pb r).listeners = [] ∨
      (w.emitReport pb r).tasks = w.tasks) := by
  have hmem : (w.priv.reportId, Closure.sensor b) ∈ w.report.handlers :=
    mem_listeners_sensor.mp (by simp [h])
  rw [emitReport_single h, reportReceived_eq hb]
  generalize w.priv.outcome pb r = o
  have htasks := perform_tasks b o w
  have hlist := listeners_perform (t := b) (o := o) (w := w)
  have hpriv := perform_priv b o w
  have hfreed := perform_freed b o w
  have hdrivers := driverHandlers_perform_of_named (t := b) (o := o) hmem
  cases hr : o.result with
  | none =>
      rw [hr] at htasks hlist hpriv hfreed
      refine ⟨⟨by rw [htasks], fun _ => by rw [htasks], hdrivers, Or.inr ⟨hlist, ?_,
        hfreed⟩⟩, Or.inr htasks⟩
      rw [hpriv, reportId_update]
  | some res =>
      rw [hr] at htasks hlist
      have hnil : (w.perform b o).listeners = [] := by
        rw [hlist, h]
        simp
      exact ⟨⟨by simp [htasks], fun _ => by simp [htasks], hdrivers,
        Or.inl hnil⟩, Or.inl hnil⟩

end Sensor

namespace Driver

variable {d : Driver F S M} {w w' w₀ : DriverWorld F S M} {n : ℕ}

/-! ## The expectations -/

/-- At most one handler of the driver is connected. -/
def OneHandler (w : DriverWorld F S M) : Prop :=
  w.sensor.driverHandlers.length ≤ 1

/-- `report_id` is 0 or the id of a handler of the driver that is connected. -/
def IdNamesHandler (w : DriverWorld F S M) : Prop :=
  w.reportId = 0 ∨ (w.reportId, .driver) ∈ w.sensor.report.handlers

/-- The step from `w` to `w'` completes task `t`, an `op`, with `r`. -/
structure Completes (op : Operation) (t : ℕ) (r : TaskResult)
    (w w' : DriverWorld F S M) : Prop where
  kind : w.tasks.kind? t = some op
  pending : w.tasks.pending t = true
  result : w'.tasks.returns t = [r]

/-- What an operation leaves connected when it completes: an open that fails,
what was connected before it was called; a close, nothing, so that a further
close has nothing to disconnect. -/
structure Settled (d : Driver F S M) (pb : Protobuf F) (w₀ : DriverWorld F S M)
    (pre : List Action) (w : DriverWorld F S M) (a : Action) : Prop where
  opened : ∀ w' t e, d.act pb w a = some w' →
    Completes .sensorOpen t (.error e) w w' →
    ∀ before v, before ++ [.sensorOpen] <+: pre →
      exec (d.act pb) w₀ before = some v → v.tasks.size = t →
      w'.sensor.report.handlers = v.sensor.report.handlers
  closed : ∀ w' t r, d.act pb w a = some w' → Completes .sensorClose t r w w' →
    w'.sensor.report.handlers = [] ∧
      (sensorClose w').sensor.report.handlers = w'.sensor.report.handlers

/-! ## The conditions -/

/-- User code calls the driver, not the base sensor. -/
def Action.IsDriver : Action → Prop
  | .call _ => False
  | _ => True

/-- An open that has not completed. -/
def Opening (t : ℕ) (w : DriverWorld F S M) : Prop :=
  w.tasks.kind? t = some .sensorOpen ∧ w.tasks.pending t = true

/-- Every open that was called is followed by a call of close. -/
def AllClosed (w : DriverWorld F S M) : Prop :=
  ∀ t, w.tasks.kind? t = some .sensorOpen →
    ∃ u, t < u ∧ w.tasks.kind? u = some .sensorClose

/-- Opens are called while no handler of the driver is connected and do not
fail, and no close completes after a later open has been called, unless that is
followed by another close. -/
def Careful (w : DriverWorld F S M) : Action → Prop
  | .sensorOpen => w.sensor.driverHandlers = []
  | .dispatch b => ∀ op t c cs,
      w.sensor.tasks.find b = some ⟨⟨op, .driver t⟩, c :: cs⟩ →
      c.result ≠ .boolean false →
      (op = .sensorOpen → c.result = .boolean true) ∧
        (op = .sensorClose → AllClosed w)
  | _ => True

/-- Closes are called while no handler of the driver is connected. -/
def CloseUnopened (w : DriverWorld F S M) : Action → Prop
  | .sensorClose => w.sensor.driverHandlers = []
  | _ => True

/-- Closes are called while no open is pending. -/
def CloseApart (w : DriverWorld F S M) : Action → Prop
  | .sensorClose => ∀ t, ¬ Opening t w
  | _ => True

/-! ## The invariant -/

/-- Driver tasks and base tasks go in pairs from base task `n` on, and a driver
task is pending until the callback of its base task has run. -/
structure Linked (n : ℕ) (w : DriverWorld F S M) : Prop where
  size : w.sensor.tasks.size = n + w.tasks.size
  user : ∀ b k, b < n → w.sensor.tasks.kind? b = some k → k.callback = .user
  driver : ∀ t op, w.tasks.kind? t = some op →
    w.sensor.tasks.kind? (n + t) = some ⟨op, .driver t⟩
  waiting : ∀ t, t < w.tasks.size → n + t ∉ w.dispatched →
    w.tasks.pending t = true

/-- The driver's handler is connected from an open to the next close. A base
handler belongs to an open that is pending, and so is the last call. -/
structure Lifecycle (n : ℕ) (w : DriverWorld F S M) : Prop extends
    Linked n w where
  handlers : (AllClosed w ∧ w.sensor.report.handlers = []) ∨
    (¬ AllClosed w ∧ w.sensor.driverHandlers = [(w.reportId, .driver)])
  opening : ∀ t, Opening t w → t + 1 = w.tasks.size
  listener : w.sensor.listeners = [] ∨ ∃ t,
    w.sensor.listeners = [(w.sensor.priv.reportId, .sensor (n + t))] ∧
      n + t ∉ w.sensor.freed ∧ Opening t w ∧ w.sensor.Unopened (n + t)
  freed : ∀ b ∈ w.sensor.freed, b < w.sensor.tasks.size
  owed : w.sensor.Owed fun cb => ∀ b, cb = .sensorCloseReady b →
    ∃ t, b = n + t ∧ w.tasks.kind? t = some .sensorClose

omit [GFloat F] in
theorem Lifecycle.one (h : Lifecycle n w) : OneHandler w := by
  unfold OneHandler
  rcases h.handlers with ⟨-, hnil⟩ | ⟨-, hd⟩
  · rw [(Sensor.handlers_eq_nil.mp hnil).2]
    simp
  · rw [hd]
    simp

omit [GFloat F] in
theorem Lifecycle.not_allClosed (h : Lifecycle n w) {t : ℕ}
    (ht : Opening t w) : ¬ AllClosed w := by
  intro hall
  obtain ⟨u, htu, hu⟩ := hall t ht.1
  have hlast := h.opening t ht
  have := Tasks.lt_size_of_kind? hu
  omega

omit [GFloat F] in
theorem Lifecycle.drivers_eq_nil_iff (h : Lifecycle n w) :
    w.sensor.driverHandlers = [] ↔ AllClosed w := by
  rcases h.handlers with ⟨hall, hnil⟩ | ⟨hall, hd⟩
  · simp [hall, (Sensor.handlers_eq_nil.mp hnil).2]
  · simp [hall, hd]

omit [GFloat F] in
/-- The base task whose callback runs belongs to a pending driver task for the
same operation. -/
theorem Linked.of_dispatch (h : Linked n w) {b t : ℕ} {op : Operation}
    {l : List Completion} (hfind : w.sensor.tasks.find b = some ⟨⟨op, .driver t⟩, l⟩)
    (hb : b ∉ w.dispatched) :
    b = n + t ∧ w.tasks.kind? t = some op ∧ w.tasks.pending t = true := by
  have hkind := Tasks.kind?_of_find hfind
  have hlt := Tasks.lt_size_of_find hfind
  rw [h.size] at hlt
  rcases Nat.lt_or_ge b n with hbn | hbn
  · exact absurd (h.user b _ hbn hkind) (by simp)
  · obtain ⟨u, rfl⟩ := Nat.exists_eq_add_of_le hbn
    have hu : u < w.tasks.size := Nat.lt_of_add_lt_add_left hlt
    have hp := h.waiting u hu hb
    cases hk : w.tasks.kind? u with
    | none =>
        unfold Tasks.kind? at hk
        have hnone := Option.map_eq_none_iff.mp hk
        exact absurd (Tasks.find_eq_none.mp hnone) (Nat.not_le_of_lt hu)
    | some op' =>
        have hpair := h.driver u op' hk
        have hk' : (⟨op', .driver u⟩ : TaskInfo) = ⟨op, .driver t⟩ :=
          Option.some.inj (hpair.symm.trans hkind)
        obtain ⟨rfl, ht⟩ := TaskInfo.mk.inj hk'
        obtain rfl := AsyncReadyCallback.driver.inj ht
        exact ⟨rfl, hk, hp⟩

/-! ## Events of the base sensor -/

omit [GFloat F] in
theorem allClosed_congr (h : ∀ t, w'.tasks.kind? t = w.tasks.kind? t) :
    AllClosed w' ↔ AllClosed w := by
  unfold AllClosed
  simp only [h]

omit [GFloat F] in
/-- An event that leaves the driver alone and keeps the base sensor keeps the
invariant. -/
theorem lifecycle_of_kept (h : Lifecycle n w) (hk : w.sensor.Kept w'.sensor)
    (htasks : w'.tasks = w.tasks) (hdispatched : w'.dispatched = w.dispatched)
    (hid : w'.reportId = w.reportId)
    (hunopened : ∀ t, Opening t w → w.sensor.Unopened (n + t) →
      w'.sensor.listeners = [] ∨ w'.sensor.Unopened (n + t))
    (hfreed : ∀ b ∈ w'.sensor.freed, b < w'.sensor.tasks.size)
    (howed : w'.sensor.Owed fun cb => ∀ b, cb = .sensorCloseReady b →
      ∃ t, b = n + t ∧ w.tasks.kind? t = some .sensorClose) :
    Lifecycle n w' := by
  have hopening : ∀ t, Opening t w' ↔ Opening t w := by
    intro t
    unfold Opening
    rw [htasks]
  have hall : AllClosed w' ↔ AllClosed w :=
    allClosed_congr (fun t => by rw [htasks])
  constructor
  case toLinked =>
    constructor
    · rw [hk.size, htasks]
      exact h.size
    · intro b k hb hkind
      rw [hk.kind] at hkind
      exact h.user b k hb hkind
    · intro t op hkind
      rw [htasks] at hkind
      rw [hk.kind]
      exact h.driver t op hkind
    · rw [htasks, hdispatched]
      exact h.waiting
  case handlers =>
    rw [hall, hk.drivers, hid]
    rcases h.handlers with ⟨ha, hnil⟩ | hopen
    · obtain ⟨hl, hd⟩ := Sensor.handlers_eq_nil.mp hnil
      refine Or.inl ⟨ha, Sensor.handlers_eq_nil.mpr ⟨?_, hk.drivers.trans hd⟩⟩
      rcases hk.listeners with hl' | ⟨hl', -, -⟩
      · exact hl'
      · exact hl'.trans hl
    · exact Or.inr hopen
  case opening =>
    intro t ht
    rw [htasks]
    exact h.opening t ((hopening t).mp ht)
  case listener =>
    rcases hk.listeners with hl' | ⟨hl', hrid, hfr⟩
    · exact Or.inl hl'
    · rw [hl', hrid, hfr]
      rcases h.listener with hl | ⟨t, hl, hf, ht, hun⟩
      · exact Or.inl hl
      · rcases hunopened t ht hun with hnil | hun'
        · exact Or.inl (hl'.symm.trans hnil)
        · exact Or.inr ⟨t, hl, hf, (hopening t).mpr ht, hun'⟩
  case freed => exact hfreed
  case owed =>
    rw [htasks]
    exact howed

omit [GFloat F] in
theorem lifecycle_sendReady {i : ℕ} {error : Option GError} {r : Request F}
    (h : Lifecycle n w) (hi : i ∈ w.sensor.unready)
    (hr : w.sensor.sent[i]? = some r) :
    Lifecycle n { w with
      sensor := Sensor.sendReady r.callback error
        { w.sensor with unready := w.sensor.unready.erase i } } := by
  have hran := Sensor.callbackRan_sendReady r.callback error
    { w.sensor with unready := w.sensor.unready.erase i }
  generalize Sensor.sendReady r.callback error
    { w.sensor with unready := w.sensor.unready.erase i } = s at hran
  have hlist : s.listeners = w.sensor.listeners := by
    unfold Sensor.listeners
    rw [hran.report]
  have hdrivers : s.driverHandlers = w.sensor.driverHandlers := by
    unfold Sensor.driverHandlers
    rw [hran.report]
  have hkinds : s.tasks.size = w.sensor.tasks.size ∧
      ∀ b, s.tasks.kind? b = w.sensor.tasks.kind? b := by
    rcases hran.tasks with ht | ⟨b, res, ht, -⟩
    · rw [ht]
      exact ⟨rfl, fun _ => rfl⟩
    · rw [ht]
      exact ⟨by simp, fun _ => by simp⟩
  refine lifecycle_of_kept h ⟨hkinds.1, hkinds.2, hdrivers, Or.inr
    ⟨hlist, by rw [hran.priv], hran.freed⟩⟩ rfl rfl rfl ?_ ?_ ?_
  · intro t ht hun
    right
    rcases hran.tasks with htasks | ⟨b, res, htasks, htrue⟩
    · intro c cs hc
      rw [htasks] at hc
      exact hun c cs hc
    · refine Sensor.unopened_complete hun ?_ htasks
      rintro rfl hres
      -- only the callback of a close reports success, and `t` is an open
      obtain ⟨r', hr', hclose⟩ := h.owed i hi
      obtain rfl : r' = r := Option.some.inj (hr'.symm.trans hr)
      obtain ⟨u, hu, hkind⟩ := hclose _ (htrue hres)
      obtain rfl : t = u := Nat.add_left_cancel hu
      exact absurd (ht.1.symm.trans hkind) (by simp)
  · intro b hb
    rw [hran.freed] at hb
    rw [hkinds.1]
    exact h.freed b hb
  · intro k hk
    rw [hran.unready] at hk
    rw [hran.sent]
    exact h.owed k (List.mem_of_mem_erase hk)

theorem lifecycle_report {r : Report} (h : Lifecycle n w) :
    Lifecycle n (d.emitReport pb r w) := by
  have hsensor : (d.emitReport pb r w).sensor = w.sensor.emitReport pb r :=
    emitReport_sensor r w
  have htasks : (d.emitReport pb r w).tasks = w.tasks := emitReport_tasks r w
  have hid : (d.emitReport pb r w).reportId = w.reportId :=
    congrArg (·.1) (emitReport_control r w)
  have hdispatched : (d.emitReport pb r w).dispatched = w.dispatched :=
    congrArg (·.2.2.2.1) (emitReport_control r w)
  rcases h.listener with hl | ⟨t, hl, hf, ht, hun⟩
  · -- no base handler is connected
    rw [Sensor.emitReport_none hl] at hsensor
    refine lifecycle_of_kept h ?_ htasks hdispatched hid ?_ ?_ ?_
    · rw [hsensor]
      exact ⟨rfl, fun _ => rfl, rfl, Or.inl hl⟩
    · rw [hsensor]
      exact fun _ _ _ => Or.inl hl
    · rw [hsensor]
      exact h.freed
    · rw [hsensor]
      exact h.owed
  · obtain ⟨hkept, htasks'⟩ : w.sensor.Kept (w.sensor.emitReport pb r) ∧
        ((w.sensor.emitReport pb r).listeners = [] ∨
          (w.sensor.emitReport pb r).tasks = w.sensor.tasks) :=
      Sensor.kept_report hl hf
    have heq : w.sensor.emitReport pb r =
        w.sensor.perform (n + t) (w.sensor.priv.outcome pb r) := by
      rw [Sensor.emitReport_single hl, Sensor.reportReceived_eq hf]
    have hlt : n + t < w.sensor.tasks.size := by
      rw [h.size]
      exact Nat.add_lt_add_left (Tasks.lt_size_of_kind? ht.1) n
    refine lifecycle_of_kept h (hsensor ▸ hkept) htasks hdispatched hid ?_ ?_ ?_
    · intro u _ hun'
      rw [hsensor]
      refine htasks'.imp_right fun hsame c cs hc => ?_
      rw [hsame] at hc
      exact hun' c cs hc
    · rw [hsensor, hkept.size, heq, Sensor.perform_freed]
      cases (w.sensor.priv.outcome pb r).result with
      | none => exact h.freed
      | some res =>
          intro b hb
          rcases List.mem_append.mp hb with hb | hb
          · exact h.freed b hb
          · rw [List.mem_singleton.mp hb]
            exact hlt
    · rw [hsensor, heq]
      apply Sensor.owed_perform h.owed
      intro req hreq b hb
      rcases Sensor.request_isFor hreq with hfor | hfor | hfor | hfor
      · exact absurd (hfor.symm.trans hb) (by simp)
      · exact absurd (hfor.symm.trans hb) (by simp)
      · exact absurd (hfor.symm.trans hb) (by simp)
      · exact absurd (hfor.symm.trans hb) (by simp)

/-! ## Calls -/

omit [GFloat F] in
/-- A call makes the next driver task and the next base task a pair. -/
theorem linked_call {op : Operation} (h : Linked n w)
    (hsize : w'.sensor.tasks.size = w.sensor.tasks.size + 1)
    (hkind : ∀ b, w'.sensor.tasks.kind? b = if b = w.sensor.tasks.size then
      some ⟨op, .driver w.tasks.size⟩ else w.sensor.tasks.kind? b)
    (htasks : w'.tasks = w.tasks.create op)
    (hdispatched : w'.dispatched = w.dispatched) : Linked n w' := by
  constructor
  · rw [hsize, htasks, Tasks.size_create, h.size, Nat.add_assoc]
  · intro b k hb hk
    have hne : b ≠ w.sensor.tasks.size := by
      have := h.size
      omega
    rw [hkind, if_neg hne] at hk
    exact h.user b k hb hk
  · intro t op' ht
    rw [htasks, Tasks.kind?_create] at ht
    rw [hkind, h.size]
    by_cases heq : t = w.tasks.size
    · subst heq
      rw [if_pos rfl] at ht ⊢
      rw [Option.some.inj ht]
    · rw [if_neg heq] at ht
      rw [if_neg (fun hadd => heq (Nat.add_left_cancel hadd))]
      exact h.driver t op' ht
  · intro t ht hb
    rw [hdispatched] at hb
    rw [htasks] at ht ⊢
    rw [Tasks.size_create] at ht
    rcases Nat.lt_succ_iff_lt_or_eq.mp ht with hlt | rfl
    · exact Tasks.pending_create.mpr (Or.inr (h.waiting t hlt hb))
    · exact Tasks.pending_create.mpr (Or.inl rfl)

omit [GFloat F] in
/-- Opens that are pending after a call were so before, or are the call. -/
theorem opening_call {op : Operation} {t : ℕ} (h : Opening t w')
    (htasks : w'.tasks = w.tasks.create op) :
    (t = w.tasks.size ∧ op = .sensorOpen) ∨ Opening t w := by
  obtain ⟨hkind, hp⟩ := h
  rw [htasks, Tasks.kind?_create] at hkind
  rw [htasks, Tasks.pending_create] at hp
  by_cases heq : t = w.tasks.size
  · rw [if_pos heq] at hkind
    exact Or.inl ⟨heq, Option.some.inj hkind⟩
  · rw [if_neg heq] at hkind
    exact Or.inr ⟨hkind, hp.resolve_left heq⟩

omit [GFloat F] in
/-- What a new task leaves of the callbacks that are owed. -/
theorem owed_call {op : Operation} {s : Sensor F}
    (hs : s.Owed fun cb => ∀ b, cb = .sensorCloseReady b →
      (∃ t, b = n + t ∧ w.tasks.kind? t = some .sensorClose) ∨
        (b = n + w.tasks.size ∧ op = .sensorClose)) :
    s.Owed fun cb => ∀ b, cb = .sensorCloseReady b →
      ∃ t, b = n + t ∧ (w.tasks.create op).kind? t = some .sensorClose := by
  intro i hi
  obtain ⟨r, hr, hcb⟩ := hs i hi
  refine ⟨r, hr, fun b hb => ?_⟩
  rcases hcb b hb with ⟨t, rfl, ht⟩ | ⟨rfl, rfl⟩
  · refine ⟨t, rfl, ?_⟩
    rw [Tasks.kind?_create, if_neg (Nat.ne_of_lt (Tasks.lt_size_of_kind? ht))]
    exact ht
  · exact ⟨_, rfl, by rw [Tasks.kind?_create, if_pos rfl]⟩

omit [GFloat F] in
theorem Lifecycle.listeners_eq_nil (h : Lifecycle n w)
    (hno : ∀ t, ¬ Opening t w) : w.sensor.listeners = [] := by
  rcases h.listener with hl | ⟨t, -, -, ht, -⟩
  · exact hl
  · exact absurd ht (hno t)

omit [GFloat F] in
/-- Between a close and the next open no handler is connected at all. -/
theorem Lifecycle.idle (h : Lifecycle n w)
    (hnone : w.sensor.driverHandlers = []) :
    (∀ t, ¬ Opening t w) ∧ w.sensor.report.handlers = [] := by
  have hno : ∀ t, ¬ Opening t w := fun t ht =>
    h.not_allClosed ht (h.drivers_eq_nil_iff.mp hnone)
  exact ⟨hno, Sensor.handlers_eq_nil.mpr ⟨h.listeners_eq_nil hno, hnone⟩⟩

omit [GFloat F] in
theorem not_allClosed_of_open (htasks : w'.tasks = w.tasks.create .sensorOpen) :
    ¬ AllClosed w' := by
  intro hall
  obtain ⟨u, hu, hku⟩ := hall w.tasks.size (by
    rw [htasks, Tasks.kind?_create, if_pos rfl])
  have hlt := Tasks.lt_size_of_kind? hku
  rw [htasks, Tasks.size_create] at hlt
  omega

omit [GFloat F] in
theorem opening_last (hno : ∀ t, ¬ Opening t w)
    (htasks : w'.tasks = w.tasks.create .sensorOpen) {t : ℕ}
    (ht : Opening t w') : t + 1 = w'.tasks.size := by
  rw [htasks, Tasks.size_create]
  rcases opening_call ht htasks with ⟨rfl, -⟩ | ht
  · rfl
  · exact absurd ht (hno t)

omit [GFloat F] in
/-- What a driver's open leaves when the base open is refused: only the driver's
handler is connected. -/
theorem lifecycle_refused {s : Sensor F} (h : Lifecycle n w)
    (hnone : w.sensor.driverHandlers = [])
    (hw : Sensor.Refused ⟨.sensorOpen, .driver w.tasks.size⟩
      { w.sensor with report := w.sensor.report.connect .driver } s) :
    Lifecycle n { w with
      state := d.opened w.state
      tasks := w.tasks.create .sensorOpen
      clientRefs := w.clientRefs + 1
      reportId := w.sensor.report.next
      sensor := s } := by
  obtain ⟨hno, hhandlers⟩ := h.idle hnone
  obtain ⟨e, htasks⟩ := hw.tasks
  constructor
  case toLinked =>
    refine linked_call h.toLinked ?_ ?_ rfl rfl
    · simp [htasks]
    · intro b
      rw [htasks, Tasks.kind?_complete, Tasks.kind?_create]
  case handlers =>
    refine Or.inr ⟨not_allClosed_of_open rfl, ?_⟩
    unfold Sensor.driverHandlers
    rw [hw.report]
    simp [hhandlers]
  case opening => exact fun t ht => opening_last hno rfl ht
  case listener =>
    left
    unfold Sensor.listeners
    rw [hw.report]
    simp [hhandlers]
  case freed =>
    intro b hb
    rw [hw.freed] at hb
    have hlt := h.freed b hb
    rw [htasks]
    simp
    omega
  case owed =>
    apply owed_call
    intro i hi
    rw [hw.unready] at hi
    rw [hw.sent]
    obtain ⟨r, hr, hcb⟩ := h.owed i hi
    exact ⟨r, hr, fun b hb => Or.inl (hcb b hb)⟩

omit [GFloat F] in
/-- What it leaves when the base open is under way: the driver's handler and
that of the base open. -/
theorem lifecycle_started {s : Sensor F} {req : Request F} (h : Lifecycle n w)
    (hnone : w.sensor.driverHandlers = [])
    (hw : Sensor.Started ⟨.sensorOpen, .driver w.tasks.size⟩ req
      { w.sensor with report := w.sensor.report.connect .driver } s) :
    Lifecycle n { w with
      state := d.opened w.state
      tasks := w.tasks.create .sensorOpen
      clientRefs := w.clientRefs + 1
      reportId := w.sensor.report.next
      sensor := s } := by
  obtain ⟨hno, hhandlers⟩ := h.idle hnone
  constructor
  case toLinked =>
    refine linked_call h.toLinked ?_ ?_ rfl rfl
    · simp [hw.tasks]
    · intro b
      rw [hw.tasks, Tasks.kind?_create]
  case handlers =>
    refine Or.inr ⟨not_allClosed_of_open rfl, ?_⟩
    unfold Sensor.driverHandlers
    rw [hw.report]
    simp [hhandlers]
  case opening => exact fun t ht => opening_last hno rfl ht
  case listener =>
    refine Or.inr ⟨w.tasks.size, ?_, ?_, ⟨?_, ?_⟩, ?_⟩
    · unfold Sensor.listeners
      rw [hw.report, hw.reportId, ← h.size]
      simp [hhandlers]
    · rw [hw.freed, ← h.size]
      exact fun hf => Nat.lt_irrefl _ (h.freed _ hf)
    · rw [Tasks.kind?_create, if_pos rfl]
    · exact Tasks.pending_create_self _ _
    · intro c cs hc
      rw [hw.tasks, Tasks.returns_create, Tasks.returns_eq_nil_of_size_le
        (Nat.le_of_eq h.size)] at hc
      exact absurd hc (by simp)
  case freed =>
    intro b hb
    rw [hw.freed] at hb
    rw [hw.tasks, Tasks.size_create]
    exact Nat.lt_succ_of_lt (h.freed b hb)
  case owed =>
    refine owed_call (Sensor.owed_send (w := w.sensor) ?_ ?_ hw.sent hw.unready)
    · intro i hi
      obtain ⟨r, hr, hcb⟩ := h.owed i hi
      exact ⟨r, hr, fun b hb => Or.inl (hcb b hb)⟩
    · intro b hb
      rcases hw.callback with hfor | hfor | hfor | hfor
      · exact absurd (hfor.symm.trans hb) (by simp)
      · exact absurd (hfor.symm.trans hb) (by simp)
      · exact absurd (hfor.symm.trans hb) (by simp)
      · exact absurd (hfor.symm.trans hb) (by simp)

/-- An open that finds no handler of the driver connected. -/
theorem lifecycle_open {s : Sensor F} (h : Lifecycle n w)
    (hnone : w.sensor.driverHandlers = [])
    (hs : Sensor.sensorOpen (.driver w.tasks.size)
      { w.sensor with report := w.sensor.report.connect .driver } = some s) :
    Lifecycle n { w with
      state := d.opened w.state
      tasks := w.tasks.create .sensorOpen
      clientRefs := w.clientRefs + 1
      reportId := w.sensor.report.next
      sensor := s } := by
  rcases Sensor.sensorOpen_cases hs with hw | ⟨req, hw⟩
  · exact lifecycle_refused h hnone hw
  · exact lifecycle_started h hnone hw

omit [GFloat F] in
/-- A close that finds no open pending. -/
theorem lifecycle_close (h : Lifecycle n w) (hno : ∀ t, ¬ Opening t w) :
    Lifecycle n (sensorClose w) := by
  have hl := h.listeners_eq_nil hno
  have hnil : (sensorClose w).sensor.report.handlers = [] := by
    rw [sensorClose_handlers]
    apply List.filter_eq_nil_iff.mpr
    rintro ⟨id, c⟩ hx
    rcases h.handlers with ⟨-, hnil⟩ | ⟨-, hd⟩
    · rw [hnil] at hx
      exact absurd hx List.not_mem_nil
    · have hc : c = .driver := by
        by_contra hc
        have := Sensor.mem_listeners.mpr ⟨hx, hc⟩
        rw [hl] at this
        exact absurd this List.not_mem_nil
      have hmem := Sensor.mem_driverHandlers.mpr ⟨hx, hc⟩
      rw [hd, List.mem_singleton] at hmem
      obtain ⟨rfl, -⟩ := Prod.ext_iff.mp hmem
      simp
  have hall : AllClosed (sensorClose w) := by
    intro t ht
    rw [sensorClose_eq] at ht ⊢
    have hlt := Tasks.lt_size_of_kind? ht
    rw [Tasks.size_create] at hlt
    refine ⟨w.tasks.size, ?_, by rw [Tasks.kind?_create, if_pos rfl]⟩
    rcases Nat.lt_succ_iff_lt_or_eq.mp hlt with hlt | rfl
    · exact hlt
    · rw [Tasks.kind?_create, if_pos rfl] at ht
      exact absurd ht (by simp)
  constructor
  case toLinked =>
    rw [sensorClose_eq]
    refine linked_call h.toLinked ?_ ?_ rfl rfl
    · simp [Sensor.sensorClose, Sensor.clientSend]
    · intro b
      exact Tasks.kind?_create _ _ b
  case handlers => exact Or.inl ⟨hall, hnil⟩
  case opening =>
    intro t ht
    have htasks : (sensorClose w).tasks = w.tasks.create .sensorClose := by
      rw [sensorClose_eq]
    rcases opening_call ht htasks with ⟨-, heq⟩ | ht
    · exact absurd heq (by simp)
    · exact absurd ht (hno t)
  case listener => exact Or.inl (Sensor.handlers_eq_nil.mp hnil).1
  case freed =>
    rw [sensorClose_eq]
    intro b hb
    have hlt := h.freed b hb
    show b < (w.sensor.tasks.create _).size
    rw [Tasks.size_create]
    exact Nat.lt_succ_of_lt hlt
  case owed =>
    rw [sensorClose_eq]
    refine owed_call (Sensor.owed_send (w := w.sensor) ?_ ?_ rfl rfl)
    · intro i hi
      obtain ⟨r, hr, hcb⟩ := h.owed i hi
      exact ⟨r, hr, fun b hb => Or.inl (hcb b hb)⟩
    · intro b hb
      obtain rfl := SendCallback.sensorCloseReady.inj hb
      exact Or.inr ⟨h.size, rfl⟩

/-! ## Callbacks of base tasks -/

omit [GFloat F] in
theorem lifecycle_dispatch {b t : ℕ} {op : Operation} {c : Completion}
    {cs : List Completion} (h : Lifecycle n w) (hc : Careful w (.dispatch b))
    (hfind : w.sensor.tasks.find b = some ⟨⟨op, .driver t⟩, c :: cs⟩)
    (hb : b ∉ w.dispatched) :
    Lifecycle n
      (taskReady t c.result { w with dispatched := w.dispatched ++ [b] }) := by
  obtain ⟨rfl, hkind, hp⟩ := h.of_dispatch hfind hb
  have hcareful := hc op t c cs hfind
  have hreturns : w.sensor.tasks.returns (n + t) = c :: cs := by
    simp [Tasks.returns, hfind]
  rw [taskReady_eq]
  -- `ts` are the driver's tasks after the callback
  have hmain : ∀ ts : Tasks Operation TaskResult, ts.size = w.tasks.size →
      (∀ u, ts.kind? u = w.tasks.kind? u) →
      (∀ u, ts.pending u = true → w.tasks.pending u = true) →
      (∀ u, w.tasks.pending u = true →
        u ≠ t ∨ c.result = .boolean false → ts.pending u = true) →
      Lifecycle n { w with
        dispatched := w.dispatched ++ [n + t]
        tasks := ts } := by
    intro ts hsize hkinds hold hnew
    constructor
    case toLinked =>
      constructor
      · exact h.size.trans (by rw [hsize])
      · exact h.user
      · intro u op' hu
        exact h.driver u op' ((hkinds u).symm.trans hu)
      · intro u hu hnot
        rw [List.mem_append, List.mem_singleton, not_or] at hnot
        refine hnew u (h.waiting u (hsize ▸ hu) hnot.1) (Or.inl ?_)
        rintro rfl
        exact hnot.2 rfl
    case handlers =>
      rw [allClosed_congr (w := w) hkinds]
      exact h.handlers
    case opening =>
      rintro u ⟨hu, hpu⟩
      exact (h.opening u ⟨(hkinds u).symm.trans hu, hold u hpu⟩).trans hsize.symm
    case listener =>
      rcases h.listener with hl | ⟨u, hl, hf, hu, hun⟩
      · exact Or.inl hl
      · refine Or.inr ⟨u, hl, hf, ⟨(hkinds u).trans hu.1, hnew u hu.2 ?_⟩, hun⟩
        by_cases hut : u = t
        · subst hut
          obtain rfl : op = .sensorOpen :=
            Option.some.inj (hkind.symm.trans hu.1)
          right
          by_contra hne
          exact hun c cs hreturns ((hcareful hne).1 rfl)
        · exact Or.inl hut
    case freed => exact h.freed
    case owed =>
      intro i hi
      obtain ⟨r, hr, hcb⟩ := h.owed i hi
      refine ⟨r, hr, fun b hb => ?_⟩
      obtain ⟨u, rfl, hu⟩ := hcb b hb
      exact ⟨u, rfl, (hkinds u).trans hu⟩
  split
  · exact hmain w.tasks rfl (fun _ => rfl) (fun _ hu => hu) (fun _ hu _ => hu)
  · rename_i hne
    apply hmain (w.tasks.complete t c.result) (by simp) (by simp)
    · exact fun u hu => (Tasks.pending_complete.mp hu).2
    · intro u hu hor
      exact Tasks.pending_complete.mpr ⟨hor.resolve_right hne, hu⟩

/-- What every action preserves that meets the conditions. -/
theorem lifecycle_act {a : Action} (h : Lifecycle n w) (ha : a.IsDriver)
    (happ : CloseApart w a) (hc : Careful w a) (hact : d.act pb w a = some w') :
    Lifecycle n w' := by
  cases step_of_act hact with
  | call _ => exact ha.elim
  | newFinish => exact { h with }
  | sensorOpen hs => exact lifecycle_open h hc hs
  | sensorClose => exact lifecycle_close h happ
  | sendReady hi hr => exact lifecycle_sendReady h hi hr
  | report => exact lifecycle_report h
  | dispatch hfind hb => exact lifecycle_dispatch h hc hfind hb
  | idle _ => exact { h with }

/-! ## What a completion finds -/

/-- Only the callback of a base task completes a driver task, with the base
task's result. -/
theorem Completes.dispatched {a : Action} {op : Operation} {t : ℕ}
    {r : TaskResult} (h : Completes op t r w w') (hact : d.act pb w a = some w') :
    ∃ b op' c cs, a = .dispatch b ∧
      w.sensor.tasks.find b = some ⟨⟨op', .driver t⟩, c :: cs⟩ ∧
      b ∉ w.dispatched ∧ c.result = r ∧ r ≠ .boolean false ∧
      w' = { w with
        dispatched := w.dispatched ++ [b]
        tasks := w.tasks.complete t r } := by
  have hnil := (Tasks.pending_iff.mp h.pending).2
  have hres := h.result
  rcases act_tasks hact with heq | ⟨-, heq⟩ | ⟨-, heq⟩ |
    ⟨b, op', u, c, cs, rfl, hfind, hb, rfl⟩
  · rw [heq, hnil] at hres
    exact absurd hres (by simp)
  · rw [heq, Tasks.returns_create, hnil] at hres
    exact absurd hres (by simp)
  · rw [heq, Tasks.returns_create, hnil] at hres
    exact absurd hres (by simp)
  · rw [taskReady_eq] at hres ⊢
    by_cases hne : c.result = .boolean false
    · rw [if_pos hne] at hres
      have hres : w.tasks.returns t = [r] := hres
      rw [hnil] at hres
      exact absurd hres (by simp)
    · rw [if_neg hne] at hres ⊢
      have hres : (w.tasks.complete u c.result).returns t = [r] := hres
      have hu : t = u := by
        by_contra hu
        rw [Tasks.returns_complete_ne hu, hnil] at hres
        exact absurd hres (by simp)
      subst hu
      rw [Tasks.returns_complete_self (Tasks.pending_iff.mp h.pending).1,
        hnil] at hres
      obtain rfl : c.result = r := by simpa using hres
      exact ⟨b, op', c, cs, rfl, hfind, hb, rfl, hne, rfl⟩

/-- That base task was created for the same operation. -/
theorem Completes.operation {a : Action} {op : Operation} {t : ℕ}
    {r : TaskResult} (h : Completes op t r w w') (hlinked : Linked n w)
    (hact : d.act pb w a = some w') :
    ∃ b c cs, a = .dispatch b ∧
      w.sensor.tasks.find b = some ⟨⟨op, .driver t⟩, c :: cs⟩ ∧
      c.result = r ∧ r ≠ .boolean false ∧ w'.sensor = w.sensor := by
  obtain ⟨b, op', c, cs, rfl, hfind, hb, hres, hne, rfl⟩ := h.dispatched hact
  obtain ⟨-, hkind, -⟩ := hlinked.of_dispatch hfind hb
  obtain rfl : op = op' := Option.some.inj (h.kind.symm.trans hkind)
  exact ⟨b, c, cs, rfl, hfind, hres, hne, rfl⟩

omit [GFloat F] in
/-- A callback that passes on a result completes its driver task. -/
theorem completes_dispatch {b t : ℕ} {op : Operation} {c : Completion}
    {cs : List Completion} (h : Linked n w) (hdispatch : dispatch b w = some w')
    (hfind : w.sensor.tasks.find b = some ⟨⟨op, .driver t⟩, c :: cs⟩)
    (hne : c.result ≠ .boolean false) :
    Completes op t c.result w w' ∧ w'.sensor = w.sensor := by
  obtain ⟨op', t', c', cs', hfind', hb, rfl⟩ := dispatch_eq_some hdispatch
  have heq := Option.some.inj (hfind'.symm.trans hfind)
  simp only [Task.mk.injEq, TaskInfo.mk.injEq, AsyncReadyCallback.driver.injEq,
    List.cons.injEq] at heq
  obtain ⟨⟨rfl, rfl⟩, rfl, rfl⟩ := heq
  obtain ⟨-, hkind, hp⟩ := h.of_dispatch hfind hb
  rw [taskReady_eq, if_neg hne]
  refine ⟨⟨hkind, hp, ?_⟩, rfl⟩
  have hp' := Tasks.pending_iff.mp hp
  show (w.tasks.complete t' c'.result).returns t' = _
  rw [Tasks.returns_complete_self hp'.1, hp'.2]
  rfl

/-- The open of each task was called when no handler of the driver was
connected. -/
def CalledUnopened (d : Driver F S M) (pb : Protobuf F)
    (w₀ : DriverWorld F S M) (pre : List Action) (w : DriverWorld F S M) : Prop :=
  ∀ t, w.tasks.kind? t = some .sensorOpen →
    ∃ before v, before ++ [.sensorOpen] <+: pre ∧
      exec (d.act pb) w₀ before = some v ∧ v.tasks.size = t ∧
      v.sensor.driverHandlers = []

theorem calledUnopened_act {pre : List Action} {a : Action}
    (h : CalledUnopened d pb w₀ pre w) (hexec : exec (d.act pb) w₀ pre = some w)
    (hc : Careful w a) (hact : d.act pb w a = some w') :
    CalledUnopened d pb w₀ (pre ++ [a]) w' := by
  have hkeep : ∀ t, w.tasks.kind? t = some .sensorOpen →
      ∃ before v, before ++ [.sensorOpen] <+: pre ++ [a] ∧
        exec (d.act pb) w₀ before = some v ∧ v.tasks.size = t ∧
        v.sensor.driverHandlers = [] := by
    intro t ht
    obtain ⟨before, v, hpre, hv⟩ := h t ht
    exact ⟨before, v, hpre.trans (List.prefix_append pre [a]), hv⟩
  intro t ht
  rcases act_tasks hact with heq | ⟨rfl, heq⟩ | ⟨-, heq⟩ |
    ⟨b, op, u, c, cs, -, -, -, rfl⟩
  · rw [heq] at ht
    exact hkeep t ht
  · rw [heq, Tasks.kind?_create] at ht
    by_cases hts : t = w.tasks.size
    · exact ⟨pre, w, List.prefix_rfl, hexec, hts.symm, hc⟩
    · rw [if_neg hts] at ht
      exact hkeep t ht
  · rw [heq, Tasks.kind?_create] at ht
    by_cases hts : t = w.tasks.size
    · rw [if_pos hts] at ht
      exact absurd ht (by simp)
    · rw [if_neg hts] at ht
      exact hkeep t ht
  · rw [taskReady_eq] at ht
    split at ht
    · exact hkeep t ht
    · rw [Tasks.kind?_complete] at ht
      exact hkeep t ht

theorem settled_of_careful {pre : List Action} {a : Action}
    (h : Lifecycle n w) (hc : Careful w a) : Settled d pb w₀ pre w a where
  opened := by
    intro w' t e hact hcomp
    obtain ⟨b, c, cs, rfl, hfind, hres, hne, -⟩ := hcomp.operation h.toLinked hact
    have htrue := (hc _ t c cs hfind (hres ▸ hne)).1 rfl
    exact absurd (hres.symm.trans htrue) (by simp)
  closed := by
    intro w' t r hact hcomp
    obtain ⟨b, c, cs, rfl, hfind, hres, hne, hsensor⟩ :=
      hcomp.operation h.toLinked hact
    have hall := (hc _ t c cs hfind (hres ▸ hne)).2 rfl
    have hnil : w'.sensor.report.handlers = [] := by
      rw [hsensor]
      rcases h.handlers with ⟨-, hnil⟩ | ⟨hnot, -⟩
      · exact hnil
      · exact absurd hall hnot
    refine ⟨hnil, ?_⟩
    rw [sensorClose_handlers, hnil]
    rfl

/-! ## What a violation breaks -/

/-- An open adds a handler of the driver, and puts its id into `report_id`. -/
theorem driverHandlers_open (hact : d.act pb w .sensorOpen = some w') :
    w'.sensor.driverHandlers =
      w.sensor.driverHandlers ++ [(w.sensor.report.next, .driver)] := by
  cases step_of_act hact with
  | sensorOpen hs =>
      unfold Sensor.driverHandlers
      rcases Sensor.sensorOpen_cases hs with hw | ⟨req, hw⟩
      · rw [hw.report]
        simp [List.filter_append]
      · rw [hw.report]
        simp [List.filter_append]

/-- Only an open writes `report_id`. -/
theorem act_reportId {a : Action} (ha : a ≠ .sensorOpen)
    (hact : d.act pb w a = some w') : w'.reportId = w.reportId := by
  cases step_of_act hact with
  | sensorOpen _ => exact absurd rfl ha
  | sensorClose => rw [sensorClose_eq]
  | report => exact congrArg (·.1) (emitReport_control _ w)
  | dispatch _ _ =>
      rw [taskReady_eq]
      split <;> rfl
  | _ => rfl

/-- A careless action connects a second handler or leaves something connected
that should not be. -/
theorem not_one_of_not_careful {pre : List Action} {a : Action}
    (h : Lifecycle n w) (hcalled : CalledUnopened d pb w₀ pre w)
    (hc : ¬ Careful w a) (hact : d.act pb w a = some w')
    (hsettled : Settled d pb w₀ pre w a) : ¬ OneHandler w' := by
  cases a with
  | sensorOpen =>
      unfold OneHandler
      rw [driverHandlers_open hact, List.length_append]
      have hpos : 0 < w.sensor.driverHandlers.length :=
        List.length_pos_iff.mpr hc
      show ¬ w.sensor.driverHandlers.length + 1 ≤ 1
      omega
  | dispatch b =>
      exfalso
      simp only [Careful] at hc
      push Not at hc
      obtain ⟨op, t, c, cs, hfind, hne, hbad⟩ := hc
      obtain ⟨hcomp, hsensor⟩ := completes_dispatch h.toLinked hact hfind hne
      by_cases hopen : op = .sensorOpen ∧ c.result ≠ .boolean true
      · -- a failed open leaves the driver's handler connected
        obtain ⟨rfl, htrue⟩ := hopen
        obtain ⟨e, he⟩ : ∃ e, c.result = .error e := by
          cases hr : c.result with
          | error e => exact ⟨e, rfl⟩
          | boolean v => cases v <;> simp_all
        rw [he] at hcomp
        obtain ⟨before, v, hpre, hv, hsize, hnone⟩ := hcalled t hcomp.kind
        have hsame := hsettled.opened w' t e hact hcomp before v hpre hv hsize
        rw [hsensor] at hsame
        have hnone' : w.sensor.driverHandlers = [] := by
          unfold Sensor.driverHandlers at hnone ⊢
          rw [hsame]
          exact hnone
        exact h.not_allClosed ⟨hcomp.kind, hcomp.pending⟩
          (h.drivers_eq_nil_iff.mp hnone')
      · -- a close completes while the handler of a later open is connected
        have hclose := hbad fun hop => by
          by_contra htrue
          exact hopen ⟨hop, htrue⟩
        obtain ⟨rfl, hall⟩ := hclose
        have hnil := (hsettled.closed w' t c.result hact hcomp).1
        rw [hsensor] at hnil
        exact hall (h.drivers_eq_nil_iff.mp (Sensor.handlers_eq_nil.mp hnil).2)
  | _ => exact absurd trivial hc

/-- A close that finds the driver's handler disconnects it and leaves its id in
`report_id`. -/
theorem not_idNames_of_close (h : Lifecycle n w)
    (hopen : w.sensor.driverHandlers ≠ [])
    (hact : d.act pb w .sensorClose = some w') : ¬ IdNamesHandler w' := by
  have hid : w'.reportId = w.reportId := act_reportId (by simp) hact
  have hmem : (w.reportId, Closure.driver) ∈ w.sensor.report.handlers := by
    rcases h.handlers with ⟨-, hnil⟩ | ⟨-, hd⟩
    · exact absurd (Sensor.handlers_eq_nil.mp hnil).2 hopen
    · exact (Sensor.mem_driverHandlers.mp (hd ▸ List.mem_singleton_self _)).1
  rintro (hzero | hnamed)
  · have := w.sensor.report.pos _ hmem
    rw [hid] at hzero
    omega
  · cases step_of_act hact with
    | sensorClose =>
        rw [sensorClose_handlers, hid] at hnamed
        simp at hnamed

/-- As long as closes find no handler, `report_id` is 0 until the first open. -/
theorem reportId_act {a : Action} (hzero : AllClosed w → w.reportId = 0)
    (h : Lifecycle n w) (hun : CloseUnopened w a)
    (hact : d.act pb w a = some w') (hall : AllClosed w') :
    w'.reportId = 0 := by
  by_cases ha : a = .sensorOpen
  · -- the open that was just called is not followed by a close
    subst ha
    cases step_of_act hact with
    | sensorOpen _ =>
        obtain ⟨u, hu, hku⟩ := hall w.tasks.size (by
          rw [Tasks.kind?_create, if_pos rfl])
        have := Tasks.lt_size_of_kind? hku
        rw [Tasks.size_create] at this
        omega
  rw [act_reportId ha hact]
  apply hzero
  rcases act_tasks hact with heq | ⟨rfl, -⟩ | ⟨rfl, -⟩ |
    ⟨b, op, t, c, cs, rfl, -, -, rfl⟩
  · exact (allClosed_congr fun t => by rw [heq]).mp hall
  · exact absurd rfl ha
  · exact h.drivers_eq_nil_iff.mp hun
  · refine (allClosed_congr fun u => ?_).mp hall
    rw [taskReady_eq]
    split
    · rfl
    · exact Tasks.kind?_complete _ _ _ _

omit [GFloat F] in
theorem Lifecycle.idNames (h : Lifecycle n w)
    (hzero : AllClosed w → w.reportId = 0) : IdNamesHandler w := by
  rcases h.handlers with ⟨hall, -⟩ | ⟨-, hd⟩
  · exact Or.inl (hzero hall)
  · exact Or.inr (Sensor.mem_driverHandlers.mp (hd ▸ List.mem_singleton_self _)).1

/-! ## All sequences of opens and closes -/

/-- A sensor at rest that only user code has been using. -/
structure Untouched (v : Sensor F) : Prop extends v.AtRest where
  handlers : v.report.handlers = []
  user : ∀ b k, v.tasks.kind? b = some k → k.callback = .user

omit [GFloat F] in
theorem Untouched.lifecycle {v : Sensor F} (h : Untouched v) :
    Lifecycle v.tasks.size (d.world v) where
  size := rfl
  user := fun b k _ hk => h.user b k hk
  driver := by
    intro t op ht
    exact absurd (ht.symm.trans (Tasks.kind?_empty t)) (by simp)
  waiting := fun t ht _ => absurd ht (Nat.not_lt_zero t)
  handlers := by
    refine Or.inl ⟨fun t ht => ?_, h.handlers⟩
    exact absurd (ht.symm.trans (Tasks.kind?_empty t)) (by simp)
  opening := by
    rintro t ⟨ht, -⟩
    exact absurd (ht.symm.trans (Tasks.kind?_empty t)) (by simp)
  listener := Or.inl h.listeners
  freed := h.freed
  owed := by
    intro i hi
    have hi : i ∈ v.unready := hi
    rw [h.unready] at hi
    exact absurd hi List.not_mem_nil

/-- **The handlers of a driver are in order exactly as long as it is used with
care.** A driver is opened and closed any number of times on an untouched
sensor, with any reports, and any callbacks that fail or not. At most one of its
handlers is ever connected, `report_id` is 0 or names it, failed opens leave
nothing behind and completed closes nothing connected, if and only if the run is
careful and no close finds a handler. Leaving `report_id` aside, the first, third
and fourth hold if and only if the run is careful, provided no close is called
while an open is pending. -/
theorem settled_iff_careful {v : Sensor F} {as : List Action}
    (hv : Untouched v) (has : ∀ a ∈ as, a.IsDriver)
    (hrun : exec (d.act pb) (d.world v) as = some w) :
    (Always (d.act pb) (d.world v)
          (fun _ w => OneHandler w ∧ IdNamesHandler w) as ∧
        StepsMeet (d.act pb) (d.world v) (Settled d pb (d.world v)) as ↔
      StepsMeet (d.act pb) (d.world v)
        (fun _ w a => Careful w a ∧ CloseUnopened w a) as) ∧
    (StepsMeet (d.act pb) (d.world v) (fun _ w a => CloseApart w a) as →
      (Always (d.act pb) (d.world v) (fun _ w => OneHandler w) as ∧
          StepsMeet (d.act pb) (d.world v) (Settled d pb (d.world v)) as ↔
        StepsMeet (d.act pb) (d.world v) (fun _ w a => Careful w a) as)) := by
  have hdriver : StepsMeet (d.act pb) (d.world v) (fun _ _ a => a.IsDriver) as :=
    fun pre a hpre _ _ => has a (hpre.subset (by simp))
  have hstart : Lifecycle v.tasks.size (d.world v) := hv.lifecycle
  have hnone : CalledUnopened d pb (d.world v) [] (d.world v) := by
    intro t ht
    exact absurd (ht.symm.trans (Tasks.kind?_empty t)) (by simp)
  -- what both halves know in every state they reach
  have hstep : ∀ pre w a w', (exec (d.act pb) (d.world v) pre = some w ∧
      Lifecycle v.tasks.size w ∧ CalledUnopened d pb (d.world v) pre w) →
      a.IsDriver → CloseApart w a → Careful w a → d.act pb w a = some w' →
      exec (d.act pb) (d.world v) (pre ++ [a]) = some w' ∧
        Lifecycle v.tasks.size w' ∧
        CalledUnopened d pb (d.world v) (pre ++ [a]) w' := by
    rintro pre w a w' ⟨hexec, hlife, hcalled⟩ ha happ hc hact
    exact ⟨exec_snoc.mpr ⟨w, hexec, hact⟩, lifecycle_act hlife ha happ hc hact,
      calledUnopened_act hcalled hexec hc hact⟩
  constructor
  · refine always_and_stepsMeet_iff (I := fun pre w =>
      (exec (d.act pb) (d.world v) pre = some w ∧ Lifecycle v.tasks.size w ∧
        CalledUnopened d pb (d.world v) pre w) ∧ (AllClosed w → w.reportId = 0))
      hrun hdriver ⟨⟨rfl, hstart, hnone⟩, fun _ => rfl⟩ ?_ ?_ ?_ ?_
    · rintro pre w a w' ⟨h, hzero⟩ ha ⟨hc, hun⟩ hact
      have happ : CloseApart w a := by
        cases a with
        | sensorClose =>
            intro t ht
            exact h.2.1.not_allClosed ht (h.2.1.drivers_eq_nil_iff.mp hun)
        | _ => exact trivial
      exact ⟨hstep pre w a w' h ha happ hc hact,
        reportId_act hzero h.2.1 hun hact⟩
    · rintro pre w ⟨h, hzero⟩
      exact ⟨h.2.1.one, h.2.1.idNames hzero⟩
    · rintro pre w a w' ⟨h, -⟩ - ⟨hc, -⟩ -
      exact settled_of_careful h.2.1 hc
    · rintro pre w a w' ⟨h, -⟩ - hbad hact hsettled ⟨hone, hid⟩
      by_cases hc : Careful w a
      · have hun : ¬ CloseUnopened w a := fun hun => hbad ⟨hc, hun⟩
        cases a with
        | sensorClose => exact not_idNames_of_close h.2.1 hun hact hid
        | _ => exact hun trivial
      · exact not_one_of_not_careful h.2.1 h.2.2 hc hact hsettled hone
  · intro hscope
    refine always_and_stepsMeet_iff (I := fun pre w =>
      exec (d.act pb) (d.world v) pre = some w ∧ Lifecycle v.tasks.size w ∧
        CalledUnopened d pb (d.world v) pre w)
      hrun (hdriver.and hscope) ⟨rfl, hstart, hnone⟩ ?_ ?_ ?_ ?_
    · rintro pre w a w' h ⟨ha, happ⟩ hc hact
      exact hstep pre w a w' h ha happ hc hact
    · rintro pre w ⟨-, hlife, -⟩
      exact hlife.one
    · rintro pre w a w' ⟨-, hlife, -⟩ - hc -
      exact settled_of_careful hlife hc
    · rintro pre w a w' ⟨-, hlife, hcalled⟩ - hc hact hsettled
      exact not_one_of_not_careful hlife hcalled hc hact hsettled

/-! An accelerometer that is not available: its open fails at once, and leaves
the driver's handler connected. -/

def accelUnavailable : Sensor ℚ :=
  Sensor.new { sscSensorInit "accel" with client := true }

omit [GFloat F] in
theorem untouched_new (p : SSCSensorPrivate F) : Untouched (Sensor.new p) :=
  { Sensor.atRest_new p with
    handlers := rfl
    user := fun b _ hk => absurd (hk.symm.trans (Tasks.kind?_empty b)) (by simp) }

def openUnavailable : List Action := [.sensorOpen, .dispatch 0]

theorem handlers_broken_by_failed_open :
    ¬ (Always (accelerometer.toDriver.act (.ofTables [] [] []))
        (accelerometer.toDriver.world accelUnavailable)
        (fun _ w => OneHandler w ∧ IdNamesHandler w) openUnavailable ∧
      StepsMeet (accelerometer.toDriver.act (.ofTables [] [] []))
        (accelerometer.toDriver.world accelUnavailable)
        (Settled accelerometer.toDriver (.ofTables [] [] [])
          (accelerometer.toDriver.world accelUnavailable)) openUnavailable) := by
  rintro ⟨-, h⟩
  have hsettled := h [.sensorOpen] (.dispatch 0) List.prefix_rfl
    ((exec (accelerometer.toDriver.act (.ofTables [] [] []))
      (accelerometer.toDriver.world accelUnavailable) [.sensorOpen]).get
        (by decide)) (Option.some_get _).symm
  have hsame := hsettled.opened
    ((exec (accelerometer.toDriver.act (.ofTables [] [] []))
      (accelerometer.toDriver.world accelUnavailable) openUnavailable).get
        (by decide)) 0
    (sscSensorError .unavailable "Cannot open sensor, unavailable")
    (by rfl) ⟨by decide, by decide, by decide⟩ []
    (accelerometer.toDriver.world accelUnavailable) List.prefix_rfl rfl rfl
  exact absurd hsame (by decide)

/-! An accelerometer that can be opened: the measurement completes the open. -/

def accelAvailable : Sensor ℚ :=
  Sensor.new { sscSensorInit "accel" with
    uid := ⟨2, 2⟩
    available := true
    sampleRate := 5
    client := true }

def openAvailable : List Action :=
  [.sensorOpen, .sendReady 0 none, .report ⟨1025, ⟨2, 2⟩, []⟩, .dispatch 0]

theorem careful_openAvailable :
    StepsMeet (accelerometer.toDriver.act (.ofTables [] [] []))
      (accelerometer.toDriver.world accelAvailable)
      (fun _ w a => Careful w a ∧ CloseUnopened w a) openAvailable := by
  refine (((StepsMeet.nil.snoc (a := Action.sensorOpen) ?_).snoc
    (a := Action.sendReady 0 none) fun _ _ => ⟨trivial, trivial⟩).snoc
      (a := Action.report ⟨1025, ⟨2, 2⟩, []⟩) fun _ _ => ⟨trivial, trivial⟩).snoc
        (a := Action.dispatch 0) ?_
  · intro w hw
    obtain rfl := Option.some.inj hw
    exact ⟨rfl, trivial⟩
  · intro w hw
    refine ⟨fun op t c cs hfind _ => ?_, trivial⟩
    obtain rfl := Option.some.inj hw
    obtain ⟨hkind, hreturns⟩ := Task.mk.inj (Option.some.inj hfind)
    obtain ⟨rfl, -⟩ := TaskInfo.mk.inj hkind
    obtain ⟨rfl, -⟩ := List.cons.inj hreturns
    exact ⟨fun _ => rfl, by simp⟩

theorem settled_iff_careful_accel :
    (Always (accelerometer.toDriver.act (.ofTables [] [] []))
          (accelerometer.toDriver.world accelUnavailable)
          (fun _ w => OneHandler w ∧ IdNamesHandler w) openUnavailable ∧
        StepsMeet (accelerometer.toDriver.act (.ofTables [] [] []))
          (accelerometer.toDriver.world accelUnavailable)
          (Settled accelerometer.toDriver (.ofTables [] [] [])
            (accelerometer.toDriver.world accelUnavailable)) openUnavailable ↔
      StepsMeet (accelerometer.toDriver.act (.ofTables [] [] []))
        (accelerometer.toDriver.world accelUnavailable)
        (fun _ w a => Careful w a ∧ CloseUnopened w a) openUnavailable) ∧
    (Always (accelerometer.toDriver.act (.ofTables [] [] []))
          (accelerometer.toDriver.world accelUnavailable)
          (fun _ w => OneHandler w) openUnavailable ∧
        StepsMeet (accelerometer.toDriver.act (.ofTables [] [] []))
          (accelerometer.toDriver.world accelUnavailable)
          (Settled accelerometer.toDriver (.ofTables [] [] [])
            (accelerometer.toDriver.world accelUnavailable)) openUnavailable ↔
      StepsMeet (accelerometer.toDriver.act (.ofTables [] [] []))
        (accelerometer.toDriver.world accelUnavailable)
        (fun _ w a => Careful w a) openUnavailable) ∧
    Always (accelerometer.toDriver.act (.ofTables [] [] []))
        (accelerometer.toDriver.world accelAvailable)
        (fun _ w => OneHandler w ∧ IdNamesHandler w) openAvailable ∧
      StepsMeet (accelerometer.toDriver.act (.ofTables [] [] []))
        (accelerometer.toDriver.world accelAvailable)
        (Settled accelerometer.toDriver (.ofTables [] [] [])
          (accelerometer.toDriver.world accelAvailable)) openAvailable := by
  have hrun : exec (accelerometer.toDriver.act (.ofTables [] [] []))
      (accelerometer.toDriver.world accelUnavailable) openUnavailable = some _ :=
    (Option.some_get (by decide)).symm
  have hrun' : exec (accelerometer.toDriver.act (.ofTables [] [] []))
      (accelerometer.toDriver.world accelAvailable) openAvailable = some _ :=
    (Option.some_get (by decide)).symm
  obtain ⟨hall, hapart⟩ := settled_iff_careful (untouched_new _)
    (by simp [openUnavailable, Action.IsDriver]) hrun
  have hcareful := (settled_iff_careful (untouched_new _)
    (by simp [openAvailable, Action.IsDriver]) hrun').1.mpr careful_openAvailable
  refine ⟨hall, hapart ?_, hcareful⟩
  intro pre a hpre w _
  cases a with
  | sensorClose =>
      -- nothing is closed
      exact absurd (hpre.subset (List.mem_append_right _ (List.mem_singleton_self _)))
        (by decide)
  | _ => trivial

end Driver

end Libssc

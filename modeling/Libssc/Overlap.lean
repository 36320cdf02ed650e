import Libssc.SingleOperation

/-!
# Overlapping opens

Any number of opens, started in any order with respect to acknowledgements,
configuration updates and measurements. Each connects its own handler and puts
the id of that handler into `priv->report_id`, over the id of the one before.
Handlers and pending opens stay in one-to-one correspondence exactly as long as
every reply that completes an open finds only one of them pending: with two, the
older handler disconnects the newer one.
-/

namespace Libssc.Sensor

open Library

variable {F : Type} [GFloat F] {pb : Protobuf F} {w w' w₀ w₁ : Sensor F}
  {n : ℕ}

/-! ## Opens and their replies -/

/-- A report that is neither a discovery nor an attribute response. -/
def IsOpenReply (r : Report) : Prop :=
  ¬ r.IsSuid ∧ (r.msgId = SSC_MSG_RESPONSE_ENABLE_REPORT ∨
    r.msgId = SSC_MSG_REPORT_MEASUREMENT ∨
    r.msgId = SSC_MSG_REPORT_MEASUREMENT_PROXIMITY)

/-- What happens while opens overlap: another open, an acknowledgement, or a
configuration update or measurement of this or another sensor. -/
def Action.IsOverlap : Action → Prop
  | .call .sensorOpen => True
  | .event (.sendReady _ error) => error = none
  | .event (.report r) => IsOpenReply r
  | _ => False

/-- Connected handlers and pending opens, those from task `n` on, correspond one
to one, and every open that was completed with TRUE disconnected its own
handler. -/
structure OneToOne (n : ℕ) (w : Sensor F) : Prop where
  pending : ∀ t, n ≤ t →
    (w.tasks.pending t = true ↔ ∃ id, (id, .sensor t) ∈ w.listeners)
  owner : ∀ id c, (id, c) ∈ w.listeners → ∃ t, n ≤ t ∧ c = .sensor t
  unique : ∀ id id' c, (id, c) ∈ w.listeners → (id', c) ∈ w.listeners → id = id'
  own : ∀ t, n ≤ t → ∀ c ∈ w.tasks.returns t, c.result = .boolean true →
    c.disconnected = some (.sensor t)

/-- A reply that enables the sensor arrives while at most one open is
pending. -/
def Alone (pb : Protobuf F) (n : ℕ) (w : Sensor F) : Action → Prop
  | .event (.report r) => w.priv.IsEnabled pb r → ∀ t u, n ≤ t → n ≤ u →
      w.tasks.pending t = true → w.tasks.pending u = true → t = u
  | _ => True

/-- One-to-one, with `report_id` naming the handler connected last. -/
structure Overlapping (n : ℕ) (w : Sensor F) : Prop extends OneToOne n w where
  last : ∀ h, w.listeners.getLast? = some h → h.1 = w.priv.reportId
  live : ∀ id t, (id, .sensor t) ∈ w.listeners → t ∉ w.freed
  freed : ∀ t ∈ w.freed, t < w.tasks.size
  size : n ≤ w.tasks.size
  owed : Owed (fun cb => ∃ t, cb.IsFor t) w

omit [GFloat F] in
theorem AtRest.overlapping (h : w.AtRest) : Overlapping w.tasks.size w where
  pending := by
    intro t ht
    rw [Tasks.pending_iff, h.listeners]
    simp
    omega
  owner := by simp [h.listeners]
  unique := by simp [h.listeners]
  own := by
    intro t ht
    simp [Tasks.returns_eq_nil_of_size_le ht]
  last := by simp [h.listeners]
  live := by simp [h.listeners]
  freed := h.freed
  size := Nat.le_refl _
  owed := by
    intro i hi
    rw [h.unready] at hi
    exact absurd hi (by simp)

omit [GFloat F] in
theorem listeners_nodup (w : Sensor F) : (w.listeners.map Prod.fst).Nodup :=
  w.report.nodup.sublist (List.filter_sublist.map _)

/-! ## One more open -/

omit [GFloat F] in
theorem overlapping_refused {k : TaskInfo} (h : Overlapping n w)
    (hw : Refused k w w') : Overlapping n w' := by
  have hlist : w'.listeners = w.listeners := by
    unfold listeners
    rw [hw.report]
  obtain ⟨e, htasks⟩ := hw.tasks
  have hsize : w'.tasks.size = w.tasks.size + 1 := by simp [htasks]
  constructor
  · constructor
    · intro t ht
      rw [hlist, ← h.pending t ht, htasks, Tasks.pending_complete,
        Tasks.pending_create]
      constructor
      · rintro ⟨hne, heq | hp⟩
        · exact absurd heq hne
        · exact hp
      · intro hp
        exact ⟨Nat.ne_of_lt (Tasks.pending_iff.mp hp).1, Or.inr hp⟩
    · rw [hlist]
      exact h.owner
    · rw [hlist]
      exact h.unique
    · intro t ht c hc htrue
      rw [htasks] at hc
      by_cases heq : t = w.tasks.size
      · subst heq
        rw [Tasks.returns_complete_self (by simp), Tasks.returns_create,
          Tasks.returns_eq_nil_of_size_le (Nat.le_refl _)] at hc
        obtain rfl : c = ⟨.error e, none⟩ := by simpa using hc
        exact absurd htrue (by simp)
      · rw [Tasks.returns_complete_ne heq, Tasks.returns_create] at hc
        exact h.own t ht c hc htrue
  · rw [hlist, hw.priv]
    exact h.last
  · rw [hlist, hw.freed]
    exact h.live
  · intro t ht
    rw [hw.freed] at ht
    have := h.freed t ht
    omega
  · have := h.size
    omega
  · unfold Owed
    rw [hw.unready, hw.sent]
    exact h.owed

omit [GFloat F] in
theorem overlapping_started {k : TaskInfo} {req : Request F}
    (h : Overlapping n w) (hw : Started k req w w') : Overlapping n w' := by
  have hlist : w'.listeners =
      w.listeners ++ [(w.report.next, .sensor w.tasks.size)] := by
    have := listeners_connectReport w.tasks.size w
    unfold listeners at this ⊢
    rw [hw.report]
    exact this
  -- no handler of an earlier open has the new task
  have hfresh : ∀ id, (id, Closure.sensor w.tasks.size) ∉ w.listeners := by
    intro id hid
    have hp := (h.pending _ h.size).mpr ⟨id, hid⟩
    exact absurd (Tasks.pending_iff.mp hp).1 (Nat.lt_irrefl _)
  constructor
  · constructor
    · intro t ht
      rw [hw.tasks, Tasks.pending_create, h.pending t ht, hlist]
      constructor
      · rintro (rfl | ⟨id, hid⟩)
        · exact ⟨w.report.next, by simp⟩
        · exact ⟨id, List.mem_append_left _ hid⟩
      · rintro ⟨id, hid⟩
        rcases List.mem_append.mp hid with hid | hid
        · exact Or.inr ⟨id, hid⟩
        · left
          simpa using (congrArg Prod.snd (List.mem_singleton.mp hid))
    · intro id c hc
      rw [hlist] at hc
      rcases List.mem_append.mp hc with hc | hc
      · exact h.owner id c hc
      · exact ⟨w.tasks.size, h.size,
          congrArg Prod.snd (List.mem_singleton.mp hc)⟩
    · intro id id' c hc hc'
      rw [hlist] at hc hc'
      rcases List.mem_append.mp hc with hc | hc
      · rcases List.mem_append.mp hc' with hc' | hc'
        · exact h.unique id id' c hc hc'
        · obtain rfl : c = .sensor w.tasks.size :=
            congrArg Prod.snd (List.mem_singleton.mp hc')
          exact absurd hc (hfresh id)
      · obtain ⟨rfl, rfl⟩ := Prod.ext_iff.mp (List.mem_singleton.mp hc)
        rcases List.mem_append.mp hc' with hc' | hc'
        · exact absurd hc' (hfresh id')
        · exact (congrArg Prod.fst (List.mem_singleton.mp hc')).symm
    · intro t ht
      rw [hw.tasks, Tasks.returns_create]
      exact h.own t ht
  · intro x hx
    rw [hlist, List.getLast?_append] at hx
    obtain rfl : (w.report.next, Closure.sensor w.tasks.size) = x := by
      simpa using hx
    exact hw.reportId.symm
  · intro id t hid
    rw [hlist] at hid
    rw [hw.freed]
    rcases List.mem_append.mp hid with hid | hid
    · exact h.live id t hid
    · obtain rfl : t = w.tasks.size := by
        simpa using congrArg Prod.snd (List.mem_singleton.mp hid)
      exact fun hf => Nat.lt_irrefl _ (h.freed _ hf)
  · intro t ht
    rw [hw.freed] at ht
    rw [hw.tasks, Tasks.size_create]
    exact Nat.lt_succ_of_lt (h.freed t ht)
  · rw [hw.tasks, Tasks.size_create]
    exact Nat.le_succ_of_le h.size
  · exact owed_send h.owed ⟨_, hw.callback⟩ hw.sent hw.unready

/-! ## Acknowledgements -/

omit [GFloat F] in
theorem overlapping_sendReady {i t : ℕ} {r : Request F} (h : Overlapping n w)
    (hr : r.callback.IsFor t) :
    Overlapping n (({ w with unready := w.unready.erase i }).sendReady
      r.callback none) := by
  have herase : Overlapping n { w with unready := w.unready.erase i } :=
    { h with owed := fun j hj => h.owed j (List.mem_of_mem_erase hj) }
  rcases sendReady_of_isFor hr none with ⟨-, heq⟩ | ⟨-, heq⟩
  · rw [heq]
    exact herase
  · rw [heq]
    exact { herase with }

/-! ## Replies -/

theorem emitReport_ignored {r : Report} (h : Overlapping n w)
    (ho : w.priv.outcome pb r = .ignored) : w.emitReport pb r = w := by
  refine emitReport_preserves (P := (· = w)) ?_ rfl
  rintro u id hu v rfl
  rw [reportReceived_eq (h.live id u hu), ho]
  rfl

/-- With one open pending, the reply completes it and disconnects its
handler. -/
theorem overlapping_enabled {r : Report} {id t : ℕ} (h : Overlapping n w)
    (hen : w.priv.IsEnabled pb r) (hl : w.listeners = [(id, .sensor t)]) :
    Overlapping n (w.emitReport pb r) := by
  have hid : id = w.priv.reportId := h.last (id, .sensor t) (by simp [hl])
  have hmem : (id, Closure.sensor t) ∈ w.listeners := by simp [hl]
  have hout := SSCSensorPrivate.outcome_eq_enabled.mpr hen
  rw [emitReport_single hl, reportReceived_eq (h.live id t hmem), hout]
  have hnt : n ≤ t := by
    obtain ⟨u, hu, heq⟩ := h.owner id _ hmem
    obtain rfl : t = u := by simpa using heq
    exact hu
  have hp : w.tasks.pending t = true := (h.pending t hnt).mpr ⟨id, hmem⟩
  have hlist : (w.perform t (.enabled : Outcome F)).listeners = [] := by
    rw [listeners_perform, hl, hid]
    simp [Outcome.result]
  have htasks : (w.perform t (.enabled : Outcome F)).tasks =
      w.tasks.complete t ⟨.boolean true, some (.sensor t)⟩ := by
    have hclosure : w.report.closure? w.priv.reportId = some (.sensor t) := by
      rw [Signal.closure?_eq_some, ← hid]
      exact mem_listeners_sensor.mp hmem
    rw [perform_tasks, hclosure]
    rfl
  constructor
  · constructor
    · intro u hu
      rw [htasks, Tasks.pending_complete, h.pending u hu, hlist, hl]
      simp
    · simp [hlist]
    · simp [hlist]
    · intro u hu c hc htrue
      rw [htasks] at hc
      by_cases heq : u = t
      · subst heq
        rw [Tasks.returns_complete_self (Tasks.pending_iff.mp hp).1,
          (Tasks.pending_iff.mp hp).2] at hc
        obtain rfl : c = ⟨.boolean true, some (.sensor u)⟩ := by simpa using hc
        rfl
      · rw [Tasks.returns_complete_ne heq] at hc
        exact h.own u hu c hc htrue
  · simp [hlist]
  · simp [hlist]
  · intro u hu
    rw [htasks, Tasks.size_complete]
    rw [perform_freed] at hu
    rcases List.mem_append.mp hu with hu | hu
    · exact h.freed u hu
    · rw [List.mem_singleton.mp hu]
      exact (Tasks.pending_iff.mp hp).1
  · rw [htasks, Tasks.size_complete]
    exact h.size
  · unfold Owed
    rw [perform_unready, perform_sent]
    simpa [Outcome.request, Owed] using h.owed

/-- With two opens pending, the older handler disconnects another one's. -/
theorem not_oneToOne_of_two {r : Report} {x y : ℕ × Closure}
    {rest : List (ℕ × Closure)} (h : Overlapping n w)
    (hen : w.priv.IsEnabled pb r) (hl : w.listeners = x :: y :: rest) :
    ¬ OneToOne n (w.emitReport pb r) := by
  obtain ⟨id, c⟩ := x
  obtain ⟨t, ht, rfl⟩ := h.owner id c (by simp [hl])
  have hmem : (id, Closure.sensor t) ∈ w.listeners := by simp [hl]
  obtain ⟨last, hlast⟩ : ∃ z, (y :: rest).getLast? = some z :=
    ⟨_, List.getLast?_eq_some_getLast (by simp)⟩
  have hlast' : w.listeners.getLast? = some last := by
    rw [hl, List.getLast?_cons_cons]
    exact hlast
  have hrep : last.1 = w.priv.reportId := h.last last hlast'
  have hlastmem : last ∈ w.listeners := List.mem_of_getLast? hlast'
  -- the handler that `report_id` names is not the one that runs first
  have hne : last.2 ≠ .sensor t := by
    intro heq
    have hsame : id = last.1 :=
      h.unique id last.1 (.sensor t) hmem (by rw [← heq]; exact hlastmem)
    have hnodup := listeners_nodup w
    rw [hl, List.map_cons, List.nodup_cons] at hnodup
    apply hnodup.1
    show id ∈ _
    rw [hsame]
    exact List.mem_map_of_mem (List.mem_of_getLast? hlast)
  have hclosure : w.report.closure? w.priv.reportId = some last.2 := by
    rw [Signal.closure?_eq_some, ← hrep]
    exact (mem_listeners.mp hlastmem).1
  have hp := Tasks.pending_iff.mp ((h.pending t ht).mpr ⟨id, hmem⟩)
  have hbad : (Completion.mk (.boolean true) (some last.2)) ∈
      (w.emitReport pb r).tasks.returns t := by
    refine emitReport_first (P := fun v => _ ∈ v.tasks.returns t) hl ?_ ?_
    · rw [reportReceived_eq (h.live id t hmem),
        SSCSensorPrivate.outcome_eq_enabled.mpr hen, returns_perform hp.1,
        hclosure]
      simp [Outcome.result]
    · intro u _ _ v hv
      exact mem_returns_reportReceived hv
  intro hone
  have := hone.own t ht _ hbad rfl
  exact hne (Option.some.inj this)

/-! ## All interleavings -/

/-- What an action of an overlap preserves. -/
theorem overlapping_act {a : Action} (h : Overlapping n w) (ha : a.IsOverlap)
    (halone : Alone pb n w a) (hact : w.act pb a = some w') :
    Overlapping n w' := by
  cases a with
  | call c =>
      cases c with
      | sensorOpen =>
          have hcall : w.call .sensorOpen = some w' := hact
          rcases call_cases (by decide) hcall with hw | ⟨req, hw⟩
          · exact overlapping_refused h hw
          · exact overlapping_started h hw
      | _ => exact ha.elim
  | event e =>
      rcases step_cases hact with ⟨i, error, r, rfl, hi, hr, rfl⟩ | ⟨r, rfl, rfl⟩
      · obtain ⟨r', hr', t, hfor⟩ := h.owed i hi
        obtain rfl : r' = r := Option.some.inj (hr'.symm.trans hr)
        obtain rfl : error = none := ha
        exact overlapping_sendReady h hfor
      · by_cases hen : w.priv.IsEnabled pb r
        · rcases hl : w.listeners with _ | ⟨⟨id, c⟩, _ | ⟨⟨id', c'⟩, rest⟩⟩
          · rw [emitReport_none hl]
            exact h
          · obtain ⟨t, ht, rfl⟩ := h.owner id c (by simp [hl])
            exact overlapping_enabled h hen hl
          · obtain ⟨t, ht, rfl⟩ := h.owner id c (by simp [hl])
            obtain ⟨u, hu, rfl⟩ := h.owner id' c' (by simp [hl])
            have htu : t = u := halone hen t u ht hu
              ((h.pending t ht).mpr ⟨id, by simp [hl]⟩)
              ((h.pending u hu).mpr ⟨id', by simp [hl]⟩)
            subst htu
            have hid : id = id' :=
              h.unique id id' (.sensor t) (by simp [hl]) (by simp [hl])
            have hnodup := listeners_nodup w
            rw [hl, hid] at hnodup
            exact absurd hnodup (by simp)
        · have hattr : ¬ w.priv.IsAttributes pb r := by
            rintro ⟨-, hmsg, -⟩
            rcases ha.2 with h' | h' | h'
            · exact absurd (hmsg.symm.trans h') (by decide)
            · exact absurd (hmsg.symm.trans h') (by decide)
            · exact absurd (hmsg.symm.trans h') (by decide)
          rw [emitReport_ignored h
            (SSCSensorPrivate.outcome_eq_ignored ha.1 hattr hen)]
          exact h

/-- A reply that finds two opens pending breaks the correspondence. -/
theorem not_oneToOne_of_not_alone {a : Action} (h : Overlapping n w)
    (halone : ¬ Alone pb n w a) (hact : w.act pb a = some w') :
    ¬ OneToOne n w' := by
  cases a with
  | call c => exact absurd trivial halone
  | event e =>
      cases e with
      | sendReady i error => exact absurd trivial halone
      | report r =>
          obtain rfl := Option.some.inj hact
          simp only [Alone] at halone
          push Not at halone
          obtain ⟨hen, t, u, ht, hu, hpt, hpu, hne⟩ := halone
          obtain ⟨id, hid⟩ := (h.pending t ht).mp hpt
          obtain ⟨id', hid'⟩ := (h.pending u hu).mp hpu
          rcases hl : w.listeners with _ | ⟨x, _ | ⟨y, rest⟩⟩
          · rw [hl] at hid
            exact absurd hid (by simp)
          · rw [hl, List.mem_singleton] at hid hid'
            have := congrArg Prod.snd (hid.trans hid'.symm)
            exact absurd (by simpa using this) hne
          · exact not_oneToOne_of_two h hen hl

/-- **Overlapping opens keep their handlers exactly as long as each is completed
alone.** From a sensor at rest, in every interleaving of opens,
acknowledgements, configuration updates and measurements, handlers and pending
opens correspond one to one in every state, and every completed open has
disconnected its own handler, if and only if every reply that enables the sensor
arrives while at most one open is pending. -/
theorem oneToOne_iff_alone {as : List Action} (hrest : w₀.AtRest)
    (has : ∀ a ∈ as, a.IsOverlap) (hrun : exec (act pb) w₀ as = some w) :
    Always (act pb) w₀ (fun _ w => OneToOne w₀.tasks.size w) as ↔
      StepsMeet (act pb) w₀ (fun _ w a => Alone pb w₀.tasks.size w a) as := by
  have hscope : StepsMeet (act pb) w₀ (fun _ _ a => a.IsOverlap) as :=
    fun pre a hpre _ _ => has a (hpre.subset (by simp))
  refine always_iff_stepsMeet (I := fun _ w => Overlapping w₀.tasks.size w)
    hrun hscope hrest.overlapping ?_ (fun _ _ h => h.toOneToOne) ?_
  · intro _ v a v' h hscope halone hact
    exact overlapping_act h hscope halone hact
  · intro _ v a v' h _ halone hact
    exact not_oneToOne_of_not_alone h halone hact

/-! Two opens of the proximity sensor, then one measurement. -/

def overlap : List Action :=
  [.call .sensorOpen, .call .sensorOpen, .event (.report ⟨1025, ⟨1, 1⟩, []⟩)]

theorem oneToOne_broken_by_overlap :
    ¬ Always (act (.ofTables [] [] [])) (Sensor.new proximityMock)
      (fun _ w => OneToOne 0 w) overlap := by
  intro h
  have hlast := h.last (s := (exec (act (.ofTables [] [] []))
    (Sensor.new proximityMock) overlap).get (by decide)) (by rfl)
  have hown := hlast.own 0 (Nat.le_refl 0)
    ⟨.boolean true, some (.sensor 1)⟩ (by decide) rfl
  exact absurd hown (by decide)

theorem oneToOne_iff_alone_proximity :
    Always (act (.ofTables [] [] [])) (Sensor.new proximityMock)
        (fun _ w => OneToOne 0 w) overlap ↔
      StepsMeet (act (.ofTables [] [] [])) (Sensor.new proximityMock)
        (fun _ w a => Alone (.ofTables [] [] []) 0 w a) overlap :=
  oneToOne_iff_alone
    (w := (exec (act (.ofTables [] [] [])) (Sensor.new proximityMock)
      overlap).get (by decide))
    (atRest_new proximityMock) (by simp [overlap, Action.IsOverlap,
      IsOpenReply, SSC_SENSOR_UID_SUID, SSC_MSG_REPORT_MEASUREMENT])
    (Option.some_get _).symm

end Libssc.Sensor

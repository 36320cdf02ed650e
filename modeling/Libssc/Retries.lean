import Libssc.Discovery
import Libssc.History

/-!
# Waiting for the service

An init polls for the 'registry' sensor until a positive response arrives, and
gives up at the `MAX_RETRIES`-th negative one. `Polling n` is its whole state
after `n` negative responses: a response takes it to `Polling (n + 1)`, also when
nobody listens any more, so that the bound on the polls, the counter and the
moment of giving up are one induction over the events. A positive response in
time ends the wait for good, since nothing ever makes the service unavailable
again.
-/

namespace Libssc

open Library

variable {F : Type} [GFloat F] {pb : Protobuf F}

/-- `SSC_SENSOR_ERROR_NO_SERVICE`, as `g_error_matches` recognises it. -/
abbrev GError.IsNoService (e : GError) : Prop :=
  e.domain = "ssc-sensor" ∧ e.code = SSCSensorError.noService.code

/-- The result an init is completed with when it gives up. -/
def noService : TaskResult :=
  .error (sscSensorError .noService "Sensor service unavailable")

namespace Sensor

open Exchange (pollRequest accelInit)

variable {w w' w₁ : Sensor F} {t n : ℕ} {e : Event} {es : List Event}

/-- Sends succeed, and discovery responses are all that is delivered. -/
def Event.IsPolling : Event → Prop
  | .sendReady _ error => error = none
  | .report r => r.IsSuid

/-- No send fails with the error that giving up has. -/
def Event.FailsOtherwise : Event → Prop
  | .sendReady _ error => ∀ e, error = some e → ¬ e.IsNoService
  | .report _ => True

/-- The discovery response that an event delivers. -/
def suidDelivered (pb : Protobuf F) : Event → Option SscSuidResponse
  | .sendReady _ _ => none
  | .report r => r.suidResponse? pb

/-- All discovery responses delivered, whether anybody listens or not. -/
def delivered (pb : Protobuf F) (es : List Event) : List SscSuidResponse :=
  es.filterMap (suidDelivered pb)

omit [GFloat F] in
theorem delivered_snoc : delivered pb (es ++ [e]) =
    delivered pb es ++ (suidDelivered pb e).toList := by
  unfold delivered
  rw [List.filterMap_append]
  cases h : suidDelivered pb e <;> simp [h]

/-! ## The wait -/

/-- What the wait for the service amounts to after `n` negative responses: the
polls, the counter, the result and whether anybody still listens. -/
structure RetryBound (n : ℕ) (w : Sensor F) : Prop where
  sent : w.sent = List.replicate (1 + min n (MAX_RETRIES - 1)) pollRequest
  retries : w.priv.serviceRetries = min n MAX_RETRIES
  results : (w.tasks.returns 0).map Completion.result =
    if n < MAX_RETRIES then [] else [noService]
  connected : w.listeners ≠ [] ↔ n < MAX_RETRIES

/-- The state of an init that has heard `n` negative responses and no positive
one. -/
structure Polling (n : ℕ) (w : Sensor F) : Prop extends RetryBound n w where
  sole : Sole 0 w
  unavailable : w.priv.serviceAvailable = false

theorem polling_start {p : SSCSensorPrivate F}
    (hcall : (Sensor.new p).call (.init none) = some w₁) : Polling 0 w₁ := by
  have hstage := Exchange.atStage_start hcall
  exact
    { sent := hstage.sent
      retries := by
        rw [show w₁.priv = _ from hstage.priv]
        rfl
      results := hstage.results
      connected := iff_of_true (hstage.connected rfl) (by decide)
      sole := hstage.sole
      unavailable := by
        rw [show w₁.priv = _ from hstage.priv]
        rfl }

omit [GFloat F] in
/-- A negative response during the wait is one more retry, or the last. -/
theorem suidOutcome_of_not_positive {p : SSCSensorPrivate F}
    {m : SscSuidResponse} (hp : p.serviceAvailable = false)
    (hm : ¬ m.Positive) : p.suidOutcome m =
      if MAX_RETRIES ≤ p.serviceRetries + 1 then .noService else .retry := by
  unfold SSCSensorPrivate.suidOutcome
  rw [if_neg hm, if_pos hp]

omit [GFloat F] in
theorem suidOutcome_of_positive {p : SSCSensorPrivate F} {m : SscSuidResponse}
    (hm : m.Positive) : p.suidOutcome m = .serviceFound := if_pos hm

/-- An event that tells the init nothing leaves it where it is. -/
theorem polling_of_told_none (h : Polling n w) (he : e.IsPolling)
    (hstep : w.step pb e = some w') (htold : told pb (w, e) = none) :
    Polling n w' := by
  obtain ⟨hsent, hdisc⟩ := step_of_told_none h.sole hstep htold
  have hretries : w'.priv.serviceRetries = w.priv.serviceRetries :=
    congrArg (·.2.2.2) hdisc
  have havail : w'.priv.serviceAvailable = w.priv.serviceAvailable :=
    congrArg (·.2.2.1) hdisc
  have hsame : w'.tasks = w.tasks ∧ w'.report = w.report := by
    cases e with
    | sendReady i error =>
        obtain ⟨r, -, hran⟩ := sole_sendRan h.sole hstep
        have herror : error = none := he
        subst herror
        exact ⟨hran.tasks_of_none, hran.report⟩
    | report r =>
        obtain rfl := Option.some.inj hstep
        rcases sole_report_cases h.sole pb r with ⟨-, heq⟩ | ⟨hl, -, heq⟩
        · rw [heq]
          exact ⟨rfl, rfl⟩
        · -- a discovery response that does not decode is ignored
          have hnone : r.suidResponse? pb = none := by
            simpa [told, hl] using htold
          have hs : r.IsSuid := he
          have ho : w.priv.outcome pb r = .ignored := by
            have hunpack : pb.suidResponseUnpack r.buf = none := by
              simpa [Report.suidResponse?, hs] using hnone
            rw [SSCSensorPrivate.outcome_of_isSuid hs, hunpack]
          rw [heq, ho]
          exact ⟨rfl, rfl⟩
  have hlist : w'.listeners = w.listeners := by
    unfold listeners
    rw [hsame.2]
  exact
    { sent := hsent.trans h.sent
      retries := hretries.trans h.retries
      results := by rw [hsame.1]; exact h.results
      connected := by rw [hlist]; exact h.connected
      sole := sole_step h.sole hstep
      unavailable := havail.trans h.unavailable }

/-- A poll more for a negative response that is not the last. -/
theorem polling_retry (h : Polling n w) (hn : n + 1 < MAX_RETRIES)
    (hl : w.listeners = [(w.priv.reportId, .sensor 0)]) (hf : 0 ∉ w.freed) :
    Polling (n + 1) (w.perform 0 .retry) := by
  have hretries : w.priv.serviceRetries = n :=
    h.retries.trans (Nat.min_eq_left (by omega))
  have hcount : min (n + 1) MAX_RETRIES = n + 1 :=
    Nat.min_eq_left (Nat.le_of_lt hn)
  have hpolls : 1 + min (n + 1) (MAX_RETRIES - 1) =
      1 + min n (MAX_RETRIES - 1) + 1 := by omega
  have hres := h.results
  rw [if_pos (by omega)] at hres
  constructor
  case sole => exact sole_perform h.sole hl hf
  case unavailable =>
    rw [perform_priv]
    exact h.unavailable
  case toRetryBound =>
    constructor
    case sent =>
      rw [perform_sent, h.sent, hpolls, List.replicate_succ']
      rfl
    case retries =>
      rw [perform_priv, hcount, ← hretries]
      rfl
    case results =>
      rw [returns_perform h.sole.size, List.map_append, hres, if_pos hn]
      rfl
    case connected =>
      refine iff_of_true ?_ hn
      rw [listeners_perform]
      simp [Outcome.result, hl]

/-- The last negative response completes the task and ends the listening. -/
theorem polling_last (h : Polling n w) (hn : n + 1 = MAX_RETRIES)
    (hl : w.listeners = [(w.priv.reportId, .sensor 0)]) (hf : 0 ∉ w.freed) :
    Polling (n + 1) (w.perform 0 .noService) := by
  have hretries : w.priv.serviceRetries = n :=
    h.retries.trans (Nat.min_eq_left (by omega))
  have hcount : min (n + 1) MAX_RETRIES = n + 1 := Nat.min_eq_left (by omega)
  have hpolls : min (n + 1) (MAX_RETRIES - 1) = min n (MAX_RETRIES - 1) := by
    omega
  have hres := h.results
  rw [if_pos (by omega)] at hres
  constructor
  case sole => exact sole_perform h.sole hl hf
  case unavailable =>
    rw [perform_priv]
    exact h.unavailable
  case toRetryBound =>
    constructor
    case sent =>
      rw [perform_sent, h.sent, hpolls]
      exact List.append_nil _
    case retries =>
      rw [perform_priv, hcount, ← hretries]
      rfl
    case results =>
      rw [returns_perform h.sole.size, List.map_append, hres,
        if_neg (by omega)]
      rfl
    case connected =>
      refine iff_of_false ?_ (by omega)
      rw [listeners_perform, hl]
      simp [Outcome.result]

omit [GFloat F] in
/-- When the init has given up, a response more makes no difference. -/
theorem Polling.succ (h : Polling n w) (hn : MAX_RETRIES ≤ n) :
    Polling (n + 1) w where
  sole := h.sole
  unavailable := h.unavailable
  sent := by
    have hmin : min (n + 1) (MAX_RETRIES - 1) = min n (MAX_RETRIES - 1) := by
      omega
    rw [h.sent, hmin]
  retries := by
    have hmin : min (n + 1) MAX_RETRIES = min n MAX_RETRIES := by omega
    rw [h.retries, hmin]
  results := by
    rw [h.results, if_neg (by omega), if_neg (by omega)]
  connected := by
    rw [h.connected]
    omega

omit [GFloat F] in
/-- A connected handler is told whatever is delivered. -/
theorem told_of_connected (pb : Protobuf F) (e : Event)
    (hl : w.listeners ≠ []) : told pb (w, e) = suidDelivered pb e := by
  cases e with
  | sendReady i error => rfl
  | report r => simp [told, suidDelivered, hl]

omit [GFloat F] in
theorem told_of_not_connected (hl : w.listeners = []) :
    told pb (w, e) = none := by
  cases e with
  | sendReady i error => rfl
  | report r => simp [told, hl]

/-- **A negative response counts, everything else leaves the wait alone.** -/
theorem polling_step (h : Polling n w) (he : e.IsPolling)
    (hneg : ∀ m, suidDelivered pb e = some m → ¬ m.Positive)
    (hstep : w.step pb e = some w') :
    Polling (n + (suidDelivered pb e).toList.length) w' := by
  by_cases hn : n < MAX_RETRIES
  · have htold := told_of_connected pb e (h.connected.mpr hn)
    cases hm : suidDelivered pb e with
    | none => exact polling_of_told_none h he hstep (htold.trans hm)
    | some m =>
        obtain ⟨hl, hf, rfl⟩ := step_of_told h.sole hstep (htold.trans hm)
        have hretries : w.priv.serviceRetries = n :=
          h.retries.trans (Nat.min_eq_left (Nat.le_of_lt hn))
        rw [suidOutcome_of_not_positive h.unavailable (hneg m hm), hretries]
        rcases Nat.lt_or_eq_of_le (Nat.succ_le_of_lt hn) with hlt | hlast
        · rw [if_neg (Nat.not_le.mpr hlt)]
          exact polling_retry h hlt hl hf
        · rw [if_pos (Nat.le_of_eq hlast.symm)]
          exact polling_last h hlast hl hf
  · have hl : w.listeners = [] := by
      by_contra hne
      exact hn (h.connected.mp hne)
    have hw' : Polling n w' :=
      polling_of_told_none h he hstep (told_of_not_connected hl)
    cases suidDelivered pb e with
    | none => exact hw'
    | some m => exact hw'.succ (Nat.le_of_not_lt hn)

/-- The wait of a whole run, counted by its negative responses. -/
theorem polling_run (h : Polling 0 w₁) (hes : ∀ e ∈ es, e.IsPolling)
    (hneg : ∀ m ∈ delivered pb es, ¬ m.Positive)
    (hrun : exec (step pb) w₁ es = some w) :
    Polling (delivered pb es).length w := by
  induction es using List.reverseRecOn generalizing w with
  | nil =>
      obtain rfl : w₁ = w := by simpa using hrun
      exact h
  | append_singleton es e ih =>
      obtain ⟨v, hv, hstep⟩ := exec_snoc.mp hrun
      rw [delivered_snoc] at hneg ⊢
      rw [List.length_append]
      have hbefore : Polling (delivered pb es).length v :=
        ih (fun e he => hes e (List.mem_append_left _ he))
          (fun m hm => hneg m (List.mem_append_left _ hm)) hv
      refine polling_step hbefore (hes e (by simp)) ?_ hstep
      intro m hm
      exact hneg m (List.mem_append_right _ (by simp [hm]))

/-! ## Giving up, or never -/

/-- Once the init has given up, nobody listens and nothing is sent. -/
structure GivenUp (sent : List (Request F)) (w : Sensor F) : Prop where
  sole : Sole 0 w
  listeners : w.listeners = []
  sent : w.sent = sent

theorem givenUp_step {l : List (Request F)} (h : GivenUp l w)
    (hstep : w.step pb e = some w') : GivenUp l w' := by
  have hsole := sole_step h.sole hstep
  cases e with
  | sendReady i error =>
      obtain ⟨r, -, hran⟩ := sole_sendRan h.sole hstep
      exact ⟨hsole, hran.listeners.trans h.listeners, hran.sent.trans h.sent⟩
  | report r =>
      obtain rfl := Option.some.inj hstep
      rw [emitReport_none h.listeners]
      exact h

/-- The service is known to be available, and the init has not given up. -/
structure Available (w : Sensor F) : Prop where
  sole : Sole 0 w
  available : w.priv.serviceAvailable = true
  results : ∀ c ∈ w.tasks.returns 0, ∀ e, c.result = .error e → ¬ e.IsNoService

omit [GFloat F] in
/-- With the service available, no report makes an init give up. -/
theorem outcome_ne_noService {p : SSCSensorPrivate F} {r : Report}
    (hp : p.serviceAvailable = true) : p.outcome pb r ≠ .noService := by
  by_cases hs : r.IsSuid
  · rw [SSCSensorPrivate.outcome_of_isSuid hs]
    cases pb.suidResponseUnpack r.buf with
    | none => simp
    | some m =>
        simp only [SSCSensorPrivate.suidOutcome]
        split_ifs with h₁ h₂ h₃ h₄
        · simp
        · exact absurd hp (by simp [h₂])
        · exact absurd hp (by simp [h₂])
        · simp
        · cases m.uid <;> simp
  · intro ho
    have hresult : (p.outcome pb r).result = none ∨ _ :=
      SSCSensorPrivate.outcome_result_of_not_isSuid hs
    rw [ho] at hresult
    exact absurd hresult (by simp [Outcome.result])

omit [GFloat F] in
/-- Giving up is the only outcome that is an error. -/
theorem result_ne_error {o : Outcome F} (ho : o ≠ .noService)
    (e : GError) : o.result ≠ some (.error e) := by
  cases o with
  | noService => exact absurd rfl ho
  | _ => simp [Outcome.result]

theorem serviceAvailable_update {o : Outcome F} {p : SSCSensorPrivate F}
    (hp : p.serviceAvailable = true) : (o.update p).serviceAvailable = true := by
  cases o with
  | serviceFound => rfl
  | attributes m => simpa [Outcome.update] using hp
  | _ => exact hp

theorem available_perform {o : Outcome F} (h : Sole 0 w)
    (hl : w.listeners = [(w.priv.reportId, .sensor 0)]) (hf : 0 ∉ w.freed)
    (hres : ∀ c ∈ w.tasks.returns 0, ∀ e, c.result = .error e → ¬ e.IsNoService)
    (hp : (o.update w.priv).serviceAvailable = true) (ho : o ≠ .noService) :
    Available (w.perform 0 o) where
  sole := sole_perform h hl hf
  available := by
    rw [perform_priv]
    cases o.result <;> exact hp
  results := by
    intro c hc e he
    rw [returns_perform h.size, List.mem_append] at hc
    rcases hc with hc | hc
    · exact hres c hc e he
    · obtain ⟨r, hr, rfl⟩ : ∃ r, o.result = some r ∧
          Completion.mk r (w.report.closure? w.priv.reportId) = c := by
        simpa using hc
      have hre : r = .error e := he
      exact absurd (hre ▸ hr) (result_ne_error ho e)

theorem available_step (h : Available w) (he : e.FailsOtherwise)
    (hstep : w.step pb e = some w') : Available w' := by
  cases e with
  | sendReady i error =>
      obtain ⟨r, -, hran⟩ := sole_sendRan h.sole hstep
      refine ⟨sole_step h.sole hstep, by rw [hran.priv]; exact h.available, ?_⟩
      intro c hc e' he'
      rw [hran.tasks] at hc
      cases htask : r.callback.task with
      | none =>
          rw [htask] at hc
          exact h.results c hc e' he'
      | some u =>
          cases error with
          | none =>
              rw [htask] at hc
              exact h.results c hc e' he'
          | some e =>
              rw [htask] at hc
              rw [Tasks.returns_complete_self h.sole.size, List.mem_append,
                List.mem_singleton] at hc
              rcases hc with hc | rfl
              · exact h.results c hc e' he'
              · obtain rfl : e = e' := by simpa using he'
                exact he e rfl
  | report r =>
      obtain rfl := Option.some.inj hstep
      rcases sole_report_cases h.sole pb r with ⟨-, heq⟩ | ⟨hl, hf, heq⟩
      · rw [heq]
        exact h
      · rw [heq]
        exact available_perform h.sole hl hf h.results
          (serviceAvailable_update h.available)
          (outcome_ne_noService h.available)

/-- A positive response during the wait ends it. -/
theorem available_of_positive {m : SscSuidResponse} (h : Polling n w)
    (hn : n < MAX_RETRIES) (hm : m.Positive)
    (hdelivered : suidDelivered pb e = some m)
    (hstep : w.step pb e = some w') : Available w' := by
  have htold := told_of_connected pb e (h.connected.mpr hn)
  obtain ⟨hl, hf, rfl⟩ := step_of_told h.sole hstep (htold.trans hdelivered)
  rw [suidOutcome_of_positive hm]
  refine available_perform h.sole hl hf ?_ rfl (by simp)
  have hres := h.results
  rw [if_pos hn, List.map_eq_nil_iff] at hres
  simp [hres]

/-- **The wait for the service is bounded.** As long as an init has been given
`n` negative responses and no positive one, it has sent `1 + min n
(MAX_RETRIES - 1)` polls and nothing else, `service_retries` is `min n
MAX_RETRIES`, and it has been completed, with NO_SERVICE, if and only if `n` has
reached `MAX_RETRIES`; from then on nothing is sent and nobody listens, whatever
follows. If a positive response arrives before, NO_SERVICE is never returned,
whatever follows. -/
theorem retries_bounded {p : SSCSensorPrivate F}
    (hcall : (Sensor.new p).call (.init none) = some w₁)
    (hes : ∀ e ∈ es, e.IsPolling)
    (hneg : ∀ m ∈ delivered pb es, ¬ m.Positive)
    (hrun : exec (step pb) w₁ es = some w) :
    RetryBound (delivered pb es).length w ∧
    (MAX_RETRIES ≤ (delivered pb es).length → ∀ bs w',
      exec (step pb) w bs = some w' → w'.sent = w.sent ∧ w'.listeners = []) ∧
    ((delivered pb es).length < MAX_RETRIES → ∀ r m bs w',
      r.suidResponse? pb = some m → m.Positive →
      (∀ e ∈ bs, e.FailsOtherwise) →
      exec (step pb) w (.report r :: bs) = some w' →
      ∀ c ∈ w'.tasks.returns 0, ∀ e, c.result = .error e → ¬ e.IsNoService) := by
  have hpolling := polling_run (polling_start hcall) hes hneg hrun
  refine ⟨hpolling.toRetryBound, ?_, ?_⟩
  · intro hn bs w' hbs
    have hl : w.listeners = [] := by
      by_contra hne
      exact absurd (hpolling.connected.mp hne) (Nat.not_lt.mpr hn)
    have hgiven : Always (step pb) w (fun _ v => GivenUp w.sent v) bs :=
      always_of_stepsMeet (C := fun _ _ _ => True)
        ⟨hpolling.sole, hl, rfl⟩
        (fun _ _ _ _ h _ hstep => givenUp_step h hstep)
        (fun _ _ _ _ _ => trivial)
    exact ⟨(hgiven.last hbs).sent, (hgiven.last hbs).listeners⟩
  · intro hn r m bs w' hr hm hbs hrun'
    obtain ⟨v, hv, hrest⟩ := exec_cons.mp hrun'
    have havail : Always (step pb) v (fun _ v => Available v) bs :=
      always_of_stepsMeet (C := fun _ _ e => e.FailsOtherwise)
        (available_of_positive (e := .report r) hpolling hn hm hr hv)
        (fun _ _ _ _ h he hstep => available_step h he hstep)
        (fun _ e he _ _ => hbs e (he.subset (by simp)))
    exact (havail.last hrest).results

/-! The service of the accelerometer is not there at the first poll. -/

def registryMissing : Protobuf ℚ :=
  .ofTables [([0], ⟨"registry", []⟩), ([1], ⟨"registry", [⟨9, 9⟩]⟩)] [] []

def accelMissed : List Event :=
  [.sendReady 0 none, .report ⟨768, SSC_SENSOR_UID_SUID, [0]⟩]

def accelRetrying : Sensor ℚ :=
  (exec (step registryMissing) accelInit accelMissed).get (by decide)

theorem retries_bounded_accel :
    RetryBound 1 accelRetrying ∧
    ∀ w', exec (step registryMissing) accelRetrying
        [.report ⟨768, SSC_SENSOR_UID_SUID, [1]⟩] = some w' →
      ∀ c ∈ w'.tasks.returns 0, ∀ e, c.result = .error e → ¬ e.IsNoService := by
  have hes : ∀ e ∈ accelMissed, e.IsPolling := by
    intro e he
    rcases List.mem_cons.mp he with rfl | he
    · rfl
    · obtain rfl := List.mem_singleton.mp he
      exact ⟨rfl, rfl⟩
  have hrun : exec (step registryMissing) accelInit accelMissed =
      some accelRetrying := (Option.some_get _).symm
  obtain ⟨hbound, -, hfound⟩ := retries_bounded (p := sscSensorInit "accel")
    (Option.some_get _).symm hes (by decide) hrun
  exact ⟨hbound, fun w' => hfound (by decide) _ ⟨"registry", [⟨9, 9⟩]⟩ [] w'
    (by decide) (by decide) (by simp)⟩

end Sensor

end Libssc

import Libssc.SingleOperation

/-!
# The exchange of an init with the sensor service

An init sends polls, discovery requests and attribute requests. Here the service
answers them: every request whose send does not fail gets exactly one decodable
response of its own kind, at any time after it was sent. Other reports may
arrive at any time as well.

While the init is pending some request is *live*: not answered, not failed, and
of a kind the handler acts on in the present state of the sensor. A live request
can be lost in one way only: an attribute request fails, and `attribute_ready`
logs a warning.
-/

namespace Libssc

open Library

variable {F : Type} [GFloat F]

/-! ## The machine -/

/-- A decodable response of the kind that `q` asks for. -/
def Request.isAnsweredBy (pb : Protobuf F) (q : Request F) (r : Report) : Bool :=
  match q.protobuf with
  | some (.suid m) => decide r.IsSuid &&
      (pb.suidResponseUnpack r.buf).map SscSuidResponse.dataType ==
        some m.dataType
  | some (.attr _) =>
      decide (r.uid = q.uid ∧ r.msgId = SSC_MSG_RESPONSE_GET_ATTRIBUTES) &&
        (pb.attrResponseUnpack r.buf).isSome
  | _ => false

/-- A sensor and what has become of its requests: acknowledged (the send
callback ran without an error), failed, or answered. -/
structure Exchange (F : Type) where
  sensor : Sensor F
  acked : List ℕ
  failed : List ℕ
  answered : List ℕ

namespace Exchange

/-- No request has got any further than being sent. -/
def start (w : Sensor F) : Exchange F where
  sensor := w
  acked := []
  failed := []
  answered := []

/-- The callback of a request runs, with or without an error, the service
answers a request, or some other report arrives. -/
inductive Action where
  | ack (i : ℕ)
  | fail (i : ℕ) (error : GError)
  | answer (i : ℕ) (r : Report)
  | report (r : Report)
deriving DecidableEq, Repr

/-- A request is answered at most once, and not at all if its send fails. -/
def act (pb : Protobuf F) (x : Exchange F) : Action → Option (Exchange F)
  | .ack i =>
      (x.sensor.step pb (.sendReady i none)).map
        (fun w => { x with sensor := w, acked := x.acked ++ [i] })
  | .fail i e =>
      if i ∈ x.answered then none
      else (x.sensor.step pb (.sendReady i (some e))).map
        (fun w => { x with sensor := w, failed := x.failed ++ [i] })
  | .answer i r =>
      match x.sensor.sent[i]? with
      | some q =>
          if q.isAnsweredBy pb r = true ∧ i ∉ x.answered ∧ i ∉ x.failed then
            some { x with
              sensor := x.sensor.emitReport pb r
              answered := x.answered ++ [i] }
          else none
      | none => none
  | .report r => some { x with sensor := x.sensor.emitReport pb r }

variable {pb : Protobuf F} {x x' : Exchange F} {w₁ : Sensor F} {t : ℕ}

theorem act_cases {a : Action} (h : x.act pb a = some x') :
    (∃ i w, a = .ack i ∧ x.sensor.step pb (.sendReady i none) = some w ∧
      x' = { x with sensor := w, acked := x.acked ++ [i] }) ∨
    (∃ i e w, a = .fail i e ∧ i ∉ x.answered ∧
      x.sensor.step pb (.sendReady i (some e)) = some w ∧
      x' = { x with sensor := w, failed := x.failed ++ [i] }) ∨
    (∃ i q r, a = .answer i r ∧ x.sensor.sent[i]? = some q ∧
      q.isAnsweredBy pb r = true ∧ i ∉ x.answered ∧ i ∉ x.failed ∧
      x' = { x with
        sensor := x.sensor.emitReport pb r
        answered := x.answered ++ [i] }) ∨
    (∃ r, a = .report r ∧
      x' = { x with sensor := x.sensor.emitReport pb r }) := by
  cases a with
  | ack i =>
      obtain ⟨w, hw, rfl⟩ := Option.map_eq_some_iff.mp h
      exact Or.inl ⟨i, w, rfl, hw, rfl⟩
  | fail i e =>
      simp only [act] at h
      split at h
      · exact absurd h (by simp)
      · rename_i hi
        obtain ⟨w, hw, rfl⟩ := Option.map_eq_some_iff.mp h
        exact Or.inr (Or.inl ⟨i, e, w, rfl, hi, hw, rfl⟩)
  | answer i r =>
      simp only [act] at h
      split at h
      · rename_i q hq
        split at h
        · rename_i hi
          obtain rfl := Option.some.inj h
          exact Or.inr (Or.inr (Or.inl
            ⟨i, q, r, rfl, hq, hi.1, hi.2.1, hi.2.2, rfl⟩))
        · exact absurd h (by simp)
      · exact absurd h (by simp)
  | report r => exact Or.inr (Or.inr (Or.inr ⟨r, rfl, (Option.some.inj h).symm⟩))

/-! ## Live requests -/

/-- A request whose answer the handler does not ignore. -/
def Live (p : SSCSensorPrivate F) (q : Request F) : Prop :=
  match q.protobuf with
  | some (.suid m) => p.serviceAvailable = true → m.dataType = p.dataType
  | some (.attr _) => q.uid = p.uid
  | _ => False

omit [GFloat F] in
theorem suidOutcome_ne_ignored {p : SSCSensorPrivate F} {m : SscSuidResponse}
    (h : p.serviceAvailable = true → m.dataType = p.dataType) :
    p.suidOutcome m ≠ .ignored := by
  unfold SSCSensorPrivate.suidOutcome
  split_ifs with h₁ h₂ h₃ h₄
  · simp
  · simp
  · simp
  · exact absurd (h (by simpa using h₂)) h₄
  · cases m.uid with
    | nil => simp
    | cons u us => simp

omit [GFloat F] in
/-- The answer to a live request is not ignored. -/
theorem outcome_ne_ignored_of_live {p : SSCSensorPrivate F} {q : Request F}
    {r : Report} (hq : Live p q) (hr : q.isAnsweredBy pb r = true) :
    p.outcome pb r ≠ .ignored := by
  unfold Live at hq
  unfold Request.isAnsweredBy at hr
  cases hp : q.protobuf with
  | none =>
      rw [hp] at hq
      exact hq.elim
  | some msg =>
      rw [hp] at hq hr
      cases msg with
      | suid m =>
          simp only [Bool.and_eq_true, decide_eq_true_eq, beq_iff_eq] at hr
          obtain ⟨hs, hm⟩ := hr
          obtain ⟨m', hm', hd⟩ := Option.map_eq_some_iff.mp hm
          rw [SSCSensorPrivate.outcome_of_isSuid hs, hm']
          have hq : p.serviceAvailable = true → m.dataType = p.dataType := hq
          refine suidOutcome_ne_ignored fun havail => ?_
          rw [hd]
          exact hq havail
      | attr m =>
          simp only [Bool.and_eq_true, decide_eq_true_eq] at hr
          obtain ⟨⟨huid, hmsg⟩, hm⟩ := hr
          obtain ⟨m', hm'⟩ := Option.isSome_iff_exists.mp hm
          have hq : q.uid = p.uid := hq
          rw [SSCSensorPrivate.outcome_eq_attributes.mpr
            ⟨huid.trans hq, hmsg, hm'⟩]
          simp
      | enableConfig m => exact hq.elim

omit [GFloat F] in
theorem serviceAvailable_of_retry {p : SSCSensorPrivate F} {r : Report}
    (h : p.outcome pb r = .retry) : p.serviceAvailable = false := by
  by_cases hs : r.IsSuid
  · rw [SSCSensorPrivate.outcome_of_isSuid hs] at h
    cases hm : pb.suidResponseUnpack r.buf with
    | none => simp [hm] at h
    | some m =>
        simp only [hm, SSCSensorPrivate.suidOutcome] at h
        split_ifs at h with h₁ h₂ h₃ h₄
        · exact h₂
        · cases hu : m.uid <;> simp [hu] at h
  · unfold SSCSensorPrivate.outcome at h
    rw [if_neg hs] at h
    split_ifs at h
    · cases hm : pb.attrResponseUnpack r.buf <;> simp [hm] at h
    · cases hm : pb.configResponseUnpack r.buf <;> simp [hm] at h

/-- A report that is not ignored completes the task or makes the handler send a
live request. -/
theorem result_or_live {p : SSCSensorPrivate F} {r : Report} (t : ℕ)
    (h : p.outcome pb r ≠ .ignored) :
    (p.outcome pb r).result ≠ none ∨
      ∃ q, (p.outcome pb r).request t ((p.outcome pb r).update p) = some q ∧
        Live ((p.outcome pb r).update p) q := by
  cases ho : p.outcome pb r with
  | ignored => exact absurd ho h
  | serviceFound => exact Or.inr ⟨_, rfl, fun _ => rfl⟩
  | retry =>
      refine Or.inr ⟨_, rfl, ?_⟩
      simp [Live, Outcome.update, serviceAvailable_of_retry ho]
  | discovered u => exact Or.inr ⟨_, rfl, rfl⟩
  | _ => exact Or.inl (by simp [Outcome.result])

/-! ## Pending inits have a live request -/

/-- Something is still to come for the request: its callback, or the answer after
an acknowledgement. -/
def Unresolved (x : Exchange F) (i : ℕ) : Prop :=
  i < x.sensor.sent.length ∧
    (i ∈ x.sensor.unready ∨ (i ∈ x.acked ∧ i ∉ x.answered))

/-- As long as task `t` is pending its handler is connected and one of its
requests is live. -/
structure Progress (t : ℕ) (x : Exchange F) : Prop extends
    Sensor.Sole t x.sensor where
  settled : ∀ i < x.sensor.sent.length,
    i ∈ x.sensor.unready ∨ i ∈ x.acked ∨ i ∈ x.failed
  past : ∀ i, i ∈ x.failed ∨ i ∈ x.answered → i < x.sensor.sent.length
  connected : x.sensor.tasks.pending t = true → x.sensor.listeners ≠ []
  live : x.sensor.tasks.pending t = true →
    ∃ i q, x.sensor.sent[i]? = some q ∧ i ∉ x.answered ∧ i ∉ x.failed ∧
      Live x.sensor.priv q

omit [GFloat F] in
/-- A live request is unresolved. -/
theorem Progress.unresolved (h : Progress t x)
    (hp : x.sensor.tasks.pending t = true) : ∃ i, x.Unresolved i := by
  obtain ⟨i, q, hq, hans, hfail, -⟩ := h.live hp
  have hlt : i < x.sensor.sent.length := (List.getElem?_eq_some_iff.mp hq).1
  refine ⟨i, hlt, ?_⟩
  rcases h.settled i hlt with hi | hi | hi
  · exact Or.inl hi
  · exact Or.inr ⟨hi, hans⟩
  · exact absurd hi hfail

/-- A new init has sent its first poll, or has failed at once. -/
theorem progress_start {p : SSCSensorPrivate F} {error : Option GError}
    (hcall : (Sensor.new p).call (.init error) = some w₁) :
    Progress 0 (start w₁) := by
  have hsole : Sensor.Sole 0 w₁ :=
    Sensor.sole_call (Sensor.atRest_new p) (by simp) hcall
  simp only [Sensor.call] at hcall
  split at hcall
  · exact absurd hcall (by simp)
  obtain rfl := Option.some.inj hcall
  cases error with
  | some e =>
      have hnot : ((Sensor.new p).initableInitAsync (some e)).tasks.pending 0 ≠
          true := by
        show ¬ (false = true)
        simp
      exact
        { hsole with
          settled := fun i hi => absurd hi (Nat.not_lt_zero i)
          past := by simp [start]
          connected := fun hp => absurd hp hnot
          live := fun hp => absurd hp hnot }
  | none =>
      refine { hsole with settled := ?_, past := ?_, connected := ?_, live := ?_ }
      · intro i hi
        obtain rfl : i = 0 := Nat.lt_one_iff.mp hi
        exact Or.inl List.mem_cons_self
      · simp [start]
      · intro _ hnil
        exact absurd hnil (by simp [start, Sensor.initableInitAsync,
          Sensor.clientReady, Sensor.connectReport, Sensor.listeners,
          Sensor.waitForSensorService, Sensor.useTask, Sensor.clientSend,
          Sensor.new, Signal.empty])
      · intro _
        exact ⟨0, _, rfl, by simp [start], by simp [start],
          fun havail => absurd (show false = true from havail) (by simp)⟩

/-- A request that the handler sends is owed a callback. -/
theorem settled_perform (h : Progress t x) (o : Outcome F) :
    ∀ i < (x.sensor.perform t o).sent.length,
      i ∈ (x.sensor.perform t o).unready ∨ i ∈ x.acked ∨ i ∈ x.failed := by
  intro i hi
  rw [Sensor.perform_unready]
  by_cases hlt : i < x.sensor.sent.length
  · exact (h.settled i hlt).imp_left (List.mem_append_left _)
  · left
    simp only [Sensor.perform_sent, List.length_append] at hi
    cases hq : o.request t (o.update x.sensor.priv) with
    | none =>
        rw [hq] at hi
        exact absurd hi hlt
    | some q =>
        rw [hq] at hi
        have hlast : i = x.sensor.sent.length := by
          simp only [Option.toList_some, List.length_singleton] at hi
          omega
        simp [hlast]

/-- After a report without a result some request is live: the one the handler
sends, or one that was live before. -/
theorem live_perform (h : Progress t x) {r : Report} {l : List ℕ}
    (hp : x.sensor.tasks.pending t = true)
    (hl : ∀ i ∈ l, ∃ q, x.sensor.sent[i]? = some q ∧
      q.isAnsweredBy pb r = true)
    (hpast : ∀ i, i ∈ x.failed ∨ i ∈ x.answered ++ l →
      i < x.sensor.sent.length)
    (hnone : (x.sensor.priv.outcome pb r).result = none) :
    ∃ i q, (x.sensor.perform t (x.sensor.priv.outcome pb r)).sent[i]? = some q ∧
      i ∉ x.answered ++ l ∧ i ∉ x.failed ∧
      Live (x.sensor.perform t (x.sensor.priv.outcome pb r)).priv q := by
  have hpriv := Sensor.perform_priv t (x.sensor.priv.outcome pb r) x.sensor
  rw [hnone] at hpriv
  simp only [Sensor.perform_sent, hpriv]
  by_cases hig : x.sensor.priv.outcome pb r = .ignored
  · -- nothing was sent, and no live request was answered
    obtain ⟨i, q, hq, hans, hfail, hlive⟩ := h.live hp
    refine ⟨i, q, ?_, ?_, hfail, ?_⟩
    · rw [List.getElem?_append_left (List.getElem?_eq_some_iff.mp hq).1]
      exact hq
    · intro hi
      rcases List.mem_append.mp hi with hi | hi
      · exact hans hi
      · obtain ⟨q', hq', hr⟩ := hl i hi
        obtain rfl : q' = q := Option.some.inj (hq'.symm.trans hq)
        exact outcome_ne_ignored_of_live hlive hr hig
    · rw [hig]
      exact hlive
  · rcases result_or_live t hig with hr | ⟨q, hq, hlive⟩
    · exact absurd hnone hr
    · refine ⟨x.sensor.sent.length, q, by simp [hq], ?_, ?_, hlive⟩
      · exact fun hi => absurd (hpast _ (Or.inr hi)) (Nat.lt_irrefl _)
      · exact fun hi => absurd (hpast _ (Or.inl hi)) (Nat.lt_irrefl _)

/-- A report keeps an init progressing if the requests it answers are answered
in kind. -/
theorem progress_emitReport (pb : Protobuf F) (r : Report) {l : List ℕ}
    (h : Progress t x)
    (hl : ∀ i ∈ l, ∃ q, x.sensor.sent[i]? = some q ∧
      q.isAnsweredBy pb r = true) :
    Progress t { x with
      sensor := x.sensor.emitReport pb r
      answered := x.answered ++ l } := by
  have hpast : ∀ i, i ∈ x.failed ∨ i ∈ x.answered ++ l →
      i < x.sensor.sent.length := by
    rintro i (hi | hi)
    · exact h.past i (Or.inl hi)
    · rcases List.mem_append.mp hi with hi | hi
      · exact h.past i (Or.inr hi)
      · obtain ⟨q, hq, -⟩ := hl i hi
        exact (List.getElem?_eq_some_iff.mp hq).1
  have hsole : Sensor.Sole t (x.sensor.emitReport pb r) :=
    Sensor.sole_step (e := .report r) h.toSole rfl
  rcases Sensor.sole_report_cases h.toSole pb r with
    ⟨hnil, heq⟩ | ⟨hlist, -, heq⟩
  · have hnot : x.sensor.tasks.pending t ≠ true := fun hp => h.connected hp hnil
    rw [heq]
    exact
      { toSole := h.toSole
        settled := h.settled
        past := hpast
        connected := fun hp => absurd hp hnot
        live := fun hp => absurd hp hnot }
  · rw [heq] at hsole ⊢
    -- the task is still pending only if the outcome has no result
    have hres : (x.sensor.perform t (x.sensor.priv.outcome pb r)).tasks.pending
        t = true → (x.sensor.priv.outcome pb r).result = none ∧
          x.sensor.tasks.pending t = true := by
      intro hp
      rw [Sensor.perform_tasks] at hp
      cases hr : (x.sensor.priv.outcome pb r).result with
      | none =>
          rw [hr] at hp
          exact ⟨rfl, hp⟩
      | some res =>
          rw [hr, Tasks.pending_complete] at hp
          exact absurd rfl hp.1
    refine
      { toSole := hsole
        settled := settled_perform h _
        past := ?_
        connected := ?_
        live := ?_ }
    · intro i hi
      have hlt := hpast i hi
      simp only [Sensor.perform_sent, List.length_append]
      omega
    · intro hp
      obtain ⟨hnone, hp⟩ := hres hp
      unfold Sensor.listeners
      rw [Sensor.perform_report_of_none hnone]
      exact h.connected hp
    · intro hp
      obtain ⟨hnone, hp⟩ := hres hp
      exact live_perform h hp hl hpast hnone

/-! ## Failures -/

/-- If the action is a failure and the init is pending, the init is completed
with that error. -/
def FailureReported (pb : Protobuf F) (t : ℕ) (x : Exchange F) (a : Action) :
    Prop :=
  ∀ i e x', a = .fail i e → x.sensor.tasks.pending t = true →
    x.act pb a = some x' →
    ∃ c ∈ x'.sensor.tasks.returns t, c.result = .error e

/-- No attribute request fails while the init is pending. -/
def AttributeRequestSent (t : ℕ) (x : Exchange F) (a : Action) : Prop :=
  ∀ i e q, a = .fail i e → x.sensor.tasks.pending t = true →
    x.sensor.sent[i]? = some q → q.callback ≠ .attributeReady

omit [GFloat F] in
theorem attributeReady_of_task_eq_none {cb : SendCallback} {t : ℕ}
    (h : cb.IsFor t) : cb.task = none ↔ cb = .attributeReady := by
  rcases h with rfl | rfl | rfl | rfl <;> simp [SendCallback.task]

/-- An acknowledgement keeps an init progressing. -/
theorem progress_ack {i : ℕ} {w : Sensor F} (h : Progress t x)
    (hstep : x.sensor.step pb (.sendReady i none) = some w) :
    Progress t { x with sensor := w, acked := x.acked ++ [i] } := by
  obtain ⟨r, hi, hran⟩ := Sensor.sole_sendRan h.toSole hstep
  have htasks : w.tasks = x.sensor.tasks := hran.tasks_of_none
  have hlist : w.listeners = x.sensor.listeners := hran.listeners
  refine
    { toSole := Sensor.sole_step h.toSole hstep
      settled := ?_
      past := ?_
      connected := ?_
      live := ?_ }
  · intro j hj
    simp only [hran.sent] at hj
    simp only [hran.unready, List.mem_append, List.mem_singleton]
    by_cases hji : j = i
    · exact Or.inr (Or.inl (Or.inr hji))
    · rcases h.settled j hj with hu | ha | hf
      · exact Or.inl ((List.mem_erase_of_ne hji).mpr hu)
      · exact Or.inr (Or.inl (Or.inl ha))
      · exact Or.inr (Or.inr hf)
  · simp only [hran.sent]
    exact h.past
  · simp only [htasks, hlist]
    exact h.connected
  · simp only [htasks, hran.sent, hran.priv]
    exact h.live

/-- A failure of a request with the task completes the task; otherwise nothing
but the request is lost. -/
theorem progress_fail {i : ℕ} {e : GError} {w : Sensor F} (h : Progress t x)
    (hok : AttributeRequestSent t x (.fail i e))
    (hstep : x.sensor.step pb (.sendReady i (some e)) = some w) :
    Progress t { x with sensor := w, failed := x.failed ++ [i] } := by
  obtain ⟨r, hi, hran⟩ := Sensor.sole_sendRan h.toSole hstep
  have hnot : w.tasks.pending t ≠ true := by
    rw [hran.tasks]
    cases htask : r.callback.task with
    | none =>
        intro hp
        exact hok i e r rfl hp hran.request
          ((attributeReady_of_task_eq_none hran.isFor).mp htask)
    | some u =>
        intro hp
        exact (Tasks.pending_complete.mp hp).1 rfl
  refine
    { toSole := Sensor.sole_step h.toSole hstep
      settled := ?_
      past := ?_
      connected := fun hp => absurd hp hnot
      live := fun hp => absurd hp hnot }
  · intro j hj
    simp only [hran.sent] at hj
    simp only [hran.unready, List.mem_append, List.mem_singleton]
    by_cases hji : j = i
    · exact Or.inr (Or.inr (Or.inr hji))
    · rcases h.settled j hj with hu | ha | hf
      · exact Or.inl ((List.mem_erase_of_ne hji).mpr hu)
      · exact Or.inr (Or.inl ha)
      · exact Or.inr (Or.inr (Or.inl hf))
  · intro j hj
    simp only [hran.sent]
    rcases hj with hj | hj
    · rcases List.mem_append.mp hj with hj | hj
      · exact h.past j (Or.inl hj)
      · rw [List.mem_singleton.mp hj]
        exact (List.getElem?_eq_some_iff.mp hran.request).1
    · exact h.past j (Or.inr hj)

theorem progress_act {a : Action} (h : Progress t x)
    (hok : AttributeRequestSent t x a) (hact : x.act pb a = some x') :
    Progress t x' := by
  rcases act_cases hact with ⟨i, w, rfl, hstep, rfl⟩ |
    ⟨i, e, w, rfl, -, hstep, rfl⟩ | ⟨i, q, r, rfl, hq, hr, -, -, rfl⟩ |
    ⟨r, rfl, rfl⟩
  · exact progress_ack h hstep
  · exact progress_fail h hok hstep
  · apply progress_emitReport pb r h
    intro j hj
    obtain rfl := List.mem_singleton.mp hj
    exact ⟨q, hq, hr⟩
  · have := progress_emitReport pb r (l := []) h (by simp)
    simpa using this

/-- A failure is reported to the init exactly if it is not that of an attribute
request. -/
theorem failureReported_iff {a : Action} (h : Progress t x)
    (hact : x.act pb a = some x') :
    FailureReported pb t x a ↔ AttributeRequestSent t x a := by
  constructor
  · rintro hrep i e q rfl hp hq hcb
    obtain ⟨c, hc, hce⟩ := hrep i e x' rfl hp hact
    rcases act_cases hact with ⟨i, w, heq, -⟩ | ⟨j, e', w, heq, -, hstep, rfl⟩ |
      ⟨i, q, r, heq, -⟩ | ⟨r, heq, -⟩
    · exact absurd heq (by simp)
    · obtain ⟨rfl, rfl⟩ : i = j ∧ e = e' := by simpa using heq
      obtain ⟨r, -, hran⟩ := Sensor.sole_sendRan h.toSole hstep
      obtain rfl : q = r := Option.some.inj (hq.symm.trans hran.request)
      have htasks : w.tasks = x.sensor.tasks := by
        rw [hran.tasks, hcb]
        rfl
      rw [htasks, (Tasks.pending_iff.mp hp).2] at hc
      exact absurd hc (by simp)
    · exact absurd heq (by simp)
    · exact absurd heq (by simp)
  · rintro hok i e x'' rfl hp hact'
    rcases act_cases hact' with ⟨i, w, heq, -⟩ | ⟨j, e', w, heq, -, hstep, rfl⟩ |
      ⟨i, q, r, heq, -⟩ | ⟨r, heq, -⟩
    · exact absurd heq (by simp)
    · obtain ⟨rfl, rfl⟩ : i = j ∧ e = e' := by simpa using heq
      obtain ⟨r, -, hran⟩ := Sensor.sole_sendRan h.toSole hstep
      have hcb := hok i e r rfl hp hran.request
      cases htask : r.callback.task with
      | none =>
          exact absurd
            ((attributeReady_of_task_eq_none hran.isFor).mp htask) hcb
      | some u =>
          refine ⟨⟨.error e, none⟩, ?_, rfl⟩
          rw [show w.tasks = x.sensor.tasks.complete t ⟨.error e, none⟩ by
            rw [hran.tasks, htask], Tasks.returns_complete_self h.size]
          simp
    · exact absurd heq (by simp)
    · exact absurd heq (by simp)

/-- **An init is never stuck exactly as long as no attribute request fails.** In
every run of a new init with a service that answers each request it received
once, the pending init always has an unresolved request and every failed send
completes it with the error, if and only if no attribute request fails while the
init is pending. -/
theorem unresolved_iff_attributeRequestSent {p : SSCSensorPrivate F}
    {error : Option GError} {as : List Action}
    (hcall : (Sensor.new p).call (.init error) = some w₁)
    (hrun : exec (act pb) (start w₁) as = some x) :
    (Always (act pb) (start w₁) (fun _ x => x.sensor.tasks.pending 0 = true →
        ∃ i, x.Unresolved i) as ∧
      StepsMeet (act pb) (start w₁) (fun _ x a => FailureReported pb 0 x a) as) ↔
    StepsMeet (act pb) (start w₁) (fun _ x a => AttributeRequestSent 0 x a) as := by
  have hstart := progress_start hcall
  have hall : StepsMeet (act pb) (start w₁) (fun _ _ _ => True) as :=
    fun _ _ _ _ _ => trivial
  apply always_and_stepsMeet_iff (I := fun _ x => Progress 0 x) hrun hall hstart
  case hstep => exact fun _ _ _ _ h _ hok hact => progress_act h hok hact
  case hsound => exact fun _ _ h hp => h.unresolved hp
  case hgood =>
    exact fun _ _ _ _ h _ hok hact => (failureReported_iff h hact).mpr hok
  case hbreak =>
    -- a step that fails an attribute request already fails the second half
    intro pre v a v' h _ hnot hact hrep
    exact absurd ((failureReported_iff h hact).mp hrep) hnot

/-! The attribute request of an accelerometer is cancelled: the init is pending
and nothing is left to come. -/

def accelKnown : Protobuf ℚ :=
  .ofTables [([0], ⟨"registry", [⟨9, 9⟩]⟩), ([1], ⟨"accel", [⟨1, 1⟩]⟩)] [] []

def accelInit : Sensor ℚ :=
  ((Sensor.new (sscSensorInit "accel")).call (.init none)).get (by decide)

def attributeRequestCancelled : List Action :=
  [.ack 0, .answer 0 ⟨768, SSC_SENSOR_UID_SUID, [0]⟩,
    .ack 1, .answer 1 ⟨768, SSC_SENSOR_UID_SUID, [1]⟩,
    .fail 2 Sensor.cancelled]

theorem stuck_after_attributeRequestCancelled :
    ¬ Always (act accelKnown) (start accelInit)
      (fun _ x => x.sensor.tasks.pending 0 = true → ∃ i, x.Unresolved i)
      attributeRequestCancelled := by
  intro h
  have hlast := h.last (s := (exec (act accelKnown) (start accelInit)
    attributeRequestCancelled).get (by decide)) (by rfl) (by decide)
  obtain ⟨i, -, hunready | ⟨hacked, hanswered⟩⟩ := hlast
  · exact absurd hunready (List.not_mem_nil)
  · exact hanswered hacked

theorem unresolved_iff_attributeRequestSent_accel :
    (Always (act accelKnown) (start accelInit)
        (fun _ x => x.sensor.tasks.pending 0 = true → ∃ i, x.Unresolved i)
        attributeRequestCancelled ∧
      StepsMeet (act accelKnown) (start accelInit)
        (fun _ x a => FailureReported accelKnown 0 x a)
        attributeRequestCancelled) ↔
    StepsMeet (act accelKnown) (start accelInit)
      (fun _ x a => AttributeRequestSent 0 x a) attributeRequestCancelled :=
  unresolved_iff_attributeRequestSent (p := sscSensorInit "accel")
    (x := (exec (act accelKnown) (start accelInit)
      attributeRequestCancelled).get (by decide))
    (Option.some_get _).symm (Option.some_get _).symm

end Exchange

end Libssc

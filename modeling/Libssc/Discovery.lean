import Libssc.Exchange

/-!
# The stages of an init

A service with a 'registry' entry answers every request of an init from its own
tables. The init then goes through fixed stages: it polls, discovers its sensor
and populates the attributes, or finds that there is no such sensor. `AtStage`
describes the whole state in each of them, and `atStage_act` says that an answer
always leads to the next one.

This holds for every data type but one. An init for 'registry' itself cannot
tell the answer to its discovery request from the answer to a poll, and sends
another discovery request each time.
-/

namespace Libssc.Exchange

open Library

variable {F : Type} [GFloat F] {pb : Protobuf F} {x x' : Exchange F}
  {w₁ : Sensor F}

/-! ## Services -/

/-- A service: the UIDs it lists for a data type, and the attribute responses it
may give for a UID. -/
structure Service (F : Type) where
  suid : String → List SscUid
  attributes : SscUid → SscAttrResponse F → Prop

/-- All requests succeed, nothing but answers arrives, and the answers are those
of the service. -/
def Served (pb : Protobuf F) (svc : Service F) (x : Exchange F) : Action → Prop
  | .ack _ => True
  | .answer i r => ∀ q, x.sensor.sent[i]? = some q →
      (∀ m, q.protobuf = some (.suid m) →
        pb.suidResponseUnpack r.buf = some ⟨m.dataType, svc.suid m.dataType⟩) ∧
      (∀ m, q.protobuf = some (.attr m) → ∀ m',
        pb.attrResponseUnpack r.buf = some m' → svc.attributes q.uid m')
  | _ => False

/-! ## Stages -/

/-- The poll for the 'registry' sensor that starts an init. -/
def pollRequest : Request F where
  uid := SSC_SENSOR_UID_SUID
  msgId := SSC_MSG_REQUEST_SUID
  protobuf := some (.suid ⟨"registry", some false, some true⟩)
  callback := .waitForSensorServiceReady 0

def discoveryRequest (dataType : String) : Request F where
  uid := SSC_SENSOR_UID_SUID
  msgId := SSC_MSG_REQUEST_SUID
  protobuf := some (.suid ⟨dataType, some false, some true⟩)
  callback := .discoveryReady 0

def attributeRequest (u : SscUid) : Request F where
  uid := u
  msgId := SSC_MSG_REQUEST_GET_ATTRIBUTES
  protobuf := some (.attr ⟨some false⟩)
  callback := .attributeReady

/-- How far an init has got. -/
inductive Stage (F : Type) where
  | polling
  | discovering
  | populating (u : SscUid)
  | absent
  | populated (u : SscUid) (m : SscAttrResponse F)

namespace Stage

/-- The requests sent by then. -/
def sent (d : String) : Stage F → List (Request F)
  | .polling => [pollRequest]
  | .discovering => [pollRequest, discoveryRequest d]
  | .populating u => [pollRequest, discoveryRequest d, attributeRequest u]
  | .absent => [pollRequest, discoveryRequest d]
  | .populated u _ => [pollRequest, discoveryRequest d, attributeRequest u]

/-- The number of requests answered by then. -/
def answers : Stage F → ℕ
  | .polling => 0
  | .discovering => 1
  | .populating _ => 2
  | .absent => 2
  | .populated _ _ => 3

/-- The private data of a sensor object that started as `p`. -/
def priv (p : SSCSensorPrivate F) (s : Stage F) : SSCSensorPrivate F :=
  let p := { p with client := true, reportId := 1, serviceRetries := 0 }
  match s with
  | .polling => { p with serviceAvailable := false }
  | .discovering => { p with serviceAvailable := true }
  | .populating u => { p with serviceAvailable := true, uid := u }
  | .absent => { p with serviceAvailable := true, reportId := 0 }
  | .populated u m =>
      { attributesReceived { p with serviceAvailable := true, uid := u } m with
        reportId := 0 }

/-- The result of the init, once it has one. -/
def result : Stage F → Option TaskResult
  | .absent => some (.boolean false)
  | .populated _ _ => some (.boolean true)
  | _ => none

/-- The stages an init for data type `d` can reach with a service. -/
def Valid (svc : Service F) (d : String) : Stage F → Prop
  | .polling => True
  | .discovering => True
  | .populating u => ∃ us, svc.suid d = u :: us
  | .absent => svc.suid d = []
  | .populated u m => (∃ us, svc.suid d = u :: us) ∧ svc.attributes u m

end Stage

/-- The state of an init of the object `p` at stage `s`. -/
structure AtStage (p : SSCSensorPrivate F) (s : Stage F) (x : Exchange F) :
    Prop where
  sole : Sensor.Sole 0 x.sensor
  sent : x.sensor.sent = s.sent p.dataType
  answered : x.answered = List.range s.answers
  priv : x.sensor.priv = s.priv p
  results : (x.sensor.tasks.returns 0).map Completion.result = s.result.toList
  connected : s.result = none → x.sensor.listeners ≠ []

theorem atStage_start {p : SSCSensorPrivate F}
    (hcall : (Sensor.new p).call (.init none) = some w₁) :
    AtStage p .polling (start w₁) := by
  have hprogress := progress_start hcall
  have hsole := hprogress.toSole
  have hconnected := hprogress.connected
  simp only [Sensor.call] at hcall
  split at hcall
  · exact absurd hcall (by simp)
  obtain rfl := Option.some.inj hcall
  exact
    { sole := hsole
      sent := rfl
      answered := rfl
      priv := rfl
      results := rfl
      connected := fun _ => hconnected rfl }

/-- An acknowledgement changes nothing about the stage. -/
theorem atStage_ack {p : SSCSensorPrivate F} {s : Stage F} {i : ℕ} {w : Sensor F}
    (h : AtStage p s x)
    (hstep : x.sensor.step pb (.sendReady i none) = some w) :
    AtStage p s { x with sensor := w, acked := x.acked ++ [i] } := by
  obtain ⟨r, -, hran⟩ := Sensor.sole_sendRan h.sole hstep
  have htasks : w.tasks = x.sensor.tasks := hran.tasks_of_none
  have hlist : w.listeners = x.sensor.listeners := hran.listeners
  exact
    { sole := Sensor.sole_step h.sole hstep
      sent := hran.sent.trans h.sent
      answered := h.answered
      priv := hran.priv.trans h.priv
      results := by
        show (w.tasks.returns 0).map _ = _
        rw [htasks]
        exact h.results
      connected := by
        show _ → w.listeners ≠ []
        rw [hlist]
        exact h.connected }

/-- A report that leads from one stage to the next: the outcome accounts for the
requests, the private data and the result. -/
theorem atStage_next {p : SSCSensorPrivate F} {s s' : Stage F} {r : Report}
    {o : Outcome F} (h : AtStage p s x) (hs : s.result = none)
    (ho : x.sensor.priv.outcome pb r = o)
    (hsent : s'.sent p.dataType =
      s.sent p.dataType ++ (o.request 0 (o.update (s.priv p))).toList)
    (hanswers : s'.answers = s.answers + 1)
    (hpriv : s'.priv p =
      match o.result with
      | some _ => { o.update (s.priv p) with reportId := 0 }
      | none => o.update (s.priv p))
    (hresult : s'.result = o.result) :
    AtStage p s' { x with
      sensor := x.sensor.emitReport pb r
      answered := x.answered ++ [s.answers] } := by
  have hsole : Sensor.Sole 0 (x.sensor.emitReport pb r) :=
    Sensor.sole_step (e := .report r) h.sole rfl
  rcases Sensor.sole_report_cases h.sole pb r with ⟨hnil, -⟩ | ⟨hlist, -, heq⟩
  · exact absurd hnil (h.connected hs)
  rw [heq, ho] at hsole ⊢
  have hprivw : x.sensor.priv = s.priv p := h.priv
  refine
    { sole := hsole
      sent := ?_
      answered := ?_
      priv := ?_
      results := ?_
      connected := ?_ }
  · show (x.sensor.perform 0 o).sent = _
    rw [Sensor.perform_sent, h.sent, hprivw, hsent]
  · show x.answered ++ [s.answers] = _
    rw [h.answered, hanswers, List.range_succ]
  · show (x.sensor.perform 0 o).priv = _
    have hperform := Sensor.perform_priv 0 o x.sensor
    rw [hprivw] at hperform
    rw [hpriv]
    apply hperform.trans
    cases o.result <;> rfl
  · show ((x.sensor.perform 0 o).tasks.returns 0).map _ = _
    rw [Sensor.returns_perform h.sole.size, List.map_append, h.results, hs,
      hresult]
    cases o.result <;> rfl
  · intro hnone
    rw [hresult] at hnone
    show (x.sensor.perform 0 o).listeners ≠ []
    unfold Sensor.listeners
    rw [Sensor.perform_report_of_none hnone]
    exact h.connected hs

/-! ## What the answers lead to -/

omit [GFloat F] in
theorem isSuid_of_isAnsweredBy {q : Request F} {r : Report} {m : SscSuidRequest}
    (hq : q.protobuf = some (.suid m)) (h : q.isAnsweredBy pb r = true) :
    r.IsSuid := by
  unfold Request.isAnsweredBy at h
  rw [hq] at h
  simp only [Bool.and_eq_true, decide_eq_true_eq] at h
  exact h.1

omit [GFloat F] in
theorem of_isAnsweredBy_attr {q : Request F} {r : Report} {m : SscAttrRequest}
    (hq : q.protobuf = some (.attr m)) (h : q.isAnsweredBy pb r = true) :
    (r.uid = q.uid ∧ r.msgId = SSC_MSG_RESPONSE_GET_ATTRIBUTES) ∧
      (pb.attrResponseUnpack r.buf).isSome = true := by
  unfold Request.isAnsweredBy at h
  rw [hq] at h
  simpa only [Bool.and_eq_true, decide_eq_true_eq] using h

omit [GFloat F] in
/-- A positive answer to a poll, or to an init for 'registry' itself. -/
theorem outcome_serviceFound {p : SSCSensorPrivate F} {r : Report}
    {us : List SscUid} (hs : r.IsSuid) (hus : us ≠ [])
    (hm : pb.suidResponseUnpack r.buf = some ⟨"registry", us⟩) :
    p.outcome pb r = .serviceFound := by
  rw [SSCSensorPrivate.outcome_of_isSuid hs, hm]
  exact if_pos ⟨hus, rfl⟩

omit [GFloat F] in
/-- A stage without a result has one unanswered request. -/
theorem Stage.length_sent (s : Stage F) (d : String) : (s.sent d).length =
    if s.result = none then s.answers + 1 else s.answers := by
  cases s <;> rfl

omit [GFloat F] in
/-- The unanswered request of a stage is its last one. -/
theorem eq_last {s : Stage F} {d : String} {i : ℕ} {q : Request F}
    (hs : s.result = none) (hq : (s.sent d)[i]? = some q)
    (hi : i ∉ List.range s.answers) :
    i = s.answers ∧ (s.sent d).getLast? = some q := by
  have hlt := (List.getElem?_eq_some_iff.mp hq).1
  have hlen : (s.sent d).length = s.answers + 1 :=
    (s.length_sent d).trans (if_pos hs)
  rw [List.mem_range, Nat.not_lt] at hi
  obtain rfl : i = s.answers := by omega
  refine ⟨rfl, ?_⟩
  rw [List.getLast?_eq_getElem?, hlen]
  exact hq

/-- **An answer leads to the next stage**, unless the sensor that is looked for
is 'registry'. -/
theorem atStage_answer {p : SSCSensorPrivate F} {s : Stage F} {svc : Service F}
    {i : ℕ} {r : Report} (hreg : svc.suid "registry" ≠ [])
    (hd : p.dataType ≠ "registry") (h : AtStage p s x)
    (hvalid : s.Valid svc p.dataType) (hserved : Served pb svc x (.answer i r))
    (hact : x.act pb (.answer i r) = some x') :
    ∃ s' : Stage F, s'.answers = s.answers + 1 ∧ s'.Valid svc p.dataType ∧
      AtStage p s' x' := by
  rcases act_cases hact with ⟨i, w, heq, -⟩ | ⟨j, e', w, heq, -⟩ |
    ⟨j, q, r', heq, hq, hans, hi, -, rfl⟩ | ⟨r, heq, -⟩
  · exact absurd heq (by simp)
  · exact absurd heq (by simp)
  · obtain ⟨rfl, rfl⟩ : i = j ∧ r = r' := by simpa using heq
    obtain ⟨hsuid, hattr⟩ := hserved q hq
    rw [h.answered] at hi
    rw [h.sent] at hq
    cases s with
    | polling =>
        obtain ⟨rfl, hlast⟩ := eq_last rfl hq hi
        obtain rfl : pollRequest = q := Option.some.inj hlast
        refine ⟨.discovering, rfl, trivial, ?_⟩
        refine atStage_next h rfl (outcome_serviceFound
          (isSuid_of_isAnsweredBy rfl hans) hreg (hsuid _ rfl)) ?_ ?_ ?_ ?_
        all_goals rfl
    | discovering =>
        obtain ⟨rfl, hlast⟩ := eq_last rfl hq hi
        obtain rfl : discoveryRequest p.dataType = q := Option.some.inj hlast
        have hs := isSuid_of_isAnsweredBy rfl hans
        have hm := hsuid _ rfl
        have havail : x.sensor.priv.serviceAvailable = true := by
          rw [h.priv]
          rfl
        have hdt : x.sensor.priv.dataType = p.dataType := by
          rw [h.priv]
          rfl
        cases hus : svc.suid p.dataType with
        | nil =>
            rw [hus] at hm
            have ho : x.sensor.priv.outcome pb r = .notFound := by
              rw [SSCSensorPrivate.outcome_eq_notFound]
              exact ⟨hs, havail, by rw [hdt]; exact hm⟩
            refine ⟨.absent, rfl, hus, atStage_next h rfl ho ?_ ?_ ?_ ?_⟩
            all_goals rfl
        | cons u us =>
            rw [hus] at hm
            have ho : x.sensor.priv.outcome pb r = .discovered u := by
              rw [SSCSensorPrivate.outcome_eq_discovered]
              exact ⟨hs, havail, by rw [hdt]; exact hd, us,
                by rw [hdt]; exact hm⟩
            refine ⟨.populating u, rfl, ⟨us, hus⟩,
              atStage_next h rfl ho ?_ ?_ ?_ ?_⟩
            all_goals rfl
    | populating u =>
        obtain ⟨rfl, hlast⟩ := eq_last rfl hq hi
        obtain rfl : attributeRequest u = q := Option.some.inj hlast
        obtain ⟨⟨huid, hmsg⟩, hsome⟩ := of_isAnsweredBy_attr rfl hans
        obtain ⟨m, hm⟩ := Option.isSome_iff_exists.mp hsome
        have ho : x.sensor.priv.outcome pb r = .attributes m := by
          rw [SSCSensorPrivate.outcome_eq_attributes, h.priv]
          exact ⟨huid, hmsg, hm⟩
        refine ⟨.populated u m, rfl, ⟨hvalid, hattr _ rfl m hm⟩,
          atStage_next h rfl ho ?_ ?_ ?_ ?_⟩
        all_goals rfl
    | absent =>
        have hlt := (List.getElem?_eq_some_iff.mp hq).1
        exact absurd (List.mem_range.mpr hlt) hi
    | populated u m =>
        have hlt := (List.getElem?_eq_some_iff.mp hq).1
        exact absurd (List.mem_range.mpr hlt) hi
  · exact absurd heq (by simp)

/-- The init is at some stage that the service allows. -/
def Staged (svc : Service F) (p : SSCSensorPrivate F) (x : Exchange F) : Prop :=
  ∃ s : Stage F, s.Valid svc p.dataType ∧ AtStage p s x

/-- A served action keeps an init within the stages. -/
theorem staged_act {p : SSCSensorPrivate F} {svc : Service F} {a : Action}
    (hreg : svc.suid "registry" ≠ []) (hd : p.dataType ≠ "registry")
    (h : Staged svc p x) (hserved : Served pb svc x a)
    (hact : x.act pb a = some x') : Staged svc p x' := by
  obtain ⟨s, hvalid, hs⟩ := h
  cases a with
  | ack i =>
      rcases act_cases hact with ⟨j, w, heq, hstep, rfl⟩ | ⟨j, e', w, heq, -⟩ |
        ⟨j, q, r', heq, -⟩ | ⟨r, heq, -⟩
      · exact ⟨s, hvalid, atStage_ack hs hstep⟩
      · exact absurd heq (by simp)
      · exact absurd heq (by simp)
      · exact absurd heq (by simp)
  | fail i e => exact hserved.elim
  | answer i r =>
      obtain ⟨s', -, hvalid', hs'⟩ :=
        atStage_answer hreg hd hs hvalid hserved hact
      exact ⟨s', hvalid', hs'⟩
  | report r => exact hserved.elim

/-! ## Discovery is finite -/

/-- The data types that the SUID requests of a list ask for. -/
def suidRequests (l : List (Request F)) : List String :=
  l.filterMap fun q =>
    match q.protobuf with
    | some (.suid m) => some m.dataType
    | _ => none

/-- Discovery makes progress: after a poll has been answered exactly one more
SUID request is sent, for the sensor's own data type, and the answer to that one
makes the init ask for attributes, or completes it. -/
structure Discovers (svc : Service F) (x : Exchange F) : Prop where
  once : ∀ i q, x.sensor.sent[i]? = some q →
    q.callback = .waitForSensorServiceReady 0 → i ∈ x.answered →
    suidRequests (x.sensor.sent.drop (i + 1)) = [x.sensor.priv.dataType]
  found : ∀ i q u us, x.sensor.sent[i]? = some q →
    q.callback = .discoveryReady 0 → i ∈ x.answered →
    svc.suid x.sensor.priv.dataType = u :: us →
    attributeRequest u ∈ x.sensor.sent
  absent : ∀ i q, x.sensor.sent[i]? = some q →
    q.callback = .discoveryReady 0 → i ∈ x.answered →
    svc.suid x.sensor.priv.dataType = [] → x.sensor.tasks.pending 0 = false

theorem Stage.priv_dataType (p : SSCSensorPrivate F) (s : Stage F) :
    (s.priv p).dataType = p.dataType := by
  cases s with
  | populated u m => simp [Stage.priv]
  | _ => rfl

omit [GFloat F] in
/-- Only the first request of an init is a poll. -/
theorem Stage.eq_zero_of_poll {s : Stage F} {d : String} {i : ℕ} {q : Request F}
    (hq : (s.sent d)[i]? = some q)
    (hcb : q.callback = .waitForSensorServiceReady 0) : i = 0 := by
  cases i with
  | zero => rfl
  | succ i =>
      have hmem : q ∈ (s.sent d).tail := by
        apply List.mem_of_getElem? (i := i)
        rw [List.getElem?_tail]
        exact hq
      cases s with
      | polling => exact absurd hmem (by simp [sent])
      | discovering =>
          obtain rfl : q = discoveryRequest d := by simpa [sent] using hmem
          exact absurd hcb (by simp [discoveryRequest])
      | absent =>
          obtain rfl : q = discoveryRequest d := by simpa [sent] using hmem
          exact absurd hcb (by simp [discoveryRequest])
      | populating u =>
          obtain rfl | rfl : q = discoveryRequest d ∨ q = attributeRequest u := by
            simpa [sent] using hmem
          · exact absurd hcb (by simp [discoveryRequest])
          · exact absurd hcb (by simp [attributeRequest])
      | populated u m =>
          obtain rfl | rfl : q = discoveryRequest d ∨ q = attributeRequest u := by
            simpa [sent] using hmem
          · exact absurd hcb (by simp [discoveryRequest])
          · exact absurd hcb (by simp [attributeRequest])

omit [GFloat F] in
/-- Once the discovery request has been answered, the stage is one of the last
three. -/
theorem Stage.eq_of_discovered {s : Stage F} {d : String} {i : ℕ} {q : Request F}
    (hq : (s.sent d)[i]? = some q) (hcb : q.callback = .discoveryReady 0)
    (hi : i < s.answers) :
    (∃ v, s = .populating v) ∨ s = .absent ∨ ∃ v m, s = .populated v m := by
  cases s with
  | polling => exact absurd hi (by simp [Stage.answers])
  | discovering =>
      obtain rfl : i = 0 := Nat.lt_one_iff.mp hi
      obtain rfl : pollRequest = q := by simpa [Stage.sent] using hq
      exact absurd hcb (by simp [pollRequest])
  | populating v => exact Or.inl ⟨v, rfl⟩
  | absent => exact Or.inr (Or.inl rfl)
  | populated v m => exact Or.inr (Or.inr ⟨v, m, rfl⟩)

/-- In every stage discovery has made progress. -/
theorem AtStage.discovers {p : SSCSensorPrivate F} {s : Stage F}
    {svc : Service F} (h : AtStage p s x) (hvalid : s.Valid svc p.dataType) :
    Discovers svc x where
  once := by
    intro i q hq hcb hi
    rw [h.answered, List.mem_range] at hi
    rw [h.sent] at hq ⊢
    rw [h.priv, Stage.priv_dataType]
    obtain rfl := Stage.eq_zero_of_poll hq hcb
    cases s with
    | polling => exact absurd hi (by simp [Stage.answers])
    | _ => rfl
  found := by
    intro i q u us hq hcb hi hus
    rw [h.answered, List.mem_range] at hi
    rw [h.sent] at hq ⊢
    rw [h.priv, Stage.priv_dataType] at hus
    obtain ⟨v, rfl⟩ | rfl | ⟨v, m, rfl⟩ := Stage.eq_of_discovered hq hcb hi
    · obtain ⟨vs, hvs⟩ := hvalid
      obtain ⟨rfl, -⟩ := List.cons.inj (hvs.symm.trans hus)
      simp [Stage.sent]
    · have hvalid : svc.suid p.dataType = [] := hvalid
      exact absurd (hvalid.symm.trans hus) (by simp)
    · obtain ⟨⟨vs, hvs⟩, -⟩ := hvalid
      obtain ⟨rfl, -⟩ := List.cons.inj (hvs.symm.trans hus)
      simp [Stage.sent]
  absent := by
    intro i q hq hcb hi hus
    rw [h.answered, List.mem_range] at hi
    rw [h.sent] at hq
    rw [h.priv, Stage.priv_dataType] at hus
    obtain ⟨v, rfl⟩ | rfl | ⟨v, m, rfl⟩ := Stage.eq_of_discovered hq hcb hi
    · obtain ⟨vs, hvs⟩ := hvalid
      exact absurd (hvs.symm.trans hus) (by simp)
    · have hresults := h.results
      have hne : x.sensor.tasks.returns 0 ≠ [] := by
        intro hnil
        rw [hnil] at hresults
        exact absurd hresults (by simp [Stage.result])
      by_contra hp
      exact hne (Tasks.pending_iff.mp (by simpa using hp)).2
    · obtain ⟨⟨vs, hvs⟩, -⟩ := hvalid
      exact absurd (hvs.symm.trans hus) (by simp)

/-! ## The init that looks for 'registry' -/

/-- `n` requests of an init for 'registry' have been answered, and each answer
has led to another discovery request. -/
structure Rediscovering (n : ℕ) (x : Exchange F) : Prop where
  sole : Sensor.Sole 0 x.sensor
  sent : x.sensor.sent =
    pollRequest :: List.replicate n (discoveryRequest "registry")
  answered : x.answered = List.range n
  failed : x.failed = []
  dataType : x.sensor.priv.dataType = "registry"
  connected : x.sensor.listeners ≠ []

omit [GFloat F] in
/-- Every request of such an init asks for 'registry'. -/
theorem Rediscovering.request {n i : ℕ} {q : Request F} (h : Rediscovering n x)
    (hq : x.sensor.sent[i]? = some q) :
    q.protobuf = some (.suid ⟨"registry", some false, some true⟩) := by
  rw [h.sent] at hq
  have hmem := List.mem_of_getElem? hq
  rw [List.mem_cons] at hmem
  rcases hmem with rfl | hmem
  · rfl
  · rw [(List.mem_replicate.mp hmem).2]
    rfl

/-- The report that tells the UIDs of the 'registry' sensor. -/
def registryReport (buf : GArray) : Report :=
  ⟨SSC_MSG_RESPONSE_SUID, SSC_SENSOR_UID_SUID, buf⟩

theorem rediscovering_answer {n : ℕ} {us : List SscUid} {buf : GArray}
    (hus : us ≠ []) (hbuf : pb.suidResponseUnpack buf = some ⟨"registry", us⟩)
    (h : Rediscovering n x) :
    ∃ x', x.act pb (.answer n (registryReport buf)) = some x' ∧
      Rediscovering (n + 1) x' := by
  have hs : (registryReport buf).IsSuid := ⟨rfl, rfl⟩
  have hlen : x.sensor.sent.length = n + 1 := by simp [h.sent]
  obtain ⟨q, hq⟩ : ∃ q, x.sensor.sent[n]? = some q :=
    ⟨_, List.getElem?_eq_getElem (by omega)⟩
  have hans : q.isAnsweredBy pb (registryReport buf) = true := by
    unfold Request.isAnsweredBy
    rw [h.request hq]
    simp only [Bool.and_eq_true, decide_eq_true_eq]
    exact ⟨hs, by simp [registryReport, hbuf]⟩
  have hn : n ∉ x.answered := by simp [h.answered]
  have hf : n ∉ x.failed := by simp [h.failed]
  refine ⟨{ x with
    sensor := x.sensor.emitReport pb (registryReport buf)
    answered := x.answered ++ [n] }, ?_, ?_⟩
  · simp only [act, hq]
    exact if_pos ⟨hans, hn, hf⟩
  · have hsole : Sensor.Sole 0 (x.sensor.emitReport pb (registryReport buf)) :=
      Sensor.sole_step (e := .report _) h.sole rfl
    rcases Sensor.sole_report_cases h.sole pb (registryReport buf) with
      ⟨hnil, -⟩ | ⟨-, -, heq⟩
    · exact absurd hnil h.connected
    rw [heq, outcome_serviceFound hs hus hbuf] at hsole ⊢
    constructor
    · exact hsole
    · show (x.sensor.perform 0 .serviceFound).sent = _
      rw [Sensor.perform_sent, h.sent, List.replicate_succ',
        ← List.cons_append]
      show _ ++ [discoveryRequest x.sensor.priv.dataType] = _
      rw [h.dataType]
    · show x.answered ++ [n] = _
      rw [h.answered, List.range_succ]
    · exact h.failed
    · exact h.dataType
    · exact h.connected

/-- **An init for 'registry' never stops discovering**: however often the
service answers, another discovery request follows. -/
theorem rediscovering_run {p : SSCSensorPrivate F} {svc : Service F}
    {buf : GArray} (hreg : svc.suid "registry" ≠ [])
    (hbuf : pb.suidResponseUnpack buf = some ⟨"registry", svc.suid "registry"⟩)
    (hd : p.dataType = "registry")
    (hcall : (Sensor.new p).call (.init none) = some w₁) (n : ℕ) :
    ∃ as x, exec (act pb) (start w₁) as = some x ∧
      StepsMeet (act pb) (start w₁) (fun _ x a => Served pb svc x a) as ∧
      Rediscovering n x := by
  induction n with
  | zero =>
      have hstage := atStage_start hcall
      refine ⟨[], start w₁, rfl, StepsMeet.nil, ?_⟩
      exact
        { sole := hstage.sole
          sent := hstage.sent
          answered := rfl
          failed := rfl
          dataType := by
            rw [hstage.priv, Stage.priv_dataType]
            exact hd
          connected := hstage.connected rfl }
  | succ n ih =>
      obtain ⟨as, x, hx, hserved, hn⟩ := ih
      obtain ⟨x', hact, hn'⟩ := rediscovering_answer hreg hbuf hn
      refine ⟨as ++ [.answer n (registryReport buf)], x',
        exec_snoc.mpr ⟨x, hx, hact⟩, hserved.snoc ?_, hn'⟩
      intro y hy q hq
      obtain rfl : x = y := Option.some.inj (hx.symm.trans hy)
      have hsuid := hn.request hq
      constructor
      · intro m hm
        obtain rfl : (⟨"registry", some false, some true⟩ : SscSuidRequest) = m := by
          simpa using hsuid.symm.trans hm
        exact hbuf
      · intro m hm
        exact absurd (hsuid.symm.trans hm) (by simp)

omit [GFloat F] in
/-- Two rounds are one too many. -/
theorem Rediscovering.not_discovers {svc : Service F} (h : Rediscovering 2 x) :
    ¬ Discovers svc x := by
  intro hbad
  have honce := hbad.once 0 pollRequest (by rw [h.sent]; rfl) rfl
    (by rw [h.answered]; decide)
  rw [h.sent, h.dataType] at honce
  exact absurd honce (by simp [suidRequests, discoveryRequest])

/-- **Discovery makes progress for every data type but 'registry'.** For every
service that has a 'registry' entry and answers each request from its tables,
discovery makes progress in every state of every run of an init for data type
`d` if and only if `d` is not 'registry'. -/
theorem discovers_iff_ne_registry {d : String} {svc : Service F}
    (hreg : svc.suid "registry" ≠ [])
    (hcodec : ∃ buf, pb.suidResponseUnpack buf =
      some ⟨"registry", svc.suid "registry"⟩) :
    (∀ w₁ as x,
      (Sensor.new (sscSensorInit d)).call (.init none) = some w₁ →
      exec (act pb) (start w₁) as = some x →
      StepsMeet (act pb) (start w₁) (fun _ x a => Served pb svc x a) as →
      Discovers svc x) ↔ d ≠ "registry" := by
  constructor
  · rintro hall hd
    obtain ⟨buf, hbuf⟩ := hcodec
    obtain ⟨as, x, hx, hserved, hn⟩ :=
      rediscovering_run (p := sscSensorInit d) hreg hbuf hd rfl 2
    exact hn.not_discovers (hall _ as x rfl hx hserved)
  · intro hd w₁ as x hcall hx hserved
    have hstaged : Always (act pb) (start w₁)
        (fun _ x => Staged svc (sscSensorInit d) x) as :=
      always_of_stepsMeet ⟨.polling, trivial, atStage_start hcall⟩
        (fun _ _ _ _ h hs hact => staged_act hreg hd h hs hact) hserved
    obtain ⟨s, hvalid, hs⟩ := hstaged.last hx
    exact hs.discovers hvalid

/-! The mocking server's registry sensor, asked for by name. -/

def registryKnown : Protobuf ℚ := .ofTables [([0], ⟨"registry", [⟨9, 9⟩]⟩)] [] []

def registryService : Service ℚ where
  suid d := if d = "registry" then [⟨9, 9⟩] else []
  attributes _ _ := False

def registryInit : Sensor ℚ :=
  ((Sensor.new (sscSensorInit "registry")).call (.init none)).get (by decide)

def registryAnswered : List Action :=
  [.answer 0 (registryReport [0])] ++ [.answer 1 (registryReport [0])]

theorem registry_not_discovered :
    ¬ ∀ w₁ as x,
      (Sensor.new (sscSensorInit (F := ℚ) "registry")).call (.init none) =
        some w₁ →
      exec (act registryKnown) (start w₁) as = some x →
      StepsMeet (act registryKnown) (start w₁)
        (fun _ x a => Served registryKnown registryService x a) as →
      Discovers registryService x := by
  intro hall
  have hserved : StepsMeet (act registryKnown) (start registryInit)
      (fun _ x a => Served registryKnown registryService x a)
      registryAnswered := by
    refine StepsMeet.snoc (StepsMeet.snoc StepsMeet.nil ?_) ?_
    · intro x hx q hq
      obtain rfl := Option.some.inj hx
      obtain rfl : pollRequest = q := Option.some.inj hq
      exact ⟨fun m hm => by cases hm; decide, fun m hm => by cases hm⟩
    · intro x hx q hq
      obtain rfl := Option.some.inj hx
      obtain rfl : discoveryRequest "registry" = q := Option.some.inj hq
      exact ⟨fun m hm => by cases hm; decide, fun m hm => by cases hm⟩
  have hbad := hall registryInit registryAnswered
    ((exec (act registryKnown) (start registryInit) registryAnswered).get
      (by decide)) (Option.some_get _).symm (Option.some_get _).symm hserved
  have honce := hbad.once 0 pollRequest (by rfl) rfl (by decide)
  exact absurd honce (by decide)

theorem discovers_iff_ne_registry_registry :
    (∀ w₁ as x,
      (Sensor.new (sscSensorInit (F := ℚ) "registry")).call (.init none) =
        some w₁ →
      exec (act registryKnown) (start w₁) as = some x →
      StepsMeet (act registryKnown) (start w₁)
        (fun _ x a => Served registryKnown registryService x a) as →
      Discovers registryService x) ↔ "registry" ≠ "registry" :=
  discovers_iff_ne_registry (by decide) ⟨[0], by decide⟩

end Libssc.Exchange

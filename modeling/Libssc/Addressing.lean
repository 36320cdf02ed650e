import Libssc.Retries
import Mathlib.Data.List.TakeWhile

/-!
# Where an init sends its requests

An init may only ask for attributes what it has discovered: the UID it works
with, and the addressee of every attribute request, is the first one of a
response that named its own data type after the service had become available.
`named` reads these UIDs off from the responses alone, and the attribute requests
are compared with it one by one.

The two agree unless the sensor's own data type is 'registry'. A response that
names it is then always taken for the answer to a poll, so the second one is not
followed by the attribute request it calls for.
-/

namespace Libssc

open Library

variable {F : Type} [GFloat F] {pb : Protobuf F}

/-! ## The UIDs that have been discovered -/

/-- The responses after the first positive one. -/
def sincePositive (l : List SscSuidResponse) : List SscSuidResponse :=
  (l.dropWhile (fun m => decide (¬ m.Positive))).tail

/-- The first UID of a response that names data type `d`. -/
def SscSuidResponse.firstOwn (d : String) (m : SscSuidResponse) :
    Option SscUid :=
  if m.dataType = d then m.uid.head? else none

/-- The UIDs that the responses `l` tell an init for data type `d`, in order. -/
def named (d : String) (l : List SscSuidResponse) : List SscUid :=
  (sincePositive l).filterMap (SscSuidResponse.firstOwn d)

theorem dropWhile_not_positive {l : List SscSuidResponse} :
    l.dropWhile (fun m => decide (¬ m.Positive)) = [] ↔
      ¬ ∃ m ∈ l, m.Positive := by
  rw [List.dropWhile_eq_nil_iff]
  constructor
  · rintro h ⟨m, hm, hpos⟩
    exact absurd hpos (of_decide_eq_true (h m hm))
  · intro h m hm
    exact decide_eq_true fun hpos => h ⟨m, hm, hpos⟩

theorem sincePositive_snoc {l : List SscSuidResponse} {m : SscSuidResponse} :
    sincePositive (l ++ [m]) =
      if ∃ m ∈ l, m.Positive then sincePositive l ++ [m] else [] := by
  unfold sincePositive
  rw [List.dropWhile_append]
  by_cases h : ∃ m ∈ l, m.Positive
  · have hne : l.dropWhile (fun m => decide (¬ m.Positive)) ≠ [] :=
      fun hnil => dropWhile_not_positive.mp hnil h
    rw [if_pos h, if_neg (by simpa using hne), List.tail_append_of_ne_nil hne]
  · rw [if_neg h, if_pos (by simpa using dropWhile_not_positive.mpr h)]
    by_cases hm : m.Positive
    · simp [List.dropWhile, hm]
    · simp [List.dropWhile, hm]

theorem named_snoc {d : String} {l : List SscSuidResponse}
    {m : SscSuidResponse} (h : ∃ m ∈ l, m.Positive) :
    named d (l ++ [m]) = named d l ++ (m.firstOwn d).toList := by
  unfold named
  rw [sincePositive_snoc, if_pos h, List.filterMap_append]
  cases hm : m.firstOwn d <;> simp [hm]

/-- Before the service is available nothing is discovered. -/
theorem named_of_not_positive {d : String} {l : List SscSuidResponse}
    (h : ¬ ∃ m ∈ l, m.Positive) : named d l = [] := by
  unfold named sincePositive
  rw [dropWhile_not_positive.mpr h]
  rfl

theorem named_snoc_first {d : String} {l : List SscSuidResponse}
    {m : SscSuidResponse} (h : ¬ ∃ m ∈ l, m.Positive) :
    named d (l ++ [m]) = [] := by
  unfold named
  rw [sincePositive_snoc, if_neg h]
  rfl

/-- Another positive response names the sensor's own data type only if that is
'registry'. -/
theorem firstOwn_of_positive {d : String} {m : SscSuidResponse}
    (hm : m.Positive) : m.firstOwn d = none ↔ d ≠ "registry" := by
  unfold SscSuidResponse.firstOwn
  rw [hm.2]
  by_cases hd : "registry" = d
  · rw [if_pos hd, List.head?_eq_none_iff]
    exact iff_of_false hm.1 (by simp [← hd])
  · rw [if_neg hd]
    exact iff_of_true rfl (Ne.symm hd)

/-- The UID that an outcome discovers. -/
def Outcome.discovered? : Outcome F → Option SscUid
  | .discovered u => some u
  | _ => none

namespace Sensor

open Exchange (pollRequest discoveryRequest attributeRequest)

variable {w w' w₁ : Sensor F} {e : Event} {u₀ : SscUid} {d : String}
  {l : List SscSuidResponse}

/-! ## Safety -/

/-- The attribute requests among all requests. -/
def attributeRequests (w : Sensor F) : List (Request F) :=
  w.sent.filter (fun q => q.msgId = SSC_MSG_REQUEST_GET_ATTRIBUTES)

/-- Discovery safety, given the initial UID, the sensor's own data type and the
responses heard so far: the UID is the initial one or a discovered one, each
discovery is followed by exactly one attribute request to the UID discovered, and
neither `discover` nor `attribute` sends anything before a positive response. -/
structure DiscoverySafe (u₀ : SscUid) (d : String) (l : List SscSuidResponse)
    (w : Sensor F) : Prop where
  uid : w.priv.uid = u₀ ∨ w.priv.uid ∈ named d l
  once : (attributeRequests w).map Request.uid = named d l
  after : ∀ q ∈ w.sent, (∃ t, q.callback = .discoveryReady t) ∨
    q.msgId = SSC_MSG_REQUEST_GET_ATTRIBUTES → ∃ m ∈ l, m.Positive

/-- The response that an event tells is not a positive one that names the
sensor's own data type after another positive one. -/
def NoRegistryAgain (pb : Protobuf F) (d : String) (l : List SscSuidResponse)
    (w : Sensor F) (e : Event) : Prop :=
  d = "registry" → (∃ m ∈ l, m.Positive) → ∀ m, told pb (w, e) = some m →
    ¬ m.Positive

/-- Safety, and what the init knows about the service. -/
structure Addressed (u₀ : SscUid) (d : String) (l : List SscSuidResponse)
    (w : Sensor F) : Prop extends DiscoverySafe u₀ d l w where
  sole : Sole 0 w
  dataType : w.priv.dataType = d
  available : w.priv.serviceAvailable = true ↔ ∃ m ∈ l, m.Positive

theorem addressed_start {p : SSCSensorPrivate F}
    (hcall : (Sensor.new p).call (.init none) = some w₁) :
    Addressed p.uid p.dataType [] w₁ := by
  have hstage := Exchange.atStage_start hcall
  have hpriv : w₁.priv = _ := hstage.priv
  have hsent : w₁.sent = [pollRequest] := hstage.sent
  constructor
  case sole => exact hstage.sole
  case dataType => rw [hpriv]; rfl
  case available => rw [hpriv]; simp [Exchange.Stage.priv]
  case toDiscoverySafe =>
    constructor
    case uid => left; rw [hpriv]; rfl
    case once =>
      unfold attributeRequests
      rw [hsent]
      rfl
    case after =>
      intro q hq hkind
      rw [hsent, List.mem_singleton] at hq
      subst hq
      rcases hkind with ⟨t, ht⟩ | hmsg
      · exact absurd ht (by simp [pollRequest])
      · exact absurd hmsg (by simp [pollRequest, SSC_MSG_REQUEST_SUID,
          SSC_MSG_REQUEST_GET_ATTRIBUTES])

/-! ## What a response leads to -/

theorem uid_update (o : Outcome F) (p : SSCSensorPrivate F) :
    (o.update p).uid = o.discovered?.getD p.uid := by
  cases o <;> simp [Outcome.update, Outcome.discovered?]

theorem serviceAvailable_suid (p : SSCSensorPrivate F) (m : SscSuidResponse) :
    ((p.suidOutcome m).update p).serviceAvailable = true ↔
      p.serviceAvailable = true ∨ m.Positive := by
  by_cases hm : m.Positive
  · rw [suidOutcome_of_positive hm]
    exact iff_of_true rfl (Or.inr hm)
  · cases hp : p.serviceAvailable with
    | true => simp [serviceAvailable_update hp]
    | false =>
        rw [suidOutcome_of_not_positive hp hm]
        split_ifs <;> simp [Outcome.update, hp, hm]

omit [GFloat F] in
/-- What a response that is not positive discovers once the service is there. -/
theorem discovered_of_available {p : SSCSensorPrivate F} {m : SscSuidResponse}
    (hp : p.serviceAvailable = true) (hm : ¬ m.Positive) :
    (p.suidOutcome m).discovered? = m.firstOwn p.dataType := by
  unfold SSCSensorPrivate.suidOutcome SscSuidResponse.firstOwn
  rw [if_neg hm, if_neg (by simp [hp])]
  by_cases hd : m.dataType = p.dataType
  · rw [if_neg (not_not_intro hd), if_pos hd]
    cases m.uid <;> rfl
  · rw [if_pos hd, if_neg hd]
    rfl

omit [GFloat F] in
/-- **A response discovers what it names**, unless it is a second positive one
and the sensor's own data type is 'registry'. -/
theorem named_snoc_iff {p : SSCSensorPrivate F} {m : SscSuidResponse}
    (hp : p.serviceAvailable = true ↔ ∃ m ∈ l, m.Positive) :
    named p.dataType (l ++ [m]) =
        named p.dataType l ++ (p.suidOutcome m).discovered?.toList ↔
      (p.dataType = "registry" → (∃ m ∈ l, m.Positive) → ¬ m.Positive) := by
  by_cases hm : m.Positive
  · rw [suidOutcome_of_positive hm]
    by_cases hseen : ∃ m ∈ l, m.Positive
    · rw [named_snoc hseen]
      have hown := firstOwn_of_positive (d := p.dataType) hm
      cases h : m.firstOwn p.dataType with
      | none =>
          have hd := hown.mp h
          exact iff_of_true rfl (fun heq => absurd heq hd)
      | some u =>
          have hd : p.dataType = "registry" := by
            by_contra hne
            exact absurd (hown.mpr hne) (by simp [h])
          refine iff_of_false ?_ (fun hall => hall hd hseen hm)
          simp [Outcome.discovered?]
    · rw [named_snoc_first hseen, named_of_not_positive hseen]
      exact iff_of_true rfl (fun _ h => absurd h hseen)
  · refine iff_of_true ?_ (fun _ _ => hm)
    by_cases hseen : ∃ m ∈ l, m.Positive
    · rw [named_snoc hseen, discovered_of_available (hp.mpr hseen) hm]
    · have hfalse : p.serviceAvailable = false := by
        simpa using mt hp.mp hseen
      rw [named_snoc_first hseen, named_of_not_positive hseen,
        suidOutcome_of_not_positive hfalse hm]
      split_ifs <;> rfl

/-! ## One step -/

/-- What an outcome adds to the attribute requests. -/
theorem attributeRequests_perform (t : ℕ) (o : Outcome F) :
    (attributeRequests (w.perform t o)).map Request.uid =
      (attributeRequests w).map Request.uid ++
        o.discovered?.toList := by
  unfold attributeRequests
  rw [perform_sent, List.filter_append, List.map_append]
  cases o <;> rfl

/-- Before the service is available only polls are sent. -/
theorem after_perform {t : ℕ} {m : SscSuidResponse} {P : Prop}
    (h : ∀ q ∈ w.sent, (∃ t, q.callback = .discoveryReady t) ∨
      q.msgId = SSC_MSG_REQUEST_GET_ATTRIBUTES → P)
    (hP : w.priv.serviceAvailable = true ∨ m.Positive → P) :
    ∀ q ∈ (w.perform t (w.priv.suidOutcome m)).sent,
      (∃ t, q.callback = .discoveryReady t) ∨
        q.msgId = SSC_MSG_REQUEST_GET_ATTRIBUTES → P := by
  intro q hq hkind
  by_cases hnow : w.priv.serviceAvailable = true ∨ m.Positive
  · exact hP hnow
  · obtain ⟨hp, hm⟩ := not_or.mp hnow
    rw [suidOutcome_of_not_positive (by simpa using hp) hm, perform_sent,
      List.mem_append] at hq
    rcases hq with hq | hq
    · exact h q hq hkind
    · split_ifs at hq
      · exact absurd hq (by simp [Outcome.request])
      · obtain rfl : q = _ := by simpa [Outcome.request] using hq
        rcases hkind with ⟨t, ht⟩ | hmsg
        · exact absurd ht (by simp)
        · exact absurd hmsg (by simp [SSC_MSG_REQUEST_SUID,
            SSC_MSG_REQUEST_GET_ATTRIBUTES])

/-- A response that discovers what it names keeps the init safe. -/
theorem addressed_perform {m : SscSuidResponse} (h : Addressed u₀ d l w)
    (hl : w.listeners = [(w.priv.reportId, .sensor 0)]) (hf : 0 ∉ w.freed)
    (hnamed : named d (l ++ [m]) = named d l ++
      (w.priv.suidOutcome m).discovered?.toList) :
    Addressed u₀ d (l ++ [m]) (w.perform 0 (w.priv.suidOutcome m)) := by
  have hpriv := perform_priv 0 (w.priv.suidOutcome m) w
  have hseen : (∃ m' ∈ l ++ [m], m'.Positive) ↔
      w.priv.serviceAvailable = true ∨ m.Positive := by
    rw [h.available]
    simp [or_and_right, exists_or]
  constructor
  case sole => exact sole_perform h.sole hl hf
  case dataType =>
    have hd := (dataType_update (w.priv.suidOutcome m) w.priv).trans h.dataType
    rw [hpriv]
    cases (w.priv.suidOutcome m).result <;> exact hd
  case available =>
    have havail := (serviceAvailable_suid w.priv m).trans hseen.symm
    rw [hpriv]
    cases (w.priv.suidOutcome m).result <;> exact havail
  case toDiscoverySafe =>
    constructor
    case uid =>
      have huid : ((w.priv.suidOutcome m).update w.priv).uid = u₀ ∨
          ((w.priv.suidOutcome m).update w.priv).uid ∈ named d (l ++ [m]) := by
        rw [uid_update, hnamed]
        cases (w.priv.suidOutcome m).discovered? with
        | none => simpa using h.uid
        | some u => simp
      rw [hpriv]
      cases (w.priv.suidOutcome m).result <;> exact huid
    case once => rw [attributeRequests_perform, h.once, hnamed]
    case after =>
      refine after_perform ?_ hseen.mpr
      intro q hq hkind
      obtain ⟨m', hm', hpos⟩ := h.after q hq hkind
      exact ⟨m', List.mem_append_left _ hm', hpos⟩

theorem addressed_step (h : Addressed u₀ d l w)
    (he : NoRegistryAgain pb d l w e) (hstep : w.step pb e = some w') :
    Addressed u₀ d (l ++ (told pb (w, e)).toList) w' := by
  cases hm : told pb (w, e) with
  | none =>
      obtain ⟨hsent, hdisc⟩ := step_of_told_none h.sole hstep hm
      have huid : w'.priv.uid = w.priv.uid := congrArg (·.1) hdisc
      have hd : w'.priv.dataType = w.priv.dataType := congrArg (·.2.1) hdisc
      have havail : w'.priv.serviceAvailable = w.priv.serviceAvailable :=
        congrArg (·.2.2.1) hdisc
      rw [Option.toList_none, List.append_nil]
      exact
        { sole := sole_step h.sole hstep
          dataType := hd.trans h.dataType
          available := by rw [havail]; exact h.available
          uid := by rw [huid]; exact h.uid
          once := by
            unfold attributeRequests
            rw [hsent]
            exact h.once
          after := by rw [hsent]; exact h.after }
  | some m =>
      obtain ⟨hl, hf, rfl⟩ := step_of_told h.sole hstep hm
      have hiff := named_snoc_iff (m := m) h.available
      rw [h.dataType] at hiff
      exact addressed_perform h hl hf
        (hiff.mpr fun hd hseen => he hd hseen m hm)

/-- The second positive response to an init for 'registry' calls for an attribute
request that is not sent. -/
theorem not_discoverySafe_step (h : Addressed u₀ d l w)
    (he : ¬ NoRegistryAgain pb d l w e) (hstep : w.step pb e = some w') :
    ¬ DiscoverySafe u₀ d (l ++ (told pb (w, e)).toList) w' := by
  intro hbad
  cases hm : told pb (w, e) with
  | none =>
      refine he fun hd hseen m hm' => ?_
      exact absurd (hm.symm.trans hm') (by simp)
  | some m =>
      rw [hm] at hbad
      obtain ⟨hl, hf, rfl⟩ := step_of_told h.sole hstep hm
      have hiff := named_snoc_iff (m := m) h.available
      rw [h.dataType] at hiff
      have honce := hbad.once
      rw [attributeRequests_perform, h.once] at honce
      refine he fun hd hseen m' hm' => ?_
      obtain rfl : m = m' := Option.some.inj (hm.symm.trans hm')
      exact hiff.mp honce.symm hd hseen

/-- **An init asks exactly the sensors it has discovered**, in every state of
every run, if and only if no second positive response reaches an init for
'registry' itself. -/
theorem discoverySafe_iff {p : SSCSensorPrivate F} {es : List Event}
    (hcall : (Sensor.new p).call (.init none) = some w₁)
    (hrun : exec (step pb) w₁ es = some w) :
    Always (step pb) w₁
        (fun pre w => DiscoverySafe p.uid p.dataType (heard pb w₁ pre) w) es ↔
      StepsMeet (step pb) w₁ (fun pre w e =>
        NoRegistryAgain pb p.dataType (heard pb w₁ pre) w e) es := by
  have hall : StepsMeet (step pb) w₁ (fun _ _ _ => True) es :=
    fun _ _ _ _ _ => trivial
  apply always_iff_stepsMeet
    (I := fun pre w => exec (step pb) w₁ pre = some w ∧
      Addressed p.uid p.dataType (heard pb w₁ pre) w)
    hrun hall ⟨rfl, addressed_start hcall⟩
  case hstep =>
    rintro pre v e v' ⟨hpre, h⟩ - he hstep
    refine ⟨exec_snoc.mpr ⟨v, hpre, hstep⟩, ?_⟩
    rw [heard_snoc hpre]
    exact addressed_step h he hstep
  case hsound => exact fun _ _ h => h.2.toDiscoverySafe
  case hbreak =>
    rintro pre v e v' ⟨hpre, h⟩ - he hstep
    rw [heard_snoc hpre]
    exact not_discoverySafe_step h he hstep

/-! An init for 'registry' is told twice where the registry is. -/

def registryTwice : List Event :=
  [.report (Exchange.registryReport [0])] ++
    [.report (Exchange.registryReport [0])]

theorem registry_not_addressed :
    ¬ Always (step Exchange.registryKnown) Exchange.registryInit
      (fun pre w => DiscoverySafe ⟨0, 0⟩ "registry"
        (heard Exchange.registryKnown Exchange.registryInit pre) w)
      registryTwice := by
  intro h
  have hlast := h.last (s := (exec (step Exchange.registryKnown)
    Exchange.registryInit registryTwice).get (by decide))
    (Option.some_get _).symm
  exact absurd hlast.once (by decide)

theorem discoverySafe_iff_registry :
    Always (step Exchange.registryKnown) Exchange.registryInit
        (fun pre w => DiscoverySafe ⟨0, 0⟩ "registry"
          (heard Exchange.registryKnown Exchange.registryInit pre) w)
        registryTwice ↔
      StepsMeet (step Exchange.registryKnown) Exchange.registryInit
        (fun pre w e => NoRegistryAgain Exchange.registryKnown "registry"
          (heard Exchange.registryKnown Exchange.registryInit pre) w e)
        registryTwice :=
  discoverySafe_iff (p := sscSensorInit "registry")
    (w := (exec (step Exchange.registryKnown) Exchange.registryInit
      registryTwice).get (by decide))
    (Option.some_get _).symm (Option.some_get _).symm

end Sensor

end Libssc

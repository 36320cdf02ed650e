import Libssc.Client

/-!
# What a client gives back

A construction acquires the bus, the device, the opened device and the QMI
client one after the other, and may stop after any of them. `ssc_client_dispose`
should give back what has been acquired, in the opposite order, once, however
often it runs.

It looks at the QMI client alone. Without one it returns at once, so whatever
the construction had acquired before it failed is kept forever.
-/

namespace Libssc

/-- What a construction acquires, stage by stage. -/
inductive Acquisition where
  | busNew
  | deviceNew
  | deviceOpen
  | allocateClient
deriving DecidableEq, Repr

/-- What `ssc_client_dispose` does with an acquisition, and with the reference to
the QMI client. -/
inductive Release where
  | releaseClient
  | closeDevice
  | unrefClient
  | unrefDevice
  | unrefBus
deriving DecidableEq, Repr

/-- The client comes first, then the device is closed, then the references are
dropped. -/
def Release.rank : Release → ℕ
  | .releaseClient => 0
  | .closeDevice => 1
  | .unrefClient => 2
  | .unrefDevice => 2
  | .unrefBus => 2

/-- Every stage of the construction succeeds. -/
def Construction.Succeeds (c : Construction) : Prop :=
  (∃ nodes, c.bus = .ok nodes ∧ Client.nodeFound nodes = true) ∧ c.device = none ∧
    c.deviceOpen = none ∧ c.allocateClient = none

namespace Client

/-! ## Acquisitions -/

/-- The acquisitions of `device_open_ready`, and so on for the stages before. -/
def acquiredOpen (c : Construction) : List Acquisition :=
  match c.deviceOpen with
  | some _ => []
  | none =>
      .deviceOpen ::
        match c.allocateClient with
        | some _ => []
        | none => [.allocateClient]

def acquiredDevice (c : Construction) : List Acquisition :=
  match c.device with
  | some _ => []
  | none => .deviceNew :: acquiredOpen c

/-- All acquisitions of a construction, in order. -/
def acquired (c : Construction) : List Acquisition :=
  match c.bus with
  | .error _ => []
  | .ok nodes =>
      .busNew :: if nodeFound nodes then acquiredDevice c else []

/-- The client knows of its acquisitions, except that the device is open. -/
theorem initableInitAsync_owns (c : Construction) :
    (initableInitAsync c).1 =
      { bus := decide (.busNew ∈ acquired c)
        device := decide (.deviceNew ∈ acquired c)
        qmiClientSsc := decide (.allocateClient ∈ acquired c) } := by
  obtain ⟨bus, device, deviceOpen, allocate⟩ := c
  unfold initableInitAsync busNewReady acquired acquiredDevice acquiredOpen
    deviceNewReady deviceOpenReady allocateClientReady
  cases bus with
  | error e => rfl
  | ok nodes =>
      by_cases hfound : nodeFound nodes = true
      · cases device with
        | some e => simp [hfound]
        | none =>
            cases deviceOpen with
            | some e => simp [hfound]
            | none => cases allocate <;> simp [hfound]
      · simp [hfound]

/-- The QMI client is acquired last. -/
theorem allocateClient_mem_acquired (c : Construction) :
    .allocateClient ∈ acquired c ↔ c.Succeeds := by
  unfold acquired Construction.Succeeds
  cases c.bus with
  | error e => simp
  | ok nodes =>
      by_cases hfound : nodeFound nodes = true
      · unfold acquiredDevice
        cases c.device with
        | some e => simp [hfound]
        | none =>
            unfold acquiredOpen
            cases c.deviceOpen with
            | some e => simp [hfound]
            | none => cases c.allocateClient <;> simp [hfound]
      · simp [hfound]

theorem acquired_of_succeeds {c : Construction} (h : c.Succeeds) :
    acquired c = [.busNew, .deviceNew, .deviceOpen, .allocateClient] := by
  obtain ⟨⟨nodes, hbus, hfound⟩, hdevice, hopen, halloc⟩ := h
  simp [acquired, acquiredDevice, acquiredOpen, hbus, hfound, hdevice, hopen,
    halloc]

/-- Once there is a bus, something has been acquired. -/
theorem busNew_mem_acquired (c : Construction) :
    .busNew ∈ acquired c ↔ ¬ ∃ e, c.bus = .error e := by
  unfold acquired
  cases c.bus with
  | error e => simp
  | ok nodes => simp

/-! ## Releases -/

/-- `ssc_client_dispose`: the private state afterwards, and what has been done.
That a release or a close fails is only logged. -/
def dispose (p : SSCClientPrivate) : SSCClientPrivate × List Release :=
  if p.qmiClientSsc = false then (p, [])
  else
    ({ bus := false, device := false, qmiClientSsc := false },
      [.releaseClient, .closeDevice, .unrefClient] ++
        (if p.device then [.unrefDevice] else []) ++
        (if p.bus then [.unrefBus] else []))

/-- All that `n` calls of dispose do. -/
def disposals : ℕ → SSCClientPrivate → List Release
  | 0, _ => []
  | n + 1, p => (dispose p).2 ++ disposals n (dispose p).1

/-- Everything that was acquired, and nothing else, has been released, once each
and in order. -/
structure ReleasesAll (acq : List Acquisition) (log : List Release) : Prop where
  client : log.count .releaseClient = if .allocateClient ∈ acq then 1 else 0
  close : log.count .closeDevice = if .deviceOpen ∈ acq then 1 else 0
  device : log.count .unrefDevice = if .deviceNew ∈ acq then 1 else 0
  bus : log.count .unrefBus = if .busNew ∈ acq then 1 else 0
  order : log.Pairwise (fun a b => a.rank ≤ b.rank)

/-- Without a QMI client nothing is ever released. -/
theorem disposals_of_no_client {p : SSCClientPrivate}
    (h : p.qmiClientSsc = false) (n : ℕ) : disposals n p = [] := by
  induction n with
  | zero => rfl
  | succ n ih =>
      have hdispose : dispose p = (p, []) := if_pos h
      rw [disposals, hdispose, List.nil_append]
      exact ih

/-- The first call releases a complete client, the later ones find nothing. -/
theorem disposals_complete (n : ℕ) :
    disposals (n + 1) ⟨true, true, true⟩ =
      [.releaseClient, .closeDevice, .unrefClient, .unrefDevice, .unrefBus] := by
  rw [disposals, disposals_of_no_client rfl]
  rfl

/-- **A client gives back what it acquired** if and only if it could not acquire
anything or its construction succeeded in every stage. -/
theorem releasesAll_iff (c : Construction) (n : ℕ) :
    ReleasesAll (acquired c) (disposals (n + 1) (initableInitAsync c).1) ↔
      (∃ e, c.bus = .error e) ∨ c.Succeeds := by
  rw [initableInitAsync_owns]
  by_cases hsucc : c.Succeeds
  · refine iff_of_true ?_ (Or.inr hsucc)
    rw [acquired_of_succeeds hsucc]
    show ReleasesAll _ (disposals (n + 1) ⟨true, true, true⟩)
    rw [disposals_complete]
    constructor
    case order => simp [Release.rank]
    all_goals rfl
  · have hclient : .allocateClient ∉ acquired c :=
      mt (allocateClient_mem_acquired c).mp hsucc
    rw [disposals_of_no_client (by simpa using hclient)]
    constructor
    · intro h
      by_contra hbad
      have hbus : .busNew ∈ acquired c :=
        (busNew_mem_acquired c).mpr (fun he => hbad (Or.inl he))
      have := h.bus
      rw [if_pos hbus] at this
      exact absurd this (by simp)
    · rintro (⟨e, he⟩ | h)
      · have hnil : acquired c = [] := by simp [acquired, he]
        rw [hnil]
        constructor
        case order => exact List.Pairwise.nil
        all_goals rfl
      · exact absurd h hsucc

/-! The service is there, but no QMI client can be allocated on it. -/

def allocationFailed : Construction where
  bus := .ok [some 1]
  device := none
  deviceOpen := none
  allocateClient := some ⟨"qmi-core-error-quark", 1, "Transaction timed out"⟩

theorem allocationFailed_not_released :
    ¬ ReleasesAll (acquired allocationFailed)
      (disposals 1 (initableInitAsync allocationFailed).1) := by
  intro h
  exact absurd h.close (by decide)

end Client

end Libssc

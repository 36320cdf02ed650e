import Libssc.SingleOperation

/-!
# What an init has been told

The discovery responses that reach the connected handler of an init, in order.
They are all that decides about the UID, the availability of the service, the
retries and the requests: an event that tells the init no response leaves these
alone (`step_of_told_none`), and a response has the outcome that `suidOutcome`
gives (`step_of_told`), whatever else happened before.

A response is positive when it is the one a poll waits for: 'registry', with at
least one UID.
-/

namespace Libssc

open Library

variable {F : Type} [GFloat F] {pb : Protobuf F}

/-! ## Discovery responses -/

/-- The discovery response in a report, if it is one and decodes. -/
def Report.suidResponse? (pb : Protobuf F) (r : Report) :
    Option SscSuidResponse :=
  if r.IsSuid then pb.suidResponseUnpack r.buf else none

/-- The response that makes the service available. -/
abbrev SscSuidResponse.Positive (m : SscSuidResponse) : Prop :=
  m.uid ≠ [] ∧ m.dataType = "registry"

omit [GFloat F] in
theorem outcome_of_suidResponse? {p : SSCSensorPrivate F} {r : Report}
    {m : SscSuidResponse} (h : r.suidResponse? pb = some m) :
    p.outcome pb r = p.suidOutcome m := by
  unfold Report.suidResponse? at h
  split at h
  · rename_i hs
    rw [SSCSensorPrivate.outcome_of_isSuid hs, h]
  · exact absurd h (by simp)

/-- The parts of the private state that discovery is about. -/
def SSCSensorPrivate.discovery (p : SSCSensorPrivate F) :
    SscUid × String × Bool × ℕ :=
  (p.uid, p.dataType, p.serviceAvailable, p.serviceRetries)

/-- A report that is no discovery response sends nothing and leaves discovery
alone. -/
theorem outcome_of_suidResponse?_none {p : SSCSensorPrivate F} {r : Report}
    (h : r.suidResponse? pb = none) :
    (∀ t q, (p.outcome pb r).request t q = none) ∧
      ((p.outcome pb r).update p).discovery = p.discovery := by
  by_cases hs : r.IsSuid
  · have hnone : pb.suidResponseUnpack r.buf = none := by
      simpa [Report.suidResponse?, hs] using h
    rw [SSCSensorPrivate.outcome_of_isSuid hs, hnone]
    exact ⟨fun _ _ => rfl, rfl⟩
  · by_cases ha : p.IsAttributes pb r
    · obtain ⟨m, hm⟩ := Option.isSome_iff_exists.mp ha.2.2
      rw [SSCSensorPrivate.outcome_eq_attributes.mpr ⟨ha.1, ha.2.1, hm⟩]
      exact ⟨fun _ _ => rfl, by simp [SSCSensorPrivate.discovery, Outcome.update]⟩
    · by_cases he : p.IsEnabled pb r
      · rw [SSCSensorPrivate.outcome_eq_enabled.mpr he]
        exact ⟨fun _ _ => rfl, rfl⟩
      · rw [SSCSensorPrivate.outcome_eq_ignored hs ha he]
        exact ⟨fun _ _ => rfl, rfl⟩

namespace Sensor

variable {w w' w₁ : Sensor F} {t : ℕ} {e : Event}

/-! ## The responses an init is told -/

/-- The discovery response that an event tells the handler, if one is
connected. -/
def told (pb : Protobuf F) : Sensor F × Event → Option SscSuidResponse
  | (_, .sendReady _ _) => none
  | (w, .report r) => if w.listeners = [] then none else r.suidResponse? pb

/-- All discovery responses that a run has told the handler, in order. -/
def heard (pb : Protobuf F) (w₁ : Sensor F) (es : List Event) :
    List SscSuidResponse :=
  (trace (step pb) w₁ es).filterMap (told pb)

@[simp] theorem heard_nil : heard pb w₁ [] = [] := rfl

theorem heard_snoc {es : List Event} (h : exec (step pb) w₁ es = some w) :
    heard pb w₁ (es ++ [e]) = heard pb w₁ es ++ (told pb (w, e)).toList := by
  unfold heard
  rw [trace_snoc h, List.filterMap_append]
  cases htold : told pb (w, e) <;> simp [htold]

/-- An event that tells no response sends nothing and leaves discovery alone. -/
theorem step_of_told_none (h : Sole t w) (hstep : w.step pb e = some w')
    (htold : told pb (w, e) = none) :
    w'.sent = w.sent ∧ w'.priv.discovery = w.priv.discovery := by
  cases e with
  | sendReady i error =>
      obtain ⟨r, -, hran⟩ := sole_sendRan h hstep
      exact ⟨hran.sent, by rw [hran.priv]⟩
  | report r =>
      obtain rfl := Option.some.inj hstep
      rcases sole_report_cases h pb r with ⟨-, heq⟩ | ⟨hl, -, heq⟩
      · rw [heq]
        exact ⟨rfl, rfl⟩
      · have hnone : r.suidResponse? pb = none := by
          simpa [told, hl] using htold
        obtain ⟨hreq, hdisc⟩ := outcome_of_suidResponse?_none (p := w.priv) hnone
        rw [heq, perform_sent, perform_priv, hreq]
        refine ⟨by simp, ?_⟩
        cases (w.priv.outcome pb r).result <;> exact hdisc

/-- A response finds the handler connected and its context alive, and has its
outcome. -/
theorem step_of_told (h : Sole t w) (hstep : w.step pb e = some w')
    {m : SscSuidResponse} (htold : told pb (w, e) = some m) :
    w.listeners = [(w.priv.reportId, .sensor t)] ∧ t ∉ w.freed ∧
      w' = w.perform t (w.priv.suidOutcome m) := by
  cases e with
  | sendReady i error => exact absurd htold (by simp [told])
  | report r =>
      obtain rfl := Option.some.inj hstep
      rcases sole_report_cases h pb r with ⟨hl, -⟩ | ⟨hl, hf, heq⟩
      · exact absurd htold (by simp [told, hl])
      · have hm : r.suidResponse? pb = some m := by
          simpa [told, hl] using htold
        exact ⟨hl, hf, by rw [heq, outcome_of_suidResponse? hm]⟩

/-! ## The data type -/

theorem dataType_update (o : Outcome F) (p : SSCSensorPrivate F) :
    (o.update p).dataType = p.dataType := by
  cases o <;> simp [Outcome.update]

/-- An init never looks for another data type than the one it started with. -/
theorem dataType_step (h : Sole t w) (hstep : w.step pb e = some w') :
    w'.priv.dataType = w.priv.dataType := by
  cases hm : told pb (w, e) with
  | none => exact congrArg (·.2.1) (step_of_told_none h hstep hm).2
  | some m =>
      obtain ⟨-, -, rfl⟩ := step_of_told h hstep hm
      have hd := dataType_update (w.priv.suidOutcome m) w.priv
      rw [perform_priv]
      cases (w.priv.suidOutcome m).result <;> exact hd

end Sensor

end Libssc

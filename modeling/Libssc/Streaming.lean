import Libssc.Library.Run
import Libssc.Workers

/-!
# Streaming to several clients

What a client is to be sent depends on its own requests: a sensor streams to it
from the request that enables the sensor until the one that disables it, as long
as the client is there. The server's dictionary has one entry for each sensor,
whoever has enabled it. A client that enables a sensor while there is an entry
for another one gets nothing, also when that other one has disappeared, and a
client that disables a sensor ends the stream of the one that has enabled it. A
stream also ends at a measurement that is too long to be sent.

Where neither happens, the server does for each client what its own requests say
(`isolated_step`).
-/

namespace Libssc

open Library

variable {F : Type}

namespace SSCMockingServer

variable {wire : MeasurementWire F} {data : List (MeasuredEntry F)}
  {s s' : SSCMockingServer} {a : Action}

/-! ## What the clients have asked for -/

/-- What a request says about sensor `u` and client `c`: on, off, or nothing. -/
def switchOf (wire : Wire F) (c : QrtrAddress) (u : SscUid)
    (q : QrtrAddress × GArray) : Option Bool :=
  match switches wire q.2 with
  | none => none
  | some (v, b) => if q.1 = c ∧ v = u then some b else none

/-- In the requests `l` client `c` has enabled sensor `u` more recently than it
has disabled it. -/
def Enabled (wire : Wire F) (l : List (QrtrAddress × GArray)) (c : QrtrAddress)
    (u : SscUid) : Prop :=
  (l.filterMap (switchOf wire c u)).getLast? = some true

/-- The request that an action sends. -/
def requestIn : Action → Option (QrtrAddress × GArray)
  | .request c message => some (c, message)
  | _ => none

/-- All requests that have been sent in a run. -/
def requests (as : List Action) : List (QrtrAddress × GArray) :=
  as.filterMap requestIn

/-- The request that an action handles. -/
def handledIn : SSCMockingServer × Action → Option (QrtrAddress × GArray)
  | (s, .process) => s.inbox.head?
  | _ => none

/-- All requests that the server has handled in a run. -/
def handled (wire : MeasurementWire F) (data : List (MeasuredEntry F))
    (as : List Action) : List (QrtrAddress × GArray) :=
  (trace (act wire data) new as).filterMap handledIn

theorem enabled_snoc {wire : Wire F} {l : List (QrtrAddress × GArray)}
    {c d : QrtrAddress} {u v : SscUid} {message : GArray} {b : Bool}
    (h : switches wire message = some (u, b)) :
    Enabled wire (l ++ [(c, message)]) d v ↔
      if c = d ∧ u = v then b = true else Enabled wire l d v := by
  have hswitch : switchOf wire d v (c, message) =
      if c = d ∧ u = v then some b else none := by
    unfold switchOf
    rw [h]
  unfold Enabled
  rw [List.filterMap_append]
  split_ifs with heq
  · rw [if_pos heq] at hswitch
    simp [hswitch]
  · rw [if_neg heq] at hswitch
    simp [hswitch]

theorem handled_snoc {as : List Action}
    (h : exec (act wire data) new as = some s) :
    handled wire data (as ++ [a]) =
      handled wire data as ++ (handledIn (s, a)).toList := by
  unfold handled
  rw [trace_snoc h, List.filterMap_append]
  cases hq : handledIn (s, a) <;> simp [hq]

/-- Requests are handled in the order in which they arrive. -/
theorem inbox_step (hstep : Step wire data s a s') :
    s.inbox ++ (requestIn a).toList =
      (handledIn (s, a)).toList ++ s'.inbox := by
  cases hstep with
  | request _ => rfl
  | exit _ hinbox _ => simp [handledIn, requestIn, hinbox]
  | warn _ hinbox _ _ _ => simp [handledIn, requestIn, hinbox, acknowledge, sendto]
  | enable _ hinbox _ _ _ =>
      simp [handledIn, requestIn, hinbox, acknowledge, sendto, startWorker]
  | disable _ hinbox _ _ _ =>
      simp [handledIn, requestIn, hinbox, acknowledge, sendto, stopWorker,
        endProcess]
  | _ => simp [handledIn, requestIn, sendto, endProcess]

/-! ## What streams -/

/-- Measurements of sensor `u` are being sent to client `c`. -/
def Streams (s : SSCMockingServer) (c : QrtrAddress) (u : SscUid) : Prop :=
  ∃ i, s.LiveWorker i c u

theorem streams_congr (hprocesses : s'.processes = s.processes)
    (hgone : s'.gone = s.gone) (c : QrtrAddress) (u : SscUid) :
    s'.Streams c u ↔ s.Streams c u := by
  unfold Streams LiveWorker
  rw [hprocesses, hgone]

theorem streams_acknowledge {d : QrtrAddress}
    {rest : List (QrtrAddress × GArray)} (c : QrtrAddress) (u : SscUid) :
    (s.acknowledge d rest).Streams c u ↔ s.Streams c u :=
  streams_congr rfl rfl c u

theorem streams_startWorker {c d : QrtrAddress} {u v : SscUid}
    (hc : c ∉ s.gone) :
    (s.startWorker u c).Streams d v ↔ s.Streams d v ∨ d = c ∧ v = u := by
  constructor
  · rintro ⟨j, w, hw, hrunning, rfl, rfl, hgone⟩
    rcases getElem?_startWorker.mp hw with hold | ⟨-, rfl⟩
    · exact Or.inl ⟨j, w, hold, hrunning, rfl, rfl, hgone⟩
    · exact Or.inr ⟨rfl, rfl⟩
  · rintro (⟨j, w, hw, hrest⟩ | ⟨rfl, rfl⟩)
    · exact ⟨j, w, getElem?_startWorker.mpr (Or.inl hw), hrest⟩
    · exact ⟨_, _, getElem?_startWorker.mpr (Or.inr ⟨rfl, rfl⟩), rfl, rfl, rfl, hc⟩

theorem streams_stopWorker {u v : SscUid} {i : ℕ} {d : QrtrAddress}
    (h : Supervised wire data s) (hu : s.workers.lookup u = some i) :
    (s.stopWorker u i).Streams d v ↔ s.Streams d v ∧ v ≠ u := by
  constructor
  · rintro ⟨j, x, hx, hrunning, rfl, rfl, hgone⟩
    obtain ⟨w, hw, rfl⟩ := getElem?_modify_eq_some.mp hx
    by_cases hij : i = j
    · rw [if_pos hij] at hrunning
      exact absurd hrunning (by simp)
    · rw [if_neg hij] at hrunning hgone ⊢
      refine ⟨⟨j, w, hw, hrunning, rfl, rfl, hgone⟩, ?_⟩
      rintro rfl
      have hlookup := (h.running j w hw hrunning).1
      rw [hu] at hlookup
      exact hij (Option.some.inj hlookup)
  · rintro ⟨⟨j, w, hw, hrunning, hclient, rfl, hgone⟩, hne⟩
    have hij : i ≠ j := by
      rintro rfl
      obtain ⟨x, hx, hxu⟩ := h.entry u i hu
      obtain rfl : x = w := Option.some.inj (hx.symm.trans hw)
      exact hne hxu
    refine ⟨j, w, ?_, hrunning, hclient, rfl, hgone⟩
    exact getElem?_modify_eq_some.mpr ⟨w, hw, (if_neg hij).symm⟩

/-- An enable adds its client. -/
theorem streams_enable {c d : QrtrAddress} {u v : SscUid}
    {rest : List (QrtrAddress × GArray)} (hc : c ∉ s.gone) :
    ((s.acknowledge c rest).startWorker u c).Streams d v ↔
      s.Streams d v ∨ d = c ∧ v = u := by
  rw [streams_startWorker (s := s.acknowledge c rest) hc, streams_acknowledge]

/-- A disable takes the sensor away from everyone. -/
theorem streams_disable {c d : QrtrAddress} {u v : SscUid} {i : ℕ}
    {q : QrtrAddress × GArray} {rest : List (QrtrAddress × GArray)}
    (h : Supervised wire data s) (hinbox : s.inbox = q :: rest)
    (hu : s.workers.lookup u = some i) :
    ((s.acknowledge c rest).stopWorker u i).Streams d v ↔
      s.Streams d v ∧ v ≠ u := by
  rw [streams_stopWorker (supervised_acknowledge h c hinbox) hu,
    streams_acknowledge]

/-- A process that sends to nobody is no loss. -/
theorem streams_endProcess {i : ℕ} {w : Worker} (hw : s.processes[i]? = some w)
    (hc : w.client ∈ s.gone) (d : QrtrAddress) (v : SscUid) :
    (s.endProcess i).Streams d v ↔ s.Streams d v := by
  constructor
  · rintro ⟨j, x, hx, hrunning, rfl, rfl, hgone⟩
    obtain ⟨y, hy, rfl⟩ := getElem?_modify_eq_some.mp hx
    by_cases hij : i = j
    · rw [if_pos hij] at hrunning
      exact absurd hrunning (by simp)
    · rw [if_neg hij] at hrunning hgone ⊢
      exact ⟨j, y, hy, hrunning, rfl, rfl, hgone⟩
  · rintro ⟨j, x, hx, hrunning, rfl, rfl, hgone⟩
    have hij : i ≠ j := by
      rintro rfl
      obtain rfl : w = x := Option.some.inj (hw.symm.trans hx)
      exact hgone hc
    refine ⟨j, x, ?_, hrunning, rfl, rfl, hgone⟩
    exact getElem?_modify_eq_some.mpr ⟨x, hx, (if_neg hij).symm⟩

theorem streams_advance {i : ℕ} (hgone : s'.gone = s.gone)
    (hprocesses : s'.processes =
      s.processes.modify i (fun w => { w with index := w.index + 1 }))
    (d : QrtrAddress) (v : SscUid) : s'.Streams d v ↔ s.Streams d v := by
  have hsame : ∀ (j : ℕ) (y : Worker),
      (if i = j then { y with index := y.index + 1 } else y).running = y.running ∧
      (if i = j then { y with index := y.index + 1 } else y).client = y.client ∧
      (if i = j then { y with index := y.index + 1 } else y).uid = y.uid := by
    intro j y
    split_ifs <;> exact ⟨rfl, rfl, rfl⟩
  unfold Streams LiveWorker
  rw [hprocesses, hgone]
  constructor
  · rintro ⟨j, x, hx, hrunning, hclient, huid, hd⟩
    obtain ⟨y, hy, rfl⟩ := getElem?_modify_eq_some.mp hx
    obtain ⟨h₁, h₂, h₃⟩ := hsame j y
    exact ⟨j, y, hy, h₁ ▸ hrunning, h₂ ▸ hclient, h₃ ▸ huid, hd⟩
  · rintro ⟨j, y, hy, hrunning, hclient, huid, hd⟩
    obtain ⟨h₁, h₂, h₃⟩ := hsame j y
    exact ⟨j, _, getElem?_modify_eq_some.mpr ⟨y, hy, rfl⟩, h₁.trans hrunning,
      h₂.trans hclient, h₃.trans huid, hd⟩

theorem streams_disappear {c d : QrtrAddress} {v : SscUid} :
    { s with gone := c :: s.gone }.Streams d v ↔ s.Streams d v ∧ d ≠ c := by
  unfold Streams LiveWorker
  simp only [List.mem_cons, not_or]
  constructor
  · rintro ⟨j, w, hw, hrunning, hclient, huid, hne, hd⟩
    exact ⟨⟨j, w, hw, hrunning, hclient, huid, hd⟩, hne⟩
  · rintro ⟨⟨j, w, hw, hrunning, hclient, huid, hd⟩, hne⟩
    exact ⟨j, w, hw, hrunning, hclient, huid, hne, hd⟩

/-! ## The law -/

/-- After the requests `l` a sensor streams to exactly the clients that are there
and want it, and no request waits for a server that has exited. -/
structure Isolated (wire : Wire F) (l : List (QrtrAddress × GArray))
    (s : SSCMockingServer) : Prop where
  streams : ∀ c u, s.Streams c u ↔ c ∉ s.gone ∧ Enabled wire l c u
  serving : s.exited = true → s.inbox = []

/-- An entry for the sensor, if there is one, is that of the client, or it is to
be deleted and that of a client that has disappeared. -/
def EntryFree (s : SSCMockingServer) (c : QrtrAddress) (u : SscUid) (b : Bool) :
    Prop :=
  ∀ i w, s.workers.lookup u = some i → s.processes[i]? = some w →
    w.client = c ∨ b = false ∧ w.client ∈ s.gone

/-- The action does not meet another client's entry, nor does it leave a request
to a server that has exited or is about to, nor is it the turn of a process that
has come to a measurement that is too long, for a client that is there. -/
def Undisturbed (wire : MeasurementWire F) (data : List (MeasuredEntry F))
    (s : SSCMockingServer) : Action → Prop
  | .request _ _ => s.exited = false
  | .disappear _ => True
  | .process => ∀ c message rest, s.inbox = (c, message) :: rest →
      (c ∈ s.gone → rest = []) ∧
        (c ∉ s.gone → ∀ u b, switches wire.toWire message = some (u, b) →
          s.EntryFree c u b)
  | .measure i => ∀ w response, s.processes[i]? = some w → w.client ∉ s.gone →
      Measures wire data w response → DataFits response

/-- An entry whose process has ended is that of a client that has disappeared. -/
def EndedGone (s : SSCMockingServer) : Prop :=
  ∀ i w, s.workers.lookup w.uid = some i → s.processes[i]? = some w →
    w.running = false → w.client ∈ s.gone

theorem isolated_new {wire : Wire F} : Isolated wire [] new where
  streams c u := by
    constructor
    · rintro ⟨i, w, hw, -⟩
      exact absurd hw (by simp [new])
    · rintro ⟨-, h⟩
      exact absurd h (by simp [Enabled])
  serving h := absurd h (by simp [new])

theorem endedGone_new : EndedGone new := fun _ _ h => absurd h (by simp [new])

/-- A sensor without an entry streams to nobody. -/
theorem not_streams_of_lookup (h : Supervised wire data s) {u : SscUid}
    (hu : s.workers.lookup u = none) (c : QrtrAddress) : ¬ s.Streams c u := by
  rintro ⟨i, w, hw, hrunning, -, rfl, -⟩
  rw [(h.running i w hw hrunning).1] at hu
  exact absurd hu (by simp)

/-- An entry streams to its client, if that is there, and to nobody else. -/
theorem streams_iff_client (h : Supervised wire data s) (hended : s.EndedGone)
    {u : SscUid} {i : ℕ} {w : Worker} (hu : s.workers.lookup u = some i)
    (hw : s.processes[i]? = some w) (c : QrtrAddress) :
    s.Streams c u ↔ c = w.client ∧ w.client ∉ s.gone := by
  obtain ⟨x, hx, hxu⟩ := h.entry u i hu
  obtain rfl : x = w := Option.some.inj (hx.symm.trans hw)
  constructor
  · rintro ⟨j, y, hy, hrunning, rfl, hyu, hgone⟩
    have hlookup := (h.running j y hy hrunning).1
    rw [hyu, hu] at hlookup
    obtain rfl := Option.some.inj hlookup
    obtain rfl : x = y := Option.some.inj (hx.symm.trans hy)
    exact ⟨rfl, hgone⟩
  · rintro ⟨rfl, hgone⟩
    refine ⟨i, x, hx, ?_, rfl, hxu, hgone⟩
    cases hrunning : x.running with
    | true => rfl
    | false => exact absurd (hended i x (by rw [hxu]; exact hu) hx hrunning) hgone

/-- An action that handles no request and changes no stream. -/
theorem isolated_of_same {wire : Wire F} {l : List (QrtrAddress × GArray)}
    (h : Isolated wire l s) (hgone : s'.gone = s.gone)
    (hstreams : ∀ d v, s'.Streams d v ↔ s.Streams d v)
    (hserving : s'.exited = true → s'.inbox = []) :
    Isolated wire (l ++ []) s' where
  streams d v := by
    rw [hstreams, h.streams, hgone, List.append_nil]
  serving := hserving

/-- A request does what it says for its own client and sensor, and nothing for
others. -/
theorem isolated_of_switches {wire : Wire F} {l : List (QrtrAddress × GArray)}
    {c : QrtrAddress} {message : GArray} {u : SscUid} {b : Bool}
    (h : Isolated wire l s) (hm : switches wire message = some (u, b))
    (hc : c ∉ s.gone) (hgone : s'.gone = s.gone) (hexited : s'.exited = false)
    (hself : s'.Streams c u ↔ b = true)
    (hother : ∀ d v, ¬ (c = d ∧ u = v) → (s'.Streams d v ↔ s.Streams d v)) :
    Isolated wire (l ++ [(c, message)]) s' where
  streams d v := by
    rw [enabled_snoc hm, hgone]
    split_ifs with heq
    · obtain ⟨rfl, rfl⟩ := heq
      rw [hself]
      exact (and_iff_right hc).symm
    · rw [hother d v heq, h.streams]
  serving h := absurd (hexited.symm.trans h) (by simp)

/-- The first request is handled by an action that does what it says. -/
theorem undisturbed_process {c : QrtrAddress} {message : GArray}
    {rest : List (QrtrAddress × GArray)} {u : SscUid} {b : Bool}
    (hinbox : s.inbox = (c, message) :: rest)
    (hm : switches wire.toWire message = some (u, b)) :
    Undisturbed wire data s .process ↔
      (c ∈ s.gone → rest = []) ∧ (c ∉ s.gone → s.EntryFree c u b) := by
  constructor
  · intro h
    obtain ⟨hgone, hfree⟩ := h c message rest hinbox
    exact ⟨hgone, fun hc => hfree hc u b hm⟩
  · rintro ⟨hgone, hfree⟩ c' message' rest' hinbox'
    obtain ⟨hq, rfl⟩ := List.cons.inj (hinbox.symm.trans hinbox')
    obtain ⟨rfl, rfl⟩ := Prod.mk.inj hq
    refine ⟨hgone, fun hc u' b' hm' => ?_⟩
    obtain ⟨rfl, rfl⟩ := Prod.mk.inj (Option.some.inj (hm.symm.trans hm'))
    exact hfree hc

theorem handledIn_process {q : QrtrAddress × GArray}
    {rest : List (QrtrAddress × GArray)} (hinbox : s.inbox = q :: rest) :
    handledIn (s, .process) = some q := by
  simp [handledIn, hinbox]

/-- An undisturbed process ends only when its client has disappeared. -/
theorem endedGone_step (hs : Supervised wire data s) (h : s.EndedGone)
    (ha : Undisturbed wire data s a) (hstep : Step wire data s a s') :
    s'.EndedGone := by
  cases hstep with
  | request _ => exact h
  | disappear c => exact fun i w hu hw hend => List.mem_cons_of_mem _ (h i w hu hw hend)
  | exit _ _ _ => exact h
  | warn _ _ _ _ _ => exact h
  | @enable c message rest u _ _ _ _ hu =>
      intro j w hlookup hw hend
      rcases getElem?_startWorker.mp hw with hold | ⟨rfl, rfl⟩
      · have hne : w.uid ≠ u := by
          rintro rfl
          obtain rfl : s.processes.length = j := by
            simpa [startWorker, acknowledge, sendto] using hlookup
          exact absurd hold (by simp [acknowledge, sendto])
        refine h j w ?_ hold hend
        simpa [startWorker, acknowledge, sendto, AList.lookup_insert_ne hne]
          using hlookup
      · exact absurd hend (by simp)
  | @disable c message rest u i _ _ _ _ hu =>
      intro j v hlookup hv hend
      have hne : v.uid ≠ u := by
        intro heq
        rw [heq] at hlookup
        exact absurd hlookup (by simp [stopWorker])
      have hlookup' : s.workers.lookup v.uid = some j := by
        simpa [stopWorker, acknowledge, sendto, AList.lookup_erase_ne hne]
          using hlookup
      have hij : i ≠ j := by
        rintro rfl
        obtain ⟨x, hx, hxu⟩ := hs.entry u i hu
        obtain ⟨y, hy, hyv⟩ := hs.entry v.uid i hlookup'
        obtain rfl : x = y := Option.some.inj (hx.symm.trans hy)
        exact hne (hyv.symm.trans hxu)
      obtain ⟨w, hw, hvw⟩ := getElem?_modify_eq_some.mp hv
      rw [if_neg hij] at hvw
      subst hvw
      exact h j v hlookup' hw hend
  | @measure i _ _ _ _ _ _ _ =>
      intro j v hlookup hv hend
      obtain ⟨x, hx, rfl⟩ := getElem?_modify_eq_some.mp hv
      by_cases hij : i = j
      · rw [if_pos hij] at hlookup hend ⊢
        exact h j x hlookup hx hend
      · rw [if_neg hij] at hlookup hend ⊢
        exact h j x hlookup hx hend
  | @stop i w hw _ hc =>
      intro j v hlookup hv hend
      obtain ⟨x, hx, rfl⟩ := getElem?_modify_eq_some.mp hv
      by_cases hij : i = j
      · subst hij
        obtain rfl : w = x := Option.some.inj (hw.symm.trans hx)
        rw [if_pos rfl]
        exact hc
      · rw [if_neg hij] at hlookup hend ⊢
        exact h j x hlookup hx hend
  | overflow hw _ hm hlong hc => exact absurd (ha _ _ hw hc hm) hlong

/-- **An undisturbed action keeps the law**, with the request it handles added. -/
theorem isolated_step {l : List (QrtrAddress × GArray)}
    (hs : Supervised wire data s) (hended : s.EndedGone)
    (h : Isolated wire.toWire l s) (ha : Undisturbed wire data s a)
    (hstep : Step wire data s a s') :
    Isolated wire.toWire (l ++ (handledIn (s, a)).toList) s' := by
  cases hstep with
  | @request c message _ =>
      refine isolated_of_same h rfl ?_ fun hexited => ?_
      · exact streams_congr rfl rfl
      · exact absurd (ha.symm.trans hexited) (by simp)
  | disappear c =>
      refine ⟨fun d v => ?_, h.serving⟩
      rw [streams_disappear, h.streams]
      simp only [handledIn, Option.toList_none, List.append_nil, List.mem_cons,
        not_or]
      tauto
  | @exit c message rest _ hinbox hc =>
      obtain ⟨u, b, hm, -⟩ := switching_of_inbox hs hinbox
      rw [handledIn_process hinbox]
      refine ⟨fun d v => ?_,
        fun _ => ((undisturbed_process hinbox hm).mp ha).1 hc⟩
      have hsame : { s with inbox := rest, exited := true }.Streams d v ↔
          s.Streams d v := streams_congr rfl rfl d v
      rw [hsame, h.streams]
      show _ ↔ d ∉ s.gone ∧ Enabled wire.toWire (l ++ [(c, message)]) d v
      rw [enabled_snoc hm]
      -- the client is not there any more
      split_ifs with heq
      · exact iff_of_false (fun hd => hd.1 (heq.1 ▸ hc)) fun hd => hd.1 (heq.1 ▸ hc)
      · exact Iff.rfl
  | @warn c message rest u b hexited hinbox hc hm hu =>
      rw [handledIn_process hinbox]
      refine isolated_of_switches h hm hc rfl hexited
        ((streams_acknowledge c u).trans ?_)
        fun d v _ => streams_acknowledge d v
      cases b with
      | true =>
          -- the entry is that of the client
          obtain ⟨i, hi⟩ := Option.isSome_iff_exists.mp hu
          obtain ⟨w, hw, -⟩ := hs.entry u i hi
          rcases ((undisturbed_process hinbox hm).mp ha).2 hc i w hi hw with
            rfl | ⟨hfalse, -⟩
          · exact iff_of_true ((streams_iff_client hs hended hi hw _).mpr ⟨rfl, hc⟩) rfl
          · exact absurd hfalse (by simp)
      | false =>
          refine iff_of_false (not_streams_of_lookup hs ?_ c) (by simp)
          simpa using hu
  | @enable c message rest u hexited hinbox hc hm hu =>
      rw [handledIn_process hinbox]
      refine isolated_of_switches h hm hc rfl hexited ?_ fun d v hne => ?_
      · exact iff_of_true ((streams_enable hc).mpr (Or.inr ⟨rfl, rfl⟩)) rfl
      · rw [streams_enable hc]
        exact or_iff_left fun heq => hne ⟨heq.1.symm, heq.2.symm⟩
  | @disable c message rest u i hexited hinbox hc hm hu =>
      obtain ⟨w, hw, -⟩ := hs.entry u i hu
      rw [handledIn_process hinbox]
      refine isolated_of_switches h hm hc rfl hexited ?_ fun d v hne => ?_
      · exact iff_of_false
          (fun hd => ((streams_disable hs hinbox hu).mp hd).2 rfl) (by simp)
      · rw [streams_disable hs hinbox hu]
        apply and_iff_left_of_imp
        -- no other client was being sent the sensor
        rintro hd rfl
        obtain ⟨rfl, hgone⟩ := (streams_iff_client hs hended hu hw d).mp hd
        rcases ((undisturbed_process hinbox hm).mp ha).2 hc i w hu hw with
          heq | ⟨-, hin⟩
        · exact hne ⟨heq.symm, rfl⟩
        · exact hgone hin
  | measure _ _ _ _ _ =>
      exact isolated_of_same h rfl (streams_advance rfl rfl) h.serving
  | stop hw _ hc =>
      exact isolated_of_same h rfl (streams_endProcess hw hc) h.serving
  | overflow hw _ hm hlong hc => exact absurd (ha _ _ hw hc hm) hlong

/-- **A disturbed action breaks the law.** -/
theorem not_isolated_step {l : List (QrtrAddress × GArray)}
    (hs : Supervised wire data s) (hended : s.EndedGone)
    (h : Isolated wire.toWire l s) (ha : ¬ Undisturbed wire data s a)
    (hstep : Step wire data s a s') :
    ¬ Isolated wire.toWire (l ++ (handledIn (s, a)).toList) s' := by
  intro hbad
  cases hstep with
  | @request c message _ =>
      -- nobody will handle it
      have hexited : s.exited = true := by
        simpa [Undisturbed] using ha
      exact absurd (hbad.serving hexited) (by simp)
  | @exit c message rest _ hinbox hc =>
      obtain ⟨u, b, hm, -⟩ := switching_of_inbox hs hinbox
      apply ha
      apply (undisturbed_process hinbox hm).mpr
      exact ⟨fun _ => hbad.serving rfl, fun hno => absurd hc hno⟩
  | @warn c message rest u b hexited hinbox hc hm hu =>
      rw [handledIn_process hinbox] at hbad
      apply ha
      apply (undisturbed_process hinbox hm).mpr
      refine ⟨fun hin => absurd hin hc, fun _ i w hi hw => ?_⟩
      cases b with
      | false =>
          rw [hi] at hu
          exact absurd hu (by simp)
      | true =>
          -- the client has asked for the sensor and does not get it
          have hself := hbad.streams c u
          rw [streams_acknowledge] at hself
          have hwant : Enabled wire.toWire (l ++ [(c, message)]) c u := by
            rw [enabled_snoc hm, if_pos ⟨rfl, rfl⟩]
          have hstreams := hself.mpr ⟨hc, hwant⟩
          exact Or.inl ((streams_iff_client hs hended hi hw c).mp hstreams).1.symm
  | @enable c message rest u hexited hinbox hc hm hu =>
      apply ha
      apply (undisturbed_process hinbox hm).mpr
      refine ⟨fun hin => absurd hin hc, fun _ i w hi _ => ?_⟩
      rw [hu] at hi
      exact absurd hi (by simp)
  | @disable c message rest u j hexited hinbox hc hm hu =>
      rw [handledIn_process hinbox] at hbad
      apply ha
      apply (undisturbed_process hinbox hm).mpr
      refine ⟨fun hin => absurd hin hc, fun _ i w hi hw => ?_⟩
      obtain rfl : j = i := Option.some.inj (hu.symm.trans hi)
      by_cases hclient : w.client = c
      · exact Or.inl hclient
      by_cases hgone : w.client ∈ s.gone
      · exact Or.inr ⟨rfl, hgone⟩
      -- the sensor was streaming to another client, and does no more
      have hwas := (h.streams w.client u).mp
        ((streams_iff_client hs hended hi hw _).mpr ⟨rfl, hgone⟩)
      have hwant : Enabled wire.toWire (l ++ [(c, message)]) w.client u := by
        rw [enabled_snoc hm, if_neg fun heq => hclient heq.1.symm]
        exact hwas.2
      have hstill := (hbad.streams w.client u).mpr ⟨hgone, hwant⟩
      exact absurd rfl ((streams_disable hs hinbox hu).mp hstill).2
  | disappear _ => exact ha trivial
  | @measure i w response hw _ hm hfits _ =>
      refine ha fun w' response' hw' _ hm' => ?_
      obtain rfl : w = w' := Option.some.inj (hw.symm.trans hw')
      obtain rfl : response = response' := by
        simpa using hm.symm.trans hm'
      exact hfits
  | @stop i w hw _ hc =>
      refine ha fun w' response' hw' hc' _ => ?_
      obtain rfl : w = w' := Option.some.inj (hw.symm.trans hw')
      exact absurd hc hc'
  | @overflow i w response hw hrunning _ _ hc =>
      -- the sensor was streaming to the client of the process, and does no more
      have hwas := (h.streams w.client w.uid).mp ⟨i, w, hw, hrunning, rfl, rfl, hc⟩
      have hstill := (hbad.streams w.client w.uid).mpr ⟨hc, by
        simpa [handledIn] using hwas.2⟩
      obtain ⟨j, x, hx, hxr, hclient, huid, -⟩ := hstill
      obtain ⟨y, hy, rfl⟩ := getElem?_modify_eq_some.mp hx
      by_cases hij : i = j
      · rw [if_pos hij] at hxr
        exact absurd hxr (by simp)
      · rw [if_neg hij] at hxr huid
        have hlookup := (hs.running j y hy hxr).1
        rw [huid, (hs.running i w hw hrunning).1] at hlookup
        exact hij (Option.some.inj hlookup)

/-! ## Over a run -/

theorem requests_snoc (as : List Action) (a : Action) :
    requests (as ++ [a]) = requests as ++ (requestIn a).toList := by
  unfold requests
  rw [List.filterMap_append]
  cases hq : requestIn a <;> simp [hq]

/-- What has been sent has been handled or waits. -/
theorem requests_exec {as : List Action}
    (hscope : StepsMeet (act wire data) new
      (fun _ _ a => Switching wire data a) as) :
    Always (act wire data) new (fun pre s => Supervised wire data s ∧
      requests pre = handled wire data pre ++ s.inbox) as := by
  have hall : Always (act wire data) new (fun pre s =>
      exec (act wire data) new pre = some s ∧ Supervised wire data s ∧
        requests pre = handled wire data pre ++ s.inbox) as := by
    refine always_of_stepsMeet ⟨rfl, supervised_new, rfl⟩ ?_ hscope
    rintro pre s a s' ⟨hpre, hs, heq⟩ ha hact
    have hstep := step_of_act hs hact
    refine ⟨exec_snoc.mpr ⟨s, hpre, hact⟩, supervised_step hs ha hstep, ?_⟩
    rw [requests_snoc, heq, handled_snoc hpre, List.append_assoc,
      inbox_step hstep, List.append_assoc]
  exact hall.mono fun _ _ h => h.2

/-- **Each client gets what its own requests say**, as long as no request meets
the entry of another client and no measurement is too long. There is never more
than one live worker for a client and a sensor. After each request handled the
streams are those asked for if and only if all actions are undisturbed; and then,
whenever no request waits, a sensor streams to a client if and only if the client
is there and has enabled it more recently than it has disabled it. -/
theorem isolated_iff_undisturbed {as : List Action}
    (hrun : exec (act wire data) new as = some s)
    (hscope : StepsMeet (act wire data) new
      (fun _ _ a => Switching wire data a) as) :
    Always (act wire data) new (fun _ s => ∀ c u i j,
        s.LiveWorker i c u → s.LiveWorker j c u → i = j) as ∧
      (StepsMeet (act wire data) new
          (fun _ s a => Undisturbed wire data s a) as →
        Always (act wire data) new (fun pre s => s.inbox = [] → ∀ c u,
          (∃ i, s.LiveWorker i c u) ↔
            c ∉ s.gone ∧ Enabled wire.toWire (requests pre) c u) as) ∧
      (Always (act wire data) new (fun pre s =>
          Isolated wire.toWire (handled wire data pre) s) as ↔
        StepsMeet (act wire data) new
          (fun _ s a => Undisturbed wire data s a) as) := by
  have hrequests := requests_exec hscope
  have hiff : Always (act wire data) new (fun pre s =>
      Isolated wire.toWire (handled wire data pre) s) as ↔
      StepsMeet (act wire data) new
        (fun _ s a => Undisturbed wire data s a) as := by
    apply always_iff_stepsMeet (I := fun pre s =>
      exec (act wire data) new pre = some s ∧ Supervised wire data s ∧
        s.EndedGone ∧ Isolated wire.toWire (handled wire data pre) s) hrun hscope
    case hinit => exact ⟨rfl, supervised_new, endedGone_new, isolated_new⟩
    case hstep =>
      rintro pre s a s' ⟨hpre, hs, hended, h⟩ hsw ha hact
      have hstep := step_of_act hs hact
      refine ⟨exec_snoc.mpr ⟨s, hpre, hact⟩, supervised_step hs hsw hstep,
        endedGone_step hs hended ha hstep, ?_⟩
      rw [handled_snoc hpre]
      exact isolated_step hs hended h ha hstep
    case hsound => exact fun _ _ h => h.2.2.2
    case hbreak =>
      rintro pre s a s' ⟨hpre, hs, hended, h⟩ - ha hact
      rw [handled_snoc hpre]
      exact not_isolated_step hs hended h ha (step_of_act hs hact)
  refine ⟨?_, fun hund => ?_, hiff⟩
  · exact hrequests.mono fun _ _ h _ _ _ _ => eq_of_liveWorker h.1
  · intro pre hpre t ht hinbox c u
    have hlaw := hiff.mpr hund pre hpre t ht
    rw [(hrequests pre hpre t ht).2, hinbox, List.append_nil]
    exact hlaw.streams c u

/-! Two clients and the proximity sensor of the table. Once the first client has
disappeared its entry is still there, and the second client gets nothing. While
the first client is there, a disable of the second one ends its stream. -/

def switchWire : MeasurementWire ℚ :=
  .ofRequests [([0], ⟨⟨1, 1⟩, 10, none⟩), ([1], ⟨⟨1, 1⟩, 514, none⟩)]

def firstGone : List Action :=
  [.request ⟨1, 20⟩ [1], .process, .disappear ⟨1, 20⟩, .measure 0,
    .request ⟨1, 21⟩ [1], .process]

def secondDisables : List Action :=
  [.request ⟨1, 20⟩ [1], .process, .measure 0, .request ⟨1, 21⟩ [0], .process]

def afterFirstGone : SSCMockingServer :=
  (exec (act switchWire proximityTable) new firstGone).get (by decide)

def afterSecondDisables : SSCMockingServer :=
  (exec (act switchWire proximityTable) new secondDisables).get (by decide)

theorem isolated_broken_by_entry :
    ¬ Always (act switchWire proximityTable) new (fun pre s => s.inbox = [] →
        ∀ c u, (∃ i, s.LiveWorker i c u) ↔
          c ∉ s.gone ∧ Enabled switchWire.toWire (requests pre) c u)
        firstGone ∧
      ¬ Always (act switchWire proximityTable) new (fun pre s => s.inbox = [] →
        ∀ c u, (∃ i, s.LiveWorker i c u) ↔
          c ∉ s.gone ∧ Enabled switchWire.toWire (requests pre) c u)
        secondDisables := by
  constructor
  · intro h
    have hlast := h.last (s := afterFirstGone) (by rfl) (by decide)
      ⟨1, 21⟩ ⟨1, 1⟩
    obtain ⟨i, w, hw, -, hclient, -⟩ := hlast.mpr ⟨by decide, by rfl⟩
    have hno : ∀ w ∈ afterFirstGone.processes, w.client ≠ ⟨1, 21⟩ := by decide
    exact hno w (List.mem_of_getElem? hw) hclient
  · intro h
    have hlast := h.last (s := afterSecondDisables) (by rfl) (by decide)
      ⟨1, 20⟩ ⟨1, 1⟩
    obtain ⟨i, w, hw, hrunning, -⟩ := hlast.mpr ⟨by decide, by rfl⟩
    have hno : ∀ w ∈ afterSecondDisables.processes, w.running ≠ true := by decide
    exact hno w (List.mem_of_getElem? hw) hrunning

theorem hasMeasurements_proximityTable :
    Server.HasMeasurements switchWire proximityTable ⟨1, 1⟩ := by
  refine ⟨_, rfl, by decide, fun m hm => ?_⟩
  obtain rfl := List.mem_singleton.mp hm
  exact ⟨by decide, _, rfl⟩

theorem isolated_iff_undisturbed_proximity :
    Always (act switchWire proximityTable) new (fun _ s => ∀ c u i j,
        s.LiveWorker i c u → s.LiveWorker j c u → i = j) secondDisables ∧
      (StepsMeet (act switchWire proximityTable) new
          (fun _ s a => Undisturbed switchWire proximityTable s a) secondDisables →
        Always (act switchWire proximityTable) new (fun pre s => s.inbox = [] →
          ∀ c u, (∃ i, s.LiveWorker i c u) ↔
            c ∉ s.gone ∧ Enabled switchWire.toWire (requests pre) c u)
          secondDisables) ∧
      (Always (act switchWire proximityTable) new (fun pre s =>
          Isolated switchWire.toWire (handled switchWire proximityTable pre) s)
          secondDisables ↔
        StepsMeet (act switchWire proximityTable) new
          (fun _ s a => Undisturbed switchWire proximityTable s a) secondDisables) := by
  apply isolated_iff_undisturbed (s := afterSecondDisables) (by rfl)
  refine stepsMeet_of_trace (c := fun (x : SSCMockingServer × Action) =>
    match x.2 with
    | .request _ message =>
        switches switchWire.toWire message = some (⟨1, 1⟩, true) ∨
          switches switchWire.toWire message = some (⟨1, 1⟩, false)
    | _ => true) ?_ (by decide)
  intro s a h
  cases a with
  | request c message =>
      rcases (decide_eq_true_iff.mp h) with hm | hm
      · exact ⟨_, _, hm, hasMeasurements_proximityTable⟩
      · exact ⟨_, _, hm, hasMeasurements_proximityTable⟩
  | _ => trivial

end SSCMockingServer

end Libssc

import Libssc.Initialising
import Libssc.Mounting
import Libssc.Stack

/-!
# From the construction to the measurements

The parts of a driver's life put together: it is constructed, which is an init
among other clients (`Initialising`), then opened, and from then on it gets its
sensor's measurements (`EndToEnd`). What it takes are the first measurements of
the table's entry for its data type (`measurements_from_construction`), and there
is a run in which as many as one likes get through (`exists_from_construction`).
Over datagrams it is the same (`construction_over_datagrams`).
-/

namespace Libssc

open Library

variable {F S M : Type} [GFloat F]

namespace EndToEnd

/-- A driver can be constructed from the table: the answers to its init fit, and the
measurements of its sensor are not mistaken for responses. -/
structure Provided (d : Driver F S M) (pb : Protobuf F) (wire : MeasurementWire F)
    (data : List (MeasuredEntry F)) : Prop where
  lossless : MeasurementLossless pb wire
  table : ∃ table : SensorTable F, data.map MeasuredEntry.toEntry = table.data
  dataType : d.dataType ≠ "registry"
  cString : IsCString d.dataType
  answers : Composed.AnswersFit wire.toWire (data.map MeasuredEntry.toEntry) d.dataType
  streamed : ∀ e ∈ data, e.dataType = d.dataType → StreamedEntry e

variable {d : Driver F S M} {pb : Protobuf F} {wire : MeasurementWire F}
  {data : List (MeasuredEntry F)} {c : QrtrAddress} {x₀ x₁ x : EndToEnd F S M}
  {as bs : List Action} {entry : MeasuredEntry F}

/-- Its UIDs are all different. -/
theorem Provided.uids (h : Provided d pb wire data) :
    (data.map (fun e => e.uid)).Nodup := by
  obtain ⟨table, htable⟩ := h.table
  have hnodup := table.uids
  rwa [← htable, List.map_map] at hnodup

/-- So the entries are those of a table for which the answers fit. -/
theorem Provided.exists_table (h : Provided d pb wire data) : ∃ table : SensorTable F,
    data.map MeasuredEntry.toEntry = table.data ∧
      Composed.AnswersFit wire.toWire table.data d.dataType := by
  obtain ⟨table, htable⟩ := h.table
  exact ⟨table, htable, htable ▸ h.answers⟩

/-- The construction has ended with TRUE. -/
def Constructed (w : DriverWorld F S M) : Prop :=
  ∃ r ∈ w.sensor.tasks.returns 0, r.result = .boolean true

/-- What a construction that has ended with TRUE leaves. -/
theorem ready_of_constructed (h : Provided d pb wire data) (hfresh : Fresh d c x₀)
    (has : ∀ b ∈ as, Constructing b)
    (hinit : exec (act d pb wire data c) x₀ (.user (.call (.init none)) :: as) = some x₁)
    (hdone : Constructed x₁.world) :
    Ready c x₁ ∧ Driver.taken x₁.world = [] ∧ ∃ entry ∈ data,
      entry.dataType = d.dataType ∧ entry.toEntry.Matches x₁.world.sensor.priv ∧
      x₁.world.sensor.priv.mountMatrix = entry.toEntry.mountMatrix ∧
      data.find? (fun e => e.uid = x₁.world.sensor.priv.uid) = some entry := by
  obtain ⟨table, htable, hfit⟩ := h.exists_table
  obtain ⟨-, z, -, hconstructs⟩ := constructs_run h.lossless.toLossless htable hfit
    h.dataType h.cString hfresh has hinit
  obtain ⟨r, hr, htrue⟩ := hdone
  have hreturned := List.ne_nil_of_mem hr
  obtain ⟨s, hs⟩ := done_of_returned hconstructs hreturned
  obtain ⟨r', hr', hfound, hmatches⟩ := found_of_returned htable hconstructs hreturned
  obtain rfl : r = r' := by
    rw [hr'] at hr
    exact List.mem_singleton.mp hr
  obtain ⟨entry, he, hdata⟩ := hfound.mp htrue
  have hm := hmatches htrue entry he hdata
  refine ⟨(ready_of_done hconstructs hs).1, hconstructs.taken, entry, he, hdata, hm, ?_, ?_⟩
  · rw [htable] at hs
    rw [← hconstructs.sensor] at hr ⊢
    exact hs.mountMatrix table hr htrue (htable ▸ List.mem_map_of_mem he) hdata
  · have huid : x₁.world.sensor.priv.uid = entry.uid := hm.uid
    rw [huid]
    exact find?_key h.uids he

/-- After the construction and an open the measurements flow. -/
theorem flowing_from_construction (src : Source d) (h : Provided d pb wire data)
    (hfresh : Fresh d c x₀) (has : ∀ b ∈ as, Constructing b)
    (hinit : exec (act d pb wire data c) x₀ (.user (.call (.init none)) :: as) = some x₁)
    (hdone : Constructed x₁.world) (hwithin : ∀ b ∈ bs, Within d b)
    (hrun : exec (act d pb wire data c) x₁ (.user .sensorOpen :: bs) = some x) :
    Driver.taken x₁.world = [] ∧ ∃ entry ∈ data, entry.dataType = d.dataType ∧
      entry.toEntry.Matches x₁.world.sensor.priv ∧
      x₁.world.sensor.priv.mountMatrix = entry.toEntry.mountMatrix ∧
      Flowing src entry wire data c x₁ bs x := by
  obtain ⟨hready, htaken, entry, he, hdata, hmatches, hmatrix, hfind⟩ :=
    ready_of_constructed h hfresh has hinit hdone
  exact ⟨htaken, entry, he, hdata, hmatches, hmatrix, flowing_run src h.lossless hfind
    hdata (h.streamed entry he hdata) hready hwithin hrun⟩

/-- The application has taken what the driver makes of the first measurements of
the entry, with the entry's mount matrix; `n` of them have arrived. -/
def TakenFrom (src : Source d) (entry : MeasuredEntry F) (start now : DriverWorld F S M)
    (bs : List Action) (n : ℕ) : Prop :=
  ∃ k ≤ n,
    (match src.after entry.toEntry.mountMatrix entry (d.opened start.state) k with
      | none => now.aborted = true
      | some (_, ms) => now.aborted = false ∧ now.measurements ++ now.idle = ms) ∧
    (.user .sensorClose ∉ bs → k = n)

theorem takenFrom_of_flowing {src : Source d}
    (h : Flowing src entry wire data c x₁ bs x) (htaken : Driver.taken x₁.world = [])
    (hmatrix : x₁.world.sensor.priv.mountMatrix = entry.toEntry.mountMatrix) :
    TakenFrom src entry x₁.world x.world bs (x.arrived c x₁.delivered).length := by
  obtain ⟨k, hle, hk, hall⟩ := h.reacted
  rw [hmatrix] at hk
  refine ⟨k, hle, ?_, fun hclose => hall (h.connected hclose)⟩
  cases hafter : src.after entry.toEntry.mountMatrix entry
      (d.opened x₁.world.state) k with
  | none =>
      rw [hafter] at hk
      exact hk
  | some p =>
      rw [hafter, htaken] at hk
      exact ⟨hk.1, hk.2.1⟩

/-- **From the construction to the measurements.** A new driver is constructed, and
if that ends with TRUE it is opened. Whatever the application, the library, the
server and its other clients do, in any order and short of other calls: the table
has an entry for the driver's data type, which the sensor matches, and what the
driver has taken is what it makes of the first measurements of this entry, in turn
and round and round. -/
theorem measurements_from_construction (src : Source d) (h : Provided d pb wire data)
    (hfresh : Fresh d c x₀) (has : ∀ b ∈ as, Constructing b)
    (hinit : exec (act d pb wire data c) x₀ (.user (.call (.init none)) :: as) = some x₁)
    (hdone : Constructed x₁.world) (hwithin : ∀ b ∈ bs, Within d b)
    (hrun : exec (act d pb wire data c) x₁ (.user .sensorOpen :: bs) = some x) :
    ∃ entry ∈ data, entry.dataType = d.dataType ∧
      entry.toEntry.Matches x₁.world.sensor.priv ∧
      TakenFrom src entry x₁.world x.world bs (x.arrived c x₁.delivered).length := by
  obtain ⟨htaken, entry, he, hdata, hmatches, hmatrix, hflowing⟩ :=
    flowing_from_construction src h hfresh has hinit hdone hwithin hrun
  exact ⟨entry, he, hdata, hmatches, takenFrom_of_flowing hflowing htaken hmatrix⟩

/-! ## The construction gets through -/

/-- The server has nothing to do but the library's requests, and still the workers
that it had at the start. -/
structure Attended (s₀ : SSCMockingServer) (c : QrtrAddress) (x : EndToEnd F S M) :
    Prop where
  exited : x.server.exited = false
  gone : c ∉ x.server.gone
  inbox : ∀ q ∈ x.server.inbox, q.1 = c
  workers : x.server.workers = s₀.workers

/-- What takes a request of the library further. -/
def Forwards (b : Action) : Prop := b = .post ∨ b = .server .process ∨ b = .deliver

omit [GFloat F] in
theorem constructing_of_forwards {b : Action} (hb : Forwards b) : Constructing b := by
  rcases hb with rfl | rfl | rfl
  all_goals trivial

variable {p : SSCSensorPrivate F} {z : Composed F} {s₀ : SSCMockingServer}

omit [GFloat F] in
theorem getElem?_of_incoming {o : Outgoing} {os : List Outgoing}
    (h : x.incoming c = o :: os) : (x.server.sentTo c)[x.delivered]? = some o := by
  rw [← List.head?_drop]
  exact congrArg List.head? h

theorem of_packets_eq_controlOutput {n i : ℕ} {os : List Outgoing}
    {ps : List Packet} (h : packets n os = .controlOutput i :: ps) :
    ∃ os', os = .controlOutput :: os' ∧ n = i := by
  cases os with
  | nil => exact absurd h (by simp [packets])
  | cons o os =>
      cases o with
      | controlOutput => exact ⟨os, rfl, by simpa [packets] using (List.cons.inj h).1⟩
      | reportLarge buf => exact absurd h (by simp [packets])

theorem of_packets_eq_reportLarge {n : ℕ} {buf : GArray} {os : List Outgoing}
    {ps : List Packet} (h : packets n os = .reportLarge buf :: ps) :
    ∃ os', os = .reportLarge buf :: os' := by
  cases os with
  | nil => exact absurd h (by simp [packets])
  | cons o os =>
      cases o with
      | controlOutput => exact absurd h (by simp [packets])
      | reportLarge buf' =>
          obtain rfl : buf' = buf := by simpa [packets] using (List.cons.inj h).1
          exact ⟨os, rfl⟩

/-- A request that has been sent reaches the server. -/
theorem exists_post (ha : Attended s₀ c x) {q : Request F}
    (hq : x.world.sensor.sent[x.posted]? = some q) :
    ∃ x', x.act d pb wire data c .post = some x' ∧ Attended s₀ c x' ∧
      x'.posted = x.posted + 1 := by
  have hact : x.act d pb wire data c .post = some { x with
      server := { x.server with inbox := x.server.inbox ++ [(c, packed wire q)] }
      posted := x.posted + 1 } := by
    simp [act, hq, SSCMockingServer.act, ha.gone, packed]
  refine ⟨_, hact, { ha with inbox := fun r hr => ?_ }, rfl⟩
  rcases List.mem_append.mp hr with hold | hnew
  · exact ha.inbox r hold
  · rw [List.mem_singleton.mp hnew]

/-- One that has reached it is handled. -/
theorem exists_process (h : Constructs pb wire data p c x z) (ha : Attended s₀ c x)
    (hlt : z.received < x.posted) :
    ∃ x', x.act d pb wire data c (.server .process) = some x' ∧ Attended s₀ c x' ∧
      x'.posted = x.posted ∧ label c x (.server .process) ≠ [] := by
  have hunhandled : x.unhandled z.received ≠ [] := by
    unfold unhandled
    rw [ne_eq, List.drop_eq_nil_iff, List.length_take_of_le h.posted_le]
    exact Nat.not_le.mpr hlt
  cases hinbox : x.server.inbox with
  | nil =>
      have hwaiting := h.waiting ha.exited
      unfold SSCMockingServer.waitingOf at hwaiting
      rw [hinbox] at hwaiting
      exact absurd (List.map_eq_nil_iff.mp hwaiting.symm) hunhandled
  | cons r rest =>
      obtain ⟨e, message⟩ := r
      obtain rfl : e = c := ha.inbox (e, message) (by simp [hinbox])
      obtain ⟨k, hk⟩ := h.underway
      obtain ⟨hraised, hreplies⟩ := indication_of_underway hk h.replying
      obtain ⟨-, buf, -, hreply, -⟩ :=
        follows_reply pb h.toFollows ha.exited hinbox hraised hreplies
      have hact : x.act d pb wire data e (.server .process) = some { x with
          server := (x.server.acknowledge e rest).sendto e (.reportLarge buf) } := by
        simp [act, isOthers, SSCMockingServer.act, SSCMockingServer.process, ha.exited,
          hinbox, ha.gone, hreply]
      refine ⟨_, hact, { ha with inbox := fun r hr => ha.inbox r ?_ }, rfl, ?_⟩
      · rw [hinbox]
        exact List.mem_cons_of_mem _ hr
      · rw [label_process hinbox, if_pos ⟨rfl, ha.gone⟩]
        exact List.cons_ne_nil _ _

/-- What is on its way to the library arrives. -/
theorem exists_deliver (d : Driver F S M) (h : Constructs pb wire data p c x z)
    (ha : Attended s₀ c x) {o : Outgoing} {os : List Outgoing} (ho : x.incoming c = o :: os)
    (hready : o = .controlOutput → ∃ q, x.world.sensor.sent[x.acked]? = some q ∧
      x.acked ∈ x.world.sensor.unready) :
    ∃ x', x.act d pb wire data c .deliver = some x' ∧ Attended s₀ c x' ∧
      x'.posted = x.posted ∧ label c x .deliver ≠ [] := by
  have hsent := getElem?_of_incoming ho
  cases o with
  | controlOutput =>
      obtain ⟨q, hq, hmem⟩ := hready rfl
      have hact : ∃ w, x.act d pb wire data c .deliver = some { x with
          world := w
          delivered := x.delivered + 1
          acked := x.acked + 1 } := by
        simp [act, hsent, h.running, Driver.act, Sensor.step, hq, hmem]
      obtain ⟨w, hw⟩ := hact
      exact ⟨_, hw, { ha with }, rfl, List.cons_ne_nil _ _⟩
  | reportLarge buf =>
      have hact : x.act d pb wire data c .deliver = some { x with
          world := Client.indicationReceived pb (d.emitReport pb)
            (.large (some buf)) x.world
          delivered := x.delivered + 1 } := by
        simp [act, hsent, h.running]
      exact ⟨_, hact, { ha with }, rfl, List.cons_ne_nil _ _⟩

/-- **The construction is never stuck**: whatever leg its last request is on, it can
be taken further. -/
theorem exists_forward {k : ℕ} (h : Constructs pb wire data p c x z)
    (hk : Composed.Underway pb wire.toWire (data.map MeasuredEntry.toEntry) p k z)
    (ha : Attended s₀ c x) :
    (∃ s, Composed.Done (data.map MeasuredEntry.toEntry) p s z) ∨
      ∃ b x', Forwards b ∧ x.act d pb wire data c b = some x' ∧ Attended s₀ c x' ∧
        (x'.posted = x.posted + 1 ∧ x.posted < x.world.sensor.sent.length ∨
          x'.posted = x.posted ∧ label c x b ≠ []) := by
  rcases hk with ⟨s, q, buf, r, j, hw, -⟩ | hdone
  · right
    have hlast := hw.sent_last
    rw [h.sensor] at hlast
    cases hw.leg with
    | sent received _ _ _ =>
        rcases Nat.lt_or_eq_of_le h.received_le with hlt | heq
        · obtain ⟨x', hact, ha', hposted, hlabel⟩ := exists_process h ha hlt
          exact ⟨_, x', Or.inr (Or.inl rfl), hact, ha', Or.inr ⟨hposted, hlabel⟩⟩
        · rw [← received, heq] at hlast
          obtain ⟨x', hact, ha', hposted⟩ := exists_post ha hlast
          exact ⟨_, x', Or.inl rfl, hact, ha',
            Or.inl ⟨hposted, (List.getElem?_eq_some_iff.mp hlast).1⟩⟩
    | received _ replying _ _ => exact absurd (replying.symm.trans h.replying) (by simp)
    | acked _ replying _ _ => exact absurd (replying.symm.trans h.replying) (by simp)
    | replied _ _ toClient unready =>
        rw [h.sensor] at unready
        obtain ⟨os, ho, hacked⟩ := of_packets_eq_controlOutput
          (h.toClient.symm.trans toClient)
        have hmem : x.acked ∈ x.world.sensor.unready := by
          rw [hacked, unready]
          exact List.mem_singleton_self _
        obtain ⟨x', hact, ha', hposted, hlabel⟩ :=
          exists_deliver d h ha ho (fun _ => ⟨q, hacked ▸ hlast, hmem⟩)
        exact ⟨_, x', Or.inr (Or.inr rfl), hact, ha', Or.inr ⟨hposted, hlabel⟩⟩
    | answering _ _ toClient _ =>
        obtain ⟨os, ho⟩ := of_packets_eq_reportLarge (h.toClient.symm.trans toClient)
        obtain ⟨x', hact, ha', hposted, hlabel⟩ := exists_deliver d h ha ho (by simp)
        exact ⟨_, x', Or.inr (Or.inr rfl), hact, ha', Or.inr ⟨hposted, hlabel⟩⟩
  · exact Or.inl hdone

omit [GFloat F] in
/-- An init sends three requests at most. -/
theorem length_sent_le (s : Exchange.Stage F) (dataType : String) :
    (s.sent dataType).length ≤ 3 := by
  cases s <;> simp [Exchange.Stage.sent]

/-- What has been sent is what an init sends. -/
theorem exists_stage (h : Constructs pb wire data p c x z) :
    ∃ s : Exchange.Stage F, x.world.sensor.sent = s.sent p.dataType := by
  rw [← h.sensor]
  obtain ⟨k, ⟨s, q, buf, r, j, hw, -⟩ | ⟨s, hdone⟩⟩ := h.underway
  · exact ⟨s, hw.toStaged.sent⟩
  · exact ⟨s, hdone.toStaged.sent⟩

/-- An attended construction which ends after `n` more steps at most: what is left for
`Composed`, and the requests that are still to be posted. -/
def Remaining (pb : Protobuf F) (wire : MeasurementWire F) (data : List (MeasuredEntry F))
    (p : SSCSensorPrivate F) (s₀ : SSCMockingServer) (c : QrtrAddress) (n : ℕ)
    (y : EndToEnd F S M) : Prop :=
  ∃ z k, Constructs pb wire data p c y z ∧
    Composed.Underway pb wire.toWire (data.map MeasuredEntry.toEntry) p k z ∧
    Attended s₀ c y ∧ n = k + (3 - y.posted)

/-- It has ended, or the next step leaves less to do. -/
theorem remaining_forward (h : Provided d pb wire data) (n : ℕ) (y : EndToEnd F S M)
    (hy : Remaining pb wire data (sscSensorInit d.dataType) s₀ c n y) :
    (∃ z s, Constructs pb wire data (sscSensorInit d.dataType) c y z ∧
      Composed.Done (data.map MeasuredEntry.toEntry) (sscSensorInit d.dataType) s z) ∨
      ∃ b y', Forwards b ∧ y.act d pb wire data c b = some y' ∧ ∃ n' < n,
        Remaining pb wire data (sscSensorInit d.dataType) s₀ c n' y' := by
  obtain ⟨table, htable, hfit⟩ := h.exists_table
  obtain ⟨z, k, hy, hk, ha, rfl⟩ := hy
  rcases exists_forward hy hk ha with ⟨s, hs⟩ | ⟨b, y', hb, hact, ha', hcases⟩
  · exact Or.inl ⟨z, s, hy, hs⟩
  · right
    have hrefines := refines_init (d := d) (c := c) (p := sscSensorInit d.dataType)
      h.lossless.toLossless htable hfit h.dataType h.cString
    obtain ⟨z', hz', hy'⟩ := hrefines.matched hy (constructing_of_forwards hb) hact
    rw [htable] at hk hz'
    obtain ⟨k', hk', hle⟩ := exec_length_le
      (I := Composed.Underway pb wire.toWire table.data (sscSensorInit d.dataType))
      (fun _ _ _ _ hx ha => Composed.underway_act h.lossless.toLossless table
        hfit h.dataType h.cString hx ha) hk hz'
    rw [← htable] at hk'
    refine ⟨b, y', hb, hact, k' + (3 - y'.posted), ?_, z', k', hy', hk', ha', rfl⟩
    rcases hcases with ⟨hposted, hlt⟩ | ⟨hposted, hlabel⟩
    · obtain ⟨s, hs⟩ := exists_stage hy
      have hthree := length_sent_le s (sscSensorInit (F := F) d.dataType).dataType
      rw [← hs] at hthree
      omega
    · have hpos := List.length_pos_iff.mpr hlabel
      omega

/-- There is a run in which the construction ends. -/
theorem exists_done (h : Provided d pb wire data) (hfresh : Fresh d c x₀)
    (hup : x₀.server.exited = false) (hinbox : x₀.server.inbox = [])
    (hgone : c ∉ x₀.server.gone) :
    ∃ as x₁ z s, exec (act d pb wire data c) x₀ (.user (.call (.init none)) :: as) =
        some x₁ ∧ (∀ b ∈ as, Constructing b) ∧ Attended x₀.server c x₁ ∧
      Constructs pb wire data (sscSensorInit d.dataType) c x₁ z ∧
      Composed.Done (data.map MeasuredEntry.toEntry) (sscSensorInit d.dataType) s z := by
  obtain ⟨table, htable, hfit⟩ := h.exists_table
  -- the first action
  have hinit : ∃ v, x₀.act d pb wire data c (.user (.call (.init none))) = some v ∧
      v.server = x₀.server := by
    simp [act, isLocal, hfresh.world, Driver.world, Driver.act, Sensor.call, Sensor.new,
      sscSensorInit]
  obtain ⟨v, hv, hserver⟩ := hinit
  have hstart := constructs_start h.lossless.toLossless htable hfit h.cString hfresh hv
  have hattended : Attended x₀.server c v :=
    ⟨hserver ▸ hup, hserver ▸ hgone, by simp [hserver, hinbox], congrArg _ hserver⟩
  obtain ⟨k, hk⟩ := hstart.underway
  -- then as long as something remains
  obtain ⟨as, x₁, n, hrun, has, ⟨-, -, -, -, ha, -⟩, z, s, hz, hs⟩ :=
    exists_end (remaining_forward h) ⟨_, k, hstart, hk, hattended, rfl⟩
  exact ⟨as, x₁, z, s, exec_cons.mpr ⟨v, hv, hrun⟩,
    fun b hb => constructing_of_forwards (has b hb), ha, hz, hs⟩

/-- An object that matches the entry can be opened. -/
def Openable (e : Entry F) : Prop :=
  ∀ p : SSCSensorPrivate F, e.Matches p → p.available = true ∧
    (p.streamType = SSC_STREAM_TYPE_ON_CHANGE ∨
      p.streamType = SSC_STREAM_TYPE_CONTINUOUS ∧
        GFloat.le p.sampleRate GFloat.zero = false)

theorem client_of_stage (p : SSCSensorPrivate F) (s : Exchange.Stage F) :
    (s.priv p).client = true := by
  cases s <;> simp [Exchange.Stage.priv]

/-- There is a run in which the construction ends with TRUE, and nothing is in the
way of an open. -/
theorem exists_unhindered (h : Provided d pb wire data) (hfresh : Fresh d c x₀)
    (hup : x₀.server.exited = false) (hinbox : x₀.server.inbox = [])
    (hgone : c ∉ x₀.server.gone) (he : entry ∈ data)
    (hdata : entry.dataType = d.dataType) (hopenable : Openable entry.toEntry)
    (hunused : x₀.server.workers.lookup entry.uid = none)
    (hmeasurements : Server.HasMeasurements wire data entry.uid)
    (hfits : Server.MeasurementsFit wire data entry.uid) :
    ∃ as x₁, exec (act d pb wire data c) x₀ (.user (.call (.init none)) :: as) =
        some x₁ ∧ (∀ b ∈ as, Constructing b) ∧ Constructed x₁.world ∧
      Unhindered wire data c x₁ ∧ entry.toEntry.Matches x₁.world.sensor.priv := by
  obtain ⟨as, x₁, z, s, hrun, has, ha, hz, hs⟩ := exists_done h hfresh hup hinbox hgone
  obtain ⟨table, htable⟩ := h.table
  obtain ⟨r, hr, -⟩ := (htable ▸ hs).found table
  rw [hz.sensor] at hr
  have hreturned : x₁.world.sensor.tasks.returns 0 ≠ [] := by
    rw [hr]
    exact List.cons_ne_nil _ _
  obtain ⟨r', hr', hfound, hmatches⟩ := found_of_returned htable hz hreturned
  have htrue := hfound.mpr ⟨entry, he, hdata⟩
  have hm := hmatches htrue entry he hdata
  have huid : x₁.world.sensor.priv.uid = entry.uid := hm.uid
  obtain ⟨havailable, hstream⟩ := hopenable _ hm
  obtain ⟨hready, hacked⟩ := ready_of_done hz hs
  have htaken := hz.taken
  unfold Driver.taken at htaken
  refine ⟨as, x₁, hrun, has, ⟨r', by rw [hr']; exact List.mem_singleton_self _, htrue⟩,
    { hready with
      client := ?_
      available := havailable
      streamType := hstream
      idle := (List.append_eq_nil_iff.mp htaken).2
      running := hz.running
      acked := hacked
      exited := ha.exited
      waiting := ?_
      gone := ha.gone
      unused := by rw [huid, ha.workers]; exact hunused
      measurements := huid ▸ hmeasurements
      fits := huid ▸ hfits }, hm⟩
  · obtain ⟨y, hy, -, hstage⟩ := hs.stage
    rw [← hz.sensor, ← hy, hstage.priv]
    exact client_of_stage _ _
  · cases hwaiting : x₁.server.inbox with
    | nil => rfl
    | cons q rest =>
        obtain ⟨e, m⟩ := q
        have hmem : (e, m) ∈ x₁.server.inbox := by simp [hwaiting]
        obtain rfl : e = c := ha.inbox (e, m) hmem
        exact absurd hmem (hready.inbox m)

/-- **The whole way is open.** If the server runs, has nothing to do, and nobody uses
the sensor, then however many measurements the application wants, there is a run in
which a new driver is constructed and opened and gets what it makes of exactly so
many of them. -/
theorem exists_from_construction (src : Source d) (h : Provided d pb wire data)
    (hfresh : Fresh d c x₀) (hup : x₀.server.exited = false)
    (hinbox : x₀.server.inbox = []) (hgone : c ∉ x₀.server.gone) (he : entry ∈ data)
    (hdata : entry.dataType = d.dataType) (hopenable : Openable entry.toEntry)
    (hunused : x₀.server.workers.lookup entry.uid = none)
    (hmeasurements : Server.HasMeasurements wire data entry.uid)
    (hfits : Server.MeasurementsFit wire data entry.uid)
    (hafter : ∀ s k, src.after entry.toEntry.mountMatrix entry (d.opened s) k ≠ none)
    (n : ℕ) :
    ∃ as x₁ bs x s, exec (act d pb wire data c) x₀ (.user (.call (.init none)) :: as) =
        some x₁ ∧ Constructed x₁.world ∧ entry.toEntry.Matches x₁.world.sensor.priv ∧
      exec (act d pb wire data c) x₁ (.user .sensorOpen :: bs) = some x ∧
      x.world.idle = [] ∧
      src.after entry.toEntry.mountMatrix entry (d.opened x₁.world.state) n =
        some (s, x.world.measurements) := by
  obtain ⟨as, x₁, hinit, has, hdone, hunhindered, hm⟩ := exists_unhindered h hfresh hup
    hinbox hgone he hdata hopenable hunused hmeasurements hfits
  obtain ⟨hready, htaken, entry', he', hdata', hm', hmatrix, hfind⟩ :=
    ready_of_constructed h hfresh has hinit hdone
  obtain rfl : entry' = entry :=
    List.inj_on_of_nodup_map h.uids he' he (hm'.uid.symm.trans hm.uid)
  obtain ⟨bs, x, s, ms, hrun, -, hidle, -, hs, hmeasured⟩ := exists_reacted src h.lossless
    hfind hdata (h.streamed entry' he hdata) hunhindered
    (fun k => by rw [hmatrix]; exact hafter _ k) n
  have hnone := List.append_eq_nil_iff.mp htaken
  rw [hnone.1, List.nil_append] at hmeasured
  rw [hmatrix] at hs
  exact ⟨as, x₁, bs, x, s, hinit, hdone, hm, hrun, hidle, hmeasured ▸ hs⟩

/-! ## The light sensor and the registry of the server's data files -/

/-- A continuous sensor with a sample rate can be opened. -/
theorem openable_mockSensor (dataType name : String) (uid : UInt64) {rate : F}
    (matrix : List F) (hrate : GFloat.le rate GFloat.zero = false) :
    Openable (mockSensor dataType name uid rate false matrix) := by
  intro p hp
  have hsample : p.sampleRate = rate := hp.sampleRate
  have hstream : (p.streamType.toNat : ℤ) = 0 := hp.streamType
  refine ⟨hp.available, Or.inr ⟨?_, hsample ▸ hrate⟩⟩
  exact UInt32.toNat_inj.mp (Int.natCast_inj.mp hstream)

def mockLight : MeasuredEntry Int32 where
  toEntry := mockSensor "ambient_light" "light-mock" 4 5 false []
  measurements := lightEntry.measurements

theorem openable_mockLight : Openable mockLight.toEntry :=
  openable_mockSensor "ambient_light" "light-mock" 4 [] (by decide)

/-- What the server has read from `sensor-registry.json` and `sensor-light.json`. -/
def mockData : List (MeasuredEntry Int32) :=
  [{ toEntry := mockSensor "registry" "registry-mock" 8 5 true [], measurements := [] },
    mockLight]

/-- The light driver can be constructed from them. -/
theorem provided_mockData : Provided light.toDriver (.descriptors Int32)
    (.descriptors Int32 0) mockData where
  lossless := measurementLossless_descriptors 0
  table := ⟨mockTable 5 (by decide)
    (mockSensor "ambient_light" "light-mock" 4 5 false [])
    (wellFormed_mockSensor _ _ _ _ (by decide) (by decide))
    (show "ambient_light" ≠ "registry" by decide)
    (show (⟨4, 4⟩ : SscUid) ≠ ⟨8, 8⟩ by decide), rfl⟩
  dataType := by
    show "ambient_light" ≠ "registry"
    decide
  cString := by
    show IsCString "ambient_light"
    decide
  answers := Composed.answersFit_of_forall (by decide +kernel) (by decide +kernel)
    (by decide +kernel)
  streamed := by
    intro e he hdata
    rcases List.mem_pair.mp he with rfl | rfl
    · have hne : "registry" ≠ "ambient_light" := by decide
      exact absurd hdata hne
    · exact streamedEntry_of_forall (by decide)

theorem mem_mockData : mockLight ∈ mockData :=
  List.mem_cons_of_mem _ List.mem_cons_self

/-- No other entry of them is of its data type. -/
theorem eq_mockLight {entry : MeasuredEntry Int32} (he : entry ∈ mockData)
    (hdata : entry.dataType = "ambient_light") : entry = mockLight := by
  rcases List.mem_pair.mp he with rfl | rfl
  · have hne : "registry" ≠ "ambient_light" := by decide
    exact absurd hdata hne
  · rfl

def newLight : EndToEnd Int32 Unit Int32 where
  world := light.toDriver.world (Sensor.new (sscSensorInit "ambient_light"))
  server := SSCMockingServer.new
  posted := 0
  delivered := 0
  acked := 0

theorem fresh_light : Fresh light.toDriver ⟨1, 20⟩ newLight where
  world := rfl
  posted := rfl
  acked := rfl
  delivered := rfl
  entered i w hw _ := absurd hw (by simp [newLight, SSCMockingServer.new])
  processes := rfl
  inbox m hm := absurd hm List.not_mem_nil

theorem sendable_mockData :
    Server.HasMeasurements (.descriptors Int32 0) mockData ⟨4, 4⟩ ∧
      Server.MeasurementsFit (.descriptors Int32 0) mockData ⟨4, 4⟩ := by
  have hfind : mockData.find? (fun e => e.uid = ⟨4, 4⟩) = some mockLight := rfl
  exact sendable_of_forall hfind (by decide) (by decide +kernel)

theorem exists_unhindered_light : ∃ as x₁,
    exec (act light.toDriver (.descriptors Int32) (.descriptors Int32 0) mockData
        ⟨1, 20⟩) newLight (.user (.call (.init none)) :: as) = some x₁ ∧
      (∀ b ∈ as, Constructing b) ∧ Constructed x₁.world ∧
      Unhindered (.descriptors Int32 0) mockData ⟨1, 20⟩ x₁ ∧
      x₁.world.sensor.priv.uid = ⟨4, 4⟩ := by
  obtain ⟨as, x₁, hinit, has, hdone, hunhindered, hm⟩ := exists_unhindered
    provided_mockData fresh_light rfl rfl List.not_mem_nil
    mem_mockData rfl openable_mockLight rfl sendable_mockData.1 sendable_mockData.2
  exact ⟨as, x₁, hinit, has, hdone, hunhindered, hm.uid⟩

theorem measurements_from_construction_light : ∃ as x₁ bs x,
    exec (act light.toDriver (.descriptors Int32) (.descriptors Int32 0) mockData
        ⟨1, 20⟩) newLight (.user (.call (.init none)) :: as) = some x₁ ∧
      exec (act light.toDriver (.descriptors Int32) (.descriptors Int32 0) mockData
        ⟨1, 20⟩) x₁ (.user .sensorOpen :: bs) = some x ∧
      x.world.measurements ++ x.world.idle = [5, 7, 1] := by
  obtain ⟨as, x₁, hinit, has, hdone, hunhindered, huid⟩ := exists_unhindered_light
  have hfind : mockData.find? (fun e => e.uid = x₁.world.sensor.priv.uid) =
      some mockLight := by
    rw [huid]
    rfl
  obtain ⟨bs, x, s, ms, hrun, hgoing, -, hlength, -⟩ := exists_reacted
    lightSource.toSource (measurementLossless_descriptors 0) hfind rfl
    (streamedEntry_of_forall (by decide)) hunhindered
    (fun k => by simp [lightSource.after_eq]) 3
  obtain ⟨entry, he, hdata, -, k, -, hk, hall⟩ := measurements_from_construction
    lightSource.toSource provided_mockData fresh_light has hinit hdone
    (fun b hb => (hgoing b hb).1) hrun
  obtain rfl := eq_mockLight he hdata
  obtain rfl : k = 3 := (hall fun hb => (hgoing _ hb).2 rfl).trans hlength
  rw [lightSource.after_eq] at hk
  refine ⟨as, x₁, bs, x, hinit, hrun, hk.2.trans ?_⟩
  decide

theorem exists_from_construction_light : ∃ as x₁ bs x,
    exec (act light.toDriver (.descriptors Int32) (.descriptors Int32 0) mockData
        ⟨1, 20⟩) newLight (.user (.call (.init none)) :: as) = some x₁ ∧
      exec (act light.toDriver (.descriptors Int32) (.descriptors Int32 0) mockData
        ⟨1, 20⟩) x₁ (.user .sensorOpen :: bs) = some x ∧
      x.world.idle = [] ∧ x.world.measurements = [5, 7, 1, 0, 5, 7] := by
  obtain ⟨as, x₁, bs, x, s, hinit, -, -, hrun, hidle, hafter⟩ := exists_from_construction
    lightSource.toSource provided_mockData fresh_light rfl rfl List.not_mem_nil
    mem_mockData rfl openable_mockLight rfl sendable_mockData.1 sendable_mockData.2
    (fun s k => by simp [lightSource.after_eq]) 7
  rw [lightSource.after_eq] at hafter
  obtain ⟨-, hms⟩ := Prod.mk.inj (Option.some.inj hafter)
  refine ⟨as, x₁, bs, x, hinit, hrun, hidle, hms.symm.trans ?_⟩
  decide

end EndToEnd

/-! ## Over datagrams -/

namespace Stack

open EndToEnd (Action Constructing Constructed InTime Within TakenFrom)

variable [GFloatBits F] {qmi : Libqmi} {d : Driver F S M} {timestamp : UInt64}
  {data : List (MeasuredEntry F)} {c : QrtrAddress} {x₀ x₁ x : Stack F S M}
  {as bs : List Action}

/-- A driver object that has just been created, whose client the server does not
know. -/
structure Fresh (wire : MeasurementWire F) (data : List (MeasuredEntry F))
    (d : Driver F S M) (c : QrtrAddress) (x : Stack F S M) : Prop where
  world : x.world = d.world (Sensor.new (sscSensorInit d.dataType))
  posted : x.posted = 0
  pending : x.pending = []
  delivered : x.delivered = (x.server.sentTo c).length
  reached : ∃ as, exec (SocketServer.act wire data) .new as = some x.server
  processes : ∀ w ∈ x.server.processes, w.client ≠ c
  inbox : ∀ buf, (c, buf) ∉ x.server.inbox

omit [GFloatBits F] in
/-- Then so it is in `EndToEnd`. -/
theorem exists_fresh {wire : MeasurementWire F} (h : Fresh wire data d c x₀)
    (hup : x₀.server.exited = false) :
    ∃ y₀, EndToEnd.Fresh d c y₀ ∧ Matches qmi c x₀ y₀ := by
  have hready : Ready wire data c x₀ := by
    constructor
    case own =>
      rw [h.world]
      exact ⟨Nat.zero_lt_one, fun h hh => absurd hh List.not_mem_nil⟩
    case unopened =>
      rw [h.world]
      rfl
    case posted =>
      rw [h.world]
      exact h.posted
    case pending => exact h.pending
    case delivered => exact h.delivered
    case reached => exact h.reached
    case processes => exact h.processes
    case inbox => exact h.inbox
  have hstart : ∃ y, EndToEnd.Ready c y ∧ Matches qmi c x₀ y :=
    exists_start hready hup
  obtain ⟨y₀, hready', hmatch⟩ := hstart
  refine ⟨y₀, ?_, hmatch⟩
  have hacked := hmatch.acked_le
  rw [h.posted] at hacked
  exact { hready' with
    world := hmatch.world.trans h.world
    posted := hmatch.posted.trans h.posted
    acked := Nat.le_zero.mp hacked }

omit [GFloat F] in
/-- The requests of an init are short, if the data type is. -/
theorem length_packed_le {dataType : String}
    (hshort : (EndToEnd.packed (.descriptors F timestamp)
      (Exchange.discoveryRequest dataType)).length ≤ 65519)
    (s : Exchange.Stage F) : ∀ q ∈ s.sent dataType,
      (EndToEnd.packed (.descriptors F timestamp) q).length ≤ 65519 := by
  have hpoll : (EndToEnd.packed (.descriptors F timestamp)
      Exchange.pollRequest).length ≤ 65519 := by
    have hlength : (EndToEnd.packed (.descriptors F timestamp)
        Exchange.pollRequest).length = 49 := by
      rfl
    rw [hlength]
    norm_num
  have hattribute : ∀ u, (EndToEnd.packed (.descriptors F timestamp)
      (Exchange.attributeRequest u)).length ≤ 65519 := by
    intro u
    have hlength : (EndToEnd.packed (.descriptors F timestamp)
        (Exchange.attributeRequest u)).length = 37 := by
      rfl
    rw [hlength]
    norm_num
  cases s <;> simp [Exchange.Stage.sent, hpoll, hshort, hattribute]

omit [GFloat F] [GFloatBits F] in
theorem inTime_of_constructing {b : Action} (hb : Constructing b) : InTime b := by
  cases b with
  | user a =>
      cases a with
      | sendReady i error => exact hb.elim
      | _ => rfl
  | _ => trivial

omit [GFloat F] [GFloatBits F] in
theorem constructing_of_users {bs' : List Action} (hbs : ∀ b ∈ bs, Constructing b)
    (husers : ∀ a, .user a ∈ bs' → .user a ∈ bs) : ∀ b ∈ bs', Constructing b := by
  intro b hb
  cases b with
  | user a => exact hbs _ (husers a hb)
  | _ => trivial

/-- A construction over datagrams is one of `EndToEnd`. -/
theorem exists_constructs (h : EndToEnd.Provided d (.descriptors F)
      (.descriptors F timestamp) data)
    (hshort : (EndToEnd.packed (.descriptors F timestamp)
      (Exchange.discoveryRequest d.dataType)).length ≤ 65519)
    (hqmi : qmi.Lawful)
    (hfresh : Fresh (.descriptors F timestamp) data d c x₀)
    (has : ∀ b ∈ as, Constructing b)
    (hinit : exec (act qmi d (.descriptors F) (.descriptors F timestamp) data c) x₀
      (.user (.call (.init none)) :: as) = some x₁)
    (hup : x₁.server.exited = false) :
    ∃ y₀ as' y₁, EndToEnd.Fresh d c y₀ ∧ (∀ b ∈ as', Constructing b) ∧
      exec (EndToEnd.act d (.descriptors F) (.descriptors F timestamp) data c) y₀
        (.user (.call (.init none)) :: as') = some y₁ ∧ Matches qmi c x₁ y₁ := by
  have hstart : ∃ y₀, EndToEnd.Fresh d c y₀ ∧ Matches qmi c x₀ y₀ :=
    exists_fresh hfresh (not_exited_of_run hinit hup)
  obtain ⟨y₀, hfresh', hmatch₀⟩ := hstart
  obtain ⟨v, hv, hrest⟩ := exec_cons.mp hinit
  obtain ⟨w, hw, hmatch⟩ := matches_user hmatch₀
    (show InTime (.user (.call (.init none))) from rfl) hv
  obtain ⟨table, htable, hfit⟩ := h.exists_table
  obtain ⟨as', y₁, hy, husers, hmatch₁⟩ := matches_run hqmi hmatch
    (fun b hb => inTime_of_constructing (has b hb)) (by
    rintro pre b u as' y hpre - hy husers hmatch - q hq
    have hconstructing := constructing_of_users
      (fun b hb => has b (((List.prefix_append pre _).trans hpre).subset hb)) husers
    obtain ⟨-, z, -, hz⟩ := EndToEnd.constructs_run h.lossless.toLossless htable hfit
      h.dataType h.cString hfresh' hconstructing (exec_cons.mpr ⟨w, hw, hy⟩)
    obtain ⟨s, hs⟩ := EndToEnd.exists_stage hz
    rw [← hmatch.world, hs] at hq
    exact length_packed_le hshort s q (List.mem_of_getElem? hq)) hrest hup
  exact ⟨y₀, as', y₁, hfresh', constructing_of_users has husers,
    exec_cons.mpr ⟨w, hw, hy⟩, hmatch₁⟩

/-- **From the construction to the measurements, over datagrams.** A new driver is
constructed and opened against the server at its socket, with libqmi, protobuf and
other clients that send what they like. In any order of what happens, short of
other calls of the application and of sends that time out, and as long as the server
has not exited: if the construction ended with TRUE, the table has an entry for the
driver's data type, which the sensor matches, and what the driver has taken is what
it makes of the first measurements of this entry, in turn and round and round. -/
theorem construction_over_datagrams (src : Source d)
    (h : EndToEnd.Provided d (.descriptors F) (.descriptors F timestamp) data)
    (hshort : (EndToEnd.packed (.descriptors F timestamp)
      (Exchange.discoveryRequest d.dataType)).length ≤ 65519)
    (hqmi : qmi.Lawful)
    (hfresh : Fresh (.descriptors F timestamp) data d c x₀)
    (has : ∀ b ∈ as, Constructing b)
    (hinit : exec (act qmi d (.descriptors F) (.descriptors F timestamp) data c) x₀
      (.user (.call (.init none)) :: as) = some x₁)
    (hdone : Constructed x₁.world) (hwithin : ∀ b ∈ bs, Within d b)
    (hbs : ∀ b ∈ bs, InTime b)
    (hrun : exec (act qmi d (.descriptors F) (.descriptors F timestamp) data c) x₁
      (.user .sensorOpen :: bs) = some x)
    (hup : x.server.exited = false) :
    ∃ entry ∈ data, entry.dataType = d.dataType ∧
      entry.toEntry.Matches x₁.world.sensor.priv ∧
      TakenFrom src entry x₁.world x.world bs (x.arrived qmi c x₁.delivered).length := by
  have hup₁ := not_exited_of_run hrun hup
  obtain ⟨y₀, as', y₁, hfresh', has', hinit', hmatch₁⟩ :=
    exists_constructs h hshort hqmi hfresh has hinit hup₁
  obtain ⟨hready, htaken, entry, he, hdata, hmatches, hmatrix, hfind⟩ :=
    EndToEnd.ready_of_constructed h hfresh' has' hinit' (hmatch₁.world ▸ hdone)
  rw [hmatch₁.world] at hmatches hfind
  obtain ⟨bs', y, hflowing, hworld, harrived, husers⟩ := flowing_of_matches src hqmi
    hready hmatch₁ hfind hdata (h.streamed entry he hdata) hwithin hbs hrun hup
  obtain ⟨k, hle, hk, hall⟩ := EndToEnd.takenFrom_of_flowing hflowing htaken hmatrix
  rw [harrived] at hle hall
  rw [hworld, hmatch₁.world] at hk
  exact ⟨entry, he, hdata, hmatches, k, hle, hk,
    fun hclose => hall fun hin => hclose (husers _ hin)⟩

/-! ## The light sensor over datagrams -/

open EndToEnd (mockData)

def newLight : Stack Int32 Unit Int32 where
  world := light.toDriver.world (Sensor.new (sscSensorInit "ambient_light"))
  server := .new
  posted := 0
  delivered := 0
  pending := []

/-- Another client looks for the registry too. -/
def otherRequest : GArray :=
  Libqmi.counting.control 7
    (EndToEnd.packed (.descriptors Int32 0) (Exchange.discoveryRequest "registry"))

/-- The driver is constructed, while another client comes and goes. -/
def constructionRun : List Action :=
  [.server (.request ⟨1, 21⟩ otherRequest), .post, .server .process, .server .process,
    .deliver, .server (.disappear ⟨1, 21⟩), .deliver, .post, .server .process, .deliver,
    .deliver, .post, .server .process, .deliver, .deliver]

def constructedStack : Stack Int32 Unit Int32 :=
  (exec (act .counting light.toDriver (.descriptors Int32) (.descriptors Int32 0) mockData
    ⟨1, 20⟩) newLight (.user (.call (.init none)) :: constructionRun)).get
      (by decide +kernel)

theorem exec_constructionRun : exec (act .counting light.toDriver (.descriptors Int32)
    (.descriptors Int32 0) mockData ⟨1, 20⟩) newLight
      (.user (.call (.init none)) :: constructionRun) = some constructedStack :=
  (Option.some_get _).symm

/-- Then it is opened as before. -/
def openedStack : Stack Int32 Unit Int32 :=
  (exec (act .counting light.toDriver (.descriptors Int32) (.descriptors Int32 0) mockData
    ⟨1, 20⟩) constructedStack (.user .sensorOpen :: lightRun)).get (by decide +kernel)

theorem exec_openedStack : exec (act .counting light.toDriver (.descriptors Int32)
    (.descriptors Int32 0) mockData ⟨1, 20⟩) constructedStack
      (.user .sensorOpen :: lightRun) = some openedStack :=
  (Option.some_get _).symm

theorem fresh_light : Fresh (.descriptors Int32 0) mockData light.toDriver ⟨1, 20⟩
    newLight where
  world := rfl
  posted := rfl
  pending := rfl
  delivered := rfl
  reached := ⟨[], rfl⟩
  processes _ hw := absurd hw List.not_mem_nil
  inbox _ hbuf := absurd hbuf List.not_mem_nil

theorem construction_over_datagrams_light :
    openedStack.world.measurements ++ openedStack.world.idle = [5, 7] := by
  have has : ∀ b ∈ constructionRun, Constructing b := by
    simp [constructionRun, Constructing]
  have honce : ∀ b ∈ lightRun, b ≠ .user .sensorOpen ∧ ∀ k, b ≠ .user (.call k) := by
    simp [lightRun]
  have hwithin : ∀ b ∈ lightRun, Within (lightSpec (F := Int32)).toDriver b :=
    EndToEnd.within_of_once honce
  have hdone : Constructed constructedStack.world := by
    have hall : (constructedStack.world.sensor.tasks.returns 0).any
        (fun r => r.result = .boolean true) = true := by
      decide +kernel
    simpa [Constructed] using hall
  obtain ⟨entry, he, hdata, -, k, -, hk, hall⟩ := construction_over_datagrams
    lightSource.toSource EndToEnd.provided_mockData (by decide +kernel)
    Libqmi.lawful_counting fresh_light has exec_constructionRun hdone hwithin
    (by simp [lightRun, InTime, EndToEnd.timedOut]) exec_openedStack (by decide +kernel)
  obtain rfl := EndToEnd.eq_mockLight he hdata
  have harrived : (openedStack.arrived .counting ⟨1, 20⟩
      constructedStack.delivered).length = 2 := by
    decide +kernel
  obtain rfl : k = 2 := (hall (by decide)).trans harrived
  rw [lightSource.after_eq] at hk
  refine hk.2.trans ?_
  decide +kernel

end Stack

end Libssc

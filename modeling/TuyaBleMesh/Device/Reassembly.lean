import TuyaBleMesh.Device.Run
import TuyaBleMesh.Lib.Window

/-!
# Reassembly over runs

Runs of `_handle_segment` at nondecreasing clock readings, for any number of
interleaved messages. The buffers are compared with the windows that the segments
received so far open, and the messages handed over with those that are due.
-/

namespace TuyaBleMesh

/-! ### Messages -/

/-- What the header of a segment tells about its message. -/
structure MessageId where
  src : Nat
  dst : Nat
  seqZero : Nat
  aid : Nat
  akf : Nat
  szmic : Nat
  segN : Nat
  deriving DecidableEq, Repr

namespace MessageId

def key (m : MessageId) : BufferKey := (m.src, m.dst, m.seqZero, m.aid)

/-- How many segments the message has. -/
def count (m : MessageId) : Nat := m.segN + 1

def ofHeader (src dst : Nat) (header : SegmentHeader) : MessageId where
  src := src
  dst := dst
  seqZero := header.seqZero
  aid := header.aid
  akf := header.akf
  szmic := header.szmic
  segN := header.segN

theorem key_ofHeader (src dst : Nat) (header : SegmentHeader) :
    (ofHeader src dst header).key = segmentKey src dst header := rfl

end MessageId

/-- The arrival of a segment. -/
def segmentFragment (now : Rat) (src dst : Nat) (header : SegmentHeader) :
    Fragment MessageId Bytes where
  time := now
  message := .ofHeader src dst header
  index := header.segO
  data := header.segmentData

namespace ReassemblyBuffer

def message (buf : ReassemblyBuffer) : MessageId where
  src := buf.src
  dst := buf.dst
  seqZero := buf.seqZero
  aid := buf.aid
  akf := buf.akf
  szmic := buf.szmic
  segN := buf.segN

def window (buf : ReassemblyBuffer) : Window Bytes where
  start := buf.createdAt
  fragments := buf.segments

/-- What handing the buffer over delivers. -/
def delivery (buf : ReassemblyBuffer) : MessageId × Window Bytes := (buf.message, buf.window)

/-- The count tells a complete buffer from an incomplete one, if no index is too large. -/
theorem complete_iff_full {buf : ReassemblyBuffer}
    (below : ∀ i ∈ buf.segments.keys, i < buf.message.count) :
    buf.complete = true ↔ buf.window.Full buf.message.count := by
  rw [complete, decide_eq_true_eq]
  exact OrderedDict.size_eq_iff below

end ReassemblyBuffer

/-! ### Runs -/

/-- A device, and what it received and handed over so far, latest first. -/
structure Reception where
  device : Device
  now : Rat
  history : List (Fragment MessageId Bytes) := []
  handed : List ReassemblyBuffer := []

/-- Before the first segment. -/
def Reception.start (d : Device) (now : Rat) : Reception where
  device := { d with segmentBuffers := .empty }
  now := now

inductive SegmentEvent
  | handleSegment (src dst : Nat) (transportPdu : Bytes) (answers : Answers) (clock : Clock)
  /-- Whatever else happens to the device leaves its buffers alone. -/
  | elsewhere (device : Device)

/-- The fragment that a lower transport PDU carries, if it is a segment. -/
def receivedFragment (now : Rat) (src dst : Nat) (transportPdu : Bytes) :
    List (Fragment MessageId Bytes) :=
  match parseSegmentHeader transportPdu with
  | .ok header => [segmentFragment now src dst header]
  | .error _ => []

/-- The clock is monotonic: within a call and from one call to the next. -/
def receptionSystem (suite : CipherSuite) : EventSystem Reception SegmentEvent where
  step s
    | .handleSegment src dst transportPdu answers clock =>
      if s.now ≤ clock.now ∧ clock.now ≤ clock.sweep then
        let outcome := s.device.handleSegment suite answers clock src dst transportPdu
        some {
          device := outcome.device
          now := clock.sweep
          history := receivedFragment clock.now src dst transportPdu ++ s.history
          handed := outcome.handedOver ++ s.handed }
      else none
    | .elsewhere device =>
      if device.segmentBuffers = s.device.segmentBuffers then some { s with device } else none

/-- After a segment with this header. -/
def Reception.collect (suite : CipherSuite) (s : Reception) (answers : Answers) (clock : Clock)
    (src dst : Nat) (header : SegmentHeader) : Reception :=
  let outcome := s.device.collectSegment suite answers clock src dst header
  { device := outcome.device
    now := clock.sweep
    history := segmentFragment clock.now src dst header :: s.history
    handed := outcome.handedOver ++ s.handed }

/-- A step that receives no segment. -/
structure Reception.Quiet (s s' : Reception) : Prop where
  buffers : s'.device.segmentBuffers = s.device.segmentBuffers
  now_le : s.now ≤ s'.now
  history : s'.history = s.history
  handed : s'.handed = s.handed

/-- What one step can do. -/
theorem reception_step_cases {suite : CipherSuite} {s s' : Reception} {event : SegmentEvent}
    (stepped : (receptionSystem suite).step s event = some s') :
    s.Quiet s' ∨ ∃ src dst transportPdu answers clock header,
      event = .handleSegment src dst transportPdu answers clock ∧
        parseSegmentHeader transportPdu = .ok header ∧ s.now ≤ clock.now ∧
        clock.now ≤ clock.sweep ∧ s' = s.collect suite answers clock src dst header := by
  cases event with
  | elsewhere device =>
    simp only [receptionSystem] at stepped
    split at stepped
    · next same =>
      cases stepped
      exact .inl ⟨same, le_refl s.now, rfl, rfl⟩
    · cases stepped
  | handleSegment src dst transportPdu answers clock =>
    simp only [receptionSystem] at stepped
    split at stepped
    · next inOrder =>
      obtain ⟨now_le, now_le_sweep⟩ := inOrder
      cases stepped
      cases parsed : parseSegmentHeader transportPdu with
      | error error =>
        obtain ⟨msg, rfl⟩ := parseSegmentHeader_error parsed
        refine .inl ⟨?_, le_trans now_le now_le_sweep, ?_, ?_⟩
        · simp only [Device.handleSegment, parsed]
        · simp only [receivedFragment, parsed, List.nil_append]
        · simp only [Device.handleSegment, parsed, Outcome.handedOver, List.filterMap_nil,
            List.nil_append]
      | ok header =>
        refine .inr ⟨src, dst, transportPdu, answers, clock, header, rfl, parsed, now_le,
          now_le_sweep, ?_⟩
        simp only [Reception.collect, Device.handleSegment, receivedFragment, parsed,
          List.singleton_append]
    · cases stepped

/-! ### The device does nothing else to its buffers -/

/-- Runs of a whole device under a monotonic clock. -/
def clockedSystem (suite : CipherSuite) : EventSystem (Device × Rat) DeviceEvent where
  step := fun (d, now) event =>
    match event with
    | .notify _ clock _ =>
      if now ≤ clock.now ∧ clock.now ≤ clock.sweep then some (d.after suite event, clock.sweep)
      else none
    | _ => some (d.after suite event, now)

private theorem act_segmentBuffers (suite : CipherSuite) (d : Device) (answers : Answers)
    (clock : Clock) {result : Received} (other : ∀ src dst header, result ≠ .segment src dst header) :
    (d.act suite answers clock result).device.segmentBuffers = d.segmentBuffers := by
  cases result with
  | rejected => rfl
  | raised error => rfl
  | segment src dst header => exact absurd rfl (other src dst header)
  | access src opcode params =>
    obtain ⟨pendingResponses, composition, firmwareVersion, frame⟩ :=
      (dispatched d answers src opcode params).frame
    rw [Device.act, frame]

/-- A notification either is a call of `_handle_segment` or leaves the buffers alone. -/
private theorem processNotify_segmentBuffers (suite : CipherSuite) (d : Device) (answers : Answers)
    (clock : Clock) (data : Bytes) :
    (∃ src dst transportPdu, d.processNotify suite answers clock data =
      d.handleSegment suite answers clock src dst transportPdu) ∨
      (d.processNotify suite answers clock data).device.segmentBuffers = d.segmentBuffers := by
  cases loaded : d.keys with
  | none =>
    refine .inr ?_
    simp only [Device.processNotify, loaded]
  | some keys =>
    rw [processNotify_eq suite d answers clock loaded]
    by_cases segment : ∃ src dst header, receive suite keys data = .segment src dst header
    · obtain ⟨src, dst, header, segment⟩ := segment
      obtain ⟨transportPdu, parsed⟩ := receive_segment_parsed segment
      refine .inl ⟨src, dst, transportPdu, ?_⟩
      rw [segment, Device.act]
      simp only [Device.handleSegment, parsed]
    · refine .inr (act_segmentBuffers suite d answers clock ?_)
      intro src dst header same
      exact segment ⟨src, dst, header, same⟩

/-- Every run of a device is a run of `_handle_segment` calls on it, so that what holds of
its buffers over all runs of the latter holds over all runs of the former. -/
theorem clocked_run_is_reception (suite : CipherSuite) {d d' : Device} {now now' : Rat}
    {events : List DeviceEvent} {s : Reception} (device : s.device = d) (now_le : s.now ≤ now)
    (ran : (clockedSystem suite).exec (d, now) events = some (d', now')) :
    ∃ segments s', (receptionSystem suite).exec s segments = some s' ∧ s'.device = d' := by
  have simulated := (clockedSystem suite).exec_simulates (receptionSystem suite)
    (fun clocked s => s.device = clocked.1 ∧ s.now ≤ clocked.2) ?_ ran ⟨device, now_le⟩
  · obtain ⟨segments, s', reached, same, _⟩ := simulated
    exact ⟨segments, s', reached, same⟩
  · rintro ⟨d, now⟩ event clocked s ⟨rfl, now_le⟩ stepped
    -- what leaves the buffers alone happens elsewhere
    have elsewhere : ∀ d' now', d'.segmentBuffers = s.device.segmentBuffers → s.now ≤ now' →
        ∃ segment s', (receptionSystem suite).step s segment = some s' ∧ s'.device = d' ∧
          s'.now ≤ now' := by
      intro d' now' same later
      refine ⟨.elsewhere d', { s with device := d' }, ?_, rfl, later⟩
      simp only [receptionSystem, same, if_true]
    cases event with
    | notify answers clock data =>
      simp only [clockedSystem] at stepped
      split at stepped
      · next inOrder =>
        cases stepped
        obtain ⟨after, after'⟩ := inOrder
        rcases processNotify_segmentBuffers suite s.device answers clock data with
          ⟨src, dst, transportPdu, handled⟩ | same
        · refine ⟨.handleSegment src dst transportPdu answers clock, _, if_pos ?_, ?_, ?_⟩
          · exact ⟨le_trans now_le after, after'⟩
          · exact (congrArg Outcome.device handled).symm
          · exact le_refl clock.sweep
        · exact elsewhere _ _ same (le_trans now_le (le_trans after after'))
      · cases stepped
    | register kind callback =>
      cases stepped
      cases kind <;> exact elsewhere _ _ rfl now_le
    | unregister kind callback =>
      cases stepped
      cases kind <;> exact elsewhere _ _ rfl now_le
    | loadKeys keys =>
      cases stepped
      exact elsewhere _ _ rfl now_le
    | disconnect =>
      cases stepped
      exact elsewhere _ _ rfl now_le
    | expectStatus request =>
      cases stepped
      exact elsewhere _ _ rfl now_le
    | withdraw key =>
      cases stepped
      exact elsewhere _ _ rfl now_le

/-! ### What reassembly guarantees -/

/-- The window of a message that a history of segments leaves open. -/
abbrev segmentWindow (history : List (Fragment MessageId Bytes)) (m : MessageId) :
    Option (Window Bytes) :=
  openWindow MessageId.count _REASSEMBLY_TIMEOUT history m

/-- The messages of which every segment `0..seg_n` was received within the timeout. -/
abbrev dueMessages (history : List (Fragment MessageId Bytes)) : List (MessageId × Window Bytes) :=
  due MessageId.count _REASSEMBLY_TIMEOUT history

/-- The buffers are the open windows, and the messages handed over those that were due. -/
structure Reception.Tracks (s : Reception) : Prop where
  own : ∀ key buf, s.device.segmentBuffers.get? key = some buf →
    buf.message.key = key ∧ segmentWindow s.history buf.message = some buf.window
  live : ∀ m w, segmentWindow s.history m = some w →
    (∃ buf, s.device.segmentBuffers.get? m.key = some buf ∧ buf.message = m) ∨
      _REASSEMBLY_TIMEOUT < s.now - w.start
  handed : s.handed.map ReassemblyBuffer.delivery = dueMessages s.history
  chronological : Chronological s.history
  past : ∀ f ∈ s.history, f.time ≤ s.now

/-- The index of the segment is one of its message, and a buffer that it finds under its key
was started by the same message and has not expired. -/
structure Reception.RegularSegment (s : Reception) (now : Rat) (src dst : Nat)
    (header : SegmentHeader) : Prop where
  inside : header.segO ≤ header.segN
  same : ∀ buf, s.device.segmentBuffers.get? (segmentKey src dst header) = some buf →
    buf.message = .ofHeader src dst header
  within : ∀ buf, s.device.segmentBuffers.get? (segmentKey src dst header) = some buf →
    now - buf.createdAt ≤ _REASSEMBLY_TIMEOUT

def Reception.Regular (s : Reception) : SegmentEvent → Prop
  | .handleSegment src dst transportPdu _ clock =>
    ∀ header, parseSegmentHeader transportPdu = .ok header →
      s.RegularSegment clock.now src dst header
  | .elsewhere _ => True

section Tracks

variable {s s' : Reception}

theorem Reception.Tracks.quiet (tracks : s.Tracks) (quiet : s.Quiet s') : s'.Tracks := by
  obtain ⟨buffers, now_le, history, handed⟩ := quiet
  refine ⟨?_, ?_, ?_, ?_, ?_⟩
  · rw [buffers, history]
    exact tracks.own
  · rw [buffers, history]
    intro m w opened
    rcases tracks.live m w opened with present | expired
    · exact .inl present
    · exact .inr (lt_of_lt_of_le expired (sub_le_sub_right now_le w.start))
  · rw [handed, history]
    exact tracks.handed
  · rw [history]
    exact tracks.chronological
  · rw [history]
    intro f member
    exact le_trans (tracks.past f member) now_le

variable {clock : Clock} {src dst : Nat} {header : SegmentHeader}

/-- The buffer that a regular segment ends up in is the window that it falls into. -/
theorem Reception.Tracks.storedBuffer (tracks : s.Tracks) (now_le : s.now ≤ clock.now)
    (regular : s.RegularSegment clock.now src dst header) :
    (s.device.storedBuffer src dst clock.now header).message = .ofHeader src dst header ∧
      Window.extend _REASSEMBLY_TIMEOUT (segmentWindow s.history (.ofHeader src dst header))
          (segmentFragment clock.now src dst header) =
        (s.device.storedBuffer src dst clock.now header).window := by
  unfold Device.storedBuffer ReassemblyBuffer.receive
  cases found : s.device.segmentBuffers.get? (segmentKey src dst header) with
  | some buf =>
    have same := regular.same buf found
    obtain ⟨_, opened⟩ := tracks.own _ buf found
    rw [same] at opened
    refine ⟨same, ?_⟩
    rw [opened, Window.extend]
    exact if_pos (regular.within buf found)
  | none =>
    refine ⟨rfl, ?_⟩
    cases opened : segmentWindow s.history (.ofHeader src dst header) with
    | none => rfl
    | some w =>
      -- no buffer, so the open window is over
      rcases tracks.live _ w opened with ⟨buf, present, _⟩ | expired
      · rw [MessageId.key_ofHeader, found] at present
        cases present
      · have late : ¬ (segmentFragment clock.now src dst header).time - w.start ≤
            _REASSEMBLY_TIMEOUT := by
          apply not_le.mpr
          exact lt_of_lt_of_le expired (sub_le_sub_right now_le w.start)
        rw [Window.extend]
        exact if_neg late

theorem timeout_nonneg : (0 : Rat) ≤ _REASSEMBLY_TIMEOUT := by
  rw [_REASSEMBLY_TIMEOUT]
  decide

private theorem segment_inside (inside : header.segO ≤ header.segN) :
    (segmentFragment clock.now src dst header).index <
      MessageId.count (segmentFragment clock.now src dst header).message :=
  Nat.lt_succ_of_le inside

/-- Of a regular segment's buffer, the count says whether the window is full. -/
theorem Reception.Tracks.complete_iff (tracks : s.Tracks) (now_le : s.now ≤ clock.now)
    (regular : s.RegularSegment clock.now src dst header) :
    (s.device.storedBuffer src dst clock.now header).complete = true ↔
      (s.device.storedBuffer src dst clock.now header).window.Full
        (MessageId.ofHeader src dst header).count := by
  obtain ⟨message, window⟩ := tracks.storedBuffer now_le regular
  have chronological : Chronological (segmentFragment clock.now src dst header :: s.history) :=
    List.pairwise_cons.mpr
      ⟨fun f member => le_trans (tracks.past f member) now_le, tracks.chronological⟩
  have collected : (Window.extend _REASSEMBLY_TIMEOUT
      (segmentWindow s.history (.ofHeader src dst header))
      (segmentFragment clock.now src dst header)).CollectedFrom MessageId.count _REASSEMBLY_TIMEOUT
        (.ofHeader src dst header) (segmentFragment clock.now src dst header :: s.history) :=
    collectedFrom_extend timeout_nonneg (segment_inside regular.inside) chronological fun w opened =>
      openWindow_collectedFrom timeout_nonneg tracks.chronological opened
  rw [window] at collected
  have below : ∀ i ∈ (s.device.storedBuffer src dst clock.now header).segments.keys,
      i < (s.device.storedBuffer src dst clock.now header).message.count := by
    rw [message]
    exact collected.below
  have counted := ReassemblyBuffer.complete_iff_full below
  rwa [message] at counted

/-- The window and the messages due after a regular segment. -/
theorem Reception.Tracks.after_segment (tracks : s.Tracks) (now_le : s.now ≤ clock.now)
    (regular : s.RegularSegment clock.now src dst header) :
    let buf := s.device.storedBuffer src dst clock.now header
    let f := segmentFragment clock.now src dst header
    segmentWindow (f :: s.history) (.ofHeader src dst header) =
        (if buf.complete then none else some buf.window) ∧
      dueMessages (f :: s.history) =
        (if buf.complete then [buf.delivery] else []) ++ dueMessages s.history := by
  obtain ⟨message, window⟩ := tracks.storedBuffer now_le regular
  have counted := tracks.complete_iff now_le regular
  have opened : segmentWindow (segmentFragment clock.now src dst header :: s.history)
      (.ofHeader src dst header) =
        if (s.device.storedBuffer src dst clock.now header).window.Full
          (MessageId.ofHeader src dst header).count then none
        else some (s.device.storedBuffer src dst clock.now header).window := by
    rw [← window]
    exact openWindow_cons (segment_inside regular.inside)
  have filled : dueMessages (segmentFragment clock.now src dst header :: s.history) =
      if header.segO < (MessageId.ofHeader src dst header).count ∧
          (s.device.storedBuffer src dst clock.now header).window.Full
            (MessageId.ofHeader src dst header).count then
        (.ofHeader src dst header, (s.device.storedBuffer src dst clock.now header).window) ::
          dueMessages s.history
      else dueMessages s.history := by
    rw [← window]
    rfl
  have inside' : header.segO < (MessageId.ofHeader src dst header).count :=
    Nat.lt_succ_of_le regular.inside
  dsimp only
  by_cases complete : (s.device.storedBuffer src dst clock.now header).complete = true
  · have full := counted.mp complete
    constructor
    · rw [opened, if_pos full, if_pos complete]
    · rw [filled, if_pos ⟨inside', full⟩, if_pos complete, ReassemblyBuffer.delivery, message]
      rfl
  · have notFull := mt counted.mpr complete
    constructor
    · rw [opened, if_neg notFull, if_neg complete]
    · rw [filled, if_neg fun both => notFull both.2, if_neg complete]
      rfl

private theorem timeout_lt_of_stale {buf : ReassemblyBuffer} {now : Rat}
    (stale : buf.stale now = true) : _REASSEMBLY_TIMEOUT < now - buf.window.start := by
  rw [ReassemblyBuffer.stale, decide_eq_true_eq] at stale
  exact stale

/-- A regular segment leaves the buffers at the open windows, and hands over what is due. -/
theorem Reception.Tracks.collect (suite : CipherSuite) (answers : Answers) (tracks : s.Tracks)
    (now_le : s.now ≤ clock.now) (now_le_sweep : clock.now ≤ clock.sweep)
    (regular : s.RegularSegment clock.now src dst header) :
    (s.collect suite answers clock src dst header).Tracks := by
  obtain ⟨message, window⟩ := tracks.storedBuffer now_le regular
  obtain ⟨opened, filled⟩ := tracks.after_segment now_le regular
  have others : ∀ m, m ≠ .ofHeader src dst header →
      segmentWindow (segmentFragment clock.now src dst header :: s.history) m =
        segmentWindow s.history m :=
    fun m other => openWindow_cons_of_ne (Ne.symm other)
  refine ⟨?_, ?_, ?_, ?_, ?_⟩
  · -- what is left in the buffers is open
    intro key buf found
    rcases collectSegment_get? suite s.device answers clock src dst header found with
      ⟨rfl, rfl, incomplete⟩ | ⟨other, before⟩
    · rw [message]
      refine ⟨rfl, ?_⟩
      show segmentWindow (segmentFragment clock.now src dst header :: s.history) _ = _
      rw [opened, if_neg (by simp [incomplete])]
    · obtain ⟨keyed, before'⟩ := tracks.own key buf before
      refine ⟨keyed, ?_⟩
      have different : buf.message ≠ .ofHeader src dst header := by
        intro same
        rw [same] at keyed
        exact other keyed.symm
      exact (others _ different).trans before'
  · -- what is open has its buffer left, unless its time is over
    intro m w live
    by_cases own : m = .ofHeader src dst header
    · subst own
      have live' := opened.symm.trans live
      split at live'
      · cases live'
      · next incomplete =>
        cases live'
        rcases collectSegment_get?_self suite s.device answers clock src dst header
          (Bool.eq_false_of_not_eq_true incomplete) with present | stale
        · exact .inl ⟨_, present, message⟩
        · exact .inr (timeout_lt_of_stale stale)
    · have live' := (others m own).symm.trans live
      rcases tracks.live m w live' with ⟨buf, present, named⟩ | expired
      · have different : m.key ≠ segmentKey src dst header := by
          -- the buffer under the key of the segment is of the segment's message
          intro same
          rw [same] at present
          exact own (named.symm.trans (regular.same buf present))
        rcases collectSegment_get?_of_ne suite s.device answers clock src dst header different
          present with kept | stale
        · exact .inl ⟨buf, kept, named⟩
        · obtain ⟨_, window'⟩ := tracks.own _ buf present
          rw [named, live'] at window'
          cases window'
          exact .inr (timeout_lt_of_stale stale)
      · refine .inr (lt_of_lt_of_le expired (sub_le_sub_right ?_ w.start))
        exact le_trans now_le now_le_sweep
  · -- the buffer that is handed over is the window that is filled
    show ((s.device.collectSegment suite answers clock src dst header).handedOver ++
      s.handed).map ReassemblyBuffer.delivery = _
    rw [collectSegment_handedOver, List.map_append, tracks.handed]
    refine Eq.trans ?_ filled.symm
    split <;> rfl
  · exact List.pairwise_cons.mpr
      ⟨fun f member => le_trans (tracks.past f member) now_le, tracks.chronological⟩
  · intro f member
    rcases List.mem_cons.mp member with rfl | member
    · exact now_le_sweep
    · exact le_trans (tracks.past f member) (le_trans now_le now_le_sweep)

/-- The property of a step that receives a regular segment. -/
theorem Reception.Tracks.step {suite : CipherSuite} {event : SegmentEvent} (tracks : s.Tracks)
    (regular : s.Regular event) (stepped : (receptionSystem suite).step s event = some s') :
    s'.Tracks := by
  rcases reception_step_cases stepped with quiet |
    ⟨src, dst, transportPdu, answers, clock, header, rfl, parsed, now_le, now_le_sweep, rfl⟩
  · exact tracks.quiet quiet
  · exact tracks.collect suite answers now_le now_le_sweep (regular header parsed)

theorem Reception.start_tracks (d : Device) (now : Rat) : (Reception.start d now).Tracks where
  own key buf found := by cases found
  live m w opened := by cases opened
  handed := rfl
  chronological := List.Pairwise.nil
  past f member := by cases member

end Tracks

/-- The message of the segment was not handed over before, or it is not the segment that
completes it again. -/
def Reception.FirstDelivery (s : Reception) : SegmentEvent → Prop
  | .handleSegment src dst transportPdu _ _ =>
    ∀ header, parseSegmentHeader transportPdu = .ok header →
      .ofHeader src dst header ∉ s.handed.map ReassemblyBuffer.message ∨
        ∃ i ≤ header.segN, i ≠ header.segO ∧
          ∀ buf, s.device.segmentBuffers.get? (segmentKey src dst header) = some buf →
            buf.segments.get? i = none
  | .elsewhere _ => True

/-- What a run of `_handle_segment` promises for the messages in it. -/
structure Reception.Faithful (s : Reception) : Prop where
  /-- Exactly the messages due were handed over, each time once, in their order. -/
  handed : s.handed.map ReassemblyBuffer.delivery = dueMessages s.history
  /-- A message handed over has its segments `0..seg_n` and no others, and they were received
  while one window was open. -/
  whole : ∀ buf ∈ s.handed, buf.window.Full buf.message.count ∧
    buf.window.CollectedFrom MessageId.count _REASSEMBLY_TIMEOUT buf.message s.history
  /-- A message of which all segments were received within the timeout was handed over. -/
  delivered : ∀ m older newer first, s.history = newer ++ older → segmentWindow older m = none →
    (∀ f ∈ newer, f.message = m → f.index < m.count →
      first ≤ f.time ∧ f.time - first ≤ _REASSEMBLY_TIMEOUT) →
    (∀ i < m.count, ∃ f ∈ newer, f.message = m ∧ f.index = i) →
    ∃ recent w, s.handed.map ReassemblyBuffer.delivery = recent ++ dueMessages older ∧
      (m, w) ∈ recent
  /-- A buffer is an open window: the one of a message handed over is gone. -/
  removed : ∀ key buf, s.device.segmentBuffers.get? key = some buf →
    buf.message.key = key ∧ segmentWindow s.history buf.message = some buf.window

theorem Reception.Tracks.faithful {s : Reception} (tracks : s.Tracks) : s.Faithful where
  handed := tracks.handed
  whole buf member := by
    have due : buf.delivery ∈ dueMessages s.history := by
      rw [← tracks.handed]
      exact List.mem_map_of_mem member
    exact due_collectedFrom timeout_nonneg tracks.chronological due
  delivered m older newer first split closed within all := by
    have positive : 0 < MessageId.count m := Nat.succ_pos m.segN
    obtain ⟨recent, w, due, member⟩ := due_of_received positive closed within all
    refine ⟨recent, w, ?_, member⟩
    rw [tracks.handed, split]
    exact due
  removed := tracks.own

/-- Handing over a message that was not handed over before. -/
theorem Reception.Tracks.nodup_step {suite : CipherSuite} {s s' : Reception} {event : SegmentEvent}
    (tracks : s.Tracks) (regular : s.Regular event) (first : s.FirstDelivery event)
    (nodup : (s.handed.map ReassemblyBuffer.message).Nodup)
    (stepped : (receptionSystem suite).step s event = some s') :
    (s'.handed.map ReassemblyBuffer.message).Nodup := by
  rcases reception_step_cases stepped with quiet |
    ⟨src, dst, transportPdu, answers, clock, header, rfl, parsed, now_le, now_le_sweep, rfl⟩
  · rw [quiet.handed]
    exact nodup
  · have regular' := regular header parsed
    rw [Reception.collect, collectSegment_handedOver]
    by_cases complete : (s.device.storedBuffer src dst clock.now header).complete = true
    · have full := (tracks.complete_iff now_le regular').mp complete
      rw [if_pos complete, List.singleton_append, List.map_cons, List.nodup_cons,
        (tracks.storedBuffer now_le regular').1]
      refine ⟨?_, nodup⟩
      rcases first header parsed with new | ⟨i, i_le, other, absent⟩
      · exact new
      · -- a missing segment would leave the window open
        have present := full i (Nat.lt_succ_of_le i_le)
        rw [← OrderedDict.get?_isSome_iff] at present
        simp only [ReassemblyBuffer.window, Device.storedBuffer, ReassemblyBuffer.receive,
          ReassemblyBuffer.store, OrderedDict.get?_set, if_neg other] at present
        cases found : s.device.segmentBuffers.get? (segmentKey src dst header) with
        | none =>
          rw [found] at present
          cases present
        | some buf =>
          rw [found, Option.getD_some, absent buf found] at present
          cases present
    · rw [if_neg complete]
      exact nodup

/-- In a run of regular segments, however interleaved and repeated, exactly the messages
whose segments `0..seg_n` were all received within the timeout are handed over, made of
those segments, and their buffers are removed. A message is handed over again only when all
its segments were received again. -/
theorem reassembly_delivers_due (suite : CipherSuite) {d : Device} {now : Rat}
    {events : List SegmentEvent} {s : Reception}
    (ran : (receptionSystem suite).exec (.start d now) events = some s)
    (regular : (receptionSystem suite).Guarded Reception.Regular (.start d now) events) :
    s.Faithful ∧
      ((receptionSystem suite).Guarded Reception.FirstDelivery (.start d now) events →
        (s.handed.map ReassemblyBuffer.message).Nodup) := by
  constructor
  · have tracks : s.Tracks := by
      apply (receptionSystem suite).exec_invariant Reception.Tracks _ _ regular ran
      · intro s event s' tracks regular stepped
        exact tracks.step regular stepped
      · exact Reception.start_tracks d now
    exact tracks.faithful
  · intro first
    have both := EventSystem.Guarded.and _ regular first
    have inv : s.Tracks ∧ (s.handed.map ReassemblyBuffer.message).Nodup := by
      apply (receptionSystem suite).exec_invariant
        (fun s => s.Tracks ∧ (s.handed.map ReassemblyBuffer.message).Nodup) _ _ both ran
      · intro s event s' ⟨tracks, nodup⟩ ⟨regular, first⟩ stepped
        exact ⟨tracks.step regular stepped, tracks.nodup_step regular first nodup stepped⟩
      · exact ⟨Reception.start_tracks d now, List.nodup_nil⟩
    exact inv.2

/-! ### Sample runs -/

instance (s : Reception) (now : Rat) (src dst : Nat) (header : SegmentHeader) :
    Decidable (s.RegularSegment now src dst header) :=
  decidable_of_iff (header.segO ≤ header.segN ∧
      ∀ buf ∈ s.device.segmentBuffers.get? (segmentKey src dst header),
        buf.message = .ofHeader src dst header ∧ now - buf.createdAt ≤ _REASSEMBLY_TIMEOUT)
    ⟨fun ⟨inside, found⟩ => ⟨inside, fun buf member => (found buf member).1,
      fun buf member => (found buf member).2⟩,
      fun regular => ⟨regular.inside, fun buf member =>
        ⟨regular.same buf member, regular.within buf member⟩⟩⟩

def decidableForallParsed (transportPdu : Bytes) (p : SegmentHeader → Prop)
    [DecidablePred p] :
    Decidable (∀ header, parseSegmentHeader transportPdu = .ok header → p header) :=
  match parsed : parseSegmentHeader transportPdu with
  | .ok header => decidable_of_iff (p header)
      ⟨fun holds header' same => by cases same; exact holds, fun all => all header rfl⟩
  | .error _ => isTrue fun _ absent => by cases absent

instance (s : Reception) : ∀ event, Decidable (s.Regular event)
  | .handleSegment _ _ transportPdu _ _ => decidableForallParsed transportPdu _
  | .elsewhere _ => isTrue trivial

instance (s : Reception) : ∀ event, Decidable (s.FirstDelivery event)
  | .handleSegment src dst transportPdu _ _ =>
    have : DecidablePred fun header : SegmentHeader =>
        .ofHeader src dst header ∉ s.handed.map ReassemblyBuffer.message ∨
          ∃ i ≤ header.segN, i ≠ header.segO ∧
            ∀ buf, s.device.segmentBuffers.get? (segmentKey src dst header) = some buf →
              buf.segments.get? i = none := fun header =>
      decidable_of_iff (.ofHeader src dst header ∉ s.handed.map ReassemblyBuffer.message ∨
          ∃ i < header.segN + 1, i ≠ header.segO ∧
            ∀ buf ∈ s.device.segmentBuffers.get? (segmentKey src dst header),
              buf.segments.get? i = none)
        (by simp only [Nat.lt_succ_iff, Option.mem_def])
    decidableForallParsed transportPdu _
  | .elsewhere _ => isTrue trivial

/-- Segment `segO` of a message of 24 bytes or less from `src`, received at `now`. -/
def sampleSegment (src segN segO : Nat) (now : Rat) : SegmentEvent :=
  .handleSegment src 1 (segmentPdu (List.replicate 24 0x5A) 1 0x26 0 7 segN segO) (fun _ => none)
    ⟨now, now⟩

/-- Two messages, interleaved and with a repeated segment. -/
def interleavedSegments : List SegmentEvent :=
  [sampleSegment 0xB0 1 1 0, sampleSegment 0xC0 1 0 1, sampleSegment 0xB0 1 1 2,
    sampleSegment 0xB0 1 0 3, sampleSegment 0xC0 1 1 10]

theorem interleavedSegments_delivered : ∃ s,
    (receptionSystem nonceTagSuite).exec (.start sampleDevice 0) interleavedSegments = some s ∧
      s.Faithful ∧ (s.handed.map ReassemblyBuffer.message).Nodup := by
  refine ⟨_, rfl, ?_⟩
  have regular : (receptionSystem nonceTagSuite).Guarded Reception.Regular (.start sampleDevice 0)
      interleavedSegments := by decide +kernel
  have first : (receptionSystem nonceTagSuite).Guarded Reception.FirstDelivery
      (.start sampleDevice 0) interleavedSegments := by decide +kernel
  have delivered := reassembly_delivers_due nonceTagSuite rfl regular
  exact ⟨delivered.1, delivered.2 first⟩

/-- Two segments are counted as a message of two segments, whatever their indices: the
message is handed over without its segment 1, and never with it. And a message whose only
segment is received twice is handed over twice. -/
theorem strayIndex_completes :
    (∃ s, (receptionSystem nonceTagSuite).exec (.start sampleDevice 0)
        [sampleSegment 0xB0 1 5 0, sampleSegment 0xB0 1 0 1, sampleSegment 0xB0 1 1 2] = some s ∧
      s.handed.map (fun buf => buf.segments.keys) = [[5, 0]] ∧
      (dueMessages s.history).map (fun due => due.2.fragments.keys) = [[0, 1]] ∧ ¬ s.Faithful) ∧
    ∃ s, (receptionSystem nonceTagSuite).exec (.start sampleDevice 0)
        [sampleSegment 0xB0 0 0 0, sampleSegment 0xB0 0 0 1] = some s ∧
      ¬ (s.handed.map ReassemblyBuffer.message).Nodup := by
  constructor
  · refine ⟨_, rfl, by decide +kernel, by decide +kernel, ?_⟩
    intro faithful
    exact absurd faithful.handed (by decide +kernel)
  · exact ⟨_, rfl, by decide +kernel⟩

end TuyaBleMesh

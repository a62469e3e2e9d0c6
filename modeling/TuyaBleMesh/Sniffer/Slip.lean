import TuyaBleMesh.Lib.Bytes
import TuyaBleMesh.Lib.Delimited

/-!
# SLIP frames of the sniffer

`sniff.py`: how packets are framed on the serial port, and the loop of
`SnifferReader.read_packets` that takes them out of what the reads bring.
-/

namespace TuyaBleMesh.Sniffer

def SLIP_END : UInt8 := 0xC0

def SLIP_ESC : UInt8 := 0xDB

def SLIP_ESC_END : UInt8 := 0xDC

def SLIP_ESC_ESC : UInt8 := 0xDD

/-- What `slip_encode` writes for one byte. -/
def escapeByte (byte : UInt8) : Bytes :=
  if byte = SLIP_END then [SLIP_ESC, SLIP_ESC_END]
  else if byte = SLIP_ESC then [SLIP_ESC, SLIP_ESC_ESC]
  else [byte]

def slipEncode (data : Bytes) : Bytes := SLIP_END :: data.flatMap escapeByte ++ [SLIP_END]

/-- What an escaped byte stands for. -/
def unescapeByte (byte : UInt8) : UInt8 :=
  if byte = SLIP_ESC_END then SLIP_END
  else if byte = SLIP_ESC_ESC then SLIP_ESC
  else byte

def slipDecode : Bytes → Bytes
  | [] => []
  | byte :: rest =>
    if byte = SLIP_ESC then
      match rest with
      | [] => []
      | escaped :: rest => unescapeByte escaped :: slipDecode rest
    else if byte ≠ SLIP_END then byte :: slipDecode rest
    else slipDecode rest

/-! ### One frame -/

theorem escapeByte_clean (byte : UInt8) : SLIP_END ∉ escapeByte byte := by
  unfold escapeByte
  split
  · decide
  · split
    · decide
    · next other _ =>
      rw [List.mem_singleton]
      exact fun same => other same.symm

theorem flatMap_escapeByte_clean (data : Bytes) : SLIP_END ∉ data.flatMap escapeByte := by
  intro member
  obtain ⟨byte, _, inside⟩ := List.mem_flatMap.mp member
  exact escapeByte_clean byte inside

theorem flatMap_escapeByte_ne_nil {data : Bytes} (nonempty : data ≠ []) :
    data.flatMap escapeByte ≠ [] := by
  cases data with
  | nil => exact absurd rfl nonempty
  | cons byte data =>
    unfold List.flatMap escapeByte
    rw [List.map_cons, List.flatten_cons]
    split
    · exact List.cons_ne_nil _ _
    · split
      · exact List.cons_ne_nil _ _
      · exact List.cons_ne_nil _ _

/-- Escaping one byte is undone, whatever follows. -/
theorem slipDecode_escapeByte (byte : UInt8) (rest : Bytes) :
    slipDecode (escapeByte byte ++ rest) = byte :: slipDecode rest := by
  unfold escapeByte
  split
  · next isEnd =>
    rw [isEnd]
    rfl
  · next notEnd =>
    split
    · next isEsc =>
      rw [isEsc]
      rfl
    · -- what is neither of the two stands for itself
      next notEsc =>
      rw [List.singleton_append, slipDecode.eq_def]
      dsimp only
      rw [if_neg notEsc, if_pos notEnd]

theorem slipDecode_flatMap_escapeByte (data : Bytes) :
    slipDecode (data.flatMap escapeByte) = data := by
  induction data with
  | nil => rfl
  | cons byte data ih => rw [List.flatMap_cons, slipDecode_escapeByte, ih]

/-! ### Packets -/

structure PacketHeader where
  headerLen : Nat
  payloadLen : Nat
  protoVer : Nat
  packetType : Nat
  payload : Bytes
  deriving DecidableEq

/-- `parse_packet_header`; the packet counter, two bytes, is skipped. -/
def parsePacketHeader (data : Bytes) : Option PacketHeader :=
  match data with
  | headerLen :: payloadLen :: protoVer :: _ :: _ :: packetType :: _ => some {
      headerLen := headerLen.toNat
      payloadLen := payloadLen.toNat
      protoVer := protoVer.toNat
      packetType := packetType.toNat
      payload := (data.drop headerLen.toNat).take payloadLen.toNat }
  | _ => none

/-! ### The reader -/

/-- The state of `read_packets` between two reads. -/
structure SnifferReader where
  buf : Bytes := []
  /-- The decoded frames, in the order they are logged. -/
  decoded : List Bytes := []
  /-- The headers of the ones among them that `_packet_count` counts. -/
  packets : List PacketHeader := []
  deriving DecidableEq

namespace SnifferReader

/-- The body of the inner loop, for the bytes before a delimiter. -/
def processFrame (r : SnifferReader) (frameData : Bytes) : SnifferReader :=
  if frameData = [] then r
  else
    let decoded := slipDecode frameData
    { r with
      decoded := r.decoded ++ [decoded]
      packets := r.packets ++ (parsePacketHeader decoded).toList }

/-- `while SLIP_END in buf`. -/
def processFrames (r : SnifferReader) : SnifferReader :=
  if SLIP_END ∈ r.buf then
    let idx := r.buf.idxOf SLIP_END
    processFrames ({ r with buf := r.buf.drop (idx + 1) }.processFrame (r.buf.take idx))
  else r
termination_by r.buf.length
decreasing_by
  have inside : r.buf.idxOf SLIP_END < r.buf.length := List.idxOf_lt_length_of_mem ‹_›
  simp only [processFrame]
  split
  · simp only [List.length_drop]
    omega
  · simp only [List.length_drop]
    omega

/-- One read of the serial port; an empty one is followed by a pause. -/
def read (r : SnifferReader) (chunk : Bytes) : SnifferReader :=
  if chunk = [] then r
  else processFrames { r with buf := r.buf ++ chunk }

/-- `read_packets` over what the reads bring. -/
def readPackets (chunks : List Bytes) : SnifferReader := chunks.foldl read {}

variable {r : SnifferReader}

/-- The frames one after the other; the buffer is not looked at. -/
def collect (r : SnifferReader) (frames : List Bytes) (buf : Bytes) : SnifferReader :=
  { frames.foldl processFrame r with buf }

theorem processFrame_buf (r : SnifferReader) (buf frameData : Bytes) :
    { r with buf }.processFrame frameData = { r.processFrame frameData with buf } := by
  unfold processFrame
  split
  · rfl
  · rfl

theorem foldl_processFrame_buf (r : SnifferReader) (frames : List Bytes) (buf : Bytes) :
    frames.foldl processFrame { r with buf } = { frames.foldl processFrame r with buf } := by
  induction frames generalizing r with
  | nil => rfl
  | cons frame frames ih => rw [List.foldl_cons, processFrame_buf, ih, List.foldl_cons]

/-- The inner loop processes the complete frames of the buffer and keeps what is left. -/
theorem processFrames_eq (r : SnifferReader) (buf : Bytes) :
    processFrames { r with buf } =
      r.collect (Delimited.parts SLIP_END buf).1 (Delimited.parts SLIP_END buf).2 := by
  induction buf using Delimited.rec_on_parts (d := SLIP_END) generalizing r with
  | none buf absent =>
    rw [processFrames, if_neg absent, Delimited.parts_of_not_mem absent]
    rfl
  -- the first delimiter ends the frame, and the loop goes on behind it
  | part frame buf absent ih =>
    have present : SLIP_END ∈ frame ++ SLIP_END :: buf :=
      List.mem_append_right _ List.mem_cons_self
    have index : (frame ++ SLIP_END :: buf).idxOf SLIP_END = frame.length := by
      rw [List.idxOf_append_of_notMem absent, List.idxOf_cons_self, Nat.add_zero]
    have after : (frame ++ SLIP_END :: buf).drop (frame.length + 1) = buf := by
      rw [← List.drop_drop, List.drop_left]
      rfl
    rw [processFrames, if_pos present, Delimited.parts_append_cons absent]
    dsimp only
    rw [index, List.take_left, after, processFrame_buf, ih]
    rfl

/-- A read goes on where the stream was read to. -/
theorem read_collect (r : SnifferReader) (before chunk : Bytes) :
    (r.collect (Delimited.parts SLIP_END before).1 (Delimited.parts SLIP_END before).2).read chunk =
      r.collect (Delimited.parts SLIP_END (before ++ chunk)).1
        (Delimited.parts SLIP_END (before ++ chunk)).2 := by
  unfold read
  split
  · next empty => rw [empty, List.append_nil]
  · rw [Delimited.parts_append]
    refine (processFrames_eq _ _).trans ?_
    unfold collect
    rw [List.foldl_append, foldl_processFrame_buf]

/-- However the stream is cut, its frames are processed in their order. -/
theorem readPackets_eq (chunks : List Bytes) :
    readPackets chunks = collect {} (Delimited.parts SLIP_END chunks.flatten).1
      (Delimited.parts SLIP_END chunks.flatten).2 := by
  have along : ∀ before : Bytes, chunks.foldl read
      (collect {} (Delimited.parts SLIP_END before).1 (Delimited.parts SLIP_END before).2) =
        collect {} (Delimited.parts SLIP_END (before ++ chunks.flatten)).1
          (Delimited.parts SLIP_END (before ++ chunks.flatten)).2 := by
    induction chunks with
    | nil =>
      intro before
      rw [List.foldl_nil, List.flatten_nil, List.append_nil]
    | cons chunk chunks ih =>
      intro before
      rw [List.foldl_cons, read_collect, ih, List.flatten_cons, List.append_assoc]
  have start : Delimited.parts SLIP_END [] = ([], []) :=
    Delimited.parts_of_not_mem List.not_mem_nil
  have ran := along []
  rw [start] at ran
  exact ran

theorem foldl_processFrame_decoded (r : SnifferReader) (frames : List Bytes) :
    (frames.foldl processFrame r).decoded =
      r.decoded ++ (frames.filter (· ≠ [])).map slipDecode := by
  induction frames generalizing r with
  | nil => exact (List.append_nil _).symm
  | cons frame frames ih =>
    rw [List.foldl_cons, ih, processFrame, List.filter_cons]
    by_cases empty : frame = []
    · simp [empty]
    · simp [empty]

end SnifferReader

/-- The parts of a stream of encoded packets: each has an empty one before it. -/
theorem parts_slipEncode (packets : List Bytes) :
    Delimited.parts SLIP_END (packets.flatMap slipEncode) =
      (packets.flatMap fun packet => [[], packet.flatMap escapeByte], []) := by
  have words : packets.flatMap slipEncode =
      (packets.flatMap fun packet => [[], packet.flatMap escapeByte]).flatMap
        fun word => word ++ [SLIP_END] := by
    rw [List.flatMap_assoc]
    congr 1
    funext packet
    simp [slipEncode]
  rw [words]
  apply Delimited.parts_flatMap
  intro word member
  obtain ⟨packet, _, inside⟩ := List.mem_flatMap.mp member
  rcases List.mem_pair.mp inside with rfl | rfl
  · exact List.not_mem_nil
  · exact flatMap_escapeByte_clean packet

/-- Non-empty packets that are encoded one after the other are recovered from every cut of the
stream into reads: these packets, in their order, and nothing is left in the buffer. -/
theorem readPackets_recovers (packets : List Bytes) (nonempty : ∀ packet ∈ packets, packet ≠ [])
    (chunks : List Bytes) (stream : chunks.flatten = packets.flatMap slipEncode) :
    (SnifferReader.readPackets chunks).decoded = packets ∧
      (SnifferReader.readPackets chunks).buf = [] := by
  rw [SnifferReader.readPackets_eq, stream, parts_slipEncode]
  refine ⟨?_, rfl⟩
  refine (SnifferReader.foldl_processFrame_decoded {} _).trans ?_
  rw [List.nil_append]
  -- the empty part before each packet is skipped
  clear stream
  induction packets with
  | nil => rfl
  | cons packet packets ih =>
    have present := flatMap_escapeByte_ne_nil (nonempty packet List.mem_cons_self)
    have rest := ih fun other member => nonempty other (List.mem_cons_of_mem packet member)
    rw [List.flatMap_cons, List.filter_append, List.map_append, rest]
    simp [present, slipDecode_flatMap_escapeByte]

/-- A packet with both special bytes, cut inside an escape pair, and another one. -/
theorem readPackets_recovers_escaped :
    let r := SnifferReader.readPackets
      [[0xC0, 0x01, 0xDB], [], [0xDC, 0xDB, 0xDD, 0xC0, 0xC0], [0x02, 0xC0]]
    r.decoded = [[0x01, 0xC0, 0xDB], [0x02]] ∧ r.buf = [] :=
  readPackets_recovers [[0x01, 0xC0, 0xDB], [0x02]] (by decide) _ (by decide)

end TuyaBleMesh.Sniffer

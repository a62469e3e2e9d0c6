import TuyaBleMesh.Lib.Solo
import TuyaBleMesh.SigMesh.Rules

/-!
# What unsegmented messages carry

The access payloads that the senders hand to `make_access_unsegmented`, the reply to a
device that asks for the time among them. They are short enough, except for that reply.
-/

namespace TuyaBleMesh

/-! ### The reply to a timestamp request -/

def TUYA_VENDOR_WRITE_UNACK : Nat := 0xCAD007

def TUYA_CMD_TIMESTAMP_SYNC : UInt8 := 0x02

/-- What the `time` module shows. -/
structure WallClock where
  /-- `int(time.time())`. -/
  now : Int
  timezone : Int
  altzone : Int
  daylight : Int
  deriving DecidableEq

/-- `v.to_bytes(4, "big")`. -/
def toBytes4 (v : Int) : Except PyError Bytes :=
  if 0 ≤ v ∧ v < 2 ^ 32 then .ok (Bytes.beBytes 4 v.toNat) else .error .overflowError

/-- The hours of the time zone, in a byte. -/
def tzByte (clock : WallClock) : UInt8 :=
  let offset := if clock.daylight = 0 then clock.timezone.fdiv (-3600) else clock.altzone.fdiv (-3600)
  if -12 ≤ offset ∧ offset ≤ 14 then UInt8.ofNat (offset % 256).toNat else 0x00

/-- The frame of the reply, after its opcode. -/
def timestampFrame (clock : WallClock) (tsBytes : Bytes) : Bytes :=
  let data := tsBytes ++ [tzByte clock] ++ [0x00, 0x00, 0x00]
  [TUYA_CMD_TIMESTAMP_SYNC, UInt8.ofNat data.length] ++ data

def tuyaVendorTimestampResponse (clock : WallClock) : Except PyError Bytes := do
  let tsBytes ← toBytes4 clock.now
  return Bytes.beBytes 3 TUYA_VENDOR_WRITE_UNACK ++ timestampFrame clock tsBytes

namespace SigMesh

open Coroutine

variable (c : SigConfig)

/-- `_send_timestamp_response` of the coordinator, a task of its own. -/
def sendTimestampResponse (clock : WallClock) : SigMesh Unit :=
  onError (do
    let accessPayload ← fromAnswer (tuyaVendorTimestampResponse clock)
    sendVendorCommand c accessPayload) fun error =>
    -- `except Exception`: a warning is logged
    if error.isException then pure () else raise error

end SigMesh

/-! ### Payloads -/

/-- The messages that are sent unsegmented. -/
inductive UnsegmentedMessage
  | power (on : Bool) (tid : Nat)
  | level (value : Int) (tid : Nat)
  | timestampReply (clock : WallClock)
  | compositionGet
  | modelAppBind (elementAddr appIdx modelId : Int)
  deriving DecidableEq

namespace UnsegmentedMessage

section Definitions

variable (c : SigConfig)

/-- What the builder makes. -/
def payload : UnsegmentedMessage → Except PyError Bytes
  | .power on tid => .ok (genericOnoffSet on tid)
  | .level value tid =>
    if c.brightnessModelId = 0x1300 then lightLightnessSet (value + 32768) tid
    else genericLevelSet value tid
  | .timestampReply clock => tuyaVendorTimestampResponse clock
  | .compositionGet => configCompositionGet 0
  | .modelAppBind elementAddr appIdx modelId => configModelAppBind elementAddr appIdx modelId

/-- The opcode and the parameters that the device is to read. -/
def intended : UnsegmentedMessage → Nat × Bytes
  | .power on tid => (OP_GENERIC_ONOFF_SET, [if on then 0x01 else 0x00, UInt8.ofNat tid])
  | .level value tid =>
    if c.brightnessModelId = 0x1300 then
      (OP_LIGHT_LIGHTNESS_SET, packLE16 (value + 32768) ++ [UInt8.ofNat tid])
    else (OP_GENERIC_LEVEL_SET, packLE16 (value % 65536) ++ [UInt8.ofNat tid])
  | .timestampReply clock =>
    (TUYA_VENDOR_WRITE_UNACK, timestampFrame clock (Bytes.beBytes 4 clock.now.toNat))
  | .compositionGet => (OP_CONFIG_COMPOSITION_GET, [0x00])
  | .modelAppBind elementAddr appIdx modelId =>
    (OP_CONFIG_MODEL_APP_BIND, packLE16 elementAddr ++ packLE16 appIdx ++ packLE16 modelId)

/-- The arguments that the builders are made for. -/
def Admissible : UnsegmentedMessage → Prop
  | .power _ _ => True
  | .level value _ => -32768 ≤ value ∧ value ≤ 32767
  | .timestampReply _ => True
  | .compositionGet => True
  | .modelAppBind elementAddr appIdx modelId =>
    (0 ≤ elementAddr ∧ elementAddr ≤ 0xFFFF) ∧ (0 ≤ appIdx ∧ appIdx ≤ 0xFFF) ∧
      0 ≤ modelId ∧ modelId ≤ 0xFFFF

/-- `make_access_unsegmented` accepts the payload, whatever the key, the addresses and the
sequence number, each within its range. -/
def Accepted (accessPayload : Bytes) : Prop :=
  accessPayload.length ≤ 11 ∧ ∀ (keys : MeshKeys) (key : Bytes) (src dst seq akf aid : Nat),
    key.length = _AES_BLOCK_SIZE → src < 256 ^ 2 → dst < 256 ^ 2 → seq < 256 ^ 3 → akf ≤ 1 →
    ∃ transportPdu, makeAccessUnsegmented c.suite key src dst seq keys.ivIndex accessPayload akf aid =
      .ok transportPdu

/-- There is a payload, it is accepted and it is read back. -/
def Fits (message : UnsegmentedMessage) : Prop :=
  ∃ accessPayload, message.payload c = .ok accessPayload ∧ Accepted c accessPayload ∧
    parseAccessOpcode accessPayload = .ok (message.intended c)

end Definitions

/-- The senders hand over these payloads. -/
theorem senders_payload (c : SigConfig) :
    (∀ on maxRetries, SigMesh.sendPower c on maxRetries =
      SigMesh.sendCommand c (.sendPower on maxRetries) c.targetAddr maxRetries fun tid =>
        (power on tid).payload c) ∧
    (∀ value maxRetries, SigMesh.sendLevel c value maxRetries =
      SigMesh.sendCommand c (.sendLevel value maxRetries) c.levelTargetAddr maxRetries fun tid =>
        (level value tid).payload c) ∧
    (∀ clock, SigMesh.sendTimestampResponse c clock =
      Coroutine.onError
        (SigMesh.fromAnswer ((timestampReply clock).payload c) >>= SigMesh.sendVendorCommand c)
        fun error => if error.isException then pure () else Coroutine.raise error) ∧
    (SigMesh.requestCompositionData c = SigMesh.checkConnected >>= fun _ =>
      SigMesh.sendUnsegmented c .requestCompositionData none c.targetAddr
        (compositionGet.payload c)) ∧
    ∀ elementAddr appIdx modelId, ∃ rest : Bytes → SigMesh Unit,
      SigMesh.sendConfigModelAppBind c elementAddr appIdx modelId =
        SigMesh.checkConnected >>= fun _ =>
          SigMesh.fromAnswer ((modelAppBind elementAddr appIdx modelId).payload c) >>=
            fun accessPayload => SigMesh.unsegmentedPdu c none c.targetAddr accessPayload >>= rest :=
  ⟨fun _ _ => rfl, fun _ _ => rfl, fun _ => rfl, rfl, fun _ _ _ => ⟨_, rfl⟩⟩

variable {c : SigConfig}

theorem accepted_of_short {accessPayload : Bytes} (short : accessPayload.length ≤ 11) :
    Accepted c accessPayload := by
  refine ⟨short, ?_⟩
  intro keys key src dst seq akf aid key_length src_lt dst_lt seq_lt akf_le
  exact ⟨_, makeAccessUnsegmented_ok c.suite keys key_length short akf_le seq_lt src_lt dst_lt⟩

/-- Whatever the clock and the time zone, the reply has thirteen bytes. -/
theorem timestampResponse_length {clock : WallClock} {accessPayload : Bytes}
    (made : tuyaVendorTimestampResponse clock = .ok accessPayload) : accessPayload.length = 13 := by
  obtain ⟨tsBytes, packed, made⟩ := bind_eq_ok.mp made
  unfold toBytes4 at packed
  split at packed
  · cases packed
    cases made
    rfl
  · cases packed

theorem uint8_and_0xFF (n : Nat) : UInt8.ofNat (n &&& 0xFF) = UInt8.ofNat n := by
  have low : n &&& 0xFF = n % 256 := Nat.and_two_pow_sub_one_eq_mod n 8
  rw [low]
  exact UInt8.ofNat_mod_size

/-- Every message but the reply to a timestamp request is accepted, and read back as it is
meant. -/
theorem fits_iff (c : SigConfig) (message : UnsegmentedMessage) :
    (message.Admissible → message.Fits c) ↔ ∀ clock, message ≠ .timestampReply clock := by
  cases message with
  | power on tid =>
    refine ⟨fun _ _ => nofun, fun _ _ => ⟨_, rfl, accepted_of_short ?_, ?_⟩⟩
    · simp [genericOnoffSet]
    · simp only [genericOnoffSet, uint8_and_0xFF]
      rfl
  | level value tid =>
    refine ⟨fun _ _ => nofun, fun _ inRange => ?_⟩
    have level : -32768 ≤ value ∧ value ≤ 32767 := inRange
    dsimp only [Fits, payload, intended]
    split
    · refine ⟨_, if_neg (not_not.mpr (by omega)), accepted_of_short ?_, ?_⟩
      · simp [packLE16]
      · rw [uint8_and_0xFF]
        rfl
    · refine ⟨_, if_neg (not_not.mpr level), accepted_of_short ?_, ?_⟩
      · simp [packLE16]
      · rw [uint8_and_0xFF]
        rfl
  | timestampReply clock =>
    refine ⟨fun fits => ?_, fun other => absurd rfl (other clock)⟩
    obtain ⟨accessPayload, made, ⟨short, _⟩, _⟩ := fits trivial
    have length := timestampResponse_length made
    omega
  | compositionGet =>
    exact ⟨fun _ _ => nofun, fun _ _ => ⟨_, rfl, accepted_of_short (by decide), rfl⟩⟩
  | modelAppBind elementAddr appIdx modelId =>
    refine ⟨fun _ _ => nofun, fun _ inRange => ?_⟩
    obtain ⟨element, app, model⟩ := inRange
    have made : configModelAppBind elementAddr appIdx modelId =
        .ok (Bytes.beBytes 2 OP_CONFIG_MODEL_APP_BIND ++ packLE16 elementAddr ++ packLE16 appIdx ++
          packLE16 modelId) := by
      rw [configModelAppBind, if_neg (not_not.mpr element), if_neg (not_not.mpr app),
        if_neg (not_not.mpr model)]
    refine ⟨_, made, accepted_of_short ?_, ?_⟩
    · simp [packLE16]
    · rfl

/-- A device in Stockholm in summer asks for the time. -/
def sampleClock : WallClock := ⟨1750000000, -3600, -7200, 1⟩

theorem timestampReply_rejected : (timestampReply sampleClock).Admissible ∧
    ¬(timestampReply sampleClock).Fits sampleSig ∧
    (tuyaVendorTimestampResponse sampleClock >>= fun accessPayload =>
      makeAccessUnsegmented nonceTagSuite (List.replicate 16 0x22) 1 0xB0 5 0 accessPayload 1 0x26) =
        .error (.protocolError "Unsegmented access payload max 11 bytes, got 13") := by
  refine ⟨trivial, ?_, by decide +kernel⟩
  rintro ⟨accessPayload, made, ⟨short, _⟩, _⟩
  have length := timestampResponse_length made
  omega

end UnsegmentedMessage

/-! ### The reply is not sent -/

namespace SigMesh

open Coroutine

variable {c : SigConfig} {accessPayload : Bytes}

theorem transportPdu_long (long : 11 < accessPayload.length) (keys : MeshKeys)
    (appKey : Option Bytes) (dst seq : Nat) :
    ∃ msg, transportPdu c keys appKey dst seq accessPayload = .error (.protocolError msg) := by
  cases appKey with
  | none => exact ⟨_, if_pos long⟩
  | some appKey => exact ⟨_, if_pos long⟩

/-- The code awaits nothing and ends with an `Exception`. -/
def Fails {α : Type} (code : SigMesh α) : Prop :=
  ∀ (env : Surroundings sigSignature) (past : List (Awaited sigSignature)) (s : SigMeshDevice),
    ∃ s' error, code.play env past s = ⟨past, s', some (.error error)⟩ ∧ error.isException = true

theorem Fails.raise {α : Type} {error : PyError} (exception : error.isException = true) :
    Fails (Coroutine.raise error : SigMesh α) :=
  fun _ _ s => ⟨s, error, rfl, exception⟩

theorem Fails.bind {α β : Type} {code : SigMesh α} (fails : Fails code) (rest : α → SigMesh β) :
    Fails (code >>= rest) := by
  intro env past s
  obtain ⟨s', error, played, exception⟩ := fails env past s
  exact ⟨s', error, by rw [play_bind, played]; rfl, exception⟩

theorem unsegmentedPdu_fails (long : 11 < accessPayload.length) (appKey : Option Bytes) (dst : Nat) :
    Fails (unsegmentedPdu c appKey dst accessPayload) := by
  intro env past s
  rw [unsegmentedPdu, play_bind, drawSeqs, play_read_bind]
  cases drawn : Draw.one.run s.seqStore with
  | error error =>
    refine ⟨s, error, by rw [play_raise]; rfl, ?_⟩
    rw [Draw.run_error drawn]
    rfl
  | ok range =>
    obtain ⟨range, seqStore⟩ := range
    dsimp only
    rw [play_modify_bind, play_pure]
    dsimp only [Played.andThen]
    rw [loadedKeys, play_bind, play_read_bind]
    -- the number is drawn even so
    cases loaded : s.device.keys with
    | none => exact ⟨{ s with seqStore }, .attributeError, by rw [play_raise]; rfl, rfl⟩
    | some keys =>
      obtain ⟨msg, rejected⟩ := transportPdu_long (c := c) long keys appKey dst range.start
      refine ⟨{ s with seqStore }, .protocolError msg, ?_, rfl⟩
      rw [play_pure]
      dsimp only [Played.andThen]
      rw [rejected]
      rfl

theorem sendVendorCommand_fails (long : 11 < accessPayload.length) :
    Fails (sendVendorCommand c accessPayload) := by
  intro env past s
  rw [sendVendorCommand, checkConnected, play_bind, play_read_bind]
  split
  · next keys connected loaded =>
    rw [play_pure]
    dsimp only [Played.andThen, applicationKey]
    split
    · exact ⟨s, _, rfl, rfl⟩
    · exact (unsegmentedPdu_fails long _ _).bind _ env past s
  · exact ⟨s, _, rfl, rfl⟩

/-- The task that replies to a timestamp request ends without having awaited a write. -/
theorem sendTimestampResponse_silent (clock : WallClock) (env : Surroundings sigSignature)
    (past : List (Awaited sigSignature)) (s : SigMeshDevice) :
    ∃ s', (sendTimestampResponse c clock).play env past s = ⟨past, s', some (.ok ())⟩ := by
  have fails : Fails (fromAnswer (tuyaVendorTimestampResponse clock) >>= sendVendorCommand c) := by
    cases made : tuyaVendorTimestampResponse clock with
    | error error =>
      have overflow : error = .overflowError := by
        unfold tuyaVendorTimestampResponse toBytes4 at made
        split at made
        · cases made
        · cases made
          rfl
      rw [overflow]
      exact Fails.raise rfl
    | ok accessPayload =>
      have length := UnsegmentedMessage.timestampResponse_length made
      exact sendVendorCommand_fails (by omega)
  obtain ⟨s', error, played, exception⟩ := fails env past s
  refine ⟨s', ?_⟩
  rw [sendTimestampResponse, play_onError, played]
  dsimp only [Played.orElse]
  rw [if_pos exception]
  rfl

end SigMesh

end TuyaBleMesh

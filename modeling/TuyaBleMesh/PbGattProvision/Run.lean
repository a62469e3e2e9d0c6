import TuyaBleMesh.PbGattProvision.Agreement

/-!
# The keys that the script saves

`provision` and `run` of `scripts/pb_gatt_provision.py`, and `load_mesh_keys_from_json` of
`scripts/mesh_proxy_cmd.py`, which reads the file that is written at the end: it has the
keys of a device that has been provisioned.
-/

namespace TuyaBleMesh

namespace PbGattProvision

/-! ### The script -/

/-- The dictionary of `OUTPUT_FILE`. -/
structure KeysFile extends ProvisionResult where
  appKey : String
  nid : String
  aid : String
  deriving DecidableEq, Repr

inductive ScriptCall
  /-- `BleakScanner.find_device_by_address`, whether it has found one. -/
  | findDevice
  | connect
  | bearer (call : BearerCall UInt8)
  | stopNotify
  | disconnect
  /-- `existing.get("net_key", "")`, if there is an `OUTPUT_FILE`. -/
  | readNetKey
  /-- `os.urandom(16)`. -/
  | urandom
  | writeKeys (file : KeysFile)

abbrev ScriptCall.Answer : ScriptCall → Type
  | .findDevice => Except PyError Bool
  | .connect => Except PyError Unit
  | .bearer call => Reply call.Value
  | .stopNotify => Except PyError Unit
  | .disconnect => Except PyError Unit
  | .readNetKey => Except PyError (Option String)
  | .urandom => Block
  | .writeKeys _ => Except PyError Unit

abbrev Script := Program ScriptCall.Answer ScriptError

/-- An exception is caught as `Exception`. -/
def ScriptError.isException : ScriptError → Bool
  | .runtimeError _ => true
  | .raised error => error.isException

def sleep (milliseconds : Nat) : Script Unit :=
  .call (.bearer (.act (.sleep milliseconds))) fun reply => .done (reply.result.mapError .raised)

/-- What stands under `try`; whether there is a client. -/
def connectOnce : Script Bool :=
  .call .findDevice fun found => do
    if ← found.mapError ScriptError.raised then
      .call .connect fun connected => do
        connected.mapError ScriptError.raised
        return true
    else
      sleep 3000
      return false

/-- The attempts that are left. -/
def connectLoop : Nat → Script Bool
  | 0 => return false
  | left + 1 => do
    match ← connectOnce.outcome with
    | .ok true => return true
    | .ok false => connectLoop left
    | .error error =>
      if error.isException then
        if left = 0 then .raise (.runtimeError "Failed to connect after 5 attempts")
        sleep 3000
        connectLoop left
      else .raise error

/-- `contextlib.suppress(Exception)`. -/
def suppress (result : Except PyError Unit) : Except ScriptError Unit :=
  match result with
  | .error error => if error.isException then .ok () else .error (.raised error)
  | .ok () => .ok ()

section Run

variable (lib : CipherLibrary) (ecdh : Bytes → Except String Bytes)

/-- `provision`; the random value is the one that the exchange draws. -/
def provision (self : PBGATTProvisioner) (mac : String) (randomProvisioner : Bytes) :
    Script ProvisionResult := do
  if ← connectLoop 5 then
    let result ← ((exchange lib ecdh self mac randomProvisioner).embed ScriptCall.bearer
      fun _ reply => reply).outcome
    .call .stopNotify fun stopped => do
      suppress stopped
      .call .disconnect fun disconnected => do
        suppress disconnected
        .done result
  else
    -- there is no client to subscribe with, nor to disconnect
    .raise (.raised .attributeError)

/-- The arguments of the script, and the key pair that it generates. -/
structure Arguments where
  netKey : Option String := none
  unicast : Nat := 0x00B0
  ivIndex : Nat := 0
  mac : String := "DC:23:4F:10:52:C4"
  publicKeyBytes : Bytes

/-- The network key that is used. -/
def chooseNetKey (netKey : Option String) : Script Bytes :=
  let generate : Script Bytes := .call .urandom fun key => return key.val
  match netKey.filter (· ≠ "") with
  | some text => (fromHex text).mapError ScriptError.raised
  | none => .call .readNetKey fun existing => do
    match ← existing.mapError ScriptError.raised with
    | none => generate
    | some text =>
      let netKey ← (fromHex text).mapError ScriptError.raised
      if netKey = [] then generate else return netKey

def Arguments.provisioner (args : Arguments) (netKey : Bytes) : PBGATTProvisioner where
  netKey
  unicastAddr := args.unicast
  ivIndex := args.ivIndex
  publicKeyBytes := args.publicKeyBytes

/-- `run`. -/
def run (args : Arguments) (randomProvisioner : Bytes) : Script Unit := do
  let netKey ← chooseNetKey args.netKey
  let result ← provision lib ecdh (args.provisioner netKey) args.mac randomProvisioner
  .call .urandom fun appKey => do
    let (nid, _, _) ← (k2 lib.toCipherSuite netKey [0x00]).mapError ScriptError.raised
    let _ ← (k3 lib.toCipherSuite netKey).mapError ScriptError.raised
    let aid ← (k4 lib.toCipherSuite appKey.val).mapError ScriptError.raised
    let file : KeysFile := { result with
      appKey := hexBytes appKey.val
      nid := s!"0x{hexUpper 2 nid}"
      aid := s!"0x{hexUpper 2 aid}" }
    .call (.writeKeys file) fun written => .done (written.mapError .raised)

end Run

/-- `load_mesh_keys_from_json`, for a file that is there. -/
def loadMeshKeysFromJson (lib : CipherLibrary) (file : KeysFile) : Except PyError DerivedKeys :=
  MeshProxyCmd.deriveKeys lib file.netKey file.devKey (some file.appKey) file.ivIndex

/-! ### The exchange in the script -/

section Exchange

variable {lib : CipherLibrary} {ecdh : Bytes → Except String Bytes} {self : PBGATTProvisioner}
  {d : SimulatedDevice} {kind : PyError → Bool}

open Program (Plays plays_trivial)

/-- What is packed has its size. -/
theorem packed_inRange {data : Bytes} (packed : provData self = .ok data) (appKey : Bytes) :
    (self.toProvisioner appKey).InRange := by
  have fits {n v : Nat} {bytes : Bytes} (ok : packBE n v = .ok bytes) : v < 256 ^ n := by
    unfold packBE at ok
    split at ok
    · assumption
    · cases ok
  obtain ⟨_, netKeyIndex, packed⟩ := bind_eq_ok.mp packed
  obtain ⟨_, flags, packed⟩ := bind_eq_ok.mp packed
  obtain ⟨_, ivIndex, packed⟩ := bind_eq_ok.mp packed
  obtain ⟨_, unicastAddr, _⟩ := bind_eq_ok.mp packed
  refine ⟨fits netKeyIndex, ?_, fits ivIndex, fits unicastAddr⟩
  unfold byteOf at flags
  split at flags
  · assumption
  · cases flags

section Unpacked

variable {σ : Type} {answers : σ → (call : BearerCall UInt8) → Reply call.Value → σ → Prop} {s : σ}
  {α γ : Type}

/-- The program does not return. -/
abbrev Raises (answers : σ → (call : BearerCall UInt8) → Reply call.Value → σ → Prop)
    (script : ScriptExchange α) (s : σ) : Prop :=
  script.Plays answers (fun _ => True) (fun _ result => ∀ value, result ≠ .ok value) s

theorem Raises.after {script : ScriptExchange α} {rest : α → ScriptExchange γ}
    (raises : ∀ s value, Raises answers (rest value) s) : Raises answers (script >>= rest) s :=
  Plays.seq (plays_trivial script s) (fun s value _ => raises s value) fun _ _ _ => nofun

theorem exchangeData_raises {error : PyError} (unpacked : provData self = .error error)
    (sharedSecret confSalt randomProvisioner randomDevice : Bytes) :
    Raises answers (exchangeData lib self sharedSecret confSalt randomProvisioner randomDevice) s := by
  refine .after fun s _ => .after fun s _ => .after fun s _ => .after fun s _ => ?_
  rw [unpacked]
  exact nofun

/-- Fields that do not fit are not sent. -/
theorem exchange_raises {error : PyError} (unpacked : provData self = .error error) (mac : String)
    (randomProvisioner : Bytes) : Raises answers (exchange lib ecdh self mac randomProvisioner) s := by
  refine .after fun s _ => .after fun s _ => .after fun s _ => .after fun s _ => .after fun s _ =>
    .after fun s _ => .after fun s _ => .after fun s _ => ?_
  exact Plays.seq (exchangeData_raises unpacked _ _ _ _) (fun _ _ returned => absurd rfl (returned _))
    fun _ _ _ => nofun

end Unpacked

/-- The result is about the device as it has been provisioned. -/
structure Describes (result : ProvisionResult) (node : MeshNode) : Prop where
  unicast : result.unicast = s!"0x{hexUpper 4 node.unicastAddr}"
  ivIndex : result.ivIndex = node.ivIndex
  netKey : result.netKey = hexBytes node.netKey
  devKey : result.devKey = hexBytes node.devKey

/-- What the exchange returns with a network key of 16 bytes. -/
theorem exchange_plays [LawfulCcm lib.toCipherSuite] (devicePubKey : d.pubKeyBytes.length = 64)
    (ourPubKey : self.publicKeyBytes.length = 64)
    (secret : ∃ secret, ecdh d.pubKeyBytes = .ok secret ∧ d.ecdh self.publicKeyBytes = .ok secret)
    (valid : self.netKey.length = 16) (mac : String) (randomProvisioner : Bytes) :
    (exchange lib ecdh self mac randomProvisioner).Plays (LinkSide.Answers lib.toCipherSuite d kind)
      (fun _ => True)
      (fun l result => ∀ value, result = .ok value →
        ∃ node, l.device.phase = .provisioned node ∧ Describes value node ∧
          node.netKey = self.netKey) {} := by
  cases packed : provData self with
  | error error =>
    exact (exchange_raises packed mac randomProvisioner).mono fun l result raises value same =>
      absurd same (raises value)
  | ok data =>
    have compatible : Compatible ecdh (self.toProvisioner []) d :=
      ⟨devicePubKey, ourPubKey, valid, packed_inRange packed [], secret⟩
    obtain ⟨t, of⟩ := transcript_exists lib.toCipherSuite compatible randomProvisioner
    have waiting : ({} : LinkSide).At .invite [] 0 := ⟨rfl, rfl, rfl⟩
    refine Plays.weaken ((exchange_follows lib ecdh self [] mac randomProvisioner).plays
      (runExchange_plays of compatible waiting) ?_ ?_) fun _ _ => trivial
    · rintro l value left ⟨returned, rfl, unicast, -, ivIndex, netKey, devKey⟩ ends value' same
      cases same
      -- the library still waits, and would then return
      obtain ⟨provisioned, rfl⟩ := ends.2 ⟨.ok (), 0⟩ l (.acts l rfl (.ok ()) nofun 0)
      exact ⟨_, provisioned, ⟨unicast, ivIndex, netKey, devKey⟩, rfl⟩
    · exact fun _ _ _ _ => nofun

end Exchange

/-! ### The script with a device -/

/-- The device behind its link, and what the script has saved. -/
structure Station where
  side : LinkSide := {}
  saved : Option KeysFile := none

inductive Station.Answers (suite : CipherSuite) (d : SimulatedDevice) (kind : PyError → Bool) :
    Station → (call : ScriptCall) → call.Answer → Station → Prop
  | findDevice (s : Station) (result : Except PyError Bool) : Answers suite d kind s .findDevice result s
  | connect (s : Station) (result : Except PyError Unit) : Answers suite d kind s .connect result s
  | bearer (s : Station) {call : BearerCall UInt8} {reply : Reply call.Value} {side : LinkSide}
      (answered : s.side.Answers suite d kind call reply side) :
    Answers suite d kind s (.bearer call) reply { s with side }
  | stopNotify (s : Station) (result : Except PyError Unit) : Answers suite d kind s .stopNotify result s
  | disconnect (s : Station) (result : Except PyError Unit) : Answers suite d kind s .disconnect result s
  | readNetKey (s : Station) (result : Except PyError (Option String)) :
    Answers suite d kind s .readNetKey result s
  | urandom (s : Station) (random : Block) : Answers suite d kind s .urandom random s
  | written (s : Station) (file : KeysFile) :
    Answers suite d kind s (.writeKeys file) (.ok ()) { s with saved := some file }
  | unwritten (s : Station) (file : KeysFile) (error : PyError) :
    Answers suite d kind s (.writeKeys file) (.error error) s

section Station

variable {lib : CipherLibrary} {ecdh : Bytes → Except String Bytes} {self : PBGATTProvisioner}
  {d : SimulatedDevice} {kind : PyError → Bool} {s : Station} {α : Type}

open Program (Plays plays_trivial)

/-- Nothing has been saved yet. -/
abbrev PlaysStation (suite : CipherSuite) (d : SimulatedDevice) (kind : PyError → Bool)
    (script : Script α) (post : Station → Except ScriptError α → Prop) (s : Station) : Prop :=
  script.Plays (Station.Answers suite d kind) (fun s => s.saved = none) post s

theorem sleep_plays (unsaved : s.saved = none) (milliseconds : Nat) :
    PlaysStation lib.toCipherSuite d kind (sleep milliseconds) (fun s' _ => s' = s) s := by
  refine ⟨unsaved, fun reply s' answered => ?_⟩
  cases answered with
  | bearer answered =>
    cases answered with
    | acts => rfl

/-- Connecting gives the device nothing. -/
theorem connectOnce_plays (unsaved : s.saved = none) :
    PlaysStation lib.toCipherSuite d kind connectOnce (fun s' _ => s' = s) s := by
  refine ⟨unsaved, fun found s' answered => ?_⟩
  cases answered
  cases found with
  | error error => rfl
  | ok found =>
    cases found with
    | false =>
      refine (sleep_plays unsaved 3000).seq ?_ ?_
      · exact fun _ _ same => same
      · exact fun _ _ same => same
    | true =>
      refine ⟨unsaved, fun connected s' answered => ?_⟩
      cases answered
      cases connected with
      | error error => rfl
      | ok value => rfl

theorem connectLoop_plays (unsaved : s.saved = none) (left : Nat) :
    PlaysStation lib.toCipherSuite d kind (connectLoop left) (fun s' _ => s' = s) s := by
  induction left with
  | zero => rfl
  | succ left ih =>
    refine Plays.handled ((connectOnce_plays unsaved).mono ?_)
    rintro _ outcome rfl
    cases outcome with
    | ok connected =>
      cases connected with
      | true => rfl
      | false => exact ih
    | error error =>
      dsimp only
      split
      · split
        · rfl
        · refine (sleep_plays unsaved 3000).seq ?_ fun _ _ same => same
          rintro _ _ rfl
          exact ih
      · rfl

/-- The device answers the exchange as it does without the rest. -/
theorem embed_plays {script : ScriptExchange α} {post : LinkSide → Except ScriptError α → Prop}
    (unsaved : s.saved = none)
    (plays : script.Plays (LinkSide.Answers lib.toCipherSuite d kind) (fun _ => True) post s.side) :
    (script.embed ScriptCall.bearer fun _ reply => reply).Plays
      (Station.Answers lib.toCipherSuite d kind) (fun s => s.saved = none)
      (fun s result => s.saved = none ∧ post s.side result) s := by
  have matched (s : Station) (call : BearerCall UInt8) (reply : Reply call.Value) (s' : Station)
      (unsaved : s.saved = none)
      (answered : Station.Answers lib.toCipherSuite d kind s (.bearer call) reply s') :
      s'.saved = none ∧ s.side.Answers lib.toCipherSuite d kind call reply s'.side := by
    cases answered with
    | bearer answered => exact ⟨unsaved, answered⟩
  have embedded : (script.embed ScriptCall.bearer fun _ reply => reply).Plays
      (Station.Answers lib.toCipherSuite d kind) (fun s => s.saved = none ∧ True)
      (fun s result => s.saved = none ∧ post s.side result) s :=
    Plays.embed Station.side (fun s => s.saved = none) matched unsaved plays
  exact Plays.weaken embedded fun _ kept => kept.1

/-- What is known of the exchange is known of the whole. -/
theorem provision_plays {mac : String} {randomProvisioner : Bytes}
    {P : LinkSide → ProvisionResult → Prop}
    (plays : (exchange lib ecdh self mac randomProvisioner).Plays
      (LinkSide.Answers lib.toCipherSuite d kind) (fun _ => True)
      (fun l result => ∀ value, result = .ok value → P l value) {}) :
    PlaysStation lib.toCipherSuite d kind (provision lib ecdh self mac randomProvisioner)
      (fun s result => s.saved = none ∧ ∀ value, result = .ok value → P s.side value) {} := by
  refine (connectLoop_plays rfl 5).seq ?_ ?_
  · rintro _ connected rfl
    cases connected with
    | false => exact ⟨rfl, nofun⟩
    | true =>
      refine Plays.handled ((embed_plays rfl plays).mono ?_)
      rintro s result ⟨unsaved, known⟩
      -- neither of the calls in `finally` is answered by the device
      refine ⟨unsaved, fun stopped s' answered => ?_⟩
      cases answered
      dsimp only
      generalize suppress stopped = kept
      cases kept with
      | error error => exact ⟨unsaved, nofun⟩
      | ok _ =>
        refine ⟨unsaved, fun disconnected s' answered => ?_⟩
        cases answered
        dsimp only
        generalize suppress disconnected = kept
        cases kept with
        | error error => exact ⟨unsaved, nofun⟩
        | ok _ => exact ⟨unsaved, known⟩
  · rintro _ error rfl
    exact ⟨rfl, nofun⟩

/-- Choosing the network key gives the device nothing. -/
theorem chooseNetKey_plays (unsaved : s.saved = none) (netKey : Option String) :
    PlaysStation lib.toCipherSuite d kind (chooseNetKey netKey) (fun s' _ => s' = s) s := by
  have generate : PlaysStation lib.toCipherSuite d kind
      (.call .urandom fun key => return key.val) (fun s' _ => s' = s) s := by
    refine ⟨unsaved, fun key s' answered => ?_⟩
    cases answered
    rfl
  unfold chooseNetKey
  split
  · rfl
  · refine ⟨unsaved, fun existing s' answered => ?_⟩
    cases answered
    cases existing with
    | error error => rfl
    | ok existing =>
      cases existing with
      | none => exact generate
      | some text =>
        change Plays _ _ ((liftM ((fromHex text).mapError ScriptError.raised) : Script Bytes) >>= _) _ _
        cases fromHex text with
        | error error => rfl
        | ok netKey =>
          change Plays _ _ (ite (netKey = []) _ _) _ _
          split
          · exact generate
          · rfl

/-! ### The file -/

/-- The keys that are loaded are those of the device. -/
structure KeysOf (lib : CipherLibrary) (file : KeysFile) (node : MeshNode) (keys : DerivedKeys) :
    Prop where
  loaded : loadMeshKeysFromJson lib file = .ok keys
  netKey : keys.netKey = node.netKey
  devKey : keys.devKey = node.devKey
  ivIndex : keys.ivIndex = node.ivIndex
  unicast : file.unicast = s!"0x{hexUpper 4 node.unicastAddr}"
  nid : file.nid = s!"0x{hexUpper 2 keys.nid}"
  aid : file.aid = s!"0x{hexUpper 2 keys.aid}"
  lengths : keys.checkLengths = .ok ()

theorem fromHex_hexBytes (bytes : Bytes) : fromHex (hexBytes bytes) = .ok bytes := by
  rw [fromHex, bytesFromHex_hexBytes]

/-- The text of an application key is not empty. -/
theorem appKeyFromHex_hexBytes (appKey : Block) :
    appKeyFromHex (some (hexBytes appKey.val)) = .ok (some appKey.val) := by
  have text : hexBytes appKey.val ≠ "" := by
    intro empty
    have none : fromHex "" = .ok appKey.val := empty ▸ fromHex_hexBytes appKey.val
    have nothing : ([] : Bytes) = appKey.val := Except.ok.inj none
    exact absurd (nothing ▸ appKey.property) (by decide)
  rw [appKeyFromHex, if_neg text, fromHex_hexBytes]
  rfl

/-- What `run` saves, is loaded again. -/
theorem saved_keysOf (lib : CipherLibrary) {netKey : Bytes} (valid : netKey.length = 16) {result : ProvisionResult}
    {node : MeshNode} (describes : Describes result node) (sent : node.netKey = netKey)
    (appKey : Block) :
    ∃ nid encKey privKey networkId aid,
      k2 lib.toCipherSuite netKey [0x00] = .ok (nid, encKey, privKey) ∧
      k3 lib.toCipherSuite netKey = .ok networkId ∧
      k4 lib.toCipherSuite appKey.val = .ok aid ∧
      ∃ keys, KeysOf lib { result with
        appKey := hexBytes appKey.val
        nid := s!"0x{hexUpper 2 nid}"
        aid := s!"0x{hexUpper 2 aid}" } node keys := by
  subst sent
  obtain ⟨nid, encKey, privKey, k2_s, k2_l, -⟩ := MeshProxyCmd.k2_agree lib node.netKey [0x00]
  obtain ⟨networkId, k3_s, k3_l⟩ := MeshProxyCmd.k3_agree lib node.netKey
  obtain ⟨aid, k4_s, k4_l⟩ := MeshProxyCmd.k4_agree lib appKey.val
  have some : appKey.val ≠ [] := by
    intro empty
    exact absurd (empty ▸ appKey.property) (by decide)
  rw [validateKey_ok valid] at k2_l k3_l
  rw [validateKey_ok appKey.property] at k4_l
  refine ⟨nid, encKey, privKey, networkId, aid, k2_l, k3_l, k4_l,
    ⟨node.netKey, node.devKey, .some appKey.val, node.ivIndex, nid, encKey, privKey, networkId, aid⟩,
    ?_, rfl, rfl, rfl, describes.unicast, rfl, rfl, ?_⟩
  · simp only [loadMeshKeysFromJson, MeshProxyCmd.deriveKeys, describes.netKey, describes.devKey,
      describes.ivIndex, fromHex_hexBytes, appKeyFromHex_hexBytes, k2_s, k3_s, appKeyAid, if_neg some,
      k4_s, bind, Except.bind, pure, Except.pure]
  · simp only [DerivedKeys.checkLengths, validateKey_ok valid, checkAppKey, if_neg some,
      validateKey_ok appKey.property, bind, Except.bind]

/-- What has been saved when the script has ended. -/
def SavedKeys (lib : CipherLibrary) (s : Station) : Prop :=
  ∀ file, s.saved = some file →
    ∃ node keys, s.side.device.phase = .provisioned node ∧ KeysOf lib file node keys

theorem SavedKeys.of_none (unsaved : s.saved = none) : SavedKeys lib s := by
  intro file saved
  rw [unsaved] at saved
  cases saved

theorem run_plays [LawfulCcm lib.toCipherSuite] {args : Arguments}
    (devicePubKey : d.pubKeyBytes.length = 64) (ourPubKey : args.publicKeyBytes.length = 64)
    (secret : ∃ secret, ecdh d.pubKeyBytes = .ok secret ∧ d.ecdh args.publicKeyBytes = .ok secret)
    (randomProvisioner : Bytes) :
    PlaysStation lib.toCipherSuite d kind (run lib ecdh args randomProvisioner)
      (fun s _ => SavedKeys lib s) {} := by
  refine (chooseNetKey_plays rfl args.netKey).seq ?_ ?_
  · rintro _ netKey rfl
    by_cases valid : netKey.length = _AES_BLOCK_SIZE
    · have plays : (exchange lib ecdh (args.provisioner netKey) args.mac randomProvisioner).Plays
          (LinkSide.Answers lib.toCipherSuite d kind) (fun _ => True) _ {} :=
        exchange_plays devicePubKey ourPubKey secret valid args.mac randomProvisioner
      refine (provision_plays plays).seq ?_ fun s _ ended => .of_none ended.1
      rintro s result ⟨unsaved, known⟩
      obtain ⟨node, provisioned, describes, sent⟩ := known result rfl
      refine ⟨unsaved, fun appKey s' answered => ?_⟩
      cases answered
      obtain ⟨nid, encKey, privKey, networkId, aid, k2_ok, k3_ok, k4_ok, keys, of⟩ :=
        saved_keysOf lib valid describes sent appKey
      simp only [k2_ok, k3_ok, k4_ok]
      refine ⟨unsaved, fun written s' answered => ?_⟩
      cases answered with
      | written => exact fun file saved => ⟨node, keys, provisioned, Option.some.inj saved ▸ of⟩
      | unwritten => exact .of_none unsaved
    · -- the exchange may go well, but the library takes no such key
      have plays : (exchange lib ecdh (args.provisioner netKey) args.mac randomProvisioner).Plays
          (LinkSide.Answers lib.toCipherSuite d kind) (fun _ => True) (fun _ _ => True) {} :=
        plays_trivial _ _
      refine (provision_plays (P := fun _ _ => True) (plays.mono fun _ _ _ _ _ => trivial)).seq ?_
        fun s _ ended => .of_none ended.1
      rintro s result ⟨unsaved, -⟩
      refine ⟨unsaved, fun appKey s' answered => ?_⟩
      cases answered
      obtain ⟨nid, encKey, privKey, -, k2_l, -⟩ := MeshProxyCmd.k2_agree lib netKey [0x00]
      rw [validateKey, dif_neg valid] at k2_l
      simp only [k2_l, bind, Except.bind]
      exact .of_none unsaved
  · rintro _ error rfl
    exact .of_none rfl

end Station

section Saved

variable (lib : CipherLibrary) [LawfulCcm lib.toCipherSuite] (ecdh : Bytes → Except String Bytes)

open Program (Plays Reaches)

/-- For every cipher whose CCM decrypts what it has encrypted, and whatever the link loses or
raises: when the script has saved a file, the device has been provisioned, and
`mesh_proxy_cmd.py` loads the keys that the device has, with the NID and AID of the file. -/
theorem saved_keys_loaded {args : Arguments} {d : SimulatedDevice} {kind : PyError → Bool}
    (devicePubKey : d.pubKeyBytes.length = 64) (ourPubKey : args.publicKeyBytes.length = 64)
    (secret : ∃ secret, ecdh d.pubKeyBytes = .ok secret ∧ d.ecdh args.publicKeyBytes = .ok secret)
    {randomProvisioner : Bytes} {s : Station} {left : Script Unit}
    (reached : Reaches (Station.Answers lib.toCipherSuite d kind) {}
      (run lib ecdh args randomProvisioner) s left) {file : KeysFile}
    (saved : s.saved = some file) :
    ∃ node keys, s.side.device.phase = .provisioned node ∧ KeysOf lib file node keys := by
  have whole : PlaysStation lib.toCipherSuite d kind (run lib ecdh args randomProvisioner)
      (fun s _ => SavedKeys lib s) {} := run_plays devicePubKey ourPubKey secret randomProvisioner
  have plays := Plays.reaches whole reached
  cases left with
  | call op next =>
    -- the file is written last
    rw [plays.waits] at saved
    cases saved
  | done result =>
    have ended : SavedKeys lib s := plays
    exact ended file saved

end Saved

/-- A link that loses nothing, and a random value that is always the same. -/
def cooperate (suite : CipherSuite) (d : SimulatedDevice) (s : Station) :
    (call : ScriptCall) → call.Answer × Station
  | .findDevice => (.ok true, s)
  | .connect => (.ok (), s)
  | .bearer call =>
    let (reply, side) := s.side.cooperate suite d call
    (reply, { s with side })
  | .stopNotify => (.ok (), s)
  | .disconnect => (.ok (), s)
  | .readNetKey => (.ok none, s)
  | .urandom => (⟨List.replicate 16 0x5A, rfl⟩, s)
  | .writeKeys file => (.ok (), { s with saved := some file })

def sampleArguments : Arguments where
  publicKeyBytes := List.replicate 64 0x05

theorem cooperate_answers (suite : CipherSuite) (d : SimulatedDevice) (kind : PyError → Bool)
    (s : Station) (call : ScriptCall) : Station.Answers suite d kind s call
      (cooperate suite d s call).1 (cooperate suite d s call).2 := by
  cases call with
  | findDevice => exact .findDevice s _
  | connect => exact .connect s _
  | bearer call => exact .bearer s (s.side.cooperate_answers suite d kind call)
  | stopNotify => exact .stopNotify s _
  | disconnect => exact .disconnect s _
  | readNetKey => exact .readNetKey s _
  | urandom => exact .urandom s _
  | writeKeys file => exact .written s file

theorem saved_keys_loaded_sample : ∃ (s : Station) (file : KeysFile) (node : MeshNode)
    (keys : DerivedKeys), s.saved = some file ∧
    s.side.device.phase = .provisioned node ∧ KeysOf MeshProxyCmd.sampleLibrary file node keys := by
  have reached := Program.serve_reaches
    (cooperate_answers nonceTagSuite sampleUnit fun _ => true) 40 {}
    (run MeshProxyCmd.sampleLibrary sampleEcdh sampleArguments sampleRandom)
  have saved : (Program.serve (cooperate nonceTagSuite sampleUnit) 40 {}
      (run MeshProxyCmd.sampleLibrary sampleEcdh sampleArguments sampleRandom)).1.saved.isSome = true := by
    decide +kernel
  obtain ⟨file, saved⟩ := Option.isSome_iff_exists.mp saved
  have devicePubKey : sampleUnit.pubKeyBytes.length = 64 := List.length_replicate
  have ourPubKey : sampleArguments.publicKeyBytes.length = 64 := List.length_replicate
  obtain ⟨node, keys, known⟩ := saved_keys_loaded MeshProxyCmd.sampleLibrary sampleEcdh devicePubKey
    ourPubKey ⟨_, rfl, rfl⟩ reached saved
  exact ⟨_, file, node, keys, saved, known⟩

end PbGattProvision

end TuyaBleMesh

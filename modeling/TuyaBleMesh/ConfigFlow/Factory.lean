import Mathlib.Logic.Function.Basic
import TuyaBleMesh.ConfigFlow.Validators
import TuyaBleMesh.MeshProxyCmd.Keys

/-!
# From a config entry to its device

`create_device` of `device_factory.py` with the constructors of the devices, and the keys that a
SIG device loads from its entry.
-/

namespace TuyaBleMesh.ConfigFlow

/-- The keys of an entry's data, of a form or of an import. -/
inductive ConfKey
  | adapter
  | appKey
  | bindModels
  | bridgeHost
  | bridgePort
  | brightnessModelId
  | devKey
  | deviceType
  | initialSequence
  | ivIndex
  | levelUnicastTarget
  | macAddress
  | meshAddress
  | meshName
  | meshPassword
  | netKey
  | unicastOur
  | unicastTarget
  | vendorId
  deriving DecidableEq

namespace ConfKey

def all : List ConfKey :=
  [.adapter, .appKey, .bindModels, .bridgeHost, .bridgePort, .brightnessModelId, .devKey,
    .deviceType, .initialSequence, .ivIndex, .levelUnicastTarget, .macAddress, .meshAddress,
    .meshName, .meshPassword, .netKey, .unicastOur, .unicastTarget, .vendorId]

theorem mem_all (key : ConfKey) : key ∈ all := by
  cases key <;> decide

end ConfKey

/-- A dictionary over these keys. -/
abbrev ConfData := ConfKey → Option ConfValue

namespace ConfData

/-- `{**data, **input}`. -/
def update (data input : ConfData) : ConfData := fun key => (input key).or (data key)

/-- `data.pop(key, None)`. -/
def pop (data : ConfData) (key : ConfKey) : ConfData := Function.update data key none

/-- `data.get(key, default)`. -/
def get (data : ConfData) (key : ConfKey) (default : ConfValue) : ConfValue :=
  (data key).getD default

end ConfData

def DEVICE_TYPE_LIGHT : String := "light"
def DEVICE_TYPE_PLUG : String := "plug"
def DEVICE_TYPE_SIG_PLUG : String := "sig_plug"
def DEVICE_TYPE_SIG_LIGHT : String := "sig_light"
def DEVICE_TYPE_SIG_BRIDGE_PLUG : String := "sig_bridge_plug"
def DEVICE_TYPE_TELINK_BRIDGE_LIGHT : String := "telink_bridge_light"

def DEFAULT_VENDOR_ID : String := "0x1001"
def DEFAULT_MESH_ADDRESS : Int := 0
def DEFAULT_IV_INDEX : Int := 0
def DEFAULT_BRIDGE_PORT : Int := 8099

inductive SetupError
  | keyError (key : ConfKey)
  | raised (error : PyError)
  deriving DecidableEq

/-- What a `SIGMeshDevice` is made with, and `set_seq` after it. -/
structure SigDeviceSetup where
  address : String
  targetAddr : Int
  ourAddr : Int
  secrets : List (String × ConfValue)
  opItemPrefix : String
  ivIndex : ConfValue
  levelTargetAddr : Int
  brightnessModelId : Int
  seq : Int

inductive AnyMeshDevice
  | meshDevice (address : String) (meshName meshPassword : String) (meshId : ConfValue)
      (vendorId macBytes : Bytes)
  | sigMeshDevice (setup : SigDeviceSetup)
  | sigMeshBridgeDevice (address : String) (targetAddr : Int) (bridgeHost : String)
      (bridgePort : ConfValue)
  | telinkBridgeDevice (address : String) (bridgeHost : String) (bridgePort : ConfValue)

/-- `f"{value:0{width}X}"`. -/
def hexUpperInt (width : Nat) : Int → String
  | .ofNat value => hexUpper width value
  | .negSucc value => "-" ++ hexUpper (width - 1) (value + 1)

/-- `f"{value:0{width}x}"`. -/
def hexLowerInt (width : Nat) (value : Int) : String := (hexUpperInt width value).toLower

section Factory

variable (tables : TextTables)

/-- `data[key]`. -/
def item (data : ConfData) (key : ConfKey) : Except SetupError ConfValue :=
  match data key with
  | some value => .ok value
  | none => .error (.keyError key)

/-- `int(value, 16)`. -/
def intOfHex : ConfValue → Except SetupError Int
  | .str text =>
    match tables.readInt 16 text.toList with
    | some value => .ok value
    | none => .error (.raised .valueError)
  | _ => .error (.raised .typeError)

/-- `int(value)`. -/
def intOf : ConfValue → Except SetupError Int
  | .str text =>
    match tables.readInt 10 text.toList with
    | some value => .ok value
    | none => .error (.raised .valueError)
  | .int value => .ok value
  | .bool value => .ok value.toInt
  | .other _ (some value) _ => .ok value
  | .other _ none _ => .error (.raised .typeError)

/-- `value.encode()`. -/
def encodable : ConfValue → Except SetupError String
  | .str text => .ok text
  | _ => .error (.raised .attributeError)

/-- `value.to_bytes(2, "little")`. -/
def toTwoBytes (value : Int) : Except SetupError Bytes :=
  if 0 ≤ value ∧ value < 0x10000 then
    .ok [UInt8.ofNat (value.toNat % 256), UInt8.ofNat (value.toNat / 256)]
  else .error (.raised .overflowError)

/-- The check of the host that both bridge devices make. -/
def bridgeHostText : ConfValue → Except SetupError String
  | .str host =>
    if '\r' ∈ host.toList ∨ '\n' ∈ host.toList then
      .error (.raised (.invalidRequestError "Invalid bridge_host: contains CRLF characters"))
    else .ok host
  | _ => .error (.raised .typeError)

def createSigBridgePlug (macAddress : String) (data : ConfData) :
    Except SetupError AnyMeshDevice := do
  let targetAddr ← intOfHex tables (data.get .unicastTarget (.str "00B0"))
  let bridgeHost ← item data .bridgeHost
  let bridgePort := data.get .bridgePort (.int DEFAULT_BRIDGE_PORT)
  let host ← bridgeHostText bridgeHost
  return .sigMeshBridgeDevice (upper tables macAddress) targetAddr host bridgePort

def createTelinkBridgeLight (macAddress : String) (data : ConfData) :
    Except SetupError AnyMeshDevice := do
  let bridgeHost ← item data .bridgeHost
  let bridgePort := data.get .bridgePort (.int DEFAULT_BRIDGE_PORT)
  let host ← bridgeHostText bridgeHost
  return .telinkBridgeDevice (upper tables macAddress) host bridgePort

/-- The keys without which there is no SIG device, by their names in the message. -/
def requiredKeys : List (ConfKey × String) :=
  [(.netKey, "net_key"), (.devKey, "dev_key"), (.appKey, "app_key")]

def missingKeys (data : ConfData) : List String :=
  (requiredKeys.filter fun key => !(data.get key.1 (.str "")).truthy).map Prod.snd

def createSigPlug (macAddress : String) (data : ConfData) : Except SetupError SigDeviceSetup :=
  if missingKeys data ≠ [] then
    .error (.raised (.valueErrorText
      (s!"SIG Mesh device {macAddress} config entry is missing required keys: " ++
        ", ".intercalate (missingKeys data) ++ ". Device must be provisioned first.")))
  else do
    let targetAddr ← intOfHex tables (data.get .unicastTarget (.str "00B0"))
    let levelTargetAddr ←
      intOfHex tables (data.get .levelUnicastTarget (.str (hexUpperInt 4 targetAddr)))
    let brightnessModelId ← intOf tables (data.get .brightnessModelId (.int 0x1002))
    let ourAddr ← intOfHex tables (data.get .unicastOur (.str "0001"))
    let ivIndex := data.get .ivIndex (.int DEFAULT_IV_INDEX)
    let opPrefix := "cfg"
    let secrets := [(opPrefix ++ "-net-key/password", data.get .netKey (.str "")),
      (opPrefix ++ "-dev-key-" ++ hexLowerInt 4 targetAddr ++ "/password",
        data.get .devKey (.str "")),
      (opPrefix ++ "-app-key/password", data.get .appKey (.str ""))]
    let seq ← intOf tables (data.get .initialSequence (.int 0))
    return { address := upper tables macAddress, targetAddr, ourAddr, secrets,
             opItemPrefix := opPrefix, ivIndex, levelTargetAddr, brightnessModelId, seq }

def createDefaultMeshDevice (macAddress : String) (data : ConfData) :
    Except SetupError AnyMeshDevice := do
  let meshName ← item data .meshName
  let meshPassword ← item data .meshPassword
  let vendorIdInt ← intOfHex tables (data.get .vendorId (.str DEFAULT_VENDOR_ID))
  let vendorId ← toTwoBytes vendorIdInt
  let meshAddr := data.get .meshAddress (.int DEFAULT_MESH_ADDRESS)
  let name ← encodable meshName
  let password ← encodable meshPassword
  let macBytes ←
    match macToBytes tables macAddress with
    | .ok bytes => .ok bytes
    | .error error => .error (.raised error)
  return .meshDevice (upper tables macAddress) name password meshAddr vendorId macBytes

def createDevice (deviceType macAddress : String) (data : ConfData) :
    Except SetupError AnyMeshDevice :=
  if deviceType = DEVICE_TYPE_SIG_PLUG ∨ deviceType = DEVICE_TYPE_SIG_LIGHT then
    .sigMeshDevice <$> createSigPlug tables macAddress data
  else if deviceType = DEVICE_TYPE_SIG_BRIDGE_PLUG then createSigBridgePlug tables macAddress data
  else if deviceType = DEVICE_TYPE_TELINK_BRIDGE_LIGHT then
    createTelinkBridgeLight tables macAddress data
  else createDefaultMeshDevice tables macAddress data

/-- `async_setup_entry` up to the device. -/
def setupDevice (data : ConfData) : Except SetupError AnyMeshDevice := do
  let macAddress ← item data .macAddress
  createDevice tables (data.get .deviceType (.str "")).toText macAddress.toText data

/-- `DictSecretsManager.get`. -/
def secret (secrets : List (String × ConfValue)) (name field : String) : Except PyError ConfValue :=
  let key := name ++ "/" ++ field
  match secrets.lookup key with
  | some value => .ok value
  | none => .error (.secretAccessError s!"Key '{key}' not found in config entry secrets")

/-- What `bytes.fromhex` takes. -/
def hexText : ConfValue → Except PyError String
  | .str text => .ok text
  | _ => .error .typeError

/-- `_load_keys`, with an IV index that is a number. -/
def loadKeys (suite : CipherSuite) (setup : SigDeviceSetup) (ivIndex : Nat) :
    Except PyError DerivedKeys :=
  let read : Except PyError (ConfValue × ConfValue × ConfValue) := do
    let netKeyHex ← secret setup.secrets (setup.opItemPrefix ++ "-net-key") "password"
    let devKeyHex ← secret setup.secrets
      (setup.opItemPrefix ++ "-dev-key-" ++ hexLowerInt 4 setup.targetAddr) "password"
    let appKeyHex ← secret setup.secrets (setup.opItemPrefix ++ "-app-key") "password"
    return (netKeyHex, devKeyHex, appKeyHex)
  match read with
  | .error _ =>
    .error (.sigMeshKeyError s!"Failed to load SIG Mesh keys for prefix '{setup.opItemPrefix}'")
  | .ok (netKeyHex, devKeyHex, appKeyHex) => do
    let netKey ← hexText netKeyHex
    let devKey ← hexText devKeyHex
    let appKey ← hexText appKeyHex
    deriveKeys suite netKey devKey (some appKey) ivIndex

end Factory

/-! ### Entries that give a device -/

section Sound

variable {tables : TextTables}

open TextTables

/-- A key of 32 digits. -/
def IsKey (value : Option ConfValue) : Prop :=
  ∃ text, value = some (.str text) ∧ text.toList.length = 32 ∧
    ∀ c ∈ text.toList, isHexDigit c = true

def IsUnicast (tables : TextTables) (value : Option ConfValue) : Prop :=
  ∃ text, value = some (.str text) ∧ ∃ address : Nat, 1 ≤ address ∧ address ≤ 0x7FFF ∧
    tables.readInt 16 text.toList = some (address : Int)

def IsIvIndex (value : Option ConfValue) : Prop :=
  ∃ ivIndex : Nat, ivIndex ≤ 0xFFFFFFFF ∧ value = some (.int ivIndex)

/-- The entry of a SIG device. -/
structure SigSound (tables : TextTables) (data : ConfData) : Prop where
  netKey : IsKey (data .netKey)
  devKey : IsKey (data .devKey)
  appKey : IsKey (data .appKey)
  unicastTarget : IsUnicast tables (data .unicastTarget)
  unicastOur : IsUnicast tables (data .unicastOur)
  ivIndex : IsIvIndex (data .ivIndex)
  level : ∀ value ∈ data .levelUnicastTarget, ∃ address, intOfHex tables value = .ok address
  brightness : ∀ value ∈ data .brightnessModelId, ∃ model, intOf tables value = .ok model
  sequence : ∀ value ∈ data .initialSequence, ∃ seq, intOf tables value = .ok seq

/-- The entry of a device that is reached directly. -/
structure DirectSound (tables : TextTables) (data : ConfData) : Prop where
  mac : ∃ mac, data .macAddress = some (.str mac) ∧
    ∃ bytes, macToBytes tables mac = .ok bytes ∧ bytes.length = 6
  meshName : ∃ name, data .meshName = some (.str name)
  meshPassword : ∃ password, data .meshPassword = some (.str password)
  vendorId : ∃ text, data .vendorId = some (.str text) ∧ ∃ vendorId : Nat, vendorId < 0x10000 ∧
    tables.readInt 16 text.toList = some (vendorId : Int)

/-- A host without control characters. -/
def IsHost (value : Option ConfValue) : Prop :=
  ∃ host, value = some (.str host) ∧ Typed host.toList

/-- The addresses of a SIG device are unicast addresses, its IV index fits in 32 bits and its keys
can be loaded. -/
structure SigDeviceSetup.Usable (setup : SigDeviceSetup) : Prop where
  target : 1 ≤ setup.targetAddr ∧ setup.targetAddr ≤ 0x7FFF
  our : 1 ≤ setup.ourAddr ∧ setup.ourAddr ≤ 0x7FFF
  keys : ∃ ivIndex : Nat, ivIndex ≤ 0xFFFFFFFF ∧ setup.ivIndex = .int ivIndex ∧
    ∀ suite, ∃ keys, loadKeys suite setup ivIndex = .ok keys ∧ keys.netKey.length = 16 ∧
      keys.devKey.length = 16 ∧ ∃ appKey, keys.appKey = some appKey ∧ appKey.length = 16

theorem IsKey.fromHex {text : String} (length : text.toList.length = 32)
    (hex : ∀ c ∈ text.toList, isHexDigit c = true) :
    ∃ bytes, fromHex text = .ok bytes ∧ bytes.length = 16 := by
  obtain ⟨bytes, read, count⟩ := bytesFromHex_word (n := 16) length hex
  exact ⟨bytes, by rw [TuyaBleMesh.fromHex, read], count⟩

theorem IsKey.ne_empty {text : String} (length : text.toList.length = 32) : text ≠ "" := by
  rintro rfl
  cases length

/-- A suite with some answer for keys that are too long. -/
private def anyLibrary (suite : CipherSuite) : CipherLibrary where
  toCipherSuite := suite
  aesLong _ plaintext := plaintext
  ccmEncryptLong _ _ _ plaintext := plaintext
  ccmDecryptLong _ _ _ data := some data

/-- Keys of 16 bytes have all that is derived from them. -/
theorem deriveKeys_ok (suite : CipherSuite) {netKeyHex devKeyHex appKeyHex : String}
    {netKey devKey appKey : Bytes} (net : fromHex netKeyHex = .ok netKey)
    (dev : fromHex devKeyHex = .ok devKey) (app : fromHex appKeyHex = .ok appKey)
    (netLength : netKey.length = 16) (appLength : appKey.length = 16) (some : appKeyHex ≠ "")
    (ivIndex : Nat) : ∃ keys,
    deriveKeys suite netKeyHex devKeyHex (.some appKeyHex) ivIndex = .ok keys ∧
      keys.netKey = netKey ∧ keys.devKey = devKey ∧ keys.appKey = .some appKey := by
  obtain ⟨nid, encKey, privKey, -, second, -⟩ :=
    MeshProxyCmd.k2_agree (anyLibrary suite) netKey [0x00]
  obtain ⟨networkId, -, third⟩ := MeshProxyCmd.k3_agree (anyLibrary suite) netKey
  obtain ⟨aid, -, fourth⟩ := MeshProxyCmd.k4_agree (anyLibrary suite) appKey
  rw [validateKey_ok netLength] at second third
  rw [validateKey_ok appLength] at fourth
  have filled : appKey ≠ [] := by
    rintro rfl
    cases appLength
  have derived : appKeyAid (k4 suite) (.some appKey) = .ok aid := by
    rw [appKeyAid, if_neg filled]
    exact fourth
  have appText : appKeyFromHex (.some appKeyHex) = .ok (.some appKey) := by
    rw [appKeyFromHex, if_neg some, app]
    rfl
  refine ⟨{ netKey, devKey, appKey := .some appKey, ivIndex, nid, encKey, privKey, networkId, aid },
    ?_, rfl, rfl, rfl⟩
  have second' : k2 suite netKey [0x00] = .ok (nid, encKey, privKey) := second
  have third' : k3 suite netKey = .ok networkId := third
  simp only [deriveKeys, net, dev, appText, second', third', derived, bind, Except.bind, pure,
    Except.pure]

/-- The name of the device key is not that of another key. -/
theorem devKeyName_ne (opPrefix hex : String) :
    opPrefix ++ "-dev-key-" ++ hex ++ "/password" ≠ opPrefix ++ "-net-key/password" ∧
      opPrefix ++ "-app-key/password" ≠ opPrefix ++ "-dev-key-" ++ hex ++ "/password" := by
  have name : "-dev-key-".toList = ['-', 'd', 'e', 'v', '-', 'k', 'e', 'y', '-'] := by decide
  have differs {other : String} (second : other.toList[1]? ≠ some 'd') :
      opPrefix ++ "-dev-key-" ++ hex ++ "/password" ≠ opPrefix ++ other := by
    intro same
    have chars := congrArg String.toList same
    simp only [String.toList_append, List.append_assoc, name] at chars
    have rest := List.append_cancel_left chars
    refine second ?_
    rw [← rest]
    rfl
  have net : "-net-key/password".toList[1]? ≠ some 'd' := by decide
  have app : "-app-key/password".toList[1]? ≠ some 'd' := by decide
  exact ⟨differs net, (differs app).symm⟩

/-- A secret is stored under the name with which it is asked for. -/
theorem secret_eq {secrets : List (String × ConfValue)} {name key : String} {value : ConfValue}
    (named : name ++ "/" ++ "password" = key) (found : secrets.lookup key = some value) :
    secret secrets name "password" = .ok value := by
  subst named
  rw [secret, found]

theorem loadKeys_eq (suite : CipherSuite) {setup : SigDeviceSetup} {netKey devKey appKey : String}
    (secrets : setup.secrets = [(setup.opItemPrefix ++ "-net-key/password", .str netKey),
      (setup.opItemPrefix ++ "-dev-key-" ++ hexLowerInt 4 setup.targetAddr ++ "/password",
        .str devKey), (setup.opItemPrefix ++ "-app-key/password", .str appKey)]) (ivIndex : Nat) :
    loadKeys suite setup ivIndex = deriveKeys suite netKey devKey (some appKey) ivIndex := by
  obtain ⟨devNet, appDev⟩ := devKeyName_ne setup.opItemPrefix (hexLowerInt 4 setup.targetAddr)
  have appNet : setup.opItemPrefix ++ "-app-key/password" ≠
      setup.opItemPrefix ++ "-net-key/password" := by
    intro same
    have chars := congrArg String.toList same
    simp only [String.toList_append] at chars
    have rest := List.append_cancel_left chars
    exact absurd rest (by decide)
  have joined (text : String) (whole : String) (same : text ++ ("/" ++ "password") = whole) :
      setup.opItemPrefix ++ text ++ "/" ++ "password" = setup.opItemPrefix ++ whole := by
    rw [String.append_assoc, String.append_assoc, same]
  have net := secret_eq (joined "-net-key" "-net-key/password" (by decide))
    (show setup.secrets.lookup _ = _ by rw [secrets, List.lookup_cons_self])
  have app := secret_eq (joined "-app-key" "-app-key/password" (by decide))
    (show setup.secrets.lookup _ = some (.str appKey) by
      rw [secrets]
      simp only [List.lookup_cons, beq_eq_false_iff_ne.mpr appNet, beq_eq_false_iff_ne.mpr appDev,
        beq_self_eq_true])
  have dev := secret_eq
    (show setup.opItemPrefix ++ "-dev-key-" ++ hexLowerInt 4 setup.targetAddr ++ "/" ++ "password" =
      setup.opItemPrefix ++ "-dev-key-" ++ hexLowerInt 4 setup.targetAddr ++ "/password" by
      rw [String.append_assoc, show "/" ++ "password" = "/password" by decide])
    (show setup.secrets.lookup _ = some (.str devKey) by
      rw [secrets]
      simp only [List.lookup_cons, beq_eq_false_iff_ne.mpr devNet, beq_self_eq_true])
  simp only [loadKeys, net, dev, app, bind, Except.bind, pure, Except.pure, hexText]

theorem createSigPlug_ok {data : ConfData} (sound : SigSound tables data) (macAddress : String) :
    ∃ setup, createSigPlug tables macAddress data = .ok setup ∧ setup.Usable := by
  obtain ⟨netKey, hasNet, netLength, netHex⟩ := sound.netKey
  obtain ⟨devKey, hasDev, devLength, devHex⟩ := sound.devKey
  obtain ⟨appKey, hasApp, appLength, appHex⟩ := sound.appKey
  obtain ⟨targetText, hasTarget, target, targetLow, targetHigh, readTarget⟩ := sound.unicastTarget
  obtain ⟨ourText, hasOur, our, ourLow, ourHigh, readOur⟩ := sound.unicastOur
  obtain ⟨ivIndex, ivSmall, hasIv⟩ := sound.ivIndex
  have noneMissing : missingKeys data = [] := by
    have filled {text : String} (length : text.toList.length = 32) :
        (ConfValue.str text).truthy = true := decide_eq_true (IsKey.ne_empty length)
    simp [missingKeys, requiredKeys, ConfData.get, hasNet, hasDev, hasApp, filled netLength,
      filled devLength, filled appLength]
  have targetRead : intOfHex tables (data.get .unicastTarget (.str "00B0")) = .ok (target : Int) := by
    rw [ConfData.get, hasTarget, Option.getD_some, intOfHex, readTarget]
  have ourRead : intOfHex tables (data.get .unicastOur (.str "0001")) = .ok (our : Int) := by
    rw [ConfData.get, hasOur, Option.getD_some, intOfHex, readOur]
  obtain ⟨level, levelRead⟩ : ∃ level, intOfHex tables
      (data.get .levelUnicastTarget (.str (hexUpperInt 4 target))) = .ok level := by
    cases found : data .levelUnicastTarget with
    | some value =>
      rw [ConfData.get, found]
      exact sound.level value found
    | none =>
      refine ⟨target, ?_⟩
      have read : tables.readInt 16 (hexUpperInt 4 (target : Int)).toList = some (target : Int) :=
        tables.readInt_hexUpper 4 target
      rw [ConfData.get, found, Option.getD_none, intOfHex, read]
  obtain ⟨model, modelRead⟩ : ∃ model, intOf tables
      (data.get .brightnessModelId (.int 0x1002)) = .ok model := by
    cases found : data .brightnessModelId with
    | some value =>
      rw [ConfData.get, found]
      exact sound.brightness value found
    | none => exact ⟨0x1002, by rw [ConfData.get, found]; rfl⟩
  obtain ⟨seq, seqRead⟩ : ∃ seq, intOf tables (data.get .initialSequence (.int 0)) = .ok seq := by
    cases found : data .initialSequence with
    | some value =>
      rw [ConfData.get, found]
      exact sound.sequence value found
    | none => exact ⟨0, by rw [ConfData.get, found]; rfl⟩
  have netSecret : data.get .netKey (.str "") = .str netKey := by rw [ConfData.get, hasNet]; rfl
  have devSecret : data.get .devKey (.str "") = .str devKey := by rw [ConfData.get, hasDev]; rfl
  have appSecret : data.get .appKey (.str "") = .str appKey := by rw [ConfData.get, hasApp]; rfl
  have iv : data.get .ivIndex (.int DEFAULT_IV_INDEX) = .int ivIndex := by
    rw [ConfData.get, hasIv]
    rfl
  let setup : SigDeviceSetup :=
    { address := upper tables macAddress, targetAddr := target, ourAddr := our,
      secrets := [("cfg" ++ "-net-key/password", .str netKey),
        ("cfg" ++ "-dev-key-" ++ hexLowerInt 4 target ++ "/password", .str devKey),
        ("cfg" ++ "-app-key/password", .str appKey)],
      opItemPrefix := "cfg", ivIndex := .int ivIndex, levelTargetAddr := level,
      brightnessModelId := model, seq }
  refine ⟨setup, ?_, ⟨?_, ?_⟩, ⟨?_, ?_⟩, ivIndex, ivSmall, rfl, fun suite => ?_⟩
  · simp only [createSigPlug, noneMissing, targetRead, levelRead, modelRead, ourRead, seqRead,
      netSecret, devSecret, appSecret, iv, bind, Except.bind, pure, Except.pure, ne_eq,
      not_true_eq_false, if_false, setup]
  · exact Int.ofNat_le.mpr targetLow
  · exact Int.ofNat_le.mpr targetHigh
  · exact Int.ofNat_le.mpr ourLow
  · exact Int.ofNat_le.mpr ourHigh
  · obtain ⟨net, netBytes, net16⟩ := IsKey.fromHex netLength netHex
    obtain ⟨dev, devBytes, dev16⟩ := IsKey.fromHex devLength devHex
    obtain ⟨app, appBytes, app16⟩ := IsKey.fromHex appLength appHex
    obtain ⟨keys, derived, rfl, rfl, isApp⟩ := deriveKeys_ok suite netBytes devBytes appBytes net16
      app16 (IsKey.ne_empty appLength) ivIndex
    refine ⟨keys, ?_, net16, dev16, app, isApp, app16⟩
    rw [loadKeys_eq suite rfl]
    exact derived

theorem toTwoBytes_ok {value : Nat} (small : value < 0x10000) :
    ∃ bytes, toTwoBytes (value : Int) = .ok bytes ∧ bytes.length = 2 := by
  have inside : (0 : Int) ≤ value ∧ (value : Int) < 0x10000 := by omega
  exact ⟨_, by rw [toTwoBytes, if_pos inside], rfl⟩

theorem createDefaultMeshDevice_ok {data : ConfData} (sound : DirectSound tables data)
    {macAddress : String} (hasMac : data .macAddress = some (.str macAddress)) :
    ∃ address meshName meshPassword meshId vendorId macBytes,
      createDefaultMeshDevice tables macAddress data =
        .ok (.meshDevice address meshName meshPassword meshId vendorId macBytes) ∧
      vendorId.length = 2 ∧ macBytes.length = 6 := by
  obtain ⟨mac, sameMac, macBytes, readMac, six⟩ := sound.mac
  cases hasMac.symm.trans sameMac
  obtain ⟨name, hasName⟩ := sound.meshName
  obtain ⟨password, hasPassword⟩ := sound.meshPassword
  obtain ⟨text, hasVendor, vendorId, small, read⟩ := sound.vendorId
  have vendor : intOfHex tables (data.get .vendorId (.str DEFAULT_VENDOR_ID)) =
      .ok (vendorId : Int) := by
    rw [ConfData.get, hasVendor, Option.getD_some, intOfHex, read]
  obtain ⟨vendorBytes, twoBytes, two⟩ := toTwoBytes_ok small
  have bound {α β : Type} (value : α) (f : α → Except SetupError β) :
      (Except.ok value >>= f) = f value := rfl
  refine ⟨upper tables macAddress, name, password,
    data.get .meshAddress (.int DEFAULT_MESH_ADDRESS), vendorBytes, macBytes, ?_, two, six⟩
  simp only [createDefaultMeshDevice, item, hasName, hasPassword, vendor, twoBytes, encodable,
    readMac, bound]
  rfl

theorem bridgeHostText_ok {host : String} (typed : Typed host.toList) :
    bridgeHostText (.str host) = .ok host := by
  have printable : ¬('\r' ∈ host.toList ∨ '\n' ∈ host.toList) := by
    rintro (lineEnd | lineEnd)
    · exact absurd (typed _ lineEnd) (by decide)
    · exact absurd (typed _ lineEnd) (by decide)
  rw [bridgeHostText, if_neg printable]

end Sound

end TuyaBleMesh.ConfigFlow

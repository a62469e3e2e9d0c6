import TuyaBleMesh.ConfigFlow.Factory
import TuyaBleMesh.Lib.EventSystem

/-!
# The data of a config entry

The steps of the config flow that create an entry, and those that change its data afterwards:
options, reconfiguration, a new login and migration. Home Assistant lets an input through when it
fits the form; what is asked of a device or of the bridge is part of the event.
-/

namespace TuyaBleMesh.ConfigFlow

/-! ### Forms -/

/-- What a field of a form takes. -/
inductive FieldType
  | text
  | integer
  | boolean
  | choice (values : List String)
  /-- A sequence number, after its coercion. -/
  | sequence
  deriving DecidableEq

def FieldType.accepts : FieldType → ConfValue → Bool
  | .text, .str _ => true
  | .integer, .int _ => true
  | .integer, .bool _ => true
  | .boolean, .bool _ => true
  | .choice values, .str chosen => values.contains chosen
  | .sequence, .int value => 0 ≤ value ∧ value ≤ 0xFFFFFF
  | _, _ => false

abbrev Schema := List (ConfKey × FieldType)

namespace Schema

def fitsAt (schema : Schema) (input : ConfData) (key : ConfKey) : Bool :=
  match schema.lookup key, input key with
  | some field, some value => field.accepts value
  | none, none => true
  | _, _ => false

/-- The input is one that the form lets through: each of its fields has a value, if only the
default. -/
def fits (schema : Schema) (input : ConfData) : Bool := ConfKey.all.all (schema.fitsAt input)

end Schema

def meshSchema : Schema := [(.meshName, .text), (.meshPassword, .text)]

def advancedSchema (advanced : Bool) : Schema :=
  if advanced then meshSchema ++ [(.vendorId, .text), (.meshAddress, .integer)] else []

def userSchema (advanced : Bool) : Schema :=
  [(.macAddress, .text), (.deviceType, .choice [DEVICE_TYPE_LIGHT, DEVICE_TYPE_PLUG,
    DEVICE_TYPE_SIG_LIGHT, DEVICE_TYPE_SIG_PLUG, DEVICE_TYPE_TELINK_BRIDGE_LIGHT])] ++
    advancedSchema advanced

def confirmSchema (autoDeviceType : Option String) (advanced : Bool) : Schema :=
  (if autoDeviceType = none then
    [(.deviceType, .choice [DEVICE_TYPE_LIGHT, DEVICE_TYPE_PLUG])] else []) ++
    advancedSchema advanced

def sigLightSchema : Schema :=
  [(.netKey, .text), (.devKey, .text), (.appKey, .text), (.unicastTarget, .text),
    (.unicastOur, .text), (.ivIndex, .integer), (.initialSequence, .sequence),
    (.bindModels, .boolean)]

def bridgeSchema : Schema := [(.bridgeHost, .text), (.bridgePort, .integer)]

def sigBridgeSchema : Schema := bridgeSchema ++ [(.unicastTarget, .text)]

def sigSchema : Schema := [(.unicastTarget, .text), (.ivIndex, .integer)]

/-- `device_type in (DEVICE_TYPE_SIG_BRIDGE_PLUG, DEVICE_TYPE_TELINK_BRIDGE_LIGHT)`. -/
def isBridge (deviceType : String) : Bool :=
  deviceType = DEVICE_TYPE_SIG_BRIDGE_PLUG || deviceType = DEVICE_TYPE_TELINK_BRIDGE_LIGHT

/-- `device_type in (DEVICE_TYPE_SIG_PLUG, DEVICE_TYPE_SIG_LIGHT)`. -/
def isSig (deviceType : String) : Bool :=
  deviceType = DEVICE_TYPE_SIG_PLUG || deviceType = DEVICE_TYPE_SIG_LIGHT

/-- `device_type in (DEVICE_TYPE_LIGHT, DEVICE_TYPE_PLUG)`. -/
def isDirect (deviceType : String) : Bool :=
  deviceType = DEVICE_TYPE_LIGHT || deviceType = DEVICE_TYPE_PLUG

def optionsSchema (deviceType : String) (advanced : Bool) : Schema :=
  if isBridge deviceType then
    if advanced && deviceType = DEVICE_TYPE_SIG_BRIDGE_PLUG then sigBridgeSchema else bridgeSchema
  else if isSig deviceType then if advanced then sigSchema else []
  else if advanced then meshSchema ++ [(.meshAddress, .integer)] else meshSchema

def reconfigureSchema (deviceType : String) : Schema :=
  if isBridge deviceType then bridgeSchema else if isSig deviceType then sigSchema else meshSchema

def reauthSchema (deviceType : String) : Schema :=
  if isBridge deviceType then bridgeSchema else meshSchema

/-! ### Steps that create an entry -/

/-- The errors of a form, by field; those of the form as a whole are under `base`. -/
abbrev FormErrors := List (Option ConfKey × String)

inductive FlowResult
  | form (errors : FormErrors)
  | abort (reason : String)
  /-- The form of the next step, for a device with the address. -/
  | next (step address : String)
  | entry (data : ConfData)

def fieldError (key : ConfKey) (error : Option String) : FormErrors :=
  (error.map fun text => (some key, text)).toList

/-- `_finalize_entry`. -/
def finalizeEntry (mac deviceType : String) (extraData : List (ConfKey × ConfValue)) : ConfData :=
  fun key => (extraData.lookup key).or
    ([(ConfKey.macAddress, .str mac), (.deviceType, .str deviceType)].lookup key)

/-- What follows `async_set_unique_id`. -/
def unlessConfigured (configured : Bool) (data : ConfData) : FlowResult :=
  if configured then .abort "already_configured" else .entry data

def _KNOWN_BLE_ERROR_KEYS : List String :=
  ["device_not_found", "ble_adapter_busy", "cannot_connect_ble", "unknown_device_type",
    "device_type_mismatch", "timeout_validation", "pairing_failed", "verify_failed"]

/-- How `validate_and_connect` ends for a device of a type that is given. -/
inductive Validation
  | validated
  /-- A `ValueError`, with its text. -/
  | valueError (raw : String)
  | failed

/-- A key that `run_provision` returns. -/
abbrev MeshKey := { bytes : Bytes // bytes.length = 16 }

/-- What `configure_existing_sig_light` returns. -/
structure Binding where
  sequence : Nat
  levelAddress : Nat
  brightnessModel : Nat

section Steps

variable (tables : TextTables)

def asyncStepUser (configured : Bool) (input : ConfData) (validation : Validation) : FlowResult :=
  let mac := (input.get .macAddress (.str "")).toText
  let errors := fieldError .macAddress (validateMac tables mac) ++
    fieldError .meshName (validateMeshCredential (input.get .meshName (.str "")).toText) ++
    fieldError .meshPassword (validateMeshCredential (input.get .meshPassword (.str "")).toText) ++
    fieldError .vendorId
      (validateVendorId tables (input.get .vendorId (.str DEFAULT_VENDOR_ID)).toText)
  let deviceType := (input.get .deviceType (.str DEVICE_TYPE_LIGHT)).toText
  if errors ≠ [] then .form errors
  else if configured then .abort "already_configured"
  else if deviceType = DEVICE_TYPE_SIG_BRIDGE_PLUG then .next "sig_bridge" (upper tables mac)
  else if deviceType = DEVICE_TYPE_TELINK_BRIDGE_LIGHT then .next "telink_bridge" (upper tables mac)
  else if deviceType = DEVICE_TYPE_SIG_LIGHT then .next "sig_light" (upper tables mac)
  else if deviceType = DEVICE_TYPE_SIG_PLUG then .next "sig_plug" (upper tables mac)
  else
    match validation with
    | .valueError raw =>
      .form [(none, if raw ∈ _KNOWN_BLE_ERROR_KEYS then raw else "cannot_connect_ble")]
    | .failed => .form [(none, "cannot_connect_ble")]
    | .validated => unlessConfigured configured (finalizeEntry (upper tables mac) deviceType
        [(.meshName, input.get .meshName (.str "out_of_mesh")),
          (.meshPassword, input.get .meshPassword (.str "123456")),
          (.vendorId, input.get .vendorId (.str DEFAULT_VENDOR_ID)),
          (.meshAddress, input.get .meshAddress (.int DEFAULT_MESH_ADDRESS))])

/-- The device type that the form of a discovery starts with. -/
def defaultDeviceType (autoDeviceType : Option String) : String :=
  match autoDeviceType with
  | some auto => if isDirect auto then auto else DEVICE_TYPE_LIGHT
  | none => DEVICE_TYPE_LIGHT

/-- `async_step_confirm_impl`. -/
def asyncStepConfirm (configured : Bool) (address : String) (autoDeviceType : Option String)
    (input : ConfData) (validation : Validation) : FlowResult :=
  let vendorId := input.get .vendorId (.str DEFAULT_VENDOR_ID)
  let errors := fieldError .vendorId (validateVendorId tables vendorId.toText)
  if errors ≠ [] then .form errors
  else
    match validation with
    | .valueError raw => .form [(none, raw)]
    | .failed => .form [(none, "cannot_connect_ble")]
    | .validated => unlessConfigured configured (finalizeEntry address
        (input.get .deviceType (.str (defaultDeviceType autoDeviceType))).toText
        [(.meshName, input.get .meshName (.str "out_of_mesh")),
          (.meshPassword, input.get .meshPassword (.str "123456")),
          (.vendorId, vendorId),
          (.meshAddress, input.get .meshAddress (.int DEFAULT_MESH_ADDRESS))])

/-- `async_step_sig_plug` with the keys of `run_provision`, or the error of its exception. -/
def asyncStepSigPlug (configured : Bool) (address : String)
    (provisioned : Except String (MeshKey × MeshKey × MeshKey)) : FlowResult :=
  match provisioned with
  | .error error => .form [(none, error)]
  | .ok (netKey, devKey, appKey) =>
    unlessConfigured configured (finalizeEntry address DEVICE_TYPE_SIG_PLUG
      [(.unicastTarget, .str (hexUpper 4 0x00B0)), (.unicastOur, .str (hexUpper 4 0x0001)),
        (.ivIndex, .int DEFAULT_IV_INDEX), (.netKey, .str (hexBytes netKey.val)),
        (.devKey, .str (hexBytes devKey.val)), (.appKey, .str (hexBytes appKey.val))])

/-- The checks of `async_step_sig_light`. -/
def sigLightErrors (input : ConfData) : FormErrors :=
  let keyError (key : ConfKey) := fieldError key
    (if validateHexKey tables (input.get key (.str "")).toText then none else some "invalid_key")
  let sequence := intOf tables (input.get .initialSequence (.int 0))
  keyError .netKey ++ keyError .devKey ++ keyError .appKey ++
    fieldError .unicastTarget
      (validateUnicastAddress tables (input.get .unicastTarget (.str "00B0")).toText) ++
    fieldError .unicastOur
      (validateUnicastAddress tables (input.get .unicastOur (.str "0001")).toText) ++
    fieldError .ivIndex (validateIvIndex (input.get .ivIndex (.int DEFAULT_IV_INDEX))) ++
    fieldError .initialSequence
      (if sequence.toOption.any fun value => 0 ≤ value ∧ value ≤ 0xFFFFFF then none
      else some "invalid_sequence")

/-- The data of the entry of an existing light. -/
def sigLightData (input : ConfData) (address : String) (bound : Option Binding) : ConfData :=
  let binds := (input.get .bindModels (.bool false)).truthy
  let sequence : Int :=
    match bound with
    | some binding => binding.sequence
    | none => ((intOf tables (input.get .initialSequence (.int 0))).toOption).getD 0
  finalizeEntry address DEVICE_TYPE_SIG_LIGHT <|
    [(.unicastTarget, .str (upper tables (input.get .unicastTarget (.str "00B0")).toText)),
      (.unicastOur, .str (upper tables (input.get .unicastOur (.str "0001")).toText)),
      (.ivIndex, input.get .ivIndex (.int DEFAULT_IV_INDEX)),
      (.netKey, .str (input.get .netKey (.str "")).toText),
      (.devKey, .str (input.get .devKey (.str "")).toText),
      (.appKey, .str (input.get .appKey (.str "")).toText)] ++
    (if (input .initialSequence).isSome || binds then [(.initialSequence, .int sequence)] else []) ++
    (bound.elim [] fun binding =>
      [(.levelUnicastTarget, .str (hexUpper 4 binding.levelAddress)),
        (.brightnessModelId, .int binding.brightnessModel)])

/-- `async_step_sig_light`; without a result, the binding of the models has failed. -/
def asyncStepSigLight (configured : Bool) (address : String) (input : ConfData)
    (binding : Option Binding) : FlowResult :=
  let errors := sigLightErrors tables input
  let mac := upper tables address
  if errors ≠ [] then .form errors
  else if (input.get .bindModels (.bool false)).truthy then
    match binding with
    | none => .form [(none, "model_bind_failed")]
    | some binding => unlessConfigured configured (sigLightData tables input mac (some binding))
  else unlessConfigured configured (sigLightData tables input mac none)

def asyncStepImport (configured : Bool) (input : ConfData) (binding : Option Binding) :
    FlowResult :=
  let mac := upper tables (input.get .macAddress (.str "")).toText
  if (validateMac tables mac).isSome ∨ input .deviceType ≠ some (.str DEVICE_TYPE_SIG_LIGHT) then
    .abort "invalid_import"
  else asyncStepSigLight tables configured mac input binding

/-- The check of the host in a form. -/
def hostError (value : ConfValue) : FormErrors :=
  fieldError .bridgeHost (validateBridgeHost tables.toCharTables value.toText)

def asyncStepSigBridge (configured : Bool) (address : String) (input : ConfData) (tested : Bool) :
    FlowResult :=
  let host := input.get .bridgeHost (.str "")
  let unicastTarget := input.get .unicastTarget (.str "00B0")
  let errors := hostError tables host ++
    fieldError .unicastTarget (validateUnicastAddress tables unicastTarget.toText)
  if errors ≠ [] then .form errors
  else if !tested then .form [(none, "cannot_connect")]
  else unlessConfigured configured (finalizeEntry address DEVICE_TYPE_SIG_BRIDGE_PLUG
    [(.unicastTarget, unicastTarget), (.bridgeHost, host),
      (.bridgePort, input.get .bridgePort (.int DEFAULT_BRIDGE_PORT))])

def asyncStepTelinkBridge (configured : Bool) (address : String) (input : ConfData) (tested : Bool) :
    FlowResult :=
  let host := input.get .bridgeHost (.str "")
  let errors := hostError tables host
  if errors ≠ [] then .form errors
  else if !tested then .form [(none, "cannot_connect")]
  else unlessConfigured configured (finalizeEntry address DEVICE_TYPE_TELINK_BRIDGE_LIGHT
    [(.bridgeHost, host), (.bridgePort, input.get .bridgePort (.int DEFAULT_BRIDGE_PORT))])

/-! ### Steps that change an entry -/

/-- The checks of the fields of a SIG device. -/
def sigErrors (input : ConfData) : FormErrors :=
  fieldError .unicastTarget
      (validateUnicastAddress tables (input.get .unicastTarget (.str "00B0")).toText) ++
    fieldError .ivIndex (validateIvIndex (input.get .ivIndex (.int 0)))

/-- The check of a name or a password, where there is one. -/
def credentialError (input : ConfData) (key : ConfKey) : FormErrors :=
  let value := input.get key (.str "")
  if value.truthy then fieldError key (validateMeshCredential value.toText) else []

def credentialErrors (input : ConfData) : FormErrors :=
  credentialError input .meshName ++ credentialError input .meshPassword

def deviceTypeOf (data : ConfData) : String := (data.get .deviceType (.str DEVICE_TYPE_LIGHT)).toText

/-- The data with the input, unless there are errors. -/
def changed (data input : ConfData) (errors : FormErrors) : FlowResult :=
  if errors ≠ [] then .form errors else .entry ((data.update input).pop .adapter)

/-- `TuyaBLEMeshOptionsFlow.async_step_init`. -/
def asyncStepInit (data input : ConfData) : FlowResult :=
  let deviceType := deviceTypeOf data
  let host := input.get .bridgeHost (.str "")
  changed data input <|
    (if isSig deviceType then sigErrors tables input else []) ++
    (if isBridge deviceType && host.truthy then hostError tables host else []) ++
    (if isDirect deviceType then credentialErrors input else [])

def asyncStepReconfigure (data input : ConfData) (tested : Bool) : FlowResult :=
  let deviceType := deviceTypeOf data
  changed data input <|
    if isBridge deviceType then
      let errors := hostError tables (input.get .bridgeHost (.str ""))
      if errors ≠ [] then errors else if !tested then [(none, "cannot_connect")] else []
    else if isSig deviceType then sigErrors tables input
    else credentialErrors input

def asyncStepReauthConfirm (data input : ConfData) : FlowResult := .entry (data.update input)

/-- `async_migrate_entry`, for an entry of version 1. -/
def asyncMigrateEntry (data : ConfData) : ConfData := data.pop .adapter

/-! ### The entry of a device -/

/-- What is submitted for one device, whose address is the unique id of its entry. -/
inductive EntryEvent
  | user (advanced : Bool) (input : ConfData) (validation : Validation)
  | confirm (address : String) (autoDeviceType : Option String) (advanced : Bool) (input : ConfData)
    (validation : Validation)
  | sigPlug (address : String) (provisioned : Except String (MeshKey × MeshKey × MeshKey))
  | sigLight (address : String) (input : ConfData) (binding : Option Binding)
  /-- No form checks the types of an import. -/
  | imported (input : ConfData) (binding : Option Binding)
  | sigBridge (address : String) (input : ConfData) (tested : Bool)
  | telinkBridge (address : String) (input : ConfData) (tested : Bool)
  | options (advanced : Bool) (input : ConfData)
  | reconfigure (input : ConfData) (tested : Bool)
  | reauthConfirm (input : ConfData)
  | migrate

/-- The entry after a step. -/
def FlowResult.after (entry : Option ConfData) : FlowResult → Option ConfData
  | .entry data => some data
  | _ => entry

/-- A step whose input the form lets through. -/
def submitted (entry : Option ConfData) (schema : Schema) (input : ConfData) (result : FlowResult) :
    Option (Option ConfData) :=
  if schema.fits input then some (result.after entry) else none

def stepEntry (entry : Option ConfData) : EntryEvent → Option (Option ConfData)
  | .user advanced input validation =>
    submitted entry (userSchema advanced) input (asyncStepUser tables entry.isSome input validation)
  | .confirm address autoDeviceType advanced input validation =>
    submitted entry (confirmSchema autoDeviceType advanced) input
      (asyncStepConfirm tables entry.isSome address autoDeviceType input validation)
  | .sigPlug address provisioned =>
    some ((asyncStepSigPlug entry.isSome address provisioned).after entry)
  | .sigLight address input binding =>
    submitted entry sigLightSchema input
      (asyncStepSigLight tables entry.isSome address input binding)
  | .imported input binding => some ((asyncStepImport tables entry.isSome input binding).after entry)
  | .sigBridge address input tested =>
    submitted entry sigBridgeSchema input
      (asyncStepSigBridge tables entry.isSome address input tested)
  | .telinkBridge address input tested =>
    submitted entry bridgeSchema input
      (asyncStepTelinkBridge tables entry.isSome address input tested)
  | .options advanced input => entry.bind fun data =>
    submitted entry (optionsSchema (deviceTypeOf data) advanced) input
      (asyncStepInit tables data input)
  | .reconfigure input tested => entry.bind fun data =>
    submitted entry (reconfigureSchema (deviceTypeOf data)) input
      (asyncStepReconfigure tables data input tested)
  | .reauthConfirm input => entry.bind fun data =>
    submitted entry (reauthSchema (deviceTypeOf data)) input (asyncStepReauthConfirm data input)
  | .migrate => entry.map fun data => some (asyncMigrateEntry data)

def configEntrySystem : EventSystem (Option ConfData) EntryEvent where
  step := stepEntry tables

end Steps

end TuyaBleMesh.ConfigFlow

import TuyaBleMesh.ConfigFlow.Entries

/-!
# Every entry gives its device

What the forms let through is enough for the device of an entry, whatever is submitted in which
order. One field is stored unchecked: the unicast target in the options of a SIG bridge plug.
-/

namespace TuyaBleMesh.ConfigFlow

open TextTables

variable {tables : TextTables}

/-- There are no control characters in the texts. -/
def ConfData.IsTyped (input : ConfData) : Prop :=
  ∀ key value, input key = some value → Typed value.toText.toList

/-- What is submitted is typed in, and a device that was found has a MAC address. -/
def EntryEvent.IsPlain (tables : TextTables) : EntryEvent → Prop
  | .user _ input _ => input.IsTyped
  | .confirm address _ _ input _ =>
    Typed address.toList ∧ validateMac tables address = none ∧ input.IsTyped
  | .sigPlug _ _ => True
  | .sigLight _ input _ => input.IsTyped
  | .imported input _ => input.IsTyped
  | .sigBridge _ input _ => input.IsTyped
  | .telinkBridge _ input _ => input.IsTyped
  | .options _ input => input.IsTyped
  | .reconfigure input _ => input.IsTyped
  | .reauthConfirm input => input.IsTyped
  | .migrate => True

/-! ### Inputs -/

section Inputs

variable {schema : Schema} {input : ConfData} {key : ConfKey}

theorem fits_none (fits : schema.fits input = true) (absent : schema.lookup key = none) :
    input key = none := by
  have here := List.all_eq_true.mp fits key key.mem_all
  unfold Schema.fitsAt at here
  rw [absent] at here
  cases found : input key with
  | none => rfl
  | some value =>
    rw [found] at here
    cases here

theorem fits_some {field : FieldType} (fits : schema.fits input = true)
    (asked : schema.lookup key = some field) :
    ∃ value, input key = some value ∧ field.accepts value = true := by
  have here := List.all_eq_true.mp fits key key.mem_all
  unfold Schema.fitsAt at here
  rw [asked] at here
  cases found : input key with
  | none =>
    rw [found] at here
    cases here
  | some value =>
    rw [found] at here
    exact ⟨value, rfl, here⟩

theorem fits_text (fits : schema.fits input = true) (asked : schema.lookup key = some .text) :
    ∃ text, input key = some (.str text) := by
  obtain ⟨value, found, accepted⟩ := fits_some fits asked
  cases value with
  | str text => exact ⟨text, found⟩
  | int value => cases accepted
  | bool value => cases accepted
  | other text value truth => cases accepted

theorem fits_choice {values : List String} (fits : schema.fits input = true)
    (asked : schema.lookup key = some (.choice values)) :
    ∃ text, input key = some (.str text) ∧ text ∈ values := by
  obtain ⟨value, found, accepted⟩ := fits_some fits asked
  cases value with
  | str text => exact ⟨text, found, List.contains_iff_mem.mp accepted⟩
  | int value => cases accepted
  | bool value => cases accepted
  | other text value truth => cases accepted

theorem get_typed {default : ConfValue} (typed : input.IsTyped)
    (typedDefault : Typed default.toText.toList) : Typed (input.get key default).toText.toList := by
  unfold ConfData.get
  cases found : input key with
  | none => exact typedDefault
  | some value => exact typed key value found

/-- A field of text that may be missing in the form. -/
theorem get_text (fits : schema.fits input = true)
    (asked : schema.lookup key = some .text ∨ schema.lookup key = none) (default : String) :
    ∃ text, input.get key (.str default) = .str text := by
  unfold ConfData.get
  rcases asked with asked | absent
  · obtain ⟨text, found⟩ := fits_text fits asked
    exact ⟨text, by rw [found]; rfl⟩
  · exact ⟨default, by rw [fits_none fits absent]; rfl⟩

theorem toText_str (text : String) : (ConfValue.str text).toText = text := rfl

theorem typed_empty : Typed "".toList := by
  intro c member
  cases member

theorem typed_of_all {text : String} (printable : text.toList.all (32 ≤ ·.toNat) = true) :
    Typed text.toList := fun c member =>
  of_decide_eq_true (List.all_eq_true.mp printable c member)

theorem typed_vendorId : Typed DEFAULT_VENDOR_ID.toList := typed_of_all (by decide)

theorem fieldError_eq_nil {error : Option String} : fieldError key error = [] ↔ error = none := by
  cases error with
  | none => exact iff_of_true rfl rfl
  | some text => exact iff_of_false (by rintro ⟨⟩) (by rintro ⟨⟩)

theorem ivIndex_of_validate {value : ConfValue} (valid : validateIvIndex value = none) :
    IsIvIndex (some value) := by
  unfold validateIvIndex at valid
  split at valid
  · next number =>
    split at valid
    · cases valid
    · next inside =>
      have range : 0 ≤ number ∧ number ≤ 0xFFFFFFFF := by simpa using inside
      obtain ⟨ivIndex, rfl⟩ := Int.eq_ofNat_of_zero_le range.1
      exact ⟨ivIndex, by omega, rfl⟩
  · cases valid

theorem isUnicast_of_validate {value : String} (typed : Typed value.toList)
    (valid : validateUnicastAddress tables value = none) :
    IsUnicast tables (some (.str value)) ∧ IsUnicast tables (some (.str (upper tables value))) := by
  obtain ⟨address, low, high, plain, capitals⟩ := unicast_of_validate typed valid
  exact ⟨⟨value, rfl, address, low, high, plain⟩, ⟨_, rfl, address, low, high, capitals⟩⟩

end Inputs

/-! ### Sound entries -/

/-- All that the device of the entry needs, but the number of a SIG bridge plug. -/
def EntrySound (tables : TextTables) (data : ConfData) : Prop :=
  (∃ mac, data .macAddress = some (.str mac)) ∧
    ∃ deviceType, data .deviceType = some (.str deviceType) ∧
      (isDirect deviceType = true ∧ DirectSound tables data ∨
        isSig deviceType = true ∧ SigSound tables data ∨
        isBridge deviceType = true ∧ IsHost (data .bridgeHost) ∧
          (deviceType = DEVICE_TYPE_SIG_BRIDGE_PLUG →
            ∃ text, data .unicastTarget = some (.str text)))

theorem of_isDirect {deviceType : String} (direct : isDirect deviceType = true) :
    isSig deviceType = false ∧ isBridge deviceType = false := by
  have either : deviceType = DEVICE_TYPE_LIGHT ∨ deviceType = DEVICE_TYPE_PLUG := by
    simpa [isDirect] using direct
  rcases either with rfl | rfl
  · decide
  · decide

theorem of_isSig {deviceType : String} (sig : isSig deviceType = true) :
    isBridge deviceType = false ∧ isDirect deviceType = false := by
  have either : deviceType = DEVICE_TYPE_SIG_PLUG ∨ deviceType = DEVICE_TYPE_SIG_LIGHT := by
    simpa [isSig] using sig
  rcases either with rfl | rfl
  · decide
  · decide

theorem of_isBridge {deviceType : String} (bridge : isBridge deviceType = true) :
    isSig deviceType = false ∧ isDirect deviceType = false := by
  have either : deviceType = DEVICE_TYPE_SIG_BRIDGE_PLUG ∨
      deviceType = DEVICE_TYPE_TELINK_BRIDGE_LIGHT := by
    simpa [isBridge] using bridge
  rcases either with rfl | rfl
  · decide
  · decide

section Changes

variable {data new : ConfData}

/-- What no step changes in the entry of a SIG device. -/
def fixedSigKeys : List ConfKey :=
  [.netKey, .devKey, .appKey, .unicastOur, .levelUnicastTarget, .brightnessModelId, .initialSequence]

theorem SigSound.replace (sound : SigSound tables data)
    (unicastTarget : IsUnicast tables (new .unicastTarget)) (ivIndex : IsIvIndex (new .ivIndex))
    (same : ∀ key ∈ fixedSigKeys, new key = data key) : SigSound tables new where
  netKey := same .netKey (by decide) ▸ sound.netKey
  devKey := same .devKey (by decide) ▸ sound.devKey
  appKey := same .appKey (by decide) ▸ sound.appKey
  unicastTarget
  unicastOur := same .unicastOur (by decide) ▸ sound.unicastOur
  ivIndex
  level := same .levelUnicastTarget (by decide) ▸ sound.level
  brightness := same .brightnessModelId (by decide) ▸ sound.brightness
  sequence := same .initialSequence (by decide) ▸ sound.sequence

theorem DirectSound.replace (sound : DirectSound tables data)
    (meshName : ∃ name, new .meshName = some (.str name))
    (meshPassword : ∃ password, new .meshPassword = some (.str password))
    (mac : new .macAddress = data .macAddress) (vendorId : new .vendorId = data .vendorId) :
    DirectSound tables new where
  mac := mac ▸ sound.mac
  meshName
  meshPassword
  vendorId := vendorId ▸ sound.vendorId

variable {input : ConfData} {schema : Schema} {key : ConfKey}

theorem update_kept (fits : schema.fits input = true) (absent : schema.lookup key = none) :
    data.update input key = data key := by
  rw [ConfData.update, fits_none fits absent, Option.none_or]

theorem update_given {value : ConfValue} (given : input key = some value) :
    data.update input key = some value := by
  rw [ConfData.update, given, Option.some_or]

theorem pop_kept (other : key ≠ .adapter) : data.pop .adapter key = data key :=
  Function.update_of_ne other _ _

/-- Nothing that an entry needs is under the key that is taken away. -/
theorem EntrySound.pop (sound : EntrySound tables data) : EntrySound tables (data.pop .adapter) := by
  obtain ⟨⟨mac, hasMac⟩, deviceType, hasType, kind⟩ := sound
  refine ⟨⟨mac, (pop_kept (by decide)).trans hasMac⟩, deviceType,
    (pop_kept (by decide)).trans hasType, ?_⟩
  rcases kind with ⟨direct, sound⟩ | ⟨sig, sound⟩ | ⟨bridge, host, unicast⟩
  · refine .inl ⟨direct, sound.replace ?_ ?_ (pop_kept (by decide)) (pop_kept (by decide))⟩
    · rw [pop_kept (by decide)]
      exact sound.meshName
    · rw [pop_kept (by decide)]
      exact sound.meshPassword
  · refine .inr (.inl ⟨sig, sound.replace ?_ ?_ fun key fixed => pop_kept ?_⟩)
    · rw [pop_kept (by decide)]
      exact sound.unicastTarget
    · rw [pop_kept (by decide)]
      exact sound.ivIndex
    · rintro rfl
      exact absurd fixed (by decide)
  · refine .inr (.inr ⟨bridge, ?_, fun plug => ?_⟩)
    · rw [pop_kept (by decide)]
      exact host
    · rw [pop_kept (by decide)]
      exact unicast plug

/-- The forms for an entry leave alone what no step changes, and ask for texts. -/
structure Schema.Changes (schema : Schema) : Prop where
  kept : ∀ key ∈ .macAddress :: .deviceType :: .vendorId :: fixedSigKeys, schema.lookup key = none
  texts : ∀ key ∈ [ConfKey.meshName, .meshPassword, .bridgeHost, .unicastTarget],
    schema.lookup key = some .text ∨ schema.lookup key = none

/-- A name or a password is as it was or is given anew. -/
theorem update_text (fits : schema.fits input = true)
    (asked : schema.lookup key = some .text ∨ schema.lookup key = none)
    (had : ∃ text, data key = some (.str text)) :
    ∃ text, data.update input key = some (.str text) := by
  rcases asked with asked | absent
  · obtain ⟨text, given⟩ := fits_text fits asked
    exact ⟨text, update_given given⟩
  · rw [update_kept fits absent]
    exact had

/-- A change of an entry keeps it sound, when what is checked of a SIG device was checked. -/
theorem EntrySound.update (sound : EntrySound tables data) (changes : schema.Changes)
    (fits : schema.fits input = true) (typed : input.IsTyped)
    (checked : isSig (deviceTypeOf data) = true →
      schema.lookup .unicastTarget = none ∧ schema.lookup .ivIndex = none ∨
        schema = sigSchema ∧ sigErrors tables input = []) :
    EntrySound tables (data.update input) := by
  obtain ⟨⟨mac, hasMac⟩, deviceType, hasType, kind⟩ := sound
  have typeOf : deviceTypeOf data = deviceType := by
    rw [deviceTypeOf, ConfData.get, hasType]
    rfl
  refine ⟨⟨mac, (update_kept fits (changes.kept .macAddress (by decide))).trans hasMac⟩, deviceType,
    (update_kept fits (changes.kept .deviceType (by decide))).trans hasType, ?_⟩
  rcases kind with ⟨direct, sound⟩ | ⟨sig, sound⟩ | ⟨bridge, hasHost, hasUnicast⟩
  · exact .inl ⟨direct, sound.replace
      (update_text fits (changes.texts .meshName (by decide)) sound.meshName)
      (update_text fits (changes.texts .meshPassword (by decide)) sound.meshPassword)
      (update_kept fits (changes.kept .macAddress (by decide)))
      (update_kept fits (changes.kept .vendorId (by decide)))⟩
  · refine .inr (.inl ⟨sig, ?_⟩)
    have fixed : ∀ key ∈ fixedSigKeys, data.update input key = data key :=
      fun key member => update_kept fits (changes.kept key (by simp [member]))
    rw [typeOf] at checked
    rcases checked sig with ⟨noTarget, noIvIndex⟩ | ⟨rfl, noErrors⟩
    · refine sound.replace ?_ ?_ fixed
      · rw [update_kept fits noTarget]
        exact sound.unicastTarget
      · rw [update_kept fits noIvIndex]
        exact sound.ivIndex
    · obtain ⟨targetValid, ivValid⟩ := List.append_eq_nil_iff.mp noErrors
      rw [fieldError_eq_nil] at targetValid ivValid
      obtain ⟨text, given⟩ : ∃ text, input .unicastTarget = some (.str text) := fits_text fits rfl
      obtain ⟨value, givenIv, -⟩ : ∃ value, input .ivIndex = some value ∧ _ :=
        fits_some fits rfl
      rw [ConfData.get, given] at targetValid
      rw [ConfData.get, givenIv] at ivValid
      refine sound.replace ?_ ?_ fixed
      · rw [update_given given]
        exact (isUnicast_of_validate (typed _ _ given) targetValid).1
      · rw [update_given givenIv]
        exact ivIndex_of_validate ivValid
  · refine .inr (.inr ⟨bridge, ?_, fun plug =>
      update_text fits (changes.texts .unicastTarget (by decide)) (hasUnicast plug)⟩)
    rcases changes.texts .bridgeHost (by decide) with asked | absent
    · obtain ⟨text, given⟩ := fits_text fits asked
      exact ⟨text, update_given given, typed _ _ given⟩
    · rw [update_kept fits absent]
      exact hasHost

end Changes

/-! ### New entries -/

section Creation

variable {input data : ConfData} {configured : Bool} {address : String}

theorem form_ne_entry (errors : FormErrors) : FlowResult.form errors ≠ .entry data := by
  rintro ⟨⟩

theorem abort_ne_entry (reason : String) : FlowResult.abort reason ≠ .entry data := by
  rintro ⟨⟩

theorem next_ne_entry (step : String) : FlowResult.next step address ≠ .entry data := by
  rintro ⟨⟩

theorem entry_of_unlessConfigured {new : ConfData}
    (created : unlessConfigured configured new = .entry data) : data = new := by
  unfold unlessConfigured at created
  split at created
  · cases created
  · cases created
    rfl

/-- A form for a device that is reached directly, once its address and vendor are checked. -/
theorem sound_of_direct {schema : Schema} {deviceType : String} (direct : isDirect deviceType = true)
    (mac : ∃ bytes, macToBytes tables address = .ok bytes ∧ bytes.length = 6)
    (fits : schema.fits input = true) (typed : input.IsTyped)
    (texts : ∀ key ∈ [ConfKey.meshName, .meshPassword, .vendorId],
      schema.lookup key = some .text ∨ schema.lookup key = none)
    (vendor : validateVendorId tables (input.get .vendorId (.str DEFAULT_VENDOR_ID)).toText = none) :
    EntrySound tables (finalizeEntry address deviceType
      [(.meshName, input.get .meshName (.str "out_of_mesh")),
        (.meshPassword, input.get .meshPassword (.str "123456")),
        (.vendorId, input.get .vendorId (.str DEFAULT_VENDOR_ID)),
        (.meshAddress, input.get .meshAddress (.int DEFAULT_MESH_ADDRESS))]) := by
  obtain ⟨name, isName⟩ := get_text fits (texts .meshName (by decide)) "out_of_mesh"
  obtain ⟨password, isPassword⟩ := get_text fits (texts .meshPassword (by decide)) "123456"
  obtain ⟨text, isVendor⟩ := get_text fits (texts .vendorId (by decide)) DEFAULT_VENDOR_ID
  have typedVendor : Typed (input.get .vendorId (.str DEFAULT_VENDOR_ID)).toText.toList :=
    get_typed typed typed_vendorId
  rw [isVendor] at vendor typedVendor
  obtain ⟨vendorId, small, read⟩ := vendorId_of_validate typedVendor vendor
  refine ⟨⟨address, rfl⟩, deviceType, rfl, .inl ⟨direct, ⟨address, rfl, mac⟩, ?_, ?_, ?_⟩⟩
  · exact ⟨name, congrArg some isName⟩
  · exact ⟨password, congrArg some isPassword⟩
  · exact ⟨text, congrArg some isVendor, vendorId, small, read⟩

theorem asyncStepUser_sound {advanced : Bool} {validation : Validation}
    (fits : (userSchema advanced).fits input = true) (typed : input.IsTyped)
    (created : asyncStepUser tables configured input validation = .entry data) :
    EntrySound tables data := by
  obtain ⟨mac, hasMac⟩ : ∃ mac, input .macAddress = some (.str mac) := fits_text fits rfl
  obtain ⟨deviceType, hasType, offered⟩ : ∃ deviceType, input .deviceType = some (.str deviceType) ∧
      deviceType ∈ [DEVICE_TYPE_LIGHT, DEVICE_TYPE_PLUG, DEVICE_TYPE_SIG_LIGHT,
        DEVICE_TYPE_SIG_PLUG, DEVICE_TYPE_TELINK_BRIDGE_LIGHT] := fits_choice fits rfl
  have macText : input.get .macAddress (.str "") = .str mac := by rw [ConfData.get, hasMac]; rfl
  have typeText : input.get .deviceType (.str DEVICE_TYPE_LIGHT) = .str deviceType := by
    rw [ConfData.get, hasType]
    rfl
  simp only [asyncStepUser, macText, typeText, toText_str] at created
  split at created
  · exact absurd created (form_ne_entry _)
  next noErrors =>
  simp only [ne_eq, not_not, List.append_eq_nil_iff, fieldError_eq_nil] at noErrors
  obtain ⟨⟨⟨macValid, -⟩, -⟩, vendorValid⟩ := noErrors
  split at created
  · exact absurd created (abort_ne_entry _)
  split at created
  · exact absurd created (next_ne_entry _)
  split at created
  · exact absurd created (next_ne_entry _)
  next notTelink =>
  split at created
  · exact absurd created (next_ne_entry _)
  next notLight =>
  split at created
  · exact absurd created (next_ne_entry _)
  next notPlug =>
  have direct : isDirect deviceType = true := by
    simpa [isDirect, notTelink, notLight, notPlug] using offered
  split at created
  · exact absurd created (form_ne_entry _)
  · exact absurd created (form_ne_entry _)
  · rw [entry_of_unlessConfigured created]
    refine sound_of_direct direct (macToBytes_of_validate (typed _ _ hasMac) macValid).2 fits typed
      ?_ vendorValid
    cases advanced
    · decide
    · decide

theorem asyncStepConfirm_sound {autoDeviceType : Option String} {advanced : Bool}
    {validation : Validation}
    (mac : ∃ bytes, macToBytes tables address = .ok bytes ∧ bytes.length = 6)
    (fits : (confirmSchema autoDeviceType advanced).fits input = true) (typed : input.IsTyped)
    (created : asyncStepConfirm tables configured address autoDeviceType input validation =
      .entry data) : EntrySound tables data := by
  have direct : isDirect
      (input.get .deviceType (.str (defaultDeviceType autoDeviceType))).toText = true := by
    cases autoDeviceType with
    | none =>
      obtain ⟨deviceType, hasType, offered⟩ : ∃ deviceType,
          input .deviceType = some (.str deviceType) ∧
            deviceType ∈ [DEVICE_TYPE_LIGHT, DEVICE_TYPE_PLUG] := fits_choice fits rfl
      rw [ConfData.get, hasType]
      change isDirect deviceType = true
      simpa [isDirect] using offered
    | some auto =>
      have absent : input .deviceType = none := by
        refine fits_none fits ?_
        cases advanced
        · rfl
        · rfl
      rw [ConfData.get, absent]
      change isDirect (if isDirect auto = true then auto else DEVICE_TYPE_LIGHT) = true
      split
      · next isAuto => exact isAuto
      · decide
  simp only [asyncStepConfirm] at created
  split at created
  · exact absurd created (form_ne_entry _)
  next noErrors =>
  rw [ne_eq, not_not, fieldError_eq_nil] at noErrors
  split at created
  · exact absurd created (form_ne_entry _)
  · exact absurd created (form_ne_entry _)
  · rw [entry_of_unlessConfigured created]
    refine sound_of_direct direct mac fits typed ?_ noErrors
    cases autoDeviceType
    · cases advanced
      · decide
      · decide
    · cases advanced
      · exact fun key _ => .inr rfl
      · change ∀ key ∈ _, (advancedSchema true).lookup key = _ ∨ (advancedSchema true).lookup key = _
        decide

theorem isKey_of_bytes (key : MeshKey) : IsKey (some (.str (hexBytes key.val))) := by
  obtain ⟨length, hex⟩ := hexBytes_word key.val
  exact ⟨_, rfl, by rw [length, key.property], hex⟩

theorem isUnicast_hexUpper {value : Nat} (low : 1 ≤ value) (high : value ≤ 0x7FFF) :
    IsUnicast tables (some (.str (hexUpper 4 value))) :=
  ⟨_, rfl, value, low, high, tables.readInt_hexUpper 4 value⟩

theorem asyncStepSigPlug_sound {provisioned : Except String (MeshKey × MeshKey × MeshKey)}
    (created : asyncStepSigPlug configured address provisioned = .entry data) :
    EntrySound tables data := by
  unfold asyncStepSigPlug at created
  split at created
  · cases created
  next netKey devKey appKey =>
  rw [entry_of_unlessConfigured created]
  refine ⟨⟨address, rfl⟩, DEVICE_TYPE_SIG_PLUG, rfl, .inr (.inl ⟨by decide, ?_⟩)⟩
  exact {
    netKey := isKey_of_bytes netKey
    devKey := isKey_of_bytes devKey
    appKey := isKey_of_bytes appKey
    unicastTarget := isUnicast_hexUpper (by decide) (by decide)
    unicastOur := isUnicast_hexUpper (by decide) (by decide)
    ivIndex := ⟨0, by decide, rfl⟩
    level := by rintro _ ⟨⟩
    brightness := by rintro _ ⟨⟩
    sequence := by rintro _ ⟨⟩ }

theorem typed_00B0 : Typed "00B0".toList := typed_of_all (by decide)

theorem typed_0001 : Typed "0001".toList := typed_of_all (by decide)

/-- What is stored beside the fields of the form: the device, the number to go on from and what the
binding has found. -/
theorem sigLightData_beside (tables : TextTables) (input : ConfData) (address : String)
    (bound : Option Binding) :
    let data := sigLightData tables input address bound
    data .macAddress = some (.str address) ∧
      data .deviceType = some (.str DEVICE_TYPE_SIG_LIGHT) ∧
      data .levelUnicastTarget =
        bound.map (fun binding => .str (hexUpper 4 binding.levelAddress)) ∧
      data .brightnessModelId = bound.map (fun binding => .int binding.brightnessModel) ∧
      ∀ value ∈ data .initialSequence, ∃ seq, value = .int seq := by
  intro data
  cases bound with
  | none =>
    by_cases numbered : ((input .initialSequence).isSome ||
        (input.get .bindModels (.bool false)).truthy) = true
    · simp only [data, sigLightData, if_pos numbered]
      exact ⟨rfl, rfl, rfl, rfl, by rintro _ ⟨⟩; exact ⟨_, rfl⟩⟩
    · simp only [data, sigLightData, if_neg numbered]
      exact ⟨rfl, rfl, rfl, rfl, by rintro _ ⟨⟩⟩
  | some binding =>
    by_cases numbered : ((input .initialSequence).isSome ||
        (input.get .bindModels (.bool false)).truthy) = true
    · simp only [data, sigLightData, if_pos numbered]
      exact ⟨rfl, rfl, rfl, rfl, by rintro _ ⟨⟩; exact ⟨_, rfl⟩⟩
    · simp only [data, sigLightData, if_neg numbered]
      exact ⟨rfl, rfl, rfl, rfl, by rintro _ ⟨⟩⟩

/-- The data of an existing light, once its form is checked. -/
theorem sigSound_of_form (typed : input.IsTyped) (noErrors : sigLightErrors tables input = [])
    (bound : Option Binding) : SigSound tables (sigLightData tables input address bound) := by
  have valid {key : ConfKey} {isValid : Bool} {error : String}
      (none : fieldError key (if isValid then Option.none else some error) = []) : isValid = true := by
    rw [fieldError_eq_nil] at none
    cases isValid
    · cases none
    · rfl
  simp only [sigLightErrors, List.append_eq_nil_iff] at noErrors
  obtain ⟨⟨⟨⟨⟨⟨netKey, devKey⟩, appKey⟩, target⟩, our⟩, ivIndex⟩, -⟩ := noErrors
  rw [fieldError_eq_nil] at target our ivIndex
  have typedText {key : ConfKey} {default : String} (typedDefault : Typed default.toList) :
      Typed (input.get key (.str default)).toText.toList :=
    get_typed typed (show Typed (ConfValue.str default).toText.toList from typedDefault)
  have keyOf {key : ConfKey} (isValid : validateHexKey tables (input.get key (.str "")).toText = true) :
      IsKey (some (.str (input.get key (.str "")).toText)) := by
    obtain ⟨length, hex⟩ := key_of_validate (typedText typed_empty) isValid
    exact ⟨_, rfl, length, hex⟩
  obtain ⟨-, -, level, brightness, sequence⟩ := sigLightData_beside tables input address bound
  exact {
    netKey := keyOf (valid netKey)
    devKey := keyOf (valid devKey)
    appKey := keyOf (valid appKey)
    unicastTarget := (isUnicast_of_validate (typedText typed_00B0) target).2
    unicastOur := (isUnicast_of_validate (typedText typed_0001) our).2
    ivIndex := ivIndex_of_validate ivIndex
    level := by
      intro value found
      rw [level] at found
      obtain ⟨binding, -, rfl⟩ := Option.map_eq_some_iff.mp found
      exact ⟨binding.levelAddress, by rw [intOfHex, tables.readInt_hexUpper]⟩
    brightness := by
      intro value found
      rw [brightness] at found
      obtain ⟨binding, -, rfl⟩ := Option.map_eq_some_iff.mp found
      exact ⟨binding.brightnessModel, rfl⟩
    sequence := by
      intro value found
      obtain ⟨seq, rfl⟩ := sequence value found
      exact ⟨seq, rfl⟩ }

theorem asyncStepSigLight_sound {binding : Option Binding} (typed : input.IsTyped)
    (created : asyncStepSigLight tables configured address input binding = .entry data) :
    EntrySound tables data := by
  have sound (noErrors : sigLightErrors tables input = []) (bound : Option Binding) :
      EntrySound tables (sigLightData tables input (upper tables address) bound) := by
    obtain ⟨hasMac, hasType, -⟩ := sigLightData_beside tables input (upper tables address) bound
    exact ⟨⟨_, hasMac⟩, DEVICE_TYPE_SIG_LIGHT, hasType,
      .inr (.inl ⟨by decide, sigSound_of_form typed noErrors bound⟩)⟩
  simp only [asyncStepSigLight] at created
  split at created
  · exact absurd created (form_ne_entry _)
  next noErrors =>
  rw [ne_eq, not_not] at noErrors
  split at created
  · cases binding with
    | none => exact absurd created (form_ne_entry _)
    | some binding =>
      rw [entry_of_unlessConfigured created]
      exact sound noErrors (some binding)
  · rw [entry_of_unlessConfigured created]
    exact sound noErrors none

theorem asyncStepImport_sound {binding : Option Binding} (typed : input.IsTyped)
    (created : asyncStepImport tables configured input binding = .entry data) :
    EntrySound tables data := by
  simp only [asyncStepImport] at created
  split at created
  · exact absurd created (abort_ne_entry _)
  · exact asyncStepSigLight_sound typed created

theorem asyncStepSigBridge_sound {tested : Bool} (fits : sigBridgeSchema.fits input = true)
    (typed : input.IsTyped)
    (created : asyncStepSigBridge tables configured address input tested = .entry data) :
    EntrySound tables data := by
  obtain ⟨host, hasHost⟩ : ∃ host, input .bridgeHost = some (.str host) := fits_text fits rfl
  obtain ⟨text, hasTarget⟩ : ∃ text, input .unicastTarget = some (.str text) := fits_text fits rfl
  have hostText : input.get .bridgeHost (.str "") = .str host := by rw [ConfData.get, hasHost]; rfl
  have targetText : input.get .unicastTarget (.str "00B0") = .str text := by
    rw [ConfData.get, hasTarget]
    rfl
  simp only [asyncStepSigBridge, hostText, targetText] at created
  split at created
  · exact absurd created (form_ne_entry _)
  split at created
  · exact absurd created (form_ne_entry _)
  rw [entry_of_unlessConfigured created]
  exact ⟨⟨address, rfl⟩, DEVICE_TYPE_SIG_BRIDGE_PLUG, rfl,
    .inr (.inr ⟨by decide, ⟨host, rfl, typed _ _ hasHost⟩, fun _ => ⟨text, rfl⟩⟩)⟩

theorem asyncStepTelinkBridge_sound {tested : Bool} (fits : bridgeSchema.fits input = true)
    (typed : input.IsTyped)
    (created : asyncStepTelinkBridge tables configured address input tested = .entry data) :
    EntrySound tables data := by
  obtain ⟨host, hasHost⟩ : ∃ host, input .bridgeHost = some (.str host) := fits_text fits rfl
  have hostText : input.get .bridgeHost (.str "") = .str host := by rw [ConfData.get, hasHost]; rfl
  simp only [asyncStepTelinkBridge, hostText] at created
  split at created
  · exact absurd created (form_ne_entry _)
  split at created
  · exact absurd created (form_ne_entry _)
  rw [entry_of_unlessConfigured created]
  refine ⟨⟨address, rfl⟩, DEVICE_TYPE_TELINK_BRIDGE_LIGHT, rfl,
    .inr (.inr ⟨by decide, ⟨host, rfl, typed _ _ hasHost⟩, fun plug => ?_⟩)⟩
  exact absurd plug (by decide)

end Creation

/-! ### Runs -/

section Runs

variable {input data new : ConfData}

theorem entry_of_changed {errors : FormErrors} (stored : changed data input errors = .entry new) :
    errors = [] ∧ new = (data.update input).pop .adapter := by
  unfold changed at stored
  split at stored
  · exact absurd stored (form_ne_entry _)
  · next noErrors =>
    cases stored
    exact ⟨not_not.mp noErrors, rfl⟩

theorem bridgeSchema_changes : bridgeSchema.Changes := ⟨by decide, by decide⟩

theorem sigSchema_changes : sigSchema.Changes := ⟨by decide, by decide⟩

theorem meshSchema_changes : meshSchema.Changes := ⟨by decide, by decide⟩

theorem optionsSchema_changes (deviceType : String) (advanced : Bool) :
    (optionsSchema deviceType advanced).Changes := by
  unfold optionsSchema
  split
  · split
    · exact ⟨by decide, by decide⟩
    · exact bridgeSchema_changes
  · split
    · split
      · exact sigSchema_changes
      · exact ⟨by decide, by decide⟩
    · split
      · exact ⟨by decide, by decide⟩
      · exact meshSchema_changes

theorem asyncStepInit_sound {advanced : Bool} (sound : EntrySound tables data)
    (fits : (optionsSchema (deviceTypeOf data) advanced).fits input = true) (typed : input.IsTyped)
    (stored : asyncStepInit tables data input = .entry new) : EntrySound tables new := by
  obtain ⟨noErrors, rfl⟩ := entry_of_changed stored
  refine (sound.update (optionsSchema_changes _ advanced) fits typed fun sig => ?_).pop
  rw [if_pos sig, List.append_eq_nil_iff, List.append_eq_nil_iff] at noErrors
  have schema : optionsSchema (deviceTypeOf data) advanced = if advanced then sigSchema else [] := by
    simp [optionsSchema, (of_isSig sig).1, sig]
  rw [schema]
  cases advanced with
  | false => exact .inl ⟨rfl, rfl⟩
  | true => exact .inr ⟨rfl, noErrors.1.1⟩

theorem asyncStepReconfigure_sound {tested : Bool} (sound : EntrySound tables data)
    (fits : (reconfigureSchema (deviceTypeOf data)).fits input = true) (typed : input.IsTyped)
    (stored : asyncStepReconfigure tables data input tested = .entry new) :
    EntrySound tables new := by
  obtain ⟨noErrors, rfl⟩ := entry_of_changed stored
  have changes : (reconfigureSchema (deviceTypeOf data)).Changes := by
    unfold reconfigureSchema
    split
    · exact bridgeSchema_changes
    · split
      · exact sigSchema_changes
      · exact meshSchema_changes
  refine (sound.update changes fits typed fun sig => .inr ?_).pop
  have notBridge : ¬isBridge (deviceTypeOf data) = true := by
    rw [(of_isSig sig).1]
    exact Bool.false_ne_true
  rw [if_neg notBridge, if_pos sig] at noErrors
  exact ⟨by rw [reconfigureSchema, if_neg notBridge, if_pos sig], noErrors⟩

/-- A new login is stored as it is. -/
theorem asyncStepReauthConfirm_sound (sound : EntrySound tables data)
    (fits : (reauthSchema (deviceTypeOf data)).fits input = true) (typed : input.IsTyped) :
    EntrySound tables (data.update input) := by
  have changes : (reauthSchema (deviceTypeOf data)).Changes := by
    unfold reauthSchema
    split
    · exact bridgeSchema_changes
    · exact meshSchema_changes
  refine sound.update changes fits typed fun sig => .inl ?_
  rw [reauthSchema, (of_isSig sig).1]
  exact ⟨rfl, rfl⟩

/-- An entry, once there is one, is sound. -/
def Stored (tables : TextTables) (entry : Option ConfData) : Prop :=
  ∀ data, entry = some data → EntrySound tables data

variable {entry entry' : Option ConfData} {result : FlowResult}

theorem Stored.after (stored : Stored tables entry)
    (sound : ∀ data, result = .entry data → EntrySound tables data) :
    Stored tables (result.after entry) := by
  cases result with
  | form errors => exact stored
  | abort reason => exact stored
  | next step address => exact stored
  | entry data =>
    rintro _ ⟨⟩
    exact sound data rfl

theorem Stored.submitted {schema : Schema} (stored : Stored tables entry)
    (sound : schema.fits input = true → ∀ data, result = .entry data → EntrySound tables data)
    (stepped : submitted entry schema input result = some entry') : Stored tables entry' := by
  unfold ConfigFlow.submitted at stepped
  split at stepped
  · next fits =>
    cases stepped
    exact stored.after (sound fits)
  · cases stepped

/-- One step keeps what is stored sound. -/
theorem stepEntry_sound {event : EntryEvent} (stored : Stored tables entry)
    (plain : event.IsPlain tables) (stepped : stepEntry tables entry event = some entry') :
    Stored tables entry' := by
  cases event with
  | user advanced input validation =>
    exact stored.submitted (fun fits _ => asyncStepUser_sound fits plain) stepped
  | confirm address autoDeviceType advanced input validation =>
    obtain ⟨typedAddress, valid, typed⟩ := plain
    have mac := (macToBytes_of_validate typedAddress valid).1
    exact stored.submitted (fun fits _ => asyncStepConfirm_sound mac fits typed) stepped
  | sigPlug address provisioned =>
    obtain rfl := Option.some.inj stepped
    exact stored.after fun _ => asyncStepSigPlug_sound
  | sigLight address input binding =>
    exact stored.submitted (fun _ _ => asyncStepSigLight_sound plain) stepped
  | imported input binding =>
    obtain rfl := Option.some.inj stepped
    exact stored.after fun _ => asyncStepImport_sound plain
  | sigBridge address input tested =>
    exact stored.submitted (fun fits _ => asyncStepSigBridge_sound fits plain) stepped
  | telinkBridge address input tested =>
    exact stored.submitted (fun fits _ => asyncStepTelinkBridge_sound fits plain) stepped
  | options advanced input =>
    obtain ⟨data, rfl, stepped⟩ := Option.bind_eq_some_iff.mp stepped
    have sound := stored data rfl
    exact stored.submitted (fun fits _ => asyncStepInit_sound sound fits plain) stepped
  | reconfigure input tested =>
    obtain ⟨data, rfl, stepped⟩ := Option.bind_eq_some_iff.mp stepped
    have sound := stored data rfl
    exact stored.submitted (fun fits _ => asyncStepReconfigure_sound sound fits plain) stepped
  | reauthConfirm input =>
    obtain ⟨data, rfl, stepped⟩ := Option.bind_eq_some_iff.mp stepped
    have sound := stored data rfl
    refine stored.submitted (fun fits new stored => ?_) stepped
    cases stored
    exact asyncStepReauthConfirm_sound sound fits plain
  | migrate =>
    obtain ⟨data, rfl, rfl⟩ := Option.map_eq_some_iff.mp stepped
    rintro _ ⟨⟩
    exact (stored data rfl).pop

theorem exec_sound {events : List EntryEvent} (plain : ∀ event ∈ events, event.IsPlain tables)
    (ran : (configEntrySystem tables).exec none events = some entry) : Stored tables entry := by
  have guarded : (configEntrySystem tables).Guarded (fun _ event => event.IsPlain tables) none events :=
    (configEntrySystem tables).guarded_of_all (fun event member _ => plain event member) none
  refine (configEntrySystem tables).exec_invariant (Stored tables) ?_ ?_ guarded ran
  · exact fun _ _ _ stored plain stepped => stepEntry_sound stored plain stepped
  · rintro _ ⟨⟩

end Runs

/-! ### The device of an entry -/

/-- A SIG device can use what it is made with. Nothing goes wrong but that the number in the entry of
a SIG bridge plug, which the options store as it is, cannot be read. -/
def Serves (tables : TextTables) (data : ConfData) : Except SetupError AnyMeshDevice → Prop
  | .ok (.sigMeshDevice setup) => setup.Usable
  | .ok (.meshDevice _ _ _ _ vendorId macBytes) => vendorId.length = 2 ∧ macBytes.length = 6
  | .ok _ => True
  | .error error => error = .raised .valueError ∧
    data .deviceType = some (.str DEVICE_TYPE_SIG_BRIDGE_PLUG) ∧
      ∃ text, data .unicastTarget = some (.str text) ∧ tables.readInt 16 text.toList = none

section Devices

variable {data : ConfData} {deviceType macAddress : String}

theorem createDevice_direct (direct : isDirect deviceType = true) :
    createDevice tables deviceType macAddress data =
      createDefaultMeshDevice tables macAddress data := by
  obtain ⟨notSig, notBridge⟩ := of_isDirect direct
  simp only [isSig, isBridge, Bool.or_eq_false_iff, decide_eq_false_iff_not] at notSig notBridge
  rw [createDevice, if_neg (not_or.mpr notSig), if_neg notBridge.1, if_neg notBridge.2]

theorem createDevice_sig (sig : isSig deviceType = true) :
    createDevice tables deviceType macAddress data =
      .sigMeshDevice <$> createSigPlug tables macAddress data := by
  have isType : deviceType = DEVICE_TYPE_SIG_PLUG ∨ deviceType = DEVICE_TYPE_SIG_LIGHT := by
    simpa [isSig] using sig
  rw [createDevice, if_pos isType]

/-- A bridge of either kind, by the host that it stores. -/
theorem createDevice_bridge (bridge : isBridge deviceType = true)
    (hasType : data .deviceType = some (.str deviceType)) (host : IsHost (data .bridgeHost))
    (unicast : deviceType = DEVICE_TYPE_SIG_BRIDGE_PLUG →
      ∃ text, data .unicastTarget = some (.str text)) :
    Serves tables data (createDevice tables deviceType macAddress data) := by
  obtain ⟨host, hasHost, typed⟩ := host
  have notSig := (of_isBridge bridge).1
  simp only [isSig, Bool.or_eq_false_iff, decide_eq_false_iff_not] at notSig
  rw [createDevice, if_neg (not_or.mpr notSig)]
  split
  · next plug =>
    obtain ⟨text, hasTarget⟩ := unicast plug
    have target : data.get .unicastTarget (.str "00B0") = .str text := by
      rw [ConfData.get, hasTarget]
      rfl
    rw [createSigBridgePlug, target, intOfHex]
    cases read : tables.readInt 16 text.toList with
    | none => exact ⟨rfl, plug ▸ hasType, text, hasTarget, read⟩
    | some address =>
      rw [item, hasHost]
      change Serves tables data (bridgeHostText (.str host) >>= _)
      rw [bridgeHostText_ok typed]
      trivial
  · next notPlug =>
    have telink : deviceType = DEVICE_TYPE_TELINK_BRIDGE_LIGHT := by
      simpa [isBridge, notPlug] using bridge
    rw [if_pos telink, createTelinkBridgeLight, item, hasHost]
    change Serves tables data (bridgeHostText (.str host) >>= _)
    rw [bridgeHostText_ok typed]
    trivial

theorem EntrySound.serves (sound : EntrySound tables data) :
    Serves tables data (setupDevice tables data) := by
  obtain ⟨⟨mac, hasMac⟩, deviceType, hasType, kind⟩ := sound
  have typeOf : data.get .deviceType (.str "") = .str deviceType := by
    rw [ConfData.get, hasType]
    rfl
  have start : setupDevice tables data = createDevice tables deviceType mac data := by
    rw [setupDevice, item, hasMac, typeOf]
    rfl
  rw [start]
  rcases kind with ⟨direct, sound⟩ | ⟨sig, sound⟩ | ⟨bridge, host, unicast⟩
  · obtain ⟨address, name, password, meshId, vendorId, macBytes, created, sizes⟩ :=
      createDefaultMeshDevice_ok sound hasMac
    rw [createDevice_direct direct, created]
    exact sizes
  · obtain ⟨setup, created, usable⟩ := createSigPlug_ok sound mac
    rw [createDevice_sig sig, created]
    exact usable
  · exact createDevice_bridge bridge hasType host unicast

end Devices

/-- An input with the fields. -/
def given (fields : List (ConfKey × ConfValue)) : ConfData := fun key => fields.lookup key

theorem given_typed {fields : List (ConfKey × ConfValue)}
    (typed : ∀ field ∈ fields, Typed field.2.toText.toList) : (given fields).IsTyped := by
  intro key value found
  induction fields with
  | nil => cases found
  | cons field fields ih =>
    obtain ⟨name, first⟩ := field
    obtain ⟨typedFirst, others⟩ := List.forall_mem_cons.mp typed
    simp only [given, List.lookup_cons] at found
    split at found
    · cases found
      exact typedFirst
    · exact ih others found

/-- Texts of ASCII letters and digits. -/
def asciiTables : TextTables where
  decimal _ := false
  alphanumeric _ := false
  space _ := false
  upper c := [c]
  digit _ := none
  upper_space _ _ := rfl

def plugKey : MeshKey := ⟨List.replicate 16 0x7D, rfl⟩

/-- A plug is provisioned, gets another address and is logged in to again. -/
def plugEvents : List EntryEvent :=
  [.sigPlug "DC:23:4F:10:52:C4" (.ok (plugKey, plugKey, plugKey)),
    .options true (given [(.unicastTarget, .str " 00c0"), (.ivIndex, .int 7)]),
    .reauthConfirm (given [(.meshName, .str "out_of_mesh"), (.meshPassword, .str "")])]

theorem plugEvents_plain : ∀ event ∈ plugEvents, event.IsPlain asciiTables := by
  have last (event : EntryEvent) (none : event ∈ []) : event.IsPlain asciiTables := by
    cases none
  simp only [plugEvents, List.forall_mem_cons]
  refine ⟨trivial, given_typed ?_, given_typed ?_, last⟩
  · simp only [List.forall_mem_cons]
    exact ⟨typed_of_all (by decide), typed_of_all (by decide +kernel), by rintro _ ⟨⟩⟩
  · simp only [List.forall_mem_cons]
    exact ⟨typed_of_all (by decide), typed_of_all (by decide +kernel), by rintro _ ⟨⟩⟩

-- The options of a bridge take any text for the number of its plug.
example : (((configEntrySystem asciiTables).exec none
    [.sigBridge "DC:23:4F:10:52:C4" (given [(.bridgeHost, .str "192.168.1.9"),
        (.bridgePort, .int 8099), (.unicastTarget, .str "00B0")]) true,
      .options true (given [(.bridgeHost, .str "192.168.1.9"), (.bridgePort, .int 8099),
        (.unicastTarget, .str "plug")])]).bind id).map
      (fun data => (setupDevice asciiTables data).isOk) = some false := by decide

end TuyaBleMesh.ConfigFlow

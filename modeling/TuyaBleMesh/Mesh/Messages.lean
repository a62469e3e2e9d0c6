import TuyaBleMesh.Mesh.SegmentRoundTrip

/-!
# Messages to a device

The access payloads that the commands of a SIG Mesh device send, from
`sig_mesh_protocol_codec.py`, and the kind of error with which a message or a PDU
cannot be made.
-/

namespace TuyaBleMesh

def OP_CONFIG_COMPOSITION_GET : Nat := 0x8008
def OP_CONFIG_APPKEY_ADD : Nat := 0x0000
def OP_CONFIG_MODEL_APP_BIND : Nat := 0x803D
def OP_GENERIC_ONOFF_SET : Nat := 0x8202
def OP_GENERIC_LEVEL_SET : Nat := 0x8206
def OP_LIGHT_LIGHTNESS_SET : Nat := 0x824C

/-- `struct.pack("<H", v)`, for `v` in range. -/
def packLE16 (v : Int) : Bytes := (Bytes.beBytes 2 v.toNat).reverse

/-! ### Config model messages -/

def configCompositionGet (page : Int) : Except PyError Bytes :=
  if ¬(0 ≤ page ∧ page ≤ 0xFF) then .error (.protocolError s!"Page must be 0..255, got {page}")
  else .ok (Bytes.beBytes 2 OP_CONFIG_COMPOSITION_GET ++ [UInt8.ofNat page.toNat])

/-- The key indexes as AppKey Add and AppKey Status carry them. -/
def packKeyIndexes (netIdx appIdx : Int) : Bytes :=
  let idx := (netIdx.toNat &&& 0xFFF) ||| ((appIdx.toNat &&& 0xFFF) <<< 12)
  (Bytes.beBytes 4 idx).reverse.take 3

def configAppkeyAdd (netIdx appIdx : Int) (appKey : Bytes) : Except PyError Bytes :=
  if ¬(0 ≤ netIdx ∧ netIdx ≤ 0xFFF) then
    .error (.protocolError s!"net_idx must be 0..0xFFF, got {netIdx}")
  else if ¬(0 ≤ appIdx ∧ appIdx ≤ 0xFFF) then
    .error (.protocolError s!"app_idx must be 0..0xFFF, got {appIdx}")
  else if appKey.length ≠ 16 then
    .error (.protocolError s!"app_key must be 16 bytes, got {appKey.length}")
  else .ok ([UInt8.ofNat OP_CONFIG_APPKEY_ADD] ++ packKeyIndexes netIdx appIdx ++ appKey)

def configModelAppBind (elementAddr appIdx modelId : Int) : Except PyError Bytes :=
  if ¬(0 ≤ elementAddr ∧ elementAddr ≤ 0xFFFF) then
    .error (.protocolError s!"element_addr must be 0..0xFFFF, got {elementAddr}")
  else if ¬(0 ≤ appIdx ∧ appIdx ≤ 0xFFF) then
    .error (.protocolError s!"app_idx must be 0..0xFFF, got {appIdx}")
  else if ¬(0 ≤ modelId ∧ modelId ≤ 0xFFFF) then
    .error (.protocolError s!"model_id must be 0..0xFFFF, got {modelId}")
  else
    .ok (Bytes.beBytes 2 OP_CONFIG_MODEL_APP_BIND ++ packLE16 elementAddr ++ packLE16 appIdx ++
      packLE16 modelId)

/-! ### Generic and light models -/

def genericOnoffSet (on : Bool) (tid : Nat) : Bytes :=
  Bytes.beBytes 2 OP_GENERIC_ONOFF_SET ++ [if on then 0x01 else 0x00, UInt8.ofNat (tid &&& 0xFF)]

def genericLevelSet (level : Int) (tid : Nat) : Except PyError Bytes :=
  if ¬(-32768 ≤ level ∧ level ≤ 32767) then
    .error (.protocolError s!"level must be -32768..32767, got {level}")
  else
    -- two's complement
    .ok (Bytes.beBytes 2 OP_GENERIC_LEVEL_SET ++ packLE16 (level % 65536) ++
      [UInt8.ofNat (tid &&& 0xFF)])

def lightLightnessSet (lightness : Int) (tid : Nat) : Except PyError Bytes :=
  if ¬(0 ≤ lightness ∧ lightness ≤ 0xFFFF) then
    .error (.protocolError s!"lightness must be 0..65535, got {lightness}")
  else
    .ok (Bytes.beBytes 2 OP_LIGHT_LIGHTNESS_SET ++ packLE16 lightness ++
      [UInt8.ofNat (tid &&& 0xFF)])

/-! ### Their errors -/

section Messages

theorem configAppkeyAdd_errors (netIdx appIdx : Int) (appKey : Bytes) :
    OnlyRaises PyError.isTuyaBleMeshError (configAppkeyAdd netIdx appIdx appKey) := by
  refine .ite (fun _ => .error rfl) fun _ => .ite (fun _ => .error rfl) fun _ => ?_
  exact .ite (fun _ => .error rfl) fun _ => .ok _

/-- One byte of opcode, three of indexes and the key. -/
theorem configAppkeyAdd_length {netIdx appIdx : Int} {appKey payload : Bytes}
    (made : configAppkeyAdd netIdx appIdx appKey = .ok payload) : payload.length = 20 := by
  unfold configAppkeyAdd at made
  split at made
  · cases made
  · split at made
    · cases made
    · split at made
      · cases made
      · next valid =>
        cases made
        simp [packKeyIndexes, Decidable.not_not.mp valid]

theorem configModelAppBind_errors (elementAddr appIdx modelId : Int) :
    OnlyRaises PyError.isTuyaBleMeshError (configModelAppBind elementAddr appIdx modelId) := by
  refine .ite (fun _ => .error rfl) fun _ => .ite (fun _ => .error rfl) fun _ => ?_
  exact .ite (fun _ => .error rfl) fun _ => .ok _

theorem genericLevelSet_errors (level : Int) (tid : Nat) :
    OnlyRaises PyError.isTuyaBleMeshError (genericLevelSet level tid) :=
  .ite (fun _ => .error rfl) fun _ => .ok _

theorem lightLightnessSet_errors (lightness : Int) (tid : Nat) :
    OnlyRaises PyError.isTuyaBleMeshError (lightLightnessSet lightness tid) :=
  .ite (fun _ => .error rfl) fun _ => .ok _

end Messages

section Pdus

variable {suite : CipherSuite} {key : Bytes} {src dst seq ivIndex : Nat} {payload : Bytes}
  {akf aid : Nat}

theorem meshAesCcmEncrypt_errors (nonce plaintext : Bytes) (micLen : Nat) :
    OnlyRaises PyError.isTuyaBleMeshError (meshAesCcmEncrypt suite key nonce plaintext micLen) := by
  refine OnlyRaises.bind ?_ fun _ _ => OnlyRaises.ite (fun _ => .ok _) fun _ => .error rfl
  unfold validateKey
  split
  · exact .ok _
  · exact .error rfl

/-- In range, an unsegmented message has a PDU, or its payload is too long or its key is no
AES key. -/
theorem makeAccessUnsegmented_errors (akf_le : akf ≤ 1) (seq_lt : seq < 256 ^ 4)
    (src_lt : src < 256 ^ 2) (dst_lt : dst < 256 ^ 2) (ivIndex_lt : ivIndex < 256 ^ 4) :
    OnlyRaises PyError.isTuyaBleMeshError
      (makeAccessUnsegmented suite key src dst seq ivIndex payload akf aid) := by
  refine .ite (fun _ => .error rfl) fun _ => ?_
  rw [makeAppNonce_ok akf (Nat.zero_le 1) seq_lt src_lt dst_lt ivIndex_lt]
  refine (meshAesCcmEncrypt_errors _ _ _).bind fun encrypted _ => ?_
  obtain ⟨header, header_lt⟩ := accessHeader_eq akf_le aid
  rw [header, byteOf_ok (Nat.lt_trans header_lt (by decide))]
  exact OnlyRaises.ok _

theorem makeAccessUnsegmented_nonempty {transportPdu : Bytes}
    (made : makeAccessUnsegmented suite key src dst seq ivIndex payload akf aid =
      .ok transportPdu) : transportPdu ≠ [] := by
  unfold makeAccessUnsegmented at made
  split at made
  · cases made
  · simp only [bind, Except.bind] at made
    split at made
    · cases made
    · split at made
      · cases made
      · split at made
        · cases made
        · cases made
          exact List.cons_ne_nil _ _

end Pdus

end TuyaBleMesh

import TuyaBleMesh.Lib.Hex
import TuyaBleMesh.Mesh.Protocol
import TuyaBleMesh.Mesh.Rfc4493

/-!
# The keys of a network

`MeshKeys` and the functions that derive it, in the library and in the copy of
`scripts/mesh_proxy_cmd.py`. The library checks the length of a key itself. The script
leaves that to AES, which also takes keys of 24 and 32 bytes.
-/

namespace TuyaBleMesh

open Bytes

/-- The attributes of `MeshKeys`. -/
structure DerivedKeys where
  netKey : Bytes
  devKey : Bytes
  appKey : Option Bytes
  ivIndex : Nat
  nid : Nat
  encKey : Bytes
  privKey : Bytes
  networkId : Bytes
  aid : Nat
  deriving DecidableEq, Repr

/-- `bytes.fromhex`. -/
def fromHex (text : String) : Except PyError Bytes :=
  match bytesFromHex text.toList with
  | some bytes => .ok bytes
  | none => .error .valueError

/-- `bytes.fromhex(app_key_hex) if app_key_hex else None`. -/
def appKeyFromHex : Option String → Except PyError (Option Bytes)
  | none => .ok none
  | some text => if text = "" then .ok none else some <$> fromHex text

theorem fromHex_error {text : String} {error : PyError} (failed : fromHex text = .error error) :
    error = .valueError := by
  unfold fromHex at failed
  split at failed
  · cases failed
  · cases failed
    rfl

theorem appKeyFromHex_error {text : Option String} {error : PyError}
    (failed : appKeyFromHex text = .error error) : error = .valueError := by
  cases text with
  | none => cases failed
  | some text =>
    rw [appKeyFromHex] at failed
    split at failed
    · cases failed
    · cases hex : fromHex text with
      | error error' =>
        rw [hex] at failed
        cases failed
        exact fromHex_error hex
      | ok bytes =>
        rw [hex] at failed
        cases failed

def smk2 : Bytes := [0x73, 0x6D, 0x6B, 0x32]
def smk3 : Bytes := [0x73, 0x6D, 0x6B, 0x33]
def smk4 : Bytes := [0x73, 0x6D, 0x6B, 0x34]
def id64 : Bytes := [0x69, 0x64, 0x36, 0x34]
def id6 : Bytes := [0x69, 0x64, 0x36]

/-! ### The library -/

section Library

variable (suite : CipherSuite)

def k2 (n p : Bytes) : Except PyError (Nat × Bytes × Bytes) := do
  let _ ← validateKey n
  let salt ← suite.macSuite.s1 smk2
  let t ← aesCmac suite salt n
  let t1 ← aesCmac suite t (p ++ [0x01])
  let t2 ← aesCmac suite t (t1 ++ p ++ [0x02])
  let t3 ← aesCmac suite t (t2 ++ p ++ [0x03])
  return ((← index t1 15).toNat &&& 0x7F, t2, t3)

def k3 (n : Bytes) : Except PyError Bytes := do
  let _ ← validateKey n
  let salt ← suite.macSuite.s1 smk3
  let t ← aesCmac suite salt n
  return (← aesCmac suite t (id64 ++ [0x01])).drop 8

def k4 (n : Bytes) : Except PyError Nat := do
  let _ ← validateKey n
  let salt ← suite.macSuite.s1 smk4
  let t ← aesCmac suite salt n
  return (← index (← aesCmac suite t (id6 ++ [0x01])) 15).toNat &&& 0x3F

/-- `k4(self.app_key) if self.app_key else 0`. -/
def appKeyAid (k4 : Bytes → Except PyError Nat) : Option Bytes → Except PyError Nat
  | none => .ok 0
  | some appKey => if appKey = [] then .ok 0 else k4 appKey

/-- `MeshKeys.__init__`. -/
def deriveKeys (netKeyHex devKeyHex : String) (appKeyHex : Option String) (ivIndex : Nat) :
    Except PyError DerivedKeys := do
  let netKey ← fromHex netKeyHex
  let devKey ← fromHex devKeyHex
  let appKey ← appKeyFromHex appKeyHex
  let (nid, encKey, privKey) ← k2 suite netKey [0x00]
  let networkId ← k3 suite netKey
  let aid ← appKeyAid (k4 suite) appKey
  return { netKey, devKey, appKey, ivIndex, nid, encKey, privKey, networkId, aid }

end Library

/-! ### The script -/

/-- The primitives with all their keys: AES and AESCCM take 16, 24 and 32 bytes. -/
structure CipherLibrary extends CipherSuite where
  aesLong (key : Bytes) (plaintext : Block) : Block
  ccmEncryptLong (key : Bytes) (tagLength : Nat) (nonce plaintext : Bytes) : Bytes
  ccmDecryptLong (key : Bytes) (tagLength : Nat) (nonce data : Bytes) : Option Bytes

/-- The primitives under one long key. -/
def CipherLibrary.under (lib : CipherLibrary) (key : Bytes) : CipherSuite where
  aes _ := lib.aesLong key
  ccmEncrypt _ := lib.ccmEncryptLong key
  ccmDecrypt _ := lib.ccmDecryptLong key

/-- The primitives for a key, and the key: `algorithms.AES` raises for other lengths. -/
def CipherLibrary.keyed (lib : CipherLibrary) (key : Bytes) : Except PyError (CipherSuite × Block) :=
  if valid : key.length = _AES_BLOCK_SIZE then .ok (lib.toCipherSuite, ⟨key, valid⟩)
  else if key.length = 24 ∨ key.length = 32 then .ok (lib.under key, .zero)
  else .error .valueError

namespace MeshProxyCmd

section Script

variable (lib : CipherLibrary)

/-- `aes_cmac`, for a key of any length. -/
def cmac (key msg : Bytes) : Except PyError Bytes := do
  let (suite, key) ← lib.keyed key
  aesCmac suite key msg

def s1 (m : Bytes) : Except PyError Bytes := cmac lib (List.replicate 16 0x00) m

def k2 (n p : Bytes) : Except PyError (Nat × Bytes × Bytes) := do
  let salt ← s1 lib smk2
  let t ← cmac lib salt n
  let t1 ← cmac lib t (p ++ [0x01])
  let t2 ← cmac lib t (t1 ++ p ++ [0x02])
  let t3 ← cmac lib t (t2 ++ p ++ [0x03])
  return ((← index t1 15).toNat &&& 0x7F, t2, t3)

def k3 (n : Bytes) : Except PyError Bytes := do
  let salt ← s1 lib smk3
  let t ← cmac lib salt n
  return (← cmac lib t (id64 ++ [0x01])).drop 8

def k4 (n : Bytes) : Except PyError Nat := do
  let salt ← s1 lib smk4
  let t ← cmac lib salt n
  return (← index (← cmac lib t (id6 ++ [0x01])) 15).toNat &&& 0x3F

/-- `MeshKeys.__init__`. -/
def deriveKeys (netKeyHex devKeyHex : String) (appKeyHex : Option String) (ivIndex : Nat) :
    Except PyError DerivedKeys := do
  let netKey ← fromHex netKeyHex
  let devKey ← fromHex devKeyHex
  let appKey ← appKeyFromHex appKeyHex
  let (nid, encKey, privKey) ← k2 lib netKey [0x00]
  let networkId ← k3 lib netKey
  let aid ← appKeyAid (k4 lib) appKey
  return { netKey, devKey, appKey, ivIndex, nid, encKey, privKey, networkId, aid }

end Script

/-! ### Agreement -/

section Agreement

variable (lib : CipherLibrary)

/-- Both make the same MAC, and it can be a key again. -/
theorem cmac_agree {key : Bytes} (validKey : key.length = _AES_BLOCK_SIZE) (msg : Bytes) :
    ∃ mac, cmac lib key msg = .ok mac ∧ TuyaBleMesh.aesCmac lib.toCipherSuite key msg = .ok mac ∧
      mac.length = _AES_BLOCK_SIZE := by
  obtain ⟨library, script⟩ := aesCmac_rfc4493 lib.toCipherSuite ⟨key, validKey⟩ msg
  refine ⟨_, ?_, library, (Rfc4493.mac _ _).property⟩
  rw [cmac, CipherLibrary.keyed, dif_pos validKey]
  exact script.trans library

theorem s1_agree {m : Bytes} (some : m ≠ []) :
    ∃ salt, s1 lib m = .ok salt ∧ lib.macSuite.s1 m = .ok salt ∧ salt.length = _AES_BLOCK_SIZE := by
  have sixteen : (List.replicate 16 (0x00 : UInt8)).length = _AES_BLOCK_SIZE :=
    List.length_replicate
  obtain ⟨salt, script, library, length⟩ := cmac_agree lib sixteen m
  refine ⟨salt, script, ?_, length⟩
  have nonempty : m.isEmpty = false := by
    rw [List.isEmpty_eq_false_iff]
    exact some
  rw [MacSuite.s1, nonempty]
  exact library

theorem last_byte {mac : Bytes} (length : mac.length = _AES_BLOCK_SIZE) :
    ∃ byte, index mac 15 = .ok byte := by
  have inside : 15 < mac.length := by
    rw [length]
    decide
  exact ⟨mac[15], by rw [index, List.getElem?_eq_getElem inside]⟩

theorem k2_agree (n p : Bytes) : ∃ nid encKey privKey,
    k2 lib n p = .ok (nid, encKey, privKey) ∧
    TuyaBleMesh.k2 lib.toCipherSuite n p = (validateKey n >>= fun _ => .ok (nid, encKey, privKey)) ∧
    nid < 128 ∧ encKey.length = _AES_BLOCK_SIZE ∧ privKey.length = _AES_BLOCK_SIZE := by
  obtain ⟨salt, salt_s, salt_l, salt_16⟩ := s1_agree lib (show smk2 ≠ [] by decide)
  obtain ⟨t, t_s, t_l, t_16⟩ := cmac_agree lib salt_16 n
  obtain ⟨t1, t1_s, t1_l, t1_16⟩ := cmac_agree lib t_16 (p ++ [0x01])
  obtain ⟨t2, t2_s, t2_l, t2_16⟩ := cmac_agree lib t_16 (t1 ++ p ++ [0x02])
  obtain ⟨t3, t3_s, t3_l, t3_16⟩ := cmac_agree lib t_16 (t2 ++ p ++ [0x03])
  obtain ⟨byte, last⟩ := last_byte t1_16
  have seven : byte.toNat &&& 0x7F < 2 ^ 7 := Nat.and_lt_two_pow byte.toNat (by decide)
  refine ⟨byte.toNat &&& 0x7F, t2, t3, ?_, ?_, seven, t2_16, t3_16⟩
  · simp only [k2, salt_s, t_s, t1_s, t2_s, t3_s, last, bind, Except.bind, pure, Except.pure]
  · simp only [TuyaBleMesh.k2, salt_l, t_l, t1_l, t2_l, t3_l, last, bind, Except.bind, pure,
      Except.pure]

theorem k3_agree (n : Bytes) : ∃ networkId, k3 lib n = .ok networkId ∧
    TuyaBleMesh.k3 lib.toCipherSuite n = (validateKey n >>= fun _ => .ok networkId) := by
  obtain ⟨salt, salt_s, salt_l, salt_16⟩ := s1_agree lib (show smk3 ≠ [] by decide)
  obtain ⟨t, t_s, t_l, t_16⟩ := cmac_agree lib salt_16 n
  obtain ⟨mac, mac_s, mac_l, -⟩ := cmac_agree lib t_16 (id64 ++ [0x01])
  refine ⟨mac.drop 8, ?_, ?_⟩
  · simp only [k3, salt_s, t_s, mac_s, bind, Except.bind, pure, Except.pure]
  · simp only [TuyaBleMesh.k3, salt_l, t_l, mac_l, bind, Except.bind, pure, Except.pure]

theorem k4_agree (n : Bytes) : ∃ aid, k4 lib n = .ok aid ∧
    TuyaBleMesh.k4 lib.toCipherSuite n = (validateKey n >>= fun _ => .ok aid) := by
  obtain ⟨salt, salt_s, salt_l, salt_16⟩ := s1_agree lib (show smk4 ≠ [] by decide)
  obtain ⟨t, t_s, t_l, t_16⟩ := cmac_agree lib salt_16 n
  obtain ⟨mac, mac_s, mac_l, mac_16⟩ := cmac_agree lib t_16 (id6 ++ [0x01])
  obtain ⟨byte, last⟩ := last_byte mac_16
  refine ⟨byte.toNat &&& 0x3F, ?_, ?_⟩
  · simp only [k4, salt_s, t_s, mac_s, last, bind, Except.bind, pure, Except.pure]
  · simp only [TuyaBleMesh.k4, salt_l, t_l, mac_l, last, bind, Except.bind, pure, Except.pure]

end Agreement

end MeshProxyCmd

/-- The check of an application key, where there is one. -/
def checkAppKey : Option Bytes → Except PyError Unit
  | none => .ok ()
  | some appKey => if appKey = [] then .ok () else validateKey appKey >>= fun _ => .ok ()

theorem appKeyAid_agree (lib : CipherLibrary) (appKey : Option Bytes) : ∃ aid,
    appKeyAid (MeshProxyCmd.k4 lib) appKey = .ok aid ∧
    appKeyAid (k4 lib.toCipherSuite) appKey = (checkAppKey appKey >>= fun _ => .ok aid) := by
  cases appKey with
  | none => exact ⟨0, rfl, rfl⟩
  | some key =>
    by_cases empty : key = []
    · refine ⟨0, if_pos empty, ?_⟩
      rw [appKeyAid, checkAppKey, if_pos empty, if_pos empty]
      rfl
    · obtain ⟨aid, script, library⟩ := MeshProxyCmd.k4_agree lib key
      refine ⟨aid, ?_, ?_⟩
      · rw [appKeyAid, if_neg empty, script]
      · rw [appKeyAid, if_neg empty, library, checkAppKey, if_neg empty]
        cases validateKey key with
        | error error => rfl
        | ok block => rfl

/-- The keys whose length the library checks, in its order. -/
def DerivedKeys.checkLengths (keys : DerivedKeys) : Except PyError Unit := do
  let _ ← validateKey keys.netKey
  checkAppKey keys.appKey

/-- For every cipher and every text of the keys, the library derives what the script does, behind
a check of the lengths that the script does not make: it derives keys from whatever is
hexadecimal, and they are good for the network layer. -/
theorem deriveKeys_agree (lib : CipherLibrary) (netKeyHex devKeyHex : String)
    (appKeyHex : Option String) (ivIndex : Nat) :
    (deriveKeys lib.toCipherSuite netKeyHex devKeyHex appKeyHex ivIndex = do
      let keys ← MeshProxyCmd.deriveKeys lib netKeyHex devKeyHex appKeyHex ivIndex
      keys.checkLengths
      return keys) ∧
    (∀ keys, MeshProxyCmd.deriveKeys lib netKeyHex devKeyHex appKeyHex ivIndex = .ok keys →
      keys.nid < 128 ∧ keys.encKey.length = 16 ∧ keys.privKey.length = 16) ∧
    (MeshProxyCmd.deriveKeys lib netKeyHex devKeyHex appKeyHex ivIndex = .error .valueError ↔
      fromHex netKeyHex = .error .valueError ∨ fromHex devKeyHex = .error .valueError ∨
        appKeyFromHex appKeyHex = .error .valueError) ∧
    ∀ error, MeshProxyCmd.deriveKeys lib netKeyHex devKeyHex appKeyHex ivIndex = .error error →
      error = .valueError := by
  unfold deriveKeys MeshProxyCmd.deriveKeys
  cases netText : fromHex netKeyHex with
  | error error =>
    cases fromHex_error netText
    exact ⟨rfl, nofun, iff_of_true rfl (.inl rfl), by rintro _ ⟨⟩; rfl⟩
  | ok netKey =>
    cases devText : fromHex devKeyHex with
    | error error =>
      cases fromHex_error devText
      exact ⟨rfl, nofun, iff_of_true rfl (.inr (.inl rfl)), by rintro _ ⟨⟩; rfl⟩
    | ok devKey =>
      cases appText : appKeyFromHex appKeyHex with
      | error error =>
        cases appKeyFromHex_error appText
        exact ⟨rfl, nofun, iff_of_true rfl (.inr (.inr rfl)), by rintro _ ⟨⟩; rfl⟩
      | ok appKey =>
        obtain ⟨nid, encKey, privKey, k2_s, k2_l, good⟩ := MeshProxyCmd.k2_agree lib netKey [0x00]
        obtain ⟨networkId, k3_s, k3_l⟩ := MeshProxyCmd.k3_agree lib netKey
        obtain ⟨aid, aid_s, aid_l⟩ := appKeyAid_agree lib appKey
        simp only [k2_s, k2_l, k3_s, k3_l, aid_s, aid_l, DerivedKeys.checkLengths, bind,
          Except.bind, pure, Except.pure]
        refine ⟨?_, ?_, ?_, ?_⟩
        · cases validateKey netKey with
          | error error => rfl
          | ok block => cases checkAppKey appKey <;> rfl
        · rintro keys ⟨⟩
          exact good
        · exact iff_of_false nofun (by rintro (bad | bad | bad) <;> cases bad)
        · exact nofun

end TuyaBleMesh

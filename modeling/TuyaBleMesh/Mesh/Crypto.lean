import TuyaBleMesh.Exceptions
import TuyaBleMesh.Lib.Bytes

/-!
# Cryptographic primitives

Python's byte and `struct` operations as far as the mesh code uses them, and the
AES-ECB and AES-CCM wrappers of `sig_mesh_crypto.py` over the primitives of the
`cryptography` package, which are a parameter.
-/

namespace TuyaBleMesh

/-! ### Byte operations that may raise -/

/-- `data[i]`. -/
def index (data : Bytes) (i : Nat) : Except PyError UInt8 :=
  match data[i]? with
  | some b => .ok b
  | none => .error .indexError

/-- The byte `bytes([v])` consists of. -/
def byteOf (v : Nat) : Except PyError UInt8 :=
  if v < 256 then .ok (UInt8.ofNat v) else .error .valueError

/-- `struct.pack(">H", v)` for `n = 2`, `struct.pack(">I", v)` for `n = 4`. -/
def packBE (n v : Nat) : Except PyError Bytes :=
  if v < 256 ^ n then .ok (Bytes.beBytes n v) else .error .structError

@[simp] theorem index_nil (i : Nat) : index [] i = .error .indexError := rfl

@[simp] theorem index_cons_zero (b : UInt8) (bs : Bytes) : index (b :: bs) 0 = .ok b := rfl

@[simp] theorem index_cons_succ (b : UInt8) (bs : Bytes) (i : Nat) :
    index (b :: bs) (i + 1) = index bs i := rfl

theorem byteOf_ok {v : Nat} (fits : v < 256) : byteOf v = .ok (UInt8.ofNat v) := if_pos fits

theorem packBE_ok {n v : Nat} (fits : v < 256 ^ n) : packBE n v = .ok (Bytes.beBytes n v) :=
  if_pos fits

/-! ### AES -/

def _AES_BLOCK_SIZE : Nat := 16

abbrev Block := { b : Bytes // b.length = _AES_BLOCK_SIZE }

/-- The primitives: AES on one block, and AESCCM with empty associated data. -/
structure CipherSuite where
  aes (key plaintext : Block) : Block
  ccmEncrypt (key : Block) (tagLength : Nat) (nonce plaintext : Bytes) : Bytes
  /-- `none` is `InvalidTag`. -/
  ccmDecrypt (key : Block) (tagLength : Nat) (nonce data : Bytes) : Option Bytes

/-- The nonces and tag lengths the mesh code uses. -/
def CcmParameters (tagLength : Nat) (nonce : Bytes) : Prop :=
  (tagLength = 4 ∨ tagLength = 8) ∧ nonce.length = 13

/-- Decryption inverts encryption, and the tag is what encryption adds. -/
class LawfulCcm (suite : CipherSuite) : Prop where
  decrypt_encrypt : ∀ key tagLength nonce plaintext, CcmParameters tagLength nonce →
    suite.ccmDecrypt key tagLength nonce (suite.ccmEncrypt key tagLength nonce plaintext) =
      some plaintext
  encrypt_length : ∀ key tagLength nonce plaintext, CcmParameters tagLength nonce →
    (suite.ccmEncrypt key tagLength nonce plaintext).length = plaintext.length + tagLength

/-- What authenticates is a plaintext followed by its tag. -/
class CcmTagged (suite : CipherSuite) : Prop where
  decrypt_length : ∀ key tagLength nonce data plaintext, CcmParameters tagLength nonce →
    suite.ccmDecrypt key tagLength nonce data = some plaintext →
      data.length = plaintext.length + tagLength

def validateKey (key : Bytes) : Except PyError Block :=
  if valid : key.length = _AES_BLOCK_SIZE then .ok ⟨key, valid⟩
  else .error (.cryptoError s!"Key must be {_AES_BLOCK_SIZE} bytes, got {key.length}")

theorem validateKey_ok {key : Bytes} (valid : key.length = _AES_BLOCK_SIZE) :
    validateKey key = .ok ⟨key, valid⟩ := dif_pos valid

def aesEcb (suite : CipherSuite) (key plaintext : Bytes) : Except PyError Bytes := do
  let key ← validateKey key
  if valid : plaintext.length = _AES_BLOCK_SIZE then
    .ok (suite.aes key ⟨plaintext, valid⟩).val
  else
    .error (.cryptoError
      s!"Plaintext must be {_AES_BLOCK_SIZE} bytes, got {plaintext.length}")

def micLenError (micLen : Nat) : PyError :=
  .cryptoError s!"mic_len must be 4 or 8, got {micLen}"

def meshAesCcmEncrypt (suite : CipherSuite) (key nonce plaintext : Bytes) (micLen : Nat) :
    Except PyError Bytes := do
  let key ← validateKey key
  if micLen = 4 ∨ micLen = 8 then .ok (suite.ccmEncrypt key micLen nonce plaintext)
  else .error (micLenError micLen)

def meshAesCcmDecrypt (suite : CipherSuite) (key nonce ctAndMic : Bytes) (micLen : Nat) :
    Except PyError Bytes := do
  let key ← validateKey key
  if micLen = 4 ∨ micLen = 8 then
    match suite.ccmDecrypt key micLen nonce ctAndMic with
    | some plaintext => .ok plaintext
    | none => .error (.cryptoError "AES-CCM authentication failed")
  else .error (micLenError micLen)

/-! ### When the wrappers succeed -/

section Wrappers

variable (suite : CipherSuite)

theorem aesEcb_ok {key plaintext : Bytes} (validKey : key.length = _AES_BLOCK_SIZE)
    (valid : plaintext.length = _AES_BLOCK_SIZE) :
    aesEcb suite key plaintext = .ok (suite.aes ⟨key, validKey⟩ ⟨plaintext, valid⟩).val := by
  simp only [aesEcb, validateKey_ok validKey, valid, dite_true, bind, Except.bind]

theorem aesEcb_short {key plaintext : Bytes} (validKey : key.length = _AES_BLOCK_SIZE)
    (short : plaintext.length ≠ _AES_BLOCK_SIZE) :
    ∃ msg, aesEcb suite key plaintext = .error (.cryptoError msg) := by
  simp only [aesEcb, validateKey_ok validKey, short, dite_false, bind, Except.bind]
  exact ⟨_, rfl⟩

theorem meshAesCcmEncrypt_ok {key nonce plaintext : Bytes} {micLen : Nat}
    (validKey : key.length = _AES_BLOCK_SIZE) (parameters : CcmParameters micLen nonce) :
    meshAesCcmEncrypt suite key nonce plaintext micLen =
      .ok (suite.ccmEncrypt ⟨key, validKey⟩ micLen nonce plaintext) := by
  simp only [meshAesCcmEncrypt, validateKey_ok validKey, parameters.1, if_true, bind, Except.bind]

theorem meshAesCcmDecrypt_some {key nonce data plaintext : Bytes} {micLen : Nat}
    (validKey : key.length = _AES_BLOCK_SIZE) (parameters : CcmParameters micLen nonce)
    (authentic : suite.ccmDecrypt ⟨key, validKey⟩ micLen nonce data = some plaintext) :
    meshAesCcmDecrypt suite key nonce data micLen = .ok plaintext := by
  simp only [meshAesCcmDecrypt, validateKey_ok validKey, parameters.1, if_true, authentic, bind,
    Except.bind]

theorem meshAesCcmDecrypt_none {key nonce data : Bytes} {micLen : Nat}
    (validKey : key.length = _AES_BLOCK_SIZE) (parameters : CcmParameters micLen nonce)
    (forged : suite.ccmDecrypt ⟨key, validKey⟩ micLen nonce data = none) :
    meshAesCcmDecrypt suite key nonce data micLen =
      .error (.cryptoError "AES-CCM authentication failed") := by
  simp only [meshAesCcmDecrypt, validateKey_ok validKey, parameters.1, if_true, forged, bind,
    Except.bind]

/-- `mesh_aes_ccm_decrypt` raises nothing but `CryptoError`. -/
theorem meshAesCcmDecrypt_error {key nonce data : Bytes} {micLen : Nat} {error : PyError}
    (raised : meshAesCcmDecrypt suite key nonce data micLen = .error error) :
    ∃ msg, error = .cryptoError msg := by
  unfold meshAesCcmDecrypt validateKey at raised
  split at raised
  · simp only [bind, Except.bind] at raised
    split at raised
    · split at raised
      · cases raised
      · cases raised
        exact ⟨_, rfl⟩
    · cases raised
      exact ⟨_, rfl⟩
  · cases raised
    exact ⟨_, rfl⟩

end Wrappers

/-! ### A suite with readable tags -/

/-- The tag is a part of the nonce, so that it tells nonces apart: bytes 2, 3 and 4 are the
sequence number. -/
def nonceTag (tagLength : Nat) (nonce : Bytes) : Bytes := (nonce.drop 2).take tagLength

/-- Encryption appends the tag, and decryption checks it. -/
def nonceTagSuite : CipherSuite where
  aes _ plaintext := plaintext
  ccmEncrypt _ tagLength nonce plaintext := plaintext ++ nonceTag tagLength nonce
  ccmDecrypt _ tagLength nonce data :=
    let size := data.length - tagLength
    if tagLength ≤ data.length ∧ data.drop size = nonceTag tagLength nonce then
      some (data.take size)
    else none

theorem nonceTag_length {tagLength : Nat} {nonce : Bytes}
    (parameters : CcmParameters tagLength nonce) :
    (nonceTag tagLength nonce).length = tagLength := by
  obtain ⟨tag, nonce⟩ := parameters
  rw [nonceTag, List.length_take, List.length_drop, nonce]
  omega

theorem nonceTagSuite_decrypt {tagLength : Nat} {nonce nonce' : Bytes} (key : Block)
    (plaintext : Bytes) (parameters : CcmParameters tagLength nonce) :
    nonceTagSuite.ccmDecrypt key tagLength nonce'
        (nonceTagSuite.ccmEncrypt key tagLength nonce plaintext) =
      if nonceTag tagLength nonce = nonceTag tagLength nonce' then some plaintext else none := by
  have tag := nonceTag_length parameters
  simp [nonceTagSuite, tag]

instance : LawfulCcm nonceTagSuite where
  decrypt_encrypt key tagLength nonce plaintext parameters := by
    rw [nonceTagSuite_decrypt key plaintext parameters, if_pos rfl]
  encrypt_length key tagLength nonce plaintext parameters := by
    simp only [nonceTagSuite, List.length_append, nonceTag_length parameters]

instance : CcmTagged nonceTagSuite where
  decrypt_length key tagLength nonce data plaintext parameters opened := by
    simp only [nonceTagSuite] at opened
    split at opened
    · next authentic =>
      cases opened
      rw [List.length_take]
      omega
    · cases opened

end TuyaBleMesh

import TuyaBleMesh.Mesh.Crypto

/-!
# AES-CMAC and the derived keys

`aes_cmac`, `s1` and `k1` of `sig_mesh_crypto.py`. The derivations only need the bytes
to be put together and compared, so they are stated for any kind of bytes with a
CMAC; `CipherSuite.macSuite` is the one of the code.
-/

namespace TuyaBleMesh

/-! ### AES-CMAC -/

def _CMAC_RB : Bytes := List.replicate 15 0x00 ++ [0x87]

/-- Left-shift of a 16-byte block by one bit. -/
def shiftLeft (data : Bytes) : Bytes :=
  (List.range _AES_BLOCK_SIZE).map fun i => data.getD i 0 <<< 1 ||| data.getD (i + 1) 0 >>> 7

/-- `_xor`: `zip(a, b, strict=True)` raises for two lengths. -/
def xorStrict (a b : Bytes) : Except PyError Bytes :=
  if a.length = b.length then .ok (Bytes.xor a b) else .error .valueError

/-- A subkey from `l_val`, or the second one from the first. -/
def subkey (block : Bytes) : Except PyError Bytes :=
  let shifted := shiftLeft block
  if block.headD 0 &&& 0x80 ≠ 0 then xorStrict shifted _CMAC_RB else .ok shifted

/-- `m_last` of a message of `n` blocks. -/
def lastInput (k1 k2 msg : Bytes) (n : Nat) : Except PyError Bytes :=
  let tail := msg.drop ((n - 1) * _AES_BLOCK_SIZE)
  if msg.length > 0 ∧ msg.length % _AES_BLOCK_SIZE = 0 then xorStrict tail k1
  else
    let padded := tail ++ [0x80] ++ List.replicate (_AES_BLOCK_SIZE - 1 - tail.length) 0x00
    xorStrict (padded.take _AES_BLOCK_SIZE) k2

def chainBlock (suite : CipherSuite) (key msg x : Bytes) (i : Nat) : Except PyError Bytes := do
  let block := (msg.drop (i * _AES_BLOCK_SIZE)).take _AES_BLOCK_SIZE
  aesEcb suite key (← xorStrict x block)

def aesCmac (suite : CipherSuite) (key msg : Bytes) : Except PyError Bytes := do
  let _ ← validateKey key
  let zero := List.replicate _AES_BLOCK_SIZE 0x00
  let lVal ← aesEcb suite key zero
  let k1 ← subkey lVal
  let k2 ← subkey k1
  let n := max 1 ((msg.length + _AES_BLOCK_SIZE - 1) / _AES_BLOCK_SIZE)
  let mLast ← lastInput k1 k2 msg n
  let x ← (List.range (n - 1)).foldlM (chainBlock suite key msg) zero
  aesEcb suite key (← xorStrict x mLast)

/-! ### On blocks -/

theorem shiftLeft_length (data : Bytes) : (shiftLeft data).length = _AES_BLOCK_SIZE := by
  rw [shiftLeft, List.length_map, List.length_range]

namespace Block

def zero : Block := ⟨List.replicate _AES_BLOCK_SIZE 0x00, List.length_replicate⟩

def xor (a b : Block) : Block :=
  ⟨Bytes.xor a.val b.val, by rw [Bytes.xor_length, a.property, b.property, Nat.min_self]⟩

/-- The bits shifted up by one, and the lowest ones changed for one that has left. -/
def doubled (block : Block) : Block :=
  let shifted : Block := ⟨shiftLeft block.val, shiftLeft_length _⟩
  if block.val.headD 0 &&& 0x80 ≠ 0 then shifted.xor ⟨_CMAC_RB, rfl⟩ else shifted

/-- A single one behind the bytes, then zeros. -/
def padded (tail : Bytes) : Block :=
  ⟨(tail ++ [0x80] ++ List.replicate (_AES_BLOCK_SIZE - 1) 0x00).take _AES_BLOCK_SIZE, by
    simp [_AES_BLOCK_SIZE]⟩

/-- The last block of a message, with its subkey. -/
def last (k1 k2 : Block) (tail : Bytes) : Block :=
  if whole : tail.length = _AES_BLOCK_SIZE then xor ⟨tail, whole⟩ k1 else (padded tail).xor k2

end Block

/-- Cipher block chaining from `x` on, with the last block treated by itself. -/
def cbcMac (encrypt : Block → Block) (k1 k2 x : Block) (msg : Bytes) : Block :=
  if long : _AES_BLOCK_SIZE < msg.length then
    cbcMac encrypt k1 k2
      (encrypt (x.xor ⟨msg.take _AES_BLOCK_SIZE, List.length_take_of_le (Nat.le_of_lt long)⟩))
      (msg.drop _AES_BLOCK_SIZE)
  else encrypt (x.xor (Block.last k1 k2 msg))
  termination_by msg.length
  decreasing_by
    rw [List.length_drop]
    simp only [_AES_BLOCK_SIZE] at *
    omega

section Blocks

variable (suite : CipherSuite) (key : Block)

theorem xorStrict_block (a b : Block) : xorStrict a.val b.val = .ok (a.xor b).val :=
  if_pos (a.property.trans b.property.symm)

theorem aesEcb_block (plaintext : Block) :
    aesEcb suite key.val plaintext.val = .ok (suite.aes key plaintext).val :=
  aesEcb_ok suite key.property plaintext.property

theorem subkey_block (block : Block) : subkey block.val = .ok block.doubled.val := by
  unfold subkey Block.doubled
  dsimp only
  split
  · next high => exact xorStrict_block ⟨shiftLeft block.val, shiftLeft_length _⟩ ⟨_CMAC_RB, rfl⟩
  · rfl

theorem padded_val {tail : Bytes} (short : tail.length < _AES_BLOCK_SIZE) :
    (tail ++ [0x80] ++ List.replicate (_AES_BLOCK_SIZE - 1 - tail.length) 0x00).take
      _AES_BLOCK_SIZE = (Block.padded tail).val := by
  have zeros : List.replicate (_AES_BLOCK_SIZE - 1) (0x00 : UInt8) =
      List.replicate (_AES_BLOCK_SIZE - 1 - tail.length) 0x00 ++
        List.replicate tail.length 0x00 := by
    rw [List.replicate_append_replicate]
    congr 1
    omega
  -- what the code appends already fills the block
  have full : (tail ++ [0x80] ++
      List.replicate (_AES_BLOCK_SIZE - 1 - tail.length) (0x00 : UInt8)).length =
        _AES_BLOCK_SIZE := by
    simp only [List.length_append, List.length_replicate, List.length_cons, List.length_nil]
    omega
  calc (tail ++ [0x80] ++ List.replicate (_AES_BLOCK_SIZE - 1 - tail.length) 0x00).take
        _AES_BLOCK_SIZE
      = (tail ++ [0x80] ++ (List.replicate (_AES_BLOCK_SIZE - 1 - tail.length) 0x00 ++
          List.replicate tail.length 0x00)).take _AES_BLOCK_SIZE := by
        rw [← List.append_assoc (tail ++ [0x80]), List.take_of_length_le full.le,
          List.take_left' full]
    _ = (tail ++ [0x80] ++ List.replicate (_AES_BLOCK_SIZE - 1) 0x00).take _AES_BLOCK_SIZE := by
        rw [zeros]

/-- The blocks before the last one are chained, and the rest is the tail of the message. -/
theorem foldlM_chain (encrypt : Block → Block) (k1 k2 : Block)
    (chain : Bytes → Nat → Except PyError Bytes) (msg : Bytes)
    (each : ∀ (x block : Block) (i : Nat),
      (msg.drop (i * _AES_BLOCK_SIZE)).take _AES_BLOCK_SIZE = block.val →
        chain x.val i = .ok (encrypt (x.xor block)).val)
    (n : Nat) (x : Block) (count : n = (msg.length - 1) / _AES_BLOCK_SIZE) :
    ∃ y : Block, (List.range n).foldlM chain x.val = .ok y.val ∧
      cbcMac encrypt k1 k2 x msg =
        encrypt (y.xor (Block.last k1 k2 (msg.drop (n * _AES_BLOCK_SIZE)))) := by
  induction n generalizing msg chain x with
  | zero =>
    have short : ¬_AES_BLOCK_SIZE < msg.length := by
      simp only [_AES_BLOCK_SIZE] at *
      omega
    refine ⟨x, rfl, ?_⟩
    rw [cbcMac, dif_neg short, Nat.zero_mul, List.drop_zero]
  | succ n ih =>
    have long : _AES_BLOCK_SIZE < msg.length := by
      simp only [_AES_BLOCK_SIZE] at *
      omega
    have fewer : n = ((msg.drop _AES_BLOCK_SIZE).length - 1) / _AES_BLOCK_SIZE := by
      rw [List.length_drop]
      simp only [_AES_BLOCK_SIZE] at *
      omega
    have later (i : Nat) : msg.drop ((i + 1) * _AES_BLOCK_SIZE) =
        (msg.drop _AES_BLOCK_SIZE).drop (i * _AES_BLOCK_SIZE) := by
      rw [List.drop_drop, Nat.succ_mul, Nat.add_comm]
    -- the first block is chained, and the rest is a message of its own
    let first : Block := ⟨msg.take _AES_BLOCK_SIZE, List.length_take_of_le (Nat.le_of_lt long)⟩
    have step : chain x.val 0 = .ok (encrypt (x.xor first)).val := by
      apply each
      rw [Nat.zero_mul, List.drop_zero]
    obtain ⟨y, chained, result⟩ := ih (fun x i => chain x (i + 1)) (msg.drop _AES_BLOCK_SIZE)
      (fun x block i here => each x block (i + 1) (later i ▸ here))
      (encrypt (x.xor first)) fewer
    refine ⟨y, ?_, ?_⟩
    · rw [List.range_succ_eq_map, List.foldlM_cons, step]
      simp only [bind, Except.bind, List.foldlM_map, Nat.succ_eq_add_one]
      exact chained
    · rw [cbcMac, dif_pos long, result, later]

theorem lastInput_eq (k1 k2 : Block) (n : Nat) (msg : Bytes)
    (count : n - 1 = (msg.length - 1) / _AES_BLOCK_SIZE) :
    lastInput k1.val k2.val msg n =
      .ok (Block.last k1 k2 (msg.drop ((n - 1) * _AES_BLOCK_SIZE))).val := by
  have tail : (msg.drop ((n - 1) * _AES_BLOCK_SIZE)).length =
      msg.length - (n - 1) * _AES_BLOCK_SIZE := List.length_drop
  rw [lastInput, Block.last]
  dsimp only
  split
  · next complete =>
    have whole : (msg.drop ((n - 1) * _AES_BLOCK_SIZE)).length = _AES_BLOCK_SIZE := by
      simp only [_AES_BLOCK_SIZE] at *
      omega
    rw [dif_pos whole]
    exact xorStrict_block ⟨_, whole⟩ k1
  · next incomplete =>
    have short : (msg.drop ((n - 1) * _AES_BLOCK_SIZE)).length < _AES_BLOCK_SIZE := by
      simp only [_AES_BLOCK_SIZE] at *
      omega
    rw [dif_neg (Nat.ne_of_lt short), padded_val short]
    exact xorStrict_block _ _

/-- `aes_cmac` for a 16-byte key: it raises nothing. -/
theorem aesCmac_eq (msg : Bytes) :
    aesCmac suite key.val msg = .ok (cbcMac (suite.aes key)
      (suite.aes key .zero).doubled (suite.aes key .zero).doubled.doubled .zero msg).val := by
  generalize blocks : max 1 ((msg.length + _AES_BLOCK_SIZE - 1) / _AES_BLOCK_SIZE) = n
  have count : n - 1 = (msg.length - 1) / _AES_BLOCK_SIZE := by
    simp only [_AES_BLOCK_SIZE] at *
    omega
  have each (x block : Block) (i : Nat)
      (here : (msg.drop (i * _AES_BLOCK_SIZE)).take _AES_BLOCK_SIZE = block.val) :
      chainBlock suite key.val msg x.val i = .ok (suite.aes key (x.xor block)).val := by
    rw [chainBlock, here, xorStrict_block]
    exact aesEcb_block suite key _
  obtain ⟨y, chained, result⟩ := foldlM_chain (suite.aes key) (suite.aes key .zero).doubled
    (suite.aes key .zero).doubled.doubled (chainBlock suite key.val msg) msg each (n - 1) .zero
    count
  have zero : List.replicate _AES_BLOCK_SIZE (0x00 : UInt8) = Block.zero.val := rfl
  unfold aesCmac
  simp only [validateKey_ok key.property, zero, blocks, aesEcb_block, subkey_block,
    lastInput_eq _ _ n msg count, chained, xorStrict_block, result, bind, Except.bind]

/-- Every message has a MAC under a 16-byte key. -/
theorem aesCmac_ok {key : Bytes} (validKey : key.length = _AES_BLOCK_SIZE) (msg : Bytes) :
    ∃ mac, aesCmac suite key msg = .ok mac ∧ mac.length = _AES_BLOCK_SIZE :=
  ⟨_, aesCmac_eq suite ⟨key, validKey⟩ msg, (cbcMac _ _ _ _ _).property⟩

end Blocks

/-! ### Derived keys -/

/-- Bytes of a kind, and AES-CMAC over them. -/
structure MacSuite (β : Type) where
  lit : UInt8 → β
  value : β → UInt8
  value_lit : ∀ byte, value (lit byte) = byte
  aesCmac : List β → List β → Except PyError (List β)

def CipherSuite.macSuite (suite : CipherSuite) : MacSuite UInt8 where
  lit := id
  value := id
  value_lit _ := rfl
  aesCmac := TuyaBleMesh.aesCmac suite

namespace MacSuite

variable {β : Type} (suite : MacSuite β)

def lits (bytes : Bytes) : List β := bytes.map suite.lit

/-- `_validate_key`. -/
def checkKey (key : List β) : Except PyError Unit :=
  if key.length = _AES_BLOCK_SIZE then .ok ()
  else .error (.cryptoError s!"Key must be {_AES_BLOCK_SIZE} bytes, got {key.length}")

def s1 (m : List β) : Except PyError (List β) :=
  if m.isEmpty then .error (.cryptoError "s1 input must be non-empty")
  else suite.aesCmac (suite.lits (List.replicate _AES_BLOCK_SIZE 0x00)) m

def k1 (n salt p : List β) : Except PyError (List β) := do
  checkKey salt
  let t ← suite.aesCmac salt n
  suite.aesCmac t p

end MacSuite

/-- The keys that `k1` derives have 16 bytes. -/
theorem k1_length (suite : CipherSuite) {n salt p key : Bytes}
    (derived : suite.macSuite.k1 n salt p = .ok key) : key.length = _AES_BLOCK_SIZE := by
  unfold MacSuite.k1 MacSuite.checkKey at derived
  split at derived
  · next valid =>
    obtain ⟨t, first, length⟩ := aesCmac_ok suite valid n
    obtain ⟨mac, second, length'⟩ := aesCmac_ok suite length p
    simp only [CipherSuite.macSuite, first, second, bind, Except.bind] at derived
    cases derived
    exact length'
  · cases derived

end TuyaBleMesh

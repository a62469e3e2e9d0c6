import Mathlib.Algebra.Field.ZMod
import TuyaBleMesh.Lib.QuotientWord
import TuyaBleMesh.Mesh.Cmac

/-!
# AES-CMAC against RFC 4493

The definition of the standard, with the subkeys by multiplication in the field of
`2 ^ 128` elements, and the two implementations: `aes_cmac` of `sig_mesh_crypto.py` and the
copy in `scripts/mesh_proxy_cmd.py`.
-/

namespace TuyaBleMesh

/-! ### The definition of the standard -/

namespace Rfc4493

/-- The bits of a block; the first byte has the highest ones. -/
def bits (block : Block) (i : Fin 128) : ZMod 2 :=
  if (Bytes.beValue block.val).testBit i then 1 else 0

def ofBits (word : Fin 128 → ZMod 2) : Block :=
  ⟨Bytes.beBytes 16 (Nat.ofBits fun i => word i = 1), Bytes.beBytes_length _ _⟩

/-- `const_Rb`: what lies below `X ^ 128` in the polynomial of the field. -/
def constRb (i : Fin 128) : ZMod 2 := if i = 0 ∨ i = 1 ∨ i = 2 ∨ i = 7 then 1 else 0

/-- Multiplication by `X` in the field. -/
noncomputable def double (block : Block) : Block :=
  ofBits (QuotientWord.timesX constRb (bits block))

/-- Generate_Subkey, and AES-CMAC under its subkeys. -/
noncomputable def mac (encrypt : Block → Block) (msg : Bytes) : Block :=
  let l := encrypt .zero
  let k1 := double l
  let k2 := double k1
  cbcMac encrypt k1 k2 .zero msg

open Polynomial in
theorem modulus_constRb :
    QuotientWord.modulus constRb = (X ^ 128 + X ^ 7 + X ^ 2 + X + 1 : (ZMod 2)[X]) := by
  ext n
  rw [QuotientWord.modulus, coeff_add, QuotientWord.coeff_ofFn]
  simp only [coeff_add, coeff_X_pow, coeff_X, coeff_one]
  -- below 128 the coefficients are those of the constant
  rcases Nat.lt_trichotomy n 128 with inside | rfl | beyond
  · rw [dif_pos inside]
    by_cases low : n = 0 ∨ n = 1 ∨ n = 2 ∨ n = 7
    · rcases low with rfl | rfl | rfl | rfl
      · simp [constRb]
      · simp [constRb]
      · simp [constRb, Fin.ext_iff]
      · simp [constRb, Fin.ext_iff]
    · simp only [not_or] at low
      obtain ⟨zero, one, two, seven⟩ := low
      simp [constRb, Fin.ext_iff, zero, one, two, seven, Ne.symm one]
  · simp
  · have above : ¬n < 128 := Nat.not_lt_of_lt beyond
    have zero : n ≠ 0 := by omega
    have one : 1 ≠ n := by omega
    have two : n ≠ 2 := by omega
    have seven : n ≠ 7 := by omega
    rw [dif_neg above]
    simp [zero, one, two, seven]

/-! ### The bits of a block -/

theorem beValue_block_lt (block : Block) : Bytes.beValue block.val < 2 ^ 128 := by
  have bound := Bytes.beValue_lt block.val
  rw [block.property] at bound
  exact bound

theorem ofBits_bits (block : Block) : ofBits (bits block) = block := by
  have number : (Nat.ofBits fun i : Fin 128 => bits block i = 1) = Bytes.beValue block.val := by
    apply Nat.eq_of_testBit_eq
    intro i
    by_cases inside : i < 128
    · rw [Nat.testBit_ofBits_lt _ _ inside]
      cases bit : (Bytes.beValue block.val).testBit i with
      | false => simp [bits, bit]
      | true => simp [bits, bit]
    · rw [Nat.testBit_ofBits_ge _ _ (Nat.le_of_not_lt inside)]
      exact (Nat.testBit_eq_false_of_lt ((beValue_block_lt block).trans_le
        (Nat.pow_le_pow_right (by decide) (Nat.le_of_not_lt inside)))).symm
  have length : block.val.length = 16 := block.property
  apply Subtype.ext
  calc Bytes.beBytes 16 (Nat.ofBits fun i : Fin 128 => bits block i = 1)
      = Bytes.beBytes block.val.length (Bytes.beValue block.val) := by rw [number, length]
    _ = block.val := Bytes.beBytes_beValue _

/-! ### The shift is the multiplication -/

theorem shiftLeft_eq (data : Bytes) (length : data.length = _AES_BLOCK_SIZE) :
    shiftLeft data = Bytes.shiftOne data := by
  apply List.ext_getElem?
  intro i
  by_cases inside : i < _AES_BLOCK_SIZE
  · rw [Bytes.shiftOne_getElem? data i (length ▸ inside), shiftLeft, List.getElem?_map,
      List.getElem?_range inside]
    rfl
  · rw [List.getElem?_eq_none (by rw [shiftLeft_length]; omega),
      List.getElem?_eq_none (by rw [Bytes.shiftOne_length]; omega)]

/-- The bits of a shifted block. -/
theorem testBit_shiftLeft (block : Block) (i : Nat) (inside : i < 128) :
    (Bytes.beValue (shiftLeft block.val)).testBit i =
      (i ≠ 0 && (Bytes.beValue block.val).testBit (i - 1)) := by
  have length : block.val.length = 16 := block.property
  have power : 256 ^ 16 = 2 ^ 128 := by decide
  rw [shiftLeft_eq _ block.property, Bytes.beValue_shiftOne, length, power,
    Nat.testBit_mod_two_pow]
  cases i with
  | zero => simp
  | succ i =>
    rw [Nat.testBit_succ, Nat.mul_div_cancel_left _ (by decide)]
    simp [inside]

/-- The test of the highest bit. -/
theorem high_bit (block : Block) :
    (block.val.headD 0 &&& 0x80 ≠ 0) ↔ (Bytes.beValue block.val).testBit 127 = true := by
  have length : block.val.length = 16 := block.property
  have out := Bytes.shifted_out block.val
  have byte := (block.val.headD 0).toNat_lt
  have masked : (block.val.headD 0 &&& 0x80).toNat = (block.val.headD 0).toNat / 128 % 2 * 128 := by
    rw [UInt8.toNat_and]
    exact Bytes.and_bit _ 7
  have top : Bytes.beValue block.val / 2 ^ 127 = (block.val.headD 0).toNat / 128 := by
    rw [length] at out
    rw [← out]
    omega
  rw [Nat.testBit_eq_decide_div_mod_eq, top, ne_eq, ← UInt8.toNat_inj, masked, decide_eq_true_eq]
  simp only [UInt8.toNat_zero]
  omega

theorem bits_xor (a b : Block) (i : Fin 128) : bits (a.xor b) i = bits a i + bits b i := by
  have number : Bytes.beValue (a.xor b).val = Bytes.beValue a.val ^^^ Bytes.beValue b.val :=
    Bytes.beValue_xor (a.property.trans b.property.symm)
  rw [bits, bits, bits, number, Nat.testBit_xor]
  cases (Bytes.beValue a.val).testBit i with
  | false => cases (Bytes.beValue b.val).testBit i <;> rfl
  | true => cases (Bytes.beValue b.val).testBit i <;> rfl

theorem bits_constRb (i : Fin 128) : bits ⟨_CMAC_RB, rfl⟩ i = constRb i := by
  revert i
  decide +kernel

theorem bits_shiftLeft (block : Block) (i : Fin 128) :
    bits ⟨shiftLeft block.val, shiftLeft_length _⟩ i =
      QuotientWord.shifted (bits block) i := by
  rw [bits, testBit_shiftLeft block i.val i.isLt, QuotientWord.shifted]
  by_cases first : i.val = 0
  · simp [first]
  · simp [first, bits]

theorem top_bits (block : Block) :
    QuotientWord.top (bits block) = if block.val.headD 0 &&& 0x80 ≠ 0 then 1 else 0 := by
  have last : QuotientWord.top (bits block) = bits block 127 := dif_neg (by decide)
  rw [last, bits]
  exact if_congr (high_bit block).symm rfl rfl

/-- The subkeys of the code are those of the standard. -/
theorem doubled_eq (block : Block) : block.doubled = double block := by
  have same (i : Fin 128) :
      bits block.doubled i = QuotientWord.reduced constRb (bits block) i := by
    rw [QuotientWord.reduced, top_bits]
    unfold Block.doubled
    split
    · rw [bits_xor, bits_shiftLeft, bits_constRb, one_mul, CharTwo.sub_eq_add]
    · rw [bits_shiftLeft, zero_mul, sub_zero]
  rw [← ofBits_bits block.doubled, double, QuotientWord.timesX_eq (by decide), funext same]

theorem aesCmac_eq_mac (suite : CipherSuite) (key : Block) (msg : Bytes) :
    aesCmac suite key.val msg = .ok (mac (suite.aes key) msg).val := by
  rw [aesCmac_eq, doubled_eq, doubled_eq]
  rfl

end Rfc4493

/-! ### The copy of `scripts/mesh_proxy_cmd.py` -/

namespace MeshProxyCmd

/-- `Cipher(algorithms.AES(key), modes.ECB())`: block by block, and an error for bytes that are
no whole number of blocks. -/
def aesEcb (suite : CipherSuite) (key : Block) (plaintext : Bytes) : Except PyError Bytes :=
  if plaintext = [] then .ok []
  else if valid : (plaintext.take 16).length = 16 then do
    let rest ← aesEcb suite key (plaintext.drop 16)
    return (suite.aes key ⟨plaintext.take 16, valid⟩).val ++ rest
  else .error .valueError
  termination_by plaintext.length
  decreasing_by
    rw [List.length_take] at valid
    rw [List.length_drop]
    omega

def shiftLeft (b : Bytes) : Bytes :=
  ((List.range 15).map fun i => b.getD i 0 <<< 1 ||| b.getD (i + 1) 0 >>> 7) ++ [b.getD 15 0 <<< 1]

def xor (a b : Bytes) : Except PyError Bytes :=
  if a.length = b.length then .ok (Bytes.xor a b) else .error .valueError

def subkey (block : Bytes) : Except PyError Bytes :=
  if block.headD 0 &&& 0x80 ≠ 0 then
    xor (shiftLeft block) (List.replicate 15 0x00 ++ [0x87])
  else .ok (shiftLeft block)

def lastInput (k1 k2 msg : Bytes) (n : Nat) : Except PyError Bytes :=
  if msg.length > 0 ∧ msg.length % 16 = 0 then xor (msg.drop ((n - 1) * 16)) k1
  else
    let padded := msg.drop ((n - 1) * 16) ++ [0x80] ++ List.replicate (15 - msg.length % 16) 0x00
    xor (padded.take 16) k2

def chainBlock (suite : CipherSuite) (key : Block) (msg x : Bytes) (i : Nat) :
    Except PyError Bytes := do
  aesEcb suite key (← xor x ((msg.drop (i * 16)).take 16))

def aesCmac (suite : CipherSuite) (key : Block) (msg : Bytes) : Except PyError Bytes := do
  let zero := List.replicate 16 0x00
  let lVal ← aesEcb suite key zero
  let k1 ← subkey lVal
  let k2 ← subkey k1
  let n := max 1 ((msg.length + 15) / 16)
  let mLast ← lastInput k1 k2 msg n
  let x ← (List.range (n - 1)).foldlM (chainBlock suite key msg) zero
  aesEcb suite key (← xor x mLast)

section Blocks

variable (suite : CipherSuite) (key : Block)

theorem aesEcb_block (plaintext : Block) :
    aesEcb suite key plaintext.val = .ok (suite.aes key plaintext).val := by
  have length : plaintext.val.length = 16 := plaintext.property
  have present : plaintext.val ≠ [] := by
    intro empty
    rw [empty] at length
    cases length
  have whole : plaintext.val.take 16 = plaintext.val := List.take_of_length_le length.le
  have valid : (plaintext.val.take 16).length = 16 := whole.symm ▸ length
  have same : (⟨plaintext.val.take 16, valid⟩ : Block) = plaintext := Subtype.ext whole
  have nothing : plaintext.val.drop 16 = [] := List.drop_of_length_le length.le
  rw [aesEcb, if_neg present, dif_pos valid, same, nothing, aesEcb, if_pos rfl]
  exact congrArg Except.ok (List.append_nil _)

theorem shiftLeft_eq (data : Bytes) (length : data.length = 16) :
    shiftLeft data = TuyaBleMesh.shiftLeft data := by
  -- the library reads a byte behind the last one, which is zero
  have behind : data.getD 16 0 = 0 := by
    rw [List.getD_eq_getElem?_getD, List.getElem?_eq_none length.le]
    rfl
  have last : data.getD 15 0 <<< 1 = data.getD 15 0 <<< 1 ||| data.getD (15 + 1) 0 >>> 7 := by
    rw [behind]
    exact (UInt8.or_zero).symm
  rw [shiftLeft, last, TuyaBleMesh.shiftLeft, _AES_BLOCK_SIZE, List.range_succ (n := 15),
    List.map_append]
  rfl

theorem subkey_eq (block : Block) : subkey block.val = TuyaBleMesh.subkey block.val := by
  rw [subkey, shiftLeft_eq _ block.property]
  rfl

theorem lastInput_eq (k1 k2 msg : Bytes) (n : Nat) (count : n - 1 = (msg.length - 1) / 16) :
    lastInput k1 k2 msg n = TuyaBleMesh.lastInput k1 k2 msg n := by
  unfold lastInput TuyaBleMesh.lastInput
  by_cases complete : msg.length > 0 ∧ msg.length % 16 = 0
  · exact (if_pos complete).trans (if_pos complete).symm
  · have tail : msg.length % 16 = (msg.drop ((n - 1) * 16)).length := by
      rw [List.length_drop]
      omega
    refine (if_neg complete).trans (Eq.trans ?_ (if_neg complete).symm)
    rw [tail]
    rfl

theorem aesCmac_eq_mac (msg : Bytes) :
    aesCmac suite key msg = .ok (Rfc4493.mac (suite.aes key) msg).val := by
  generalize blocks : max 1 ((msg.length + 15) / 16) = n
  have count : n - 1 = (msg.length - 1) / 16 := by omega
  -- on whole blocks the script computes what the library does
  have each (x block : Block) (i : Nat)
      (here : (msg.drop (i * _AES_BLOCK_SIZE)).take _AES_BLOCK_SIZE = block.val) :
      chainBlock suite key msg x.val i = .ok (suite.aes key (x.xor block)).val := by
    have added : xor x.val ((msg.drop (i * 16)).take 16) = .ok (x.xor block).val :=
      (congrArg (xor x.val) here).trans (xorStrict_block x block)
    rw [chainBlock, added]
    exact aesEcb_block suite key _
  obtain ⟨y, chained, result⟩ := foldlM_chain (suite.aes key) (suite.aes key .zero).doubled
    (suite.aes key .zero).doubled.doubled (chainBlock suite key msg) msg each (n - 1) .zero count
  have zero : List.replicate 16 (0x00 : UInt8) = Block.zero.val := rfl
  have added (a b : Block) : xor a.val b.val = .ok (a.xor b).val := xorStrict_block a b
  have spec : Rfc4493.mac (suite.aes key) msg = cbcMac (suite.aes key)
      (suite.aes key .zero).doubled (suite.aes key .zero).doubled.doubled .zero msg := by
    rw [Rfc4493.doubled_eq, Rfc4493.doubled_eq]
    rfl
  unfold aesCmac
  simp only [zero, blocks, aesEcb_block, subkey_eq, subkey_block, lastInput_eq _ _ msg n count,
    TuyaBleMesh.lastInput_eq _ _ n msg count, chained, added, result, spec, bind, Except.bind]

end Blocks

end MeshProxyCmd

/-- Both implementations compute what the standard defines, whatever block cipher is meant. -/
theorem aesCmac_rfc4493 (suite : CipherSuite) (key : Block) (msg : Bytes) :
    aesCmac suite key.val msg = .ok (Rfc4493.mac (suite.aes key) msg).val ∧
      MeshProxyCmd.aesCmac suite key msg = aesCmac suite key.val msg := by
  have library := Rfc4493.aesCmac_eq_mac suite key msg
  exact ⟨library, (MeshProxyCmd.aesCmac_eq_mac suite key msg).trans library.symm⟩

end TuyaBleMesh

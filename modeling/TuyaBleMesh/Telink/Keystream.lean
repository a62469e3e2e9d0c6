import Mathlib.Data.List.Nodup
import TuyaBleMesh.Telink.Decode

/-!
# The key stream of a Telink packet

`crypt_payload` encrypts with the key stream that AES makes of counter blocks: a nonce with
a counter in front. The blocks of one payload are all different, and those of packets with
different sequence numbers have none in common.
-/

namespace TuyaBleMesh

namespace Telink

/-- The counter block that the loop of `crypt_payload` encrypts. -/
def counterBlock (nonce : Bytes) (counter : Nat) : Bytes :=
  padToBlock (UInt8.ofNat counter :: nonce)

/-- The counter blocks for a payload. -/
def counterBlocks (nonce payload : Bytes) : List Bytes :=
  (List.range (blocksNeeded payload)).map (counterBlock nonce)

/-! ### Encryption is with the key stream of these blocks -/

/-- What is longer than the first list meets the second one. -/
theorem zipWith_append_left {α β γ : Type} (f : α → β → γ) (front rest : List α) (xs : List β) :
    List.zipWith f (front ++ rest) xs = List.zipWith f front (xs.take front.length) ++
      List.zipWith f rest (xs.drop front.length) := by
  induction front generalizing xs with
  | nil => rfl
  | cons a front ih =>
    cases xs with
    | nil => simp
    | cons x xs => simp [ih]

theorem cryptBlocks_eq_xor (suite : CipherSuite) (key : Block) (nonce : Bytes)
    (left counter : Nat) (payload : Bytes) :
    cryptBlocks suite key nonce left counter payload =
      List.zipWith (· ^^^ ·) (((List.range' counter left).map (counterBlock nonce)).flatMap
        (telinkAes suite key)) payload := by
  induction left generalizing counter payload with
  | zero => rfl
  | succ left ih =>
    rw [cryptBlocks, ih, List.range'_succ, List.map_cons, List.flatMap_cons, zipWith_append_left,
      telinkAes_length]
    rfl

theorem cryptPayload_eq_xor {suite : CipherSuite} {key nonce payload encrypted : Bytes}
    (crypted : cryptPayload suite key nonce payload = .ok encrypted) :
    blocksNeeded payload ≤ _MAX_CTR_BLOCKS ∧ ∃ block, validateKey key = .ok block ∧
      encrypted = List.zipWith (· ^^^ ·)
        ((counterBlocks nonce payload).flatMap (telinkAes suite block)) payload := by
  obtain ⟨block, valid, crypted⟩ := bind_eq_ok.mp crypted
  split at crypted
  · cases crypted
  · next fits =>
    cases crypted
    refine ⟨Nat.not_lt.mp fits, block, valid, ?_⟩
    rw [cryptBlocks_eq_xor, counterBlocks, List.range_eq_range']

/-! ### The nonce of a sequence number -/

theorem beBytes_injective {n v v' : Nat} (fits : v < 256 ^ n) (fits' : v' < 256 ^ n)
    (same : Bytes.beBytes n v = Bytes.beBytes n v') : v = v' := by
  rw [← Bytes.beValue_beBytes fits, same, Bytes.beValue_beBytes fits']

theorem buildNonce_eq_ok {macBytes nonce : Bytes} {sequence : Nat} :
    buildNonce macBytes sequence = .ok nonce ↔
      macBytes.length = MAC_BYTES_SIZE ∧ sequence < 256 ^ 3 ∧
        nonce = macBytes.reverse.take 4 ++ [0x01] ++ (Bytes.beBytes 3 sequence).reverse := by
  constructor
  · intro built
    unfold buildNonce at built
    split at built
    · cases built
    · next mac =>
      split at built
      · cases built
      · next small =>
        have fits : sequence < 256 ^ 3 := by omega
        rw [sequenceBytes_ok fits] at built
        cases built
        exact ⟨not_not.mp mac, fits, rfl⟩
  · rintro ⟨mac, fits, rfl⟩
    exact buildNonce_ok mac fits

theorem buildNonce_length {macBytes nonce : Bytes} {sequence : Nat}
    (built : buildNonce macBytes sequence = .ok nonce) : nonce.length = 8 := by
  obtain ⟨mac, _, rfl⟩ := buildNonce_eq_ok.mp built
  simp only [List.length_append, List.length_take, List.length_reverse, mac, MAC_BYTES_SIZE,
    List.length_singleton, Bytes.beBytes_length]
  rfl

/-- Different numbers, different nonces. -/
theorem buildNonce_injective {macBytes nonce : Bytes} {sequence sequence' : Nat}
    (built : buildNonce macBytes sequence = .ok nonce)
    (built' : buildNonce macBytes sequence' = .ok nonce) : sequence = sequence' := by
  obtain ⟨_, fits, made⟩ := buildNonce_eq_ok.mp built
  obtain ⟨_, fits', made'⟩ := buildNonce_eq_ok.mp built'
  -- the bytes of the MAC are the same, so those of the numbers are
  have bytes := List.append_cancel_left (made.symm.trans made')
  exact beBytes_injective fits fits' (List.reverse_injective bytes)

/-! ### The blocks are all different -/

/-- A block that has room for its nonce shows it, behind the counter. -/
theorem counterBlock_injective {nonce nonce' : Bytes} {i j : Nat} (length : nonce.length = 8)
    (length' : nonce'.length = 8) (i_lt : i < _MAX_CTR_BLOCKS) (j_lt : j < _MAX_CTR_BLOCKS)
    (same : counterBlock nonce i = counterBlock nonce' j) : i = j ∧ nonce = nonce' := by
  -- a counter and eight bytes are padded by seven
  have short {n : Bytes} {k : Nat} (eight : n.length = 8) :
      counterBlock n k = UInt8.ofNat k :: (n ++ List.replicate 7 0) := by
    unfold counterBlock padToBlock
    rw [if_neg (by simp [eight, _AES_BLOCK_SIZE]), List.length_cons, eight]
    rfl
  rw [short length, short length'] at same
  obtain ⟨counters, nonces⟩ := List.cons.inj same
  constructor
  · have bytes := congrArg UInt8.toNat counters
    rw [UInt8.toNat_ofNat', UInt8.toNat_ofNat'] at bytes
    simp only [_MAX_CTR_BLOCKS] at i_lt j_lt
    omega
  · exact List.append_cancel_right nonces

theorem counterBlocks_nodup {nonce payload : Bytes} (length : nonce.length = 8)
    (fits : blocksNeeded payload ≤ _MAX_CTR_BLOCKS) : (counterBlocks nonce payload).Nodup := by
  refine List.Nodup.map_on ?_ List.nodup_range
  intro i i_lt j j_lt same
  rw [List.mem_range] at i_lt j_lt
  exact (counterBlock_injective length length (i_lt.trans_le fits) (j_lt.trans_le fits) same).1

theorem counterBlocks_disjoint {nonce nonce' payload payload' : Bytes}
    (length : nonce.length = 8) (length' : nonce'.length = 8)
    (fits : blocksNeeded payload ≤ _MAX_CTR_BLOCKS)
    (fits' : blocksNeeded payload' ≤ _MAX_CTR_BLOCKS) (different : nonce ≠ nonce') :
    (counterBlocks nonce payload).Disjoint (counterBlocks nonce' payload') := by
  intro block member member'
  obtain ⟨i, i_lt, rfl⟩ := List.mem_map.mp member
  obtain ⟨j, j_lt, same⟩ := List.mem_map.mp member'
  rw [List.mem_range] at i_lt j_lt
  exact different (counterBlock_injective length length' (i_lt.trans_le fits)
    (j_lt.trans_le fits') same.symm).2

end Telink

end TuyaBleMesh

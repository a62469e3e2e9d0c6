import TuyaBleMesh.MeshProxyCmd.Session
import TuyaBleMesh.PbGattProvision.Exchange
import TuyaBleMesh.Provisioning.ProvisioningRuns

/-!
# The script follows the library

As long as the exchange of the script goes on, it makes the calls of the library's, for a
client with an MTU of 23 that does not pair. It returns the same keys and stops where the
library does, or earlier, with an `IndexError`, for Capabilities that are too short.
-/

namespace TuyaBleMesh

namespace PbGattProvision

open Program (Follows)

/-- The library's client that is treated as the script treats its own. -/
def scriptClient : BleakClient := ⟨23, false, by decide⟩

/-- The attributes that the library has for the script's. -/
def PBGATTProvisioner.toProvisioner (self : PBGATTProvisioner) (appKey : Bytes) :
    Provisioner UInt8 where
  ourPubKeyBytes := self.publicKeyBytes
  netKey := self.netKey
  appKey
  netKeyIndex := self.netKeyIndex
  ivIndex := self.ivIndex
  flags := self.flags
  unicastAddr := self.unicastAddr

/-! ### Segments -/

section Segments

variable {payload : Bytes}

theorem segmentLoop_done {pduType : UInt8} {passes offset : Nat} {first : Bool}
    (done : payload.length ≤ offset) : segmentLoop pduType payload passes first offset = [] := by
  cases passes with
  | zero => rfl
  | succ passes => exact if_neg (Nat.not_lt_of_le done)

/-- The segments from `k` on. -/
theorem segmentLoop_eq {count : Nat} (two : 2 ≤ count) (more : (count - 1) * 19 < payload.length)
    (whole : payload.length ≤ count * 19) (k left passes : Nat) (count_eq : count = k + left + 1)
    (enough : left < passes) :
    segmentLoop PROXY_TYPE_PROVISIONING payload passes (k = 0) (k * 19) =
      (List.range' k (left + 1)).map (provisioningSegment payload 19 count) := by
  induction left generalizing k passes with
  | zero =>
    obtain ⟨passes, rfl⟩ : ∃ n, passes = n + 1 := ⟨passes - 1, by omega⟩
    have k_eq : k = count - 1 := by omega
    have inside : k * 19 < payload.length := k_eq ▸ more
    have last : payload.length - k * 19 ≤ 19 := by omega
    have kind : sarAt count k = _SAR_LAST := by
      rw [sarAt, if_neg (by omega), if_pos k_eq]
    have chunk : (payload.drop (k * 19)).take 19 = payload.drop (k * 19) :=
      List.take_of_length_le (by rw [List.length_drop]; exact last)
    have notFirst : ¬k = 0 := by omega
    have after : k * 19 + (payload.length - k * 19) = payload.length := by omega
    rw [segmentLoop, if_pos inside]
    simp only [notFirst, decide_false, Bool.false_eq_true, if_false, last, if_true,
      List.length_drop, after]
    rw [segmentLoop_done (Nat.le_refl _)]
    change [_ :: _] = [provisioningSegment payload 19 count k]
    rw [provisioningSegment, kind, chunk]
    rfl
  | succ left ih =>
    obtain ⟨passes, rfl⟩ : ∃ n, passes = n + 1 := ⟨passes - 1, by omega⟩
    have inside : k * 19 + 19 < payload.length := by
      have before : (k + 1) * 19 ≤ (count - 1) * 19 := Nat.mul_le_mul_right 19 (by omega)
      omega
    have long : ¬payload.length - k * 19 ≤ 19 := by omega
    have size : ((payload.drop (k * 19)).take 19).length = 19 := by
      rw [List.length_take, List.length_drop]
      omega
    rw [segmentLoop, if_pos (by omega), List.range'_succ, List.map_cons,
      ← ih (k + 1) passes (by omega) (by omega)]
    by_cases first : k = 0
    · subst first
      simp only [decide_true, if_true, size]
      rfl
    · have kind : sarAt count k = _SAR_CONTINUATION := by
        rw [sarAt, if_neg first, if_neg (by omega)]
      simp only [first, decide_false, Bool.false_eq_true, if_false, long, size,
        provisioningSegment, kind, Nat.succ_ne_zero, Nat.succ_mul]
      rfl

/-- `_make_proxy_pdu` is `_wrap_provisioning_pdu` for an MTU of 23. -/
theorem makeProxyPdu_eq (suite : CipherSuite) (ecdh : Bytes → Except String Bytes)
    (payload : Bytes) :
    makeProxyPdu PROXY_TYPE_PROVISIONING payload =
      wrapProvisioningPdu (codeSuite suite ecdh) payload 23 := by
  by_cases short : payload.length ≤ 19
  · rw [makeProxyPdu, if_pos short, wrapProvisioningPdu_short suite ecdh short]
    rfl
  · have long := Nat.lt_of_not_le short
    obtain ⟨two, more, whole⟩ := count_bounds (by decide) long
    have segments : wrapProvisioningPdu (codeSuite suite ecdh) payload 23 = _ :=
      wrapProvisioningPdu_long suite ecdh long
    rw [makeProxyPdu, if_neg short, segments]
    change segmentLoop _ payload payload.length (0 = 0) (0 * 19) = List.map (provisioningSegment _ 19 _) _
    generalize (payload.length + 19 - 1) / 19 = count at two more whole ⊢
    obtain ⟨left, rfl⟩ : ∃ left, count = 0 + left + 1 := ⟨count - 1, by omega⟩
    rw [segmentLoop_eq two more whole 0 left payload.length rfl (by omega), List.range_eq_range',
      Nat.zero_add]

end Segments

/-! ### Checks -/

/-- The script fails with an `IndexError`, or the library fails as well. -/
def Fails {α : Type} (error : ScriptError) (left : TuyaBleMesh.Exchange UInt8 α) : Prop :=
  error = .raised .indexError ∨ ∃ error', left = .done (.error error')

/-- Both go on with values that are related, as long as neither fails. -/
abbrev InStep {α γ : Type} (related : α → γ → Prop) (script : ScriptExchange α)
    (library : TuyaBleMesh.Exchange UInt8 γ) : Prop :=
  Follows (fun value left => ∃ value', left = .done (.ok value') ∧ related value value') Fails script
    library

section Checks

variable {suite : CipherSuite} {ecdh : Bytes → Except String Bytes}

theorem checkReply_ok {pdu : Bytes} {expected : UInt8} (name failed stepName : String) :
    checkReply pdu expected name failed = .ok () ↔
      checkPdu (codeSuite suite ecdh) pdu expected stepName = .ok () := by
  cases pdu with
  | nil => exact iff_of_false (by rintro ⟨⟩) (by rintro ⟨⟩)
  | cons type params =>
    have value : (codeSuite suite ecdh).value type = type := rfl
    have first : byteAt (type :: params) 0 = .ok type := rfl
    simp only [checkReply, checkPdu, value, first, bind, Except.bind]
    by_cases failure : type = PROV_FAILED
    · rw [if_pos failure, if_pos (show type = _PROV_FAILED from failure)]
      refine iff_of_false ?_ (by rintro ⟨⟩)
      cases byteAt (type :: params) 1 with
      | error error => rintro ⟨⟩
      | ok code => rintro ⟨⟩
    · rw [if_neg failure, if_neg (show ¬type = _PROV_FAILED from failure)]
      by_cases same : type = expected
      · simp only [same, ne_eq, not_true_eq_false, if_false]
        exact iff_of_true rfl trivial
      · simp only [ne_eq, same, not_false_eq_true, if_true]
        exact iff_of_false (by rintro ⟨⟩) (by rintro ⟨⟩)

theorem checkResult_ok (pdu : Bytes) :
    checkResult pdu = .ok () ↔ checkComplete (codeSuite suite ecdh) pdu = .ok () := by
  cases pdu with
  | nil => exact iff_of_false (by rintro ⟨⟩) (by rintro ⟨⟩)
  | cons type params =>
    have value : (codeSuite suite ecdh).value type = type := rfl
    have first : byteAt (type :: params) 0 = .ok type := rfl
    simp only [checkResult, checkComplete, value, first, bind, Except.bind]
    by_cases complete : type = PROV_COMPLETE
    · subst complete
      exact iff_of_true rfl rfl
    · have incomplete : type ≠ _PROV_COMPLETE := complete
      simp only [complete, incomplete, ne_eq, not_false_eq_true, if_true, if_false]
      split
      · exact iff_of_false (by rintro ⟨⟩) (by split <;> rintro ⟨⟩)
      · exact iff_of_false (by rintro ⟨⟩) (by split <;> rintro ⟨⟩)

theorem byteAt_error {pdu : Bytes} {i : Nat} {error : ScriptError}
    (failed : byteAt pdu i = .error error) : error = .raised .indexError := by
  rw [byteAt, index] at failed
  cases found : pdu[i]? with
  | some byte =>
    rw [found] at failed
    cases failed
  | none =>
    rw [found] at failed
    cases failed
    rfl

theorem readFields_error {caps : Bytes} {fields : List Nat} {error : ScriptError}
    (failed : (fields.forM fun i => discard (byteAt caps i)) = .error error) :
    error = .raised .indexError := by
  induction fields with
  | nil => cases failed
  | cons i fields ih =>
    change (discard (byteAt caps i) >>= fun _ => fields.forM fun i => discard (byteAt caps i)) = _
      at failed
    cases byte : byteAt caps i with
    | error error' =>
      rw [byte] at failed
      cases failed
      exact byteAt_error byte
    | ok value =>
      rw [byte] at failed
      exact ih failed

/-- The script takes Capabilities that the library takes; the others are too short for it, or
rejected by both. -/
theorem checkCapabilities_cases (suite : CipherSuite) (ecdh : Bytes → Except String Bytes)
    (caps : Bytes) (stepName : String) :
    (checkCapabilities caps = .ok () ∧ 2 ≤ caps.length ∧
      checkPdu (codeSuite suite ecdh) caps _PROV_CAPABILITIES stepName = .ok ()) ∨
    ∃ error, checkCapabilities caps = .error error ∧ (error = .raised .indexError ∨
      ∃ error', checkPdu (codeSuite suite ecdh) caps _PROV_CAPABILITIES stepName = .error error') := by
  cases caps with
  | nil => exact .inr ⟨_, rfl, .inl rfl⟩
  | cons type params =>
    have value : (codeSuite suite ecdh).value type = type := rfl
    have first : byteAt (type :: params) 0 = .ok type := rfl
    by_cases other : type = PROV_CAPABILITIES
    · subst other
      have fine : checkPdu (codeSuite suite ecdh) (PROV_CAPABILITIES :: params) _PROV_CAPABILITIES
          stepName = .ok () := checkPdu_ok (by decide) params stepName
      have read : checkCapabilities (PROV_CAPABILITIES :: params) =
          (List.range' 1 11).forM fun i => discard (byteAt (PROV_CAPABILITIES :: params) i) := by
        simp only [checkCapabilities, first, bind, Except.bind, ne_eq, not_true_eq_false, if_false]
      cases fields : (List.range' 1 11).forM fun i => discard (byteAt (PROV_CAPABILITIES :: params) i) with
      | error error => exact .inr ⟨error, read.trans fields, .inl (readFields_error fields)⟩
      | ok _ =>
        refine .inl ⟨read.trans fields, ?_, fine⟩
        cases params with
        | nil => cases fields
        | cons elements rest => exact Nat.le_add_left 2 rest.length
    · right
      simp only [checkCapabilities, checkPdu, value, first, bind, Except.bind, ne_eq, other,
        not_false_eq_true, if_true]
      refine ⟨_, rfl, .inr ?_⟩
      split
      · exact ⟨_, rfl⟩
      · exact ⟨_, if_pos other⟩

end Checks

/-! ### In step -/

section Steps

variable {suite : CipherSuite} {ecdh : Bytes → Except String Bytes} {α γ δ : Type}

/-- Both go on from values that are related. -/
theorem InStep.seq {ε : Type} {R : α → γ → Prop} {script : ScriptExchange α}
    {library : TuyaBleMesh.Exchange UInt8 γ} {rest : α → ScriptExchange ε}
    {rest' : γ → TuyaBleMesh.Exchange UInt8 δ} {returns : ε → TuyaBleMesh.Exchange UInt8 δ → Prop}
    (first : InStep R script library)
    (second : ∀ value value', R value value' →
      Follows returns Fails (rest value) (rest' value')) :
    Follows returns Fails (script >>= rest) (library >>= rest') := by
  refine Program.Follows.bind (first.mono (fun _ _ matched => matched) ?_) second
  rintro error left (index | ⟨error', rfl⟩)
  · exact .inl index
  · exact .inr ⟨error', rfl⟩

/-- What both compute alike. -/
theorem follows_same {result : Except PyError α} {rest : α → ScriptExchange γ}
    {rest' : α → TuyaBleMesh.Exchange UInt8 δ} {returns : γ → TuyaBleMesh.Exchange UInt8 δ → Prop}
    (continues : ∀ value, result = .ok value → Follows returns Fails (rest value) (rest' value)) :
    Follows returns Fails
      ((liftM (result.mapError ScriptError.raised) : ScriptExchange α) >>= rest)
      ((liftM result : TuyaBleMesh.Exchange UInt8 α) >>= rest') := by
  cases result with
  | ok value => exact continues value rfl
  | error error => exact .raised (.inr ⟨error, rfl⟩)

/-- A check that passes in the script when it passes in the library. -/
theorem follows_check {check : Except ScriptError Unit} {check' : Except PyError Unit}
    {rest : Unit → ScriptExchange γ} {rest' : Unit → TuyaBleMesh.Exchange UInt8 δ}
    {returns : γ → TuyaBleMesh.Exchange UInt8 δ → Prop} (same : check = .ok () ↔ check' = .ok ())
    (continues : Follows returns Fails (rest ()) (rest' ())) :
    Follows returns Fails ((liftM check : ScriptExchange Unit) >>= rest)
      ((liftM check' : TuyaBleMesh.Exchange UInt8 Unit) >>= rest') := by
  refine Program.Follows.lift (fun value checked => ⟨(), same.mp checked, continues⟩) ?_
  intro error failed
  cases result : check' with
  | ok _ => exact absurd ((same.mpr result).symm.trans failed) nofun
  | error error' => exact .inr ⟨error', rfl⟩

theorem await_inStep (action : BearerAction UInt8) :
    InStep (fun _ _ => True) (ScriptExchange.await action) (Exchange.await action) := by
  refine .called _ fun reply => ?_
  obtain ⟨result, clock⟩ := reply
  cases result with
  | ok value => exact .returned ⟨(), rfl, trivial⟩
  | error error => exact .raised (.inr ⟨error, rfl⟩)

theorem sendProv_inStep (pdu : Bytes) :
    InStep (fun _ _ => True) (sendProv pdu)
      (TuyaBleMesh.sendProv (codeSuite suite ecdh) scriptClient pdu) := by
  have loop (several : Prop) [Decidable several] (segments : List Bytes) :
      InStep (fun _ _ => True)
        (segments.forM fun seg => do
          ScriptExchange.await (.write seg pdu)
          if several then
            ScriptExchange.await (.sleep 50))
        (writePieces several pdu segments) := by
    induction segments with
    | nil => exact .returned ⟨(), rfl, trivial⟩
    | cons segment segments ih =>
      refine InStep.seq (R := fun _ _ => True) ?_ fun _ _ _ => ih
      refine (await_inStep _).seq fun _ _ _ => ?_
      split
      · exact await_inStep _
      · exact .returned ⟨(), rfl, trivial⟩
  rw [sendProv, makeProxyPdu_eq suite ecdh]
  exact loop _ _

theorem recvProv_inStep (timeout : Nat) (stepName : String) :
    InStep (fun pdu pdu' => pdu = pdu') (recvProv timeout)
      (TuyaBleMesh.recvProv timeout stepName) := by
  refine .called _ fun reply => ?_
  obtain ⟨result, clock⟩ := reply
  cases result with
  | ok received => exact .returned ⟨_, rfl, rfl⟩
  | error error =>
    refine .raised (.inr ?_)
    cases error with
    | timeoutError => exact ⟨_, rfl⟩
    | _ => exact ⟨_, rfl⟩

end Steps

/-! ### The exchange -/

section Exchange

variable (lib : CipherLibrary) (ecdh : Bytes → Except String Bytes) (self : PBGATTProvisioner)
  (appKey : Bytes)

theorem exchangeInvite_inStep :
    InStep (fun caps caps' => caps = caps' ∧ 2 ≤ caps.length) exchangeInvite
      (TuyaBleMesh.exchangeInvite (codeSuite lib.toCipherSuite ecdh) scriptClient) := by
  refine (sendProv_inStep _).seq fun _ _ _ => (recvProv_inStep 10 "Capabilities").seq ?_
  rintro caps _ rfl
  rcases checkCapabilities_cases lib.toCipherSuite ecdh caps "Capabilities" with
    ⟨checked, long, passed⟩ | ⟨error, failed, both⟩
  · exact Program.Follows.lift (fun _ _ => ⟨(), passed, .returned ⟨caps, rfl, rfl, long⟩⟩)
      fun error failed => absurd (checked.symm.trans failed) nofun
  · refine Program.Follows.lift (fun _ checked => absurd (checked.symm.trans failed) nofun) ?_
    intro error' failed'
    cases failed.symm.trans failed'
    rcases both with index | ⟨rejected, both⟩
    · exact .inl index
    · exact .inr ⟨rejected, by rw [both]; rfl⟩

theorem exchangePublicKeys_inStep :
    InStep (fun key key' => key = key') (exchangePublicKeys self)
      (TuyaBleMesh.exchangePublicKeys (codeSuite lib.toCipherSuite ecdh) (self.toProvisioner appKey)
        scriptClient) := by
  refine (sendProv_inStep _).seq fun _ _ _ => (await_inStep _).seq fun _ _ _ =>
    (sendProv_inStep _).seq fun _ _ _ => (recvProv_inStep 15 "PublicKey").seq ?_
  rintro pdu _ rfl
  exact follows_check (checkReply_ok _ _ _) (.returned ⟨pdu.drop 1, rfl, rfl⟩)

theorem exchangeConfirmations_inStep (confKey randomProvisioner : Bytes) :
    InStep (fun random random' => random = random')
      (exchangeConfirmations lib confKey randomProvisioner)
      (TuyaBleMesh.exchangeConfirmations (codeSuite lib.toCipherSuite ecdh) scriptClient confKey
        randomProvisioner) := by
  refine follows_same fun ourConf _ => ?_
  refine (sendProv_inStep _).seq fun _ _ _ => (recvProv_inStep 10 "Confirmation").seq ?_
  rintro devConfPdu _ rfl
  refine follows_check (checkReply_ok _ _ _) ?_
  refine (sendProv_inStep _).seq fun _ _ _ => (recvProv_inStep 10 "Random").seq ?_
  rintro devRandomPdu _ rfl
  refine follows_check (checkReply_ok _ _ _) ?_
  dsimp only
  have computed : confirmation (codeSuite lib.toCipherSuite ecdh) confKey (devRandomPdu.drop 1) =
      aesCmac lib.toCipherSuite confKey (devRandomPdu.drop 1 ++ authValue) := rfl
  rw [verifyConfirmation, computed]
  cases aesCmac lib.toCipherSuite confKey (devRandomPdu.drop 1 ++ authValue) with
  | error error => exact .raised (.inr ⟨error, rfl⟩)
  | ok expectedConf =>
    change Follows _ _ (ite (expectedConf ≠ devConfPdu.drop 1) _ _)
      (liftM (ite (expectedConf ≠ devConfPdu.drop 1) _ _) >>= _)
    split
    · exact .raised (.inr ⟨_, rfl⟩)
    · exact .returned ⟨_, rfl, rfl⟩

theorem provData_eq : provData self =
    provisioningData (codeSuite lib.toCipherSuite ecdh) (self.toProvisioner appKey) := by
  simp only [provData, provisioningData, PBGATTProvisioner.toProvisioner, codeSuite_lits,
    List.append_assoc]

theorem exchangeData_inStep (sharedSecret confSalt randomProvisioner randomDevice : Bytes) :
    InStep (fun key key' => key = key')
      (exchangeData lib self sharedSecret confSalt randomProvisioner randomDevice)
      (TuyaBleMesh.exchangeData (codeSuite lib.toCipherSuite ecdh) (self.toProvisioner appKey)
        scriptClient sharedSecret confSalt randomProvisioner randomDevice) := by
  refine follows_same fun provSalt _ => follows_same fun sessionKey derived =>
    follows_same fun sessionNonce _ => follows_same fun devKey _ => ?_
  rw [provData_eq lib ecdh self appKey]
  refine follows_same fun data _ => ?_
  -- the session key has 16 bytes, and AESCCM takes it as the library does
  have valid : sessionKey.length = _AES_BLOCK_SIZE := k1_length lib.toCipherSuite derived
  obtain ⟨script, library⟩ := MeshProxyCmd.meshAesCcmEncrypt_agree lib valid (.inr rfl)
    (sessionNonce.drop 3) data
  have same : MeshProxyCmd.meshAesCcmEncrypt lib sessionKey (sessionNonce.drop 3) data 8 =
      (codeSuite lib.toCipherSuite ecdh).meshAesCcmEncrypt sessionKey (sessionNonce.drop 3) data 8 :=
    script.trans library.symm
  rw [same]
  refine follows_same fun encryptedData _ => ?_
  refine (sendProv_inStep _).seq fun _ _ _ => (recvProv_inStep 15 "Complete/Failed").seq ?_
  rintro resultPdu _ rfl
  exact follows_check (checkResult_ok resultPdu) (.returned ⟨devKey, rfl, rfl⟩)

theorem sharedSecret_follows {α γ : Type} (key : Bytes) {rest : Bytes → ScriptExchange α}
    {rest' : Bytes → TuyaBleMesh.Exchange UInt8 γ}
    {returns : α → TuyaBleMesh.Exchange UInt8 γ → Prop}
    (continues : ∀ secret, Follows returns Fails (rest secret) (rest' secret)) :
    Follows returns Fails ((liftM (sharedSecret ecdh key) : ScriptExchange Bytes) >>= rest)
      ((liftM (TuyaBleMesh.sharedSecret (codeSuite lib.toCipherSuite ecdh) key) :
        TuyaBleMesh.Exchange UInt8 Bytes) >>= rest') := by
  have point : (codeSuite lib.toCipherSuite ecdh).ecdh key = ecdh key := rfl
  rw [sharedSecret, TuyaBleMesh.sharedSecret, point]
  split
  · exact .raised (.inr ⟨_, rfl⟩)
  · cases ecdh key with
    | ok secret => exact continues secret
    | error exc => exact .raised (.inr ⟨_, rfl⟩)

/-- How the script ends, with what is left to the library. -/
def Matches (result : ProvisionResult) (left : TuyaBleMesh.Exchange UInt8 (ProvisioningResult UInt8)) :
    Prop :=
  ∃ returned : ProvisioningResult UInt8,
    left = (do
      Exchange.await (.sleep _POST_COMPLETE_DELAY)
      return returned) ∧
    result.unicast = s!"0x{hexUpper 4 returned.unicastAddr}" ∧
    result.elements = returned.numElements ∧ result.ivIndex = returned.ivIndex ∧
    result.netKey = hexBytes returned.netKey ∧ result.devKey = hexBytes returned.devKey

theorem exchange_follows (mac : String) (randomProvisioner : Bytes) :
    Follows Matches Fails (exchange lib ecdh self mac randomProvisioner)
      (runExchange (codeSuite lib.toCipherSuite ecdh) (self.toProvisioner appKey) scriptClient
        randomProvisioner) := by
  have subscribed : subscribe scriptClient = (Exchange.await .startNotify : TuyaBleMesh.Exchange UInt8 _) := rfl
  rw [exchange, runExchange, subscribed]
  refine (await_inStep _).seq fun _ _ _ => (exchangeInvite_inStep lib ecdh).seq ?_
  rintro caps _ ⟨rfl, long⟩
  obtain ⟨type, elements, rest, rfl⟩ : ∃ type elements rest, caps = type :: elements :: rest := by
    match caps, long with
    | type :: elements :: rest, _ => exact ⟨type, elements, rest, rfl⟩
  refine Program.Follows.lift_left (fun numElements read => ?_) fun error failed => nomatch failed
  cases read
  refine (exchangePublicKeys_inStep lib ecdh self appKey).seq ?_
  rintro key _ rfl
  refine (sharedSecret_follows lib ecdh key) fun secret => ?_
  refine follows_same fun confSalt _ => follows_same fun confKey _ => ?_
  refine (exchangeConfirmations_inStep lib ecdh confKey randomProvisioner).seq ?_
  rintro randomDevice _ rfl
  refine (exchangeData_inStep lib ecdh self appKey secret confSalt randomProvisioner randomDevice).seq
    ?_
  rintro devKey _ rfl
  exact .returned ⟨_, rfl, rfl, rfl, rfl, rfl, rfl⟩

/-- Where the library is when the script is somewhere. -/
def Keeps (left : ScriptExchange ProvisionResult)
    (left' : TuyaBleMesh.Exchange UInt8 (ProvisioningResult UInt8)) : Prop :=
  match left with
  | .done (.ok result) => Matches result left'
  | .done (.error error) => Fails error left'
  | .call call _ => ∃ next, left' = .call call next

/-- Whoever answers the calls, a device or not: wherever the script's exchange gets, the library's
gets with the same answers, and waits for the same call. If the script has returned, the library
has its keys and only sleeps before it returns them. If the script has raised, so has the
library, or it was an `IndexError`. -/
theorem exchange_reaches {σ : Type}
    {answers : σ → (call : BearerCall UInt8) → Reply call.Value → σ → Prop} {s s' : σ} {mac : String}
    {randomProvisioner : Bytes} {left : ScriptExchange ProvisionResult}
    (reached : Program.Reaches answers s (exchange lib ecdh self mac randomProvisioner) s' left) :
    ∃ left', Program.Reaches answers s
        (runExchange (codeSuite lib.toCipherSuite ecdh) (self.toProvisioner appKey) scriptClient
          randomProvisioner) s' left' ∧ Keeps left left' := by
  obtain ⟨left', reached', follows⟩ :=
    (exchange_follows lib ecdh self appKey mac randomProvisioner).reaches reached
  refine ⟨left', reached', ?_⟩
  cases follows with
  | returned related => exact related
  | raised related => exact related
  | called call rest => exact ⟨_, rfl⟩

end Exchange

def sampleScript : PBGATTProvisioner where
  netKey := List.replicate 16 0x01
  unicastAddr := 0xB0
  publicKeyBytes := List.replicate 64 0x05

theorem exchange_reaches_sample : ∃ (l : LinkSide) (result : ProvisionResult)
    (left' : TuyaBleMesh.Exchange UInt8 (ProvisioningResult UInt8)),
    Program.Reaches (LinkSide.Answers nonceTagSuite sampleUnit fun _ => true) {}
        (runExchange (codeSuite nonceTagSuite sampleEcdh) (sampleScript.toProvisioner [])
          scriptClient sampleRandom) l left' ∧ Matches result left' := by
  have reached := Program.serve_reaches
    (fun l call => LinkSide.cooperate_answers nonceTagSuite sampleUnit (fun _ => true) l call) 40 {}
    (exchange MeshProxyCmd.sampleLibrary sampleEcdh sampleScript "" sampleRandom)
  have returned : (Program.serve (LinkSide.cooperate nonceTagSuite sampleUnit) 40 {}
      (exchange MeshProxyCmd.sampleLibrary sampleEcdh sampleScript "" sampleRandom)).2.returned?.isSome =
        true := by
    decide +kernel
  obtain ⟨result, returned⟩ := Option.isSome_iff_exists.mp returned
  rw [Program.eq_of_returned? returned] at reached
  obtain ⟨left', reached', keeps⟩ := exchange_reaches MeshProxyCmd.sampleLibrary sampleEcdh
    sampleScript [] reached
  exact ⟨_, result, left', reached', keeps⟩

end PbGattProvision

end TuyaBleMesh

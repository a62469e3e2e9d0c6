import Mathlib.Data.List.Destutter
import TuyaBleMesh.Lib.Hex
import TuyaBleMesh.Lib.Inside
import TuyaBleMesh.Provisioning.Exchange
import TuyaBleMesh.SigMesh.Device

/-!
# Provisioning in the config flow

`run_provision` of `config_flow_sig.py`: a device is provisioned with new keys, and then
configured over the proxy service. The provisioner is awaited as a whole; the device object
that is made for the configuration is the one of the other modules.
-/

namespace TuyaBleMesh

def _UNICAST_PROVISIONER : Nat := 0x0001

def _UNICAST_DEVICE_DEFAULT : Nat := 0x00B0

def _MODEL_GENERIC_ONOFF_SERVER : Int := 0x1000

def _POST_PROV_REBOOT_DELAY : Rat := 6

/-- What `run_provision` awaits beside the device. -/
inductive ProvisionOp
  /-- `wait_for(provisioner.provision(mac), …)`; the provisioner has been made with the keys. -/
  | provision (mac : String) (netKey appKey : Bytes) (unicastAddr : Nat)
  | sleep (seconds : Rat)

abbrev ProvisionOp.Answer : ProvisionOp → Type
  | .provision _ _ _ _ => ProvisioningResult UInt8
  | .sleep _ => Unit

abbrev provisionSignature : Signature := sigSignature.plus ProvisionOp ProvisionOp.Answer

abbrev RunProvision := Coroutine provisionSignature

namespace RunProvision

open Coroutine

/-! ### The run -/

/-- What the device object for the configuration is made with. -/
def deviceConfig (suite : CipherSuite) (lawful : LawfulCcm suite) (mac : String) : SigConfig where
  suite
  lawful
  address := mac.toUpper
  opItemPrefix := "cfg"
  ourAddr := _UNICAST_PROVISIONER
  targetAddr := _UNICAST_DEVICE_DEFAULT
  levelTargetAddr := _UNICAST_DEVICE_DEFAULT
  ourAddr_lt := by decide
  targetAddr_lt := by decide
  levelTargetAddr_lt := by decide

/-- The public coroutine methods of a `SIGMeshDevice`. -/
def methods : List String :=
  ["connect", "disconnect", "send_power", "send_level", "send_vendor_command",
    "request_composition_data", "send_config_appkey_add", "send_config_model_app_bind"]

def await (op : ProvisionOp) : RunProvision op.Answer :=
  Coroutine.call (S := provisionSignature) (.inr op)

variable (c : SigConfig)

/-- A call of the device is awaited, and the wait for a status within it. -/
def awaitCall (call : SigCall) : RunProvision Unit :=
  waiting (fun point => lift (SigMesh.body c point)) (lift (SigMesh.runCall c call))

/-- `await device.name(…)`, where the method, if there is one, makes the call of its arguments.
What the call returns is only logged. -/
def awaitMethod (name : String) (call : SigCall) : RunProvision Unit :=
  if name ∈ methods then awaitCall c call else raise .attributeError

/-- The third phase, which adds the key and binds it. -/
def configure (appKey : Bytes) : RunProvision Unit := do
  lift (SigMesh.connect c 5)
  awaitMethod c "send_config_app_key_add" (.sendConfig (.appkeyAdd appKey 0 0))
  await (.sleep (1 / 2))
  awaitMethod c "send_config_model_app_bind"
    (.sendConfig (.modelAppBind _UNICAST_DEVICE_DEFAULT 0 _MODEL_GENERIC_ONOFF_SERVER))

/-- `run_provision`, with the keys that it draws. -/
def runProvision (suite : CipherSuite) (lawful : LawfulCcm suite) (mac : String)
    (netKey appKey : Bytes) : RunProvision (String × String × String) := do
  let c := deviceConfig suite lawful mac
  let result : ProvisioningResult UInt8 ← await (.provision mac netKey appKey _UNICAST_DEVICE_DEFAULT)
  await (.sleep _POST_PROV_REBOOT_DELAY)
  modify fun _ => { device := Device.new c.targetAddr (some c.levelTargetAddr) }
  ensuring
    (onError (configure c appKey) fun error => if error.isException then pure () else raise error)
    (lift SigMesh.disconnect)
  return (hexBytes netKey, hexBytes result.devKey, hexBytes appKey)

/-! ### What is sent -/

/-- The message of which a PDU is written. -/
def configWrite? : provisionSignature.Op → Option ConfigCall
  | .inl (.write (.sendConfig call) _ _) => some call
  | _ => none

/-- The configuration messages that are sent, in their order; the segments of one message are
written one after the other. -/
def configMessages (past : List (Awaited provisionSignature)) : List ConfigCall :=
  (past.filterMap fun awaited => awaited.op?.bind configWrite?).destutter (· ≠ ·)

/-- The device has been sent the application key and the binding of its on/off server to it, and
the keys that are returned are these and those that it was provisioned with. -/
structure Configured (netKey appKey : Bytes)
    (played : Played provisionSignature (String × String × String)) : Prop where
  sent : configMessages played.past = [.appkeyAdd appKey 0 0,
    .modelAppBind _UNICAST_DEVICE_DEFAULT 0 _MODEL_GENERIC_ONOFF_SERVER]
  returned : ∃ (mac : String) (unicastAddr : Nat) (s resumed : SigMeshDevice)
      (result : ProvisioningResult UInt8),
    Awaited.call (S := provisionSignature) (.inr (.provision mac netKey appKey unicastAddr)) s
      (.ok result) resumed ∈ played.past ∧
    played.result = some (.ok (hexBytes netKey, hexBytes result.devKey, hexBytes appKey))

/-- It is no write of a configuration message. -/
def NoConfig (op : SigOp) : Prop := ∀ call client pdu, op ≠ .write (.sendConfig call) client pdu

def SendsNoConfig (op : provisionSignature.Op) : Prop := configWrite? op = none

theorem sendsNoConfig_inl (op : SigOp) (noConfig : NoConfig op) : SendsNoConfig (.inl op) := by
  unfold SendsNoConfig configWrite?
  split
  · next call client pdu is =>
    cases is
    exact absurd rfl (noConfig call client pdu)
  · rfl

section Awaits

variable {c}

theorem awaits_suppressLinkErrors {body : SigMesh Unit} (only : body.AwaitsOnly NoConfig) :
    (SigMesh.suppressLinkErrors body).AwaitsOnly NoConfig := by
  apply AwaitsOnly.onError only
  intro error
  split
  · exact AwaitsOnly.pure ()
  · exact AwaitsOnly.raise _

theorem awaits_attemptFailed (created : Bool) (error : PyError) :
    (SigMesh.attemptFailed c created error).AwaitsOnly NoConfig := by
  unfold SigMesh.attemptFailed SigMesh.closeAttempt SigMesh.removeFromCache
  split
  · refine AwaitsOnly.bind ?_ fun _ => AwaitsOnly.bind ?_ fun _ => AwaitsOnly.bind ?_ fun _ => ?_
    · split
      · exact awaits_suppressLinkErrors (AwaitsOnly.call nofun)
      · exact AwaitsOnly.pure ()
    · split
      · apply AwaitsOnly.onError (AwaitsOnly.call nofun)
        intro error
        split
        · exact AwaitsOnly.pure ()
        · exact AwaitsOnly.raise _
      · exact AwaitsOnly.pure ()
    · exact AwaitsOnly.call nofun
    · exact AwaitsOnly.pure false
  · exact AwaitsOnly.raise _

theorem awaits_loadKeys : (SigMesh.loadKeys c).AwaitsOnly NoConfig := by
  apply AwaitsOnly.bind
  · apply AwaitsOnly.onError (AwaitsOnly.call nofun)
    intro error
    split
    · exact AwaitsOnly.raise _
    · exact AwaitsOnly.raise _
  · intro made
    apply AwaitsOnly.bind (AwaitsOnly.done (S := sigSignature) made)
    exact fun keys => AwaitsOnly.modify _

theorem awaits_writeGattChar {call : SigCall} (pdu : Bytes)
    (other : ∀ config, call ≠ .sendConfig config) :
    (SigMesh.writeGattChar call pdu).AwaitsOnly NoConfig := by
  apply AwaitsOnly.read_bind
  intro s
  split
  · exact AwaitsOnly.raise _
  · next client _ =>
    apply AwaitsOnly.bind
    · apply AwaitsOnly.call
      rintro config _ _ ⟨⟩
      exact other config rfl
    · exact fun _ => AwaitsOnly.currentTask_bind fun me => AwaitsOnly.modify _

theorem awaits_unsegmentedPdu (appKey : Option Bytes) (dst : Nat) (accessPayload : Bytes) :
    (SigMesh.unsegmentedPdu c appKey dst accessPayload).AwaitsOnly NoConfig := by
  apply AwaitsOnly.bind
  · apply AwaitsOnly.read_bind
    intro s
    split
    · exact AwaitsOnly.raise _
    · exact AwaitsOnly.bind (AwaitsOnly.modify _) fun _ => AwaitsOnly.pure _
  · intro seq
    apply AwaitsOnly.bind
    · apply AwaitsOnly.read_bind
      intro s
      split
      · exact AwaitsOnly.raise _
      · exact AwaitsOnly.pure _
    · exact fun keys => trivial

theorem awaits_requestCompositionData :
    (SigMesh.requestCompositionData c).AwaitsOnly NoConfig := by
  apply AwaitsOnly.bind
  · apply AwaitsOnly.read_bind
    intro s
    split
    · exact AwaitsOnly.pure _
    · exact AwaitsOnly.raise _
  · intro keys
    apply AwaitsOnly.bind (AwaitsOnly.done (S := sigSignature) (configCompositionGet 0))
    intro accessPayload
    apply AwaitsOnly.bind (awaits_unsegmentedPdu _ _ _)
    exact fun pdu => awaits_writeGattChar pdu nofun

theorem awaits_useClient (client : ProxyClient) (resolved : Except PyError Unit) :
    (SigMesh.useClient c client resolved).AwaitsOnly NoConfig := by
  apply AwaitsOnly.bind (AwaitsOnly.done (S := sigSignature) resolved)
  intro _
  refine AwaitsOnly.bind ?_ fun _ => AwaitsOnly.bind (AwaitsOnly.modify _) fun _ => ?_
  · apply AwaitsOnly.onError (AwaitsOnly.call nofun)
    intro error
    split
    · exact AwaitsOnly.pure ()
    · exact AwaitsOnly.raise _
  · apply AwaitsOnly.onError
    · apply AwaitsOnly.currentTask_bind
      intro me
      apply AwaitsOnly.bind
      · apply AwaitsOnly.onError awaits_requestCompositionData
        exact fun error => AwaitsOnly.bind (AwaitsOnly.modify _) fun _ => AwaitsOnly.raise _
      · exact fun _ => AwaitsOnly.modify _
    · intro error
      split
      · exact AwaitsOnly.pure ()
      · exact AwaitsOnly.raise _

theorem awaits_connectAttempt : (SigMesh.connectAttempt c).AwaitsOnly NoConfig := by
  apply AwaitsOnly.bind
  · -- the device is looked for, and each failure is counted
    apply AwaitsOnly.onError
    · apply AwaitsOnly.bind _ fun _ => AwaitsOnly.pure true
      apply AwaitsOnly.bind (AwaitsOnly.call nofun)
      intro found
      split
      · exact AwaitsOnly.pure ()
      · exact AwaitsOnly.raise _
    · exact awaits_attemptFailed false
  · intro found
    split
    · apply AwaitsOnly.bind
      · apply AwaitsOnly.onError
        · exact AwaitsOnly.bind (AwaitsOnly.call nofun) fun _ => AwaitsOnly.pure _
        · exact fun error =>
            AwaitsOnly.bind (awaits_attemptFailed _ error) fun _ => AwaitsOnly.pure none
      · intro made
        split
        · exact AwaitsOnly.pure false
        · next client resolved =>
          apply AwaitsOnly.onError _ (awaits_attemptFailed true)
          exact AwaitsOnly.bind (awaits_useClient client resolved) fun _ => AwaitsOnly.pure true
    · exact AwaitsOnly.pure false

theorem awaits_connect (maxRetries : Nat) : (SigMesh.connect c maxRetries).AwaitsOnly NoConfig := by
  apply AwaitsOnly.bind awaits_loadKeys
  intro _
  -- by induction on the attempts that are left
  have attempts (left : Nat) : (SigMesh.connectFrom c maxRetries left).AwaitsOnly NoConfig := by
    induction left with
    | zero => exact AwaitsOnly.raise _
    | succ left ih =>
      apply AwaitsOnly.bind awaits_connectAttempt
      intro connected
      split
      · exact AwaitsOnly.pure ()
      · exact ih
  exact attempts maxRetries

theorem awaits_disconnect : SigMesh.disconnect.AwaitsOnly NoConfig := by
  have drops : SigMesh.dropClient.AwaitsOnly NoConfig := by
    apply AwaitsOnly.read_bind
    intro s
    split
    · exact AwaitsOnly.raise _
    · apply AwaitsOnly.bind (awaits_suppressLinkErrors (AwaitsOnly.call nofun))
      exact fun _ => AwaitsOnly.modify _
  -- the notification tasks are cancelled one after the other
  have cancels (tasks : List TaskId) : (SigMesh.cancelAll tasks).AwaitsOnly NoConfig := by
    induction tasks with
    | nil => exact AwaitsOnly.pure ()
    | cons task tasks ih => exact AwaitsOnly.bind (AwaitsOnly.cancelTask task) fun _ => ih
  refine AwaitsOnly.bind ?_ fun _ => AwaitsOnly.bind (AwaitsOnly.modify _) fun _ => ?_
  · apply AwaitsOnly.read_bind
    intro s
    split
    · exact AwaitsOnly.pure ()
    · apply AwaitsOnly.bind (awaits_suppressLinkErrors (AwaitsOnly.call nofun))
      exact fun _ => drops
  · apply AwaitsOnly.read_bind
    intro s
    apply AwaitsOnly.bind (cancels s.notifyTasks)
    intro _
    split
    · exact AwaitsOnly.pure ()
    · exact AwaitsOnly.bind (AwaitsOnly.call nofun) fun _ => AwaitsOnly.modify _

theorem configure_awaits (appKey : Bytes) :
    (configure c appKey).AwaitsOnly SendsNoConfig := by
  apply AwaitsOnly.bind ((awaits_connect 5).lift sendsNoConfig_inl)
  intro _
  -- the method has another name
  have missing : awaitMethod c "send_config_app_key_add" (.sendConfig (.appkeyAdd appKey 0 0)) =
      raise (S := provisionSignature) PyError.attributeError := if_neg (by decide)
  rw [missing]
  exact AwaitsOnly.raise _

theorem runProvision_awaits (suite : CipherSuite) (lawful : LawfulCcm suite) (mac : String)
    (netKey appKey : Bytes) :
    (runProvision suite lawful mac netKey appKey).AwaitsOnly SendsNoConfig := by
  have awaits (op : ProvisionOp) : (await op).AwaitsOnly SendsNoConfig := AwaitsOnly.call rfl
  apply AwaitsOnly.bind (awaits _)
  intro result
  apply AwaitsOnly.bind (awaits _)
  intro _
  apply AwaitsOnly.bind (AwaitsOnly.modify _)
  intro _
  apply AwaitsOnly.bind
  · apply AwaitsOnly.ensuring
    · apply AwaitsOnly.onError (configure_awaits appKey)
      intro error
      split
      · exact AwaitsOnly.pure ()
      · exact AwaitsOnly.raise _
    · exact awaits_disconnect.lift sendsNoConfig_inl
  · exact fun _ => AwaitsOnly.pure _

end Awaits

/-- Whatever is answered, in no run has the device been sent the application key or its binding. -/
theorem runProvision_unconfigured (suite : CipherSuite) (lawful : LawfulCcm suite) (mac : String)
    (netKey appKey : Bytes) (env : Surroundings provisionSignature) (s : SigMeshDevice) :
    configMessages ((runProvision suite lawful mac netKey appKey).play env [] s).past = [] ∧
      ¬Configured netKey appKey ((runProvision suite lawful mac netKey appKey).play env [] s) := by
  have quiet := (runProvision_awaits suite lawful mac netKey appKey).play env s
    (AwaitsOnly.All.nil _)
  have none :
      configMessages ((runProvision suite lawful mac netKey appKey).play env [] s).past = [] := by
    have writes : ((runProvision suite lawful mac netKey appKey).play env [] s).past.filterMap
        (fun awaited => awaited.op?.bind configWrite?) = [] := by
      rw [List.filterMap_eq_nil_iff]
      intro awaited member
      cases op : awaited.op? with
      | none => rfl
      | some op => exact quiet awaited member _ op
    rw [configMessages, writes]
    rfl
  refine ⟨none, fun configured => ?_⟩
  have sent := configured.sent
  rw [none] at sent
  cases sent

/-! ### A run -/

/-- The device is provisioned and connected, and answers each configuration message with
Success. -/
def cooperative (netKey : Bytes) : Surroundings provisionSignature where
  me := 0
  answer := fun _ op s =>
    match op with
    | .inr (.provision _ _ appKey unicastAddr) =>
      (.ok ⟨sampleKeys.devKey, netKey, appKey, unicastAddr, 0, 1⟩, s)
    | .inr (.sleep _) => (.ok (), s)
    | .inl .getSecrets => (.ok (.ok sampleKeys), s)
    | .inl .findDevice => (.ok true, s)
    | .inl .establishConnection => (.ok (7, .ok ()), s)
    | .inl (.response _ key) => (.ok (), { s with results := s.results ++ [(key, [0x00])] })
    | .inl (.write _ _ _) => (.ok (), s)
    | .inl (.backoff _ _ _) => (.ok (), s)
    | .inl (.segmentPause _ _) => (.ok (), s)
    | .inl (.startNotify _) => (.ok (), s)
    | .inl .closeAttempt => (.ok (), s)
    | .inl .bluetoothctlRemove => (.ok (), s)
    | .inl .cacheClear => (.ok (), s)
    | .inl (.stopNotify _) => (.ok (), s)
    | .inl (.disconnectClient _) => (.ok (), s)
    | .inl .gatherNotify => (.ok (), s)
  joined := fun _ site _ _ => nomatch site
  spawned := fun _ _ _ => 1

/-- Under the method's own name the key would be sent, and its binding after it. -/
example :
    let c := deviceConfig nonceTagSuite inferInstance "DC:23:4D:21:43:A5"
    let appKey := List.replicate 16 0x22
    let bind : ConfigCall := .modelAppBind _UNICAST_DEVICE_DEFAULT 0 _MODEL_GENERIC_ONOFF_SERVER
    let renamed : RunProvision Unit := do
      lift (SigMesh.connect c 5)
      awaitMethod c "send_config_appkey_add" (.sendConfig (.appkeyAdd appKey 0 0))
      await (.sleep (1 / 2))
      awaitMethod c "send_config_model_app_bind" (.sendConfig bind)
    configMessages (renamed.play (cooperative []) [] { device := Device.new 0 none }).past =
      [.appkeyAdd appKey 0 0, bind] := by
  decide +kernel

/-- The run returns an application key that the device has never been sent. -/
theorem cooperative_unconfigured :
    let netKey := List.replicate 16 0x55
    let appKey := List.replicate 16 0x22
    let played := (runProvision nonceTagSuite inferInstance "DC:23:4D:21:43:A5" netKey appKey).play
      (cooperative netKey) [] { device := Device.new 0 none }
    played.result = some (.ok (hexBytes netKey, hexBytes sampleKeys.devKey, hexBytes appKey)) ∧
      configMessages played.past = [] ∧ ¬Configured netKey appKey played := by
  intro netKey appKey played
  have none : configMessages played.past = [] := by decide +kernel
  refine ⟨by decide +kernel, none, fun configured => ?_⟩
  have sent := configured.sent
  rw [none] at sent
  cases sent

/-- Nor has one whose keys are there before. -/
theorem cooperative_again :
    let netKey := List.replicate 16 0x55
    let appKey := List.replicate 16 0x22
    let played := (runProvision nonceTagSuite inferInstance "DC:23:4D:21:43:A5" netKey appKey).play
      (cooperative netKey) [] { device := sampleDevice }
    configMessages played.past = [] ∧ ¬Configured netKey appKey played :=
  runProvision_unconfigured nonceTagSuite inferInstance "DC:23:4D:21:43:A5" _ _ _ _

end RunProvision

end TuyaBleMesh

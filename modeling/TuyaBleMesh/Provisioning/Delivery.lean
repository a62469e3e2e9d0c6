import TuyaBleMesh.Lib.Mailbox
import TuyaBleMesh.Provisioning.Session

/-!
# What `recv_prov` returns

The slot behind `recv_prov` is a queue as long as every PDU arrives while its call
waits: an event that is set before the call is thrown away with the event, and a
second PDU replaces the first one.
-/

namespace TuyaBleMesh

variable {β : Type}

namespace Exchange

variable {α : Type} {exchange : Exchange β α}

theorem requested_of_receives (receives : exchange.receives = true) :
    exchange.requested = true := by
  rcases exchange with result | ⟨action | timeout, next⟩
  · cases receives
  · cases receives
  · rfl

theorem result?_of_requested (requested : exchange.requested = true) :
    exchange.result? = none := by
  rcases exchange with result | ⟨call, next⟩
  · cases requested
  · rfl

end Exchange

namespace Session

/-- The PDU that `recv_prov` is about to return. -/
def handed (s : Session β) : List Nat :=
  if s.exchange.receives && s.rxEvent then [s.rxBuffer.number] else []

/-- PDUs from their arrival to `recv_prov`. -/
def mail (s : Session β) : Mailbox Nat := ⟨s.arrived.map Arrival.number, s.returned, s.handed⟩

/-- A PDU arrives, after its request has been written, only when `recv_prov` waits for it, and
the timer does not run out between the setting of the event and the next step. -/
def Attended (suite : ProvisionerSuite β) (s : Session β) : SessionEvent β → Prop
  | .process => ∀ data ∈ s.notifyTasks.head?, completes suite data = true →
      s.exchange.requested = true → s.exchange.receives = true ∧ s.rxEvent = false
  | .expire => s.rxEvent = false
  | _ => True

instance (suite : ProvisionerSuite β) (s : Session β) :
    ∀ event, Decidable (s.Attended suite event)
  | .process => inferInstanceAs (Decidable (∀ data ∈ s.notifyTasks.head?, _))
  | .expire => inferInstanceAs (Decidable (_ = false))
  | .notify _ | .proceed _ | .wake | .cancel => isTrue trivial

section Handed

variable {s : Session β}

theorem handed_of_not_receives (other : s.exchange.receives = false) : s.handed = [] := by
  rw [handed, other]
  rfl

theorem handed_of_unset (unset : s.rxEvent = false) : s.handed = [] := by
  rw [handed, unset, Bool.and_false]
  rfl

/-- A new call of `recv_prov` starts with a new event. -/
theorem handed_resume (call : BearerCall β) (result : Except PyError call.Value)
    (next : Reply call.Value → Exchange β (ProvisioningResult β)) :
    (s.resume call result next).handed = [] := by
  have never : ∀ receives set : Bool, (receives && (set && !receives)) = false := by decide
  exact if_neg (by rw [resume, never]; exact Bool.false_ne_true)

end Handed

section Steps

variable {suite : ProvisionerSuite β} {s s' : Session β} {event : SessionEvent β}

/-- While the exchange is not cancelled, the slot is a mailbox. -/
theorem mail_step (attended : s.Attended suite event) (stepped : s.step suite event = some s')
    (goesOn : event ≠ .cancel) : Mailbox.Step s.mail s'.mail := by
  cases step_cases stepped with
  | notified data =>
    unfold onNotify
    split
    · exact .idle _
    · exact .idle _
  | collects data tasks oldest partially rxSarBuffer bytes => exact .idle _
  | arrives data tasks oldest complete pdu rxSarBuffer bytes left =>
    have waits := attended data (by rw [oldest]; exact rfl) complete
    cases requested : s.exchange.requested with
    | true =>
      obtain ⟨receives, unset⟩ := waits requested
      have before : s.handed = [] := handed_of_unset unset
      have put := Mailbox.Step.put s.mail (s.clock + 1)
      rw [mail, before, List.nil_append] at put
      rw [mail, before]
      simp only [mail, handed, receive, requested, receives, if_true, List.map_append,
        List.map_cons, List.map_nil, Bool.and_self]
      exact put
    | false =>
      -- nobody waits for it, and nothing is handed over before or after
      have other : s.exchange.receives = false := by
        by_contra receives
        have := Exchange.requested_of_receives ((Bool.not_eq_false _).mp receives)
        rw [requested] at this
        cases this
      have before : s.handed = [] := handed_of_not_receives other
      rw [mail, before]
      simp only [mail, handed, receive, requested, other, Bool.false_and, Bool.false_eq_true,
        if_false]
      exact .idle _
  | proceeds action next awaits result =>
    have before : s.handed = [] := handed_of_not_receives (by rw [awaits]; rfl)
    rw [mail, mail, before, handed_resume]
    exact .idle _
  | wakes timeout next awaits set =>
    have before : s.handed = [s.rxBuffer.number] := by rw [handed, awaits, set]; rfl
    have after := handed_resume (s := s) (.receive timeout) (.ok s.rxBuffer) next
    have take := Mailbox.Step.take s.mail s.rxBuffer.number [] before
    rw [mail] at take ⊢
    unfold mail
    rw [show Session.handed { s.resume (.receive timeout) (.ok s.rxBuffer) next with
      returned := s.returned ++ [s.rxBuffer.number] } = [] from after]
    exact take
  | expires timeout next awaits =>
    have before : s.handed = [] := handed_of_unset attended
    rw [mail, mail, before, handed_resume]
    exact .idle _
  | cancels awaits => exact absurd rfl goesOn

/-- A step brings in nothing that is waited for, or one PDU while `recv_prov` has none. -/
theorem arrived_step (attended : s.Attended suite event)
    (stepped : s.step suite event = some s') :
    (s'.arrived = s.arrived ∧ s.clock ≤ s'.clock) ∨
      (s.exchange.requested = true ∧ s.handed = [] ∧
        s'.arrived = s.arrived ++ [⟨s.returned.length, s.clock + 1⟩] ∧
        s'.clock = s.clock + 1) := by
  cases step_cases stepped with
  | notified data =>
    unfold onNotify
    split
    · exact .inl ⟨rfl, le_refl _⟩
    · exact .inl ⟨rfl, le_refl _⟩
  | arrives data tasks oldest complete pdu rxSarBuffer bytes left =>
    cases requested : s.exchange.requested with
    | true =>
      -- the PDU arrives while `recv_prov` waits, so the slot is empty
      have unset := (attended data (by rw [oldest]; exact rfl) complete requested).2
      refine .inr ⟨rfl, handed_of_unset unset, ?_, rfl⟩
      rw [receive, requested, if_pos rfl]
    | false =>
      refine .inl ⟨?_, Nat.le_succ _⟩
      rw [receive, requested, if_neg Bool.false_ne_true]
  | _ => exact .inl ⟨rfl, le_refl _⟩

/-- Only a step that cancels it makes a cancelled exchange of one that is not done. -/
theorem cancelled_step (stepped : s.step suite event = some s')
    (goesOn : s'.exchange.result? ≠ some (.error .cancelledError)) :
    event ≠ .cancel ∧ s.exchange.result? ≠ some (.error .cancelledError) := by
  cases step_cases stepped with
  | notified data =>
    refine ⟨nofun, ?_⟩
    unfold onNotify at goesOn
    split at goesOn
    · exact goesOn
    · exact goesOn
  | collects data tasks oldest partially rxSarBuffer bytes => exact ⟨nofun, goesOn⟩
  | arrives data tasks oldest complete pdu rxSarBuffer bytes left => exact ⟨nofun, goesOn⟩
  -- in the other steps the coroutine has been waiting
  | proceeds action next awaits result => exact ⟨nofun, by rw [awaits]; nofun⟩
  | wakes timeout next awaits set => exact ⟨nofun, by rw [awaits]; nofun⟩
  | expires timeout next awaits => exact ⟨nofun, by rw [awaits]; nofun⟩
  | cancels awaits => exact absurd rfl goesOn

/-- What has been returned and what has not, until the exchange is cancelled. -/
structure Delivered (s : Session β) : Prop where
  inOrder : s.exchange.result? ≠ some (.error .cancelledError) → s.mail.InOrder
  returned : s.returned <+: s.arrived.map Arrival.number
  /-- Each PDU has arrived during a call of its own. -/
  calls : s.arrived.map Arrival.calls = List.range s.arrived.length
  sorted : (s.arrived.map Arrival.number).Pairwise (· < ·)
  past : ∀ arrival ∈ s.arrived, arrival.number ≤ s.clock

/-- Only a running exchange returns a PDU. -/
theorem returned_step (stepped : s.step suite event = some s') :
    s'.returned = s.returned ∨ (event ≠ .cancel ∧ s.exchange.result? = none) := by
  cases step_cases stepped with
  | notified data =>
    unfold onNotify
    split
    · exact .inl rfl
    · exact .inl rfl
  | wakes timeout next awaits set => exact .inr ⟨nofun, by rw [awaits]; rfl⟩
  | _ => exact .inl rfl

theorem Delivered.step (delivered : s.Delivered) (attended : s.Attended suite event)
    (stepped : s.step suite event = some s') : s'.Delivered := by
  have inOrder : s'.exchange.result? ≠ some (.error .cancelledError) → s'.mail.InOrder := by
    intro goesOn
    obtain ⟨notCancel, before⟩ := cancelled_step stepped goesOn
    exact (delivered.inOrder before).step (mail_step attended stepped notCancel)
  have returned : s'.returned <+: s'.arrived.map Arrival.number := by
    rcases returned_step stepped with same | ⟨goesOn, running⟩
    · rw [same]
      obtain ⟨arrived, _⟩ | ⟨_, _, arrived, _⟩ := arrived_step attended stepped
      · rw [arrived]
        exact delivered.returned
      · rw [arrived, List.map_append]
        exact delivered.returned.trans (List.prefix_append _ _)
    · have before := delivered.inOrder (by rw [running]; nofun)
      exact (before.step (mail_step attended stepped goesOn)).taken_handedOver
  obtain ⟨arrived, clock⟩ | ⟨requested, none, arrived, clock⟩ := arrived_step attended stepped
  · rw [arrived] at returned
    refine ⟨inOrder, by rw [arrived]; exact returned, ?_, ?_, ?_⟩
    · rw [arrived]
      exact delivered.calls
    · rw [arrived]
      exact delivered.sorted
    · rw [arrived]
      exact fun arrival member => le_trans (delivered.past arrival member) clock
  · -- all that has arrived before has been returned
    have running := Exchange.result?_of_requested requested
    have all : s.arrived.map Arrival.number = s.returned :=
      ((delivered.inOrder (by rw [running]; nofun)).taken_eq none).symm
    refine ⟨inOrder, returned, ?_, ?_, ?_⟩
    · have count : s.returned.length = s.arrived.length := by rw [← all, List.length_map]
      rw [arrived, List.map_append, delivered.calls, List.length_append, List.length_singleton,
        List.range_succ, List.map_singleton, count]
    · rw [arrived, List.map_append, List.map_singleton]
      refine List.pairwise_append.mpr ⟨delivered.sorted, List.pairwise_singleton _ _, ?_⟩
      intro number member number' last
      obtain ⟨arrival, earlier, rfl⟩ := List.mem_map.mp member
      rw [List.mem_singleton.mp last]
      exact Nat.lt_succ_of_le (delivered.past arrival earlier)
    · rw [arrived, clock]
      intro arrival member
      rcases List.mem_append.mp member with earlier | last
      · exact Nat.le_succ_of_le (delivered.past arrival earlier)
      · rw [List.mem_singleton.mp last]

end Steps

section Start

variable [DecidableEq β] (suite : ProvisionerSuite β) (self : Provisioner β)
  (client : BleakClient) (randomProvisioner : List β)

theorem delivered_start : (start suite self client randomProvisioner).Delivered where
  inOrder _ := by
    have fresh : (start suite self client randomProvisioner).handed = [] := handed_of_unset rfl
    rw [mail, fresh]
    rfl
  returned := List.prefix_rfl
  calls := rfl
  sorted := .nil
  past := nofun

/-- In every run in which each PDU arrives while `recv_prov` waits for it, the PDUs that arrive
after their request are returned once and in order, each by the call that it has arrived in:
until the exchange is cancelled, all of them have been returned but the one that the call is about
to return, and a call times out only when all of them have been. -/
theorem arrived_returned {events : List (SessionEvent β)} {s : Session β}
    (ran : (sessionSystem suite).exec (start suite self client randomProvisioner) events = some s)
    (attended : (sessionSystem suite).Guarded (Attended suite)
      (start suite self client randomProvisioner) events) :
    s.returned.Nodup ∧ s.returned <+: s.arrived.map Arrival.number ∧
      s.arrived.map Arrival.calls = List.range s.arrived.length ∧
      (s.exchange.result? ≠ some (.error .cancelledError) →
        s.arrived.map Arrival.number = s.returned ++ s.handed) ∧
      ∀ m m', (sessionSystem suite).StepOf (start suite self client randomProvisioner) events
        m .expire m' → m.arrived.map Arrival.number = m.returned := by
  have preserved : ∀ m event m', m.Delivered → m.Attended suite event →
      (sessionSystem suite).step m event = some m' → m'.Delivered :=
    fun m event m' delivered attended stepped => delivered.step attended stepped
  have start := delivered_start suite self client randomProvisioner
  have delivered := (sessionSystem suite).exec_invariant Delivered preserved start attended ran
  refine ⟨?_, delivered.returned, delivered.calls, delivered.inOrder, ?_⟩
  · -- the numbers increase, and so differ
    have sorted := delivered.sorted.sublist delivered.returned.sublist
    exact sorted.imp fun below => below.ne
  · intro m m' occurs
    obtain ⟨before, unset⟩ :=
      EventSystem.StepOf.invariant _ Delivered preserved start attended occurs
    obtain ⟨_, _, _, _, stepped⟩ := occurs
    have stepped : m.step suite .expire = some m' := stepped
    cases step_cases stepped with
    -- only `expires` raises the timeout, and it leaves an empty slot behind
    | expires timeout next awaits =>
      have inOrder := before.inOrder (by rw [awaits]; nofun)
      exact (inOrder.taken_eq (handed_of_unset unset)).symm

end Start

/-- The device answers the Invite while `recv_prov` waits. -/
def attendedRun : List (SessionEvent UInt8) :=
  [.proceed (.ok ())] ++ answered sampleSuite sampleCapabilities

theorem attendedRun_returns : ∃ s ∈ (sessionSystem sampleSuite).exec sampleStart attendedRun,
    s.arrived = [⟨0, 1⟩] ∧ s.returned.Nodup ∧ s.returned <+: [1] ∧
      (s.exchange.result? ≠ some (.error .cancelledError) → [1] = s.returned ++ s.handed) := by
  have ran : ∃ s ∈ (sessionSystem sampleSuite).exec sampleStart attendedRun,
      s.arrived = [⟨0, 1⟩] := by decide +kernel
  obtain ⟨s, ran, arrived⟩ := ran
  obtain ⟨once, returned, _, inOrder, _⟩ :=
    arrived_returned sampleSuite sampleProvisioner sampleClient sampleRandom ran (by decide +kernel)
  rw [arrived] at returned inOrder
  exact ⟨s, ran, arrived, once, returned, inOrder⟩

/-- The device answers while the Invite is still being written: `recv_prov` then waits for a new
event until its timer runs out. -/
theorem earlyAnswer_lost : ∃ s ∈ (sessionSystem sampleSuite).exec sampleStart
      [.proceed (.ok ()), .notify (0x03 :: sampleCapabilities), .process, .proceed (.ok ()),
        .expire],
    s.arrived = [⟨0, 1⟩] ∧ s.returned = [] ∧
      s.exchange.result?.map Except.isOk = some false := by
  decide +kernel

end Session

end TuyaBleMesh

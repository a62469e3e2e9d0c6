import TuyaBleMesh.Bridge.Daemon
import TuyaBleMesh.Lib.Mailbox

/-!
# The pending file as a queue

`{"queued": true}` says that a command is in a queue, but the queue is one file. It
is one when every command finds it empty: then the commands are executed in the
order they were accepted, each once and with one result.
-/

namespace TuyaBleMesh

/-- The iteration removes the pending file next. -/
def Watcher.removes : Watcher → Bool
  | .unreadable => true
  | .read _ => true
  | _ => false

/-- The command whose result has not been written yet. -/
def Watcher.inHand : Watcher → List Nat
  | .executing command => [command.number]
  | .executed result => [result.command.number]
  | .writing result => [result.command.number]
  | _ => []

/-- A request is made, of any kind. -/
def DaemonEvent.isPost : DaemonEvent → Bool
  | .post _ _ => true
  | _ => false

def Watcher.executing? : Watcher → Option Command
  | .executing command => some command
  | _ => none

/-- What an idle iteration will do with the pending file. -/
def StateFile.work {α : Type} : StateFile α → Nat
  | .absent => 0
  | .broken => 3
  | .whole _ => 6

/-- What is left of an iteration and of the one after it. -/
def Watcher.work (watcher : Watcher) {α : Type} (pending : StateFile α) : Nat :=
  match watcher with
  | .idle => pending.work
  | .found => pending.work - 1
  | .unreadable => 1
  | .read _ => 4
  | .executing _ => 3 + pending.work
  | .executed _ => 2 + pending.work
  | .writing _ => 1 + pending.work

namespace Daemon

/-- The command that waits for its execution. -/
def waiting (s : Daemon) : List Nat :=
  match s.pending with
  | .whole command => [command.number]
  | _ => []

/-- Commands from their acceptance to their execution. -/
def commandBox (s : Daemon) : Mailbox Nat := ⟨s.accepted, s.executed, s.waiting⟩

/-- Commands from their execution to their result. -/
def resultBox (s : Daemon) : Mailbox Nat := ⟨s.executed, s.results, s.watcher.inHand⟩

/-- A command is accepted when no other one is in the pending file, read or not, and the file is
not read while it is being written; what is accepted is an object, its execution returns, and
its result is written. -/
def OneAtATime (s : Daemon) : DaemonEvent → Prop
  | .post (.parsed _) false => s.waiting = [] ∧ s.watcher.removes = false
  | .postWrite false => ∀ posting ∈ s.posting, posting.1.body.isObject = true
  | .read fails => s.posting.isNone = true ∧ (fails = true → s.waiting = [])
  | .execute execution => ∀ command ∈ s.watcher.executing?,
      (executeBleCommand command.body execution).isOk = true
  | .openResult fails => fails = false
  | .writeResult fails => fails = false
  | _ => True

instance (s : Daemon) : ∀ event, Decidable (s.OneAtATime event)
  | .post (.parsed _) false => inferInstanceAs (Decidable (_ ∧ _))
  | .postWrite false => inferInstanceAs (Decidable (∀ posting ∈ s.posting, _))
  | .read _ => inferInstanceAs (Decidable (_ ∧ _))
  | .execute _ => inferInstanceAs (Decidable (∀ command ∈ s.watcher.executing?, _))
  | .openResult fails => inferInstanceAs (Decidable (fails = false))
  | .writeResult fails => inferInstanceAs (Decidable (fails = false))
  | .post .absent _ | .post .malformed _ | .post (.parsed _) true | .postWrite true | .check
  | .unlink => isTrue trivial

/-- What the two parties know of each other while they do not meet in the file. -/
structure Orderly (s : Daemon) : Prop where
  posting : ∀ command linked, s.posting = some (command, linked) →
    linked = true ∧ s.pending = .broken ∧ s.watcher.removes = false
  reading : ∀ command, s.watcher = .read command → s.pending = .whole command
  unreadable : s.watcher = .unreadable → s.waiting = []
  object : ∀ command, s.pending = .whole command → command.body.isObject = true
  executing : ∀ command, s.watcher = .executing command → command.body.isObject = true
  found : s.watcher = .found → s.pending ≠ .absent

section Orderly

variable {s s' : Daemon} {event : DaemonEvent}

theorem waiting_of_whole {command : Command} (whole : s.pending = .whole command) :
    s.waiting = [command.number] := by
  rw [waiting, whole]

theorem waiting_eq_nil : s.waiting = [] ↔ s.pending.whole? = none := by
  unfold waiting StateFile.whole?
  cases s.pending with
  | absent => simp
  | broken => simp
  | whole command => simp

/-- No handler has the pending file open when it is about to be removed. -/
theorem Orderly.unposted (orderly : s.Orderly) (removes : s.watcher.removes = true) :
    s.posting = none := by
  rw [Option.eq_none_iff_forall_ne_some]
  rintro ⟨command, linked⟩ posts
  have free := (orderly.posting command linked posts).2.2
  rw [removes] at free
  cases free

/-- An iteration that goes on and leaves the pending file and the handler alone. -/
private theorem Orderly.proceeds (orderly : s.Orderly) (pending : s'.pending = s.pending)
    (posting : s'.posting = s.posting) (keeps : s'.watcher.removes = false)
    (executing : ∀ command, s'.watcher ≠ .executing command)
    (found : s'.watcher = .found → s'.pending ≠ .absent) : s'.Orderly where
  posting command linked opened := by
    rw [posting] at opened
    obtain ⟨isLinked, broken, _⟩ := orderly.posting command linked opened
    exact ⟨isLinked, pending.trans broken, keeps⟩
  reading command reads := by
    rw [reads] at keeps
    cases keeps
  unreadable failed := by
    rw [failed] at keeps
    cases keeps
  object command whole := orderly.object command (pending ▸ whole)
  executing command executes := absurd executes (executing command)
  found := found

/-- The pending file is removed when its iteration is the only one that knows it. -/
private theorem Orderly.removed (orderly : s.Orderly) (removes : s.watcher.removes = true)
    (pending : s'.pending = .absent) (posting : s'.posting = s.removePending.posting)
    (keeps : s'.watcher.removes = false)
    (executing : ∀ command, s'.watcher = .executing command → command.body.isObject = true)
    (unfound : s'.watcher ≠ .found) : s'.Orderly where
  posting command linked opened := by
    rw [posting, removePending, orderly.unposted removes] at opened
    cases opened
  reading command reads := by
    rw [reads] at keeps
    cases keeps
  unreadable failed := by
    rw [failed] at keeps
    cases keeps
  object command whole := by
    rw [pending] at whole
    cases whole
  executing := executing
  found present := absurd present unfound

theorem Orderly.step (orderly : s.Orderly) (alone : s.OneAtATime event)
    (stepped : s.step event = some s') : s'.Orderly := by
  cases step_cases stepped with
  | refused body fails idle =>
    exact ⟨orderly.posting, orderly.reading, orderly.unreadable, orderly.object,
      orderly.executing, orderly.found⟩
  -- the file is truncated when it is opened, so no iteration may be reading it
  | opened value idle =>
    obtain ⟨_, keeps⟩ := alone
    refine ⟨?_, ?_, fun _ => rfl, nofun, orderly.executing, fun _ => nofun⟩
    · intro command linked opened
      cases opened
      exact ⟨rfl, rfl, keeps⟩
    · intro command reads
      rw [show s.watcher = .read command from reads] at keeps
      cases keeps
  | unwritten command linked posts =>
    exact ⟨nofun, orderly.reading, orderly.unreadable, orderly.object, orderly.executing,
      orderly.found⟩
  -- the body of an accepted command is an object
  | written command linked posts =>
    obtain ⟨rfl, _, keeps⟩ := orderly.posting command linked posts
    refine ⟨nofun, ?_, ?_, ?_, orderly.executing, fun _ => nofun⟩
    · intro command' reads
      rw [show s.watcher = .read command' from reads] at keeps
      cases keeps
    · intro failed
      rw [show s.watcher = .unreadable from failed] at keeps
      cases keeps
    · intro command' whole
      cases whole
      exact alone (command, true) posts
  | nothing idle absent => exact orderly
  | found idle present => exact orderly.proceeds rfl rfl rfl nofun fun _ => present
  -- no request is being written while the file is read
  | reads found command whole =>
    refine ⟨?_, ?_, nofun, orderly.object, nofun, nofun⟩
    · intro command' linked posts
      cases (Option.isNone_iff_eq_none.mp alone.1).symm.trans posts
    · intro command' reads
      cases reads
      exact whole
  | unreadable found fails why =>
    refine ⟨?_, nofun, ?_, orderly.object, nofun, nofun⟩
    · intro command' linked posts
      cases (Option.isNone_iff_eq_none.mp alone.1).symm.trans posts
    · exact fun _ => why.elim alone.2 waiting_eq_nil.mpr
  | discards unreadable => exact orderly.removed (by rw [unreadable]; rfl) rfl rfl rfl nofun nofun
  | refuses command reads value =>
    exact orderly.removed (by rw [reads]; rfl) rfl rfl rfl nofun nofun
  | executes command reads object =>
    refine orderly.removed (by rw [reads]; rfl) rfl rfl rfl ?_ nofun
    intro command' executes
    cases executes
    exact object
  | returns command executing execution body result =>
    exact orderly.proceeds rfl rfl rfl nofun nofun
  | raises command executing execution error raised =>
    exact orderly.proceeds rfl rfl rfl nofun nofun
  | opensResult result executed => exact orderly.proceeds rfl rfl rfl nofun nofun
  | writesResult result writing => exact orderly.proceeds rfl rfl rfl nofun nofun
  | loses result event handed => exact orderly.proceeds rfl rfl rfl nofun nofun

theorem orderly_new : ({} : Daemon).Orderly where
  posting command linked opened := by cases opened
  reading command reads := by cases reads
  unreadable failed := by cases failed
  object command whole := by cases whole
  executing command executes := by cases executes
  found present := by cases present

/-- Every step is one of the first mailbox. -/
theorem Orderly.commandBox_step (orderly : s.Orderly) (alone : s.OneAtATime event)
    (stepped : s.step event = some s') : Mailbox.Step s.commandBox s'.commandBox := by
  cases step_cases stepped with
  | opened value idle =>
    have empty : s.commandBox = ⟨s.accepted, s.executed, []⟩ := by rw [commandBox, alone.1]
    rw [empty]
    exact .idle _
  -- the mailbox was empty: the file was open for this command
  | written command linked posts =>
    obtain ⟨rfl, broken, _⟩ := orderly.posting command linked posts
    have empty : s.commandBox = ⟨s.accepted, s.executed, []⟩ := by
      rw [commandBox, waiting, broken]
    rw [empty]
    exact .put _ command.number
  | discards unreadable =>
    have empty : s.commandBox = ⟨s.accepted, s.executed, []⟩ := by
      rw [commandBox, orderly.unreadable unreadable]
    rw [empty]
    exact .idle _
  | refuses command reads value =>
    -- what is accepted is an object
    have object := orderly.object command (orderly.reading command reads)
    rw [value] at object
    cases object
  | executes command reads object =>
    exact .take s.commandBox command.number [] (waiting_of_whole (orderly.reading command reads))
  | _ => exact .idle _

/-- Every step is one of the second mailbox. -/
theorem resultBox_step (alone : s.OneAtATime event) (stepped : s.step event = some s') :
    Mailbox.Step s.resultBox s'.resultBox := by
  -- what is in hand depends on the place of the iteration only
  have before : ∀ watcher, s.watcher = watcher →
      s.resultBox = ⟨s.executed, s.results, watcher.inHand⟩ := by
    rintro watcher rfl
    rfl
  cases step_cases stepped with
  | found idle present =>
    rw [before _ idle]
    exact .idle _
  | reads found command whole =>
    rw [before _ found]
    exact .idle _
  | unreadable found fails why =>
    rw [before _ found]
    exact .idle _
  | discards unreadable =>
    rw [before _ unreadable]
    exact .idle _
  | refuses command reads value =>
    rw [before _ reads]
    exact .idle _
  | executes command reads object =>
    rw [before _ reads]
    exact .put _ command.number
  | returns command executing execution body result =>
    rw [before _ executing]
    exact .idle _
  | raises command executing execution error raised =>
    -- an execution that raises is excluded
    have returns := alone command (by rw [executing]; rfl)
    rw [raised] at returns
    cases returns
  | opensResult result executed =>
    rw [before _ executed]
    exact .idle _
  | writesResult result writing =>
    rw [before _ writing]
    exact .take _ result.command.number [] rfl
  | loses result event handed =>
    rcases handed with ⟨_, rfl⟩ | ⟨_, rfl⟩
    · cases alone
    · cases alone
  | _ => exact .idle _

end Orderly

/-! ### Requests are numbered -/

/-- The accepted requests are numbered in the order they were accepted. -/
structure Numbered (s : Daemon) : Prop where
  accepted : ∀ number ∈ s.accepted, number < s.posts
  posting : ∀ command linked, s.posting = some (command, linked) →
    command.number < s.posts ∧ ∀ number ∈ s.accepted, number < command.number
  sorted : s.accepted.Pairwise (· < ·)

section Numbered

variable {s s' : Daemon} {event : DaemonEvent}

private theorem Numbered.removed (numbered : s.Numbered) (accepted : s'.accepted = s.accepted)
    (posts : s'.posts = s.posts) (posting : s'.posting = s.removePending.posting) :
    s'.Numbered where
  accepted := by
    rw [accepted, posts]
    exact numbered.accepted
  posting command linked opened := by
    rw [posting, removePending, Option.map_eq_some_iff] at opened
    -- unlinking the file leaves the number of the command that is written
    obtain ⟨⟨command', before⟩, opened', same⟩ := opened
    cases same
    rw [accepted, posts]
    exact numbered.posting command before opened'
  sorted := by
    rw [accepted]
    exact numbered.sorted

theorem Numbered.step (numbered : s.Numbered) (stepped : s.step event = some s') :
    s'.Numbered := by
  have later : ∀ number ∈ s.accepted, number < s.posts + 1 :=
    fun number member => Nat.lt_succ_of_lt (numbered.accepted number member)
  cases step_cases stepped with
  | refused body fails idle =>
    refine ⟨later, ?_, numbered.sorted⟩
    intro command linked opened
    cases idle.symm.trans opened
  | opened value idle =>
    refine ⟨later, ?_, numbered.sorted⟩
    intro command linked opened
    cases opened
    exact ⟨Nat.lt_succ_self _, numbered.accepted⟩
  | unwritten command linked posts => exact ⟨numbered.accepted, nofun, numbered.sorted⟩
  | written command linked posts =>
    obtain ⟨below, above⟩ := numbered.posting command linked posts
    refine ⟨?_, nofun, ?_⟩
    · intro number member
      rcases List.mem_append.mp member with old | new
      · exact numbered.accepted number old
      · rw [List.mem_singleton.mp new]
        exact below
    -- the new number is above those accepted before
    · refine List.pairwise_append.mpr ⟨numbered.sorted, List.pairwise_singleton _ _, ?_⟩
      intro number old last new
      rw [List.mem_singleton.mp new]
      exact above number old
  | discards unreadable => exact numbered.removed rfl rfl rfl
  | refuses command reads value => exact numbered.removed rfl rfl rfl
  | executes command reads object => exact numbered.removed rfl rfl rfl
  | nothing idle absent => exact numbered
  | _ => exact ⟨numbered.accepted, numbered.posting, numbered.sorted⟩

theorem numbered_new : ({} : Daemon).Numbered where
  accepted number member := by cases member
  posting command linked opened := by cases opened
  sorted := List.Pairwise.nil

end Numbered

/-! ### Every iteration ends -/

/-- How many steps the daemon takes until nothing is left to do. -/
def backlog (s : Daemon) : Nat :=
  s.watcher.work s.pending + if s.posting.isSome then 4 else 0

section Backlog

variable {s s' : Daemon} {event : DaemonEvent}

theorem backlog_le : s.backlog ≤ 13 := by
  have file : s.pending.work ≤ 6 := by
    unfold StateFile.work
    split
    · decide
    · decide
    · exact le_refl 6
  have posting : (if s.posting.isSome then 4 else 0) ≤ 4 := by
    split
    · exact le_refl 4
    · decide
  unfold backlog Watcher.work
  -- an iteration has at most three steps left besides those for the file
  cases s.watcher with
  | _ =>
    dsimp only
    omega

theorem Orderly.backlog_step (orderly : s.Orderly) (alone : s.OneAtATime event)
    (working : event.isPost = false) (stepped : s.step event = some s') :
    s'.backlog ≤ s.backlog - 1 := by
  cases step_cases stepped with
  | refused body fails idle => cases working
  | opened value idle => cases working
  | unwritten command linked posts =>
    have before : s.backlog = s.watcher.work s.pending + 4 := by
      rw [backlog, posts]
      rfl
    rw [before]
    show s.watcher.work s.pending + 0 ≤ _
    omega
  | written command linked posts =>
    obtain ⟨rfl, broken, _⟩ := orderly.posting command linked posts
    unfold backlog
    rw [posts, broken]
    cases s.watcher with
    | _ => simp [StateFile.work, Watcher.work]
  | nothing idle absent =>
    -- a request being written would have left a file
    have free : s.posting = none := by
      rw [Option.eq_none_iff_forall_ne_some]
      rintro ⟨command, linked⟩ posts
      have broken := (orderly.posting command linked posts).2.1
      rw [absent] at broken
      cases broken
    simp [backlog, idle, absent, free, Watcher.work, StateFile.work]
  | found idle present =>
    have work : 0 < s.pending.work := by
      cases file : s.pending with
      | absent => exact absurd file present
      | broken => exact Nat.succ_pos 2
      | whole command => exact Nat.succ_pos 5
    unfold backlog
    rw [idle]
    simp only [Watcher.work]
    omega
  | reads found command whole =>
    simp [backlog, found, whole, Option.isNone_iff_eq_none.mp alone.1, Watcher.work, StateFile.work]
  | unreadable found fails why =>
    have there : s.pending ≠ .absent := orderly.found found
    have empty : s.pending.whole? = none := waiting_eq_nil.mp (why.elim alone.2 waiting_eq_nil.mpr)
    -- nothing whole to read, though the file is there
    have broken : s.pending = .broken := by
      cases file : s.pending with
      | absent => exact absurd file there
      | broken => rfl
      | whole command =>
        rw [file] at empty
        cases empty
    simp [backlog, found, broken, Option.isNone_iff_eq_none.mp alone.1, Watcher.work,
      StateFile.work]
  | discards unreadable =>
    have free : s.posting = none := orderly.unposted (by rw [unreadable]; rfl)
    simp [backlog, unreadable, removePending, free, Watcher.work, StateFile.work]
  | refuses command reads value =>
    have object := orderly.object command (orderly.reading command reads)
    rw [value] at object
    cases object
  | executes command reads object =>
    have free : s.posting = none := orderly.unposted (by rw [reads]; rfl)
    simp [backlog, reads, removePending, free, Watcher.work, StateFile.work]
  | returns command executing execution body result =>
    unfold backlog
    rw [executing]
    simp only [Watcher.work]
    omega
  | raises command executing execution error raised =>
    have returns := alone command (by rw [executing]; rfl)
    rw [raised] at returns
    cases returns
  | opensResult result executed =>
    unfold backlog
    rw [executed]
    simp only [Watcher.work]
    omega
  | writesResult result writing =>
    unfold backlog
    rw [writing]
    simp only [Watcher.work]
    omega
  | loses result event handed =>
    rcases handed with ⟨_, rfl⟩ | ⟨_, rfl⟩
    · cases alone
    · cases alone

/-- A daemon without a backlog has nothing in either mailbox. -/
theorem Orderly.empty_of_backlog (orderly : s.Orderly) (done : s.backlog = 0) :
    s.waiting = [] ∧ s.watcher.inHand = [] := by
  have work : s.watcher.work s.pending = 0 := (Nat.add_eq_zero_iff.mp done).1
  have file : s.pending.work = 0 → s.waiting = [] := by
    unfold waiting
    cases s.pending with
    | absent => exact fun _ => rfl
    | broken => exact fun _ => rfl
    | whole command => exact nofun
  cases watcher : s.watcher with
  | idle =>
    rw [watcher] at work
    exact ⟨file work, rfl⟩
  | found =>
    -- the file is there, so that there is something to do
    have there := orderly.found watcher
    rw [watcher] at work
    cases pending : s.pending with
    | absent => exact absurd pending there
    | broken =>
      rw [pending] at work
      cases work
    | whole command =>
      rw [pending] at work
      cases work
  | _ =>
    rw [watcher, Watcher.work] at work
    omega

/-- The daemon always has a step to take that is none of a request. -/
theorem Orderly.works (orderly : s.Orderly) : ∃ event, event.isPost = false ∧
    s.OneAtATime event ∧ (s.step event).isSome = true := by
  -- a request that is being written can go on, and else the watcher
  cases posts : s.posting with
  | some posting =>
    refine ⟨.postWrite true, rfl, trivial, ?_⟩
    rw [Daemon.step, posts]
    rfl
  | none =>
    cases watcher : s.watcher with
    | idle =>
      refine ⟨.check, rfl, trivial, ?_⟩
      simp only [Daemon.step, watcher]
      rfl
    | found =>
      have whole : false = true → s.waiting = [] := by
        rintro ⟨⟩
      refine ⟨.read false, rfl, ⟨by rw [posts]; rfl, whole⟩, ?_⟩
      simp only [Daemon.step, watcher]
      split
      · rfl
      · rfl
    | unreadable =>
      refine ⟨.unlink, rfl, trivial, ?_⟩
      simp only [Daemon.step, watcher]
      rfl
    | read command =>
      refine ⟨.unlink, rfl, trivial, ?_⟩
      simp only [Daemon.step, watcher]
      split
      · rfl
      · rfl
    | executing command =>
      -- a command that is an object gets a result, if only that it failed
      have object := orderly.executing command watcher
      obtain ⟨execution, returns⟩ := executeBleCommand_returns object
      refine ⟨.execute execution, rfl, ?_, ?_⟩
      · intro command' executing
        rw [watcher] at executing
        cases executing
        exact returns
      · simp only [Daemon.step, watcher]
        split
        · rfl
        · rfl
    | executed result =>
      refine ⟨.openResult false, rfl, rfl, ?_⟩
      simp only [Daemon.step, watcher]
      rfl
    | writing result =>
      refine ⟨.writeResult false, rfl, rfl, ?_⟩
      simp only [Daemon.step, watcher]
      rfl

/-- After as many steps as the backlog is large, without another request, it is done. -/
theorem Orderly.backlog_run (orderly : s.Orderly) {work : List DaemonEvent}
    (alone : daemonSystem.Guarded OneAtATime s work)
    (working : ∀ event ∈ work, event.isPost = false)
    (ran : daemonSystem.exec s work = some s') : s'.backlog ≤ s.backlog - work.length := by
  -- each step takes at least one off, until nothing is left
  induction work generalizing s with
  | nil =>
    cases ran
    exact le_refl _
  | cons event work ih =>
    obtain ⟨m, stepped, rest⟩ := (daemonSystem.exec_cons_iff _ _ _ _).mp ran
    have first := orderly.backlog_step alone.1 (working event List.mem_cons_self) stepped
    have later := ih (orderly.step alone.1 stepped) (alone.2 m stepped)
      (fun other member => working other (List.mem_cons_of_mem _ member)) rest
    rw [List.length_cons]
    omega

end Backlog

/-! ### Every accepted command is executed once -/

/-- What holds after a run in which commands are accepted one at a time. -/
structure Delivering (s : Daemon) : Prop where
  orderly : s.Orderly
  numbered : s.Numbered
  commands : s.commandBox.InOrder
  results : s.resultBox.InOrder

theorem Delivering.run {s s' : Daemon} (delivering : s.Delivering) {events : List DaemonEvent}
    (alone : daemonSystem.Guarded OneAtATime s events)
    (ran : daemonSystem.exec s events = some s') : s'.Delivering := by
  apply daemonSystem.exec_invariant Delivering _ delivering alone ran
  rintro m event m' ⟨orderly, numbered, commands, results⟩ alone stepped
  exact ⟨orderly.step alone stepped, numbered.step stepped,
    commands.step (orderly.commandBox_step alone stepped),
    results.step (resultBox_step alone stepped)⟩

/-- In every run in which commands are accepted one at a time, no command is accepted twice, the
executed ones are the first of the accepted ones, in their order, and the results are those of
the first executed ones. The daemon can always go on; after 13 steps without another request
every accepted command has been executed and has its result. -/
theorem accepted_executed_once {events : List DaemonEvent} {s : Daemon}
    (ran : daemonSystem.exec {} events = some s)
    (alone : daemonSystem.Guarded OneAtATime {} events) :
    s.accepted.Nodup ∧ s.executed <+: s.accepted ∧ s.results <+: s.executed ∧
      (∃ event, event.isPost = false ∧ s.OneAtATime event ∧ (s.step event).isSome = true) ∧
      ∀ work s', daemonSystem.exec s work = some s' → daemonSystem.Guarded OneAtATime s work →
        (∀ event ∈ work, event.isPost = false) → 13 ≤ work.length →
          s'.executed = s'.accepted ∧ s'.results = s'.accepted := by
  have new : ({} : Daemon).Delivering := ⟨orderly_new, numbered_new, rfl, rfl⟩
  have delivering := new.run alone ran
  refine ⟨?_, delivering.commands.taken_handedOver, delivering.results.taken_handedOver,
    delivering.orderly.works, ?_⟩
  · exact delivering.numbered.sorted.imp fun below => below.ne
  · intro work s' ran' alone' working long
    have after := delivering.run alone' ran'
    have done : s'.backlog = 0 := by
      have bound := delivering.orderly.backlog_run alone' working ran'
      have most := s.backlog_le
      omega
    obtain ⟨empty, finished⟩ := after.orderly.empty_of_backlog done
    have executed : s'.executed = s'.accepted := after.commands.taken_eq empty
    exact ⟨executed, (after.results.taken_eq finished).trans executed⟩

/-- Two commands, the second of them after the first has been executed. -/
def alternatingRun : List DaemonEvent :=
  [.post (.parsed (sampleCommand "on")) false, .postWrite false, .check, .read false, .unlink,
    .post (.parsed (sampleCommand "off")) false, .postWrite false, .execute (sampleExecution 1),
    .openResult false, .writeResult false, .check, .read false, .unlink]

theorem alternatingRun_delivers : ∃ s, daemonSystem.exec {} alternatingRun = some s ∧
    s.accepted = [0, 1] ∧ s.executed <+: [0, 1] ∧ s.results <+: s.executed := by
  have ran : ∃ s ∈ daemonSystem.exec {} alternatingRun, s.accepted = [0, 1] := by decide +kernel
  obtain ⟨s, ran, accepted⟩ := ran
  have once := accepted_executed_once ran (by decide +kernel)
  exact ⟨s, ran, accepted, accepted ▸ once.2.1, once.2.2.1⟩

/-- Two commands that are posted between two iterations: the file keeps the second one, and the
first is never executed. -/
theorem queuedCommand_lost : ∃ s ∈ daemonSystem.exec {}
    [.post (.parsed (sampleCommand "on")) false, .postWrite false,
      .post (.parsed (sampleCommand "off")) false, .postWrite false, .check, .read false, .unlink,
      .execute (sampleExecution 1), .openResult false, .writeResult false],
    s.accepted = [0, 1] ∧ s.executed = [1] ∧ s.results = [1] ∧ s.waiting = [] := by
  decide +kernel

end Daemon

end TuyaBleMesh

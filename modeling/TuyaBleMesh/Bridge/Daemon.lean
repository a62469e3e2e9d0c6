import TuyaBleMesh.Bridge.Command
import TuyaBleMesh.Lib.EventSystem

/-!
# The bridge daemon

`ble_mesh_daemon.py`: HTTP requests are handled on the event loop, and one iteration
of `process_pending` after the other runs in a worker thread. They meet in two
files. A step is one operation on a file, or the execution of a command; a read sees
the file as it is at one moment.
-/

namespace TuyaBleMesh

/-- A file that the daemon writes as a whole. -/
inductive StateFile (α : Type)
  | absent
  /-- Opened for writing and not yet, or never, written. -/
  | broken
  | whole (content : α)
  deriving DecidableEq

namespace StateFile

variable {α : Type}

def exists? : StateFile α → Bool
  | .absent => false
  | .broken => true
  | .whole _ => true

def whole? : StateFile α → Option α
  | .absent => none
  | .broken => none
  | .whole content => some content

end StateFile

/-- A command in the pending file, with the number of its request. -/
structure Command where
  number : Nat
  body : Json
  deriving DecidableEq

/-- A result, with the command that gave it. -/
structure BridgeResult where
  command : Command
  body : Json
  deriving DecidableEq

/-- The body of a POST request as the handler has received it. -/
inductive PostBody
  | absent
  /-- `json.loads` raises `JSONDecodeError`. -/
  | malformed
  | parsed (value : Json)

/-- How far `run_command_watcher` is in an iteration of `process_pending`. -/
inductive Watcher
  /-- Between two iterations. -/
  | idle
  /-- `PENDING_CMD.exists()` was true. -/
  | found
  /-- The file could not be read or parsed. -/
  | unreadable
  | read (command : Command)
  /-- In `execute_ble_command`. -/
  | executing (command : Command)
  | executed (result : BridgeResult)
  /-- `LAST_RESULT` is open for writing. -/
  | writing (result : BridgeResult)

structure Daemon where
  pending : StateFile Command := .absent
  lastResult : StateFile BridgeResult := .absent
  watcher : Watcher := .idle
  /-- The command whose handler has opened the pending file, and whether that file still is the
  pending file. -/
  posting : Option (Command × Bool) := none
  posts : Nat := 0
  /-- The requests answered with `202 Accepted`. -/
  accepted : List Nat := []
  /-- The commands that `execute_ble_command` was called for. -/
  executed : List Nat := []
  /-- The commands whose result was written. -/
  results : List Nat := []

inductive DaemonEvent
  /-- A `POST /command` comes up to the opening of the pending file. -/
  | post (body : PostBody) (fails : Bool)
  /-- Its handler writes the file. -/
  | postWrite (fails : Bool)
  /-- An iteration of `process_pending` begins. -/
  | check
  | read (fails : Bool)
  | unlink
  | execute (execution : Execution)
  | openResult (fails : Bool)
  | writeResult (fails : Bool)

namespace Daemon

/-- `http_handler` for `POST /command`; a body that is rejected changes nothing. -/
def post (s : Daemon) (body : PostBody) (fails : Bool) : Daemon :=
  let s' := { s with posts := s.posts + 1 }
  match body with
  | .absent => s'
  | .malformed => s'
  | .parsed value =>
    if fails then s'
    else { s' with pending := .broken, posting := some (⟨s.posts, value⟩, true) }

/-- The handler writes and answers. -/
def postWrite (s : Daemon) (command : Command) (linked fails : Bool) : Daemon :=
  let s' := { s with posting := none }
  if fails then s'
  else
    { s' with
      pending := if linked then .whole command else s.pending
      accepted := s.accepted ++ [command.number] }

/-- `PENDING_CMD.unlink(missing_ok=True)`. -/
def removePending (s : Daemon) : Daemon :=
  { s with pending := .absent, posting := s.posting.map fun (command, _) => (command, false) }

def step (s : Daemon) : DaemonEvent → Option Daemon
  | .post body fails => if s.posting.isNone then some (s.post body fails) else none
  | .postWrite fails => s.posting.map fun (command, linked) => s.postWrite command linked fails
  | .check =>
    match s.watcher with
    | .idle => some (if s.pending.exists? then { s with watcher := .found } else s)
    | _ => none
  | .read fails =>
    match s.watcher with
    | .found =>
      match s.pending.whole? with
      | some command => some { s with watcher := if fails then .unreadable else .read command }
      | none => some { s with watcher := .unreadable }
    | _ => none
  | .unlink =>
    match s.watcher with
    | .unreadable => some { s.removePending with watcher := .idle }
    | .read command =>
      -- `cmd.get` is called for the log first
      if command.body.isObject then
        some { s.removePending with
          watcher := .executing command
          executed := s.executed ++ [command.number] }
      else some { s.removePending with watcher := .idle }
    | _ => none
  | .execute execution =>
    match s.watcher with
    | .executing command =>
      match executeBleCommand command.body execution with
      | .ok body => some { s with watcher := .executed ⟨command, body⟩ }
      | .error _ => some { s with watcher := .idle }
    | _ => none
  | .openResult fails =>
    match s.watcher with
    | .executed result =>
      some (if fails then { s with watcher := .idle }
        else { s with lastResult := .broken, watcher := .writing result })
    | _ => none
  | .writeResult fails =>
    match s.watcher with
    | .writing result =>
      some (if fails then { s with watcher := .idle }
        else { s with
          lastResult := .whole result
          watcher := .idle
          results := s.results ++ [result.command.number] })
    | _ => none

end Daemon

def daemonSystem : EventSystem Daemon DaemonEvent where
  step := Daemon.step

/-! ### What a step does -/

inductive DaemonStep (s : Daemon) : DaemonEvent → Daemon → Prop
  /-- The request is not for the pending file, or the file cannot be opened. -/
  | refused (body : PostBody) (fails : Bool) (idle : s.posting = none) :
    DaemonStep s (.post body fails) { s with posts := s.posts + 1 }
  | opened (value : Json) (idle : s.posting = none) :
    DaemonStep s (.post (.parsed value) false)
      { s with
        posts := s.posts + 1
        pending := .broken
        posting := some (⟨s.posts, value⟩, true) }
  | unwritten (command : Command) (linked : Bool) (posts : s.posting = some (command, linked)) :
    DaemonStep s (.postWrite true) { s with posting := none }
  | written (command : Command) (linked : Bool) (posts : s.posting = some (command, linked)) :
    DaemonStep s (.postWrite false)
      { s with
        posting := none
        pending := if linked then .whole command else s.pending
        accepted := s.accepted ++ [command.number] }
  | nothing (idle : s.watcher = .idle) (absent : s.pending = .absent) : DaemonStep s .check s
  | found (idle : s.watcher = .idle) (present : s.pending ≠ .absent) :
    DaemonStep s .check { s with watcher := .found }
  | reads (found : s.watcher = .found) (command : Command) (whole : s.pending = .whole command) :
    DaemonStep s (.read false) { s with watcher := .read command }
  | unreadable (found : s.watcher = .found) (fails : Bool)
      (why : fails = true ∨ s.pending.whole? = none) :
    DaemonStep s (.read fails) { s with watcher := .unreadable }
  | discards (unreadable : s.watcher = .unreadable) :
    DaemonStep s .unlink { s.removePending with watcher := .idle }
  /-- `cmd.get` raises. -/
  | refuses (command : Command) (reads : s.watcher = .read command)
      (value : command.body.isObject = false) :
    DaemonStep s .unlink { s.removePending with watcher := .idle }
  | executes (command : Command) (reads : s.watcher = .read command)
      (object : command.body.isObject = true) :
    DaemonStep s .unlink
      { s.removePending with
        watcher := .executing command
        executed := s.executed ++ [command.number] }
  | returns (command : Command) (executing : s.watcher = .executing command)
      (execution : Execution) (body : Json)
      (result : executeBleCommand command.body execution = .ok body) :
    DaemonStep s (.execute execution) { s with watcher := .executed ⟨command, body⟩ }
  | raises (command : Command) (executing : s.watcher = .executing command)
      (execution : Execution) (error : PyError)
      (raised : executeBleCommand command.body execution = .error error) :
    DaemonStep s (.execute execution) { s with watcher := .idle }
  | opensResult (result : BridgeResult) (executed : s.watcher = .executed result) :
    DaemonStep s (.openResult false) { s with lastResult := .broken, watcher := .writing result }
  | writesResult (result : BridgeResult) (writing : s.watcher = .writing result) :
    DaemonStep s (.writeResult false)
      { s with
        lastResult := .whole result
        watcher := .idle
        results := s.results ++ [result.command.number] }
  /-- The result cannot be opened or written. -/
  | loses (result : BridgeResult) (event : DaemonEvent)
      (handed : s.watcher = .executed result ∧ event = .openResult true ∨
        s.watcher = .writing result ∧ event = .writeResult true) :
    DaemonStep s event { s with watcher := .idle }

theorem StateFile.whole?_eq_some {α : Type} {file : StateFile α} {content : α} :
    file.whole? = some content ↔ file = .whole content := by
  cases file with
  | absent => exact ⟨nofun, nofun⟩
  | broken => exact ⟨nofun, nofun⟩
  | whole other => simp [whole?]

theorem StateFile.exists?_eq_true {α : Type} {file : StateFile α} :
    file.exists? = true ↔ file ≠ .absent := by
  cases file with
  | absent => exact ⟨nofun, fun present => absurd rfl present⟩
  | broken => exact ⟨fun _ => nofun, fun _ => rfl⟩
  | whole content => exact ⟨fun _ => nofun, fun _ => rfl⟩

/-- Every step is one of these. -/
theorem Daemon.step_cases {s s' : Daemon} {event : DaemonEvent}
    (stepped : s.step event = some s') : DaemonStep s event s' := by
  cases event with
  | post body fails =>
    simp only [step] at stepped
    split at stepped <;> cases stepped
    next idle =>
      have idle := Option.isNone_iff_eq_none.mp idle
      unfold post
      cases body with
      | absent => exact .refused _ fails idle
      | malformed => exact .refused _ fails idle
      | parsed value =>
        cases fails with
        | true => exact .refused _ true idle
        | false => exact .opened value idle
  | postWrite fails =>
    simp only [step, Option.map_eq_some_iff] at stepped
    obtain ⟨⟨command, linked⟩, posts, rfl⟩ := stepped
    cases fails with
    | true => exact .unwritten command linked posts
    | false => exact .written command linked posts
  | check =>
    simp only [step] at stepped
    split at stepped <;> cases stepped
    next idle =>
      split
      · next present => exact .found idle (StateFile.exists?_eq_true.mp present)
      · next absent =>
        refine .nothing idle ?_
        by_contra present
        exact absent (StateFile.exists?_eq_true.mpr present)
  | read fails =>
    simp only [step] at stepped
    split at stepped
    · next found =>
      split at stepped <;> cases stepped
      · next command whole =>
        cases fails with
        | true => exact .unreadable found true (.inl rfl)
        | false => exact .reads found command (StateFile.whole?_eq_some.mp whole)
      · next absent => exact .unreadable found fails (.inr absent)
    · cases stepped
  | unlink =>
    simp only [step] at stepped
    split at stepped
    · next unreadable =>
      cases stepped
      exact .discards unreadable
    · next command reads =>
      split at stepped <;> cases stepped
      · next object => exact .executes command reads object
      · next value => exact .refuses command reads ((Bool.not_eq_true _).mp value)
    · cases stepped
  | execute execution =>
    simp only [step] at stepped
    split at stepped
    · next command executing =>
      split at stepped <;> cases stepped
      · next body result => exact .returns command executing execution body result
      · next error raised => exact .raises command executing execution error raised
    · cases stepped
  | openResult fails =>
    simp only [step] at stepped
    split at stepped
    · next result executed =>
      cases stepped
      cases fails with
      | true => exact .loses result _ (.inl ⟨executed, rfl⟩)
      | false => exact .opensResult result executed
    · cases stepped
  | writeResult fails =>
    simp only [step] at stepped
    split at stepped
    · next result writing =>
      cases stepped
      cases fails with
      | true => exact .loses result _ (.inr ⟨writing, rfl⟩)
      | false => exact .writesResult result writing
    · cases stepped

/-! ### A sample command -/

/-- What `SIGMeshBridgeDevice` posts for the plug `00B0`. -/
def sampleCommand (action : String) : Json :=
  .object [("action", .string action), ("target", .string "00B0"),
    ("mac", .string "DC:23:4F:10:52:C4")]

/-- An execution that goes well. -/
def sampleExecution (time : Rat) : Execution where
  wifiDown := true
  restarted := true
  ran := [("success", .bool true), ("status", .string "ON")]
  wifiUp := .ok ()
  str _ := ""
  time

end TuyaBleMesh

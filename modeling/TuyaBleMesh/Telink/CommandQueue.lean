import Mathlib.Algebra.Order.Ring.Rat
import Mathlib.Data.List.Nodup
import TuyaBleMesh.Telink.LinkRules

/-!
# The command queue of a Telink device

Commands reach `write_command` in the order in which they were enqueued, each is written
once, and none that has expired: as long as a command that waited, for the connection or
for its next attempt, is not sent when it is too old or when a later one was taken.
-/

namespace TuyaBleMesh

/-- What has happened to the commands so far. -/
structure QueueBooks where
  enqueued : List QueuedCommand := []
  /-- Who took which command from the queue. -/
  taken : List (TaskId × QueuedCommand) := []
  /-- The calls of `write_command`, and their times. -/
  attempts : List (QueuedCommand × Rat) := []
  written : List QueuedCommand := []

namespace QueueBooks

def after (b : QueueBooks) : Moment → QueueBooks
  | .enqueued command => { b with enqueued := b.enqueued ++ [command] }
  | .taken task command => { b with taken := b.taken ++ [(task, command)] }
  | .attempted command now => { b with attempts := b.attempts ++ [(command, now)] }
  | .written command => { b with written := b.written ++ [command] }
  | _ => b

/-- The commands are numbered as they are enqueued, and sent in turn, at most once and before
they expire. -/
structure InTurn (ttl : Rat) (b : QueueBooks) : Prop where
  numbered : b.enqueued.map (·.number) = List.range b.enqueued.length
  known : ∀ attempt ∈ b.attempts, attempt.1 ∈ b.enqueued
  ordered : b.attempts.Pairwise fun earlier later => earlier.1.number ≤ later.1.number
  once : (b.written.map (·.number)).Nodup
  fresh : ∀ attempt ∈ b.attempts, attempt.2 - attempt.1.createdAt ≤ ttl

/-- The number of the command that was taken last. -/
def lastTaken (b : QueueBooks) : Option Nat := b.taken.getLast?.map (·.2.number)

/-- With the queue, and the number of commands: they are taken in turn as well, and sent and
written after they were taken. -/
structure Kept (ttl : Rat) (b : QueueBooks) (queue : List QueuedCommand) (created : Nat) :
    Prop extends b.InTurn ttl where
  created_eq : created = b.enqueued.length
  queued : ∀ command ∈ queue, command ∈ b.enqueued
  takenKnown : ∀ entry ∈ b.taken, entry.2 ∈ b.enqueued
  sorted : (b.taken.map (·.2.number) ++ queue.map (·.number)).Pairwise (· < ·)
  reached : ∀ attempt ∈ b.attempts, ∃ last ∈ b.lastTaken, attempt.1.number ≤ last
  writtenTaken : ∀ command ∈ b.written, ∃ entry ∈ b.taken, entry.2.number = command.number

variable {ttl : Rat} {b : QueueBooks} {queue : List QueuedCommand} {created : Nat}
  {command : QueuedCommand} {task : TaskId}

/-- The numbers of the commands are below the next one. -/
theorem InTurn.number_lt (inTurn : b.InTurn ttl) (member : command ∈ b.enqueued) :
    command.number < b.enqueued.length := by
  have numbered := List.mem_map_of_mem (f := QueuedCommand.number) member
  rw [inTurn.numbered] at numbered
  exact List.mem_range.mp numbered

/-- Who took a command is known by its number. -/
theorem Kept.taken_unique (kept : b.Kept ttl queue created) {one two : TaskId × QueuedCommand}
    (first : one ∈ b.taken) (second : two ∈ b.taken) (same : one.2.number = two.2.number) :
    one = two := by
  have distinct : (b.taken.map (·.2.number)).Nodup :=
    (List.pairwise_append.mp kept.sorted).1.imp Nat.ne_of_lt
  exact List.inj_on_of_nodup_map distinct first second same

/-- A command that is still queued was not taken, and not written. -/
theorem Kept.unwritten (kept : b.Kept ttl (command :: queue) created) :
    command.number ∉ b.written.map (·.number) := by
  intro member
  obtain ⟨written, member, same⟩ := List.mem_map.mp member
  obtain ⟨entry, taken, number⟩ := kept.writtenTaken written member
  have later : entry.2.number < command.number :=
    (List.pairwise_append.mp kept.sorted).2.2 _ (List.mem_map_of_mem taken) _ List.mem_cons_self
  omega

theorem Kept.enqueue (kept : b.Kept ttl queue created) (number : command.number = created) :
    { b with enqueued := b.enqueued ++ [command] }.Kept ttl (queue ++ [command]) (created + 1) where
  numbered := by
    rw [List.map_append, kept.numbered, List.length_append, List.length_singleton,
      List.range_succ, List.map_singleton, number, kept.created_eq]
  known attempt member := List.mem_append_left _ (kept.known attempt member)
  ordered := kept.ordered
  once := kept.once
  fresh := kept.fresh
  created_eq := by rw [List.length_append, List.length_singleton, kept.created_eq]
  queued other member := by
    rcases List.mem_append.mp member with member | member
    · exact List.mem_append_left _ (kept.queued other member)
    · exact List.mem_append_right _ member
  takenKnown entry member := List.mem_append_left _ (kept.takenKnown entry member)
  sorted := by
    -- the new number is above all that are taken or queued
    rw [List.map_append, ← List.append_assoc]
    refine List.pairwise_append.mpr ⟨kept.sorted, List.pairwise_singleton _ _, ?_⟩
    intro n member m last
    rw [List.map_singleton, List.mem_singleton] at last
    rw [last, number, kept.created_eq]
    rcases List.mem_append.mp member with member | member
    · obtain ⟨entry, taken, rfl⟩ := List.mem_map.mp member
      exact kept.toInTurn.number_lt (kept.takenKnown entry taken)
    · obtain ⟨other, queued, rfl⟩ := List.mem_map.mp member
      exact kept.toInTurn.number_lt (kept.queued other queued)
  reached := kept.reached
  writtenTaken := kept.writtenTaken

theorem Kept.take (kept : b.Kept ttl (command :: queue) created) :
    { b with taken := b.taken ++ [(task, command)] }.Kept ttl queue created where
  numbered := kept.numbered
  known := kept.known
  ordered := kept.ordered
  once := kept.once
  fresh := kept.fresh
  created_eq := kept.created_eq
  queued other member := kept.queued other (List.mem_cons_of_mem command member)
  takenKnown entry member := by
    rcases List.mem_append.mp member with member | member
    · exact kept.takenKnown entry member
    · rw [List.mem_singleton.mp member]
      exact kept.queued command List.mem_cons_self
  sorted := by
    rw [List.map_append, List.append_assoc]
    exact kept.sorted
  reached attempt member := by
    obtain ⟨last, isLast, below⟩ := kept.reached attempt member
    refine ⟨command.number, by simp [lastTaken], ?_⟩
    obtain ⟨entry, found, rfl⟩ := Option.map_eq_some_iff.mp isLast
    have later : entry.2.number < command.number :=
      (List.pairwise_append.mp kept.sorted).2.2 _
        (List.mem_map_of_mem (List.mem_of_getLast? found)) _ List.mem_cons_self
    omega
  writtenTaken other member := by
    obtain ⟨entry, taken, number⟩ := kept.writtenTaken other member
    exact ⟨entry, List.mem_append_left _ taken, number⟩

/-- A command that was taken last may be sent, if it has not expired. -/
theorem Kept.attempt {now : Rat} (kept : b.Kept ttl queue created)
    (mine : (task, command) ∈ b.taken) (fresh : now - command.createdAt ≤ ttl)
    (last : b.lastTaken = some command.number) :
    { b with attempts := b.attempts ++ [(command, now)] }.Kept ttl queue created where
  numbered := kept.numbered
  known attempt member := by
    rcases List.mem_append.mp member with member | member
    · exact kept.known attempt member
    · rw [List.mem_singleton.mp member]
      exact kept.takenKnown _ mine
  ordered := by
    refine List.pairwise_append.mpr ⟨kept.ordered, List.pairwise_singleton _ _, ?_⟩
    intro earlier member later isLast
    obtain ⟨n, reached, below⟩ := kept.reached earlier member
    rw [last] at reached
    rw [List.mem_singleton.mp isLast, Option.some.inj reached]
    exact below
  once := kept.once
  fresh attempt member := by
    rcases List.mem_append.mp member with member | member
    · exact kept.fresh attempt member
    · rw [List.mem_singleton.mp member]
      exact fresh
  created_eq := kept.created_eq
  queued := kept.queued
  takenKnown := kept.takenKnown
  sorted := kept.sorted
  reached attempt member := by
    rcases List.mem_append.mp member with member | member
    · exact kept.reached attempt member
    · rw [List.mem_singleton.mp member]
      exact ⟨command.number, last, Nat.le_refl _⟩
  writtenTaken := kept.writtenTaken

theorem Kept.write (kept : b.Kept ttl queue created) (mine : (task, command) ∈ b.taken)
    (unwritten : command.number ∉ b.written.map (·.number)) :
    { b with written := b.written ++ [command] }.Kept ttl queue created where
  numbered := kept.numbered
  known := kept.known
  ordered := kept.ordered
  once := by
    rw [List.map_append]
    refine List.nodup_append.mpr ⟨kept.once, List.nodup_singleton _, ?_⟩
    rintro n member m last rfl
    rw [List.map_singleton, List.mem_singleton] at last
    exact unwritten (last ▸ member)
  fresh := kept.fresh
  created_eq := kept.created_eq
  queued := kept.queued
  takenKnown := kept.takenKnown
  sorted := kept.sorted
  reached := kept.reached
  writtenTaken other member := by
    rcases List.mem_append.mp member with member | member
    · exact kept.writtenTaken other member
    · rw [List.mem_singleton.mp member]
      exact ⟨_, mine, rfl⟩

/-- The commands that are left may be dropped. -/
theorem Kept.drain (kept : b.Kept ttl queue created) : b.Kept ttl [] created where
  toInTurn := kept.toInTurn
  created_eq := kept.created_eq
  queued := by rintro _ ⟨⟩
  takenKnown := kept.takenKnown
  sorted := by
    rw [List.map_nil, List.append_nil]
    exact (List.pairwise_append.mp kept.sorted).1
  reached := kept.reached
  writtenTaken := kept.writtenTaken

end QueueBooks

namespace MeshDevice

def books (s : MeshDevice) : QueueBooks := s.history.foldl QueueBooks.after {}

/-- A command that has not expired, and after which no other one was taken. -/
def MaySend (s : MeshDevice) (ttl : Rat) (command : QueuedCommand) : Prop :=
  s.now - command.createdAt ≤ ttl ∧ s.books.lastTaken = some command.number

instance (s : MeshDevice) (ttl : Rat) (command : QueuedCommand) :
    Decidable (s.MaySend ttl command) := inferInstanceAs (Decidable (_ ∧ _))

/-- The worker goes on to send. -/
def Sends (s : MeshDevice) : Prop :=
  s.running = true ∧ s.state = .ready ∧ s.sessionKey.isSome = true

instance (s : MeshDevice) : Decidable s.Sends := inferInstanceAs (Decidable (_ ∧ _))

end MeshDevice

/-! ### The condition -/

/-- Where a command is sent that has waited, it may be; and the keep-alive task whose end is awaited
after a write has not failed with an error after which the write would be tried again. -/
def sentInTurn (ttl : Rat) : LoopGuard telinkSignature where
  answers
    | .connectedWait command, .ok _, s => s.Sends → s.MaySend ttl command
    | .connectedWait command, .error error, s =>
      error = .timeoutError → s.Sends → s.MaySend ttl command
    | .retrySleep _ command, .ok _, s => s.sessionKey.isSome = true → s.MaySend ttl command
    | _, _, _ => True
  joins
    | .restart, .error error, _ => (error.isOsError || error.isMeshConnectionError) = false
    | _, _, _ => True

namespace SentInTurn

def Inv (ttl : Rat) (s : MeshDevice) : Prop := s.books.Kept ttl s.queue s.created

/-- A command that was taken is not written by others. -/
structure Rely (task : TaskId) (s s' : MeshDevice) : Prop where
  taken : s.books.taken <+: s'.books.taken
  own : ∀ command, (task, command) ∈ s.books.taken →
    command.number ∉ s.books.written.map (·.number) →
      command.number ∉ s'.books.written.map (·.number)

/-- A task that has taken a command, and has not written it. -/
structure Holding (ttl : Rat) (me : TaskId) (command : QueuedCommand) (s : MeshDevice) :
    Prop where
  inv : Inv ttl s
  mine : (me, command) ∈ s.books.taken
  unwritten : command.number ∉ s.books.written.map (·.number)

/-- Where the worker goes on with a command, it may send it. -/
def pre (ttl : Rat) (me : TaskId) : TelinkCode → MeshDevice → Prop
  | .workerWaited command answer, s => Holding ttl me command s ∧
      (answer = .ok () ∨ answer = .error .timeoutError → s.Sends → s.MaySend ttl command)
  | _, _ => True

def outline (ttl : Rat) : Discipline telinkSignature where
  toLoopGuard := sentInTurn ttl
  inv := Inv ttl
  rely := Rely
  pre := pre ttl
  rely_refl _ _ := ⟨List.prefix_rfl, fun _ _ unwritten => unwritten⟩
  rely_trans first second :=
    { taken := first.taken.trans second.taken
      own := fun command mine unwritten =>
        second.own command (first.taken.subset mine) (first.own command mine unwritten) }

variable {ttl : Rat} {me task : TaskId} {s s' : MeshDevice} {command : QueuedCommand}

/-! ### What happens beside the queue -/

theorem books_append (moment : Moment) (history : s'.history = s.history ++ [moment]) :
    s'.books = s.books.after moment := by
  rw [MeshDevice.books, history, List.foldl_append]
  rfl

/-- Nothing happens to the commands. -/
structure Beside (s s' : MeshDevice) : Prop where
  queue : s'.queue = s.queue
  created : s'.created = s.created
  history : s'.history = s.history ∨ ∃ moment, s'.history = s.history ++ [moment] ∧
    ∀ b : QueueBooks, b.after moment = b

theorem Beside.books (beside : Beside s s') : s'.books = s.books := by
  rcases beside.history with same | ⟨moment, grown, quiet⟩
  · rw [MeshDevice.books, same]
    rfl
  · rw [books_append moment grown, quiet]

theorem Beside.guarantees (beside : Beside s s') : (outline ttl).Guarantees me s s' := by
  intro task _
  have books := beside.books
  refine ⟨?_, fun _ _ unwritten => ?_⟩
  · exact ⟨[], by rw [books, List.append_nil]⟩
  · rw [books]
    exact unwritten

theorem Beside.inv (beside : Beside s s') (inv : Inv ttl s) : Inv ttl s' := by
  unfold Inv
  rw [beside.books, beside.queue, beside.created]
  exact inv

theorem Beside.of_link (change : Telink.LinkChange s s') : Beside s s' where
  queue := change.queue
  created := change.created
  history := by
    refine change.history.imp_right fun ⟨moment, grown, link⟩ => ⟨moment, grown, fun _ => ?_⟩
    cases moment <;> first | rfl | cases link

theorem Beside.holding (beside : Beside s s') (holding : Holding ttl me command s) :
    Holding ttl me command s' := by
  have books := beside.books
  refine ⟨beside.inv holding.inv, ?_, ?_⟩
  · rw [books]
    exact holding.mine
  · rw [books]
    exact holding.unwritten

/-- A fact about the commands alone. -/
structure QueueFact (ttl : Rat) (me : TaskId) (fact : MeshDevice → Prop) : Prop
    extends (outline ttl).Stable me fact where
  beside : ∀ s s', Beside s s' → fact s → fact s'

theorem inv_fact (ttl : Rat) (me : TaskId) : QueueFact ttl me (Inv ttl) where
  toStable := (outline ttl).stable_inv me
  beside _ _ beside inv := beside.inv inv

theorem holding_fact (ttl : Rat) (me : TaskId) (command : QueuedCommand) :
    QueueFact ttl me (Holding ttl me command) where
  inv _ holding := holding.inv
  later _ _ holding inv rely :=
    ⟨inv, rely.taken.subset holding.mine, rely.own command holding.mine holding.unwritten⟩
  beside _ _ beside holding := beside.holding holding

end SentInTurn

end TuyaBleMesh

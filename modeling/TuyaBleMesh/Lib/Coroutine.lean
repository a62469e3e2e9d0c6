import Mathlib.Data.List.Basic
import TuyaBleMesh.Lib.EventSystem

/-!
# Coroutines over a shared state

Tasks of one event loop. A task runs from an await point to its next one without
interruption, reads and writes the state that all tasks share, starts tasks, cancels
them and waits for their ends. A coroutine is the code that is left to run, so the
state of a task between two await points is its coroutine. An await that returns at
once is an await point like the others, at which nothing happens in between.
-/

/-- What the coroutines of a program work with. -/
structure Signature where
  State : Type
  /-- What is awaited from outside. -/
  Op : Type
  Answer : Op → Type
  /-- Where the end of another task is awaited. -/
  Site : Type
  /-- Entry points, and the points at which a loop is entered again. -/
  Code : Type
  Error : Type
  /-- What is thrown into a task that is cancelled. -/
  cancelledError : Error
  /-- What awaiting oneself raises. -/
  selfJoinError : Error

abbrev TaskId := Nat

inductive Coroutine (S : Signature) (α : Type) : Type
  | done (result : Except S.Error α)
  | get (next : S.State → Coroutine S α)
  | set (state : S.State) (next : Coroutine S α)
  /-- `asyncio.current_task()`. -/
  | self (next : TaskId → Coroutine S α)
  /-- `create_task`. -/
  | spawn (code : S.Code) (next : TaskId → Coroutine S α)
  /-- `task.cancel()`. -/
  | cancel (task : TaskId) (next : Coroutine S α)
  /-- `await task`. -/
  | join (site : S.Site) (task : TaskId) (next : Except S.Error Unit → Coroutine S α)
  | await (op : S.Op) (next : Except S.Error (S.Answer op) → Coroutine S α)
  /-- An await inside an endless loop, which goes on at one of the points of `Code`. -/
  | park (op : S.Op) (next : Except S.Error (S.Answer op) → S.Code)

namespace Coroutine

variable {S : Signature} {α β : Type}

def bind : Coroutine S α → (α → Coroutine S β) → Coroutine S β
  | .done (.ok value), rest => rest value
  | .done (.error error), _ => .done (.error error)
  | .get next, rest => .get fun state => (next state).bind rest
  | .set state next, rest => .set state (next.bind rest)
  | .self next, rest => .self fun task => (next task).bind rest
  | .spawn code next, rest => .spawn code fun task => (next task).bind rest
  | .cancel task next, rest => .cancel task (next.bind rest)
  | .join site task next, rest => .join site task fun result => (next result).bind rest
  | .await op next, rest => .await op fun answer => (next answer).bind rest
  | .park op next, _ => .park op next

/-- `try … except`; a loop that parks installs its handlers again when it goes on. -/
def onError : Coroutine S α → (S.Error → Coroutine S α) → Coroutine S α
  | .done (.ok value), _ => .done (.ok value)
  | .done (.error error), handler => handler error
  | .get next, handler => .get fun state => (next state).onError handler
  | .set state next, handler => .set state (next.onError handler)
  | .self next, handler => .self fun task => (next task).onError handler
  | .spawn code next, handler => .spawn code fun task => (next task).onError handler
  | .cancel task next, handler => .cancel task (next.onError handler)
  | .join site task next, handler => .join site task fun result => (next result).onError handler
  | .await op next, handler => .await op fun answer => (next answer).onError handler
  | .park op next, _ => .park op next

instance : Monad (Coroutine S) where
  pure value := .done (.ok value)
  bind := bind

def raise (error : S.Error) : Coroutine S α := .done (.error error)

def read : Coroutine S S.State := .get fun state => .done (.ok state)

def write (state : S.State) : Coroutine S Unit := .set state (.done (.ok ()))

def modify (f : S.State → S.State) : Coroutine S Unit := .get fun state => write (f state)

def currentTask : Coroutine S TaskId := .self fun task => .done (.ok task)

def createTask (code : S.Code) : Coroutine S TaskId := .spawn code fun task => .done (.ok task)

def cancelTask (task : TaskId) : Coroutine S Unit := .cancel task (.done (.ok ()))

def joinTask (site : S.Site) (task : TaskId) : Coroutine S Unit := .join site task .done

def call (op : S.Op) : Coroutine S (S.Answer op) := .await op .done

/-- `try … finally`. -/
def ensuring (body : Coroutine S α) (final : Coroutine S Unit) : Coroutine S α := do
  let value ← body.onError fun error => do
    final
    raise error
  final
  return value

/-! Sequences and handlers are both continuations of the result. -/

/-- The coroutine goes on with its result, a value or an exception. -/
def onResult : Coroutine S α → (Except S.Error α → Coroutine S β) → Coroutine S β
  | .done result, rest => rest result
  | .get next, rest => .get fun state => (next state).onResult rest
  | .set state next, rest => .set state (next.onResult rest)
  | .self next, rest => .self fun task => (next task).onResult rest
  | .spawn code next, rest => .spawn code fun task => (next task).onResult rest
  | .cancel task next, rest => .cancel task (next.onResult rest)
  | .join site task next, rest => .join site task fun result => (next result).onResult rest
  | .await op next, rest => .await op fun answer => (next answer).onResult rest
  | .park op next, _ => .park op next

def afterValue (rest : α → Coroutine S β) : Except S.Error α → Coroutine S β
  | .ok value => rest value
  | .error error => .done (.error error)

def afterError (handler : S.Error → Coroutine S α) : Except S.Error α → Coroutine S α
  | .ok value => .done (.ok value)
  | .error error => handler error

theorem bind_eq_onResult (code : Coroutine S α) (rest : α → Coroutine S β) :
    code >>= rest = code.onResult (afterValue rest) := by
  change code.bind rest = _
  induction code with
  | done result =>
    cases result with
    | ok value => rfl
    | error error => rfl
  | get next ih => exact congrArg Coroutine.get (funext ih)
  | set state next ih => exact congrArg (Coroutine.set state) ih
  | self next ih => exact congrArg Coroutine.self (funext ih)
  | spawn code next ih => exact congrArg (Coroutine.spawn code) (funext ih)
  | cancel task next ih => exact congrArg (Coroutine.cancel task) ih
  | join site task next ih => exact congrArg (Coroutine.join site task) (funext ih)
  | await op next ih => exact congrArg (Coroutine.await op) (funext ih)
  | park op next => rfl

theorem onError_eq_onResult (code : Coroutine S α) (handler : S.Error → Coroutine S α) :
    code.onError handler = code.onResult (afterError handler) := by
  induction code with
  | done result =>
    cases result with
    | ok value => rfl
    | error error => rfl
  | get next ih => exact congrArg Coroutine.get (funext ih)
  | set state next ih => exact congrArg (Coroutine.set state) ih
  | self next ih => exact congrArg Coroutine.self (funext ih)
  | spawn code next ih => exact congrArg (Coroutine.spawn code) (funext ih)
  | cancel task next ih => exact congrArg (Coroutine.cancel task) ih
  | join site task next ih => exact congrArg (Coroutine.join site task) (funext ih)
  | await op next ih => exact congrArg (Coroutine.await op) (funext ih)
  | park op next => rfl

end Coroutine

/-! ### Tasks -/

inductive TaskStatus (S : Signature)
  /-- Created, and not begun. -/
  | fresh (code : S.Code)
  | running
  | waiting (op : S.Op) (next : Except S.Error (S.Answer op) → Coroutine S Unit)
  | parked (op : S.Op) (next : Except S.Error (S.Answer op) → S.Code)
  | joining (site : S.Site) (task : TaskId) (next : Except S.Error Unit → Coroutine S Unit)
  | ended (result : Except S.Error Unit)

structure LoopTask (S : Signature) where
  status : TaskStatus S
  /-- `cancel` has been called, and the exception has not been thrown into the task yet. -/
  cancelling : Bool := false

/-- An event loop with all tasks that were ever created in it. -/
structure EventLoop (S : Signature) where
  shared : S.State
  tasks : List (LoopTask S)

namespace EventLoop

variable {S : Signature}

def status? (w : EventLoop S) (task : TaskId) : Option (TaskStatus S) :=
  w.tasks[task]?.map LoopTask.status

def isCancelling (w : EventLoop S) (task : TaskId) : Bool :=
  (w.tasks[task]?.map LoopTask.cancelling).getD false

/-- The result of a task that has ended. -/
def result? (w : EventLoop S) (task : TaskId) : Option (Except S.Error Unit) :=
  match w.status? task with
  | some (.ended result) => some result
  | _ => none

/-- The code of a task that has not begun and is not cancelled. -/
def begins? (w : EventLoop S) (task : TaskId) : Option S.Code :=
  match w.status? task with
  | some (.fresh code) => if w.isCancelling task then none else some code
  | _ => none

/-- Where a task waits for the end of another. -/
def joinSite? (w : EventLoop S) (task : TaskId) : Option S.Site :=
  match w.status? task with
  | some (.joining site _ _) => some site
  | _ => none

/-- How the wait of a task for another one ends, if it can. -/
def joinResult? (w : EventLoop S) (task : TaskId) : Option (Except S.Error Unit) :=
  match w.status? task with
  | some (.joining _ target _) =>
    if w.isCancelling task then some (.error S.cancelledError)
    else if target = task then some (.error S.selfJoinError)
    else w.result? target
  | _ => none

def setStatus (w : EventLoop S) (task : TaskId) (status : TaskStatus S) : EventLoop S :=
  { w with tasks := w.tasks.modify task fun t => { t with status } }

def setCancelling (w : EventLoop S) (task : TaskId) (cancelling : Bool) : EventLoop S :=
  { w with tasks := w.tasks.modify task fun t => { t with cancelling } }

/-- `Task.cancel`: the request goes to the task at the end of the chain of tasks that wait for
each other. A task that has ended ignores it. -/
def cancelChain : Nat → TaskId → EventLoop S → EventLoop S
  | 0, _, w => w
  | depth + 1, task, w =>
    match w.status? task with
    | none => w
    | some (.ended _) => w
    | some (.joining _ target _) =>
      if target = task ∨ (w.result? target).isSome then w.setCancelling task true
      else cancelChain depth target w
    | some _ => w.setCancelling task true

def cancel (w : EventLoop S) (task : TaskId) : EventLoop S := cancelChain w.tasks.length task w

/-- A task that is being cancelled passes the request on to the task it begins to wait for. -/
def suspendJoin (w : EventLoop S) (me : TaskId) (site : S.Site) (target : TaskId)
    (next : Except S.Error Unit → Coroutine S Unit) : EventLoop S :=
  let w' := w.setStatus me (.joining site target next)
  if w.isCancelling me ∧ target ≠ me then (w'.setCancelling me false).cancel target else w'

/-- A task runs until it ends or has to wait. -/
def run (me : TaskId) : Coroutine S Unit → EventLoop S → EventLoop S
  | .done result, w => w.setStatus me (.ended result)
  | .get next, w => run me (next w.shared) w
  | .set state next, w => run me next { w with shared := state }
  | .self next, w => run me (next me) w
  | .spawn code next, w =>
    run me (next w.tasks.length) { w with tasks := w.tasks ++ [{ status := .fresh code }] }
  | .cancel task next, w => run me next (w.cancel task)
  | .join site task next, w => w.suspendJoin me site task next
  | .await op next, w => w.setStatus me (.waiting op next)
  | .park op next, w => w.setStatus me (.parked op next)

/-- The task runs again. -/
def resume (w : EventLoop S) (task : TaskId) (code : Coroutine S Unit) : EventLoop S :=
  run task code ((w.setStatus task .running).setCancelling task false)

end EventLoop

/-! ### Programs -/

/-- A program: its codes, and what else can happen to its state. -/
structure AsyncProgram (S : Signature) (Env : Type) where
  body : S.Code → Coroutine S Unit
  /-- Outside callers may start it. -/
  isEntry : S.Code → Bool
  environment : Env → S.State → Option S.State

inductive LoopEvent (S : Signature) (Env : Type)
  /-- An outside caller starts a task. -/
  | enter (code : S.Code)
  /-- An outside caller cancels a task. -/
  | interrupt (task : TaskId)
  | start (task : TaskId)
  | answer (task : TaskId) (op : S.Op) (answer : Except S.Error (S.Answer op))
  /-- A task goes on that waited for the end of another. -/
  | joined (task : TaskId)
  | environment (event : Env)

namespace AsyncProgram

variable {S : Signature} {Env : Type} [DecidableEq S.Op] [DecidableEq S.Error]

def isCancelled {α : Type} : Except S.Error α → Bool
  | .ok _ => false
  | .error error => error = S.cancelledError

def step (P : AsyncProgram S Env) (w : EventLoop S) : LoopEvent S Env → Option (EventLoop S)
  | .enter code =>
    if P.isEntry code then some { w with tasks := w.tasks ++ [{ status := .fresh code }] } else none
  | .interrupt task => if task < w.tasks.length then some (w.cancel task) else none
  | .start task =>
    match w.status? task with
    | some (.fresh code) =>
      -- a task that is cancelled before it begins never runs
      if w.isCancelling task then some (w.setStatus task (.ended (.error S.cancelledError)))
      else some (w.resume task (P.body code))
    | _ => none
  | .answer task op answer =>
    if w.isCancelling task = true ∧ isCancelled answer = false then none
    else
      match w.status? task with
      | some (.waiting op' next) =>
        if same : op = op' then some (w.resume task (next (same ▸ answer))) else none
      | some (.parked op' next) =>
        if same : op = op' then some (w.resume task (P.body (next (same ▸ answer)))) else none
      | _ => none
  | .joined task =>
    match w.status? task with
    | some (.joining _ _ next) =>
      (w.joinResult? task).map fun result => w.resume task (next result)
    | _ => none
  | .environment event => (P.environment event w.shared).map fun shared => { w with shared }

def system (P : AsyncProgram S Env) : EventSystem (EventLoop S) (LoopEvent S Env) where
  step := P.step

end AsyncProgram

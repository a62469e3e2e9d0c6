import TuyaBleMesh.Lib.Coroutine

/-!
# One coroutine in its surroundings

A single task as it is seen from inside: each await is answered, and when the task
goes on the other tasks may have left any state behind. What is answered may depend
on all that has been awaited before.
-/

/-- What was awaited in which state, the answer, and the state that the task then found. -/
inductive Awaited (S : Signature)
  | call (op : S.Op) (state : S.State) (answer : Except S.Error (S.Answer op)) (resumed : S.State)
  | join (site : S.Site) (task : TaskId) (state : S.State) (result : Except S.Error Unit)
    (resumed : S.State)

/-- Everything outside of one task. -/
structure Surroundings (S : Signature) where
  me : TaskId
  answer : List (Awaited S) → (op : S.Op) → S.State → Except S.Error (S.Answer op) × S.State
  joined : List (Awaited S) → S.Site → TaskId → S.State → Except S.Error Unit × S.State
  spawned : List (Awaited S) → S.Code → S.State → TaskId

/-- How far a task has come: it has no result while it is parked. -/
structure Played (S : Signature) (α : Type) where
  past : List (Awaited S)
  state : S.State
  result : Option (Except S.Error α)

namespace Played

variable {S : Signature} {α β : Type}

/-- What comes after a value. -/
def andThen (played : Played S α) (rest : α → List (Awaited S) → S.State → Played S β) :
    Played S β :=
  match played.result with
  | some (.ok value) => rest value played.past played.state
  | some (.error error) => ⟨played.past, played.state, some (.error error)⟩
  | none => ⟨played.past, played.state, none⟩

/-- What comes after an exception. -/
def orElse (played : Played S α) (handler : S.Error → List (Awaited S) → S.State → Played S α) :
    Played S α :=
  match played.result with
  | some (.error error) => handler error played.past played.state
  | _ => played

/-- What comes after the result, whichever it is. -/
def onResult (played : Played S α)
    (rest : Except S.Error α → List (Awaited S) → S.State → Played S β) : Played S β :=
  match played.result with
  | some result => rest result played.past played.state
  | none => ⟨played.past, played.state, none⟩

end Played

namespace Coroutine

variable {S : Signature} {α β : Type}

/-- The task from the state on, after what it has awaited before. -/
def play (env : Surroundings S) : Coroutine S α → List (Awaited S) → S.State → Played S α
  | .done result, past, s => ⟨past, s, some result⟩
  | .get next, past, s => (next s).play env past s
  | .set state next, past, _ => next.play env past state
  | .self next, past, s => (next env.me).play env past s
  | .spawn code next, past, s => (next (env.spawned past code s)).play env past s
  | .cancel _ next, past, s => next.play env past s
  | .join site task next, past, s =>
    let (result, resumed) := env.joined past site task s
    (next result).play env (past ++ [.join site task s result resumed]) resumed
  | .await op next, past, s =>
    let (answer, resumed) := env.answer past op s
    (next answer).play env (past ++ [.call op s answer resumed]) resumed
  | .park _ _, past, s => ⟨past, s, none⟩

section Play

variable (env : Surroundings S) (past : List (Awaited S)) (s : S.State)

@[simp] theorem play_done (result : Except S.Error α) :
    (Coroutine.done result).play env past s = ⟨past, s, some result⟩ := rfl

@[simp] theorem play_pure (value : α) :
    (pure value : Coroutine S α).play env past s = ⟨past, s, some (.ok value)⟩ := rfl

@[simp] theorem play_raise (error : S.Error) :
    (raise error : Coroutine S α).play env past s = ⟨past, s, some (.error error)⟩ := rfl

@[simp] theorem play_read_bind (rest : S.State → Coroutine S β) :
    (read >>= rest).play env past s = (rest s).play env past s := rfl

@[simp] theorem play_modify (f : S.State → S.State) :
    (modify f).play env past s = ⟨past, f s, some (.ok ())⟩ := rfl

@[simp] theorem play_modify_bind (f : S.State → S.State) (rest : Unit → Coroutine S β) :
    (modify f >>= rest).play env past s = (rest ()).play env past (f s) := rfl

@[simp] theorem play_currentTask_bind (rest : TaskId → Coroutine S β) :
    (currentTask >>= rest).play env past s = (rest env.me).play env past s := rfl

@[simp] theorem play_createTask_bind (code : S.Code) (rest : TaskId → Coroutine S β) :
    (createTask code >>= rest).play env past s =
      (rest (env.spawned past code s)).play env past s := rfl

@[simp] theorem play_cancelTask_bind (task : TaskId) (rest : Unit → Coroutine S β) :
    (cancelTask task >>= rest).play env past s = (rest ()).play env past s := rfl

@[simp] theorem play_joinTask (site : S.Site) (task : TaskId) :
    (joinTask site task).play env past s =
      ⟨past ++ [.join site task s (env.joined past site task s).1 (env.joined past site task s).2],
        (env.joined past site task s).2, some (env.joined past site task s).1⟩ := rfl

@[simp] theorem play_call (op : S.Op) :
    (call op).play env past s =
      ⟨past ++ [.call op s (env.answer past op s).1 (env.answer past op s).2],
        (env.answer past op s).2, some (env.answer past op s).1⟩ := rfl

/-- What goes on with the result is played after it. -/
theorem play_onResult (code : Coroutine S α) (rest : Except S.Error α → Coroutine S β) :
    (code.onResult rest).play env past s =
      (code.play env past s).onResult fun result => (rest result).play env := by
  induction code generalizing past s with
  | done result => rfl
  | get next ih => exact ih s past s
  | set state next ih => exact ih past state
  | self next ih => exact ih env.me past s
  | spawn code next ih => exact ih (env.spawned past code s) past s
  | cancel task next ih => exact ih past s
  | join site task next ih => exact ih _ _ _
  | await op next ih => exact ih _ _ _
  | park op next => rfl

/-- What is sequenced is played one after the other. -/
theorem play_bind (code : Coroutine S α) (rest : α → Coroutine S β) :
    (code >>= rest).play env past s =
      (code.play env past s).andThen fun value => (rest value).play env := by
  rw [bind_eq_onResult, play_onResult]
  rcases code.play env past s with ⟨past', s', _ | error | value⟩
  · rfl
  · rfl
  · rfl

/-- A handler is played where the body has raised. -/
theorem play_onError (code : Coroutine S α) (handler : S.Error → Coroutine S α) :
    (code.onError handler).play env past s =
      (code.play env past s).orElse fun error => (handler error).play env := by
  rw [onError_eq_onResult, play_onResult]
  rcases code.play env past s with ⟨past', s', _ | error | value⟩
  · rfl
  · rfl
  · rfl

end Play

end Coroutine

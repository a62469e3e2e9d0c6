import TuyaBleMesh.Lib.RelyGuarantee

/-!
# The turns of the tasks

A turn is what a task does between two of its awaits: nothing else happens meanwhile.
An outline says how the turns of a program may end, in terms of the state in which a turn
begins, the state in which it stops and what is then awaited. It is checked along each
coroutine; then every step of the program is a turn that the outline allows, so what is
seen of the steps of a run is bounded by what one turn may show.
-/

/-- How the turns of a program may end. -/
structure TurnOutline (S : Signature) where
  /-- From the state, a turn may stop in the other one to wait for the operation, if for any. -/
  ends : S.State → Option S.Op → S.State → Prop
  /-- The codes that may run. -/
  runs : S.Code → Prop := fun _ => True

variable {S : Signature} {Env α β : Type}

namespace TurnOutline

/-- The coroutine of a task has ended. -/
def final (O : TurnOutline S) (since : S.State) (_ : Except S.Error α) (s : S.State) : Prop :=
  O.ends since none s

end TurnOutline

namespace Coroutine

/-- In a turn that began in the state `since` and has come to the state `s`, the coroutine goes
on as the outline allows, in this turn and in all later ones. -/
def turns (O : TurnOutline S) : Coroutine S α →
    (S.State → Except S.Error α → S.State → Prop) → (since s : S.State) → Prop
  | .done result, post, since, s => post since result s
  | .get next, post, since, s => (next s).turns O post since s
  | .set state next, post, since, _ => next.turns O post since state
  | .self next, post, since, s => ∀ me, (next me).turns O post since s
  | .spawn code next, post, since, s => O.runs code ∧ ∀ task, (next task).turns O post since s
  | .cancel _ next, post, since, s => next.turns O post since s
  -- the next turn begins where the others have left the state
  | .join _ _ next, post, since, s => O.ends since none s ∧
      ∀ result s', (next result).turns O post s' s'
  | .await op next, post, since, s => O.ends since (some op) s ∧
      ∀ answer s', (next answer).turns O post s' s'
  | .park op next, _, since, s => O.ends since (some op) s ∧ ∀ answer, O.runs (next answer)

section Rules

variable {O : TurnOutline S} {since s : S.State}
  {post post' : S.State → Except S.Error α → S.State → Prop}

theorem turns_mono {code : Coroutine S α}
    (weaker : ∀ since result s, post since result s → post' since result s)
    (holds : code.turns O post since s) : code.turns O post' since s := by
  induction code generalizing since s with
  | done result => exact weaker since result s holds
  | get next ih => exact ih s holds
  | set state next ih => exact ih holds
  | self next ih => exact fun me => ih me (holds me)
  | spawn code next ih => exact ⟨holds.1, fun task => ih task (holds.2 task)⟩
  | cancel task next ih => exact ih holds
  | join site task next ih => exact ⟨holds.1, fun result s' => ih result (holds.2 result s')⟩
  | await op next ih => exact ⟨holds.1, fun answer s' => ih answer (holds.2 answer s')⟩
  | park op next => exact holds

theorem turns_onResult {code : Coroutine S α} {rest : Except S.Error α → Coroutine S β}
    {post : S.State → Except S.Error β → S.State → Prop}
    (holds : code.turns O (fun since result s => (rest result).turns O post since s) since s) :
    (code.onResult rest).turns O post since s := by
  induction code generalizing since s with
  | done result => exact holds
  | get next ih => exact ih s holds
  | set state next ih => exact ih holds
  | self next ih => exact fun me => ih me (holds me)
  | spawn code next ih => exact ⟨holds.1, fun task => ih task (holds.2 task)⟩
  | cancel task next ih => exact ih holds
  | join site task next ih => exact ⟨holds.1, fun result s' => ih result (holds.2 result s')⟩
  | await op next ih => exact ⟨holds.1, fun answer s' => ih answer (holds.2 answer s')⟩
  | park op next => exact holds

theorem turns_bind {code : Coroutine S α} {rest : α → Coroutine S β}
    {post : S.State → Except S.Error β → S.State → Prop}
    (holds : code.turns O (fun since result s => (afterValue rest result).turns O post since s)
      since s) : (code >>= rest).turns O post since s := by
  rw [bind_eq_onResult]
  exact turns_onResult holds

theorem turns_onError {code : Coroutine S α} {handler : S.Error → Coroutine S α}
    (holds : code.turns O (fun since result s => (afterError handler result).turns O post since s)
      since s) : (code.onError handler).turns O post since s := by
  rw [onError_eq_onResult]
  exact turns_onResult holds

theorem turns_read_bind {rest : S.State → Coroutine S α} :
    (read >>= rest).turns O post since s ↔ (rest s).turns O post since s := Iff.rfl

end Rules

/-- The coroutine keeps what is known of the turn it is in, and what is known then of each of
its later ones. -/
def Passes (O : TurnOutline S) (known : S.State → S.State → Prop) (code : Coroutine S α) : Prop :=
  ∀ since s, known since s → code.turns O (fun since _ s => known since s) since s

section Passes

variable {O : TurnOutline S} {known : S.State → S.State → Prop}

theorem passes_done (result : Except S.Error α) :
    (Coroutine.done result : Coroutine S α).Passes O known := fun _ _ holds => holds

theorem passes_pure (value : α) : (pure value : Coroutine S α).Passes O known :=
  passes_done (.ok value)

theorem passes_raise (error : S.Error) : (raise error : Coroutine S α).Passes O known :=
  passes_done (.error error)

/-- The rest keeps what the first part has left known. -/
theorem turns_bind_passes {code : Coroutine S α} {rest : α → Coroutine S β} {since s : S.State}
    (first : code.turns O (fun since _ s => known since s) since s)
    (second : ∀ value, (rest value).Passes O known) :
    (code >>= rest).turns O (fun since _ s => known since s) since s := by
  apply turns_bind
  apply turns_mono _ first
  intro since' result s' holds
  cases result with
  | ok value => exact second value since' s' holds
  | error error => exact holds

theorem turns_onError_passes {code : Coroutine S α} {handler : S.Error → Coroutine S α}
    {since s : S.State} (body : code.turns O (fun since _ s => known since s) since s)
    (handled : ∀ error, (handler error).Passes O known) :
    (code.onError handler).turns O (fun since _ s => known since s) since s := by
  apply turns_onError
  apply turns_mono _ body
  intro since' result s' holds
  cases result with
  | ok value => exact holds
  | error error => exact handled error since' s' holds

theorem Passes.bind {code : Coroutine S α} {rest : α → Coroutine S β}
    (first : code.Passes O known) (second : ∀ value, (rest value).Passes O known) :
    (code >>= rest).Passes O known :=
  fun since s holds => turns_bind_passes (first since s holds) second

theorem Passes.onError {code : Coroutine S α} {handler : S.Error → Coroutine S α}
    (body : code.Passes O known) (handled : ∀ error, (handler error).Passes O known) :
    (code.onError handler).Passes O known :=
  fun since s holds => turns_onError_passes (body since s holds) handled

theorem Passes.ensuring {code : Coroutine S α} {last : Coroutine S Unit}
    (body : code.Passes O known) (final : last.Passes O known) :
    (code.ensuring last).Passes O known := by
  apply Passes.bind
  · exact body.onError fun error => final.bind fun _ => passes_raise error
  · exact fun value => final.bind fun _ => passes_pure value

theorem passes_read_bind {rest : S.State → Coroutine S β}
    (second : ∀ s, (rest s).Passes O known) : (read >>= rest).Passes O known :=
  fun since s holds => second s since s holds

theorem passes_modify {f : S.State → S.State}
    (keeps : ∀ since s, known since s → known since (f s)) : (modify f).Passes O known := keeps

theorem passes_currentTask_bind {rest : TaskId → Coroutine S β}
    (second : ∀ me, (rest me).Passes O known) : (currentTask >>= rest).Passes O known :=
  fun since s holds me => second me since s holds

theorem passes_createTask {code : S.Code} (runs : O.runs code) :
    (createTask code : Coroutine S TaskId).Passes O known :=
  fun _ _ holds => ⟨runs, fun _ => holds⟩

theorem passes_cancelTask (task : TaskId) :
    (cancelTask task : Coroutine S Unit).Passes O known := fun _ _ holds => holds

section Stops

variable (begins : ∀ s, known s s)

include begins

theorem passes_joinTask {site : S.Site} {task : TaskId}
    (stops : ∀ since s, known since s → O.ends since none s) :
    (joinTask site task : Coroutine S Unit).Passes O known :=
  fun since s holds => ⟨stops since s holds, fun _ s' => begins s'⟩

theorem passes_call {op : S.Op} (stops : ∀ since s, known since s → O.ends since (some op) s) :
    (call op : Coroutine S (S.Answer op)).Passes O known :=
  fun since s holds => ⟨stops since s holds, fun _ s' => begins s'⟩

end Stops

theorem passes_park {op : S.Op} {next : Except S.Error (S.Answer op) → S.Code}
    (stops : ∀ since s, known since s → O.ends since (some op) s)
    (runs : ∀ answer, O.runs (next answer)) :
    (Coroutine.park op next : Coroutine S α).Passes O known :=
  fun since s holds => ⟨stops since s holds, runs⟩

end Passes

end Coroutine

/-! ### Soundness -/

namespace EventLoop

/-- What a task waits for from outside. -/
def waitsFor? (w : EventLoop S) (task : TaskId) : Option S.Op :=
  match w.status? task with
  | some (.waiting op _) => some op
  | some (.parked op _) => some op
  | _ => none

end EventLoop

/-- The task whose turn it is. -/
def LoopEvent.task? : LoopEvent S Env → Option TaskId
  | .start task => some task
  | .answer task _ _ => some task
  | .joined task => some task
  | _ => none

/-- What the task waits for at the end of its turn. -/
def LoopEvent.stop? (event : LoopEvent S Env) (w : EventLoop S) : Option S.Op :=
  event.task?.bind w.waitsFor?

namespace TurnOutline

open EventLoop

variable (O : TurnOutline S)

/-- What is left of a task keeps to the outline. -/
def Ready : TaskStatus S → Prop
  | .fresh code => O.runs code
  | .running => True
  | .waiting _ next => ∀ answer s, (next answer).turns O O.final s s
  | .parked _ next => ∀ answer, O.runs (next answer)
  | .joining _ _ next => ∀ result s, (next result).turns O O.final s s
  | .ended _ => True

def AllReady (w : EventLoop S) : Prop :=
  ∀ task status, w.status? task = some status → O.Ready status

variable {O} {w w' : EventLoop S} {me : TaskId}

theorem AllReady.congr (ready : O.AllReady w) (same : w'.status? = w.status?) : O.AllReady w' := by
  intro task status found
  rw [same] at found
  exact ready task status found

theorem AllReady.setStatus {status : TaskStatus S} (ready : O.AllReady w) (own : O.Ready status) :
    O.AllReady (w.setStatus me status) := by
  intro task status' found
  rw [status?_setStatus] at found
  split at found
  · obtain ⟨_, _, rfl⟩ := Option.map_eq_some_iff.mp found
    exact own
  · exact ready task status' found

theorem AllReady.spawn {code : S.Code} (ready : O.AllReady w) (runs : O.runs code) :
    O.AllReady { w with tasks := w.tasks ++ [{ status := .fresh code }] } := by
  intro task status found
  rcases status?_spawn code task found with before | ⟨-, rfl⟩
  · exact ready task status before
  · exact runs

/-- A task that is there has the status it is given. -/
private theorem status?_own {status : TaskStatus S} (within : me < w.tasks.length) :
    (w.setStatus me status).status? me = some status := by
  rw [status?_setStatus, if_pos rfl, status?, List.getElem?_eq_getElem within]
  rfl

/-- A turn ends as the outline has it, and all that is left keeps to it. -/
theorem run_turn {code : Coroutine S Unit} {since : S.State} (within : me < w.tasks.length)
    (holds : code.turns O O.final since w.shared) (ready : O.AllReady w) :
    O.AllReady (run me code w) ∧
      O.ends since ((run me code w).waitsFor? me) (run me code w).shared := by
  induction code generalizing w with
  | done result =>
    refine ⟨ready.setStatus trivial, ?_⟩
    rw [run, waitsFor?, status?_own within]
    exact holds
  | get next ih => exact ih w.shared within holds ready
  | set state next ih => exact ih within holds ready
  | self next ih => exact ih me within (holds me) ready
  | spawn code next ih =>
    refine ih w.tasks.length ?_ (holds.2 _) (ready.spawn holds.1)
    rw [List.length_append]
    exact Nat.lt_add_right _ within
  | cancel task next ih =>
    refine ih ?_ ?_ (ready.congr (status?_cancel task))
    · rw [EventLoop.cancel, length_cancelChain]
      exact within
    · rw [shared_cancel]
      exact holds
  | join site task next ih =>
    -- a cancellation that is passed on only marks the other task
    have stopped := status?_suspendJoin (w := w) me site task next
    constructor
    · refine AllReady.congr ?_ stopped
      exact ready.setStatus holds.2
    · rw [run, shared_suspendJoin, waitsFor?, stopped, status?_own within]
      exact holds.1
  | await op next ih =>
    refine ⟨ready.setStatus holds.2, ?_⟩
    rw [run, waitsFor?, status?_own within]
    exact holds.1
  | park op next =>
    refine ⟨ready.setStatus holds.2, ?_⟩
    rw [run, waitsFor?, status?_own within]
    exact holds.1

theorem resume_turn {code : Coroutine S Unit} (within : me < w.tasks.length)
    (holds : code.turns O O.final w.shared w.shared) (ready : O.AllReady w) :
    O.AllReady (w.resume me code) ∧
      O.ends w.shared ((w.resume me code).waitsFor? me) (w.resume me code).shared := by
  unfold EventLoop.resume
  refine run_turn ?_ holds ?_
  · simpa [EventLoop.setStatus, EventLoop.setCancelling] using within
  · refine AllReady.congr ?_ (status?_setCancelling me false)
    exact ready.setStatus trivial

/-! ### Steps -/

/-- What is proved of a program: its codes keep to the outline, callers start only such codes,
and nothing else counts as more than a turn that does nothing. -/
structure Verifies [DecidableEq S.Op] [DecidableEq S.Error] (O : TurnOutline S)
    (P : AsyncProgram S Env) : Prop where
  body : ∀ code, O.runs code → ∀ s, (P.body code).turns O O.final s s
  entry : ∀ code, P.isEntry code = true → O.runs code
  idle : ∀ s, O.ends s none s
  environment : ∀ event s s', P.environment event s = some s' → O.ends s none s'

section Steps

variable [DecidableEq S.Op] [DecidableEq S.Error] {P : AsyncProgram S Env}
  {event : LoopEvent S Env}

/-- A step is a turn as the outline has it. -/
theorem Verifies.step (verifies : O.Verifies P) (ready : O.AllReady w)
    (stepped : P.step w event = some w') :
    O.AllReady w' ∧ O.ends w.shared (event.stop? w') w'.shared := by
  cases event with
  | enter code =>
    simp only [AsyncProgram.step] at stepped
    split at stepped
    · next isEntry =>
      cases stepped
      exact ⟨ready.spawn (verifies.entry code isEntry), verifies.idle _⟩
    · cases stepped
  | interrupt task =>
    simp only [AsyncProgram.step] at stepped
    split at stepped
    · cases stepped
      refine ⟨ready.congr (status?_cancel task), ?_⟩
      rw [shared_cancel]
      exact verifies.idle _
    · cases stepped
  | start task =>
    simp only [AsyncProgram.step] at stepped
    split at stepped
    · next code found =>
      split at stepped
      · -- a task that was cancelled before it begins has a turn that does nothing
        cases stepped
        refine ⟨ready.setStatus trivial, ?_⟩
        simp only [LoopEvent.stop?, LoopEvent.task?, Option.bind_some, waitsFor?,
          status?_own (status?_within found)]
        exact verifies.idle _
      · cases stepped
        have runs : O.runs code := ready task _ found
        exact resume_turn (status?_within found) (verifies.body code runs _) ready
    · cases stepped
  | answer task op answer =>
    simp only [AsyncProgram.step] at stepped
    split at stepped
    · cases stepped
    · split at stepped
      · next op' next found =>
        have own := ready task _ found
        split at stepped
        · next same =>
          subst same
          cases stepped
          exact resume_turn (status?_within found) (own answer _) ready
        · cases stepped
      · next op' next found =>
        have own := ready task _ found
        split at stepped
        · next same =>
          subst same
          cases stepped
          exact resume_turn (status?_within found) (verifies.body _ (own answer) _) ready
        · cases stepped
      · cases stepped
  | joined task =>
    simp only [AsyncProgram.step] at stepped
    split at stepped
    · next site target next found =>
      have own := ready task _ found
      obtain ⟨result, _, rfl⟩ := Option.map_eq_some_iff.mp stepped
      exact resume_turn (status?_within found) (own result _) ready
    · cases stepped
  | environment event =>
    obtain ⟨s, happens, rfl⟩ := Option.map_eq_some_iff.mp stepped
    exact ⟨ready, verifies.environment event w.shared s happens⟩

end Steps

end TurnOutline

/-! ### What is seen of a run -/

namespace EventSystem

variable {σ ε τ υ ρ : Type*} (T : EventSystem σ ε)

/-- What is seen of the steps of a run, in order. -/
def trace (seen : σ → ε → σ → List τ) : σ → List ε → List τ
  | _, [] => []
  | s, e :: es =>
    match T.step s e with
    | none => []
    | some s' => seen s e s' ++ trace seen s' es

section Trace

variable {T} {I : σ → Prop} (preserved : ∀ s e s', I s → T.step s e = some s' → I s')

include preserved

/-- What is seen of each step is seen of the run. -/
theorem trace_forall {seen : σ → ε → σ → List τ} {holds : τ → Prop}
    (each : ∀ s e s', I s → T.step s e = some s' → ∀ x ∈ seen s e s', holds x) {s : σ}
    (initial : I s) (es : List ε) : ∀ x ∈ T.trace seen s es, holds x := by
  induction es generalizing s with
  | nil => exact fun x member => by cases member
  | cons e es ih =>
    intro x member
    unfold trace at member
    split at member
    · cases member
    · next s' stepped =>
      rcases List.mem_append.mp member with now | later
      · exact each s e s' initial stepped x now
      · exact ih (preserved s e s' initial stepped) x later

/-- What is seen one way in each step is found, in the same order, in what is seen another way. -/
theorem trace_sublist {seen : σ → ε → σ → List τ} {seen' : σ → ε → σ → List υ} {f : τ → ρ}
    {g : υ → ρ} (each : ∀ s e s', I s → T.step s e = some s' →
      ((seen s e s').map f).Sublist ((seen' s e s').map g)) {s : σ} (initial : I s)
    (es : List ε) : ((T.trace seen s es).map f).Sublist ((T.trace seen' s es).map g) := by
  induction es generalizing s with
  | nil => exact List.Sublist.refl _
  | cons e es ih =>
    simp only [trace]
    split
    · exact List.Sublist.refl _
    · next s' stepped =>
      rw [List.map_append, List.map_append]
      exact (each s e s' initial stepped).append (ih (preserved s e s' initial stepped))

end Trace

end EventSystem

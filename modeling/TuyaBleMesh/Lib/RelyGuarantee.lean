import TuyaBleMesh.Lib.Coroutine

/-!
# Rely–guarantee reasoning about coroutines

Each task may rely on what the others leave alone between two of its steps, and
guarantees the same to them. An invariant of the shared state holds whenever a task
waits. Preconditions are computed along a coroutine; when every code of a program
meets its own, the invariant holds in every state of every guarded run.
-/

/-- A condition on the events of a run: in which states tasks may begin and go on. -/
structure LoopGuard (S : Signature) where
  starts : S.Code → S.State → Prop := fun _ _ => True
  answers : (op : S.Op) → Except S.Error (S.Answer op) → S.State → Prop := fun _ _ _ => True
  /-- How the wait for another task ends. -/
  joins : S.Site → Except S.Error Unit → S.State → Prop := fun _ _ _ => True

namespace LoopGuard

variable {S : Signature} {Env : Type}

/-- The event meets the condition. -/
def Permits (G : LoopGuard S) (w : EventLoop S) : LoopEvent S Env → Prop
  | .enter _ => True
  | .interrupt _ => True
  | .start task => ∀ code ∈ w.begins? task, G.starts code w.shared
  | .answer _ op answer => G.answers op answer w.shared
  | .joined task => ∀ site ∈ w.joinSite? task, ∀ result ∈ w.joinResult? task,
      G.joins site result w.shared
  | .environment _ => True

instance (G : LoopGuard S) [∀ code s, Decidable (G.starts code s)]
    [∀ op answer s, Decidable (G.answers op answer s)]
    [∀ site result s, Decidable (G.joins site result s)]
    (w : EventLoop S) (event : LoopEvent S Env) : Decidable (G.Permits w event) :=
  match event with
  | .enter _ => isTrue trivial
  | .interrupt _ => isTrue trivial
  | .start task => inferInstanceAs (Decidable (∀ code ∈ w.begins? task, _))
  | .answer _ op answer => inferInstanceAs (Decidable (G.answers op answer w.shared))
  | .joined task =>
    inferInstanceAs (Decidable (∀ site ∈ w.joinSite? task, ∀ result ∈ w.joinResult? task, _))
  | .environment _ => isTrue trivial

end LoopGuard

/-- The proof outline of a program. -/
structure Discipline (S : Signature) extends LoopGuard S where
  /-- Holds whenever a task waits. -/
  inv : S.State → Prop
  /-- What the other tasks may do while a task waits. -/
  rely : TaskId → S.State → S.State → Prop := fun _ _ _ => True
  /-- Where a task runs one of the codes. -/
  pre : TaskId → S.Code → S.State → Prop := fun _ _ _ => True
  rely_refl : ∀ task s, rely task s s := by intros; trivial
  rely_trans : ∀ {task s s' s''}, rely task s s' → rely task s' s'' → rely task s s'' := by
    intros; trivial

variable {S : Signature} {Env α β : Type}

namespace Discipline

variable (D : Discipline S)

/-- The step of a task is one that all other tasks count on. -/
def Guarantees (me : TaskId) (s s' : S.State) : Prop := ∀ task, task ≠ me → D.rely task s s'

/-- A fact that a task may count on between its steps. -/
structure Stable (me : TaskId) (fact : S.State → Prop) : Prop where
  inv : ∀ s, fact s → D.inv s
  later : ∀ s s', fact s → D.inv s' → D.rely me s s' → fact s'

theorem stable_inv (me : TaskId) : D.Stable me D.inv where
  inv _ holds := holds
  later _ _ _ inv _ := inv

/-- A created task may begin in every state that is reached before it does. -/
def Startable (task : TaskId) (code : S.Code) (s : S.State) : Prop :=
  ∀ s', D.inv s' → D.rely task s s' → D.starts code s' → D.pre task code s'

end Discipline

namespace Coroutine

/-- From the state on, the coroutine keeps the discipline, and where it ends the postcondition
holds. -/
def wp (D : Discipline S) (me : TaskId) :
    Coroutine S α → (Except S.Error α → S.State → Prop) → S.State → Prop
  | .done result, post, s => post result s
  | .get next, post, s => (next s).wp D me post s
  | .set state next, post, s => D.Guarantees me s state ∧ next.wp D me post state
  | .self next, post, s => (next me).wp D me post s
  | .spawn code next, post, s =>
    ∀ task, task ≠ me → D.Startable task code s ∧ (next task).wp D me post s
  | .cancel _ next, post, s => next.wp D me post s
  | .join site _ next, post, s => D.inv s ∧
      ∀ result s', D.inv s' → D.rely me s s' → D.joins site result s' → (next result).wp D me post s'
  | .await op next, post, s => D.inv s ∧
      ∀ answer s', D.inv s' → D.rely me s s' → D.answers op answer s' →
        (next answer).wp D me post s'
  | .park op next, _, s => D.inv s ∧
      ∀ answer s', D.inv s' → D.rely me s s' → D.answers op answer s' →
        D.pre me (next answer) s'

/-- What a first part has to reach so that the rest can go on. -/
def wpRest (D : Discipline S) (me : TaskId) (rest : α → Coroutine S β)
    (post : Except S.Error β → S.State → Prop) : Except S.Error α → S.State → Prop
  | .ok value, s => (rest value).wp D me post s
  | .error error, s => post (.error error) s

/-- What the body of a `try` has to reach. -/
def wpHandler (D : Discipline S) (me : TaskId) (handler : S.Error → Coroutine S α)
    (post : Except S.Error α → S.State → Prop) : Except S.Error α → S.State → Prop
  | .ok value, s => post (.ok value) s
  | .error error, s => (handler error).wp D me post s

/-- What the `finally` part has to reach after the result. -/
def wpFinal (post : Except S.Error α → S.State → Prop) (result : Except S.Error α) :
    Except S.Error Unit → S.State → Prop
  | .ok _, s => post result s
  | .error error, s => post (.error error) s

section Rules

variable {D : Discipline S} {me : TaskId} {post post' : Except S.Error α → S.State → Prop}
  {s : S.State}

theorem wp_mono {code : Coroutine S α} (weaker : ∀ result s, post result s → post' result s)
    (holds : code.wp D me post s) : code.wp D me post' s := by
  induction code generalizing s with
  | done result => exact weaker result s holds
  | get next ih => exact ih s holds
  | set state next ih => exact ⟨holds.1, ih holds.2⟩
  | self next ih => exact ih me holds
  | spawn code next ih => exact fun task other => ⟨(holds task other).1, ih task (holds task other).2⟩
  | cancel task next ih => exact ih holds
  | join site task next ih =>
    refine ⟨holds.1, fun result s' inv rely joins => ?_⟩
    exact ih result (holds.2 result s' inv rely joins)
  | await op next ih =>
    refine ⟨holds.1, fun answer s' inv rely answers => ?_⟩
    exact ih answer (holds.2 answer s' inv rely answers)
  | park op next => exact holds

/-- What goes on with the result starts where the first part ends. -/
theorem wp_onResult {code : Coroutine S α} {rest : Except S.Error α → Coroutine S β}
    {post : Except S.Error β → S.State → Prop}
    (holds : code.wp D me (fun result => (rest result).wp D me post) s) :
    (code.onResult rest).wp D me post s := by
  induction code generalizing s with
  | done result => exact holds
  | get next ih => exact ih s holds
  | set state next ih => exact ⟨holds.1, ih holds.2⟩
  | self next ih => exact ih me holds
  | spawn code next ih => exact fun task other => ⟨(holds task other).1, ih task (holds task other).2⟩
  | cancel task next ih => exact ih holds
  | join site task next ih =>
    refine ⟨holds.1, fun result s' inv rely joins => ?_⟩
    exact ih result (holds.2 result s' inv rely joins)
  | await op next ih =>
    refine ⟨holds.1, fun answer s' inv rely answers => ?_⟩
    exact ih answer (holds.2 answer s' inv rely answers)
  | park op next => exact holds

/-- Sequencing: the rest starts where the first part ends. -/
theorem wp_bind {code : Coroutine S α} {rest : α → Coroutine S β}
    {post : Except S.Error β → S.State → Prop}
    (holds : code.wp D me (wpRest D me rest post) s) : (code >>= rest).wp D me post s := by
  rw [bind_eq_onResult]
  apply wp_onResult
  apply wp_mono _ holds
  intro result s reached
  cases result with
  | ok value => exact reached
  | error error => exact reached

/-- The handler starts where an exception is raised. -/
theorem wp_onError {code : Coroutine S α} {handler : S.Error → Coroutine S α}
    (holds : code.wp D me (wpHandler D me handler post) s) :
    (code.onError handler).wp D me post s := by
  rw [onError_eq_onResult]
  apply wp_onResult
  apply wp_mono _ holds
  intro result s reached
  cases result with
  | ok value => exact reached
  | error error => exact reached

end Rules

/-! The primitives, followed by the rest of the code. -/

section Primitives

variable {D : Discipline S} {me : TaskId} {post : Except S.Error β → S.State → Prop} {s : S.State}

@[simp] theorem wp_done (result : Except S.Error β) :
    (Coroutine.done result).wp D me post s ↔ post result s := Iff.rfl

@[simp] theorem wpRest_ok (value : α) (rest : α → Coroutine S β) :
    wpRest D me rest post (.ok value) s ↔ (rest value).wp D me post s := Iff.rfl

@[simp] theorem wpRest_error (error : S.Error) (rest : α → Coroutine S β) :
    wpRest D me rest post (.error error) s ↔ post (.error error) s := Iff.rfl

@[simp] theorem wpHandler_ok (value : β) (handler : S.Error → Coroutine S β) :
    wpHandler D me handler post (.ok value) s ↔ post (.ok value) s := Iff.rfl

@[simp] theorem wpHandler_error (error : S.Error) (handler : S.Error → Coroutine S β) :
    wpHandler D me handler post (.error error) s ↔ (handler error).wp D me post s := Iff.rfl

@[simp] theorem wpFinal_ok (result : Except S.Error β) (value : Unit) :
    wpFinal post result (.ok value) s ↔ post result s := Iff.rfl

@[simp] theorem wp_pure (value : β) :
    (pure value : Coroutine S β).wp D me post s ↔ post (.ok value) s := Iff.rfl

@[simp] theorem wp_raise (error : S.Error) :
    (raise error : Coroutine S β).wp D me post s ↔ post (.error error) s := Iff.rfl

@[simp] theorem wp_pure_bind (value : α) (rest : α → Coroutine S β) :
    (pure value >>= rest).wp D me post s ↔ (rest value).wp D me post s := Iff.rfl

@[simp] theorem wp_raise_bind (error : S.Error) (rest : α → Coroutine S β) :
    (raise error >>= rest).wp D me post s ↔ post (.error error) s := Iff.rfl

@[simp] theorem wp_read_bind (rest : S.State → Coroutine S β) :
    (read >>= rest).wp D me post s ↔ (rest s).wp D me post s := Iff.rfl

@[simp] theorem wp_modify_bind (f : S.State → S.State) (rest : Unit → Coroutine S β) :
    (modify f >>= rest).wp D me post s ↔
      D.Guarantees me s (f s) ∧ (rest ()).wp D me post (f s) := Iff.rfl

@[simp] theorem wp_modify {post : Except S.Error Unit → S.State → Prop} (f : S.State → S.State) :
    (modify f).wp D me post s ↔ D.Guarantees me s (f s) ∧ post (.ok ()) (f s) := Iff.rfl

@[simp] theorem wp_currentTask_bind (rest : TaskId → Coroutine S β) :
    (currentTask >>= rest).wp D me post s ↔ (rest me).wp D me post s := Iff.rfl

@[simp] theorem wp_createTask_bind (code : S.Code) (rest : TaskId → Coroutine S β) :
    (createTask code >>= rest).wp D me post s ↔
      ∀ task, task ≠ me → D.Startable task code s ∧ (rest task).wp D me post s := Iff.rfl

@[simp] theorem wp_cancelTask_bind (task : TaskId) (rest : Unit → Coroutine S β) :
    (cancelTask task >>= rest).wp D me post s ↔ (rest ()).wp D me post s := Iff.rfl

theorem wp_call {op : S.Op} {post : Except S.Error (S.Answer op) → S.State → Prop} :
    (call op).wp D me post s ↔ D.inv s ∧
      ∀ answer s', D.inv s' → D.rely me s s' → D.answers op answer s' → post answer s' := Iff.rfl

/-- The final code runs in any case, before the result is passed on. -/
theorem wp_ensuring {code : Coroutine S β} {final : Coroutine S Unit}
    (holds : code.wp D me (fun result s => final.wp D me (wpFinal post result) s) s) :
    (code.ensuring final).wp D me post s := by
  unfold ensuring
  apply wp_bind
  apply wp_onError
  apply wp_mono _ holds
  -- with a value or an error, the result waits until the final code has run
  intro result s' ends
  cases result with
  | ok value =>
    apply wp_bind
    apply wp_mono _ ends
    intro ended s'' last
    cases ended with
    | ok _ => exact last
    | error error => exact last
  | error error =>
    apply wp_bind
    apply wp_mono _ ends
    intro ended s'' last
    cases ended with
    | ok _ => exact last
    | error error => exact last

end Primitives

/-- From any state with the fact, the code keeps the discipline and ends with the fact. -/
def Keeps (D : Discipline S) (me : TaskId) (fact : S.State → Prop) (code : Coroutine S α) : Prop :=
  ∀ s, fact s → code.wp D me (fun _ s => fact s) s

section Keeps

variable {D : Discipline S} {me : TaskId} {fact : S.State → Prop}

theorem Keeps.wp {code : Coroutine S α} (keeps : code.Keeps D me fact)
    {post : Except S.Error α → S.State → Prop} {s : S.State} (holds : fact s)
    (ends : ∀ result s', fact s' → post result s') : code.wp D me post s :=
  wp_mono ends (keeps s holds)

theorem keeps_pure (value : α) : (pure value : Coroutine S α).Keeps D me fact :=
  fun _ holds => holds

theorem keeps_raise (error : S.Error) : (raise error : Coroutine S α).Keeps D me fact :=
  fun _ holds => holds

theorem Keeps.bind {code : Coroutine S α} {rest : α → Coroutine S β}
    (first : code.Keeps D me fact) (second : ∀ value, (rest value).Keeps D me fact) :
    (code >>= rest).Keeps D me fact := by
  intro s holds
  apply wp_bind
  apply first.wp holds
  intro result s' holds'
  cases result with
  | ok value => exact second value s' holds'
  | error error => exact holds'

theorem Keeps.onError {code : Coroutine S α} {handler : S.Error → Coroutine S α}
    (body : code.Keeps D me fact) (handled : ∀ error, (handler error).Keeps D me fact) :
    (code.onError handler).Keeps D me fact := by
  intro s holds
  apply wp_onError
  apply body.wp holds
  intro result s' holds'
  cases result with
  | ok value => exact holds'
  | error error => exact handled error s' holds'

theorem Keeps.ensuring {code : Coroutine S α} {final : Coroutine S Unit}
    (body : code.Keeps D me fact) (last : final.Keeps D me fact) :
    (code.ensuring final).Keeps D me fact := by
  refine Keeps.bind (body.onError fun error => last.bind fun _ => keeps_raise error) ?_
  exact fun value => last.bind fun _ => keeps_pure value

theorem keeps_read_bind {rest : S.State → Coroutine S β}
    (second : ∀ s, fact s → (rest s).wp D me (fun _ s => fact s) s) :
    (read >>= rest).Keeps D me fact := fun s holds => second s holds

theorem keeps_modify {f : S.State → S.State}
    (holds : ∀ s, fact s → D.Guarantees me s (f s) ∧ fact (f s)) :
    (modify f).Keeps D me fact := holds

theorem keeps_cancelTask (task : TaskId) : (cancelTask task : Coroutine S Unit).Keeps D me fact :=
  fun _ holds => holds

theorem keeps_call (stable : D.Stable me fact) (op : S.Op) :
    (call op : Coroutine S (S.Answer op)).Keeps D me fact :=
  fun s holds => ⟨stable.inv s holds, fun _ s' inv rely _ => stable.later s s' holds inv rely⟩

theorem keeps_park {op : S.Op} {next : Except S.Error (S.Answer op) → S.Code}
    (stable : D.Stable me fact)
    (goesOn : ∀ answer s, fact s → D.answers op answer s → D.pre me (next answer) s) :
    (Coroutine.park op next : Coroutine S α).Keeps D me fact := by
  intro s holds
  refine ⟨stable.inv s holds, fun answer s' inv rely answers => ?_⟩
  exact goesOn answer s' (stable.later s s' holds inv rely) answers

end Keeps

end Coroutine

/-! ### Soundness -/

namespace Discipline

variable (D : Discipline S)

/-- What a task needs of the state between its steps. -/
def Ready (task : TaskId) (s : S.State) : TaskStatus S → Prop
  | .fresh code => D.Startable task code s
  | .running => True
  | .waiting op next => ∀ answer s', D.inv s' → D.rely task s s' → D.answers op answer s' →
      (next answer).wp D task (fun _ s => D.inv s) s'
  | .parked op next => ∀ answer s', D.inv s' → D.rely task s s' → D.answers op answer s' →
      D.pre task (next answer) s'
  | .joining site _ next => ∀ result s', D.inv s' → D.rely task s s' → D.joins site result s' →
      (next result).wp D task (fun _ s => D.inv s) s'
  | .ended _ => True

/-- All tasks but one are ready. -/
def AllReady (me : Option TaskId) (w : EventLoop S) : Prop :=
  ∀ task status, some task ≠ me → w.status? task = some status → D.Ready task w.shared status

structure Sound (w : EventLoop S) : Prop where
  inv : D.inv w.shared
  ready : D.AllReady none w

variable {D}

theorem Ready.stable {task : TaskId} {s s' : S.State} {status : TaskStatus S}
    (ready : D.Ready task s status) (rely : D.rely task s s') : D.Ready task s' status := by
  -- only where the task goes on from a pause does the state matter
  cases status with
  | fresh code => exact fun t inv later starts => ready t inv (D.rely_trans rely later) starts
  | running => trivial
  | waiting op next =>
    exact fun answer t inv later answers => ready answer t inv (D.rely_trans rely later) answers
  | parked op next =>
    exact fun answer t inv later answers => ready answer t inv (D.rely_trans rely later) answers
  | joining site target next =>
    exact fun result t inv later joins => ready result t inv (D.rely_trans rely later) joins
  | ended result => trivial

end Discipline

namespace EventLoop

variable {w : EventLoop S}

theorem status?_within {task : TaskId} {status : TaskStatus S}
    (found : w.status? task = some status) : task < w.tasks.length := by
  obtain ⟨entry, found, _⟩ := Option.map_eq_some_iff.mp found
  exact (List.getElem?_eq_some_iff.mp found).1

@[simp] theorem status?_setCancelling (task : TaskId) (cancelling : Bool) :
    (w.setCancelling task cancelling).status? = w.status? := by
  funext other
  simp only [status?, setCancelling, List.getElem?_modify]
  split
  · cases w.tasks[other]? <;> rfl
  · simp

theorem status?_setStatus (task other : TaskId) (status : TaskStatus S) :
    (w.setStatus task status).status? other =
      if task = other then (w.status? other).map fun _ => status else w.status? other := by
  simp only [status?, setStatus, List.getElem?_modify]
  split
  · cases w.tasks[other]? <;> rfl
  · simp

@[simp] theorem shared_setStatus (task : TaskId) (status : TaskStatus S) :
    (w.setStatus task status).shared = w.shared := rfl

@[simp] theorem shared_setCancelling (task : TaskId) (cancelling : Bool) :
    (w.setCancelling task cancelling).shared = w.shared := rfl

/-- Cancelling only marks tasks. -/
theorem cancelChain_frame (depth : Nat) (task : TaskId) :
    (cancelChain depth task w).status? = w.status? ∧
      (cancelChain depth task w).shared = w.shared := by
  -- a task that joins another passes the cancellation on, along the chain
  induction depth generalizing task with
  | zero => exact ⟨rfl, rfl⟩
  | succ depth ih =>
    unfold cancelChain
    split
    · exact ⟨rfl, rfl⟩
    · exact ⟨rfl, rfl⟩
    · split
      · exact ⟨status?_setCancelling _ _, rfl⟩
      · exact ih _
    · exact ⟨status?_setCancelling _ _, rfl⟩

@[simp] theorem status?_cancel (task : TaskId) : (w.cancel task).status? = w.status? :=
  (cancelChain_frame _ task).1

@[simp] theorem shared_cancel (task : TaskId) : (w.cancel task).shared = w.shared :=
  (cancelChain_frame _ task).2

theorem status?_suspendJoin (me : TaskId) (site : S.Site) (target : TaskId)
    (next : Except S.Error Unit → Coroutine S Unit) :
    (w.suspendJoin me site target next).status? =
      (w.setStatus me (.joining site target next)).status? := by
  unfold suspendJoin
  dsimp only
  split
  · rw [status?_cancel, status?_setCancelling]
  · rfl

@[simp] theorem shared_suspendJoin (me : TaskId) (site : S.Site) (target : TaskId)
    (next : Except S.Error Unit → Coroutine S Unit) :
    (w.suspendJoin me site target next).shared = w.shared := by
  unfold suspendJoin
  dsimp only
  split
  · rw [shared_cancel]
    rfl
  · rfl

theorem status?_spawn (code : S.Code) (task : TaskId) {status : TaskStatus S}
    (found : ({ w with tasks := w.tasks ++ [{ status := .fresh code }] } : EventLoop S).status? task =
      some status) :
    w.status? task = some status ∨ task = w.tasks.length ∧ status = .fresh code := by
  simp only [status?, List.getElem?_append] at found ⊢
  split at found
  · exact .inl found
  -- a new task takes the first number that is free
  · next outside =>
    rw [Nat.not_lt] at outside
    cases rest : task - w.tasks.length with
    | zero =>
      rw [rest] at found
      cases found
      exact .inr ⟨Nat.le_antisymm (Nat.sub_eq_zero_iff_le.mp rest) outside, rfl⟩
    | succ n =>
      rw [rest] at found
      cases found

theorem length_cancelChain (depth : Nat) (task : TaskId) :
    (cancelChain depth task w).tasks.length = w.tasks.length := by
  induction depth generalizing task with
  | zero => rfl
  | succ depth ih =>
    unfold cancelChain
    split
    · rfl
    · rfl
    · split
      · exact List.length_modify _ _ _
      · exact ih _
    · exact List.length_modify _ _ _

end EventLoop

namespace Discipline

open EventLoop

variable {D : Discipline S} {w : EventLoop S} {me : TaskId}

private theorem AllReady.congr {w' : EventLoop S} {who : Option TaskId} (ready : D.AllReady who w)
    (status : w'.status? = w.status?) (shared : w'.shared = w.shared) : D.AllReady who w' := by
  intro task st other found
  rw [shared]
  rw [status] at found
  exact ready task st other found

/-- A step of one task that the others count on. -/
private theorem AllReady.step {s : S.State} (ready : D.AllReady (some me) w)
    (guarantees : D.Guarantees me w.shared s) : D.AllReady (some me) { w with shared := s } := by
  intro task status other found
  have different : task ≠ me := fun same => other (congrArg some same)
  exact (ready task status other found).stable (guarantees task different)

/-- The task stops and is ready like the others. -/
private theorem AllReady.stop {status : TaskStatus S} (ready : D.AllReady (some me) w)
    (inv : D.inv w.shared) (own : D.Ready me w.shared status) : D.Sound (w.setStatus me status) where
  inv
  ready := by
    intro task status' _ found
    rw [status?_setStatus] at found
    -- its own status is the new one, the others are as they were
    split at found
    · next same =>
      obtain ⟨_, _, rfl⟩ := Option.map_eq_some_iff.mp found
      exact same ▸ own
    · next different =>
      exact ready task status' (fun same => different (Option.some.inj same).symm) found

/-- A task that keeps the discipline leaves the others ready, and is ready itself where it
stops. -/
theorem run_sound {code : Coroutine S Unit} (within : me < w.tasks.length)
    (holds : code.wp D me (fun _ s => D.inv s) w.shared) (ready : D.AllReady (some me) w) :
    D.Sound (run me code w) := by
  -- the code runs up to its next pause, with the other tasks ready throughout
  induction code generalizing w with
  | done result => exact ready.stop holds trivial
  | get next ih => exact ih w.shared within holds ready
  | set state next ih => exact ih within holds.2 (ready.step holds.1)
  | self next ih => exact ih me within holds ready
  | spawn code next ih =>
    have fresh : w.tasks.length ≠ me := Nat.ne_of_gt within
    obtain ⟨startable, rest⟩ := holds w.tasks.length fresh
    refine ih w.tasks.length ?_ rest ?_
    · rw [List.length_append]
      exact Nat.lt_add_right _ within
    · intro task status other found
      rcases status?_spawn code task found with before | ⟨rfl, rfl⟩
      · exact ready task status other before
      · exact startable
  | cancel task next ih =>
    refine ih ?_ ?_ (ready.congr (status?_cancel task) (shared_cancel task))
    · rw [EventLoop.cancel, length_cancelChain]
      exact within
    · rw [shared_cancel]
      exact holds
  | join site task next ih =>
    have stopped : D.Sound (w.setStatus me (.joining site task next)) :=
      ready.stop holds.1 holds.2
    refine ⟨?_, ?_⟩
    · rw [run, shared_suspendJoin]
      exact stopped.inv
    · exact stopped.ready.congr (status?_suspendJoin me site task next)
        (shared_suspendJoin me site task next)
  -- here the task stops, and its rest is what it is ready for
  | await op next ih => exact ready.stop holds.1 holds.2
  | park op next => exact ready.stop holds.1 holds.2

theorem resume_sound {code : Coroutine S Unit} (within : me < w.tasks.length)
    (holds : code.wp D me (fun _ s => D.inv s) w.shared) (sound : D.Sound w) :
    D.Sound (w.resume me code) := by
  unfold EventLoop.resume
  refine run_sound ?_ holds ?_
  · simpa [EventLoop.setStatus, EventLoop.setCancelling] using within
  · intro task status other found
    rw [status?_setCancelling, status?_setStatus] at found
    split at found
    -- its status while it runs is not looked at
    · next same => exact absurd (congrArg some same.symm) other
    · exact sound.ready task status (Option.some_ne_none task) found

/-! ### Runs -/

/-- What is proved of a program: its codes keep the discipline, and so do the callers that
start tasks and the environment. -/
structure Verifies [DecidableEq S.Op] [DecidableEq S.Error] (D : Discipline S)
    (P : AsyncProgram S Env) : Prop where
  body : ∀ code me s, D.inv s → D.pre me code s → (P.body code).wp D me (fun _ s => D.inv s) s
  entry : ∀ code task s, P.isEntry code = true → D.inv s → D.starts code s → D.pre task code s
  environment : ∀ event s s', D.inv s → P.environment event s = some s' →
    D.inv s' ∧ ∀ task, D.rely task s s'

section Runs

variable [DecidableEq S.Op] [DecidableEq S.Error] {D : Discipline S} {P : AsyncProgram S Env}
  {w w' : EventLoop S} {event : LoopEvent S Env}

theorem Verifies.step (verifies : D.Verifies P) (sound : D.Sound w) (permits : D.Permits w event)
    (stepped : P.step w event = some w') : D.Sound w' := by
  cases event with
  | enter code =>
    simp only [AsyncProgram.step] at stepped
    split at stepped
    · next isEntry =>
      cases stepped
      refine ⟨sound.inv, fun task status other found => ?_⟩
      rcases status?_spawn code task found with before | ⟨rfl, rfl⟩
      · exact sound.ready task status other before
      -- a caller may start it in any state in which its guard holds
      · exact fun s inv _ starts => verifies.entry code _ s isEntry inv starts
    · cases stepped
  | interrupt task =>
    simp only [AsyncProgram.step] at stepped
    split at stepped
    · cases stepped
      refine ⟨?_, sound.ready.congr (status?_cancel task) (shared_cancel task)⟩
      rw [shared_cancel]
      exact sound.inv
    · cases stepped
  | start task =>
    simp only [AsyncProgram.step] at stepped
    split at stepped
    · next code found =>
      have own := sound.ready task _ (Option.some_ne_none task) found
      split at stepped
      · cases stepped
        refine AllReady.stop ?_ sound.inv trivial
        exact fun other status _ found => sound.ready other status (Option.some_ne_none other) found
      -- the task has waited for its turn, and its precondition was promised for then
      · next uncancelled =>
        cases stepped
        have starts : D.starts code w.shared := by
          refine permits code ?_
          rw [EventLoop.begins?, found]
          exact if_neg uncancelled
        have pre := own w.shared sound.inv (D.rely_refl task _) starts
        exact resume_sound (status?_within found) (verifies.body code task _ sound.inv pre) sound
    · cases stepped
  -- the answer is as the discipline says, so the rest of the code is verified
  | answer task op answer =>
    simp only [AsyncProgram.step] at stepped
    split at stepped
    · cases stepped
    · split at stepped
      · next op' next found =>
        have own := sound.ready task _ (Option.some_ne_none task) found
        split at stepped
        · next same =>
          subst same
          cases stepped
          have holds := own answer w.shared sound.inv (D.rely_refl task _) permits
          exact resume_sound (status?_within found) holds sound
        · cases stepped
      · next op' next found =>
        have own := sound.ready task _ (Option.some_ne_none task) found
        split at stepped
        · next same =>
          subst same
          cases stepped
          have pre := own answer w.shared sound.inv (D.rely_refl task _) permits
          exact resume_sound (status?_within found)
            (verifies.body (next answer) task _ sound.inv pre) sound
        · cases stepped
      · cases stepped
  | joined task =>
    simp only [AsyncProgram.step] at stepped
    split at stepped
    · next site target next found =>
      have own := sound.ready task _ (Option.some_ne_none task) found
      obtain ⟨result, ends, rfl⟩ := Option.map_eq_some_iff.mp stepped
      have joins : D.joins site result w.shared :=
        permits site (by rw [EventLoop.joinSite?, found]; rfl) result ends
      exact resume_sound (status?_within found)
        (own result w.shared sound.inv (D.rely_refl task _) joins) sound
    · cases stepped
  | environment event =>
    obtain ⟨s, happens, rfl⟩ := Option.map_eq_some_iff.mp stepped
    obtain ⟨inv, rely⟩ := verifies.environment event w.shared s sound.inv happens
    refine ⟨inv, fun task status other found => ?_⟩
    exact (sound.ready task status other found).stable (rely task)

/-- In every run whose events meet the condition of the discipline, the invariant holds at its
end. -/
theorem Verifies.exec (verifies : D.Verifies P) {s : S.State} {events : List (LoopEvent S Env)}
    (initial : D.inv s) (guarded : P.system.Guarded D.Permits ⟨s, []⟩ events)
    (ran : P.system.exec ⟨s, []⟩ events = some w) : D.inv w.shared := by
  have begins : D.Sound (⟨s, []⟩ : EventLoop S) := ⟨initial, fun _ _ _ found => by cases found⟩
  have sound : D.Sound w :=
    P.system.exec_invariant D.Sound
      (fun _ _ _ sound permits stepped => verifies.step sound permits stepped) begins guarded ran
  exact sound.inv

end Runs

end Discipline

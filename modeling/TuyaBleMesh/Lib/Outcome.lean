import TuyaBleMesh.Lib.Solo

/-!
# How a coroutine ends

Postconditions about all that a task has awaited, the state it leaves and its result,
whatever it is answered within a condition. One use of them is to follow a resource that
an await acquires: until it is released or kept, it is in the hands of the task.
-/

namespace Coroutine

variable {S : Signature} {α β : Type}

/-- Wherever the answers meet the condition, the coroutine ends, and then what has been awaited,
the state and the result meet the postcondition. -/
def Ends (granted : Awaited S → Prop) :
    Coroutine S α → (List (Awaited S) → S.State → Except S.Error α → Prop) →
      List (Awaited S) → S.State → Prop
  | .done result, post, past, s => post past s result
  | .get next, post, past, s => (next s).Ends granted post past s
  | .set state next, post, past, _ => next.Ends granted post past state
  | .self next, post, past, s => ∀ me, (next me).Ends granted post past s
  | .spawn _ next, post, past, s => ∀ task, (next task).Ends granted post past s
  | .cancel _ next, post, past, s => next.Ends granted post past s
  | .join site task next, post, past, s => ∀ result resumed,
      granted (.join site task s result resumed) →
        (next result).Ends granted post (past ++ [.join site task s result resumed]) resumed
  | .await op next, post, past, s => ∀ answer resumed, granted (.call op s answer resumed) →
      (next answer).Ends granted post (past ++ [.call op s answer resumed]) resumed
  | .park _ _, _, _, _ => False

section Rules

variable {granted : Awaited S → Prop} {past : List (Awaited S)} {s : S.State}
  {post Q : List (Awaited S) → S.State → Except S.Error α → Prop}

theorem Ends.mono {code : Coroutine S α} (ends : code.Ends granted Q past s)
    (weaker : ∀ past s result, Q past s result → post past s result) :
    code.Ends granted post past s := by
  induction code generalizing past s with
  | done result => exact weaker past s result ends
  | get next ih => exact ih s ends
  | set state next ih => exact ih ends
  | self next ih => exact fun me => ih me (ends me)
  | spawn code next ih => exact fun task => ih task (ends task)
  | cancel task next ih => exact ih ends
  | join site task next ih => exact fun result resumed is => ih result (ends result resumed is)
  | await op next ih => exact fun answer resumed is => ih answer (ends answer resumed is)
  | park op next => exact ends

/-- What goes on with the result starts where the first part ends. -/
theorem Ends.onResult {code : Coroutine S α} {rest : Except S.Error α → Coroutine S β}
    {post : List (Awaited S) → S.State → Except S.Error β → Prop}
    (one : code.Ends granted Q past s)
    (two : ∀ past s result, Q past s result → (rest result).Ends granted post past s) :
    (code.onResult rest).Ends granted post past s := by
  induction code generalizing past s with
  | done result => exact two past s result one
  | get next ih => exact ih s one
  | set state next ih => exact ih one
  | self next ih => exact fun me => ih me (one me)
  | spawn code next ih => exact fun task => ih task (one task)
  | cancel task next ih => exact ih one
  | join site task next ih => exact fun result resumed is => ih result (one result resumed is)
  | await op next ih => exact fun answer resumed is => ih answer (one answer resumed is)
  | park op next => exact one

/-- Sequencing: the rest starts where the first part ends, unless that ends with an exception. -/
theorem Ends.bind {code : Coroutine S α} {rest : α → Coroutine S β}
    {post : List (Awaited S) → S.State → Except S.Error β → Prop}
    (one : code.Ends granted Q past s)
    (value : ∀ past s v, Q past s (.ok v) → (rest v).Ends granted post past s)
    (error : ∀ past s e, Q past s (.error e) → post past s (.error e)) :
    (code >>= rest).Ends granted post past s := by
  rw [bind_eq_onResult]
  apply one.onResult
  intro past s result reached
  cases result with
  | ok v => exact value past s v reached
  | error e => exact error past s e reached

/-- A handler starts where the body ends with an exception. -/
theorem Ends.onError {code : Coroutine S α} {handler : S.Error → Coroutine S α}
    (one : code.Ends granted Q past s)
    (value : ∀ past s v, Q past s (.ok v) → post past s (.ok v))
    (error : ∀ past s e, Q past s (.error e) → (handler e).Ends granted post past s) :
    (code.onError handler).Ends granted post past s := by
  rw [onError_eq_onResult]
  apply one.onResult
  intro past s result reached
  cases result with
  | ok v => exact value past s v reached
  | error e => exact error past s e reached

theorem Ends.call {op : S.Op} {post : List (Awaited S) → S.State → Except S.Error (S.Answer op) → Prop}
    (answered : ∀ answer resumed, granted (.call op s answer resumed) →
      post (past ++ [.call op s answer resumed]) resumed answer) :
    (Coroutine.call op).Ends granted post past s := answered

/-- However the coroutine ends, the fact still holds. -/
def Maintains (granted : Awaited S → Prop) (fact : List (Awaited S) → S.State → Prop)
    (code : Coroutine S α) : Prop :=
  ∀ past s, fact past s → code.Ends granted (fun past s _ => fact past s) past s

namespace Maintains

variable {fact : List (Awaited S) → S.State → Prop}

theorem pure (value : α) : (Pure.pure value : Coroutine S α).Maintains granted fact :=
  fun _ _ holds => holds

theorem raise (error : S.Error) : (Coroutine.raise error : Coroutine S α).Maintains granted fact :=
  fun _ _ holds => holds

theorem done (result : Except S.Error α) : (Coroutine.done result).Maintains granted fact :=
  fun _ _ holds => holds

theorem modify {f : S.State → S.State} (keeps : ∀ past s, fact past s → fact past (f s)) :
    (Coroutine.modify f).Maintains granted fact := keeps

theorem call {op : S.Op} (keeps : ∀ past s answer resumed, granted (.call op s answer resumed) →
      fact past s → fact (past ++ [.call op s answer resumed]) resumed) :
    (Coroutine.call op).Maintains granted fact :=
  fun past s holds answer resumed is => keeps past s answer resumed is holds

theorem read_bind {rest : S.State → Coroutine S β}
    (two : ∀ s, (rest s).Maintains granted fact) :
    (Coroutine.read >>= rest).Maintains granted fact :=
  fun past s holds => two s past s holds

theorem currentTask_bind {rest : TaskId → Coroutine S β}
    (two : ∀ me, (rest me).Maintains granted fact) :
    (Coroutine.currentTask >>= rest).Maintains granted fact :=
  fun past s holds me => two me past s holds

theorem bind {code : Coroutine S α} {rest : α → Coroutine S β}
    (one : code.Maintains granted fact) (two : ∀ value, (rest value).Maintains granted fact) :
    (code >>= rest).Maintains granted fact := by
  intro past s holds
  apply Ends.bind (one past s holds)
  · exact fun past s value holds => two value past s holds
  · exact fun past s error holds => holds

theorem onError {code : Coroutine S α} {handler : S.Error → Coroutine S α}
    (one : code.Maintains granted fact) (two : ∀ error, (handler error).Maintains granted fact) :
    (code.onError handler).Maintains granted fact := by
  intro past s holds
  apply Ends.onError (one past s holds)
  · exact fun past s value holds => holds
  · exact fun past s error holds => two error past s holds

end Maintains

/-- What has been awaited before is not forgotten. -/
theorem mem_play (env : Surroundings S) (code : Coroutine S α) (past : List (Awaited S)) (s : S.State)
    {entry : Awaited S} (member : entry ∈ past) : entry ∈ (code.play env past s).past := by
  induction code generalizing past s with
  | done result => exact member
  | get next ih => exact ih s past s member
  | set state next ih => exact ih past state member
  | self next ih => exact ih env.me past s member
  | spawn code next ih => exact ih _ past s member
  | cancel task next ih => exact ih past s member
  | join site task next ih => exact ih _ _ _ (List.mem_append_left _ member)
  | await op next ih => exact ih _ _ _ (List.mem_append_left _ member)
  | park op next => exact member

/-- A task whose answers have all met the condition has ended as the postcondition says. -/
theorem Ends.play {code : Coroutine S α} (ends : code.Ends granted post past s)
    (env : Surroundings S) (met : ∀ entry ∈ (code.play env past s).past, granted entry) :
    ∃ result, (code.play env past s).result = some result ∧
      post (code.play env past s).past (code.play env past s).state result := by
  induction code generalizing past s with
  | done result => exact ⟨result, rfl, ends⟩
  | get next ih => exact ih s ends met
  | set state next ih => exact ih ends met
  | self next ih => exact ih env.me (ends env.me) met
  | spawn code next ih => exact ih _ (ends _) met
  | cancel task next ih => exact ih ends met
  | join site task next ih =>
    exact ih _ (ends _ _ (met _ (mem_play env (next _) _ _ List.mem_concat_self))) met
  | await op next ih =>
    exact ih _ (ends _ _ (met _ (mem_play env (next _) _ _ List.mem_concat_self))) met
  | park op next => exact ends.elim

end Rules

end Coroutine

/-! ### Resources -/

/-- What a resource is to a task that awaits: where it is acquired, where it is released, and in
which states it is in the keeping of an object. -/
structure Resource (S : Signature) (R : Type) where
  acquired? : Awaited S → Option R
  releases : Awaited S → Bool
  keeps : S.State → R → Bool

/-- The resource that was acquired last, unless it has been released, and those that were given up
without it. -/
structure Holding (R : Type) where
  held : Option R := none
  /-- An object has had it in its keeping. -/
  kept : Bool := false
  lost : List R := []
  deriving DecidableEq

/-- The state in which the task awaited. -/
def Awaited.before {S : Signature} : Awaited S → S.State
  | .call _ s _ _ => s
  | .join _ _ s _ _ => s

namespace Resource

variable {S : Signature} {R : Type} (A : Resource S R)

def track (h : Holding R) (entry : Awaited S) : Holding R :=
  let kept := h.kept || h.held.any (A.keeps entry.before)
  match A.acquired? entry with
  | some r =>
    { held := some r, lost := h.lost ++ if kept then [] else h.held.toList }
  | none =>
    if A.releases entry then { lost := h.lost } else { h with kept }

def holding (past : List (Awaited S)) : Holding R := past.foldl A.track {}

/-- Nothing is given up: what is still held is in the keeping of an object, or is given to the
caller. -/
structure Settled (past : List (Awaited S)) (s : S.State) (given : R → Prop) : Prop where
  lost : (A.holding past).lost = []
  held : ∀ r ∈ (A.holding past).held, (A.holding past).kept = true ∨ A.keeps s r = true ∨ given r

/-- Nothing is held, and nothing has been given up. -/
def Free (past : List (Awaited S)) : Prop := A.holding past = {}

def Holds (past : List (Awaited S)) (r : R) : Prop := ∃ kept, A.holding past = ⟨some r, kept, []⟩

/-- The resource is in the keeping of an object, or has been. -/
def Keeps (past : List (Awaited S)) (s : S.State) (r : R) : Prop :=
  ∃ kept, A.holding past = ⟨some r, kept, []⟩ ∧ (kept = true ∨ A.keeps s r = true)

variable {A} {past : List (Awaited S)} {entry : Awaited S} {r : R} {s : S.State}

theorem holding_append : A.holding (past ++ [entry]) = A.track (A.holding past) entry := by
  rw [holding, List.foldl_concat]
  rfl

theorem free_nil : A.Free [] := rfl

theorem Free.append (free : A.Free past) (other : A.acquired? entry = none) :
    A.Free (past ++ [entry]) := by
  rw [Free, holding_append, free, track, other]
  cases A.releases entry with
  | true => rfl
  | false => rfl

theorem Free.acquire (free : A.Free past) (acquired : A.acquired? entry = some r) :
    A.Holds (past ++ [entry]) r := by
  refine ⟨false, ?_⟩
  rw [holding_append, free, track, acquired]
  rfl

theorem Holds.append (holds : A.Holds past r) (other : A.acquired? entry = none)
    (stays : A.releases entry = false) : A.Holds (past ++ [entry]) r := by
  obtain ⟨kept, holding⟩ := holds
  refine ⟨kept || A.keeps entry.before r, ?_⟩
  rw [holding_append, holding, track, other, stays]
  rfl

theorem Holds.release (holds : A.Holds past r) (other : A.acquired? entry = none)
    (releases : A.releases entry = true) : A.Free (past ++ [entry]) := by
  obtain ⟨kept, holding⟩ := holds
  rw [Free, holding_append, holding, track, other, releases]
  rfl

theorem Keeps.holds (keeps : A.Keeps past s r) : A.Holds past r :=
  ⟨keeps.choose, keeps.choose_spec.1⟩

theorem Keeps.append (keeps : A.Keeps past s r) (here : entry.before = s)
    (other : A.acquired? entry = none) (stays : A.releases entry = false) (s' : S.State) :
    A.Keeps (past ++ [entry]) s' r := by
  obtain ⟨kept, holding, inKeeping⟩ := keeps
  refine ⟨kept || A.keeps entry.before r, ?_, .inl ?_⟩
  · rw [holding_append, holding, track, other, stays]
    rfl
  · rw [here, Bool.or_eq_true]
    exact inKeeping

theorem Free.settled (free : A.Free past) (given : R → Prop) : A.Settled past s given where
  lost := by rw [free]
  held := by
    rw [free]
    exact nofun

theorem Keeps.settled (keeps : A.Keeps past s r) (given : R → Prop) : A.Settled past s given := by
  obtain ⟨kept, holding, inKeeping⟩ := keeps
  refine ⟨by rw [holding], ?_⟩
  rw [holding]
  rintro _ ⟨⟩
  exact inKeeping.imp id .inl

theorem Holds.settled (holds : A.Holds past r) {given : R → Prop} (passed : given r) :
    A.Settled past s given := by
  obtain ⟨kept, holding⟩ := holds
  refine ⟨by rw [holding], ?_⟩
  rw [holding]
  rintro _ ⟨⟩
  exact .inr (.inr passed)

end Resource

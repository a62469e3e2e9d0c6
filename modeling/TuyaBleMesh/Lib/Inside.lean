import TuyaBleMesh.Lib.Solo

/-!
# Coroutines inside larger programs

Code that uses a library awaits more than the library does. The coroutines of the library
are taken over as they are, and a caller waits where one of them parks. What a coroutine
can await at all is known from its text, whatever is answered.
-/

/-- The signature of a library with the operations of the code that uses it. -/
abbrev Signature.plus (S : Signature) (Op : Type) (Answer : Op → Type) : Signature where
  State := S.State
  Op := S.Op ⊕ Op
  Answer := Sum.elim S.Answer Answer
  Site := S.Site
  Code := S.Code
  Error := S.Error
  cancelledError := S.cancelledError
  selfJoinError := S.selfJoinError

/-- The operation that was awaited, where it was no task. -/
def Awaited.op? {S : Signature} : Awaited S → Option S.Op
  | .call op _ _ _ => some op
  | .join _ _ _ _ _ => none

namespace Coroutine

variable {S : Signature} {Op : Type} {Answer : Op → Type} {α β : Type}

def lift : Coroutine S α → Coroutine (S.plus Op Answer) α
  | .done result => .done result
  | .get next => .get fun s => (next s).lift
  | .set state next => .set state next.lift
  | .self next => .self fun me => (next me).lift
  | .spawn code next => .spawn code fun task => (next task).lift
  | .cancel task next => .cancel task next.lift
  | .join site task next => .join site task fun result => (next result).lift
  | .await op next => .await (.inl op) fun answer => (next answer).lift
  | .park op next => .park (.inl op) next

/-- Where the coroutine parks its caller waits, and goes on at the point of `Code`. -/
def waiting (enter : S.Code → Coroutine S α) : Coroutine S α → Coroutine S α
  | .done result => .done result
  | .get next => .get fun s => (next s).waiting enter
  | .set state next => .set state (next.waiting enter)
  | .self next => .self fun me => (next me).waiting enter
  | .spawn code next => .spawn code fun task => (next task).waiting enter
  | .cancel task next => .cancel task (next.waiting enter)
  | .join site task next => .join site task fun result => (next result).waiting enter
  | .await op next => .await op fun answer => (next answer).waiting enter
  | .park op next => .await op fun answer => enter (next answer)

/-! ### What can be awaited -/

/-- On every way through the coroutine only such operations are awaited. -/
def AwaitsOnly (allowed : S.Op → Prop) : Coroutine S α → Prop
  | .done _ => True
  | .get next => ∀ s, (next s).AwaitsOnly allowed
  | .set _ next => next.AwaitsOnly allowed
  | .self next => ∀ me, (next me).AwaitsOnly allowed
  | .spawn _ next => ∀ task, (next task).AwaitsOnly allowed
  | .cancel _ next => next.AwaitsOnly allowed
  | .join _ _ next => ∀ result, (next result).AwaitsOnly allowed
  | .await op next => allowed op ∧ ∀ answer, (next answer).AwaitsOnly allowed
  | .park op _ => allowed op

namespace AwaitsOnly

variable {allowed : S.Op → Prop}

theorem pure (value : α) : (Pure.pure value : Coroutine S α).AwaitsOnly allowed := trivial

theorem done (result : Except S.Error α) : (Coroutine.done result).AwaitsOnly allowed := trivial

theorem raise (error : S.Error) : (Coroutine.raise error : Coroutine S α).AwaitsOnly allowed :=
  trivial

theorem modify (f : S.State → S.State) : (Coroutine.modify f).AwaitsOnly allowed :=
  fun _ => trivial

theorem call {op : S.Op} (is : allowed op) : (Coroutine.call op).AwaitsOnly allowed :=
  ⟨is, fun _ => trivial⟩

theorem cancelTask (task : TaskId) :
    (Coroutine.cancelTask task : Coroutine S Unit).AwaitsOnly allowed := trivial

theorem read_bind {rest : S.State → Coroutine S β}
    (two : ∀ s, (rest s).AwaitsOnly allowed) : (Coroutine.read >>= rest).AwaitsOnly allowed := two

theorem currentTask_bind {rest : TaskId → Coroutine S β}
    (two : ∀ me, (rest me).AwaitsOnly allowed) :
    (Coroutine.currentTask >>= rest).AwaitsOnly allowed := two

theorem onResult {code : Coroutine S α} {rest : Except S.Error α → Coroutine S β}
    (one : code.AwaitsOnly allowed) (two : ∀ result, (rest result).AwaitsOnly allowed) :
    (code.onResult rest).AwaitsOnly allowed := by
  induction code with
  | done result => exact two result
  | get next ih => exact fun s => ih s (one s)
  | set state next ih => exact ih one
  | self next ih => exact fun me => ih me (one me)
  | spawn code next ih => exact fun task => ih task (one task)
  | cancel task next ih => exact ih one
  | join site task next ih => exact fun result => ih result (one result)
  | await op next ih => exact ⟨one.1, fun answer => ih answer (one.2 answer)⟩
  | park op next => exact one

theorem bind {code : Coroutine S α} {rest : α → Coroutine S β} (one : code.AwaitsOnly allowed)
    (two : ∀ value, (rest value).AwaitsOnly allowed) : (code >>= rest).AwaitsOnly allowed := by
  rw [bind_eq_onResult]
  apply onResult one
  intro result
  cases result with
  | ok value => exact two value
  | error error => trivial

theorem onError {code : Coroutine S α} {handler : S.Error → Coroutine S α}
    (one : code.AwaitsOnly allowed) (two : ∀ error, (handler error).AwaitsOnly allowed) :
    (code.onError handler).AwaitsOnly allowed := by
  rw [onError_eq_onResult]
  apply onResult one
  intro result
  cases result with
  | ok value => trivial
  | error error => exact two error

theorem ensuring {body : Coroutine S α} {final : Coroutine S Unit} (one : body.AwaitsOnly allowed)
    (two : final.AwaitsOnly allowed) : (body.ensuring final).AwaitsOnly allowed := by
  apply bind
  · exact onError one fun error => bind two fun _ => raise error
  · exact fun value => bind two fun _ => pure value

/-- A library coroutine awaits in a larger program what it awaits by itself. -/
theorem lift {wider : S.Op ⊕ Op → Prop} {code : Coroutine S α} (one : code.AwaitsOnly allowed)
    (within : ∀ op, allowed op → wider (.inl op)) :
    (code.lift : Coroutine (S.plus Op Answer) α).AwaitsOnly wider := by
  induction code with
  | done result => trivial
  | get next ih => exact fun s => ih s (one s)
  | set state next ih => exact ih one
  | self next ih => exact fun me => ih me (one me)
  | spawn code next ih => exact fun task => ih task (one task)
  | cancel task next ih => exact ih one
  | join site task next ih => exact fun result => ih result (one result)
  | await op next ih => exact ⟨within op one.1, fun answer => ih answer (one.2 answer)⟩
  | park op next => exact within op one

/-- The awaited operations are all of one kind. -/
def All (allowed : S.Op → Prop) (past : List (Awaited S)) : Prop :=
  ∀ entry ∈ past, ∀ op ∈ entry.op?, allowed op

theorem All.nil (allowed : S.Op → Prop) : All allowed [] := nofun

theorem All.append {past : List (Awaited S)} {entry : Awaited S} (all : All allowed past)
    (is : ∀ op ∈ entry.op?, allowed op) : All allowed (past ++ [entry]) := by
  intro seen member
  rcases List.mem_append.mp member with before | last
  · exact all seen before
  · rw [List.mem_singleton.mp last]
    exact is

/-- Whatever is answered, nothing else is awaited. -/
theorem play {code : Coroutine S α} (only : code.AwaitsOnly allowed) (env : Surroundings S)
    {past : List (Awaited S)} (s : S.State) (all : All allowed past) :
    All allowed (code.play env past s).past := by
  induction code generalizing past s with
  | done result => exact all
  | get next ih => exact ih s (only s) s all
  | set state next ih => exact ih only state all
  | self next ih => exact ih env.me (only env.me) s all
  | spawn code next ih => exact ih _ (only _) s all
  | cancel task next ih => exact ih only s all
  | join site task next ih => exact ih _ (only _) _ (all.append nofun)
  | await op next ih =>
    apply ih _ (only.2 _) _ (all.append ?_)
    rintro _ ⟨⟩
    exact only.1
  | park op next => exact all

end AwaitsOnly

end Coroutine

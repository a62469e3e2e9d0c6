import Mathlib.Data.List.Basic

/-!
# Programs that call their environment

A program makes calls and goes on with their answers, so that its state between two
calls is the program that is left. A contract says which calls may be made after which
history and which answers may be counted on; weakest preconditions under a contract
are computed call by call and composed by `wp_bind`.
-/

/-- A program with the calls `Op`, which ends with a value or an exception. -/
inductive Program {Op : Type} (Answer : Op → Type) (ε α : Type) : Type
  | done (result : Except ε α)
  | call (op : Op) (next : Answer op → Program Answer ε α)

namespace Program

variable {Op : Type} {Answer : Op → Type} {ε α β : Type}

def bind : Program Answer ε α → (α → Program Answer ε β) → Program Answer ε β
  | .done (.ok value), rest => rest value
  | .done (.error error), _ => .done (.error error)
  | .call op next, rest => .call op fun answer => (next answer).bind rest

instance : Monad (Program Answer ε) where
  pure value := .done (.ok value)
  bind := bind

/-- What is computed without a call. -/
instance : MonadLift (Except ε) (Program Answer ε) where
  monadLift := .done

def raise (error : ε) : Program Answer ε α := .done (.error error)

/-! ### Preconditions -/

/-- The calls so far, with their answers. -/
abbrev History (Answer : Op → Type) := List ((op : Op) × Answer op)

structure Contract (Answer : Op → Type) where
  /-- The call may be made. -/
  permits : History Answer → Op → Prop
  /-- The answer may be counted on. -/
  grants : History Answer → (op : Op) → Answer op → Prop

/-- After the history, the program makes permitted calls only, and what it returns meets the
postcondition. -/
def wp (contract : Contract Answer) :
    Program Answer ε α → (History Answer → α → Prop) → History Answer → Prop
  | .done (.ok value), post, history => post history value
  | .done (.error _), _, _ => True
  | .call op next, post, history => contract.permits history op ∧
      ∀ answer, contract.grants history op answer →
        (next answer).wp contract post (history ++ [⟨op, answer⟩])

section Rules

variable {contract : Contract Answer} {post post' : History Answer → α → Prop}
  {history : History Answer} {program : Program Answer ε α}

theorem wp_lift (result : Except ε α) :
    (liftM result : Program Answer ε α).wp contract post history ↔
      ∀ value, result = .ok value → post history value := by
  cases result with
  | ok value => exact ⟨fun holds => by rintro _ ⟨⟩; exact holds, fun holds => holds value rfl⟩
  | error error => exact ⟨nofun, fun _ => trivial⟩

theorem wp_mono (weaker : ∀ history value, post history value → post' history value)
    (holds : program.wp contract post history) : program.wp contract post' history := by
  induction program generalizing history with
  | done result =>
    cases result with
    | ok value => exact weaker history value holds
    | error error => trivial
  | call op next ih => exact ⟨holds.1, fun answer granted => ih answer (holds.2 answer granted)⟩

/-- Sequencing: the rest starts where the first part ends. -/
theorem wp_bind {rest : α → Program Answer ε β} {post : History Answer → β → Prop}
    (holds : program.wp contract (fun history value => (rest value).wp contract post history)
      history) : (program >>= rest).wp contract post history := by
  induction program generalizing history with
  | done result =>
    cases result with
    | ok value => exact holds
    | error error => trivial
  | call op next ih => exact ⟨holds.1, fun answer granted => ih answer (holds.2 answer granted)⟩

/-- The rest starts from what is known after the first part. -/
theorem wp_seq {rest : α → Program Answer ε β} {middle : History Answer → α → Prop}
    {post : History Answer → β → Prop} (first : program.wp contract middle history)
    (second : ∀ after value, middle after value → (rest value).wp contract post after) :
    (program >>= rest).wp contract post history :=
  wp_bind (wp_mono second first)

theorem wp_lift_bind (result : Except ε α) {rest : α → Program Answer ε β}
    {post : History Answer → β → Prop}
    (second : ∀ value, result = .ok value → (rest value).wp contract post history) :
    ((liftM result : Program Answer ε α) >>= rest).wp contract post history :=
  wp_bind ((wp_lift result).mpr second)

/-- A loop over a list keeps an invariant about the items that are left. -/
theorem wp_forM {ι : Type} {body : ι → Program Answer ε Unit}
    (invariant : List ι → History Answer → Prop)
    (step : ∀ item rest history, invariant (item :: rest) history →
      (body item).wp contract (fun history _ => invariant rest history) history)
    {items : List ι} (initial : invariant items history) :
    (items.forM body).wp contract (fun history _ => invariant [] history) history := by
  induction items generalizing history with
  | nil => exact initial
  | cons item rest ih =>
    apply wp_seq (step item rest history initial)
    intro after _ kept
    exact ih kept

end Rules

/-! ### Outcomes -/

/-- After the history, with answers of the kind that is granted, the program ends with a value
that meets the first condition or with an exception that meets the second. -/
def Ensures (grants : (op : Op) → Answer op → Prop) (returns : History Answer → α → Prop)
    (raises : History Answer → ε → Prop) : Program Answer ε α → History Answer → Prop
  | .done (.ok value), history => returns history value
  | .done (.error error), history => raises history error
  | .call op next, history => ∀ answer, grants op answer →
      (next answer).Ensures grants returns raises (history ++ [⟨op, answer⟩])

section Outcomes

variable {grants : (op : Op) → Answer op → Prop} {returns : History Answer → α → Prop}
  {raises : History Answer → ε → Prop} {history : History Answer} {program : Program Answer ε α}

/-- Sequencing: an exception of the first part is one of the whole. -/
theorem ensures_seq {rest : α → Program Answer ε β} {middle : History Answer → α → Prop}
    {returns : History Answer → β → Prop}
    (first : program.Ensures grants middle raises history)
    (second : ∀ after value, middle after value → (rest value).Ensures grants returns raises after) :
    (program >>= rest).Ensures grants returns raises history := by
  induction program generalizing history with
  | done result =>
    cases result with
    | ok value => exact second history value first
    | error error => exact first
  | call op next ih => exact fun answer granted => ih answer (first answer granted)

theorem ensures_lift_bind {result : Except ε α} {rest : α → Program Answer ε β}
    {returns : History Answer → β → Prop}
    (value : ∀ value, result = .ok value → (rest value).Ensures grants returns raises history)
    (error : ∀ error, result = .error error → raises history error) :
    ((liftM result : Program Answer ε α) >>= rest).Ensures grants returns raises history := by
  cases result with
  | ok v => exact value v rfl
  | error e => exact error e rfl

theorem ensures_ok_bind {result : Except ε α} {value : α} (computed : result = .ok value)
    {rest : α → Program Answer ε β} {returns : History Answer → β → Prop}
    (holds : (rest value).Ensures grants returns raises history) :
    ((liftM result : Program Answer ε α) >>= rest).Ensures grants returns raises history := by
  subst computed
  exact holds

/-- A loop keeps an invariant about the history. -/
theorem ensures_forM {ι : Type} {body : ι → Program Answer ε Unit}
    (invariant : History Answer → Prop)
    (step : ∀ item history, invariant history →
      (body item).Ensures grants (fun history _ => invariant history) raises history)
    {items : List ι} (initial : invariant history) :
    (items.forM body).Ensures grants (fun history _ => invariant history) raises history := by
  induction items generalizing history with
  | nil => exact initial
  | cons item rest ih =>
    apply ensures_seq (step item history initial)
    intro after _ kept
    exact ih kept

end Outcomes

/-! ### A party that answers -/

section Party

variable {σ : Type} (answers : σ → (op : Op) → Answer op → σ → Prop)

/-- What the party answers one call after the other. -/
inductive Reaches : σ → Program Answer ε α → σ → Program Answer ε α → Prop
  | refl (s : σ) (program : Program Answer ε α) : Reaches s program s program
  | step {s s' t : σ} {op : Op} {answer : Answer op} {next : Answer op → Program Answer ε α}
      {program : Program Answer ε α} (answered : answers s op answer s')
      (rest : Reaches s' (next answer) t program) : Reaches s (.call op next) t program

/-- Whatever the party answers, its state meets `waiting` at every call and the postcondition at
the end. -/
def Plays (waiting : σ → Prop) :
    Program Answer ε α → (σ → Except ε α → Prop) → σ → Prop
  | .done result, post, s => post s result
  | .call op next, post, s => waiting s ∧ ∀ answer s', answers s op answer s' →
      (next answer).Plays waiting post s'

/-- What the rest needs of how a first part ends. -/
def playsRest (waiting : σ → Prop) (rest : α → Program Answer ε β)
    (post : σ → Except ε β → Prop) (s : σ) : Except ε α → Prop
  | .ok value => (rest value).Plays answers waiting post s
  | .error error => post s (.error error)

variable {answers} {waiting : σ → Prop} {s s' : σ} {program program' : Program Answer ε α}
  {post post' : σ → Except ε α → Prop}

theorem Plays.reaches (plays : program.Plays answers waiting post s)
    (reached : Reaches answers s program s' program') : program'.Plays answers waiting post s' := by
  induction reached with
  | refl => exact plays
  | step answered _ ih => exact ih (plays.2 _ _ answered)

theorem Plays.waits {op : Op} {next : Answer op → Program Answer ε α}
    (plays : (call op next).Plays answers waiting post s) : waiting s := plays.1

theorem Plays.mono (plays : program.Plays answers waiting post s)
    (weaker : ∀ s result, post s result → post' s result) :
    program.Plays answers waiting post' s := by
  induction program generalizing s with
  | done result => exact weaker s result plays
  | call op next ih =>
    exact ⟨plays.1, fun answer s' answered => ih answer (plays.2 answer s' answered)⟩

theorem Plays.bind {rest : α → Program Answer ε β} {post : σ → Except ε β → Prop}
    (plays : program.Plays answers waiting (playsRest answers waiting rest post) s) :
    (program >>= rest).Plays answers waiting post s := by
  induction program generalizing s with
  | done result =>
    cases result with
    | ok value => exact plays
    | error error => exact plays
  | call op next ih =>
    exact ⟨plays.1, fun answer s' answered => ih answer (plays.2 answer s' answered)⟩

/-- Sequencing, from what is known of the first part. -/
theorem Plays.seq {rest : α → Program Answer ε β} {middle : σ → Except ε α → Prop}
    {post : σ → Except ε β → Prop} (first : program.Plays answers waiting middle s)
    (returns : ∀ s value, middle s (.ok value) → (rest value).Plays answers waiting post s)
    (raises : ∀ s error, middle s (.error error) → post s (.error error)) :
    (program >>= rest).Plays answers waiting post s := by
  refine Plays.bind (first.mono fun s result holds => ?_)
  cases result with
  | ok value => exact returns s value holds
  | error error => exact raises s error holds

theorem plays_ok_bind {result : Except ε α} {value : α} (computed : result = .ok value)
    {rest : α → Program Answer ε β} {post : σ → Except ε β → Prop}
    (plays : (rest value).Plays answers waiting post s) :
    ((liftM result : Program Answer ε α) >>= rest).Plays answers waiting post s := by
  subst computed
  exact plays

/-- The first calls, with an answer for each. -/
def serve (answer : σ → (op : Op) → Answer op × σ) :
    Nat → σ → Program Answer ε α → σ × Program Answer ε α
  | 0, s, program => (s, program)
  | _ + 1, s, .done result => (s, .done result)
  | calls + 1, s, .call op next =>
    let (reply, s') := answer s op
    serve answer calls s' (next reply)

theorem serve_reaches {answer : σ → (op : Op) → Answer op × σ}
    (sound : ∀ s op, answers s op (answer s op).1 (answer s op).2) (calls : Nat) (s : σ)
    (program : Program Answer ε α) :
    Reaches answers s program (serve answer calls s program).1 (serve answer calls s program).2 := by
  induction calls generalizing s program with
  | zero => exact .refl s program
  | succ calls ih =>
    cases program with
    | done result => exact .refl s _
    | call op next => exact .step (sound s op) (ih _ _)

def returned? : Program Answer ε α → Option α
  | .done (.ok value) => some value
  | _ => none

theorem eq_of_returned? {value : α} (returned : program.returned? = some value) :
    program = .done (.ok value) := by
  match program, returned with
  | .done (.ok _), rfl => rfl

theorem plays_trivial (program : Program Answer ε α) (s : σ) :
    program.Plays answers (fun _ => True) (fun _ _ => True) s := by
  induction program generalizing s with
  | done result => trivial
  | call op next ih => exact ⟨trivial, fun answer s' _ => ih answer s'⟩

end Party

/-! ### Parts of other programs -/

/-- How the program ends, for a handler. -/
def outcome {ε' : Type} : Program Answer ε α → Program Answer ε' (Except ε α)
  | .done result => .done (.ok result)
  | .call op next => .call op fun answer => (next answer).outcome

/-- The program with its calls among others. -/
def embed {Op' : Type} {Answer' : Op' → Type} (f : Op → Op')
    (back : (op : Op) → Answer' (f op) → Answer op) : Program Answer ε α → Program Answer' ε α
  | .done result => .done result
  | .call op next => .call (f op) fun answer => (next (back op answer)).embed f back

section Parts

variable {σ : Type} {answers : σ → (op : Op) → Answer op → σ → Prop} {waiting : σ → Prop} {s : σ}
  {program : Program Answer ε α}

/-- The handler goes on from how the program has ended. -/
theorem Plays.handled {ε' β : Type} {handler : Except ε α → Program Answer ε' β}
    {post : σ → Except ε' β → Prop}
    (plays : program.Plays answers waiting
      (fun s result => (handler result).Plays answers waiting post s) s) :
    (program.outcome >>= handler).Plays answers waiting post s := by
  induction program generalizing s with
  | done result => exact plays
  | call op next ih =>
    exact ⟨plays.1, fun answer s' answered => ih answer (plays.2 answer s' answered)⟩

/-- The party is a part of another one, which keeps something else. -/
theorem Plays.embed {Op' τ : Type} {Answer' : Op' → Type}
    {answers' : τ → (op : Op') → Answer' op → τ → Prop} {f : Op → Op'}
    {back : (op : Op) → Answer' (f op) → Answer op} (part : τ → σ) (frame : τ → Prop)
    {post : σ → Except ε α → Prop} {t : τ}
    (matched : ∀ t op answer t', frame t → answers' t (f op) answer t' →
      frame t' ∧ answers (part t) op (back op answer) (part t'))
    (kept : frame t) (plays : program.Plays answers waiting post (part t)) :
    (program.embed f back).Plays answers' (fun t => frame t ∧ waiting (part t))
      (fun t result => frame t ∧ post (part t) result) t := by
  induction program generalizing t with
  | done result => exact ⟨kept, plays⟩
  | call op next ih =>
    refine ⟨⟨kept, plays.1⟩, fun answer t' answered => ?_⟩
    obtain ⟨kept', answered'⟩ := matched t op answer t' kept answered
    exact ih (back op answer) kept' (plays.2 _ _ answered')

theorem Plays.weaken {waiting' : σ → Prop} {post : σ → Except ε α → Prop}
    (plays : program.Plays answers waiting post s) (weaker : ∀ s, waiting s → waiting' s) :
    program.Plays answers waiting' post s := by
  induction program generalizing s with
  | done result => exact plays
  | call op next ih =>
    exact ⟨weaker s plays.1, fun answer s' answered => ih answer (plays.2 answer s' answered)⟩

end Parts

/-! ### A program that follows another -/

section Follows

variable {ε' γ δ : Type} {σ : Type}

/-- The first program makes the calls of the second as long as it goes on; how it ends is matched
with what is left of the second. -/
inductive Follows (returns : α → Program Answer ε' β → Prop)
    (raises : ε → Program Answer ε' β → Prop) :
    Program Answer ε α → Program Answer ε' β → Prop
  | returned {value : α} {program : Program Answer ε' β} (related : returns value program) :
    Follows returns raises (.done (.ok value)) program
  | raised {error : ε} {program : Program Answer ε' β} (related : raises error program) :
    Follows returns raises (.done (.error error)) program
  | called (op : Op) {next : Answer op → Program Answer ε α} {next' : Answer op → Program Answer ε' β}
      (rest : ∀ answer, Follows returns raises (next answer) (next' answer)) :
    Follows returns raises (.call op next) (.call op next')

variable {returns : α → Program Answer ε' β → Prop} {raises : ε → Program Answer ε' β → Prop}
  {program : Program Answer ε α} {program' : Program Answer ε' β}

/-- Both go on in step, from values that are related. -/
theorem Follows.bind {related : α → β → Prop} {rest : α → Program Answer ε γ}
    {rest' : β → Program Answer ε' δ} {returns : γ → Program Answer ε' δ → Prop}
    {raises : ε → Program Answer ε' δ → Prop}
    (first : Follows (fun value left => ∃ value', left = .done (.ok value') ∧ related value value')
      (fun error left => raises error (left >>= rest')) program program')
    (second : ∀ value value', related value value' →
      Follows returns raises (rest value) (rest' value')) :
    Follows returns raises (program >>= rest) (program' >>= rest') := by
  induction first with
  | returned matched =>
    obtain ⟨value', rfl, matched⟩ := matched
    exact second _ _ matched
  | raised matched => exact .raised matched
  | called op _ ih => exact .called op ih

theorem Follows.mono {returns' : α → Program Answer ε' β → Prop}
    {raises' : ε → Program Answer ε' β → Prop} (follows : Follows returns raises program program')
    (weaker : ∀ value left, returns value left → returns' value left)
    (weaker' : ∀ error left, raises error left → raises' error left) :
    Follows returns' raises' program program' := by
  induction follows with
  | returned related => exact .returned (weaker _ _ related)
  | raised related => exact .raised (weaker' _ _ related)
  | called op _ ih => exact .called op ih

/-- What both compute without a call. -/
theorem Follows.lift {result : Except ε γ} {result' : Except ε' δ} {rest : γ → Program Answer ε α}
    {rest' : δ → Program Answer ε' β}
    (ok : ∀ value, result = .ok value →
      ∃ value', result' = .ok value' ∧ Follows returns raises (rest value) (rest' value'))
    (error : ∀ error, result = .error error →
      raises error ((liftM result' : Program Answer ε' δ) >>= rest')) :
    Follows returns raises ((liftM result : Program Answer ε γ) >>= rest)
      ((liftM result' : Program Answer ε' δ) >>= rest') := by
  cases result with
  | ok value =>
    obtain ⟨value', rfl, follows⟩ := ok value rfl
    exact follows
  | error e => exact .raised (error e rfl)

/-- What only the first computes. -/
theorem Follows.lift_left {result : Except ε γ} {rest : γ → Program Answer ε α}
    (ok : ∀ value, result = .ok value → Follows returns raises (rest value) program')
    (error : ∀ error, result = .error error → raises error program') :
    Follows returns raises ((liftM result : Program Answer ε γ) >>= rest) program' := by
  cases result with
  | ok value => exact ok value rfl
  | error e => exact .raised (error e rfl)

/-- What holds of the second holds of the first, if it allows for an exception at any time. -/
theorem Follows.plays {answers : σ → (op : Op) → Answer op → σ → Prop} {waiting : σ → Prop}
    {post : σ → Except ε' β → Prop} {post' : σ → Except ε α → Prop} {s : σ}
    (follows : Follows returns raises program program')
    (plays : program'.Plays answers waiting post s)
    (returned : ∀ s value left, returns value left → left.Plays answers waiting post s →
      post' s (.ok value))
    (raised : ∀ s error (left : Program Answer ε' β), left.Plays answers waiting post s →
      post' s (.error error)) : program.Plays answers waiting post' s := by
  induction follows generalizing s with
  | returned related => exact returned _ _ _ related plays
  | raised related => exact raised _ _ _ plays
  | called op _ ih =>
    exact ⟨plays.1, fun answer s' answered => ih answer (plays.2 answer s' answered)⟩

/-- The state of a party that answers both. -/
theorem Follows.reaches {answers : σ → (op : Op) → Answer op → σ → Prop} {s s' : σ}
    {left : Program Answer ε α} (follows : Follows returns raises program program')
    (reached : Reaches answers s program s' left) :
    ∃ left', Reaches answers s program' s' left' ∧ Follows returns raises left left' := by
  induction reached generalizing program' with
  | refl => exact ⟨program', .refl _ _, follows⟩
  | step answered _ ih =>
    cases follows with
    | called op rest =>
      obtain ⟨left', reached, follows⟩ := ih (rest _)
      exact ⟨left', .step answered reached, follows⟩

end Follows

end Program

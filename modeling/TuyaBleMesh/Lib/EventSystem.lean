import Mathlib.Data.List.Basic
import Mathlib.Tactic.TypeStar

/-!
# Systems driven by events

A system whose every choice (which party moves, what the environment answers)
is part of the event, so that one step is a partial function. A run is a list of
events; an invariant is proved once for one step and holds after every run.
-/

/-- `step s e = none` means that `e` cannot happen in `s`. -/
structure EventSystem (σ ε : Type*) where
  step : σ → ε → Option σ

namespace EventSystem

variable {σ ε : Type*} (S : EventSystem σ ε)

/-- The state after a whole run, when every event of it can happen in turn. -/
def exec : σ → List ε → Option σ
  | s, [] => some s
  | s, e :: es => (S.step s e).bind fun s' => exec s' es

@[simp] theorem exec_nil (s : σ) : S.exec s [] = some s := rfl

theorem exec_cons (s : σ) (e : ε) (es : List ε) :
    S.exec s (e :: es) = (S.step s e).bind fun s' => S.exec s' es := rfl

theorem exec_cons_iff (s t : σ) (e : ε) (es : List ε) :
    S.exec s (e :: es) = some t ↔ ∃ s', S.step s e = some s' ∧ S.exec s' es = some t := by
  rw [exec_cons, Option.bind_eq_some_iff]

theorem exec_append_iff (s t : σ) (es fs : List ε) :
    S.exec s (es ++ fs) = some t ↔ ∃ m, S.exec s es = some m ∧ S.exec m fs = some t := by
  induction es generalizing s with
  | nil => simp
  | cons e es ih =>
    simp only [List.cons_append, exec_cons_iff, ih]
    constructor
    · rintro ⟨s', first, m, middle, last⟩
      exact ⟨m, ⟨s', first, middle⟩, last⟩
    · rintro ⟨m, ⟨s', first, middle⟩, last⟩
      exact ⟨s', first, m, middle, last⟩

/-- Every event of the run meets `ok` in the state it happens in. -/
def Guarded (ok : σ → ε → Prop) : σ → List ε → Prop
  | _, [] => True
  | s, e :: es => ok s e ∧ ∀ s', S.step s e = some s' → Guarded ok s' es

/-- A run is checked by running it. -/
instance decidableGuarded (ok : σ → ε → Prop) [∀ s e, Decidable (ok s e)] :
    ∀ s es, Decidable (S.Guarded ok s es)
  | _, [] => isTrue trivial
  | s, e :: es =>
    match stepped : S.step s e with
    | none => decidable_of_iff (ok s e)
        ⟨fun guard => ⟨guard, fun s' next => by rw [stepped] at next; cases next⟩, And.left⟩
    | some s' =>
      have := decidableGuarded ok s' es
      decidable_of_iff (ok s e ∧ S.Guarded ok s' es)
        ⟨fun ⟨guard, rest⟩ => ⟨guard, fun t next => by rw [stepped] at next; cases next; exact rest⟩,
          fun guarded => ⟨guarded.1, guarded.2 s' stepped⟩⟩

theorem guarded_of_all {ok : σ → ε → Prop} {es : List ε} (all : ∀ e ∈ es, ∀ s, ok s e) (s : σ) :
    S.Guarded ok s es := by
  induction es generalizing s with
  | nil => trivial
  | cons e es ih =>
    refine ⟨all e List.mem_cons_self s, fun s' _ => ?_⟩
    exact ih (fun e' member => all e' (List.mem_cons_of_mem e member)) s'

/-- Invariant rule: what guarded steps preserve holds at the end of every guarded run. -/
theorem exec_invariant {ok : σ → ε → Prop} (I : σ → Prop)
    (preserved : ∀ s e s', I s → ok s e → S.step s e = some s' → I s')
    {s t : σ} {es : List ε} (initial : I s) (guarded : S.Guarded ok s es)
    (ran : S.exec s es = some t) : I t := by
  induction es generalizing s with
  | nil =>
    cases ran
    exact initial
  | cons e es ih =>
    obtain ⟨s', first, rest⟩ := (S.exec_cons_iff s t e es).mp ran
    exact ih (preserved s e s' initial guarded.1 first) (guarded.2 s' first) rest

theorem exec_invariant_of_step (I : σ → Prop)
    (preserved : ∀ s e s', I s → S.step s e = some s' → I s')
    {s t : σ} {es : List ε} (initial : I s) (ran : S.exec s es = some t) : I t := by
  have unguarded : S.Guarded (fun _ _ => True) s es :=
    S.guarded_of_all (fun _ _ _ => trivial) s
  apply S.exec_invariant I _ initial unguarded ran
  intro m e m' inv _ stepped
  exact preserved m e m' inv stepped

/-- Invariant rule with the events so far. -/
theorem exec_history {ok : σ → ε → Prop} (I : List ε → σ → Prop)
    (preserved : ∀ es s e s', I es s → ok s e → S.step s e = some s' → I (es ++ [e]) s')
    {s t : σ} {es : List ε} (initial : I [] s) (guarded : S.Guarded ok s es)
    (ran : S.exec s es = some t) : I es t := by
  have along : ∀ past, I past s → I (past ++ es) t := by
    clear initial
    induction es generalizing s with
    | nil =>
      intro past reached
      cases ran
      rwa [List.append_nil]
    | cons e es ih =>
      intro past reached
      obtain ⟨s', first, rest⟩ := (S.exec_cons_iff s t e es).mp ran
      have next := ih (guarded.2 s' first) rest (past ++ [e])
        (preserved past s e s' reached guarded.1 first)
      rwa [List.append_assoc] at next
  exact along [] initial

/-- Along a run that happens, a guard may be traded for another one that it implies wherever
the invariant holds. -/
theorem Guarded.along {ok ok' : σ → ε → Prop} (I : σ → Prop)
    (preserved : ∀ s e s', I s → ok s e → S.step s e = some s' → I s')
    (implied : ∀ s e s', I s → ok s e → S.step s e = some s' → ok' s e) {s t : σ} {es : List ε}
    (initial : I s) (ran : S.exec s es = some t) (guarded : S.Guarded ok s es) :
    S.Guarded ok' s es := by
  induction es generalizing s with
  | nil => trivial
  | cons e es ih =>
    obtain ⟨m, first, rest⟩ := (S.exec_cons_iff s t e es).mp ran
    refine ⟨implied s e m initial guarded.1 first, fun s' next => ?_⟩
    rw [first] at next
    cases next
    exact ih (preserved s e m initial guarded.1 first) rest (guarded.2 m first)

/-- A guard may be traded for another one that it implies on the events of the run. -/
theorem Guarded.weaken {ok ok' : σ → ε → Prop} {es : List ε} {s : σ}
    (weaker : ∀ e ∈ es, ∀ s, ok s e → ok' s e) (guarded : S.Guarded ok s es) :
    S.Guarded ok' s es := by
  induction es generalizing s with
  | nil => trivial
  | cons e es ih =>
    constructor
    · exact weaker e List.mem_cons_self s guarded.1
    · intro s' next
      apply ih
      · intro e' member
        exact weaker e' (List.mem_cons_of_mem e member)
      · exact guarded.2 s' next

theorem Guarded.and {ok ok' : σ → ε → Prop} {es : List ε} {s : σ} (first : S.Guarded ok s es)
    (second : S.Guarded ok' s es) : S.Guarded (fun s e => ok s e ∧ ok' s e) s es := by
  induction es generalizing s with
  | nil => trivial
  | cons e es ih =>
    exact ⟨⟨first.1, second.1⟩, fun s' next => ih (first.2 s' next) (second.2 s' next)⟩

theorem Guarded.append {ok : σ → ε → Prop} {s : σ} {es fs : List ε}
    (first : S.Guarded ok s es) (second : ∀ m, S.exec s es = some m → S.Guarded ok m fs) :
    S.Guarded ok s (es ++ fs) := by
  induction es generalizing s with
  | nil => exact second s rfl
  | cons e es ih =>
    refine ⟨first.1, fun s' next => ih (first.2 s' next) ?_⟩
    intro m reached
    apply second
    rw [exec_cons, next, Option.bind_some, reached]

/-- A step somewhere in a run: the run up to it and the step itself. -/
def StepOf (s : σ) (es : List ε) (m : σ) (e : ε) (m' : σ) : Prop :=
  ∃ before after, es = before ++ e :: after ∧ S.exec s before = some m ∧ S.step m e = some m'

theorem Guarded.append_left {ok : σ → ε → Prop} {s : σ} {es fs : List ε}
    (guarded : S.Guarded ok s (es ++ fs)) : S.Guarded ok s es := by
  induction es generalizing s with
  | nil => trivial
  | cons e es ih => exact ⟨guarded.1, fun s' next => ih (guarded.2 s' next)⟩

theorem Guarded.at_step {ok : σ → ε → Prop} {s m : σ} {e : ε} {es fs : List ε}
    (guarded : S.Guarded ok s (es ++ e :: fs)) (reached : S.exec s es = some m) : ok m e := by
  induction es generalizing s with
  | nil =>
    cases reached
    exact guarded.1
  | cons e' es ih =>
    obtain ⟨s', first, rest⟩ := (S.exec_cons_iff s m e' es).mp reached
    exact ih (guarded.2 s' first) rest

/-- A run is guarded when every event of it meets `ok` in the state it happens in. -/
theorem guarded_of_steps {ok : σ → ε → Prop} {s : σ} {es : List ε}
    (all : ∀ before e after m, es = before ++ e :: after → S.exec s before = some m → ok m e) :
    S.Guarded ok s es := by
  induction es generalizing s with
  | nil => trivial
  | cons e es ih =>
    refine ⟨all [] e es s rfl rfl, fun s' next => ih fun before e' after m split reached => ?_⟩
    apply all (e :: before) e' after m (by rw [split, List.cons_append])
    rw [exec_cons, next, Option.bind_some, reached]

/-- Invariant rule at a step inside a guarded run: the invariant before it, and its guard. -/
theorem StepOf.invariant {ok : σ → ε → Prop} (I : σ → Prop)
    (preserved : ∀ s e s', I s → ok s e → S.step s e = some s' → I s')
    {s m m' : σ} {e : ε} {es : List ε} (initial : I s) (guarded : S.Guarded ok s es)
    (occurs : S.StepOf s es m e m') : I m ∧ ok m e := by
  obtain ⟨before, after, rfl, reached, _⟩ := occurs
  exact ⟨S.exec_invariant I preserved initial (Guarded.append_left S guarded) reached,
    Guarded.at_step S guarded reached⟩

/-- Forward simulation: when every step of one system is matched by a step of another, so
is every run. -/
theorem exec_simulates {τ δ : Type*} (T : EventSystem τ δ) (R : σ → τ → Prop)
    (matched : ∀ s e s' t, R s t → S.step s e = some s' → ∃ d t', T.step t d = some t' ∧ R s' t')
    {s s' : σ} {t : τ} {es : List ε} (ran : S.exec s es = some s') (related : R s t) :
    ∃ ds t', T.exec t ds = some t' ∧ R s' t' := by
  induction es generalizing s t with
  | nil =>
    cases ran
    exact ⟨[], t, rfl, related⟩
  | cons e es ih =>
    obtain ⟨m, first, rest⟩ := (S.exec_cons_iff s s' e es).mp ran
    obtain ⟨d, n, step, related'⟩ := matched s e m t related first
    obtain ⟨ds, t', run, final⟩ := ih rest related'
    exact ⟨d :: ds, t', (T.exec_cons_iff t t' d ds).mpr ⟨n, step, run⟩, final⟩

end EventSystem

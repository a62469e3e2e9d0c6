import Mathlib.Algebra.Order.Ring.Rat
import Mathlib.Tactic.Linarith

/-!
# A timer that is started again

A timer is set to a time or not, and each call that comes before it has run out sets it
anew. What it starts lasts for a while, and should not be disturbed by calls either.
-/

/-- The first event comes no later than the second one; `none` is an event that never comes. -/
def NoLater (first second : Option Rat) : Prop := ∀ t ∈ second, ∃ t' ∈ first, t' ≤ t

theorem NoLater.refl (first : Option Rat) : NoLater first first := fun t is => ⟨t, is, le_refl t⟩

theorem noLater_some {first : Option Rat} {t : Rat} :
    NoLater first (some t) ↔ ∃ t' ∈ first, t' ≤ t :=
  ⟨fun noLater => noLater t rfl, fun ⟨t', is, le⟩ _ same => Option.some.inj same ▸ ⟨t', is, le⟩⟩

/-- Where the second event never comes by itself, nothing is late. -/
theorem noLater_merge_none (others first : Option Rat) :
    NoLater (others.merge min first) (others.merge min none) := by
  cases others with
  | none => exact nofun
  | some other =>
    rw [Option.merge_none_right, noLater_some]
    cases first with
    | none => exact ⟨other, rfl, le_refl other⟩
    | some time => exact ⟨min other time, rfl, min_le_left other time⟩

/-- Beside other events it suffices that one of them comes first. -/
theorem noLater_merge {others first : Option Rat} {t : Rat} :
    NoLater (others.merge min first) (others.merge min (some t)) ↔
      (∃ other ∈ others, other ≤ t) ∨ NoLater first (some t) := by
  cases others with
  | none => simp
  | some other =>
    rw [Option.merge, noLater_some, noLater_some]
    by_cases before : other ≤ t
    · rw [min_eq_left before]
      refine iff_of_true ?_ (.inl ⟨other, rfl, before⟩)
      cases first with
      | none => exact ⟨other, rfl, le_refl other⟩
      | some time => exact ⟨min other time, rfl, min_le_left other time⟩
    · rw [min_eq_right (le_of_lt (lt_of_not_ge before))]
      cases first with
      | none => simp [before]
      | some time => simp [before]

/-- When a timer runs out that is set to a time, or not. A call sets it to `delay` from then, or
stops it. -/
def firesAt (delay : Option Rat) : (start : Option Rat) → (calls : List Rat) → Option Rat
  | start, [] => start
  | none, call :: calls => firesAt delay (delay.map (call + ·)) calls
  | some start, call :: calls =>
    if start ≤ call then some start else firesAt delay (delay.map (call + ·)) calls

/-- The times of the calls, in their order. -/
abbrev Ordered (calls : List Rat) : Prop := calls.Pairwise (· ≤ ·)

/-- The first call after which there is silence for the delay; there is silence for as long again as
what the timer starts. -/
structure Settles (d lasts : Rat) (calls : List Rat) (call : Rat) : Prop where
  called : call ∈ calls
  earlier : ∀ other ∈ calls, other < call → ∃ next ∈ calls, other < next ∧ next < other + d
  silence : ∀ other ∈ calls, other ≤ call ∨ call + d + lasts ≤ other

/-- The calls all come when it is over; or the timer was started again in time, and the calls have
settled. -/
def Harmless (delay others : Option Rat) (lasts : Rat) (start : Option Rat) (calls : List Rat) :
    Prop :=
  match start with
  | none => calls = [] ∨ ∀ d ∈ delay, ∃ call, Settles d lasts calls call
  | some start =>
    (∀ call ∈ calls, start + lasts ≤ call) ∨ (∃ call ∈ calls, call < start) ∧
      match delay with
      | none => ∃ other ∈ others, other ≤ start
      | some d => ∃ call, Settles d lasts calls call ∧
          ((∃ other ∈ others, other ≤ start) ∨ call + d ≤ start)

section

variable {delay others : Option Rat} {start d lasts call call' : Rat} {calls : List Rat}

theorem firesAt_late (late : ∀ call ∈ calls, start ≤ call) :
    firesAt delay (some start) calls = some start := by
  cases calls with
  | nil => rfl
  | cons call calls => exact if_pos (late call List.mem_cons_self)

theorem firesAt_stopped : firesAt none none calls = none := by
  induction calls with
  | nil => rfl
  | cons call calls ih => exact ih

theorem Settles.mono {shorter : Rat} (settles : Settles d lasts calls call)
    (less : shorter ≤ lasts) : Settles d shorter calls call where
  called := settles.called
  earlier := settles.earlier
  silence other member := (settles.silence other member).imp_right (le_trans (by linarith))

theorem Settles.unique (one : Settles d 0 calls call) (two : Settles d 0 calls call') :
    call = call' := by
  have upTo : ∀ {first second}, Settles d 0 calls first → Settles d 0 calls second →
      second ≤ first := by
    intro first second one two
    by_contra later
    obtain ⟨next, member, after, soon⟩ :=
      two.earlier first one.called (lt_of_not_ge later)
    rcases one.silence next member with before | silent
    · exact absurd before (not_le_of_gt after)
    · linarith
  exact le_antisymm (upTo two one) (upTo one two)

/-- After a call, the timer runs out behind the first call that is followed by silence. -/
theorem firesAt_settles (ordered : Ordered (call :: calls)) :
    ∃ last, Settles d 0 (call :: calls) last ∧
      firesAt (some d) (some (call + d)) calls = some (last + d) := by
  induction calls generalizing call with
  | nil =>
    refine ⟨call, ⟨List.mem_cons_self, ?_, ?_⟩, rfl⟩
    · intro other member before
      rw [List.mem_singleton.mp member] at before
      exact absurd before (lt_irrefl call)
    · intro other member
      exact .inl (le_of_eq (List.mem_singleton.mp member))
  | cons next calls ih =>
    have later : ∀ other ∈ next :: calls, call ≤ other := fun _ => List.rel_of_pairwise_cons ordered
    have ordered' := List.Pairwise.of_cons ordered
    by_cases silent : call + d ≤ next
    · -- the first call is the one, as all others are at or after the next one
      refine ⟨call, ⟨List.mem_cons_self, ?_, ?_⟩, if_pos silent⟩
      · intro other member before
        rcases List.mem_cons.mp member with rfl | member
        · exact absurd before (lt_irrefl other)
        · exact absurd before (not_lt_of_ge (later other member))
      · intro other member
        rcases List.mem_cons.mp member with rfl | member
        · exact .inl (le_refl other)
        · right
          rw [add_zero]
          rcases List.mem_cons.mp member with rfl | member
          · exact silent
          · exact le_trans silent (List.rel_of_pairwise_cons ordered' member)
    · obtain ⟨last, settles, fires⟩ := ih ordered'
      have soon : next < call + d := lt_of_not_ge silent
      refine ⟨last, ⟨List.mem_cons_of_mem call settles.called, ?_, ?_⟩, ?_⟩
      · intro other member before
        by_cases among : other ∈ next :: calls
        · obtain ⟨following, inside, between⟩ := settles.earlier other among before
          exact ⟨following, List.mem_cons_of_mem call inside, between⟩
        · -- the first call, and the next one comes at another time
          have first : other = call := (List.mem_cons.mp member).resolve_right among
          subst first
          have apart : other ≠ next := fun same => among (same ▸ List.mem_cons_self)
          exact ⟨next, List.mem_cons_of_mem other List.mem_cons_self,
            lt_of_le_of_ne (later next List.mem_cons_self) apart, soon⟩
      · intro other member
        rcases List.mem_cons.mp member with rfl | member
        · exact .inl (later last settles.called)
        · exact settles.silence other member
      · rw [firesAt, if_neg silent]
        exact fires

/-- A timer that a call has started again runs out after the call. -/
theorem firesAt_after (positive : ∀ d ∈ delay, 0 < d) (ordered : Ordered (call :: calls)) :
    ∀ time ∈ firesAt delay (delay.map (call + ·)) calls, call < time := by
  cases delay with
  | none =>
    rw [Option.map_none, firesAt_stopped]
    exact nofun
  | some d =>
    obtain ⟨last, settles, fires⟩ := firesAt_settles (d := d) ordered
    have later : call ≤ last := by
      rcases List.mem_cons.mp settles.called with rfl | member
      · exact le_refl last
      · exact List.rel_of_pairwise_cons ordered member
    rw [Option.map_some, fires]
    rintro _ ⟨⟩
    linarith [positive d rfl]

/-- When the timer runs out that a call has started again, and when what it starts then is not
disturbed. -/
theorem firesAt_restarted (positive : 0 < d) (long : 0 ≤ lasts)
    (ordered : Ordered (call :: calls)) :
    ∃ last, firesAt (some d) (some (call + d)) calls = some (last + d) ∧
      (∀ other, Settles d lasts (call :: calls) other → other = last) ∧
      ((∀ other ∈ call :: calls, other < last + d ∨ last + d + lasts ≤ other) ↔
        Settles d lasts (call :: calls) last) := by
  obtain ⟨last, settles, fires⟩ := firesAt_settles (d := d) ordered
  refine ⟨last, fires, fun other longer => (longer.mono long).unique settles, ?_, ?_⟩
  · intro undisturbed
    refine ⟨settles.called, settles.earlier, fun other member => ?_⟩
    rcases undisturbed other member with before | after
    · rcases settles.silence other member with le | silent
      · exact .inl le
      · linarith
    · exact .inr after
  · intro longer other member
    rcases longer.silence other member with le | silent
    · exact .inl (by linarith)
    · exact .inr silent

/-- What the calls do to the timer, and to what it starts. -/
def Spares (delay others : Option Rat) (lasts : Rat) (start : Option Rat) (calls : List Rat) : Prop :=
  NoLater (others.merge min (firesAt delay start calls)) (others.merge min start) ∧
    ∀ time ∈ firesAt delay start calls, ∀ call ∈ calls, call < time ∨ time + lasts ≤ call

/-- Without a timer nothing can be late, but the calls set one. -/
theorem spares_none_iff (positive : ∀ d ∈ delay, 0 < d) (long : 0 ≤ lasts) (ordered : Ordered calls) :
    Spares delay others lasts none calls ↔ Harmless delay others lasts none calls := by
  rw [Spares, and_iff_right (noLater_merge_none others _)]
  cases calls with
  | nil => simp [Harmless, firesAt]
  | cons call calls =>
    rw [firesAt]
    cases delay with
    | none => simp [Harmless, firesAt_stopped]
    | some d =>
      obtain ⟨last, fires, same, undisturbed⟩ := firesAt_restarted (positive d rfl) long ordered
      have found : (∃ call', Settles d lasts (call :: calls) call') ↔
          Settles d lasts (call :: calls) last :=
        ⟨fun ⟨other, settles⟩ => same other settles ▸ settles, fun settles => ⟨last, settles⟩⟩
      rw [Option.map_some, fires]
      simpa [Harmless, found] using undisturbed

/-- The calls come when the timer has run out, and can only disturb what it starts. -/
theorem spares_late_iff (late : ∀ call ∈ calls, start ≤ call) :
    Spares delay others lasts (some start) calls ↔ ∀ call ∈ calls, start + lasts ≤ call := by
  rw [Spares, firesAt_late late]
  constructor
  · rintro ⟨-, undisturbed⟩ call member
    exact (undisturbed start rfl call member).resolve_left (not_lt_of_ge (late call member))
  · intro finished
    refine ⟨noLater_merge.mpr (.inr (NoLater.refl _)), ?_⟩
    rintro _ ⟨⟩ call member
    exact .inr (finished call member)

/-- The first call comes before the timer has run out. -/
theorem spares_early_iff (positive : ∀ d ∈ delay, 0 < d) (long : 0 ≤ lasts)
    (ordered : Ordered (call :: calls)) (early : call < start) :
    Spares delay others lasts (some start) (call :: calls) ↔
      Harmless delay others lasts (some start) (call :: calls) := by
  have before : ∃ call' ∈ call :: calls, call' < start := ⟨call, List.mem_cons_self, early⟩
  have notOver : ¬∀ call' ∈ call :: calls, start + lasts ≤ call' := by
    intro finished
    have after := finished call List.mem_cons_self
    linarith
  rw [Spares, noLater_merge, firesAt, if_neg (not_le_of_gt early)]
  simp only [Harmless, notOver, before, false_or, true_and]
  cases delay with
  | none =>
    -- the timer is stopped, and only another event can be in time
    simp [firesAt_stopped, noLater_some]
  | some d =>
    obtain ⟨last, fires, same, undisturbed⟩ := firesAt_restarted (positive d rfl) long ordered
    rw [Option.map_some, fires]
    simp only [Option.mem_some_iff, forall_eq', undisturbed, noLater_some, exists_eq_left']
    constructor
    · rintro ⟨sooner, settles⟩
      exact ⟨last, settles, sooner⟩
    · rintro ⟨other, settles, sooner⟩
      rw [same other settles] at sooner settles
      exact ⟨sooner, settles⟩

theorem spares_iff {start : Option Rat} (positive : ∀ d ∈ delay, 0 < d) (long : 0 ≤ lasts)
    (ordered : Ordered calls) :
    Spares delay others lasts start calls ↔ Harmless delay others lasts start calls := by
  cases start with
  | none => exact spares_none_iff positive long ordered
  | some start =>
    by_cases late : ∀ call ∈ calls, start ≤ call
    · have never : ¬∃ call ∈ calls, call < start := by
        rintro ⟨call, member, early⟩
        exact not_le_of_gt early (late call member)
      rw [spares_late_iff late]
      simp only [Harmless, never, false_and, or_false]
    · cases calls with
      | nil => exact absurd nofun late
      | cons call calls =>
        -- if the first call came late, so would the others
        have early : call < start := by
          by_contra after
          apply late
          intro other member
          rcases List.mem_cons.mp member with rfl | member
          · exact le_of_not_gt after
          · exact le_trans (le_of_not_gt after) (List.rel_of_pairwise_cons ordered member)
        exact spares_early_iff positive long ordered early

end

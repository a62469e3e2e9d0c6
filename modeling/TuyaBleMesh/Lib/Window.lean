import Mathlib.Algebra.Order.Ring.Rat
import Mathlib.Tactic.Linarith
import TuyaBleMesh.Lib.OrderedDict

/-!
# Messages in fragments, collected within a time window

What a receiver of fragmented messages has to deliver, as a function of the
fragments it has received. A window opens with the first fragment of a message
and is open for `timeout`. A message is due when the fragment that fills its
window arrives, and every history is latest first.
-/

/-- The arrival of fragment `index` of a message. -/
structure Fragment (μ ν : Type*) where
  time : Rat
  message : μ
  index : Nat
  data : ν

structure Window (ν : Type*) where
  start : Rat
  fragments : OrderedDict Nat ν

namespace Window

variable {μ ν : Type*}

instance [DecidableEq ν] : DecidableEq (Window ν) := fun w w' =>
  decidable_of_iff (w.start = w'.start ∧ w.fragments = w'.fragments)
    ⟨fun ⟨start, fragments⟩ => by cases w; cases w'; cases start; cases fragments; rfl,
      fun same => ⟨congrArg start same, congrArg fragments same⟩⟩

def add (w : Window ν) (f : Fragment μ ν) : Window ν :=
  { w with fragments := w.fragments.set f.index f.data }

/-- The window that `f` falls into: one that is over starts anew. -/
def extend (timeout : Rat) (opened : Option (Window ν)) (f : Fragment μ ν) : Window ν :=
  match opened with
  | some w => if f.time - w.start ≤ timeout then w.add f else add ⟨f.time, .empty⟩ f
  | none => add ⟨f.time, .empty⟩ f

/-- All of the fragments `0..n-1` are there. -/
def Full (w : Window ν) (n : Nat) : Prop := ∀ i < n, i ∈ w.fragments.keys

instance (w : Window ν) (n : Nat) : Decidable (w.Full n) :=
  inferInstanceAs (Decidable (∀ i < n, i ∈ w.fragments.keys))

theorem mem_keys_add {w : Window ν} {f : Fragment μ ν} {i : Nat} :
    i ∈ (w.add f).fragments.keys ↔ i = f.index ∨ i ∈ w.fragments.keys :=
  OrderedDict.mem_keys_set

end Window

section Spec

variable {μ ν : Type*} [DecidableEq μ] (count : μ → Nat) (timeout : Rat)

/-- The window of `m` that is open after a history. Indices beyond the message are no part
of it. -/
def openWindow : List (Fragment μ ν) → μ → Option (Window ν)
  | [], _ => none
  | f :: earlier, m =>
    if f.message = m ∧ f.index < count m then
      let w := Window.extend timeout (openWindow earlier m) f
      -- a full window is delivered and closed
      if w.Full (count m) then none else some w
    else openWindow earlier m

/-- The messages due in a history, each with the window that it fills. -/
def due : List (Fragment μ ν) → List (μ × Window ν)
  | [] => []
  | f :: earlier =>
    let w := Window.extend timeout (openWindow count timeout earlier f.message) f
    if f.index < count f.message ∧ w.Full (count f.message) then
      (f.message, w) :: due earlier
    else due earlier

/-! ### Where the fragments of a window come from -/

/-- No fragment is earlier than the ones received before it. -/
def Chronological (history : List (Fragment μ ν)) : Prop :=
  history.Pairwise fun later earlier => earlier.time ≤ later.time

/-- `w` holds fragments of `m` out of the history, all received while it was open. -/
structure Window.CollectedFrom (w : Window ν) (m : μ) (history : List (Fragment μ ν)) : Prop where
  below : ∀ i ∈ w.fragments.keys, i < count m
  started : ∃ f ∈ history, f.time = w.start
  received : ∀ i data, w.fragments.get? i = some data → ∃ f ∈ history,
    f.message = m ∧ f.index = i ∧ f.data = data ∧ w.start ≤ f.time ∧ f.time - w.start ≤ timeout

variable {count timeout} {m : μ} {f : Fragment μ ν} {history : List (Fragment μ ν)}

theorem openWindow_cons_of_ne (other : f.message ≠ m) :
    openWindow count timeout (f :: history) m = openWindow count timeout history m := by
  rw [openWindow, if_neg fun own => other own.1]

theorem openWindow_cons (inside : f.index < count f.message) :
    openWindow count timeout (f :: history) f.message =
      let w := Window.extend timeout (openWindow count timeout history f.message) f
      if w.Full (count f.message) then none else some w := by
  rw [openWindow, if_pos ⟨rfl, inside⟩]

omit [DecidableEq μ] in
theorem Window.CollectedFrom.mono {w : Window ν}
    (collected : w.CollectedFrom count timeout m history) :
    w.CollectedFrom count timeout m (f :: history) where
  below := collected.below
  started := by
    obtain ⟨first, member, time⟩ := collected.started
    exact ⟨first, List.mem_cons_of_mem f member, time⟩
  received i data found := by
    obtain ⟨source, member, rest⟩ := collected.received i data found
    exact ⟨source, List.mem_cons_of_mem f member, rest⟩

omit [DecidableEq μ] in
/-- A window that `f` still falls into, and that started no later, takes it up. -/
private theorem collectedFrom_add {w : Window ν} (inside : f.index < count f.message)
    (below : ∀ i ∈ w.fragments.keys, i < count f.message)
    (started : ∃ g ∈ f :: history, g.time = w.start)
    (received : ∀ i data, w.fragments.get? i = some data → ∃ g ∈ history,
      g.message = f.message ∧ g.index = i ∧ g.data = data ∧ w.start ≤ g.time ∧
        g.time - w.start ≤ timeout)
    (after : w.start ≤ f.time) (within : f.time - w.start ≤ timeout) :
    (w.add f).CollectedFrom count timeout f.message (f :: history) where
  below i member := by
    rcases Window.mem_keys_add.mp member with rfl | before
    · exact inside
    · exact below i before
  started := started
  received i data found := by
    rw [Window.add, OrderedDict.get?_set] at found
    split at found
    · next same =>
      cases found
      exact ⟨f, List.mem_cons_self, rfl, same.symm, rfl, after, within⟩
    · obtain ⟨g, member, rest⟩ := received i data found
      exact ⟨g, List.mem_cons_of_mem f member, rest⟩

omit [DecidableEq μ] in
theorem collectedFrom_extend (positive : 0 ≤ timeout) (inside : f.index < count f.message)
    (chronological : Chronological (f :: history)) {opened : Option (Window ν)}
    (collected : ∀ w, opened = some w → w.CollectedFrom count timeout f.message history) :
    (Window.extend timeout opened f).CollectedFrom count timeout f.message (f :: history) := by
  have fresh : (Window.add ⟨f.time, .empty⟩ f).CollectedFrom count timeout f.message
      (f :: history) := by
    apply collectedFrom_add inside
    · intro i member
      cases member
    · exact ⟨f, List.mem_cons_self, rfl⟩
    · intro i data found
      cases found
    · exact le_refl f.time
    · simpa using positive
  cases opened with
  | none => exact fresh
  | some w =>
    obtain ⟨below, ⟨first, member, start⟩, received⟩ := collected w rfl
    unfold Window.extend
    dsimp only
    split
    · next within =>
      -- the window started with a fragment received earlier
      have after : w.start ≤ f.time := by
        rw [← start]
        exact (List.pairwise_cons.mp chronological).1 first member
      exact collectedFrom_add inside below ⟨first, List.mem_cons_of_mem f member, start⟩ received
        after within
    · exact fresh

theorem openWindow_collectedFrom (positive : 0 ≤ timeout) {w : Window ν}
    (chronological : Chronological history)
    (opened : openWindow count timeout history m = some w) :
    w.CollectedFrom count timeout m history := by
  induction history generalizing w with
  | nil => cases opened
  | cons f earlier ih =>
    have before := (List.pairwise_cons.mp chronological).2
    rw [openWindow] at opened
    split at opened
    · next own =>
      obtain ⟨rfl, inside⟩ := own
      dsimp only at opened
      split at opened
      · cases opened
      · cases opened
        exact collectedFrom_extend positive inside chronological fun w => ih before
    · exact (ih before opened).mono

/-- What is due is whole, and was received while one window was open. -/
theorem due_collectedFrom (positive : 0 ≤ timeout) {w : Window ν}
    (chronological : Chronological history) (member : (m, w) ∈ due count timeout history) :
    w.Full (count m) ∧ w.CollectedFrom count timeout m history := by
  induction history with
  | nil => cases member
  | cons f earlier ih =>
    have before := (List.pairwise_cons.mp chronological).2
    have earlier' : (m, w) ∈ due count timeout earlier →
        w.Full (count m) ∧ w.CollectedFrom count timeout m (f :: earlier) := by
      intro member
      obtain ⟨full, collected⟩ := ih before member
      exact ⟨full, collected.mono⟩
    rw [due] at member
    split at member
    · next filled =>
      rcases List.mem_cons.mp member with new | member
      · cases new
        exact ⟨filled.2, collectedFrom_extend positive filled.1 chronological fun w =>
          openWindow_collectedFrom positive before⟩
      · exact earlier' member
    · exact earlier' member

/-! ### Every message is due -/

theorem openWindow_not_full {w : Window ν} (opened : openWindow count timeout history m = some w) :
    ¬ w.Full (count m) := by
  induction history with
  | nil => cases opened
  | cons f earlier ih =>
    rw [openWindow] at opened
    split at opened
    · dsimp only at opened
      split at opened
      · cases opened
      · next notFull =>
        cases opened
        exact notFull
    · exact ih opened

/-- The window of `m` started no earlier than `first` and holds every index in `newer`. -/
private def Collecting (count : μ → Nat) (timeout : Rat) (m : μ) (first : Rat)
    (newer older : List (Fragment μ ν)) : Prop :=
  (∀ w, openWindow count timeout (newer ++ older) m = some w → first ≤ w.start) ∧
    ∀ f ∈ newer, f.message = m → f.index < count m →
      ∃ w, openWindow count timeout (newer ++ older) m = some w ∧ f.index ∈ w.fragments.keys

private theorem collecting_cons_of_ne {newer older : List (Fragment μ ν)} {first : Rat}
    (collecting : Collecting count timeout m first newer older)
    (foreign : ¬ (f.message = m ∧ f.index < count m)) :
    Collecting count timeout m first (f :: newer) older := by
  have same : openWindow count timeout (f :: newer ++ older) m =
      openWindow count timeout (newer ++ older) m := by
    rw [List.cons_append, openWindow, if_neg foreign]
  rw [Collecting, same]
  refine ⟨collecting.1, fun g member own inside => ?_⟩
  rcases List.mem_cons.mp member with rfl | member
  · exact absurd ⟨own, inside⟩ foreign
  · exact collecting.2 g member own inside

omit [DecidableEq μ] in
/-- A fragment within `timeout` of `first` falls into the open window. -/
private theorem extend_collecting {opened : Option (Window ν)} {first : Rat}
    (started : ∀ w, opened = some w → first ≤ w.start) (after : first ≤ f.time)
    (within : f.time - first ≤ timeout) :
    first ≤ (Window.extend timeout opened f).start ∧
      ∀ w, opened = some w → Window.extend timeout opened f = w.add f := by
  cases opened with
  | none => exact ⟨after, fun w absent => by cases absent⟩
  | some w =>
    have start := started w rfl
    have inside : f.time - w.start ≤ timeout := by linarith
    have extended : Window.extend timeout (some w) f = w.add f := if_pos inside
    rw [extended]
    refine ⟨start, ?_⟩
    rintro _ ⟨⟩
    rfl

omit [DecidableEq μ] in
private theorem index_mem_extend (opened : Option (Window ν)) :
    f.index ∈ (Window.extend timeout opened f).fragments.keys := by
  unfold Window.extend
  split
  · split <;> exact Window.mem_keys_add.mpr (.inl rfl)
  · exact Window.mem_keys_add.mpr (.inl rfl)

private theorem collecting_cons {newer older : List (Fragment μ ν)} {first : Rat}
    (collecting : Collecting count timeout f.message first newer older)
    (inside : f.index < count f.message) (after : first ≤ f.time) (within : f.time - first ≤ timeout)
    (notFull : ¬ (Window.extend timeout (openWindow count timeout (newer ++ older) f.message) f).Full
      (count f.message)) :
    Collecting count timeout f.message first (f :: newer) older := by
  obtain ⟨start, extended⟩ := extend_collecting collecting.1 after within
  have opened : openWindow count timeout (f :: newer ++ older) f.message =
      some (Window.extend timeout (openWindow count timeout (newer ++ older) f.message) f) := by
    rw [List.cons_append, openWindow_cons inside]
    exact if_neg notFull
  constructor
  · intro w opened'
    rw [opened] at opened'
    cases opened'
    exact start
  · intro g member own inside'
    refine ⟨_, opened, ?_⟩
    rcases List.mem_cons.mp member with rfl | member
    · exact index_mem_extend _
    · obtain ⟨w, opened', present⟩ := collecting.2 g member own inside'
      rw [extended w opened']
      exact Window.mem_keys_add.mpr (.inr present)

/-- Once all fragments of a message were received within `timeout`, it has become due. -/
theorem due_of_received {older newer : List (Fragment μ ν)} {first : Rat} (nonempty : 0 < count m)
    (closed : openWindow count timeout older m = none)
    (within : ∀ f ∈ newer, f.message = m → f.index < count m →
      first ≤ f.time ∧ f.time - first ≤ timeout)
    (all : ∀ i < count m, ∃ f ∈ newer, f.message = m ∧ f.index = i) :
    ∃ recent w, due count timeout (newer ++ older) = recent ++ due count timeout older ∧
      (m, w) ∈ recent := by
  have progress : ∃ recent, due count timeout (newer ++ older) =
      recent ++ due count timeout older ∧
        ((∃ w, (m, w) ∈ recent) ∨ Collecting count timeout m first newer older) := by
    -- induction on what was received since the window was closed
    clear all
    induction newer with
    | nil =>
      refine ⟨[], rfl, .inr ⟨fun w opened => ?_, fun f member => by cases member⟩⟩
      rw [List.nil_append, closed] at opened
      cases opened
    | cons f newer ih =>
      obtain ⟨recent, before, progress⟩ := ih fun g member => within g (List.mem_cons_of_mem f member)
      have grows : ∃ new, due count timeout (f :: newer ++ older) =
          new ++ recent ++ due count timeout older := by
        rw [List.cons_append, due]
        split
        · exact ⟨[_], by rw [before]; rfl⟩
        · exact ⟨[], before⟩
      obtain ⟨new, after⟩ := grows
      rcases progress with ⟨w, member⟩ | collecting
      · exact ⟨new ++ recent, after, .inl ⟨w, List.mem_append_right new member⟩⟩
      · by_cases own : f.message = m ∧ f.index < count m
        · obtain ⟨rfl, inside⟩ := own
          obtain ⟨notBefore, soon⟩ := within f List.mem_cons_self rfl inside
          by_cases full : (Window.extend timeout
              (openWindow count timeout (newer ++ older) f.message) f).Full (count f.message)
          · -- this fragment makes the message due
            have filled : due count timeout (f :: newer ++ older) =
                ((f.message, Window.extend timeout (openWindow count timeout (newer ++ older) f.message)
                  f) :: recent) ++ due count timeout older := by
              rw [List.cons_append, due, if_pos ⟨inside, full⟩, before, List.cons_append]
            exact ⟨_, filled, .inl ⟨_, List.mem_cons_self⟩⟩
          · exact ⟨new ++ recent, after, .inr (collecting_cons collecting inside notBefore soon full)⟩
        · exact ⟨new ++ recent, after, .inr (collecting_cons_of_ne collecting own)⟩
  obtain ⟨recent, grown, ⟨w, member⟩ | collecting⟩ := progress
  · exact ⟨recent, w, grown, member⟩
  · -- a window that holds every index would have been full
    obtain ⟨f, member, own, first⟩ := all 0 nonempty
    obtain ⟨w, opened, _⟩ := collecting.2 f member own (by omega)
    refine absurd ?_ (openWindow_not_full opened)
    intro i small
    obtain ⟨g, member, own, rfl⟩ := all i small
    obtain ⟨w', opened', present⟩ := collecting.2 g member own small
    rw [opened] at opened'
    cases opened'
    exact present

end Spec

import Mathlib.Data.Finset.Card
import Mathlib.Data.Finset.Range
import Mathlib.Data.List.Nodup

/-!
# Dictionaries in insertion order

Each key occurs once. Assigning to a present key keeps its place, a new key goes
to the end.
-/

structure OrderedDict (κ ν : Type*) where
  entries : List (κ × ν)
  nodup : (entries.map Prod.fst).Nodup

namespace OrderedDict

variable {κ ν : Type*}

theorem ext_entries {d e : OrderedDict κ ν} (same : d.entries = e.entries) : d = e := by
  cases d
  cases e
  cases same
  rfl

instance [DecidableEq κ] [DecidableEq ν] : DecidableEq (OrderedDict κ ν) := fun d e =>
  decidable_of_iff (d.entries = e.entries) ⟨ext_entries, fun same => congrArg entries same⟩

def empty : OrderedDict κ ν := ⟨[], List.nodup_nil⟩

def keys (d : OrderedDict κ ν) : List κ := d.entries.map Prod.fst

def size (d : OrderedDict κ ν) : Nat := d.entries.length

/-- Keep the entries that satisfy `p`. -/
def filter (p : κ → ν → Bool) (d : OrderedDict κ ν) : OrderedDict κ ν where
  entries := d.entries.filter fun (k, v) => p k v
  nodup := d.nodup.sublist (List.filter_sublist.map Prod.fst)

@[simp] theorem entries_filter (p : κ → ν → Bool) (d : OrderedDict κ ν) :
    (d.filter p).entries = d.entries.filter fun entry => p entry.1 entry.2 := rfl

theorem mem_filter {p : κ → ν → Bool} {d : OrderedDict κ ν} {k : κ} {v : ν} :
    (k, v) ∈ (d.filter p).entries ↔ (k, v) ∈ d.entries ∧ p k v = true :=
  List.mem_filter

theorem entries_nodup (d : OrderedDict κ ν) : d.entries.Nodup := d.nodup.of_map _

variable [DecidableEq κ]

def get? (d : OrderedDict κ ν) (k : κ) : Option ν := d.entries.lookup k

private theorem lookup_eq_some_iff {entries : List (κ × ν)} (nodup : (entries.map Prod.fst).Nodup)
    {k : κ} {v : ν} : entries.lookup k = some v ↔ (k, v) ∈ entries := by
  induction entries with
  | nil => simp
  | cons entry entries ih =>
    obtain ⟨k', v'⟩ := entry
    rw [List.map_cons, List.nodup_cons] at nodup
    by_cases same : k = k'
    · subst same
      have absent : (k, v) ∉ entries := by
        intro member
        exact nodup.1 (List.mem_map.mpr ⟨(k, v), member, rfl⟩)
      simp [absent, eq_comm]
    · have different : (k == k') = false := by simp [same]
      simp [List.lookup_cons, different, same, ih nodup.2]

theorem get?_eq_some_iff {d : OrderedDict κ ν} {k : κ} {v : ν} :
    d.get? k = some v ↔ (k, v) ∈ d.entries :=
  lookup_eq_some_iff d.nodup

theorem get?_eq_none_iff {d : OrderedDict κ ν} {k : κ} : d.get? k = none ↔ k ∉ d.keys := by
  rw [Option.eq_none_iff_forall_ne_some]
  simp only [ne_eq, get?_eq_some_iff, keys, List.mem_map, Prod.exists, exists_and_right,
    exists_eq_right, not_exists]

theorem get?_isSome_iff {d : OrderedDict κ ν} {k : κ} : (d.get? k).isSome ↔ k ∈ d.keys := by
  rw [← not_iff_not, Option.not_isSome_iff_eq_none, get?_eq_none_iff]

theorem get?_filter (p : κ → ν → Bool) (d : OrderedDict κ ν) (k : κ) :
    (d.filter p).get? k = (d.get? k).filter (p k) := by
  ext v
  rw [get?_eq_some_iff, mem_filter, Option.filter_eq_some_iff, get?_eq_some_iff]

theorem filter_congr {p q : κ → ν → Bool} {d : OrderedDict κ ν}
    (same : ∀ k v, d.get? k = some v → p k v = q k v) : d.filter p = d.filter q := by
  apply ext_entries
  apply List.filter_congr
  rintro ⟨k, v⟩ member
  exact same k v (get?_eq_some_iff.mpr member)

/-- `del d[k]`, and what `d.pop(k, None)` leaves. -/
def erase (d : OrderedDict κ ν) (k : κ) : OrderedDict κ ν := d.filter fun k' _ => k' ≠ k

theorem get?_erase (d : OrderedDict κ ν) (k k' : κ) :
    (d.erase k).get? k' = if k' = k then none else d.get? k' := by
  rw [erase, get?_filter]
  by_cases same : k' = k
  · simp [same]
  · cases d.get? k' <;> simp [same]

private theorem map_replace_keys (entries : List (κ × ν)) (k : κ) (v : ν) :
    (entries.map fun entry => if entry.1 = k then (k, v) else entry).map Prod.fst =
      entries.map Prod.fst := by
  rw [List.map_map]
  apply List.map_congr_left
  intro entry _
  by_cases same : entry.1 = k
  · simp [same]
  · simp [same]

/-- `d[k] = v`. -/
def set (d : OrderedDict κ ν) (k : κ) (v : ν) : OrderedDict κ ν :=
  if present : k ∈ d.keys then
    { entries := d.entries.map fun entry => if entry.1 = k then (k, v) else entry
      nodup := by
        rw [map_replace_keys]
        exact d.nodup }
  else
    { entries := d.entries ++ [(k, v)]
      nodup := by
        rw [List.map_append]
        exact d.nodup.append (List.nodup_singleton k) (List.disjoint_singleton.mpr present) }

theorem mem_set {d : OrderedDict κ ν} {k k' : κ} {v v' : ν} :
    (k', v') ∈ (d.set k v).entries ↔ (k' = k ∧ v' = v) ∨ (k' ≠ k ∧ (k', v') ∈ d.entries) := by
  unfold set
  split
  · next present =>
    simp only [List.mem_map, Prod.exists]
    constructor
    · rintro ⟨k₁, v₁, member, replaced⟩
      by_cases same : k₁ = k
      · rw [if_pos same] at replaced
        cases replaced
        exact .inl ⟨rfl, rfl⟩
      · rw [if_neg same] at replaced
        cases replaced
        exact .inr ⟨same, member⟩
    · rintro (⟨rfl, rfl⟩ | ⟨different, member⟩)
      · obtain ⟨⟨k₁, v₁⟩, member, rfl⟩ := List.mem_map.mp present
        exact ⟨k₁, v₁, member, if_pos rfl⟩
      · exact ⟨k', v', member, if_neg different⟩
  · next absent =>
    simp only [List.mem_append, List.mem_singleton, Prod.mk.injEq]
    constructor
    · rintro (member | new)
      · have different : k' ≠ k := by
          intro same
          subst same
          exact absent (List.mem_map_of_mem member)
        exact .inr ⟨different, member⟩
      · exact .inl new
    · rintro (new | ⟨_, member⟩)
      · exact .inr new
      · exact .inl member

theorem get?_set (d : OrderedDict κ ν) (k k' : κ) (v : ν) :
    (d.set k v).get? k' = if k' = k then some v else d.get? k' := by
  ext v'
  rw [get?_eq_some_iff, mem_set]
  by_cases same : k' = k
  · simp [same, eq_comm]
  · simp [same, get?_eq_some_iff]

theorem mem_keys_set {d : OrderedDict κ ν} {k k' : κ} {v : ν} :
    k' ∈ (d.set k v).keys ↔ k' = k ∨ k' ∈ d.keys := by
  rw [← get?_isSome_iff, ← get?_isSome_iff, get?_set]
  by_cases same : k' = k
  · simp [same]
  · simp [same]

theorem mem_keys_erase {d : OrderedDict κ ν} {k k' : κ} :
    k' ∈ (d.erase k).keys ↔ k' ≠ k ∧ k' ∈ d.keys := by
  rw [← get?_isSome_iff, ← get?_isSome_iff, get?_erase]
  by_cases same : k' = k
  · simp [same]
  · simp [same]

theorem card_keys (d : OrderedDict κ ν) : d.keys.toFinset.card = d.size := by
  have distinct : d.keys.Nodup := d.nodup
  rw [List.toFinset_card_of_nodup distinct]
  exact List.length_map _

/-- Assignments in turn: the last one to a key stays. -/
theorem get?_foldl_set (items : List (κ × ν)) (d : OrderedDict κ ν) (k : κ) :
    (items.foldl (fun d item => d.set item.1 item.2) d).get? k =
      (items.reverse.lookup k).or (d.get? k) := by
  induction items generalizing d with
  | nil => rfl
  | cons item items ih =>
    have first :
        ([item].lookup k).or (d.get? k) = if k = item.1 then some item.2 else d.get? k := by
      obtain ⟨k', v⟩ := item
      by_cases here : k = k'
      · simp [here]
      · have apart : (k == k') = false := by simp [here]
        simp [List.lookup_cons, apart, here]
    rw [List.foldl_cons, ih, get?_set, List.reverse_cons, List.lookup_append, Option.or_assoc,
      first]

/-- Assigning the entries of a dictionary, in any order. -/
theorem lookup_reverse_of_perm {d : OrderedDict κ ν} {items : List (κ × ν)}
    (same : items.Perm d.entries) (k : κ) : items.reverse.lookup k = d.get? k := by
  have all : items.reverse.Perm d.entries := (List.reverse_perm items).trans same
  have distinct : (items.reverse.map Prod.fst).Nodup := (all.map Prod.fst).nodup_iff.mpr d.nodup
  ext v
  rw [lookup_eq_some_iff distinct, get?_eq_some_iff, all.mem_iff]

/-- `d.setdefault(k, v)`. -/
def setdefault (d : OrderedDict κ ν) (k : κ) (v : ν) : OrderedDict κ ν :=
  if k ∈ d.keys then d else d.set k v

theorem get?_setdefault (d : OrderedDict κ ν) (k k' : κ) (v : ν) :
    (d.setdefault k v).get? k' = (d.get? k').or (if k' = k then some v else none) := by
  unfold setdefault
  split
  · next present =>
    by_cases same : k' = k
    · subst same
      obtain ⟨v', found⟩ := Option.isSome_iff_exists.mp (get?_isSome_iff.mpr present)
      rw [found, Option.some_or]
    · rw [if_neg same, Option.or_none]
  · next absent =>
    rw [get?_set]
    by_cases same : k' = k
    · subst same
      rw [get?_eq_none_iff.mpr absent, if_pos rfl, Option.none_or]
    · rw [if_neg same, if_neg same, Option.or_none]

/-- One value for several keys: the ones that are present keep theirs. -/
theorem get?_foldl_setdefault (keys : List κ) (d : OrderedDict κ ν) (k : κ) (v : ν) :
    (keys.foldl (fun d key => d.setdefault key v) d).get? k =
      (d.get? k).or (if k ∈ keys then some v else none) := by
  induction keys generalizing d with
  | nil => simp
  | cons key keys ih =>
    rw [List.foldl_cons, ih, get?_setdefault, Option.or_assoc]
    by_cases first : k = key
    · simp [first]
    · simp [first]

/-! ### When an operation changes nothing -/

theorem filter_eq_self {p : κ → ν → Bool} {d : OrderedDict κ ν} :
    d.filter p = d ↔ ∀ k v, d.get? k = some v → p k v = true := by
  constructor
  · intro same k v found
    have kept : (d.filter p).get? k = some v := by rw [same, found]
    rw [get?_filter] at kept
    exact (Option.filter_eq_some_iff.mp kept).2
  · intro all
    apply ext_entries
    apply List.filter_eq_self.mpr
    rintro ⟨k, v⟩ member
    exact all k v (get?_eq_some_iff.mpr member)

theorem set_eq_self {d : OrderedDict κ ν} {k : κ} {v : ν} :
    d.set k v = d ↔ d.get? k = some v := by
  constructor
  · intro same
    rw [← same, get?_set, if_pos rfl]
  · intro found
    have member := get?_eq_some_iff.mp found
    have present : k ∈ d.keys := List.mem_map_of_mem member
    apply ext_entries
    rw [set, dif_pos present]
    refine Eq.trans (List.map_congr_left ?_) (List.map_id _)
    rintro ⟨k', v'⟩ member'
    by_cases same : k' = k
    · subst same
      have value : some v = some v' := found.symm.trans (get?_eq_some_iff.mpr member')
      cases value
      exact if_pos rfl
    · exact if_neg same

/-- A new key goes to the end, where a filter may take it away again. -/
theorem filter_set_of_absent {p : κ → ν → Bool} {d : OrderedDict κ ν} {k : κ} {v : ν}
    (absent : d.get? k = none) (dropped : p k v = false) :
    (d.set k v).filter p = d.filter p := by
  apply ext_entries
  rw [set, dif_neg (get?_eq_none_iff.mp absent)]
  simp [filter, dropped]

theorem erase_of_absent {d : OrderedDict κ ν} {k : κ} (absent : d.get? k = none) :
    d.erase k = d := by
  apply filter_eq_self.mpr
  intro k' v found
  have other : k' ≠ k := by
    rintro rfl
    rw [absent] at found
    cases found
  simp [other]

/-! ### Entries up to their order -/

theorem entries_set_of_absent {d : OrderedDict κ ν} {k : κ} {v : ν} (absent : d.get? k = none) :
    (d.set k v).entries = d.entries ++ [(k, v)] := by
  rw [set, dif_neg (get?_eq_none_iff.mp absent)]

theorem perm_cons_erase {d : OrderedDict κ ν} {k : κ} {v : ν} (found : d.get? k = some v) :
    d.entries.Perm ((k, v) :: (d.erase k).entries) := by
  have apart : (k, v) ∉ (d.erase k).entries := by
    intro member
    have kept := (mem_filter.mp member).2
    simp at kept
  have nodup : ((k, v) :: (d.erase k).entries).Nodup :=
    List.nodup_cons.mpr ⟨apart, (d.erase k).entries_nodup⟩
  apply (List.perm_ext_iff_of_nodup d.entries_nodup nodup).mpr
  rintro ⟨k', v'⟩
  rw [List.mem_cons, erase, mem_filter]
  by_cases same : k' = k
  · subst same
    rw [← get?_eq_some_iff, found]
    simp [eq_comm]
  · simp [same]

/-- A new value that looks the same in `g` as the old one. -/
theorem map_set_of_same {α : Type*} {d : OrderedDict κ ν} {k : κ} {v v' : ν} {g : κ × ν → α}
    (found : d.get? k = some v) (same : g (k, v') = g (k, v)) :
    (d.set k v').entries.map g = d.entries.map g := by
  have present : k ∈ d.keys := List.mem_map_of_mem (get?_eq_some_iff.mp found)
  rw [set, dif_pos present, List.map_map]
  apply List.map_congr_left
  rintro ⟨k₁, v₁⟩ member
  by_cases here : k₁ = k
  · subst here
    have value := get?_eq_some_iff.mpr member
    rw [found] at value
    cases value
    simpa using same
  · simp [here]

end OrderedDict

/-- A dictionary whose keys are all below `n` has `n` entries exactly when every number
below `n` is a key. -/
theorem OrderedDict.size_eq_iff {ν : Type*} {d : OrderedDict Nat ν} {n : Nat}
    (below : ∀ k ∈ d.keys, k < n) : d.size = n ↔ ∀ k < n, k ∈ d.keys := by
  have inside : d.keys.toFinset ⊆ Finset.range n := by
    intro k member
    exact Finset.mem_range.mpr (below k (List.mem_toFinset.mp member))
  rw [← d.card_keys]
  constructor
  · intro full k small
    have all : d.keys.toFinset = Finset.range n :=
      Finset.eq_of_subset_of_card_le inside (by rw [full, Finset.card_range])
    rw [← List.mem_toFinset, all]
    exact Finset.mem_range.mpr small
  · intro all
    have covers : Finset.range n ⊆ d.keys.toFinset := by
      intro k small
      exact List.mem_toFinset.mpr (all k (Finset.mem_range.mp small))
    rw [Finset.Subset.antisymm inside covers, Finset.card_range]

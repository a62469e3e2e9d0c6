import TuyaBleMesh.Transport.Books

/-!
# Completion accounting

A completion is recorded in the metrics, appended to the history and resolves the
future. It is reported by the worker, for requests that expired in the queue, by
the send task, and by the sweep over the correlation table. The books of a
dispatcher, and when every request is in them once.
-/

namespace TuyaBleMesh

namespace Books

/-- An open request is not in the books, and a resolved one is in them once, with the result of
its future. A request whose caller has given up is in them once at most. -/
def Accounted (b : Books) (entry : Submission) : Prop :=
  match b.futures entry.future with
  | .pending => b.recordings entry.request.requestId = [] ∧
      b.appendings entry.request.requestId = []
  | .resolved result => b.recordings entry.request.requestId = [result] ∧
      b.appendings entry.request.requestId = [result]
  | .abandoned =>
      b.appendings entry.request.requestId = b.recordings entry.request.requestId ∧
        (b.recordings entry.request.requestId).length ≤ 1

/-- The books of a dispatcher with these submissions: a request is filed until it is recorded. -/
structure Balanced (b : Books) (submitted : List Submission) : Prop where
  distinct : (submitted.map fun entry => entry.request.requestId).Nodup
  filed : ∀ requestId future, b.resultFutures.get? requestId = some future ↔
    ∃ request, ⟨request, future⟩ ∈ submitted ∧ request.requestId = requestId ∧
      b.recordings requestId = []
  accounted : ∀ entry ∈ submitted, b.Accounted entry

section Complete

variable {b : Books} {completion : CommandRequest × CommandResult}
  {submitted : List Submission}

/-- A request that is recorded twice is not accounted for. -/
theorem not_accounted_of_two {entry : Submission}
    (twice : 2 ≤ (b.recordings entry.request.requestId).length) : ¬ b.Accounted entry := by
  unfold Accounted
  split
  · intro accounted
    rw [accounted.1] at twice
    cases twice
  · intro accounted
    rw [accounted.1] at twice
    simp at twice
  · intro accounted
    exact absurd (le_trans twice accounted.2) (by decide)

/-- A request is filed as long as it is not recorded. -/
theorem Balanced.recorded_of_unfiled (balanced : b.Balanced submitted) {entry : Submission}
    (member : entry ∈ submitted)
    (unfiled : b.resultFutures.get? entry.request.requestId = none) :
    b.recordings entry.request.requestId ≠ [] := by
  intro unrecorded
  have filed := (balanced.filed entry.request.requestId entry.future).mpr
    ⟨entry.request, member, rfl, unrecorded⟩
  rw [unfiled] at filed
  cases filed

theorem Balanced.unique (balanced : b.Balanced submitted) {x y : Submission} (first : x ∈ submitted)
    (second : y ∈ submitted) (same : x.request.requestId = y.request.requestId) : x = y :=
  (List.nodup_map_iff_inj_on (List.Nodup.of_map _ balanced.distinct)).mp balanced.distinct
    x first y second same

/-- Completing a filed request keeps the books balanced. -/
theorem Balanced.complete (balanced : b.Balanced submitted)
    (numbered : ∀ x ∈ submitted, ∀ y ∈ submitted, x.future = y.future → x = y)
    (own : completion.2.requestId = completion.1.requestId)
    (filed : completion.1.requestId ∈ b.resultFutures.keys) :
    (b.complete completion).Balanced submitted := by
  obtain ⟨request, result⟩ := completion
  dsimp only at own filed
  obtain ⟨future, filed⟩ := Option.isSome_iff_exists.mp (OrderedDict.get?_isSome_iff.mpr filed)
  -- the future filed under the id is that of its submission, not yet recorded
  obtain ⟨request', member, same, unrecorded⟩ := (balanced.filed _ _).mp filed
  refine ⟨balanced.distinct, ?_, ?_⟩
  · intro requestId future'
    rw [recordings_complete own]
    show (b.resultFutures.erase request.requestId).get? requestId = _ ↔ _
    rw [OrderedDict.get?_erase]
    by_cases this : requestId = request.requestId
    · rw [if_pos this, if_pos this.symm]
      constructor
      · nofun
      · rintro ⟨_, _, _, empty⟩
        simp at empty
    · rw [if_neg this, if_neg (Ne.symm this), List.append_nil]
      exact balanced.filed requestId future'
  · intro entry inside
    have before := balanced.accounted entry inside
    unfold Accounted at before ⊢
    rw [recordings_complete own, appendings_complete]
    by_cases this : request.requestId = entry.request.requestId
    · -- the request itself, which was open or given up
      have itself : entry = ⟨request', future⟩ :=
        balanced.unique inside member (this.symm.trans same.symm)
      rw [if_pos this]
      subst itself
      rw [← same] at unrecorded
      dsimp only at before ⊢
      simp only [Books.complete, filed]
      cases state : b.futures future with
      | pending =>
        rw [state] at before
        rw [if_neg (by simp [FutureState.done]), Function.update_self]
        dsimp only at before ⊢
        rw [before.1, before.2]
        exact ⟨rfl, rfl⟩
      | resolved result =>
        rw [state, unrecorded] at before
        cases before.1
      | abandoned =>
        rw [state] at before
        rw [if_pos (by rfl), state]
        dsimp only at before ⊢
        rw [before.1, unrecorded]
        exact ⟨rfl, le_refl 1⟩
    · -- another request, whose future is another one
      have other : entry.future ≠ future := by
        intro equal
        have itself : entry = ⟨request', future⟩ := numbered entry inside _ member equal
        rw [itself] at this
        exact this same.symm
      rw [if_neg this, List.append_nil, List.append_nil]
      have untouched : (b.complete (request, result)).futures entry.future =
          b.futures entry.future := by
        simp only [Books.complete, filed]
        split
        · rfl
        · exact Function.update_of_ne other _ _
      rw [untouched]
      exact before

end Complete

section CompleteAll

variable {b : Books} {completions : List (CommandRequest × CommandResult)}
  {submitted : List Submission}

/-- Completing filed requests, each once, keeps the books balanced. -/
theorem Balanced.completeAll (balanced : b.Balanced submitted)
    (numbered : ∀ x ∈ submitted, ∀ y ∈ submitted, x.future = y.future → x = y)
    (own : ∀ completion ∈ completions, completion.2.requestId = completion.1.requestId)
    (distinct : (completions.map fun completion => completion.1.requestId).Nodup)
    (filed : ∀ completion ∈ completions, completion.1.requestId ∈ b.resultFutures.keys) :
    (completions.foldl Books.complete b).Balanced submitted := by
  induction completions generalizing b with
  | nil => exact balanced
  | cons completion completions ih =>
    rw [List.map_cons, List.nodup_cons] at distinct
    have first := balanced.complete numbered (own completion List.mem_cons_self)
      (filed completion List.mem_cons_self)
    apply ih first
    · exact fun other member => own other (List.mem_cons_of_mem _ member)
    · exact distinct.2
    · -- the first completion takes away only its own id
      intro other member
      apply OrderedDict.mem_keys_erase.mpr
      refine ⟨fun same => ?_, filed other (List.mem_cons_of_mem _ member)⟩
      exact distinct.1 (List.mem_map.mpr ⟨other, member, same⟩)

end CompleteAll

end Books

namespace Dispatcher

/-! ### Every request is accounted for -/

def Accounted (s : Dispatcher) : Prop := ∀ entry ∈ s.submitted, s.books.Accounted entry

/-- The request of the id is still filed. -/
def Filed (s : Dispatcher) (requestId : RequestId) : Prop := requestId ∈ s.resultFutures.keys

/-- A registration that has expired is of a request not yet completed, and a send task reports
on a request that no sweep has completed. -/
def CompletesOnce (s : Dispatcher) (event : DispatcherEvent) : Prop :=
  (event = .iterate → s.running = true →
    ∀ expired ∈ s.correlation.stale s.now, s.Filed expired.val.requestId) ∧
    ∀ future task result, s.tasks.get? future = some task →
      SendEvent s future task event (.report result) → s.Filed task.request.requestId

/-- What holds between the steps of a run without `stop`. -/
structure Accounts (s : Dispatcher) : Prop where
  registry : s.Registry
  balanced : s.books.Balanced s.submitted
  issued : s.Issued
  unsent_filed : ∀ entry ∈ s.unsent, s.Filed entry.request.requestId

section Accounts

variable {s s' : Dispatcher} {event : DispatcherEvent}

theorem Accounts.numbered (accounts : s.Accounts) :
    ∀ x ∈ s.submitted, ∀ y ∈ s.submitted, x.future = y.future → x = y :=
  fun _ first _ second same => accounts.registry.custody.unique first second same

private theorem Accounts.quiet (accounts : s.Accounts) (stepped : s.step event = some s')
    (registry : s'.Registry) (books : s'.books = s.books)
    (submitted : s'.submitted = s.submitted) : s'.Accounts where
  registry := registry
  balanced := by
    rw [books, submitted]
    exact accounts.balanced
  issued := accounts.issued.step stepped
  unsent_filed entry member := by
    -- the files are those of the books, which are as before
    have filed := accounts.unsent_filed entry (unsent_old stepped submitted entry member)
    have same : s'.resultFutures = s.resultFutures := congrArg Books.resultFutures books
    rwa [Filed, same]

/-- Completions of filed requests, each once and none of them unsent any more. -/
private theorem Accounts.completed (accounts : s.Accounts) (stepped : s.step event = some s')
    (registry : s'.Registry) {completions : List (CommandRequest × CommandResult)}
    (own : ∀ completion ∈ completions, completion.2.requestId = completion.1.requestId)
    (distinct : (completions.map fun completion => completion.1.requestId).Nodup)
    (filed : ∀ completion ∈ completions, s.Filed completion.1.requestId)
    (sent : ∀ completion ∈ completions, ∀ entry ∈ s'.unsent,
      completion.1.requestId ≠ entry.request.requestId)
    (books : s'.books = completions.foldl Books.complete s.books)
    (submitted : s'.submitted = s.submitted) : s'.Accounts where
  registry := registry
  balanced := by
    rw [books, submitted]
    exact accounts.balanced.completeAll accounts.numbered own distinct filed
  issued := accounts.issued.step stepped
  unsent_filed entry member := by
    have same : s'.resultFutures = (completions.foldl Books.complete s.books).resultFutures :=
      congrArg Books.resultFutures books
    rw [Filed, same]
    apply Books.mem_keys_completeAll.mpr
    constructor
    · exact accounts.unsent_filed entry (unsent_old stepped submitted entry member)
    · exact fun completion inside => sent completion inside entry member

/-- A request rejected under a new id leaves the other accounts alone. -/
private theorem Accounts.rejected (accounts : s.Accounts) (stepped : s.step event = some s')
    (registry : s'.Registry) {result : CommandResult} {opcode : Nat}
    (fresh : s.Unused result.requestId)
    (books : s'.books = { s.books with recorded := s.recorded ++ [(result, opcode)] })
    (submitted : s'.submitted = s.submitted) : s'.Accounts := by
  -- only the account of the rejected id gets an entry, and nobody has it
  have recordings : ∀ requestId, requestId ≠ result.requestId →
      s'.books.recordings requestId = s.books.recordings requestId := by
    intro requestId other
    rw [books]
    simp [Books.recordings, Ne.symm other, Dispatcher.books]
  have others : ∀ entry ∈ s.submitted, entry.request.requestId ≠ result.requestId := fresh.1
  have files : s'.books.resultFutures = s.books.resultFutures := by rw [books]
  refine ⟨registry, ?_, accounts.issued.step stepped, ?_⟩
  · rw [submitted]
    refine ⟨accounts.balanced.distinct, ?_, ?_⟩
    · intro requestId future
      rw [files, accounts.balanced.filed]
      constructor
      · rintro ⟨request, member, same, unrecorded⟩
        refine ⟨request, member, same, ?_⟩
        rw [recordings requestId (same ▸ others _ member), unrecorded]
      · rintro ⟨request, member, same, unrecorded⟩
        refine ⟨request, member, same, ?_⟩
        rw [← recordings requestId (same ▸ others _ member), unrecorded]
    · intro entry member
      have before := accounts.balanced.accounted entry member
      unfold Books.Accounted at before ⊢
      rw [recordings _ (others entry member), books]
      exact before
  · intro entry member
    have filed := accounts.unsent_filed entry (unsent_old stepped submitted entry member)
    have same : s'.resultFutures = s.resultFutures := files
    rwa [Filed, same]

/-- A caller gives up a future that is still open. -/
private theorem Accounts.abandoned (accounts : s.Accounts) (stepped : s.step event = some s')
    (registry : s'.Registry) {future : FutureId} (pending : s.futures future = .pending)
    (books : s'.books = { s.books with futures := Function.update s.futures future .abandoned })
    (submitted : s'.submitted = s.submitted) : s'.Accounts := by
  have files : s'.resultFutures = s.resultFutures := congrArg Books.resultFutures books
  have recorded : s'.books.recordings = s.books.recordings := by rw [books]; rfl
  have appended : s'.books.appendings = s.books.appendings := by rw [books]; rfl
  have futures : s'.books.futures = Function.update s.futures future .abandoned := by rw [books]
  -- giving up changes the future only, neither the files nor the records
  refine ⟨registry, ⟨?_, ?_, ?_⟩, accounts.issued.step stepped, ?_⟩
  · rw [submitted]
    exact accounts.balanced.distinct
  · rw [submitted, books]
    exact accounts.balanced.filed
  · rw [submitted]
    intro entry member
    have before := accounts.balanced.accounted entry member
    rw [Books.Accounted] at before ⊢
    rw [recorded, appended, futures]
    by_cases this : entry.future = future
    · -- an open request is not in the books
      have pending' : s.books.futures entry.future = .pending := this ▸ pending
      rw [pending'] at before
      rw [this, Function.update_self]
      exact ⟨before.2.trans before.1.symm, (congrArg List.length before.1).trans_le (Nat.zero_le 1)⟩
    · rw [Function.update_of_ne this]
      exact before
  · intro entry member
    rw [Filed, files]
    exact accounts.unsent_filed entry (unsent_old stepped submitted entry member)

/-- A request submitted under a new id opens its account. -/
private theorem Accounts.submitted (accounts : s.Accounts) (stepped : s.step event = some s')
    (registry : s'.Registry) {request : CommandRequest} (fresh : s.Unused request.requestId)
    (books : s'.books = { s.books with
      resultFutures := s.resultFutures.set request.requestId s.submitted.length })
    (submitted : s'.submitted = s.submitted ++ [⟨request, s.submitted.length⟩]) :
    s'.Accounts := by
  -- nothing was recorded or appended under the new id
  obtain ⟨others, unrecorded, unappended⟩ := fresh
  have files : s'.resultFutures = s.resultFutures.set request.requestId s.submitted.length :=
    congrArg Books.resultFutures books
  have recorded : s'.books.recordings = s.books.recordings := by rw [books]; rfl
  have appended : s'.books.appendings = s.books.appendings := by rw [books]; rfl
  have futures : s'.books.futures = s.books.futures := by rw [books]
  refine ⟨registry, ⟨?_, ?_, ?_⟩, accounts.issued.step stepped, ?_⟩
  · exact registry.distinct
  · intro requestId future
    show s'.resultFutures.get? requestId = some future ↔ _
    rw [files, OrderedDict.get?_set, recorded, submitted]
    by_cases this : requestId = request.requestId
    · rw [if_pos this]
      constructor
      · intro found
        cases found
        exact ⟨request, List.mem_append_right _ List.mem_cons_self, this.symm, this ▸ unrecorded⟩
      · rintro ⟨request', member, same, _⟩
        rcases List.mem_append.mp member with old | new
        · -- the id is new
          exact absurd (same.trans this) (others _ old)
        · cases List.mem_singleton.mp new
          rfl
    · rw [if_neg this]
      refine (accounts.balanced.filed requestId future).trans ?_
      constructor
      · rintro ⟨request', member, same, open_⟩
        exact ⟨request', List.mem_append_left _ member, same, open_⟩
      · rintro ⟨request', member, same, open_⟩
        rcases List.mem_append.mp member with old | new
        · exact ⟨request', old, same, open_⟩
        · cases List.mem_singleton.mp new
          exact absurd same.symm this
  · intro entry member
    rw [submitted] at member
    rw [Books.Accounted, recorded, appended, futures]
    rcases List.mem_append.mp member with old | new
    · exact accounts.balanced.accounted entry old
    · cases List.mem_singleton.mp new
      -- the future of the new submission is still pending
      rw [accounts.issued.unissued _ (le_refl _)]
      exact ⟨unrecorded, unappended⟩
  · intro entry member
    rw [Filed, files, OrderedDict.mem_keys_set]
    rcases unsent_cases stepped member with old | ⟨_, _, longer⟩
    · exact .inr (accounts.unsent_filed entry old)
    · rw [submitted] at longer
      have new := List.append_cancel_left longer
      cases new
      exact .inl rfl

theorem Accounts.step (accounts : s.Accounts) (unstopped : event ≠ .stop ∧ event ≠ .stopResumes)
    (fresh : s.UsesFreshId event) (once : s.CompletesOnce event)
    (stepped : s.step event = some s') : s'.Accounts := by
  have registry := accounts.registry.step fresh stepped
  cases books_cases stepped with
  | same books submitted registers keeps => exact accounts.quiet stepped registry books submitted
  | reject request raises isEnqueue expired books submitted correlation =>
    subst isEnqueue
    have unused : s.Unused (timeoutResult ⟨request, expired⟩).requestId := fresh
    exact accounts.rejected stepped registry unused books submitted
  | submit request raises isEnqueue books submitted correlation =>
    subst isEnqueue
    exact accounts.submitted stepped registry fresh books submitted
  | abandon future pending issued books submitted correlation =>
    exact accounts.abandoned stepped registry pending books submitted
  | sweep isIterate running books submitted correlation =>
    refine accounts.completed stepped registry sweepCompletions_own ?_ ?_ ?_ books submitted
    · rw [sweepCompletions, List.map_map]
      exact s.correlation.stale_nodup s.now
    · intro completion member
      obtain ⟨expired, stale, rfl⟩ := mem_sweepCompletions.mp member
      exact once.1 isIterate running expired stale
    · -- what is registered has been sent
      intro completion member entry unsent same
      obtain ⟨expired, stale, rfl⟩ := mem_sweepCompletions.mp member
      apply accounts.registry.unsent_untracked entry (unsent_old stepped submitted entry unsent)
      exact CorrelationEngine.tracks_iff_holds.mpr
        ⟨expired.val, CorrelationEngine.mem_stale.mp stale, same⟩
  | timeOut entry expired held tasks books submitted correlation =>
    have unsent : entry ∈ s.unsent := held.subset List.mem_cons_self
    have books' : s'.books =
        [(entry.request, timeoutResult ⟨entry.request, expired⟩)].foldl Books.complete s.books :=
      books
    refine accounts.completed stepped registry ?_ ?_ ?_ ?_ books' submitted
    · intro completion member
      cases List.mem_singleton.mp member
      rfl
    · exact List.nodup_singleton _
    · intro completion member
      cases List.mem_singleton.mp member
      exact accounts.unsent_filed entry unsent
    · intro completion member other left same
      cases List.mem_singleton.mp member
      -- the entry is not left, and no other has its id
      have one := accounts.registry.unique
        (accounts.registry.custody.unsent_mem entry unsent)
        (accounts.registry.custody.unsent_mem other (unsent_old stepped submitted other left)) same
      obtain ⟨kept, perm, sublist⟩ := held
      have distinct := (perm.map Submission.future).nodup_iff.mp
        (accounts.registry.custody.unsent_nodup.sublist (sublist.map _))
      rw [List.map_cons, List.nodup_cons] at distinct
      exact distinct.1 (one ▸ List.mem_map_of_mem left)
  | report future task result found sent books submitted correlation =>
    have own := (SendTask.sendEvent_own sent result rfl).1
    have books' : s'.books = [(task.request, result)].foldl Books.complete s.books := books
    refine accounts.completed stepped registry ?_ ?_ ?_ ?_ books' submitted
    · intro completion member
      cases List.mem_singleton.mp member
      exact own
    · exact List.nodup_singleton _
    · intro completion member
      cases List.mem_singleton.mp member
      exact once.2 future task result found sent
    · intro completion member entry left
      cases List.mem_singleton.mp member
      exact accounts.registry.task_apart found (unsent_old stepped submitted entry left)
  | cancel isStop submitted correlation =>
    rcases isStop with isStop | isStop
    · exact absurd isStop unstopped.1
    · exact absurd isStop unstopped.2

/-- Completing a request that is not filed any more records it a second time. -/
private theorem Accounts.filed_of_accounted (accounts : s.Accounts) (accounted : s'.Accounted)
    (submitted : s'.submitted = s.submitted)
    {completions : List (CommandRequest × CommandResult)}
    (own : ∀ completion ∈ completions, completion.2.requestId = completion.1.requestId)
    (books : s'.books = completions.foldl Books.complete s.books)
    {completion : CommandRequest × CommandResult} (member : completion ∈ completions)
    {entry : Submission} (entered : entry ∈ s.submitted)
    (same : entry.request.requestId = completion.1.requestId) :
    s.Filed completion.1.requestId := by
  by_contra unfiled
  rw [← same] at unfiled
  have before := accounts.balanced.recorded_of_unfiled entered
    (OrderedDict.get?_eq_none_iff.mpr unfiled)
  have after := Books.recordings_completeAll (b := s.books) own entry.request.requestId
  rw [← books] at after
  apply Books.not_accounted_of_two _ (accounted entry (submitted ▸ entered))
  -- it is recorded now, and has been before
  have again : completion ∈ completions.filter
      fun completion => completion.1.requestId = entry.request.requestId :=
    List.mem_filter.mpr ⟨member, by simp [same]⟩
  rw [after, List.length_append, List.length_map]
  have first := List.length_pos_of_ne_nil before
  have second := List.length_pos_of_mem again
  omega

theorem Accounts.completesOnce (accounts : s.Accounts) (stepped : s.step event = some s')
    (accounted : s'.Accounted) : s.CompletesOnce event := by
  constructor
  · rintro rfl running expired stale
    have after : s'.books = s.sweepCompletions.foldl Books.complete s.books ∧
        s'.submitted = s.submitted := by
      have books := s.books_expireStale
      obtain ⟨_, _, _, _, _, _, frame⟩ := s.expireStale_frame
      cases step_cases stepped with
      | iterate looping =>
        rw [iterate, if_pos running]
        refine ⟨books, ?_⟩
        rw [frame]
      | send future task done found sent => cases sent
    -- what has expired was registered for a submission
    obtain ⟨entry, entered, same⟩ :=
      accounts.registry.registered expired.val (CorrelationEngine.mem_stale.mp stale)
    exact accounts.filed_of_accounted accounted after.2 sweepCompletions_own after.1
      (mem_sweepCompletions.mpr ⟨expired, stale, rfl⟩) entered (by rw [same])
  · intro future task result found sent
    have after : s' = s.perform future task.request (.report result) :=
      Option.some.inj (stepped.symm.trans (sent.step_eq found))
    have books : s'.books = [(task.request, result)].foldl Books.complete s.books := by
      rw [after]
      exact s.books_completeRequest task.request result
    have submitted : s'.submitted = s.submitted := by
      rw [after]
      exact (s.perform_frame future task.request (.report result)).2.1
    refine accounts.filed_of_accounted accounted submitted ?_ books List.mem_cons_self
      (accounts.registry.custody.task_mem future task found) rfl
    intro completion member
    cases List.mem_singleton.mp member
    exact (SendTask.sendEvent_own sent result rfl).1

theorem accounts_new (limits : Limits) (now : Rat) : (Dispatcher.new limits now).Accounts where
  registry := registry_new limits now
  balanced := {
    distinct := List.nodup_nil
    filed := fun requestId future =>
      ⟨fun found => (by cases found), fun ⟨_, member, _⟩ => (by cases member)⟩
    accounted := fun entry member => (by cases member) }
  issued := issued_new limits now
  unsent_filed entry member := by cases member

end Accounts

/-! ### The books and what the dispatcher shows of them -/

/-- The metrics count the recorded results, and the history is the end of what was appended. -/
structure Logged (s : Dispatcher) : Prop where
  tallies : s.metrics.Tallies s.recorded
  history : s.history = s.appended.drop (s.appended.length - _HISTORY_MAX)

section Logged

variable {s s' : Dispatcher} {event : DispatcherEvent}

theorem appendBounded_tail {α : Type} (maxlen : Nat) (items : List α) (item : α) :
    appendBounded maxlen (items.drop (items.length - maxlen)) item =
      (items ++ [item]).drop ((items ++ [item]).length - maxlen) := by
  rw [appendBounded, ← List.drop_append_of_le_length (Nat.sub_le _ _), List.drop_drop]
  congr 1
  simp only [List.length_drop, List.length_append, List.length_singleton]
  omega

theorem Logged.record (logged : s.Logged) (result : CommandResult) (opcode : Nat) :
    (s.record result opcode).Logged :=
  ⟨logged.tallies.recordResult result opcode, logged.history⟩

theorem Logged.completeRequest (logged : s.Logged) (request : CommandRequest)
    (result : CommandResult) : (s.completeRequest request result).Logged := by
  have history : appendBounded _HISTORY_MAX s.history (request, result) =
      (s.appended ++ [(request, result)]).drop
        ((s.appended ++ [(request, result)]).length - _HISTORY_MAX) := by
    rw [logged.history, appendBounded_tail]
  have tallies := logged.tallies.recordResult result request.opcode
  simp only [Dispatcher.completeRequest]
  -- the tallies and the history do not depend on the future
  split
  · exact ⟨tallies, history⟩
  · unfold settle
    split
    · exact ⟨tallies, history⟩
    · exact ⟨tallies, history⟩

theorem Logged.expireStale (logged : s.Logged) : s.expireStale.Logged := by
  -- the completions of a sweep, one after the other
  have folded : ∀ (now : Rat) (stale : List (ExpiredRequest now)) (t : Dispatcher), t.Logged →
      (stale.foldl (fun s expired => s.completeRequest expired.val (timeoutResult expired))
        t).Logged := by
    intro now stale
    induction stale with
    | nil => exact fun t logged => logged
    | cons expired stale ih => exact fun t logged => ih _ (logged.completeRequest _ _)
  exact folded _ _ _ ⟨logged.tallies, logged.history⟩

theorem Logged.awaitCapacity (logged : s.Logged) (entry : Submission) :
    (s.awaitCapacity entry).Logged := by
  unfold Dispatcher.awaitCapacity
  split
  · exact ⟨logged.tallies, logged.history⟩
  · split
    · exact ⟨logged.tallies, logged.history⟩
    · exact ⟨logged.tallies.recordInFlight _, logged.history⟩

theorem Logged.timeOut (logged : s.Logged) (entry : Submission)
    (expired : entry.request.isExpired s.now = true) : (s.timeOut entry expired).Logged := by
  have completed := logged.completeRequest entry.request (timeoutResult ⟨entry.request, expired⟩)
  exact ⟨completed.tallies, completed.history⟩

theorem Logged.perform (logged : s.Logged) (future : FutureId) (request : CommandRequest)
    (done : SendStep) : (s.perform future request done).Logged := by
  cases done with
  | call task correlation sequence => exact ⟨logged.tallies, logged.history⟩
  | retry task => exact ⟨logged.tallies, logged.history⟩
  | report result =>
    have completed := logged.completeRequest request result
    exact ⟨completed.tallies, completed.history⟩
  | escape error => exact ⟨logged.tallies, logged.history⟩

theorem Logged.enqueue (logged : s.Logged) (request : CommandRequest) (raises : Bool) :
    (s.enqueue request raises).2.Logged := by
  unfold Dispatcher.enqueue
  split
  · exact logged.record _ _
  · split
    · have ⟨sent, succeeded, timedOut, failed⟩ := logged.tallies
      exact ⟨⟨sent, succeeded, timedOut, failed⟩, logged.history⟩
    · exact ⟨logged.tallies, logged.history⟩

theorem Logged.cancelAll (logged : s.Logged) : s.cancelAll.Logged := by
  obtain ⟨_, frame⟩ := s.cancelAll_frame
  rw [frame]
  exact ⟨logged.tallies, logged.history⟩

theorem Logged.step (logged : s.Logged) (stepped : s.step event = some s') : s'.Logged := by
  cases step_cases stepped with
  | start =>
    unfold start
    split
    · exact logged
    · exact ⟨logged.tallies, logged.history⟩
  | stop =>
    have halted : ({ s with running := false } : Dispatcher).Logged :=
      ⟨logged.tallies, logged.history⟩
    unfold stop
    split
    · exact logged
    · dsimp only
      split
      · exact halted.cancelAll
      · exact halted.cancelAll
      · exact halted.cancelAll
      · exact halted
      · exact ⟨logged.tallies, logged.history⟩
  | stopResumes halting => exact ⟨logged.cancelAll.tallies, logged.cancelAll.history⟩
  | enqueue request raises collides => exact logged.enqueue request raises
  | iterate looping =>
    unfold iterate
    split
    · exact ⟨logged.expireStale.tallies, logged.expireStale.history⟩
    · exact ⟨logged.tallies, logged.history⟩
  | take entry polling member least =>
    have taken : ({ s with queue := s.queue.erase entry } : Dispatcher).Logged :=
      ⟨logged.tallies, logged.history⟩
    simp only [take]
    split
    · exact taken.timeOut entry _
    · exact taken.awaitCapacity entry
  | recheck entry waiting =>
    unfold recheck
    split
    · exact ⟨logged.tallies, logged.history⟩
    · split
      · exact logged.timeOut entry _
      · exact logged.awaitCapacity entry
  | send future task done found sent => exact logged.perform future task.request done
  | _ => exact ⟨logged.tallies, logged.history⟩

/-- In every run. -/
theorem reachable_logged {limits : Limits} {now : Rat} {events : List DispatcherEvent}
    (ran : dispatcherSystem.exec (Dispatcher.new limits now) events = some s) : s.Logged := by
  apply dispatcherSystem.exec_invariant_of_step Logged _ ⟨⟨rfl, rfl, rfl, rfl⟩, rfl⟩ ran
  intro m event m' logged stepped
  exact logged.step stepped

end Logged

/-- The step leaves every request accounted for. -/
def KeepsAccounts (s : Dispatcher) (event : DispatcherEvent) : Prop :=
  ∀ s', s.step event = some s' → s'.Accounted

/-- In a run without `stop` every request is recorded and appended at most once, exactly once
when its future is resolved, and with the result of its future, if and only if no sweep and
no send task completes a request again. The metrics count what is recorded, and the history
is the end of what is appended. -/
theorem accounted_iff {limits : Limits} {now : Rat} {events : List DispatcherEvent}
    {s : Dispatcher} (unstopped : ∀ event ∈ events, event ≠ .stop ∧ event ≠ .stopResumes)
    (fresh : dispatcherSystem.Guarded UsesFreshId (Dispatcher.new limits now) events)
    (ran : dispatcherSystem.exec (Dispatcher.new limits now) events = some s) :
    s.Logged ∧ (dispatcherSystem.Guarded KeepsAccounts (Dispatcher.new limits now) events ↔
      dispatcherSystem.Guarded CompletesOnce (Dispatcher.new limits now) events) := by
  have quiet : dispatcherSystem.Guarded (fun _ event => event ≠ .stop ∧ event ≠ .stopResumes)
      (Dispatcher.new limits now) events :=
    dispatcherSystem.guarded_of_all (fun event member _ => unstopped event member) _
  have premises := EventSystem.Guarded.and _ quiet fresh
  refine ⟨reachable_logged ran, ?_⟩
  constructor
  -- the accounts are kept step by step, which gives the condition of each step
  · intro kept
    refine EventSystem.Guarded.along _ Accounts ?_ ?_ (accounts_new limits now) ran
      (EventSystem.Guarded.and _ premises kept)
    · rintro m event m' accounts ⟨⟨quiet, fresh⟩, kept⟩ stepped
      exact accounts.step quiet fresh (accounts.completesOnce stepped (kept m' stepped)) stepped
    · rintro m event m' accounts ⟨_, kept⟩ stepped
      exact accounts.completesOnce stepped (kept m' stepped)
  · intro once
    refine EventSystem.Guarded.along _ Accounts ?_ ?_ (accounts_new limits now) ran
      (EventSystem.Guarded.and _ premises once)
    · rintro m event m' accounts ⟨⟨quiet, fresh⟩, once⟩ stepped
      exact accounts.step quiet fresh once stepped
    · rintro m event m' accounts ⟨⟨quiet, fresh⟩, once⟩ stepped m'' stepped'
      exact (accounts.step quiet fresh once stepped').balanced.accounted

/-! ### Two runs -/

instance (s : Dispatcher) (requestId : RequestId) : Decidable (s.Filed requestId) :=
  inferInstanceAs (Decidable (requestId ∈ s.resultFutures.keys))

theorem completesOnce_of_filed {s : Dispatcher} {event : DispatcherEvent}
    (filed : (∀ expired ∈ s.correlation.stale s.now, s.Filed expired.val.requestId) ∧
      ∀ entry ∈ s.tasks.entries, s.Filed entry.2.request.requestId) : s.CompletesOnce event := by
  refine ⟨fun _ _ => filed.1, fun future task result found _ => ?_⟩
  exact filed.2 (future, task) (OrderedDict.get?_eq_some_iff.mp found)

/-- A request that expects a response and one that does not, both answered in time. -/
def answeredRun : List DispatcherEvent :=
  [.start, .enqueue (sampleRequest 7 (some 0x8204)) false, .iterate,
    .get ⟨sampleRequest 7 (some 0x8204), 0⟩ false, .advance 0 (.ok 1) 0, .wait 1,
    .enqueue (sampleRequest 8 none) false, .iterate, .get ⟨sampleRequest 8 none, 1⟩ false,
    .answer 0 (.ok [0x01]) 0, .advance 1 (.ok 2) 0, .answer 1 (.ok []) 0, .iterate]

theorem answeredRun_accounted :
    dispatcherSystem.Guarded KeepsAccounts (Dispatcher.new {} 0) answeredRun := by
  have ran : ∃ s ∈ dispatcherSystem.exec (Dispatcher.new {} 0) answeredRun,
      s.recorded.length = 2 := by decide +kernel
  obtain ⟨s, ran, _⟩ := ran
  refine (accounted_iff ?_ (by decide +kernel) ran).2.mpr ?_
  · simp [answeredRun]
  · have filed : dispatcherSystem.Guarded (fun s _ =>
        (∀ expired ∈ s.correlation.stale s.now, s.Filed expired.val.requestId) ∧
          ∀ entry ∈ s.tasks.entries, s.Filed entry.2.request.requestId)
        (Dispatcher.new {} 0) answeredRun := by decide +kernel
    exact EventSystem.Guarded.weaken _ (fun _ _ _ => completesOnce_of_filed) filed

/-- A request that expects a response is answered, and recorded again as timed out when its
deadline passes: nothing has taken its registration away. -/
theorem answeredRequest_timesOut : ∃ s ∈ dispatcherSystem.exec (Dispatcher.new {} 0)
    [.start, .enqueue (sampleRequest 7 (some 0x8204)) false, .iterate,
      .get ⟨sampleRequest 7 (some 0x8204), 0⟩ false, .advance 0 (.ok 1) 0, .answer 0 (.ok [0x01]) 0,
      .wait 60, .iterate],
    (s.books.recordings 7).map CommandResult.status = [.success, .timeout] ∧
      (s.books.appendings 7).map CommandResult.status = [.success, .timeout] ∧
      s.metrics.commandsSent = 2 ∧ s.metrics.commandsTimedOut = 1 := by
  decide +kernel

end Dispatcher

end TuyaBleMesh
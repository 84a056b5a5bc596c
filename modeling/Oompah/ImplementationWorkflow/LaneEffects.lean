import Oompah.ImplementationWorkflow.Controller
import Oompah.WorkflowJobs.Recurrence

/-!
# What the lane transactions leave

An event key ends in the number of the event that made it fresh, so that the key
of the next event is one no row has.  A transaction keeps every key that it finds
and adds keys of numbered events only.
-/

namespace Oompah
namespace ImplementationWorkflow

open Foundation WorkflowJobs

/-!
# Numbered texts
-/

/-- The text ends in a number that is within the bound. -/
def Numbered (bound : Nat) (text : String) : Prop :=
  exists (before : String) (n : Nat), text = before ++ ":" ++ toString n ∧ n ≤ bound

theorem Numbered.mono {bound bound' : Nat} {text : String} (h : Numbered bound text)
    (hle : bound ≤ bound') : Numbered bound' text := by
  rcases h with ⟨before, n, htext, hn⟩
  exact ⟨before, n, htext, hn.trans hle⟩

theorem Numbered.prepend {bound : Nat} {text : String} (h : Numbered bound text)
    (first : String) : Numbered bound (first ++ text) := by
  rcases h with ⟨before, n, rfl, hn⟩
  exact ⟨first ++ before, n, by simp only [String.append_assoc], hn⟩

theorem suffix_eq {α : Type} {x : α} {before before' after after' : List α}
    (h : x ∉ after) (h' : x ∉ after')
    (heq : before ++ x :: after = before' ++ x :: after') : after = after' := by
  rcases List.append_eq_append_iff.mp heq with ⟨rest, _, hrest⟩ | ⟨rest, _, hrest⟩
  · cases rest with
    | nil => exact (List.cons.inj hrest).right
    | cons first rest =>
      have hafter : after = rest ++ x :: after' := (List.cons.inj hrest).right
      exact absurd (hafter ▸ List.mem_append_right rest List.mem_cons_self) h
  · cases rest with
    | nil => exact (List.cons.inj hrest).right.symm
    | cons first rest =>
      have hafter : after' = rest ++ x :: after := (List.cons.inj hrest).right
      exact absurd (hafter ▸ List.mem_append_right rest List.mem_cons_self) h'

theorem colon_not_mem_repr (n : Nat) : ':' ∉ n.repr.toList := by
  intro hmem
  rw [Nat.toList_repr] at hmem
  exact absurd (Nat.isDigit_of_mem_toDigits (by decide) (by decide) hmem) (by decide)

theorem numbered_inj {before before' : String} {n n' : Nat}
    (h : before ++ ":" ++ toString n = before' ++ ":" ++ toString n') : n = n' := by
  have hlist := congrArg String.toList h
  simp only [String.toList_append, List.append_assoc] at hlist
  have hrepr : n.repr.toList = n'.repr.toList :=
    suffix_eq (colon_not_mem_repr n) (colon_not_mem_repr n') hlist
  rw [Nat.toList_repr, Nat.toList_repr] at hrepr
  calc n = Nat.ofDigitChars 10 (Nat.toDigits 10 n) 0 :=
        Nat.ofDigitChars_ten_toDigits.symm
    _ = Nat.ofDigitChars 10 (Nat.toDigits 10 n') 0 := by rw [hrepr]
    _ = n' := Nat.ofDigitChars_ten_toDigits

/-!
# Progress
-/

/-- No two rows of a project share an idempotency key. -/
def KeysUnique (s : Store) : Prop :=
  forall row other, row ∈ s.jobs.rows -> other ∈ s.jobs.rows ->
    row.spec.projectId = other.spec.projectId ->
    row.spec.idempotencyKey = other.spec.idempotencyKey -> row.jobId = other.jobId

/-- The rows and event cursors of a store that only event transactions fill. -/
structure EventRows (s : Store) : Prop where
  unmanaged : forall row, row ∈ s.jobs.rows -> row.workflowManaged = false
  numbered : forall row, row ∈ s.jobs.rows ->
    Numbered s.tables.eventSequence row.spec.idempotencyKey
  cursors : forall cursor, cursor ∈ s.tables.eventCursors ->
    Numbered s.tables.eventSequence cursor.eventGeneration
  unique : KeysUnique s

/-- Rows stay under their keys, and the counter of generations stays. -/
structure Progress (s s' : Store) : Prop where
  rows : EventRows s -> EventRows s'
  kept : forall projectId key, (s.findIdempotent projectId key).isSome ->
    (s'.findIdempotent projectId key).isSome
  generation : s'.tables.eventGeneration = s.tables.eventGeneration

variable {row : WorkflowJob}

namespace Progress

theorem refl (s : Store) : Progress s s := ⟨id, fun _ _ => id, rfl⟩

theorem trans {s s' s'' : Store} (h : Progress s s') (h' : Progress s' s'') : Progress s s'' := by
  constructor
  · exact fun hrows => h'.rows (h.rows hrows)
  · exact fun projectId key hkey => h'.kept projectId key (h.kept projectId key hkey)
  · exact h'.generation.trans h.generation

theorem tables {s s' : Store} (hjobs : s'.jobs = s.jobs)
    (hsequence : s.tables.eventSequence ≤ s'.tables.eventSequence)
    (hgeneration : s'.tables.eventGeneration = s.tables.eventGeneration)
    (hcursors : EventRows s -> forall cursor, cursor ∈ s'.tables.eventCursors ->
      cursor ∈ s.tables.eventCursors ∨
        Numbered s'.tables.eventSequence cursor.eventGeneration) : Progress s s' := by
  constructor
  · intro hrows
    constructor
    · rw [hjobs]
      exact hrows.unmanaged
    · rw [hjobs]
      exact fun row hrow => (hrows.numbered row hrow).mono hsequence
    · intro cursor hcursor
      rcases hcursors hrows cursor hcursor with hold | hnew
      · exact (hrows.cursors cursor hold).mono hsequence
      · exact hnew
    · unfold KeysUnique
      rw [hjobs]
      exact hrows.unique
  · intro projectId key hkey
    unfold Store.findIdempotent at hkey ⊢
    rw [hjobs]
    exact hkey
  · exact hgeneration

theorem act {s : Store} {action : RowAction} (jobId : String)
    (hcaptured : action.capturedRow = none) (hmanage : action ≠ .manage) :
    Progress s (s.act jobId action) := by
  have hupdated : forall row, (JobTable.update jobId action row).spec = row.spec ∧
      (JobTable.update jobId action row).workflowManaged = row.workflowManaged := by
    intro row
    unfold JobTable.update
    split
    · cases action with
      | manage => exact absurd rfl hmanage
      | restore captured => cases hcaptured
      | _ => exact ⟨rfl, rfl⟩
    · exact ⟨rfl, rfl⟩
  have hrow : forall row, row ∈ (s.act jobId action).jobs.rows ->
      exists old, old ∈ s.jobs.rows ∧ row = JobTable.update jobId action old := by
    intro row hmem
    rcases List.mem_map.mp hmem with ⟨old, hold, heq⟩
    exact ⟨old, hold, heq.symm⟩
  constructor
  · intro hrows
    constructor
    · intro row hmem
      rcases hrow row hmem with ⟨old, hold, rfl⟩
      rw [(hupdated old).right]
      exact hrows.unmanaged old hold
    · intro row hmem
      rcases hrow row hmem with ⟨old, hold, rfl⟩
      rw [(hupdated old).left]
      exact hrows.numbered old hold
    · exact hrows.cursors
    · intro row other hmem hother hproject hkey
      rcases hrow row hmem with ⟨old, hold, rfl⟩
      rcases hrow other hother with ⟨old', hold', rfl⟩
      rw [(hupdated old).left, (hupdated old').left] at hproject hkey
      rw [JobTable.update_jobId, JobTable.update_jobId]
      exact hrows.unique old old' hold hold' hproject hkey
  · intro projectId key hkey
    rw [Store.findIdempotent_act hcaptured, Option.isSome_map]
    exact hkey
  · rfl

theorem appendEvent (s : Store) (row : WorkflowJob) (event : LoggedEvent) (now : Int) :
    Progress s (s.appendEvent row event now) :=
  tables rfl (Nat.le_refl _) rfl (fun _ _ hcursor => Or.inl hcursor)

theorem actEach {plan : WorkflowJob -> Option (RowAction × Option LoggedEvent)}
    (hplan : forall row action event, plan row = some (action, event) ->
      action.capturedRow = none ∧ action ≠ .manage)
    (s : Store) (rows : List WorkflowJob) (now : Int) :
    Progress s (s.actEach rows plan now) := by
  induction rows generalizing s with
  | nil => exact refl s
  | cons row rest ih =>
    rw [Store.actEach_cons]
    apply Progress.trans _ (ih _)
    unfold Store.actOne
    split
    · exact refl s
    · rename_i action event haction
      have h := hplan row action _ haction
      exact (act row.jobId h.left h.right).trans (appendEvent _ _ _ _)
    · rename_i action haction
      have h := hplan row action _ haction
      exact act row.jobId h.left h.right

theorem retireEach (s : Store) (rows : List WorkflowJob) (retirement : JobRetirement) :
    Progress s (s.retireEach rows retirement) := by
  have htables := Store.retireEach_tables s rows retirement
  apply tables (Store.retireEach_jobs s rows retirement)
  · rw [htables]
  · rw [htables]
  · intro _ cursor hcursor
    rw [htables] at hcursor
    exact .inl hcursor

theorem insert {s : Store} (hfresh : row.jobId ∉ s.jobs.rows.map WorkflowJob.jobId)
    (hmanaged : row.workflowManaged = false)
    (hnumbered : EventRows s -> Numbered s.tables.eventSequence row.spec.idempotencyKey)
    (hnone : s.findIdempotent row.spec.projectId row.spec.idempotencyKey = none) :
    Progress s { s with jobs := s.jobs.insert row hfresh } := by
  have hother : forall old, old ∈ s.jobs.rows -> old.spec.projectId = row.spec.projectId ->
      old.spec.idempotencyKey ≠ row.spec.idempotencyKey := by
    intro old hold hproject hkey
    have hno := List.find?_eq_none.mp hnone old hold
    simp [hproject, hkey] at hno
  have hrow : forall other, other ∈ s.jobs.rows ++ [row] -> other ∈ s.jobs.rows ∨ other = row := by
    intro other hmem
    rcases List.mem_append.mp hmem with hold | hnew
    · exact .inl hold
    · exact .inr (List.mem_singleton.mp hnew)
  constructor
  · intro hrows
    constructor
    · intro other hmem
      rcases hrow other hmem with hold | rfl
      · exact hrows.unmanaged other hold
      · exact hmanaged
    · intro other hmem
      rcases hrow other hmem with hold | rfl
      · exact hrows.numbered other hold
      · exact hnumbered hrows
    · exact hrows.cursors
    · intro first second hfirst hsecond hproject hkey
      rcases hrow first hfirst with hold | hnew
      · rcases hrow second hsecond with hold' | hnew'
        · exact hrows.unique first second hold hold' hproject hkey
        · rw [hnew'] at hproject hkey
          exact absurd hkey (hother first hold hproject)
      · rcases hrow second hsecond with hold' | hnew'
        · rw [hnew] at hproject hkey
          exact absurd hkey.symm (hother second hold' hproject.symm)
        · rw [hnew, hnew']
  · intro projectId key hkey
    show ((s.jobs.rows ++ [row]).find? _).isSome
    rw [List.find?_append]
    cases hfind : s.jobs.rows.find? (fun row =>
        row.spec.projectId = projectId ∧ row.spec.idempotencyKey = key) with
    | none =>
      unfold Store.findIdempotent at hkey
      rw [hfind] at hkey
      cases hkey
    | some found => rfl
  · rfl

end Progress

/-!
# Orderings and cursors
-/

variable {s s' : Store} {projectId taskId : String}

theorem findOrdering_upsertOrdering (orderingNamespace revision : String)
    (generation : Nat) (now : Int) :
    (s.upsertOrdering projectId taskId orderingNamespace revision generation
        now).findOrdering projectId taskId orderingNamespace =
      some
        { projectId := projectId
          taskId := taskId
          orderingNamespace := orderingNamespace
          sourceGeneration := generation
          decisionRevision := revision
          updatedAt := now } := by
  unfold Store.findOrdering Store.upsertOrdering Store.withTables
  rw [List.find?_append, List.find?_eq_none.mpr]
  · simp
  · intro ordering hmem
    have hkeep := (List.mem_filter.mp hmem).right
    rw [decide_eq_true_eq] at hkeep ⊢
    exact hkeep

theorem findEventCursor_upsertEventCursor (request : Store.EventRequest)
    (generation : String) (now : Int) :
    (s.upsertEventCursor request generation now).findEventCursor request.projectId
        request.taskId request.lane =
      some
        { projectId := request.projectId
          taskId := request.taskId
          eventNamespace := request.lane
          eventRevision := request.decisionRevision
          eventGeneration := generation
          eventSequence := s.tables.eventSequence + 1
          updatedAt := now } := by
  unfold Store.findEventCursor Store.upsertEventCursor Store.withTables
  rw [List.find?_append, List.find?_eq_none.mpr]
  · simp
  · intro cursor hmem
    have hkeep := (List.mem_filter.mp hmem).right
    rw [decide_eq_true_eq] at hkeep ⊢
    exact hkeep

theorem findEventCursor_upsertEventCursor_ne (request : Store.EventRequest)
    (generation : String) (now : Int) {lane : String} (hlane : lane ≠ request.lane) :
    (s.upsertEventCursor request generation now).findEventCursor projectId taskId lane =
      s.findEventCursor projectId taskId lane := by
  unfold Store.findEventCursor Store.upsertEventCursor Store.withTables
  rw [List.find?_append, List.find?_filter]
  have hlast : ([{ projectId := request.projectId
                   taskId := request.taskId
                   eventNamespace := request.lane
                   eventRevision := request.decisionRevision
                   eventGeneration := generation
                   eventSequence := s.tables.eventSequence + 1
                   updatedAt := now }] : List WorkflowEventCursor).find?
      (fun cursor => cursor.projectId = projectId ∧ cursor.taskId = taskId ∧
        cursor.eventNamespace = lane) = none := by
    simp [Ne.symm hlane]
  rw [hlast, Option.or_none]
  congr 1
  funext cursor
  by_cases hcursor : cursor.eventNamespace = lane
  · have hother : cursor.eventNamespace ≠ request.lane := hcursor ▸ hlane
    simp [hother]
  · simp [hcursor]

/-!
# Enqueued events
-/

variable {spec : WorkflowJobSpec}

theorem enqueueLocked_fresh {newJobId : String} {now : Int}
    (hrow : row = WorkflowJob.fresh newJobId (s.jobs.rows.length + 1) spec false now)
    (hnone : s.findIdempotent spec.projectId spec.idempotencyKey = none)
    (hid : newJobId ≠ "") (hfresh : row.jobId ∉ s.jobs.rows.map WorkflowJob.jobId) :
    s.enqueueLocked spec newJobId false now =
      .ok (({ s with jobs := s.jobs.insert row hfresh } : Store).appendEvent row
        ⟨"enqueued", []⟩ now, row, true) := by
  subst hrow
  unfold Store.enqueueLocked
  rw [hnone]
  unfold requiredText require Store.insertFresh
  rw [if_pos hid]
  rw [dif_pos hfresh]
  rfl

theorem enqueueLocked_replayed {existing : WorkflowJob}
    (hfound : s.findIdempotent spec.projectId spec.idempotencyKey = some existing)
    (hspec : existing.spec = spec) (newJobId : String) (now : Int) :
    s.enqueueLocked spec newJobId false now = .ok (s, existing, false) := by
  unfold Store.enqueueLocked
  rw [hfound]
  dsimp only
  rw [if_neg (not_not_intro hspec), if_neg (fun h => Bool.false_ne_true h.left)]

theorem enqueueLocked_progress {newJobId : String} {now : Int} {created : Bool}
    (hnumbered : EventRows s -> Numbered s.tables.eventSequence spec.idempotencyKey)
    (h : s.enqueueLocked spec newJobId false now = .ok (s', row, created)) :
    Progress s s' := by
  cases hfind : s.findIdempotent spec.projectId spec.idempotencyKey with
  | some existing =>
    by_cases hspec : existing.spec = spec
    · rw [enqueueLocked_replayed hfind hspec] at h
      cases h
      exact Progress.refl s
    · unfold Store.enqueueLocked at h
      rw [hfind] at h
      dsimp only at h
      rw [if_pos hspec] at h
      cases h
  | none =>
    have hid : newJobId ≠ "" := by
      intro hempty
      unfold Store.enqueueLocked requiredText require at h
      rw [hfind, hempty] at h
      cases h
    by_cases hfresh : (WorkflowJob.fresh newJobId (s.jobs.rows.length + 1) spec false
        now).jobId ∉ s.jobs.rows.map WorkflowJob.jobId
    · rw [enqueueLocked_fresh rfl hfind hid hfresh] at h
      cases h
      exact (Progress.insert hfresh rfl hnumbered hfind).trans (Progress.appendEvent _ _ _ _)
    · unfold Store.enqueueLocked requiredText require Store.insertFresh at h
      rw [hfind, if_pos hid] at h
      rw [dif_neg hfresh] at h
      cases h

end ImplementationWorkflow
end Oompah

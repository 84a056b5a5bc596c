import Oompah.Dependencies.Issues

/-!
# Parent chains of changed issues

The walks up the parent chain end by themselves, and a change of the issues
that keeps their names, parents and projects keeps every walk.
-/

namespace Oompah
namespace Dependencies

open Foundation

/-!
# The walks end by themselves
-/

namespace ParentWalk

variable {walk : ParentWalk} {keys : List String}

/-- The parents a walk can go on from are among the keys. -/
def Within (walk : ParentWalk) (keys : List String) : Prop :=
  forall issue parentId parent, walk.parentId issue = some parentId ->
    walk.parent issue = some parent -> parentId ∈ keys

/-- More fuel than there are unseen parents does not change the lineage. -/
theorem lineage_fuel (h : walk.Within keys) (extra : Nat) {fuel : Nat}
    {seen : List String} {current : Issue}
    (hfuel : (keys.filter (fun key => key ∉ seen)).length ≤ fuel) :
    walk.lineage (fuel + extra) seen current = walk.lineage fuel seen current := by
  induction fuel generalizing seen current with
  | zero =>
    cases extra with
    | zero => rfl
    | succ extra =>
      simp only [lineage]
      split
      · rename_i parentId parent hid hparent
        rw [if_pos]
        by_contra hnew
        have hless := filter_unvisited_lt (h current parentId parent hid hparent) hnew
        omega
      · rfl
  | succ fuel ih =>
    rw [Nat.succ_add]
    simp only [lineage]
    split
    · rename_i parentId parent hid hparent
      split
      · rfl
      · rename_i hnew
        have hless := filter_unvisited_lt (h current parentId parent hid hparent) hnew
        rw [ih (by omega)]
    · rfl

theorem descends_fuel (h : walk.Within keys) (ancestor : String) (extra : Nat)
    {fuel : Nat} {seen : List String} {current : Issue}
    (hfuel : (keys.filter (fun key => key ∉ seen)).length < fuel) :
    walk.descends ancestor (fuel + extra) seen current =
      walk.descends ancestor fuel seen current := by
  induction fuel generalizing seen current with
  | zero => cases hfuel
  | succ fuel ih =>
    rw [Nat.succ_add]
    simp only [descends]
    split
    · rfl
    · rename_i parentId hid
      split
      · rfl
      · rename_i hnew
        split
        · rfl
        · split
          · rfl
          · rename_i parent hparent
            have hless := filter_unvisited_lt (h current parentId parent hid hparent) hnew
            exact ih (by omega)

end ParentWalk

theorem mem_of_lookup {α : Type} {entries : List (String × α)} {key : String} {value : α}
    (h : entries.lookup key = some value) : (key, value) ∈ entries := by
  rcases List.lookup_eq_some_iff.mp h with ⟨before, after, rfl, _⟩
  exact List.mem_append_right _ List.mem_cons_self

theorem effectiveWalk_within (index : List (String × Issue)) :
    (effectiveWalk index).Within (index.map Prod.fst) := by
  intro issue parentId parent hid hparent
  unfold effectiveWalk at hid hparent
  simp only at hid hparent
  split at hid
  · cases hid
  · cases hid
    exact List.mem_map_of_mem (mem_of_lookup hparent)

theorem indexNames_walk_within (names : IndexNames) : names.walk.Within
      ((names.index.map Prod.fst).map (resolve names.names) ++ names.unique.map Prod.fst) := by
  intro issue parentId parent hid hparent
  unfold IndexNames.walk at hid hparent
  simp only at hid hparent
  split at hid
  · cases hid
  · cases hid
    rw [List.mem_append]
    cases hindex : names.index.lookup (strip issue.parentId) with
    | some found => exact .inl (List.mem_map_of_mem (List.mem_map_of_mem (mem_of_lookup hindex)))
    | none =>
      rw [hindex, Option.none_or] at hparent
      exact .inr (List.mem_map_of_mem (mem_of_lookup hparent))

/-- Every walk ends by itself, also along parents that form a cycle. -/
theorem parentWalks_end (index : List (String × Issue)) (names : IndexNames) (ancestor : String)
    (issue : Issue) (extra : Nat) :
    let fuel := names.index.length + names.unique.length
    (effectiveWalk index).lineage (index.length + extra) [] issue = effectiveLineage index issue ∧
      names.walk.lineage (fuel + extra) [] issue = names.lineage issue ∧
      names.walk.descends ancestor (fuel + 1 + extra) [] issue =
        names.walk.descends ancestor (fuel + 1) [] issue := by
  have hindex : ((index.map Prod.fst).filter fun key => key ∉ []).length ≤ index.length :=
    (List.length_filter_le _ _).trans_eq (List.length_map _)
  have hnames := List.length_filter_le (fun key => key ∉ []) ((names.index.map Prod.fst).map
    (resolve names.names) ++ names.unique.map Prod.fst)
  rw [List.length_append, List.length_map, List.length_map, List.length_map] at hnames
  exact ⟨ParentWalk.lineage_fuel (effectiveWalk_within index) extra hindex,
    ParentWalk.lineage_fuel (indexNames_walk_within names) extra hnames,
    ParentWalk.descends_fuel (indexNames_walk_within names) ancestor extra
      (Nat.lt_succ_of_le hnames)⟩

/-!
# Changes that keep the names

A change of the issues that keeps their identifiers, parents and projects
keeps every name and every walk.
-/

structure KeepsNames (f : Issue -> Issue) : Prop where
  id : forall issue, (f issue).id = issue.id
  identifier : forall issue, (f issue).identifier = issue.identifier
  parentId : forall issue, (f issue).parentId = issue.parentId
  projectId : forall issue, (f issue).projectId = issue.projectId

theorem addDependency_keepsNames (type : DependencyType) (blocked : String)
    (ref : BlockerRef) : KeepsNames (addDependency type blocked ref) := by
  constructor <;>
  · intro issue
    unfold addDependency Issue.addDependency
    split
    · cases type <;> rfl
    · rfl

section Change

variable {f : Issue -> Issue} (h : KeepsNames f)

include h

theorem KeepsNames.canonical (issue : Issue) : (f issue).canonical = issue.canonical := by
  unfold Issue.canonical
  rw [h.id, h.identifier]

theorem KeepsNames.aliases (issue : Issue) : (f issue).aliases = issue.aliases := by
  unfold Issue.aliases
  rw [h.id, h.identifier]

omit h in
theorem lookup_map {α β : Type} (g : α -> β) (entries : List (String × α)) (key : String) :
    (entries.map (Prod.map id g)).lookup key = (entries.lookup key).map g := by
  induction entries with
  | nil => rfl
  | cons entry rest ih =>
    rw [List.map_cons, List.lookup_cons, List.lookup_cons]
    show (match key == entry.1 with | true => _ | false => _) = _
    cases key == entry.1 with
    | true => rfl
    | false => exact ih

omit h in
theorem setItem_map {α β : Type} (g : α -> β) (entries : List (String × α))
    (key : String) (value : α) :
    setItem (entries.map (Prod.map id g)) key (g value) =
      (setItem entries key value).map (Prod.map id g) := by
  induction entries with
  | nil => rfl
  | cons entry rest ih =>
    by_cases heq : entry.1 = key
    · simp [setItem, heq]
    · simp [setItem, heq, ih]

omit h in
theorem foldl_setItem_map {α β : Type} (g : α -> β) (keys : List String)
    (entries : List (String × α)) (value : α) :
    keys.foldl (fun acc key => setItem acc key (g value)) (entries.map (Prod.map id g)) =
      (keys.foldl (fun acc key => setItem acc key value) entries).map (Prod.map id g) := by
  induction keys generalizing entries with
  | nil => rfl
  | cons key rest ih => rw [List.foldl_cons, List.foldl_cons, setItem_map, ih]

theorem issueIndex_map (issues : List Issue) :
    issueIndex (issues.map f) = (issueIndex issues).map (Prod.map id f) := by
  suffices hfold : forall index : List (String × Issue), (issues.map f).foldl
          (fun index issue => issue.aliases.foldl
            (fun index name => setItem index name issue) index)
          (index.map (Prod.map id f)) =
        (issues.foldl (fun index issue => issue.aliases.foldl
            (fun index name => setItem index name issue) index)
          index).map (Prod.map id f) by
    exact hfold []
  induction issues with
  | nil => exact fun _ => rfl
  | cons issue rest ih =>
    intro index
    rw [List.map_cons, List.foldl_cons, List.foldl_cons, h.aliases, foldl_setItem_map, ih]

theorem aliasNames_map (issues : List Issue) : aliasNames (issues.map f) = aliasNames issues := by
  unfold aliasNames
  rw [List.foldl_map]
  simp only [h.canonical, h.aliases]

theorem uniqueIssues_map (issues : List Issue) :
    uniqueIssues (issues.map f) = (uniqueIssues issues).map (Prod.map id f) := by
  suffices hfold : forall unique : List (String × Issue), (issues.map f).foldl
          (fun unique issue => if issue.canonical = "" then unique
            else setItem unique issue.canonical issue)
          (unique.map (Prod.map id f)) =
        (issues.foldl (fun unique issue => if issue.canonical = "" then unique
            else setItem unique issue.canonical issue)
          unique).map (Prod.map id f) by
    exact hfold []
  induction issues with
  | nil => exact fun _ => rfl
  | cons issue rest ih =>
    intro unique
    rw [List.map_cons, List.foldl_cons, List.foldl_cons, h.canonical]
    split
    · exact ih unique
    · rw [setItem_map]
      exact ih _

omit h in
theorem lineage_map {walk walk' : ParentWalk}
    (hid : forall issue, walk'.parentId (f issue) = walk.parentId issue)
    (hparent : forall issue, walk'.parent (f issue) = (walk.parent issue).map f)
    (fuel : Nat) (seen : List String) (current : Issue) :
    walk'.lineage fuel seen (f current) = (walk.lineage fuel seen current).map f := by
  induction fuel generalizing seen current with
  | zero => rfl
  | succ fuel ih =>
    simp only [ParentWalk.lineage, hid, hparent, List.map_cons]
    cases walk.parentId current with
    | none => rfl
    | some parentId =>
      cases walk.parent current with
      | none => rfl
      | some parent =>
        simp only [Option.map_some]
        split
        · rfl
        · rw [ih]

omit h in
theorem descends_map {walk walk' : ParentWalk}
    (hid : forall issue, walk'.parentId (f issue) = walk.parentId issue)
    (hparent : forall issue, walk'.parent (f issue) = (walk.parent issue).map f)
    (ancestor : String) (fuel : Nat) (seen : List String) (current : Issue) :
    walk'.descends ancestor fuel seen (f current) = walk.descends ancestor fuel seen current := by
  induction fuel generalizing seen current with
  | zero => rfl
  | succ fuel ih =>
    simp only [ParentWalk.descends, hid, hparent]
    cases walk.parentId current with
    | none => rfl
    | some parentId =>
      cases walk.parent current with
      | none => rfl
      | some parent =>
        simp only [Option.map_some]
        rw [ih]

theorem effectiveLineage_map (index : List (String × Issue)) (issue : Issue) :
    effectiveLineage (index.map (Prod.map id f)) (f issue) =
      (effectiveLineage index issue).map f := by
  unfold effectiveLineage
  rw [List.length_map]
  apply lineage_map
  · intro current
    simp only [effectiveWalk, h.parentId]
  · intro current
    simp only [effectiveWalk, h.parentId, lookup_map]

theorem indexNames_map (index : List (String × Issue)) : indexNames (index.map (Prod.map id f)) =
      { index := index.map (Prod.map id f)
        names := (indexNames index).names
        unique := (indexNames index).unique.map (Prod.map id f) } := by
  have hvalues : (index.map (Prod.map id f)).map Prod.snd = (index.map Prod.snd).map f := by
    rw [List.map_map, List.map_map]
    rfl
  unfold indexNames
  rw [hvalues, aliasNames_map h, uniqueIssues_map h]

theorem indexNames_lineage_map (index : List (String × Issue)) (issue : Issue) :
    (indexNames (index.map (Prod.map id f))).lineage (f issue) =
      ((indexNames index).lineage issue).map f := by
  rw [indexNames_map h]
  unfold IndexNames.lineage
  simp only [List.length_map]
  apply lineage_map
  · intro current
    simp only [IndexNames.walk, h.parentId]
  · intro current
    simp only [IndexNames.walk, h.parentId, lookup_map, Option.map_or]
    rfl

theorem isDescendant_map (index : List (String × Issue)) (candidate : Issue) (ancestor : String) :
    (indexNames (index.map (Prod.map id f))).isDescendant (f candidate) ancestor =
      (indexNames index).isDescendant candidate ancestor := by
  have hdescends : forall fuel seen,
      (indexNames (index.map (Prod.map id f))).walk.descends ancestor fuel seen (f candidate) =
        (indexNames index).walk.descends ancestor fuel seen candidate := by
    intro fuel seen
    rw [indexNames_map h]
    apply descends_map
    · intro current
      simp only [IndexNames.walk, h.parentId]
    · intro current
      simp only [IndexNames.walk, h.parentId, lookup_map, Option.map_or]
      rfl
  unfold IndexNames.isDescendant
  rw [hdescends, indexNames_map h]
  simp only [IndexNames.project, lookup_map, h.projectId, List.length_map,
    Option.map_map, Function.comp_def]
  rfl

theorem containerRollup_map (index : List (String × Issue)) (dependency current : String) :
    (indexNames (index.map (Prod.map id f))).containerRollup dependency current =
      (indexNames index).containerRollup dependency current := by
  have hunique : (indexNames (index.map (Prod.map id f))).unique.lookup
      dependency = ((indexNames index).unique.lookup dependency).map f := by
    rw [indexNames_map h]
    exact lookup_map f _ dependency
  unfold IndexNames.containerRollup
  rw [hunique]
  cases (indexNames index).unique.lookup dependency with
  | none => rfl
  | some issue =>
    simp only [Option.map_some]
    rw [isDescendant_map h]

end Change
end Dependencies
end Oompah

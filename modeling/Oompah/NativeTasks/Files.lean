import Mathlib.Data.List.Sort
import Oompah.NativeTasks.Identifiers
import Oompah.TaskEvaluation.Contract

/-!
# The files of native tasks

One Markdown file holds one task: its front matter and its body, in the directory of
its status.  Of two files with one identifier the one updated last is read.
-/

namespace Oompah
namespace NativeTasks

open Foundation
open TaskEvaluation (statusKey canonicalizeStatus)

/-!
# Files and records
-/

/-- The durable key of an atomic create-once request. -/
structure CreationKey where
  projectId : String
  operationKind : String
  creationMarker : String
  requestFingerprint : String
  deriving DecidableEq

structure TaskMeta where
  id : String
  type : String
  status : String
  priority : Option Int
  title : String
  parent : Option String
  children : List String
  labels : List String
  createdAt : String
  updatedAt : String
  createOnce : Option CreationKey
  deriving DecidableEq

structure TaskPath where
  directory : String
  stem : String
  deriving DecidableEq

structure TaskRecord where
  path : TaskPath
  front : TaskMeta
  body : String
  deriving DecidableEq

/-- A file whose front matter cannot be read has no content. -/
structure TaskFile where
  path : TaskPath
  content : Option (TaskMeta × String)
  deriving DecidableEq

def TaskFile.record (file : TaskFile) : Option TaskRecord :=
  file.content.map (fun content =>
    { path := file.path, front := content.1, body := content.2 })

/-- `str(meta.get("id") or path.stem)`. -/
def TaskRecord.identifier (record : TaskRecord) : String :=
  if record.front.id = "" then record.path.stem else record.front.id

def TaskPath.text (path : TaskPath) : String :=
  path.directory ++ "/" ++ path.stem ++ ".md"

def TaskPath.order (first second : TaskPath) : Prop :=
  first.directory < second.directory ∨
    (first.directory = second.directory ∧ first.stem ++ ".md" ≤ second.stem ++ ".md")

instance : DecidableRel TaskPath.order := fun first second => by
  unfold TaskPath.order
  infer_instance

/-!
# Directories of statuses
-/

/-- `_STATUS_DIRS`. -/
def statusDirs : List (String × String) :=
  [("proposed", "proposed"), ("backlog", "backlog"), ("open", "open"),
    ("in progress", "in-progress"), ("needs answer", "needs-answer"),
    ("needs human", "needs-human"), ("needs ci fix", "needs-ci-fix"),
    ("needs rebase", "needs-rebase"), ("in review", "in-review"),
    ("in validation", "in-validation"), ("decomposed", "decomposed"),
    ("duplicate candidate", "duplicate-candidate"), ("done", "done"),
    ("merged", "merged"), ("archived", "archived")]

section Runtime

variable (rt : Runtime)

def statusDir (status : String) : String :=
  let key := statusKey rt (.str (canonicalizeStatus rt (.str status)).text)
  match statusDirs.lookup key with
  | some directory => directory
  | none =>
    let hyphened := String.ofList (key.toList.map (fun c => if c = ' ' then '-' else c))
    if hyphened = "" then "backlog" else hyphened

def pathFor (identifier status : String) : TaskPath where
  directory := statusDir rt status
  stem := safeId identifier

/-!
# Reading
-/

def TaskRecord.lookup (record : TaskRecord) : String :=
  lookupId rt record.identifier

/-- `_parse_timestamp`. -/
def parseTimestamp (text : String) : Option Instant :=
  let zoned :=
    if text.toList.getLast? = some 'Z' then
      String.ofList (text.toList.dropLast ++ "+00:00".toList)
    else
      text
  match rt.isoTime zoned with
  | .aware instant => some instant
  | _ => none

/-- `recency(record) > recency(previous)`: no time counts as the earliest. -/
def moreRecent (record previous : TaskRecord) : Bool :=
  let updated := (parseTimestamp rt record.front.updatedAt).getD 0
  let before := (parseTimestamp rt previous.front.updatedAt).getD 0
  before < updated ∨ (before = updated ∧ previous.path.text < record.path.text)

def sameTask (first second : TaskRecord) : Bool :=
  first.lookup rt = second.lookup rt

/-- One file of the scan enters the records by identifier. -/
def addRecord (records : List TaskRecord) (file : TaskFile) : List TaskRecord :=
  match file.record with
  | none => records
  | some record =>
    match records.find? (sameTask rt record) with
    | none => records ++ [record]
    | some previous =>
      if moreRecent rt record previous then
        records.map (fun known => if sameTask rt record known then record else known)
      else
        records

/-- `_read_records`. -/
def readRecords (files : List TaskFile) : List TaskRecord :=
  (files.insertionSort (fun first second => first.path.order second.path)).foldl (addRecord rt) []

/-- `_read_record`. -/
def readRecord (files : List TaskFile) (identifier : String) : Option TaskRecord :=
  (readRecords rt files).find? (fun record =>
    record.lookup rt = lookupId rt identifier)

/-!
# Writing
-/

/-- `_write_markdown`: the file is replaced as a whole. -/
def writeMarkdown (files : List TaskFile) (path : TaskPath) (front : TaskMeta)
    (body : String) : List TaskFile :=
  let written : TaskFile := { path := path, content := some (front, body) }
  if path ∈ files.map TaskFile.path then
    files.map (fun file => if file.path = path then written else file)
  else
    files ++ [written]

def addText (result : List String) (value : String) : List String :=
  let text := strip value
  if text = "" ∨ rt.lower text ∈ result.map rt.lower then result
  else result ++ [text]

/-- `_dedupe_strings`: the first text of each letter case stays. -/
def dedupeStrings (values : List String) : List String :=
  values.foldl (addText rt) []

/-- `_string_list`. -/
def stringList (values : List String) : List String :=
  values.filter (fun value => value ≠ "")

/-!
# Stores

A store holds one file for each path and one for each identifier, and no identifier has
space around it.
-/

def records (files : List TaskFile) : List TaskRecord :=
  files.filterMap TaskFile.record

structure WellFormed (files : List TaskFile) : Prop where
  paths : (files.map TaskFile.path).Nodup
  identifiers : ((records files).map (TaskRecord.lookup rt)).Nodup
  stripped : forall record, record ∈ records files -> strip record.identifier = record.identifier

structure TaskStore where
  files : List TaskFile
  wellFormed : WellFormed rt files

end Runtime

section Lemmas

variable {rt : Runtime} {files : List TaskFile}

/-!
# What is read

With one file for each identifier the scan reads every file that can be read.
-/

variable {record : TaskRecord}

theorem mem_records : record ∈ records files <->
      exists file, file ∈ files ∧ file.record = some record :=
  List.mem_filterMap

theorem record_path {file : TaskFile}
    (h : file.record = some record) : record.path = file.path := by
  rcases Option.map_eq_some_iff.mp h with ⟨content, _, heq⟩
  rw [← heq]

theorem foldl_addRecord (known : List TaskRecord)
    (h : ((known ++ records files).map (TaskRecord.lookup rt)).Nodup) :
    files.foldl (addRecord rt) known = known ++ records files := by
  induction files generalizing known with
  | nil => simp [records]
  | cons file rest ih =>
    rw [List.foldl_cons]
    cases hrecord : file.record with
    | none =>
      have hrecords : records (file :: rest) = records rest := by
        unfold records
        rw [List.filterMap_cons, hrecord]
      rw [hrecords] at h ⊢
      have hadd : addRecord rt known file = known := by
        unfold addRecord
        rw [hrecord]
      rw [hadd]
      exact ih known h
    | some record =>
      have hrecords : records (file :: rest) = record :: records rest := by
        unfold records
        rw [List.filterMap_cons, hrecord]
      rw [hrecords] at h ⊢
      have hunknown : known.find? (sameTask rt record) = none := by
        rw [List.find?_eq_none]
        intro other hother
        unfold sameTask
        rw [decide_eq_true_eq]
        rw [List.map_append, List.map_cons] at h
        exact (List.nodup_append.mp h).right.right _
          (List.mem_map_of_mem hother) _ List.mem_cons_self ∘ Eq.symm
      have hadd : addRecord rt known file = known ++ [record] := by
        unfold addRecord
        rw [hrecord]
        simp only [hunknown]
      rw [hadd, ih (known ++ [record]) (by simpa using h)]
      simp

theorem WellFormed.readRecords_perm (h : WellFormed rt files) :
    (readRecords rt files).Perm (records files) := by
  have hperm := List.perm_insertionSort
    (fun first second : TaskFile => first.path.order second.path) files
  have hrecords : (records _).Perm (records files) := hperm.filterMap TaskFile.record
  have hnodup := (hrecords.map (TaskRecord.lookup rt)).nodup_iff.mpr h.identifiers
  unfold readRecords
  rw [foldl_addRecord [] hnodup]
  exact hrecords

theorem WellFormed.mem_readRecords (h : WellFormed rt files) :
    record ∈ readRecords rt files <-> record ∈ records files :=
  h.readRecords_perm.mem_iff

theorem WellFormed.eq_of_lookupId (h : WellFormed rt files) {first second : TaskRecord}
    (hfirst : first ∈ records files) (hsecond : second ∈ records files)
    (hid : first.lookup rt = second.lookup rt) : first = second :=
  List.inj_on_of_nodup_map h.identifiers hfirst hsecond hid

theorem WellFormed.readRecord_eq_some (h : WellFormed rt files) {identifier : String} :
    readRecord rt files identifier = some record <-> record ∈ records files ∧
        record.lookup rt = lookupId rt identifier := by
  constructor
  · intro hread
    have hfound := List.find?_some hread
    rw [decide_eq_true_eq] at hfound
    exact ⟨h.mem_readRecords.mp (List.mem_of_find?_eq_some hread), hfound⟩
  · rintro ⟨hmem, hid⟩
    cases hread : readRecord rt files identifier with
    | none =>
      have hnone := List.find?_eq_none.mp hread record (h.mem_readRecords.mpr hmem)
      simp [hid] at hnone
    | some found =>
      have hfound := List.find?_some hread
      rw [decide_eq_true_eq] at hfound
      have hfoundMem := h.mem_readRecords.mp (List.mem_of_find?_eq_some hread)
      rw [h.eq_of_lookupId hfoundMem hmem (hfound.trans hid.symm)]

/-!
# What is written
-/

/-- A task whose path and identifier are new. -/
structure FreshTask (rt : Runtime) (files : List TaskFile) (record : TaskRecord) :
    Prop where
  path : record.path ∉ files.map TaskFile.path
  identifier : forall other, other ∈ records files -> other.lookup rt ≠ record.lookup rt
  stripped : strip record.identifier = record.identifier

def withTask (files : List TaskFile) (record : TaskRecord) : List TaskFile :=
  files ++ [{ path := record.path, content := some (record.front, record.body) }]

theorem records_withTask (record : TaskRecord) :
    records (withTask files record) = records files ++ [record] := by
  unfold records withTask
  rw [List.filterMap_append]
  rfl

theorem FreshTask.writeMarkdown (h : FreshTask rt files record) :
    writeMarkdown files record.path record.front record.body = withTask files record := by
  unfold NativeTasks.writeMarkdown
  rw [if_neg h.path]
  rfl

theorem FreshTask.wellFormed (h : FreshTask rt files record)
    (hfiles : WellFormed rt files) : WellFormed rt (withTask files record) where
  paths := by
    unfold withTask
    rw [List.map_append, List.nodup_append]
    refine ⟨hfiles.paths, by simp, ?_⟩
    intro path hpath other hother heq
    rw [List.map_singleton, List.mem_singleton] at hother
    rw [heq, hother] at hpath
    exact h.path hpath
  identifiers := by
    rw [records_withTask, List.map_append, List.nodup_append]
    refine ⟨hfiles.identifiers, by simp, ?_⟩
    intro id hid other hother heq
    rw [List.map_singleton, List.mem_singleton] at hother
    rcases List.mem_map.mp hid with ⟨known, hknown, hlookup⟩
    exact h.identifier known hknown (hlookup.trans (heq.trans hother))
  stripped := by
    intro other hother
    rw [records_withTask, List.mem_append, List.mem_singleton] at hother
    rcases hother with hold | hnew
    · exact hfiles.stripped other hold
    · exact hnew ▸ h.stripped

/-- A record in place of the one with its path. -/
def replaced (record known : TaskRecord) : TaskRecord :=
  if known.path = record.path then record else known

theorem WellFormed.record_of_path (h : WellFormed rt files)
    (hrecord : record ∈ records files) {file : TaskFile} (hfile : file ∈ files)
    (hpath : file.path = record.path) : file.record = some record := by
  rcases mem_records.mp hrecord with ⟨own, hown, hread⟩
  have hsame : own.path = file.path := by rw [hpath, record_path hread]
  rw [← List.inj_on_of_nodup_map h.paths hown hfile hsame]
  exact hread

theorem WellFormed.writeMarkdown_eq (hrecord : record ∈ records files) (front : TaskMeta) :
    writeMarkdown files record.path front record.body =
      files.map (fun file =>
        if file.path = record.path then
          { path := record.path, content := some (front, record.body) }
        else file) := by
  rcases mem_records.mp hrecord with ⟨own, hown, hread⟩
  have hmem : record.path ∈ files.map TaskFile.path := by
    rw [record_path hread]
    exact List.mem_map_of_mem hown
  unfold writeMarkdown
  rw [if_pos hmem]

theorem WellFormed.records_writeMarkdown (h : WellFormed rt files)
    (hrecord : record ∈ records files) (front : TaskMeta) :
    records (writeMarkdown files record.path front record.body) =
      (records files).map (replaced { record with front := front }) := by
  rw [writeMarkdown_eq hrecord]
  unfold records
  rw [List.filterMap_map, List.map_filterMap]
  apply List.filterMap_congr
  intro file hfile
  show TaskFile.record (if file.path = record.path then _ else file) = _
  split
  · rename_i hpath
    rw [h.record_of_path hrecord hfile hpath]
    show some _ = some (replaced _ record)
    unfold replaced
    rw [if_pos rfl]
  · rename_i hpath
    cases hread : file.record with
    | none => rfl
    | some known =>
      have hother : known.path ≠ record.path := by
        rw [record_path hread]
        exact hpath
      show some known = some (replaced _ known)
      unfold replaced
      rw [if_neg hother]

theorem WellFormed.eq_of_path (h : WellFormed rt files) {record known : TaskRecord}
    (hrecord : record ∈ records files) (hknown : known ∈ records files)
    (hpath : known.path = record.path) : known = record := by
  rcases mem_records.mp hknown with ⟨file, hfile, hread⟩
  have hsame := h.record_of_path hrecord hfile ((record_path hread).symm.trans hpath)
  rw [hread] at hsame
  exact Option.some.inj hsame

theorem WellFormed.replaced_identifier (h : WellFormed rt files) {record known : TaskRecord}
    (hrecord : record ∈ records files) (hknown : known ∈ records files)
    {front : TaskMeta} (hid : front.id = record.front.id) :
    (replaced { record with front := front } known).identifier = known.identifier := by
  unfold replaced
  split
  · rename_i hpath
    rw [h.eq_of_path hrecord hknown hpath]
    unfold TaskRecord.identifier
    rw [hid]
  · rfl

theorem WellFormed.update (h : WellFormed rt files)
    (hrecord : record ∈ records files) {front : TaskMeta} (hid : front.id = record.front.id) :
    WellFormed rt (writeMarkdown files record.path front record.body) := by
  constructor
  · rw [writeMarkdown_eq hrecord, List.map_map]
    have hpaths : files.map (TaskFile.path ∘ fun file =>
        if file.path = record.path then
          { path := record.path, content := some (front, record.body) }
        else file) = files.map TaskFile.path := by
      apply List.map_congr_left
      intro file _
      show TaskFile.path (if file.path = record.path then _ else file) = file.path
      split
      · rename_i hpath
        exact hpath.symm
      · rfl
    rw [hpaths]
    exact h.paths
  · rw [h.records_writeMarkdown hrecord, List.map_map]
    have hlookups : (records files).map (TaskRecord.lookup rt ∘
        replaced { record with front := front }) = (records files).map (TaskRecord.lookup rt) := by
      apply List.map_congr_left
      intro known hknown
      show lookupId rt _ = lookupId rt _
      rw [h.replaced_identifier hrecord hknown hid]
    rw [hlookups]
    exact h.identifiers
  · intro known hknown
    rw [h.records_writeMarkdown hrecord] at hknown
    rcases List.mem_map.mp hknown with ⟨before, hbefore, heq⟩
    rw [← heq, h.replaced_identifier hrecord hbefore hid]
    exact h.stripped before hbefore

/-!
# Lists of texts
-/

theorem mem_lowered_dedupe {result values : List String} {value : String}
    (h : rt.lower (strip value) ∈ result.map rt.lower ∨ value ∈ values ∧ strip value ≠ "") :
    rt.lower (strip value) ∈ (values.foldl (addText rt) result).map rt.lower := by
  induction values generalizing result with
  | nil =>
    rcases h with hknown | ⟨hmem, _⟩
    · exact hknown
    · cases hmem
  | cons first rest ih =>
    apply ih
    unfold addText
    dsimp only
    rcases h with hknown | ⟨hmem, hne⟩
    · refine .inl ?_
      split
      · exact hknown
      · rw [List.map_append]
        exact List.mem_append_left _ hknown
    · rcases List.mem_cons.mp hmem with hhead | htail
      · subst hhead
        refine .inl ?_
        split
        · rename_i hskip
          exact hskip.resolve_left hne
        · rw [List.map_append]
          exact List.mem_append_right _ (by simp)
      · exact .inr ⟨htail, hne⟩

theorem dedupe_distinct {result : List String} (values : List String)
    (hresult : (result.map rt.lower).Nodup ∧ forall text, text ∈ result -> strip text = text) :
    ((values.foldl (addText rt) result).map rt.lower).Nodup ∧
      forall text, text ∈ values.foldl (addText rt) result -> strip text = text := by
  induction values generalizing result with
  | nil => exact hresult
  | cons first rest ih =>
    apply ih
    unfold addText
    dsimp only
    split
    · exact hresult
    · rename_i hnew
      constructor
      · rw [List.map_append, List.nodup_append]
        refine ⟨hresult.left, by simp, ?_⟩
        intro text htext other hother heq
        rw [List.map_singleton, List.mem_singleton] at hother
        exact hnew (Or.inr (hother ▸ heq ▸ htext))
      · intro text htext
        rcases List.mem_append.mp htext with hold | hadded
        · exact hresult.right text hold
        · rw [List.mem_singleton] at hadded
          rw [hadded, strip_strip]

/-- A text that is given to the list is there once, whatever its letter case. -/
theorem dedupeStrings_once {values : List String} {value : String} (h : value ∈ values)
    (hne : strip value ≠ "") :
    (dedupeStrings rt values).countP (fun text => lookupId rt text = lookupId rt value) =
      1 := by
  have hmem : rt.lower (strip value) ∈ (dedupeStrings rt values).map rt.lower :=
    mem_lowered_dedupe (Or.inr ⟨h, hne⟩)
  have hdistinct : ((dedupeStrings rt values).map rt.lower).Nodup ∧
      forall text, text ∈ dedupeStrings rt values -> strip text = text :=
    dedupe_distinct values ⟨by simp, by simp⟩
  revert hmem hdistinct
  generalize dedupeStrings rt values = result
  intro hmem hdistinct
  have hlookup : result.map (lookupId rt) = result.map rt.lower := by
    apply List.map_congr_left
    intro text htext
    unfold lookupId
    rw [hdistinct.right text htext]
  have hcount := List.count_eq_one_of_mem hdistinct.left hmem
  rw [← hlookup, List.count_eq_countP, List.countP_map] at hcount
  rw [← hcount]
  apply List.countP_congr
  intro text _
  exact decide_eq_true_iff.trans beq_iff_eq.symm

end Lemmas
end NativeTasks
end Oompah

import Mathlib.Data.List.Sort
import Mathlib.Data.List.Dedup
import Oompah.Foundation.Graph

/-!
# Task dependencies

The dependency helpers shared by dispatch and ordered integration: the alias
index, the dependencies a task has or inherits from its containers, and the
check of a new edge.

An absent identifier is the empty string.  The walks up the parent chain stop
at a parent they have seen, so fuel above the number of indexed parents never
runs out.
-/

namespace Oompah
namespace Dependencies

open Foundation

/-!
# Identifiers
-/

/-- The characters `str.strip` removes. -/
def isSpace (c : Char) : Bool :=
  (9 ≤ c.toNat && c.toNat ≤ 13) || (28 ≤ c.toNat && c.toNat ≤ 32) ||
    (8192 ≤ c.toNat && c.toNat ≤ 8202) ||
    c.toNat ∈ [133, 160, 5760, 8232, 8233, 8239, 8287, 12288]

def strip (value : String) : String :=
  String.ofList ((value.toList.dropWhile isSpace).reverse.dropWhile isSpace).reverse

/-- `first or second` on strings. -/
def orElse (first second : String) : String :=
  if first = "" then second else first

structure BlockerRef where
  id : String := ""
  identifier : String := ""
  deriving DecidableEq

structure Issue where
  id : String := ""
  identifier : String := ""
  parentId : String := ""
  projectId : String := ""
  blockedBy : List BlockerRef := []
  startBlockedBy : List BlockerRef := []
  deriving DecidableEq

/-- An identifier as the dependency request handler passes it on. -/
structure Identifier where
  value : String
  stripped : strip value = value
  nonempty : value ≠ ""

def refIdentifier (ref : BlockerRef) : String :=
  strip (orElse ref.identifier ref.id)

namespace Issue

def canonical (issue : Issue) : String :=
  strip (orElse issue.identifier issue.id)

def aliases (issue : Issue) : List String :=
  ([issue.id, issue.identifier].map strip).filter (fun value => value ≠ "")

end Issue

/-!
# Dictionaries

A `dict` keeps the position of a key it already has.
-/

def setItem {α : Type} : List (String × α) -> String -> α -> List (String × α)
  | [], key, value => [(key, value)]
  | entry :: rest, key, value =>
    if entry.1 = key then (key, value) :: rest
    else entry :: setItem rest key value

def issueIndex (issues : List Issue) : List (String × Issue) :=
  issues.foldl
    (fun index issue =>
      issue.aliases.foldl (fun index name => setItem index name issue) index)
    []

/-- The canonical name of every alias of the issues that have one. -/
def aliasNames (issues : List Issue) : List (String × String) :=
  issues.foldl
    (fun names issue =>
      if issue.canonical = "" then names
      else issue.aliases.foldl (fun names name => setItem names name issue.canonical) names)
    []

def uniqueIssues (issues : List Issue) : List (String × Issue) :=
  issues.foldl
    (fun unique issue =>
      if issue.canonical = "" then unique
      else setItem unique issue.canonical issue)
    []

def resolve (names : List (String × String)) (identifier : String) : String :=
  (names.lookup identifier).getD identifier

/-!
# Parent chains
-/

/-- How a walk names the parent of an issue and looks the parent up. -/
structure ParentWalk where
  parentId : Issue -> Option String
  parent : Issue -> Option Issue

namespace ParentWalk

/-- An issue and its ancestors, up to a parent that was seen. -/
def lineage (walk : ParentWalk) : Nat -> List String -> Issue -> List Issue
  | 0, _, current => [current]
  | fuel + 1, seen, current =>
    current ::
      match walk.parentId current, walk.parent current with
      | some parentId, some parent =>
        if parentId ∈ seen then []
        else walk.lineage fuel (parentId :: seen) parent
      | _, _ => []

/-- `_is_descendant` once the projects agree. -/
def descends (walk : ParentWalk) (ancestor : String) : Nat -> List String -> Issue -> Bool
  | 0, _, _ => false
  | fuel + 1, visited, current =>
    match walk.parentId current with
    | none => false
    | some parentId =>
      if parentId ∈ visited then false
      else if parentId = ancestor then true
      else
        match walk.parent current with
        | none => false
        | some parent => walk.descends ancestor fuel (parentId :: visited) parent

end ParentWalk

/-!
# Effective dependencies
-/

def effectiveWalk (index : List (String × Issue)) : ParentWalk where
  parentId := fun issue =>
    if strip issue.parentId = "" then none else some (strip issue.parentId)
  parent := fun issue => index.lookup (strip issue.parentId)

def effectiveLineage (index : List (String × Issue)) (issue : Issue) :
    List Issue :=
  (effectiveWalk index).lineage index.length [] issue

def effectiveDependencies (issue : Issue) (index : List (String × Issue))
    (hardStart : Bool) : List String :=
  (((effectiveLineage index issue).flatMap
    (fun current =>
      if hardStart then current.startBlockedBy else current.blockedBy)).map
    refIdentifier).filter (fun identifier => identifier ≠ "") |>.eraseDups

/-!
# Integration dependencies
-/

/-- The names `integration_dependencies` builds from an index. -/
structure IndexNames where
  index : List (String × Issue)
  names : List (String × String)
  unique : List (String × Issue)

def indexNames (index : List (String × Issue)) : IndexNames where
  index := index
  names := aliasNames (index.map Prod.snd)
  unique := uniqueIssues (index.map Prod.snd)

namespace IndexNames

def canonicalRef (names : IndexNames) (ref : BlockerRef) : String :=
  resolve names.names (refIdentifier ref)

def walk (names : IndexNames) : ParentWalk where
  parentId := fun issue =>
    if strip issue.parentId = "" then none
    else some (resolve names.names (strip issue.parentId))
  parent := fun issue =>
    (names.index.lookup (strip issue.parentId)).or
      (names.unique.lookup (resolve names.names (strip issue.parentId)))

def lineage (names : IndexNames) (issue : Issue) : List Issue :=
  names.walk.lineage (names.index.length + names.unique.length) [] issue

/-- The project of a named issue. -/
def project (names : IndexNames) (name : String) : String :=
  ((names.unique.lookup name).map (fun issue => strip issue.projectId)).getD ""

def isDescendant (names : IndexNames) (candidate : Issue) (ancestor : String) :
    Bool :=
  if strip candidate.projectId ≠ "" ∧ names.project ancestor ≠ "" ∧
      strip candidate.projectId ≠ names.project ancestor then
    false
  else
    names.walk.descends ancestor (names.index.length + names.unique.length + 1) [] candidate

/-- A dependency of a container on itself or on a task inside it. -/
def containerRollup (names : IndexNames) (dependency current : String) : Bool :=
  match names.unique.lookup dependency with
  | some issue => dependency = current || names.isDescendant issue current
  | none => false

end IndexNames

def integrationDependencies (issue : Issue) (index : List (String × Issue)) :
    List String :=
  let names := indexNames index
  if issue.canonical = "" then
    []
  else
    ((names.lineage issue).flatMap
      (fun current =>
        (current.blockedBy.map names.canonicalRef).filter
          (fun dependency =>
            dependency ≠ "" ∧ dependency ≠ issue.canonical ∧
              names.containerRollup dependency current.canonical = false)))
      |>.eraseDups

/-!
# The cycle check
-/

/-- The targets of the edges of one issue in `combined_dependency_adjacency`. -/
def combinedTargets (issues : List Issue) (issue : Issue) : List String :=
  ((issue.blockedBy ++ issue.startBlockedBy).map refIdentifier).filter
    (fun identifier => identifier ≠ "") |>.map (resolve (aliasNames issues))

/-- The sorted set that `combined_dependency_adjacency` has at a node. -/
def combinedDependencyAdjacency (issues : List Issue) (node : String) :
    List String :=
  ((issues.filter (fun issue => issue.canonical ≠ "" ∧ issue.canonical = node)).flatMap
    (combinedTargets issues)).dedup.insertionSort (fun a b => a ≤ b)

def dependencyCycleForNewEdge (issues : List Issue)
    (blockedIdentifier blockerIdentifier : String) : Option (List String) :=
  let blocked := resolve (aliasNames issues) blockedIdentifier
  let blocker := resolve (aliasNames issues) blockerIdentifier
  if blocked = blocker then
    some [blocked, blocked]
  else
    (search (combinedDependencyAdjacency issues) blocked
      ((issues.flatMap (combinedTargets issues)).length + 2)
      [(blocker, [blocker])] [blocker]).map (fun path => blocked :: path)

/-!
# Adding the edge
-/

inductive DependencyType where
  | finish
  | hardStart
  deriving DecidableEq

namespace Issue

def addDependency (type : DependencyType) (ref : BlockerRef) (issue : Issue) :
    Issue :=
  match type with
  | .finish => { issue with blockedBy := issue.blockedBy ++ [ref] }
  | .hardStart =>
    { issue with startBlockedBy := issue.startBlockedBy ++ [ref] }

end Issue

/-- The issues after the tracker recorded a dependency of the blocked issue. -/
def addDependency (type : DependencyType) (blocked : String)
    (ref : BlockerRef) (issue : Issue) : Issue :=
  if issue.canonical = blocked then issue.addDependency type ref else issue

end Dependencies
end Oompah

import Oompah.Foundation.Document
import Oompah.Foundation.Sha256
import Oompah.Foundation.Matching
import Oompah.TerminalAudit.Texts

/-!
# Generating an epic proposal

An oversized issue is split into an epic and child tasks: the titles come from the
bullets of its description, or from its topic when there are too few of them.
-/

namespace Oompah
namespace EpicProposals

open Foundation TerminalAudit

/-- The tables of the host language.  Lowering a text lowers each character, whatever
stands around it, to as many characters as its width; white space has no letter case. -/
structure Tables extends CharacterTable where
  isDigit : Char -> Bool
  lower : List Char -> List Char
  upper : List Char -> List Char
  sha256 : List Char -> List Char
  width : Char -> Nat
  digit_ascii : forall c : Char, c.toNat < 128 -> isDigit c = c.isDigit
  digit_ink : forall c, isDigit c = true -> Text.isSpace c = false
  width_pos : forall c, 0 < width c
  width_ascii : forall c : Char, c.toNat < 128 -> width c = 1
  lower_length : forall s, (lower s).length = (s.map width).sum
  lower_blank : forall s, (forall c, c ∈ s -> Text.isSpace c = true) -> lower s = s
  upper_ink : forall c, Text.isSpace c = false -> exists d, d ∈ upper [c] ∧ Text.isSpace d = false
  sha256_hex : forall s c, c ∈ sha256 s -> c ∈ "0123456789abcdef".toList

theorem isSpace_toUpper {c : Char} (hc : Text.isSpace c = false) :
    Text.isSpace c.toUpper = false := by
  unfold Char.toUpper
  split
  · rename_i h
    have hlow : 97 ≤ c.toNat := UInt32.le_iff_toNat_le.mp h.left
    have hhigh : c.toNat ≤ 122 := UInt32.le_iff_toNat_le.mp h.right
    have hshift : ('A'.val - 'a'.val).toNat = 4294967264 := rfl
    have hval : (c.val + ('A'.val - 'a'.val)).toNat = c.toNat - 32 := by
      have hc32 : c.val.toNat = c.toNat := rfl
      rw [UInt32.toNat_add, hshift]
      omega
    unfold Text.isSpace Char.toNat
    simp only [hval, Bool.or_eq_false_iff, Bool.and_eq_false_iff, decide_eq_false_iff_not,
      beq_eq_false_iff_ne]
    omega
  · exact hc

/-- Tables of ASCII. -/
def asciiTables : Tables where
  toCharacterTable := asciiTable
  isDigit c := c.isDigit
  lower s := s.map Char.toLower
  upper s := s.map Char.toUpper
  sha256 := Sha256.hexdigest
  width _ := 1
  digit_ascii := fun _ _ => rfl
  digit_ink := fun _ h => Runtime.isSpace_of_isDigit h
  width_pos := fun _ => Nat.one_pos
  width_ascii := fun _ _ => rfl
  lower_length := by
    intro s
    simp
  lower_blank := by
    intro s hs
    refine (List.map_congr_left fun c hc => ?_).trans (List.map_id s)
    apply Char.toNat_inj.mp
    rw [DocumentRuntime.toNat_toLower, if_neg]
    · rfl
    · have hspace := hs c hc
      unfold Text.isSpace at hspace
      simp at hspace
      omega
  upper_ink := by
    intro c hc
    exact ⟨c.toUpper, List.mem_singleton_self _, isSpace_toUpper hc⟩
  sha256_hex _ _ := Sha256.mem_hexdigest

structure SourceIssue where
  identifier : List Char
  title : List Char
  description : Option (List Char)
  issueType : List Char
  url : Option (List Char)
  priority : Option Int

structure EpicProposalChild where
  title : List Char
  description : List Char
  issueType : List Char
  priority : Option Int
  deriving DecidableEq

structure EpicProposal where
  fingerprint : List Char
  sourceIdentifier : List Char
  sourceTitle : List Char
  sourceRequestor : Option (List Char)
  epicTitle : List Char
  epicSummary : List Char
  children : List EpicProposalChild
  deriving DecidableEq

/-!
# Texts
-/

/-- `re.sub(r"\s+", " ", text)`; `inRun` says that the last character was white space. -/
def collapse (inRun : Bool) : List Char -> List Char
  | [] => []
  | c :: rest =>
    if Text.isSpace c = true then
      if inRun = true then collapse true rest else ' ' :: collapse true rest
    else c :: collapse false rest

/-- `_normalize_text`. -/
def normalizeText (value : List Char) : List Char :=
  collapse false (Text.strip Text.isSpace value)

def stripOf (chars : List Char) (s : List Char) : List Char :=
  Text.strip (fun c => c ∈ chars) s

def rstripOf (chars : List Char) (s : List Char) : List Char :=
  s.rdropWhile fun c => c ∈ chars

/-- `_truncate`. -/
def truncate (value : List Char) (limit : Nat) : List Char :=
  let value := normalizeText value
  if value.length ≤ limit then value
  else rstripOf " ,.;:-".toList (value.take (limit - 1)) ++ "...".toList

/-- A text that may be absent, when it is not empty. -/
def present (value : Option (List Char)) : Option (List Char) :=
  value.filter fun s => !s.isEmpty

/-- `_source_ref`. -/
def sourceRef (issue : SourceIssue) : List Char :=
  match present issue.url with
  | some url => issue.identifier ++ " (".toList ++ url ++ ")".toList
  | none => issue.identifier

section Patterns

variable (t : Tables)

/-- `re.sub` of a pattern that is anchored at the start of the text. -/
def dropMatch (r : Pattern Char) (s : List Char) : List Char :=
  match (r.ends t.isWord ⟨none, s⟩).head? with
  | some stop => stop.after
  | none => s

/-- `re.match`. -/
def startsWith (r : Pattern Char) (s : List Char) : Bool :=
  !(r.ends t.isWord ⟨none, s⟩).isEmpty

/-- `_topic_from_title`. -/
def topicFromTitle (title : List Char) : List Char :=
  let topic := dropMatch t (Pattern.all
      [Pattern.oneOf (["epic", "task", "feature", "bug", "chore"].map letters),
        .many Text.isSpace, letters ":", .many Text.isSpace])
    (normalizeText title)
  if topic = [] then "the requested work".toList else topic

def exactly (c : Char) : Pattern Char :=
  .one fun d => d = c

def notNewline (c : Char) : Bool :=
  c ≠ '\n'

/-- `#{1,6}`. -/
def hashes : Pattern Char :=
  Pattern.all (exactly '#' :: List.replicate 5 (Pattern.optional (exactly '#')))

/-- `\d+[.)]`. -/
def numbered : Pattern Char :=
  Pattern.all [.one t.isDigit, .many t.isDigit, .one fun c => c = '.' || c = ')']

def dash : Pattern Char :=
  .one fun c => c = '-' || c = '*'

/-- `^` and a pattern. -/
def lineOpening (r : Pattern Char) : Matcher Char :=
  Matcher.andThen (Matcher.lineStart '\n') (Matcher.ofPattern t.isWord r)

/-- `\s*$`. -/
def lineClosing : Matcher Char :=
  Matcher.andThen (Matcher.ofPattern t.isWord (.many Text.isSpace)) (Matcher.lineEnd '\n')

/-- `_BULLET_RE`. -/
def bulletRe : Place Char -> Option (Capture Char) :=
  Matcher.capture?
    (lineOpening t (Pattern.all [.many Text.isSpace, .alt dash (numbered t), spaces]))
    (Matcher.lazily notNewline) (lineClosing t)

/-- `_HEADING_RE`. -/
def headingRe : Place Char -> Option (Capture Char) :=
  Matcher.capture? (lineOpening t (Pattern.all [hashes, spaces])) (Matcher.lazily notNewline)
    (lineClosing t)

/-- `_AC_HEADING_RE`: the group is the title of the section. -/
def acHeadingRe : Place Char -> Option (Capture Char) :=
  Matcher.capture? (lineOpening t (Pattern.all [hashes, spaces])) (Matcher.ofPattern t.isWord
      (Pattern.oneOf
        (["acceptance criteria", "success criteria", "definition of done", "done criteria",
          "ac"].map letters)))
    (Matcher.andThen (Matcher.ofPattern t.isWord (Pattern.all [.boundary, .many notNewline]))
      (Matcher.lineEnd '\n'))

/-- `_section_after`: the text behind a heading, up to the next one. -/
def sectionAfter (rest : List Char) : List Char :=
  Matcher.beforeMatch (headingRe t) none rest

/-- `_clean_bullet`. -/
def cleanBullet (text : List Char) : List Char :=
  let cleaned := dropMatch t (Pattern.all
      [exactly '[', .one fun c => c = ' ' || c = 'x' || c = 'X', exactly ']', .many Text.isSpace])
    (Text.strip Text.isSpace text)
  stripOf " -\t".toList (collapse false cleaned)

/-- `MAX_GENERATED_CHILDREN`. -/
def maxGeneratedChildren : Nat :=
  6

/-- `MIN_GENERATED_CHILDREN`. -/
def minGeneratedChildren : Nat :=
  3

/-- The distinct items of the bullets, in order, until there are enough. -/
def gatherItems (items seen : List (List Char)) : List (List Char) -> List (List Char)
  | [] => items
  | raw :: rest =>
    let item := cleanBullet t raw
    let key := t.lower item
    if item.length < 8 ∨ key ∈ seen then gatherItems items seen rest
    else if maxGeneratedChildren ≤ (items ++ [item]).length then items ++ [item]
    else gatherItems (items ++ [item]) (key :: seen) rest

/-- `_acceptance_items`. -/
def acceptanceItems (description : List Char) : List (List Char) :=
  let sections := (Matcher.findAll (acHeadingRe t) none 0 description).map fun found =>
    sectionAfter t found.stop.after
  let searchBodies := if sections = [] then [description] else sections
  gatherItems t [] []
    (searchBodies.flatMap fun body =>
      (Matcher.findAll (bulletRe t) none 0 body).map Capture.text)

def modalVerb : Pattern Char :=
  Pattern.oneOf (["must", "should", "can", "will"].map letters)

def actionVerb : Pattern Char :=
  Pattern.oneOf (["add", "allow", "build", "create", "define", "detect", "ensure", "generate",
      "implement", "preserve", "prevent", "record", "support", "update",
      "validate"].map letters)

/-- The first character changed by `form`. -/
def changeFirst (form : List Char -> List Char) : List Char -> List Char
  | [] => []
  | c :: rest => form [c] ++ rest

/-- The phrase of an item without its subject and its modal verb. -/
def itemPhrase (item topic : List Char) : List Char :=
  let phrase := dropMatch t (Pattern.all [Pattern.optional (Pattern.all [letters "the", spaces]),
        Pattern.oneOf (["system", "user", "agent", "oompah"].map letters), spaces, modalVerb,
        spaces])
    item
  let phrase := dropMatch t (Pattern.all
      [Pattern.oneOf (["must", "should", "can", "will", "shall"].map letters), spaces])
    phrase
  let phrase := rstripOf ['.'] phrase
  if phrase = [] then topic else phrase

/-- `_child_title_from_item`. -/
def childTitleFromItem (item topic : List Char) : List Char :=
  let phrase := itemPhrase t item topic
  let phrase :=
    if startsWith t (Pattern.all [actionVerb, .boundary]) phrase = true then phrase
    else if phrase = [] then topic
    else "Implement ".toList ++ changeFirst t.lower phrase
  truncate (changeFirst t.upper phrase) 96

end Patterns

/-!
# Children
-/

def joinLines (lines : List (List Char)) : List Char :=
  Text.joinLines lines

/-- `_child_description`. -/
def childDescription (source : SourceIssue) (requestor : Option (List Char))
    (workSummary acceptanceItem : List Char) : List Char :=
  joinLines (["Source issue: ".toList ++ sourceRef source,
        "Source title: ".toList ++ source.title] ++
      (match present requestor with
        | some requestor => ["Original requestor: @".toList ++ requestor]
        | none => []) ++
      [[], "## Work".toList, workSummary, [], "## Acceptance Criteria".toList,
        "- ".toList ++ rstripOf ['.'] acceptanceItem ++ ".".toList])

/-- `_fallback_items`. -/
def fallbackItems (topic : List Char) : List (List Char × List Char) :=
  [("Define ".toList ++ topic ++ " scope and implementation plan".toList,
      ("Scope boundaries, data contracts, and rollout assumptions are documented for " ++
        "this slice.").toList),
    ("Implement ".toList ++ topic ++ " core workflow".toList,
      ("The central behavior from the source request is implemented behind the agreed " ++
        "interface.").toList),
    ("Add ".toList ++ topic ++ " verification and regression coverage".toList,
      ("Automated tests and operator-facing verification cover the completed " ++
        "workflow.").toList)]

section Proposals

variable (t : Tables)

/-- A child with the priority of the source. -/
def newChild (source : SourceIssue) (title description : List Char) : EpicProposalChild :=
  { title, description, issueType := "task".toList, priority := source.priority }

theorem newChild_title (source : SourceIssue) (title description : List Char) :
    (newChild source title description).title = title :=
  rfl

def itemChild (source : SourceIssue) (requestor : Option (List Char)) (topic item : List Char) :
    EpicProposalChild :=
  newChild source (childTitleFromItem t item topic) (childDescription source requestor
      ("Deliver this independently testable slice of the source request: ".toList ++
        rstripOf ['.'] item ++ ".".toList) item)

def fallbackChild (source : SourceIssue) (requestor : Option (List Char))
    (topic title acceptance : List Char) : EpicProposalChild :=
  newChild source (truncate title 96) (childDescription source requestor
      (("Deliver a bounded slice of the oversized source request " ++
        "focused on ").toList ++ topic ++ ".".toList) acceptance)

/-- The fallback children that are added, while there are too few. -/
def addFallback (source : SourceIssue) (requestor : Option (List Char)) (topic : List Char)
    (children : List EpicProposalChild) (existing : List (List Char)) :
    List (List Char × List Char) -> List EpicProposalChild
  | [] => children
  | (title, acceptance) :: rest =>
    if minGeneratedChildren ≤ children.length then children
    else
      let child := fallbackChild source requestor topic title acceptance
      let key := t.lower child.title
      if key ∈ existing then addFallback source requestor topic children existing rest
      else addFallback source requestor topic (children ++ [child]) (key :: existing) rest

/-- `_generate_children`. -/
def generateChildren (source : SourceIssue) (requestor : Option (List Char)) :
    List EpicProposalChild :=
  let topic := topicFromTitle t source.title
  let children := (acceptanceItems t (source.description.getD [])).map
    (itemChild t source requestor topic)
  let existing := children.map fun child => t.lower child.title
  (addFallback t source requestor topic children existing (fallbackItems topic)).take
    maxGeneratedChildren

def literal (text : String) : Pattern Char :=
  Pattern.all (text.toList.map exactly)

def alphanumeric : Pattern Char :=
  .one Char.isAlphanum

/-- `[A-Za-z0-9][A-Za-z0-9_.\-]*`. -/
def repositoryName : Pattern Char :=
  Pattern.all [alphanumeric, .many fun c => c.isAlphanum || c = '_' || c = '.' || c = '-']

/-- `[1-9][0-9]*`. -/
def issueNumber : Pattern Char :=
  Pattern.all [.one fun c => c.isDigit && c ≠ '0', .many Char.isDigit]

def issueUrl : Pattern Char :=
  Pattern.all [literal "https://github.com/", alphanumeric, .many fun c => c.isAlphanum || c = '-',
      literal "/", repositoryName, literal "/issues/", issueNumber]

def issueRef : Pattern Char :=
  Pattern.all [.boundary, alphanumeric,
      Pattern.optional (Pattern.all [.many fun c => c.isAlphanum || c = '-', alphanumeric]),
      literal "/", repositoryName, literal "#", issueNumber, .boundary]

/-- `_normalise_proposal_semantic_text`. -/
def semanticText (value : List Char) : List Char :=
  let text := normalizeText value
  let text := Pattern.substitute t.isWord issueUrl "github-issue-url".toList none 0 text
  Pattern.substitute t.isWord issueRef "github-issue-ref".toList none 0 text

def jsonText (s : List Char) : Json :=
  .text (String.ofList s)

/-- `_proposal_fingerprint_payload`. -/
def fingerprintPayload (source : SourceIssue) (epicTitle epicSummary : List Char)
    (children : List EpicProposalChild) : Json :=
  .object [("source_title", jsonText (normalizeText source.title)),
      ("source_description", jsonText (normalizeText (source.description.getD []))),
      ("source_issue_type", jsonText (normalizeText source.issueType)),
      ("epic_title", jsonText (normalizeText epicTitle)),
      ("epic_summary", jsonText (semanticText t epicSummary)),
      ("children", .list (children.map fun child =>
        .object [("title", jsonText (normalizeText child.title)),
            ("description", jsonText (semanticText t child.description)),
            ("issue_type", jsonText (normalizeText child.issueType))]))]

/-- `compute_epic_proposal_fingerprint`. -/
def computeFingerprint (source : SourceIssue) (epicTitle epicSummary : List Char)
    (children : List EpicProposalChild) : List Char :=
  t.sha256 (fingerprintPayload t source epicTitle epicSummary children).encode

/-- The title of the epic before it is truncated. -/
def fullTitle (source : SourceIssue) : List Char :=
  if "epic:".toList.isPrefixOf (t.lower source.title) = true then source.title
  else "Epic: ".toList ++ topicFromTitle t source.title

def generatedTitle (source : SourceIssue) : List Char :=
  truncate (fullTitle t source) 120

/-- The summary, with the warnings of a validation when there are any. -/
def generatedSummary (source : SourceIssue) (requestor : Option (List Char))
    (warnings : List (List Char)) : List Char :=
  "Decompose the oversized request from ".toList ++ sourceRef source ++
    (" into independently reviewable implementation tasks while preserving the " ++
      "original request context.").toList ++
    (match present requestor with
      | some requestor => " Original requestor: @".toList ++ requestor ++ ".".toList
      | none => []) ++
    (if warnings = [] then []
      else " Validator note: ".toList ++ [' '].intercalate warnings)

/-- `generate_epic_proposal`. -/
def generateEpicProposal (source : SourceIssue) (warnings : List (List Char))
    (requestor : Option (List Char)) : EpicProposal :=
  let epicTitle := generatedTitle t source
  let epicSummary := generatedSummary source requestor warnings
  let children := generateChildren t source requestor
  { fingerprint := computeFingerprint t source epicTitle epicSummary children
    sourceIdentifier := source.identifier
    sourceTitle := source.title
    sourceRequestor := requestor
    epicTitle
    epicSummary
    children }

end Proposals
end EpicProposals
end Oompah

import Oompah.EpicProposals.Generation

/-!
# The comment of a proposal

A proposal is announced by a comment, and a posted comment is recognised by the titles
that are read back from its text.
-/

namespace Oompah
namespace EpicProposals

open Foundation TerminalAudit

def epicHeading : List Char :=
  "## Proposed Epic".toList

def childHeading : List Char :=
  "## Proposed Child Tasks".toList

def announcement : List Char :=
  "I generated a proposed epic breakdown".toList

/-- The decimal digits of a number. -/
def decimal (n : Nat) : List Char :=
  Nat.toDigits 10 n

def childLine (index : Nat) (child : EpicProposalChild) : List Char :=
  decimal index ++ ". **".toList ++ child.title ++ "**".toList

/-- The lines of the children, counted from `index`. -/
def childLines (index : Nat) : List EpicProposalChild -> List (List Char)
  | [] => []
  | child :: rest => childLine index child :: childLines (index + 1) rest

/-- Who the comment speaks to. -/
def actor (p : EpicProposal) : List Char :=
  match present p.sourceRequestor with
  | some requestor => '@' :: requestor
  | none => "Hi".toList

def introduction : List Char :=
  ", this issue looks too large for one implementation task. ".toList ++ announcement ++
    " for review.\n\n".toList

def approval : List Char :=
  ("Approve the breakdown with `/oompah approve`, or edit the issue if " ++
    "the proposed split should change.").toList

def fingerprintLine (p : EpicProposal) : List Char :=
  "Proposal fingerprint: `".toList ++ p.fingerprint ++ "`".toList

def closing (p : EpicProposal) : List Char :=
  "\n\n".toList ++ approval ++ "\n\n".toList ++ fingerprintLine p

/-- The comment behind its second heading. -/
def childPart (p : EpicProposal) : List Char :=
  "\n\n".toList ++ joinLines (childLines 1 p.children) ++ closing p

/-- The comment behind its first heading. -/
def epicPart (p : EpicProposal) : List Char :=
  "\n\n**".toList ++ p.epicTitle ++ "**\n\n".toList ++ p.epicSummary ++ "\n\n".toList ++
    childHeading ++ childPart p

/-- `build_epic_proposal_comment`. -/
def buildEpicProposalComment (p : EpicProposal) : List Char :=
  actor p ++ introduction ++ epicHeading ++ epicPart p

section Signature

variable (t : Tables)

def stars : Pattern Char :=
  .seq (exactly '*') (exactly '*')

/-- `^\s*\*\*(.+?)\*\*\s*$`. -/
def boldLineRe : Place Char -> Option (Capture Char) :=
  Matcher.capture? (lineOpening t (.seq (.many Text.isSpace) stars)) (Matcher.lazily notNewline)
    (Matcher.andThen (Matcher.ofPattern t.isWord stars) (lineClosing t))

/-- `^\s*(?:\d+[.)]|[-*])\s+\*\*(.+?)\*\*`. -/
def boldItemRe : Place Char -> Option (Capture Char) :=
  Matcher.capture? (lineOpening t
      (Pattern.all [.many Text.isSpace, .alt (numbered t) dash, spaces, stars]))
    (Matcher.lazily notNewline) (Matcher.ofPattern t.isWord stars)

/-- The first line that is not blank, without its stars and spaces. -/
def firstLine : List (List Char) -> List Char
  | [] => []
  | line :: rest =>
    let cleaned := Text.strip Text.isSpace line
    if cleaned = [] then firstLine rest else stripOf "* ".toList cleaned

/-- The title read from the text between the headings. -/
def readEpicTitle (part : List Char) : List Char :=
  match Matcher.search (boldLineRe t) none part with
  | some found => found.text
  | none => firstLine (Text.splitLines part)

/-- The titles of the bold items of a list. -/
def readChildTitles (part : List Char) : List (List Char) :=
  (Matcher.findAll (boldItemRe t) none 0 part).map Capture.text

/-- The form in which titles are compared. -/
def titleKey (title : List Char) : List Char :=
  t.lower (normalizeText title)

/-- `text.split(heading, 1)[1]`. -/
def behind (heading text : List Char) : List Char :=
  match Text.cut heading text with
  | some (_, rest) => rest
  | none => []

/-- `text.split(heading, 1)[0]`. -/
def inFront (heading text : List Char) : List Char :=
  match Text.cut heading text with
  | some (first, _) => first
  | none => text

/-- `_proposal_comment_signature_from_text`. -/
def signatureFromText (body : List Char) : Option (List Char × List (List Char)) :=
  if (Text.cut announcement body).isNone ∨ (Text.cut epicHeading body).isNone ∨
      (Text.cut childHeading body).isNone then none
  else
    let epicTitle := readEpicTitle t (inFront childHeading (behind epicHeading body))
    let childTitles := readChildTitles t (behind childHeading body)
    if epicTitle = [] ∨ childTitles = [] then none
    else some (titleKey t epicTitle, childTitles.map (titleKey t))

/-- `_proposal_comment_signature`. -/
def signature (p : EpicProposal) : List Char × List (List Char) :=
  (titleKey t p.epicTitle, p.children.map fun child => titleKey t child.title)

end Signature
end EpicProposals
end Oompah

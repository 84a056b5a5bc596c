import Oompah.Foundation.Text

/-!
# Comments of native tasks

A native task is a Markdown file whose body ends in a comments section: one record
for each comment, of header lines, a separator, the text and a separator.  This
module is the writer (`create_issue`, `add_comment`) and the reader
(`fetch_comments`) of that section.
-/

namespace Oompah
namespace TrackerComments

open Foundation.Text

abbrev Str := List Char

def commentBegin : Str := "<!-- COMMENT:BEGIN -->".toList
def commentEnd : Str := "<!-- COMMENT:END -->".toList
def commentsBegin : Str := "<!-- COMMENTS:BEGIN -->".toList
def commentsEnd : Str := "<!-- COMMENTS:END -->".toList
def separator : Str := "---".toList

structure Comment where
  id : Str
  author : Option Str
  createdAt : Option Str
  text : Str
deriving DecidableEq

/-- Header fields, the latest assignment of a key first. -/
abbrev Fields := List (Str × Str)

/-- Only ASCII names are ever looked up among the lowered keys. -/
def lower (s : Str) : Str :=
  s.map Char.toLower

def Fields.get (fields : Fields) (key : String) : Option Str :=
  fields.lookup key.toList

def Fields.comment (fields : Fields) (existingCount : Nat) (text : Str) : Comment :=
  { id :=
      match fields.get "index" with
      | some (c :: index) => c :: index
      | _ => Nat.toDigits 10 (existingCount + 1)
    author := fields.get "author"
    createdAt := fields.get "created"
    text := strip isSpace text }

/-! ## Reading -/

/-- `line.partition(":")`, when the line has a colon. -/
def headerField? (line : Str) : Option (Str × Str) :=
  (cut [':'] line).map fun parts => (strip isSpace parts.1, strip isSpace parts.2)

def Fields.add (fields : Fields) (line : Str) : Fields :=
  match headerField? line with
  | none => fields
  | some (key, value) => (lower key, value) :: fields

def blockFields (lines : List Str) : Fields :=
  lines.foldl Fields.add []

def parseCommentBlock (block : Str) (existingCount : Nat) : Option Comment :=
  let parts := (cut ['\n', '\n'] block).getD (block, [])
  let fields := blockFields (splitLines parts.1)
  if fields = [] ∧ strip isSpace parts.2 = [] then none
  else some (fields.comment existingCount parts.2)

/-- The header lines of a record, up to its first separator. -/
def structuredHeader (fields : Fields) : List Str -> Option (Fields × List Str)
  | [] => none
  | line :: rest =>
    if strip isSpace line = separator then
      if fields = [] then none else some (fields, rest)
    else
      match headerField? line with
      | none => none
      | some (key, value) =>
        if key = [] then none else structuredHeader ((lower key, value) :: fields) rest

/-- The lines before the next separator and those after it. -/
def untilSeparator : List Str -> Option (List Str × List Str)
  | [] => none
  | line :: rest =>
    if strip isSpace line = separator then some ([], rest)
    else (untilSeparator rest).map fun parts => (line :: parts.1, parts.2)

def parseStructuredComment (lines : List Str) (existingCount : Nat) : Option (Comment × List Str) :=
  match structuredHeader [] lines with
  | none => none
  | some (fields, body) =>
    match untilSeparator body with
    | none => none
    | some (textLines, rest) =>
      some (fields.comment existingCount (joinLines textLines), rest)

/-- The comments of the lines of a section.  Every step uses up a line. -/
def commentsOfLines : Nat -> List Str -> Nat -> List Comment
  | 0, _, _ => []
  | _ + 1, [], _ => []
  | fuel + 1, line :: rest, existingCount =>
    if strip isSpace line = [] then commentsOfLines fuel rest existingCount
    else if strip isSpace line = commentBegin then
      let block := rest.takeWhile fun l => strip isSpace l ≠ commentEnd
      let after := (rest.dropWhile fun l => strip isSpace l ≠ commentEnd).drop 1
      match parseCommentBlock (joinLines block) existingCount with
      | none => commentsOfLines fuel after existingCount
      | some comment => comment :: commentsOfLines fuel after (existingCount + 1)
    else
      match parseStructuredComment (line :: rest) existingCount with
      | none => commentsOfLines fuel rest existingCount
      | some (comment, after) =>
        comment :: commentsOfLines fuel after (existingCount + 1)

def parseCommentsSection (content : Str) (existingCount : Nat) : List Comment :=
  let lines := splitLines content
  commentsOfLines lines.length lines existingCount

def dropFirstNewline : Str -> Str
  | '\n' :: rest => rest
  | content => content

def dropLastNewline (content : Str) : Str :=
  if content.getLast? = some '\n' then content.dropLast else content

/-- What `\n?(.*?)\n?` captures of the text between two markers. -/
def trimNewlines (content : Str) : Str :=
  dropLastNewline (dropFirstNewline content)

def sections (body : Str) : List Str :=
  (between commentsBegin commentsEnd body.length body).map trimNewlines

def commentBlocks (body : Str) : List Str :=
  between (commentBegin ++ ['\n']) ('\n' :: commentEnd) body.length body

def commentsOfSections : List Str -> Nat -> List Comment
  | [], _ => []
  | content :: rest, existingCount =>
    let comments := parseCommentsSection content existingCount
    comments ++ commentsOfSections rest (existingCount + comments.length)

def commentsOfBlocks : List Str -> Nat -> List Comment
  | [], _ => []
  | block :: rest, existingCount =>
    match parseCommentBlock block existingCount with
    | none => commentsOfBlocks rest existingCount
    | some comment => comment :: commentsOfBlocks rest (existingCount + 1)

def parseTrackerComments (body : Str) : List Comment :=
  if sections body ≠ [] then commentsOfSections (sections body) 0
  else commentsOfBlocks (commentBlocks body) 0

/-! ## Writing -/

/-- A marker as `sanitize_comment_text` writes it: `<!--` and `-->` with one more space. -/
def escapedMarker (marker : Str) : Str :=
  replaceAll "-->".toList " -->".toList (replaceAll "<!--".toList "<!-- ".toList marker)

def escapeMarker (text marker : Str) : Str :=
  replaceAll marker (escapedMarker marker) text

def sanitizeCommentText (text : Str) : Str :=
  let cleaned := strip isSpace (replaceAll ['\r'] ['\n'] (replaceAll ['\r', '\n'] ['\n'] text))
  [commentBegin, commentEnd, commentsBegin, commentsEnd].foldl escapeMarker cleaned

/-- `[\r\n]+` replaced by a space. -/
def joinBreaks (inBreak : Bool) : Str -> Str
  | [] => []
  | c :: s =>
    if c = '\r' ∨ c = '\n' then
      if inBreak then joinBreaks true s else ' ' :: joinBreaks true s
    else c :: joinBreaks false s

def commentAuthorField (value fallback : Str) : Str :=
  let field := strip isSpace (joinBreaks false value)
  if field = [] then fallback else field

def formatTrackerComment (author created text : Str) : Str :=
  "author: ".toList ++ author ++ "\ncreated: ".toList ++ created ++ "\n---\n".toList ++ text ++
    "\n---\n".toList

/-- The index of the new record is left out with the call that counts it, whose `int()`
refuses the body when an `index:` line has more than 4300 digits. -/
def appendTrackerComment (body text author created : Str) : Str :=
  let comment := formatTrackerComment author created (sanitizeCommentText text)
  match cut commentsEnd body with
  | some (before, after) =>
    let lead := if before ≠ [] ∧ before.getLast? ≠ some '\n' then before ++ ['\n'] else before
    lead ++ comment ++ (commentsEnd ++ after)
  | none =>
    let content :=
      "\n\n## Comments\n".toList ++ commentsBegin ++ ['\n'] ++ comment ++ commentsEnd ++ ['\n']
    if body = [] then content.dropWhile isSpace
    else body.rdropWhile (fun c => c = '\n') ++ content

/-- The clock's minute that a comment is stamped with. -/
structure Clock where
  year : Nat
  month : Nat
  day : Nat
  hour : Nat
  minute : Nat
deriving DecidableEq

/-- The last `n` decimal digits of a number. -/
def digits : Nat -> Nat -> Str
  | 0, _ => []
  | n + 1, value => digits n (value / 10) ++ [Char.ofNat (48 + value % 10)]

/-- `%Y-%m-%d %H:%M` -/
def formatCommentTimestamp (now : Clock) : Str :=
  digits 4 now.year ++ ['-'] ++ digits 2 now.month ++ ['-'] ++ digits 2 now.day ++ [' '] ++
    digits 2 now.hour ++ [':'] ++ digits 2 now.minute

/-! ## The task's body -/

/-- What follows one or two hashes that a line break or a space ends. -/
def afterHashes? : Str -> Option Str
  | '#' :: '#' :: rest => if rest.head?.all isSpace then some rest else none
  | '#' :: rest => if rest.head?.all isSpace then some rest else none
  | _ => none

/-- Headings of the first two levels written as third level ones.  The white space
after the hashes runs on over blank lines: `pending` says that the hashes of a heading
were read and its text was not. -/
def demoteHeadings (pending : Bool) : List Str -> List Str
  | [] => []
  | line :: lines =>
    if pending then
      if line.all isSpace then demoteHeadings true lines
      else ("### ".toList ++ line.dropWhile isSpace) :: demoteHeadings false lines
    else
      match afterHashes? line with
      | none => line :: demoteHeadings false lines
      | some rest =>
        if rest.all isSpace then
          -- The description is stripped, so that only its last line has no text after it.
          if lines.all (fun l => l.all isSpace) then line :: lines
          else demoteHeadings true lines
        else ("### ".toList ++ rest.dropWhile isSpace) :: demoteHeadings false lines

def summarySafeDescription (description : Str) : Str :=
  joinLines (demoteHeadings false ((strip isSpace description).splitOn '\n'))

def initialBody (description : Str) : Str :=
  "## Summary\n\n".toList ++ summarySafeDescription description ++
    ("\n\n## Acceptance Criteria\n\n- [ ] Define acceptance criteria.\n\n" ++ "## Notes\n\n").toList

/-! ## The tracker -/

inductive TrackerError where
  | commentTextRequired
deriving DecidableEq

structure CommentRequest where
  text : Str
  author : Str
  now : Clock
deriving DecidableEq

/-- The body of the file that `add_comment` writes over a stored body. -/
def addComment (stored : Str) (request : CommentRequest) : Except TrackerError Str :=
  let commentText := strip isSpace request.text
  if commentText = [] then .error .commentTextRequired
  else
    .ok (appendTrackerComment (universalNewlines stored) commentText
      (commentAuthorField request.author "oompah".toList) (formatCommentTimestamp request.now))

def fetchComments (stored : Str) : List Comment :=
  parseTrackerComments (universalNewlines stored)

/-- The stored body after some calls of `add_comment`; one that raises writes nothing. -/
def afterComments (stored : Str) : List CommentRequest -> Str
  | [] => stored
  | request :: requests =>
    match addComment stored request with
    | .error _ => afterComments stored requests
    | .ok written => afterComments written requests

end TrackerComments
end Oompah

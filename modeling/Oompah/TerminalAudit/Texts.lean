import Oompah.Foundation.Pattern
import Oompah.Foundation.Value

/-!
# Audit texts

What the coordinator does to free text: it keeps credentials, long texts and model prose
out of what it stores, and it makes sure that a comment which hands a task to a human
asks for something.
-/

namespace Oompah
namespace TerminalAudit

open Foundation
open Pattern (oneOf)

/-- The Unicode characters a pattern counts as part of a word. -/
structure CharacterTable where
  isWord : Char -> Bool
  ascii : forall c : Char, c.toNat < 128 -> isWord c = (c.isAlphanum || c = '_')

/-- The word characters of ASCII alone. -/
def asciiTable : CharacterTable where
  isWord c := c.isAlphanum || c = '_'
  ascii := fun _ _ => rfl

/-!
# Patterns that ignore letter case
-/

/-- The characters outside ASCII that a letter stands for when case is ignored: dotted and
dotless i, the long s and the sign for kelvin. -/
def caseVariants : Char -> List Char
  | 'i' => [Char.ofNat 0x130, Char.ofNat 0x131]
  | 's' => [Char.ofNat 0x17f]
  | 'k' => [Char.ofNat 0x212a]
  | _ => []

def sameLetter (letter c : Char) : Bool :=
  c = letter || c = letter.toUpper || c ∈ caseVariants letter

def letters (text : String) : Pattern Char :=
  Pattern.all (text.toList.map fun letter => .one (sameLetter letter))

/-- One of the given characters. -/
def anyOf (choices : String) : Pattern Char :=
  .one fun c => choices.toList.any fun letter => sameLetter letter c

def isInk (c : Char) : Bool :=
  !Text.isSpace c

/-- `\s+`. -/
def spaces : Pattern Char :=
  .seq (.one Text.isSpace) (.many Text.isSpace)

/-- `\S+`. -/
def inks : Pattern Char :=
  .seq (.one isInk) (.many isInk)

/-- `[A-Za-z0-9_]`, and `-` where it is one of the extra characters. -/
def isNameCharacter (extra : List Char) (c : Char) : Bool :=
  c.isAlphanum || c = '_' || c ∈ extra ||
    c ∈ [Char.ofNat 0x130, Char.ofNat 0x131, Char.ofNat 0x17f, Char.ofNat 0x212a]

def nameCharacters (extra : List Char) : Pattern Char :=
  .seq (.one (isNameCharacter extra)) (.many (isNameCharacter extra))

def credentialWord : Pattern Char :=
  oneOf [Pattern.all [letters "api", Pattern.optional (anyOf "_-"), letters "key"],
      letters "authorization", letters "password", letters "secret", letters "token"]

/-- `\s*[:=]\s*\S+`. -/
def assignedValue : Pattern Char :=
  Pattern.all [.many Text.isSpace, anyOf ":=", .many Text.isSpace, inks]

/-- `_SENSITIVE_VALUE_RE`. -/
def sensitiveValue : Pattern Char :=
  oneOf [Pattern.all [.boundary, letters "bearer", spaces, inks],
      Pattern.all [.boundary, credentialWord, .boundary, assignedValue],
      Pattern.all [.boundary, letters "gh", anyOf "pousr", letters "_", nameCharacters [],
        .boundary],
      Pattern.all [.boundary, letters "glpat-", nameCharacters ['-'], .boundary]]

/-- `_MODEL_PROSE_RE`. -/
def modelProse : Pattern Char :=
  Pattern.all [.boundary, oneOf [letters "assistant", letters "model"], spaces,
      oneOf [letters "response", letters "output"], .boundary]

/-- `_NEEDS_HUMAN_ACTION_RE` of the tracker and `_ACTION_TAIL_RE` of the coordinator. -/
def actionRequest : Pattern Char :=
  oneOf [letters "?", Pattern.all [.boundary, oneOf
            [letters "human action required", letters "required", letters "please", Pattern.all
                [letters "you ", oneOf [letters "must", letters "need to", letters "should"]],
              Pattern.all [oneOf
                  (["review", "confirm", "provide", "answer", "choose", "approve", "decide",
                    "inspect", "resolve", "add", "move", "close", "retry", "run", "restore",
                    "archive", "update"].map letters),
                  .boundary]]]]

/-!
# What is stored of a text
-/

def redactedText : String :=
  "[REDACTED]"

/-- `_redact_for_storage` of a text.  No key of an audit document is a sensitive key. -/
def redactForStorage (t : CharacterTable) (text : String) : String :=
  if 512 < text.length ∨ '\n' ∈ text.toList ∨
      sensitiveValue.found t.isWord none text.toList = true ∨
      modelProse.found t.isWord none text.toList = true then redactedText
  else text

/-- The text is stored as it is. -/
def Storable (t : CharacterTable) (text : String) : Prop :=
  redactForStorage t text = text

instance (t : CharacterTable) (text : String) : Decidable (Storable t text) :=
  inferInstanceAs (Decidable (redactForStorage t text = text))

section Storage

variable {t : CharacterTable}

theorem found_ascii (r : Pattern Char) {s : List Char} (h : s.all (fun c => c.toNat < 128) = true)
    {before : Option Char} (hbefore : before.all (fun c => c.toNat < 128) = true) :
    r.found t.isWord before s = r.found asciiTable.isWord before s := by
  apply Pattern.found_congr
  · intro c hc
    rw [hc] at hbefore
    exact (t.ascii c (of_decide_eq_true hbefore))
  · intro c hc
    exact (t.ascii c (of_decide_eq_true (List.all_eq_true.mp h c hc)))

theorem storable_of_ascii {text : String} (hascii : text.toList.all (fun c => c.toNat < 128) = true)
    (h : Storable asciiTable text) : Storable t text := by
  unfold Storable redactForStorage at h ⊢
  rw [found_ascii (t := t) sensitiveValue hascii rfl, found_ascii (t := t) modelProse hascii rfl]
  exact h

theorem redactedText_storable : Storable t redactedText :=
  storable_of_ascii rfl rfl

theorem redactForStorage_storable (text : String) : Storable t (redactForStorage t text) := by
  unfold redactForStorage
  split
  · exact redactedText_storable
  · rename_i h
    unfold Storable redactForStorage
    rw [if_neg h]

end Storage
end TerminalAudit
end Oompah

import Mathlib.Data.Rat.Defs
import Oompah.Foundation.Sha256
import Oompah.Foundation.Text

/-!
# Values of the host language

Records that come from outside are values of no fixed type: mappings, sequences,
texts and numbers.  What a program reads from one is decided by its truth value, by
its text and by comparisons that hold for one type only.  The parts of the host
language that are tables (letter case, digests, the text of a container, the reading
of a time) are a parameter with the laws a program relies on.
-/

namespace Oompah
namespace Foundation

/-- White space taken off both ends. -/
def strip (s : String) : String :=
  String.ofList (Text.strip Text.isSpace s.toList)

theorem strip_strip (s : String) : strip (strip s) = strip s := by
  unfold strip
  rw [String.toList_ofList, Text.strip_idem]

theorem strip_ne_empty {s : String} {c : Char} (hmem : c ∈ s.toList)
    (hc : Text.isSpace c = false) : strip s ≠ "" := by
  intro h
  have hlist := congrArg String.toList h
  unfold strip at hlist
  rw [String.toList_ofList] at hlist
  exact Text.strip_ne_nil hmem hc hlist

theorem exists_of_strip_ne_empty {s : String} (h : strip s ≠ "") :
    exists c, c ∈ s.toList ∧ Text.isSpace c = false := by
  have hne : Text.strip Text.isSpace s.toList ≠ [] := by
    intro hnil
    apply h
    unfold strip
    rw [hnil]
  rcases Text.exists_of_strip_ne_nil hne with ⟨c, hmem, hc⟩
  exact ⟨c, (Text.strip_part s.toList).subset hmem, hc⟩

/-- A text that some character shows is not blank; a literal is checked by `rfl`. -/
theorem strip_ne_of_any {s : String} (h : s.toList.any (fun c => !Text.isSpace c) = true) :
    strip s ≠ "" := by
  rcases List.any_eq_true.mp h with ⟨c, hmem, hc⟩
  apply strip_ne_empty hmem
  simpa using hc

theorem strip_append_left {s : String} (h : strip s ≠ "") (t : String) : strip (s ++ t) ≠ "" := by
  rcases exists_of_strip_ne_empty h with ⟨c, hmem, hc⟩
  apply strip_ne_empty _ hc
  rw [String.toList_append]
  exact List.mem_append_left _ hmem

theorem strip_append_right (s : String) {t : String} (h : strip t ≠ "") : strip (s ++ t) ≠ "" := by
  rcases exists_of_strip_ne_empty h with ⟨c, hmem, hc⟩
  apply strip_ne_empty _ hc
  rw [String.toList_append]
  exact List.mem_append_right _ hmem

/-- A number that is not an integer: its text, and its value when it is finite. -/
structure Decimal where
  text : String
  value : Option Rat
  named : strip text ≠ ""

inductive Value where
  | null
  | bool (b : Bool)
  | int (n : Int)
  | float (x : Decimal)
  | str (s : String)
  | list (items : List Value)
  | tuple (items : List Value)
  | set (items : List Value)
  | mapping (entries : List (String × Value))

/-- The entries of a mapping, the one of a key first. -/
abbrev Mapping := List (String × Value)

namespace Mapping

/-- `mapping.get(key, default)`. -/
def getD (m : Mapping) (key : String) (default : Value) : Value :=
  (m.lookup key).getD default

/-- `mapping.get(key)`. -/
def get (m : Mapping) (key : String) : Value :=
  m.getD key .null

def has (m : Mapping) (key : String) : Bool :=
  (m.lookup key).isSome

end Mapping

namespace Value

/-- `bool(value)`. -/
def truthy : Value -> Bool
  | null => false
  | bool b => b
  | int n => n != 0
  | float x => x.value != some 0
  | str s => s != ""
  | list items => !items.isEmpty
  | tuple items => !items.isEmpty
  | set items => !items.isEmpty
  | mapping entries => !entries.isEmpty

/-- A text that may be absent. -/
def ofOption : Option String -> Value
  | some s => str s
  | none => null

/-- `first or second`. -/
def orElse (first second : Value) : Value :=
  if first.truthy then first else second

/-- `isinstance(value, Mapping)`. -/
def mapping? : Value -> Option Mapping
  | mapping entries => some entries
  | _ => none

/-- `isinstance(value, (tuple, list))`. -/
def sequence? : Value -> Option (List Value)
  | list items => some items
  | tuple items => some items
  | _ => none

/-- `value is None`. -/
def isNull : Value -> Bool
  | null => true
  | _ => false

/-- `value is True`. -/
def isTrue : Value -> Bool
  | bool b => b
  | _ => false

/-- `value is False`. -/
def isFalse : Value -> Bool
  | bool b => !b
  | _ => false

def isBool : Value -> Bool
  | bool _ => true
  | _ => false

/-- `isinstance(value, str)`. -/
def isText : Value -> Bool
  | str _ => true
  | _ => false

/-- `value == text`. -/
def equalsText (v : Value) (text : String) : Bool :=
  match v with
  | str s => s == text
  | _ => false

/-- `value == number`: a truth value and a decimal number compare as numbers. -/
def equalsInt (v : Value) (number : Int) : Bool :=
  match v with
  | bool b => (if b then 1 else 0) == number
  | int n => n == number
  | float x => x.value == some (number : Rat)
  | _ => false

/-- `list(value)`, when the value can be iterated. -/
def iterate? : Value -> Option (List Value)
  | list items => some items
  | tuple items => some items
  | set items => some items
  | str s => some (s.toList.map fun c => str (String.ofList [c]))
  | mapping entries => some (entries.map fun entry => str entry.1)
  | _ => none

/-- The integer a value is, when `isinstance(value, int)` and it is no truth value. -/
def int? : Value -> Option Int
  | int n => some n
  | _ => none

/-- What `hash` accepts. -/
def hashable : Value -> Bool
  | list _ => false
  | mapping _ => false
  | tuple items => items.attach.all fun item => item.val.hashable
  | _ => true
termination_by v => sizeOf v
decreasing_by
  have := List.sizeOf_lt_of_mem item.property
  simp_wf
  omega

/-- The text of a value, when the value is a text. -/
def text? : Value -> Option String
  | str s => some s
  | _ => none

end Value

inductive PyError where
  | valueError (message : String)
  | typeError (message : String)
  | overflowError
  | unicodeError
  | assertionError
  deriving DecidableEq

/-- Microseconds since the first instant of year 1. -/
abbrev Instant := Int

/-- The last instant a time can name: the end of year 9999. -/
def maxInstant : Instant :=
  315537897600000000 - 1

/-- An instant that a time can name. -/
def Representable (t : Instant) : Prop :=
  0 ≤ t ∧ t ≤ maxInstant

instance (t : Instant) : Decidable (Representable t) :=
  inferInstanceAs (Decidable (0 ≤ t ∧ t ≤ maxInstant))

/-- What `fromisoformat` makes of a text: no time, a time of no zone, or an instant. -/
inductive IsoTime where
  | malformed
  | naive
  | aware (instant : Instant)
  deriving DecidableEq

/-- Texts are those with a UTF-8 form, so `sha256` answers for all of them; the host can
hold a lone surrogate, which does not encode. -/
structure Runtime where
  lower : String -> String
  casefold : String -> String
  sha256 : String -> String
  containerText : Value -> String
  isoTime : String -> IsoTime
  lower_ascii : forall s, (forall c, c ∈ s.toList -> c.toNat < 128) ->
    lower s = String.ofList (s.toList.map Char.toLower)
  containerText_named : forall v, strip (containerText v) ≠ ""

namespace Runtime

variable (rt : Runtime)

/-- `str(value)`, with no limit on the digits of an integer. -/
def str : Value -> String
  | .null => "None"
  | .bool b => if b then "True" else "False"
  | .int n => toString n
  | .float x => x.text
  | .str s => s
  | v => rt.containerText v

/-- `str(value or "").strip()`. -/
def clean (v : Value) : String :=
  strip (rt.str (v.orElse (.str "")))

/-- `str(value or "").strip().lower()`. -/
def cleanLower (v : Value) : String :=
  rt.lower (rt.clean v)

/-- `str(value or default).strip().lower()`. -/
def cleanLowerOr (v : Value) (default : String) : String :=
  rt.lower (strip (rt.str (v.orElse (.str default))))

/-- A value that is not empty and whose text is blank: a text of white space. -/
def blank (v : Value) : Bool :=
  v.truthy && strip (rt.str v) == ""

/-- `_required_text`. -/
def requiredText (v : Value) (name : String) : Except PyError String :=
  if rt.clean v = "" then .error (.valueError (name ++ " is required"))
  else .ok (rt.clean v)

/-- `_optional_text`. -/
def optionalText : Value -> Option String
  | .null => none
  | v => if strip (rt.str v) = "" then none else some (strip (rt.str v))

/-- `text.replace("Z", "+00:00")`. -/
def utcSuffix (text : String) : String :=
  String.ofList (text.toList.flatMap fun c => if c = 'Z' then "+00:00".toList else [c])

/-- `_parse_time`: a local time outside the years 1 to 9999 once it is moved to UTC is
not refused as a value, it overflows. -/
def parseTime (v : Value) (name : String) : Except PyError Instant := do
  let raw <- rt.requiredText v name
  match rt.isoTime (utcSuffix raw) with
  | .malformed => .error (.valueError (name ++ " must be an ISO-8601 timestamp"))
  | .naive => .error (.valueError (name ++ " must include a timezone"))
  | .aware t => if Representable t then .ok t else .error .overflowError

section Blank

variable {rt}

theorem isSpace_of_isDigit {c : Char} (h : c.isDigit = true) : Text.isSpace c = false := by
  have hlow : 48 ≤ c.toNat := by
    have := (Bool.and_eq_true _ _).mp h
    exact UInt32.le_iff_toNat_le.mp (of_decide_eq_true this.left)
  have hhigh : c.toNat ≤ 57 := by
    have := (Bool.and_eq_true _ _).mp h
    exact UInt32.le_iff_toNat_le.mp (of_decide_eq_true this.right)
  unfold Text.isSpace
  simp only [Bool.or_eq_false_iff, Bool.and_eq_false_iff, decide_eq_false_iff_not,
    beq_eq_false_iff_ne]
  omega

theorem strip_orElse {v : Value} {default : String} (h : strip default ≠ "") :
    strip (rt.str (v.orElse (.str default))) = "" ↔ rt.blank v = true := by
  unfold Value.orElse blank
  by_cases htruthy : v.truthy = true
  · simp [htruthy]
  · simp only [htruthy, Bool.false_and, Bool.false_eq_true, iff_false]
    exact h

theorem strip_str_of_clean {v : Value} (h : rt.clean v ≠ "") : strip (rt.str v) ≠ "" := by
  unfold clean Value.orElse at h
  by_cases htruthy : v.truthy = true
  · rw [if_pos htruthy] at h
    exact h
  · rw [if_neg htruthy] at h
    have hempty : strip "" = "" := rfl
    exact absurd hempty h

@[simp] theorem clean_null : rt.clean .null = "" := by
  have hempty : strip "" = "" := rfl
  exact hempty

@[simp] theorem strip_clean (v : Value) : strip (rt.clean v) = rt.clean v :=
  strip_strip _

end Blank

/-- A runtime that knows the letter case of ASCII alone and reads no time. -/
def ascii : Runtime where
  lower s := String.ofList (s.toList.map Char.toLower)
  casefold s := String.ofList (s.toList.map Char.toLower)
  sha256 s := String.ofList (Sha256.hexdigest s.toList)
  containerText _ := "[]"
  isoTime _ := .malformed
  lower_ascii := fun _ _ => rfl
  containerText_named := by
    intro v
    decide +kernel

end Runtime
end Foundation
end Oompah

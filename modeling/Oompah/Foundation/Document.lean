import Oompah.Foundation.Value

/-!
# Stored documents

What a YAML or JSON document can hold, and what a program reads from it.  Keys of
a mapping are any values.  Texts of very large integers are refused, and so is
the integer of a number that is not finite, the infinite ones as an overflow.
-/

namespace Oompah
namespace Foundation

inductive FloatValue where
  | nan
  | infinite
  | finite (value : Rat)
  deriving DecidableEq

/-- A value of another kind, such as a time: it may name an integer. -/
structure ForeignValue where
  text : String
  truthy : Bool
  integer : Option Int
  deriving DecidableEq

inductive Document where
  | null
  | bool (b : Bool)
  | int (n : Int)
  | float (text : String) (value : FloatValue)
  | str (s : String)
  | list (items : List Document)
  | mapping (entries : List (Document × Document))
  | other (value : ForeignValue)

namespace Document

/-- The entries of a mapping, the one of a key first. -/
abbrev Entries := List (Document × Document)

/-- `bool(value)`. -/
def truthy : Document -> Bool
  | null => false
  | bool b => b
  | int n => n != 0
  | float _ value => value != .finite 0
  | str s => s != ""
  | list items => !items.isEmpty
  | mapping entries => !entries.isEmpty
  | other value => value.truthy

/-- `first or second`. -/
def orElse (first second : Document) : Document :=
  if first.truthy then first else second

/-- `value is True`. -/
def isTrue : Document -> Bool
  | bool b => b
  | _ => false

/-- `value is None`. -/
def isNull : Document -> Bool
  | null => true
  | _ => false

/-- `isinstance(value, Mapping)`. -/
def mapping? : Document -> Option Entries
  | mapping entries => some entries
  | _ => none

/-- `isinstance(value, (list, tuple))`. -/
def sequence? : Document -> Option (List Document)
  | list items => some items
  | _ => none

/-- The value is the text `key`. -/
def isKey (key : String) : Document -> Bool
  | str s => s == key
  | _ => false

def isInfinite : Document -> Bool
  | float _ .infinite => true
  | _ => false

end Document

namespace Document.Entries

/-- `mapping.get(key)`, if the key is there. -/
def lookup (m : Document.Entries) (key : String) : Option Document :=
  (m.find? fun entry => entry.1.isKey key).map Prod.snd

/-- `mapping.get(key, default)`. -/
def getD (m : Document.Entries) (key : String) (default : Document) : Document :=
  (m.lookup key).getD default

/-- `mapping.get(key)`. -/
def get (m : Document.Entries) (key : String) : Document :=
  m.getD key .null

/-- `key in mapping`. -/
def has (m : Document.Entries) (key : String) : Bool :=
  (m.lookup key).isSome

/-- The entries of a mapping whose keys are texts. -/
def ofFields (fields : List (String × Document)) : Document.Entries :=
  fields.map fun field => (.str field.1, field.2)

theorem get_ofFields {fields : List (String × Document)}
    (hkeys : (fields.map Prod.fst).Nodup) {key : String} {value : Document}
    (hmem : (key, value) ∈ fields) : (ofFields fields).get key = value := by
  unfold get getD lookup ofFields
  induction fields with
  | nil => cases hmem
  | cons field rest ih =>
    rw [List.map_cons, List.nodup_cons] at hkeys
    rcases List.mem_cons.mp hmem with rfl | hrest
    · simp [Document.isKey]
    · have hne : field.1 ≠ key := by
        rintro rfl
        exact hkeys.left (List.mem_map.mpr ⟨_, hrest, rfl⟩)
      simpa [Document.isKey, hne] using ih hkeys.right hrest

end Document.Entries

/-- The tables of the host language that stored documents are read with. -/
structure DocumentRuntime where
  lower : String -> String
  sha256 : String -> String
  repr : String -> String
  containerText : Document -> Option String
  integer : String -> Option Int
  lower_ascii : forall s, (forall c, c ∈ s.toList -> c.toNat < 128) ->
    lower s = String.ofList (s.toList.map Char.toLower)
  lower_lower : forall s, lower (lower s) = lower s
  strip_lower : forall s, strip (lower s) = lower (strip s)

namespace DocumentRuntime

variable (rt : DocumentRuntime)

/-- The error of an integer of more than 4300 digits. -/
def digitLimit : PyError :=
  .valueError "Exceeds the limit (4300 digits) for integer string conversion"

/-- The text of a container is refused when an integer in it is. -/
def textOrLimit : Option String -> Except PyError String
  | some text => .ok text
  | none => .error digitLimit

/-- `str(value)`. -/
def str : Document -> Except PyError String
  | .null => .ok "None"
  | .bool b => .ok (if b then "True" else "False")
  | .int n =>
    if (Nat.toDigits 10 n.natAbs).length ≤ 4300 then .ok (toString n)
    else .error digitLimit
  | .float text _ => .ok text
  | .str s => .ok s
  | .other value => .ok value.text
  | .list items => textOrLimit (rt.containerText (.list items))
  | .mapping entries => textOrLimit (rt.containerText (.mapping entries))

/-- `str(value or "").strip()`. -/
def clean (v : Document) : Except PyError String := do
  let text <- rt.str (v.orElse (.str ""))
  return strip text

/-- `str(value or "").strip().lower()`. -/
def cleanLower (v : Document) : Except PyError String := do
  let text <- rt.clean v
  return rt.lower text

/-- `int(value)`. -/
def int : Document -> Except PyError Int
  | .bool b => .ok (if b then 1 else 0)
  | .int n => .ok n
  | .float _ .nan => .error (.valueError "cannot convert float NaN to integer")
  | .float _ .infinite => .error .overflowError
  | .float _ (.finite x) => .ok (x.num.tdiv x.den)
  | .str s =>
    match rt.integer s with
    | some n => .ok n
    | none => .error (.valueError "invalid literal for int() with base 10")
  | .other value =>
    match value.integer with
    | some n => .ok n
    | none => .error (.typeError "int() argument must be a string or a number")
  | _ => .error (.typeError "int() argument must be a string or a number")

section Laws

variable {rt}

variable {e : PyError}

theorem textOrLimit_error {text : Option String}
    (h : textOrLimit text = .error e) : e = digitLimit := by
  cases text with
  | none => exact (Except.error.inj h).symm
  | some text => cases h

variable {v : Document}

theorem str_error (h : rt.str v = .error e) : e = digitLimit := by
  cases v with
  | int n =>
    rw [str] at h
    split at h
    · cases h
    · exact (Except.error.inj h).symm
  | list items => exact textOrLimit_error h
  | mapping entries => exact textOrLimit_error h
  | _ => cases h

theorem clean_error (h : rt.clean v = .error e) : e = digitLimit := by
  unfold clean at h
  cases htext : rt.str (v.orElse (.str "")) with
  | ok text =>
    rw [htext] at h
    cases h
  | error e' =>
    rw [htext] at h
    cases h
    exact str_error htext

theorem cleanLower_error (h : rt.cleanLower v = .error e) : e = digitLimit := by
  unfold cleanLower at h
  cases htext : rt.clean v with
  | ok text =>
    rw [htext] at h
    cases h
  | error e' =>
    rw [htext] at h
    cases h
    exact clean_error htext

@[simp] theorem clean_str (s : String) : rt.clean (.str s) = .ok (strip s) := by
  unfold clean Document.orElse
  by_cases hempty : s = ""
  · subst hempty
    rfl
  · have htruthy : (Document.str s).truthy = true := bne_iff_ne.mpr hempty
    rw [if_pos htruthy]
    rfl

@[simp] theorem cleanLower_str (s : String) :
    rt.cleanLower (.str s) = .ok (rt.lower (strip s)) := by
  unfold cleanLower
  rw [clean_str]
  rfl

theorem clean_stripped {text : String} (h : rt.clean v = .ok text) : strip text = text := by
  unfold clean at h
  cases htext : rt.str (v.orElse (.str "")) with
  | ok raw =>
    rw [htext] at h
    cases h
    exact strip_strip raw
  | error e =>
    rw [htext] at h
    cases h

theorem cleanLower_normal {text : String} (h : rt.cleanLower v = .ok text) :
    rt.lower (strip text) = text := by
  unfold cleanLower at h
  cases hclean : rt.clean v with
  | ok raw =>
    rw [hclean] at h
    cases h
    rw [rt.strip_lower, clean_stripped hclean, rt.lower_lower]
  | error e =>
    rw [hclean] at h
    cases h

/-- A character that neither stripping nor lowering changes. -/
def plain (c : Char) : Bool :=
  !Text.isSpace c && c.toLower = c && c.toNat < 128

theorem lower_strip_plain {s : String} (h : s.toList.all plain = true) :
    rt.lower (strip s) = s := by
  have hplain : forall c, c ∈ s.toList ->
      Text.isSpace c = false ∧ c.toLower = c ∧ c.toNat < 128 := by
    intro c hc
    have hall := List.all_eq_true.mp h c hc
    simpa [plain, and_assoc] using hall
  have hstrip : strip s = s := by
    have hstripped : Text.Stripped Text.isSpace s.toList :=
      ⟨fun c hc => (hplain c (List.mem_of_head? hc)).left,
        fun c hc => (hplain c (List.mem_of_getLast? hc)).left⟩
    unfold strip
    rw [hstripped.strip_eq, String.ofList_toList]
  have hmap : s.toList.map Char.toLower = s.toList :=
    (List.map_congr_left (fun c hc => (hplain c hc).right.left)).trans (List.map_id _)
  rw [hstrip, rt.lower_ascii s (fun c hc => (hplain c hc).right.right), hmap, String.ofList_toList]

end Laws

/-!
# Letter case of ASCII
-/

theorem toNat_toLower (c : Char) : c.toLower.toNat =
    if 65 ≤ c.toNat ∧ c.toNat ≤ 90 then c.toNat + 32 else c.toNat := by
  have hcase : (c.val ≥ 'A'.val ∧ c.val ≤ 'Z'.val) <-> 65 ≤ c.toNat ∧ c.toNat ≤ 90 := by
    rfl
  unfold Char.toLower
  by_cases h : c.val ≥ 'A'.val ∧ c.val ≤ 'Z'.val
  · rw [dif_pos h, if_pos (hcase.mp h)]
    show (c.val + 32).toNat = c.val.toNat + 32
    have hhigh : c.toNat ≤ 90 := (hcase.mp h).right
    simp
    omega
  · rw [dif_neg h, if_neg (fun h' => h (hcase.mpr h'))]

theorem toLower_toLower (c : Char) : c.toLower.toLower = c.toLower := by
  apply Char.toNat_inj.mp
  rw [toNat_toLower, toNat_toLower]
  split
  · simp
    omega
  · simp

theorem isSpace_toLower (c : Char) : Text.isSpace c.toLower = Text.isSpace c := by
  unfold Text.isSpace
  rw [toNat_toLower]
  split
  · rw [Bool.eq_iff_iff]
    simp
    omega
  · rfl

theorem strip_map {α : Type} {space : α -> Bool} {f : α -> α}
    (h : forall a, space (f a) = space a) (s : List α) :
    Text.strip space (s.map f) = (Text.strip space s).map f := by
  have hcomp : space ∘ f = space := funext h
  unfold Text.strip List.rdropWhile
  rw [List.dropWhile_map, hcomp, ← List.map_reverse, List.dropWhile_map, hcomp, List.map_reverse]

/-- A runtime that knows the letter case of ASCII alone, with a given digest. -/
def ascii (sha256 : String -> String) : DocumentRuntime where
  lower s := String.ofList (s.toList.map Char.toLower)
  sha256 := sha256
  repr s := s
  containerText _ := some "[]"
  integer _ := none
  lower_ascii := (Runtime.ascii).lower_ascii
  lower_lower := by
    intro s
    rw [String.toList_ofList, List.map_map]
    congr 2
    exact funext toLower_toLower
  strip_lower := by
    intro s
    unfold strip
    rw [String.toList_ofList, String.toList_ofList, strip_map isSpace_toLower]

end DocumentRuntime
end Foundation
end Oompah

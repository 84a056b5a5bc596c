import Mathlib.Algebra.GroupWithZero.Nat
import Mathlib.Data.List.Sort
import Mathlib.Algebra.BigOperators.Group.List.Basic

/-!
# Canonical JSON

JSON values and their canonical text: keys in order, no white space, and every character
outside printable ASCII escaped.  The length of that text is a sum over the value, and the
order of the keys does not change it.
-/

namespace Oompah
namespace Foundation

inductive Json where
  | null
  | int (n : Int)
  | text (s : String)
  | list (items : List Json)
  | object (entries : List (String × Json))

namespace Json

abbrev Entries := List (String × Json)

/-! ## Text -/

def hexDigit (n : Nat) : Char :=
  ("0123456789abcdef".toList.getD (n % 16) '0')

/-- `\uXXXX`. -/
def unicodeEscape (n : Nat) : List Char :=
  ['\\', 'u', hexDigit (n / 4096), hexDigit (n / 256), hexDigit (n / 16), hexDigit n]

def shortEscapes : List (Char × Char) :=
  [('"', '"'), ('\\', '\\'), ('\n', 'n'), ('\r', 'r'), ('\t', 't'), (Char.ofNat 8, 'b'),
    (Char.ofNat 12, 'f')]

/-- A character of a string body under `ensure_ascii`. -/
def escapeChar (c : Char) : List Char :=
  match shortEscapes.lookup c with
  | some short => ['\\', short]
  | none =>
    if 32 ≤ c.toNat ∧ c.toNat < 127 then [c]
    else if c.toNat < 65536 then unicodeEscape c.toNat
    else
      unicodeEscape (55296 + (c.toNat - 65536) / 1024) ++
        unicodeEscape (56320 + (c.toNat - 65536) % 1024)

def escape (s : String) : List Char :=
  s.toList.flatMap escapeChar

def quoted (s : String) : List Char :=
  '"' :: escape s ++ ['"']

/-- The parts with a comma between them. -/
def commaSeparated : List (List Char) -> List Char
  | [] => []
  | [part] => part
  | part :: rest => part ++ ',' :: commaSeparated rest

def keyLe (a b : String × List Char) : Bool :=
  !(b.1 < a.1)

/-- A member of an object as it is written. -/
def member (entry : String × List Char) : List Char :=
  quoted entry.1 ++ ':' :: entry.2

def openBrace : Char := Char.ofNat 123

def closeBrace : Char := Char.ofNat 125

mutual

/-- `json.dumps(value, sort_keys=True, separators=(",", ":"), ensure_ascii=True)`. -/
def encode : Json -> List Char
  | null => "null".toList
  | int n => (toString n).toList
  | text s => quoted s
  | list items => '[' :: commaSeparated (encodeItems items) ++ [']']
  | object entries =>
    let sorted := (encodeEntries entries).insertionSort (keyLe · ·)
    openBrace :: commaSeparated (sorted.map member) ++ [closeBrace]

def encodeItems : List Json -> List (List Char)
  | [] => []
  | item :: rest => encode item :: encodeItems rest

def encodeEntries : Entries -> List (String × List Char)
  | [] => []
  | entry :: rest => (entry.1, encode entry.2) :: encodeEntries rest

end

def encoded (v : Json) : String :=
  String.ofList v.encode

/-! ## Length -/

/-- The length of an escaped character. -/
def escapedLength (c : Char) : Nat :=
  if (shortEscapes.lookup c).isSome then 2
  else if 32 ≤ c.toNat ∧ c.toNat < 127 then 1
  else if c.toNat < 65536 then 6
  else 12

def textLength (s : String) : Nat :=
  2 + (s.toList.map escapedLength).sum

theorem escapeChar_length (c : Char) : (escapeChar c).length = escapedLength c := by
  unfold escapeChar escapedLength
  cases shortEscapes.lookup c with
  | some short => rfl
  | none =>
    simp only [Option.isSome_none, Bool.false_eq_true, if_false]
    split
    · rfl
    · split <;> rfl

theorem quoted_length (s : String) : (quoted s).length = textLength s := by
  unfold quoted textLength escape
  rw [List.length_append, List.length_cons, List.length_flatMap]
  rw [List.map_congr_left (fun c _ => escapeChar_length c)]
  simp only [List.length_singleton]
  omega

theorem commaSeparated_length (parts : List (List Char)) :
    (commaSeparated parts).length = (parts.map List.length).sum + (parts.length - 1) := by
  induction parts with
  | nil => rfl
  | cons part rest ih =>
    cases rest with
    | nil => simp [commaSeparated]
    | cons next rest =>
      rw [commaSeparated, List.length_append, List.length_cons, ih]
      · simp only [List.map_cons, List.sum_cons, List.length_cons]
        omega
      · simp

mutual

/-- The length of the canonical text. -/
def size : Json -> Nat
  | null => 4
  | int n => (toString n).length
  | text s => textLength s
  | list items => 2 + itemsSize items + (items.length - 1)
  | object entries => 2 + entriesSize entries + (entries.length - 1)

def itemsSize : List Json -> Nat
  | [] => 0
  | item :: rest => size item + itemsSize rest

def entriesSize : Entries -> Nat
  | [] => 0
  | entry :: rest => textLength entry.1 + 1 + size entry.2 + entriesSize rest

end

theorem members_length (entries : List (String × List Char)) :
    (commaSeparated ((entries.insertionSort (keyLe · ·)).map member)).length =
      (entries.map fun entry => (member entry).length).sum + (entries.length - 1) := by
  have hperm := List.perm_insertionSort (keyLe · ·) entries
  rw [commaSeparated_length, List.map_map, List.length_map, hperm.length_eq]
  exact congrArg (fun n => n + (entries.length - 1)) (hperm.map _).sum_eq

mutual

theorem encode_length : forall v : Json, (encode v).length = size v
  | null => rfl
  | int _ => rfl
  | text s => quoted_length s
  | list items => by
      rcases encodeItems_length items with ⟨hsum, hlength⟩
      unfold encode size
      rw [List.length_append, List.length_cons, commaSeparated_length, hsum, hlength,
        List.length_singleton]
      omega
  | object entries => by
      rcases encodeEntries_length entries with ⟨hsum, hlength⟩
      unfold encode size
      rw [List.length_append, List.length_cons, List.length_singleton]
      have hmembers := members_length (encodeEntries entries)
      omega

theorem encodeItems_length : forall items : List Json,
    ((encodeItems items).map List.length).sum = itemsSize items ∧
      (encodeItems items).length = items.length
  | [] => ⟨rfl, rfl⟩
  | item :: rest => by
      rcases encodeItems_length rest with ⟨hsum, hlength⟩
      unfold encodeItems itemsSize
      rw [List.map_cons, List.sum_cons, encode_length item, hsum, List.length_cons, hlength]
      exact ⟨rfl, rfl⟩

theorem encodeEntries_length : forall entries : Entries,
    ((encodeEntries entries).map fun entry => (member entry).length).sum = entriesSize entries ∧
      (encodeEntries entries).length = entries.length
  | [] => ⟨rfl, rfl⟩
  | entry :: rest => by
      rcases encodeEntries_length rest with ⟨hsum, hlength⟩
      have hmember : (member (entry.1, encode entry.2)).length =
          textLength entry.1 + 1 + size entry.2 := by
        show (quoted entry.1 ++ ':' :: encode entry.2).length = _
        rw [List.length_append, quoted_length, List.length_cons, encode_length entry.2]
        omega
      unfold encodeEntries entriesSize
      rw [List.map_cons, List.sum_cons, hmember, hsum, List.length_cons, hlength]
      exact ⟨rfl, rfl⟩

end

attribute [irreducible] encode

end Json
end Foundation
end Oompah

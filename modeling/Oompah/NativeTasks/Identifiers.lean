import Oompah.Foundation.Value

/-!
# Identifiers of native tasks

A native task is named by its project's prefix and a number.  The names of its files
are made safe for a path; two texts name one task when they differ in letter case and
in the space around them only.
-/

namespace Oompah
namespace NativeTasks

open Foundation

/-!
# Safe names
-/

/-- `[A-Za-z0-9._-]`. -/
def safeChar (c : Char) : Bool :=
  c.isAlphanum || c == '.' || c == '_' || c == '-'

def edgeChar (c : Char) : Bool :=
  c == '.' || c == '-' || c == '_'

/-- Every run of characters that are not safe becomes one hyphen. -/
def replaceUnsafe : Bool -> List Char -> List Char
  | _, [] => []
  | inRun, c :: rest =>
    if safeChar c then c :: replaceUnsafe false rest
    else if inRun then replaceUnsafe true rest
    else '-' :: replaceUnsafe true rest

/-- `_safe_id`. -/
def safeId (value : String) : String :=
  let cleaned := Text.strip edgeChar (replaceUnsafe false (strip value).toList)
  if cleaned = [] then "task" else String.ofList cleaned

/-- `_task_prefix`: `name` is the configured prefix, else the name of the repository. -/
def taskPrefix (name : String) : String :=
  String.ofList ((safeId name).toList.map Char.toUpper)

/-!
# Numbers
-/

def taskIdentifier (name : String) (n : Nat) : String :=
  taskPrefix name ++ "-" ++ toString n

section Lookup

variable (rt : Runtime)

def lookupId (identifier : String) : String :=
  rt.lower (strip identifier)

/-- The number that `^PREFIX-(\d+)$` reads from a text whatever its letter case. -/
def identifierNumber (name text : String) : Option Nat :=
  let marker := (rt.lower (taskPrefix name ++ "-")).toList
  let folded := (rt.lower text).toList
  let digits := folded.drop marker.length
  if marker.isPrefixOf folded ∧ digits ≠ [] ∧ digits.all Char.isDigit then
    some (Nat.ofDigitChars 10 digits 0)
  else
    none

/-- `_next_identifier`, from the identifiers and the file names it looks at. -/
def nextIdentifier (name : String) (identifiers stems : List String) : String :=
  let seen := (identifiers ++ stems).filterMap (identifierNumber rt name)
  taskIdentifier name (seen.foldl max 0 + 1)

end Lookup

/-!
# The prefix
-/

variable {c : Char}

theorem toNat_lt_of_safeChar (h : safeChar c = true) : c.toNat < 128 := by
  unfold safeChar Char.isAlphanum Char.isAlpha Char.isUpper Char.isLower Char.isDigit at h
  simp only [Bool.or_eq_true, Bool.and_eq_true, decide_eq_true_eq, beq_iff_eq] at h
  rcases h with (((((h | h) | h) | h) | h) | h)
  · exact Nat.lt_of_le_of_lt (UInt32.le_iff_toNat_le.mp h.right) (by decide)
  · exact Nat.lt_of_le_of_lt (UInt32.le_iff_toNat_le.mp h.right) (by decide)
  · exact Nat.lt_of_le_of_lt (UInt32.le_iff_toNat_le.mp h.right) (by decide)
  · subst h; decide
  · subst h; decide
  · subst h; decide

theorem safeChar_cases {P : Char -> Prop}
    (h : forall n, n < 128 -> safeChar (Char.ofNat n) = true -> P (Char.ofNat n))
    (hc : safeChar c = true) : P c := by
  have hofNat : Char.ofNat c.toNat = c := Char.ofNat_toNat c
  rw [← hofNat] at hc ⊢
  rw [Char.ofNat_toNat] at hc ⊢
  have := h c.toNat (toNat_lt_of_safeChar hc)
  rw [Char.ofNat_toNat] at this
  exact this hc

theorem safeChar_toUpper (h : safeChar c = true) :
    safeChar c.toUpper = true ∧ edgeChar c.toUpper = edgeChar c := by
  revert h
  have hall : forall n, n < 128 -> safeChar (Char.ofNat n) = true ->
      safeChar (Char.ofNat n).toUpper = true ∧
        edgeChar (Char.ofNat n).toUpper = edgeChar (Char.ofNat n) := by
    decide
  exact fun h => safeChar_cases (P := fun c => safeChar c.toUpper = true ∧
    edgeChar c.toUpper = edgeChar c) hall h

theorem isSpace_of_safeChar (h : safeChar c = true) : Text.isSpace c = false := by
  have hall : forall n, n < 128 -> safeChar (Char.ofNat n) = true ->
      Text.isSpace (Char.ofNat n) = false := by
    decide
  exact safeChar_cases (P := fun c => Text.isSpace c = false) hall h

theorem replaceUnsafe_safe (inRun : Bool) (text : List Char) :
    forall c, c ∈ replaceUnsafe inRun text -> safeChar c = true := by
  induction text generalizing inRun with
  | nil =>
    intro c hc
    cases hc
  | cons d rest ih =>
    intro c hc
    unfold replaceUnsafe at hc
    split at hc
    · rename_i hsafe
      rcases List.mem_cons.mp hc with hhead | htail
      · exact hhead ▸ hsafe
      · exact ih false c htail
    · split at hc
      · exact ih true c hc
      · rcases List.mem_cons.mp hc with hhead | htail
        · exact hhead ▸ rfl
        · exact ih true c htail

theorem replaceUnsafe_self {text : List Char} (h : forall c, c ∈ text -> safeChar c = true)
    (inRun : Bool) : replaceUnsafe inRun text = text := by
  induction text generalizing inRun with
  | nil => rfl
  | cons c rest ih =>
    unfold replaceUnsafe
    rw [if_pos (h c List.mem_cons_self)]
    rw [ih (fun d hd => h d (List.mem_cons_of_mem c hd))]

theorem safeId_spec (value : String) :
    exists c rest, (safeId value).toList = c :: rest ∧ edgeChar c = false ∧
      forall d, d ∈ (safeId value).toList -> safeChar d = true := by
  unfold safeId
  dsimp only
  split
  · refine ⟨'t', "ask".toList, rfl, rfl, ?_⟩
    have htask : "task".toList.all safeChar = true := by decide
    exact List.all_eq_true.mp htask
  · rename_i hne
    rw [String.toList_ofList]
    have hpart : Text.strip edgeChar (replaceUnsafe false (strip value).toList) <:+:
        replaceUnsafe false (strip value).toList := Text.strip_part _
    have hstripped : Text.Stripped edgeChar
        (Text.strip edgeChar (replaceUnsafe false (strip value).toList)) :=
      Text.strip_stripped _
    rcases List.exists_cons_of_ne_nil hne with ⟨c, rest, hcons⟩
    refine ⟨c, rest, hcons, ?_, ?_⟩
    · apply hstripped.left
      rw [hcons]
      rfl
    · intro d hd
      exact replaceUnsafe_safe _ _ d (hpart.subset hd)

theorem taskPrefix_spec (name : String) :
    exists c rest, (taskPrefix name).toList = c :: rest ∧ edgeChar c = false ∧
      forall d, d ∈ (taskPrefix name).toList -> safeChar d = true := by
  rcases safeId_spec name with ⟨c, rest, hcons, hedge, hsafe⟩
  unfold taskPrefix
  rw [String.toList_ofList]
  refine ⟨c.toUpper, rest.map Char.toUpper, by rw [hcons]; rfl, ?_, ?_⟩
  · have hc : safeChar c = true := hsafe c (hcons ▸ List.mem_cons_self)
    rw [(safeChar_toUpper hc).right, hedge]
  · intro d hd
    rcases List.mem_map.mp hd with ⟨e, he, heq⟩
    exact heq ▸ (safeChar_toUpper (hsafe e he)).left

/-!
# New identifiers
-/

theorem safeChar_of_isDigit (h : c.isDigit = true) :
    safeChar c = true ∧ edgeChar c = false ∧ c.toLower = c := by
  have hsafe : safeChar c = true := by
    unfold safeChar Char.isAlphanum
    simp [h]
  have hall : forall n, n < 128 -> safeChar (Char.ofNat n) = true ->
      (Char.ofNat n).isDigit = true ->
        edgeChar (Char.ofNat n) = false ∧ (Char.ofNat n).toLower = Char.ofNat n := by
    decide
  have hdigit := safeChar_cases (P := fun c => c.isDigit = true ->
    edgeChar c = false ∧ c.toLower = c) hall hsafe
  exact ⟨hsafe, hdigit h⟩

theorem isDigit_of_mem_toString {n : Nat} (h : c ∈ (toString n).toList) : c.isDigit = true := by
  have hrepr : (toString n).toList = Nat.toDigits 10 n := Nat.toList_repr
  rw [hrepr] at h
  exact Nat.isDigit_of_mem_toDigits (by decide) (by decide) h

theorem toList_taskIdentifier (name : String) (n : Nat) : (taskIdentifier name n).toList =
      (taskPrefix name ++ "-").toList ++ (toString n).toList := by
  unfold taskIdentifier
  rw [String.toList_append]

theorem taskIdentifier_safe (name : String) (n : Nat) :
    forall c, c ∈ (taskIdentifier name n).toList -> safeChar c = true := by
  intro c hc
  rw [toList_taskIdentifier, String.toList_append, List.mem_append, List.mem_append] at hc
  rcases hc with (hletters | hhyphen) | hdigits
  · rcases taskPrefix_spec name with ⟨_, _, _, _, hsafe⟩
    exact hsafe c hletters
  · rw [List.mem_singleton.mp hhyphen]
    rfl
  · exact (safeChar_of_isDigit (isDigit_of_mem_toString hdigits)).left

theorem taskIdentifier_stripped (name : String) (n : Nat) :
    Text.Stripped edgeChar (taskIdentifier name n).toList := by
  constructor
  · intro c hc
    rcases taskPrefix_spec name with ⟨first, rest, hcons, hedge, _⟩
    rw [toList_taskIdentifier, String.toList_append, hcons] at hc
    cases hc
    exact hedge
  · intro c hc
    have hdigits : (toString n).toList ≠ [] := by
      have hrepr : (toString n).toList = Nat.toDigits 10 n := Nat.toList_repr
      rw [hrepr]
      exact Nat.toDigits_ne_nil
    rw [toList_taskIdentifier, List.getLast?_append_of_ne_nil _ hdigits] at hc
    exact (safeChar_of_isDigit (isDigit_of_mem_toString (List.mem_of_getLast? hc))).right.left

theorem strip_taskIdentifier (name : String) (n : Nat) :
    strip (taskIdentifier name n) = taskIdentifier name n := by
  have hspace : Text.Stripped Text.isSpace (taskIdentifier name n).toList := by
    constructor
    · intro c hc
      exact isSpace_of_safeChar (taskIdentifier_safe name n c (List.mem_of_head? hc))
    · intro c hc
      exact isSpace_of_safeChar (taskIdentifier_safe name n c (List.mem_of_getLast? hc))
  unfold strip
  rw [hspace.strip_eq, String.ofList_toList]

theorem taskIdentifier_ne_nil (name : String) (n : Nat) : (taskIdentifier name n).toList ≠ [] := by
  rcases taskPrefix_spec name with ⟨first, rest, hcons, _, _⟩
  rw [toList_taskIdentifier, String.toList_append, hcons]
  simp

theorem safeId_taskIdentifier (name : String) (n : Nat) :
    safeId (taskIdentifier name n) = taskIdentifier name n := by
  unfold safeId
  rw [strip_taskIdentifier, replaceUnsafe_self (taskIdentifier_safe name n),
    (taskIdentifier_stripped name n).strip_eq, if_neg (taskIdentifier_ne_nil name n),
    String.ofList_toList]

section Lookup

variable {rt : Runtime}

theorem lower_of_safe {text : String} (h : forall c, c ∈ text.toList -> safeChar c = true) :
    rt.lower text = String.ofList (text.toList.map Char.toLower) :=
  rt.lower_ascii text (fun c hc => toNat_lt_of_safeChar (h c hc))

/-- A text in any letter case of an identifier is read as its number. -/
theorem identifierNumber_eq {name text : String} {n : Nat}
    (h : rt.lower text = rt.lower (taskIdentifier name n)) :
    identifierNumber rt name text = some n := by
  have hmarker : forall c, c ∈ (taskPrefix name ++ "-").toList -> safeChar c = true := by
    intro c hc
    apply taskIdentifier_safe name n c
    rw [toList_taskIdentifier]
    exact List.mem_append_left _ hc
  have hdigits : (toString n).toList.map Char.toLower = (toString n).toList := by
    conv_rhs => rw [← List.map_id (toString n).toList]
    apply List.map_congr_left
    intro c hc
    exact (safeChar_of_isDigit (isDigit_of_mem_toString hc)).right.right
  have hfolded : (rt.lower text).toList =
      (rt.lower (taskPrefix name ++ "-")).toList ++ Nat.toDigits 10 n := by
    rw [h, lower_of_safe (taskIdentifier_safe name n), lower_of_safe hmarker,
      String.toList_ofList, String.toList_ofList, toList_taskIdentifier, List.map_append,
      hdigits]
    exact congrArg _ Nat.toList_repr
  have hall : (Nat.toDigits 10 n).all Char.isDigit = true :=
    List.all_eq_true.mpr (fun c hc =>
      Nat.isDigit_of_mem_toDigits (by decide) (by decide) hc)
  unfold identifierNumber
  simp only [hfolded, List.drop_left]
  rw [if_pos ⟨List.isPrefixOf_iff_prefix.mpr (List.prefix_append _ _),
    Nat.toDigits_ne_nil, hall⟩, Nat.ofDigitChars_ten_toDigits]

theorem le_foldl_max {numbers : List Nat} {n : Nat} (h : n ∈ numbers) (start : Nat) :
    n ≤ numbers.foldl max start := by
  rw [List.foldl_max]
  exact (List.le_max?_getD_of_mem h).trans (Nat.le_max_right _ _)

/-- No identifier and no file name it was made from is the new one in another letter case. -/
theorem nextIdentifier_fresh {name text : String} {identifiers stems : List String}
    (h : text ∈ identifiers ++ stems) :
    rt.lower text ≠ rt.lower (nextIdentifier rt name identifiers stems) := by
  intro hsame
  unfold nextIdentifier at hsame
  have hnumber := identifierNumber_eq hsame
  have hseen := List.mem_filterMap.mpr ⟨text, h, hnumber⟩
  have hle := le_foldl_max hseen 0
  omega

end Lookup
end NativeTasks
end Oompah

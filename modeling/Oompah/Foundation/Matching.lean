import Oompah.Foundation.Pattern

/-!
# Matching by lines

Matchers that stand at the edges of lines, repetitions that stop as soon as they can, a
captured group, and searches for one match or for all of them from left to right.
-/

namespace Oompah
namespace Foundation

open Pattern (greedy)

/-- The places a match can end at, in the order they are tried. -/
abbrev Matcher (α : Type) := Place α -> List (Place α)

/-- What a group has captured, and the place the whole match ends at. -/
structure Capture (α : Type) where
  text : List α
  stop : Place α

namespace Matcher

section Definitions

variable {α : Type}

def ofPattern (word : α -> Bool) (r : Pattern α) : Matcher α :=
  r.ends word

def andThen (first second : Matcher α) : Matcher α :=
  fun p => (first p).flatMap second

/-- `^`, where every line starts anew. -/
def lineStart [DecidableEq α] (newline : α) : Matcher α :=
  fun p => if p.before = none ∨ p.before = some newline then [p] else []

/-- `$`, where every line ends. -/
def lineEnd [DecidableEq α] (newline : α) : Matcher α :=
  fun p => if p.after.head? = none ∨ p.after.head? = some newline then [p] else []

/-- The places a repetition of at least one symbol reaches, the nearest first. -/
def lazyFrom (accepts : α -> Bool) : List α -> List (Place α)
  | [] => []
  | c :: rest =>
    if accepts c = true then ⟨some c, rest⟩ :: lazyFrom accepts rest else []

def lazily (accepts : α -> Bool) : Matcher α :=
  fun p => lazyFrom accepts p.after

/-- The matches of a group between two matchers, in the order they are tried. -/
def captures (opening group closing : Matcher α) (p : Place α) : List (Capture α) :=
  (opening p).flatMap fun q =>
    (group q).flatMap fun r =>
      (closing r).map fun stop =>
        { text := q.after.take (q.after.length - r.after.length), stop }

/-- The first match at each place. -/
def capture? (opening group closing : Matcher α) (p : Place α) : Option (Capture α) :=
  (captures opening group closing p).head?

/-- `re.search`: the first match, from left to right. -/
def search (m : Place α -> Option (Capture α)) (before : Option α) : List α -> Option (Capture α)
  | [] => m ⟨before, []⟩
  | c :: rest =>
    match m ⟨before, c :: rest⟩ with
    | some found => some found
    | none => search m (some c) rest

/-- The text in front of the first match. -/
def beforeMatch (m : Place α -> Option (Capture α)) (before : Option α) : List α -> List α
  | [] => []
  | c :: rest =>
    match m ⟨before, c :: rest⟩ with
    | some _ => []
    | none => c :: beforeMatch m (some c) rest

/-- `re.finditer` for a matcher that never matches the empty text; `skip` counts the
symbols of the last match that are still to be passed over. -/
def findAll (m : Place α -> Option (Capture α)) (before : Option α) :
    Nat -> List α -> List (Capture α)
  | _, [] => []
  | skip + 1, c :: rest => findAll m (some c) skip rest
  | 0, c :: rest =>
    match m ⟨before, c :: rest⟩ with
    | none => findAll m (some c) 0 rest
    | some found =>
      found :: findAll m (some c) (rest.length - found.stop.after.length) rest

end Definitions

/-!
# Searching line by line
-/

section Lines

variable {α : Type} {m : Place α -> Option (Capture α)} {newline : α}

/-- A matcher that matches at the start of a line only. -/
def AtLineStarts (newline : α) (m : Place α -> Option (Capture α)) : Prop :=
  forall c rest, c ≠ newline -> m ⟨some c, rest⟩ = none

/-- From inside a line a search goes on at the start of the next line. -/
theorem findAll_line (hm : AtLineStarts newline m) {line : List α} (hline : newline ∉ line)
    {before : α} (hbefore : before ≠ newline) (rest : List α) :
    findAll m (some before) 0 (line ++ newline :: rest) = findAll m (some newline) 0 rest := by
  induction line generalizing before with
  | nil => rw [List.nil_append, findAll, hm before _ hbefore]
  | cons c line ih =>
    rw [List.cons_append, findAll, hm before _ hbefore]
    have hc : c ≠ newline := fun h => hline (h ▸ List.mem_cons_self)
    exact ih (fun h => hline (List.mem_cons_of_mem _ h)) hc

/-- The last line holds no match after its start. -/
theorem findAll_lastLine (hm : AtLineStarts newline m) {line : List α}
    (hline : newline ∉ line) {before : α} (hbefore : before ≠ newline) :
    findAll m (some before) 0 line = [] := by
  induction line generalizing before with
  | nil => rfl
  | cons c line ih =>
    rw [findAll, hm before _ hbefore]
    have hc : c ≠ newline := fun h => hline (h ▸ List.mem_cons_self)
    exact ih (fun h => hline (List.mem_cons_of_mem _ h)) hc

theorem findAll_skip (read rest : List α) (before : Option α) :
    findAll m before read.length (read ++ rest) = findAll m (read.getLast?.or before) 0 rest := by
  induction read generalizing before with
  | nil => rfl
  | cons c read ih =>
    rw [List.cons_append, List.length_cons, findAll, ih, List.getLast?_cons]
    cases read.getLast? <;> rfl

variable {before : Option α}

theorem findAll_none {c : α} {rest : List α} (h : m ⟨before, c :: rest⟩ = none) :
    findAll m before 0 (c :: rest) = findAll m (some c) 0 rest := by
  rw [findAll, h]

theorem findAll_found {c : α} {rest : List α} {found : Capture α}
    (h : m ⟨before, c :: rest⟩ = some found) :
    findAll m before 0 (c :: rest) =
      found :: findAll m (some c) (rest.length - found.stop.after.length) rest := by
  rw [findAll, h]

theorem findAll_some {read rest : List α} {text : List α}
    (hread : read ≠ []) (h : m ⟨before, read ++ rest⟩ = some ⟨text, ⟨read.getLast?, rest⟩⟩) :
    (findAll m before 0 (read ++ rest)).map Capture.text =
      text :: (findAll m read.getLast? 0 rest).map Capture.text := by
  cases read with
  | nil => exact absurd rfl hread
  | cons c read =>
    rw [List.cons_append] at h ⊢
    rw [findAll_found h]
    simp only [List.map_cons, List.length_append, Nat.add_sub_cancel]
    rw [findAll_skip, List.getLast?_cons]
    cases read.getLast? <;> rfl

end Lines

/-!
# Matches of a text do not depend on what follows it

The text ends with a line break, and what follows starts with a symbol that stops every
repetition of the matcher.
-/

section Local

variable {α : Type} {word : α -> Bool} {newline : α} {more : List α}

/-- The text up to the end of the place's text ends with the symbol. -/
def EndsWith (newline : α) (p : Place α) : Prop :=
  p.after.getLast?.or p.before = some newline

def Extend (more : List α) (p : Place α) : Place α :=
  ⟨p.before, p.after ++ more⟩

theorem endsWith_of_reads {p q : Place α} (h : p.Reads q) (hp : EndsWith newline p) :
    EndsWith newline q := by
  rcases h with ⟨read, hafter, hbefore⟩
  unfold EndsWith at hp ⊢
  rw [hafter, List.getLast?_append] at hp
  rw [hbefore, ← Option.or_assoc]
  exact hp

/-- The matches of a place, with and without the text that follows. -/
def Local (newline : α) (more : List α) (m : Matcher α) : Prop :=
  forall p, EndsWith newline p -> m (Extend more p) = (m p).map (Extend more)

def Advances (m : Matcher α) : Prop :=
  forall p q, q ∈ m p -> p.Reads q

theorem advances_ofPattern (r : Pattern α) : Advances (ofPattern word r) :=
  fun _ _ h => Pattern.ends_reads h

variable {first second : Matcher α}

theorem advances_andThen (hfirst : Advances first)
    (hsecond : Advances second) : Advances (andThen first second) := by
  intro p q h
  rcases List.mem_flatMap.mp h with ⟨middle, hmiddle, hq⟩
  exact (hfirst p middle hmiddle).trans (hsecond middle q hq)

theorem advances_lineStart [DecidableEq α] (newline : α) : Advances (lineStart newline) := by
  intro p q h
  unfold lineStart at h
  split at h
  · rcases List.mem_singleton.mp h with rfl
    exact Place.Reads.refl _
  · cases h

theorem local_andThen (hadvances : Advances first)
    (hfirst : Local newline more first) (hsecond : Local newline more second) :
    Local newline more (andThen first second) := by
  intro p hp
  unfold andThen
  rw [hfirst p hp, List.flatMap_map, List.map_flatMap]
  apply List.flatMap_congr
  intro q hq
  exact hsecond q (endsWith_of_reads (hadvances p q hq) hp)

theorem local_lineStart [DecidableEq α] : Local newline more (lineStart newline) := by
  intro p _
  unfold lineStart Extend
  split <;> rfl

variable {accepts : α -> Bool}

theorem greedy_extend {d : α} (hd : accepts d = false) (before : Option α) (s : List α) :
    greedy accepts before (s ++ d :: more) =
      (greedy accepts before s).map (Extend (d :: more)) := by
  induction s generalizing before with
  | nil =>
    show (if accepts d = true then greedy accepts (some d) more ++ [⟨before, d :: more⟩]
      else [⟨before, d :: more⟩]) = [Extend (d :: more) ⟨before, []⟩]
    rw [if_neg (by rw [hd]; exact Bool.false_ne_true)]
    rfl
  | cons c s ih =>
    rw [List.cons_append]
    unfold greedy
    by_cases hc : accepts c = true
    · rw [if_pos hc, if_pos hc, ih, List.map_append]
      rfl
    · rw [if_neg hc, if_neg hc]
      rfl

/-- A pattern whose every class rejects the symbol that follows the text. -/
def StopsAt (d : α) : Pattern α -> Prop
  | .empty => True
  | .one accepts => accepts d = false
  | .many accepts => accepts d = false
  | .boundary => False
  | .seq first second => StopsAt d first ∧ StopsAt d second
  | .alt first second => StopsAt d first ∧ StopsAt d second

theorem local_ofPattern {d : α} {r : Pattern α} (hr : StopsAt d r) :
    Local newline (d :: more) (ofPattern word r) := by
  intro p hp
  induction r generalizing p with
  | empty => rfl
  | one accepts =>
    rcases p with ⟨before, _ | ⟨c, rest⟩⟩
    · have hd : accepts d = false := hr
      show (if accepts d = true then _ else []) = []
      rw [if_neg (by rw [hd]; exact Bool.false_ne_true)]
    · show (if accepts c = true then _ else []) = _
      by_cases hc : accepts c = true
      · rw [if_pos hc]
        show _ = (if accepts c = true then _ else []).map _
        rw [if_pos hc]
        rfl
      · rw [if_neg hc]
        show _ = (if accepts c = true then _ else []).map _
        rw [if_neg hc]
        rfl
  | many accepts => exact greedy_extend hr p.before p.after
  | boundary => exact hr.elim
  | seq first second ihfirst ihsecond =>
    exact local_andThen (advances_ofPattern first) (ihfirst hr.left) (ihsecond hr.right) p hp
  | alt first second ihfirst ihsecond =>
    show (first.ends word _ ++ second.ends word _) = (first.ends word p ++ second.ends word p).map _
    rw [List.map_append]
    exact congrArg₂ _ (ihfirst hr.left p hp) (ihsecond hr.right p hp)

/-- A lazy repetition that cannot pass the line break stays in the text. -/
theorem lazyFrom_extend (hnewline : accepts newline = false)
    {s : List α} (hs : s.getLast? = some newline) (more : List α) :
    lazyFrom accepts (s ++ more) = (lazyFrom accepts s).map (Extend more) := by
  induction s with
  | nil => cases hs
  | cons c rest ih =>
    rw [List.cons_append]
    unfold lazyFrom
    by_cases hc : accepts c = true
    · rw [if_pos hc, if_pos hc, List.map_cons]
      have hrest : rest.getLast? = some newline := by
        rw [List.getLast?_cons] at hs
        cases hlast : rest.getLast? with
        | none =>
          rw [hlast] at hs
          have hsame : c = newline := Option.some.inj hs
          rw [← hsame, hc] at hnewline
          cases hnewline
        | some last =>
          rw [hlast] at hs
          exact hs
      rw [ih hrest]
      rfl
    · rw [if_neg hc, if_neg hc]
      rfl

theorem advances_lazily (accepts : α -> Bool) : Advances (lazily accepts) := by
  rintro ⟨before, s⟩ q h
  unfold lazily at h
  induction s generalizing before with
  | nil => cases h
  | cons c rest ih =>
    unfold lazyFrom at h
    split at h
    · rcases List.mem_cons.mp h with rfl | h
      · exact Place.Reads.one before c rest
      · exact (Place.Reads.one before c rest).trans (ih (some c) h)
    · cases h

def Capture.extend (more : List α) (found : Capture α) : Capture α :=
  { text := found.text, stop := Extend more found.stop }

variable {opening closing : Matcher α}

/-- A group that follows some symbol other than the line break is captured within the
text. -/
theorem captures_extend (hadvances : Advances opening) (hopening : Local newline more opening)
    (hopen : forall p q, q ∈ opening p -> q.before ≠ some newline)
    (hnewline : accepts newline = false) (hclosing : Local newline more closing)
    {p : Place α} (hp : EndsWith newline p) :
    captures opening (lazily accepts) closing (Extend more p) =
      (captures opening (lazily accepts) closing p).map (Capture.extend more) := by
  unfold captures
  rw [hopening p hp, List.flatMap_map, List.map_flatMap]
  apply List.flatMap_congr
  intro q hq
  have hendsq := endsWith_of_reads (hadvances p q hq) hp
  have hlast : q.after.getLast? = some newline := by
    rcases Option.or_eq_some_iff.mp hendsq with h | ⟨_, h⟩
    · exact h
    · exact absurd h (hopen p q hq)
  have hlazy : lazily accepts (Extend more q) =
      (lazily accepts q).map (Extend more) := lazyFrom_extend hnewline hlast more
  rw [hlazy, List.flatMap_map, List.map_flatMap]
  apply List.flatMap_congr
  intro r hr
  have hreads := advances_lazily accepts q r hr
  rw [hclosing r (endsWith_of_reads hreads hendsq), List.map_map, List.map_map]
  apply List.map_congr_left
  intro stop _
  rcases hreads with ⟨read, hafter, _⟩
  simp only [Function.comp, Capture.extend, Extend, hafter, List.length_append, List.append_assoc]
  congr 1
  rw [Nat.add_sub_cancel, Nat.add_sub_cancel, List.take_left, List.take_left]

theorem capture_extend (hadvances : Advances opening) (hopening : Local newline more opening)
    (hopen : forall p q, q ∈ opening p -> q.before ≠ some newline)
    (hnewline : accepts newline = false) (hclosing : Local newline more closing)
    {p : Place α} (hp : EndsWith newline p) :
    capture? opening (lazily accepts) closing (Extend more p) =
      (capture? opening (lazily accepts) closing p).map (Capture.extend more) := by
  unfold capture?
  rw [captures_extend hadvances hopening hopen hnewline hclosing hp, List.head?_map]

theorem findAll_append {m : Place α -> Option (Capture α)}
    (hm : forall p, EndsWith newline p -> m (Extend more p) = (m p).map (Capture.extend more))
    {s : List α} {before : Option α} (hends : EndsWith newline ⟨before, s⟩)
    {skip : Nat} (hskip : skip ≤ s.length) :
    (findAll m before skip (s ++ more)).map Capture.text =
      (findAll m before skip s).map Capture.text ++
        (findAll m (some newline) 0 more).map Capture.text := by
  induction s generalizing before skip with
  | nil =>
    have hbefore : before = some newline := hends
    have hzero : skip = 0 := Nat.le_zero.mp hskip
    subst hbefore hzero
    rfl
  | cons c rest ih =>
    have hrest : EndsWith newline ⟨some c, rest⟩ :=
      endsWith_of_reads (Place.Reads.one before c rest) hends
    cases skip with
    | succ skip =>
      exact ih hrest (Nat.le_of_succ_le_succ hskip)
    | zero =>
      have hmatch := hm ⟨before, c :: rest⟩ hends
      unfold Extend at hmatch
      rw [List.cons_append] at hmatch ⊢
      cases hfound : m ⟨before, c :: rest⟩ with
      | none =>
        rw [hfound] at hmatch
        rw [findAll_none hmatch, findAll_none hfound]
        exact ih hrest (Nat.zero_le _)
      | some found =>
        rw [hfound] at hmatch
        rw [findAll_found hmatch, findAll_found hfound]
        simp only [Capture.extend, Extend, List.map_cons, List.cons_append,
          List.length_append, Nat.add_sub_add_right]
        rw [ih hrest (Nat.sub_le _ _)]

end Local

/-!
# Single ways to match
-/

section Ways

variable {α : Type} {accepts : α -> Bool}

variable {read rest : List α}

/-- A greedy repetition gives nothing back to a matcher that reads none of its symbols. -/
theorem greedy_then {m : Matcher α}
    (hm : forall before c rest, accepts c = true -> m ⟨before, c :: rest⟩ = [])
    (hread : forall c, c ∈ read -> accepts c = true)
    (hrest : rest.head?.any accepts = false) (before : Option α) :
    (greedy accepts before (read ++ rest)).flatMap m = m ⟨read.getLast?.or before, rest⟩ := by
  induction read generalizing before with
  | nil =>
    cases rest with
    | nil => exact List.append_nil _
    | cons c rest =>
      have hc : accepts c = false := hrest
      rw [List.nil_append]
      unfold greedy
      rw [if_neg (by rw [hc]; exact Bool.false_ne_true)]
      exact List.append_nil _
  | cons c read ih =>
    have hc := hread c List.mem_cons_self
    rw [List.cons_append]
    unfold greedy
    rw [if_pos hc, List.flatMap_append, ih fun d hd => hread d (List.mem_cons_of_mem _ hd)]
    rw [List.flatMap_cons, hm before c _ hc, List.flatMap_nil, List.append_nil,
      List.append_nil, List.getLast?_cons]
    cases read.getLast? <;> rfl

variable {before : Option α} {s : List α}

/-- Every place a greedy repetition reaches is behind symbols it accepts. -/
theorem mem_greedy {stop : Place α} (h : stop ∈ greedy accepts before s) :
    exists read, s = read ++ stop.after ∧ forall c, c ∈ read -> accepts c = true := by
  induction s generalizing before with
  | nil =>
    rcases List.mem_singleton.mp h with rfl
    exact ⟨[], rfl, fun _ hc => nomatch hc⟩
  | cons c rest ih =>
    unfold greedy at h
    by_cases hc : accepts c = true
    · rw [if_pos hc, List.mem_append, List.mem_singleton] at h
      rcases h with h | rfl
      · rcases ih h with ⟨read, hread, haccepts⟩
        refine ⟨c :: read, by rw [List.cons_append, ← hread], ?_⟩
        intro d hd
        rcases List.mem_cons.mp hd with rfl | hd
        · exact hc
        · exact haccepts d hd
      · exact ⟨[], rfl, fun _ hd => nomatch hd⟩
    · rw [if_neg hc, List.mem_singleton] at h
      rcases h with rfl
      exact ⟨[], rfl, fun _ hd => nomatch hd⟩

/-- The nearest place a lazy repetition can stop at, when it cannot stop before it. -/
theorem lazyFrom_then {β : Type} {m : Place α -> List β} {first : α}
    (haccepts : forall c, c ∈ first :: read -> accepts c = true)
    (hfail : forall front last tail, first :: read = front ++ last :: tail -> tail ≠ [] ->
      m ⟨some last, tail ++ rest⟩ = [])
    {last : α} (hlast : (first :: read).getLast? = some last) {b : β}
    (hstop : (m ⟨some last, rest⟩).head? = some b) :
    ((lazyFrom accepts (first :: read ++ rest)).flatMap m).head? = some b := by
  induction read generalizing first with
  | nil =>
    have hsame : first = last := Option.some.inj hlast
    subst hsame
    rw [List.cons_append, List.nil_append]
    unfold lazyFrom
    rw [if_pos (haccepts first List.mem_cons_self), List.flatMap_cons, List.head?_append, hstop]
    rfl
  | cons next read ih =>
    rw [List.cons_append]
    unfold lazyFrom
    rw [if_pos (haccepts first List.mem_cons_self), List.flatMap_cons]
    have hnone := hfail [] first (next :: read) rfl (List.cons_ne_nil _ _)
    rw [hnone, List.nil_append]
    apply ih
    · exact fun c hc => haccepts c (List.mem_cons_of_mem _ hc)
    · intro front last' tail hsplit htail
      exact hfail (first :: front) last' tail (by rw [hsplit]; rfl) htail
    · rw [List.getLast?_cons] at hlast
      rw [← hlast, List.getLast?_cons]
      rfl

/-- A lazy group between an opening with one way and a closing that first fits at its end. -/
theorem capture_lazy {opening closing : Matcher α} {p q : Place α} {first : α}
    (hopening : opening p = [q]) (hq : q.after = first :: read ++ rest)
    (haccepts : forall c, c ∈ first :: read -> accepts c = true)
    (hfail : forall front last tail, first :: read = front ++ last :: tail -> tail ≠ [] ->
      closing ⟨some last, tail ++ rest⟩ = [])
    {stop : Place α} {stops : List (Place α)}
    (hclosing : closing ⟨(first :: read).getLast?, rest⟩ = stop :: stops) :
    capture? opening (lazily accepts) closing p = some ⟨first :: read, stop⟩ := by
  unfold capture? captures
  rw [hopening, List.flatMap_cons, List.flatMap_nil, List.append_nil]
  unfold lazily
  rw [hq]
  cases hlast : (first :: read).getLast? with
  | none => exact absurd (List.getLast?_eq_none_iff.mp hlast) (List.cons_ne_nil _ _)
  | some last =>
    rw [hlast] at hclosing
    refine lazyFrom_then haccepts ?_ hlast ?_
    · intro front last' tail hsplit htail
      rw [hfail front last' tail hsplit htail]
      rfl
    · rw [hclosing, List.map_cons, List.length_append, Nat.add_sub_cancel, List.take_left]
      rfl

variable {found : Capture α}

theorem capture_sublist {opening group closing : Matcher α} (hadvances : Advances opening)
    {p : Place α} (h : capture? opening group closing p = some found) :
    found.text.Sublist p.after := by
  rcases List.mem_flatMap.mp (List.mem_of_head? h) with ⟨q, hq, hfound⟩
  rcases List.mem_flatMap.mp hfound with ⟨r, _, hfound⟩
  rcases List.mem_map.mp hfound with ⟨stop, _, rfl⟩
  rcases hadvances p q hq with ⟨read, hread, _⟩
  rw [hread]
  exact (List.take_sublist _ _).trans (List.sublist_append_right _ _)

variable {m : Place α -> Option (Capture α)}

theorem search_sublist (hm : forall p found, m p = some found -> found.text.Sublist p.after)
    (h : search m before s = some found) : found.text.Sublist s := by
  induction s generalizing before with
  | nil => exact hm _ found h
  | cons c rest ih =>
    unfold search at h
    split at h
    · rename_i first hfirst
      cases h
      exact hm _ _ hfirst
    · exact (ih h).trans (List.sublist_cons_self c rest)

theorem search_first (h : m ⟨before, s⟩ = some found) : search m before s = some found := by
  cases s with
  | nil => exact h
  | cons c rest =>
    unfold search
    rw [h]

end Ways
end Matcher
end Foundation
end Oompah

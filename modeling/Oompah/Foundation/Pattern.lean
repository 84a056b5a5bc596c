import Mathlib.Data.List.Basic

/-!
# Search patterns

Patterns in the manner of a backtracking matcher: a match is a way to read a pattern from
a place of a text, and the ways are listed in the order in which a matcher tries them.  A
search looks at every place from left to right, and a substitution replaces the first way
found at each place.
-/

namespace Oompah
namespace Foundation

/-- A place in a text: the symbol before it, if there is one, and the symbols after it. -/
structure Place (α : Type) where
  before : Option α
  after : List α

namespace Place

variable {α : Type}

/-- What a match from one place to another has read. -/
def Reads (start stop : Place α) : Prop :=
  exists read : List α,
    start.after = read ++ stop.after ∧ stop.before = read.getLast?.or start.before

theorem Reads.refl (p : Place α) : p.Reads p :=
  ⟨[], rfl, rfl⟩

theorem Reads.one (before : Option α) (c : α) (rest : List α) :
    Reads ⟨before, c :: rest⟩ ⟨some c, rest⟩ :=
  ⟨[c], rfl, rfl⟩

theorem Reads.trans {start middle stop : Place α} (h : start.Reads middle)
    (h' : middle.Reads stop) : start.Reads stop := by
  rcases h with ⟨read, hafter, hbefore⟩
  rcases h' with ⟨read', hafter', hbefore'⟩
  refine ⟨read ++ read', ?_, ?_⟩
  · rw [hafter, hafter', List.append_assoc]
  · rw [hbefore', hbefore, List.getLast?_append, Option.or_assoc]

theorem Reads.mem {start stop : Place α} (h : start.Reads stop) {c : α}
    (hc : c ∈ stop.after) : c ∈ start.after := by
  rcases h with ⟨read, hafter, _⟩
  rw [hafter]
  exact List.mem_append_right _ hc

theorem Reads.before {start stop : Place α} (h : start.Reads stop) {c : α}
    (hc : stop.before = some c) : c ∈ start.after ∨ start.before = some c := by
  rcases h with ⟨read, hafter, hbefore⟩
  rw [hbefore, Option.or_eq_some_iff] at hc
  rcases hc with hc | ⟨_, hc⟩
  · left
    rw [hafter]
    exact List.mem_append_left _ (List.mem_of_getLast? hc)
  · exact .inr hc

end Place

inductive Pattern (α : Type) where
  | empty
  | one (accepts : α -> Bool)
  | many (accepts : α -> Bool)
  | boundary
  | seq (first second : Pattern α)
  | alt (first second : Pattern α)

namespace Pattern

section Matching

variable {α : Type}

/-- The places a greedy repetition reaches, the farthest first. -/
def greedy (accepts : α -> Bool) (before : Option α) : List α -> List (Place α)
  | [] => [⟨before, []⟩]
  | c :: rest =>
    if accepts c = true then greedy accepts (some c) rest ++ [⟨before, c :: rest⟩]
    else [⟨before, c :: rest⟩]

/-- A word starts or ends at the place. -/
def atBoundary (word : α -> Bool) (p : Place α) : Bool :=
  p.before.any word != p.after.head?.any word

/-- The places at which a match of the pattern can end, in the order they are tried. -/
def ends (word : α -> Bool) : Pattern α -> Place α -> List (Place α)
  | empty, p => [p]
  | one _, ⟨_, []⟩ => []
  | one accepts, ⟨_, c :: rest⟩ => if accepts c = true then [⟨some c, rest⟩] else []
  | many accepts, p => greedy accepts p.before p.after
  | boundary, p => if atBoundary word p = true then [p] else []
  | seq first second, p => (first.ends word p).flatMap (second.ends word)
  | alt first second, p => first.ends word p ++ second.ends word p

/-- `re.search`: a match starts at some place of the text. -/
def found (word : α -> Bool) (r : Pattern α) (before : Option α) : List α -> Bool
  | [] => !(r.ends word ⟨before, []⟩).isEmpty
  | c :: rest =>
    !(r.ends word ⟨before, c :: rest⟩).isEmpty || found word r (some c) rest

/-- `re.sub` for a pattern that never matches the empty text; `skip` counts the symbols
of the last match that are still to be passed over. -/
def substitute (word : α -> Bool) (r : Pattern α) (replacement : List α)
    (before : Option α) : Nat -> List α -> List α
  | _, [] => []
  | skip + 1, c :: rest => substitute word r replacement (some c) skip rest
  | 0, c :: rest =>
    match r.ends word ⟨before, c :: rest⟩ with
    | [] => c :: substitute word r replacement (some c) 0 rest
    | stop :: _ =>
      replacement ++ substitute word r replacement (some c) (rest.length - stop.after.length) rest

/-- One of several patterns, tried in order. -/
def oneOf : List (Pattern α) -> Pattern α
  | [] => one fun _ => false
  | [r] => r
  | r :: rest => alt r (oneOf rest)

/-- The patterns one after the other. -/
def all (rs : List (Pattern α)) : Pattern α :=
  rs.foldr seq empty

/-- An optional pattern, taken where it can be. -/
def optional (r : Pattern α) : Pattern α :=
  alt r empty

end Matching

section Reads

variable {α : Type} {word : α -> Bool}

theorem greedy_reads {accepts : α -> Bool} {before : Option α} {s : List α} {stop : Place α}
    (h : stop ∈ greedy accepts before s) : Place.Reads ⟨before, s⟩ stop := by
  induction s generalizing before with
  | nil =>
    rcases List.mem_singleton.mp h with rfl
    exact Place.Reads.refl _
  | cons c rest ih =>
    unfold greedy at h
    by_cases hc : accepts c = true
    · rw [if_pos hc, List.mem_append, List.mem_singleton] at h
      rcases h with h | rfl
      · exact (Place.Reads.one before c rest).trans (ih h)
      · exact Place.Reads.refl _
    · rw [if_neg hc, List.mem_singleton] at h
      rcases h with rfl
      exact Place.Reads.refl _

theorem ends_reads {r : Pattern α} {start stop : Place α} (h : stop ∈ r.ends word start) :
    start.Reads stop := by
  induction r generalizing start stop with
  | empty =>
    rcases List.mem_singleton.mp h with rfl
    exact Place.Reads.refl _
  | one accepts =>
    rcases start with ⟨before, _ | ⟨c, rest⟩⟩
    · cases h
    · unfold ends at h
      by_cases hc : accepts c = true
      · rw [if_pos hc, List.mem_singleton] at h
        rcases h with rfl
        exact Place.Reads.one before c rest
      · rw [if_neg hc] at h
        cases h
  | many accepts => exact greedy_reads h
  | boundary =>
    unfold ends at h
    by_cases hb : atBoundary word start = true
    · rw [if_pos hb, List.mem_singleton] at h
      rcases h with rfl
      exact Place.Reads.refl _
    · rw [if_neg hb] at h
      cases h
  | seq first second ihfirst ihsecond =>
    rcases List.mem_flatMap.mp h with ⟨middle, hmiddle, hstop⟩
    exact (ihfirst hmiddle).trans (ihsecond hstop)
  | alt first second ihfirst ihsecond =>
    rcases List.mem_append.mp h with h | h
    · exact ihfirst h
    · exact ihsecond h

end Reads

section Words

variable {α : Type} {word word' : α -> Bool}

theorem ends_congr (r : Pattern α) {start : Place α}
    (hbefore : forall c, start.before = some c -> word c = word' c)
    (hafter : forall c, c ∈ start.after -> word c = word' c) :
    r.ends word start = r.ends word' start := by
  induction r generalizing start with
  | empty => rfl
  | one accepts => rcases start with ⟨before, _ | ⟨c, rest⟩⟩ <;> rfl
  | many accepts => rfl
  | boundary =>
    have hb : start.before.any word = start.before.any word' := by
      cases hstart : start.before with
      | none => rfl
      | some c => exact hbefore c hstart
    have ha : start.after.head?.any word = start.after.head?.any word' := by
      cases hstart : start.after with
      | nil => rfl
      | cons c rest => exact hafter c (by rw [hstart]; exact List.mem_cons_self)
    unfold ends atBoundary
    rw [hb, ha]
  | seq first second ihfirst ihsecond =>
    unfold ends
    rw [ihfirst hbefore hafter]
    apply List.flatMap_congr
    intro middle hmiddle
    have hreads := ends_reads hmiddle
    apply ihsecond
    · intro c hc
      rcases hreads.before hc with hc | hc
      · exact hafter c hc
      · exact hbefore c hc
    · exact fun c hc => hafter c (hreads.mem hc)
  | alt first second ihfirst ihsecond =>
    unfold ends
    rw [ihfirst hbefore hafter, ihsecond hbefore hafter]

theorem found_congr (r : Pattern α) {before : Option α} {s : List α}
    (hbefore : forall c, before = some c -> word c = word' c)
    (h : forall c, c ∈ s -> word c = word' c) :
    r.found word before s = r.found word' before s := by
  induction s generalizing before with
  | nil =>
    have hends : r.ends word ⟨before, []⟩ = r.ends word' ⟨before, []⟩ :=
      ends_congr r hbefore h
    unfold found
    rw [hends]
  | cons c rest ih =>
    have hends : r.ends word ⟨before, c :: rest⟩ = r.ends word' ⟨before, c :: rest⟩ :=
      ends_congr r hbefore h
    unfold found
    rw [hends]
    congr 1
    apply ih
    · intro d hd
      cases hd
      exact h c List.mem_cons_self
    · exact fun d hd => h d (List.mem_cons_of_mem _ hd)

end Words

/-!
# What every match reads

A pattern needs a kind of symbol when no match of it does without one.
-/

section Needs

variable {α : Type} {p : α -> Prop} {word : α -> Bool}

def Needs (p : α -> Prop) : Pattern α -> Prop
  | empty => False
  | one accepts => forall c, accepts c = true -> p c
  | many _ => False
  | boundary => False
  | seq first second => first.Needs p ∨ second.Needs p
  | alt first second => first.Needs p ∧ second.Needs p

variable {r : Pattern α}

theorem exists_of_ends (hr : r.Needs p) {start stop : Place α}
    (h : stop ∈ r.ends word start) : exists c, c ∈ start.after ∧ p c := by
  induction r generalizing start stop with
  | empty => exact hr.elim
  | one accepts =>
    rcases start with ⟨before, _ | ⟨c, rest⟩⟩
    · cases h
    · unfold ends at h
      by_cases hc : accepts c = true
      · exact ⟨c, List.mem_cons_self, hr c hc⟩
      · rw [if_neg hc] at h
        cases h
  | many accepts => exact hr.elim
  | boundary => exact hr.elim
  | seq first second ihfirst ihsecond =>
    rcases List.mem_flatMap.mp h with ⟨middle, hmiddle, hstop⟩
    rcases hr with hr | hr
    · exact ihfirst hr hmiddle
    · rcases ihsecond hr hstop with ⟨c, hc, hp⟩
      exact ⟨c, (ends_reads hmiddle).mem hc, hp⟩
  | alt first second ihfirst ihsecond =>
    rcases List.mem_append.mp h with h | h
    · exact ihfirst hr.left h
    · exact ihsecond hr.right h

theorem found_eq_false (hr : r.Needs p) {s : List α}
    (h : forall c, c ∈ s -> ¬ p c) (before : Option α) : r.found word before s = false := by
  have hempty : forall start : Place α, (forall c, c ∈ start.after -> ¬ p c) ->
      (!(r.ends word start).isEmpty) = false := by
    intro start hstart
    rw [Bool.not_eq_false', List.isEmpty_iff, List.eq_nil_iff_forall_not_mem]
    intro stop hstop
    rcases exists_of_ends hr hstop with ⟨c, hc, hp⟩
    exact hstart c hc hp
  induction s generalizing before with
  | nil => exact hempty _ h
  | cons c rest ih =>
    unfold found
    rw [hempty _ h, Bool.false_or]
    exact ih (fun d hd => h d (List.mem_cons_of_mem _ hd)) _

theorem substitute_of_not_found {replacement s : List α} {before : Option α}
    (h : r.found word before s = false) :
    r.substitute word replacement before 0 s = s := by
  induction s generalizing before with
  | nil => rfl
  | cons c rest ih =>
    unfold found at h
    rw [Bool.or_eq_false_iff, Bool.not_eq_false', List.isEmpty_iff] at h
    unfold substitute
    rw [h.left, ih h.right]

theorem needs_oneOf {rs : List (Pattern α)} (h : forall r, r ∈ rs -> r.Needs p) :
    (oneOf rs).Needs p := by
  induction rs with
  | nil =>
    intro c hc
    cases hc
  | cons r rest ih =>
    cases rest with
    | nil => exact h r (List.mem_singleton_self r)
    | cons r' rest =>
      constructor
      · exact h r List.mem_cons_self
      · exact ih fun s hs => h s (List.mem_cons_of_mem _ hs)

theorem needs_all {rs : List (Pattern α)} (hmem : r ∈ rs) (h : r.Needs p) : (all rs).Needs p := by
  induction rs with
  | nil => cases hmem
  | cons s rest ih =>
    rcases List.mem_cons.mp hmem with rfl | hmem
    · exact .inl h
    · exact .inr (ih hmem)

theorem found_append {s : List α}
    (h : forall before, r.found word before s = true) (read : List α) (before : Option α) :
    r.found word before (read ++ s) = true := by
  induction read generalizing before with
  | nil => exact h before
  | cons c rest ih =>
    rw [List.cons_append]
    unfold found
    rw [ih, Bool.or_true]

end Needs
end Pattern
end Foundation
end Oompah

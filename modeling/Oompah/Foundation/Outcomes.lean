import Oompah.Foundation.Checked

/-!
# What a checked computation can return

`Outcomes P x` says that whatever `x` returns has `P`, and `Returns x` that it does
return.  Both go through the branches of a computation one at a time.
-/

namespace Oompah
namespace Foundation

section Outcomes

variable {ε α β : Type} {P Q : α -> Prop}

/-- Whatever the computation returns has the property. -/
def Outcomes (P : α -> Prop) (x : Except ε α) : Prop :=
  forall a, x = .ok a -> P a

/-- The computation returns. -/
def Returns (x : Except ε α) : Prop :=
  exists a, x = .ok a

theorem outcomes_ok {a : α} (h : P a) : Outcomes P (.ok a : Except ε α) := by
  intro b hb
  cases hb
  exact h

/-- The test of a property on what a computation returns. -/
def passes (P : α -> Prop) [DecidablePred P] : Except ε α -> Bool
  | .ok a => decide (P a)
  | .error _ => false

theorem exists_ok_of_passes [DecidablePred P] {x : Except ε α} (h : passes P x = true) :
    exists a, x = .ok a ∧ P a := by
  cases x with
  | ok a => exact ⟨a, rfl, of_decide_eq_true h⟩
  | error e => cases h

theorem outcomes_ite {c : Prop} [Decidable c] {x y : Except ε α}
    (hx : c -> Outcomes P x) (hy : ¬ c -> Outcomes P y) :
    Outcomes P (if c then x else y) := by
  by_cases hc : c
  · rw [if_pos hc]
    exact hx hc
  · rw [if_neg hc]
    exact hy hc

variable {x : Except ε β} {f : β -> Except ε α}

theorem outcomes_bind (h : forall b, x = .ok b -> Outcomes P (f b)) : Outcomes P (x >>= f) := by
  intro a ha
  rcases bind_eq_ok.mp ha with ⟨b, hb, hrest⟩
  exact h b hb a hrest

@[simp] theorem returns_ok {a : α} : Returns (.ok a : Except ε α) :=
  ⟨a, rfl⟩

theorem not_returns_of_not_passes {x : Except ε α} (h : passes (fun _ => True) x = false) :
    ¬ Returns x := by
  rintro ⟨a, rfl⟩
  cases h

@[simp] theorem not_returns_error {e : ε} : ¬ Returns (.error e : Except ε α) := by
  rintro ⟨a, ha⟩
  cases ha

theorem returns_bind : Returns (x >>= f) <-> exists b, x = .ok b ∧ Returns (f b) := by
  constructor
  · rintro ⟨a, ha⟩
    rcases bind_eq_ok.mp ha with ⟨b, hb, hrest⟩
    exact ⟨b, hb, a, hrest⟩
  · rintro ⟨b, hb, a, ha⟩
    exact ⟨a, bind_eq_ok.mpr ⟨b, hb, ha⟩⟩

theorem returns_bind_of_total
    (h : forall b, x = .ok b -> Returns (f b)) : Returns (x >>= f) <-> Returns x := by
  rw [returns_bind]
  constructor
  · rintro ⟨b, hb, _⟩
    exact ⟨b, hb⟩
  · rintro ⟨b, hb⟩
    exact ⟨b, hb, h b hb⟩

theorem returns_ite {c : Prop} [Decidable c] {x y : Except ε α} :
    Returns (if c then x else y) <-> (c -> Returns x) ∧ (¬ c -> Returns y) := by
  by_cases hc : c
  · simp [hc]
  · simp [hc]

theorem returns_mapM {items : List β} :
    Returns (items.mapM f) <-> forall b, b ∈ items -> Returns (f b) := by
  induction items with
  | nil =>
    constructor
    · intro _ b hb
      cases hb
    · intro _
      exact returns_ok
  | cons b items ih =>
    rw [List.mapM_cons, List.forall_mem_cons, returns_bind]
    constructor
    · rintro ⟨a, ha, hrest⟩
      rcases returns_bind.mp hrest with ⟨as, has, _⟩
      exact ⟨⟨a, ha⟩, ih.mp ⟨as, has⟩⟩
    · rintro ⟨⟨a, ha⟩, hrest⟩
      rcases ih.mpr hrest with ⟨as, has⟩
      exact ⟨a, ha, returns_bind.mpr ⟨as, has, returns_ok⟩⟩

theorem mapM_length {items : List β} {results : List α}
    (h : items.mapM f = .ok results) : results.length = items.length := by
  induction items generalizing results with
  | nil =>
    cases h
    rfl
  | cons b items ih =>
    rw [List.mapM_cons] at h
    rcases bind_eq_ok.mp h with ⟨a, _, hrest⟩
    rcases bind_eq_ok.mp hrest with ⟨as, has, heq⟩
    cases heq
    simp [ih has]

end Outcomes
end Foundation
end Oompah

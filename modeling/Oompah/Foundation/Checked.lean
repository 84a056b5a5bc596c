import Mathlib.Logic.Basic

/-!
# Checked computations

Rules for computations that return a value or an error: what a successful
bind, check or loop says about its parts.
-/

namespace Oompah
namespace Foundation

/-- Conditions on lists of pairs are decided with it. -/
theorem lawful_pairs : LawfulBEq (String × String) := inferInstance

section Checked

variable {ε α β σ : Type}

def require (condition : Prop) [Decidable condition] (error : ε) :
    Except ε Unit :=
  if condition then .ok () else .error error

theorem bind_eq_ok {x : Except ε α} {f : α -> Except ε β} {b : β} :
    (x >>= f) = .ok b <-> exists a, x = .ok a ∧ f a = .ok b := by
  cases x with
  | error e => simp [bind, Except.bind]
  | ok a => simp [bind, Except.bind]

@[simp] theorem require_eq_ok {condition : Prop} [Decidable condition] {error : ε} {u : Unit} :
    require condition error = .ok u <-> condition := by
  unfold require
  split <;> simp [*]

theorem require_bind_eq_ok {condition : Prop} [Decidable condition]
    {error : ε} {f : Unit -> Except ε β} {b : β} :
    (require condition error >>= f) = .ok b <-> condition ∧ f () = .ok b := by
  rw [bind_eq_ok]
  constructor
  · intro h
    rcases h with ⟨_, hcondition, hrest⟩
    exact ⟨require_eq_ok.mp hcondition, hrest⟩
  · intro h
    exact ⟨(), require_eq_ok.mpr h.left, h.right⟩

/-!
# Errors

`Raises P x` says that the error of `x`, if it has one, is one of `P`.
-/

def Raises (P : ε -> Prop) (x : Except ε α) : Prop :=
  forall e, x = .error e -> P e

section Raises

variable {P : ε -> Prop}

@[simp] theorem raises_ok (a : α) : Raises P (.ok a : Except ε α) :=
  fun _ h => nomatch h

@[simp] theorem raises_error {e : ε} : Raises P (.error e : Except ε α) <-> P e := by
  constructor
  · exact fun h => h e rfl
  · rintro h e' he
    cases he
    exact h

theorem raises_require {condition : Prop} [Decidable condition] {error : ε}
    (h : P error) : Raises P (require condition error) := by
  unfold require
  split
  · exact raises_ok ()
  · exact raises_error.mpr h

theorem raises_bind {x : Except ε α} {f : α -> Except ε β} (hx : Raises P x)
    (hf : forall a, x = .ok a -> Raises P (f a)) : Raises P (x >>= f) := by
  cases x with
  | error e => exact raises_error.mpr (hx e rfl)
  | ok a => exact hf a rfl

end Raises

/-!
# Loops
-/

/--
A reflexive, transitive relation that every iteration establishes holds
between the ends of a loop that succeeds.
-/
theorem foldlM_relation {R : σ -> σ -> Prop} {body : σ -> α -> Except ε σ} (hrefl : forall s, R s s)
    (htrans : forall a b c, R a b -> R b c -> R a c)
    {items : List α}
    (hbody : forall s x s', x ∈ items -> body s x = .ok s' -> R s s')
    {s s' : σ} (h : items.foldlM body s = .ok s') :
    R s s' := by
  induction items generalizing s with
  | nil =>
    cases h
    exact hrefl _
  | cons x rest ih =>
    rw [List.foldlM_cons, bind_eq_ok] at h
    rcases h with ⟨middle, hfirst, hrest⟩
    have hhead := hbody s x middle (by simp) hfirst
    have htail := ih (fun a y b hy => hbody a y b (by simp [hy])) hrest
    exact htrans _ _ _ hhead htail

theorem foldl_relation {R : σ -> σ -> Prop} {body : σ -> α -> σ} (hrefl : forall s, R s s)
    (htrans : forall a b c, R a b -> R b c -> R a c)
    (items : List α)
    (hbody : forall s x, x ∈ items -> R s (body s x))
    (s : σ) :
    R s (items.foldl body s) := by
  induction items generalizing s with
  | nil => exact hrefl s
  | cons x rest ih =>
    have hhead := hbody s x (by simp)
    have htail := ih (fun a y hy => hbody a y (by simp [hy])) (body s x)
    exact htrans _ _ _ hhead htail

end Checked
end Foundation
end Oompah

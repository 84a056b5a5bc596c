/-!
# Programs over requests

A program computes by making requests to its environment one at a time.  The
environment answers each request with a value or an error, in any way it likes
between two steps of other programs.  A protocol says which requests a program
may make in a ghost state and how answers move that state; `Follows` says that
a program keeps to a protocol whatever it is answered.
-/

namespace Oompah
namespace Foundation

/-!
# Programs
-/

inductive Program (Request : Type) (Answer : Request -> Type) (ε α : Type) where
  | done (value : α)
  | raise (error : ε)
  | request (r : Request) (resume : Except ε (Answer r) -> Program Request Answer ε α)

namespace Program

variable {Request : Type} {Answer : Request -> Type} {ε α β : Type}

def bind : Program Request Answer ε α -> (α -> Program Request Answer ε β) ->
    Program Request Answer ε β
  | done value, f => f value
  | raise error, _ => raise error
  | request r resume, f => request r (fun answer => (resume answer).bind f)

/-- Run a handler on the error of a program that raises. -/
def tryCatch : Program Request Answer ε α ->
    (ε -> Program Request Answer ε α) -> Program Request Answer ε α
  | done value, _ => done value
  | raise error, handler => handler error
  | request r resume, handler =>
    request r (fun answer => (resume answer).tryCatch handler)

/-- Make one request and raise the error it is answered with. -/
def perform (r : Request) : Program Request Answer ε (Answer r) :=
  request r (fun answer =>
    match answer with
    | .ok value => done value
    | .error error => raise error)

instance : Monad (Program Request Answer ε) where
  pure := done
  bind := bind

end Program

/-!
# Protocols
-/

/--
`next s r answer s'`: after the request `r` is answered in the ghost state `s`
the ghost state may be `s'`.
-/
structure Protocol (σ Request : Type) (Answer : Request -> Type) (ε : Type) where
  allowed : σ -> Request -> Prop
  next : σ -> (r : Request) -> Except ε (Answer r) -> σ -> Prop

namespace Program

variable {σ Request : Type} {Answer : Request -> Type} {ε α β : Type}
  {P : Protocol σ Request Answer ε}

def Follows (P : Protocol σ Request Answer ε) :
    Program Request Answer ε α -> σ -> (Except ε α -> σ -> Prop) -> Prop
  | done value, s, post => post (.ok value) s
  | raise error, s, post => post (.error error) s
  | request r resume, s, post =>
    P.allowed s r ∧ forall answer s', P.next s r answer s' -> (resume answer).Follows P s' post

variable {program : Program Request Answer ε α} {s : σ}

theorem Follows.mono {post post' : Except ε α -> σ -> Prop} (h : program.Follows P s post)
    (hpost : forall result s', post result s' -> post' result s') :
    program.Follows P s post' := by
  induction program generalizing s with
  | done value => exact hpost _ _ h
  | raise error => exact hpost _ _ h
  | request r resume ih =>
    exact ⟨h.left, fun answer s' hnext => ih answer (h.right answer s' hnext)⟩

variable {post : Except ε α -> σ -> Prop}

theorem follows_done {value : α} (h : post (.ok value) s) :
    (done value : Program Request Answer ε α).Follows P s post := h

theorem follows_bind {f : α -> Program Request Answer ε β} {post : Except ε β -> σ -> Prop}
    (h : program.Follows P s (fun result s' =>
      match result with
      | .ok value => (f value).Follows P s' post
      | .error error => post (.error error) s')) :
    (program >>= f).Follows P s post := by
  change (program.bind f).Follows P s post
  induction program generalizing s with
  | done value => exact h
  | raise error => exact h
  | request r resume ih =>
    exact ⟨h.left, fun answer s' hnext => ih answer (h.right answer s' hnext)⟩

theorem follows_tryCatch {handler : ε -> Program Request Answer ε α}
    (h : program.Follows P s (fun result s' =>
      match result with
      | .ok value => post (.ok value) s'
      | .error error => (handler error).Follows P s' post)) :
    (program.tryCatch handler).Follows P s post := by
  induction program generalizing s with
  | done value => exact h
  | raise error => exact h
  | request r resume ih =>
    exact ⟨h.left, fun answer s' hnext => ih answer (h.right answer s' hnext)⟩

theorem follows_perform {r : Request}
    {post : Except ε (Answer r) -> σ -> Prop} (hallowed : P.allowed s r)
    (hpost : forall answer s', P.next s r answer s' -> post answer s') :
    (perform r : Program Request Answer ε (Answer r)).Follows P s post := by
  refine ⟨hallowed, ?_⟩
  intro answer s' hnext
  cases answer with
  | ok value => exact hpost (.ok value) s' hnext
  | error error => exact hpost (.error error) s' hnext

/--
A program that follows a protocol follows every protocol that simulates it.
-/
theorem Follows.simulate {σ' : Type} {P' : Protocol σ' Request Answer ε} {R : σ -> σ' -> Prop}
    (hallowed : forall s t r, R s t -> P.allowed s r -> P'.allowed t r)
    (hnext : forall s t r answer t', R s t -> P.allowed s r ->
      P'.next t r answer t' -> exists s', P.next s r answer s' ∧ R s' t')
    {t : σ'}
    (h : program.Follows P s post)
    (hrel : R s t) :
    program.Follows P' t (fun result t' => exists s', R s' t' ∧ post result s') := by
  induction program generalizing s t with
  | done value => exact ⟨s, hrel, h⟩
  | raise error => exact ⟨s, hrel, h⟩
  | request r resume ih =>
    constructor
    · exact hallowed s t r hrel h.left
    · intro answer t' hanswer
      rcases hnext s t r answer t' hrel h.left hanswer with ⟨s', hs', hrel'⟩
      exact ih answer (h.right answer s' hs') hrel'

end Program
end Foundation
end Oompah

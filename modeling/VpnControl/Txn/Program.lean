/-
# Programs that issue statements

A service method is a sequence of statements sent to a database, interrupted by
ordinary computation, that ends with a value or an exception. `Program` is the
tree of such a method: every node is one statement and has one successor for
each reply the database may give. The same tree is later run alone and run
interleaved with other trees, so the code is translated once.

`Program.Every` speaks about the statements on all branches, whatever the
replies are. It is the cheap half of every later argument: a segment that never
issues a certain kind of statement keeps whatever only such statements change.
-/

import Mathlib.Logic.Basic

namespace Txn

/-- The statements a program may issue and the type of the reply to each. -/
structure Signature where
  /-- The statements. -/
  Op : Type 1
  /-- What a statement is answered with. -/
  Reply : Op → Type

/-- A program over the statements of `S` that ends with a value of `α` or with
an exception of `ε`. -/
inductive Program (S : Signature) (ε α : Type) : Type 1
  | ret (value : α)
  | raise (error : ε)
  | exec (op : S.Op) (next : S.Reply op → Program S ε α)

namespace Program

variable {S : Signature} {ε α β : Type}

/-- Run `p`, then continue with its value. An exception of `p` is the exception
of the whole. -/
def bind : Program S ε α → (α → Program S ε β) → Program S ε β
  | ret value, f => f value
  | raise error, _ => raise error
  | exec op next, f => exec op fun reply => (next reply).bind f

/-- Run `p` and hand its exception to `handler`. The statements `p` issued
before it raised stay issued. -/
def tryCatch : Program S ε α → (ε → Program S ε α) → Program S ε α
  | ret value, _ => ret value
  | raise error, handler => handler error
  | exec op next, handler => exec op fun reply => (next reply).tryCatch handler

/-- The program of a single statement. -/
def perform (op : S.Op) : Program S ε (S.Reply op) := exec op ret

instance : Monad (Program S ε) where
  pure := ret
  bind := bind

@[simp]
theorem bind_ret (p : Program S ε α) : p.bind ret = p := by
  induction p with
  | ret => rfl
  | raise => rfl
  | exec op _ ih => exact congrArg (exec op) (funext ih)

theorem bind_assoc (p : Program S ε α) (f : α → Program S ε β)
    (g : β → Program S ε γ) : (p.bind f).bind g = p.bind fun value => (f value).bind g := by
  induction p with
  | ret => rfl
  | raise => rfl
  | exec op _ ih => exact congrArg (exec op) (funext ih)

instance : LawfulMonad (Program S ε) :=
  LawfulMonad.mk' _ bind_ret (fun _ _ => rfl) bind_assoc

/-! ## All branches -/

/-- Every statement on every branch satisfies `φ`. -/
def Every (φ : S.Op → Prop) : Program S ε α → Prop
  | ret _ => True
  | raise _ => True
  | exec op next => φ op ∧ ∀ reply, (next reply).Every φ

variable {φ ψ : S.Op → Prop}

@[simp]
theorem every_pure (value : α) : (pure value : Program S ε α).Every φ := trivial

variable {p : Program S ε α} {f : α → Program S ε β}

/-- A sequence issues what its parts issue. -/
theorem Every.bind (hp : p.Every φ) (hf : ∀ value, (f value).Every φ) : (p >>= f).Every φ := by
  induction p with
  | ret value => exact hf value
  | raise => trivial
  | exec _ _ ih => exact ⟨hp.1, fun reply => ih reply (hp.2 reply)⟩

/-- A handled program issues what its body and its handler issue. -/
theorem Every.tryCatch (hp : p.Every φ)
    (hh : ∀ error, (handler error).Every φ) : (p.tryCatch handler).Every φ := by
  induction p with
  | ret => trivial
  | raise error => exact hh error
  | exec _ _ ih => exact ⟨hp.1, fun reply => ih reply (hp.2 reply)⟩

theorem Every.forM {γ : Type} {f : γ → Program S ε PUnit} {xs : List γ}
    (h : ∀ x ∈ xs, (f x).Every φ) : (xs.forM f).Every φ := by
  induction xs with
  | nil => trivial
  | cons x _ ih => exact Every.bind (h x (by simp)) fun _ => ih fun y hy => h y (by simp [hy])

theorem every_of_forall (p : Program S ε α) (h : ∀ op, φ op) : p.Every φ := by
  induction p with
  | ret => trivial
  | raise => trivial
  | exec op _ ih => exact ⟨h op, ih⟩

theorem Every.mono (hp : p.Every φ) (h : ∀ op, φ op → ψ op) : p.Every ψ := by
  induction p with
  | ret => trivial
  | raise => trivial
  | exec op _ ih => exact ⟨h op hp.1, fun reply => ih reply (hp.2 reply)⟩

/-! ## Exceptions -/

/-- No branch ends with an exception. -/
def NeverRaises : Program S ε α → Prop
  | ret _ => True
  | raise _ => False
  | exec _ next => ∀ reply, (next reply).NeverRaises

theorem NeverRaises.bind (hp : p.NeverRaises)
    (hf : ∀ value, (f value).NeverRaises) : (p >>= f).NeverRaises := by
  induction p with
  | ret value => exact hf value
  | raise => cases hp
  | exec _ _ ih => exact fun reply => ih reply (hp reply)

theorem NeverRaises.tryCatch (hp : p.NeverRaises) (handler : ε → Program S ε α) :
    p.tryCatch handler = p := by
  induction p with
  | ret => rfl
  | raise => cases hp
  | exec op _ ih => exact congrArg (exec op) (funext fun reply => ih reply (hp reply))

/-! ## Clean-up -/

/-- Run `p`, then `cleanup`, whether `p` returned or raised. -/
def andFinally : Program S ε α → Program S ε Unit → Program S ε α
  | ret value, cleanup => cleanup.bind fun _ => ret value
  | raise error, cleanup => cleanup.bind fun _ => raise error
  | exec op next, cleanup => exec op fun reply => (next reply).andFinally cleanup

/-! ## Programs around a call -/

/-! ## Programs over more statements -/

/-- A program over the statements of `S` as one over statements that include them. -/
def embed {S' : Signature} {ε' : Type} (inject : S.Op → S'.Op)
    (reply : ∀ op, S'.Reply (inject op) → S.Reply op) (raised : ε → ε') :
    Program S ε α → Program S' ε' α
  | ret value => ret value
  | raise error => raise (raised error)
  | exec op next => exec (inject op) fun r => (next (reply op r)).embed inject reply raised

/-- A program whose statements are carried out by other programs. An exception of one of them is
the exception of the whole. -/
def interpret {S' : Signature} {ε' : Type} (handle : ∀ op, Program S' ε' (S.Reply op))
    (raised : ε → ε') : Program S ε α → Program S' ε' α
  | ret value => ret value
  | raise error => raise (raised error)
  | exec op next => (handle op).bind fun reply => (next reply).interpret handle raised

section Interpret

variable {S' : Signature} {ε' : Type} {handle : ∀ op, Program S' ε' (S.Reply op)}
  {raised : ε → ε'}

theorem interpret_bind (p : Program S ε α) (f : α → Program S ε β) :
    (p >>= f).interpret handle raised =
      p.interpret handle raised >>= fun value => (f value).interpret handle raised := by
  induction p with
  | ret => rfl
  | raise => rfl
  | exec op _ ih =>
    refine Eq.trans (congrArg (Program.bind (handle op)) (funext fun reply => ih reply)) ?_
    exact (bind_assoc (handle op) _ _).symm

@[simp]
theorem interpret_perform (op : S.Op) :
    (perform op : Program S ε _).interpret handle raised = handle op := bind_ret (handle op)

/-- Where every statement is carried out by statements with a property, so is the program. -/
theorem every_interpret (hp : p.Every φ) (h : ∀ op, φ op → (handle op).Every χ) :
    (p.interpret handle raised).Every χ := by
  induction p with
  | ret => trivial
  | raise => trivial
  | exec op _ ih => exact Every.bind (h op hp.1) fun reply => ih reply (hp.2 reply)

end Interpret

end Program

end Txn

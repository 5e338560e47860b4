/-
# Computations that may fail

A computation ends in a result or in an error. `Ends E Q` says that its result meets `Q` and its
error meets `E`, so one statement covers a transaction that commits and one that is rolled back.
There is a rule for each way to put computations together; the one for loops carries a condition on
the elements that are still to come.
-/

import Mathlib.Tactic.TypeStar

namespace Txn

universe u

variable {ε : Type*} {α β : Type u} {E E' : ε → Prop} {Q Q' : α → Prop} {R : β → Prop}

/-- The result meets `Q`, the error meets `E`. -/
def Ends (E : ε → Prop) (Q : α → Prop) : Except ε α → Prop
  | .ok a => Q a
  | .error e => E e

namespace Ends

variable {x : Except ε α}

theorem mono (h : Ends E Q x) (hE : ∀ e, E e → E' e) (hQ : ∀ a, Q a → Q' a) : Ends E' Q' x := by
  cases x with
  | ok a => exact hQ a h
  | error e => exact hE e h

theorem anyhow (x : Except ε α) : Ends (fun _ => True) (fun _ => True) x := by
  cases x <;> trivial

theorem result (h : Ends E Q x) (hx : x = .ok a) : Q a := by
  subst hx
  exact h

protected theorem bind (h : Ends E Q x) (hf : ∀ a, Q a → Ends E R (f a)) : Ends E R (x >>= f) := by
  cases x with
  | ok a => exact hf a h
  | error => exact h

/-- A loop, by a condition that names the elements still to come. -/
protected theorem foldlM {I : List α → β → Prop}
    (hstart : I xs b) (hstep : ∀ x rest b, I (x :: rest) b → Ends E (I rest) (f b x)) :
    Ends E (I []) (xs.foldlM f b) := by
  induction xs generalizing b with
  | nil => exact hstart
  | cons x rest ih =>
    rw [List.foldlM_cons]
    exact Ends.bind (hstep x rest b hstart) fun _ hnext => ih hnext

end Ends

end Txn

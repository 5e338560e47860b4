/-
# Running totals

A journal whose entries record, beside their amount, the total they leave. Reading
the journal forward from an opening total, every recorded total has to be the
previous one plus the amount. `Posted` says so by recursion on the journal;
`Posted.total` is the closed form, the recorded total of an entry is the opening
total plus all amounts up to and including it.
-/

import Mathlib.Algebra.BigOperators.Group.List.Basic

namespace Txn

open List

variable {R M : Type} [AddCommMonoid M] (amount after : R → M)

/-- Every entry records the total it leaves, starting from `opening`. -/
def Posted : M → List R → Prop
  | _, [] => True
  | opening, entry :: rest =>
    after entry = opening + amount entry ∧ Posted (opening + amount entry) rest

variable {amount after}

theorem posted_append : Posted amount after opening (first ++ second) ↔
      Posted amount after opening first ∧
        Posted amount after (opening + (first.map amount).sum) second := by
  induction first generalizing opening with
  | nil => simp [Posted]
  | cons _ _ ih => simp only [cons_append, Posted, ih, map_cons, sum_cons, add_assoc, and_assoc]

theorem posted_concat : Posted amount after opening (rows ++ [entry]) ↔
      Posted amount after opening rows ∧
        after entry = opening + (rows.map amount).sum + amount entry := by
  simp [posted_append, Posted]

/-- The recorded total of an entry is the opening total plus all amounts up to and
including it. -/
theorem Posted.total
    (h : Posted amount after opening rows) (hrows : rows = before ++ entry :: later) :
    after entry = opening + ((before ++ [entry]).map amount).sum := by
  rw [hrows, append_cons] at h
  have hupto := (posted_append.mp h).1
  have hentry := (posted_concat.mp hupto).2
  rw [hentry, map_append, sum_append, add_assoc]
  simp

end Txn

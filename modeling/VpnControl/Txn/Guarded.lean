/-
# Guarded runs

A machine whose events may be refused, and its runs along events that meet a condition in the
state in which each of them happens. What holds at the start and is kept by every such event
holds in every state reached.
-/

import Mathlib.Tactic.TypeStar

namespace Txn

variable {σ ε : Type*} {step : σ → ε → Option σ} {ok : σ → ε → Prop} {start s t : σ}

/-- The states reached from `start` by events that meet `ok`. -/
inductive Guarded (step : σ → ε → Option σ) (ok : σ → ε → Prop) (start : σ) : σ → Prop
  | start : Guarded step ok start start
  | next {s t : σ} (hrun : Guarded step ok start s) (event : ε) (hok : ok s event)
      (hstep : step s event = some t) : Guarded step ok start t

namespace Guarded

theorem invariant {I : σ → Prop} (hrun : Guarded step ok start s) (hstart : I start)
    (hkeep : ∀ s event t, I s → ok s event → step s event = some t → I t) : I s := by
  induction hrun with
  | start => exact hstart
  | next _ _ hok hstep ih => exact hkeep _ _ _ ih hok hstep

/-- Carrying out a list of events is a run without a guard. -/
theorem of_foldlM (events : List ε) (h : events.foldlM step s = some t) :
    Guarded step (fun _ _ => True) s t := by
  suffices hfrom : ∀ mid, Guarded step (fun _ _ => True) s mid → events.foldlM step mid = some t →
      Guarded step (fun _ _ => True) s t from hfrom s .start h
  clear h
  induction events with
  | nil =>
    intro mid hmid h
    cases h
    exact hmid
  | cons event _ ih =>
    intro mid hmid h
    rw [List.foldlM_cons] at h
    obtain ⟨after, hafter, hrest⟩ := Option.bind_eq_some_iff.mp h
    exact ih after (hmid.next event trivial hafter) hrest

end Guarded

end Txn

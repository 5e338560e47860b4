/-
# Pre- and postconditions of a request that runs alone

`Triple A p B` says that a program started where `A` holds ends, if it returns, where `B` holds.
A program that raises has nothing to show, since its transaction rolls back. There is one rule
for each way in which programs are put together, so a method gets one triple and its callers use
that.
-/

import VpnControl.Txn.Shared

namespace Txn.Shared

variable {E : Engine} {M : Shared E} {ε α β γ : Type} {A A' : M.Point → Prop}
  {B B' : α → M.Point → Prop} {p : Program E.toSignature ε α}

/-- Started where `A` holds, the program ends, if it returns, where `B` holds. -/
def Triple (A : M.Point → Prop) (p : Program E.toSignature ε α) (B : α → M.Point → Prop) : Prop :=
  ∀ s, A s → ∀ value done, run p s = (.ok value, done) → B value done

namespace Triple

theorem pure (h : ∀ s, A s → B value s) :
    Triple A (Pure.pure value : Program E.toSignature ε α) B := by
  intro s hs value' done hrun
  obtain ⟨rfl, rfl⟩ : value = value' ∧ s = done := by simpa using hrun
  exact h s hs

theorem raise : Triple A (Program.raise error : Program E.toSignature ε α) B := by
  intro s hs value done hrun
  simp at hrun

theorem perform {B : E.Reply op → M.Point → Prop} (h : ∀ s, A s → B (s.reply op) (s.after op)) :
    Triple A (Program.perform op : Program E.toSignature ε _) B := by
  intro s hs value done hrun
  rw [run_perform] at hrun
  cases hrun
  exact h s hs

theorem bind {C : β → M.Point → Prop} (hp : Triple A p B)
    (hf : ∀ value, Triple (B value) (f value) C) : Triple A (p >>= f) C := by
  intro s hs result done hrun
  obtain ⟨value, mid, hmid, hrest⟩ := exists_of_run_bind hrun
  exact hf value mid (hp s hs value mid hmid) result done hrest

theorem conseq (hp : Triple A' p B') (hpre : ∀ s, A s → A' s)
    (hpost : ∀ value s, B' value s → B value s) : Triple A p B :=
  fun s hs value done hrun => hpost value done (hp s (hpre s hs) value done hrun)

theorem pre (hp : Triple A' p B) (hpre : ∀ s, A s → A' s) : Triple A p B :=
  hp.conseq hpre fun _ _ h => h

theorem post (hp : Triple A p B') (hpost : ∀ value s, B' value s → B value s) : Triple A p B :=
  hp.conseq (fun _ h => h) hpost

variable {C : M.Point → Prop} {φ : E.Op → Prop}

/-- What is returned may be thrown away. -/
theorem ignore (hp : Triple A p fun _ => C) : Triple A (do let _ ← p) fun _ => C :=
  bind hp fun _ => pure fun _ h => h

/-- What every statement keeps, the program keeps. -/
theorem frame (hp : p.Every φ)
    (hstep : ∀ op, φ op → ∀ s, A s → A (s.after op)) : Triple A p fun _ => A := by
  intro s hs value done hrun
  have hdone : (run p s).2 = done := by rw [hrun]
  exact hdone ▸ run_keeps hstep hp hs

/-- What every statement keeps may be carried along. -/
theorem withFrame (hp : Triple A p B) (hevery : p.Every φ)
    (hstep : ∀ op, φ op → ∀ s, C s → C (s.after op)) :
    Triple (fun s => A s ∧ C s) p fun value s => B value s ∧ C s :=
  fun s hs value done hrun => ⟨hp s hs.1 value done hrun, frame hevery hstep s hs.2 value done hrun⟩

variable {f : γ → Program E.toSignature ε PUnit}

/-- A loop, with an invariant that speaks about what is left of the list. -/
theorem forM {I : List γ → M.Point → Prop}
    (hbody : ∀ x rest, Triple (I (x :: rest)) (f x) fun _ => I rest) (xs : List γ) :
    Triple (I xs) (xs.forM f) fun _ => I [] := by
  induction xs with
  | nil => exact pure fun _ h => h
  | cons x rest ih => exact bind (hbody x rest) fun _ => ih

/-- A loop whose body keeps an assertion. -/
theorem forM_keeps {xs : List γ}
    (hbody : ∀ x ∈ xs, Triple A (f x) fun _ => A) : Triple A (xs.forM f) fun _ => A := by
  induction xs with
  | nil => exact pure fun _ h => h
  | cons x _ ih =>
    exact bind (hbody x (by simp)) fun _ => ih fun other hother => hbody other (by simp [hother])

/-- A program with a clean-up returns what the program returns, after the clean-up. -/
theorem exists_of_run_andFinally (hrun : run (p.andFinally cleanup) s = (.ok value, done)) :
    ∃ mid, run p s = (.ok value, mid) ∧ run cleanup mid = (.ok (), done) := by
  induction p generalizing s with
  | ret result =>
    change run (cleanup >>= fun _ => Pure.pure result) s = _ at hrun
    rw [run_bind] at hrun
    cases hclean : run cleanup s with
    | mk outcome mid =>
      rw [hclean] at hrun
      cases outcome with
      | error => simp at hrun
      | ok =>
        obtain ⟨rfl, rfl⟩ : result = value ∧ mid = done := by simpa using hrun
        exact ⟨s, rfl, hclean⟩
  | raise error =>
    change run (cleanup >>= fun _ => Program.raise error) s = _ at hrun
    rw [run_bind] at hrun
    cases hclean : run cleanup s with
    | mk outcome =>
      rw [hclean] at hrun
      cases outcome <;> simp at hrun
  | exec _ _ ih => exact ih _ hrun

/-- A clean-up that keeps the postcondition. -/
theorem andFinally (hp : Triple A p B)
    (hcleanup : ∀ value, Triple (B value) cleanup fun _ => B value) :
    Triple A (p.andFinally cleanup) B := by
  intro s hs value done hrun
  obtain ⟨mid, hmid, hclean⟩ := exists_of_run_andFinally hrun
  exact hcleanup value mid (hp s hs value mid hmid) () done hclean

/-- What a request leaves: the state its program ended in, or the one it started from. -/
theorem request (hp : Triple A p B) (hs : A s) :
    (∃ value done, Shared.request p s = (.ok value, done.db, done.store) ∧ B value done) ∨
      ∃ error store, Shared.request p s = (.error error, s.db, store) := by
  cases hrun : run p s with
  | mk outcome done =>
    cases outcome with
    | ok value => exact .inl ⟨value, done, by simp [Shared.request, hrun], hp s hs value done hrun⟩
    | error error => exact .inr ⟨error, done.store, by simp [Shared.request, hrun]⟩

end Triple

end Txn.Shared

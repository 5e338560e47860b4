/-
# Interleaved transactions

Any number of transactions run at once. One event executes one statement of one
transaction, or ends a transaction: a program that has returned commits, one
that has raised rolls back, and any open transaction may be aborted from outside
(a lost connection, a deadlock victim). A statement whose row locks somebody
else holds cannot run; it runs later, on the state committed by then. That is
the READ COMMITTED rule for a statement that waits for a row.

The step function is executable, so a schedule can be replayed.
-/

import Mathlib.Data.Fintype.Basic
import Mathlib.Logic.Function.Basic
import VpnControl.Txn.Engine

namespace Txn

open Option

variable {E : Engine} {ε ι : Type}

/-- The state of one transaction of a system. -/
inductive Status (E : Engine) (ε : Type) : Type 1
  | running (rest : Program E.toSignature ε Unit) (t : Tx E)
  | committed (t : Tx E)
  | rolledBack

/-- The rows a transaction keeps locked. Locks go with the end of the
transaction. -/
def Status.keys : Status E ε → List E.Key
  | running _ t => t.keys
  | committed _ => []
  | rolledBack => []

/-- A system of transactions over one database. -/
structure System (E : Engine) (ε ι : Type) : Type 1 where
  db : Committed E
  txs : ι → Status E ε

/-- What can happen next. -/
inductive Event (ι : Type)
  /-- The transaction executes its next statement, or ends if it has none. -/
  | step (i : ι)
  /-- The transaction is rolled back from outside. -/
  | abort (i : ι)
  deriving DecidableEq

namespace System

/-- All transactions are about to start. -/
def start (db : Committed E) (programs : ι → Program E.toSignature ε Unit)
    (sessions : ι → E.Session) : System E ε ι where
  db := db
  txs i := .running (programs i) (Tx.start (sessions i))

variable (s : System E ε ι)

/-- No transaction other than `i` holds one of `keys`. -/
def Free (i : ι) (keys : List E.Key) : Prop :=
  ∀ j, j ≠ i → ∀ key ∈ keys, key ∉ (s.txs j).keys

instance [Fintype ι] [DecidableEq ι] (s : System E ε ι) (i : ι) (keys : List E.Key) :
    Decidable (s.Free i keys) :=
  inferInstanceAs (Decidable (∀ j, j ≠ i → ∀ key ∈ keys, key ∉ (s.txs j).keys))

variable [Fintype ι] [DecidableEq ι]

omit [Fintype ι] in
/-- Replace the state of one transaction. -/
def setTx (s : System E ε ι) (i : ι) (status : Status E ε) : System E ε ι where
  db := s.db
  txs := Function.update s.txs i status

/-- One event; `none` when it cannot happen now. -/
def next (s : System E ε ι) : Event ι → Option (System E ε ι)
  | .step i =>
    match s.txs i with
    | .running (.exec op rest) t =>
      if s.Free i (t.needs s.db op) then
        some (s.setTx i (.running (rest (t.reply s.db op)) (t.after s.db op)))
      else none
    | .running (.ret _) t =>
      some { s.setTx i (.committed t) with db := s.db.extend t.writes }
    | .running (.raise _) _ => some (s.setTx i .rolledBack)
    | .committed _ => none
    | .rolledBack => none
  | .abort i =>
    match s.txs i with
    | .running _ _ => some (s.setTx i .rolledBack)
    | .committed _ => none
    | .rolledBack => none

/-- The statement that an event executes, with the transaction that issues it. -/
def issues : Event ι → Option (E.Op × Tx E)
  | .step i =>
    match s.txs i with
    | .running (.exec op _) t => some (op, t)
    | _ => none
  | .abort _ => none

/-- `Runs ok s later`: some schedule leads from `s` to `later`, and every
statement it executes satisfies `ok` in the state it is executed in. -/
inductive Runs (ok : E.Op → Tx E → Committed E → Prop) (s : System E ε ι) : System E ε ι → Prop
  | refl : Runs ok s s
  | tail {mid later : System E ε ι} (event : Event ι) : Runs ok s mid →
      (∀ op t, mid.issues event = some (op, t) → ok op t mid.db) →
      mid.next event = some later → Runs ok s later

/-- Replay a schedule; `none` when one of its events cannot happen or executes a
statement that does not satisfy `ok`. -/
def replay (ok : E.Op → Tx E → Committed E → Prop) [∀ op t c, Decidable (ok op t c)]
    (s : System E ε ι) : List (Event ι) → Option (System E ε ι)
  | [] => some s
  | event :: rest =>
    if (s.issues event).all fun issued => ok issued.1 issued.2 s.db then
      (s.next event).bind fun later => later.replay ok rest
    else none

omit [Fintype ι] [DecidableEq ι] in
theorem issues_exec {s : System E ε ι}
    (h : s.txs i = .running (.exec op rest) t) : s.issues (.step i) = some (op, t) := by
  simp [issues, h]

theorem next_cases {s : System E ε ι} (h : s.next event = some later) :
    (∃ i op rest t, event = .step i ∧ s.txs i = .running (.exec op rest) t ∧
        s.Free i (t.needs s.db op) ∧
        later = s.setTx i (.running (rest (t.reply s.db op)) (t.after s.db op))) ∨
      (∃ i t, event = .step i ∧ s.txs i = .running (.ret ()) t ∧
        later = { s.setTx i (.committed t) with db := s.db.extend t.writes }) ∨
      (∃ i rest t, s.txs i = .running rest t ∧ later = s.setTx i .rolledBack) := by
  cases event with
  | step i =>
    simp only [next] at h
    split at h
    · rename_i op rest t hi
      split at h
      · rename_i hfree
        exact Or.inl ⟨i, op, rest, t, rfl, hi, hfree, (some.inj h).symm⟩
      · cases h
    · rename_i value t hi
      exact Or.inr (Or.inl ⟨i, t, rfl, hi, (some.inj h).symm⟩)
    · rename_i error t hi
      exact Or.inr (Or.inr ⟨i, _, t, hi, (some.inj h).symm⟩)
    · cases h
    · cases h
  | abort i =>
    simp only [next] at h
    split at h
    · rename_i rest t hi
      exact Or.inr (Or.inr ⟨i, rest, t, hi, (some.inj h).symm⟩)
    · cases h
    · cases h

section

variable {s later : System E ε ι} {event : Event ι} {i : ι}

omit [Fintype ι] in
theorem txs_setTx (h : (s.setTx i status).txs j = other) :
    j = i ∧ status = other ∨ j ≠ i ∧ s.txs j = other := by
  by_cases hj : j = i
  · subst hj
    exact .inl ⟨rfl, by simpa [setTx] using h⟩
  · exact .inr ⟨hj, by simpa [setTx, hj] using h⟩

/-- Who is running after an event was running before. It has executed a statement, or it was not
its turn, and another one may have committed. -/
theorem running_next {rest : Program E.toSignature ε Unit}
    (h : s.next event = some later) (hi : later.txs i = .running rest t) :
    (s.txs i = .running rest t ∧ (later.db = s.db ∨ ∃ j u, j ≠ i ∧
        s.txs j = .running (.ret ()) u ∧ later.db = s.db.extend u.writes)) ∨
      ∃ op f u, event = .step i ∧ s.txs i = .running (.exec op f) u ∧
        s.Free i (u.needs s.db op) ∧ later.db = s.db ∧ rest = f (u.reply s.db op) ∧
        t = u.after s.db op := by
  obtain ⟨j, op, f, u, rfl, hj, hfree, rfl⟩ | ⟨j, u, -, hj, rfl⟩ | ⟨j, -, -, -, rfl⟩ := next_cases h
  · rcases txs_setTx hi with ⟨rfl, heq⟩ | ⟨-, hi⟩
    · cases heq
      exact .inr ⟨op, f, u, rfl, hj, hfree, rfl, rfl, rfl⟩
    · exact .inl ⟨hi, .inl rfl⟩
  · rcases txs_setTx hi with ⟨-, heq⟩ | ⟨hne, hi⟩
    · cases heq
    · exact .inl ⟨hi, .inr ⟨j, u, hne.symm, hj, rfl⟩⟩
  · rcases txs_setTx hi with ⟨-, heq⟩ | ⟨-, hi⟩
    · cases heq
    · exact .inl ⟨hi, .inl rfl⟩

/-- Who has committed after an event had committed before, or has done it now. -/
theorem committed_of_next (h : s.next event = some later) (hi : later.txs i = .committed t) :
    s.txs i = .committed t ∨ event = .step i ∧ s.txs i = .running (.ret ()) t := by
  obtain ⟨j, _, _, _, -, _, -, rfl⟩ | ⟨j, u, rfl, hj, rfl⟩ | ⟨j, _, _, _, rfl⟩ := next_cases h
  · rcases txs_setTx hi with ⟨-, heq⟩ | ⟨-, hi⟩
    · cases heq
    · exact .inl hi
  · rcases txs_setTx hi with ⟨rfl, heq⟩ | ⟨-, hi⟩
    · cases heq
      exact .inr ⟨rfl, hj⟩
    · exact .inl hi
  · rcases txs_setTx hi with ⟨-, heq⟩ | ⟨-, hi⟩
    · cases heq
    · exact .inl hi

end

theorem runs_of_replay {ok : E.Op → Tx E → Committed E → Prop}
    [∀ op t c, Decidable (ok op t c)] {s : System E ε ι}
    (h : s.replay ok events = some later) : Runs ok s later := by
  suffices hgen : ∀ mid, Runs ok s mid → mid.replay ok events = some later →
      Runs ok s later from hgen s .refl h
  clear h
  induction events with
  | nil =>
    intro mid hmid h
    exact some.inj h ▸ hmid
  | cons event _ ih =>
    intro mid hmid h
    unfold replay at h
    split at h
    · rename_i hok
      obtain ⟨step, hstep, hrest⟩ := bind_eq_some_iff.mp h
      refine ih step (hmid.tail event (fun op t hissued => ?_) hstep) hrest
      simpa [hissued] using hok
    · cases h

/-- A replayed schedule that ends well is a run that ends well. -/
theorem exists_run_of_replay (ok : E.Op → Tx E → Committed E → Prop)
    [∀ op t c, Decidable (ok op t c)] (s : System E ε ι) (events : List (Event ι))
    (p : System E ε ι → Bool) (h : (s.replay ok events).any p = true) :
    ∃ later, Runs ok s later ∧ p later = true := by
  cases hreplay : s.replay ok events with
  | none =>
    rw [hreplay] at h
    cases h
  | some later =>
    rw [hreplay] at h
    exact ⟨later, runs_of_replay hreplay, h⟩

/-- The same for a schedule that is looked at twice. -/
theorem exists_runs_of_replay (ok : E.Op → Tx E → Committed E → Prop)
    [∀ op t c, Decidable (ok op t c)] (s : System E ε ι) (first second : List (Event ι))
    (p q : System E ε ι → Bool)
    (h : ((s.replay ok first).any fun mid => p mid && (mid.replay ok second).any q) = true) :
    ∃ mid later, Runs ok s mid ∧ Runs ok mid later ∧ p mid = true ∧ q later = true := by
  obtain ⟨mid, hmid, hrest⟩ := exists_run_of_replay ok s first _ h
  obtain ⟨hp, hsecond⟩ := Bool.and_eq_true_iff.mp hrest
  obtain ⟨later, hlater, hq⟩ := exists_run_of_replay ok mid second q hsecond
  exact ⟨mid, later, hmid, hlater, hp, hq⟩

/-- The transaction, if it has committed. -/
def committed? (i : ι) : Option (Tx E) :=
  match s.txs i with
  | .committed t => some t
  | _ => none

omit [Fintype ι] [DecidableEq ι] in
theorem txs_of_committed? {s : System E ε ι} (h : s.committed? i = some t) :
    s.txs i = .committed t := by
  unfold committed? at h
  split at h
  · rename_i done hdone
    rw [hdone, some.inj h]
  · cases h

end System

end Txn

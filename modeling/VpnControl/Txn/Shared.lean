/-
# A shared store beside the database

Some statements of a program do not go to the database but to a store that everybody sees at
once: a cache, a lock, a counter. No transaction protects them. What they did stays done when
the transaction of the request rolls back.

`Shared` says which statements the store serves. A request that runs alone is a function of
the database and the store, `Shared.request`.
-/

import VpnControl.Txn.Engine

namespace Txn

variable {E : Engine} {ε α β : Type}

/-- A store beside a database. -/
structure Shared (E : Engine) where
  /-- The contents of the store. -/
  Store : Type
  /-- The reply of the store and its new contents, if the statement is one for the store. -/
  serve : (op : E.Op) → Store → Option (E.Reply op × Store)
  /-- What may become of the store while nobody uses it. -/
  Drift : Store → Store → Prop

namespace Shared

variable {M : Shared E}

/-- What a request sees when it runs alone: its session, the database with its own changes on
top, and the store. -/
structure Point (M : Shared E) where
  session : E.Session
  db : E.State
  store : M.Store

namespace Point

variable (s : M.Point) (op : E.Op)

/-- The reply to a statement. -/
def reply : E.Reply op :=
  match M.serve op s.store with
  | some (reply, _) => reply
  | none => (E.answer op s.db s.session).1

/-- The point after a statement. -/
def after : M.Point :=
  match M.serve op s.store with
  | some (_, store) => { s with store := store }
  | none =>
    { s with
      session := (E.answer op s.db s.session).2
      db := (E.writes op).foldl E.apply s.db }

variable {s op}

end Point

/-- Run a program to its end with nobody else around. -/
def run : Program E.toSignature ε α → M.Point → Except ε α × M.Point
  | .ret value, s => (.ok value, s)
  | .raise error, s => (.error error, s)
  | .exec op next, s => run (next (s.reply op)) (s.after op)

variable {p : Program E.toSignature ε α} {s mid : M.Point}

@[simp]
theorem run_pure (value : α) (s : M.Point) :
    run (pure value : Program E.toSignature ε α) s = (.ok value, s) := rfl

@[simp]
theorem run_raise :
    run (Program.raise error : Program E.toSignature ε α) s = (.error error, s) := rfl

@[simp]
theorem run_perform (op : E.Op) (s : M.Point) :
    run (Program.perform op : Program E.toSignature ε _) s = (.ok (s.reply op), s.after op) := rfl

/-- The rule of sequence. -/
theorem run_bind (p : Program E.toSignature ε α) (f : α → Program E.toSignature ε β)
    (s : M.Point) : run (p >>= f) s = match run p s with
      | (.ok value, mid) => run (f value) mid
      | (.error error, mid) => (.error error, mid) := by
  induction p generalizing s with
  | ret => rfl
  | raise => rfl
  | exec op _ ih => exact ih (s.reply op) (s.after op)

/-- A sequence that returns, returns at each of its parts. -/
theorem exists_of_run_bind {f : α → Program E.toSignature ε β}
    (h : run (p >>= f) s = (.ok result, done)) :
    ∃ value mid, run p s = (.ok value, mid) ∧ run (f value) mid = (.ok result, done) := by
  rw [run_bind] at h
  cases hmid : run p s with
  | mk outcome mid =>
    rw [hmid] at h
    cases outcome with
    | error => simp at h
    | ok value => exact ⟨value, mid, rfl, h⟩

/-- What every statement keeps, the program keeps. -/
theorem run_keeps {A : M.Point → Prop}
    (hstep : ∀ op, φ op → ∀ s, A s → A (s.after op)) (hp : p.Every φ) (h : A s) :
    A (run p s).2 := by
  induction p generalizing s with
  | ret => exact h
  | raise => exact h
  | exec op _ ih => exact ih _ (hp.2 _) (hstep op hp.1 s h)

/-- A request: it commits when its program returns and rolls back when it raises. The store
keeps what was done to it. -/
def request (p : Program E.toSignature ε α) (s : M.Point) : Except ε α × E.State × M.Store :=
  match run p s with
  | (.ok value, done) => (.ok value, done.db, done.store)
  | (.error error, done) => (.error error, s.db, done.store)

/-- A request that commits ran to its end. -/
theorem exists_of_request (h : request p s = (.ok value, db, store)) :
    ∃ done, run p s = (.ok value, done) ∧ done.db = db ∧ done.store = store := by
  unfold request at h
  cases hrun : run p s with
  | mk outcome done =>
    rw [hrun] at h
    cases outcome with
    | error => simp at h
    | ok returned =>
      obtain ⟨rfl, hdb, hstore⟩ := (by simpa using h : returned = value ∧ done.db = db ∧
        done.store = store)
      exact ⟨done, rfl, hdb, hstore⟩

end Shared

end Txn

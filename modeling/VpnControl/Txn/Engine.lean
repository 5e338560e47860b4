/-
# Transactions over a database with row locks

An `Engine` says how statements are answered. A transaction that is still open
has its session, the writes it has made so far and the row locks it holds. It
sees the committed state with its own writes on top, which is what every
statement of a READ COMMITTED transaction is answered on: the committed part is
the one of the moment of the statement, not of the start of the transaction.

Writes act row by row. The two laws `apply_frame` and `apply_congr` say so, and
`touches_locked` says that a row is locked before it is written. Together they
are all that later modules use about a concrete database.
-/

import Mathlib.Data.List.Basic
import VpnControl.Txn.Program

namespace Txn

open List

/-- How a database answers the statements of a signature. -/
structure Engine extends Signature where
  /-- The contents of the database. -/
  State : Type
  /-- What the client side of one connection remembers between statements. -/
  Session : Type
  /-- The names of the rows that can be locked. -/
  Key : Type
  /-- The elementary changes of the database. -/
  Write : Type
  decEqKey : DecidableEq Key
  /-- The effect of one change. -/
  apply : State → Write → State
  /-- The reply to a statement on the state its transaction sees, and what the
  session remembers afterwards. -/
  answer : (op : Op) → State → Session → Reply op × Session
  /-- The changes a statement makes. -/
  writes : Op → List Write
  /-- The rows a statement locks when it runs on a state. -/
  locks : Op → State → List Key
  /-- The rows a change may alter. -/
  touches : Write → List Key
  /-- Two states hold the same row under a key. -/
  SameRow : Key → State → State → Prop
  sameRow_refl : ∀ key state, SameRow key state state
  sameRow_trans : ∀ {key first second third},
    SameRow key first second → SameRow key second third → SameRow key first third
  apply_frame : ∀ {key write} state, key ∉ touches write → SameRow key state (apply state write)
  apply_congr : ∀ {key first second} write, SameRow key first second →
    SameRow key (apply first write) (apply second write)
  touches_locked : ∀ {op write key} state, write ∈ writes op → key ∈ touches write →
    key ∈ locks op state

attribute [instance] Engine.decEqKey

variable {E : Engine} {ε α : Type}

/-- The part of the database that has been committed: its contents and the
changes that were committed since the observation began, oldest first. -/
structure Committed (E : Engine) where
  state : E.State
  log : List E.Write

/-- Commit a list of changes. -/
def Committed.extend (c : Committed E) (writes : List E.Write) : Committed E where
  state := writes.foldl E.apply c.state
  log := c.log ++ writes

@[simp]
theorem Committed.extend_nil {c : Committed E} : c.extend [] = c := by simp [Committed.extend]

/-- A row that no change touches stays. -/
theorem sameRow_foldl {writes : List E.Write} (state : E.State)
    (h : ∀ write ∈ writes, key ∉ E.touches write) :
    E.SameRow key state (writes.foldl E.apply state) := by
  induction writes generalizing state with
  | nil => exact E.sameRow_refl key state
  | cons write _ ih =>
    have hfirst : E.SameRow key state (E.apply state write) :=
      E.apply_frame state (h write (by simp))
    have hrest := ih (E.apply state write) fun other hother => h other (by simp [hother])
    exact E.sameRow_trans hfirst hrest

/-- Since `c`, changes have been committed that leave a row alone. -/
def Committed.Spares (c : Committed E) (key : E.Key) (later : Committed E) : Prop :=
  ∃ writes, later = c.extend writes ∧ ∀ write ∈ writes, key ∉ E.touches write

namespace Committed.Spares

variable {key : E.Key} {c mid later : Committed E}

theorem refl (c : Committed E) (key : E.Key) : c.Spares key c := ⟨[], by simp, by simp⟩

theorem trans (h : c.Spares key mid) (h' : mid.Spares key later) : c.Spares key later := by
  obtain ⟨first, rfl, hfirst⟩ := h
  obtain ⟨second, rfl, hsecond⟩ := h'
  refine ⟨first ++ second, ?_, forall_mem_append.mpr ⟨hfirst, hsecond⟩⟩
  simp [Committed.extend]

theorem sameRow (h : c.Spares key later) : E.SameRow key c.state later.state := by
  obtain ⟨writes, rfl, hwrites⟩ := h
  exact sameRow_foldl c.state hwrites

end Committed.Spares

/-- A transaction that is still open. -/
structure Tx (E : Engine) where
  session : E.Session
  /-- Its changes so far, oldest first; nobody else sees them. -/
  writes : List E.Write
  /-- The row locks it holds, each with the committed state it was granted on. -/
  held : List (E.Key × E.State)

variable {t : Tx E} (session : E.Session)

namespace Tx

/-- A transaction at its start. -/
def start (session : E.Session) : Tx E where
  session := session
  writes := []
  held := []

/-- The rows the transaction has locked. -/
def keys (t : Tx E) : List E.Key := t.held.map Prod.fst

/-- The state the transaction sees: the committed one under its own changes. -/
def view (t : Tx E) (state : E.State) : E.State := t.writes.foldl E.apply state

/-- The rows a statement would lock that the transaction has not locked yet. -/
def needs (t : Tx E) (c : Committed E) (op : E.Op) : List E.Key :=
  (E.locks op (t.view c.state)).filter fun key => key ∉ t.keys

def reply (t : Tx E) (c : Committed E) (op : E.Op) : E.Reply op :=
  (E.answer op (t.view c.state) t.session).1

/-- The transaction after a statement. -/
def after (t : Tx E) (c : Committed E) (op : E.Op) : Tx E where
  session := (E.answer op (t.view c.state) t.session).2
  writes := t.writes ++ E.writes op
  held := t.held ++ (t.needs c op).map fun key => (key, c.state)

@[simp]
theorem view_start : (start session : Tx E).view state = state := rfl

@[simp]
theorem keys_start : (start session : Tx E).keys = [] := rfl

@[simp]
theorem start_writes : (start session : Tx E).writes = [] := rfl

@[simp]
theorem start_held : (start session : Tx E).held = [] := rfl

@[simp]
theorem start_session : (start session : Tx E).session = session := rfl

variable {c : Committed E}

@[simp]
theorem after_session (t : Tx E) :
    (t.after c op).session = (E.answer op (t.view c.state) t.session).2 := rfl

@[simp]
theorem after_writes (t : Tx E) : (t.after c op).writes = t.writes ++ E.writes op := rfl

variable {key : E.Key}

theorem mem_keys : key ∈ t.keys ↔ ∃ state, (key, state) ∈ t.held := by simp [keys]

theorem mem_keys_after :
    key ∈ (t.after c op).keys ↔ key ∈ t.keys ∨ key ∈ E.locks op (t.view c.state) := by
  by_cases hheld : key ∈ t.keys <;>
    simp_all [keys, after, needs, Function.comp_def]

theorem keys_subset_after (h : key ∈ t.keys) : key ∈ (t.after c op).keys :=
  mem_keys_after.mpr (Or.inl h)

/-- The view after a statement is the view before it with the statement's own
changes on top. -/
theorem view_after (t : Tx E) :
    (t.after c op).view state = (E.writes op).foldl E.apply (t.view state) := by
  simp [view, foldl_append]

/-- What a transaction sees of a row depends on the committed row only. -/
theorem view_sameRow (t : Tx E) (h : E.SameRow key first second) :
    E.SameRow key (t.view first) (t.view second) := by
  unfold view
  induction t.writes generalizing first second with
  | nil => exact h
  | cons write _ ih => exact ih (E.apply_congr write h)

/-- A row that no change of the transaction touches is seen as it is committed. -/
theorem sameRow_view (t : Tx E) {state : E.State} (h : ∀ write ∈ t.writes, key ∉ E.touches write) :
    E.SameRow key state (t.view state) :=
  sameRow_foldl state h

/-- Every change of the transaction was made to rows it has locked. -/
def WritesLocked (t : Tx E) : Prop :=
  ∀ write ∈ t.writes, ∀ key ∈ E.touches write, key ∈ t.keys

theorem writesLocked_start : (start session : Tx E).WritesLocked := by
  intro write hwrite
  simp at hwrite

theorem WritesLocked.after (h : t.WritesLocked) (c : Committed E) (op : E.Op) :
    (t.after c op).WritesLocked := by
  intro write hwrite key hkey
  rw [after_writes, mem_append] at hwrite
  rcases hwrite with hold | hnew
  · exact keys_subset_after (h write hold key hkey)
  · exact mem_keys_after.mpr (Or.inr (E.touches_locked _ hnew hkey))

/-- Since the locks of the transaction were granted, nobody has written their rows, and the
committed state has moved on by changes only. -/
def Kept (t : Tx E) (c : Committed E) : Prop :=
  ∀ key state, (key, state) ∈ t.held →
    E.SameRow key state c.state ∧ ∃ writes : List E.Write, c.state = writes.foldl E.apply state

theorem kept_start (c : Committed E) : (start session : Tx E).Kept c := by
  intro key state hheld
  simp at hheld

theorem Kept.later {later : Committed E} (h : t.Kept c)
    (hspares : ∀ key ∈ t.keys, c.Spares key later) : t.Kept later := by
  intro key state hheld
  obtain ⟨hsame, writes, hstate⟩ := h key state hheld
  have hkey := hspares key (mem_keys.mpr ⟨state, hheld⟩)
  obtain ⟨more, rfl, -⟩ := id hkey
  refine ⟨E.sameRow_trans hsame hkey.sameRow, writes ++ more, ?_⟩
  simp [Committed.extend, hstate, foldl_append]

theorem Kept.after (h : t.Kept c) (op : E.Op) : (t.after c op).Kept c := by
  intro key state hheld
  rcases mem_append.mp hheld with hold | hnew
  · exact h key state hold
  · -- a lock that is granted now is granted on the committed state
    obtain ⟨_, -, hpair⟩ := mem_map.mp hnew
    cases hpair
    exact ⟨E.sameRow_refl key c.state, [], rfl⟩

end Tx

/-! ## One transaction at a time -/

/-- Run a program to its end with nobody else around. -/
def alone : Program E.toSignature ε α → Tx E → Committed E → Except ε α × Tx E
  | .ret value, t, _ => (.ok value, t)
  | .raise error, t, _ => (.error error, t)
  | .exec op next, t, c => alone (next (t.reply c op)) (t.after c op) c

/-- A unit of work that commits when its program returns and rolls back when it
raises. -/
def request (p : Program E.toSignature ε α) (session : E.Session) (c : Committed E) :
    Except ε α × Committed E :=
  match alone p (Tx.start session) c with
  | (.ok value, t) => (.ok value, c.extend t.writes)
  | (.error error, _) => (.error error, c)

/-- A unit of work whose connection is closed without a commit. -/
def abandon (p : Program E.toSignature ε α) (session : E.Session) (c : Committed E) :
    Except ε α × Committed E :=
  ((alone p (Tx.start session) c).1, c)

end Txn

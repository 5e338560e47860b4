/-
# The ledger of a user

Every balance change goes through the same three steps: lock the user row, write
the new balance, append a ledger row. `LedgerLocal` is what an open transaction
knows about one user between these steps, and `ledgerProtocol` is what the
transactions promise each other: the balance is the opening balance plus the rows
committed since, and every row records the balance it leaves.

The promise has one condition. The lock must be granted on a row that the session
has not loaded before, or that has not changed since: the identity map answers a
locked read with the instance it already has. A request that runs alone always
meets the condition.
-/

import Mathlib.Tactic.Linarith
import Mathlib.Tactic.Ring
import VpnControl.Billing.Operations
import VpnControl.Billing.Effects
import VpnControl.Txn.Posting

namespace VpnControl.Billing

open Txn List Write Stmt Session
open Database Tx

/-! ## Rows of a user -/

/-- The ledger rows of a user, oldest first. -/
def Database.ledger (db : Database) (user : Uuid) : List BalanceTransaction :=
  db.transactions.filter fun row => row.userId = user

/-- The ledger rows of a user among some writes, oldest first. -/
def ownRows (user : Uuid) (writes : List Write) : List BalanceTransaction :=
  (writes.filterMap Write.transaction?).filter fun row => row.userId = user

def total (rows : List BalanceTransaction) : Money := (rows.map BalanceTransaction.amount).sum

/-- Each row records the balance it leaves. -/
abbrev RowsPosted : Money → List BalanceTransaction → Prop :=
  Posted BalanceTransaction.amount BalanceTransaction.balanceAfter

theorem ownRows_append :
    ownRows user (first ++ second) = ownRows user first ++ ownRows user second := by
  simp [ownRows]

theorem total_append : total (first ++ second) = total first + total second := by simp [total]

/-- A write that changes no balance and appends no ledger row. -/
def Write.Quiet : Write → Prop
  | .setBalance _ _ => False
  | .insertTransaction _ => False
  | _ => True

def Write.Concerns (user : Uuid) : Write → Prop
  | .setBalance owner _ => owner = user
  | .insertTransaction row => row.userId = user
  | _ => False

theorem Write.Quiet.not_concerns {w : Write} (h : w.Quiet) (user : Uuid) : ¬ w.Concerns user := by
  cases w <;> simp_all [Quiet, Concerns]

variable {writes : List Write} {op : Stmt} {id : Uuid}

theorem ownRows_eq_nil (h : ∀ w ∈ writes, ¬ w.Concerns user) : ownRows user writes = [] := by
  rw [ownRows, filter_eq_nil_iff]
  intro row hrow
  obtain ⟨w, hw, hrow⟩ := mem_filterMap.mp hrow
  cases w <;> simp only [transaction?, reduceCtorEq, Option.some.injEq] at hrow
  subst hrow
  simpa [Concerns] using h _ hw

theorem setBalance_not_mem (h : ∀ w ∈ writes, ¬ w.Concerns user) (balance : Money) :
    setBalance user balance ∉ writes :=
  fun hmem => h _ hmem rfl

theorem Write.user_not_mem_touches {w : Write}
    (h : ∀ balance, w ≠ .setBalance user balance) : RowKey.user user ∉ w.touches := by
  cases w <;> simp_all [touches, eq_comm]

theorem users_foldl {user : Uuid}
    (h : ∀ balance, setBalance user balance ∉ writes) (db : Database) :
    (writes.foldl Database.apply db).users.find? user = db.users.find? user := by
  refine foldl_unchanged (fun db => db.users.find? user) ?_
  intro w hw db
  have hframe : Database.SameRow (.user user) db (db.apply w) :=
    apply_frame db (user_not_mem_touches fun balance heq => h balance (heq ▸ hw))
  exact hframe.symm

/-- Rows that take money from the balance on the user's behalf. -/
def debitTypes : List TransactionType := [.purchase, .deviceSlotPurchase, .manualDebit]

/-! ## Loading a user row -/

theorem Session.load_id (s : Session) (user : User) : (s.load user).1.id = user.id := by
  unfold load
  split
  · rename_i loaded hloaded
    exact s.identity_id _ _ hloaded
  · rfl

/-- Loading a row changes at most its own entry, and that only if it is empty. -/
theorem Session.identity_load_cases (s : Session) (row : User) (user : Uuid) :
    (s.load row).2.identity user = s.identity user ∨
      (s.identity user = none ∧ user = row.id ∧ (s.load row).2.identity user = some row) := by
  unfold load
  split
  · exact .inl rfl
  · rename_i hnone
    by_cases huser : user = row.id
    · subst huser
      exact .inr ⟨hnone, rfl, by simp⟩
    · exact .inl (by simp [huser])

/-- A load that finds the row returns the instance the session has, if it has one,
and the session has that instance from then on. -/
theorem loadUser_eq_some (h : (loadUser id db s).1 = some user) :
    user.id = id ∧ (∀ account, s.identity id = some account → account = user) ∧
      (loadUser id db s).2.identity id = some user := by
  unfold loadUser at h ⊢
  cases hrow : db.users.find? id with
  | none =>
    rw [hrow] at h
    cases h
  | some row =>
    rw [hrow] at h
    have hid : row.id = id := Table.key_of_find? hrow
    obtain rfl : (s.load row).1 = user := Option.some.inj h
    refine ⟨(s.load_id row).trans hid, ?_, ?_⟩
    · intro account haccount
      simp [load, hid, haccount]
    · rw [← hid]
      change (s.load row).2.identity row.id = some (s.load row).1
      unfold load
      split
      · assumption
      · simp

theorem loadUser_eq_none : (loadUser id db s).1 = none ↔ db.users.find? id = none := by
  unfold loadUser
  cases db.users.find? id <;> simp

/-- What a statement that does not write the balance of a user does to their entry
in the identity map. -/
theorem identity_answer
    (hop : ∀ balance, setBalance user balance ∉ op.writes) (db : Database) (s : Session) :
    (op.answer db s).2.identity user = s.identity user ∨
      (s.identity user = none ∧ (op.answer db s).2.identity user = db.users.find? user) := by
  have hload : ∀ id, (loadUser id db s).2.identity user = s.identity user ∨
      (s.identity user = none ∧ (loadUser id db s).2.identity user = db.users.find? user) := by
    intro id
    unfold loadUser
    split
    · exact .inl rfl
    · rename_i row hrow
      rcases s.identity_load_cases row user with hsame | ⟨hnone, rfl, hnew⟩
      · exact .inl hsame
      · have hid : row.id = id := Table.key_of_find? hrow
        exact .inr ⟨hnone, by rw [hnew, hid, hrow]⟩
  cases op with
  | getUser id => exact hload id
  | lockUser id => exact hload id
  | write w =>
    cases w with
    | setBalance owner balance =>
      have hne : user ≠ owner := fun heq => hop balance (by simp [Stmt.writes, heq])
      exact .inl (by simp [Stmt.answer, refresh, hne])
    | _ => exact .inl rfl
  | _ => exact .inl rfl

/-! ## The protocol -/

/-- What an open transaction knows about the ledger of a user. While it does not
hold the row it has not touched balance or ledger; once it holds it, the balance it
sees is the committed one plus its own rows plus `pending`, an amount it has written
to the balance and not yet to the ledger. -/
structure LedgerLocal (user : Uuid) (pending : Money) (t : Tx engine) (c : Committed engine) :
    Prop where
  untouched : RowKey.user user ∉ t.keys → ∀ w ∈ t.writes, ¬ w.Concerns user
  granted : ∀ state, (RowKey.user user, state) ∈ t.held →
    Database.SameRow (.user user) state c.state
  posted : RowKey.user user ∈ t.keys → ∃ before holder, c.state.users.find? user = some before ∧
    (t.view c.state).users.find? user = some holder ∧
    holder.balance = before.balance + total (ownRows user t.writes) + pending ∧
    RowsPosted before.balance (ownRows user t.writes) ∧
    ∀ loaded, t.session.identity user = some loaded → loaded = holder
  covered : ∀ row ∈ ownRows user t.writes, row.type ∈ debitTypes → 0 ≤ row.balanceAfter

/-- A lock on the user row is granted on the row that the session has loaded, if it
has loaded one. -/
def FreshGrant (user : Uuid) (op : Stmt) (t : Tx engine) (c : Committed engine) : Prop :=
  op = .lockUser user → RowKey.user user ∉ t.keys →
    ∀ loaded, t.session.identity user = some loaded → c.state.users.find? user = some loaded

instance (user : Uuid) (op : Stmt) (t : Tx engine) (c : Committed engine) :
    Decidable (FreshGrant user op t c) :=
  match op with
  | .lockUser id =>
    match hloaded : t.session.identity user with
    | none => .isTrue fun _ _ loaded h => by simp [hloaded] at h
    | some loaded =>
      decidable_of_iff (id = user → RowKey.user user ∉ t.keys →
          c.state.users.find? user = some loaded)
        (by simp [FreshGrant, hloaded])
  | .now => .isTrue nofun
  | .uuid4 => .isTrue nofun
  | .query _ _ => .isTrue nofun
  | .getUser _ => .isTrue nofun
  | .lockOrder _ => .isTrue nofun
  | .write _ => .isTrue nofun
  | .expireOrders _ => .isTrue nofun
  | .createPayment _ => .isTrue nofun
  | .restoreKeys _ => .isTrue nofun

/-- A debit of a committed transaction was covered by the balance the lock was
granted on and the rows the transaction had added before. -/
def DebitsCovered (user : Uuid) (t : Tx engine) : Prop :=
  ∀ before row later, ownRows user t.writes = before ++ row :: later → row.type ∈ debitTypes →
    ∃ (granted : Database) (holder : User), (RowKey.user user, granted) ∈ t.held ∧
      granted.users.find? user = some holder ∧ -row.amount ≤ holder.balance + total before

/-- The books of a user: the balance is the opening balance plus the rows committed
since, and each of these rows records the balance it leaves. -/
def Books (start : Database) (user : Uuid) (opening : Money) (c : Committed engine) : Prop :=
  c.state = c.log.foldl Database.apply start ∧ ∃ holder, c.state.users.find? user = some holder ∧
      holder.balance = opening + total (ownRows user c.log) ∧
      RowsPosted opening (ownRows user c.log)

/-- What transactions promise each other about the ledger of a user. -/
def ledgerProtocol (start : Database) (user : Uuid) (opening : Money) : Protocol engine where
  Inv := Books start user opening
  Guar _ _ := True
  guard := FreshGrant user
  Done := DebitsCovered user
  guar_refl _ := trivial
  guar_trans _ _ := trivial

variable {start : Database} {user : Uuid} {opening pending : Money} {t : Tx engine}
  {c : Committed engine} {holder : User}

/-- Nobody else can change what the transaction knows. -/
theorem stable_ledgerLocal :
    (ledgerProtocol start user opening).Stable (LedgerLocal user pending) := by
  rintro t c later ⟨-, -, hsame⟩ h
  refine ⟨h.untouched, ?_, ?_, h.covered⟩
  · intro state hheld
    have hkey : RowKey.user user ∈ t.keys := mem_keys.mpr ⟨state, hheld⟩
    exact sameRow_trans (h.granted state hheld) (hsame _ hkey).sameRow
  · intro hkey
    obtain ⟨before, holder, hbefore, hholder, hrest⟩ := h.posted hkey
    have hrow : Database.SameRow (.user user) c.state later.state := (hsame _ hkey).sameRow
    have hview : Database.SameRow (.user user) (t.view c.state) (t.view later.state) :=
      @view_sameRow engine (.user user) c.state later.state t hrow
    exact ⟨before, holder, hrow.symm.trans hbefore, hview.symm.trans hholder, hrest⟩

/-- A transaction at its start has touched nothing. -/
theorem ledgerLocal_start (session : Session) (c : Committed engine) :
    LedgerLocal user 0 (Tx.start session) c := by
  refine ⟨?_, ?_, ?_, ?_⟩ <;> simp [ownRows]

/-- The writes of an untouched transaction leave the user row as it is committed. -/
theorem LedgerLocal.view_users (h : LedgerLocal user pending t c)
    (hkey : RowKey.user user ∉ t.keys) :
    (t.view c.state).users.find? user = c.state.users.find? user :=
  users_foldl (setBalance_not_mem (h.untouched hkey)) c.state

/-- Among the statements that do not write the balance, only a locked read takes the
lock on the user row. -/
theorem eq_lockUser_of_mem_locks (hop : ∀ w ∈ op.writes, ¬ w.Concerns user)
    {db : Database} (h : RowKey.user user ∈ op.locks db) : op = .lockUser user := by
  cases op with
  | lockUser =>
    simp only [Stmt.locks] at h
    split at h
    · simpa [eq_comm] using h
    · simp at h
  | write w =>
    refine absurd h (user_not_mem_touches fun balance heq => ?_)
    exact hop w (by simp [Stmt.writes]) (by simp [heq, Concerns])
  | _ => simp [Stmt.locks] at h

/-- A statement that writes neither balance nor ledger of the user keeps the
knowledge. This is the place where a stale instance would do harm: the lock is
granted, and from then on the session answers with what it has loaded. -/
theorem LedgerLocal.after (h : LedgerLocal user pending t c) (hinv : Books start user opening c)
    (hop : ∀ w ∈ op.writes, ¬ w.Concerns user) (hguard : FreshGrant user op t c)
    (hpending : RowKey.user user ∈ t.keys ∨ pending = 0) :
    LedgerLocal user pending (t.after c op) c := by
  have hrows : ownRows user (t.after c op).writes = ownRows user t.writes := by
    rw [after_writes, ownRows_append, ownRows_eq_nil hop, append_nil]
  have husers : ((t.after c op).view c.state).users.find? user =
      (t.view c.state).users.find? user := by
    rw [view_after]
    exact users_foldl (setBalance_not_mem hop) _
  have hidentity := identity_answer (setBalance_not_mem hop) (t.view c.state) t.session
  refine ⟨?_, ?_, ?_, ?_⟩
  · intro hkey w hw
    rw [after_writes, mem_append] at hw
    rcases hw with hold | hnew
    · exact h.untouched (fun hmem => hkey (keys_subset_after hmem)) w hold
    · exact hop w hnew
  · intro state hheld
    simp only [Tx.after, mem_append, mem_map, Prod.mk.injEq] at hheld
    rcases hheld with hold | ⟨key, -, -, rfl⟩
    · exact h.granted state hold
    · exact sameRow_refl _ _
  · intro hkey
    rw [husers, hrows]
    by_cases hheld : RowKey.user user ∈ t.keys
    · obtain ⟨before, holder, hbefore, hholder, hbalance, hposted, hloaded⟩ := h.posted hheld
      refine ⟨before, holder, hbefore, hholder, hbalance, hposted, fun loaded hmap => ?_⟩
      rcases hidentity with hsame | ⟨-, hnew⟩
      · exact hloaded loaded (hsame ▸ hmap)
      · exact Option.mem_unique hmap (hnew.trans hholder)
    · have hlock : op = .lockUser user :=
        eq_lockUser_of_mem_locks hop ((mem_keys_after.mp hkey).resolve_left hheld)
      obtain ⟨-, before, hbefore, -⟩ := hinv
      have hview := (h.view_users hheld).trans hbefore
      have hnone := ownRows_eq_nil (h.untouched hheld)
      refine ⟨before, before, hbefore, hview, ?_, ?_, fun loaded hmap => ?_⟩
      · simp [hnone, total, hpending.resolve_left hheld]
      · simp [hnone, Posted]
      · rcases hidentity with hsame | ⟨-, hnew⟩
        · have hfresh := hguard hlock hheld loaded (hsame ▸ hmap)
          exact Option.mem_unique hfresh hbefore
        · exact Option.mem_unique hmap (hnew.trans hview)
  · rw [hrows]
    exact h.covered

/-- What the transaction knows is enough to commit. -/
theorem LedgerLocal.commitOk (hinv : Books start user opening c) (h : LedgerLocal user 0 t c) :
    (ledgerProtocol start user opening).CommitOk t c := by
  obtain ⟨hstate, before, hbefore, hbalance, hposted⟩ := hinv
  have hextend : (c.extend t.writes).state =
      (c.extend t.writes).log.foldl Database.apply start := by
    simp only [Committed.extend, foldl_append, ← hstate]
  by_cases hkey : RowKey.user user ∈ t.keys
  · obtain ⟨before', holder, hbefore', hholder, hown, hownPosted, -⟩ := h.posted hkey
    obtain rfl : before = before' := Option.mem_unique hbefore hbefore'
    refine ⟨⟨hextend, holder, hholder, ?_, ?_⟩, trivial, ?_⟩
    · rw [Committed.extend, ownRows_append, total_append, hown, hbalance]
      ring
    · rw [Committed.extend, ownRows_append]
      refine posted_append.mpr ⟨hposted, ?_⟩
      change RowsPosted (opening + total (ownRows user c.log)) _
      rw [← hbalance]
      exact hownPosted
    · intro earlier row later hrows htype
      obtain ⟨state, hheld⟩ := mem_keys.mp hkey
      have hgranted : state.users.find? user = some before := (h.granted state hheld).trans hbefore
      refine ⟨state, before, hheld, hgranted, ?_⟩
      have hafter := hownPosted.total hrows
      have hcovered := h.covered row (by simp [hrows]) htype
      rw [hafter, map_append, sum_append] at hcovered
      simp only [map_cons, map_nil, sum_cons, sum_nil, add_zero] at hcovered
      unfold total
      linarith
  · have hnone := ownRows_eq_nil (h.untouched hkey)
    have hview := (h.view_users hkey).trans hbefore
    refine ⟨⟨hextend, before, hview, ?_, ?_⟩, trivial, ?_⟩
    · rw [Committed.extend, ownRows_append, hnone, append_nil, hbalance]
    · rw [Committed.extend, ownRows_append, hnone, append_nil]
      exact hposted
    · intro earlier row later hrows
      simp [hnone] at hrows

/-! ## Posting -/

/-- The transaction holds the row of `holder` and would be answered with `holder`. -/
def Holds (holder : User) (t : Tx engine) : Prop :=
  RowKey.user holder.id ∈ t.keys ∧ t.session.identity holder.id = some holder

theorem Holds.after (h : Holds holder t)
    (hop : ∀ w ∈ op.writes, ¬ w.Concerns holder.id) : Holds holder (t.after c op) := by
  refine ⟨keys_subset_after h.1, ?_⟩
  rcases identity_answer (setBalance_not_mem hop) (t.view c.state) t.session with
    hsame | ⟨hnone, -⟩
  · exact hsame.trans h.2
  · rw [h.2] at hnone
    cases hnone

/-- Writing a new balance leaves the difference pending. -/
theorem LedgerLocal.setBalance (h : LedgerLocal user 0 t c) (hholds : Holds holder t)
    (hnew : newBalance = holder.balance + amount) (hinv : Books start user opening c) :
    LedgerLocal user (if holder.id = user then amount else 0)
        (t.after c (.write (.setBalance holder.id newBalance))) c ∧
      Holds { holder with balance := newBalance }
        (t.after c (.write (.setBalance holder.id newBalance))) := by
  have hkept : Holds { holder with balance := newBalance }
      (t.after c (.write (.setBalance holder.id newBalance))) :=
    ⟨keys_subset_after hholds.1, by simp [Stmt.answer, refresh, hholds.2]⟩
  refine ⟨?_, hkept⟩
  by_cases howner : holder.id = user
  · subst howner
    rw [if_pos rfl]
    obtain ⟨before, current, hbefore, hcurrent, hbalance, hposted, hloaded⟩ := h.posted hholds.1
    obtain rfl : holder = current := hloaded holder hholds.2
    have hrows : ownRows holder.id (t.after c (.write (.setBalance holder.id newBalance))).writes =
        ownRows holder.id t.writes := by
      simp [ownRows, Stmt.writes, transaction?]
    refine ⟨fun hkey => absurd hkept.1 hkey, ?_, fun _ => ?_, by rw [hrows]; exact h.covered⟩
    · intro state hheld
      simp only [Tx.after, Tx.needs, Stmt.locks, touches, mem_append, mem_map,
        mem_filter, mem_singleton, Prod.mk.injEq] at hheld
      rcases hheld with hold | ⟨key, -, -, rfl⟩
      · exact h.granted state hold
      · exact sameRow_refl _ _
    · refine ⟨before, { holder with balance := newBalance }, hbefore, ?_, ?_, ?_, ?_⟩
      · rw [view_after]
        simp [Stmt.writes, Database.apply, hcurrent]
      · rw [hrows, hnew, hbalance]
        ring
      · rw [hrows]
        exact hposted
      · intro loaded hmap
        exact Option.some.inj (hmap.symm.trans hkept.2)
  · rw [if_neg howner]
    refine h.after hinv ?_ ?_ (.inr rfl)
    · simpa [Stmt.writes, Concerns] using howner
    · intro hlock
      cases hlock

/-- Appending the ledger row settles the pending difference. -/
theorem LedgerLocal.insertTransaction
    (h : LedgerLocal user (if holder.id = user then row.amount else 0) t c)
    (hholds : Holds holder t) (howner : row.userId = holder.id)
    (hafter : row.balanceAfter = holder.balance)
    (hcovered : row.type ∈ debitTypes → 0 ≤ row.balanceAfter) (hinv : Books start user opening c) :
    LedgerLocal user 0 (t.after c (.write (.insertTransaction row))) c := by
  by_cases huser : holder.id = user
  · subst huser
    rw [if_pos rfl] at h
    obtain ⟨before, current, hbefore, hcurrent, hbalance, hposted, hloaded⟩ := h.posted hholds.1
    obtain rfl : holder = current := hloaded holder hholds.2
    have hrows : ownRows holder.id (t.after c (.write (.insertTransaction row))).writes =
        ownRows holder.id t.writes ++ [row] := by
      simp [ownRows, Stmt.writes, transaction?, howner]
    refine ⟨fun hkey => absurd (keys_subset_after hholds.1) hkey, ?_, fun _ => ?_, ?_⟩
    · intro state hheld
      simp only [Tx.after, Tx.needs, Stmt.locks, touches, filter_nil, map_nil, append_nil] at hheld
      exact h.granted state hheld
    · refine ⟨before, holder, hbefore, ?_, ?_, ?_, hloaded⟩
      · rw [view_after]
        exact hcurrent
      · rw [hrows, total_append, hbalance]
        simp [total]
        ring
      · rw [hrows]
        exact posted_concat.mpr ⟨hposted, by rw [hafter, hbalance]; rfl⟩
    · intro other hother
      rw [hrows, mem_append, mem_singleton] at hother
      rcases hother with hold | rfl
      · exact h.covered other hold
      · exact hcovered
  · rw [if_neg huser] at h
    refine h.after hinv ?_ ?_ (.inr rfl)
    · simpa [Stmt.writes, Concerns, howner] using huser
    · intro hlock
      cases hlock

end VpnControl.Billing

/-
# Requests on plain tables

A request that runs alone need not think of locks, of its own uncommitted writes or of
the instances its session has loaded: its statements can be read as operations on the
tables themselves. `direct` is that reading, and a request does what its direct reading
does. A method whose result matters, and not only its writes, is computed this way.
-/

import VpnControl.Billing.Ledger

namespace VpnControl.Billing

open Txn Database Session
open Tx

variable {α β : Type} {world : World} {t : Tx engine} {c : Committed engine}

/-! ## Coherent sessions -/

/-- The instances of the session are the rows its transaction sees, and what the
transaction has written it has locked. -/
structure Coherent (t : Tx engine) (c : Committed engine) : Prop where
  locked : t.WritesLocked
  loaded : ∀ id user, t.session.identity id = some user →
    (t.view c.state).users.find? id = some user

theorem coherent_start {session : Session} (hnew : ∀ id, session.identity id = none) :
    Coherent (Tx.start session) c where
  locked := writesLocked_start session
  loaded id user hloaded := by
    rw [start_session, hnew] at hloaded
    cases hloaded

/-- Running alone, a session stays coherent: loading a row takes what the
transaction sees, and writing a balance changes both. -/
theorem Coherent.after (h : Coherent t c) (op : Stmt) : Coherent (t.after c op) c := by
  refine ⟨h.locked.after c op, fun id user hloaded => ?_⟩
  rw [view_after]
  by_cases hwrite : ∃ balance, .setBalance id balance ∈ op.writes
  · obtain ⟨balance, hmem⟩ := hwrite
    cases op with
    | write w =>
      obtain rfl : Write.setBalance id balance = w := by simpa [Stmt.writes] using hmem
      simp only [after_session, Stmt.answer, refresh, if_true,
        Option.map_eq_some_iff] at hloaded
      obtain ⟨old, hold, rfl⟩ := hloaded
      simp [Stmt.writes, apply, h.loaded id old hold]
    | expireOrders => simp [Stmt.writes] at hmem
    | _ => simp [Stmt.writes] at hmem
  · have hnone : ∀ balance, .setBalance id balance ∉ op.writes :=
      fun balance hmem => hwrite ⟨balance, hmem⟩
    have hview : (op.writes.foldl apply (t.view c.state)).users.find? id =
        (t.view c.state).users.find? id := users_foldl hnone _
    refine hview.trans ?_
    rcases identity_answer hnone (t.view c.state) t.session with hsame | ⟨-, hnew⟩
    · exact h.loaded id user (hsame.symm.trans hloaded)
    · exact hnew.symm.trans hloaded

theorem Coherent.loadUser (h : Coherent t c) (id : Uuid) :
    (Stmt.loadUser id (t.view c.state) t.session).1 = (t.view c.state).users.find? id := by
  unfold Stmt.loadUser
  cases hrow : (t.view c.state).users.find? id with
  | none => rfl
  | some row =>
    have hid : row.id = id := Table.key_of_find? hrow
    cases hloaded : t.session.identity row.id with
    | none => simp [load, hloaded]
    | some loaded =>
      have hsame : loaded = row := by
        have hseen := h.loaded row.id loaded hloaded
        rw [hid, hrow] at hseen
        exact (Option.some.inj hseen).symm
      simp [load, hloaded, hsame]

/-! ## The direct reading -/

/-- The tables and the next identifier. -/
structure Store where
  db : Database
  nextUuid : Uuid

/-- A statement on the tables. -/
def Stmt.direct (world : World) : (op : Stmt) → Store → op.Reply × Store
  | now, s => (world.now, s)
  | uuid4, s => (s.nextUuid, { s with nextUuid := s.nextUuid + 1 })
  | query _ select, s => (select s.db, s)
  | getUser id, s => (s.db.users.find? id, s)
  | lockUser id, s => (s.db.users.find? id, s)
  | lockOrder ref, s => (ref.find? s.db, s)
  | write w, s => ((), { s with db := s.db.apply w })
  | expireOrders ids, s => ((), { s with db := (expireOrders ids).writes.foldl Database.apply s.db })
  | createPayment request, s => (world.payment request, s)
  | restoreKeys subscription, s => (world.restore subscription, s)

/-- A method on the tables. -/
def direct (world : World) : Service α → Store → Except BillingError α × Store
  | .ret value, s => (.ok value, s)
  | .raise error, s => (.error error, s)
  | .exec op next, s => direct world (next (op.direct world s).1) (op.direct world s).2

/-- The transaction sees the tables of the store, and its session is coherent with them. -/
structure Agrees (world : World) (t : Tx engine) (c : Committed engine) (s : Store) : Prop where
  coherent : Coherent t c
  view : t.view c.state = s.db
  nextUuid : t.session.nextUuid = s.nextUuid
  now : t.session.now = world.now
  payment : t.session.payment = world.payment
  restore : t.session.restore = world.restore

/-- The surroundings of a session do not change. -/
theorem surroundings_answer {op : Stmt} :
    (op.answer db s).2.now = s.now ∧ (op.answer db s).2.payment = s.payment ∧
      (op.answer db s).2.restore = s.restore := by
  have hload : ∀ id, (Stmt.loadUser id db s).2.now = s.now ∧
      (Stmt.loadUser id db s).2.payment = s.payment ∧
      (Stmt.loadUser id db s).2.restore = s.restore := by
    intro id
    unfold Stmt.loadUser load
    split
    · exact ⟨rfl, rfl, rfl⟩
    · dsimp only
      split <;> exact ⟨rfl, rfl, rfl⟩
  cases op with
  | getUser id => exact hload id
  | lockUser id => exact hload id
  | write w => cases w <;> exact ⟨rfl, rfl, rfl⟩
  | _ => exact ⟨rfl, rfl, rfl⟩

theorem Agrees.step (h : Agrees world t c s) (op : Stmt) :
    t.reply c op = (op.direct world s).1 ∧ Agrees world (t.after c op) c (op.direct world s).2 := by
  obtain ⟨hnow, hpayment, hrestore⟩ := surroundings_answer
  have hafter : ∀ s' : Store, op.writes.foldl apply s.db = s'.db →
      (op.answer (t.view c.state) t.session).2.nextUuid = s'.nextUuid →
      Agrees world (t.after c op) c s' := by
    intro s' hdb huuid
    refine ⟨h.coherent.after op, ?_, huuid, hnow.trans h.now, hpayment.trans h.payment,
      hrestore.trans h.restore⟩
    rw [view_after, h.view]
    exact hdb
  have hload : ∀ id, (Stmt.loadUser id (t.view c.state) t.session).2.nextUuid =
      t.session.nextUuid := by
    intro id
    unfold Stmt.loadUser load
    split
    · rfl
    · dsimp only
      split <;> rfl
  have hfind : ∀ id, (Stmt.loadUser id (t.view c.state) t.session).1 = s.db.users.find? id := by
    intro id
    rw [h.coherent.loadUser, h.view]
  cases op with
  | now => exact ⟨h.now, hafter s rfl h.nextUuid⟩
  | uuid4 => exact ⟨h.nextUuid, hafter _ rfl (congrArg (· + 1) h.nextUuid)⟩
  | query _ select => exact ⟨congrArg select h.view, hafter s rfl h.nextUuid⟩
  | getUser id => exact ⟨hfind id, hafter s rfl ((hload id).trans h.nextUuid)⟩
  | lockUser id => exact ⟨hfind id, hafter s rfl ((hload id).trans h.nextUuid)⟩
  | lockOrder ref => exact ⟨congrArg ref.find? h.view, hafter s rfl h.nextUuid⟩
  | write w => cases w <;> exact ⟨rfl, hafter _ rfl h.nextUuid⟩
  | expireOrders => exact ⟨rfl, hafter _ rfl h.nextUuid⟩
  | createPayment request => exact ⟨congrFun h.payment request, hafter s rfl h.nextUuid⟩
  | restoreKeys subscription => exact ⟨congrFun h.restore subscription, hafter s rfl h.nextUuid⟩

variable (p : Service α)

/-- A method that runs alone does what its direct reading does. -/
theorem Agrees.alone (h : Agrees world t c s) : (alone p t c).1 = (direct world p s).1 ∧
      Agrees world (Txn.alone p t c).2 c (direct world p s).2 := by
  induction p generalizing t s with
  | ret => exact ⟨rfl, h⟩
  | raise => exact ⟨rfl, h⟩
  | exec op _ ih =>
    obtain ⟨hreply, hafter⟩ := h.step op
    obtain ⟨hvalue, hagrees⟩ := ih (t.reply c op) hafter
    rw [hreply] at hvalue hagrees
    rw [Txn.alone, direct, hreply]
    exact ⟨hvalue, hagrees⟩

theorem agrees_start :
    Agrees world (Tx.start (new world.now uuid world.payment world.restore)) c
      ⟨c.state, uuid⟩ :=
  ⟨coherent_start fun _ => rfl, rfl, rfl, rfl, rfl, rfl⟩

/-- A request whose direct reading returns commits the tables that reading leaves. -/
theorem request_of_direct {p : Service α} (h : direct world p ⟨c.state, uuid⟩ = (.ok value, s)) :
    ∃ later, request p (new world.now uuid world.payment world.restore) c =
      (.ok value, later) ∧ later.state = s.db := by
  obtain ⟨hvalue, hagrees⟩ := agrees_start.alone p
  cases hrun : Txn.alone p (Tx.start (new world.now uuid world.payment world.restore)) c with
  | mk result done =>
    rw [hrun, h] at hvalue hagrees
    have hresult : result = .ok value := hvalue
    exact ⟨c.extend done.writes, by rw [request, hrun, hresult], hagrees.view⟩

/-! ## Evaluation -/

section

variable {s : Store} {id : Uuid}

theorem direct_bind (f : α → Service β) (s : Store) :
    direct world (p >>= f) s = match direct world p s with
      | (.ok value, s') => direct world (f value) s'
      | (.error error, s') => (.error error, s') := by
  induction p generalizing s with
  | ret => rfl
  | raise => rfl
  | exec _ _ ih => exact ih _ _

theorem direct_tryCatch (handler : BillingError → Service α) (s : Store) :
    direct world (p.tryCatch handler) s = match direct world p s with
      | (.ok value, s') => (.ok value, s')
      | (.error error, s') => direct world (handler error) s' := by
  induction p generalizing s with
  | ret => rfl
  | raise => rfl
  | exec _ _ ih => exact ih _ _

@[simp]
theorem direct_pure : direct world (pure value) s = (.ok value, s) := rfl

@[simp]
theorem direct_raise : direct world (raise error : Service α) s = (.error error, s) := rfl

@[simp]
theorem direct_select (query : Database → α) :
    direct world (select query) s = (.ok (query s.db), s) := rfl

@[simp]
theorem direct_datetimeNow : direct world datetimeNow s = (.ok world.now, s) := rfl

@[simp]
theorem direct_uuid4 :
    direct world uuid4 s = (.ok s.nextUuid, { s with nextUuid := s.nextUuid + 1 }) := rfl

@[simp]
theorem direct_execute : direct world (execute w) s = (.ok (), { s with db := s.db.apply w }) := rfl

@[simp]
theorem direct_getUser : direct world (getUser id) s = (.ok (s.db.users.find? id), s) := rfl

@[simp]
theorem direct_lockUser : direct world (lockUser id) s = (.ok (s.db.users.find? id), s) := rfl

@[simp]
theorem direct_lockOrder : direct world (lockOrder ref) s = (.ok (ref.find? s.db), s) := rfl

@[simp]
theorem direct_createPayment {request : PaymentRequest} :
    direct world (createPayment request) s = (.ok (world.payment request), s) := rfl

@[simp]
theorem direct_restoreKeys :
    direct world (restoreKeys subscription) s = (.ok (world.restore subscription), s) := rfl

theorem direct_select_bind (query : Database → α) (f : α → Service β) :
    direct world (select query >>= f) s = direct world (f (query s.db)) s := rfl

theorem direct_datetimeNow_bind (f : Time → Service β) :
    direct world (datetimeNow >>= f) s = direct world (f world.now) s := rfl

theorem direct_uuid4_bind (f : Uuid → Service β) : direct world (uuid4 >>= f) s =
      direct world (f s.nextUuid) { s with nextUuid := s.nextUuid + 1 } := rfl

theorem direct_getUser_bind (f : Option User → Service β) :
    direct world (getUser id >>= f) s = direct world (f (s.db.users.find? id)) s := rfl

theorem direct_lockUser_bind (f : Option User → Service β) :
    direct world (lockUser id >>= f) s = direct world (f (s.db.users.find? id)) s := rfl

theorem direct_execute_bind (f : Unit → Service β) :
    direct world (execute w >>= f) s = direct world (f ()) { s with db := s.db.apply w } := rfl

end

end VpnControl.Billing

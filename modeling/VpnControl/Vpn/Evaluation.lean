/-
# Running a request alone

A request that runs alone reads its statements as operations on the tables and on Redis. The
lemmas here evaluate one statement each; together they are the rules by which a method is
computed. A method of billing that is called from here does what it does in billing, and
leaves the other tables and Redis alone.
-/

import VpnControl.Vpn.Service

namespace VpnControl.Vpn

open Txn Shared
open Billing (Uuid Time)
open Table

variable {α β : Type} {s : beside.Point} (key : RedisKey)

theorem Database.id_of_subscription? {db : Database}
    (h : db.subscription? sub = some row) : row.id = sub := by
  obtain ⟨columns, hcolumns, hjoin⟩ := Option.bind_eq_some_iff.mp h
  obtain ⟨billing, hbilling, rfl⟩ := Option.map_eq_some_iff.mp hjoin
  exact (key_of_find? hbilling).trans (key_of_find? hcolumns)

theorem Database.find?_of_subscription? {db : Database} (h : db.subscription? sub = some row) :
    db.billing.subscriptions.find? sub = some row.toSubscription := by
  obtain ⟨columns, hcolumns, hjoin⟩ := Option.bind_eq_some_iff.mp h
  obtain ⟨billing, hbilling, rfl⟩ := Option.map_eq_some_iff.mp hjoin
  have hid : columns.id = sub := key_of_find? hcolumns
  exact hid ▸ hbilling

/-- The loaded key of an identifier is the one in the table. -/
theorem Database.find?_keysByIds (db : Database) {id : Uuid} (h : id ∈ ids) :
    (db.keysByIds ids).find? (fun key => key.id = id) = db.keys.find? id := by
  rw [Database.keysByIds, List.find?_filter]
  refine congrArg (db.keys.rows.find? ·) ?_
  funext key
  by_cases hid : key.id = id
  · simp [hid, h, Row.key]
  · simp [hid, Row.key]

/-! ## One statement -/

@[simp]
theorem run_select (query : Database → α) (f : α → Service β) (s : beside.Point) :
    run (select query >>= f) s = run (f (query s.db)) s := rfl

@[simp]
theorem run_execute (w : Write) (f : Unit → Service β) (s : beside.Point) :
    run (execute w >>= f) s = run (f ()) { s with db := s.db.apply w } := rfl

@[simp]
theorem run_datetimeNow (f : Time → Service β) (s : beside.Point) :
    run (datetimeNow >>= f) s = run (f s.session.billing.now) s := rfl

@[simp]
theorem run_smembers {f : List RedisKey → Service β} :
    run (redis (.smembers key) >>= f) s = run (f (s.store.redis.members s.store.now key)) s := rfl

@[simp]
theorem run_raised : run (raise error : Service α) s = (.error error, s) := rfl

/-- Invalidating the cache is a matter of Redis. -/
theorem run_invalidate (tokenHash : String) (f : Unit → Service β) (s : beside.Point) :
    ∃ store, run (invalidatePayloadCacheByTokenHash tokenHash >>= f) s =
      run (f ()) { s with store := store } := by
  unfold invalidatePayloadCacheByTokenHash
  rw [bind_assoc, run_smembers]
  dsimp only
  split
  · exact ⟨_, rfl⟩
  · exact ⟨_, rfl⟩

/-! ## Methods of billing -/

/-- The point with another session and other tables of billing. -/
def withBilling (s : beside.Point) (session : Billing.Session) (db : Billing.Database) :
    beside.Point :=
  { s with
    session := { s.session with billing := session }
    db := { s.db with billing := db } }

theorem foldl_billing {ws : List Billing.Write} (db : Database) :
    (ws.map Write.billing).foldl Database.apply db =
      { db with billing := ws.foldl Billing.Database.apply db.billing } := by
  induction ws generalizing db with
  | nil => rfl
  | cons w _ ih => exact ih (db.apply (.billing w))

/-- A statement of billing. -/
theorem after_billing (s : beside.Point) (op : Billing.Stmt) :
    s.after (.billing op) = withBilling s (op.answer s.db.billing s.session.billing).2
      (op.writes.foldl Billing.Database.apply s.db.billing) :=
  congrArg (fun db => ({ s with
    session := { s.session with billing := (op.answer s.db.billing s.session.billing).2 }
    db := db } : beside.Point)) (foldl_billing s.db)

/-- A method of billing does what it does in billing. -/
theorem run_ofBilling (p : Billing.Service α) (s : beside.Point) (t : Tx Billing.engine)
    (c : Committed Billing.engine) (hview : t.view c.state = s.db.billing)
    (hsession : t.session = s.session.billing) :
    run (ofBilling p) s = ((alone p t c).1.mapError SubscriptionError.billing,
        withBilling s (alone p t c).2.session ((alone p t c).2.view c.state)) := by
  induction p generalizing s t with
  | ret =>
    rw [alone, hview, hsession]
    rfl
  | raise =>
    rw [alone, hview, hsession]
    rfl
  | exec op next ih =>
    have hreply : s.reply (.billing op) = t.reply c op := by
      rw [Tx.reply, hview, hsession]
      rfl
    have hview' : (t.after c op).view c.state = (s.after (.billing op)).db.billing := by
      rw [Tx.view_after, hview, after_billing]
      rfl
    have hsession' : (t.after c op).session = (s.after (.billing op)).session.billing := by
      rw [Tx.after_session, hview, hsession, after_billing]
      rfl
    have hnext := ih (t.reply c op) (s.after (.billing op)) (t.after c op) hview' hsession'
    rw [after_billing] at hnext
    have hexec : run (ofBilling (.exec op next)) s =
        run (ofBilling (next (s.reply (.billing op)))) (s.after (.billing op)) := rfl
    rw [hexec, hreply, after_billing]
    exact hnext

/-- A request of billing that commits changes the tables of billing as billing does, and nothing
else. -/
theorem request_ofBilling (h : request (ofBilling p) s = (.ok value, db, cache)) :
    ∃ c, Txn.request p s.session.billing ⟨s.db.billing, []⟩ = (.ok value, c) ∧
      db = { s.db with billing := c.state } := by
  have hrun := run_ofBilling p s (Tx.start s.session.billing) ⟨s.db.billing, []⟩ rfl rfl
  unfold Shared.request at h
  rw [hrun] at h
  cases halone : alone p (Tx.start s.session.billing) ⟨s.db.billing, []⟩ with
  | mk result done =>
    rw [halone] at h
    cases result with
    | error => simp [Except.mapError] at h
    | ok =>
      simp only [Except.mapError, Prod.mk.injEq, Except.ok.injEq] at h
      obtain ⟨rfl, rfl, -⟩ := h
      exact ⟨Committed.extend ⟨s.db.billing, []⟩ done.writes, by simp [Txn.request, halone], rfl⟩

end VpnControl.Vpn

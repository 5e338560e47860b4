/-
# Purchases with their keys

`BillingService` calls `SubscriptionService.activate` when it extends a subscription, so that the
devices get their keys back. The tables of billing do not show this: there it is one statement,
`restoreKeys`. `withKeys` puts the method of the subscription service in its place.

`Purchased` says what a purchase that returns has done. The modules about access use that instead
of the code of billing.
-/

import VpnControl.Billing.DeviceLimits
import VpnControl.Vpn.Granting

namespace VpnControl.Vpn

open Txn Shared Table Triple
open Billing (Uuid Time days Plan PaymentOrder)
open Billing

variable {α β : Type}

/-- Carry out a statement of billing. -/
def handleBilling (cfg : Provisioning) : (op : Billing.Stmt) → Service op.Reply
  | .restoreKeys subscription => do
      match ← getSubscription subscription with
      | none => raise .notFound
      | some row => do
          let _ ← restoreKeys cfg row
          pure (.ok ())
  | op => Program.perform (S := engine.toSignature) (.billing op)

/-- A method of billing that restores keys as the subscription service does. -/
def withKeys (cfg : Provisioning) (p : Billing.Service α) : Service α :=
  p.interpret (handleBilling cfg) .billing

variable {p : Billing.Service α}

theorem withKeys_bind (f : α → Billing.Service β) :
    withKeys cfg (p >>= f) = withKeys cfg p >>= fun value => withKeys cfg (f value) :=
  Program.interpret_bind p f

/-! ## Statements that leave the subscriptions alone -/

/-- The tables are the same, up to those of billing. -/
def Database.OnlyBilling (db db' : Database) : Prop := db' = { db with billing := db'.billing }

theorem Database.OnlyBilling.trans {db : Database} (h : db.OnlyBilling db')
    (h' : db'.OnlyBilling db'') : db.OnlyBilling db'' := by
  unfold OnlyBilling at h h' ⊢
  rw [h', h]

/-- The write is not about subscriptions. -/
def SparesSubscriptions (w : Billing.Write) : Prop :=
  ∀ db : Billing.Database, (db.apply w).subscriptions = db.subscriptions

/-- The statement neither restores keys nor writes a subscription. -/
def Quiet (op : Billing.Stmt) : Prop :=
  (∀ subscription, op ≠ .restoreKeys subscription) ∧ ∀ w ∈ op.writes, SparesSubscriptions w

/-- The point differs from the first one in tables of billing other than the subscriptions. -/
structure Aside (first s : beside.Point) : Prop where
  tables : first.db.OnlyBilling s.db
  subscriptions : s.db.billing.subscriptions = first.db.billing.subscriptions
  nextUuid : first.session.billing.nextUuid ≤ s.session.billing.nextUuid

theorem Aside.refl (s : beside.Point) : Aside s s := ⟨rfl, rfl, le_refl _⟩

theorem Aside.after (h : Aside first s) (hop : Quiet op) : Aside first (s.after (.billing op)) := by
  have hdb : (s.after (.billing op)).db =
      { s.db with billing := op.writes.foldl Billing.Database.apply s.db.billing } := by
    rw [after_billing]
    rfl
  refine ⟨h.tables.trans ?_, ?_, h.nextUuid.trans (nextUuid_le_after s)⟩
  · rw [hdb]
    rfl
  · rw [hdb, ← h.subscriptions]
    exact Billing.Database.foldl_unchanged Billing.Database.subscriptions (fun w hw => hop.2 w hw)

/-- Every statement of the method is quiet. -/
def Quietly (p : Billing.Service α) : Prop := p.Every Quiet

variable {w : Billing.Write}

namespace Quietly

theorem bind {f : α → Billing.Service β} (hp : Quietly p) (hf : ∀ value, Quietly (f value)) :
    Quietly (p >>= f) :=
  Program.Every.bind hp hf

theorem perform {op : Billing.Stmt} (hwrites : op.writes = [])
    (hop : ∀ subscription, op ≠ .restoreKeys subscription) :
    Quietly (Program.perform (S := Billing.engine.toSignature) op) :=
  ⟨⟨hop, fun _ hw => absurd (hwrites ▸ hw) List.not_mem_nil⟩, fun _ => trivial⟩

theorem execute (h : SparesSubscriptions w) : Quietly (Billing.execute w) :=
  ⟨⟨nofun, fun _ hw => List.mem_singleton.mp hw ▸ h⟩, fun _ => trivial⟩

theorem recordTransaction (user : Uuid) (amount balance : Money)
    (type : TransactionType) (order : Option Uuid) (description : Option String) :
    Quietly (Billing.recordTransaction user amount balance type order description) :=
  bind (perform rfl nofun) fun _ => execute fun _ => rfl

end Quietly

theorem triple_quiet (hp : Quietly p) :
    Triple (Aside first) (withKeys cfg p) fun _ => Aside first := by
  have hevery : (withKeys cfg p).Every fun op : Stmt => ∃ inner, op = .billing inner ∧ Quiet inner := by
    refine Program.every_interpret hp fun op hop => ?_
    cases op with
    | restoreKeys subscription => exact absurd rfl (hop.1 subscription)
    | _ => exact ⟨⟨_, rfl, hop⟩, fun _ => trivial⟩
  refine frame hevery ?_
  rintro op ⟨inner, rfl, hquiet⟩ s hs
  exact hs.after hquiet

/-! ## What a purchase does -/

/-- The row of a subscription that a purchase has extended and opened. -/
def extendedRow (existing : Billing.Subscription) (planChanged : Bool) (plan : Plan)
    (order : PaymentOrder) (now : Time) : Billing.Subscription :=
  SubscriptionInternalUpdate.set { isActive := some true }
    ((extensionPatch existing planChanged plan order now).set existing)

/-- The plan that was bought is the plan of the subscription. -/
theorem planId_extendedRow {db : Billing.Database}
    (h : db.purchaseTarget user plan order = some (existing, planChanged)) :
    (extendedRow existing planChanged plan order now).planId = some plan.id := by
  cases planChanged with
  | true => rfl
  | false =>
    have hplan := planId_of_purchaseTarget h
    have hpatch : (extensionPatch existing false plan order now).planId = none := by
      unfold extensionPatch
      dsimp only
      rw [if_neg (by decide)]
      split <;> rfl
    change (none : Option Uuid).or ((extensionPatch existing false plan order now).planId.or
      existing.planId) = _
    rw [hpatch, hplan]
    rfl

/-- What `_auto_purchase` has made of the tables when it returns. -/
inductive Purchased (cfg : Provisioning) (user : Uuid) (plan : Plan) (order : PaymentOrder)
    (now : Time) (s done : beside.Point) : Prop
  /-- The balance does not cover the price. -/
  | unpaid (hpoor : ∀ holder ∈ (Billing.Stmt.loadUser user s.db.billing s.session.billing).1,
      holder.balance < order.amountRub) (h : Aside s done)
  | created (htarget : s.db.billing.purchaseTarget user plan order = none)
      (htables : s.db.OnlyBilling done.db) (row : Billing.Subscription)
      (hnew : s.session.billing.nextUuid ≤ row.id)
      (hnext : s.session.billing.nextUuid ≤ done.session.billing.nextUuid)
      (hsubs : done.db.billing.subscriptions = s.db.billing.subscriptions.insert row)
  /-- The subscription is extended and opened, then its devices get their keys back. -/
  | extended {existing : Billing.Subscription} {planChanged : Bool}
      (htarget : s.db.billing.purchaseTarget user plan order = some (existing, planChanged))
      {mid : beside.Point} (htables : s.db.OnlyBilling mid.db)
      (hnext : s.session.billing.nextUuid ≤ mid.session.billing.nextUuid)
      (hself : mid.db.billing.subscriptions.find? existing.id =
        some (extendedRow existing planChanged plan order now))
      (hother : ∀ id, id ≠ existing.id → mid.db.billing.subscriptions.find? id =
        s.db.billing.subscriptions.find? id)
      {row : Subscription} (hrow : mid.db.subscription? existing.id = some row) {restored : ℕ}
      (hrun : run (restoreKeys cfg row) mid = (.ok restored, done))

variable {s : beside.Point}

section Purchase

variable {cfg : Provisioning} {first : beside.Point} {user : Uuid} {plan : Plan}
  {order : PaymentOrder} {now : Time} {id : Uuid}

@[simp]
theorem run_withKeys_select (query : Billing.Database → α) (f : α → Billing.Service β) :
    run (withKeys cfg (Billing.select query >>= f)) s =
      run (withKeys cfg (f (query s.db.billing))) s := rfl

theorem run_withKeys_renewalTarget : run (withKeys cfg (renewalTarget user plan order)) s =
      (.ok (s.db.billing.renewalTarget user plan order), s) := by
  unfold renewalTarget Billing.Database.renewalTarget
  cases order.subscriptionId with
  | none => rfl
  | some id =>
    dsimp only
    by_cases htype : order.orderType = .subscriptionRenewal
    · simp only [htype, ne_eq, not_true_eq_false, if_false, Billing.getSubscription,
        run_withKeys_select]
      cases s.db.billing.subscriptions.find? id with
      | none => rfl
      | some existing =>
        by_cases howner : existing.userId = user <;>
          by_cases hplan : existing.planId = some plan.id <;>
            simp only [howner, hplan, Option.filter] <;> rfl
    · simp only [htype, ne_eq, not_false_eq_true, if_true]
      rfl

theorem run_withKeys_purchaseTarget : run (withKeys cfg (purchaseTarget user plan order)) s =
      (.ok (s.db.billing.purchaseTarget user plan order), s) := by
  unfold purchaseTarget Billing.Database.purchaseTarget
  rw [withKeys_bind, run_bind, run_withKeys_renewalTarget]
  cases s.db.billing.renewalTarget user plan order with
  | some => rfl
  | none =>
    simp only [run_withKeys_select]
    cases s.db.billing.activeSubscriptionForPlan user plan.id with
    | some => rfl
    | none =>
      simp only [run_withKeys_select]
      cases s.db.billing.latestSubscription user <;> rfl

/-- The point after a write of billing. -/
def written (s : beside.Point) (w : Billing.Write) : beside.Point :=
  s.after (.billing (.write w))

@[simp]
theorem run_withKeys_execute (f : Unit → Billing.Service β) :
    run (withKeys cfg (Billing.execute w >>= f)) s = run (withKeys cfg (f ())) (written s w) := rfl

theorem run_withKeys_restoreKeys (f : Except BillingError Unit → Billing.Service β) :
    run (withKeys cfg (Billing.restoreKeys id >>= f)) s =
      run (handleBilling cfg (.restoreKeys id) >>= fun reply => withKeys cfg (f reply)) s := by
  have hkeys : withKeys cfg (Billing.restoreKeys id) = handleBilling cfg (.restoreKeys id) :=
    Program.interpret_perform _
  rw [withKeys_bind, hkeys]

theorem nextUuid_written : s.session.billing.nextUuid ≤ (written s w).session.billing.nextUuid :=
  nextUuid_le_after s

/-- Opening a subscription is an update, and then its devices get their keys back. -/
theorem exists_of_run_activate
    (hrun : run (withKeys cfg (Billing.activate id)) s = (.ok value, done)) :
    ∃ row restored, (written s (.updateSubscription id { isActive := some true })).db.subscription?
        id = some row ∧
      run (restoreKeys cfg row) (written s (.updateSubscription id { isActive := some true })) =
        (.ok restored, done) := by
  unfold Billing.activate at hrun
  simp only [Billing.getSubscription, run_withKeys_select] at hrun
  cases hfound : s.db.billing.subscriptions.find? id with
  | none =>
    rw [hfound] at hrun
    cases hrun
  | some sub =>
    obtain rfl : sub.id = id := key_of_find? hfound
    rw [hfound] at hrun
    simp only [updateSubscription, run_withKeys_execute, run_withKeys_restoreKeys,
      handleBilling, getSubscription, bind_assoc, run_select] at hrun
    generalize hmid : written s (.updateSubscription sub.id { isActive := some true }) = mid at *
    cases hrow : mid.db.subscription? sub.id with
    | none =>
      rw [hrow] at hrun
      cases hrun
    | some row =>
      rw [hrow] at hrun
      simp only [bind_assoc, pure_bind] at hrun
      obtain ⟨restored, last, hkeys, hrest⟩ := exists_of_run_bind hrun
      cases hrest
      exact ⟨row, restored, rfl, hkeys⟩

theorem triple_extendSubscription
    (htarget : first.db.billing.purchaseTarget user plan order = some (existing, planChanged)) :
    Triple (Aside first)
      (withKeys cfg (Billing.extendSubscription existing planChanged plan order now))
      fun _ => Purchased cfg user plan order now first := by
  intro s hs value done hrun
  change run (withKeys cfg (Billing.activate existing.id)) (written (written s
    (.updateSubscription existing.id (extensionPatch existing planChanged plan order now)))
    (.updateOrder order.id { subscriptionId := some existing.id })) = (.ok value, done) at hrun
  obtain ⟨row, restored, hrow, hkeys⟩ := exists_of_run_activate hrun
  have htables : first.db.OnlyBilling (written (written (written s (.updateSubscription existing.id
      (extensionPatch existing planChanged plan order now)))
      (.updateOrder order.id { subscriptionId := some existing.id }))
      (.updateSubscription existing.id { isActive := some true })).db := hs.tables.trans rfl
  have hfound : s.db.billing.subscriptions.find? existing.id = some existing :=
    hs.subscriptions ▸ (find?_of_purchaseTarget htarget).2
  refine .extended htarget htables ?_ ?_ ?_ hrow hkeys
  · exact hs.nextUuid.trans (nextUuid_written.trans (nextUuid_written.trans nextUuid_written))
  · have hfirst : (s.db.billing.subscriptions.modify existing.id
        (extensionPatch existing planChanged plan order now).set fun _ => rfl).find?
          existing.id = some ((extensionPatch existing planChanged plan order now).set existing) :=
      (find?_modify_self _ _).trans (congrArg (Option.map _) hfound)
    exact (find?_modify_self
      (SubscriptionInternalUpdate.set { isActive := some true }) fun _ => rfl).trans
        (congrArg (Option.map _) hfirst)
  · intro id hne
    rw [← hs.subscriptions]
    refine (find?_modify_of_ne
      (SubscriptionInternalUpdate.set { isActive := some true }) (fun _ => rfl) hne).trans ?_
    exact find?_modify_of_ne
      (extensionPatch existing planChanged plan order now).set (fun _ => rfl) hne

theorem triple_createPurchased (htarget : first.db.billing.purchaseTarget user plan order = none) :
    Triple (Aside first) (withKeys cfg (createPurchased user plan order now))
      fun _ => Purchased cfg user plan order now first := by
  intro s hs value done hrun
  unfold createPurchased createSubscriptionRow at hrun
  split at hrun
  · cases hrun
  · cases hrun
    refine .created htarget (hs.tables.trans rfl) ((purchasedSubscription user plan order now).row
      s.session.billing.nextUuid) hs.nextUuid (hs.nextUuid.trans (Nat.le_succ _)) ?_
    rw [← hs.subscriptions]
    rfl

/-- A purchase that runs alone. -/
theorem triple_autoPurchase :
    Triple (fun s => s = first) (withKeys cfg (autoPurchase user plan order now strict))
      fun _ => Purchased cfg user plan order now first := by
  unfold autoPurchase payFromBalance
  rw [withKeys_bind]
  have hlock : Triple (fun s => s = first) (withKeys cfg (lockUser user))
      fun found s => Aside first s ∧
        (Billing.Stmt.loadUser user first.db.billing first.session.billing).1 = found := by
    rintro s rfl found done hrun
    cases hrun
    exact ⟨(Aside.refl s).after ⟨nofun, fun _ hw => absurd hw List.not_mem_nil⟩, rfl⟩
  refine bind hlock fun found => ?_
  have hunpaid : (∀ holder ∈ found, holder.balance < order.amountRub) →
      Triple (fun s => Aside first s ∧
          (Billing.Stmt.loadUser user first.db.billing first.session.billing).1 = found)
        (withKeys cfg (insufficientBalance strict))
        fun _ => Purchased cfg user plan order now first := by
    intro hpoor
    unfold insufficientBalance
    split
    · exact Triple.raise
    · exact Triple.pure fun s hs => .unpaid (hs.2 ▸ hpoor) hs.1
  cases found with
  | none => exact hunpaid nofun
  | some holder =>
    dsimp only
    split
    · rename_i hpoor
      exact hunpaid fun other hother => Option.some.inj hother ▸ hpoor
    · intro s hs
      obtain rfl : holder.id = user := (loadUser_eq_some hs.2).1
      rw [withKeys_bind]
      refine bind (triple_quiet (.execute fun _ => rfl)) (fun _ => ?_) s hs.1
      rw [withKeys_bind]
      refine bind (triple_quiet (.recordTransaction _ _ _ _ _ _)) fun _ => ?_
      intro s hs
      unfold deliverPlan
      rw [withKeys_bind]
      have hread := purchaseTarget_congr hs.subscriptions holder.id plan order
      intro value done hrun
      rw [run_bind, run_withKeys_purchaseTarget, hread] at hrun
      cases htarget : first.db.billing.purchaseTarget holder.id plan order with
      | none =>
        rw [htarget] at hrun
        exact triple_createPurchased htarget s hs value done hrun
      | some =>
        rw [htarget] at hrun
        exact triple_extendSubscription htarget s hs value done hrun

end Purchase

end VpnControl.Vpn

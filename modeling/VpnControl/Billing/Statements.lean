/-
# Statements and their effect

The SQL that billing issues, one constructor for each kind of statement, and the
session on whose behalf it is issued. Plain SELECTs are one constructor: a query
is a function of the tables. What needs a constructor of its own is what a query
cannot say, the row locks of `SELECT … FOR UPDATE`, the writes, and the loads of
user rows.

User rows are loaded through the identity map of the session. The first load of
a row puts an instance into the map; a later load of the same row, locked or not,
returns that instance with the attributes it already has. An `update()` of users
refreshes the instance.
-/

import VpnControl.Billing.Model
import VpnControl.Txn.Soundness

namespace VpnControl.Billing

open Txn Table
open Database

/-! ## Writes -/

/-- `OrderInternalUpdate.model_dump(exclude_none=True)`: the columns to set. -/
structure OrderInternalUpdate where
  status : Option OrderStatus := none
  paidAt : Option Time := none
  completedAt : Option Time := none
  subscriptionId : Option Uuid := none
  feeRub : Option Money := none
  netRub : Option Money := none
  deriving DecidableEq, Repr

def OrderInternalUpdate.set (patch : OrderInternalUpdate) (order : PaymentOrder) : PaymentOrder :=
  { order with
    status := patch.status.getD order.status
    paidAt := patch.paidAt.or order.paidAt
    completedAt := patch.completedAt.or order.completedAt
    subscriptionId := patch.subscriptionId.or order.subscriptionId
    feeRub := patch.feeRub.or order.feeRub
    netRub := patch.netRub.or order.netRub }

/-- `SubscriptionInternalUpdate.model_dump(exclude_none=True)`. -/
structure SubscriptionInternalUpdate where
  planId : Option Uuid := none
  isActive : Option Bool := none
  expiresAt : Option Time := none
  maxDevices : Option ℤ := none
  paidDeviceSlots : Option ℤ := none
  periodMonths : Option ℤ := none
  deriving DecidableEq, Repr

def SubscriptionInternalUpdate.set (patch : SubscriptionInternalUpdate) (sub : Subscription) :
    Subscription :=
  { sub with
    planId := patch.planId.or sub.planId
    isActive := patch.isActive.getD sub.isActive
    expiresAt := patch.expiresAt.or sub.expiresAt
    maxDevices := patch.maxDevices.or sub.maxDevices
    paidDeviceSlots := patch.paidDeviceSlots.getD sub.paidDeviceSlots
    periodMonths := patch.periodMonths.getD sub.periodMonths }

/-- What a reward stores on its referral. -/
structure ReferralReward where
  rewardAmount : Money
  referredRewardAmount : Money
  rewardedAt : Time
  deriving DecidableEq, Repr

def ReferralReward.set (reward : ReferralReward) (referral : Referral) : Referral :=
  { referral with
    status := .rewarded
    rewardAmount := reward.rewardAmount
    referredRewardAmount := reward.referredRewardAmount
    rewardedAt := some reward.rewardedAt }

/-- One changed or inserted row. -/
inductive Write
  | setBalance (user : Uuid) (balance : Money)
  | insertTransaction (row : BalanceTransaction)
  | insertOrder (row : PaymentOrder)
  | updateOrder (order : Uuid) (patch : OrderInternalUpdate)
  | insertSubscription (row : Subscription)
  | updateSubscription (subscription : Uuid) (patch : SubscriptionInternalUpdate)
  | insertActivation (row : PromoActivation)
  | incrementActivation (promo : Uuid)
  | updateReferral (referral : Uuid) (reward : ReferralReward)
  | updatePlan (plan : Plan)
  | insertMessage (row : SupportMessage)
  | touchTicket (ticket : Uuid) (now : Time)
  deriving DecidableEq, Repr

/-- The rows that statements lock. -/
inductive RowKey
  | user (id : Uuid)
  | order (id : Uuid)
  | subscription (id : Uuid)
  | promoCode (id : Uuid)
  | referral (id : Uuid)
  | plan (id : Uuid)
  | ticket (id : Uuid)
  deriving DecidableEq, Repr

def Write.touches : Write → List RowKey
  | setBalance user _ => [.user user]
  | insertTransaction _ => []
  | insertOrder row => [.order row.id]
  | updateOrder order _ => [.order order]
  | insertSubscription row => [.subscription row.id]
  | updateSubscription subscription _ => [.subscription subscription]
  | insertActivation _ => []
  | incrementActivation promo => [.promoCode promo]
  | updateReferral referral _ => [.referral referral]
  | updatePlan plan => [.plan plan.id]
  | insertMessage _ => []
  | touchTicket ticket _ => [.ticket ticket]

namespace Database

/-- Carry out one write. -/
def apply (db : Database) : Write → Database
  | .setBalance user balance =>
    { db with users := db.users.modify user ({ · with balance := balance }) fun _ => rfl }
  | .insertTransaction row => { db with transactions := db.transactions ++ [row] }
  | .insertOrder row => { db with orders := db.orders.insert row }
  | .updateOrder order patch =>
    { db with orders := db.orders.modify order patch.set fun _ => rfl }
  | .insertSubscription row => { db with subscriptions := db.subscriptions.insert row }
  | .updateSubscription subscription patch =>
    { db with subscriptions := db.subscriptions.modify subscription patch.set fun _ => rfl }
  | .insertActivation row => { db with activations := db.activations ++ [row] }
  | .incrementActivation promo =>
    { db with
      promoCodes := db.promoCodes.modify promo
        (fun code => { code with activationCount := code.activationCount + 1 }) fun _ => rfl }
  | .updateReferral referral reward =>
    { db with referrals := db.referrals.modify referral reward.set fun _ => rfl }
  | .updatePlan plan =>
    { db with
      plans := db.plans.modify plan.id (fun old => { plan with id := old.id }) fun _ => rfl }
  | .insertMessage row => { db with messages := db.messages ++ [row] }
  | .touchTicket ticket now =>
    { db with tickets := db.tickets.modify ticket ({ · with lastActivityAt := now }) fun _ => rfl }

/-- The row under a key is the same in both databases. -/
def SameRow : RowKey → Database → Database → Prop
  | .user id, first, second => first.users.find? id = second.users.find? id
  | .order id, first, second => first.orders.find? id = second.orders.find? id
  | .subscription id, first, second =>
    first.subscriptions.find? id = second.subscriptions.find? id
  | .promoCode id, first, second => first.promoCodes.find? id = second.promoCodes.find? id
  | .referral id, first, second => first.referrals.find? id = second.referrals.find? id
  | .plan id, first, second => first.plans.find? id = second.plans.find? id
  | .ticket id, first, second => first.tickets.find? id = second.tickets.find? id

theorem sameRow_refl (key : RowKey) (db : Database) : SameRow key db db := by
  cases key <;> rfl

theorem sameRow_trans (h : SameRow key first second) (h' : SameRow key second third) :
    SameRow key first third := by
  cases key <;> exact .trans h h'

end Database

namespace Database

/-- A write leaves the rows it does not touch alone. -/
theorem apply_frame {write : Write} (db : Database)
    (h : key ∉ write.touches) : SameRow key db (db.apply write) := by
  cases write <;> cases key <;>
    simp only [Write.touches, List.mem_singleton, RowKey.user.injEq, RowKey.order.injEq,
      RowKey.subscription.injEq, RowKey.promoCode.injEq, RowKey.referral.injEq,
      RowKey.plan.injEq, RowKey.ticket.injEq] at h <;>
    simp only [SameRow, apply]
  all_goals first
    | exact (find?_modify_of_ne _ _ h).symm
    | exact (find?_insert_of_ne h).symm

theorem apply_congr (write : Write)
    (h : SameRow key first second) : SameRow key (first.apply write) (second.apply write) := by
  cases write <;> cases key <;> simp only [SameRow, apply] at h ⊢ <;>
    first
    | exact h
    | exact find?_modify_congr _ _ h
    | exact find?_insert_congr h

end Database

/-! ## Sessions -/

/-- The arguments of `PaymentProvider.create_payment`. -/
structure PaymentRequest where
  provider : PaymentProvider
  orderId : Uuid
  amountRub : Money
  description : String
  paymentMethod : Option PlategaPaymentMethod
  deriving DecidableEq, Repr

/-- One database session and the world its request runs in: the clock, the random
identifiers, the payment gateways and the key placement of the VPN nodes. The
instances of the identity map keep their primary key. -/
structure Session where
  now : Time
  nextUuid : Uuid
  /-- The external id of the payment a gateway opens, or what it raises. -/
  payment : PaymentRequest → Except BillingError String
  /-- Whether the keys of a subscription can be restored. -/
  restore : Uuid → Except BillingError Unit
  identity : Uuid → Option User
  identity_id : ∀ id user, identity id = some user → user.id = id

namespace Session

/-- A session that has loaded nothing yet. -/
def new (now : Time) (nextUuid : Uuid) (payment : PaymentRequest → Except BillingError String)
    (restore : Uuid → Except BillingError Unit) : Session where
  now := now
  nextUuid := nextUuid
  payment := payment
  restore := restore
  identity _ := none
  identity_id := by simp

/-- The result row becomes an instance unless the session has one for its key. -/
def load (s : Session) (user : User) : User × Session :=
  match s.identity user.id with
  | some loaded => (loaded, s)
  | none => (user, { s with
      identity := fun id => if id = user.id then some user else s.identity id
      identity_id := by
        intro id other h
        split at h
        · rename_i hid
          rw [← Option.some.inj h, hid]
        · exact s.identity_id id other h })

/-- `update(User)` refreshes the instance. -/
def refresh (s : Session) (user : Uuid) (balance : Money) : Session :=
  { s with
    identity := fun id =>
      if id = user then (s.identity id).map ({ · with balance := balance }) else s.identity id
    identity_id := by
      intro id other h
      split at h
      · obtain ⟨old, hold, rfl⟩ := Option.map_eq_some_iff.mp h
        exact s.identity_id id old hold
      · exact s.identity_id id other h }

end Session

/-! ## Statements -/

/-- How an order is selected for update. -/
inductive OrderRef
  | byId (id : Uuid)
  | byExternalId (externalId : String)
  deriving DecidableEq, Repr

def OrderRef.find? (ref : OrderRef) (db : Database) : Option PaymentOrder :=
  match ref with
  | byId id => db.orders.find? id
  | byExternalId externalId => db.orders.rows.find? fun order => order.externalId = externalId

/-- What a service asks of its session. -/
inductive Stmt : Type 1
  /-- `datetime.now(timezone.utc)`. -/
  | now
  | uuid4
  | query (α : Type) (select : Database → α)
  | getUser (id : Uuid)
  /-- `SELECT … FROM user … FOR UPDATE`. -/
  | lockUser (id : Uuid)
  | lockOrder (ref : OrderRef)
  | write (w : Write)
  /-- `UPDATE payment_order SET status = 'expired' WHERE id IN (…)`. -/
  | expireOrders (ids : List Uuid)
  | createPayment (request : PaymentRequest)
  /-- Restore the VPN keys of a subscription. -/
  | restoreKeys (subscription : Uuid)

namespace Stmt

abbrev Reply : Stmt → Type
  | now => Time
  | uuid4 => Uuid
  | query α _ => α
  | getUser _ => Option User
  | lockUser _ => Option User
  | lockOrder _ => Option PaymentOrder
  | write _ => Unit
  | expireOrders _ => Unit
  | createPayment _ => Except BillingError String
  | restoreKeys _ => Except BillingError Unit

def writes : Stmt → List Write
  | write w => [w]
  | expireOrders ids => ids.map fun id => .updateOrder id { status := some .expired }
  | _ => []

def locks : Stmt → Database → List RowKey
  | lockUser id, db => if (db.users.find? id).isSome then [.user id] else []
  | lockOrder ref, db => ((ref.find? db).map fun order => RowKey.order order.id).toList
  | write w, _ => w.touches
  | expireOrders ids, _ => ids.map .order
  | _, _ => []

/-- Load a user row through the identity map. -/
def loadUser (id : Uuid) (db : Database) (s : Session) : Option User × Session :=
  match db.users.find? id with
  | none => (none, s)
  | some user => (some (s.load user).1, (s.load user).2)

def answer : (op : Stmt) → Database → Session → op.Reply × Session
  | now, _, s => (s.now, s)
  | uuid4, _, s => (s.nextUuid, { s with nextUuid := s.nextUuid + 1 })
  | query _ select, db, s => (select db, s)
  | getUser id, db, s => loadUser id db s
  | lockUser id, db, s => loadUser id db s
  | lockOrder ref, db, s => (ref.find? db, s)
  | write (.setBalance user balance), _, s => ((), s.refresh user balance)
  | write _, _, s => ((), s)
  | expireOrders _, _, s => ((), s)
  | createPayment request, _, s => (s.payment request, s)
  | restoreKeys subscription, _, s => (s.restore subscription, s)

end Stmt

/-- The billing database as an engine. -/
abbrev engine : Engine where
  Op := Stmt
  Reply := Stmt.Reply
  State := Database
  Session := Session
  Key := RowKey
  Write := Write
  decEqKey := inferInstance
  apply := Database.apply
  answer := Stmt.answer
  writes := Stmt.writes
  locks := Stmt.locks
  touches := Write.touches
  SameRow := Database.SameRow
  sameRow_refl := sameRow_refl
  sameRow_trans := sameRow_trans
  apply_frame := apply_frame
  apply_congr := apply_congr
  touches_locked := by
    intro op write key db hwrite hkey
    cases op <;> simp only [Stmt.writes, List.mem_singleton, List.mem_map, List.not_mem_nil]
      at hwrite
    · subst hwrite
      exact hkey
    · obtain ⟨id, hid, rfl⟩ := hwrite
      simp only [Write.touches, List.mem_singleton] at hkey
      exact List.mem_map.mpr ⟨id, hid, hkey.symm⟩

/-- A method of a service. -/
abbrev Service (α : Type) := Program engine.toSignature BillingError α

end VpnControl.Billing

/-
# Operations

The remaining writers of the billing tables, the refund button of the support desk
and the two reconcilers, and what can happen to the database one request after the
other. An operation commits when it returns and leaves nothing when it raises.
-/

import VpnControl.Billing.Service

namespace VpnControl.Billing

open Txn

/-! ## Support -/

/-- A decimal with its two digits after the point. -/
def moneyText (amount : Money) : String :=
  let cents := ⌊|amount| * 100⌋.toNat
  let sign := if amount < 0 then "-" else ""
  let fraction := cents % 100
  s!"{sign}{cents / 100}." ++ (if fraction < 10 then s!"0{fraction}" else s!"{fraction}")

/-- `SupportService.refund_last_order`. -/
def refundLastOrder (ticketId : Uuid) (actorAdminId : Option Uuid) : Service Unit := do
  match ← select (·.tickets.find? ticketId) with
  | none => raise (.ticketNotFound s!"{ticketId}")
  | some ticket => do
      match ← select (·.lastPaidOrder ticket.userId) with
      | none => raise (.supportActionFailed "У пользователя нет оплаченных заказов")
      | some order => do
          match ← getUser ticket.userId with
          | none => raise (.supportActionFailed "Пользователь не найден")
          | some user => do
              updateUserBalance user.id (user.balance + order.amountRub)
              updateOrder order.id { status := some .refunded }
              recordTransaction user.id order.amountRub (user.balance + order.amountRub) .refund
                (some order.id) (some s!"Возврат по заказу {order.id} (тикет {ticketId})")
              execute (.insertMessage
                { ticketId := ticketId
                  senderAdminId := actorAdminId
                  body := s!"Возврат {moneyText order.amountRub} ₽ зачислен на баланс " ++
                    "пользователя" })
              let now ← datetimeNow
              execute (.touchTicket ticket.id now)

/-- `SupportService.grant_day`. -/
def grantDay (ticketId : Uuid) (actorAdminId : Option Uuid) : Service Unit := do
  match ← select (·.tickets.find? ticketId) with
  | none => raise (.ticketNotFound s!"{ticketId}")
  | some ticket => do
      match ← select (·.latestSubscription ticket.userId) with
      | none => raise (.supportActionFailed "У пользователя нет активной подписки")
      | some subscription =>
        match subscription.expiresAt with
        | none => raise (.supportActionFailed "У пользователя нет активной подписки")
        | some expiresAt => do
            let now ← datetimeNow
            let base := if now < expiresAt then expiresAt else now
            updateSubscription subscription.id { expiresAt := some (base + days 1) }
            execute (.insertMessage
              { ticketId := ticketId
                senderAdminId := actorAdminId
                body := "Подписка продлена на 1 день оператором" })
            execute (.touchTicket ticket.id now)

/-! ## Reconcilers -/

/-- `OrderRepository.bulk_expire_pending`. -/
def bulkExpirePending (now : Time) (limit : ℕ) : Service ℕ := do
  let ids ← select (·.expiredPendingOrders now limit)
  if ids = [] then pure 0
  else do
    Program.perform (S := engine.toSignature) (.expireOrders ids)
    pure ids.length

variable (cfg : Settings)

/-- `BillingOrderExpirationReconciler.tick`. It commits only if it expired
something; otherwise there is nothing to commit. -/
def expirationTick : Service ℕ := do
  let now ← datetimeNow
  bulkExpirePending now (max 1 cfg.billing.expirationBatchSize).toNat

/-- The parameters of `AutoRenewReconciler`. -/
structure AutoRenewConfig where
  windowSec : ℤ := 24 * 3600
  retryGraceSec : ℤ := 3 * 24 * 3600
  batchSize : ℕ := 200
  batchSize_pos : 1 ≤ batchSize := by decide
  deriving DecidableEq, Repr

/-- The subscriptions a tick selects. -/
def AutoRenewConfig.due (renew : AutoRenewConfig) (db : Database) (now : Time) :
    List Subscription :=
  db.dueAutoRenew now (now + seconds renew.windowSec) (now - seconds renew.retryGraceSec)
    renew.batchSize

variable (sub : Subscription)

/-- The order of a renewal: the plan of the subscription once more, from the balance. -/
def renewalRequest (planId : Uuid)
    (hperiod : sub.periodMonths ∈ allowedPeriodMonths) : OrderCreateIn where
  userId := sub.userId
  planId := some planId
  provider := .balance
  orderType := .planPurchase
  periodMonths := sub.periodMonths
  subscriptionId := some sub.id
  validatePeriod := hperiod

/-- Preview, check the balance, and order the renewal. -/
def chargeRenewal (planId : Uuid)
    (hperiod : sub.periodMonths ∈ allowedPeriodMonths) : Service Bool := do
  let preview ← previewOrderAmount sub.userId planId sub.periodMonths
  match ← getUser sub.userId with
  | none => pure false
  | some user =>
    if user.balance < preview.amountDue then pure false
    else do
      let _ ← createOrder cfg (renewalRequest sub planId hperiod)
      pure true

/-- `AutoRenewReconciler._renew_one`. The request is refused by its validator when
the period of the subscription is none of the allowed ones; that and every other
exception counts as a failed renewal. -/
def renewOne : Service Bool :=
  match sub.planId with
  | none => pure false
  | some planId =>
    if hperiod : sub.periodMonths ∈ allowedPeriodMonths then
      (chargeRenewal cfg sub planId hperiod).tryCatch fun _ => pure false
    else pure false

/-- One turn of the loop of `tick`: a subscription gets a session of its own, and that
session is not committed. -/
def renewTurn (sessions : ℕ → Session) :
    ℕ × Committed engine → Subscription × ℕ → ℕ × Committed engine
  | (renewed, c), (sub, i) =>
    match abandon (renewOne cfg sub) (sessions i) c with
    | (.ok true, later) => (renewed + 1, later)
    | (_, later) => (renewed, later)

/-- `AutoRenewReconciler.tick`. -/
def autoRenewTick (renew : AutoRenewConfig) (now : Time)
    (sessions : ℕ → Session) (c : Committed engine) : ℕ × Committed engine :=
  (renew.due c.state now).zipIdx.foldl (renewTurn cfg sessions) (0, c)

/-! ## One request after the other -/

/-- What can be asked of billing. -/
inductive Operation
  | createOrder (data : OrderCreateIn)
  | processWebhook (providerName : String) (request : Request)
  | confirmStarsPayment (order : Uuid)
  | refundOrder (order : Uuid) (reason : String) (deactivateSubscription : Bool)
  | creditBalance (user : Uuid) (data : BalanceCreditIn)
  | debitBalance (user : Uuid) (data : BalanceDebitIn)
  | refundLastOrder (ticket : Uuid) (actorAdmin : Option Uuid)
  | expirationTick
  /-- An administrator edits a plan. -/
  | updatePlan (plan : Plan)

/-- The program of an operation. -/
def Operation.program : Operation → Service Unit
  | createOrder data => do
      let _ ← Billing.createOrder cfg data
      pure ()
  | processWebhook providerName request => Billing.processWebhook cfg providerName request
  | confirmStarsPayment order => Billing.confirmStarsPayment cfg order
  | refundOrder order reason deactivate => Billing.refundOrder order reason deactivate
  | creditBalance user data => do
      let _ ← Billing.creditBalance user data
      pure ()
  | debitBalance user data => do
      let _ ← Billing.debitBalance user data
      pure ()
  | refundLastOrder ticket admin => Billing.refundLastOrder ticket admin
  | expirationTick => do
      let _ ← Billing.expirationTick cfg
      pure ()
  | updatePlan plan => execute (.updatePlan plan)

/-- A random identifier is none that is in use. -/
def Database.freshUuid (db : Database) : Uuid :=
  1 + ((db.orders.rows.map PaymentOrder.id) ++ (db.subscriptions.rows.map Subscription.id)).foldr
    max 0

/-- The world around one request. -/
structure World where
  now : Time
  payment : PaymentRequest → Except BillingError String
  restore : Uuid → Except BillingError Unit

/-- The session of a request that runs on this database. -/
def World.session (world : World) (db : Database) : Session :=
  Session.new world.now db.freshUuid world.payment world.restore

def Operation.run (op : Operation) (world : World) (c : Committed engine) :
    Except BillingError Unit × Committed engine :=
  request (op.program cfg) (world.session c.state) c

/-- `History cfg allowed c later`: some sequence of allowed operations, one after the
other, leads from `c` to `later`. -/
inductive History (cfg : Settings) (allowed : Operation → Prop) (c : Committed engine) :
    Committed engine → Prop
  | refl : History cfg allowed c c
  | tail {mid : Committed engine} (op : Operation) (world : World) :
      History cfg allowed c mid → allowed op →
      History cfg allowed c (op.run cfg world mid).2

end VpnControl.Billing

/-
# What programs may write

Two kinds of facts that the later modules share. The first are about lists of
writes: which rows they append to the ledger and which parts of the database they
leave alone. The second are about programs: `Writes W p` says that every write on
every branch of `p` satisfies `W`. Most of the code between two interesting
statements is handled by such a fact alone.
-/

import VpnControl.Billing.Service

namespace VpnControl.Billing

open Txn List Write Program

/-! ## Lists of writes -/

namespace Write

/-- The ledger row a write appends. -/
def transaction? : Write → Option BalanceTransaction
  | insertTransaction row => some row
  | _ => none

def activation? : Write → Option PromoActivation
  | insertActivation row => some row
  | _ => none

end Write

namespace Database

theorem foldl_unchanged {β : Type} (part : Database → β) {writes : List Write}
    (h : ∀ w ∈ writes, ∀ db : Database, part (db.apply w) = part db) :
    part (writes.foldl apply db) = part db := by
  induction writes generalizing db with
  | nil => rfl
  | cons w _ ih =>
    rw [foldl_cons, ih (fun other hother => h other (by simp [hother])), h w (by simp)]

theorem transactions_foldl (writes : List Write) : (writes.foldl apply db).transactions =
      db.transactions ++ writes.filterMap transaction? := by
  induction writes generalizing db with
  | nil => simp
  | cons w _ ih =>
    rw [foldl_cons, ih, filterMap_cons]
    cases w <;> simp [apply, transaction?]

theorem activations_foldl (writes : List Write) : (writes.foldl apply db).activations =
      db.activations ++ writes.filterMap activation? := by
  induction writes generalizing db with
  | nil => simp
  | cons w _ ih =>
    rw [foldl_cons, ih]
    cases w <;> simp [apply, activation?, filterMap_cons]

end Database

/-! ## Programs -/

/-- Every write on every branch satisfies `W`. -/
def Writes {α : Type} (W : Write → Prop) (p : Service α) : Prop :=
  Program.Every (fun op : Stmt => ∀ w ∈ op.writes, W w) p

namespace Writes

variable {α β : Type} {W : Write → Prop} {p : Service α}

theorem mono (h : Writes W p) (hW : ∀ w, W w → W' w) : Writes W' p :=
  Every.mono h fun _ hop w hw => hW w (hop w hw)

@[simp]
theorem bind {f : α → Service β} (hp : Writes W p) (hf : ∀ value, Writes W (f value)) :
    Writes W (p >>= f) :=
  Every.bind hp hf

@[simp]
theorem map (f : α → β) (hp : Writes W p) : Writes W (f <$> p) := by
  rw [← bind_pure_comp]
  exact bind hp fun _ => trivial

@[simp]
theorem ite [Decidable c] (hp : Writes W p) (hq : Writes W q) : Writes W (if c then p else q) := by
  split <;> assumption

theorem tryCatch {handler : BillingError → Service α} (hp : Writes W p)
    (hh : ∀ error, Writes W (handler error)) : Writes W (p.tryCatch handler) :=
  Every.tryCatch hp hh

theorem perform {op : Stmt} (h : ∀ w ∈ op.writes, W w) :
    Writes W (perform (S := engine.toSignature) op) :=
  ⟨h, fun _ => trivial⟩

@[simp]
theorem pure (value : α) : Writes W (Pure.pure value : Service α) := trivial

@[simp]
theorem raise (error : BillingError) : Writes W (Billing.raise error : Service α) := trivial

@[simp]
theorem datetimeNow : Writes W Billing.datetimeNow := perform (by simp [Stmt.writes])

@[simp]
theorem uuid4 : Writes W Billing.uuid4 := perform (by simp [Stmt.writes])

@[simp]
theorem select (query : Database → α) : Writes W (Billing.select query) :=
  perform (by simp [Stmt.writes])

variable (id : Uuid)

@[simp]
theorem getUser : Writes W (Billing.getUser id) := perform (by simp [Stmt.writes])

@[simp]
theorem lockUser : Writes W (Billing.lockUser id) := perform (by simp [Stmt.writes])

@[simp]
theorem lockOrder (ref : OrderRef) : Writes W (Billing.lockOrder ref) :=
  perform (by simp [Stmt.writes])

@[simp]
theorem createPayment (request : PaymentRequest) : Writes W (Billing.createPayment request) :=
  perform (by simp [Stmt.writes])

@[simp]
theorem restoreKeys (subscription : Uuid) : Writes W (Billing.restoreKeys subscription) :=
  perform (by simp [Stmt.writes])

theorem execute (h : W w) : Writes W (Billing.execute w) := perform (by simpa [Stmt.writes] using h)

@[simp]
theorem scalarOneOrNone (rows : List α) : Writes W (Billing.scalarOneOrNone rows) := by
  unfold Billing.scalarOneOrNone
  split <;> simp

@[simp]
theorem getPlan : Writes W (Billing.getPlan id) := select _

@[simp]
theorem getSubscription : Writes W (Billing.getSubscription id) := select _

@[simp]
theorem getOrderRow : Writes W (Billing.getOrderRow id) := select _

/-! ### Programs that only read -/

@[simp]
theorem renewalTarget (user : Uuid) (plan : Plan) (order : PaymentOrder) :
    Writes W (Billing.renewalTarget user plan order) := by
  unfold Billing.renewalTarget
  split
  · simp
  · refine ite (by simp) (bind (by simp) fun found => ?_)
    split <;> simp

@[simp]
theorem purchaseTarget (user : Uuid) (plan : Plan) (order : PaymentOrder) :
    Writes W (Billing.purchaseTarget user plan order) := by
  refine bind (by simp) fun renewal => ?_
  split
  · simp
  · refine bind (by simp) fun active => ?_
    split
    · simp
    · refine bind (by simp) fun latest => ?_
      split <;> simp

@[simp]
theorem switchedPlan (user newPlan : Uuid) : Writes W (Billing.switchedPlan user newPlan) := by
  refine bind (bind (by simp) fun _ => by simp) fun current => ?_
  split
  · simp
  · split
    · simp
    · refine ite (by simp) (bind (by simp) fun oldPlan => ?_)
      split <;> simp

@[simp]
theorem switchProration (user newPlan : Uuid) (orderType : OrderType) :
    Writes W (Billing.switchProration user newPlan orderType) := by
  refine ite (by simp) (bind (by simp) fun switched => ?_)
  split <;> simp

@[simp]
theorem guardNoDowngrade (user : Uuid) (newPlan : Plan) (orderType : OrderType) :
    Writes W (Billing.guardNoDowngrade user newPlan orderType) := by
  refine ite (by simp) (bind (by simp) fun switched => ?_)
  split <;> simp

@[simp]
theorem checkAudience (promo : PromoCode) (user : Uuid) (plan : Option Uuid) :
    Writes W (Billing.checkAudience promo user plan) := by
  unfold Billing.checkAudience
  split
  · simp
  · simp
  · exact bind (by simp) fun now => bind (by simp) fun hasLive => by simp

@[simp]
theorem validateAndQuote (code : String) (user : Uuid) (plan : Option Uuid)
    (orderType : OrderType) (amountRub : Money) :
    Writes W (Billing.validateAndQuote code user plan orderType amountRub) := by
  refine bind (by simp) fun found => bind (by simp) fun promo => ?_
  split
  · simp
  · refine bind (by simp) fun now => ?_
    split
    · simp
    · exact bind (by simp) fun _ => ite (by simp) (by simp)

@[simp]
theorem applyPromo (data : OrderCreateIn) (plan : Plan) (amountRub : Money) :
    Writes W (Billing.applyPromo data plan amountRub) := by
  unfold Billing.applyPromo
  split <;> simp

@[simp]
theorem quoteOrder (data : OrderCreateIn) (plan : Plan) :
    Writes W (Billing.quoteOrder data plan) := by
  unfold Billing.quoteOrder
  split <;> simp

@[simp]
theorem openPayment (cfg : Settings) (data : OrderCreateIn) (amountRub : Money)
    (description : String) : Writes W (Billing.openPayment cfg data amountRub description) := by
  refine ite (by simp) ?_
  split
  · simp
  · refine bind (by simp) fun result => ?_
    split <;> simp

@[simp]
theorem orderExpiry (cfg : Settings) : Writes W (Billing.orderExpiry cfg) :=
  bind (by simp) fun _ => by simp

@[simp]
theorem refreshedOrder : Writes W (Billing.refreshedOrder id) := by
  refine bind (by simp) fun found => ?_
  split <;> simp

@[simp]
theorem renewalSubscription (data : OrderCreateIn) :
    Writes W (Billing.renewalSubscription data) := by
  unfold Billing.renewalSubscription
  split
  · simp
  · refine bind (by simp) fun found => ?_
    split <;> simp

@[simp]
theorem planOfSubscription (sub : Subscription) : Writes W (Billing.planOfSubscription sub) := by
  unfold Billing.planOfSubscription
  split <;> simp

@[simp]
theorem exactFee (provider : String) (method : Option ℤ) :
    Writes W (Billing.exactFee provider method) := by
  unfold Billing.exactFee
  split <;> simp

@[simp]
theorem paymentFee (feeRub : Option Money) (provider : String) (method : Option ℤ)
    (amountRub : Money) : Writes W (Billing.paymentFee feeRub provider method amountRub) := by
  unfold Billing.paymentFee
  split
  · simp
  · refine bind (bind (by simp) fun exact => ?_) fun rule => by simp
    split <;> simp

/-! ### Programs that write orders, subscriptions and promo codes -/

theorem updateOrder
    (h : W (.updateOrder order patch)) : Writes W (Billing.updateOrder order patch) :=
  execute h

theorem updateSubscription (h : W (.updateSubscription subscription patch)) :
    Writes W (Billing.updateSubscription subscription patch) :=
  execute h

theorem createOrderRow (h : ∀ id now, W (.insertOrder (data.row id now))) :
    Writes W (Billing.createOrderRow data) := by
  refine bind (by simp) fun id => bind (by simp) fun now => ?_
  split
  · simp
  · refine bind (by simp) fun taken => ?_
    split
    · simp
    · exact bind (execute (h id now)) fun _ => by simp

theorem createSubscriptionRow (h : ∀ row, W (.insertSubscription row)) :
    Writes W (Billing.createSubscriptionRow data) := by
  unfold Billing.createSubscriptionRow
  split
  · simp
  · exact bind (by simp) fun id => bind (execute (h _)) fun _ => by simp

section Delivery

variable {order : PaymentOrder} (hbalance : ∀ id balance, W (.setBalance id balance))
  (hnew : ∀ row, W (.insertSubscription row)) (hsub : ∀ id patch, W (.updateSubscription id patch))
  (horder : ∀ patch, W (.updateOrder order.id patch))

include hbalance in
/-- A purchase from the balance writes what it delivers and one posting of its type. -/
theorem payFromBalance (hrow : ∀ row, row.type = type → W (.insertTransaction row))
    (hdeliver : ∀ user, Writes W (deliver user)) :
    Writes W (Billing.payFromBalance user order type description strict deliver) := by
  have hinsufficient : Writes W (Billing.insufficientBalance strict) := by
    unfold Billing.insufficientBalance
    split <;> simp
  refine bind (by simp) fun found => ?_
  split
  · exact hinsufficient
  · split
    · exact hinsufficient
    · refine bind (execute (hbalance _ _)) fun _ => bind ?_ fun _ => hdeliver _
      exact bind (by simp) fun _ => execute (hrow _ rfl)

include hsub

theorem activate : Writes W (Billing.activate subscription) := by
  refine bind (by simp) fun found => ?_
  split
  · simp
  · refine bind (updateSubscription (hsub _ _)) fun _ => bind (by simp) fun restored => ?_
    split <;> simp

theorem addDeviceSlots : Writes W (Billing.addDeviceSlots order) := by
  unfold Billing.addDeviceSlots
  split
  · simp
  · refine bind (by simp) fun found => ?_
    split
    · simp
    · exact updateSubscription (hsub _ _)

theorem deactivateRefunded : Writes W (Billing.deactivateRefunded order deactivate) := by
  unfold Billing.deactivateRefunded
  split
  · simp
  · split
    · exact updateSubscription (hsub _ _)
    · simp

include hbalance in
theorem fulfillDeviceSlots
    (hrow : ∀ row, row.type = .deviceSlotPurchase → W (.insertTransaction row)) :
    Writes W (Billing.fulfillDeviceSlots user order strict) :=
  payFromBalance hbalance hrow fun _ => addDeviceSlots hsub

include hnew horder

theorem deliverPlan : Writes W (Billing.deliverPlan user plan order now) := by
  refine bind (by simp) fun target => ?_
  split
  · exact bind (updateSubscription (hsub _ _)) fun _ =>
      bind (updateOrder (horder _)) fun _ => activate hsub
  · exact bind (createSubscriptionRow hnew) fun _ => updateOrder (horder _)

theorem autoPurchaseFree : Writes W (Billing.autoPurchaseFree user plan order now) := by
  refine bind (by simp) fun existing => ?_
  split
  · exact bind (updateSubscription (hsub _ _)) fun _ => updateOrder (horder _)
  · exact bind (createSubscriptionRow hnew) fun _ => updateOrder (horder _)

include hbalance

theorem autoPurchase (hrow : ∀ row, row.type = .purchase → W (.insertTransaction row)) :
    Writes W (Billing.autoPurchase user plan order now strict) :=
  payFromBalance hbalance hrow fun _ => deliverPlan hnew hsub horder

theorem deliverOrder
    (hrow : ∀ row, row.type = .purchase ∨ row.type = .deviceSlotPurchase → W (.insertTransaction row)) :
    Writes W (Billing.deliverOrder user order now) := by
  unfold Billing.deliverOrder
  split
  · exact fulfillDeviceSlots hbalance hsub fun row h => hrow row (Or.inr h)
  · split
    · simp
    · refine bind (by simp) fun found => ?_
      split
      · simp
      · split
        · exact autoPurchase hbalance hnew hsub horder fun row h => hrow row (Or.inl h)
        · simp

end Delivery

theorem recordPromoActivation
    (hrow : ∀ row, row.orderId = some order.id → W (.insertActivation row))
    (hcount : ∀ promo, W (.incrementActivation promo)) :
    Writes W (Billing.recordPromoActivation order) := by
  unfold Billing.recordPromoActivation
  split
  · exact bind (execute (hrow _ rfl)) fun _ => execute (hcount _)
  · simp

end Writes

/-- `W` allows what fulfilling an order writes, the referral programme apart. -/
structure Fulfilling (W : Write → Prop) (order : Uuid) : Prop where
  balance : ∀ user balance, W (.setBalance user balance)
  posting : ∀ row, row.type ∈ [.payment, .purchase, .deviceSlotPurchase] → W (.insertTransaction row)
  newSubscription : ∀ row, W (.insertSubscription row)
  subscription : ∀ id patch, W (.updateSubscription id patch)
  order : ∀ patch, W (.updateOrder order patch)
  activation : ∀ row, W (.insertActivation row)
  activationCount : ∀ promo, W (.incrementActivation promo)

namespace Fulfilling

variable {W : Write → Prop} {order : PaymentOrder} (h : Fulfilling W order.id)

include h

theorem autoPurchase : Writes W (Billing.autoPurchase user plan order now strict) :=
  .autoPurchase h.balance h.newSubscription h.subscription h.order fun row htype =>
    h.posting row (by simp [htype])

theorem autoPurchaseFree : Writes W (Billing.autoPurchaseFree user plan order now) :=
  .autoPurchaseFree h.newSubscription h.subscription h.order

theorem fulfillDeviceSlots : Writes W (Billing.fulfillDeviceSlots user order strict) :=
  .fulfillDeviceSlots h.balance h.subscription fun row htype => h.posting row (by simp [htype])

theorem deliverOrder : Writes W (Billing.deliverOrder user order now) :=
  .deliverOrder h.balance h.newSubscription h.subscription h.order fun row htype =>
    h.posting row (by rcases htype with htype | htype <;> simp [htype])

theorem recordPromoActivation : Writes W (Billing.recordPromoActivation order) :=
  .recordPromoActivation (fun row _ => h.activation row) h.activationCount

end Fulfilling

end VpnControl.Billing

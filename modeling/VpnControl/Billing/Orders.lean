/-
# Orders under writes

An order row is inserted once and updated afterwards. Updates touch its status, its
times, its fee and its subscription; the terms it was placed on stay. What a list of
writes makes of an order is therefore the row with the updates among them applied in
order.
-/

import VpnControl.Billing.Effects

namespace VpnControl.Billing

open Txn List Write
open Database Table

/-- The terms of an order: the columns no update changes, with the others blanked. -/
def PaymentOrder.terms (order : PaymentOrder) : PaymentOrder :=
  { order with
    status := .pending
    paidAt := none
    completedAt := none
    subscriptionId := none
    feeRub := none
    netRub := none }

/-- Equal terms, column by column. -/
structure PaymentOrder.SameTerms (order placed : PaymentOrder) : Prop where
  id : order.id = placed.id
  userId : order.userId = placed.userId
  amountRub : order.amountRub = placed.amountRub
  provider : order.provider = placed.provider
  externalId : order.externalId = placed.externalId
  orderType : order.orderType = placed.orderType
  planId : order.planId = placed.planId
  periodMonths : order.periodMonths = placed.periodMonths
  deviceSlotsQty : order.deviceSlotsQty = placed.deviceSlotsQty

theorem PaymentOrder.sameTerms {order placed : PaymentOrder} (h : order.terms = placed.terms) :
    order.SameTerms placed := by
  simp only [PaymentOrder.terms, PaymentOrder.mk.injEq] at h
  constructor <;> grind

/-- The order after some updates. -/
def PaymentOrder.patched (order : PaymentOrder) (patches : List OrderInternalUpdate) :
    PaymentOrder :=
  patches.foldl (fun order patch => patch.set order) order

def Write.orderPatch? (order : Uuid) : Write → Option OrderInternalUpdate
  | .updateOrder id patch => if id = order then some patch else none
  | _ => none

def Database.status? (db : Database) (id : Uuid) : Option OrderStatus :=
  (db.orders.find? id).map PaymentOrder.status

variable {order : PaymentOrder}

@[simp]
theorem PaymentOrder.patched_nil : order.patched [] = order := rfl

@[simp]
theorem PaymentOrder.patched_cons :
    order.patched (patch :: rest) = (patch.set order).patched rest := rfl

theorem PaymentOrder.terms_patched (order : PaymentOrder) (patches : List OrderInternalUpdate) :
    (order.patched patches).terms = order.terms := by
  induction patches generalizing order with
  | nil => rfl
  | cons _ _ ih =>
    rw [PaymentOrder.patched_cons, ih]
    rfl

variable {db : Database} {id : Uuid} {order row : PaymentOrder} {ws : List Write}

theorem find?_updateOrder_self (db : Database) :
    (db.apply (.updateOrder id patch)).orders.find? id = (db.orders.find? id).map patch.set :=
  Table.find?_modify_self patch.set fun _ => rfl

/-- One write updates an order that exists, or leaves it alone. An insertion under its
key is refused. -/
theorem find?_order_apply (h : db.orders.find? id = some order) (w : Write) :
    (db.apply w).orders.find? id = some (order.patched (w.orderPatch? id).toList) := by
  cases w with
  | updateOrder target patch =>
    by_cases htarget : target = id
    · subst htarget
      rw [find?_updateOrder_self, h]
      simp [orderPatch?]
    · have hframe : Database.SameRow (.order id) db (db.apply (.updateOrder target patch)) :=
        apply_frame db (by simp [touches, Ne.symm htarget])
      rw [← hframe, h]
      simp [orderPatch?, htarget]
  | insertOrder => exact find?_insert_of_some h
  | _ => exact h

theorem find?_order_foldl (h : db.orders.find? id = some order) (ws : List Write) :
    (ws.foldl Database.apply db).orders.find? id =
      some (order.patched (ws.filterMap (orderPatch? id))) := by
  induction ws generalizing db order with
  | nil => exact h
  | cons w _ ih =>
    rw [foldl_cons, ih (find?_order_apply h w), filterMap_cons]
    cases w.orderPatch? id <;> rfl

/-- Orders are not inserted behind the back of who looks for one. -/
theorem find?_order_foldl_eq_none (h : db.orders.find? id = none)
    (hws : ∀ row, insertOrder row ∈ ws → row.id ≠ id) :
    (ws.foldl Database.apply db).orders.find? id = none := by
  refine foldlRecOn (motive := fun db : Database => db.orders.find? id = none) ws _ h ?_
  intro db h w hw
  cases w with
  | updateOrder _ patch => exact (find?_modify patch.set fun _ => rfl).trans (congrArg _ h)
  | insertOrder new => exact (Table.find?_insert_of_ne (hws new hw).symm).trans h
  | _ => exact h

/-- Without insertions, every order of the result was one before, on the same terms. -/
theorem mem_orders_foldl (hws : ∀ row, insertOrder row ∉ ws)
    (h : row ∈ (ws.foldl Database.apply db).orders.rows) :
    ∃ old ∈ db.orders.rows, old.terms = row.terms := by
  refine foldlRecOn (motive := fun later : Database => ∀ row ∈ later.orders.rows,
    ∃ old ∈ db.orders.rows, old.terms = row.terms) ws _ (fun row hrow => ⟨row, hrow, rfl⟩) ?_ row h
  intro later ih w hw row hrow
  cases w with
  | updateOrder target patch =>
    have hrow : row ∈ (later.orders.modify target patch.set fun _ => rfl).rows := hrow
    rcases mem_rows_modify hrow with hold | ⟨old, hold, -, rfl⟩
    · exact ih row hold
    · exact ih old hold
  | insertOrder new => exact absurd hw (hws new)
  | _ => exact ih row hrow

/-- The write is about the order: its row, its ledger rows or its promo activation. -/
def Write.Mentions (order : Uuid) : Write → Prop
  | .insertOrder row => row.id = order
  | .updateOrder id _ => id = order
  | .insertTransaction row => row.orderId = some order
  | .insertActivation row => row.orderId = some order
  | _ => False

theorem orderPatch?_eq_none {w : Write} (h : ¬ w.Mentions id) : w.orderPatch? id = none := by
  cases w <;> simp_all [Mentions, orderPatch?]

theorem filterMap_orderPatch?_eq_nil (h : ∀ w ∈ ws, ¬ w.Mentions id) :
    ws.filterMap (orderPatch? id) = [] := by
  rw [filterMap_eq_nil_iff]
  exact fun w hw => orderPatch?_eq_none (h w hw)

/-- A write that leaves an order and its ledger rows alone; an update without columns
does so too. -/
def Write.Inert (id : Uuid) (w : Write) : Prop :=
  ¬ w.Mentions id ∨ w = .updateOrder id {}

theorem patched_of_inert (h : ∀ w ∈ ws, w.Inert id) :
    order.patched (ws.filterMap (orderPatch? id)) = order := by
  induction ws with
  | nil => rfl
  | cons w _ ih =>
    have hrest := ih fun other hother => h other (mem_cons_of_mem w hother)
    rcases h w (by simp) with hnot | rfl
    · rw [filterMap_cons, orderPatch?_eq_none hnot]
      exact hrest
    · have hsame : ({} : OrderInternalUpdate).set order = order := rfl
      simpa [orderPatch?, hsame] using hrest

/-! ## The ledger rows of an order -/

/-- The ledger rows of an order, oldest first. -/
def Database.orderRows (db : Database) (id : Uuid) : List BalanceTransaction :=
  db.transactions.filter fun row => row.orderId = some id

/-- The ledger rows of an order among some writes. -/
def rowsOf (id : Uuid) (ws : List Write) : List BalanceTransaction :=
  (ws.filterMap Write.transaction?).filter fun row => row.orderId = some id

theorem orderRows_foldl (id : Uuid) (ws : List Write) (db : Database) :
    (ws.foldl Database.apply db).orderRows id = db.orderRows id ++ rowsOf id ws := by
  rw [Database.orderRows, transactions_foldl, filter_append]
  rfl

theorem rowsOf_append : rowsOf id (first ++ second) = rowsOf id first ++ rowsOf id second := by
  simp [rowsOf]

theorem rowsOf_eq_nil (h : ∀ w ∈ ws, w.Inert id) : rowsOf id ws = [] := by
  rw [rowsOf, filter_eq_nil_iff]
  intro row hrow
  obtain ⟨w, hw, hrow⟩ := mem_filterMap.mp hrow
  rcases h w hw with hnot | rfl
  · cases w <;> simp only [transaction?, reduceCtorEq, Option.some.injEq] at hrow
    subst hrow
    simpa [Mentions] using hnot
  · cases hrow

/-! ## Subscriptions -/

theorem find?_updateSubscription_self (db : Database) (id : Uuid)
    (patch : SubscriptionInternalUpdate) :
    (db.apply (.updateSubscription id patch)).subscriptions.find? id =
      (db.subscriptions.find? id).map patch.set :=
  Table.find?_modify_self patch.set fun _ => rfl

theorem find?_updateSubscription_of_ne (db : Database) (hne : id ≠ target)
    (patch : SubscriptionInternalUpdate) :
    (db.apply (.updateSubscription target patch)).subscriptions.find? id =
      db.subscriptions.find? id :=
  Table.find?_modify_of_ne patch.set (fun _ => rfl) hne

/-- Subscriptions are neither deleted nor handed over. -/
theorem find?_subscription_foldl (h : db.subscriptions.find? id = some sub)
    : ∃ sub', (ws.foldl Database.apply db).subscriptions.find? id = some sub' ∧
      sub'.userId = sub.userId := by
  refine foldlRecOn (motive := fun db : Database => ∃ sub', db.subscriptions.find? id = some sub' ∧
    sub'.userId = sub.userId) ws _ ⟨sub, h, rfl⟩ ?_
  rintro db ⟨sub', hsub', howner⟩ w -
  cases w with
  | insertSubscription => exact ⟨sub', find?_insert_of_some hsub', howner⟩
  | updateSubscription target patch =>
    refine ⟨_, (find?_modify patch.set fun _ => rfl).trans (congrArg _ hsub'), ?_⟩
    dsimp only
    split <;> exact howner
  | _ => exact ⟨sub', hsub', howner⟩

end VpnControl.Billing

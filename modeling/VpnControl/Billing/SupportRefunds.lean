/-
# The two refunds

An order can be refunded by billing and from a support ticket. Both mark the order as
refunded, change the balance of its user once and post one row that accounts for it.
They differ in the sign: billing takes the price of the order from the balance, support
credits it.
-/

import VpnControl.Billing.Direct
import VpnControl.Billing.Fulfilment
import VpnControl.Billing.Scenario

namespace VpnControl.Billing

open Txn List Database

variable {c : Committed engine} {db : Database}
  {order : PaymentOrder} {holder : User} {ticket : SupportTicket} {world : World}

/-- From `db` to `later` the order was refunded, the balance of the user changed by
`amount`, and one ledger row of the order says so. -/
structure RefundedBy (db later : Database) (order : PaymentOrder) (holder : User)
    (amount : Money) : Prop where
  status : later.orders.find? order.id = some { order with status := .refunded }
  balance : later.users.find? holder.id = some { holder with balance := holder.balance + amount }
  ledger : ∃ row, Posts row holder.id amount .refund (some order.id) ∧
    later.transactions = db.transactions ++ [row]

/-- A new balance, and in either order the row that accounts for it and the new status. -/
theorem refundedBy_foldl {rest : List Write} (horder : db.orders.find? order.id = some order)
    (hholder : db.users.find? holder.id = some holder)
    (hposts : Posts row holder.id amount .refund (some order.id))
    (hbalance : balance = holder.balance + amount)
    (hpatches : rest.filterMap (Write.orderPatch? order.id) = [{ status := some .refunded }])
    (hrows : rest.filterMap Write.transaction? = [row])
    (hrest : ∀ balance, .setBalance holder.id balance ∉ rest) :
    RefundedBy db ((.setBalance holder.id balance :: rest).foldl apply db) order holder
      amount := by
  have hset : (db.apply (.setBalance holder.id balance)).users.find? holder.id =
      some { holder with balance := holder.balance + amount } := by
    simp [apply, hholder, hbalance]
  refine ⟨?_, ?_, row, hposts, ?_⟩
  · rw [find?_order_foldl horder, filterMap_cons_none rfl, hpatches]
    rfl
  · rw [foldl_cons, users_foldl hrest, hset]
  · rw [transactions_foldl, filterMap_cons_none rfl, hrows]

/-! ## The refund of billing -/

theorem direct_refundOrder (s : Store) (hrow : s.db.orders.find? order.id = some order)
    (hstatus : order.status ∈ orderRefundableStatuses)
    (hholder : s.db.users.find? order.userId = some holder) (reason : String) :
    ∃ row, Posts row holder.id (-order.amountRub) .refund (some order.id) ∧
      direct world (refundOrder order.id reason false) s = (.ok (),
        { db := [.setBalance holder.id (holder.balance - order.amountRub), .insertTransaction row,
            .updateOrder order.id { status := some .refunded }].foldl apply s.db
          nextUuid := s.nextUuid + 1 }) := by
  have hdeactivate : ∀ s : Store, direct world (deactivateRefunded order false) s = (.ok (), s) := by
    intro s
    unfold deactivateRefunded
    split <;> rfl
  refine ⟨
    { id := s.nextUuid, userId := holder.id, amount := -order.amountRub
      balanceAfter := holder.balance - order.amountRub, type := .refund, orderId := some order.id
      description := some (truncate s!"Refund: {reason}" 256) }, ⟨rfl, rfl, rfl, rfl⟩, ?_⟩
  simp [refundOrder, refundLocked, recordTransaction, updateUserBalance, updateOrder, direct_bind,
    OrderRef.find?, hrow, hstatus, hholder, hdeactivate]

/-! ## The refund of support -/

/-- The strictly latest paid order of a user is the one support refunds. -/
theorem lastPaidOrder_eq_some (hrow : db.orders.find? order.id = some order)
    (hpaid : order.status = .paid)
    (hlast : ∀ other ∈ db.orders.rows, other.userId = order.userId → other.status = .paid →
      other ≠ order → other.createdAt < order.createdAt) :
    db.lastPaidOrder order.userId = some order := by
  rw [lastPaidOrder, argmax_eq_some_iff]
  have hmem : order ∈ db.orders.rows.filter fun other =>
      other.userId = order.userId ∧ other.status = .paid := by
    simp [Table.mem_of_find? hrow, hpaid]
  have hlatest : ∀ other ∈ db.orders.rows.filter fun other =>
      other.userId = order.userId ∧ other.status = .paid,
      other = order ∨ other.createdAt < order.createdAt := by
    intro other hother
    obtain ⟨hother, hfilter⟩ := mem_filter.mp hother
    obtain ⟨howner, hstatus⟩ := of_decide_eq_true hfilter
    by_cases hsame : other = order
    · exact .inl hsame
    · exact .inr (hlast other hother howner hstatus hsame)
  refine ⟨hmem, fun other hother => ?_, fun other hother hle => ?_⟩
  · rcases hlatest other hother with rfl | hlt
    · exact le_refl _
    · exact hlt.le
  · rcases hlatest other hother with rfl | hlt
    · exact le_refl _
    · exact absurd hle (not_le.mpr hlt)

theorem direct_refundLastOrder (s : Store) (hticket : s.db.tickets.find? ticket.id = some ticket)
    (hlast : s.db.lastPaidOrder ticket.userId = some order)
    (hholder : s.db.users.find? ticket.userId = some holder) (admin : Option Uuid) :
    ∃ row message, Posts row holder.id order.amountRub .refund (some order.id) ∧
      direct world (refundLastOrder ticket.id admin) s = (.ok (),
        { db := [.setBalance holder.id (holder.balance + order.amountRub),
            .updateOrder order.id { status := some .refunded }, .insertTransaction row,
            .insertMessage message, .touchTicket ticket.id world.now].foldl apply s.db
          nextUuid := s.nextUuid + 1 }) := by
  refine ⟨
    { id := s.nextUuid, userId := holder.id, amount := order.amountRub
      balanceAfter := holder.balance + order.amountRub, type := .refund, orderId := some order.id
      description := some s!"Возврат по заказу {order.id} (тикет {ticket.id})" },
    { ticketId := ticket.id, senderAdminId := admin
      body := s!"Возврат {moneyText order.amountRub} ₽ зачислен на баланс " ++ "пользователя" },
    ⟨rfl, rfl, rfl, rfl⟩, ?_⟩
  simp [refundLastOrder, recordTransaction, updateUserBalance, updateOrder, direct_bind, hticket,
    hlast, hholder]

/-! ## Both -/

def deskTicket : SupportTicket where
  id := 4
  userId := 1
  lastActivityAt := 0

/-- Order 2 of user 1 with this status. -/
def deskOrder (status : OrderStatus) : PaymentOrder :=
  { Scenario.pendingOrder with status := status }

/-- User 1 with a balance of 100, the order and the ticket. -/
def supportDesk (status : OrderStatus) : Committed engine where
  state :=
    { Scenario.withOrder (Scenario.database 100) (deskOrder status) with
      tickets := Table.empty.insert deskTicket }
  log := []

/-- What the operation makes of the balance of user 1, if it succeeds. -/
def balanceAfter (op : Operation) (c : Committed engine) : Option Money :=
  match op.run Scenario.settings Scenario.world c with
  | (.ok (), later) => (later.state.users.find? 1).map User.balance
  | (.error _, _) => none

end VpnControl.Billing

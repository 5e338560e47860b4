/-
# How orders move

Whatever is asked of billing, in any order, the status of an order moves one way. No order is ever
left `paid`, so the refund button of the support desk, which looks for such an order, never refunds
anything.
-/

import VpnControl.Billing.Refunds

namespace VpnControl.Billing

open Txn List

variable {c later : Committed engine} {order : PaymentOrder} {id : Uuid}

/-! ## Statuses -/

namespace OrderStatus

/-- The statuses that an order can still get. -/
def successors : OrderStatus → List OrderStatus
  | pending => [pending, expired, completed, refunded]
  | completed => [completed, refunded]
  | status => [status]

theorem mem_successors_self (status : OrderStatus) : status ∈ status.successors := by
  cases status <;> decide

theorem ne_paid_of_mem_successors (h : second ∈ successors first) (hpaid : first ≠ paid) :
    second ≠ paid := by
  rintro rfl
  cases first <;> simp_all [successors]

theorem successors_trans (h : second ∈ successors first) (h' : third ∈ successors second) :
    third ∈ successors first := by
  cases first <;> cases second <;> simp_all [successors]

end OrderStatus

open OrderStatus

/-- One operation moves the status of an order one way. -/
theorem OrderStep.status (hstep : OrderStep c id ws)
    (hrow : c.state.orders.find? id = some order) (hpaid : order.status ≠ .paid) :
    ∃ row, (c.extend ws).state.orders.find? id = some row ∧
      row.status ∈ order.status.successors := by
  have hlast : (c.extend ws).state.orders.find? id = _ := find?_order_foldl hrow ws
  obtain rfl : order.id = id := Table.key_of_find? hrow
  cases hstep with
  | untouched _ hws =>
    exact ⟨order, find?_of_inert hrow fun w hw => .inl (hws w hw), mem_successors_self _⟩
  | placed _ _ _ hid hplaced =>
    rw [← hid, find?_order_of_fresh hplaced.fresh_le] at hrow
    cases hrow
  | paid _ _ hfound hpayment =>
    cases hrow.symm.trans hfound
    cases hpayment with
    | repeated => exact ⟨order, by rwa [Committed.extend_nil], mem_successors_self _⟩
    | settled _ _ hpending _ _ hsettled =>
      refine ⟨_, hlast, ?_⟩
      rw [hsettled.status, hpending]
      decide
  | noted _ _ hfound hstatus =>
    cases hrow.symm.trans hfound
    rcases hstatus with rfl | ⟨rfl, hpending⟩
    · refine ⟨order, find?_of_inert hrow fun w hw => .inr ?_, mem_successors_self _⟩
      exact mem_singleton.mp hw
    · refine ⟨_, hlast, ?_⟩
      simp [Write.orderPatch?, OrderInternalUpdate.set, hpending, successors]
  | refunded _ _ hfound hrefunded =>
    cases hrow.symm.trans hfound
    refine ⟨_, hlast, ?_⟩
    rw [hrefunded.status]
    obtain ⟨-, -, hstatus⟩ := hrefunded
    rw [(mem_pair.mp hstatus).resolve_left hpaid]
    decide
  | supportRefunded _ _ hfound hstatus =>
    cases hrow.symm.trans hfound
    exact absurd hstatus hpaid
  | expired _ ids hfound hpending =>
    cases hrow.symm.trans hfound
    have hpatches : ∀ patch ∈ (Stmt.writes (.expireOrders ids)).filterMap
        (Write.orderPatch? order.id), patch = { status := some .expired } := by
      intro patch hpatch
      obtain ⟨w, hw, hsome⟩ := mem_filterMap.mp hpatch
      obtain ⟨other, -, rfl⟩ := mem_map.mp hw
      exact (Option.some.inj (Option.ite_none_right_eq_some.mp hsome).2).symm
    refine ⟨_, hlast, ?_⟩
    rcases (patched_expired hpatches order).1 with hsame | hexpired
    · exact hsame ▸ mem_successors_self _
    · rw [hexpired, hpending]
      decide

/-- **The status of an order moves one way**, whatever is asked of billing. -/
theorem orders_move_one_way (h : History cfg allowed c later)
    (hrow : c.state.orders.find? id = some order) (hpaid : order.status ≠ .paid) :
    ∃ row, later.state.orders.find? id = some row ∧ row.status ∈ order.status.successors := by
  induction h with
  | refl => exact ⟨order, hrow, mem_successors_self _⟩
  | @tail mid op world _ _ ih =>
    obtain ⟨row, hfound, hstatus⟩ := ih
    obtain ⟨ws, hrun, hstep⟩ := op.step cfg world mid id
    obtain ⟨next, hnext, hmoves⟩ := hstep.status hfound (ne_paid_of_mem_successors hstatus hpaid)
    exact ⟨next, hrun ▸ hnext, successors_trans hstatus hmoves⟩

open Scenario

/-- A pending order, after a run of the expiration job. -/
theorem orders_move_one_way_pending :
    let placed : Committed engine := ⟨withOrder (database 0) pendingOrder, []⟩
    let later := (Operation.run settings .expirationTick world placed).2
    ∃ row, later.state.orders.find? 2 = some row ∧
      row.status ∈ [.pending, .expired, .completed, .refunded] :=
  have h : History settings (fun _ => True) _ _ := History.refl.tail .expirationTick world trivial
  orders_move_one_way h (show _ = some pendingOrder from rfl) (by decide)

/-! ## The refund button -/

/-- `paid` is never committed: the payment of an order completes it in the same transaction. -/
theorem History.ne_paid (hstart : ∀ id, Unknown start id)
    (hrun : History cfg allowed ⟨start, []⟩ c) (hrow : c.state.orders.find? id = some order) :
    order.status ≠ .paid := by
  obtain ⟨-, hlife⟩ := Life.history (hstart id) hrun
  rcases hlife.cases_of_row hrow with ⟨hpending | hexpired, -⟩ | ⟨hcompleted, -⟩ | hrefunded <;>
    simp_all

/-- **The refund button of the support desk never refunds.** It looks for the last order that is
`paid`, and no history of the shop leaves one. -/
theorem refundLastOrder_always_fails (hstart : ∀ id, Unknown start id)
    (hrun : History cfg allowed ⟨start, []⟩ c) (ticket : Uuid) (admin : Option Uuid)
    (world : World) : ∃ error,
      Operation.run cfg (.refundLastOrder ticket admin) world c = (.error error, c) := by
  rcases Outcome.request (outcome_refundLastOrder 0) with
    ⟨-, ws, -, order, ⟨seen, rfl, hrow⟩, hpaid, -⟩ | ⟨error, herror⟩
  · exact absurd hpaid (hrun.ne_paid hstart hrow)
  · exact ⟨error, herror⟩

/-- The invoice is paid, and support is asked for the money back. -/
theorem refundLastOrder_fails_paidInvoice : ∃ error,
    Operation.run settings (.refundLastOrder 4 none) world paidInvoice =
      (.error error, paidInvoice) :=
  refundLastOrder_always_fails (fun _ => ⟨rfl, by simp [database, Database.empty]⟩)
    history_paidInvoice 4 none world

end VpnControl.Billing

/-
# Refunds

A refund posts one debit of the price of the order. What the order has left in the
ledger before that depends on how it was completed: a payment that waits on the
balance, a payment that was spent on the order, or a purchase from the balance. The
ledger rows of a completed order are read off its life, and the refund adds its row
to them.
-/

import VpnControl.Billing.OrderLife
import VpnControl.Billing.Scenario

namespace VpnControl.Billing

open Txn List Database Write

variable {S : Committed engine → Prop} {before ws : List Write} {fresh id : Uuid}
  {order : PaymentOrder} {start : Database} {c : Committed engine} {origin : Committed engine}

/-! ## The ledger rows of what fulfilment writes -/

theorem rowsOf_posting (h : Posts row user amount type (some id)) :
    rowsOf id (posting row) = [row] := by
  simp [rowsOf, posting, filterMap_cons, transaction?, h.orderId]

theorem rowsOf_cons_of_none (h : w.transaction? = none) : rowsOf id (w :: ws) = rowsOf id ws := by
  rw [rowsOf, filterMap_cons_none h, rowsOf]

theorem PromoRecorded.rows (h : PromoRecorded order ws) : rowsOf id ws = [] := by
  rcases h with rfl | ⟨row, -, rfl⟩ <;> rfl

theorem PlanDelivery.rows
    (h : PlanDelivery S before fresh user plan order now sub ws) : rowsOf id ws = [] := by
  cases h <;> rfl

theorem SlotDelivery.rows (h : SlotDelivery S before order ws) : rowsOf id ws = [] := by
  cases h <;> rfl

theorem TrialDelivery.rows (h : TrialDelivery fresh user plan order ws) : rowsOf id ws = [] := by
  cases h <;> rfl

theorem reward_rows (h : ∀ w ∈ ws, w.IsReward) : rowsOf id ws = [] := by
  refine rowsOf_eq_nil fun w hw => Or.inl ?_
  have hw := h w hw
  cases w <;> simp_all [IsReward, Mentions]

theorem rowsOf_settlement
    (hpayment : Posts payment user amount .payment (some id)) (hpromo : PromoRecorded order promo)
    (hreward : ∀ w ∈ reward, w.IsReward) :
    rowsOf id (.updateOrder order.id paid :: (posting payment ++ (promo ++ (delivery ++
      .updateOrder order.id completed :: reward)))) = payment :: rowsOf id delivery := by
  rw [rowsOf_cons_of_none rfl, rowsOf_append, rowsOf_append, rowsOf_append,
    rowsOf_posting hpayment, hpromo.rows, rowsOf_cons_of_none rfl, reward_rows hreward,
    nil_append, append_nil, singleton_append]

/-- The debit of an order, for its plan or for its device slots. Topping up buys
nothing. -/
structure Debits (row : BalanceTransaction) (order : PaymentOrder) : Prop where
  type : order.orderType ≠ .topUp
  posts : Posts row order.userId (-order.amountRub) .purchase (some order.id) ∨
    Posts row order.userId (-order.amountRub) .deviceSlotPurchase (some order.id)

theorem OrderDelivery.rows
    (h : OrderDelivery S before fresh account order now ws) (hid : account.id = order.userId)
    (htopUp : order.orderType = .topUp → order.planId = none) :
    rowsOf order.id ws = [] ∨ ∃ debit, Debits debit order ∧ rowsOf order.id ws = [debit] := by
  cases h with
  | plan _ row _ _ _ hplan hposts hdelivery =>
    refine Or.inr ⟨row, ⟨fun heq => ?_, Or.inl (hid ▸ hposts)⟩, ?_⟩
    · cases (htopUp heq).symm.trans hplan
    rw [rowsOf_append, rowsOf_posting hposts, hdelivery.rows, append_nil]
  | slots row _ htype hposts hdelivery =>
    refine Or.inr ⟨row, ⟨by rw [htype]; nofun, Or.inr (hid ▸ hposts)⟩, ?_⟩
    rw [rowsOf_append, rowsOf_posting hposts, hdelivery.rows, append_nil]
  | withheld => exact Or.inl rfl

/-! ## The account of a completed order -/

/-- The ledger rows of a completed order. -/
inductive Account (order : PaymentOrder) : List BalanceTransaction → Prop
  | credited (payment : BalanceTransaction)
      (hgateway : order.provider ≠ .balance ∧ order.provider ≠ .free)
      (hpayment : Posts payment order.userId order.amountRub .payment (some order.id)) :
      Account order [payment]
  | spent (payment debit : BalanceTransaction)
      (hgateway : order.provider ≠ .balance ∧ order.provider ≠ .free)
      (hpayment : Posts payment order.userId order.amountRub .payment (some order.id))
      (hdebit : Debits debit order) : Account order [payment, debit]
  | debited (debit : BalanceTransaction) (hbalance : order.provider = .balance)
      (hdebit : Debits debit order) : Account order [debit]
  | trial (hfree : order.provider = .free) (hamount : order.amountRub = 0) : Account order []

theorem Account.of_terms
    (h : Account order rows) (hterms : order'.terms = order.terms) : Account order' rows := by
  obtain ⟨hid, huser, hamount, hprovider, -, htype, -, -, -⟩ := PaymentOrder.sameTerms hterms
  have hdebits : ∀ row, Debits row order → Debits row order' := by
    intro row hrow
    refine ⟨htype ▸ hrow.type, ?_⟩
    rw [hid, huser, hamount]
    exact hrow.posts
  cases h with
  | credited payment hgateway =>
    exact .credited payment (hprovider ▸ hgateway) (by rwa [hid, huser, hamount])
  | spent payment debit hgateway _ hdebit =>
    exact .spent payment debit (hprovider ▸ hgateway) (by rwa [hid, huser, hamount])
      (hdebits debit hdebit)
  | debited debit hbalance hdebit =>
    exact .debited debit (hprovider.trans hbalance) (hdebits debit hdebit)
  | trial hfree hzero => exact .trial (hprovider.trans hfree) (hamount.trans hzero)

theorem Settlement.account (hid : user.id = order.userId)
    (hgateway : order.provider ≠ .balance ∧ order.provider ≠ .free)
    (htopUp : order.orderType = .topUp → order.planId = none)
    (h : Settlement S before fresh order user ws) : Account order (rowsOf order.id ws) := by
  obtain ⟨now, fee, payment, promo, delivery, reward, hpayment, -, hpromo, hdelivery, hreward⟩ := h
  rw [rowsOf_settlement hpayment hpromo hreward]
  rcases hdelivery.rows hid htopUp with hnone | ⟨debit, hdebit, hsome⟩
  · rw [hnone]
    exact .credited payment hgateway (hid ▸ hpayment)
  · rw [hsome]
    exact .spent payment debit hgateway (hid ▸ hpayment) hdebit

theorem Placed.account (h : Placed S before fresh data order ws)
    (hpaid : order.status = .paid) : Account order (rowsOf order.id ws) := by
  cases h with
  | topUp | slots | plan =>
    subst_vars
    cases hpaid
  | balanceSlots _ _ _ _ _ _ _ debit _ htype hbalance _ _ _ _ _ horder hposts hdelivery =>
    rw [rowsOf_cons_of_none rfl, rowsOf_append, rowsOf_append, rowsOf_posting hposts,
      hdelivery.rows, rowsOf_cons_of_none rfl]
    have huser : order.userId = data.userId := by rw [horder]; rfl
    have htype : order.orderType = .deviceSlots := by rw [horder]; rfl
    exact .debited debit (by rw [horder]; exact hbalance)
      ⟨by rw [htype]; nofun, Or.inr (huser ▸ hposts)⟩
  | balancePlan _ _ _ _ _ _ _ debit _ _ _ htype hbalance _ _ _ _ _ horder hposts hdelivery hpromo =>
    rw [rowsOf_cons_of_none rfl, rowsOf_append, rowsOf_append, rowsOf_posting hposts,
      hdelivery.rows, rowsOf_cons_of_none rfl, hpromo.rows]
    have huser : order.userId = data.userId := by rw [horder]; rfl
    have hplanType : order.orderType ∈ [.planPurchase, .subscriptionRenewal] := by
      rw [horder]
      exact htype
    refine .debited debit (by rw [horder]; exact hbalance) ⟨fun heq => ?_, Or.inl (huser ▸ hposts)⟩
    simp [heq] at hplanType
  | trial _ _ _ _ _ _ _ _ _ horder hdelivery =>
    rw [rowsOf_cons_of_none rfl, rowsOf_append, hdelivery.rows, rowsOf_cons_of_none rfl]
    exact .trial (by rw [horder]; rfl) (by rw [horder]; rfl)

/-- The replay of a log that goes on from an earlier state. -/
theorem foldl_origin (horigin : origin.state = origin.log.foldl apply start) (ws : List Write) :
    (origin.log ++ ws).foldl apply start = ws.foldl apply origin.state := by
  rw [foldl_append, horigin]

/-- A completed order and its ledger rows are what the completing writes made of them. -/
theorem completed_row {placed : PaymentOrder} (hreplay : c.state = c.log.foldl apply start)
    (horigin : origin.state = origin.log.foldl apply start)
    (hlog : c.log = origin.log ++ (ws ++ post)) (hpost : ∀ w ∈ post, w.Inert placed.id)
    (hledger : origin.state.orderRows placed.id = [])
    (hwritten : (ws.foldl apply origin.state).orders.find? placed.id =
      some (placed.patched (ws.filterMap (orderPatch? placed.id))))
    (hrow : c.state.orders.find? placed.id = some order) :
    order = placed.patched (ws.filterMap (orderPatch? placed.id)) ∧
      c.state.orderRows placed.id = rowsOf placed.id ws := by
  have hstate : c.state = post.foldl apply (ws.foldl apply origin.state) := by
    rw [hreplay, hlog, foldl_origin horigin, foldl_append]
  constructor
  · rw [hstate, find?_order_foldl hwritten, patched_of_inert hpost] at hrow
    exact (Option.some.inj hrow).symm
  · rw [hstate, orderRows_foldl, orderRows_foldl, hledger, rowsOf_eq_nil hpost, nil_append,
      append_nil]

theorem Completion.account (h : Completion start id c) (hreplay : c.state = c.log.foldl apply start)
    (hrow : c.state.orders.find? id = some order) : Account order (c.state.orderRows id) := by
  cases h with
  | settled _ placed _ writes _ horigin hplaced _ hledger hwaiting huser _ hsettled hlog hpost =>
    obtain rfl : placed.id = id := Table.key_of_find? hplaced
    obtain ⟨rfl, hrows⟩ := completed_row hreplay horigin hlog hpost hledger
      (find?_order_foldl hplaced writes) hrow
    rw [hrows]
    exact (hsettled.account huser hwaiting.gateway hwaiting.topUp).of_terms (placed.terms_patched _)
  | bought _ _ placed _ _ horigin hledger hid hplaced hpaid hlog hpost =>
    subst hid
    obtain ⟨rfl, hrows⟩ := completed_row hreplay horigin hlog hpost hledger
      (hplaced.find? (find?_order_of_fresh hplaced.fresh_le)) hrow
    rw [hrows]
    exact (hplaced.account hpaid).of_terms (placed.terms_patched _)

/-! ## Refunds -/

theorem Refunded.rows (h : Refunded order ws) :
    ∃ row, Posts row order.userId (-order.amountRub) .refund (some order.id) ∧
      rowsOf order.id ws = [row] := by
  obtain ⟨row, rest, -, hposts, hrest⟩ := h
  have hnone : rowsOf order.id rest = [] := by
    rw [rowsOf, filterMap_eq_nil_iff.mpr fun w hw => ?_, filter_nil]
    obtain ⟨sub, patch, rfl⟩ := hrest w hw
    rfl
  refine ⟨row, hposts, ?_⟩
  rw [rowsOf_append, rowsOf_posting hposts, rowsOf_cons_of_none rfl, hnone, append_nil]

theorem orderRows_refund (hrow : c.state.orders.find? id = some order)
    (hrefund : Operation.run cfg (.refundOrder id reason deactivate) world c = (.ok (), later)) :
    ∃ row, Posts row order.userId (-order.amountRub) .refund (some id) ∧
      later.state.orderRows id = c.state.orderRows id ++ [row] := by
  have houtcome := outcome_refundOrder (S := (· = c)) (t := Tx.start (world.session c.state)) id
    reason deactivate
  rcases houtcome.request with ⟨value, ws, hrun, found, ⟨c', rfl, hfound⟩, hrefunded⟩ | ⟨e, hrun⟩
  · obtain rfl : order = found := Option.mem_unique hrow hfound
    obtain rfl : order.id = id := Table.key_of_find? hrow
    obtain ⟨row, hposts, hrows⟩ := hrefunded.rows
    have hlater : later = c'.extend ws := congrArg Prod.snd (hrefund.symm.trans hrun)
    refine ⟨row, hposts, ?_⟩
    have hfold := orderRows_foldl order.id ws c'.state
    rw [hrows] at hfold
    rw [hlater]
    exact hfold
  · cases hrefund.symm.trans hrun

/-- Something was bought with the order. -/
def Database.Purchased (db : Database) (id : Uuid) : Prop :=
  ∃ row ∈ db.orderRows id, row.type = .purchase ∨ row.type = .deviceSlotPurchase

instance (db : Database) (id : Uuid) : Decidable (db.Purchased id) :=
  inferInstanceAs (Decidable (∃ row ∈ db.orderRows id, _))

theorem Debits.amount (h : Debits debit order) : debit.amount = -order.amountRub := by
  rcases h.posts with h | h
  · exact h.amount
  · exact h.amount

/-- **What a refund leaves.** A refund of a completed order adds one row of minus its
amount. The rows of an order that was paid through a gateway or with Stars then add up
to zero if nothing was bought with the payment, as always for a top-up, and to minus the
amount if the plan or the device slots were bought with it. -/
theorem total_orderRows_of_refund (cfg : Settings) (hstart : Unknown start id)
    {mid later : Committed engine} (hrun : History cfg (fun _ => True) ⟨start, []⟩ mid)
    (hrow : mid.state.orders.find? id = some order) (hcompleted : order.status = .completed)
    (hamount : 0 < order.amountRub) {world : World} {reason : String} {deactivate : Bool}
    (hrefund : Operation.run cfg (.refundOrder id reason deactivate) world mid = (.ok (), later)) :
    (∃ row, Posts row order.userId (-order.amountRub) .refund (some id) ∧
      later.state.orderRows id = mid.state.orderRows id ++ [row]) ∧
    (order.orderType = .topUp → total (later.state.orderRows id) = 0) ∧
    (order.provider ≠ .balance → ¬ mid.state.Purchased id → total (later.state.orderRows id) = 0) ∧
    (order.provider ≠ .balance → mid.state.Purchased id →
      total (later.state.orderRows id) = -order.amountRub) := by
  obtain ⟨row, hposts, hrows⟩ := orderRows_refund hrow hrefund
  refine ⟨⟨row, hposts, hrows⟩, ?_⟩
  obtain ⟨hreplay, hlife⟩ := Life.history hstart hrun
  have haccount : Account order (mid.state.orderRows id) :=
    (hlife.completion hrow hcompleted).account hreplay hrow
  have hsum : total (later.state.orderRows id) =
      total (mid.state.orderRows id) - order.amountRub := by
    simp [hrows, total, hposts.amount, sub_eq_add_neg]
  rw [hsum, Database.Purchased]
  generalize mid.state.orderRows id = rows at haccount ⊢
  cases haccount with
  | credited payment _ hpayment =>
    have hneutral : total [payment] - order.amountRub = 0 := by
      simp [total, hpayment.amount]
    refine ⟨fun _ => hneutral, fun _ _ => hneutral, ?_⟩
    rintro - ⟨bought, hmem, htype⟩
    obtain rfl := List.mem_singleton.mp hmem
    simp [hpayment.type] at htype
  | spent _ debit _ hpayment hdebit =>
    refine ⟨fun htopUp => absurd htopUp hdebit.type, fun _ hnone => ?_, fun _ _ => ?_⟩
    · exact absurd ⟨debit, by simp, hdebit.posts.imp (·.type) (·.type)⟩ hnone
    · simp [total, hpayment.amount, hdebit.amount]
  | debited _ hbalance hdebit =>
    exact ⟨fun htopUp => absurd htopUp hdebit.type, fun hne => absurd hbalance hne,
      fun hne => absurd hbalance hne⟩
  | trial _ hzero => exact absurd hzero hamount.ne'

/-- The plan, ordered through the gateway and paid. -/
def paidInvoice : Committed engine :=
  let placed := (Operation.run Scenario.settings (.createOrder Scenario.invoice) Scenario.world
    ⟨Scenario.database 0, []⟩).2
  (Operation.run Scenario.settings
    (.processWebhook "crypto" (Scenario.postback [("amount", .int 100)])) Scenario.world placed).2

theorem unknown_invoice : Unknown (Scenario.database 0) 1 := ⟨by decide +kernel, by decide +kernel⟩

theorem history_paidInvoice :
    History Scenario.settings (fun _ => True) ⟨Scenario.database 0, []⟩ paidInvoice :=
  (History.refl.tail (.createOrder Scenario.invoice) Scenario.world trivial).tail
    (.processWebhook "crypto" (Scenario.postback [("amount", .int 100)])) Scenario.world trivial

/-- The plan, bought from the balance. -/
def boughtPlan : Committed engine :=
  (Operation.run Scenario.settings (.createOrder Scenario.purchase) Scenario.world
    ⟨Scenario.database 100, []⟩).2

def refundRun (id : Uuid) (c : Committed engine) : Except BillingError Unit × Committed engine :=
  Operation.run Scenario.settings (.refundOrder id "request" true) Scenario.world c

/-- The refund of a plan that was bought through the gateway. -/
theorem total_orderRows_of_refund_invoice :
    ∃ order later, paidInvoice.state.orders.find? 1 = some order ∧ order.status = .completed ∧
      refundRun 1 paidInvoice = (.ok (), later) ∧ paidInvoice.state.Purchased 1 ∧
      total (later.state.orderRows 1) = -order.amountRub := by
  have hpaid : (paidInvoice.state.orders.find? 1).any (fun order =>
      order.status = .completed ∧ order.provider ≠ .balance ∧ 0 < order.amountRub) = true := by
    decide +kernel
  obtain ⟨order, hrow, hpaid⟩ := (Option.any_eq_true _ _).mp hpaid
  obtain ⟨hcompleted, hprovider, hamount⟩ := of_decide_eq_true hpaid
  have hbought : paidInvoice.state.Purchased 1 := by decide +kernel
  have hrefund : refundRun 1 paidInvoice = (.ok (), (refundRun 1 paidInvoice).2) :=
    Prod.ext (by decide +kernel) rfl
  obtain ⟨-, -, -, htotal⟩ := total_orderRows_of_refund Scenario.settings unknown_invoice
    history_paidInvoice hrow hcompleted hamount hrefund
  exact ⟨order, _, hrow, hcompleted, hrefund, hbought, htotal hprovider hbought⟩

/-- Refunds that leave the ledger of the order out of balance: of a plan that was bought
through the gateway, and of one that was bought from the balance. -/
theorem refund_leaves_negative_total :
    (paidInvoice.state.status? 1 = some .completed ∧ (refundRun 1 paidInvoice).1 = .ok () ∧
      total ((refundRun 1 paidInvoice).2.state.orderRows 1) = -100) ∧
    (boughtPlan.state.status? 2 = some .completed ∧ (refundRun 2 boughtPlan).1 = .ok () ∧
      total ((refundRun 2 boughtPlan).2.state.orderRows 2) = -200) := by
  decide +kernel

end VpnControl.Billing

/-
# A payment is delivered once

Gateways repeat their webhooks, and a repetition may run while the first delivery is
still open. Each of them locks the order row before it looks at its status, so one of
them finds the order pending and settles it, and the others find it final. The
protocol below says that for the committed state: as long as the order is not final
nothing has been credited, bought, delivered or activated for it, and never more than
once.
-/

import VpnControl.Billing.Fulfilment
import VpnControl.Billing.Scenario

namespace VpnControl.Billing

open Txn Protocol List Write
open Table

variable {before : List Write} {fresh : Uuid}

/-! ## Counting -/

def isPaymentOf (order : Uuid) (row : BalanceTransaction) : Bool :=
  row.type = .payment ∧ row.orderId = some order

def isPurchaseOf (order : Uuid) (row : BalanceTransaction) : Bool :=
  row.type ∈ [.purchase, .deviceSlotPurchase] ∧ row.orderId = some order

def isActivationOf (order : Uuid) (row : PromoActivation) : Bool := row.orderId = some order

/-- A write that creates a subscription or extends one, in time or in device slots. -/
def Write.isDelivery : Write → Bool
  | .insertSubscription _ => true
  | .updateSubscription _ patch => patch.expiresAt.isSome || patch.paidDeviceSlots.isSome
  | _ => false

/-- Bounds on what some writes record for an order. -/
structure Counts (order : Uuid) (ws : List Write)
    (payments purchases activations deliveries : ℕ) : Prop where
  payments : ws.countP (fun w => w.transaction?.any (isPaymentOf order)) ≤ payments
  purchases : ws.countP (fun w => w.transaction?.any (isPurchaseOf order)) ≤ purchases
  activations : ws.countP (fun w => w.activation?.any (isActivationOf order)) ≤ activations
  deliveries : ws.countP Write.isDelivery ≤ deliveries

variable {S : Committed engine → Prop} {order row : PaymentOrder} {ws rest : List Write}
  {c : Committed engine} {db : Database} {id : Uuid}

theorem Counts.append (h : Counts id ws p q a d) (h' : Counts id rest p' q' a' d') :
    Counts id (ws ++ rest) (p + p') (q + q') (a + a') (d + d') where
  payments := by rw [countP_append]; exact Nat.add_le_add h.payments h'.payments
  purchases := by rw [countP_append]; exact Nat.add_le_add h.purchases h'.purchases
  activations := by rw [countP_append]; exact Nat.add_le_add h.activations h'.activations
  deliveries := by rw [countP_append]; exact Nat.add_le_add h.deliveries h'.deliveries

theorem Counts.mono (h : Counts id ws p q a d)
    (hp : p ≤ p') (hq : q ≤ q') (ha : a ≤ a') (hd : d ≤ d') : Counts id ws p' q' a' d' :=
  ⟨h.payments.trans hp, h.purchases.trans hq, h.activations.trans ha, h.deliveries.trans hd⟩

theorem counts_nil : Counts id [] 0 0 0 0 := by
  constructor <;> simp

theorem counts_updateOrder (id target : Uuid) (patch : OrderInternalUpdate) :
    Counts id [.updateOrder target patch] 0 0 0 0 := by
  constructor <;> simp [transaction?, activation?, isDelivery]

theorem counts_payment (h : Posts payment user amount .payment (some order.id)) :
    Counts order.id (posting payment) 1 0 0 0 := by
  constructor <;>
    simp [posting, transaction?, activation?, isDelivery, isPaymentOf,
      isPurchaseOf, h.type, h.orderId]

theorem counts_purchase (htype : type ∈ [.purchase, .deviceSlotPurchase])
    (h : Posts debit user amount type (some order.id)) :
    Counts order.id (posting debit) 0 1 0 0 := by
  have hpayment : type ≠ .payment := by
    rintro rfl
    simp at htype
  have hpurchase : type = .purchase ∨ type = .deviceSlotPurchase := by simpa using htype
  constructor <;>
    simp [posting, transaction?, activation?, isDelivery, isPaymentOf,
      isPurchaseOf, h.type, h.orderId, hpayment, hpurchase]

theorem PromoRecorded.counts (h : PromoRecorded order ws) : Counts order.id ws 0 0 1 0 := by
  rcases h with rfl | ⟨row, hrow, rfl⟩
  · exact counts_nil.mono (le_refl 0) (le_refl 0) zero_le_one (le_refl 0)
  · constructor <;>
      simp [transaction?, activation?, isDelivery, isActivationOf, hrow]

theorem PlanDelivery.counts
    (h : PlanDelivery S before fresh user plan order now sub ws) : Counts order.id ws 0 0 0 1 := by
  cases h <;> constructor <;>
    simp [transaction?, activation?, isDelivery, countP_cons]

theorem SlotDelivery.counts (h : SlotDelivery S before order ws) : Counts order.id ws 0 0 0 1 := by
  cases h <;> constructor <;>
    simp [transaction?, activation?, isDelivery]

theorem OrderDelivery.counts
    (h : OrderDelivery S before fresh account order now ws) : Counts order.id ws 0 1 0 1 := by
  cases h with
  | plan _ _ _ _ _ _ hposts hdelivery =>
    exact (counts_purchase (by simp) hposts).append hdelivery.counts
  | slots _ _ _ hposts hdelivery => exact (counts_purchase (by simp) hposts).append hdelivery.counts
  | withheld => exact counts_nil.mono (le_refl 0) zero_le_one (le_refl 0) zero_le_one

theorem counts_reward (h : ∀ w ∈ ws, w.IsReward) : Counts id ws 0 0 0 0 := by
  constructor <;> rw [Nat.le_zero, countP_eq_zero] <;> intro w hw <;> have hw := h w hw <;>
    cases w <;>
    simp_all [IsReward, transaction?, activation?, isDelivery, isPaymentOf, isPurchaseOf]

/-- A settlement records one payment, and at most one of everything else. -/
theorem Settlement.counts (h : Settlement S before fresh order user ws) :
    Counts order.id ws 1 1 1 1 := by
  obtain ⟨now, fee, payment, promo, delivery, reward, hpayment, -, hpromo, hdelivery, hreward⟩ := h
  have hcompleted := (counts_updateOrder order.id order.id
    { status := some .completed, completedAt := some now }).append (counts_reward hreward)
  have hdelivered := hpromo.counts.append (hdelivery.counts.append hcompleted)
  exact (counts_updateOrder order.id order.id _).append
    ((counts_payment hpayment).append hdelivered)

/-! ## The protocol -/

/-- What the committed state says about an order: nothing has been recorded for it
before it is final, and nothing twice. -/
structure Once (start : Database) (order : PaymentOrder) (c : Committed engine) : Prop where
  replay : c.state = c.log.foldl Database.apply start
  row : ∃ row, c.state.orders.find? order.id = some row ∧
    (row.status ∉ orderFinalStatuses → Counts order.id c.log 0 0 0 0)
  counts : Counts order.id c.log 1 1 1 1
  external : ∀ other ∈ c.state.orders.rows,
    other.externalId = order.externalId → other.id = order.id

/-- What the payment events of an order promise each other. -/
def onceProtocol (start : Database) (order : PaymentOrder) : Protocol engine where
  Inv := Once start order
  Guar _ _ := True
  guard _ _ _ := True
  Done _ := True
  guar_refl _ := trivial
  guar_trans _ _ := trivial

section

variable (h : Once db order c)

include h

theorem Once.external_of_terms {other : PaymentOrder}
    (hold : old ∈ c.state.orders.rows) (hterms : old.terms = other.terms)
    (hexternal : other.externalId = order.externalId) : other.id = order.id := by
  have same := PaymentOrder.sameTerms hterms
  exact same.id ▸ h.external old hold (same.externalId.trans hexternal)

section

variable (hrow : c.state.orders.find? order.id = some row)

include hrow

/-- An event that settles no payment. -/
theorem Once.extend (hpatch : patch.status = none ∨ row.status ∉ orderFinalStatuses) :
    Once db order (c.extend [.updateOrder order.id patch]) := by
  have hcounts := counts_updateOrder order.id order.id patch
  refine ⟨?_, ?_, h.counts.append hcounts, ?_⟩
  · simp [Committed.extend, h.replay]
  · refine ⟨_, find?_order_foldl hrow _, fun hopen => ?_⟩
    obtain ⟨row', hrow', hzero⟩ := h.row
    obtain rfl : row = row' := Option.mem_unique hrow hrow'
    refine (hzero ?_).append hcounts
    rcases hpatch with hnone | hopen
    · simpa [orderPatch?, OrderInternalUpdate.set, hnone] using hopen
    · exact hopen
  · intro other hother hexternal
    obtain ⟨old, hold, hterms⟩ := mem_orders_foldl (by simp) hother
    exact h.external_of_terms hold hterms hexternal

theorem Once.settle (hpending : row.status = .pending)
    (hsettled : Settlement S before fresh row user ws) : Once db order (c.extend ws) := by
  have hid : row.id = order.id := key_of_find? hrow
  obtain ⟨row', hrow', hzero⟩ := h.row
  obtain rfl : row = row' := Option.mem_unique hrow hrow'
  have hopen : row.status ∉ orderFinalStatuses := by
    rw [hpending]
    decide
  refine ⟨?_, ?_, ?_, ?_⟩
  · simp [Committed.extend, h.replay]
  · refine ⟨_, find?_order_foldl hrow _, fun hnot => ?_⟩
    have hstatus := hsettled.status
    rw [hid] at hstatus
    exact absurd (by rw [hstatus]; decide) hnot
  · have hcounts := hsettled.counts
    rw [hid] at hcounts
    exact (hzero hopen).append hcounts
  · intro other hother hexternal
    have hno : ∀ new, .insertOrder new ∉ ws := fun new hnew => hsettled.settles _ hnew
    obtain ⟨old, hold, hterms⟩ := mem_orders_foldl hno hother
    exact h.external_of_terms hold hterms hexternal

theorem Once.payment (hpayment : Payment S before fresh row ws) : Once db order (c.extend ws) := by
  cases hpayment with
  | repeated =>
    rw [Committed.extend_nil]
    exact h
  | settled _ _ hpending _ _ hsettled => exact h.settle hrow hpending hsettled

theorem Once.accepted
    (haccepted : Accepted S before fresh webhook row ws) : Once db order (c.extend ws) := by
  have hid : row.id = order.id := key_of_find? hrow
  cases haccepted with
  | noted _ _ hstatus =>
    rw [hid]
    refine h.extend hrow ?_
    rcases hstatus with hnone | ⟨-, hpending⟩
    · exact .inl hnone
    · right
      rw [hpending]
      decide
  | payment _ _ hpayment => exact h.payment hrow hpayment

end

end

/-! ## The payment events meet it -/

/-- A payment event that has locked the order meets the protocol. -/
theorem once_locked {R : List Write → Prop}
    (hp : Outcome (Once db order) t p fun _ => R) (hwrites : t.writes = [])
    (hkey : RowKey.order row.id ∈ t.keys) (hrow : c.state.orders.find? row.id = some row)
    (hid : row.id = order.id)
    (hR : ∀ later ws, Once db order later → later.state.orders.find? order.id = some row →
      R ws → Once db order (later.extend ws)) :
    (onceProtocol db order).wp p (fun _ => (onceProtocol db order).CommitOk)
      (fun _ _ _ => True) t c := by
  refine wp_commit_locked (P := onceProtocol db order) hp hwrites hkey hrow ?_
  intro done later honce hlater hws
  exact ⟨hR later _ honce (hid ▸ hlater) hws, trivial, trivial⟩

/-- The operation is a payment event of this order, or a webhook that is refused. -/
def Operation.PaysFor (cfg : Settings) (order : PaymentOrder) : Operation → Prop
  | .processWebhook providerName request => ∀ webhook,
      verified? cfg providerName request = some webhook → webhook.externalId = order.externalId
  | .confirmStarsPayment id => id = order.id
  | _ => False

theorem once_program {op : Operation} (hop : op.PaysFor cfg order) :
    (onceProtocol db order).wp (op.program cfg) (fun _ => (onceProtocol db order).CommitOk)
      (fun _ _ _ => True) (Tx.start session) c := by
  cases op with
  | processWebhook providerName request =>
    change (onceProtocol db order).wp (processWebhook cfg providerName request) _ _ _ c
    obtain ⟨error, heq⟩ | ⟨webhook, hverified, heq⟩ := processWebhook_cases cfg providerName request
    · rw [heq]
      exact fun _ _ => trivial
    · rw [heq]
      refine wp_lockOrder ?_
      intro t c row honce hfound hwrites hkey
      have hmem : row ∈ c.state.orders.rows := mem_of_find?_eq_some hfound
      have hrow : row.externalId = webhook.externalId := by simpa using find?_some hfound
      have hid : row.id = order.id := honce.external row hmem (hrow.trans (hop webhook hverified))
      refine once_locked (outcome_acceptLocked cfg .here) hwrites hkey
        (Table.find?_of_mem hmem) hid ?_
      rintro later ws honce hlater ⟨-, haccepted⟩
      exact honce.accepted hlater haccepted
  | confirmStarsPayment id =>
    obtain rfl : id = order.id := hop
    refine wp_lockOrder ?_
    intro t c row honce hfound hwrites hkey
    have hid : row.id = order.id := key_of_find? hfound
    refine once_locked (outcome_confirmLocked cfg .here) hwrites hkey
      (OrderRef.find?_eq_some hfound) hid ?_
    rintro later ws honce hlater ⟨-, hpayment⟩
    exact honce.payment hlater hpayment
  | _ => exact absurd hop id

/-! ## Every run -/

variable {ι : Type} [Fintype ι] [DecidableEq ι]

/-- Counting the rows among some writes. -/
theorem countP_filterMap_any (p : β → Bool) (f : Write → Option β)
    (ws : List Write) : (ws.filterMap f).countP p = ws.countP fun w => (f w).any p := by
  rw [countP_filterMap]
  congr 1
  funext w
  cases f w <;> rfl

/-- **Exactly-once fulfilment.** Nothing has been recorded for an order yet. However many webhooks
and Stars confirmations arrive for it, and in whatever way they are interleaved, repeated or
aborted: at most one payment, one purchase and one promo activation of the order are committed, and
one creation or extension of a subscription. -/
theorem fulfilled_at_most_once (cfg : Settings) (hrow : db.orders.find? order.id = some order)
    (hexternal : ∀ other ∈ db.orders.rows,
      other.externalId = order.externalId → other.id = order.id)
    (hledger : ∀ row ∈ db.transactions, row.orderId ≠ some order.id)
    (hactivations : ∀ row ∈ db.activations, row.orderId ≠ some order.id)
    (ops : ι → Operation) (hops : ∀ i, (ops i).PaysFor cfg order) (sessions : ι → Session)
    {later : System engine BillingError ι} (hrun : System.Runs (fun _ _ _ => True)
      (System.start ⟨db, []⟩ (fun i => (ops i).program cfg) sessions) later) :
    later.db.state.transactions.countP (isPaymentOf order.id) ≤ 1 ∧
      later.db.state.transactions.countP (isPurchaseOf order.id) ≤ 1 ∧
      later.db.log.countP Write.isDelivery ≤ 1 ∧
      later.db.state.activations.countP (isActivationOf order.id) ≤ 1 := by
  have hstart : Once db order ⟨db, []⟩ := by
    refine ⟨rfl, ⟨order, hrow, fun _ => counts_nil⟩, ?_, hexternal⟩
    exact counts_nil.mono zero_le_one zero_le_one zero_le_one zero_le_one
  have hsound : (onceProtocol db order).Sound
      (System.start ⟨db, []⟩ (fun i => (ops i).program cfg) sessions) :=
    sound_start hstart fun i => once_program (hops i)
  have honce : Once db order later.db := (hsound.runs hrun).1.inv
  have hnone : ∀ p : BalanceTransaction → Bool, (∀ row, p row → row.orderId = some order.id) →
      later.db.state.transactions.countP p = later.db.log.countP fun w => w.transaction?.any p := by
    intro p hp
    have hold : db.transactions.countP p = 0 := by
      rw [List.countP_eq_zero]
      exact fun row hmem hpos => hledger row hmem (hp row hpos)
    rw [honce.replay, Database.transactions_foldl, List.countP_append, hold, zero_add,
      countP_filterMap_any]
  have hold : db.activations.countP (isActivationOf order.id) = 0 := by
    rw [List.countP_eq_zero]
    exact fun row hmem hpos => hactivations row hmem (of_decide_eq_true hpos)
  refine ⟨?_, ?_, honce.counts.deliveries, ?_⟩
  · rw [hnone _ fun row hpos => (of_decide_eq_true hpos).2]
    exact honce.counts.payments
  · rw [hnone _ fun row hpos => (of_decide_eq_true hpos).2]
    exact honce.counts.purchases
  · rw [honce.replay, Database.activations_foldl, List.countP_append, hold, zero_add,
      countP_filterMap_any]
    exact honce.counts.activations

/-- The same postback twice. -/
def repeatedWebhook : System engine BillingError Bool :=
  System.start ⟨Scenario.withOrder (Scenario.database 0) Scenario.pendingOrder, []⟩
    (fun _ => (Operation.processWebhook "crypto"
      (Scenario.postback [("amount", .int 100)])).program Scenario.settings)
    fun i => Scenario.session (if i then 10 else 20)

/-- The second webhook waits for the first one and finds the order completed. -/
theorem fulfilled_at_most_once_repeated :
    ∃ later, System.Runs (fun _ _ _ => True) repeatedWebhook later ∧
      (∀ i, (later.committed? i).isSome) ∧
      later.db.state.transactions.countP (isPaymentOf 2) = 1 ∧
      later.db.state.transactions.countP (isPaymentOf 2) ≤ 1 ∧
      later.db.state.transactions.countP (isPurchaseOf 2) ≤ 1 ∧
      later.db.log.countP Write.isDelivery ≤ 1 ∧
      later.db.state.activations.countP (isActivationOf 2) ≤ 1 := by
  let db := Scenario.withOrder (Scenario.database 0) Scenario.pendingOrder
  have hrow : db.orders.find? Scenario.pendingOrder.id = some Scenario.pendingOrder := by
    decide +kernel
  have hexternal : ∀ other ∈ db.orders.rows,
      other.externalId = Scenario.pendingOrder.externalId → other.id = 2 := by
    decide +kernel
  have hpays : ∀ _ : Bool, (Operation.processWebhook "crypto"
      (Scenario.postback [("amount", .int 100)])).PaysFor Scenario.settings
        Scenario.pendingOrder := by
    intro _ webhook hwebhook
    have hverified : (verified? Scenario.settings "crypto"
        (Scenario.postback [("amount", .int 100)])).map WebhookResult.externalId =
          some "invoice" := by decide +kernel
    rw [hwebhook] at hverified
    exact Option.some.inj hverified
  obtain ⟨later, hrun, hdone⟩ := System.exists_run_of_replay (fun _ _ _ => True)
    repeatedWebhook (List.replicate 21 (.step true) ++ List.replicate 2 (.step false))
    (fun later => decide ((∀ i, (later.committed? i).isSome) ∧
      later.db.state.transactions.countP (isPaymentOf 2) = 1)) (by decide +kernel)
  obtain ⟨hcommitted, hpaid⟩ := of_decide_eq_true hdone
  exact ⟨later, hrun, hcommitted, hpaid, fulfilled_at_most_once Scenario.settings hrow
    hexternal (by decide +kernel) (by decide +kernel) _ hpays _ hrun⟩

end VpnControl.Billing

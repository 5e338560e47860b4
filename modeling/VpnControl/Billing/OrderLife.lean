/-
# The life of an order

An order is placed, waits for its payment, is completed by one settlement or bought at
once from the balance, and may be refunded. `Life` is that account for one order in one
committed state: where the order stands, and, once it is completed, the point of the
log at which that happened and the writes it happened with. Every operation moves an
order along its life or leaves it where it is, so after any history of operations the
account holds.
-/

import VpnControl.Billing.OrderSteps

namespace VpnControl.Billing

open Txn List Option Database Write Committed

variable {start : Database} {id : Uuid} {c : Committed engine} {ws : List Write}
  {order : PaymentOrder}

/-! ## The account -/

/-- The terms of an order that waits for a gateway or a Stars payment. -/
structure Waiting (order : PaymentOrder) (db : Database) : Prop where
  gateway : order.provider ≠ .balance ∧ order.provider ≠ .free
  plan : order.orderType ∈ [.planPurchase, .subscriptionRenewal] → order.planId ≠ none
  slots : order.orderType = .deviceSlots →
    ∃ sub, order.subscriptionId = some sub ∧ db.subscriptions.find? sub ≠ none
  topUp : order.orderType = .topUp → order.planId = none

/-- How an order was completed: some operation, running on the committed state `origin`,
settled it or placed it as bought, and nothing has changed it since. -/
inductive Completion (start : Database) (id : Uuid) (c : Committed engine) : Prop
  | settled (origin : Committed engine) (order : PaymentOrder) (user : User)
      (ws post : List Write) (hreplay : origin.state = origin.log.foldl Database.apply start)
      (hrow : origin.state.orders.find? id = some order) (hpending : order.status = .pending)
      (hledger : origin.state.orderRows id = []) (hwaiting : Waiting order origin.state)
      (huser : user.id = order.userId)
      (hseen : origin.state.users.find? order.userId ≠ none)
      (hsettled : Settlement (· = origin) [] origin.state.freshUuid order user ws)
      (hlog : c.log = origin.log ++ (ws ++ post)) (hpost : ∀ w ∈ post, w.Inert id)
  | bought (origin : Committed engine) (data : OrderCreateIn) (order : PaymentOrder)
      (ws post : List Write) (hreplay : origin.state = origin.log.foldl Database.apply start)
      (hledger : origin.state.orderRows id = []) (hid : order.id = id)
      (hplaced : Placed (· = origin) [] origin.state.freshUuid data order ws)
      (hpaid : order.status = .paid) (hlog : c.log = origin.log ++ (ws ++ post))
      (hpost : ∀ w ∈ post, w.Inert id)

/-- Where an order stands. -/
inductive Life (start : Database) (id : Uuid) (c : Committed engine) : Prop
  | absent (hrow : c.state.orders.find? id = none) (hledger : c.state.orderRows id = [])
  | waiting (order : PaymentOrder) (hrow : c.state.orders.find? id = some order)
      (hstatus : order.status = .pending ∨ order.status = .expired)
      (hledger : c.state.orderRows id = []) (hwaiting : Waiting order c.state)
  | completed (order : PaymentOrder) (hrow : c.state.orders.find? id = some order)
      (hstatus : order.status = .completed) (h : Completion start id c)
  | refunded (order : PaymentOrder) (hrow : c.state.orders.find? id = some order)
      (hstatus : order.status = .refunded)

/-! ## Writes that leave the order alone -/

theorem find?_of_inert (h : c.state.orders.find? id = some order) (hws : ∀ w ∈ ws, w.Inert id) :
    (c.extend ws).state.orders.find? id = some order := by
  have hfold := find?_order_foldl h ws
  rw [patched_of_inert hws] at hfold
  exact hfold

theorem orderRows_of_inert (h : c.state.orderRows id = []) (hws : ∀ w ∈ ws, w.Inert id) :
    (c.extend ws).state.orderRows id = [] := by
  have hfold := orderRows_foldl id ws c.state
  rw [h, rowsOf_eq_nil hws] at hfold
  exact hfold

theorem Waiting.foldl (h : Waiting order db) (ws : List Write) :
    Waiting order (ws.foldl apply db) := by
  refine ⟨h.gateway, h.plan, fun htype => ?_, h.topUp⟩
  obtain ⟨sub, hsub, hfound⟩ := h.slots htype
  obtain ⟨row, hrow⟩ := ne_none_iff_exists'.mp hfound
  obtain ⟨row', hrow', -⟩ := find?_subscription_foldl hrow
  exact ⟨sub, hsub, by rw [hrow']; simp⟩

theorem Completion.inert (h : Completion start id c) (hws : ∀ w ∈ ws, w.Inert id) :
    Completion start id (c.extend ws) := by
  cases h with
  | settled origin order user writes post hreplay hrow hpending hledger hwaiting huser hseen
      hsettled hlog hpost =>
      refine .settled origin order user writes (post ++ ws) hreplay hrow hpending hledger hwaiting
        huser hseen hsettled ?_ (forall_mem_append.mpr ⟨hpost, hws⟩)
      simp [extend, hlog, append_assoc]
  | bought origin data order writes post hreplay hledger hid hplaced hpaid hlog hpost =>
    refine .bought origin data order writes (post ++ ws) hreplay hledger hid hplaced hpaid ?_
      (forall_mem_append.mpr ⟨hpost, hws⟩)
    simp [extend, hlog, append_assoc]

theorem Life.inert (h : Life start id c) (hws : ∀ w ∈ ws, w.Inert id)
    (hnew : ∀ row, insertOrder row ∈ ws → row.id ≠ id) : Life start id (c.extend ws) := by
  cases h with
  | absent hrow hledger =>
    exact .absent (find?_order_foldl_eq_none hrow hnew) (orderRows_of_inert hledger hws)
  | waiting order hrow hstatus hledger hwaiting =>
    exact .waiting order (find?_of_inert hrow hws) hstatus (orderRows_of_inert hledger hws)
      (hwaiting.foldl ws)
  | completed order hrow hstatus h =>
    exact .completed order (find?_of_inert hrow hws) hstatus (h.inert hws)
  | refunded order hrow hstatus => exact .refunded order (find?_of_inert hrow hws) hstatus

/-! ## Placing an order -/

section

variable {S : Committed engine → Prop} {before : List Write} {fresh : Uuid}
  {data : OrderCreateIn}

section

variable (h : Placed S before fresh data order ws)

include h

theorem Placed.fresh_le : fresh ≤ order.id := by
  cases h <;> subst_vars <;> assumption

theorem Placed.eq_cons : ∃ rest, ws = .insertOrder order :: rest := by
  cases h <;> exact ⟨_, rfl⟩

/-- A placed order is the inserted row with the updates that follow. -/
theorem Placed.find? (hnone : db.orders.find? order.id = none) :
    (ws.foldl apply db).orders.find? order.id =
      some (order.patched (ws.filterMap (orderPatch? order.id))) := by
  obtain ⟨rest, rfl⟩ := h.eq_cons
  have hinserted : (db.apply (.insertOrder order)).orders.find? order.id = some order :=
    Table.find?_insert_self hnone
  exact find?_order_foldl hinserted rest

end

/-- The update that completes a bought order. -/
theorem TrialDelivery.patches (h : TrialDelivery fresh user plan order ws) :
    ∃ sub, ws.filterMap (orderPatch? order.id) = [{ subscriptionId := some sub }] := by
  cases h with
  | extended id => exact ⟨id, by simp [filterMap_cons, orderPatch?]⟩
  | created id => exact ⟨id, by simp [filterMap_cons, orderPatch?]⟩

/-- An order that is not left waiting is completed at once. -/
theorem Placed.status (h : Placed S before fresh data order ws) (hpaid : order.status = .paid) :
    (order.patched (ws.filterMap (orderPatch? order.id))).status = .completed := by
  cases h with
  | topUp | slots | plan =>
    subst_vars
    cases hpaid
  | balanceSlots _ _ _ _ _ _ _ _ _ _ _ _ _ _ _ _ _ _ hdelivery =>
    simp [filterMap_cons, orderPatch?, hdelivery.patches, OrderInternalUpdate.set]
  | balancePlan _ _ _ _ _ _ _ _ _ _ _ _ _ _ _ _ _ _ _ _ hdelivery hpromo =>
    simp [filterMap_cons, orderPatch?, hdelivery.patches, hpromo.patches, OrderInternalUpdate.set]
  | trial _ _ _ _ _ _ _ _ _ _ hdelivery =>
    obtain ⟨sub, hpatches⟩ := hdelivery.patches
    simp [filterMap_cons, orderPatch?, hpatches, OrderInternalUpdate.set]

end

/-- A placed order waits for its payment or is completed. -/
theorem Life.placed (hreplay : c.state = c.log.foldl apply start)
    (hledger : c.state.orderRows order.id = [])
    (hplaced : Placed (· = c) [] c.state.freshUuid data order ws) :
    Life start order.id (c.extend ws) := by
  have hnone := find?_order_of_fresh hplaced.fresh_le
  have hrow : (c.extend ws).state.orders.find? order.id = _ := hplaced.find? hnone
  have hrows : (c.extend ws).state.orderRows order.id = rowsOf order.id ws := by
    have hfold := orderRows_foldl order.id ws c.state
    rwa [hledger, nil_append] at hfold
  by_cases hpaid : order.status = .paid
  · refine .completed _ hrow (hplaced.status hpaid) ?_
    exact .bought c data order ws [] hreplay hledger rfl hplaced hpaid
      (by simp [extend]) (by simp)
  · cases hplaced with
    | topUp _ _ _ _ _ _ _ hgateway _ _ horder =>
      refine .waiting order hrow (.inl (by rw [horder]; rfl)) hrows ?_
      exact ⟨horder ▸ hgateway, by simp [horder, OrderInternalCreate.row],
        by simp [horder, OrderInternalCreate.row], by simp [horder, OrderInternalCreate.row]⟩
    | slots _ sub _ _ id _ _ _ hgateway _ hseen _ _ _ horder =>
      have hpatched : order.patched
          ([.insertOrder order, .updateOrder order.id { subscriptionId := some sub }].filterMap
            (orderPatch? order.id)) = { order with subscriptionId := some sub } := by
        simp [filterMap_cons, orderPatch?, OrderInternalUpdate.set]
      rw [hpatched] at hrow
      refine .waiting _ hrow (.inl (by simp [horder, slotOrder, OrderInternalCreate.row]))
        hrows ⟨?_, ?_, ?_, ?_⟩
      · rw [horder]
        exact hgateway
      · simp [horder, slotOrder, OrderInternalCreate.row]
      · intro _
        obtain ⟨c', rfl, hfound⟩ := hseen
        exact ⟨sub, rfl, hfound⟩
      · simp [horder, slotOrder, OrderInternalCreate.row]
    | plan _ _ _ _ _ _ _ htype hgateway hplan _ _ _ _ horder =>
      refine .waiting order hrow (.inl (by rw [horder]; rfl)) hrows ?_
      have htype : order.orderType ∈ [.planPurchase, .subscriptionRenewal] := by
        rw [horder]
        exact htype
      refine ⟨horder ▸ hgateway, fun _ => ?_, fun hslots => ?_, fun htopUp => ?_⟩
      · rw [horder]
        simp [planOrder, OrderInternalCreate.row, hplan]
      · simp [hslots] at htype
      · simp [htopUp] at htype
    | balanceSlots | balancePlan | trial =>
      subst_vars
      exact absurd rfl hpaid

/-! ## One operation -/

theorem Life.cases_of_row (h : Life start id c) (hrow : c.state.orders.find? id = some order) :
    ((order.status = .pending ∨ order.status = .expired) ∧ c.state.orderRows id = [] ∧
        Waiting order c.state) ∨
      (order.status = .completed ∧ Completion start id c) ∨ order.status = .refunded := by
  cases h with
  | absent hnone => cases hrow.symm.trans hnone
  | waiting other hother hstatus hledger hwaiting =>
    obtain rfl : order = other := mem_unique hrow hother
    exact .inl ⟨hstatus, hledger, hwaiting⟩
  | completed other hother hstatus h =>
    obtain rfl : order = other := mem_unique hrow hother
    exact .inr (.inl ⟨hstatus, h⟩)
  | refunded other hother hstatus =>
    obtain rfl : order = other := mem_unique hrow hother
    exact .inr (.inr hstatus)

theorem Life.completion (h : Life start id c) (hrow : c.state.orders.find? id = some order)
    (hcompleted : order.status = .completed) : Completion start id c := by
  rcases h.cases_of_row hrow with ⟨hwaiting, -⟩ | ⟨-, hcompletion⟩ | hrefunded
  · simp [hcompleted] at hwaiting
  · exact hcompletion
  · simp [hcompleted] at hrefunded

theorem Waiting.of_terms (h : Waiting order db)
    (hterms : order'.terms = order.terms) (hsub : order'.subscriptionId = order.subscriptionId) :
    Waiting order' db := by
  obtain ⟨-, -, -, hprovider, -, htype, hplan, -⟩ := PaymentOrder.sameTerms hterms
  refine ⟨hprovider ▸ h.gateway, ?_, ?_, ?_⟩
  · rw [htype, hplan]
    exact h.plan
  · rw [htype, hsub]
    exact h.slots
  · rw [htype, hplan]
    exact h.topUp

theorem patched_expired
    (h : ∀ patch ∈ patches, patch = { status := some .expired }) (order : PaymentOrder) :
    ((order.patched patches).status = order.status ∨ (order.patched patches).status = .expired) ∧
      (order.patched patches).subscriptionId = order.subscriptionId := by
  induction patches generalizing order with
  | nil => exact ⟨.inl rfl, rfl⟩
  | cons patch _ ih =>
    obtain rfl := h patch (by simp)
    obtain ⟨hstatus, hsub⟩ := ih (fun other hother => h other (mem_cons_of_mem _ hother))
      (OrderInternalUpdate.set { status := some .expired } order)
    refine ⟨.inr ?_, hsub⟩
    rcases hstatus with hsame | hexpired
    · exact hsame
    · exact hexpired

theorem Life.expire (h : Life start id c) (hrow : c.state.orders.find? id = some order)
    (hpending : order.status = .pending)
    (hws : ∀ w ∈ ws, ∃ other, w = .updateOrder other { status := some .expired }) :
    Life start id (c.extend ws) := by
  have hpatches : ∀ patch ∈ ws.filterMap (orderPatch? id), patch = { status := some .expired } := by
    intro patch hpatch
    obtain ⟨w, hw, hsome⟩ := mem_filterMap.mp hpatch
    obtain ⟨other, rfl⟩ := hws w hw
    simp only [orderPatch?] at hsome
    split at hsome
    · exact (some.inj hsome).symm
    · cases hsome
  have hrows : rowsOf id ws = [] := by
    rw [rowsOf, filter_eq_nil_iff]
    intro row hmem
    obtain ⟨w, hw, hsome⟩ := mem_filterMap.mp hmem
    obtain ⟨other, rfl⟩ := hws w hw
    cases hsome
  rcases h.cases_of_row hrow with ⟨-, hledger, hwaiting⟩ | ⟨hcompleted, -⟩ | hrefunded
  · have hrow' : (c.extend ws).state.orders.find? id = _ := find?_order_foldl hrow ws
    obtain ⟨hstatus, hsub⟩ := patched_expired hpatches order
    rw [hpending] at hstatus
    refine .waiting _ hrow' hstatus ?_ ?_
    · have hfold := orderRows_foldl id ws c.state
      rwa [hledger, hrows] at hfold
    · exact (hwaiting.foldl ws).of_terms (order.terms_patched _) hsub
  · rw [hpending] at hcompleted
    cases hcompleted
  · rw [hpending] at hrefunded
    cases hrefunded

/-- **One operation moves an order along its life.** -/
theorem Life.step (hreplay : c.state = c.log.foldl apply start) (h : Life start id c)
    (hstep : OrderStep c id ws) : Life start id (c.extend ws) := by
  cases hstep with
  | untouched _ hws =>
    exact h.inert (fun w hw => .inl (hws w hw)) fun row hrow heq => hws _ hrow heq
  | placed _ _ _ hid hplaced =>
    subst hid
    have hnone := find?_order_of_fresh hplaced.fresh_le
    cases h with
    | absent _ hledger => exact Life.placed hreplay hledger hplaced
    | waiting _ hrow => cases hnone.symm.trans hrow
    | completed _ hrow => cases hnone.symm.trans hrow
    | refunded _ hrow => cases hnone.symm.trans hrow
  | paid order _ hrow hpayment =>
    cases hpayment with
    | repeated =>
      rw [extend_nil]
      exact h
    | settled user _ hpending huser hseen hsettled =>
      obtain rfl : order.id = id := Table.key_of_find? hrow
      rcases h.cases_of_row hrow with ⟨-, hledger, hwaiting⟩ | ⟨hcompleted, -⟩ | hrefunded
      · obtain ⟨c', rfl, hseen⟩ := hseen
        have hrow' : (c'.extend ws).state.orders.find? order.id = _ := find?_order_foldl hrow ws
        refine .completed _ hrow' hsettled.status ?_
        exact .settled c' order user ws [] hreplay hrow hpending hledger hwaiting huser hseen
          hsettled (by simp [extend]) (by simp)
      · rw [hpending] at hcompleted
        cases hcompleted
      · rw [hpending] at hrefunded
        cases hrefunded
  | noted _ _ hrow hstatus =>
    rcases hstatus with rfl | ⟨rfl, hpending⟩
    · refine h.inert (fun w hw => .inr ?_) (by simp)
      exact mem_singleton.mp hw
    · refine h.expire hrow hpending fun w hw => ⟨id, ?_⟩
      exact mem_singleton.mp hw
  | refunded order _ hrow hrefunded =>
    obtain rfl : order.id = id := Table.key_of_find? hrow
    have hrow' : (c.extend ws).state.orders.find? order.id = _ := find?_order_foldl hrow ws
    exact .refunded _ hrow' hrefunded.status
  | supportRefunded _ _ hrow =>
    rcases h.cases_of_row hrow with ⟨hwaiting | hwaiting, -⟩ | ⟨hcompleted, -⟩ | hrefunded <;>
      simp_all
  | expired _ _ hrow hpending =>
    refine h.expire hrow hpending fun w hw => ?_
    obtain ⟨other, -, rfl⟩ := mem_map.mp hw
    exact ⟨other, rfl⟩

/-! ## Every history -/

/-- An order that does not exist at the start, and that no ledger row mentions. -/
structure Unknown (start : Database) (id : Uuid) : Prop where
  order : start.orders.find? id = none
  ledger : ∀ row ∈ start.transactions, row.orderId ≠ some id

/-- **After any history of operations, every order stands somewhere in its life.** -/
theorem Life.history (hstart : Unknown start id) (hrun : History cfg allowed ⟨start, []⟩ c) :
    c.state = c.log.foldl apply start ∧ Life start id c := by
  induction hrun with
  | refl =>
    refine ⟨rfl, .absent hstart.order ?_⟩
    rw [orderRows, filter_eq_nil_iff]
    intro row hrow
    simpa using hstart.ledger row hrow
  | tail op world _ _ ih =>
    obtain ⟨hreplay, hlife⟩ := ih
    obtain ⟨ws, hrun, hstep⟩ := op.step cfg world _ id
    rw [hrun]
    refine ⟨?_, hlife.step hreplay hstep⟩
    simp [extend, hreplay]

end VpnControl.Billing

/-
# What one operation does to one order

An operation places one order, settles one, refunds one, or expires several; every
other order it leaves alone. `OrderStep` lists the possibilities for a given order with
the state they start from. The life of an order is an induction over these steps, and
none of its proofs looks at the code again.
-/

import VpnControl.Billing.Placement

namespace VpnControl.Billing

open Txn List Table

variable {S : Committed engine → Prop} {t : Tx engine} {ws : List Write} {id : Uuid}
  {order : PaymentOrder} {c : Committed engine} {db : Database} {cfg : Settings}

/-! ## Fresh identifiers -/

private theorem le_foldr_max {ns : List ℕ} (h : n ∈ ns) : n ≤ ns.foldr max 0 := by
  induction ns with
  | nil => cases h
  | cons _ _ ih =>
    rw [foldr_cons]
    rcases mem_cons.mp h with rfl | hrest
    · exact le_max_left _ _
    · exact (ih hrest).trans (le_max_right _ _)

private theorem not_freshUuid_le
    (h : id ∈ db.orders.rows.map PaymentOrder.id ++ db.subscriptions.rows.map Subscription.id) :
    ¬ db.freshUuid ≤ id := by
  exact Nat.not_le.mpr (Nat.lt_one_add_iff.mpr (le_foldr_max h))

theorem find?_order_of_fresh (h : db.freshUuid ≤ id) : db.orders.find? id = none := by
  rw [Table.find?_eq_none]
  rintro row hrow rfl
  exact not_freshUuid_le (mem_append_left _ (mem_map_of_mem hrow)) h

theorem find?_subscription_of_fresh (h : db.freshUuid ≤ id) : db.subscriptions.find? id = none := by
  rw [Table.find?_eq_none]
  rintro row hrow rfl
  exact not_freshUuid_le (mem_append_right _ (mem_map_of_mem hrow)) h

/-! ## Steps -/

/-- What an operation that runs on `c` does to the order `id`. -/
inductive OrderStep (c : Committed engine) (id : Uuid) : List Write → Prop
  | untouched (ws : List Write) (h : ∀ w ∈ ws, ¬ w.Mentions id) : OrderStep c id ws
  | placed (data : OrderCreateIn) (order : PaymentOrder) (ws : List Write) (hid : order.id = id)
      (h : Placed (· = c) [] c.state.freshUuid data order ws) : OrderStep c id ws
  | paid (order : PaymentOrder) (ws : List Write) (hrow : c.state.orders.find? id = some order)
      (h : Payment (· = c) [] c.state.freshUuid order ws) : OrderStep c id ws
  | noted (order : PaymentOrder) (status : Option OrderStatus)
      (hrow : c.state.orders.find? id = some order)
      (hstatus : status = none ∨ status = some .expired ∧ order.status = .pending) :
      OrderStep c id [.updateOrder id { status := status }]
  | refunded (order : PaymentOrder) (ws : List Write)
      (hrow : c.state.orders.find? id = some order) (h : Refunded order ws) : OrderStep c id ws
  | supportRefunded (order : PaymentOrder) (ws : List Write)
      (hrow : c.state.orders.find? id = some order) (hpaid : order.status = .paid) :
      OrderStep c id ws
  | expired (order : PaymentOrder) (ids : List Uuid)
      (hrow : c.state.orders.find? id = some order) (hpending : order.status = .pending) :
      OrderStep c id (Stmt.writes (.expireOrders ids))

theorem OrderStep.of_settles (h : ∀ w ∈ ws, w.Settles order.id) (hne : id ≠ order.id) :
    OrderStep c id ws :=
  .untouched ws fun w hw => (h w hw).not_mentions hne

theorem Placed.settles (h : Placed S before fresh data order ws) :
    ∀ w ∈ ws, w = .insertOrder order ∨ w.Settles order.id := by
  cases h with
  | topUp => simp
  | slots => simp [Write.Settles]
  | plan => simp
  | balanceSlots _ _ _ id _ _ _ _ delivery _ _ _ _ _ _ _ _ hposts hdelivery =>
    have hslots : ∀ w ∈ delivery, w.Settles order.id := by
      cases hdelivery <;> simp [Write.Settles]
    refine forall_mem_cons.mpr ⟨.inl rfl, fun w hw => .inr ?_⟩
    simp only [mem_append, mem_singleton] at hw
    rcases hw with hw | hw | rfl
    · exact settles_posting hposts w hw
    · exact hslots w hw
    · rfl
  | balancePlan _ _ _ _ _ _ _ _ _ _ _ _ _ _ _ _ _ _ _ hposts hdelivery hpromo =>
    refine forall_mem_cons.mpr ⟨.inl rfl, fun w hw => .inr ?_⟩
    simp only [mem_append, mem_cons] at hw
    rcases hw with hw | hw | rfl | hw
    · exact settles_posting hposts w hw
    · exact hdelivery.settles w hw
    · rfl
    · exact hpromo.settles w hw
  | trial _ _ id _ _ _ delivery _ _ _ hdelivery =>
    have htrial : ∀ w ∈ delivery, w.Settles order.id := by
      cases hdelivery <;> simp [Write.Settles]
    refine forall_mem_cons.mpr ⟨.inl rfl, fun w hw => .inr ?_⟩
    simp only [mem_append, mem_singleton] at hw
    rcases hw with hw | rfl
    · exact htrial w hw
    · rfl

theorem Placed.not_mentions (h : Placed S before fresh data order ws) (hne : id ≠ order.id) :
    ∀ w ∈ ws, ¬ w.Mentions id := by
  intro w hw
  rcases h.settles w hw with rfl | hsettles
  · exact fun heq => hne heq.symm
  · exact hsettles.not_mentions hne

/-! ## Operations -/

theorem OrderStep.of_accepted (hrow : c.state.orders.find? order.id = some order)
    (h : Accepted (· = c) [] c.state.freshUuid webhook order ws) : OrderStep c id ws := by
  by_cases hid : id = order.id
  · subst hid
    cases h with
    | noted status _ hstatus => exact .noted order status hrow hstatus
    | payment _ _ hpayment => exact .paid order ws hrow hpayment
  · exact .of_settles h.settles hid

/-- A purely quiet operation. -/
theorem outcome_untouched (h : Writes (fun w => ¬ w.Mentions id) p) :
    Outcome (· = c) t p fun _ => OrderStep c id :=
  (outcome_writes h).mono fun _ ws hws => .untouched ws hws

theorem outcome_refundOrder (orderId : Uuid) (reason : String) (deactivate : Bool) :
    Outcome S t (refundOrder orderId reason deactivate) fun _ ws => ∃ order,
      Saw S t.writes (fun db => db.orders.find? orderId = some order) ∧ Refunded order ws := by
  refine outcome_lockOrder (fun mid _ => .raise) fun order mid _ hseen => ?_
  exact outcome_refundLocked.mono fun _ ws h => ⟨order, hseen, h⟩

theorem outcome_refundLastOrder (id : Uuid) :
    Outcome S t (refundLastOrder ticket admin) fun _ ws => ∃ order,
      Saw S t.writes (fun db => db.orders.find? order.id = some order) ∧ order.status = .paid ∧
      ∀ w ∈ ws, w.Mentions id → id = order.id := by
  refine outcome_select_some rfl fun _ row _ _ => outcome_select_some rfl fun c order hc hlast => ?_
  obtain ⟨hmem, hpaid⟩ := mem_filter.mp (argmax_mem hlast)
  have hseen : Saw S t.writes fun db => db.orders.find? order.id = some order :=
    ⟨c, hc, find?_of_mem hmem⟩
  refine (outcome_writes (W := fun w => w.Mentions id → id = order.id) ?_).mono
    fun _ ws h => ⟨order, hseen, (of_decide_eq_true hpaid).2, h⟩
  refine .bind (by simp) fun user => ?_
  cases user with
  | none => simp
  | some =>
    refine .bind (.execute nofun) fun _ => .bind (.updateOrder fun heq => heq.symm) fun _ => ?_
    refine .bind (.bind (by simp) fun _ => .execute ?_) fun _ => ?_
    · intro heq
      exact (Option.some.inj heq).symm
    · exact .bind (.execute nofun) fun _ => .bind (by simp) fun _ => .execute nofun

theorem pending_of_mem_expiredPendingOrders (h : id ∈ db.expiredPendingOrders now limit) :
    ∃ order, db.orders.find? id = some order ∧ order.status = .pending := by
  obtain ⟨order, hmem, rfl⟩ := mem_map.mp h
  have hsorted := mem_of_mem_take hmem
  rw [mem_insertionSort] at hsorted
  obtain ⟨hrow, hexpired⟩ := mem_filter.mp hsorted
  refine ⟨order, find?_of_mem hrow, ?_⟩
  unfold Database.expiredPending at hexpired
  split at hexpired
  · cases hexpired
  · simp only [Bool.and_eq_true, decide_eq_true_eq] at hexpired
    exact hexpired.1

theorem outcome_expirationTick (id : Uuid) {session : Session} :
    Outcome (· = c) (Tx.start session) (expirationTick cfg) fun _ => OrderStep c id := by
  refine outcome_datetimeNow (outcome_select fun mid hmid => ?_)
  subst hmid
  split
  · exact outcome_pure (.untouched [] (by simp))
  · refine .exec fun _ _ => outcome_pure ?_
    rw [append_nil]
    by_cases hmem : id ∈ mid.state.expiredPendingOrders session.now
        (max 1 cfg.billing.expirationBatchSize).toNat
    · obtain ⟨order, hrow, hpending⟩ := pending_of_mem_expiredPendingOrders hmem
      exact .expired order _ hrow hpending
    · refine .untouched _ fun w hw hmentions => ?_
      obtain ⟨other, hother, rfl⟩ := mem_map.mp hw
      obtain rfl : other = id := hmentions
      exact hmem hother

/-- Balance operations do not mention orders. -/
theorem untouched_creditBalance : Writes (fun w => ¬ w.Mentions id) (creditBalance user data) := by
  refine .bind (by simp) fun found => ?_
  cases found with
  | none => simp
  | some =>
    exact .bind (.execute nofun) fun _ =>
      .bind (.bind (by simp) fun _ => .execute nofun) fun _ => by simp

theorem untouched_debitBalance : Writes (fun w => ¬ w.Mentions id) (debitBalance user data) := by
  refine .bind (by simp) fun found => ?_
  cases found with
  | none => simp
  | some =>
    dsimp only
    split
    · simp
    · exact .bind (.execute nofun) fun _ =>
        .bind (.bind (by simp) fun _ => .execute nofun) fun _ => by simp

theorem outcome_program {op : Operation} {world : World} (id : Uuid) :
    Outcome (· = c) (Tx.start (world.session c.state)) (op.program cfg) fun _ =>
      OrderStep c id := by
  cases op with
  | createOrder data =>
    refine .bind (creates_createOrder cfg) ?_
    rintro value ws mid - ⟨order, hplaced, -⟩
    refine outcome_pure ?_
    rw [append_nil]
    by_cases hid : order.id = id
    · exact .placed data order ws hid hplaced
    · exact .untouched ws (hplaced.not_mentions fun heq => hid heq.symm)
  | processWebhook providerName request =>
    refine (outcome_processWebhook cfg).mono ?_
    rintro - ws ⟨webhook, order, -, ⟨c', rfl, hfound⟩, -, haccepted⟩
    exact .of_accepted (OrderRef.find?_eq_some hfound) haccepted
  | confirmStarsPayment orderId =>
    refine (outcome_confirmStarsPayment cfg).mono ?_
    rintro - ws ⟨order, ⟨c', rfl, hfound⟩, -, hpayment⟩
    have hrow : c'.state.orders.find? orderId = some order := hfound
    obtain rfl : order.id = orderId := key_of_find? hrow
    by_cases hid : id = order.id
    · subst hid
      exact .paid order _ hrow hpayment
    · exact .of_settles hpayment.settles hid
  | refundOrder orderId reason deactivate =>
    refine (outcome_refundOrder orderId reason deactivate).mono ?_
    rintro - ws ⟨order, ⟨c', rfl, hfound⟩, hrefunded⟩
    have hrow : c'.state.orders.find? orderId = some order := hfound
    obtain rfl : order.id = orderId := key_of_find? hrow
    by_cases hid : id = order.id
    · subst hid
      exact .refunded order ws hrow hrefunded
    · exact .of_settles hrefunded.settles hid
  | creditBalance user data =>
    exact outcome_untouched (.bind untouched_creditBalance fun _ => by simp)
  | debitBalance user data =>
    exact outcome_untouched (.bind untouched_debitBalance fun _ => by simp)
  | refundLastOrder ticket admin =>
    refine (outcome_refundLastOrder id).mono ?_
    rintro - ws ⟨order, ⟨c', rfl, hfound⟩, hpaid, hmentions⟩
    have hrow : c'.state.orders.find? order.id = some order := hfound
    by_cases hid : id = order.id
    · subst hid
      exact .supportRefunded order ws hrow hpaid
    · exact .untouched ws fun w hw hm => hid (hmentions w hw hm)
  | expirationTick =>
    refine .bind (outcome_expirationTick id) ?_
    rintro value ws mid - hstep
    refine outcome_pure ?_
    rw [append_nil]
    exact hstep
  | updatePlan => exact outcome_untouched (.execute nofun)

theorem Operation.step (cfg : Settings) (op : Operation) (world : World) (c : Committed engine)
    (id : Uuid) : ∃ ws, (op.run cfg world c).2 = c.extend ws ∧ OrderStep c id ws := by
  rcases Outcome.request (outcome_program id) with
    ⟨value, ws, hrun, hstep⟩ | ⟨error, hrun⟩
  · exact ⟨ws, by rw [Operation.run, hrun], hstep⟩
  · refine ⟨[], ?_, .untouched [] (by simp)⟩
    rw [Operation.run, hrun, Committed.extend_nil]

end VpnControl.Billing

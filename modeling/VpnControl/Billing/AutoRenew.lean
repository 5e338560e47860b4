/-
# Automatic renewal

The reconciler gives every due subscription a session of its own, renews it there and
counts it. No session is committed, so a tick leaves the committed tables as they were,
whatever it counts. Its account of itself is therefore true exactly when there was
nothing it could have renewed. When that is, is decided by the selection, the price
preview and the purchase together; `Renewable` spells it out on the tables.
-/

import VpnControl.Billing.Evaluation
import VpnControl.Billing.Scenario

namespace VpnControl.Billing

open Txn List Option Table

variable {renew : AutoRenewConfig} {now : Time} {world : World} {db : Database} {uuid : Uuid}
  {sub : Subscription} {plan : Plan}

/-! ## Selection -/

/-- What the tick knows of a subscription that it selected. -/
structure Due (db : Database) (sub : Subscription) (plan : Plan) (expiry : Time) : Prop where
  row : sub ∈ db.subscriptions.rows
  expiresAt : sub.expiresAt = some expiry
  planId : sub.planId = some plan.id
  found : db.plans.find? plan.id = some plan
  price : 0 < plan.priceRub

theorem due_of_mem (h : sub ∈ renew.due db now) : ∃ plan expiry, Due db sub plan expiry := by
  have hselected := (mem_insertionSort _).mp (mem_of_mem_take h)
  obtain ⟨hrow, hcond⟩ := mem_filter.mp hselected
  simp only [Bool.and_eq_true] at hcond
  obtain ⟨⟨-, hwindow⟩, hpaid⟩ := hcond
  obtain ⟨expiry, hexpiry⟩ : ∃ expiry, sub.expiresAt = some expiry := by
    unfold Database.inRenewalWindow at hwindow
    cases hexpiry : sub.expiresAt with
    | none => simp [hexpiry] at hwindow
    | some expiry => exact ⟨expiry, rfl⟩
  unfold Database.hasPaidPlan at hpaid
  cases hplan : sub.planId.bind db.plans.find? with
  | none => simp [hplan] at hpaid
  | some plan =>
    obtain ⟨planId, hplanId, hfound⟩ := bind_eq_some_iff.mp hplan
    have hid : plan.id = planId := key_of_find? hfound
    rw [← hid] at hplanId hfound
    rw [hplan] at hpaid
    exact ⟨plan, expiry, hrow, hexpiry, hplanId, hfound, of_decide_eq_true hpaid⟩

theorem mem_rows_of_mem_due (turn : Subscription × ℕ) (h : turn ∈ (renew.due db now).zipIdx) :
    turn.1 ∈ db.subscriptions.rows := by
  obtain ⟨plan, expiry, hdue⟩ := due_of_mem (fst_mem_of_mem_zipIdx h)
  exact hdue.row

/-! ## What can be renewed -/

/-- The subscription that a purchase of the plan extends. It need not be the one that is
due. -/
def Database.recipient (db : Database) (user plan : Uuid) : Option Subscription :=
  (db.activeSubscriptionForPlan user plan).or (db.latestSubscription user)

def Database.renewalAmount (db : Database) (sub : Subscription) (now : Time) : Option Money :=
  sub.planId.bind fun planId =>
    (db.previewOrderAmount sub.userId planId sub.periodMonths now).toOption.map
      OrderPreviewOut.amountDue

/-- The subscription is renewed if it is its turn: its period can be ordered and has a
price, the balance of its user covers the previewed amount, the purchase is no downgrade,
its external id is free, and the keys of the subscription it extends can be restored. -/
structure Renewable (world : World) (uuid : Uuid) (db : Database) (sub : Subscription)
    (plan : Plan) (holder : User) (amount : Money) : Prop where
  offered : sub.planId.bind db.plans.find? = some plan
  period : sub.periodMonths ∈ allowedPeriodMonths
  preview : db.renewalAmount sub world.now = some amount
  user : db.users.find? sub.userId = some holder
  covers : amount ≤ holder.balance
  upgrade : db.downgrades sub.userId plan world.now = false
  fresh : ∀ other ∈ db.orders.rows, other.externalId ≠ s!"balance_{uuid}"
  keys : ∀ target, db.recipient sub.userId plan.id = some target → world.restore target.id = .ok ()

section

variable (h : Due db sub plan expiry)

include h

theorem Due.previewed : db.renewalAmount sub now = some amount ↔ ∃ preview,
      db.previewOrderAmount sub.userId plan.id sub.periodMonths now = .ok preview ∧
        preview.amountDue = amount := by
  simp only [Database.renewalAmount, h.planId, bind_some, map_eq_some_iff]
  cases db.previewOrderAmount sub.userId plan.id sub.periodMonths now <;> simp [Except.toOption]

theorem Due.renewalAmount : db.renewalAmount sub now = some amount ↔
      ∃ price, resolvePeriodPrice plan sub.periodMonths = some price ∧
        amount = max 0 (price - db.switchProration sub.userId plan.id now) := by
  simp only [Database.renewalAmount, Database.previewOrderAmount, h.planId, bind_some, h.found]
  cases resolvePeriodPrice plan sub.periodMonths with
  | none => simp [Except.toOption]
  | some => simp [Except.toOption, eq_comm]

theorem Due.recipient : ∃ target, db.recipient sub.userId plan.id = some target := by
  have hmem : sub ∈ db.subscriptions.rows.filter fun other =>
      other.userId = sub.userId ∧ other.expiresAt.isSome := by
    simp [mem_filter, h.row, h.expiresAt]
  cases hlatest : db.latestSubscription sub.userId with
  | none =>
    have hnil := argmax_eq_none.mp hlatest
    rw [hnil] at hmem
    cases hmem
  | some latest =>
    unfold Database.recipient
    rw [hlatest]
    cases db.activeSubscriptionForPlan sub.userId plan.id with
    | none => exact ⟨latest, rfl⟩
    | some active => exact ⟨active, rfl⟩

theorem Due.deliverable (htype : order.orderType = .planPurchase) :
    Deliverable world db sub.userId plan order ↔
      ∀ target, db.recipient sub.userId plan.id = some target →
        world.restore target.id = .ok () := by
  obtain ⟨target, htarget⟩ := h.recipient
  have hpurchase : (db.purchaseTarget sub.userId plan order).map Prod.fst =
      db.recipient sub.userId plan.id := by
    simp only [Database.purchaseTarget, Database.recipient, renewalTarget_of_planPurchase htype]
    cases db.activeSubscriptionForPlan sub.userId plan.id with
    | some => rfl
    | none => cases db.latestSubscription sub.userId <;> rfl
  rw [htarget] at hpurchase ⊢
  obtain ⟨⟨existing, planChanged⟩, hfound, rfl⟩ := map_eq_some_iff.mp hpurchase
  simp [Deliverable, hfound]

end

/-! ## One renewal -/

section

variable {expiry : Time} {holder : User} {price : Money}

theorem Due.createOrder (h : Due db sub plan expiry) (cfg : Settings)
    (hperiod : sub.periodMonths ∈ allowedPeriodMonths)
    (hprice : resolvePeriodPrice plan sub.periodMonths = some price)
    (huser : db.users.find? sub.userId = some holder) :
    (∃ value s', direct world (createOrder cfg (renewalRequest sub plan.id hperiod)) ⟨db, uuid⟩ =
        (.ok value, s')) ↔
      Renewable world uuid db sub plan holder
        (max 0 (price - db.switchProration sub.userId plan.id world.now)) := by
  let data := renewalRequest sub plan.id hperiod
  let s : Store := ⟨db, uuid⟩
  have hid : holder.id = sub.userId := key_of_find? huser
  have hself : s.db.users.find? holder.id = some holder := by rw [hid]; exact huser
  have hcreate : direct world (Billing.createOrder cfg data) s =
      direct world (createPaidPlanOrder cfg holder plan data) s := by
    refine direct_createOrder_plan cfg (mem_cons_self ..) huser rfl h.found ?_ (.inr rfl) h.price
    rintro id ⟨⟩
    exact ⟨sub, find?_of_mem h.row, rfl, h.planId⟩
  have hquote : direct world (quoteOrder data plan) s = _ :=
    direct_quoteOrder world hprice (.inl rfl)
  have hamount : s.db.planAmount data plan price world.now =
      max 0 (price - s.db.switchProration sub.userId plan.id world.now) := by
    simp [data, Database.planAmount, planAmount, renewalRequest]
  rw [hcreate, direct_createPaidPlanOrder_balance cfg rfl, direct_bind, hquote, hamount]
  let quote : OrderQuote :=
    { amountRub := max 0 (price - db.switchProration sub.userId plan.id world.now) }
  have hdeliverable : Deliverable world db holder.id plan (balancePlanRow world data quote uuid) ↔
      ∀ target, db.recipient sub.userId plan.id = some target →
        world.restore target.id = .ok () := by
    rw [hid]
    exact h.deliverable rfl
  by_cases hdown : db.downgrades sub.userId plan world.now = true
  · have hrefused : data.orderType = .planPurchase ∧ s.db.downgrades data.userId plan world.now :=
      ⟨rfl, hdown⟩
    simp only [hrefused, and_self, if_true]
    constructor
    · rintro ⟨value, s', ⟨⟩⟩
    · intro hrenewable
      cases hdown.symm.trans hrenewable.upgrade
  · have hallowed : ¬ (data.orderType = .planPurchase ∧
        s.db.downgrades data.userId plan world.now) := fun hrefused => hdown hrefused.2
    simp only [hallowed, if_false]
    constructor
    · rintro ⟨value, s', hrun⟩
      have hbuyable := Buyable.of_direct hself hrun
      exact
        { offered := by rw [h.planId]; exact h.found, period := hperiod
          preview := h.renewalAmount.mpr ⟨price, hprice, rfl⟩, user := huser
          covers := hbuyable.covers, upgrade := Bool.eq_false_iff.mpr hdown, fresh := hbuyable.fresh
          keys := hdeliverable.mp hbuyable.deliverable }
    · intro hrenewable
      have hfits : fitsInteger data.deviceSlotsQty := by
        show fitsInteger 0
        decide
      have hbuyable : Buyable world s holder plan data quote holder :=
        ⟨hfits, hrenewable.fresh, hrenewable.covers, hdeliverable.mpr hrenewable.keys⟩
      obtain ⟨value, s', hrun, -⟩ := hbuyable.direct hself
      exact ⟨value, s', hrun⟩

/-- When a charge goes through: there is a preview, the balance covers it and the order
is accepted. -/
theorem direct_chargeRenewal (hperiod : sub.periodMonths ∈ allowedPeriodMonths) :
    (∃ s', direct world (chargeRenewal cfg sub planId hperiod) s = (.ok true, s')) ↔
      ∃ preview holder,
        s.db.previewOrderAmount sub.userId planId sub.periodMonths world.now = .ok preview ∧
        s.db.users.find? sub.userId = some holder ∧ preview.amountDue ≤ holder.balance ∧
        ∃ value s', direct world (Billing.createOrder cfg (renewalRequest sub planId hperiod)) s =
          (.ok value, s') := by
  simp only [chargeRenewal, direct_bind, direct_previewOrderAmount]
  cases s.db.previewOrderAmount sub.userId planId sub.periodMonths world.now with
  | error => simp
  | ok preview =>
    simp only [direct_getUser]
    cases s.db.users.find? sub.userId with
    | none => simp
    | some holder =>
      by_cases hcovers : preview.amountDue ≤ holder.balance
      · simp only [not_lt.mpr hcovers, if_false, direct_bind]
        cases direct world (Billing.createOrder cfg (renewalRequest sub planId hperiod)) s with
        | mk result => cases result <;> simp [hcovers]
      · simp [not_le.mp hcovers, hcovers]

/-- A turn counts a subscription exactly if it is renewable. -/
theorem Due.renewOne (h : Due db sub plan expiry) (cfg : Settings) :
    (direct world (renewOne cfg sub) ⟨db, uuid⟩).1 = .ok true ↔
      ∃ plan holder amount, Renewable world uuid db sub plan holder amount := by
  by_cases hperiod : sub.periodMonths ∈ allowedPeriodMonths
  · have hcaught : (direct world (Billing.renewOne cfg sub) ⟨db, uuid⟩).1 = .ok true ↔
        ∃ s', direct world (chargeRenewal cfg sub plan.id hperiod) ⟨db, uuid⟩ = (.ok true, s') := by
      simp only [Billing.renewOne, h.planId, hperiod, dif_pos, direct_tryCatch]
      cases direct world (chargeRenewal cfg sub plan.id hperiod) ⟨db, uuid⟩ with
      | mk result => cases result <;> simp
    rw [hcaught, direct_chargeRenewal]
    constructor
    · rintro ⟨preview, holder, hpreview, huser, hcovers, hrun⟩
      obtain ⟨price, hprice, -⟩ := h.renewalAmount.mp (h.previewed.mpr ⟨preview, hpreview, rfl⟩)
      exact ⟨plan, holder, _, (h.createOrder cfg hperiod hprice huser).mp hrun⟩
    · rintro ⟨other, holder, amount, hrenewable⟩
      have hsame : plan = other := by
        have hoffered := hrenewable.offered
        rw [h.planId, bind_some, h.found] at hoffered
        exact some.inj hoffered
      subst hsame
      obtain ⟨preview, hpreview, rfl⟩ := h.previewed.mp hrenewable.preview
      obtain ⟨price, hprice, hamount⟩ := h.renewalAmount.mp hrenewable.preview
      refine ⟨preview, holder, hpreview, hrenewable.user, hrenewable.covers, ?_⟩
      exact (h.createOrder cfg hperiod hprice hrenewable.user).mpr (hamount ▸ hrenewable)
  · simp only [Billing.renewOne, h.planId, hperiod, dif_neg, not_false_eq_true, direct_pure]
    constructor
    · intro hfalse
      cases hfalse
    · rintro ⟨plan, holder, amount, hrenewable⟩
      exact absurd hrenewable.period hperiod

end

/-! ## The tick -/

/-- A turn of the tick counts the subscription. -/
def counts (cfg : Settings) (world : World) (uuid : Uuid) (db : Database) (sub : Subscription) :
    Bool :=
  match (direct world (renewOne cfg sub) ⟨db, uuid⟩).1 with
  | .ok renewed => renewed
  | .error _ => false

section

variable (cfg : Settings) (worlds : ℕ → World) (uuids : ℕ → Uuid)

def tickSessions (i : ℕ) : Session :=
  Session.new (worlds i).now (uuids i) (worlds i).payment (worlds i).restore

theorem renewTurn_eq : renewTurn cfg (tickSessions worlds uuids) (renewed, c) (sub, i) =
      (renewed + if counts cfg (worlds i) (uuids i) c.state sub then 1 else 0, c) := by
  rw [renewTurn, tickSessions, abandon, (agrees_start.alone _).1]
  unfold counts
  cases (direct (worlds i) (renewOne cfg sub) ⟨c.state, uuids i⟩).1 with
  | error => rfl
  | ok value => cases value <;> rfl

/-- A tick counts the subscriptions whose turn succeeds, and commits nothing. -/
theorem autoRenewTick_eq : autoRenewTick cfg renew now (tickSessions worlds uuids) c =
      ((renew.due c.state now).zipIdx.countP fun (sub, i) =>
        counts cfg (worlds i) (uuids i) c.state sub, c) := by
  have hloop : ∀ (turns : List (Subscription × ℕ)) (renewed : ℕ),
      turns.foldl (renewTurn cfg (tickSessions worlds uuids)) (renewed, c) =
        (renewed + turns.countP fun (sub, i) => counts cfg (worlds i) (uuids i) c.state sub,
          c) := by
    intro turns
    induction turns with
    | nil => intro renewed; rfl
    | cons _ turns ih =>
      intro renewed
      rw [foldl_cons, renewTurn_eq, ih, countP_cons, Nat.add_assoc, Nat.add_comm (countP _ turns)]
  rw [autoRenewTick, hloop, Nat.zero_add]

/-- The tick counts nothing exactly if no selected subscription is renewable. -/
theorem autoRenewTick_fst_eq_zero :
    (autoRenewTick cfg renew now (tickSessions worlds uuids) c).1 = 0 ↔
      ∀ turn ∈ (renew.due c.state now).zipIdx, ¬ ∃ plan holder amount,
        Renewable (worlds turn.2) (uuids turn.2) c.state turn.1 plan holder amount := by
  rw [autoRenewTick_eq]
  dsimp only
  rw [countP_eq_zero]
  refine forall₂_congr fun turn hturn => not_congr ?_
  obtain ⟨plan, expiry, hdue⟩ := due_of_mem (fst_mem_of_mem_zipIdx hturn)
  rw [← hdue.renewOne cfg, counts]
  cases (direct _ (renewOne cfg turn.1) _).1 <;> simp

end

/-! ## Whether the renewals are real -/

/-- The committed row of the subscription is active, and its end is one period after the
old one, or after `now` if that was later. -/
def RenewedIn (later : Database) (now : Time) (sub : Subscription) : Prop :=
  ∃ old row, sub.expiresAt = some old ∧ later.subscriptions.find? sub.id = some row ∧
    row.isActive = true ∧
    row.expiresAt = some (max now old + days (periodDays sub.periodMonths))

/-- Of the turns, exactly `n` have renewed their subscription between `db` and `later`, no
subscription twice, and every user was debited the previewed amounts of theirs. -/
def Renewals (worlds : ℕ → World) (turns : List (Subscription × ℕ)) (db later : Database)
    (n : ℕ) : Prop :=
  ∃ renewed : List (Subscription × ℕ), renewed ⊆ turns ∧
    (renewed.map fun turn => turn.1.id).Nodup ∧ renewed.length = n ∧
    (∀ turn ∈ turns, turn ∈ renewed ↔ RenewedIn later (worlds turn.2).now turn.1) ∧
    ∀ id holder, db.users.find? id = some holder → ∃ holder', later.users.find? id = some holder' ∧
      holder.balance - holder'.balance =
        ((renewed.filter fun turn => turn.1.userId = id).map fun turn =>
          (db.renewalAmount turn.1 (worlds turn.2).now).getD 0).sum

theorem not_renewedIn (hrow : sub ∈ db.subscriptions.rows) : ¬ RenewedIn db now sub := by
  rintro ⟨old, row, hold, hfound, -, hexpiry⟩
  have hsame : sub = row := some.inj ((find?_of_mem hrow).symm.trans hfound)
  rw [← hsame, hold] at hexpiry
  have hlater : old = max now old + days (periodDays sub.periodMonths) := some.inj hexpiry
  have hpos : max now old < max now old + days (periodDays sub.periodMonths) :=
    lt_add_of_pos_right _ (days_periodDays_pos sub.periodMonths)
  exact absurd hlater (lt_of_le_of_lt (le_max_right now old) hpos).ne

/-- On tables that are as they were, only the count zero is right. -/
theorem renewals_self (hrows : ∀ turn ∈ turns, turn.1 ∈ db.subscriptions.rows) :
    Renewals worlds turns db db n ↔ n = 0 := by
  constructor
  · rintro ⟨renewed, hsub, -, hlength, hiff, -⟩
    have hnil : renewed = [] := by
      refine eq_nil_iff_forall_not_mem.mpr fun turn hmem => ?_
      have hturn := hsub hmem
      exact not_renewedIn (hrows turn hturn) ((hiff turn hturn).mp hmem)
    rw [← hlength, hnil, length_nil]
  · rintro rfl
    refine ⟨[], nil_subset _, nodup_nil, rfl, fun turn hturn => ?_,
      fun id holder hholder => ⟨holder, hholder, by simp⟩⟩
    exact iff_of_false not_mem_nil (not_renewedIn (hrows turn hturn))

/-- Nothing that the tick counts is real: it is right exactly if there was nothing to
count. -/
theorem autoRenewTick_renewals_iff (cfg : Settings) (renew : AutoRenewConfig) (now : Time)
    (worlds : ℕ → World) (uuids : ℕ → Uuid) (c : Committed engine) :
    Renewals worlds (renew.due c.state now).zipIdx c.state
        (autoRenewTick cfg renew now (tickSessions worlds uuids) c).2.state
        (autoRenewTick cfg renew now (tickSessions worlds uuids) c).1 ↔
      ∀ turn ∈ (renew.due c.state now).zipIdx, ¬ ∃ plan holder amount,
        Renewable (worlds turn.2) (uuids turn.2) c.state turn.1 plan holder amount := by
  have hsame : (autoRenewTick cfg renew now (tickSessions worlds uuids) c).2 = c := by
    rw [autoRenewTick_eq]
  rw [hsame, ← autoRenewTick_fst_eq_zero cfg]
  exact renewals_self mem_rows_of_mem_due

/-- Subscription 3 of user 1 to the plan, which ends within the hour. -/
def Scenario.expiring : Subscription where
  id := 3
  userId := 1
  planId := some 7
  isActive := true
  expiresAt := some (seconds 3600)
  maxDevices := some 1
  paidDeviceSlots := 0
  periodMonths := 1
  autoRenew := true

/-- The tick counts the subscription, and neither its end nor the balance has changed. -/
theorem autoRenewTick_counts_unrenewed : let c : Committed engine := ⟨{ Scenario.database 500 with
      subscriptions := Table.empty.insert Scenario.expiring }, []⟩
    let tick := autoRenewTick Scenario.settings {} 0 (tickSessions (fun _ => Scenario.world) id) c
    tick.1 = 1 ∧ ¬ Renewals (fun _ => Scenario.world) (AutoRenewConfig.due {} c.state 0).zipIdx
      c.state tick.2.state tick.1 := by
  intro c tick
  have hcount : tick.1 = 1 := by decide +kernel
  have hsame : tick.2.state = c.state := congrArg (·.2.state) (autoRenewTick_eq ..)
  rw [hsame, renewals_self mem_rows_of_mem_due, hcount]
  exact ⟨rfl, Nat.one_ne_zero⟩

end VpnControl.Billing

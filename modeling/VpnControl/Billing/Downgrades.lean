/-
# Downgrades of a running period

`_guard_no_downgrade` is evaluated when a purchase is created, and for purchases only. The
plan changes when the order is fulfilled, whatever its type is, and the subscription that
changes is looked up then. A run in which the guard also passes at every fulfilment that
switches plans never puts a running subscription on a cheaper plan; a renewal that names
no subscription is not guarded and does.
-/

import VpnControl.Billing.Purchases
import VpnControl.Billing.Scenario

namespace VpnControl.Billing

open Txn List

section

variable {cfg : Settings} {c : Committed engine} {now : Time} {db db' : Database}
  {user : Uuid} {plan : Plan} {order : PaymentOrder} {sub sub' : Subscription}
  {oldPlan newPlan : Plan}

/-! ## The subscription that a purchase switches -/

/-- The first of the greatest elements splits its list. -/
theorem argmax_eq_some_iff_append [LinearOrder β] {f : α → β} {l : List α} :
    l.argmax f = some m ↔ ∃ first rest, l = first ++ m :: rest ∧
      (∀ a ∈ first, f a < f m) ∧ ∀ a ∈ rest, f a ≤ f m := by
  constructor
  · induction l with
    | nil => simp
    | cons a l ih =>
      intro h
      rw [argmax_cons] at h
      cases hl : l.argmax f with
      | none =>
        rw [hl] at h
        obtain rfl : a = m := Option.some.inj h
        exact ⟨[], [], by simpa using hl, by simp, by simp⟩
      | some b =>
        rw [hl] at h
        dsimp only at h
        split at h
        · rename_i hlt
          obtain rfl : b = m := Option.some.inj h
          obtain ⟨first, rest, rfl, hfirst, hrest⟩ := ih hl
          exact ⟨a :: first, rest, rfl, forall_mem_cons.mpr ⟨hlt, hfirst⟩, hrest⟩
        · rename_i hle
          obtain rfl : a = m := Option.some.inj h
          refine ⟨[], l, rfl, by simp, fun x hx => ?_⟩
          exact (le_of_mem_argmax hx hl).trans (not_lt.mp hle)
  · rintro ⟨first, rest, rfl, hfirst, hrest⟩
    induction first with
    | nil =>
      rw [nil_append, argmax_cons]
      cases hl : rest.argmax f with
      | none => rfl
      | some b =>
        have hle : f b ≤ f m := hrest b (argmax_mem hl)
        simp [not_lt.mpr hle]
    | cons _ _ ih =>
      rw [forall_mem_cons] at hfirst
      rw [cons_append, argmax_cons, ih hfirst.2]
      simp [hfirst.1]

theorem currentActiveSubscription_of_latest
    (h : db.latestSubscription user = some sub) (hactive : sub.isActive = true)
    (hexpiry : sub.expiresAt = some expiry) (hrunning : now < expiry) :
    db.currentActiveSubscription user now = some sub := by
  have howner := (find?_of_latestSubscription h).1
  obtain ⟨first, rest, hsplit, hfirst, hrest⟩ := argmax_eq_some_iff_append.mp h
  obtain ⟨before, after, hrows, rfl, hafter⟩ := filter_eq_append_iff.mp hsplit
  obtain ⟨skipped, tail, rfl, hskipped, -, rfl⟩ := filter_eq_cons_iff.mp hafter
  simp only [mem_filter, decide_eq_true_eq, hexpiry, Option.getD_some] at hfirst hrest hskipped
  -- A subscription without an end counts as ending now. Every other one is among those
  -- that the latest was taken from.
  have hbefore : ∀ a ∈ before ++ skipped, a.userId = user → a.expiresAt.getD now < expiry := by
    intro a ha huser
    cases hend : a.expiresAt with
    | none => exact hrunning
    | some =>
      rcases mem_append.mp ha with ha | ha
      · simpa [hend] using hfirst a ⟨ha, huser, by simp [hend]⟩
      · exact absurd ⟨huser, by simp [hend]⟩ (hskipped a ha)
  have htail : ∀ a ∈ tail, a.userId = user → a.expiresAt.getD now ≤ expiry := by
    intro a ha huser
    cases hend : a.expiresAt with
    | none => exact hrunning.le
    | some => simpa [hend] using hrest a ⟨ha, huser, by simp [hend]⟩
  have hlive : Database.live now sub = true := by simpa [Database.live, hexpiry] using hrunning
  unfold Database.currentActiveSubscription Database.activeSubscriptions
  let running : Subscription → Bool := fun a =>
    Database.live now a && decide (a.userId = user ∧ a.isActive = true)
  rw [hrows, argmax_eq_some_iff_append, filter_filter]
  refine ⟨(before ++ skipped).filter running, tail.filter running, ?_, ?_, ?_⟩
  · simp [howner, hactive, hlive, running]
  · intro a ha
    simp only [running, mem_filter, Bool.and_eq_true, decide_eq_true_eq] at ha
    rw [hexpiry]
    exact hbefore a ha.1 ha.2.2.1
  · intro a ha
    simp only [running, mem_filter, Bool.and_eq_true, decide_eq_true_eq] at ha
    rw [hexpiry]
    exact htail a ha.1 ha.2.2.1

/-- A purchase switches the plan of the user's latest subscription if the user has no
active one of the bought plan and, for a renewal, names none. -/
theorem purchaseTarget_eq_switch (h : db.purchaseTarget user plan order = some (sub, true)) :
    db.renewalTarget user plan order = none ∧ db.activeSubscriptionForPlan user plan.id = none ∧
      db.latestSubscription user = some sub ∧ sub.planId ≠ some plan.id := by
  unfold Database.purchaseTarget at h
  split at h
  · cases h
  · rename_i hrenewal
    split at h
    · cases h
    · rename_i hactive
      obtain ⟨existing, hlatest, heq⟩ := Option.map_eq_some_iff.mp h
      obtain ⟨rfl, hchanged⟩ := Prod.mk.inj heq
      exact ⟨hrenewal, hactive, hlatest, of_decide_eq_true hchanged⟩

/-- If the guard passes, the plan of a running subscription is switched to no cheaper one. -/
theorem le_of_downgrades_eq_false (hguard : db.downgrades user plan now = false)
    (hlatest : db.latestSubscription user = some sub) (hactive : sub.isActive = true)
    (hexpiry : sub.expiresAt = some expiry) (hrunning : now < expiry)
    (hplanId : sub.planId = some oldPlan.id) (hne : oldPlan.id ≠ plan.id)
    (hplan : db.plans.find? oldPlan.id = some oldPlan) : oldPlan.priceRub ≤ plan.priceRub := by
  have hcurrent := currentActiveSubscription_of_latest hlatest hactive hexpiry hrunning
  have hswitched : db.switchedPlan user plan.id now = some (sub, oldPlan) := by
    simp [Database.switchedPlan, hcurrent, hplanId, hne, hplan]
  simpa [Database.downgrades, hswitched] using hguard

/-! ## Runs -/

/-- No running subscription was put on a cheaper plan. -/
def KeepsPaidPlans (now : Time) (db db' : Database) : Prop :=
  ∀ id sub sub' expiry oldPlan newPlan, db.subscriptions.find? id = some sub →
    db'.subscriptions.find? id = some sub' → sub.isActive = true →
    sub.expiresAt = some expiry → now < expiry →
    sub.planId = some oldPlan.id → db.plans.find? oldPlan.id = some oldPlan →
    sub'.planId = some newPlan.id → db'.plans.find? newPlan.id = some newPlan →
    oldPlan.priceRub ≤ newPlan.priceRub

/-- The guard against downgrades passes for every order that the operation fulfils by
switching plans. -/
def SwitchesGuarded (cfg : Settings) (now : Time) (db : Database) (op : Operation) : Prop :=
  ∀ order plan, Fulfils cfg now db op order → order.planId = some plan.id →
    db.plans.find? plan.id = some plan →
    db.renewalTarget order.userId plan order = none →
    db.activeSubscriptionForPlan order.userId plan.id = none →
    db.downgrades order.userId plan now = false

/-- A subscription that keeps its plan keeps its price. -/
theorem le_of_planId_eq (hsame : sub'.planId = sub.planId)
    (hold : sub.planId = some oldPlan.id) (holdPlan : db.plans.find? oldPlan.id = some oldPlan)
    (hnew : sub'.planId = some newPlan.id) (hnewPlan : db.plans.find? newPlan.id = some newPlan) :
    oldPlan.priceRub ≤ newPlan.priceRub := by
  have hid : newPlan.id = oldPlan.id := Option.mem_unique hnew (hsame.trans hold)
  rw [hid, holdPlan] at hnewPlan
  rw [Option.some.inj hnewPlan]

/-- What a guarded fulfilment makes of a running subscription is no downgrade. -/
theorem SubChange.le_of_guarded (h : SubChange db order now sub sub')
    (hguard : ∀ plan, order.planId = some plan.id → db.plans.find? plan.id = some plan →
      db.renewalTarget order.userId plan order = none →
      db.activeSubscriptionForPlan order.userId plan.id = none →
      db.downgrades order.userId plan now = false)
    (hactive : sub.isActive = true) (hexpiry : sub.expiresAt = some expiry)
    (hrunning : now < expiry) (hold : sub.planId = some oldPlan.id)
    (holdPlan : db.plans.find? oldPlan.id = some oldPlan) (hnew : sub'.planId = some newPlan.id)
    (hnewPlan : db.plans.find? newPlan.id = some newPlan) :
    oldPlan.priceRub ≤ newPlan.priceRub := by
  cases h with
  | same => exact le_of_planId_eq rfl hold holdPlan hnew hnewPlan
  | slots => exact le_of_planId_eq rfl hold holdPlan hnew hnewPlan
  | extended plan planChanged _ hplanId hplan htarget =>
    cases planChanged with
    | false =>
      refine le_of_planId_eq ?_ hold holdPlan hnew hnewPlan
      simp only [extensionPatch, Bool.false_eq_true, if_false]
      split <;> rfl
    | true =>
      obtain ⟨hrenewal, hnone, hlatest, hne⟩ := purchaseTarget_eq_switch htarget
      have hbought : plan.id = newPlan.id := Option.some.inj hnew
      rw [← hbought, hplan] at hnewPlan
      obtain rfl : plan = newPlan := Option.some.inj hnewPlan
      refine le_of_downgrades_eq_false (hguard plan hplanId hplan hrenewal hnone) hlatest
        hactive hexpiry hrunning hold ?_ holdPlan
      intro heq
      exact hne (hold.trans (congrArg some heq))

theorem keepsPaidPlans_of_guarded (hop : op.IsOrdering)
    (hguard : SwitchesGuarded cfg world.now c.state op) :
    KeepsPaidPlans world.now c.state (op.run cfg world c).2.state := by
  intro id sub sub' expiry oldPlan newPlan hsub hsub' hactive hexpiry hrunning hold holdPlan hnew
    hnewPlan
  rw [Operation.plans_eq hop] at hnewPlan
  obtain ⟨after, hafter, hchange⟩ := Operation.opChange hop cfg world c hsub
  obtain rfl : after = sub' := Option.mem_unique hafter hsub'
  cases hchange with
  | same => exact le_of_planId_eq rfl hold holdPlan hnew hnewPlan
  | trial => exact le_of_planId_eq rfl hold holdPlan hnew hnewPlan
  | fulfilled order _ hfulfils hchange =>
    exact hchange.le_of_guarded (fun plan => hguard order plan hfulfils) hactive hexpiry hrunning
      hold holdPlan hnew hnewPlan

/-- **No downgrade of a running period.** In a run of orders and payments in which the
guard passes at every fulfilment that switches plans, no step puts a running subscription
on a cheaper plan. -/
theorem keepsPaidPlans_of_eachStep_guarded (cfg : Settings) (c : Committed engine)
    (events : List (Operation × World)) (hguard : EachStep cfg (fun c op world =>
      op.IsOrdering ∧ SwitchesGuarded cfg world.now c.state op) c events) :
    EachStep cfg (fun c op world =>
      KeepsPaidPlans world.now c.state (op.run cfg world c).2.state) c events :=
  hguard.mono fun _ _ _ hstep => keepsPaidPlans_of_guarded hstep.1 hstep.2

/-- `create_order` guards the purchases that it fulfils itself. -/
theorem switchesGuarded_of_purchase (htype : data.orderType = .planPurchase) :
    SwitchesGuarded cfg now db (.createOrder data) := by
  intro order plan hfulfils hplanId hplan _ _
  cases hfulfils with
  | paid _ _ _ hpays => cases hpays
  | boughtPlan _ plan' _ _ _ hasks _ _ hplanId' hplan' hguard =>
    obtain rfl : plan' = plan := by
      have hid : plan'.id = plan.id := Option.mem_unique hplanId' hplanId
      rw [hid, hplan] at hplan'
      exact (Option.some.inj hplan').symm
    rw [hasks.userId]
    exact hguard htype
  | boughtSlots _ _ _ _ hslots => simp [htype] at hslots

end

namespace Scenario

/-- A plan that costs less. -/
def cheaper : Plan := { plan with id := 8, name := "Lite", priceRub := 50 }

/-- User 1 runs the plan, and there is a cheaper one. -/
def switchable : Committed engine where
  state := { (subscribed 500).state with plans := (Table.empty.insert plan).insert cheaper }
  log := []

/-- The cheaper plan as a renewal that names no subscription, from the balance. -/
def cheaperRenewal : OrderCreateIn where
  userId := 1
  planId := some 8
  provider := .balance
  orderType := .subscriptionRenewal

end Scenario

open Scenario in
theorem keepsPaidPlans_of_purchase : EachStep settings (fun c op world =>
      KeepsPaidPlans world.now c.state (op.run settings world c).2.state) switchable
      [(.createOrder purchase, world)] :=
  keepsPaidPlans_of_eachStep_guarded settings switchable [(.createOrder purchase, world)]
    ⟨⟨Or.inr ⟨purchase, rfl⟩, switchesGuarded_of_purchase rfl⟩, trivial⟩

open Scenario in
/-- A renewal that names no subscription is not guarded: it puts the running subscription
on the cheaper plan. -/
theorem cheaperRenewal_downgrades : ¬ KeepsPaidPlans world.now switchable.state
      (Operation.run settings (.createOrder cheaperRenewal) world switchable).2.state := by
  intro h
  have hafter : (Operation.run settings (.createOrder cheaperRenewal) world
      switchable).2.state.subscriptions.find? 3 =
        some { running with
          planId := some 8, expiresAt := some (days 30), maxDevices := some 1 } := by
    decide +kernel
  have hle := h 3 running _ 1000 plan cheaper (by decide +kernel) hafter rfl rfl (by decide) rfl
    (by decide +kernel) rfl (by decide +kernel)
  exact absurd hle (by decide +kernel)

end VpnControl.Billing

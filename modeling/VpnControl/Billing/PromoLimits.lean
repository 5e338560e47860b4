/-
# The limits of a promo code

A promo code is checked against its limits when an order is quoted and counted when the
order is paid. Orders that are bought from the balance are quoted and counted in one
request; an order that waits for a gateway is not checked again. A run in which the limits
are met at every payment as well never exceeds them.
-/

import VpnControl.Billing.Purchases
import VpnControl.Billing.Scenario

namespace VpnControl.Billing

open Txn

section

variable {cfg : Settings} {c : Committed engine} {world : World} {s s' : Store}
  {db db' : Database} {order : PaymentOrder} {data : OrderCreateIn} {op : Operation}

/-! ## What is written -/

/-- A write that leaves the promo codes and their activations alone. -/
def Write.SparesPromos : Write → Prop
  | .insertActivation _ => False
  | .incrementActivation _ => False
  | _ => True

def Database.promos (db : Database) : Table PromoCode × List PromoActivation :=
  (db.promoCodes, db.activations)

theorem promos_of_sparesPromos {p : Service α} (hp : Writes Write.SparesPromos p)
    (h : direct world p s = (result, s')) :
    s'.db.promos = s.db.promos :=
  direct_unchanged Database.promos (fun w db hw => by cases w <;> first | rfl | cases hw) hp h

/-- The activation that an order with a promo code records. -/
def PaymentOrder.activation? (order : PaymentOrder) : Option PromoActivation :=
  match order.promoCodeId, order.discountRub with
  | some promo, some discount => some
      { promoCodeId := promo
        userId := order.userId
        orderId := some order.id
        amountBefore := order.amountRub + discount
        discountApplied := discount
        amountAfter := order.amountRub }
  | _, _ => none

/-- Recording an activation inserts it and counts it. -/
def Database.activate (db : Database) (row : PromoActivation) : Database :=
  (db.apply (.insertActivation row)).apply (.incrementActivation row.promoCodeId)

theorem direct_recordPromoActivation_eq (world : World) (order : PaymentOrder) (s : Store) :
    (direct world (recordPromoActivation order) s).2.db = match order.activation? with
      | some row => s.db.activate row
      | none => s.db := by
  unfold recordPromoActivation PaymentOrder.activation?
  cases order.promoCodeId <;> cases order.discountRub <;> rfl

/-- What recording does to the promo codes depends on them only. -/
theorem promos_activate (h : db.promos = db'.promos) :
    (db.activate row).promos = (db'.activate row).promos := by
  obtain ⟨hcodes, hrows⟩ := Prod.mk.inj h
  simp only [Database.activate, Database.promos, Database.apply, hcodes, hrows]

/-! ## Operations -/

/-- The limits of the code leave room for this activation. -/
def Admits (db : Database) (row : PromoActivation) : Prop :=
  ∃ promo, promo.id = row.promoCodeId ∧ PromoOpen db promo row.userId

/-- The activation that an operation may record: the one of a pending order that it pays,
or one that was quoted and admitted in the same request. -/
inductive Activates (cfg : Settings) (db : Database) (op : Operation) : PromoActivation → Prop
  | paid (order : PaymentOrder) (providerName : String) (row : PromoActivation)
      (hpays : Pays cfg db op order providerName) (hpending : order.status = .pending)
      (hrow : order.activation? = some row) : Activates cfg db op row
  | bought (row : PromoActivation) (hadmits : Admits db row) : Activates cfg db op row

theorem promos_of_settled (h : Settled cfg world order providerName s s') :
    s'.db.promos = (match order.activation? with
      | some row => s.db.activate row
      | none => s.db).promos := by
  obtain ⟨account, fee, payment, recorded, delivered, -, -, hrecorded, hdelivered, hreward⟩ := h
  have hrow := direct_recordPromoActivation_eq world order
    (credited world order account fee payment s)
  rw [hrecorded] at hrow
  have hdeliver := promos_of_sparesPromos (.deliverOrder (fun _ _ => trivial) (fun _ => trivial)
    (fun _ _ => trivial) (fun _ => trivial) fun _ _ => trivial) hdelivered
  have hlast := promos_of_sparesPromos
    ((reward_rewardReferral cfg).mono fun w _ => by cases w <;> trivial) hreward
  have hrecord : recorded.db.promos = (match order.activation? with
      | some row => s.db.activate row
      | none => s.db).promos := by
    rw [hrow]
    cases order.activation? with
    | none => rfl
    | some row => exact promos_activate rfl
  calc s'.db.promos = delivered.db.promos := hlast
    _ = recorded.db.promos := hdeliver
    _ = _ := hrecord

/-- A placed order records an activation that its quote has admitted, or none. -/
theorem promos_of_placing (h : Placing cfg world data s order s') : s'.db.promos = s.db.promos ∨
      ∃ row, Admits s.db row ∧ s'.db.promos = (s.db.activate row).promos := by
  cases h with
  | topUp | slotsWaiting | planWaiting =>
    rename_i hdb
    exact Or.inl (by rw [hdb]; rfl)
  | slots _ _ user order _ _ _ _ _ _ _ _ _ _ _ _ hbought hdone =>
    have hsame := promos_of_sparesPromos (.fulfillDeviceSlots (fun _ _ => trivial)
      (fun _ _ => trivial) fun _ _ => trivial) hbought
    subst hdone
    exact Or.inl hsame
  | plan plan _ user order bought _ _ _ _ _ hquote _ _ horder hbought hrecorded =>
    have hsame := promos_of_sparesPromos (.autoPurchase (fun _ _ => trivial) (fun _ => trivial)
      (fun _ _ => trivial) (fun _ => trivial) fun _ _ => trivial) hbought
    have hrow := direct_recordPromoActivation_eq world order (boughtAtOnce world order bought)
    rw [hrecorded] at hrow
    have hpromos : (boughtAtOnce world order bought).db.promos = s.db.promos := hsame
    cases hactivation : order.activation? with
    | none =>
      rw [hactivation] at hrow
      exact Or.inl ((congrArg Database.promos hrow).trans hpromos)
    | some row =>
      rw [hactivation] at hrow
      refine Or.inr ⟨row, ?_, (congrArg Database.promos hrow).trans (promos_activate hpromos)⟩
      have hcode : order.promoCodeId = some row.promoCodeId ∧ row.userId = order.userId := by
        unfold PaymentOrder.activation? at hactivation
        split at hactivation
        · rename_i promo discount hpromo hdiscount
          cases hactivation
          exact ⟨hpromo, rfl⟩
        · cases hactivation
      subst horder
      obtain ⟨promo, hid, hopen⟩ := (direct_quoteOrder_ok hquote).2.2 row.promoCodeId hcode.1
      refine ⟨promo, hid, ?_⟩
      rw [hcode.2]
      exact hopen
  | trial plan user order _ _ _ _ _ _ _ _ hdelivered hdone =>
    have hsame := promos_of_sparesPromos
      (.autoPurchaseFree (fun _ => trivial) (fun _ _ => trivial) fun _ => trivial) hdelivered
    subst hdone
    exact Or.inl hsame

/-- **What ordering and paying do to the promo codes.** -/
theorem Operation.promos_cases (hop : op.IsOrdering) :
    (op.run cfg world c).2.state.promos = c.state.promos ∨ ∃ row, Activates cfg c.state op row ∧
        (op.run cfg world c).2.state.promos = (c.state.activate row).promos := by
  obtain ⟨s', hstate, hstep | ⟨data, order, rfl, hplacing⟩⟩ := hop.step cfg world c <;> rw [hstate]
  · cases hstep with
    | nothing => exact Or.inl rfl
    | noted => exact Or.inl rfl
    | settled order providerName _ hpays hpending hsettled =>
      have hpromos := promos_of_settled hsettled
      cases hrow : order.activation? with
      | none =>
        rw [hrow] at hpromos
        exact Or.inl hpromos
      | some row =>
        rw [hrow] at hpromos
        exact Or.inr ⟨row, .paid order providerName row hpays hpending hrow, hpromos⟩
  · rcases promos_of_placing hplacing with hsame | ⟨row, hadmits, hrow⟩
    · exact Or.inl hsame
    · exact Or.inr ⟨row, .bought row hadmits, hrow⟩

/-! ## The limits -/

/-- How often a promo code was activated. -/
def Database.activated (db : Database) (promo : Uuid) : ℕ :=
  db.activations.countP fun row => row.promoCodeId = promo

/-- The code has these limits, its counter counts its activations, and neither limit is
exceeded. -/
structure PromoWithin (promo : Uuid) (maxActivations : Option ℤ) (maxPerUser : ℤ)
    (db : Database) : Prop where
  row : ∃ code, db.promoCodes.find? promo = some code ∧ code.maxActivations = maxActivations ∧
    code.maxPerUser = maxPerUser ∧ code.activationCount = db.activated promo
  total : ∀ limit, maxActivations = some limit → db.activated promo ≤ limit
  perUser : ∀ user, db.activationCount promo user ≤ maxPerUser

variable {promo : Uuid} {maxActivations : Option ℤ} {maxPerUser : ℤ} {row : PromoActivation}

theorem PromoWithin.congr (h : PromoWithin promo maxActivations maxPerUser db)
    (heq : db'.promos = db.promos) : PromoWithin promo maxActivations maxPerUser db' := by
  obtain ⟨hcodes, hrows⟩ := Prod.mk.inj heq
  obtain ⟨hrow, htotal, hperUser⟩ := h
  unfold Database.activated at hrow htotal
  unfold Database.activationCount at hperUser
  rw [← hrows] at hrow htotal hperUser
  rw [← hcodes] at hrow
  exact ⟨hrow, htotal, hperUser⟩

theorem activated_activate (db : Database) : (db.activate row).activated promo =
      db.activated promo + if row.promoCodeId = promo then 1 else 0 := by
  simp only [Database.activated, Database.activate, Database.apply, List.countP_append]
  by_cases h : row.promoCodeId = promo <;> simp [h]

theorem activationCount_activate (db : Database) :
    (db.activate row).activationCount promo user = db.activationCount promo user +
      if row.promoCodeId = promo ∧ row.userId = user then 1 else 0 := by
  simp only [Database.activationCount, Database.activate, Database.apply, List.countP_append]
  by_cases h : row.promoCodeId = promo ∧ row.userId = user <;> simp [h]

/-- An activation that the limits leave room for does not exceed them. -/
theorem PromoWithin.activate (h : PromoWithin promo maxActivations maxPerUser db)
    (hadmits : row.promoCodeId = promo → Admits db row) :
    PromoWithin promo maxActivations maxPerUser (db.activate row) := by
  obtain ⟨⟨code, hcode, hmax, hper, hcount⟩, htotal, hperUser⟩ := h
  by_cases hrow : row.promoCodeId = promo
  · subst hrow
    obtain ⟨quoted, hid, hopen⟩ := hadmits rfl
    have hsame : quoted = code := by
      have hfound := hopen.row
      rw [hid, hcode] at hfound
      exact (Option.some.inj hfound).symm
    subst hsame
    refine ⟨⟨{ quoted with activationCount := quoted.activationCount + 1 }, ?_, hmax, hper, ?_⟩, ?_, ?_⟩
    · exact (Table.find?_modify_self
        (fun code => { code with activationCount := code.activationCount + 1 }) fun _ => rfl).trans
          (congrArg (Option.map _) hcode)
    · rw [activated_activate, if_pos rfl]
      push_cast
      rw [hcount]
    · intro limit hlimit
      have hroom := hopen.total limit (hmax.trans hlimit)
      rw [activated_activate, if_pos rfl]
      push_cast
      omega
    · intro user
      rw [activationCount_activate]
      by_cases huser : row.userId = user
      · subst huser
        have hroom := hopen.perUser
        rw [hid, hper] at hroom
        simp only [true_and, if_true]
        push_cast
        omega
      · simp only [huser, and_false, if_false, add_zero]
        exact hperUser user
  · refine ⟨⟨code, ?_, hmax, hper, ?_⟩, ?_, ?_⟩
    · exact (Table.find?_modify_of_ne
        (fun code => { code with activationCount := code.activationCount + 1 }) (fun _ => rfl)
        (Ne.symm hrow)).trans hcode
    · rw [activated_activate, if_neg hrow]
      exact hcount
    · intro limit hlimit
      rw [activated_activate, if_neg hrow]
      exact htotal limit hlimit
    · intro user
      rw [activationCount_activate]
      simp only [hrow, false_and, if_false, add_zero]
      exact hperUser user

/-- The limits of a promo code leave room for every order with it whose payment arrives. -/
def PaymentsAdmitted (cfg : Settings) (promo : Uuid) (db : Database) (op : Operation) : Prop :=
  ∀ order providerName row, Pays cfg db op order providerName → order.status = .pending →
    order.activation? = some row → row.promoCodeId = promo → Admits db row

/-- One order or payment stays within the limits. -/
theorem promoWithin_of_admitted (hop : op.IsOrdering)
    (hadmitted : PaymentsAdmitted cfg promo c.state op)
    (h : PromoWithin promo maxActivations maxPerUser c.state) :
    PromoWithin promo maxActivations maxPerUser (op.run cfg world c).2.state := by
  rcases Operation.promos_cases hop with hsame | ⟨row, hactivates, hrow⟩
  · exact h.congr hsame
  · refine (h.activate fun hpromo => ?_).congr hrow
    cases hactivates with
    | paid order providerName _ hpays hpending hactivation =>
      exact hadmitted order providerName row hpays hpending hactivation hpromo
    | bought _ hadmits => exact hadmits

/-- **Promo limits hold.** In a run of orders and payments in which the limits of a code
leave room at every payment of an order with it, the code is never activated more often than
its limits allow, in total and by one user. -/
theorem promoWithin_of_eachStep_admitted (cfg : Settings) (c : Committed engine)
    (events : List (Operation × World)) (promo : Uuid) (maxActivations : Option ℤ)
    (maxPerUser : ℤ) (hstart : PromoWithin promo maxActivations maxPerUser c.state)
    (hadmitted : EachStep cfg (fun c op _ =>
      op.IsOrdering ∧ PaymentsAdmitted cfg promo c.state op) c events) :
    EachStep cfg (fun c op world =>
      PromoWithin promo maxActivations maxPerUser (op.run cfg world c).2.state) c events :=
  (hadmitted.invariant (I := fun c => PromoWithin promo maxActivations maxPerUser c.state) hstart
    fun _ _ _ hwithin hstep =>
      have hnext := promoWithin_of_admitted hstep.1 hstep.2 hwithin
      ⟨hnext, hnext⟩).1

end

namespace Scenario

def promo : PromoCode where
  id := 20
  code := "SALE"
  isActive := true
  discountType := .fixed
  discountValue := 10
  maxDiscountRub := none
  audience := .all
  planIds := []
  appliesTo := .any
  minAmountRub := none
  maxActivations := some 1
  maxPerUser := 1
  startsAt := none
  expiresAt := none
  activationCount := 0

/-- User 1 with a balance, the plan and the code. -/
def onSale (balance : Money) : Committed engine where
  state := { database balance with promoCodes := Table.empty.insert promo }
  log := []

def discounted : OrderCreateIn where
  userId := 1
  planId := some 7
  provider := .balance
  promoCode := some "SALE"

def discountedStars : OrderCreateIn where
  userId := 1
  planId := some 7
  provider := .stars
  promoCode := some "SALE"

/-- Two orders with the code are placed, and then both are paid. -/
def doublePayment : List (Operation × World) :=
  [(.createOrder discountedStars, world), (.createOrder discountedStars, world),
    (.confirmStarsPayment 2, world), (.confirmStarsPayment 4, world)]

end Scenario

open Scenario in
theorem promoWithin_onSale : PromoWithin 20 (some 1) 1 (onSale balance).state :=
  ⟨⟨promo, rfl, rfl, rfl, rfl⟩, fun limit hlimit => by
    obtain rfl : 1 = limit := Option.some.inj hlimit
    exact zero_le_one, fun user => zero_le_one⟩

open Scenario in
theorem promoWithin_of_purchase : EachStep settings (fun c op world =>
      PromoWithin 20 (some 1) 1 (op.run settings world c).2.state) (onSale 500)
      [(.createOrder discounted, world)] :=
  promoWithin_of_eachStep_admitted settings (onSale 500) [(.createOrder discounted, world)] 20
    (some 1) 1 promoWithin_onSale
    ⟨⟨Or.inr ⟨discounted, rfl⟩, fun _ _ _ hpays => by cases hpays⟩, trivial⟩

open Scenario in
/-- Both orders were quoted while the code was unused, and both count. -/
theorem doublePayment_exceeds_limits : PromoWithin 20 (some 1) 1 (onSale 0).state ∧
      (runAll settings (onSale 0) doublePayment).state.activated 20 = 2 ∧
      (runAll settings (onSale 0) doublePayment).state.activationCount 20 1 = 2 := by
  exact ⟨promoWithin_onSale, by decide +kernel, by decide +kernel⟩

end VpnControl.Billing

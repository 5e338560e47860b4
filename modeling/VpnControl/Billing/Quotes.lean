/-
# Quotes

The preview of a purchase and the order itself compute the same price. A promo code is checked when
it is created, but an update may change its type and its value apart from each other, and the cap on
the discount is read for percentages only. A quote is right exactly if the code is fair to the amount.
-/

import VpnControl.Billing.PromoLimits
import VpnControl.Billing.Renewals

namespace VpnControl.Billing

open Txn

/-! ## The preview of a purchase -/

/-- Rounding does not change the sign. -/
theorem quantize_nonneg (h : 0 ≤ value) : 0 ≤ quantize value := by
  have hfloor : 0 ≤ ⌊value * 100⌋ := Int.floor_nonneg.mpr (by positivity)
  unfold quantize
  dsimp only
  refine div_nonneg (Int.cast_nonneg ?_) (by norm_num)
  split
  · exact hfloor
  · split
    · omega
    · split <;> omega

theorem prorationValue_nonneg {months : ℤ} : 0 ≤ prorationValue oldPlan months expiresAt now := by
  unfold prorationValue
  split
  · rfl
  · rename_i expiry
    split
    · rfl
    · rename_i hlate
      dsimp only
      split
      · rfl
      · split
        · rfl
        · rename_i oldPrice _ hprice
          have hremaining : (0 : ℚ) ≤ (expiry - now : ℤ) :=
            Int.cast_nonneg (sub_nonneg.mpr (not_le.mp hlate).le)
          have hperiod : (0 : ℚ) ≤ (periodDays months : ℤ) := by
            refine Int.cast_nonneg ?_
            have hpos := days_periodDays_pos months
            unfold days at hpos
            omega
          have hday : (0 : ℚ) ≤ (days 1 : ℤ) := Int.cast_nonneg (by decide)
          exact quantize_nonneg (div_nonneg (mul_nonneg (not_le.mp hprice).le
            (div_nonneg hremaining hday)) hperiod)

theorem switchProration_nonneg (db : Database) (user newPlan : Uuid) (now : Time) :
    0 ≤ db.switchProration user newPlan now := by
  unfold Database.switchProration
  split
  · rfl
  · exact prorationValue_nonneg

section

variable {cfg : Settings} {world : World} {s s' : Store} {data : OrderCreateIn} {plan : Plan}

/-- The price of a purchase without devices and promo codes is the previewed one. -/
theorem amountDue_of_quoteOrder (htype : data.orderType = .planPurchase)
    (hpromo : data.promoCode = none) (hqty : data.deviceSlotsQty = 0)
    (hplan : s.db.plans.find? plan.id = some plan)
    (h : direct world (quoteOrder data plan) s = (.ok quote, s')) :
    ∃ preview, direct world (previewOrderAmount data.userId plan.id data.periodMonths) s =
        (.ok preview, s) ∧ quote.amountRub = preview.amountDue ∧
      resolvePeriodPrice plan data.periodMonths = some preview.periodPrice ∧
      preview.amountDue =
        max 0 (preview.periodPrice - s.db.switchProration data.userId plan.id world.now) := by
  cases hprice : resolvePeriodPrice plan data.periodMonths with
  | none =>
    rw [quoteOrder, hprice] at h
    cases h
  | some =>
    rw [direct_quoteOrder world hprice (Or.inl hpromo)] at h
    split at h
    · cases h
    · cases h
      rw [direct_previewOrderAmount, Database.previewOrderAmount, hplan]
      simp only [hprice]
      refine ⟨_, rfl, ?_, rfl, rfl⟩
      simp [Database.planAmount, planAmount, htype, hqty]

end

/-- **The preview is what is charged**, and lies between nothing and the price of the period. -/
theorem preview_eq_charge (cfg : Settings) (world : World) (s s' : Store) (data : OrderCreateIn)
    (plan : Plan) (value : PaymentOrder) (htype : data.orderType = .planPurchase)
    (hpromo : data.promoCode = none) (hqty : data.deviceSlotsQty = 0)
    (hplanId : data.planId = some plan.id) (hplan : s.db.plans.find? plan.id = some plan)
    (hpaid : 0 < plan.priceRub)
    (hprices : ∀ months price, resolvePeriodPrice plan months = some price → 0 ≤ price)
    (hfresh : s.db.freshUuid ≤ s.nextUuid)
    (h : direct world (createOrder cfg data) s = (.ok value, s')) :
    ∃ preview, direct world (previewOrderAmount data.userId plan.id data.periodMonths) s =
        (.ok preview, s) ∧ value.amountRub = preview.amountDue ∧ 0 ≤ preview.amountDue ∧
      preview.amountDue ≤ preview.periodPrice := by
  obtain ⟨order, hplacing, hread⟩ := placing_of_createOrder h
  have hterms := hplacing.terms (find?_order_of_fresh (hfresh.trans hplacing.le_id)) hread
  have hvalue := (PaymentOrder.sameTerms hterms).amountRub
  have hsame : ∀ found : Plan, data.planId = some found.id →
      s.db.plans.find? found.id = some found → found = plan := by
    intro found hid hrow
    rw [Option.mem_unique hid hplanId, hplan] at hrow
    exact (Option.some.inj hrow).symm
  obtain ⟨quote, hquote, hamount⟩ : ∃ quote,
      direct world (quoteOrder data plan) s = (.ok quote, s) ∧ order.amountRub = quote.amountRub := by
    cases hplacing with
    | topUp => simp_all
    | slotsWaiting => simp_all
    | slots => simp_all
    | planWaiting found quote _ _ _ _ _ _ _ hid hrow hquote _ _ horder =>
      obtain rfl := hsame found hid hrow
      exact ⟨quote, hquote, by rw [horder]; rfl⟩
    | plan found quote _ _ _ _ _ _ hid hrow hquote _ _ horder =>
      obtain rfl := hsame found hid hrow
      exact ⟨quote, hquote, by rw [horder]; rfl⟩
    | trial found _ _ _ _ _ hid hrow hprice =>
      obtain rfl := hsame found hid hrow
      exact absurd hprice (not_le.mpr hpaid)
  obtain ⟨preview, hpreview, heq, hperiod, hdue⟩ :=
    amountDue_of_quoteOrder htype hpromo hqty hplan hquote
  refine ⟨preview, hpreview, hvalue.trans (hamount.trans heq), ?_, ?_⟩
  · rw [hdue]
    exact le_max_left _ _
  · have hcredit := switchProration_nonneg s.db data.userId plan.id world.now
    rw [hdue]
    exact max_le (hprices _ _ hperiod) (by linarith)

open Scenario in
theorem preview_eq_charge_purchase : ∃ (value : PaymentOrder) (preview : OrderPreviewOut),
      value.amountRub = preview.amountDue ∧ preview.amountDue ≤ preview.periodPrice := by
  obtain ⟨value, s', hrun⟩ : ∃ value s', direct world (createOrder settings purchase)
      ⟨database 500, 4⟩ = (.ok value, s') := exists_of_isOk (by decide +kernel)
  have hprices : ∀ months price, resolvePeriodPrice plan months = some price → 0 ≤ price := by
    intro months price hprice
    have hone : (if months = 1 then some (100 : Money) else none) = some price := hprice
    split at hone
    · rw [← Option.some.inj hone]
      norm_num
    · cases hone
  obtain ⟨preview, -, hcharge, -, hle⟩ := preview_eq_charge settings world ⟨database 500, 4⟩ s'
    purchase plan value rfl rfl rfl rfl rfl (by decide +kernel) hprices (by decide) hrun
  exact ⟨value, preview, hcharge, hle⟩

/-! ## Promo codes -/

/-- `PromoCodeCreateIn`, the columns that a quote reads, with its validators. -/
structure PromoCodeCreateIn where
  code : String
  discountType : DiscountType
  discountValue : Money
  maxDiscountRub : Option Money := none
  audience : PromoAudience := .all
  planIds : List Uuid := []
  appliesTo : PromoAppliesTo := .any
  minAmountRub : Option Money := none
  maxActivations : Option ℤ := none
  maxPerUser : ℤ := 1
  startsAt : Option Time := none
  expiresAt : Option Time := none
  code_length : 1 ≤ code.length ∧ code.length ≤ 32
  discountValue_pos : 0 < discountValue
  maxDiscountRub_pos : ∀ cap ∈ maxDiscountRub, 0 < cap
  minAmountRub_nonneg : ∀ amount ∈ minAmountRub, 0 ≤ amount
  maxActivations_pos : ∀ n ∈ maxActivations, 0 < n
  maxPerUser_pos : 0 < maxPerUser
  percent : discountType = .percent → discountValue ≤ 100
  byPlan : audience = .byPlan → planIds ≠ []

/-- The row of `create_promo`. -/
def PromoCodeCreateIn.row (data : PromoCodeCreateIn) (id : Uuid) : PromoCode where
  id := id
  code := data.code.toUpper
  isActive := true
  discountType := data.discountType
  discountValue := data.discountValue
  maxDiscountRub := data.maxDiscountRub
  audience := data.audience
  planIds := data.planIds
  appliesTo := data.appliesTo
  minAmountRub := data.minAmountRub
  maxActivations := data.maxActivations
  maxPerUser := data.maxPerUser
  startsAt := data.startsAt
  expiresAt := data.expiresAt
  activationCount := 0

/-- `PromoCodeUpdateIn`. A column that may be null is set to null with `some none`. -/
structure PromoCodeUpdateIn where
  discountType : Option DiscountType := none
  discountValue : Option Money := none
  maxDiscountRub : Option (Option Money) := none
  audience : Option PromoAudience := none
  planIds : Option (List Uuid) := none
  appliesTo : Option PromoAppliesTo := none
  minAmountRub : Option (Option Money) := none
  maxActivations : Option (Option ℤ) := none
  maxPerUser : Option ℤ := none
  startsAt : Option (Option Time) := none
  expiresAt : Option (Option Time) := none
  isActive : Option Bool := none
  discountValue_pos : ∀ value ∈ discountValue, 0 < value
  maxDiscountRub_pos : ∀ cap ∈ maxDiscountRub.join, 0 < cap
  minAmountRub_nonneg : ∀ amount ∈ minAmountRub.join, 0 ≤ amount
  maxActivations_pos : ∀ n ∈ maxActivations.join, 0 < n
  maxPerUser_pos : ∀ n ∈ maxPerUser, 0 < n

/-- The row after `update_promo`. -/
def PromoCodeUpdateIn.set (data : PromoCodeUpdateIn) (promo : PromoCode) : PromoCode :=
  { promo with
    isActive := data.isActive.getD promo.isActive
    discountType := data.discountType.getD promo.discountType
    discountValue := data.discountValue.getD promo.discountValue
    maxDiscountRub := data.maxDiscountRub.getD promo.maxDiscountRub
    audience := data.audience.getD promo.audience
    planIds := data.planIds.getD promo.planIds
    appliesTo := data.appliesTo.getD promo.appliesTo
    minAmountRub := data.minAmountRub.getD promo.minAmountRub
    maxActivations := data.maxActivations.getD promo.maxActivations
    maxPerUser := data.maxPerUser.getD promo.maxPerUser
    startsAt := data.startsAt.getD promo.startsAt
    expiresAt := data.expiresAt.getD promo.expiresAt }

/-- The promo codes that come from `create_promo`, updates and activations. -/
inductive PromoCode.Reachable : PromoCode → Prop
  | created (data : PromoCodeCreateIn) (id : Uuid) : Reachable (data.row id)
  | updated (promo : PromoCode) (data : PromoCodeUpdateIn) (h : Reachable promo) :
      Reachable (data.set promo)
  | activated (promo : PromoCode) (h : Reachable promo) :
      Reachable { promo with activationCount := promo.activationCount + 1 }

variable {promo : PromoCode}

theorem PromoCode.Reachable.cap_pos (h : promo.Reachable)
    (hcap : promo.maxDiscountRub = some cap) : 0 < cap := by
  induction h with
  | created data => exact data.maxDiscountRub_pos cap hcap
  | updated promo data _ ih =>
    cases hset : data.maxDiscountRub with
    | none =>
      have hkept : promo.maxDiscountRub = some cap := by
        simpa [PromoCodeUpdateIn.set, hset] using hcap
      exact ih hkept
    | some new =>
      have hnew : new = some cap := by simpa [PromoCodeUpdateIn.set, hset] using hcap
      exact data.maxDiscountRub_pos cap (by simp [hset, hnew])
  | activated _ _ ih => exact ih hcap

/-- What a quote is to satisfy: the discount lies between nothing and the amount and below the cap,
the rest is due, and the activation that is recorded for an order on these terms states the amount
that was quoted. -/
structure PromoQuoteOut.Sound (quote : PromoQuoteOut) (promo : PromoCode) (amountRub : Money) :
    Prop where
  before : quote.amountBefore = amountRub
  nonneg : 0 ≤ quote.discountRub
  le_amount : quote.discountRub ≤ quote.amountBefore
  after : quote.amountAfter = quote.amountBefore - quote.discountRub
  le_cap : ∀ cap, promo.maxDiscountRub = some cap → quote.discountRub ≤ cap
  recorded : ∀ (order : PaymentOrder) (world : World) (s : Store),
    order.promoCodeId = some quote.promoCodeId → order.discountRub = some quote.discountRub →
    order.amountRub = quote.amountAfter →
    ∃ row, (direct world (recordPromoActivation order) s).2.db.activations =
      s.db.activations ++ [row] ∧ row.amountBefore = quote.amountBefore

/-- A percentage does not exceed the amount, or its cap does not; a fixed discount does not exceed
its cap. -/
def PromoCode.Fair (promo : PromoCode) (amountRub : Money) : Prop :=
  match promo.discountType with
  | .percent => quantizeHalfUp (amountRub * promo.discountValue / 100) ≤ amountRub ∨
      ∃ cap, promo.maxDiscountRub = some cap ∧ cap ≤ amountRub
  | .fixed => ∀ cap, promo.maxDiscountRub = some cap → min promo.discountValue amountRub ≤ cap

theorem PromoCode.Reachable.fair_iff (h : promo.Reachable)
    (hpos : 0 < amountRub) : promo.Fair amountRub ↔ computeDiscount promo amountRub ≤ amountRub ∧
      ∀ cap, promo.maxDiscountRub = some cap → computeDiscount promo amountRub ≤ cap := by
  unfold PromoCode.Fair computeDiscount
  cases promo.discountType with
  | percent =>
    cases hcap : promo.maxDiscountRub with
    | none => simp [hpos.le]
    | some => simp [hpos.le, (h.cap_pos hcap).le]
  | fixed =>
    have hcaps : ∀ cap, promo.maxDiscountRub = some cap → 0 ≤ cap :=
      fun cap hcap => (h.cap_pos hcap).le
    simp only [max_le_iff, hpos.le, min_le_right, and_self, true_and]
    exact ⟨fun hmin cap hcap => ⟨hcaps cap hcap, hmin cap hcap⟩,
      fun hmax cap hcap => (hmax cap hcap).2⟩

/-- **A quote is right exactly if its code is fair to the amount.** -/
theorem promoQuote_sound_iff (world : World) (s s' : Store) (code : String) (user : Uuid)
    (plan : Option Uuid) (orderType : OrderType) (amountRub : Money) (quote : PromoQuoteOut)
    (hreach : ∀ promo ∈ s.db.promoCodes.rows, promo.Reachable) (hpos : 0 < amountRub)
    (h : direct world (validateAndQuote code user plan orderType amountRub) s = (.ok quote, s')) :
    ∃ promo, s.db.promoCodes.find? quote.promoCodeId = some promo ∧
      (quote.Sound promo amountRub ↔ promo.Fair amountRub) := by
  obtain ⟨-, promo, rfl, hopen⟩ := direct_validateAndQuote_ok h
  refine ⟨promo, hopen.row, ?_⟩
  rw [(hreach promo (Table.mem_of_find? hopen.row)).fair_iff hpos]
  constructor
  · intro hsound
    exact ⟨hsound.le_amount, hsound.le_cap⟩
  · rintro ⟨hamount, hcap⟩
    have hafter : (promo.quote amountRub).amountAfter = amountRub - computeDiscount promo amountRub :=
      max_eq_right (sub_nonneg.mpr hamount)
    refine ⟨rfl, le_max_left _ _, hamount, hafter, hcap, ?_⟩
    intro order world s hcode hdiscount hrub
    refine ⟨_, by rw [recordPromoActivation, hcode, hdiscount]; rfl, ?_⟩
    rw [hrub, hafter]
    exact sub_add_cancel _ _

namespace Scenario

/-- A discount of 500 rubles. -/
def gift : PromoCodeCreateIn where
  code := "SALE"
  discountType := .fixed
  discountValue := 500
  code_length := by decide
  discountValue_pos := by norm_num
  maxDiscountRub_pos := by simp
  minAmountRub_nonneg := by simp
  maxActivations_pos := by simp
  maxPerUser_pos := by norm_num
  percent := by simp
  byPlan := by simp

/-- The type of a code is changed, and not its value. -/
def retyped : PromoCodeUpdateIn where
  discountType := some .percent
  discountValue_pos := by simp
  maxDiscountRub_pos := by simp
  minAmountRub_nonneg := by simp
  maxActivations_pos := by simp
  maxPerUser_pos := by simp

def withPromo (promo : PromoCode) : Store where
  db := { database 500 with promoCodes := Table.empty.insert promo }
  nextUuid := 4

end Scenario

open Scenario in
theorem promoQuote_sound_gift : ∃ (quote : PromoQuoteOut) (promo : PromoCode),
      (withPromo (gift.row 20)).db.promoCodes.find? quote.promoCodeId = some promo ∧
      (quote.Sound promo 100 ↔ promo.Fair 100) := by
  obtain ⟨quote, s', hrun⟩ : ∃ quote s', direct world (validateAndQuote "SALE" 1 (some 7)
      .planPurchase 100) (withPromo (gift.row 20)) = (.ok quote, s') :=
    exists_of_isOk (by decide +kernel)
  have hreach : ∀ promo ∈ (withPromo (gift.row 20)).db.promoCodes.rows, promo.Reachable := by
    intro promo hmem
    obtain rfl : promo = gift.row 20 := List.mem_singleton.mp hmem
    exact .created gift 20
  exact ⟨quote, promoQuote_sound_iff world _ s' "SALE" 1 (some 7) .planPurchase 100 quote hreach
    (by norm_num) hrun⟩

open Scenario in
/-- A discount of 500 rubles becomes one of 500 percent, five times the price. -/
theorem promoQuote_exceeds_amount : (retyped.set (gift.row 20)).Reachable ∧
      (direct world (validateAndQuote "SALE" 1 (some 7) .planPurchase 100)
        (withPromo (retyped.set (gift.row 20)))).1.toOption.map PromoQuoteOut.discountRub =
          some 500 :=
  ⟨.updated _ retyped (.created gift 20), by decide +kernel⟩

end VpnControl.Billing

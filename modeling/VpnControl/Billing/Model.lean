/-
# The billing data model

The rows of the tables that billing reads and writes, the enumerations their
columns hold, and the exceptions the services raise. Amounts are exact decimals
and times are microseconds since the epoch. Columns that no modelled function
reads (tokens, payment links, provider metadata, audit columns) are left out.
-/

import Mathlib.Data.Rat.Floor
import VpnControl.Txn.Table

namespace VpnControl.Billing

open Txn

abbrev Uuid := ℕ

abbrev Money := ℚ

/-- Microseconds since the epoch. -/
abbrev Time := ℤ

/-- `timedelta(days=n)`. -/
def days (n : ℤ) : ℤ := n * 86400000000

/-- `timedelta(minutes=n)`. -/
def minutes (n : ℤ) : ℤ := n * 60000000

/-- `timedelta(seconds=n)`. -/
def seconds (n : ℤ) : ℤ := n * 1000000

/-! ## Enumerations -/

inductive PaymentProvider
  | crypto | freekassa | stars | platega | balance | free
  deriving DecidableEq, Repr

/-- The text stored in `payment_order.provider`. -/
def PaymentProvider.value : PaymentProvider → String
  | crypto => "crypto"
  | freekassa => "freekassa"
  | stars => "stars"
  | platega => "platega"
  | balance => "balance"
  | free => "free"

inductive PlategaPaymentMethod
  | sbpQr | erip | cardAcquiring | international | crypto
  deriving DecidableEq, Repr

inductive OrderStatus
  | pending | paid | completed | expired | refunded | failed
  deriving DecidableEq, Repr

inductive OrderType
  | planPurchase | subscriptionRenewal | deviceSlots | topUp
  deriving DecidableEq, Repr

inductive TransactionType
  | payment | purchase | manualCredit | manualDebit | refund | deviceSlotPurchase
  | referralReward | referralBonus
  deriving DecidableEq, Repr

inductive ReferralStatus
  | pending | rewarded
  deriving DecidableEq, Repr

inductive DiscountType
  | percent | fixed
  deriving DecidableEq, Repr

inductive PromoAudience
  | all | byPlan | noSubscription | hasSubscription
  deriving DecidableEq, Repr

inductive PromoAppliesTo
  | any | newPurchase | renewal
  deriving DecidableEq, Repr

/-! ## Constants -/

def orderFinalStatuses : List OrderStatus := [.paid, .completed, .refunded, .failed]

def orderRefundableStatuses : List OrderStatus := [.paid, .completed]

def allowedPeriodMonths : List ℤ := [1, 3, 6, 12]

/-- `PERIOD_DAYS.get(months, PERIOD_DAYS[1])`. -/
def periodDays (months : ℤ) : ℤ :=
  if months = 3 then 90 else if months = 6 then 180 else if months = 12 then 365 else 30

/-! ## Rows -/

structure User where
  id : Uuid
  balance : Money
  deriving DecidableEq, Repr

structure PaymentOrder where
  id : Uuid
  userId : Uuid
  planId : Option Uuid
  amountRub : Money
  provider : PaymentProvider
  status : OrderStatus
  externalId : String
  paidAt : Option Time
  completedAt : Option Time
  expiresAt : Option Time
  subscriptionId : Option Uuid
  orderType : OrderType
  deviceSlotsQty : ℤ
  periodMonths : ℤ
  feeRub : Option Money
  netRub : Option Money
  promoCodeId : Option Uuid
  discountRub : Option Money
  createdAt : Time
  deriving DecidableEq, Repr

structure BalanceTransaction where
  id : Uuid
  userId : Uuid
  amount : Money
  balanceAfter : Money
  type : TransactionType
  orderId : Option Uuid
  description : Option String
  deriving DecidableEq, Repr

structure PaymentProviderFee where
  provider : String
  paymentMethod : Option ℤ
  feePercent : Money
  deriving DecidableEq, Repr

structure PlanPeriod where
  months : ℤ
  priceRub : Money
  priceStars : Option ℤ := none
  deriving DecidableEq, Repr

structure Plan where
  id : Uuid
  name : String
  isActive : Bool
  priceRub : Money
  devicePriceRub : Money
  periods : List PlanPeriod
  includedDevices : ℤ
  maxDevices : ℤ
  durationDays : ℤ
  priceStars : Option ℤ := none
  devicePriceStars : Option ℤ := none
  deriving DecidableEq, Repr

structure Subscription where
  id : Uuid
  userId : Uuid
  planId : Option Uuid
  isActive : Bool
  expiresAt : Option Time
  maxDevices : Option ℤ
  paidDeviceSlots : ℤ
  periodMonths : ℤ
  autoRenew : Bool
  deriving DecidableEq, Repr

structure PromoCode where
  id : Uuid
  code : String
  isActive : Bool
  discountType : DiscountType
  discountValue : Money
  maxDiscountRub : Option Money
  audience : PromoAudience
  planIds : List Uuid
  appliesTo : PromoAppliesTo
  minAmountRub : Option Money
  maxActivations : Option ℤ
  maxPerUser : ℤ
  startsAt : Option Time
  expiresAt : Option Time
  activationCount : ℤ
  deriving DecidableEq, Repr

structure PromoActivation where
  promoCodeId : Uuid
  userId : Uuid
  orderId : Option Uuid
  amountBefore : Money
  discountApplied : Money
  amountAfter : Money
  deriving DecidableEq, Repr

structure Referral where
  id : Uuid
  referrerUserId : Uuid
  referredUserId : Uuid
  status : ReferralStatus
  rewardAmount : Money
  referredRewardAmount : Money
  rewardedAt : Option Time
  deriving DecidableEq, Repr

structure SupportTicket where
  id : Uuid
  userId : Uuid
  lastActivityAt : Time
  deriving DecidableEq, Repr

/-- A system message on a ticket. -/
structure SupportMessage where
  ticketId : Uuid
  senderAdminId : Option Uuid
  body : String
  deriving DecidableEq, Repr

instance : Row User Uuid := ⟨User.id⟩
instance : Row PaymentOrder Uuid := ⟨PaymentOrder.id⟩
instance : Row Plan Uuid := ⟨Plan.id⟩
instance : Row Subscription Uuid := ⟨Subscription.id⟩
instance : Row PromoCode Uuid := ⟨PromoCode.id⟩
instance : Row Referral Uuid := ⟨Referral.id⟩
instance : Row SupportTicket Uuid := ⟨SupportTicket.id⟩

/-- The tables of billing. The ledger, the activations and the messages are only
ever appended to; the others are found by their primary key. -/
structure Database where
  users : Table User
  orders : Table PaymentOrder
  transactions : List BalanceTransaction
  fees : List PaymentProviderFee
  plans : Table Plan
  subscriptions : Table Subscription
  promoCodes : Table PromoCode
  activations : List PromoActivation
  referrals : Table Referral
  tickets : Table SupportTicket
  messages : List SupportMessage

/-- The database without rows. -/
def Database.empty : Database where
  users := .empty
  orders := .empty
  transactions := []
  fees := []
  plans := .empty
  subscriptions := .empty
  promoCodes := .empty
  activations := []
  referrals := .empty
  tickets := .empty
  messages := []

/-! ## Exceptions -/

/-- The exceptions of the services, with their messages. -/
inductive BillingError
  | orderNotFound (message : String)
  | insufficientBalance (message : String)
  | planNotPurchasable (message : String)
  | providerError (message : String)
  | webhookVerificationFailed (message : String)
  | orderExpired (message : String)
  | deviceSlotLimitExceeded (message : String)
  | trialAlreadyUsed (message : String)
  | trialUnavailable (message : String)
  | fulfillmentFailed (message : String)
  | refundNotAllowed (message : String)
  | promoInvalid (message : String)
  | promoNotEligible (message : String)
  | promoExhausted (message : String)
  | subscriptionNotFound (subscription : Uuid)
  | ticketNotFound (message : String)
  | supportActionFailed (message : String)
  /-- A model of the request layer refused its fields. -/
  | validationError
  /-- A query for at most one row met several. -/
  | multipleResultsFound
  /-- A value does not fit its column. -/
  | dataError
  /-- A unique column already holds the value. -/
  | integrityError
  /-- Any other exception. -/
  | other (message : String)
  deriving DecidableEq, Repr

/-- `str(exc)`. -/
def BillingError.message : BillingError → String
  | orderNotFound message => message
  | insufficientBalance message => message
  | planNotPurchasable message => message
  | providerError message => message
  | webhookVerificationFailed message => message
  | orderExpired message => message
  | deviceSlotLimitExceeded message => message
  | trialAlreadyUsed message => message
  | trialUnavailable message => message
  | fulfillmentFailed message => message
  | refundNotAllowed message => message
  | promoInvalid message => message
  | promoNotEligible message => message
  | promoExhausted message => message
  | subscriptionNotFound subscription => toString subscription
  | ticketNotFound message => message
  | supportActionFailed message => message
  | validationError => "validation error"
  | multipleResultsFound => "Multiple rows were found when one or none was required"
  | dataError => "value out of int32 range"
  | integrityError => "duplicate key value violates unique constraint"
  | other message => message

end VpnControl.Billing

/-
# A small deployment

One user, one plan and one configured gateway. The runs that show a general
statement at work, or show that it needs its condition, are replayed on it.
-/

import Mathlib.Tactic.NormNum
import VpnControl.Billing.Operations

namespace VpnControl.Billing.Scenario

open Txn

/-- A library that accepts every token. -/
def library : ProviderLibrary where
  jwtDecode _ _ := .ok ()
  md5 text := text
  repr _ := ""

/-- CryptoCloud is configured, referral rewards are on. -/
def settings : Settings where
  billing :=
    { cryptoApiKey := "key"
      cryptoShopId := "shop"
      cryptoWebhookSecret := "secret" }
  referral := {}
  library := library

def world : World where
  now := 0
  payment _ := .ok "invoice"
  restore _ := .ok ()

/-- The session of a request that draws its identifiers from `uuid` on. -/
def session (uuid : Uuid) : Session := Session.new world.now uuid world.payment world.restore

def plan : Plan where
  id := 7
  name := "Basic"
  isActive := true
  priceRub := 100
  devicePriceRub := 50
  periods := []
  includedDevices := 1
  maxDevices := 5
  durationDays := 30

def database (balance : Money) : Database :=
  { Database.empty with
    users := Table.empty.insert { id := 1, balance := balance }
    plans := Table.empty.insert plan }

/-- The plan, paid from the balance. -/
def purchase : OrderCreateIn where
  userId := 1
  planId := some 7
  provider := .balance

/-- The plan, paid through CryptoCloud. -/
def invoice : OrderCreateIn where
  userId := 1
  planId := some 7
  provider := .crypto

/-- A manual credit. -/
def credit : BalanceCreditIn where
  amount := 150
  amount_pos := by norm_num
  amount_le := by norm_num
  description_length := by simp

/-- Order 2 of user 1 for the plan, waiting for its CryptoCloud payment. -/
def pendingOrder : PaymentOrder where
  id := 2
  userId := 1
  planId := some 7
  amountRub := 100
  provider := .crypto
  status := .pending
  externalId := "invoice"
  paidAt := none
  completedAt := none
  expiresAt := some 1000
  subscriptionId := none
  orderType := .planPurchase
  deviceSlotsQty := 0
  periodMonths := 1
  feeRub := none
  netRub := none
  promoCodeId := none
  discountRub := none
  createdAt := 0

/-- The database with some orders. -/
def withOrder (db : Database) (order : PaymentOrder) : Database :=
  { db with orders := db.orders.insert order }

/-- A CryptoCloud postback for the invoice. -/
def postback (fields : List (String × Json)) : Request where
  method := "POST"
  header name := if name = "content-type" then some "application/json" else none
  json := .ok (.dict (("token", .str "token") :: ("uuid", .str "invoice") :: fields))
  form := []
  queryParams := []

/-- User 1 runs the plan. -/
def running : Subscription where
  id := 3
  userId := 1
  planId := some 7
  isActive := true
  expiresAt := some 1000
  maxDevices := some 1
  paidDeviceSlots := 0
  periodMonths := 1
  autoRenew := false

/-- User 1 with a balance and the running plan. -/
def subscribed (balance : Money) : Committed engine where
  state := { database balance with subscriptions := Table.empty.insert running }
  log := []

end VpnControl.Billing.Scenario

/-
# Which webhook pays an order

A webhook is verified by its provider and then finds its order by the external id
alone. This module says what is known about the webhook that settled an order, in
every run and whatever else is running. The amount it reports is compared only when it
is positive; a gateway that reports none is trusted.
-/

import VpnControl.Billing.Fulfilment
import VpnControl.Billing.Scenario

namespace VpnControl.Billing

open Txn
open System

variable {S : Committed engine → Prop} {ws : List Write} {order : PaymentOrder} {id : Uuid}

def Write.pays (id : Uuid) : Write → Bool
  | .updateOrder order patch => order = id ∧ patch.status = some .paid
  | _ => false

theorem Write.eq_of_pays {w : Write} (h : w.pays id = true) :
    ∃ patch, w = .updateOrder id patch ∧ patch.status = some .paid := by
  cases w <;> simp_all [Write.pays]

theorem Payment.pays
    (h : Payment S before fresh order ws) (hw : w ∈ ws) (hpays : w.pays id = true) :
    id = order.id ∧ order.status = .pending := by
  obtain ⟨patch, rfl, -⟩ := Write.eq_of_pays hpays
  have hid : id = order.id := h.settles _ hw
  cases h with
  | repeated => simp at hw
  | settled _ _ hpending => exact ⟨hid, hpending⟩

theorem Accepted.pays (h : Accepted S before fresh webhook order ws) (hw : w ∈ ws)
    (hpays : w.pays id = true) :
    id = order.id ∧ order.status = .pending ∧ webhook.shouldFulfill = true := by
  cases h with
  | noted status _ hstatus =>
    obtain ⟨patch, rfl, hpatch⟩ := Write.eq_of_pays hpays
    obtain ⟨rfl, rfl⟩ : id = order.id ∧ patch = { status := status } := by simpa using hw
    rcases hstatus with rfl | ⟨rfl, -⟩ <;> simp at hpatch
  | payment _ hpaid hpayment =>
    obtain ⟨hid, hpending⟩ := hpayment.pays hw hpays
    exact ⟨hid, hpending, hpaid⟩

variable {ι : Type} [Fintype ι] [DecidableEq ι]

def paidWebhookSystem : System engine BillingError Unit :=
  System.start ⟨Scenario.withOrder (Scenario.database 0) Scenario.pendingOrder, []⟩
    (fun _ => processWebhook Scenario.settings "crypto" (Scenario.postback [("amount", .int 100)]))
    fun _ => Scenario.session 10

end VpnControl.Billing

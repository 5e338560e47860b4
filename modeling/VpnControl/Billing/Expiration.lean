/-
# Expiry against payment

The expiry job selects the pending orders whose time is over and updates the selected
rows in a second statement. The update does not look at the status again. An order
that is settled between the two statements is overwritten; apart from that, a final
order stays final in every interleaving of the job with payments and refunds.
-/

import VpnControl.Billing.Fulfilment
import VpnControl.Billing.Scenario

namespace VpnControl.Billing

open Txn Protocol Write

variable {S : Committed engine → Prop} {t : Tx engine} {c later : Committed engine}
  {order row : PaymentOrder} {id : Uuid} {ws : List Write} {db : Database} {session : Session}
  {cfg : Settings}

/-! ## The protocol -/

def Database.Final (db : Database) (id : Uuid) : Prop :=
  ∃ row, db.orders.find? id = some row ∧ row.status ∈ orderFinalStatuses

instance (db : Database) (id : Uuid) : Decidable (db.Final id) :=
  match hrow : db.orders.find? id with
  | none => .isFalse fun ⟨row, hsome, _⟩ => by rw [hrow] at hsome; cases hsome
  | some row => decidable_of_iff (row.status ∈ orderFinalStatuses) (by simp [Database.Final, hrow])

/-- The update of the expiry job does not find the order in a final status. -/
def ExpiresOpen (id : Uuid) (op : Stmt) (_ : Tx engine) (c : Committed engine) : Prop :=
  match op with
  | .expireOrders ids => id ∈ ids → ¬ c.state.Final id
  | _ => True

instance (id : Uuid) (op : Stmt) (t : Tx engine) (c : Committed engine) :
    Decidable (ExpiresOpen id op t c) :=
  match op with
  | .expireOrders ids => inferInstanceAs (Decidable (id ∈ ids → ¬ c.state.Final id))
  | .now => .isTrue trivial
  | .uuid4 => .isTrue trivial
  | .query _ _ => .isTrue trivial
  | .getUser _ => .isTrue trivial
  | .lockUser _ => .isTrue trivial
  | .lockOrder _ => .isTrue trivial
  | .write _ => .isTrue trivial
  | .createPayment _ => .isTrue trivial
  | .restoreKeys _ => .isTrue trivial

/-- A final order stays final, as long as the expiry job does not update it. -/
def finalProtocol (id : Uuid) : Protocol engine where
  Inv _ := True
  Guar c later := c.state.Final id → later.state.Final id
  guard := ExpiresOpen id
  Done _ := True
  guar_refl _ h := h
  guar_trans h h' hfinal := h' (h hfinal)

/-- Writes about one order keep the final status of every order if they keep that of
this one. -/
theorem Database.Final.settles (h : db.Final id) (hrow : db.orders.find? row.id = some row)
    (hws : ∀ w ∈ ws, w.Settles row.id) (hkeep : row.status ∈ orderFinalStatuses →
      (row.patched (ws.filterMap (orderPatch? row.id))).status ∈ orderFinalStatuses) :
    (ws.foldl Database.apply db).Final id := by
  obtain ⟨old, hold, hfinal⟩ := h
  refine ⟨_, find?_order_foldl hold ws, ?_⟩
  by_cases hid : id = row.id
  · subst hid
    obtain rfl : row = old := Option.mem_unique hrow hold
    exact hkeep hfinal
  · have hnone : ws.filterMap (orderPatch? id) = [] :=
      filterMap_orderPatch?_eq_nil fun w hw => (hws w hw).not_mentions hid
    rw [hnone]
    exact hfinal

theorem Payment.keeps_final
    (h : Payment S before fresh row ws) (hfinal : row.status ∈ orderFinalStatuses) :
    (row.patched (ws.filterMap (orderPatch? row.id))).status ∈ orderFinalStatuses := by
  cases h with
  | repeated => exact hfinal
  | settled _ _ _ _ _ hsettled =>
    rw [hsettled.status]
    decide

theorem Accepted.keeps_final
    (h : Accepted S before fresh webhook row ws) (hfinal : row.status ∈ orderFinalStatuses) :
    (row.patched (ws.filterMap (orderPatch? row.id))).status ∈ orderFinalStatuses := by
  cases h with
  | noted _ _ hstatus =>
    rcases hstatus with rfl | ⟨-, hpending⟩
    · simpa [orderPatch?, OrderInternalUpdate.set] using hfinal
    · rw [hpending] at hfinal
      exact absurd hfinal (by decide)
  | payment _ _ hpayment => exact hpayment.keeps_final hfinal

theorem final_locked {R : List Write → Prop}
    (hp : Outcome (fun _ => True) t p fun _ => R) (hwrites : t.writes = [])
    (hkey : RowKey.order row.id ∈ t.keys) (hrow : c.state.orders.find? row.id = some row)
    (hsettles : ∀ ws, R ws → ∀ w ∈ ws, w.Settles row.id)
    (hkeep : ∀ ws, R ws → row.status ∈ orderFinalStatuses →
      (row.patched (ws.filterMap (orderPatch? row.id))).status ∈ orderFinalStatuses) :
    (finalProtocol id).wp p (fun _ => (finalProtocol id).CommitOk) (fun _ _ _ => True) t c := by
  refine wp_commit_locked (P := finalProtocol id) hp hwrites hkey hrow ?_
  intro done later _ hlater hws
  refine ⟨trivial, fun hfinal => ?_, trivial⟩
  exact hfinal.settles hlater (hsettles _ hws) (hkeep _ hws)

/-- Payments, refunds and the expiry job. -/
def Operation.OfOrders : Operation → Prop
  | .processWebhook _ _ => True
  | .confirmStarsPayment _ => True
  | .refundOrder _ _ _ => True
  | .expirationTick => True
  | _ => False

/-- Once the expiry job has updated the selected orders, it may commit: nobody else
writes them before that. -/
theorem final_expireOrders (ht : t.writes = []) (hguard : ExpiresOpen id (.expireOrders ids) t c)
    (hrely : (finalProtocol id).Rely (t.after c (.expireOrders ids)) c later) :
    (finalProtocol id).CommitOk (t.after c (.expireOrders ids)) later := by
  refine ⟨trivial, fun hfinal => ?_, trivial⟩
  obtain ⟨row, hrow, hstatus⟩ := hfinal
  have hwrites : (t.after c (.expireOrders ids)).writes = Stmt.writes (.expireOrders ids) := by
    rw [Tx.after_writes, ht, List.nil_append]
  by_cases hid : id ∈ ids
  · have hlock : RowKey.order id ∈ Stmt.locks (.expireOrders ids) (t.view c.state) :=
      List.mem_map_of_mem hid
    have hsame : Database.SameRow (.order id) c.state later.state :=
      hrely.sameRow (Tx.mem_keys_after.mpr (.inr hlock))
    exact absurd ⟨row, hsame.trans hrow, hstatus⟩ (hguard hid)
  · refine ⟨_, find?_order_foldl hrow _, ?_⟩
    rw [hwrites, filterMap_orderPatch?_eq_nil fun w hw => ?_]
    · exact hstatus
    · obtain ⟨other, hother, rfl⟩ := List.mem_map.mp hw
      rintro (rfl : other = id)
      exact hid hother

/-- The expiry job meets the protocol. -/
theorem final_expirationTick : (finalProtocol id).wp (Operation.expirationTick.program cfg)
      (fun _ => (finalProtocol id).CommitOk) (fun _ _ _ => True) (Tx.start session) c := by
  refine wp_bind ?_
  intro c₁ _ _ c₂ _ _
  show (finalProtocol id).wp (if _ = [] then _ else _) _ _ _ _
  split
  · intro c₃ _ later _
    refine ⟨trivial, fun hfinal => ?_, trivial⟩
    exact hfinal
  · intro c₃ _ hguard c₄ hrely later hlater
    exact final_expireOrders rfl hguard (hrely.trans hlater)

theorem final_program {op : Operation} (hop : op.OfOrders) :
    (finalProtocol id).wp (op.program cfg) (fun _ => (finalProtocol id).CommitOk)
      (fun _ _ _ => True) (Tx.start session) c := by
  cases op with
  | processWebhook providerName request =>
    change (finalProtocol id).wp (processWebhook cfg providerName request) _ _ _ c
    obtain ⟨error, heq⟩ | ⟨webhook, -, heq⟩ := processWebhook_cases cfg providerName request
    · rw [heq]
      exact fun _ _ => trivial
    · rw [heq]
      refine wp_lockOrder ?_
      intro t c row _ hfound hwrites hkey
      exact final_locked (outcome_acceptLocked cfg .here) hwrites hkey
        (OrderRef.find?_eq_some hfound) (fun ws h => h.2.settles) fun ws h => h.2.keeps_final
  | confirmStarsPayment order =>
    refine wp_lockOrder ?_
    intro t c row _ hfound hwrites hkey
    exact final_locked (outcome_confirmLocked cfg .here) hwrites hkey
      (OrderRef.find?_eq_some hfound) (fun ws h => h.2.settles) fun ws h => h.2.keeps_final
  | refundOrder order reason deactivate =>
    refine wp_lockOrder ?_
    intro t c row _ hfound hwrites hkey
    refine final_locked outcome_refundLocked hwrites hkey
      (OrderRef.find?_eq_some hfound) (fun ws h => h.settles) fun ws h _ => ?_
    rw [h.status]
    decide
  | expirationTick => exact final_expirationTick
  | _ => exact absurd hop not_false

/-! ## Every run -/

variable {ι : Type} [Fintype ι] [DecidableEq ι]

/-- **A paid order never becomes expired**, in every run in which no update of the
expiry job finds the order in a final status: once a committed state shows the order
paid, completed, refunded or failed, every later one does. -/
theorem final_of_expiresOpen (cfg : Settings) (id : Uuid) (ops : ι → Operation)
    (hops : ∀ i, (ops i).OfOrders) (sessions : ι → Session)
    {mid later : System engine BillingError ι} (hmid : System.Runs (ExpiresOpen id)
      (System.start ⟨db, []⟩ (fun i => (ops i).program cfg) sessions) mid)
    (hlater : System.Runs (ExpiresOpen id) mid later) (hfinal : mid.db.state.Final id) :
    later.db.state.Final id := by
  have hsound : (finalProtocol id).Sound
      (System.start ⟨db, []⟩ (fun i => (ops i).program cfg) sessions) :=
    sound_start trivial fun i => final_program (hops i)
  obtain ⟨hsoundMid, -⟩ := hsound.runs hmid
  exact (hsoundMid.runs hlater).2 hfinal

/-- The expiry job and a paid webhook for an order whose time is over. -/
def expiryAndWebhook (expiring : Bool) : Operation :=
  if expiring then .expirationTick
  else .processWebhook "crypto" (Scenario.postback [("amount", .int 100)])

def expiryAndWebhookSystem : System engine BillingError Bool :=
  System.start
    ⟨Scenario.withOrder (Scenario.database 0) { Scenario.pendingOrder with expiresAt := some (-1) },
      []⟩
    (fun i => (expiryAndWebhook i).program Scenario.settings)
    fun i => Scenario.session (if i then 10 else 20)

/-- The webhook commits first, then the job runs. -/
theorem final_of_expiresOpen_webhook_first :
    ∃ mid later, System.Runs (ExpiresOpen 2) expiryAndWebhookSystem mid ∧
      System.Runs (ExpiresOpen 2) mid later ∧ (∀ i, (later.committed? i).isSome) ∧
      mid.db.state.Final 2 ∧ later.db.state.Final 2 := by
  obtain ⟨mid, later, hmid, hlater, hfinal, hdone⟩ := System.exists_runs_of_replay (ExpiresOpen 2)
    expiryAndWebhookSystem (List.replicate 21 (.step false)) (List.replicate 3 (.step true))
    (fun mid => decide (mid.db.state.Final 2))
    (fun later => decide (∀ i, (later.committed? i).isSome)) (by decide +kernel)
  have hops : ∀ i, (expiryAndWebhook i).OfOrders := by
    intro i
    cases i <;> trivial
  have hfinal := of_decide_eq_true hfinal
  exact ⟨mid, later, hmid, hlater, of_decide_eq_true hdone, hfinal,
    final_of_expiresOpen Scenario.settings 2 expiryAndWebhook hops _ hmid hlater hfinal⟩

/-- The job has selected the order, the webhook completes it, and the update of the job
expires it. -/
theorem completed_order_expires :
    ∃ mid later, System.Runs (fun _ _ _ => True) expiryAndWebhookSystem mid ∧
      System.Runs (fun _ _ _ => True) mid later ∧ (∀ i, (later.committed? i).isSome) ∧
      mid.db.state.status? 2 = some .completed ∧ later.db.state.status? 2 = some .expired := by
  obtain ⟨mid, later, hmid, hlater, hcompleted, hdone⟩ := System.exists_runs_of_replay
    (fun _ _ _ => True) expiryAndWebhookSystem
    (List.replicate 2 (.step true) ++ List.replicate 21 (.step false))
    (List.replicate 2 (.step true))
    (fun mid => decide (mid.db.state.status? 2 = some .completed))
    (fun later => decide ((∀ i, (later.committed? i).isSome) ∧
      later.db.state.status? 2 = some .expired)) (by decide +kernel)
  obtain ⟨hcommitted, hexpired⟩ := of_decide_eq_true hdone
  exact ⟨mid, later, hmid, hlater, hcommitted, of_decide_eq_true hcompleted, hexpired⟩

end VpnControl.Billing

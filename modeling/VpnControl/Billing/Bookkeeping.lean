/-
# The services keep the books

Every operation of billing except the refund button of the support desk changes
balances under the lock of the user row. This module checks that along the code:
`KeepsLedger p` says that `p` takes the knowledge of `LedgerLocal` to itself for
every user, and `PostsLedger holder p` the same for code that runs while the row of
`holder` is locked and loaded.
-/

import VpnControl.Billing.Ledger

namespace VpnControl.Billing

open Txn Protocol Write

variable {data : OrderCreateIn} {α β : Type} {type : TransactionType} (cfg : Settings) (user : Uuid)
  (order : PaymentOrder) (providerName : String)

/-- The program keeps the books of every user. -/
def KeepsLedger (p : Service α) : Prop :=
  ∀ start user opening, (ledgerProtocol start user opening).Keeps (LedgerLocal user 0) p

/-- The program keeps the books of every user when it starts with a locked and
loaded row. -/
def PostsLedger (holder : User) (p : Service α) : Prop :=
  ∀ start user opening, (ledgerProtocol start user opening).Triple
    (fun t c => LedgerLocal user 0 t c ∧ Holds holder t) p
    (fun _ => LedgerLocal user 0) fun _ => LedgerLocal user 0

/-! ## Rules -/

variable {p : Service α} {f : α → Service β}

theorem KeepsLedger.bind (hp : KeepsLedger p)
    (hf : ∀ value, KeepsLedger (f value)) : KeepsLedger (p >>= f) :=
  fun start user opening =>
    keeps_bind (hp start user opening) fun value => hf value start user opening

theorem KeepsLedger.tryCatch {handler : BillingError → Service α} (hp : KeepsLedger p)
    (hh : ∀ error, KeepsLedger (handler error)) : KeepsLedger (p.tryCatch handler) :=
  fun start user opening =>
    keeps_tryCatch (hp start user opening) fun error => hh error start user opening

theorem KeepsLedger.ite {c : Prop} [Decidable c] {q : Service α} (hq : KeepsLedger q)
    (hp : KeepsLedger p) : KeepsLedger (if c then q else p) := by
  split
  · exact hq
  · exact hp

/-- A row is read, and may be missing. -/
theorem KeepsLedger.read {p : Service (Option β)} {f : Option β → Service α}
    (hp : KeepsLedger p) (hnone : KeepsLedger (f none))
    (hsome : ∀ row, KeepsLedger (f (some row))) : KeepsLedger (p >>= f) :=
  hp.bind fun found => by cases found with
    | none => exact hnone
    | some row => exact hsome row

/-- Code that writes neither balances nor ledger rows. -/
@[simp]
theorem KeepsLedger.of_writes (h : Writes Quiet p) : KeepsLedger p := by
  intro start user opening
  refine keeps_of_every stable_ledgerLocal ?_ h
  intro op hop t c hinv hguard hlocal
  exact hlocal.after hinv (fun w hw => (hop w hw).not_concerns user) hguard (.inr rfl)

theorem PostsLedger.of_keeps (h : KeepsLedger p) : PostsLedger holder p := fun start user opening =>
    (h start user opening).conseq (fun _ _ hpre => hpre.1) (fun _ _ _ h => h) fun _ _ _ h => h

/-- Code that writes neither balances nor ledger rows leaves the row locked and
loaded. -/
theorem PostsLedger.quiet_bind (hp : Writes Quiet p)
    (hf : ∀ value, PostsLedger holder (f value)) : PostsLedger holder (p >>= f) := by
  intro start user opening
  have hkeep : (ledgerProtocol start user opening).Keeps
      (fun t c => LedgerLocal user 0 t c ∧ Holds holder t) p := by
    refine keeps_of_every (stable_ledgerLocal.and (stable_const _)) ?_ hp
    intro op hop t c hinv hguard hpre
    exact ⟨hpre.1.after hinv (fun w hw => (hop w hw).not_concerns user) hguard (.inr rfl),
      hpre.2.after fun w hw => (hop w hw).not_concerns holder.id⟩
  exact triple_bind (hkeep.conseq (fun _ _ h => h) (fun _ _ _ h => h) fun _ _ _ h => h.1)
    fun value => hf value start user opening

theorem KeepsLedger.lockUser_bind {id : Uuid} {f : Option User → Service α}
    (hnone : KeepsLedger (f none))
    (hsome : ∀ holder, holder.id = id → PostsLedger holder (f (some holder))) :
    KeepsLedger (lockUser id >>= f) := by
  intro start user opening
  have hlock : (ledgerProtocol start user opening).Triple (LedgerLocal user 0) (lockUser id)
      (fun found t c => LedgerLocal user 0 t c ∧
        ∀ holder, found = some holder → holder.id = id ∧ Holds holder t)
      fun _ => LedgerLocal user 0 := by
    refine triple_perform stable_ledgerLocal
      (fun found => stable_ledgerLocal.and (stable_const _)) ?_
    intro t c hinv hguard hlocal
    refine ⟨hlocal.after hinv (by simp [Stmt.writes]) hguard (.inr rfl), ?_⟩
    intro holder hfound
    obtain ⟨hid, -, hloaded⟩ := loadUser_eq_some hfound
    refine ⟨hid, ?_, hid ▸ hloaded⟩
    have hrow : (t.view c.state).users.find? id ≠ none := fun hnone => by
      cases hfound.symm.trans (loadUser_eq_none.mpr hnone)
    rw [hid]
    exact Tx.mem_keys_after.mpr (.inr (by simp [Stmt.locks, Option.isSome_iff_ne_none, hrow]))
  refine triple_bind hlock fun found => ?_
  cases found with
  | none =>
    exact (hnone start user opening).conseq (fun _ _ h => h.1) (fun _ _ _ h => h) fun _ _ _ h => h
  | some holder =>
    intro t c hpre
    obtain ⟨hid, hholds⟩ := hpre.2 holder rfl
    exact hsome holder hid start user opening t c ⟨hpre.1, hholds⟩

section

variable {holder : User} (hnew : newBalance = holder.balance + amount)
    (hcovered : type ∈ debitTypes → 0 ≤ newBalance)

include hnew hcovered

/-- Writing the balance of the locked row and its ledger row. -/
theorem PostsLedger.post : PostsLedger holder (do
      updateUserBalance holder.id newBalance
      recordTransaction holder.id amount newBalance type orderId description) := by
  intro start user opening
  let posting : Assertion engine := fun t c =>
    LedgerLocal user (if holder.id = user then amount else 0) t c ∧
      Holds { holder with balance := newBalance } t
  have hposting : (ledgerProtocol start user opening).Stable posting :=
    stable_ledgerLocal.and (stable_const _)
  have hbalance : (ledgerProtocol start user opening).Triple
      (fun t c => LedgerLocal user 0 t c ∧ Holds holder t)
      (updateUserBalance holder.id newBalance) (fun _ => posting) fun _ => LedgerLocal user 0 := by
    refine triple_perform (stable_ledgerLocal.and (stable_const _)) (fun _ => hposting) ?_
    intro t c hinv _ hpre
    exact hpre.1.setBalance hpre.2 hnew hinv
  refine triple_bind hbalance fun _ => triple_bind (B := fun _ => posting) ?_ fun id => ?_
  · refine triple_perform hposting (fun _ => hposting) ?_
    intro t c hinv hguard hpre
    refine ⟨hpre.1.after hinv (by simp [Stmt.writes]) hguard ?_,
      hpre.2.after (by simp [Stmt.writes])⟩
    by_cases howner : holder.id = user
    · exact .inl (howner ▸ hpre.2.1)
    · exact .inr (if_neg howner)
  · refine triple_perform hposting (fun _ => stable_ledgerLocal) ?_
    intro t c hinv _ hpre
    exact hpre.1.insertTransaction hpre.2 rfl rfl hcovered hinv

theorem PostsLedger.post_bind {rest : Service α} (hrest : KeepsLedger rest) : PostsLedger holder (do
      updateUserBalance holder.id newBalance
      recordTransaction holder.id amount newBalance type orderId description
      rest) := by
  intro start user opening
  have hpost : PostsLedger holder (do
      updateUserBalance holder.id newBalance
      recordTransaction holder.id amount newBalance type orderId description) :=
    .post hnew hcovered
  have hseq := triple_bind (hpost start user opening) fun _ => hrest start user opening
  rwa [bind_assoc] at hseq

end

/-! ## Purchases -/

theorem keepsLedger_insufficientBalance : KeepsLedger (insufficientBalance strict) := by
  refine .of_writes ?_
  unfold insufficientBalance
  split <;> simp

@[simp]
theorem quiet_deliverPlan {order : PaymentOrder} : Writes Quiet (deliverPlan user plan order now) :=
  .deliverPlan (fun _ => trivial) (fun _ _ => trivial) fun _ => trivial

@[simp]
theorem quiet_recordPromoActivation : Writes Quiet (recordPromoActivation order) :=
  .recordPromoActivation (fun _ _ => trivial) fun _ => trivial

@[simp]
theorem quiet_createOrderRow {data : OrderInternalCreate} : Writes Quiet (createOrderRow data) :=
  .createOrderRow fun _ _ => trivial

@[simp]
theorem quiet_updateOrder {order : Uuid} : Writes Quiet (updateOrder order patch) :=
  .updateOrder trivial

theorem keepsLedger_payFromBalance
    {deliver : Uuid → Service Unit} (hdeliver : ∀ user, Writes Quiet (deliver user)) :
    KeepsLedger (payFromBalance user order type description strict deliver) := by
  refine .lockUser_bind keepsLedger_insufficientBalance ?_
  intro holder _
  by_cases hcover : holder.balance < order.amountRub
  · simp only [if_pos hcover]
    exact .of_keeps keepsLedger_insufficientBalance
  · simp only [if_neg hcover]
    refine .post_bind (by ring) (fun _ => by linarith) ?_
    exact .of_writes (hdeliver holder.id)

theorem keepsLedger_autoPurchase {order : PaymentOrder} :
    KeepsLedger (autoPurchase user plan order now strict) :=
  keepsLedger_payFromBalance user order fun user => quiet_deliverPlan user

theorem keepsLedger_fulfillDeviceSlots : KeepsLedger (fulfillDeviceSlots user order strict) :=
  keepsLedger_payFromBalance user order fun _ => .addDeviceSlots fun _ _ => trivial

/-! ## Referral rewards -/

theorem keepsLedger_creditUser (htype : type ∉ debitTypes) :
    KeepsLedger (creditUser user amount type description) := by
  refine .lockUser_bind (by simp) ?_
  rintro holder rfl
  exact .post rfl fun hdebit => absurd hdebit htype

theorem keepsLedger_processRewardIfEligible {cfg : ReferralConfig} {user : Uuid} :
    KeepsLedger (processRewardIfEligible cfg user) := by
  have hreferrer : ∀ referral, KeepsLedger (rewardReferrer cfg referral) := by
    intro referral
    refine .ite ((keepsLedger_creditUser _ (by decide)).bind fun _ => ?_) (by simp)
    exact .of_writes (.bind (by simp) fun _ => by simp)
  have hreferred : ∀ referral, KeepsLedger (rewardReferred cfg referral) :=
    fun referral => .ite (keepsLedger_creditUser _ (by decide)) (by simp)
  refine .ite (by simp) (.bind (by simp) fun found => .read (by simp) (by simp) fun referral => ?_)
  refine .bind (by simp) fun paidOrders => .ite (by simp) (.bind (by simp) fun now => ?_)
  refine (hreferrer referral).bind fun _ => (hreferred referral).bind fun _ => ?_
  exact .of_writes (.execute trivial)

/-! ## Fulfilment -/

theorem keepsLedger_deliverOrder {user : User} {order : PaymentOrder} :
    KeepsLedger (deliverOrder user order now) := by
  refine .ite (keepsLedger_fulfillDeviceSlots _ order) ?_
  split
  · simp
  · exact .read (by simp) (by simp) fun plan => .ite (keepsLedger_autoPurchase _) (by simp)

theorem postsLedger_settlePayment {user : User} {providerName : String} :
    PostsLedger user (settlePayment cfg order user providerName feeRub method) := by
  refine .quiet_bind (by simp) fun now => .quiet_bind (by simp) fun fee =>
    .quiet_bind quiet_updateOrder fun _ => ?_
  refine .post_bind rfl (fun hdebit => absurd hdebit (by decide)) ?_
  refine .bind (by simp) fun _ => keepsLedger_deliverOrder.bind fun _ => ?_
  exact .bind (by simp) fun _ =>
    .ite (keepsLedger_processRewardIfEligible.tryCatch fun _ => by simp) (by simp)

theorem keepsLedger_fulfillOrderLocked :
    KeepsLedger (fulfillOrderLocked cfg order providerName feeRub method) := by
  refine .ite (by simp) (.ite (by simp) (.lockUser_bind ?_ ?_))
  · exact .bind (by simp) fun _ => by simp
  · intro holder _
    exact postsLedger_settlePayment cfg order

theorem keepsLedger_processWebhook {request : Request} :
    KeepsLedger (processWebhook cfg providerName request) := by
  unfold processWebhook
  split
  · simp
  · split
    · simp
    · simp
    · refine .read (by simp) (by simp) fun order => .ite (by simp) (.ite ?_ ?_)
      · exact .of_writes quiet_updateOrder
      · exact keepsLedger_fulfillOrderLocked cfg order providerName

/-! ## Refunds and manual operations -/

theorem keepsLedger_refundOrder {order : Uuid} :
    KeepsLedger (refundOrder order reason deactivate) := by
  refine .read (by simp) (by simp) fun order => .ite (by simp) (.lockUser_bind (by simp) ?_)
  intro holder _
  refine .post_bind (by ring) (fun hdebit => absurd hdebit (by decide)) ?_
  exact .bind (by simp) fun _ => .of_writes (.deactivateRefunded fun _ _ => trivial)

theorem keepsLedger_creditBalance {data : BalanceCreditIn} :
    KeepsLedger (creditBalance user data) := by
  refine .lockUser_bind (by simp) ?_
  intro holder _
  exact .post_bind rfl (fun hdebit => absurd hdebit (by decide)) (by simp)

theorem keepsLedger_debitBalance {data : BalanceDebitIn} :
    KeepsLedger (debitBalance user data) := by
  refine .lockUser_bind (by simp) ?_
  intro holder _
  by_cases hcover : holder.balance < data.amount
  · simp only [if_pos hcover]
    exact .of_keeps (by simp)
  · simp only [if_neg hcover]
    exact .post_bind (by ring) (fun _ => by linarith) (by simp)

/-! ## Order creation -/

theorem keepsLedger_createFreeOrder {user : User} :
    KeepsLedger (createFreeOrder user plan data) := by
  refine .of_writes ?_
  refine .bind (by simp) fun now => .bind (by simp) fun token =>
    .bind quiet_createOrderRow fun order => .bind ?_ fun _ =>
    .bind quiet_updateOrder fun _ => by simp
  exact .autoPurchaseFree (fun _ => trivial) (fun _ _ => trivial) fun _ => trivial

theorem keepsLedger_createTopUpOrder {user : User} :
    KeepsLedger (createTopUpOrder cfg user data) := by
  unfold createTopUpOrder
  split
  · simp
  · refine .ite (by simp) (.of_writes ?_)
    exact .bind (by simp) fun _ => .bind (by simp) fun _ => quiet_createOrderRow

theorem keepsLedger_createBalanceDeviceSlotOrder {user subscription : Uuid} {qty : ℤ} :
    KeepsLedger (createBalanceDeviceSlotOrder user subscription qty amountRub) := by
  refine .bind (by simp) fun now => .bind (by simp) fun token => .bind (by simp) fun order =>
    .read (by simp) (by simp) fun _ => (keepsLedger_fulfillDeviceSlots _ order).bind fun _ => ?_
  exact .of_writes (.bind quiet_updateOrder fun _ => by simp)

theorem keepsLedger_createDeviceSlotOrder : KeepsLedger (createDeviceSlotOrder cfg data) := by
  have hplace : ∀ sub plan, KeepsLedger (placeDeviceSlotOrder cfg data sub plan) := by
    intro sub plan
    refine .bind (by simp) fun expiresAt => .ite keepsLedger_createBalanceDeviceSlotOrder ?_
    exact .of_writes <| .bind (by simp) fun _ =>
      .bind quiet_createOrderRow fun _ => .bind quiet_updateOrder fun _ => by simp
  unfold createDeviceSlotOrder
  split
  · simp
  · refine .read (by simp) (by simp) fun sub => .ite (by simp) ?_
    exact .read (by simp) (by simp) fun plan => .ite (by simp) (.ite (by simp) (hplace _ plan))

theorem keepsLedger_createBalancePlanOrder {user : User} :
    KeepsLedger (createBalancePlanOrder user plan data quote) := by
  refine .bind (by simp) fun now =>
    .bind (by simp) fun token =>
    .bind (by simp) fun order =>
    (keepsLedger_autoPurchase _).bind fun _ => .of_writes ?_
  exact .bind quiet_updateOrder fun _ => .bind (quiet_recordPromoActivation order) fun _ => by simp

theorem keepsLedger_createPlanOrder {user : User} :
    KeepsLedger (createPlanOrder cfg user data) := by
  have htrial : ∀ plan, KeepsLedger (createTrial user plan data) := by
    intro plan
    refine .ite (by simp) (.bind (by simp) fun used => .ite (by simp) (.bind (by simp) fun now => ?_))
    refine .bind (by simp) fun live => .ite (by simp) (.bind (by simp) fun paid => ?_)
    exact .ite (by simp) keepsLedger_createFreeOrder
  have hpaid : ∀ plan, KeepsLedger (createPaidPlanOrder cfg user plan data) := by
    intro plan
    refine .ite (by simp) (.bind (by simp) fun quote => .bind (by simp) fun expiresAt => ?_)
    refine .ite keepsLedger_createBalancePlanOrder (.of_writes ?_)
    exact .bind (by simp) fun _ => quiet_createOrderRow
  unfold createPlanOrder
  split
  · simp
  · refine .read (by simp) (by simp) fun plan => .bind (by simp) fun renewal => ?_
    exact .ite (by simp) (.ite (htrial plan) (hpaid plan))

theorem keepsLedger_createOrder : KeepsLedger (createOrder cfg data) := by
  refine .read (by simp) (by simp) fun user => ?_
  dsimp only
  split
  · exact keepsLedger_createDeviceSlotOrder cfg
  · exact keepsLedger_createTopUpOrder cfg
  · exact keepsLedger_createPlanOrder cfg
  · exact keepsLedger_createPlanOrder cfg

/-! ## Operations -/

/-- The operations that change balances under the lock of the user row: all but the
refund of the support desk. -/
def Operation.Locking : Operation → Prop
  | refundLastOrder _ _ => False
  | _ => True

theorem keepsLedger_expirationTick : KeepsLedger (expirationTick cfg) := by
  refine .of_writes (.bind (by simp) fun now => .bind (by simp) fun ids => ?_)
  split
  · simp
  · refine .bind (.perform ?_) fun _ => by simp
    intro w hw
    simp only [Stmt.writes, List.mem_map] at hw
    obtain ⟨id, -, rfl⟩ := hw
    trivial

theorem keepsLedger_program {op : Operation} (h : op.Locking) : KeepsLedger (op.program cfg) := by
  have hdrop : ∀ {α : Type} {p : Service α}, KeepsLedger p → KeepsLedger (do let _ ← p; pure ()) :=
    fun hp => hp.bind fun _ => by simp
  cases op with
  | createOrder data => exact hdrop (keepsLedger_createOrder cfg)
  | processWebhook providerName request => exact keepsLedger_processWebhook cfg providerName
  | confirmStarsPayment order =>
    exact .read (by simp) (by simp) fun order =>
      .ite (by simp) (keepsLedger_fulfillOrderLocked cfg order "stars")
  | refundOrder order reason deactivate => exact keepsLedger_refundOrder
  | creditBalance user data => exact hdrop (keepsLedger_creditBalance user)
  | debitBalance user data => exact hdrop (keepsLedger_debitBalance user)
  | refundLastOrder => exact absurd h not_false
  | expirationTick => exact hdrop (keepsLedger_expirationTick cfg)
  | updatePlan => exact .of_writes (.execute trivial)

end VpnControl.Billing

/-
# One trial per user and plan

A free plan is granted to a user who has no order for it in status paid or completed. The
question is asked before the order is inserted and without a lock, and a refund takes the order
out of the two statuses. So two requests that run at the same time are both granted, and so is
a request that follows a refund.

The trial is granted once when neither happens: the requests of one user for one plan are kept
apart, and their orders are not refunded.
-/

import VpnControl.Txn.Apart
import VpnControl.Billing.OrderSteps
import VpnControl.Billing.Scenario

namespace VpnControl.Billing

open Txn Database
open Table System

/-- The order is a trial of a plan that the user was granted. -/
def PaymentOrder.IsTrial (user plan : Uuid) (order : PaymentOrder) : Prop :=
  order.provider = .free ∧ order.userId = user ∧ order.planId = some plan

instance (user plan : Uuid) (order : PaymentOrder) : Decidable (order.IsTrial user plan) :=
  inferInstanceAs (Decidable (_ ∧ _))

def Database.trials (db : Database) (user plan : Uuid) : List PaymentOrder :=
  db.orders.rows.filter (·.IsTrial user plan)

/-- The request asks for a trial of this plan for this user. -/
def Operation.asksTrial (user plan : Uuid) : Operation → Bool
  | .createOrder data => data.provider = .free ∧ data.userId = user ∧ data.planId = some plan
  | _ => false

/-- The request refunds this order. -/
def Operation.refunds (id : Uuid) : Operation → Bool
  | .refundOrder order _ _ => order = id
  | _ => false

/-- The requests of this module: `create_order` with the provider free, and refunds. -/
def Operation.TrialsOrRefunds : Operation → Prop
  | .createOrder data => data.provider = .free
  | .refundOrder _ _ _ => True
  | _ => False

variable (cfg : Settings)

section

variable {S : Committed engine → Prop} {t : Tx engine} {user plan : Uuid} {db : Database}
  {data : OrderCreateIn} {ws : List Write} {id : Uuid}

/-! ## What a request for a trial writes -/

theorem outcome_topUp_paid :
    Outcome S t (createTopUpOrder cfg account data) fun _ _ => data.provider ≠ .free := by
  unfold createTopUpOrder
  split
  · exact .raise
  refine .guard fun _ => outcome_reads (by simp) fun expiresAt mid _ => ?_
  refine .bind (outcome_openPayment cfg) ?_
  rintro externalId first opened - ⟨-, -, hpaid⟩
  exact outcome_createOrderRow.mono fun _ _ _ => hpaid

theorem outcome_deviceSlots_paid :
    Outcome S t (createDeviceSlotOrder cfg data) fun _ _ => data.provider ≠ .free := by
  unfold createDeviceSlotOrder
  split
  · exact .raise
  refine outcome_select_some rfl fun _ _ _ _ => .guard fun _ => ?_
  refine outcome_reads (by simp) fun found mid _ => ?_
  cases found with
  | none => exact .raise
  | some =>
    refine .guard fun _ => .guard fun _ => ?_
    refine outcome_reads (by simp) fun expiresAt mid _ => ?_
    split
    · rename_i hbalance
      exact .always fun _ _ => by simp [hbalance]
    · refine .bind (outcome_openPayment cfg) ?_
      rintro externalId first opened - ⟨-, -, hpaid⟩
      exact .always fun _ _ => hpaid

/-- A write that settles a trial: it inserts no order, and an order it updates keeps its
status or is completed. -/
def Write.Completes : Write → Prop
  | .insertOrder _ => False
  | .updateOrder _ patch => patch.status = none ∨ patch.status = some .completed
  | _ => True

/-- The writes of a granted trial: an order of the user for the plan in status paid, and
what completes it. -/
def Granted (user : Uuid) (plan : Option Uuid) (ws : List Write) : Prop :=
  ∃ order rest, ws = .insertOrder order :: rest ∧ order.userId = user ∧ order.planId = plan ∧
    order.status = .paid ∧ ∀ w ∈ rest, w.Completes

theorem TrialDelivery.completes
    (h : TrialDelivery fresh user product order ws) : ∀ w ∈ ws, w.Completes := by
  cases h <;> simp [Write.Completes]

theorem outcome_createFreeOrder : Outcome S t (createFreeOrder account product data) fun _ =>
      Granted data.userId (some product.id) := by
  refine outcome_datetimeNow (outcome_uuid4 fun drawn _ _ => ?_)
  refine .bind outcome_createOrderRow ?_
  rintro order first inserted - ⟨id, created, -, -, horder, rfl⟩
  refine .bind (outcome_autoPurchaseFree .here) ?_
  rintro - delivery delivered - hdelivery
  refine outcome_execute fun c hc => outcome_refreshedOrder.mono ?_
  rintro value ws ⟨rfl, -⟩
  refine ⟨order, _, rfl, by rw [horder]; rfl, by rw [horder]; rfl, by rw [horder]; rfl, ?_⟩
  intro w hw
  simp only [List.append_eq, List.nil_append, List.mem_append, List.mem_singleton] at hw
  rcases hw with hold | rfl
  · exact hdelivery.completes w hold
  · exact .inr rfl

theorem outcome_createTrial : Outcome S t (createTrial account product data) fun _ ws =>
      Saw S t.writes (fun db => db.hasCompletedOrderForPlan data.userId product.id = false) ∧
        Granted data.userId (some product.id) ws := by
  refine .guard fun _ => outcome_select fun c hc => .guard fun hunused => ?_
  refine outcome_reads (by simp) fun now mid _ => outcome_reads (by simp) fun live mid _ => ?_
  refine .guard fun _ => outcome_reads (by simp) fun bought mid _ => ?_
  refine .guard fun _ => outcome_createFreeOrder.mono fun _ ws hgranted => ?_
  exact ⟨⟨c, hc, Bool.eq_false_of_not_eq_true hunused⟩, hgranted⟩

/-- **What `create_order` writes for a request that pays nothing.** -/
theorem outcome_createOrder_free (hfree : data.provider = .free) :
    Outcome S t (createOrder cfg data) fun _ ws =>
      (∀ plan, data.planId = some plan →
        Saw S t.writes fun db => db.hasCompletedOrderForPlan data.userId plan = false) ∧
        Granted data.userId data.planId ws := by
  refine outcome_getUser (fun mid _ => .raise) fun account mid hloaded => ?_
  have hwrites : mid.writes = t.writes := (Since.here.reads hloaded.reaches).writes
  have hplan : Outcome S mid (createPlanOrder cfg account data) fun _ ws =>
      (∀ plan, data.planId = some plan →
        Saw S t.writes fun db => db.hasCompletedOrderForPlan data.userId plan = false) ∧
        Granted data.userId data.planId ws := by
    unfold createPlanOrder
    split
    · exact .raise
    rename_i planId hplanId
    refine outcome_select_some rfl fun c product hc hfound => ?_
    obtain rfl : product.id = planId := key_of_find? hfound
    refine outcome_reads (by simp) fun renewal asked hasked => .guard fun _ => ?_
    have hwrites' : asked.writes = mid.writes := by simpa using hasked.writes_eq
    split
    · refine outcome_createTrial.mono ?_
      rintro - ws ⟨hseen, hgranted⟩
      rw [hwrites', hwrites] at hseen
      rw [hplanId]
      refine ⟨fun plan hplan => ?_, hgranted⟩
      obtain rfl : product.id = plan := Option.some.inj hplan
      exact hseen
    · exact .guard fun hpaid => absurd hfree hpaid
  cases htype : data.orderType with
  | deviceSlots => exact (outcome_deviceSlots_paid cfg).mono fun _ _ hpaid => absurd hfree hpaid
  | topUp => exact (outcome_topUp_paid cfg).mono fun _ _ hpaid => absurd hfree hpaid
  | planPurchase => exact hplan
  | subscriptionRenewal => exact hplan

/-! ## The trials of a user and a plan -/

theorem trials_insertOrder :
    (db.apply (.insertOrder order)).trials user plan = db.trials user plan ∨
      order.IsTrial user plan ∧
        (db.apply (.insertOrder order)).trials user plan = db.trials user plan ++ [order] := by
  cases hfound : db.orders.find? order.id with
  | some old => exact .inl (by rw [trials, apply, insert_of_find? hfound]; rfl)
  | none =>
    have hrows : (db.apply (.insertOrder order)).orders.rows = db.orders.rows ++ [order] :=
      rows_insert hfound
    rw [trials, hrows, List.filter_append]
    by_cases htrial : order.IsTrial user plan
    · exact .inr ⟨htrial, by simp [trials, htrial]⟩
    · exact .inl (by simp [trials, htrial])

theorem trials_updateOrder (db : Database) : (db.apply (.updateOrder id patch)).trials user plan =
      (db.trials user plan).map fun order => if order.id = id then patch.set order else order := by
  have hterms : ∀ order : PaymentOrder,
      (if order.id = id then patch.set order else order).IsTrial user plan ↔
        order.IsTrial user plan := by
    intro order
    split <;> rfl
  have hrows : (db.apply (.updateOrder id patch)).orders.rows = db.orders.rows.map fun order =>
      if order.id = id then patch.set order else order := rfl
  rw [trials, hrows, List.filter_map]
  congr 1
  exact List.filter_congr fun order _ => by simp [hterms]

/-- The trials are the orders the code counts. -/
def TrialsCounted (user plan : Uuid) (db : Database) : Prop :=
  ∀ order ∈ db.trials user plan, order.status ∈ [.paid, .completed]

theorem trials_eq_nil (h : TrialsCounted user plan db)
    (hunused : db.hasCompletedOrderForPlan user plan = false) : db.trials user plan = [] := by
  rw [List.eq_nil_iff_forall_not_mem]
  intro order horder
  obtain ⟨hmem, htrial⟩ := List.mem_filter.mp horder
  obtain ⟨-, huser, hplan⟩ := of_decide_eq_true htrial
  have hcounted := List.any_eq_false.mp hunused order hmem
  exact hcounted (by simpa [huser, hplan] using h order horder)

theorem Write.Completes.apply (h : w.Completes) (db : Database) :
    ((db.apply w).trials user plan).length = (db.trials user plan).length ∧
      (TrialsCounted user plan db → TrialsCounted user plan (db.apply w)) := by
  cases w with
  | insertOrder => exact h.elim
  | updateOrder =>
    refine ⟨by rw [trials_updateOrder, List.length_map], fun hcounted order horder => ?_⟩
    rw [trials_updateOrder] at horder
    obtain ⟨old, hold, rfl⟩ := List.mem_map.mp horder
    have hstatus := hcounted old hold
    split
    · rcases h with hnone | hcompleted
      · simpa [OrderInternalUpdate.set, hnone] using hstatus
      · simp [OrderInternalUpdate.set, hcompleted]
    · exact hstatus
  | _ => exact ⟨rfl, fun hcounted => hcounted⟩

theorem completes_foldl (h : ∀ w ∈ ws, w.Completes) :
    ((ws.foldl apply db).trials user plan).length = (db.trials user plan).length ∧
      (TrialsCounted user plan db → TrialsCounted user plan (ws.foldl apply db)) := by
  refine List.foldlRecOn (motive := fun later : Database =>
    (later.trials user plan).length = (db.trials user plan).length ∧
      (TrialsCounted user plan db → TrialsCounted user plan later)) ws _ ⟨rfl, id⟩ ?_
  intro later ih w hw
  obtain ⟨hlength, hkept⟩ : _ ∧ (TrialsCounted user plan later → _) := (h w hw).apply later
  exact ⟨hlength.trans ih.1, fun hcounted => hkept (ih.2 hcounted)⟩

/-- A refund leaves the trials alone when none of them is refunded. -/
theorem trials_foldl_settles (h : ∀ w ∈ ws, w.Settles id) (db : Database)
    (hother : ∀ order ∈ db.trials user plan, order.id ≠ id) :
    (ws.foldl apply db).trials user plan = db.trials user plan := by
  induction ws generalizing db with
  | nil => rfl
  | cons w _ ih =>
    have hfirst : (db.apply w).trials user plan = db.trials user plan := by
      cases w with
      | insertOrder row => exact (h (.insertOrder row) (by simp)).elim
      | updateOrder order patch =>
        obtain rfl : order = id := h (.updateOrder order patch) (by simp)
        rw [trials_updateOrder]
        refine (List.map_congr_left fun row hrow => if_neg (hother row hrow)).trans ?_
        exact List.map_id' _
      | _ => rfl
    rw [List.foldl_cons, ih (fun w hw => h w (by simp [hw])) (db.apply w) (hfirst ▸ hother), hfirst]

/-! ## Runs -/

/-- What a request has written when it commits, if there were `seen` trials while it ran. -/
def Trialed (user plan : Uuid) (seen : ℕ) (ws : List Write) : Operation → Prop
  | .createOrder data =>
    Granted data.userId data.planId ws ∧ (data.userId = user → data.planId = some plan → seen = 0)
  | .refundOrder id _ _ => ∀ w ∈ ws, w.Settles id
  | _ => False

/-- At most one trial, and the code counts it. -/
def TrialOnce (user plan : Uuid) (c : Committed engine) : Prop :=
  (c.state.trials user plan).length ≤ 1 ∧ TrialsCounted user plan c.state

theorem trialed_program (hop : op.TrialsOrRefunds) : Outcome (fun c => TrialOnce user plan c ∧
        (op.asksTrial user plan → (c.state.trials user plan).length = seen))
      (Tx.start session) (op.program cfg) fun _ ws => Trialed user plan seen ws op := by
  cases op with
  | createOrder data =>
    refine .bind (outcome_createOrder_free cfg hop) ?_
    rintro - ws mid - ⟨hunused, hgranted⟩
    refine outcome_pure ?_
    rw [List.append_nil]
    refine ⟨hgranted, ?_⟩
    rintro rfl hplan
    obtain ⟨c, ⟨honce, hseen⟩, hcheck⟩ := hunused plan hplan
    have hfree : data.provider = .free := hop
    rw [← hseen (by simp [Operation.asksTrial, hplan, hfree]), trials_eq_nil honce.2 hcheck,
      List.length_nil]
  | refundOrder id reason deactivate =>
    refine (outcome_refundOrder id reason deactivate).mono ?_
    rintro - ws ⟨order, ⟨c, -, hfound⟩, hrefunded⟩
    have hid : order.id = id := key_of_find? hfound
    exact hid ▸ hrefunded.settles
  | _ => exact hop.elim

/-- A granted trial is one more, of its own user and plan only. -/
theorem Granted.foldl (h : Granted owner product ws) (hcounted : TrialsCounted user plan db) :
    TrialsCounted user plan (ws.foldl apply db) ∧
      (((ws.foldl apply db).trials user plan).length = (db.trials user plan).length ∨
        (owner = user ∧ product = some plan) ∧ ((ws.foldl apply db).trials user plan).length =
            (db.trials user plan).length + 1) := by
  obtain ⟨order, rest, rfl, howner, hproduct, hpaid, hrest⟩ := h
  obtain ⟨hlength, hkept⟩ :
      _ ∧ (TrialsCounted user plan (db.apply (.insertOrder order)) → _) :=
    completes_foldl hrest
  rw [List.foldl_cons, hlength]
  rcases trials_insertOrder with hsame | ⟨htrial, hnew⟩
  · exact ⟨hkept fun row hrow => hcounted row (hsame ▸ hrow), .inl (by rw [hsame])⟩
  · refine ⟨hkept fun row hrow => ?_, .inr ⟨⟨?_, ?_⟩, by rw [hnew, List.length_append]; rfl⟩⟩
    · rw [hnew] at hrow
      rcases List.mem_append.mp hrow with hold | hlast
      · exact hcounted row hold
      · rw [List.mem_singleton.mp hlast, hpaid]
        simp
    · exact howner.symm.trans htrial.2.1
    · exact hproduct.symm.trans htrial.2.2

end

section

variable {ι : Type} [Fintype ι] [DecidableEq ι]

/-- The requests of a user for the trial of a plan are kept apart, and no trial they were
granted is being refunded. -/
def TrialsApart (user plan : Uuid) (ops : ι → Operation) (past : List (Event ι))
    (s : System engine BillingError ι) (event : Event ι) : Prop :=
  s.Apart (fun i => (ops i).asksTrial user plan) past event ∧
    ∀ i, event = .step i → ∀ order ∈ s.db.state.trials user plan, ¬ (ops i).refunds order.id

instance (user plan : Uuid) (ops : ι → Operation) (past : List (Event ι))
    (s : System engine BillingError ι) (event : Event ι) :
    Decidable (TrialsApart user plan ops past s event) :=
  inferInstanceAs (Decidable (_ ∧ _))

/-- **One trial per user and plan.** Any number of requests for a free plan and of refunds are
interleaved in any way that keeps the requests of the user for the plan apart and refunds none
of the trials they were granted. Then at most one trial of the plan is ever committed for the
user. -/
theorem one_trial_of_apart (cfg : Settings) (db : Database) (user plan : Uuid)
    (hnew : db.trials user plan = []) (ops : ι → Operation)
    (hops : ∀ i, (ops i).TrialsOrRefunds) (sessions : ι → Session) {past : List (Event ι)}
    {later : System engine BillingError ι} (hrun : System.Follows (TrialsApart user plan ops)
      (System.start ⟨db, []⟩ (fun i => (ops i).program cfg) sessions) past later) :
    (later.db.state.trials user plan).length ≤ 1 := by
  have hstart : TrialOnce user plan ⟨db, []⟩ := by
    constructor
    · exact (congrArg List.length hnew).trans_le (Nat.zero_le 1)
    · intro order horder
      exact absurd (hnew ▸ horder) List.not_mem_nil
  have honce : TrialOnce user plan later.db := by
    refine hrun.invariant (G := fun i => (ops i).asksTrial user plan = true)
      (J := TrialOnce user plan) (F := fun c => (c.state.trials user plan).length)
      (R := fun i seen ws => Trialed user plan seen ws (ops i)) (fun _ _ _ hok => hok.1)
      (fun i seen => trialed_program cfg (hops i)) ?_ hstart
    rintro past s i ws ⟨-, hspared⟩ ⟨hle, hcounted⟩ hwrites
    cases hop : ops i with
    | createOrder data =>
      rw [hop] at hwrites
      obtain ⟨hgranted, hseen⟩ := hwrites
      obtain ⟨hcounted', hsame | ⟨⟨howner, hproduct⟩, hmore⟩⟩ :=
        hgranted.foldl hcounted
      · exact ⟨⟨hsame.trans_le hle, hcounted'⟩, fun _ => hsame⟩
      · refine ⟨⟨?_, hcounted'⟩, fun hnot => absurd ?_ hnot⟩
        · exact hmore.trans_le (by rw [hseen howner hproduct])
        · have hfree : (Operation.createOrder data).TrialsOrRefunds := hop ▸ hops i
          exact decide_eq_true ⟨hfree, howner, hproduct⟩
    | refundOrder =>
      rw [hop] at hwrites
      have hkept : (ws.foldl Database.apply s.db.state).trials user plan =
          s.db.state.trials user plan := by
        refine trials_foldl_settles hwrites s.db.state fun order horder hid => ?_
        exact hspared i rfl order horder (by simp [hop, Operation.refunds, hid])
      refine ⟨⟨?_, ?_⟩, fun _ => congrArg List.length hkept⟩
      · exact (congrArg List.length hkept).trans_le hle
      · exact fun order horder => hcounted order (hkept ▸ horder)
    | _ =>
      rw [hop] at hwrites
      exact hwrites.elim
  exact honce.1

end

namespace Scenario

/-- A plan that costs nothing. -/
def trialPlan : Plan := { plan with id := 9, priceRub := 0 }

/-- User 1 and the free plan. -/
def trialDatabase : Database :=
  { database 0 with plans := Table.empty.insert trialPlan }

def trial : OrderCreateIn where
  userId := 1
  planId := some 9
  provider := .free

/-- User 1 asks twice for the trial. -/
def trialTwice : System engine BillingError Bool :=
  System.start ⟨trialDatabase, []⟩ (fun _ => (Operation.createOrder trial).program settings)
    fun i => session (if i then 10 else 20)

/-- User 1 asks for the trial, the order is refunded, and user 1 asks again. -/
def trialRefunded : System engine BillingError (Fin 3) :=
  System.start ⟨trialDatabase, []⟩
    (fun i => if i = 1 then (Operation.refundOrder 11 "" true).program settings
      else (Operation.createOrder trial).program settings)
    fun i => session (10 * (i.val + 1))

end Scenario

open Scenario in
/-- The second request begins when the first has committed, and is refused. -/
theorem one_trial_of_apart_trialTwice :
    ∃ past later, System.Follows (TrialsApart 1 9 fun _ => .createOrder trial) trialTwice past
        later ∧ (later.committed? true).isSome ∧ (later.committed? false).isNone ∧
      (later.db.state.trials 1 9).length = 1 ∧ (later.db.state.trials 1 9).length ≤ 1 := by
  have hnew : trialDatabase.trials 1 9 = [] := by decide +kernel
  have hfree : (Operation.createOrder trial).TrialsOrRefunds := rfl
  obtain ⟨past, later, hrun, hdone⟩ := exists_follows_of_follow
    (TrialsApart 1 9 fun _ => .createOrder trial) trialTwice
    (List.replicate 19 (.step true) ++ List.replicate 4 (.step false))
    (fun later => decide ((later.committed? true).isSome ∧ (later.committed? false).isNone ∧
      (later.db.state.trials 1 9).length = 1)) (by decide +kernel)
  obtain ⟨hfirst, hsecond, hone⟩ := of_decide_eq_true hdone
  exact ⟨past, later, hrun, hfirst, hsecond, hone,
    one_trial_of_apart settings _ 1 9 hnew _ (fun _ => hfree) _ hrun⟩

open Scenario in
/-- Two requests at the same time are both granted, and so is a request after a refund. -/
theorem trial_granted_twice : (∃ later, System.Runs (fun _ _ _ => True) trialTwice later ∧
      (∀ i, (later.committed? i).isSome) ∧ (later.db.state.trials 1 9).length = 2) ∧
    ∃ later, System.Runs (fun _ _ _ => True) trialRefunded later ∧
      (∀ i, (later.committed? i).isSome) ∧ (later.db.state.trials 1 9).length = 2 := by
  constructor
  · obtain ⟨later, hrun, hdone⟩ := exists_run_of_replay (fun _ _ _ => True) trialTwice
      (List.replicate 18 (.step true) ++ (List.replicate 19 (.step false) ++ [.step true]))
      (fun later => decide ((∀ i, (later.committed? i).isSome) ∧
        (later.db.state.trials 1 9).length = 2)) (by decide +kernel)
    exact ⟨later, hrun, of_decide_eq_true hdone⟩
  · obtain ⟨later, hrun, hdone⟩ := exists_run_of_replay (fun _ _ _ => True) trialRefunded
      (List.replicate 19 (.step 0) ++ (List.replicate 8 (.step 1) ++ List.replicate 19 (.step 2)))
      (fun later => decide ((∀ i, (later.committed? i).isSome) ∧
        (later.db.state.trials 1 9).length = 2)) (by decide +kernel)
    exact ⟨later, hrun, of_decide_eq_true hdone⟩

end VpnControl.Billing

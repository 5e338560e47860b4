/-
# One request after the other

What a request does when it runs alone, on plain tables. A payment that is settled is
cut at the places where it hands over to the promo ledger, to the delivery and to the
referral programme, so that a property of one table only looks at the stages that write
it. A run is a list of operations, each with the world it meets; what is said of a run
is said of its steps at the states they start from.
-/

import VpnControl.Billing.Evaluation

namespace VpnControl.Billing

open Txn List Session

variable {op : Operation} {α : Type} {cfg : Settings} {world : World} {s s' : Store}
  {c : Committed engine} {order : PaymentOrder} {events : List (Operation × World)}
  {providerName : String} {I : Committed engine → Prop} {W : Write → Prop} {β : Type}

/-! ## Requests on plain tables -/

/-- A part of the tables that no write of the method changes. -/
theorem direct_unchanged (part : Database → β)
    (hpart : ∀ w (db : Database), W w → part (db.apply w) = part db)
    (hp : Writes W p) {result : Except BillingError α} (h : direct world p s = (result, s')) :
    part s'.db = part s.db := by
  obtain ⟨ws, hws, hall⟩ := exists_writes_of_direct h
  rw [hws]
  exact Database.foldl_unchanged part (fun w hw db => hpart w db (hall W hp w hw))

/-- A request answers what its direct reading answers, and commits the tables of that
reading if it returns. -/
theorem request_eq_direct {p : Service α} :
    (request p (new world.now uuid world.payment world.restore) c).1 =
        (direct world p ⟨c.state, uuid⟩).1 ∧
      (request p (new world.now uuid world.payment world.restore) c).2.state =
        match direct world p ⟨c.state, uuid⟩ with
        | (.ok _, s) => s.db
        | (.error _, _) => c.state := by
  cases hrun : direct world p ⟨c.state, uuid⟩ with
  | mk result =>
    cases result with
    | ok =>
      obtain ⟨later, hrequest, hstate⟩ := request_of_direct hrun
      rw [hrequest]
      exact ⟨rfl, hstate⟩
    | error error =>
      obtain ⟨hvalue, -⟩ := agrees_start.alone p
      rw [hrun] at hvalue
      unfold request
      cases hdone : Txn.alone p
          (Tx.start (new world.now uuid world.payment world.restore)) c with
      | mk answer done =>
        rw [hdone] at hvalue
        have hanswer : answer = .error error := hvalue
        rw [hanswer]
        exact ⟨rfl, rfl⟩

/-- The tables that an operation starts from. -/
def storeOf (c : Committed engine) : Store := ⟨c.state, c.state.freshUuid⟩

/-- A request that returns has done what its direct reading does. -/
theorem direct_of_request (h : request p (world.session c.state) c = (.ok value, c')) :
    ∃ s', direct world p (storeOf c) = (.ok value, s') ∧ c'.state = s'.db := by
  obtain ⟨hvalue, hstate⟩ := request_eq_direct
  have hrun : request p (new world.now c.state.freshUuid world.payment world.restore) c =
      (.ok value, c') := h
  rw [hrun] at hvalue hstate
  cases hdirect : direct world p ⟨c.state, c.state.freshUuid⟩ with
  | mk result s' =>
    rw [hdirect] at hvalue hstate
    obtain rfl : .ok value = result := hvalue
    exact ⟨s', hdirect, hstate⟩

/-- An operation commits the tables of its direct reading, or nothing. -/
theorem Operation.run_cases (cfg : Settings) (op : Operation) (world : World)
    (c : Committed engine) :
    (∃ s', direct world (op.program cfg) (storeOf c) = (.ok (), s') ∧
      (op.run cfg world c).2.state = s'.db) ∨ (op.run cfg world c).2.state = c.state := by
  obtain ⟨-, hstate⟩ := request_eq_direct
  have hrun : (op.run cfg world c).2.state = _ := hstate
  rw [hrun]
  cases hdirect : direct world (op.program cfg) ⟨c.state, c.state.freshUuid⟩ with
  | mk result s' =>
    cases result with
    | ok => exact .inl ⟨s', hdirect, rfl⟩
    | error => exact .inr rfl

theorem Operation.run_keeps {I : Database → Prop} (hI : ∀ w (db : Database), I db → I (db.apply w))
    (cfg : Settings) (op : Operation) (world : World) (h : I c.state) :
    I (op.run cfg world c).2.state := by
  unfold Operation.run request
  cases Txn.alone (op.program cfg) (Tx.start (world.session c.state)) c with
  | mk result done =>
    cases result with
    | ok => exact foldlRecOn done.writes _ h fun db hdb w _ => hI w db hdb
    | error => exact h

/-! ## Runs -/

def runAll (cfg : Settings) (c : Committed engine) (events : List (Operation × World)) :
    Committed engine :=
  events.foldl (fun c (op, world) => (op.run cfg world c).2) c

theorem runAll_append : runAll cfg c (first ++ second) = runAll cfg (runAll cfg c first) second :=
  foldl_append ..

theorem runAll_concat :
    runAll cfg c (events ++ [(op, world)]) = (op.run cfg world (runAll cfg c events)).2 := by
  rw [runAll_append]
  rfl

/-- Whatever one step preserves, a run preserves. The step may rely on what is known of
the events. -/
theorem runAll_induction (hstart : I c)
    (hstep : ∀ before op world after, events = before ++ (op, world) :: after →
      I (runAll cfg c before) → I (op.run cfg world (runAll cfg c before)).2) :
    I (runAll cfg c events) := by
  have hprefix : ∀ before after, events = before ++ after → I (runAll cfg c before) := by
    intro before
    induction before using reverseRecOn with
    | nil => exact fun _ _ => hstart
    | append_singleton before event ih =>
      intro after hsplit
      obtain ⟨op, world⟩ := event
      rw [append_assoc] at hsplit
      rw [runAll_concat]
      exact hstep before op world after hsplit (ih _ hsplit)
  exact hprefix events [] (append_nil events).symm

/-- Every step of a run satisfies `P` at the state it starts from. -/
def EachStep (cfg : Settings) (P : Committed engine → Operation → World → Prop) :
    Committed engine → List (Operation × World) → Prop
  | _, [] => True
  | c, (op, world) :: rest => P c op world ∧ EachStep cfg P (op.run cfg world c).2 rest

variable {P Q : Committed engine → Operation → World → Prop}

/-- What a step makes true of the next state, while it is true of this one, is true of
every state of the run. -/
theorem EachStep.invariant (h : EachStep cfg P c events) (hstart : I c)
    (hstep : ∀ c op world, I c → P c op world → Q c op world ∧ I (op.run cfg world c).2) :
    EachStep cfg Q c events ∧ I (runAll cfg c events) := by
  induction events generalizing c with
  | nil => exact ⟨trivial, hstart⟩
  | cons event _ ih =>
    obtain ⟨op, world⟩ := event
    obtain ⟨hfirst, hrest⟩ := h
    obtain ⟨hq, hnext⟩ := hstep c op world hstart hfirst
    obtain ⟨hqs, hlast⟩ := ih hrest hnext
    exact ⟨⟨hq, hqs⟩, hlast⟩

theorem EachStep.mono
    (h : EachStep cfg P c events) (hstep : ∀ c op world, P c op world → Q c op world) :
    EachStep cfg Q c events :=
  (h.invariant (I := fun _ => True) trivial fun c op world _ hp => ⟨hstep c op world hp, trivial⟩).1

theorem eachStep_of_forall {P : Operation → Prop} (h : ∀ event ∈ events, P event.1)
    (c : Committed engine) : EachStep cfg (fun _ op _ => P op) c events := by
  induction events generalizing c with
  | nil => trivial
  | cons event _ ih =>
    exact ⟨h event (by simp), ih (fun other hother => h other (by simp [hother])) _⟩

theorem history_iff_runAll : History cfg allowed c later ↔
      ∃ events, (∀ event ∈ events, allowed event.1) ∧ runAll cfg c events = later := by
  constructor
  · intro h
    induction h with
    | refl => exact ⟨[], by simp, rfl⟩
    | tail op world _ hallowed ih =>
      obtain ⟨events, hall, rfl⟩ := ih
      refine ⟨events ++ [(op, world)], ?_, runAll_concat ..⟩
      intro event hevent
      rcases mem_append.mp hevent with hold | hnew
      · exact hall event hold
      · rw [mem_singleton.mp hnew]
        exact hallowed
  · rintro ⟨events, hall, rfl⟩
    refine runAll_induction (I := History cfg allowed c) .refl ?_
    rintro before op world after rfl hhistory
    exact .tail op world hhistory (hall (op, world) (by simp))

/-! ## A settled payment -/

/-- The tables once the payment of an order is credited. -/
def credited (world : World) (order : PaymentOrder) (user : User) (fee : Option Money)
    (payment : BalanceTransaction) (s : Store) : Store where
  db := ((s.db.apply (.updateOrder order.id
    { status := some .paid
      paidAt := some world.now
      feeRub := fee
      netRub := fee.map (order.amountRub - ·) })).apply
    (.setBalance user.id (user.balance + order.amountRub))).apply (.insertTransaction payment)
  nextUuid := s.nextUuid + 1

/-- The tables once a paid order is completed. -/
def completed (world : World) (order : PaymentOrder) (s : Store) : Store where
  db := s.db.apply (.updateOrder order.id
    { status := some .completed, completedAt := some world.now })
  nextUuid := s.nextUuid

/-- The payment of an order was settled: it was credited, its promo code recorded, the
order delivered and completed, and the referral rewarded, in this order. -/
inductive Settled (cfg : Settings) (world : World) (order : PaymentOrder)
    (providerName : String) (s s' : Store) : Prop
  | mk (user : User) (fee : Option Money) (payment : BalanceTransaction)
      (recorded delivered : Store) (huser : s.db.users.find? order.userId = some user)
      (hpayment : Posts payment user.id order.amountRub .payment (some order.id))
      (hrecorded : direct world (recordPromoActivation order)
        (credited world order user fee payment s) = (.ok (), recorded))
      (hdelivered : direct world (deliverOrder user order world.now) recorded = (.ok (), delivered))
      (hreward : direct world (rewardReferral cfg order providerName)
        (completed world order delivered) = (.ok (), s'))

@[simp]
theorem direct_scalarOneOrNone_snd : (direct world (scalarOneOrNone rows) s).2 = s := by
  unfold scalarOneOrNone
  split <;> rfl

theorem direct_scalarOneOrNone_ok (h : direct world (scalarOneOrNone rows) s = (.ok found, s')) :
    s' = s ∧ ∀ row, found = some row → row ∈ rows := by
  unfold scalarOneOrNone at h
  split at h
  · cases h
    exact ⟨rfl, nofun⟩
  · cases h
    exact ⟨rfl, fun row hrow => by simpa using hrow.symm⟩
  · cases h

/-- Looking up the fee changes nothing. -/
theorem direct_paymentFee_snd (world : World) (feeRub : Option Money) (provider : String)
    (method : Option ℤ) (amountRub : Money) (s : Store) :
    (direct world (paymentFee feeRub provider method amountRub) s).2 = s := by
  have hexact : (direct world (exactFee provider method) s).2 = s := by
    unfold exactFee
    split
    · rfl
    · simp [direct_bind]
  have hrule : (direct world (resolveFee provider method) s).2 = s := by
    simp only [resolveFee, direct_bind]
    cases hfound : direct world (exactFee provider method) s with
    | mk result mid =>
      rw [hfound] at hexact
      obtain rfl : mid = s := hexact
      cases result with
      | error => rfl
      | ok fee =>
        cases fee with
        | some => rfl
        | none => simp [direct_bind]
  unfold paymentFee
  cases feeRub with
  | some => rfl
  | none =>
    simp only [resolveFeeRub, direct_bind]
    cases hfound : direct world (resolveFee provider method) s with
    | mk result mid =>
      rw [hfound] at hrule
      obtain rfl : mid = s := hrule
      cases result <;> rfl

theorem settled_of_settlePayment (huser : s.db.users.find? order.userId = some user)
    (h : direct world (settlePayment cfg order user providerName feeRub method) s = (.ok (), s')) :
    Settled cfg world order providerName s s' := by
  obtain ⟨now, first, hnow, h⟩ := direct_bind_ok.mp h
  obtain ⟨rfl, rfl⟩ : world.now = now ∧ s = first := by simpa using hnow
  obtain ⟨fee, looked, hfee, h⟩ := direct_bind_ok.mp h
  have hlooked := direct_paymentFee_snd world feeRub providerName method order.amountRub s
  rw [hfee] at hlooked
  obtain rfl : s = looked := hlooked.symm
  obtain ⟨⟨⟩, paid, hpaid, h⟩ := direct_bind_ok.mp h
  cases hpaid
  obtain ⟨⟨⟩, set, hset, h⟩ := direct_bind_ok.mp h
  cases hset
  obtain ⟨⟨⟩, posted, hposted, h⟩ := direct_bind_ok.mp h
  cases hposted
  obtain ⟨⟨⟩, recorded, hrecorded, h⟩ := direct_bind_ok.mp h
  obtain ⟨⟨⟩, delivered, hdelivered, h⟩ := direct_bind_ok.mp h
  obtain ⟨⟨⟩, done, hdone, hreward⟩ := direct_bind_ok.mp h
  cases hdone
  exact .mk user fee _ recorded delivered huser ⟨rfl, rfl, rfl, rfl⟩ hrecorded hdelivered hreward

/-- A part of the tables that fulfilment does not write is as before when the referral
programme takes over. -/
theorem Settled.unchanged (part : Database → β)
    (hpart : ∀ w (db : Database), W w → part (db.apply w) = part db) (hW : Fulfilling W order.id)
    (h : Settled cfg world order providerName s s') :
    ∃ delivered, part (completed world order delivered).db = part s.db ∧
      direct world (rewardReferral cfg order providerName) (completed world order delivered) =
        (.ok (), s') := by
  obtain ⟨user, fee, payment, recorded, delivered, -, hpayment, hrecorded, hdelivered, hreward⟩ := h
  have hpromo := direct_unchanged part hpart hW.recordPromoActivation hrecorded
  have hdelivery := direct_unchanged part hpart hW.deliverOrder hdelivered
  refine ⟨delivered, ?_, hreward⟩
  calc part (completed world order delivered).db = part delivered.db := hpart _ _ (hW.order _)
    _ = part recorded.db := hdelivery
    _ = part (credited world order user fee payment s).db := hpromo
    _ = part s.db := by
      unfold credited
      rw [hpart _ _ (hW.posting payment (by simp [hpayment.type])), hpart _ _ (hW.balance _ _),
        hpart _ _ (hW.order _)]

/-- Fulfilment settles a pending order and leaves a final one alone. -/
theorem settled_of_fulfillOrderLocked
    (h : direct world (fulfillOrderLocked cfg order providerName feeRub method) s = (.ok (), s')) :
    s' = s ∨ order.status = .pending ∧ Settled cfg world order providerName s s' := by
  unfold fulfillOrderLocked at h
  split at h
  · cases h
    exact .inl rfl
  · rename_i hopen
    split at h
    · cases h
    · rename_i hexpired
      have hpending : order.status = .pending := by
        cases hstatus : order.status <;> simp_all [orderFinalStatuses]
      obtain ⟨found, mid, hfound, h⟩ := direct_bind_ok.mp h
      rw [direct_lockUser] at hfound
      cases huser : s.db.users.find? order.userId with
      | none =>
        rw [huser] at hfound
        cases hfound
        obtain ⟨⟨⟩, failed, -, hraise⟩ := direct_bind_ok.mp h
        cases hraise
      | some =>
        rw [huser] at hfound
        cases hfound
        exact .inr ⟨hpending, settled_of_settlePayment huser h⟩

/-- The order that an operation is a payment for, and the provider that reports it. -/
inductive Pays (cfg : Settings) (db : Database) : Operation → PaymentOrder → String → Prop
  | webhook (providerName : String) (request : Request) (webhook : WebhookResult)
      (order : PaymentOrder) (hverified : verified? cfg providerName request = some webhook)
      (hpaid : webhook.shouldFulfill = true) (hamount : amountMismatch webhook order = false)
      (hfound : (OrderRef.byExternalId webhook.externalId).find? db = some order) :
      Pays cfg db (.processWebhook providerName request) order providerName
  | stars (order : PaymentOrder) (hstars : order.provider = .stars)
      (hfound : db.orders.find? order.id = some order) :
      Pays cfg db (.confirmStarsPayment order.id) order "stars"

/-- The paid order is one of the tables. -/
theorem Pays.find? (h : Pays cfg db op order providerName) :
    db.orders.find? order.id = some order := by
  cases h with
  | webhook _ _ _ _ _ _ _ hfound => exact OrderRef.find?_eq_some hfound
  | stars _ _ hfound => exact hfound

/-- The operations by which payments arrive. -/
def Operation.IsPayment : Operation → Prop
  | processWebhook _ _ => True
  | confirmStarsPayment _ => True
  | _ => False

/-- What a payment that returns has done: nothing, a note on the order, or it has settled
the order. -/
inductive PaymentStep (cfg : Settings) (world : World) (op : Operation) (s : Store) : Store → Prop
  | nothing : PaymentStep cfg world op s s
  | noted (id : Uuid) (status : Option OrderStatus)
      (hstatus : status = none ∨ status = some .expired) :
      PaymentStep cfg world op s
        { s with db := s.db.apply (.updateOrder id { status := status }) }
  | settled (order : PaymentOrder) (providerName : String) (s' : Store)
      (hpays : Pays cfg s.db op order providerName) (hpending : order.status = .pending)
      (hsettled : Settled cfg world order providerName s s') : PaymentStep cfg world op s s'

theorem paymentStep_of_processWebhook {request : Request}
    (h : direct world (processWebhook cfg providerName request) s = (.ok (), s')) :
    PaymentStep cfg world (.processWebhook providerName request) s s' := by
  obtain ⟨error, heq⟩ | ⟨webhook, hverified, heq⟩ := processWebhook_cases cfg providerName request
  · rw [heq] at h
    cases h
  · rw [heq] at h
    obtain ⟨order, horder, h⟩ := direct_some direct_lockOrder rfl h
    obtain ⟨hamount, h⟩ := direct_guard.mp h
    split at h
    · cases h
      refine .noted order.id _ ?_
      split
      · exact .inr rfl
      · exact .inl rfl
    · rename_i hpaid
      rcases settled_of_fulfillOrderLocked h with rfl | ⟨hpending, hsettled⟩
      · exact .nothing
      · exact .settled order providerName s'
          (.webhook providerName request webhook order hverified (by simpa using hpaid)
            (by simpa using hamount) horder) hpending hsettled

theorem paymentStep_of_confirmStarsPayment
    (h : direct world (confirmStarsPayment cfg orderId) s = (.ok (), s')) :
    PaymentStep cfg world (.confirmStarsPayment orderId) s s' := by
  obtain ⟨order, horder, h⟩ := direct_some direct_lockOrder rfl h
  obtain rfl : order.id = orderId := Table.key_of_find? horder
  obtain ⟨hstars, h⟩ := direct_guard.mp h
  rcases settled_of_fulfillOrderLocked h with rfl | ⟨hpending, hsettled⟩
  · exact .nothing
  · exact .settled order "stars" s' (.stars order (not_not.mp hstars) horder) hpending hsettled

/-- **What a payment does.** -/
theorem paymentStep_of_direct (hop : op.IsPayment)
    (h : direct world (op.program cfg) s = (.ok (), s')) : PaymentStep cfg world op s s' := by
  cases op with
  | processWebhook => exact paymentStep_of_processWebhook h
  | confirmStarsPayment => exact paymentStep_of_confirmStarsPayment h
  | _ => cases hop

end VpnControl.Billing

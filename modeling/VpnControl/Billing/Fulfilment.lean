/-
# What fulfilment writes

One fact for each method between a paid order and its delivery: the list of writes
it leaves when it returns, and what it has seen to decide on them. The facts hold
whatever the other transactions commit in between, as long as the committed states
lie in `S`. They are what the life of an order, the single delivery of a payment and
the check of a webhook are derived from.
-/

import VpnControl.Billing.Ledger
import VpnControl.Billing.Orders
import VpnControl.Txn.Outcome

namespace VpnControl.Billing

open Txn List Write Stmt
open Table

variable {plan : Plan} {providerName : String} {type : TransactionType} {id : Uuid}
  {webhook : WebhookResult} {α : Type} {S : Committed engine → Prop} {t mid done : Tx engine}
  {R : α → List Write → Prop} {ws : List Write} {order : PaymentOrder} {before : List Write}
  {fresh : Uuid} {account : User} {now : Time} (cfg : Settings) (user : Uuid) {β : Type}
  {f : β → Service α}

/-! ## Single statements -/

theorem outcome_pure (h : R value []) : Outcome S t (pure value : Service α) R := .ret h

/-- A query leaves the transaction as it is. -/
theorem outcome_select {query : Database → β}
    (h : ∀ c, S c → Outcome S t (f (query (t.view c.state))) R) :
    Outcome S t (select query >>= f) R := by
  refine .exec fun c hc => ?_
  have hafter : t.after c (.query β query) = t := by
    simp [Tx.after, Tx.needs, answer, writes, locks]
  rw [hafter]
  exact h c hc

/-- A lookup that raises where nothing is found. -/
theorem outcome_select_some {query : Database → Option β} {f : Option β → Service α}
    (hnone : f none = raise error)
    (h : ∀ c x, S c → query (t.view c.state) = some x → Outcome S t (f (some x)) R) :
    Outcome S t (select query >>= f) R := by
  refine outcome_select fun c hc => ?_
  cases hfound : query (t.view c.state) with
  | none => exact hnone ▸ Outcome.raise
  | some x => exact h c x hc hfound

theorem outcome_datetimeNow {f : Time → Service α} (h : Outcome S t (f t.session.now) R) :
    Outcome S t (datetimeNow >>= f) R := by
  refine .exec fun c _ => ?_
  have hafter : t.after c now = t := by simp [Tx.after, Tx.needs, answer, writes, locks]
  rw [hafter]
  exact h

/-- What holds of every write on every branch holds of the writes made. -/
theorem outcome_writes {W : Write → Prop} (hp : Writes W p) :
    Outcome S t p fun _ ws => ∀ w ∈ ws, W w :=
  .of_every hp

/-- A method that only reads, and what follows it. -/
theorem outcome_reads {p : Service β} (hp : Writes (fun _ => False) p)
    (hf : ∀ value mid, t.Reaches S [] mid → Outcome S mid (f value) R) :
    Outcome S t (p >>= f) R := by
  refine .bind (outcome_writes hp) fun value first mid hreach hfirst => ?_
  obtain rfl : first = [] := eq_nil_iff_forall_not_mem.mpr hfirst
  exact hf value mid hreach

theorem outcome_execute {f : Unit → Service α}
    (h : ∀ c, S c → Outcome S (t.after c (.write w)) (f ()) fun value rest => R value (w :: rest)) :
    Outcome S t (execute w >>= f) R :=
  .exec h

theorem outcome_execute_last {R : Unit → List Write → Prop} (h : R () [w]) :
    Outcome S t (execute w) R :=
  Outcome.perform fun _ _ => h

/-! ## Sessions -/

theorem nextUuid_answer (op : Stmt) {s : Session} : s.nextUuid ≤ (op.answer db s).2.nextUuid := by
  have hload : ∀ id, (loadUser id db s).2.nextUuid = s.nextUuid := by
    intro id
    unfold loadUser Session.load
    split
    · rfl
    · dsimp only
      split <;> rfl
  cases op with
  | uuid4 => exact Nat.le_succ _
  | getUser id => exact (hload id).ge
  | lockUser id => exact (hload id).ge
  | write w => cases w <;> exact le_refl _
  | _ => exact le_refl _

/-- A loaded instance stays as it is until its balance is written. -/
theorem identity_of_reaches (h : t.Reaches S ws done)
    (hloaded : t.session.identity id = some account)
    (hws : ∀ balance, setBalance id balance ∉ ws) :
    done.session.identity id = some account := by
  refine h.keeps (A := fun u : Tx engine => u.session.identity id = some account) hloaded ?_
  intro u c op _ hmem hloaded
  have hop : ∀ balance, .setBalance id balance ∉ op.writes :=
    fun balance hw => hws balance (hmem _ hw)
  rcases identity_answer hop (u.view c.state) u.session with hsame | ⟨hnone, -⟩
  · exact hsame.trans hloaded
  · rw [hnone] at hloaded
    cases hloaded

/-- The transaction has made the writes `before`, and draws its identifiers from `fresh` on. -/
structure Since (before : List Write) (fresh : Uuid) (t : Tx engine) : Prop where
  writes : t.writes = before
  fresh : fresh ≤ t.session.nextUuid

theorem Since.here : Since t.writes t.session.nextUuid t := ⟨rfl, le_rfl⟩

theorem Since.reaches (h : Since before fresh t) (hreach : t.Reaches S ws mid) :
    Since (before ++ ws) fresh mid :=
  ⟨by rw [hreach.writes_eq, h.writes], h.fresh.trans (hreach.keeps
    (A := fun u : Tx engine => t.session.nextUuid ≤ u.session.nextUuid) (le_refl _)
    fun _ _ op _ _ hle => hle.trans (nextUuid_answer op))⟩

theorem Since.reads (h : Since before fresh t) (hreach : t.Reaches S [] mid) :
    Since before fresh mid := by
  simpa using h.reaches hreach

/-- Some committed state, under the writes made so far, satisfies `fact`. -/
def Saw (S : Committed engine → Prop) (before : List Write) (fact : Database → Prop) : Prop :=
  ∃ c, S c ∧ fact (before.foldl Database.apply c.state)

variable {S : Committed engine → Prop} {before : List Write} {fresh : Uuid} {ref : OrderRef}
  {db : Database}

theorem outcome_uuid4 {f : Uuid → Service α}
    (h : ∀ mid, t.Reaches S [] mid → t.session.nextUuid < mid.session.nextUuid →
      Outcome S mid (f t.session.nextUuid) R) :
    Outcome S t (uuid4 >>= f) R :=
  .exec fun _ hc => h _ (.single hc .uuid4) (Nat.lt_succ_self _)

/-- A user row was loaded: it is the instance that the session had, if it had one. -/
structure Loaded (S : Committed engine → Prop) (t : Tx engine) (id : Uuid) (user : User)
    (mid : Tx engine) : Prop where
  reaches : t.Reaches S [] mid
  id_eq : user.id = id
  loaded : mid.session.identity id = some user
  same : ∀ account, t.session.identity id = some account → account = user
  seen : Saw S t.writes fun db => db.users.find? id ≠ none

section Users

variable {g : Option User → Service α}
  (hnone : ∀ mid, Saw S t.writes (fun db => db.users.find? id = none) → Outcome S mid (g none) R)
  (hsome : ∀ user mid, Loaded S t id user mid → Outcome S mid (g (some user)) R)

include hnone hsome

/-- Loading a user row, locked or not. -/
private theorem outcome_loadUser (op : Stmt) {f : op.Reply → Service α} (hwrites : op.writes = [])
    (hanswer : ∀ db s, (op.answer db s).2 = (loadUser id db s).2 ∧
      f (op.answer db s).1 = g (loadUser id db s).1) :
    Outcome S t (Program.perform (S := engine.toSignature) op >>= f) R := by
  refine .exec fun c hc => ?_
  have hreach : t.Reaches S [] (t.after c op) := hwrites ▸ Tx.Reaches.single hc op
  obtain ⟨hsession, hreply⟩ := hanswer (t.view c.state) t.session
  have hcontinue : f (t.reply c op) = g (loadUser id (t.view c.state) t.session).1 := hreply
  have hmid : (t.after c op).session = (loadUser id (t.view c.state) t.session).2 := hsession
  rw [hcontinue]
  change Outcome S (t.after c op) _ fun value rest => R value (op.writes ++ rest)
  rw [hwrites]
  cases hload : (loadUser id (t.view c.state) t.session).1 with
  | none => exact hnone _ ⟨c, hc, loadUser_eq_none.mp hload⟩
  | some user =>
    obtain ⟨hid, hsame, hloaded⟩ := loadUser_eq_some hload
    refine hsome user _ ⟨hreach, hid, hmid ▸ hloaded, hsame, c, hc, fun hrow => ?_⟩
    cases hload.symm.trans (loadUser_eq_none.mpr hrow)

theorem outcome_lockUser : Outcome S t (lockUser id >>= g) R :=
  outcome_loadUser hnone hsome (.lockUser id) rfl fun _ _ => ⟨rfl, rfl⟩

theorem outcome_getUser : Outcome S t (getUser id >>= g) R :=
  outcome_loadUser hnone hsome (.getUser id) rfl fun _ _ => ⟨rfl, rfl⟩

end Users

theorem outcome_lockOrder {f : Option PaymentOrder → Service α}
    (hnone : ∀ mid, t.Reaches S [] mid → Outcome S mid (f none) R)
    (hsome : ∀ order mid, t.Reaches S [] mid →
      Saw S t.writes (fun db => ref.find? db = some order) → Outcome S mid (f (some order)) R) :
    Outcome S t (lockOrder ref >>= f) R := by
  refine .exec fun c hc => ?_
  have hreach : t.Reaches S [] (t.after c (.lockOrder ref)) := .single hc (.lockOrder ref)
  have hreply : t.reply c (.lockOrder ref) = ref.find? (t.view c.state) := rfl
  rw [hreply]
  cases hfound : ref.find? (t.view c.state) with
  | none => exact hnone _ hreach
  | some order => exact hsome order _ hreach ⟨c, hc, hfound⟩

/-! ## Postings -/

/-- A ledger row of a user with this amount, type and order. -/
structure Posts (row : BalanceTransaction) (user : Uuid) (amount : Money)
    (type : TransactionType) (order : Option Uuid) : Prop where
  userId : row.userId = user
  amount : row.amount = amount
  type : row.type = type
  orderId : row.orderId = order

/-- Writing a balance and the ledger row that accounts for it. -/
def posting (row : BalanceTransaction) : List Write :=
  [.setBalance row.userId row.balanceAfter, .insertTransaction row]

theorem outcome_post {user : Uuid} {order : Option Uuid} {rest : Service α}
    (h : ∀ row mid, Posts row user amount type order → row.balanceAfter = balance →
      t.Reaches S (posting row) mid →
      (∀ account, t.session.identity user = some account →
        mid.session.identity user = some { account with balance := balance }) →
      Outcome S mid rest fun value ws => R value (posting row ++ ws)) :
    Outcome S t (do
      updateUserBalance user balance
      recordTransaction user amount balance type order description
      rest) R := by
  refine outcome_execute fun c hc => ?_
  have hset : t.Reaches S [.setBalance user balance] (t.after c (.write (.setBalance user balance))) :=
    .single hc (.write (.setBalance user balance))
  have hrecord : Outcome S (t.after c (.write (.setBalance user balance)))
      (recordTransaction user amount balance type order description)
      fun _ ws => ∃ row, Posts row user amount type order ∧ row.balanceAfter = balance ∧
        row.userId = user ∧ ws = [.insertTransaction row] := by
    refine outcome_uuid4 fun mid _ _ => outcome_execute_last ?_
    exact ⟨_, ⟨rfl, rfl, rfl, rfl⟩, rfl, rfl, rfl⟩
  refine .bind hrecord ?_
  rintro - first mid hreach ⟨row, hposts, hbalance, huser, rfl⟩
  have hrow : posting row = [.setBalance user balance] ++ [.insertTransaction row] := by
    simp [posting, huser, hbalance]
  have hposted : t.Reaches S (posting row) mid := hrow ▸ hset.trans hreach
  refine (h row mid hposts hbalance hposted ?_).mono ?_
  · intro account haccount
    refine identity_of_reaches hreach ?_ (by simp)
    simp [answer, Session.refresh, haccount]
  · intro value ws hR
    rwa [hrow] at hR

/-! ## Delivery of a plan -/

@[simp]
theorem extensionPatch_expiresAt : (extensionPatch existing planChanged plan order now).expiresAt =
      some (extendedExpiry existing planChanged order now) := by
  unfold extensionPatch
  split
  · rfl
  · split <;> rfl

variable (S before fresh) in
/-- The writes of a delivered plan and the subscription they are about: it was
extended as it was seen, or it was created. -/
inductive PlanDelivery (user : Uuid) (plan : Plan) (order : PaymentOrder) (now : Time) :
    Uuid → List Write → Prop
  | extended (existing : Subscription) (planChanged : Bool)
      (hseen : Saw S before fun db => db.subscriptions.find? existing.id = some existing)
      (howner : existing.userId = user) :
      PlanDelivery user plan order now existing.id
        [.updateSubscription existing.id (extensionPatch existing planChanged plan order now),
          .updateOrder order.id { subscriptionId := some existing.id },
          .updateSubscription existing.id { isActive := some true }]
  | created (id : Uuid) (hfresh : fresh ≤ id) : PlanDelivery user plan order now id
        [.insertSubscription ((purchasedSubscription user plan order now).row id),
          .updateOrder order.id { subscriptionId := some id }]

theorem find?_of_activeSubscriptionForPlan {user plan : Uuid}
    (h : db.activeSubscriptionForPlan user plan = some sub) :
    sub.userId = user ∧ db.subscriptions.find? sub.id = some sub := by
  have hmem : sub ∈ db.activeSubscriptions user := mem_of_find?_eq_some h
  obtain ⟨hrow, howner⟩ := mem_filter.mp hmem
  exact ⟨(of_decide_eq_true howner).1, Table.find?_of_mem hrow⟩

theorem find?_of_latestSubscription {user : Uuid} (h : db.latestSubscription user = some sub) :
    sub.userId = user ∧ db.subscriptions.find? sub.id = some sub := by
  obtain ⟨hrow, howner⟩ := mem_filter.mp (argmax_mem h)
  exact ⟨(of_decide_eq_true howner).1, Table.find?_of_mem hrow⟩

theorem outcome_renewalTarget :
    Outcome S t (renewalTarget user plan order) fun target ws => ws = [] ∧
      ∀ existing, target = some existing → existing.userId = user ∧
        Saw S t.writes fun db => db.subscriptions.find? existing.id = some existing := by
  unfold renewalTarget
  split
  · exact outcome_pure ⟨rfl, nofun⟩
  · rename_i id _
    split
    · exact outcome_pure ⟨rfl, nofun⟩
    · refine outcome_select fun c hc => ?_
      cases hfound : (t.view c.state).subscriptions.find? id with
      | none => exact outcome_pure ⟨rfl, nofun⟩
      | some existing =>
        have hid : existing.id = id := key_of_find? hfound
        dsimp only
        split
        · exact outcome_pure ⟨rfl, nofun⟩
        · rename_i howner
          refine outcome_pure ⟨rfl, ?_⟩
          rintro other heq
          obtain rfl : existing = other := Option.some.inj heq
          exact ⟨not_not.mp fun hne => howner (.inl hne), c, hc, hid ▸ hfound⟩

theorem outcome_purchaseTarget :
    Outcome S t (purchaseTarget user plan order) fun target ws => ws = [] ∧
      ∀ existing planChanged, target = some (existing, planChanged) → existing.userId = user ∧
        Saw S t.writes fun db => db.subscriptions.find? existing.id = some existing := by
  refine .bind (outcome_renewalTarget user) ?_
  rintro target first mid hreach ⟨rfl, htarget⟩
  have hwrites : mid.writes = t.writes := by simpa using hreach.writes_eq
  cases target with
  | some renewed =>
    refine outcome_pure ⟨rfl, ?_⟩
    rintro existing planChanged heq
    cases heq
    exact htarget renewed rfl
  | none =>
    refine outcome_select fun c hc => ?_
    cases hactive : (mid.view c.state).activeSubscriptionForPlan user plan.id with
    | some =>
      refine outcome_pure ⟨rfl, ?_⟩
      rintro existing planChanged heq
      cases heq
      obtain ⟨howner, hrow⟩ := find?_of_activeSubscriptionForPlan hactive
      exact ⟨howner, c, hc, hwrites ▸ hrow⟩
    | none =>
      refine outcome_select fun c hc => ?_
      cases hlatest : (mid.view c.state).latestSubscription user with
      | some =>
        refine outcome_pure ⟨rfl, ?_⟩
        rintro existing planChanged heq
        cases heq
        obtain ⟨howner, hrow⟩ := find?_of_latestSubscription hlatest
        exact ⟨howner, c, hc, hwrites ▸ hrow⟩
      | none => exact outcome_pure ⟨rfl, nofun⟩

theorem outcome_activate {subscription : Uuid} : Outcome S t (activate subscription) fun _ ws =>
      ws = [.updateSubscription subscription { isActive := some true }] := by
  refine outcome_select_some rfl fun c sub hc hfound => ?_
  have hid : sub.id = subscription := key_of_find? hfound
  refine outcome_execute fun c hc => outcome_reads (by simp) fun restored mid _ => ?_
  rw [hid]
  cases restored with
  | error => exact .raise
  | ok => exact outcome_pure rfl

theorem outcome_createSubscriptionRow :
    Outcome S t (createSubscriptionRow data) fun sub ws => ∃ id, t.session.nextUuid ≤ id ∧
      sub = data.row id ∧ ws = [.insertSubscription (data.row id)] := by
  unfold createSubscriptionRow
  split
  · exact .raise
  · refine outcome_uuid4 fun mid _ _ => outcome_execute fun c hc => outcome_pure ?_
    exact ⟨_, le_refl _, rfl, rfl⟩

/-- A plan is delivered by extending a subscription or by creating one. -/
theorem outcome_deliverPlan (h : Since before fresh t) :
    Outcome S t (deliverPlan user plan order now) fun _ ws =>
      ∃ sub, PlanDelivery S before fresh user plan order now sub ws := by
  refine .bind (outcome_purchaseTarget user) ?_
  rintro target first mid hreach ⟨rfl, htarget⟩
  cases target with
  | some found =>
    obtain ⟨existing, planChanged⟩ := found
    obtain ⟨howner, hseen⟩ := htarget existing planChanged rfl
    rw [h.writes] at hseen
    refine outcome_execute fun c hc => outcome_execute fun c hc => ?_
    refine outcome_activate.mono ?_
    rintro - ws rfl
    exact ⟨existing.id, .extended existing planChanged hseen howner⟩
  | none =>
    refine .bind outcome_createSubscriptionRow ?_
    rintro sub first mid' _ ⟨id, hid, rfl, rfl⟩
    exact outcome_execute_last ⟨id, .created id ((h.reads hreach).fresh.trans hid)⟩

/-! ## Delivery of device slots -/

variable (S before) in
/-- The writes of delivered device slots. -/
inductive SlotDelivery (order : PaymentOrder) : List Write → Prop
  | added (sub : Subscription) (hsub : order.subscriptionId = some sub.id)
      (hseen : Saw S before fun db => db.subscriptions.find? sub.id = some sub) :
      SlotDelivery order [.updateSubscription sub.id
        { paidDeviceSlots := some (sub.paidDeviceSlots + order.deviceSlotsQty) }]
  | missing (hnone : ∀ id, order.subscriptionId = some id →
      Saw S before fun db => db.subscriptions.find? id = none) :
      SlotDelivery order []

theorem outcome_addDeviceSlots :
    Outcome S t (addDeviceSlots order) fun _ => SlotDelivery S t.writes order := by
  unfold addDeviceSlots
  split
  · rename_i hnone
    exact outcome_pure (.missing fun id hid => by rw [hnone] at hid; cases hid)
  · rename_i id hsome
    refine outcome_select fun c hc => ?_
    cases hfound : (t.view c.state).subscriptions.find? id with
    | none =>
      refine outcome_pure (.missing fun other hother => ?_)
      obtain rfl : id = other := Option.mem_unique hsome hother
      exact ⟨c, hc, hfound⟩
    | some sub =>
      have hid : sub.id = id := key_of_find? hfound
      exact outcome_execute_last (.added sub (hid ▸ hsome) ⟨c, hc, hid ▸ hfound⟩)

/-! ## Purchases -/

/-- Why a purchase that does not insist on the balance wrote nothing. -/
def NotCharged (S : Committed engine → Prop) (t : Tx engine) (user : Uuid)
    (order : PaymentOrder) : Prop :=
  Saw S t.writes (fun db => db.users.find? user = none) ∨
    ∀ account, t.session.identity user = some account → account.balance < order.amountRub

/-- A purchase has debited the price of the order and delivered, or it has written nothing. -/
def Charged (S : Committed engine → Prop) (t : Tx engine) (user : Uuid) (order : PaymentOrder)
    (type : TransactionType) (strict : Bool) (D : BalanceTransaction → List Write → Prop)
    (ws : List Write) : Prop :=
  (∃ row rest, Posts row user (-order.amountRub) type (some order.id) ∧ D row rest ∧
    ws = posting row ++ rest) ∨
  (strict = false ∧ NotCharged S t user order ∧ ws = [])

theorem outcome_payFromBalance {user : Uuid} (hdeliver : ∀ row mid, t.Reaches S (posting row) mid →
      Outcome S mid (deliver user) fun _ => D row) :
    Outcome S t (payFromBalance user order type description strict deliver) fun _ =>
      Charged S t user order type strict D := by
  have hinsufficient : ∀ mid : Tx engine, NotCharged S t user order →
      Outcome S mid (insufficientBalance strict) fun _ => Charged S t user order type strict D := by
    intro mid hreason
    cases strict with
    | true => exact .raise
    | false => exact outcome_pure (.inr ⟨rfl, hreason, rfl⟩)
  refine outcome_lockUser (fun mid hnone => hinsufficient mid (.inl hnone)) ?_
  rintro holder mid ⟨hreach, rfl, -, hsame, -⟩
  dsimp only
  split
  · rename_i hlow
    refine hinsufficient mid (.inr fun account haccount => ?_)
    rwa [hsame account haccount]
  · refine outcome_post fun row mid' hposts _ hreach' _ => ?_
    refine (hdeliver row mid' (by simpa using hreach.trans hreach')).mono ?_
    intro _ rest hrest
    exact .inl ⟨row, rest, hposts, hrest, rfl⟩

variable (S before) in
/-- Why the delivery of a paid order was skipped. -/
inductive Withheld (account : User) (order : PaymentOrder) : Prop
  | noUser (h : Saw S before fun db => db.users.find? account.id = none)
  | unaffordable (h : account.balance < order.amountRub)
  | noPlan (htype : order.orderType ≠ .deviceSlots) (h : order.planId = none)
  | notForSale (htype : order.orderType ≠ .deviceSlots) (plan : Uuid)
      (hplan : order.planId = some plan)
      (h : Saw S before fun db =>
        ∀ row, db.plans.find? plan = some row → ¬ (row.isActive ∧ 0 < row.priceRub))

variable (S before fresh) (account : User) (order : PaymentOrder) (now : Time) in
/-- The delivery of a paid order: the debit and what was bought with it, or nothing. -/
inductive OrderDelivery : List Write → Prop
  | plan (plan : Plan) (row : BalanceTransaction) (sub : Uuid) (delivery : List Write)
      (htype : order.orderType ≠ .deviceSlots) (hplan : order.planId = some plan.id)
      (hposts : Posts row account.id (-order.amountRub) .purchase (some order.id))
      (hdelivery : PlanDelivery S (before ++ posting row) fresh account.id plan order now sub
        delivery) :
      OrderDelivery (posting row ++ delivery)
  | slots (row : BalanceTransaction) (delivery : List Write)
      (htype : order.orderType = .deviceSlots)
      (hposts : Posts row account.id (-order.amountRub) .deviceSlotPurchase (some order.id))
      (hdelivery : SlotDelivery S (before ++ posting row) order delivery) :
      OrderDelivery (posting row ++ delivery)
  | withheld (h : Withheld S before account order) :
      OrderDelivery []

theorem NotCharged.withheld (hloaded : t.session.identity account.id = some account)
    (h : NotCharged S t account.id order) : Withheld S t.writes account order := by
  rcases h with hnone | hlow
  · exact .noUser hnone
  · exact .unaffordable (hlow account hloaded)

theorem outcome_autoPurchase (h : Since before fresh t) :
    Outcome S t (autoPurchase user plan order now strict) fun _ =>
      Charged S t user order .purchase strict fun row rest =>
        ∃ sub, PlanDelivery S (before ++ posting row) fresh user plan order now sub rest :=
  outcome_payFromBalance fun _ _ hreach => outcome_deliverPlan user (h.reaches hreach)

theorem outcome_fulfillDeviceSlots (h : Since before fresh t) :
    Outcome S t (fulfillDeviceSlots user order strict) fun _ =>
      Charged S t user order .deviceSlotPurchase strict fun row =>
        SlotDelivery S (before ++ posting row) order :=
  outcome_payFromBalance fun _ _ hreach => (h.reaches hreach).writes ▸ outcome_addDeviceSlots

theorem outcome_deliverOrder (h : Since before fresh t) (account user : User)
    (order : PaymentOrder) (now : Time) (hid : user.id = account.id)
    (hloaded : t.session.identity account.id = some account) :
    Outcome S t (deliverOrder user order now) fun _ =>
      OrderDelivery S before fresh account order now := by
  unfold deliverOrder
  rw [hid]
  split
  · rename_i htype
    refine (outcome_fulfillDeviceSlots account.id h).mono ?_
    rintro - ws (⟨row, rest, hposts, hdelivery, rfl⟩ | ⟨-, hreason, rfl⟩)
    · exact .slots row rest htype hposts hdelivery
    · exact .withheld (h.writes ▸ hreason.withheld hloaded)
  · rename_i htype
    split
    · rename_i hnone
      exact outcome_pure (.withheld (.noPlan htype hnone))
    · rename_i planId hplan
      refine outcome_select fun c hc => ?_
      have hsaw : ∀ fact, fact (t.view c.state) → Saw S before fact :=
        fun fact hfact => h.writes ▸ ⟨c, hc, hfact⟩
      cases hfound : (t.view c.state).plans.find? planId with
      | none =>
        refine outcome_pure (.withheld (.notForSale htype planId hplan (hsaw _ fun row hrow => ?_)))
        cases hfound.symm.trans hrow
      | some plan =>
        have hplanId : plan.id = planId := key_of_find? hfound
        subst hplanId
        dsimp only
        split
        · refine (outcome_autoPurchase account.id h).mono ?_
          rintro - ws (⟨row, rest, hposts, ⟨sub, hdelivery⟩, rfl⟩ | ⟨-, hreason, rfl⟩)
          · exact .plan plan row sub rest htype hplan hposts hdelivery
          · exact .withheld (h.writes ▸ hreason.withheld hloaded)
        · rename_i hsale
          refine outcome_pure (.withheld (.notForSale htype _ hplan (hsaw _ fun row hrow => ?_)))
          obtain rfl : plan = row := Option.mem_unique hfound hrow
          exact hsale

/-! ## Settlement of a payment -/

/-- The writes of a promo activation of the order, if it has one. -/
def PromoRecorded (order : PaymentOrder) (writes : List Write) : Prop :=
  writes = [] ∨ ∃ row, row.orderId = some order.id ∧
    writes = [.insertActivation row, .incrementActivation row.promoCodeId]

theorem outcome_recordPromoActivation :
    Outcome S t (recordPromoActivation order) fun _ => PromoRecorded order := by
  unfold recordPromoActivation
  split
  · refine outcome_execute fun c hc => outcome_execute_last ?_
    exact .inr ⟨_, rfl, rfl⟩
  · exact outcome_pure (.inl rfl)

/-- The writes of a referral reward. None of them is about an order. -/
def Write.IsReward : Write → Prop
  | .setBalance _ _ => True
  | .insertTransaction row => row.orderId = none
  | .updateReferral _ _ => True
  | _ => False

theorem reward_creditUser : Writes IsReward (creditUser user amount type description) := by
  refine .bind (by simp) fun found => ?_
  cases found with
  | none => simp
  | some =>
    exact .bind (.execute trivial) fun _ => .bind (by simp) fun _ => .execute rfl

theorem reward_rewardReferral : Writes IsReward (rewardReferral cfg order providerName) := by
  unfold rewardReferral
  split
  · refine .tryCatch ?_ fun _ => by simp
    unfold processRewardIfEligible
    split
    · simp
    · refine .bind (by simp) fun found => .bind (by simp) fun referral => ?_
      cases referral with
      | none => simp
      | some =>
        refine .bind (by simp) fun paidOrders => ?_
        split
        · simp
        · refine .bind (by simp) fun now => .bind ?_ fun _ => .bind ?_ fun _ =>
            Writes.execute trivial
          · unfold rewardReferrer
            split
            · exact .bind (reward_creditUser _) fun _ => Writes.bind (by simp) fun _ => by simp
            · simp
          · unfold rewardReferred
            split
            · exact reward_creditUser _
            · simp
  · simp

variable (S before fresh) in
/-- What settling the payment of an order writes: the order is paid, the payment is
credited, the promo code is activated, the order is delivered from the credited
balance and completed, and the referral is rewarded. -/
inductive Settlement (order : PaymentOrder) (user : User) : List Write → Prop
  | mk (now : Time) (fee : Option Money) (payment : BalanceTransaction)
      (promo delivery reward : List Write)
      (hpayment : Posts payment user.id order.amountRub .payment (some order.id))
      (hbalance : payment.balanceAfter = user.balance + order.amountRub)
      (hpromo : PromoRecorded order promo)
      (hdelivery : OrderDelivery S (before ++ .updateOrder order.id
            { status := some .paid
              paidAt := some now
              feeRub := fee
              netRub := fee.map (order.amountRub - ·) } :: (posting payment ++ promo))
        fresh { user with balance := payment.balanceAfter } order now delivery)
      (hreward : ∀ w ∈ reward, w.IsReward) :
      Settlement order user (.updateOrder order.id
            { status := some .paid
              paidAt := some now
              feeRub := fee
              netRub := fee.map (order.amountRub - ·) } ::
          (posting payment ++ (promo ++ (delivery ++
            .updateOrder order.id { status := some .completed, completedAt := some now } ::
              reward))))

variable {user : User} {P : Protocol engine}

theorem outcome_settlePayment {feeRub : Option Money}
    (h : Since before fresh t) (hloaded : t.session.identity user.id = some user) :
    Outcome S t (settlePayment cfg order user providerName feeRub method) fun _ =>
      Settlement S before fresh order user := by
  refine outcome_datetimeNow (outcome_reads (by simp) fun fee mid hfee => ?_)
  refine outcome_execute fun c hc => ?_
  have hpaid : t.Reaches S [.updateOrder order.id _] _ := hfee.tail c (.write (.updateOrder order.id
      { status := some .paid, paidAt := some t.session.now, feeRub := fee
        netRub := fee.map (order.amountRub - ·) })) hc
  refine outcome_post fun payment posted hpayment hbalance hposted hcredited => ?_
  have hcredited := hcredited user (identity_of_reaches hpaid hloaded (by simp))
  refine .bind outcome_recordPromoActivation fun _ promo recorded hrecorded hpromo => ?_
  have hbefore := hpaid.trans (hposted.trans hrecorded)
  have hholds : recorded.session.identity user.id =
      some { user with balance := payment.balanceAfter } := by
    rw [hbalance]
    exact identity_of_reaches hrecorded hcredited fun _ => by
      rcases hpromo with rfl | ⟨row, -, rfl⟩ <;> simp
  have hdeliver := outcome_deliverOrder (S := S) (h.reaches hbefore)
    { user with balance := payment.balanceAfter } user order t.session.now rfl hholds
  refine .bind hdeliver fun _ delivery delivered _ hdelivery => ?_
  refine outcome_execute fun c hc => ?_
  refine (outcome_writes (reward_rewardReferral cfg)).mono ?_
  intro _ reward hreward
  exact .mk t.session.now fee payment promo delivery reward hpayment hbalance hpromo hdelivery
    hreward

variable (S before fresh) in
/-- What a payment event for a locked order writes. -/
inductive Payment (order : PaymentOrder) : List Write → Prop
  | repeated (hfinal : order.status ∈ orderFinalStatuses) : Payment order []
  | settled (user : User) (writes : List Write) (hpending : order.status = .pending)
      (huser : user.id = order.userId)
      (hseen : Saw S before fun db => db.users.find? order.userId ≠ none)
      (hsettled : Settlement S before fresh order user writes) :
      Payment order writes

/-- Fulfilment settles a pending order and leaves a final one alone. -/
theorem outcome_fulfillOrderLocked (h : Since before fresh t) :
    Outcome S t (fulfillOrderLocked cfg order providerName feeRub method) fun _ =>
      Payment S before fresh order := by
  unfold fulfillOrderLocked
  split
  · rename_i hfinal
    exact outcome_pure (.repeated hfinal)
  · rename_i hopen
    refine .guard fun hexpired => ?_
    have hpending : order.status = .pending := by
      cases hstatus : order.status <;> simp_all [orderFinalStatuses]
    refine outcome_lockUser (fun mid _ => outcome_execute fun _ _ => .raise) ?_
    rintro user mid ⟨hreach, hid, hloaded, -, hseen⟩
    refine (outcome_settlePayment cfg (h.reads hreach) (hid ▸ hloaded)).mono ?_
    intro _ ws hsettled
    exact .settled user ws hpending hid (h.writes ▸ hseen) hsettled

/-! ## The two ways a payment arrives -/

variable (S before fresh) in
/-- What an accepted webhook for an order writes: a payment is settled, any other
event is noted and may expire a pending order. -/
inductive Accepted (webhook : WebhookResult) (order : PaymentOrder) : List Write → Prop
  | noted (status : Option OrderStatus) (hother : webhook.shouldFulfill = false)
      (hstatus : status = none ∨ status = some .expired ∧ order.status = .pending) :
      Accepted webhook order [.updateOrder order.id { status := status }]
  | payment (writes : List Write) (hpaid : webhook.shouldFulfill = true)
      (h : Payment S before fresh order writes) :
      Accepted webhook order writes

theorem outcome_acceptLocked (h : Since before fresh t) :
    Outcome S t (acceptLocked cfg providerName webhook order) fun _ ws =>
      amountMismatch webhook order = false ∧ Accepted S before fresh webhook order ws := by
  refine .guard fun hmatch => ?_
  have hamount : amountMismatch webhook order = false := by simpa using hmatch
  split
  · rename_i hother
    refine outcome_execute_last ⟨hamount, .noted _ (by simpa using hother) ?_⟩
    split
    · rename_i hcanceled
      exact .inr ⟨rfl, hcanceled.2⟩
    · exact .inl rfl
  · rename_i hpaid
    refine (outcome_fulfillOrderLocked cfg h).mono fun _ ws hpayment => ?_
    exact ⟨hamount, .payment ws (by simpa using hpaid) hpayment⟩

/-- The content of a webhook that its provider accepts. -/
def verified? (cfg : Settings) (providerName : String) (request : Request) : Option WebhookResult :=
  match getProvider cfg.billing cfg.library providerName with
  | .error _ => none
  | .ok verifyWebhook => (verifyWebhook request).toOption

/-- A webhook is refused, or accepted with its content. -/
theorem processWebhook_cases (cfg : Settings) (providerName : String) (request : Request) :
    (∃ error, processWebhook cfg providerName request = raise error) ∨
      ∃ webhook, verified? cfg providerName request = some webhook ∧
        processWebhook cfg providerName request = acceptWebhook cfg providerName webhook := by
  unfold processWebhook verified?
  cases getProvider cfg.billing cfg.library providerName with
  | error error => exact .inl ⟨error, rfl⟩
  | ok verifyWebhook =>
    dsimp only
    split
    · exact .inl ⟨_, rfl⟩
    · exact .inl ⟨_, rfl⟩
    · rename_i webhook hwebhook
      exact .inr ⟨webhook, by rw [hwebhook]; rfl, rfl⟩

theorem outcome_processWebhook {request : Request} :
    Outcome S t (processWebhook cfg providerName request) fun _ ws =>
      ∃ webhook order, verified? cfg providerName request = some webhook ∧ Saw S t.writes (fun db =>
          (OrderRef.byExternalId webhook.externalId).find? db = some order) ∧
        amountMismatch webhook order = false ∧
        Accepted S t.writes t.session.nextUuid webhook order ws := by
  obtain ⟨error, heq⟩ | ⟨webhook, hverified, heq⟩ := processWebhook_cases cfg providerName request
  · rw [heq]
    exact .raise
  · rw [heq]
    refine outcome_lockOrder (fun mid _ => .raise) fun order mid hreach hseen => ?_
    refine (outcome_acceptLocked cfg (Since.here.reads hreach)).mono ?_
    rintro - ws ⟨hamount, haccepted⟩
    exact ⟨webhook, order, hverified, hseen, hamount, haccepted⟩

theorem outcome_confirmLocked (h : Since before fresh t) :
    Outcome S t (confirmLocked cfg order) fun _ ws =>
      order.provider = .stars ∧ Payment S before fresh order ws := by
  refine .guard fun hprovider => ?_
  exact (outcome_fulfillOrderLocked cfg h).mono fun _ _ hpayment => ⟨not_not.mp hprovider, hpayment⟩

theorem outcome_confirmStarsPayment :
    Outcome S t (confirmStarsPayment cfg orderId) fun _ ws => ∃ order,
      Saw S t.writes (fun db => db.orders.find? orderId = some order) ∧
      order.provider = .stars ∧ Payment S t.writes t.session.nextUuid order ws := by
  refine outcome_lockOrder (fun mid _ => .raise) fun order mid hreach hseen => ?_
  refine (outcome_confirmLocked cfg (Since.here.reads hreach)).mono ?_
  rintro - ws ⟨hprovider, hpayment⟩
  exact ⟨order, hseen, hprovider, hpayment⟩

/-! ## Refunds -/

/-- What a refund writes. -/
inductive Refunded (order : PaymentOrder) : List Write → Prop
  | mk (row : BalanceTransaction) (rest : List Write)
      (hstatus : order.status ∈ orderRefundableStatuses)
      (hposts : Posts row order.userId (-order.amountRub) .refund (some order.id))
      (hrest : ∀ w ∈ rest, ∃ sub patch, w = .updateSubscription sub patch) :
      Refunded order (posting row ++ .updateOrder order.id { status := some .refunded } :: rest)

theorem outcome_refundLocked :
    Outcome S t (refundLocked order reason deactivate) fun _ => Refunded order := by
  refine .guard fun hstatus => ?_
  refine outcome_lockUser (fun mid _ => .raise) fun user mid hloaded => ?_
  refine outcome_post fun row mid' hposts _ _ _ => outcome_execute fun c hc => ?_
  refine (outcome_writes (W := fun w => ∃ sub patch, w = .updateSubscription sub patch)
    (.deactivateRefunded fun sub patch => ⟨sub, patch, rfl⟩)).mono ?_
  intro _ rest hrest
  exact .mk row rest (not_not.mp hstatus) (hloaded.id_eq ▸ hposts) hrest

/-! ## Requests that lock an order first -/

/-- A request that starts with locking an order goes on with the order as it is
committed. -/
theorem wp_lockOrder {f : PaymentOrder → Service Unit}
    (hf : ∀ (t : Tx engine) (c : Committed engine) (row : PaymentOrder), P.Inv c →
      ref.find? c.state = some row → t.writes = [] → RowKey.order row.id ∈ t.keys →
      P.wp (f row) (fun _ => P.CommitOk) (fun _ _ _ => True) t c)
    {session : Session} :
    P.wp (do
        match ← lockOrder ref with
        | none => raise error
        | some row => f row)
      (fun _ => P.CommitOk) (fun _ _ _ => True) (Tx.start session) c := by
  intro later hlater _
  generalize hreply : (Tx.start session : Tx engine).reply later (.lockOrder ref) = found
  have hfound : ref.find? later.state = found := hreply
  cases found with
  | none => exact fun _ _ => trivial
  | some row =>
    have hlock : RowKey.order row.id ∈ locks (.lockOrder ref) later.state := by simp [locks, hfound]
    exact hf _ later row hlater.1 hfound rfl (Tx.mem_keys_after.mpr (.inr hlock))

/-- Whatever such a request writes is committed on the order as it was locked. -/
theorem wp_commit_locked {R : List Write → Prop} (hp : Outcome P.Inv t p fun _ => R)
    (hwrites : t.writes = []) (hkey : RowKey.order row.id ∈ t.keys)
    (hrow : c.state.orders.find? row.id = some row)
    (hcommit : ∀ (done : Tx engine) (later : Committed engine), P.Inv later →
      later.state.orders.find? row.id = some row → R done.writes → P.CommitOk done later) :
    P.wp p (fun _ => P.CommitOk) (fun _ _ _ => True) t c := by
  have hlocked := Outcome.wp_locked (c := c) hp hkey
  refine Protocol.wp_mono hlocked ?_ fun _ _ _ h => h
  rintro - done later ⟨⟨ws, hreach, hws⟩, hsame, hinv⟩
  have hdone : done.writes = ws := by simpa [hwrites] using hreach.writes_eq
  have hsame : Database.SameRow (.order row.id) c.state later.state := hsame
  exact hcommit done later hinv (hsame.symm.trans hrow) (hdone ▸ hws)

theorem OrderRef.find?_eq_some
    (h : ref.find? db = some row) : db.orders.find? row.id = some row := by
  cases ref with
  | byId id =>
    have hid : row.id = id := key_of_find? h
    rw [hid]
    exact h
  | byExternalId => exact Table.find?_of_mem (mem_of_find?_eq_some h)

/-! ## The writes of a settlement are about its order -/

/-- A write that settling the payment of an order may make. -/
def Write.Settles (order : Uuid) : Write → Prop
  | .setBalance _ _ => True
  | .insertTransaction row => row.orderId = some order ∨ row.orderId = none
  | .updateOrder id _ => id = order
  | .insertSubscription _ => True
  | .updateSubscription _ _ => True
  | .insertActivation row => row.orderId = some order
  | .incrementActivation _ => True
  | .updateReferral _ _ => True
  | _ => False

theorem settles_posting {row : BalanceTransaction} {user : Uuid} {order : Uuid}
    (h : Posts row user amount type (some order)) : ∀ w ∈ posting row, w.Settles order := by
  simp [posting, Settles, h.orderId]

theorem PromoRecorded.settles (h : PromoRecorded order ws) : ∀ w ∈ ws, w.Settles order.id := by
  rcases h with rfl | ⟨row, hrow, rfl⟩ <;> simp_all [Settles]

theorem PlanDelivery.settles {user : Uuid}
    (h : PlanDelivery S before fresh user plan order now sub ws) :
    ∀ w ∈ ws, w.Settles order.id := by
  cases h <;> simp [Settles]

theorem OrderDelivery.settles (h : OrderDelivery S before fresh account order now ws) :
    ∀ w ∈ ws, w.Settles order.id := by
  cases h with
  | plan _ _ _ _ _ _ hposts hdelivery =>
    exact forall_mem_append.mpr ⟨settles_posting hposts, hdelivery.settles⟩
  | slots _ _ _ hposts hdelivery =>
    refine forall_mem_append.mpr ⟨settles_posting hposts, ?_⟩
    cases hdelivery <;> simp [Settles]
  | withheld => simp

theorem Settlement.settles (h : Settlement S before fresh order user ws) :
    ∀ w ∈ ws, w.Settles order.id := by
  obtain ⟨now, fee, payment, promo, delivery, reward, hpayment, -, hpromo, hdelivery, hreward⟩ := h
  have hrewards : ∀ w ∈ reward, w.Settles order.id := by
    intro w hw
    have hw := hreward w hw
    cases w <;> simp_all [IsReward, Settles]
  simp only [forall_mem_cons, forall_mem_append]
  exact ⟨rfl, settles_posting hpayment, hpromo.settles, hdelivery.settles, rfl, hrewards⟩

theorem Payment.settles (h : Payment S before fresh order ws) : ∀ w ∈ ws, w.Settles order.id := by
  cases h with
  | repeated => simp
  | settled _ _ _ _ _ hsettled => exact hsettled.settles

theorem Accepted.settles (h : Accepted S before fresh webhook order ws) :
    ∀ w ∈ ws, w.Settles order.id := by
  cases h with
  | noted => simp [Settles]
  | payment _ _ hpayment => exact hpayment.settles

theorem Refunded.settles (h : Refunded order ws) : ∀ w ∈ ws, w.Settles order.id := by
  obtain ⟨row, rest, -, hposts, hrest⟩ := h
  refine forall_mem_append.mpr ⟨settles_posting hposts, forall_mem_cons.mpr ⟨rfl, ?_⟩⟩
  intro w hw
  obtain ⟨sub, patch, rfl⟩ := hrest w hw
  trivial

theorem Write.Settles.not_mentions {order : Uuid} {w : Write} (h : w.Settles order)
    (hne : id ≠ order) : ¬ w.Mentions id := by
  cases w <;> simp_all [Settles, Mentions, eq_comm]
  rcases h with h | h <;> simp [h, Ne.symm hne]

/-! ## What a settlement makes of its order -/

@[simp]
theorem filterMap_orderPatch?_posting : (posting row).filterMap (orderPatch? id) = [] := rfl

theorem PromoRecorded.patches (h : PromoRecorded order ws) (id : Uuid) :
    ws.filterMap (orderPatch? id) = [] := by
  rcases h with rfl | ⟨row, -, rfl⟩ <;> rfl

theorem PlanDelivery.patches {user : Uuid}
    (h : PlanDelivery S before fresh user plan order now sub ws) :
    ws.filterMap (orderPatch? order.id) = [{ subscriptionId := some sub }] := by
  cases h <;> simp [filterMap_cons, orderPatch?]

theorem SlotDelivery.patches (h : SlotDelivery S before order ws) (id : Uuid) :
    ws.filterMap (orderPatch? id) = [] := by
  cases h <;> rfl

theorem reward_patches (h : ∀ w ∈ ws, w.IsReward) : ws.filterMap (orderPatch? id) = [] := by
  refine filterMap_orderPatch?_eq_nil fun w hw => ?_
  have hw := h w hw
  cases w <;> simp_all [IsReward, Mentions]

theorem OrderDelivery.patches (h : OrderDelivery S before fresh account order now ws) :
    ws.filterMap (orderPatch? order.id) = [] ∨
      ∃ sub, ws.filterMap (orderPatch? order.id) = [{ subscriptionId := some sub }] := by
  cases h with
  | plan _ _ sub _ _ _ _ hdelivery => exact .inr ⟨sub, by simp [hdelivery.patches]⟩
  | slots _ _ _ _ hdelivery => exact .inl (by simp [hdelivery.patches])
  | withheld => exact .inl rfl

theorem Settlement.status (h : Settlement S before fresh order user ws) :
    (order.patched (ws.filterMap (orderPatch? order.id))).status = .completed := by
  obtain ⟨now, fee, payment, promo, delivery, reward, -, -, hpromo, hdelivery, hreward⟩ := h
  rcases hdelivery.patches with hnone | ⟨sub, hsub⟩
  · simp [orderPatch?, hpromo.patches, reward_patches hreward, hnone, OrderInternalUpdate.set]
  · simp [orderPatch?, hpromo.patches, reward_patches hreward, hsub, OrderInternalUpdate.set]

theorem Refunded.status (h : Refunded order ws) :
    (order.patched (ws.filterMap (orderPatch? order.id))).status = .refunded := by
  obtain ⟨row, rest, -, -, hrest⟩ := h
  have hnone : rest.filterMap (orderPatch? order.id) = [] := by
    refine filterMap_orderPatch?_eq_nil fun w hw => ?_
    obtain ⟨sub, patch, rfl⟩ := hrest w hw
    exact id
  simp [orderPatch?, hnone, OrderInternalUpdate.set]

end VpnControl.Billing

/-
# A referral is rewarded once

Two orders of one referred user may be paid at the same time. The pending referral is read
without a lock, so both payments could find it. They do not, because each of them has locked
the user before it gets there and writes that row itself. As long as one of them holds the
lock, nobody else commits a reward of this user, and whoever gets the lock next finds the
referral rewarded. The protocol below says that for the committed state.
-/

import VpnControl.Billing.ExactlyOnce
import VpnControl.Billing.ReferralRule

namespace VpnControl.Billing

open Txn Protocol List Write Stmt
open Database Table

section

variable {S : Committed engine → Prop} {t : Tx engine} {cfg : Settings} {order : PaymentOrder}
  {user : Uuid} {ws first : List Write} {db start : Database} {c later : Committed engine}
  {cfg : ReferralConfig} {amount : Money}

/-! ## What a reward writes -/

/-- The write records a ledger row of this type. -/
def Write.records (type : TransactionType) (w : Write) : Bool :=
  w.transaction?.any fun row => row.type = type

/-- At most one reward and one bonus, and nothing else that matters here. -/
structure RewardRows (ws : List Write) : Prop where
  reward : ws.countP (Write.records .referralReward) ≤ 1
  bonus : ws.countP (Write.records .referralBonus) ≤ 1
  posted : ∀ w ∈ ws, (∃ user balance, w = .setBalance user balance) ∨
    ∃ row, w = .insertTransaction row

/-- What the referral programme writes for a user: nothing, or the reward of the referral
that was pending. -/
inductive RewardWrites (S : Committed engine → Prop) (before : List Write) (user : Uuid) :
    List Write → Prop
  | none : RewardWrites S before user []
  | paid (referral : Referral) (reward : ReferralReward) (rows : List Write)
      (hpending : Saw S before fun db => db.pendingReferrals user = [referral])
      (hrows : RewardRows rows) :
      RewardWrites S before user (rows ++ [.updateReferral referral.id reward])

/-- A credit posts one row, or nothing when there is no account. -/
theorem outcome_creditUser (type : TransactionType) :
    Outcome S t (creditUser user amount type description) fun _ ws =>
      ws = [] ∨ ∃ row, row.type = type ∧ ws = posting row := by
  refine outcome_lockUser (fun mid _ => outcome_pure (.inl rfl)) ?_
  rintro holder mid ⟨-, hid, -⟩
  refine outcome_execute fun c hc => outcome_uuid4 fun mid _ _ => outcome_execute_last ?_
  exact .inr ⟨
    { id := _, userId := user, amount := amount, balanceAfter := holder.balance + amount
      type := type, orderId := none, description := some description }, rfl, rfl⟩

def rewardFound (cfg : ReferralConfig) (user : Uuid) (referral : Referral) : Service Unit := do
  let paidOrders ← select (·.rewardableOrders user)
  if 1 < paidOrders.length then pure ()
  else do
    let now ← datetimeNow
    rewardReferrer cfg referral
    rewardReferred cfg referral
    execute (.updateReferral referral.id
      { rewardAmount := cfg.rewardRub
        referredRewardAmount := cfg.referredRewardRub
        rewardedAt := now })

theorem neverRaises_creditUser (type : TransactionType) :
    (creditUser user amount type description).NeverRaises := by
  refine .bind (fun _ => trivial) fun found => ?_
  cases found with
  | none => trivial
  | some =>
    exact .bind (fun _ => trivial) fun _ => .bind (fun _ => trivial) fun _ _ => trivial

theorem neverRaises_rewardFound : (rewardFound cfg user referral).NeverRaises := by
  refine .bind (fun _ => trivial) fun paidOrders => ?_
  split
  · trivial
  · refine .bind (fun _ => trivial) fun now =>
      .bind ?_ fun _ => .bind ?_ fun _ _ => trivial
    · unfold rewardReferrer
      split
      · exact .bind (neverRaises_creditUser _) fun _ =>
          Program.NeverRaises.bind (fun _ => trivial) fun _ => trivial
      · trivial
    · unfold rewardReferred
      split
      · exact neverRaises_creditUser _
      · trivial

/-- All that the handler around the referral programme can meet is that the query for the
pending referral finds several. -/
theorem rewardReferral_eq {cfg : Settings} : rewardReferral cfg order providerName =
      if order.orderType ∈ [.planPurchase, .subscriptionRenewal] ∧ providerName ≠ "free" then
        if ¬ cfg.referral.enabled then pure ()
        else do
          match ← select (·.pendingReferrals order.userId) with
          | [referral] => rewardFound cfg.referral order.userId referral
          | _ => pure ()
      else pure () := by
  unfold rewardReferral processRewardIfEligible
  split
  · split
    · rfl
    · refine congrArg (Program.exec _) (funext fun found => ?_)
      rcases found with _ | ⟨referral, _ | ⟨other, rest⟩⟩
      · rfl
      · exact neverRaises_rewardFound.tryCatch _
      · rfl
  · rfl

theorem outcome_rewardReferrer : Outcome S t (rewardReferrer cfg referral) fun _ ws =>
      ws = [] ∨ ∃ row, row.type = .referralReward ∧ ws = posting row := by
  unfold rewardReferrer
  split
  · refine .bind (outcome_creditUser _) fun _ ws mid _ hws => ?_
    refine outcome_getUser (fun mid _ => ?_) fun holder mid _ => ?_
    · exact outcome_pure (by simpa using hws)
    · exact outcome_pure (by simpa using hws)
  · exact outcome_pure (.inl rfl)

theorem outcome_rewardReferred : Outcome S t (rewardReferred cfg referral) fun _ ws =>
      ws = [] ∨ ∃ row, row.type = .referralBonus ∧ ws = posting row := by
  unfold rewardReferred
  split
  · exact outcome_creditUser _
  · exact outcome_pure (.inl rfl)

theorem outcome_rewardFound
    (hpending : Saw S t.writes fun db => db.pendingReferrals user = [referral]) :
    Outcome S t (rewardFound cfg user referral) fun _ ws => RewardWrites S t.writes user ws := by
  refine outcome_select fun c hc => ?_
  split
  · exact outcome_pure .none
  · refine outcome_datetimeNow ?_
    refine .bind outcome_rewardReferrer fun _ first mid _ hfirst => ?_
    refine .bind outcome_rewardReferred fun _ second mid _ hsecond => ?_
    refine outcome_execute_last ?_
    rw [← append_assoc]
    refine .paid referral _ _ hpending ?_
    -- a credit of one type after a credit of another
    rcases hfirst with rfl | ⟨row, htype, rfl⟩ <;> rcases hsecond with rfl | ⟨row', htype', rfl⟩ <;>
      constructor <;> simp_all [posting, records, transaction?]

theorem outcome_rewardReferral {cfg : Settings} :
    Outcome S t (rewardReferral cfg order providerName) fun _ ws =>
      RewardWrites S t.writes order.userId ws := by
  rw [rewardReferral_eq]
  split
  · split
    · exact outcome_pure .none
    · refine outcome_select fun c hc => ?_
      split
      · rename_i referral hfound
        exact outcome_rewardFound ⟨c, hc, hfound⟩
      · exact outcome_pure .none
  · exact outcome_pure .none

/-! ## What a payment writes -/

/-- Settling a payment writes the row of the user, and the referral programme comes last. -/
inductive RewardSettlement (S : Committed engine → Prop) (before : List Write)
    (order : PaymentOrder) : List Write → Prop
  | mk (first reward : List Write) (hfirst : ∀ w ∈ first, w.SparesReferrals ∧ w.OnlyOrder order.id)
      (huser : ∃ balance, .setBalance order.userId balance ∈ first)
      (hreward : RewardWrites S (before ++ first) order.userId reward) :
      RewardSettlement S before order (first ++ reward)

theorem fulfilling_beforeReward (order : PaymentOrder) :
    Fulfilling (fun w => w.SparesReferrals ∧ w.OnlyOrder order.id) order.id where
  balance _ _ := ⟨trivial, trivial⟩
  posting row htype := ⟨(fulfilling_sparesReferrals order.id).posting row htype, trivial⟩
  newSubscription _ := ⟨trivial, trivial⟩
  subscription _ _ := ⟨trivial, trivial⟩
  order _ := ⟨trivial, rfl⟩
  activation _ := ⟨trivial, trivial⟩
  activationCount _ := ⟨trivial, trivial⟩

theorem rewards_settlePayment (cfg : Settings) {user : User}
    (huser : user.id = order.userId) (providerName : String) (feeRub : Option Money)
    (method : Option ℤ) :
    Outcome S t (settlePayment cfg order user providerName feeRub method) fun _ ws =>
      RewardSettlement S t.writes order ws := by
  have hW := fulfilling_beforeReward order
  refine outcome_datetimeNow (outcome_reads (by simp) fun fee mid hfee => ?_)
  refine outcome_execute fun c hc => ?_
  have hpaid : t.Reaches S [.updateOrder order.id _] _ := hfee.tail c (.write (.updateOrder order.id
    { status := some .paid, paidAt := some t.session.now, feeRub := fee
      netRub := fee.map (order.amountRub - ·) })) hc
  refine outcome_post fun payment posted hpayment _ hposted _ => ?_
  refine .bind (outcome_writes hW.recordPromoActivation) fun _ promo recorded hrecorded hpromo => ?_
  refine .bind (outcome_writes hW.deliverOrder) fun _ delivery delivered hdelivered hdelivery => ?_
  refine outcome_execute fun c' hc' => ?_
  have hdone := (hpaid.trans (hposted.trans (hrecorded.trans hdelivered))).tail c'
    (.write (.updateOrder order.id { status := some .completed, completedAt := some t.session.now }))
    hc'
  refine outcome_rewardReferral.mono fun _ reward hreward => ?_
  rw [hdone.writes_eq] at hreward
  have hsettled : RewardSettlement S t.writes order (_ ++ reward) := .mk _ reward ?_ ?_ hreward
  · simpa [writes] using hsettled
  · have hposting : ∀ w ∈ posting payment, w.SparesReferrals ∧ w.OnlyOrder order.id := by
      simp only [posting, forall_mem_cons, not_mem_nil, false_implies, implies_true, and_true]
      exact ⟨hW.balance _ _, hW.posting payment (by simp [hpayment.type])⟩
    simp only [forall_mem_append, forall_mem_singleton]
    exact ⟨⟨hW.order _, hposting, hpromo, hdelivery⟩, forall_mem_singleton.mpr (hW.order _)⟩
  · refine ⟨payment.balanceAfter, ?_⟩
    simp [posting, hpayment.userId, huser]

/-! ## The protocol -/

/-- What the committed state says about the referral of a user: with the pending referral
counted in, nobody has got more than before. -/
structure RewardedOnce (start : Database) (user : Uuid) (c : Committed engine) : Prop where
  reward : ∀ id, c.state.rewards .referralReward id + (c.state.pendingReferrals user).length ≤
    start.rewards .referralReward id + (start.pendingReferrals user).length
  bonus : ∀ id, c.state.rewards .referralBonus id + (c.state.pendingReferrals user).length ≤
    start.rewards .referralBonus id + (start.pendingReferrals user).length
  orders : ∀ row ∈ c.state.orders.rows, ∃ old ∈ start.orders.rows, old.terms = row.terms

/-- Whoever rewards the referral has written the row of the user. -/
def GuardsReferral (user : Uuid) (c later : Committed engine) : Prop :=
  ∃ ws, later.log = c.log ++ ws ∧ ((∀ w ∈ ws, RowKey.user user ∉ w.touches) →
    later.state.pendingReferrals user = c.state.pendingReferrals user)

/-- What the payments of the orders of one user promise each other. -/
def rewardProtocol (start : Database) (user : Uuid) : Protocol engine where
  Inv := RewardedOnce start user
  Guar := GuardsReferral user
  guard _ _ _ := True
  Done _ := True
  guar_refl c := ⟨[], by simp, fun _ => rfl⟩
  guar_trans := by
    rintro a b c ⟨first, hfirst, hsame⟩ ⟨second, hsecond, hsame'⟩
    refine ⟨first ++ second, by rw [hsecond, hfirst, List.append_assoc], fun hws => ?_⟩
    obtain ⟨hws, hws'⟩ := List.forall_mem_append.mp hws
    exact (hsame' hws').trans (hsame hws)

/-- Under the lock on the user, the pending referral stays as it is. -/
theorem pendingReferrals_of_while (h : (rewardProtocol start user).While (.user user) c later) :
    later.state.pendingReferrals user = c.state.pendingReferrals user := by
  obtain ⟨-, ⟨ws, hlog, hsame⟩, ws', rfl, hws'⟩ := h
  obtain rfl : ws' = ws := append_cancel_left hlog
  exact hsame hws'

theorem programme_foldl (hws : ∀ w ∈ ws, w.SparesReferrals) :
    (ws.foldl Database.apply db).programme = db.programme :=
  foldl_unchanged Database.programme (fun w hw db => programme_of_sparesReferrals db (hws w hw))

theorem pendingReferrals_foldl (db : Database) (hws : ∀ w ∈ ws, w.SparesReferrals) :
    (ws.foldl Database.apply db).pendingReferrals user = db.pendingReferrals user := by
  unfold Database.pendingReferrals
  rw [show (ws.foldl Database.apply db).referrals = db.referrals from
    congrArg Database.Programme.referrals (programme_foldl hws)]

/-- The ledger grows by the rows that are recorded. -/
theorem rewards_foldl_le (type : TransactionType) (id : Uuid) :
    (ws.foldl Database.apply db).rewards type id ≤
      db.rewards type id + ws.countP (records type) := by
  unfold Database.rewards
  rw [transactions_foldl, countP_append, countP_filterMap_any]
  refine Nat.add_le_add_left (countP_mono_left fun w _ hw => ?_) _
  unfold records
  cases hrow : w.transaction? with
  | none => simp [hrow] at hw
  | some =>
    rw [hrow] at hw
    simpa using (of_decide_eq_true hw).1

theorem pendingReferrals_rewarded (h : db.pendingReferrals user = [referral]) :
    (db.apply (.updateReferral referral.id reward)).pendingReferrals user = [] := by
  have hmem : referral ∈ db.pendingReferrals user := by simp [h]
  obtain ⟨hrow, hkind⟩ := mem_filter.mp hmem
  have hcount := countP_modify reward.set (fun _ => rfl) (Table.find?_of_mem hrow)
    fun row => row.referredUserId = user ∧ row.status = .pending
  have hone : db.referrals.rows.countP
      (fun row => decide (row.referredUserId = user ∧ row.status = .pending)) = 1 := by
    rw [countP_eq_length_filter]
    exact congrArg length h
  have hrewarded : (reward.set referral).status = .rewarded := rfl
  rw [if_pos hkind, hone, if_neg (by simp [hrewarded])] at hcount
  rw [← length_eq_zero_iff]
  unfold Database.pendingReferrals
  rw [← countP_eq_length_filter]
  exact Nat.succ.inj hcount

theorem RewardRows.referrals (h : RewardRows ws) (db : Database) :
    (ws.foldl Database.apply db).referrals = db.referrals := by
  refine foldl_unchanged Database.referrals (fun w hw db => ?_)
  rcases h.posted w hw with ⟨user, balance, rfl⟩ | ⟨row, rfl⟩ <;> rfl

theorem countP_records_eq_zero (htype : type = .referralReward ∨ type = .referralBonus)
    (h : ∀ w ∈ ws, w.SparesReferrals) : ws.countP (records type) = 0 := by
  rw [countP_eq_zero]
  intro w hw hrecords
  have hspares := h w hw
  cases w <;> simp_all [records, transaction?, SparesReferrals]

theorem orders_extend (h : RewardedOnce start user c) (hws : ∀ row, insertOrder row ∉ ws) :
    ∀ row ∈ (c.extend ws).state.orders.rows, ∃ old ∈ start.orders.rows, old.terms = row.terms := by
  intro row hrow
  obtain ⟨mid, hmid, hterms⟩ := mem_orders_foldl hws hrow
  obtain ⟨old, hold, hterms'⟩ := h.orders mid hmid
  exact ⟨old, hold, hterms'.trans hterms⟩

/-- A commit that has nothing to do with the referral programme. -/
theorem RewardedOnce.extend (h : RewardedOnce start user c)
    (hws : ∀ w ∈ ws, w.SparesReferrals ∧ w.OnlyOrder order.id) :
    RewardedOnce start user (c.extend ws) ∧ GuardsReferral user c (c.extend ws) := by
  have hspares : ∀ w ∈ ws, w.SparesReferrals := fun w hw => (hws w hw).1
  have hprogramme : (c.extend ws).state.programme = c.state.programme := programme_foldl hspares
  have hpending : (c.extend ws).state.pendingReferrals user = c.state.pendingReferrals user :=
    pendingReferrals_foldl c.state hspares
  have hreward : (c.extend ws).state.rewards .referralReward = c.state.rewards .referralReward :=
    (congrArg Database.Programme.reward hprogramme :)
  have hbonus : (c.extend ws).state.rewards .referralBonus = c.state.rewards .referralBonus :=
    (congrArg Database.Programme.bonus hprogramme :)
  refine ⟨⟨?_, ?_, orders_extend h fun row hrow => (hws _ hrow).2⟩, ws, rfl, fun _ => hpending⟩
  · rw [hreward, hpending]
    exact h.reward
  · rw [hbonus, hpending]
    exact h.bonus

/-- A settled payment of the user, committed while the lock on the user is held. -/
theorem RewardedOnce.settle
    (h : (rewardProtocol start order.userId).While (.user order.userId) c later)
    (hsettled : RewardSettlement ((rewardProtocol start order.userId).While (.user order.userId) c)
      [] order ws) :
    RewardedOnce start order.userId (later.extend ws) ∧
      GuardsReferral order.userId later (later.extend ws) := by
  obtain ⟨first, reward, hfirst, ⟨balance, huser⟩, hreward⟩ := hsettled
  have hinv : RewardedOnce start order.userId later := h.1
  have hspares : ∀ w ∈ first, w.SparesReferrals := fun w hw => (hfirst w hw).1
  cases hreward with
  | none =>
    rw [append_nil]
    exact hinv.extend hfirst
  | paid referral reward rows hseen hrows =>
    obtain ⟨c', hc', hpending⟩ := hseen
    rw [nil_append, pendingReferrals_foldl c'.state hspares, pendingReferrals_of_while hc',
      ← pendingReferrals_of_while h] at hpending
    have hdone : ((later.extend (first ++ (rows ++ [.updateReferral referral.id reward]))).state
        ).pendingReferrals order.userId = [] := by
      simp only [Committed.extend, foldl_append, foldl_cons, foldl_nil]
      refine pendingReferrals_rewarded ?_
      rw [← hpending, ← pendingReferrals_foldl later.state hspares]
      unfold Database.pendingReferrals
      rw [hrows.referrals]
    have hgrows : ∀ type id, type = .referralReward ∨ type = .referralBonus →
        rows.countP (records type) ≤ 1 →
        (later.extend (first ++ (rows ++ [.updateReferral referral.id reward]))).state.rewards
          type id ≤ later.state.rewards type id + 1 := by
      intro type id htype hone
      refine (rewards_foldl_le type id).trans (Nat.add_le_add_left ?_ _)
      rw [countP_append, countP_append, countP_records_eq_zero htype hspares, zero_add]
      exact hone
    refine ⟨⟨fun id => ?_, fun id => ?_, orders_extend hinv ?_⟩, _, rfl, fun huntouched => ?_⟩
    · have hbefore := hinv.reward id
      rw [hpending] at hbefore
      rw [hdone]
      exact (hgrows .referralReward id (.inl rfl) hrows.reward).trans hbefore
    · have hbefore := hinv.bonus id
      rw [hpending] at hbefore
      rw [hdone]
      exact (hgrows .referralBonus id (.inr rfl) hrows.bonus).trans hbefore
    · intro row hrow
      rcases mem_append.mp hrow with hrow | hrow
      · exact (hfirst _ hrow).2
      · rcases mem_append.mp hrow with hrow | hrow
        · rcases hrows.posted _ hrow with ⟨_, _, heq⟩ | ⟨_, heq⟩ <;> cases heq
        · cases mem_singleton.mp hrow
    · exact absurd (by simp [touches])
        (huntouched (.setBalance order.userId balance) (mem_append_left _ huser))

/-! ## The payments meet it -/

/-- Every order that the operation may pay is one of this user. -/
def Operation.PaysForUser (cfg : Settings) (user : Uuid) (db : Database) : Operation → Prop
  | .processWebhook providerName request => ∀ webhook,
      verified? cfg providerName request = some webhook →
      ∀ order ∈ db.orders.rows, order.externalId = webhook.externalId → order.userId = user
  | .confirmStarsPayment id => ∀ order ∈ db.orders.rows, order.id = id → order.userId = user
  | _ => False

/-- A payment that writes nothing to the referral programme may commit any time. -/
theorem rewards_commit (order : PaymentOrder) (hinv : RewardedOnce start user c)
    (hws : ∀ w ∈ done.writes, w.SparesReferrals ∧ w.OnlyOrder order.id) :
    (rewardProtocol start user).CommitOk done c :=
  ⟨(hinv.extend hws).1, (hinv.extend hws).2, trivial⟩

theorem rewards_fulfillOrderLocked {cfg : Settings} (hwrites : t.writes = []) :
    (rewardProtocol start order.userId).wp (fulfillOrderLocked cfg order providerName feeRub method)
      (fun _ => (rewardProtocol start order.userId).CommitOk) (fun _ _ _ => True) t c := by
  unfold fulfillOrderLocked
  split
  · intro later hlater
    exact rewards_commit order hlater.1 (by simp [hwrites])
  · split
    · exact fun _ _ => trivial
    · intro later hlater _
      generalize hreply : t.reply later (.lockUser order.userId) = found
      have hload : (loadUser order.userId (t.view later.state) t.session).1 = found := hreply
      cases found with
      | none => exact fun _ _ _ _ _ => trivial
      | some user =>
        obtain ⟨hid, -, -⟩ := loadUser_eq_some hload
        have hrow : (t.view later.state).users.find? order.userId ≠ none := fun hnone => by
          cases hload.symm.trans (loadUser_eq_none.mpr hnone)
        have hkey : RowKey.user order.userId ∈ (t.after later (.lockUser order.userId)).keys :=
          Tx.mem_keys_after.mpr (.inr (by simp [locks, Option.isSome_iff_ne_none, hrow]))
        have hwrites' : (t.after later (.lockUser order.userId)).writes = [] := by
          simp [hwrites, writes]
        have hsettle := Outcome.wp_while (P := rewardProtocol start order.userId) (c := later)
          (rewards_settlePayment cfg hid providerName feeRub method) hkey
        refine wp_mono hsettle ?_ fun _ _ _ h => h
        rintro - done final ⟨⟨ws, hreach, hsettled⟩, hwhile⟩
        have hdone : done.writes = ws := by rw [hreach.writes_eq, hwrites', nil_append]
        rw [hwrites'] at hsettled
        obtain ⟨hinv, hguar⟩ := RewardedOnce.settle hwhile hsettled
        rw [← hdone] at hinv hguar
        exact ⟨hinv, hguar, trivial⟩

theorem rewards_program {cfg : Settings} {op : Operation} (hop : op.PaysForUser cfg user start)
    {session : Session} :
    (rewardProtocol start user).wp (op.program cfg)
      (fun _ => (rewardProtocol start user).CommitOk) (fun _ _ _ => True) (Tx.start session) c := by
  cases op with
  | processWebhook providerName request =>
    change (rewardProtocol start user).wp (processWebhook cfg providerName request) _ _ _ c
    obtain ⟨error, heq⟩ | ⟨webhook, hverified, heq⟩ := processWebhook_cases cfg providerName request
    · rw [heq]
      exact fun _ _ => trivial
    · rw [heq]
      refine wp_lockOrder ?_
      intro t c row hinv hfound hwrites hkey
      have hmem : row ∈ c.state.orders.rows := mem_of_find?_eq_some hfound
      have hexternal : row.externalId = webhook.externalId := by simpa using find?_some hfound
      obtain ⟨old, hold, hterms⟩ := hinv.orders row hmem
      have same := PaymentOrder.sameTerms hterms
      have huser : row.userId = user := same.userId.symm.trans (hop webhook hverified old hold
        (same.externalId.trans hexternal))
      subst huser
      unfold acceptLocked
      split
      · exact fun _ _ => trivial
      · split
        · intro later _ _ final hfinal
          refine rewards_commit row hfinal.1 ?_
          simp [hwrites, writes, SparesReferrals, OnlyOrder]
        · exact rewards_fulfillOrderLocked hwrites
  | confirmStarsPayment id =>
    refine wp_lockOrder ?_
    intro t c row hinv hfound hwrites hkey
    have hid : row.id = id := key_of_find? hfound
    obtain ⟨old, hold, hterms⟩ := hinv.orders row (mem_of_find? hfound)
    have same := PaymentOrder.sameTerms hterms
    have huser : row.userId = user := same.userId.symm.trans (hop old hold (same.id.trans hid))
    subst huser
    unfold confirmLocked
    split
    · exact fun _ _ => trivial
    · exact rewards_fulfillOrderLocked hwrites
  | _ => cases hop

/-! ## Every run -/

theorem length_pendingReferrals_le {referral : Referral}
    (hunique : ∀ other ∈ db.referrals.rows, other.referredUserId = referral.referredUserId →
      other.id = referral.id) :
    (db.pendingReferrals referral.referredUserId).length ≤ 1 := by
  have hnodup : (db.pendingReferrals referral.referredUserId).Nodup :=
    (Nodup.of_map _ db.referrals.nodup).filter _
  rcases hrows : db.pendingReferrals referral.referredUserId with _ | ⟨row, rest⟩
  · simp
  · have hfound : ∀ other ∈ row :: rest, db.referrals.find? referral.id = some other := by
      intro other hother
      rw [← hrows] at hother
      obtain ⟨hmem, hkind⟩ := mem_filter.mp hother
      rw [← hunique other hmem (of_decide_eq_true hkind).1]
      exact Table.find?_of_mem hmem
    have hall : ∀ other ∈ row :: rest, other = row := fun other hother =>
      Option.some.inj ((hfound other hother).symm.trans (hfound row (by simp)))
    rw [hrows, eq_replicate_of_mem hall, nodup_replicate] at hnodup
    exact hnodup

/-- **A referral is rewarded at most once.** However many orders of a referred user are paid,
and in whatever way the payments are interleaved, repeated or aborted: the referrer gets at
most one reward and the referred user at most one bonus. -/
theorem rewarded_at_most_once {ι : Type} [Fintype ι] [DecidableEq ι] (cfg : Settings)
    (db : Database) (referral : Referral)
    (hunique : ∀ other ∈ db.referrals.rows, other.referredUserId = referral.referredUserId →
      other.id = referral.id)
    (ops : ι → Operation) (hops : ∀ i, (ops i).PaysForUser cfg referral.referredUserId db)
    (sessions : ι → Session) {later : System engine BillingError ι}
    (hrun : System.Runs (fun _ _ _ => True)
      (System.start ⟨db, []⟩ (fun i => (ops i).program cfg) sessions) later) :
    later.db.state.rewards .referralReward referral.referrerUserId ≤
        db.rewards .referralReward referral.referrerUserId + 1 ∧
      later.db.state.rewards .referralBonus referral.referredUserId ≤
        db.rewards .referralBonus referral.referredUserId + 1 := by
  have hstart : RewardedOnce db referral.referredUserId ⟨db, []⟩ :=
    ⟨fun _ => le_refl _, fun _ => le_refl _, fun row hrow => ⟨row, hrow, rfl⟩⟩
  have hsound : (rewardProtocol db referral.referredUserId).Sound
      (System.start ⟨db, []⟩ (fun i => (ops i).program cfg) sessions) :=
    sound_start hstart fun i => rewards_program (hops i)
  have honce : RewardedOnce db referral.referredUserId later.db := (hsound.runs hrun).1.inv
  have hone := length_pendingReferrals_le hunique
  have hreward := honce.reward referral.referrerUserId
  have hbonus := honce.bonus referral.referredUserId
  exact ⟨by omega, by omega⟩

end

namespace Scenario

/-- Another order of user 1. -/
def otherStarsOrder : PaymentOrder := { starsOrder with id := 6, externalId := "stars_5" }

/-- Both orders of user 1 are paid at once. -/
def bothPaid : System engine BillingError Bool :=
  System.start ⟨withOrder (withOrder (invited 0).state starsOrder) otherStarsOrder, []⟩
    (fun i => (Operation.confirmStarsPayment (if i then 5 else 6)).program generous)
    fun i => session (if i then 40 else 60)

end Scenario

open Scenario in
/-- The second payment has locked its order, waits for the user, and finds the referral
rewarded. -/
theorem rewarded_at_most_once_bothPaid : ∃ later, System.Runs (fun _ _ _ => True) bothPaid later ∧
      (∀ i, (later.committed? i).isSome) ∧
      later.db.state.rewards .referralReward 2 = 1 ∧
      later.db.state.rewards .referralReward 2 ≤ 0 + 1 ∧
      later.db.state.rewards .referralBonus 1 ≤ 0 + 1 := by
  have hunique : ∀ other ∈ (withOrder (withOrder (invited 0).state starsOrder)
      otherStarsOrder).referrals.rows, other.referredUserId = 1 → other.id = 30 := by
    decide +kernel
  have hpays : ∀ i : Bool, (Operation.confirmStarsPayment (if i then 5 else 6)).PaysForUser
      generous 1 (withOrder (withOrder (invited 0).state starsOrder) otherStarsOrder) := by
    intro i order horder _
    have hone : ∀ order ∈ (withOrder (withOrder (invited 0).state starsOrder)
        otherStarsOrder).orders.rows, order.userId = 1 := by decide +kernel
    exact hone order horder
  obtain ⟨later, hrun, hdone⟩ := System.exists_run_of_replay (fun _ _ _ => True) bothPaid
    (.step false :: (List.replicate 34 (.step true) ++ List.replicate 21 (.step false)))
    (fun later => decide ((∀ i, (later.committed? i).isSome) ∧
      later.db.state.rewards .referralReward 2 = 1)) (by decide +kernel)
  obtain ⟨hcommitted, hrewarded⟩ := of_decide_eq_true hdone
  exact ⟨later, hrun, hcommitted, hrewarded,
    rewarded_at_most_once generous _ invitation hunique _ hpays _ hrun⟩

end VpnControl.Billing

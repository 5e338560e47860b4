/-
# The referral rule

A referral is pending until it is rewarded. What was rewarded and what is still pending
add up to the same for every user, so that each referral is rewarded at most once. A
payment from a gateway or with Stars rewards the referral of its user exactly when it
completes a plan order that is the only order of the user that counts. Orders that are
free and top-ups do not count; device slots do.
-/

import VpnControl.Billing.Quantities

namespace VpnControl.Billing

open Txn List Option Database
open Table

section

variable {cfg : Settings} {c : Committed engine} {world : World} {s s' : Store}
  {db db' : Database} {order : PaymentOrder} {data : OrderCreateIn} {referral : Referral}
  {providerName : String} {db : Database} {id : Uuid} {w : Write}

/-! ## Rewards in the ledger -/

/-- How many rows of a type the ledger has for a user. -/
def Database.rewards (db : Database) (type : TransactionType) (user : Uuid) : ℕ :=
  db.transactions.countP fun row => row.type = type ∧ row.userId = user

theorem rewards_insertTransaction :
    (db.apply (.insertTransaction row)).rewards type user = db.rewards type user +
      if row.type = type ∧ row.userId = user then 1 else 0 := by
  simp only [rewards, apply, countP_append]
  by_cases h : row.type = type ∧ row.userId = user <;> simp [h]

/-- What the referral programme reads and writes: the referrals, the rewards in the ledger
and who has an account. -/
structure Database.Programme where
  referrals : Table Referral
  reward : Uuid → ℕ
  bonus : Uuid → ℕ
  account : Uuid → Bool

def Database.programme (db : Database) : Database.Programme where
  referrals := db.referrals
  reward := db.rewards .referralReward
  bonus := db.rewards .referralBonus
  account user := (db.users.find? user).isSome

/-- A write that has nothing to do with the referral programme. -/
def Write.SparesReferrals : Write → Prop
  | .insertTransaction row => row.type ≠ .referralReward ∧ row.type ≠ .referralBonus
  | .updateReferral _ _ => False
  | _ => True

theorem account_setBalance :
    ((db.apply (.setBalance user balance)).users.find? id).isSome = (db.users.find? id).isSome := by
  by_cases hid : id = user
  · subst hid
    simp only [apply, Table.find?_modify_self, isSome_map]
  · simp only [apply, Table.find?_modify_of_ne _ _ hid]

theorem programme_of_sparesReferrals (db : Database) (h : w.SparesReferrals) :
    (db.apply w).programme = db.programme := by
  cases w with
  | setBalance user balance =>
    unfold programme
    congr 1
    funext id
    exact account_setBalance
  | insertTransaction =>
    unfold programme
    congr 1
    · funext user
      rw [rewards_insertTransaction, if_neg fun hrow => h.1 hrow.1, Nat.add_zero]
    · funext user
      rw [rewards_insertTransaction, if_neg fun hrow => h.2 hrow.1, Nat.add_zero]
  | updateReferral => cases h
  | _ => rfl

theorem fulfilling_sparesReferrals (id : Uuid) : Fulfilling Write.SparesReferrals id where
  balance _ _ := trivial
  posting row htype := by
    constructor <;> intro hrow <;> simp [hrow] at htype
  newSubscription _ := trivial
  subscription _ _ := trivial
  order _ := trivial
  activation _ := trivial
  activationCount _ := trivial

/-- What a rewarded referral stores. -/
def ReferralConfig.reward (cfg : ReferralConfig) (now : Time) : ReferralReward where
  rewardAmount := cfg.rewardRub
  referredRewardAmount := cfg.referredRewardRub
  rewardedAt := now

namespace Database.Programme

/-- A user with an account gets a reward or a bonus. -/
def post (p : Programme) (type : TransactionType) (user : Uuid) : Programme :=
  { p with
    reward := fun id => p.reward id +
      if type = .referralReward ∧ id = user ∧ p.account id then 1 else 0
    bonus := fun id => p.bonus id +
      if type = .referralBonus ∧ id = user ∧ p.account id then 1 else 0 }

def pay (p : Programme) (cfg : ReferralConfig) (referral : Referral) (now : Time) : Programme where
  referrals := p.referrals.modify referral.id (cfg.reward now).set fun _ => rfl
  reward id := p.reward id +
    if 0 < cfg.rewardRub ∧ id = referral.referrerUserId ∧ p.account id then 1 else 0
  bonus id := p.bonus id +
    if 0 < cfg.referredRewardRub ∧ id = referral.referredUserId ∧ p.account id then 1 else 0
  account := p.account

end Database.Programme

/-! ## The reward -/

theorem programme_posting (haccount : db.programme.account row.userId = true) :
    ((db.apply (.setBalance row.userId balance)).apply (.insertTransaction row)).programme =
      db.programme.post row.type row.userId := by
  have hcount : ∀ (type : TransactionType) (id : Uuid),
      ((db.apply (.setBalance row.userId balance)).apply (.insertTransaction row)).rewards type id =
        db.rewards type id +
          if row.type = type ∧ id = row.userId ∧ db.programme.account id = true then 1 else 0 := by
    intro type id
    refine rewards_insertTransaction.trans (congrArg (db.rewards type id + ·) (if_congr ?_ rfl rfl))
    constructor
    · rintro ⟨htype, rfl⟩
      exact ⟨htype, rfl, haccount⟩
    · rintro ⟨htype, rfl, -⟩
      exact ⟨htype, rfl⟩
  unfold programme Programme.post
  congr 1
  · funext id
    exact hcount .referralReward id
  · funext id
    exact hcount .referralBonus id
  · funext id
    exact account_setBalance

theorem programme_creditUser (type : TransactionType) :
    (direct world (creditUser user amount type description) s).1 = .ok () ∧
      (direct world (creditUser user amount type description) s).2.db.programme =
        s.db.programme.post type user := by
  unfold creditUser
  rw [direct_lockUser_bind]
  cases hfound : s.db.users.find? user with
  | none =>
    refine ⟨rfl, ?_⟩
    have hnone : ∀ id, ¬ (id = user ∧ s.db.programme.account id = true) := by
      rintro id ⟨rfl, haccount⟩
      simp [programme, hfound] at haccount
    simp [Programme.post, hnone]
  | some holder =>
    refine ⟨rfl, ?_⟩
    have haccount : s.db.programme.account user = true := by simp [programme, hfound]
    exact programme_posting haccount

/-- What makes a fulfilled order eligible for the reward of a referral. -/
structure Eligible (cfg : Settings) (db : Database) (order : PaymentOrder) (providerName : String)
    (referral : Referral) : Prop where
  enabled : cfg.referral.enabled = true
  orderType : order.orderType ∈ [.planPurchase, .subscriptionRenewal]
  provider : providerName ≠ "free"
  pending : db.pendingReferrals order.userId = [referral]
  first : (db.rewardableOrders order.userId).length ≤ 1

theorem programme_rewardReferrer {cfg : ReferralConfig} :
    (direct world (rewardReferrer cfg referral) s).1 = .ok () ∧
      (direct world (rewardReferrer cfg referral) s).2.db.programme =
        if 0 < cfg.rewardRub then s.db.programme.post .referralReward referral.referrerUserId
        else s.db.programme := by
  unfold rewardReferrer
  split
  · obtain ⟨hok, hprogramme⟩ := programme_creditUser .referralReward
    rw [direct_bind]
    cases hcredit : direct world (creditUser referral.referrerUserId cfg.rewardRub .referralReward
        "Referral reward for inviting user") s with
    | mk result mid =>
      rw [hcredit] at hok hprogramme
      obtain rfl : result = .ok () := hok
      exact ⟨rfl, hprogramme⟩
  · exact ⟨rfl, rfl⟩

theorem programme_rewardReferred {cfg : ReferralConfig} :
    (direct world (rewardReferred cfg referral) s).1 = .ok () ∧
      (direct world (rewardReferred cfg referral) s).2.db.programme =
        if 0 < cfg.referredRewardRub then s.db.programme.post .referralBonus referral.referredUserId
        else s.db.programme := by
  unfold rewardReferred
  split
  · exact programme_creditUser .referralBonus
  · exact ⟨rfl, rfl⟩

/-- The referral programme of an order that is not eligible leaves everything as it is. -/
theorem direct_rewardReferral_of_not_eligible (world : World)
    (h : ∀ referral, ¬ Eligible cfg s.db order providerName referral) :
    direct world (rewardReferral cfg order providerName) s = (.ok (), s) := by
  unfold rewardReferral
  split
  · rename_i horder
    have hskip : (direct world (processRewardIfEligible cfg.referral order.userId) s).2 = s := by
      unfold processRewardIfEligible
      split
      · rfl
      · rename_i henabled
        rw [direct_select_bind]
        rcases hpending : s.db.pendingReferrals order.userId with _ | ⟨referral, _ | ⟨other, rest⟩⟩
        · rfl
        · have hmany : 1 < (s.db.rewardableOrders order.userId).length := not_le.mp fun hfirst =>
            h referral ⟨by simpa using henabled, horder.1, horder.2, hpending, hfirst⟩
          simp [scalarOneOrNone, direct_bind, hmany]
        · rfl
    rw [direct_tryCatch]
    cases hrun : direct world (processRewardIfEligible cfg.referral order.userId) s with
    | mk result mid =>
      rw [hrun] at hskip
      obtain rfl : mid = s := hskip
      cases result <;> rfl
  · rfl

theorem programme_rewardReferral (world : World)
    (h : Eligible cfg s.db order providerName referral) :
    (direct world (rewardReferral cfg order providerName) s).2.db.programme =
      s.db.programme.pay cfg.referral referral world.now := by
  have hfirst : ¬ 1 < (s.db.rewardableOrders order.userId).length := not_lt.mpr h.first
  obtain ⟨hok, hreferrer⟩ := programme_rewardReferrer
  cases hpaid : direct world (rewardReferrer cfg.referral referral) s with
  | mk result mid =>
    rw [hpaid] at hok hreferrer
    obtain rfl : result = .ok () := hok
    obtain ⟨hok, hreferred⟩ := programme_rewardReferred
    cases hpaid' : direct world (rewardReferred cfg.referral referral) mid with
    | mk result done =>
      rw [hpaid'] at hok hreferred
      obtain rfl : result = .ok () := hok
      have hrun : direct world (rewardReferral cfg order providerName) s = (.ok (), { done with
            db := done.db.apply
              (.updateReferral referral.id (cfg.referral.reward world.now)) }) := by
        unfold rewardReferral processRewardIfEligible
        rw [if_pos ⟨h.orderType, h.provider⟩, direct_tryCatch, if_neg (by simp [h.enabled]),
          direct_select_bind, h.pending]
        simp [scalarOneOrNone, direct_bind, hfirst, hpaid, hpaid', ReferralConfig.reward]
      have hupdate : ∀ reward : ReferralReward,
          (done.db.apply (.updateReferral referral.id reward)).programme =
            { done.db.programme with
              referrals := done.db.programme.referrals.modify referral.id reward.set
                fun _ => rfl } := fun _ => rfl
      rw [hrun, hupdate, hreferred, hreferrer]
      by_cases hreward : 0 < cfg.referral.rewardRub <;>
        by_cases hbonus : 0 < cfg.referral.referredRewardRub <;>
          simp [Programme.pay, Programme.post, hreward, hbonus]

/-! ## Rewards are limited by referrals -/

/-- The rewards that a referrer has got or may still get. -/
def Database.rewardsDue (db : Database) (user : Uuid) : ℕ :=
  db.rewards .referralReward user + db.referrals.rows.countP fun referral =>
    referral.referrerUserId = user ∧ referral.status = .pending

/-- The bonuses that a referred user has got or may still get. -/
def Database.bonusesDue (db : Database) (user : Uuid) : ℕ :=
  db.rewards .referralBonus user + (db.pendingReferrals user).length

/-- Nobody is promised more than before. -/
def KeepsPromises (db db' : Database) : Prop :=
  ∀ user, db'.rewardsDue user ≤ db.rewardsDue user ∧ db'.bonusesDue user ≤ db.bonusesDue user

theorem keepsPromises_of_programme (h : db'.programme = db.programme) : KeepsPromises db db' := by
  intro user
  have hreferrals : db'.referrals = db.referrals := (congrArg Programme.referrals h :)
  have hreward : db'.rewards .referralReward user = db.rewards .referralReward user :=
    congrFun (congrArg Programme.reward h :) user
  have hbonus : db'.rewards .referralBonus user = db.rewards .referralBonus user :=
    congrFun (congrArg Programme.bonus h :) user
  constructor
  · simp only [rewardsDue, hreferrals, hreward, le_refl]
  · simp only [bonusesDue, pendingReferrals, hreferrals, hbonus, le_refl]

theorem KeepsPromises.trans (h : KeepsPromises db db')
    (h' : KeepsPromises db' db'') : KeepsPromises db db'' := fun user =>
  ⟨(h' user).1.trans (h user).1, (h' user).2.trans (h user).2⟩

section

variable (hfound : db.referrals.find? referral.id = some referral)
    (hpending : referral.status = .pending)

include hfound hpending

/-- A reward takes as much from the pending referrals as it adds to the ledger. -/
theorem due_of_pay {who : Referral → Uuid} [Decidable p] :
    n + (if p ∧ user = who referral ∧ db.programme.account user = true then 1 else 0) +
        (db.programme.pay cfg.referral referral now).referrals.rows.countP
          (fun row => who row = user ∧ row.status = .pending) ≤
      n + db.referrals.rows.countP fun row => who row = user ∧ row.status = .pending := by
  have hcount := countP_modify (cfg.referral.reward now).set (fun _ => rfl) hfound
    fun row => who row = user ∧ row.status = .pending
  have hrewarded : ((cfg.referral.reward now).set referral).status = .rewarded := rfl
  simp only [hpending, hrewarded, and_true, decide_eq_true_eq, reduceCtorEq, and_false, if_false,
    Nat.add_zero] at hcount
  have hrows : (db.programme.pay cfg.referral referral now).referrals =
      db.referrals.modify referral.id (cfg.referral.reward now).set fun _ => rfl := rfl
  rw [hrows]
  by_cases huser : who referral = user
  · rw [if_pos huser] at hcount
    split <;> omega
  · rw [if_neg huser] at hcount
    rw [if_neg fun hall => huser hall.2.1.symm]
    omega

theorem keepsPromises_of_pay
    (h : db'.programme = db.programme.pay cfg.referral referral now) : KeepsPromises db db' := by
  intro user
  have hreferrals : db'.referrals = (db.programme.pay cfg.referral referral now).referrals :=
    (congrArg Programme.referrals h :)
  have hreward : db'.rewards .referralReward user = _ :=
    congrFun (congrArg Programme.reward h :) user
  have hbonus : db'.rewards .referralBonus user = _ := congrFun (congrArg Programme.bonus h :) user
  constructor
  · unfold rewardsDue
    rw [hreward, hreferrals]
    exact due_of_pay hfound hpending
  · simp only [bonusesDue, pendingReferrals, ← countP_eq_length_filter]
    rw [hbonus, hreferrals]
    exact due_of_pay hfound hpending

end

/-! ## A settled payment -/

/-- A write that is about no other order. -/
def Write.OnlyOrder (order : Uuid) : Write → Prop
  | .insertOrder _ => False
  | .updateOrder id _ => id = order
  | _ => True

/-- The other orders, and the terms of this one. -/
def Database.aroundOrder (db : Database) (order : Uuid) :
    ({id : Uuid // id ≠ order} → Option PaymentOrder) × Option PaymentOrder :=
  (fun id => db.orders.find? id, (db.orders.find? order).map PaymentOrder.terms)

theorem aroundOrder_of_onlyOrder (h : w.OnlyOrder id) :
    (db.apply w).aroundOrder id = db.aroundOrder id := by
  cases w with
  | updateOrder order patch =>
    obtain rfl : order = id := h
    refine Prod.ext (funext fun other => ?_) ?_
    · exact Table.find?_modify_of_ne patch.set (fun _ => rfl) other.2
    · simp only [aroundOrder, find?_updateOrder_self, Option.map_map]
      rfl
  | insertOrder => cases h
  | _ => rfl

/-- When the referral programme takes over, the order is completed on its terms, and the
other orders and the programme are as before. -/
theorem Settled.rewarding (h : Settled cfg world order providerName s s')
    (hfound : s.db.orders.find? order.id = some order) :
    ∃ done : Store, direct world (rewardReferral cfg order providerName) done = (.ok (), s') ∧
      done.db.programme = s.db.programme ∧
      (∀ id, id ≠ order.id → done.db.orders.find? id = s.db.orders.find? id) ∧
      ∃ row, done.db.orders.find? order.id = some row ∧ row.status = .completed ∧
        row.terms = order.terms := by
  obtain ⟨delivered, hsame, hreward⟩ := h.unchanged
    (fun db => (db.programme, db.aroundOrder order.id))
    (W := fun w => w.SparesReferrals ∧ w.OnlyOrder order.id)
    (fun w db hw => Prod.ext (programme_of_sparesReferrals db hw.1) (aroundOrder_of_onlyOrder hw.2))
    { balance := fun _ _ => ⟨trivial, trivial⟩
      posting := fun row htype => ⟨(fulfilling_sparesReferrals order.id).posting row htype, trivial⟩
      newSubscription := fun _ => ⟨trivial, trivial⟩, subscription := fun _ _ => ⟨trivial, trivial⟩
      order := fun _ => ⟨trivial, rfl⟩, activation := fun _ => ⟨trivial, trivial⟩
      activationCount := fun _ => ⟨trivial, trivial⟩ }
  obtain ⟨hprogramme, haround⟩ := Prod.mk.inj hsame
  obtain ⟨hothers, hown⟩ := Prod.mk.inj haround
  refine ⟨_, hreward, hprogramme, fun id hid => congrFun hothers ⟨id, hid⟩, ?_⟩
  rw [hfound, map_some] at hown
  obtain ⟨row, hrow, hterms⟩ := map_eq_some_iff.mp hown
  refine ⟨row, hrow, ?_, hterms⟩
  unfold completed at hrow
  rw [find?_updateOrder_self] at hrow
  obtain ⟨old, -, rfl⟩ := map_eq_some_iff.mp hrow
  rfl

/-! ## The rule -/

/-- The referral was rewarded: it is marked, and both sides have got a row in the ledger. -/
structure Rewarded (referral : Referral) (db db' : Database) : Prop where
  status : ∃ row, db'.referrals.find? referral.id = some row ∧ row.status = .rewarded
  referrer : db'.rewards .referralReward referral.referrerUserId =
    db.rewards .referralReward referral.referrerUserId + 1
  referred : db'.rewards .referralBonus referral.referredUserId =
    db.rewards .referralBonus referral.referredUserId + 1

/-- The referral is as before, and neither side has got anything. -/
structure Unrewarded (referral : Referral) (db db' : Database) : Prop where
  row : db'.referrals.find? referral.id = db.referrals.find? referral.id
  referrer : db'.rewards .referralReward referral.referrerUserId =
    db.rewards .referralReward referral.referrerUserId
  referred : db'.rewards .referralBonus referral.referredUserId =
    db.rewards .referralBonus referral.referredUserId

/-- The referral is in the tables, it is the only one of the referred user, and both sides
have an account. -/
structure Registered (referral : Referral) (db : Database) : Prop where
  row : ∃ row, db.referrals.find? referral.id = some row ∧
    row.referrerUserId = referral.referrerUserId ∧ row.referredUserId = referral.referredUserId
  unique : ∀ other ∈ db.referrals.rows, other.referredUserId = referral.referredUserId →
    other.id = referral.id
  referrer : (db.users.find? referral.referrerUserId).isSome
  referred : (db.users.find? referral.referredUserId).isSome

theorem unrewarded_of_programme (h : db'.programme = db.programme) :
    Unrewarded referral db db' where
  row := congrArg (Table.find? · referral.id) (congrArg Programme.referrals h :)
  referrer := congrFun (congrArg Programme.reward h :) referral.referrerUserId
  referred := congrFun (congrArg Programme.bonus h :) referral.referredUserId

theorem Registered.apply (h : Registered referral db) (w : Write) :
    Registered referral (db.apply w) := by
  cases w with
  | setBalance =>
    refine ⟨h.row, h.unique, ?_, ?_⟩
    · rw [account_setBalance]
      exact h.referrer
    · rw [account_setBalance]
      exact h.referred
  | updateReferral id reward =>
    obtain ⟨row, hrow, hreferrer, hreferred⟩ := h.row
    refine ⟨?_, ?_, h.referrer, h.referred⟩
    · by_cases hid : referral.id = id
      · subst hid
        refine ⟨reward.set row, ?_, hreferrer, hreferred⟩
        exact (Table.find?_modify_self reward.set fun _ => rfl).trans (by rw [hrow]; rfl)
      · refine ⟨row, ?_, hreferrer, hreferred⟩
        exact (Table.find?_modify_of_ne reward.set (fun _ => rfl) hid).trans hrow
    · intro other hother huser
      have hchanged : other ∈ (db.referrals.modify id reward.set fun _ => rfl).rows := hother
      rcases mem_rows_modify hchanged with hold | ⟨old, hold, -, rfl⟩
      · exact h.unique other hold huser
      · exact h.unique old hold huser
  | _ => exact ⟨h.row, h.unique, h.referrer, h.referred⟩

section

variable {row : Referral} (h : Registered referral db)
    (hrow : db.referrals.find? referral.id = some row)

include h hrow

theorem Registered.pendingReferrals (hpending : row.status = .pending) :
    db.pendingReferrals referral.referredUserId = [row] := by
  obtain ⟨row', hrow', -, huser⟩ := h.row
  obtain rfl : row = row' := mem_unique hrow hrow'
  have hmem : row ∈ db.pendingReferrals referral.referredUserId :=
    mem_filter.mpr ⟨mem_of_find? hrow, by simp [huser, hpending]⟩
  have hall : ∀ other ∈ db.pendingReferrals referral.referredUserId, other = row := by
    intro other hother
    obtain ⟨hother, hkind⟩ := mem_filter.mp hother
    have hid := h.unique other hother (of_decide_eq_true hkind).1
    have hfound : db.referrals.find? other.id = some other := Table.find?_of_mem hother
    rw [hid, hrow] at hfound
    exact (some.inj hfound).symm
  have hnodup : (db.pendingReferrals referral.referredUserId).Nodup :=
    (Nodup.of_map _ db.referrals.nodup).filter _
  rw [eq_replicate_of_mem hall] at hnodup hmem ⊢
  rw [nodup_replicate] at hnodup
  have hpos : (db.pendingReferrals referral.referredUserId).length ≠ 0 := (mem_replicate.mp hmem).1
  rw [le_antisymm hnodup (Nat.one_le_iff_ne_zero.mpr hpos)]
  rfl

theorem Registered.rewarded (hreward : 0 < cfg.referral.rewardRub)
    (hbonus : 0 < cfg.referral.referredRewardRub)
    (hpaid : db'.programme = db.programme.pay cfg.referral row now) : Rewarded referral db db' := by
  obtain ⟨row', hrow', hreferrer, hreferred⟩ := h.row
  obtain rfl : row = row' := mem_unique hrow hrow'
  have hid : row.id = referral.id := key_of_find? hrow
  refine ⟨⟨(cfg.referral.reward now).set row, ?_, rfl⟩, ?_, ?_⟩
  · have hreferrals : db'.referrals =
        db.referrals.modify row.id (cfg.referral.reward now).set fun _ => rfl :=
      (congrArg Programme.referrals hpaid :)
    rw [hreferrals, ← hid]
    refine (Table.find?_modify_self _ _).trans ?_
    rw [hid, hrow]
    rfl
  · refine (congrFun (congrArg Programme.reward hpaid :) _).trans ?_
    exact congrArg (db.rewards .referralReward referral.referrerUserId + ·)
      (if_pos ⟨hreward, hreferrer.symm, h.referrer⟩)
  · refine (congrFun (congrArg Programme.bonus hpaid :) _).trans ?_
    exact congrArg (db.rewards .referralBonus referral.referredUserId + ·)
      (if_pos ⟨hbonus, hreferred.symm, h.referred⟩)

end

def Completes (order : PaymentOrder) (db' : Database) : Prop :=
  ∃ row, db'.orders.find? order.id = some row ∧ row.status = .completed

/-- The rule for a payment of a pending order of the referred user, while the referral is
pending: it is rewarded exactly when the order is a plan order that completes, and the user
has no other order that counts. -/
def RewardRule (cfg : Settings) (referral : Referral) (db : Database) (op : Operation)
    (db' : Database) : Prop :=
  ∀ order providerName row, Pays cfg db op order providerName → order.status = .pending →
    order.provider ≠ .free → order.userId = referral.referredUserId →
    db.referrals.find? referral.id = some row → row.status = .pending →
    (Completes order db' ∧ order.orderType ∈ [.planPurchase, .subscriptionRenewal] ∧
        db.rewardableOrders referral.referredUserId = [] → Rewarded referral db db') ∧
      (¬ (Completes order db' ∧ order.orderType ∈ [.planPurchase, .subscriptionRenewal] ∧
        db.rewardableOrders referral.referredUserId = []) → Unrewarded referral db db')

theorem Pays.provider_ne (h : Pays cfg db op order providerName) : providerName ≠ "free" := by
  cases h with
  | webhook _ _ _ _ hverified =>
    rintro rfl
    simp [verified?, getProvider] at hverified
  | stars => decide

/-- The completed order is the only one that counts exactly when there was none. -/
theorem rewardableOrders_of_completed
    (hfound : db.orders.find? order.id = some order) (hpending : order.status = .pending)
    (hprovider : order.provider ≠ .free)
    (htype : order.orderType ∈ [.planPurchase, .subscriptionRenewal])
    (hothers : ∀ id, id ≠ order.id → db'.orders.find? id = db.orders.find? id)
    (hrow : db'.orders.find? order.id = some row) (hstatus : row.status = .completed)
    (hterms : row.terms = order.terms) :
    (db'.rewardableOrders order.userId).length ≤ 1 ↔ db.rewardableOrders order.userId = [] := by
  obtain ⟨-, huser, -, hprovider', -, htype', -⟩ := PaymentOrder.sameTerms hterms
  refine length_filter_le_one_iff hothers hfound hrow ?_ ?_
  · simp [hpending]
  · have hplan : order.orderType ≠ .topUp := by
      intro htopUp
      simp [htopUp] at htype
    simp [huser, hprovider', htype', hstatus, hprovider, hplan]

/-! ## Operations -/

variable {op : Operation} {providerName : String}

/-- A step that completes no paid order and leaves the programme alone. -/
theorem rewardRule_of_unfinished
    (h : ∀ order providerName, Pays cfg db op order providerName → order.status = .pending →
      ¬ Completes order db') (hprogramme : db'.programme = db.programme) :
    RewardRule cfg referral db op db' := by
  intro order providerName row hpays hpending _ _ _ _
  refine ⟨fun hall => absurd hall.1 (h order providerName hpays hpending), fun _ => ?_⟩
  exact unrewarded_of_programme hprogramme

theorem rewardRule_of_settled (henabled : cfg.referral.enabled = true)
    (hreward : 0 < cfg.referral.rewardRub) (hbonus : 0 < cfg.referral.referredRewardRub)
    (hregistered : Registered referral s.db) (hpays : Pays cfg s.db op order providerName)
    (hsettled : Settled cfg world order providerName s s') :
    RewardRule cfg referral s.db op s'.db := by
  intro order' providerName' row hpays' hpending hprovider huser hrow hwaiting
  obtain rfl : order = order' := hpays.unique hpays'
  obtain ⟨done, hrun, hprogramme, hothers, last, hlast, hstatus, hterms⟩ :=
    hsettled.rewarding hpays.find?
  have hcompletes : Completes order s'.db := by
    refine ⟨last, ?_, hstatus⟩
    rw [← hlast]
    exact congrArg (Table.find? · order.id) (direct_unchanged orders
      (fun w _ hw => by cases w <;> first | rfl | cases hw) (reward_rewardReferral cfg) hrun)
  have hreferrals : done.db.referrals = s.db.referrals :=
    (congrArg Programme.referrals hprogramme :)
  have hquery : done.db.pendingReferrals order.userId = [row] := by
    rw [huser, ← hregistered.pendingReferrals hrow hwaiting]
    unfold pendingReferrals
    rw [hreferrals]
  constructor
  · rintro ⟨-, htype, hnone⟩
    have hfirst := (rewardableOrders_of_completed hpays.find? hpending hprovider htype hothers hlast
      hstatus hterms).mpr (huser ▸ hnone)
    have hpaid := programme_rewardReferral world
      (⟨henabled, htype, hpays.provider_ne, hquery, hfirst⟩ :
        Eligible cfg done.db order providerName row)
    rw [hrun, hprogramme] at hpaid
    exact hregistered.rewarded hrow hreward hbonus hpaid
  · intro hnot
    have hskip : direct world (rewardReferral cfg order providerName) done = (.ok (), done) := by
      refine direct_rewardReferral_of_not_eligible world fun other heligible => hnot ?_
      refine ⟨hcompletes, heligible.orderType, ?_⟩
      rw [← huser]
      exact (rewardableOrders_of_completed hpays.find? hpending hprovider heligible.orderType hothers
        hlast hstatus hterms).mp heligible.first
    rw [hrun] at hskip
    obtain rfl : s' = done := (Prod.mk.inj hskip).2
    exact unrewarded_of_programme hprogramme

theorem keepsPromises_of_settled (hpays : Pays cfg s.db op order providerName)
    (hsettled : Settled cfg world order providerName s s') : KeepsPromises s.db s'.db := by
  obtain ⟨done, hrun, hprogramme, -⟩ := hsettled.rewarding hpays.find?
  refine (keepsPromises_of_programme hprogramme).trans ?_
  by_cases heligible : ∃ row, Eligible cfg done.db order providerName row
  · obtain ⟨row, heligible⟩ := heligible
    have hmem : row ∈ done.db.pendingReferrals order.userId := by simp [heligible.pending]
    obtain ⟨hmem, hkind⟩ := mem_filter.mp hmem
    have hpaid := programme_rewardReferral world heligible
    rw [hrun] at hpaid
    exact keepsPromises_of_pay (Table.find?_of_mem hmem) (of_decide_eq_true hkind).2 hpaid
  · have hskip := direct_rewardReferral_of_not_eligible world (not_exists.mp heligible)
    rw [hrun] at hskip
    obtain rfl : s' = done := (Prod.mk.inj hskip).2
    exact keepsPromises_of_programme rfl

theorem Operation.keepsPromises (hop : op.IsOrdering) :
    KeepsPromises c.state (op.run cfg world c).2.state := by
  obtain ⟨s', hstate, hstep | ⟨data, order, rfl, hplacing⟩⟩ := hop.step cfg world c <;> rw [hstate]
  · cases hstep with
    | nothing => exact keepsPromises_of_programme rfl
    | noted => exact keepsPromises_of_programme rfl
    | settled _ _ _ hpays _ hsettled => exact keepsPromises_of_settled hpays hsettled
  · exact keepsPromises_of_programme (hplacing.unchanged programme
      (fun w db => programme_of_sparesReferrals db) (fun _ => trivial) fulfilling_sparesReferrals)

/-- **The rule holds for every order and every payment.** -/
theorem Operation.rewardRule (hop : op.IsOrdering) (henabled : cfg.referral.enabled = true)
    (hreward : 0 < cfg.referral.rewardRub) (hbonus : 0 < cfg.referral.referredRewardRub)
    (hregistered : Registered referral c.state) :
    RewardRule cfg referral c.state op (op.run cfg world c).2.state := by
  have hwaiting : ∀ order providerName, Pays cfg c.state op order providerName →
      order.status = .pending → ¬ Completes order c.state := by
    rintro order providerName hpays hpending ⟨row, hrow, hstatus⟩
    obtain rfl : order = row := some.inj (hpays.find?.symm.trans hrow)
    simp [hpending] at hstatus
  obtain ⟨s', hstate, hstep | ⟨data, placed, rfl, -⟩⟩ := hop.step cfg world c
  · rw [hstate]
    cases hstep with
    | nothing => exact rewardRule_of_unfinished hwaiting rfl
    | noted id status hstatus =>
      refine rewardRule_of_unfinished ?_ rfl
      rintro order providerName hpays hpending ⟨row, hrow, hcompleted⟩
      by_cases hid : order.id = id
      · subst hid
        rw [find?_updateOrder_self, show (storeOf c).db.orders.find? order.id = some order from
          hpays.find?] at hrow
        obtain rfl := some.inj hrow
        rcases hstatus with rfl | rfl <;> simp [OrderInternalUpdate.set, hpending] at hcompleted
      · have hsame : SameRow (.order order.id) c.state
            (c.state.apply (.updateOrder id { status := status })) :=
          apply_frame c.state (by simp [Write.touches, hid])
        exact hwaiting order providerName hpays hpending ⟨row, hsame.trans hrow, hcompleted⟩
    | settled _ _ _ hpays _ hsettled =>
      exact rewardRule_of_settled henabled hreward hbonus hregistered hpays hsettled
  · intro order providerName row hpays
    cases hpays

/-- **The referral rule.** In every run of orders and their payments, what users have got
from their referrals and may still get does not grow, so that no referral is rewarded
twice. A payment from a gateway or with Stars rewards the pending referral of its user
exactly when it completes a plan order while no other order of the user counts. -/
theorem referralRule_of_ordering (cfg : Settings) (henabled : cfg.referral.enabled = true)
    (hreward : 0 < cfg.referral.rewardRub) (hbonus : 0 < cfg.referral.referredRewardRub)
    (c : Committed engine) (events : List (Operation × World))
    (hops : ∀ event ∈ events, event.1.IsOrdering) (referral : Referral)
    (hregistered : Registered referral c.state) :
    KeepsPromises c.state (runAll cfg c events).state ∧ EachStep cfg (fun c op world =>
        RewardRule cfg referral c.state op (op.run cfg world c).2.state) c events := by
  have hrun := (eachStep_of_forall hops c).invariant
    (I := fun later => KeepsPromises c.state later.state ∧ Registered referral later.state)
    (Q := fun c op world => RewardRule cfg referral c.state op (op.run cfg world c).2.state)
    ⟨keepsPromises_of_programme rfl, hregistered⟩ fun c op world hinv hop =>
      ⟨Operation.rewardRule hop henabled hreward hbonus hinv.2,
        hinv.1.trans (Operation.keepsPromises hop),
        Operation.run_keeps (fun w _ h => h.apply w) cfg op world hinv.2⟩
  exact ⟨hrun.2.1, hrun.1⟩

end

namespace Scenario

/-- Both sides of a referral are rewarded. -/
def generous : Settings := { settings with referral := { referredRewardRub := 10 } }

def invitation : Referral where
  id := 30
  referrerUserId := 2
  referredUserId := 1
  status := .pending
  rewardAmount := 0
  referredRewardAmount := 0
  rewardedAt := none

/-- User 1 with a balance and the running plan, invited by user 2. -/
def invited (balance : Money) : Committed engine where
  state :=
    { (subscribed balance).state with
      users := (Table.empty.insert { id := 1, balance := balance }).insert { id := 2, balance := 0 }
      referrals := Table.empty.insert invitation }
  log := []

/-- The plan, paid with Stars. -/
def starsPurchase : OrderCreateIn where
  userId := 1
  planId := some 7
  provider := .stars

def starsOrder : PaymentOrder :=
  { pendingOrder with
    id := 5
    provider := .stars
    externalId := "stars_4"
    expiresAt := some 1800000000 }

/-- One more device, paid with Stars. -/
def starsSlot : OrderCreateIn where
  userId := 1
  provider := .stars
  orderType := .deviceSlots
  subscriptionId := some 3
  deviceSlotsQty := 1

end Scenario

open Scenario in
theorem registered_invitation : Registered invitation (invited balance).state where
  row := ⟨invitation, rfl, rfl, rfl⟩
  unique := by
    intro other hother _
    obtain rfl : other = invitation := mem_singleton.mp hother
    rfl
  referrer := rfl
  referred := rfl

open Scenario in
/-- The first plan that is paid with Stars rewards the invitation. -/
theorem referralRule_of_starsPurchase : Rewarded invitation
      (runAll generous (invited 0) [(.createOrder starsPurchase, world)]).state
      (runAll generous (invited 0)
        [(.createOrder starsPurchase, world), (.confirmStarsPayment 5, world)]).state := by
  have hrule := (referralRule_of_ordering generous rfl (by decide +kernel) (by decide +kernel)
    (invited 0) [(.createOrder starsPurchase, world), (.confirmStarsPayment 5, world)]
    (by simp [Operation.IsOrdering, Operation.IsPayment]) invitation
    registered_invitation).2.2.1
  have hplaced : (runAll generous (invited 0)
      [(.createOrder starsPurchase, world)]).state.orders.find? 5 = some starsOrder := by
    decide +kernel
  have hcompleted : ((runAll generous (invited 0) [(.createOrder starsPurchase, world),
      (.confirmStarsPayment 5, world)]).state.orders.find? 5).map PaymentOrder.status =
        some .completed := by decide +kernel
  have hnone : (runAll generous (invited 0)
      [(.createOrder starsPurchase, world)]).state.rewardableOrders 1 = [] := by decide +kernel
  obtain ⟨row, hrow, hstatus⟩ := Option.map_eq_some_iff.mp hcompleted
  exact (hrule starsOrder "stars" invitation (.stars starsOrder rfl hplaced) rfl (by decide) rfl
    (by decide +kernel) rfl).1 ⟨⟨row, hrow, hstatus⟩, by decide, hnone⟩

open Scenario in
/-- A device slot that was paid before, or a plan that is paid from the balance, and the
first plan goes without a reward. -/
theorem firstPlan_unrewarded : ((runAll generous (invited 0)
        [(.createOrder starsSlot, world), (.confirmStarsPayment 5, world),
          (.createOrder starsPurchase, world), (.confirmStarsPayment 7, world)]).state.orders.rows.map
        (fun order => (order.orderType, order.provider, order.status)) =
      [(.deviceSlots, .stars, .completed), (.planPurchase, .stars, .completed)] ∧
      (runAll generous (invited 0)
        [(.createOrder starsSlot, world), (.confirmStarsPayment 5, world),
          (.createOrder starsPurchase, world), (.confirmStarsPayment 7, world)]).state.referrals.find?
        30 = some invitation) ∧
    ((runAll generous (invited 500) [(.createOrder purchase, world)]).state.orders.rows.map
        (fun order => (order.orderType, order.provider, order.status)) =
      [(.planPurchase, .balance, .completed)] ∧
      (runAll generous (invited 500) [(.createOrder purchase, world)]).state.referrals.find? 30 =
        some invitation) := by
  refine ⟨⟨?_, ?_⟩, ?_, ?_⟩ <;> decide +kernel

end VpnControl.Billing

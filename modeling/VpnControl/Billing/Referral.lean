/-
# Referral rewards

The first paid order of a referred user credits the referrer, and the referred
user too when the configuration says so. Fulfilment calls this last and survives
its exceptions.
-/

import VpnControl.Billing.Repositories

namespace VpnControl.Billing

open Txn

/-- The referral section of the settings. -/
structure ReferralConfig where
  enabled : Bool := true
  rewardRub : Money := 50
  referredRewardRub : Money := 0
  deriving DecidableEq, Repr

/-- `ReferralService._credit_user`. -/
def creditUser (userId : Uuid) (amount : Money) (type : TransactionType)
    (description : String) : Service Unit := do
  match ← lockUser userId with
  | none => pure ()
  | some user => do
      updateUserBalance userId (user.balance + amount)
      recordTransaction userId amount (user.balance + amount) type none (some description)

variable (cfg : ReferralConfig)

/-- Credit the referrer and load them for the notification. -/
def rewardReferrer (referral : Referral) : Service Unit :=
  if 0 < cfg.rewardRub then do
    creditUser referral.referrerUserId cfg.rewardRub .referralReward
      "Referral reward for inviting user"
    let _ ← getUser referral.referrerUserId
    pure ()
  else pure ()

def rewardReferred (referral : Referral) : Service Unit :=
  if 0 < cfg.referredRewardRub then
    creditUser referral.referredUserId cfg.referredRewardRub .referralBonus
      "Bonus for joining via referral link"
  else pure ()

/-- `ReferralService.process_reward_if_eligible`. -/
def processRewardIfEligible (user : Uuid) : Service Unit :=
  if ¬ cfg.enabled then pure ()
  else do
    let found ← select (·.pendingReferrals user)
    match ← scalarOneOrNone found with
    | none => pure ()
    | some referral => do
        let paidOrders ← select (·.rewardableOrders user)
        if 1 < paidOrders.length then pure ()
        else do
          let now ← datetimeNow
          rewardReferrer cfg referral
          rewardReferred cfg referral
          execute (.updateReferral referral.id
            { rewardAmount := cfg.rewardRub
              referredRewardAmount := cfg.referredRewardRub
              rewardedAt := now })

end VpnControl.Billing

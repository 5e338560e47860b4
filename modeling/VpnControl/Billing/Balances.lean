/-
# Balances against the ledger

What the ledger protocol gives. One request after the other, the session of a
request never disagrees with the row it is about to lock, so the books of every
user balance after every operation. Interleaved, they balance in every run in which
no lock is granted on a row that changed after the session had loaded it; a purchase
from the balance loads the user before it locks the row, and loses an update when
another request commits in between.
-/

import VpnControl.Billing.Bookkeeping
import VpnControl.Billing.Direct
import VpnControl.Billing.Scenario

namespace VpnControl.Billing

open Txn Protocol Database
open System

variable {t : Tx engine} {c : Committed engine} {user : Uuid} {opening : Money} {start : Database}
  {db : Database}

/-! ## One request after the other -/

/-- A coherent session is never granted a lock on a stale row. -/
theorem Coherent.freshGrant (h : Coherent t c) : FreshGrant user op t c := by
  intro _ hkey loaded hloaded
  have huntouched : ∀ w ∈ t.writes, RowKey.user user ∉ w.touches :=
    fun w hw htouch => hkey (h.locked w hw _ htouch)
  have hview : SameRow (.user user) c.state (t.view c.state) :=
    @Tx.sameRow_view engine (.user user) t c.state huntouched
  exact hview.trans (h.loaded user loaded hloaded)

theorem Books.run (cfg : Settings)
    {op : Operation} (hop : op.Locking) (world : World) (h : Books start user opening c) :
    Books start user opening (op.run cfg world c).2 := by
  have hstep : ∀ (op : Stmt) (t : Tx engine) (c : Committed engine), Coherent t c →
      (ledgerProtocol start user opening).guard op t c ∧ Coherent (t.after c op) c :=
    fun op t c hc => ⟨hc.freshGrant, hc.after op⟩
  have hkeeps := keepsLedger_program cfg hop start user opening
  have hwp := hkeeps.commitOk (fun t c hinv hlocal => hlocal.commitOk hinv)
    (ledgerLocal_start (world.session c.state) c)
  exact (request_of_wp hstep h (coherent_start fun _ => rfl) hwp).1

theorem Books.history (cfg : Settings) (h : Books start user opening c)
    (hrun : History cfg Operation.Locking c later) : Books start user opening later := by
  induction hrun with
  | refl => exact h
  | tail _ world _ hop ih => exact ih.run cfg hop world

theorem books_start (hholder : db.users.find? user = some holder) :
    Books db user holder.balance ⟨db, []⟩ :=
  ⟨rfl, holder, hholder, by simp [ownRows, total], by simp [ownRows, Posted]⟩

/-- What was committed since the start is what the ledger has gained. -/
theorem Books.ledger_eq
    (h : Books db user opening c) : c.state.ledger user = db.ledger user ++ ownRows user c.log := by
  rw [h.1, ledger, transactions_foldl, List.filter_append]
  rfl

/-- **The ledger invariant.** From a user with balance zero and no ledger rows, after
any sequence of operations the balance is the sum of the user's rows, and each row
records the sum of the rows up to and including it. -/
theorem balance_eq_total_of_history (cfg : Settings) {db : Database} {user : Uuid}
    {holder : User} (hholder : db.users.find? user = some holder) (hzero : holder.balance = 0)
    (hrows : db.ledger user = []) {later : Committed engine}
    (hrun : History cfg Operation.Locking ⟨db, []⟩ later) :
    ∃ current, later.state.users.find? user = some current ∧
      current.balance = total (later.state.ledger user) ∧
      ∀ before row after, later.state.ledger user = before ++ row :: after →
        row.balanceAfter = total (before ++ [row]) := by
  have hbooks := (books_start hholder).history cfg hrun
  have hledger : later.state.ledger user = ownRows user later.log := by
    rw [hbooks.ledger_eq, hrows, List.nil_append]
  obtain ⟨-, current, hcurrent, hbalance, hposted⟩ := hbooks
  rw [hzero] at hbalance hposted
  refine ⟨current, hcurrent, ?_, ?_⟩
  · rw [hledger, hbalance, zero_add]
  · intro before row after hsplit
    rw [hledger] at hsplit
    rw [hposted.total hsplit, zero_add]
    rfl

/-- A credit and a purchase from the balance. -/
theorem balance_eq_total_after_purchase : let start : Committed engine := ⟨Scenario.database 0, []⟩
    let credited := (Operation.run Scenario.settings (.creditBalance 1 Scenario.credit)
      Scenario.world start).2
    let later := (Operation.run Scenario.settings (.createOrder Scenario.purchase)
      Scenario.world credited).2
    (later.state.ledger 1).map BalanceTransaction.amount = [150, -100] ∧
      ∃ current, later.state.users.find? 1 = some current ∧
        current.balance = total (later.state.ledger 1) ∧
        ∀ before row after, later.state.ledger 1 = before ++ row :: after →
          row.balanceAfter = total (before ++ [row]) := by
  intro start credited later
  have hholder : (Scenario.database 0).users.find? 1 = some { id := 1, balance := 0 } := by
    decide +kernel
  have hrun : History Scenario.settings Operation.Locking start later :=
    (History.refl.tail (.creditBalance 1 Scenario.credit) Scenario.world trivial).tail
      (.createOrder Scenario.purchase) Scenario.world trivial
  exact ⟨by decide +kernel, balance_eq_total_of_history Scenario.settings hholder rfl rfl hrun⟩

/-! ## Interleaved requests -/

variable {ι : Type} [Fintype ι] [DecidableEq ι]

/-- **No lost update.** In every run in which each lock on the user row is granted on
the row the session has loaded, if it has loaded one, the balance is the initial one
plus the rows that were added, and no purchase or debit exceeds the balance its lock
was granted on plus the rows its own transaction had added before. -/
theorem no_lost_update_of_freshGrant (cfg : Settings) {db : Database} {user : Uuid}
    {holder : User} (hholder : db.users.find? user = some holder) (ops : ι → Operation)
    (hops : ∀ i, (ops i).Locking) (sessions : ι → Session) {later : System engine BillingError ι}
    (hrun : System.Runs (FreshGrant user)
      (System.start ⟨db, []⟩ (fun i => (ops i).program cfg) sessions) later) :
    (∃ current added, later.db.state.users.find? user = some current ∧
      later.db.state.ledger user = db.ledger user ++ added ∧
      current.balance = holder.balance + total added) ∧
    ∀ i t, later.txs i = .committed t → DebitsCovered user t := by
  have hsound : (ledgerProtocol db user holder.balance).Sound
      (System.start ⟨db, []⟩ (fun i => (ops i).program cfg) sessions) := by
    refine sound_start (books_start hholder) fun i => ?_
    have hkeeps := keepsLedger_program cfg (hops i) db user holder.balance
    exact hkeeps.commitOk (fun t c hinv hlocal => hlocal.commitOk hinv)
      (ledgerLocal_start (sessions i) _)
  obtain ⟨hlater, -⟩ := hsound.runs hrun
  have hbooks : Books db user holder.balance later.db := hlater.inv
  refine ⟨?_, hlater.done⟩
  obtain ⟨-, current, hcurrent, hbalance, -⟩ := hlater.inv
  exact ⟨current, ownRows user later.db.log, hcurrent, hbooks.ledger_eq, hbalance⟩

/-- A purchase from the balance and a manual credit of the same user. -/
def purchaseAndCredit (purchasing : Bool) : Operation :=
  if purchasing then .createOrder Scenario.purchase else .creditBalance 1 Scenario.credit

/-- Both requests on a balance of 150, each with its own session. -/
def purchaseAndCreditSystem : System engine BillingError Bool :=
  System.start ⟨Scenario.database 150, []⟩
    (fun i => (purchaseAndCredit i).program Scenario.settings)
    fun i => Scenario.session (if i then 10 else 20)

/-- The credit first, then the purchase. -/
theorem no_lost_update_credit_then_purchase :
    ∃ later, System.Runs (FreshGrant 1) purchaseAndCreditSystem later ∧
      (∀ i, (later.committed? i).isSome) ∧
      (∃ current added, later.db.state.users.find? 1 = some current ∧
        later.db.state.ledger 1 = (Scenario.database 150).ledger 1 ++ added ∧
        current.balance = 150 + total added) ∧
      ∀ i t, later.txs i = .committed t → DebitsCovered 1 t := by
  have hholder : (Scenario.database 150).users.find? 1 = some { id := 1, balance := 150 } := by
    decide +kernel
  have hops : ∀ i, (purchaseAndCredit i).Locking := by
    intro i
    cases i <;> trivial
  obtain ⟨later, hrun, hdone⟩ := exists_run_of_replay (FreshGrant 1)
    purchaseAndCreditSystem (List.replicate 5 (.step false) ++ List.replicate 25 (.step true))
    (fun later => decide (∀ i, (later.committed? i).isSome)) (by decide +kernel)
  exact ⟨later, hrun, of_decide_eq_true hdone,
    no_lost_update_of_freshGrant Scenario.settings hholder purchaseAndCredit hops _ hrun⟩

/-- A purchase of the transaction exceeds the balance its lock was granted on. -/
def ExceedsGranted (user : Uuid) (t : Tx engine) : Prop :=
  ∃ row ∈ ownRows user t.writes, row.type = .purchase ∧ ∀ lock ∈ t.held, lock.1 = .user user →
      ∀ holder ∈ lock.2.users.find? user, holder.balance < -row.amount

instance (user : Uuid) (t : Tx engine) : Decidable (ExceedsGranted user t) :=
  inferInstanceAs (Decidable (∃ row ∈ ownRows user t.writes, _))

/-- A paid webhook for an order of a user with an empty balance. -/
def webhookSystem : System engine BillingError Unit :=
  System.start ⟨Scenario.withOrder (Scenario.database 0) Scenario.pendingOrder, []⟩
    (fun _ => processWebhook Scenario.settings "crypto" (Scenario.postback [("amount", .int 100)]))
    fun _ => Scenario.session 10

/-- Two ways in which the unconditional statement fails. A paid webhook buys the plan
with the money it has just credited, so its purchase exceeds the balance its lock was
granted on. And a credit that commits after the purchase has loaded the user is
overwritten. -/
theorem purchase_exceeds_granted_balance_and_credit_is_lost :
    (∃ later, System.Runs (FreshGrant 1) webhookSystem later ∧
      ∃ t, later.txs () = .committed t ∧ ExceedsGranted 1 t) ∧
    (∃ later, System.Runs (fun _ _ _ => True) purchaseAndCreditSystem later ∧
      (∀ i, (later.committed? i).isSome) ∧
      (later.db.state.users.find? 1).map User.balance = some 50 ∧
      150 + total (later.db.state.ledger 1) = 200) := by
  constructor
  · obtain ⟨later, hrun, hdone⟩ := exists_run_of_replay (FreshGrant 1) webhookSystem
      (List.replicate 21 (.step ()))
      (fun later => (later.committed? ()).any fun t => ExceedsGranted 1 t) (by decide +kernel)
    cases hcommitted : later.committed? () with
    | none =>
      rw [hcommitted] at hdone
      cases hdone
    | some t =>
      rw [hcommitted] at hdone
      exact ⟨later, hrun, t, txs_of_committed? hcommitted, of_decide_eq_true hdone⟩
  · obtain ⟨later, hrun, hdone⟩ := exists_run_of_replay (fun _ _ _ => True) purchaseAndCreditSystem
      (.step true :: List.replicate 5 (.step false) ++ List.replicate 24 (.step true))
      (fun later => decide ((∀ i, (later.committed? i).isSome) ∧
        (later.db.state.users.find? 1).map User.balance = some 50 ∧
        150 + total (later.db.state.ledger 1) = 200)) (by decide +kernel)
    exact ⟨later, hrun, of_decide_eq_true hdone⟩

end VpnControl.Billing

/-
# A traffic message is counted once

JetStream delivers a message until it is acknowledged, so several consumers may work on the same
message at once and any of them may crash. The claim of the message and the counters are one
transaction, and the unique key of the log makes a second claim wait for the first. So at most one
of the deliveries commits the deltas; and a delivery that comes to its acknowledgement has
either done so itself or has found the claim of one that did.
-/

import Mathlib.Algebra.Order.BigOperators.Group.Finset
import VpnControl.Txn.Commits
import VpnControl.Vpn.Scenario
import VpnControl.Vpn.Traffic

namespace VpnControl.Vpn

open Txn Protocol List Stmt Committed
open Billing (Uuid Time)
open System

variable {ι : Type} [Fintype ι] [DecidableEq ι]

/-! ## Histories of deliveries -/

/-- The deliveries of a finite history: each is a transaction that may crash before it commits,
and is acknowledged at some time after its handler has returned, unless a crash comes first. -/
inductive Deliveries (s : System engine SubscriptionError ι) :
    System engine SubscriptionError ι → Finset ι → Prop
  | start : Deliveries s s ∅
  | event {mid later : System engine SubscriptionError ι} {acked : Finset ι} (event : Event ι) :
      Deliveries s mid acked → mid.next event = some later → Deliveries s later acked
  | acknowledge {mid : System engine SubscriptionError ι} {acked : Finset ι} (i : ι) :
      Deliveries s mid acked → (mid.committed? i).isSome → Deliveries s mid (insert i acked)

/-- The delivery has added the deltas of its message to the counters: it has claimed the message
and committed what `ingest_users_traffic` writes for the items. -/
def Counted (start : System engine SubscriptionError ι) (message : TrafficMessage)
    (row : NatsProcessedMsgLog) (session : Session) (status : Status engine SubscriptionError) :
    Prop :=
  ∃ t rest, status = .committed t ∧ t.writes = .insertMessage row :: rest ∧
    Ingested (start.Visited fun _ _ _ => True) session.billing.now message.items rest

variable {s later : System engine SubscriptionError ι} {acked : Finset ι}

theorem Deliveries.runs (h : Deliveries s later acked) :
    System.Runs (fun _ _ _ => True) s later := by
  induction h with
  | start => exact .refl
  | event event _ hnext ih => exact ih.tail event (fun _ _ _ => trivial) hnext
  | acknowledge _ _ _ ih => exact ih

theorem deliveries_of_runs (h : System.Runs (fun _ _ _ => True) s later) :
    Deliveries s later ∅ := by
  induction h with
  | refl => exact .start
  | tail event _ _ hnext ih => exact ih.event event hnext

/-- A transaction that has committed stays so. -/
theorem committed_next {mid : System engine SubscriptionError ι}
    (hnext : mid.next event = some later)
    (hi : mid.txs i = .committed t) : later.txs i = .committed t := by
  obtain ⟨j, op, rest, u, -, hj, -, rfl⟩ | ⟨j, u, -, hj, rfl⟩ | ⟨j, rest, u, hj, rfl⟩ :=
    next_cases hnext
  all_goals
    have hij : i ≠ j := by
      rintro rfl
      rw [hi] at hj
      cases hj
    simpa [System.setTx, Function.update_of_ne hij] using hi

theorem Deliveries.committed_of_acked (h : Deliveries s later acked) (hi : i ∈ acked) :
    ∃ t, later.txs i = .committed t := by
  induction h with
  | start => simp at hi
  | event _ _ hnext ih =>
    obtain ⟨t, ht⟩ := ih hi
    exact ⟨t, committed_next hnext ht⟩
  | acknowledge _ _ hj ih =>
    rcases Finset.mem_insert.mp hi with rfl | hold
    · obtain ⟨t, ht⟩ := Option.isSome_iff_exists.mp hj
      exact ⟨t, txs_of_committed? ht⟩
    · exact ih hold

/-! ## The protocol -/

variable {row : NatsProcessedMsgLog} {message : TrafficMessage} {c : Committed engine}
  {t : Tx engine}

/-- What the consumers promise each other: a message is claimed at most once, and a claim stays. -/
def claimProtocol (row : NatsProcessedMsgLog) : Protocol engine where
  Inv c := c.log.countP (· = .insertMessage row) =
    if (c.state.messages.find? row).isSome then 1 else 0
  Guar c later := (c.state.messages.find? row).isSome → (later.state.messages.find? row).isSome
  guard _ _ _ := True
  Done _ := True
  guar_refl _ h := h
  guar_trans h h' hfirst := h' (h hfirst)

theorem message_notMem_touches (h : Database.Part.of w ≠ .messages) :
    RowKey.message row ∉ w.touches := by
  cases w <;> simp_all [Write.touches, Database.Part.of, RowKey.subscription]

theorem commitOk_of_spares (hinv : (claimProtocol row).Inv c)
    (h : ∀ w ∈ t.writes, RowKey.message row ∉ w.touches) : (claimProtocol row).CommitOk t c := by
  have hrow : engine.SameRow (.message row) c.state (c.extend t.writes).state :=
    sameRow_foldl c.state h
  have hsame : c.state.messages.find? row = (c.extend t.writes).state.messages.find? row := hrow
  have hcount : t.writes.countP (· = .insertMessage row) = 0 := by
    rw [countP_eq_zero]
    intro w hw heq
    have hw := h w hw
    simp [of_decide_eq_true heq, Write.touches] at hw
  refine ⟨?_, fun hfound => hsame ▸ hfound, trivial⟩
  have hlog : (c.extend t.writes).log.countP (· = .insertMessage row) =
      c.log.countP (· = .insertMessage row) := by
    rw [extend, countP_append, hcount, Nat.add_zero]
  exact hlog.trans (hsame ▸ hinv)

theorem commitOk_of_claims {rest : List Write}
    (hinv : (claimProtocol row).Inv c) (hfree : c.state.messages.find? row = none)
    (ht : t.writes = .insertMessage row :: rest)
    (hrest : ∀ w ∈ rest, Database.Part.of w ≠ .messages) :
    (claimProtocol row).CommitOk t c ∧ ((c.extend t.writes).state.messages.find? row).isSome := by
  have hmessages : (c.extend t.writes).state.messages = c.state.messages.insert row := by
    rw [ht]
    exact Database.same_foldl .messages hrest
  have hfound : ((c.extend t.writes).state.messages.find? row).isSome := by
    have hself : (c.state.messages.insert row).find? row = some row := Table.find?_insert_self hfree
    rw [hmessages, hself]
    rfl
  have hzero : rest.countP (· = .insertMessage row) = 0 := by
    rw [countP_eq_zero]
    intro w hw heq
    exact hrest w hw (by rw [of_decide_eq_true heq]; rfl)
  have hcount : c.log.countP (· = .insertMessage row) = 0 := by
    simpa [claimProtocol, hfree] using hinv
  refine ⟨⟨?_, fun _ => hfound, trivial⟩, hfound⟩
  show (c.extend t.writes).log.countP (· = .insertMessage row) = _
  rw [if_pos hfound, extend, countP_append, hcount, ht, countP_cons, hzero]
  simp

section Deliver

variable {S : Committed engine → Prop} (session : Session) (c : Committed engine)

/-- A delivery of another message leaves the claim alone. -/
theorem outcome_otherMessage (hother : message.dedupRow ≠ some row) :
    Outcome S (Tx.start session) (handleMessage message) fun _ ws =>
      ∀ w ∈ ws, RowKey.message row ∉ w.touches := by
  have hingested : ∀ {now items ws}, Ingested S now items ws →
      ∀ w ∈ ws, .message row ∉ w.touches := by
    intro now items ws h w hw
    refine message_notMem_touches fun hpart => ?_
    have hmem := h.part hw
    rw [hpart] at hmem
    simp at hmem
  cases hrow : message.dedupRow with
  | none =>
    unfold handleMessage
    split
    · exact .ret (by simp)
    · rw [hrow]
      refine .bind (outcome_ingestUsersTraffic (by simp)) fun _ ws _ _ hws => .ret ?_
      simpa using hingested hws
  | some own =>
    have hne : row ≠ own := fun heq => hother (heq ▸ hrow)
    refine (outcome_handleMessage hrow session).mono fun _ ws hws => ?_
    obtain ⟨rfl, -⟩ | ⟨rest, rfl, hrest⟩ := hws
    · simp
    · simpa [Write.touches, hne] using hingested hrest

/-- A delivery keeps the protocol, and when it ends the message is claimed. -/
theorem wp_handleMessage (hitems : message.items ≠ []) (hrow : message.dedupRow = some row) :
    (claimProtocol row).wp (handleMessage message) (fun _ t c => (claimProtocol row).CommitOk t c ∧
        ((c.extend t.writes).state.messages.find? row).isSome)
      (fun _ _ _ => True) (Tx.start session) c := by
  rw [handleMessage_claiming hitems hrow]
  intro locked hlocked _
  dsimp only [Tx.reply, answer, Tx.view_start]
  cases hfound : locked.state.messages.find? row with
  | some =>
    -- somebody has claimed the message, and the claim stays
    intro later hlater
    have hclaimed : (later.state.messages.find? row).isSome := hlater.2.1 (by simp [hfound])
    exact ⟨commitOk_of_spares hlater.1 (by simp [writes]), hclaimed⟩
  | none =>
    have hkey : RowKey.message row ∈ ((Tx.start session).after locked (.lockMessage row)).keys :=
      Tx.mem_keys_after.mpr (.inr (by simp [locks]))
    -- the key of the message is locked, so nobody claims it before this delivery commits
    have hbody : Outcome ((claimProtocol row).While (.message row) locked)
        ((Tx.start session).after locked (.lockMessage row)) (do
          execute (.insertMessage row)
          let _ ← ingestUsersTraffic message.items
          pure ()) fun _ ws => ∃ rest, ws = .insertMessage row :: rest ∧
            ∀ w ∈ rest, Database.Part.of w ≠ .messages := by
      refine .exec fun c' _ => ?_
      refine .bind (outcome_ingestUsersTraffic ?_)
        fun _ rest _ _ hrest => .ret ⟨rest, by simp [writes], ?_⟩
      · intro w hw
        simp only [Tx.after_writes, Tx.start_writes, writes, nil_append, mem_singleton] at hw
        rw [hw]
        rfl
      · intro w hw hpart
        have hmem := hrest.part hw
        rw [hpart] at hmem
        simp at hmem
    refine Protocol.wp_mono (hbody.wp_while hkey) ?_ fun _ _ _ _ => trivial
    rintro - done later ⟨⟨ws, hreach, rest, rfl, hrest⟩, hinv, -, hspares⟩
    have hsame : locked.state.messages.find? row = later.state.messages.find? row := hspares.sameRow
    have hwrites : done.writes = .insertMessage row :: rest := by
      simpa [writes] using hreach.writes_eq
    exact commitOk_of_claims hinv (hsame.symm.trans hfound) hwrites hrest

end Deliver

/-! ## Every history -/

section History

variable {db : Database} {messages : ι → TrafficMessage} {sessions : ι → Session}

/-- The consumers at work on the deliveries. -/
def consumers (db : Database) (messages : ι → TrafficMessage) (sessions : ι → Session) :
    System engine SubscriptionError ι :=
  System.start ⟨db, []⟩ (fun i => handleMessage (messages i)) sessions

omit [Fintype ι] [DecidableEq ι] in
theorem sound_consumers (hnew : db.messages.find? row = none) :
    (claimProtocol row).Sound (consumers db messages sessions) := by
  refine sound_start (by simp [claimProtocol, hnew]) fun i => ?_
  have hspare : Outcome (claimProtocol row).Inv (Tx.start (sessions i)) (handleMessage (messages i))
      (fun _ ws => ∀ w ∈ ws, .message row ∉ w.touches) →
      (claimProtocol row).wp (handleMessage (messages i)) (fun _ => (claimProtocol row).CommitOk)
        (fun _ _ _ => True) (Tx.start (sessions i)) ⟨db, []⟩ := by
    intro h
    refine wp_mono (wp_inv (wp_of_reads (fun _ h => h) (h _))) ?_ fun _ _ _ _ => trivial
    rintro - t c ⟨⟨ws, hreach, hws⟩, hinv⟩
    have hwrites : t.writes = ws := by simpa using hreach.writes_eq
    exact commitOk_of_spares hinv (hwrites ▸ hws)
  by_cases hrow : (messages i).dedupRow = some row
  · by_cases hitems : (messages i).items = []
    · refine hspare ?_
      rw [handleMessage, if_pos hitems]
      exact .ret (by simp)
    · exact wp_mono (wp_handleMessage (sessions i) _ hitems hrow) (fun _ _ _ h => h.1)
        fun _ _ _ h => h
  · exact hspare (outcome_otherMessage (sessions i) hrow)

theorem counted_or_nil (hrow : message.dedupRow = some row)
    (h : Deliveries (consumers db messages sessions) later acked)
    (hi : messages i = message) (ht : later.txs i = .committed t) :
    t.writes = [] ∨
      Counted (consumers db messages sessions) message row (sessions i) (later.txs i) := by
  have hwrites := committed_of_outcome (outcome_handleMessage (hi ▸ hrow) (sessions i)) h.runs ht
  rw [hi] at hwrites
  rcases hwrites with ⟨hnone, -⟩ | ⟨rest, hrest, hingested⟩
  · exact .inl hnone
  · exact .inr ⟨t, rest, ht, hrest, hingested⟩

omit [Fintype ι] in
theorem sum_claims (horder : System.CommitOrder ⟨db, []⟩ later order) :
    later.db.log.countP (· = .insertMessage row) =
      ∑ i ∈ order.toFinset, (later.writesOf i).countP (· = .insertMessage row) := by
  rw [horder.db_eq, sum_toFinset _ horder.nodup]
  simp [extend, countP_flatMap, Function.comp_def]

/-- **A message is counted once.** In every history of deliveries at most one transaction adds the
deltas of the message to the counters, and exactly one does when one of the deliveries has been
acknowledged. A delivery that does not add them changes nothing. -/
theorem traffic_counted_once (hrow : message.dedupRow = some row)
    (hsame : ∀ i, (messages i).dedupRow = some row → messages i = message)
    (hnew : db.messages.find? row = none)
    (h : Deliveries (consumers db messages sessions) later acked) :
    {i | messages i = message ∧ Counted (consumers db messages sessions) message row (sessions i)
        (later.txs i)}.Subsingleton ∧
      (message.items ≠ [] → (∃ i ∈ acked, messages i = message) →
        ∃! i, messages i = message ∧ Counted (consumers db messages sessions) message row
          (sessions i) (later.txs i)) ∧
      ∀ i, messages i = message → ¬ Counted (consumers db messages sessions) message row
        (sessions i) (later.txs i) → later.writesOf i = [] := by
  obtain ⟨order, horder⟩ := exists_commitOrder h.runs
  have hsound : (claimProtocol row).Sound (consumers db messages sessions) := sound_consumers hnew
  have hinv : later.db.log.countP (· = .insertMessage row) =
      if (later.db.state.messages.find? row).isSome then 1 else 0 := (hsound.runs h.runs).1.inv
  have hone : ∀ {i}, Counted (consumers db messages sessions) message row (sessions i)
      (later.txs i) → i ∈ order.toFinset ∧
        1 ≤ (later.writesOf i).countP (· = .insertMessage row) := by
    rintro i ⟨t, rest, ht, hwrites, -⟩
    refine ⟨List.mem_toFinset.mpr ((horder.mem_iff i).mpr ⟨t, ht⟩), ?_⟩
    rw [writesOf_committed ht, hwrites]
    simp
  have hunique : {i | messages i = message ∧ Counted (consumers db messages sessions) message row
      (sessions i) (later.txs i)}.Subsingleton := by
    rintro i ⟨-, hi⟩ j ⟨-, hj⟩
    by_contra hne
    have hsum := Finset.add_le_sum (fun k _ => Nat.zero_le
      ((later.writesOf k).countP (· = .insertMessage row))) (hone hi).1 (hone hj).1 hne
    rw [← sum_claims horder, hinv] at hsum
    have htwo := (Nat.add_le_add (hone hi).2 (hone hj).2).trans hsum
    split at htwo <;> omega
  refine ⟨hunique, fun hitems hacked => ?_, fun i hi hnot => ?_⟩
  · obtain ⟨i, hi, hmessage⟩ := hacked
    obtain ⟨t, ht⟩ := h.committed_of_acked hi
    -- when the acknowledged delivery ended the message was claimed, so it still is
    have hclaimed : (later.db.state.messages.find? row).isSome := by
      have hwp : ∀ rest u, (consumers db messages sessions).txs i = .running rest u →
          (claimProtocol row).wp rest (fun _ u c =>
            ((c.extend u.writes).state.messages.find? row).isSome)
            (fun _ _ _ => True) u (consumers db messages sessions).db := by
        rintro rest u hu
        cases hu
        exact wp_mono (wp_handleMessage (sessions i) _ (hmessage ▸ hitems) (hmessage ▸ hrow))
          (fun _ _ _ h => h.2) fun _ _ _ h => h
      obtain ⟨c, -, hc, hguar⟩ := hsound.at_commit hwp (by simp [consumers, System.start]) h.runs ht
      exact hguar hc
    rw [if_pos hclaimed, sum_claims horder] at hinv
    obtain ⟨j, hj, hpos⟩ := Finset.exists_ne_zero_of_sum_ne_zero (hinv ▸ Nat.one_ne_zero)
    obtain ⟨u, hu⟩ := (horder.mem_iff j).mp (List.mem_toFinset.mp hj)
    rw [writesOf_committed hu] at hpos
    have hmem : .insertMessage row ∈ u.writes := by
      obtain ⟨w, hw, heq⟩ := List.countP_pos_iff.mp (Nat.pos_of_ne_zero hpos)
      exact of_decide_eq_true heq ▸ hw
    have hown := hsame j (by
      by_contra hother
      have hspares := committed_of_outcome (outcome_otherMessage (sessions j) hother) h.runs hu
      exact hspares _ hmem (by simp [Write.touches]))
    have hcounted := (counted_or_nil hrow h hown hu).resolve_left (List.ne_nil_of_mem hmem)
    exact ⟨j, ⟨hown, hcounted⟩, fun k hk => hunique hk ⟨hown, hcounted⟩⟩
  · cases hstatus : later.txs i with
    | committed =>
      rw [writesOf_committed hstatus]
      exact (counted_or_nil hrow h hi hstatus).resolve_right hnot
    | running => simp [System.writesOf, hstatus]
    | rolledBack => simp [System.writesOf, hstatus]

end History

/-- Ten bytes of the only key. -/
def clientItem : UserTrafficIn := { identifier := "client", deltaBytes := 10 }

/-- A report about the only key. -/
def report : TrafficMessage :=
  { subject := "traffic.users", msgId := some "m1", items := [clientItem] }

/-- Two consumers get the same message. -/
def redelivered : System engine SubscriptionError Bool :=
  consumers (Scenario.access false) (fun _ => report)
    fun _ => (Scenario.point (Scenario.access false)).session

/-- The second consumer finds the claim of the first one. -/
theorem traffic_counted_once_redelivered : ∃ later, Deliveries redelivered later {true} ∧
      ∃! i, report = report ∧ Counted redelivered report ⟨"traffic.users", "m1"⟩
        (Scenario.point (Scenario.access false)).session (later.txs i) := by
  obtain ⟨later, hruns, hended⟩ := exists_run_of_replay (fun _ _ _ => True) redelivered
    (List.replicate 9 (.step false) ++ [.step true, .step true])
    (fun s => (s.committed? true).isSome) (by decide +kernel)
  have hdeliveries : Deliveries redelivered later {true} :=
    (deliveries_of_runs hruns).acknowledge true hended
  exact ⟨later, hdeliveries, (traffic_counted_once (by decide) (fun _ _ => rfl) (by decide)
    hdeliveries).2.1 (by decide) ⟨true, by simp, rfl⟩⟩

end VpnControl.Vpn

/-
# Traffic reports

Nodes report how many bytes the clients have used. `UserTrafficNatsConsumer` claims the id of a
message and hands its items to `ingest_users_traffic`, both in one transaction. The items are
added to the counters of the keys and of their subscriptions in Python and written back, and the
keys of a subscription whose plan is used up are revoked.

`Ingested` says what such a call writes, whatever is committed beside it. The later modules use
that instead of the code.
-/

import VpnControl.Vpn.Effects

namespace VpnControl.Vpn

open Txn List Option Write Stmt
open Billing (Uuid Time)
open Database

/-- The traffic of one client, as a node reports it. -/
structure UserTrafficIn where
  identifier : String
  deltaBytes : ℕ
  identifier_ne : identifier ≠ "" := by decide
  deriving DecidableEq, Repr

/-- A message of the traffic stream, with the items that `_parse_payload` finds in it. -/
structure TrafficMessage where
  subject : String
  msgId : Option String
  items : List UserTrafficIn
  deriving DecidableEq, Repr

/-- What `ingest_users_traffic` returns. -/
structure IngestOut where
  processed : ℕ
  revoked : ℕ
  deriving DecidableEq, Repr

/-! ## Queries -/

namespace Database

variable (db : Database)

/-- `VpnKeyRepository.list_by_client_ids`, active keys only. -/
def keysByClientIds (clientIds : List String) (now : Time) : List VpnKey :=
  db.keys.rows.filter fun key =>
    key.clientId ∈ clientIds.filter (· ≠ "") ∧ key.isActive ∧ now < key.validUntil ∧ ¬ key.isRevoked

/-- `SubscriptionRepository.list_by_ids_with_plan`. -/
def subscriptionsByIds (ids : List Uuid) : List Subscription :=
  (db.columns.rows.filter fun row => row.id ∈ ids).filterMap db.joinSubscription

/-- `VpnKeyRepository.list_active_by_subscription_id`. -/
def activeKeysOfSubscription (subscription : Uuid) (now : Time) : List VpnKey :=
  db.keys.rows.filter fun key =>
    key.subscriptionId = some subscription ∧ key.isActive ∧ ¬ key.isRevoked ∧ now < key.validUntil

/-- The hashes that `invalidate_by_subscription_ids` collects. -/
def tokenHashesOf (ids : List Uuid) : List String :=
  ((db.columns.rows.filter fun row => row.id ∈ ids).flatMap fun row =>
    row.tokenHash :: row.prevTokenHash.toList).filter (· ≠ "")

end Database

theorem mem_subscriptionsByIds {db : Database} :
    sub ∈ db.subscriptionsByIds ids ↔ sub.id ∈ ids ∧ db.subscription? sub.id = some sub := by
  have hid : ∀ {row}, db.joinSubscription row = some sub → row.id = sub.id := by
    intro row hrow
    obtain ⟨own, hown, rfl⟩ := map_eq_some_iff.mp hrow
    exact (Table.key_of_find? hown).symm
  simp only [Database.subscriptionsByIds, mem_filterMap, mem_filter, decide_eq_true_eq,
    Database.subscription?, bind_eq_some_iff]
  constructor
  · rintro ⟨row, ⟨hmem, hrow⟩, hjoin⟩
    rw [← hid hjoin]
    exact ⟨hrow, row, Table.find?_of_mem hmem, hjoin⟩
  · rintro ⟨hmem, row, hrow, hjoin⟩
    exact ⟨row, ⟨Table.mem_of_find? hrow, hid hjoin ▸ hmem⟩, hjoin⟩

/-! ## The accumulators of the loop over the items -/

/-- `subscription_deltas[subscription] += delta`. -/
def bump (subscription : Uuid) (delta : ℤ) : List (Uuid × ℤ) → List (Uuid × ℤ)
  | [] => [(subscription, delta)]
  | (id, total) :: rest =>
    if id = subscription then (id, total + delta) :: rest
    else (id, total) :: bump subscription delta rest

/-- `subscription_deltas.get(subscription, 0)`. -/
def deltaOf (deltas : List (Uuid × ℤ)) (subscription : Uuid) : ℤ :=
  ((deltas.find? fun entry => entry.1 = subscription).map Prod.snd).getD 0

/-- What the loop of `ingest_users_traffic` has gathered. -/
structure Tally where
  /-- The loaded keys with their counters as they are now. -/
  keys : List VpnKey
  processed : ℕ := 0
  history : List TrafficUsage := []
  deltas : List (Uuid × ℤ) := []
  deriving DecidableEq, Repr

/-- The key of an item among the loaded keys. -/
def keyOf (keys : List VpnKey) (identifier : String) : Option VpnKey :=
  keys.find? fun key => key.clientId = identifier

/-- One round of the loop. -/
def Tally.add (tally : Tally) (item : UserTrafficIn) : Tally :=
  match keyOf tally.keys item.identifier with
  | none => tally
  | some key =>
    if item.deltaBytes = 0 then tally
    else
      { keys := tally.keys.map fun loaded =>
          if loaded.id = key.id then
            loaded.setTraffic (loaded.usedTrafficBytes + item.deltaBytes)
          else loaded
        processed := tally.processed + 1
        history := tally.history ++ [⟨key.id, item.deltaBytes⟩]
        deltas := match key.subscriptionId with
          | none => tally.deltas
          | some subscription => bump subscription item.deltaBytes tally.deltas }

/-- The loop. -/
def tallyOf (keys : List VpnKey) (items : List UserTrafficIn) : Tally :=
  items.foldl Tally.add { keys := keys }

/-! ## The methods -/

/-- `SubscriptionCacheInvalidator.invalidate_by_token_hashes`. -/
def invalidateByTokenHashes : List String → Service Unit
  | [] => pure ()
  | tokenHash :: rest => do
      invalidatePayloadCacheByTokenHash tokenHash
      invalidateByTokenHashes rest

/-- `SubscriptionCacheInvalidator.invalidate_by_subscription_ids`. -/
def invalidateBySubscriptionIds (ids : List Uuid) : Service Unit := do
  let hashes ← select (·.tokenHashesOf ids)
  invalidateByTokenHashes hashes

def mib : ℤ := 1024 * 1024

/-- Revoke a key whose traffic is used up. -/
def revokeForTraffic (key : VpnKey) (now : Time) : Service Unit := do
  execute (.setRevoked key.id true)
  execute (.setDesiredState key.id .inactive "traffic_limit_exceeded" now)
  enqueueForKeyState key.id .inactive

/-- The loop of `_revoke_subscription_keys`. -/
def revokeKeys (now : Time) : List VpnKey → Service ℕ
  | [] => pure 0
  | key :: rest =>
    if key.isRevoked then revokeKeys now rest
    else do
      revokeForTraffic key now
      let count ← revokeKeys now rest
      pure (count + 1)

/-- `UserTrafficService._revoke_subscription_keys`. -/
def revokeSubscriptionKeys (subscription : Uuid) (now : Time) : Service ℕ := do
  let keys ← select (·.activeKeysOfSubscription subscription now)
  revokeKeys now keys

/-- The loop over the subscriptions that exceeded their plan. -/
def revokeExceeded (now : Time) : List Uuid → Service ℕ
  | [] => pure 0
  | subscription :: rest => do
      let first ← revokeSubscriptionKeys subscription now
      let others ← revokeExceeded now rest
      pure (first + others)

/-- The session writes the changed attributes back. -/
def flush : List Write → Service Unit
  | [] => pure ()
  | w :: rest => do
      execute w
      flush rest

/-- The keys whose counter has changed, as the session writes them. -/
def keyUpdates (loaded : List VpnKey) (tally : Tally) : List Write :=
  (tally.keys.filter fun key => key ∉ loaded).map fun key =>
    .setKeyTraffic key.id key.usedTrafficBytes

/-- A loaded subscription with its counters increased. -/
def Subscription.addTraffic (delta : ℤ) (sub : Subscription) : Subscription :=
  { sub with
    usedTrafficBytes := sub.usedTrafficBytes + delta
    lifetimeUsedTrafficBytes := sub.lifetimeUsedTrafficBytes + delta }

@[simp]
theorem Subscription.id_addTraffic (sub : Subscription) : (sub.addTraffic delta).id = sub.id := rfl

/-- The subscriptions with their counters after the loop. -/
def countedSubscriptions (deltas : List (Uuid × ℤ)) (subscriptions : List Subscription) :
    List Subscription :=
  (subscriptions.filter fun sub => 0 < deltaOf deltas sub.id).map fun sub =>
    sub.addTraffic (deltaOf deltas sub.id)

/-- The subscriptions whose counter has changed, as the session writes them. -/
def subscriptionUpdates (counted : List Subscription) : List Write :=
  counted.map fun sub => .setTraffic sub.id sub.usedTrafficBytes sub.lifetimeUsedTrafficBytes

/-- Phase 2 of `ingest_users_traffic`: the counters and the limits of the subscriptions. -/
def ingestSubscriptions (deltas : List (Uuid × ℤ)) (now : Time) : Service ℕ :=
  if deltas = [] then pure 0
  else do
    let loaded ← select fun db =>
      (db.subscriptionsByIds (deltas.map Prod.fst)).map fun sub => (sub, db.trafficLimit sub)
    let counted := countedSubscriptions deltas (loaded.map Prod.fst)
    flush (subscriptionUpdates counted)
    let exceeded := (counted.filter fun sub =>
      loaded.any fun row => row.1.id = sub.id ∧ 0 < row.2 ∧ row.2 ≤ sub.usedTrafficBytes).map
        fun sub => sub.id
    if exceeded ≠ [] then invalidateBySubscriptionIds exceeded
    revokeExceeded now exceeded

/-- Phase 3: the limits of the keys without a subscription. -/
def ingestUnowned (now : Time) : List VpnKey → Service ℕ
  | [] => pure 0
  | key :: rest =>
    let limitBytes := max 0 key.trafficLimitMb * mib
    if key.subscriptionId.isSome ∨ key.isRevoked ∨ limitBytes ≤ 0 ∨
        key.usedTrafficBytes < limitBytes then ingestUnowned now rest
    else do
      revokeForTraffic key now
      let count ← ingestUnowned now rest
      pure (count + 1)

/-- `UserTrafficService.ingest_users_traffic`. -/
def ingestUsersTraffic (items : List UserTrafficIn) : Service IngestOut :=
  if items = [] then pure ⟨0, 0⟩
  else do
    let now ← datetimeNow
    let keys ← select (·.keysByClientIds (items.map UserTrafficIn.identifier) now)
    if keys = [] then pure ⟨0, 0⟩
    else do
      let tally := tallyOf keys items
      flush (keyUpdates keys tally)
      let owned ← ingestSubscriptions tally.deltas now
      let unowned ← ingestUnowned now tally.keys
      if tally.history ≠ [] then execute (.insertTrafficUsage tally.history)
      pure ⟨tally.processed, owned + unowned⟩

/-- `NatsMessageDedupRepository.claim`. -/
def claim (row : NatsProcessedMsgLog) : Service Bool :=
  if row.msgId = "" then pure true
  else do
    let free ← Program.perform (S := engine.toSignature) (.lockMessage row)
    if free then do
      execute (.insertMessage row)
      pure true
    else pure false

/-- The row that claims a message, if the message carries an id. -/
def TrafficMessage.dedupRow (message : TrafficMessage) : Option NatsProcessedMsgLog :=
  (message.msgId.filter (· ≠ "")).map fun msgId => ⟨message.subject, msgId⟩

/-- `UserTrafficNatsConsumer._handle_message`, up to the acknowledgement: the message is
acknowledged when this has returned. -/
def handleMessage (message : TrafficMessage) : Service Unit :=
  if message.items = [] then pure ()
  else
    match message.dedupRow with
    | none => do
        let _ ← ingestUsersTraffic message.items
        pure ()
    | some row => do
        let claimed ← claim row
        if claimed then do
          let _ ← ingestUsersTraffic message.items
          pure ()
        else pure ()

/-! ## What a call writes -/

def Write.IsRevocation : Write → Prop
  | .setRevoked _ revoked => revoked = true
  | .setDesiredState _ desired _ _ => desired = .inactive
  | .enqueueMany _ => True
  | _ => False

/-- The row that the history gets. -/
def historyWrites (tally : Tally) : List Write :=
  if tally.history = [] then [] else [.insertTrafficUsage tally.history]

/-- What a call with these items writes when every committed state it sees lies in `S`: the
counters of the keys and of the subscriptions, each read from such a state and increased by what
the items report, then revocations, then the history. -/
inductive Ingested (S : Committed engine → Prop) (now : Time) (items : List UserTrafficIn) :
    List Write → Prop
  | unknown : (items = [] ∨ ∃ c, S c ∧
      c.state.keysByClientIds (items.map UserTrafficIn.identifier) now = []) →
      Ingested S now items []
  | counted {keys : List VpnKey} {subscriptions : List Subscription} {rest : List Write}
      (c : Committed engine) : S c →
      keys = c.state.keysByClientIds (items.map UserTrafficIn.identifier) now →
      ((tallyOf keys items).deltas ≠ [] → ∃ c, S c ∧ subscriptions =
        c.state.subscriptionsByIds ((tallyOf keys items).deltas.map Prod.fst)) →
      (∀ w ∈ rest, w.IsRevocation) →
      Ingested S now items (keyUpdates keys (tallyOf keys items) ++
        (subscriptionUpdates (countedSubscriptions (tallyOf keys items).deltas subscriptions) ++
          (rest ++ historyWrites (tallyOf keys items))))

variable {now : Time} {keys : List VpnKey}

section Revoking

theorem writes_revokeForTraffic : Writes IsRevocation (revokeForTraffic key now) :=
  .bind (.execute rfl) fun _ => .bind (.execute rfl) fun _ =>
    .enqueueForKeyState (fun _ => trivial) key.id .inactive

theorem writes_revokeKeys : Writes IsRevocation (revokeKeys now keys) := by
  induction keys with
  | nil => exact .pure 0
  | cons key _ ih =>
    unfold revokeKeys
    split
    · exact ih
    · exact .bind writes_revokeForTraffic fun _ => .bind ih fun _ => .pure _

theorem writes_revokeExceeded : Writes IsRevocation (revokeExceeded now subscriptions) := by
  induction subscriptions with
  | nil => exact .pure 0
  | cons _ _ ih =>
    refine .bind ?_ fun _ => .bind ih fun _ => .pure _
    exact .bind (.select _) fun keys => writes_revokeKeys

theorem writes_invalidateBySubscriptionIds : Writes W (invalidateBySubscriptionIds ids) := by
  refine .bind (.select _) fun hashes => ?_
  induction hashes with
  | nil => exact .pure ()
  | cons tokenHash _ ih => exact .bind (.invalidatePayloadCacheByTokenHash tokenHash) fun _ => ih

theorem writes_ingestUnowned : Writes IsRevocation (ingestUnowned now keys) := by
  induction keys with
  | nil => exact .pure 0
  | cons key _ ih =>
    unfold ingestUnowned
    dsimp only
    split
    · exact ih
    · exact .bind writes_revokeForTraffic fun _ => .bind ih fun _ => .pure _

end Revoking

variable {row : NatsProcessedMsgLog} {message : TrafficMessage} {items : List UserTrafficIn}

section Outcome

variable {S : Committed engine → Prop} {t : Tx engine}

theorem outcome_flush : Outcome S t (flush ws) fun _ out => out = ws := by
  induction ws generalizing t with
  | nil => exact .ret rfl
  | cons _ _ ih =>
    refine .exec fun c _ => ?_
    exact ih.mono fun _ out hout => by rw [hout]; rfl

/-- Phase 2 writes the counters it read, increased, and revocations. -/
theorem outcome_ingestSubscriptions
    (ht : ∀ w ∈ t.writes, Database.Part.of w ≠ .columns ∧ Database.Part.of w ≠ .billing) :
    Outcome S t (ingestSubscriptions deltas now) fun _ ws => ∃ subscriptions rest,
      (deltas ≠ [] → ∃ c, S c ∧ subscriptions = c.state.subscriptionsByIds (deltas.map Prod.fst)) ∧
      (∀ w ∈ rest, w.IsRevocation) ∧
      ws = subscriptionUpdates (countedSubscriptions deltas subscriptions) ++ rest := by
  unfold ingestSubscriptions
  split
  · rename_i hnone
    exact .ret ⟨[], [], fun h => absurd hnone h, by simp, rfl⟩
  · refine Outcome.exec fun c hc => ?_
    have hcolumns : (t.view c.state).columns = c.state.columns :=
      same_foldl .columns fun w hw => (ht w hw).1
    have hbilling : (t.view c.state).billing = c.state.billing :=
      same_foldl .billing fun w hw => (ht w hw).2
    have hread : (t.view c.state).subscriptionsByIds (deltas.map Prod.fst) =
        c.state.subscriptionsByIds (deltas.map Prod.fst) := by
      unfold Database.subscriptionsByIds
      rw [hcolumns]
      refine congrArg (filterMap · _) ?_
      funext row
      simp only [Database.joinSubscription, hbilling]
    refine .bind outcome_flush fun _ first mid _ hfirst => ?_
    have hrevokes : ∀ exceeded : List Uuid, Outcome S mid (do
        if exceeded ≠ [] then invalidateBySubscriptionIds exceeded
        revokeExceeded now exceeded) fun _ ws => ∀ w ∈ ws, w.IsRevocation := by
      intro exceeded
      refine Writes.outcome ?_
      dsimp only
      split
      · exact .bind writes_invalidateBySubscriptionIds fun _ => writes_revokeExceeded
      · exact writes_revokeExceeded
    refine (hrevokes _).mono fun _ rest hrest => ?_
    refine ⟨_, rest, fun _ => ⟨c, hc, rfl⟩, hrest, ?_⟩
    rw [hfirst, ← hread]
    simp [writes, Tx.reply, answer, Function.comp_def]

theorem part_keyUpdates (h : w ∈ keyUpdates keys tally) : Database.Part.of w = .keys := by
  obtain ⟨key, -, rfl⟩ := mem_map.mp h
  rfl

theorem part_subscriptionUpdates
    (h : w ∈ subscriptionUpdates counted) : Database.Part.of w = .columns := by
  obtain ⟨sub, -, rfl⟩ := mem_map.mp h
  rfl

/-- What follows the loop over the items. -/
theorem outcome_afterTally (hc : S c)
    (hkeys : keys = c.state.keysByClientIds (items.map UserTrafficIn.identifier) now)
    (ht : ∀ w ∈ t.writes, Database.Part.of w = .messages) :
    Outcome S t (do
      let tally := tallyOf keys items
      flush (keyUpdates keys tally)
      let owned ← ingestSubscriptions tally.deltas now
      let unowned ← ingestUnowned now tally.keys
      if tally.history ≠ [] then execute (.insertTrafficUsage tally.history)
      pure (⟨tally.processed, owned + unowned⟩ : IngestOut)) fun _ =>
      Ingested S now items := by
  refine .bind outcome_flush fun _ first mid hreach hfirst => ?_
  have hmid : ∀ w ∈ mid.writes, Database.Part.of w ≠ .columns ∧ Database.Part.of w ≠ .billing := by
    intro w hw
    rw [hreach.writes_eq, mem_append] at hw
    rcases hw with hold | hnew
    · simp [ht w hold]
    · simp [part_keyUpdates (hfirst ▸ hnew)]
  refine .bind (outcome_ingestSubscriptions hmid) fun owned second _ _ hsecond => ?_
  refine .bind writes_ingestUnowned.outcome fun unowned third _ _ hthird => ?_
  obtain ⟨subscriptions, revoked, hloaded, hrevoked, rfl⟩ := hsecond
  have hrest : ∀ w ∈ revoked ++ third, w.IsRevocation := by
    simpa [or_imp, forall_and] using And.intro hrevoked hthird
  have hingested := Ingested.counted c hc hkeys hloaded hrest
  rw [hfirst]
  dsimp only
  split
  · rename_i hhistory
    refine .exec fun _ _ => .ret ?_
    simpa [historyWrites, hhistory, writes] using hingested
  · rename_i hhistory
    refine .ret ?_
    simpa [historyWrites, not_not.mp hhistory] using hingested

/-- What a call writes, if its transaction has written neither keys nor subscriptions before. -/
theorem outcome_ingestUsersTraffic (ht : ∀ w ∈ t.writes, Database.Part.of w = .messages) :
    Outcome S t (ingestUsersTraffic items) fun _ =>
      Ingested S t.session.billing.now items := by
  unfold ingestUsersTraffic
  split
  · rename_i hitems
    exact .ret (.unknown (.inl hitems))
  refine .exec fun c₀ _ => ?_
  refine .exec fun c hc => ?_
  have hkeys : ((t.after c₀ (.billing .now)).view c.state).keys = c.state.keys := by
    refine same_foldl .keys fun w hw => ?_
    have hold : w ∈ t.writes := by simpa [writes, Billing.Stmt.writes] using hw
    simp [ht w hold]
  have hread : ((t.after c₀ (.billing .now)).view c.state).keysByClientIds
      (items.map UserTrafficIn.identifier) t.session.billing.now =
      c.state.keysByClientIds (items.map UserTrafficIn.identifier) t.session.billing.now := by
    unfold Database.keysByClientIds
    rw [hkeys]
  dsimp only
  split
  · rename_i hnone
    exact .ret (.unknown (.inr ⟨c, hc, hread.symm.trans hnone⟩))
  · refine outcome_afterTally hc hread ?_
    intro w hw
    exact ht w (by simpa [writes, Billing.Stmt.writes] using hw)

/-- A call changes the counters, the revocations and the history. -/
theorem Ingested.part (h : Ingested S now items ws) (hw : w ∈ ws) :
    Database.Part.of w ∈ [.keys, .columns, .placements, .outbox, .trafficUsage] := by
  cases h with
  | unknown => simp at hw
  | counted _ _ _ _ hrest =>
    simp only [mem_append] at hw
    rcases hw with hkey | hsub | hrevoked | hhistory
    · simp [part_keyUpdates hkey]
    · simp [part_subscriptionUpdates hsub]
    · have hw := hrest w hrevoked
      cases w <;> simp_all [IsRevocation, Database.Part.of]
    · unfold historyWrites at hhistory
      split at hhistory
      · simp at hhistory
      · simp [mem_singleton.mp hhistory, Database.Part.of]

theorem dedupRow_msgId (h : message.dedupRow = some row) : row.msgId ≠ "" := by
  obtain ⟨msgId, hmsgId, rfl⟩ := map_eq_some_iff.mp h
  simpa using (filter_eq_some_iff.mp hmsgId).2

/-- A delivery of a message that carries an id: the items are added under the claim. -/
theorem handleMessage_claiming (hitems : message.items ≠ []) (hrow : message.dedupRow = some row) :
    handleMessage message = (do
      let free ← Program.perform (S := engine.toSignature) (.lockMessage row)
      if free then do
        execute (.insertMessage row)
        let _ ← ingestUsersTraffic message.items
        pure ()
      else pure ()) := by
  simp only [handleMessage, if_neg hitems, hrow, claim, if_neg (dedupRow_msgId hrow)]
  refine congrArg (Program.exec _) (funext fun free => ?_)
  cases free <;> rfl

/-- A delivery commits the claim of its message together with what its items add, or nothing if
there is nothing to add or somebody else has claimed the message. -/
theorem outcome_handleMessage (hrow : message.dedupRow = some row) (session : Session) :
    Outcome S (Tx.start session) (handleMessage message) fun _ ws =>
      (ws = [] ∧ (message.items = [] ∨ ∃ c, S c ∧ (c.state.messages.find? row).isSome)) ∨
        ∃ rest, ws = .insertMessage row :: rest ∧
          Ingested S session.billing.now message.items rest := by
  by_cases hitems : message.items = []
  · rw [handleMessage, if_pos hitems]
    exact .ret (.inl ⟨rfl, .inl hitems⟩)
  rw [handleMessage_claiming hitems hrow]
  refine .exec fun c hc => ?_
  dsimp only
  split
  · refine .exec fun c' hc' => ?_
    refine .bind (outcome_ingestUsersTraffic ?_)
      fun _ rest _ _ hrest => .ret (.inr ⟨rest, by simp [writes], hrest⟩)
    intro w hw
    simp only [Tx.after_writes, Tx.start_writes, writes, nil_append, mem_singleton] at hw
    rw [hw]
    rfl
  · rename_i hclaimed
    refine .ret (.inl ⟨rfl, .inr ⟨c, hc, ?_⟩⟩)
    simpa [Tx.reply, answer, ← ne_none_iff_isSome] using hclaimed

end Outcome

end VpnControl.Vpn

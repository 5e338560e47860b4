/-
# Publishing the outbox

`_publish_outbox_batch` claims some rows of the outbox, hands each of them to JetStream and marks
it as published or failed, all in one transaction around the side effect. Any number of
processes do so at once, next to transactions that enqueue rows. A publish may fail with or
without the message being taken, and a process may crash at any point.

The rows of a batch are locked from the claim to the commit, so what happens to them can be
followed through the batch row by row.
-/

import VpnControl.Agent.Snapshots

namespace VpnControl.Agent

open Txn List
open Billing (Uuid Time seconds)
open Table Database Tx Protocol

/-! ## The publisher -/

/-- `NodeTransportOutboxRepository.enqueue_many`. -/
def enqueueMany (rows : List NodeTransportOutbox) : Service Unit :=
  if rows = [] then pure ()
  else do
    let free ← perform (.lookFree (rows.map fun row => .outbox row.messageId))
    (rows.filter fun row => .outbox row.messageId ∈ free).forM fun row =>
      execute (.insertOutbox row)

/-- `NodeTransportOutboxRepository.claim_batch`. -/
def claimBatch (now : Time) (limit : ℕ) : Service (List NodeTransportOutbox) := do
  let skipped ← perform .skipLocked
  let rows ← perform (.claim now limit skipped)
  if rows = [] then pure []
  else do
    execute (.updateOutbox (rows.map (·.messageId)) .claim)
    pure rows

/-- `mark_published`. -/
def markPublished (messageId : String) (publishedAt : Time) : Service Unit :=
  execute (.updateOutbox [messageId] (.published publishedAt))

/-- `mark_failed`. -/
def markFailed (messageId : String) (error : String) (nextRetryAt : Time) : Service Unit :=
  execute (.updateOutbox [messageId] (.failed error nextRetryAt))

/-- The part of `_publish_outbox_batch` that publishes the payload of a row and marks the row.
The reply says whether it has been published. -/
def publishAndMark (row : NodeTransportOutbox) (emittedAt : Time) (payload : MessagePayload)
    (commandNode : Option Uuid) : Service Bool := do
  let message : Message := { subject := row.subject, payload := payload, msgId := row.messageId }
  match ← perform (.publish message) with
  | .error error => do
      markFailed row.messageId error (emittedAt + seconds 5)
      pure false
  | .ok _ => do
      markPublished row.messageId emittedAt
      match commandNode with
      | some node => do
          touchCommand node row.messageId emittedAt
          pure true
      | none => pure true

/-- The event that is published for a command. -/
def commandEvent (row : NodeTransportOutbox) (emittedAt : Time) (state : NodeTransportState)
    (payload : Vpn.PlacementCommandPayload) : PlacementCommandEvent where
  emittedAt := emittedAt
  snapshotId := state.lastSnapshotId
  epoch := state.currentEpoch
  eventId := row.messageId
  command := payload

/-- One turn of the loop of `_publish_outbox_batch`. -/
def publishRow (row : NodeTransportOutbox) : Service Bool := do
  let emittedAt ← datetimeNow
  match row.eventType, row.payload with
  | .upstreamChanged, payload | .poolChanged, payload =>
    publishAndMark row emittedAt (.raw payload) none
  | .placementCommand, .json _ => raise .validationError
  | .placementCommand, .command payload => do
      let state ← getOrCreate payload.nodeId
      publishAndMark row emittedAt (.command (commandEvent row emittedAt state payload))
        (some payload.nodeId)

/-- The loop of `_publish_outbox_batch`, which counts what has been published. -/
def publishRows : List NodeTransportOutbox → Service ℕ
  | [] => pure 0
  | row :: rest => do
      let published ← publishRow row
      let others ← publishRows rest
      pure (others + if published then 1 else 0)

/-- `_publish_outbox_batch`. -/
def publishOutboxBatch (cfg : RuntimeConfig) : Service ℕ := do
  let now ← datetimeNow
  let rows ← claimBatch now cfg.outboxBatchSize
  publishRows rows

/-! ## Delivered rows -/

/-- The columns that say what a row is about. -/
structure NodeTransportOutbox.SameContent (first second : NodeTransportOutbox) : Prop where
  messageId : first.messageId = second.messageId
  subject : first.subject = second.subject
  payload : first.payload = second.payload

variable {first : NodeTransportOutbox} {db : Database} {w : Write}

theorem NodeTransportOutbox.SameContent.trans
    (h : first.SameContent second) (h' : second.SameContent third) : first.SameContent third :=
  ⟨h.messageId.trans h'.messageId, h.subject.trans h'.subject, h.payload.trans h'.payload⟩

theorem OutboxChange.sameContent_set (change : OutboxChange) (row : NodeTransportOutbox) :
    (change.set row).SameContent row := by
  cases change with
  | retry =>
    simp only [OutboxChange.set]
    split <;> exact ⟨rfl, rfl, rfl⟩
  | _ => exact ⟨rfl, rfl, rfl⟩

/-- The message carries the payload of the row under its message id. -/
def Message.Carries (message : Message) (row : NodeTransportOutbox) : Prop :=
  message.msgId = row.messageId ∧ message.subject = row.subject ∧
    match message.payload with
    | .raw payload => payload = row.payload
    | .command event => .command event.command = row.payload
    | .chunk _ => False
    | .upstream .. => False

theorem Message.Carries.congr {message : Message}
    (h : message.Carries second) (hsame : first.SameContent second) : message.Carries first := by
  obtain ⟨hid, hsubject, hpayload⟩ := h
  refine ⟨hid.trans hsame.messageId.symm, hsubject.trans hsame.subject.symm, ?_⟩
  rw [hsame.payload]
  exact hpayload

/-- No row is left as being published, and those that are published have been taken by
JetStream. -/
def Delivered (accepted : Message → Prop) (db : Database) : Prop :=
  ∀ row ∈ db.outbox.rows, row.status ≠ .publishing ∧
    (row.status = .published → ∃ message, accepted message ∧ message.Carries row)

/-! ## Enqueuing -/

/-- The write leaves the outbox alone, enqueues a row or lets failed rows be tried again. -/
def Write.Enqueues : Write → Prop
  | insertOutbox row => row.status = .pending
  | updateOutbox _ change => change = .retry
  | _ => True

/-- Every write of the statement does so. -/
def Enqueuing (op : Stmt) : Prop := ∀ w ∈ op.writes, w.Enqueues

theorem enqueuing_of_writes (h : op.writes = []) : Enqueuing op :=
  fun _ hw => absurd (h ▸ hw) not_mem_nil

theorem enqueuing_write (h : w.Enqueues) : Enqueuing (.write w) :=
  fun _ hw => mem_singleton.mp hw ▸ h

theorem enqueuing_enqueueMany {rows : List NodeTransportOutbox}
    (h : ∀ row ∈ rows, row.status = .pending) : (enqueueMany rows).Every Enqueuing := by
  unfold enqueueMany
  split
  · trivial
  · refine .bind ⟨enqueuing_of_writes rfl, fun _ => trivial⟩ fun free => .forM fun row hrow => ?_
    exact ⟨enqueuing_write (h row (mem_filter.mp hrow).1), fun _ => trivial⟩

theorem enqueuing_getOrCreate : (getOrCreate node).Every Enqueuing :=
  every_getOrCreate (fun _ => enqueuing_of_writes rfl) (enqueuing_of_writes rfl)
    (enqueuing_of_writes rfl) (enqueuing_write trivial)

/-- A row of the outbox after a write that enqueues: it was there, or it is pending. -/
theorem Write.Enqueues.find? (h : w.Enqueues) (db : Database)
    (hrow : (db.apply w).outbox.find? messageId = some row) :
    db.outbox.find? messageId = some row ∨ row.status = .pending := by
  cases w with
  | insertOutbox =>
    rcases find?_insert_eq_some hrow with hold | ⟨-, rfl⟩
    · exact .inl hold
    · exact .inr h
  | updateOutbox messageIds change =>
    obtain rfl : change = .retry := h
    obtain ⟨old, hold, ⟨-, rfl⟩ | ⟨-, rfl⟩⟩ := exists_of_find?_modifyMany
      (OutboxChange.set .retry) (OutboxChange.set_messageId .retry) hrow
    · by_cases hstatus : old.status = .failed
      · simp [OutboxChange.set, hstatus]
      · simp [OutboxChange.set, hstatus, hold]
    · exact .inl hold
  | _ => exact .inl hrow

theorem Database.exists_sameContent_apply (h : db.outbox.find? messageId = some row) :
    ∃ new, (db.apply w).outbox.find? messageId = some new ∧ new.SameContent row := by
  have hrefl : row.SameContent row := ⟨rfl, rfl, rfl⟩
  cases w with
  | insertOutbox => exact ⟨row, find?_insert_of_some h, hrefl⟩
  | updateOutbox messageIds change =>
    have hafter := Table.find?_modifyWhere change.set change.set_messageId db.outbox
      (·.messageId ∈ messageIds) messageId
    rw [h] at hafter
    refine ⟨_, hafter, ?_⟩
    dsimp only
    split
    · exact change.sameContent_set row
    · exact hrefl
  | _ => exact ⟨row, h, hrefl⟩

theorem Database.exists_sameContent_foldl {ws : List Write}
    (h : db.outbox.find? messageId = some row) :
    ∃ new, (ws.foldl Database.apply db).outbox.find? messageId = some new ∧
      new.SameContent row := by
  refine foldlRecOn (motive := fun db : Database => ∃ new,
    db.outbox.find? messageId = some new ∧ new.SameContent row) ws _ ⟨row, h, rfl, rfl, rfl⟩ ?_
  rintro db ⟨mid, hmid, hsame⟩ w -
  obtain ⟨new, hnew, hsame'⟩ := exists_sameContent_apply hmid
  exact ⟨new, hnew, hsame'.trans hsame⟩

/-! ## The rows of a batch -/

/-- What may become of a row that the transaction sees: it is as it is committed, or it waits for
a publisher, or JetStream has taken its message. -/
def Settled (t : Tx engine) (c : Committed engine) (row : NodeTransportOutbox) : Prop :=
  c.state.outbox.find? row.messageId = some row ∨ row.status = .pending ∨ row.status = .failed ∨
    row.status = .published ∧ ∃ message ∈ t.session.accepted, message.Carries row

/-- All rows but those under the message ids of `left` are settled. -/
structure Settling (left : List String) (t : Tx engine) (c : Committed engine) : Prop where
  locked : t.WritesLocked
  settled : ∀ messageId row, (t.view c.state).outbox.find? messageId = some row →
    messageId ∈ left ∨ Settled t c row

/-- The transaction has locked the rows and sees them with the same contents. -/
def Claims (rows : List NodeTransportOutbox) (t : Tx engine) (c : Committed engine) : Prop :=
  ∀ row ∈ rows, .outbox row.messageId ∈ t.keys ∧
    ∃ current, (t.view c.state).outbox.find? row.messageId = some current ∧ current.SameContent row

section Assertions

variable {P : Protocol engine} {left : List String} {rows : List NodeTransportOutbox}
  {t : Tx engine} {c : Committed engine}

theorem stable_settling : P.Stable (Settling left) := by
  intro t c later hrely h
  refine ⟨h.locked, fun messageId row hrow => ?_⟩
  have hid : row.messageId = messageId := key_of_find? hrow
  by_cases hkey : (.outbox messageId : RowKey) ∈ t.keys
  · -- the row is locked, so it is as it was
    have hview : (t.view c.state).outbox.find? messageId = some row :=
      .trans (view_sameRow t (hrely.sameRow hkey)) hrow
    refine (h.settled messageId row hview).imp_right fun hsettled => ?_
    refine hsettled.imp_left fun hold => ?_
    rw [hid] at hold ⊢
    exact .trans (.symm (hrely.sameRow hkey)) hold
  · -- the transaction has not written it
    refine .inr (.inl ?_)
    rw [hid]
    exact .trans (sameRow_view t fun w hw htouch => hkey (h.locked w hw _ htouch)) hrow

theorem stable_claims : P.Stable (Claims rows) := by
  intro t c later hrely h row hmem
  obtain ⟨hkey, current, hcurrent, hsame⟩ := h row hmem
  exact ⟨hkey, current, .trans (.symm (view_sameRow t (hrely.sameRow hkey))) hcurrent, hsame⟩

theorem Settled.after (h : Settled t c row) (op : Stmt) : Settled (t.after c op) c row := by
  refine h.imp_right (.imp_right (.imp_right (.imp_right ?_)))
  rintro ⟨message, hmem, hcarries⟩
  exact ⟨message, mem_accepted_answer hmem, hcarries⟩

theorem Settling.after (h : Settling left t c) (hop : Enqueuing op) :
    Settling left (t.after c op) c := by
  refine ⟨h.locked.after c op, fun messageId row hrow => ?_⟩
  rw [view_after] at hrow
  have hback : (t.view c.state).outbox.find? messageId = some row ∨ row.status = .pending :=
    foldlRecOn (motive := fun db : Database => db.outbox.find? messageId = some row → _)
      op.writes _ .inl (fun db ih w hw hfound => ((hop w hw).find? db hfound).elim ih .inr) hrow
  rcases hback with hold | hpending
  · exact (h.settled messageId row hold).imp_right fun hsettled => hsettled.after op
  · exact .inr (.inr (.inl hpending))

theorem Claims.after (h : Claims rows t c) (op : Stmt) : Claims rows (t.after c op) c := by
  intro row hmem
  obtain ⟨hkey, current, hcurrent, hsame⟩ := h row hmem
  obtain ⟨new, hnew, hcontent⟩ := exists_sameContent_foldl hcurrent
  refine ⟨keys_subset_after hkey, new, ?_, hcontent.trans hsame⟩
  rw [view_after]
  exact hnew

/-- After an `UPDATE` the rows it has changed have to be settled anew. -/
theorem Settling.update (h : Settling left t c) (hleft : ∀ id ∈ left, id ∉ messageIds → id ∈ left')
    (hnew : ∀ row, row.messageId ∈ messageIds →
      (t.view c.state).outbox.find? row.messageId = some row →
      row.messageId ∈ left' ∨ Settled (t.after c (.write (.updateOutbox messageIds change))) c
        (change.set row)) :
    Settling left' (t.after c (.write (.updateOutbox messageIds change))) c := by
  refine ⟨h.locked.after c _, fun messageId row hrow => ?_⟩
  rw [view_after] at hrow
  obtain ⟨old, hold, hcase⟩ := exists_of_find?_modifyMany change.set change.set_messageId hrow
  obtain rfl : old.messageId = messageId := key_of_find? hold
  rcases hcase with ⟨hmem, rfl⟩ | ⟨hnot, rfl⟩
  · exact hnew old hmem hold
  · exact (h.settled _ row hold).imp (fun hin => hleft _ hin hnot) fun hsettled => hsettled.after _

end Assertions

/-! ## What a publisher does -/

section Publisher

variable {P : Protocol engine}

/-- A publisher with the rows `rows` before it. -/
def InBatch (rows : List NodeTransportOutbox) : Assertion engine := fun t c =>
  Settling (rows.map (·.messageId)) t c ∧ Claims rows t c

variable {row : NodeTransportOutbox} {rest rows : List NodeTransportOutbox}

theorem stable_inBatch : P.Stable (InBatch rows) := stable_settling.and stable_claims

theorem InBatch.after (h : InBatch rows t c) (hop : Enqueuing op) : InBatch rows (t.after c op) c :=
  ⟨h.1.after hop, h.2.after op⟩

theorem keeps_inBatch {p : Service α} (hp : p.Every Enqueuing) : P.Keeps (InBatch rows) p :=
  keeps_of_every stable_inBatch (fun _ hop _ _ _ _ h => h.after hop) hp

/-- The row has been dealt with when it is marked and its new value is settled. -/
theorem InBatch.mark (h : InBatch (row :: rest) t c)
    (hnew : ∀ current, (t.view c.state).outbox.find? row.messageId = some current →
      current.SameContent row →
      Settled (t.after c (.write (.updateOutbox [row.messageId] change))) c (change.set current)) :
    InBatch rest (t.after c (.write (.updateOutbox [row.messageId] change))) c := by
  refine ⟨h.1.update (fun id hid hother => ?_) fun current hmem hcurrent => .inr ?_, ?_⟩
  · exact (mem_cons.mp hid).resolve_left fun heq => hother (by simp [heq])
  · have hid : current.messageId = row.messageId := mem_singleton.mp hmem
    rw [hid] at hcurrent
    obtain ⟨-, found, hfound, hsame⟩ := h.2 row (by simp)
    obtain rfl : found = current := Option.mem_unique hfound hcurrent
    exact hnew found hcurrent hsame
  · exact Claims.after (fun other hother => h.2 other (mem_cons_of_mem _ hother)) _

theorem triple_publishAndMark
    (hcarries : Message.Carries ⟨row.subject, payload, row.messageId⟩ row) :
    P.Ensures (InBatch (row :: rest)) (publishAndMark row emittedAt payload node)
      fun _ => InBatch rest := by
  -- an acknowledged message is among those that have been taken
  have hB : ∀ reply : Except String Unit, P.Stable fun t c => InBatch (row :: rest) t c ∧
      (reply = .ok () → ⟨row.subject, payload, row.messageId⟩ ∈ t.session.accepted) :=
    fun _ => stable_inBatch.and (stable_const _)
  refine triple_bind (triple_perform stable_inBatch hB fun t c _ _ h =>
    ⟨h.after (enqueuing_of_writes rfl), fun hok => ?_⟩) fun reply => ?_
  · simp only [Tx.reply, after_session, Stmt.answer, Session.publish] at hok ⊢
    split at hok
    · simp
    · cases hok
  cases reply with
  | error error =>
    refine triple_bind (B := fun _ => InBatch rest) ?_ fun _ =>
      triple_ret stable_inBatch fun _ _ h => h
    exact triple_perform (hB _) (fun _ => stable_inBatch) fun t c _ _ h =>
      h.1.mark fun _ _ _ => .inr (.inr (.inl rfl))
  | ok value =>
    refine triple_bind (B := fun _ => InBatch rest) ?_ fun _ => ?_
    · refine triple_perform (hB _) (fun _ => stable_inBatch) fun t c _ _ h => ?_
      refine h.1.mark fun current _ hsame => .inr (.inr (.inr ⟨rfl, _, ?_, hcarries.congr ?_⟩))
      · exact mem_accepted_answer (h.2 rfl)
      · exact ((OutboxChange.published emittedAt).sameContent_set current).trans hsame
    cases node with
    | none => exact triple_ret stable_inBatch fun _ _ h => h
    | some node =>
      refine triple_bind (B := fun _ => InBatch rest) ?_ fun _ =>
        triple_ret stable_inBatch fun _ _ h => h
      exact Keeps.ensures (keeps_inBatch (.bind enqueuing_getOrCreate fun _ =>
        ⟨enqueuing_write trivial, fun _ => trivial⟩))

/-- A statement that writes nothing keeps the batch. -/
theorem triple_ask (hop : op.writes = []) :
    P.Ensures (InBatch rows) (perform op : Service _) fun _ => InBatch rows :=
  triple_perform stable_inBatch (fun _ => stable_inBatch) fun _ _ _ _ h =>
    h.after (enqueuing_of_writes hop)

theorem triple_publishRow :
    P.Ensures (InBatch (row :: rest)) (publishRow row) fun _ => InBatch rest := by
  refine triple_bind (triple_ask rfl) fun emittedAt => ?_
  cases htype : row.eventType with
  | upstreamChanged => exact triple_publishAndMark ⟨rfl, rfl, rfl⟩
  | poolChanged => exact triple_publishAndMark ⟨rfl, rfl, rfl⟩
  | placementCommand =>
    cases hpayload : row.payload with
    | json => exact triple_raise stable_inBatch fun _ _ _ => trivial
    | command payload =>
      exact triple_bind (keeps_inBatch enqueuing_getOrCreate).ensures fun state =>
        triple_publishAndMark ⟨rfl, rfl, hpayload.symm⟩

theorem triple_publishRows (rows : List NodeTransportOutbox) :
    P.Ensures (InBatch rows) (publishRows rows) fun _ => InBatch [] := by
  induction rows with
  | nil => exact triple_ret stable_inBatch fun _ _ h => h
  | cons _ _ ih =>
    exact triple_bind triple_publishRow fun _ =>
      triple_bind ih fun _ => triple_ret stable_inBatch fun _ _ h => h

theorem claims_claimable {t : Tx engine} :
    Claims (t.reply c (.claim now limit skipped)) (t.after c (.claim now limit skipped)) c := by
  intro row hrow
  refine ⟨mem_keys_after.mpr (.inr (mem_map_of_mem hrow)), row, ?_, ⟨rfl, rfl, rfl⟩⟩
  have hmem : row ∈ (t.view c.state).outbox.rows :=
    (mem_filter.mp ((mem_insertionSort _).mp (mem_of_mem_take hrow))).1
  rw [view_after]
  exact Table.find?_of_mem hmem

theorem triple_claimBatch : P.Ensures (InBatch []) (claimBatch now limit) InBatch := by
  refine triple_bind (triple_ask rfl) fun skipped => ?_
  have hB : ∀ rows, P.Stable fun t c => Settling [] t c ∧ Claims rows t c :=
    fun rows => stable_settling.and stable_claims
  refine triple_bind (triple_perform stable_inBatch hB fun t c _ _ h =>
    ⟨h.1.after (enqueuing_of_writes rfl), claims_claimable⟩) fun rows => ?_
  split
  · rename_i hempty
    subst hempty
    exact triple_ret (hB []) fun _ _ h => h
  · refine triple_bind (B := fun _ => InBatch rows) ?_ fun _ =>
      triple_ret stable_inBatch fun _ _ h => h
    exact triple_perform (hB rows) (fun _ => stable_inBatch) fun t c _ _ h =>
      ⟨h.1.update (fun _ hid => absurd hid not_mem_nil) fun _ hmem _ => .inl hmem, h.2.after _⟩

end Publisher

/-! ## Publishers among others -/

/-- Who uses the outbox: publishers, and transactions that enqueue rows, retry failed ones or
leave the outbox alone. -/
inductive OutboxUser
  | publisher
  | other (program : Service Unit) (enqueuing : program.Every Enqueuing)

def OutboxUser.program (cfg : RuntimeConfig) : OutboxUser → Service Unit
  | publisher => do
      let _ ← publishOutboxBatch cfg
      pure ()
  | other program _ => program

/-- The users are about to start, each with a new session. -/
def outboxUsers {ι : Type} (cfg : RuntimeConfig) (user : ι → OutboxUser) (db : Database)
    (deliveries : ι → ℕ → Delivery) (skipped : ι → List String) : System engine TransportError ι :=
  System.start ⟨db, []⟩ (fun i => (user i).program cfg) fun i =>
    Session.new (deliveries i) (skipped i)

theorem inBatch_start {session : Session} : InBatch [] (Tx.start session) c := by
  refine ⟨⟨writesLocked_start session, fun messageId row hrow => .inr (.inl ?_)⟩, ?_⟩
  · have hid : row.messageId = messageId := key_of_find? hrow
    rw [hid]
    exact hrow
  · exact fun _ hrow => absurd hrow not_mem_nil

theorem OutboxUser.wp_program {P : Protocol engine} (cfg : RuntimeConfig) (user : OutboxUser)
    (session : Session) (c : Committed engine) :
    P.wp (user.program cfg) (fun _ => InBatch []) (fun _ _ _ => True) (Tx.start session) c := by
  cases user with
  | publisher =>
    refine triple_bind (triple_bind (triple_ask rfl) fun now =>
      triple_bind triple_claimBatch triple_publishRows) (fun _ => ?_) _ c inBatch_start
    exact triple_ret stable_inBatch fun _ _ h => h
  | other _ henqueuing => exact (keeps_inBatch henqueuing).ensures _ c inBatch_start

/-- The messages that JetStream had taken before, and those that it has taken from transactions
that have committed since. -/
def AcceptedFrom {ι : Type} (history : Message → Prop) (done : ι → Option (Tx engine))
    (message : Message) : Prop :=
  history message ∨ ∃ i, ∃ t ∈ done i, message ∈ t.session.accepted

/-- A commit of a user keeps the outbox delivered. -/
theorem Delivered.commit [DecidableEq ι] {history : Message → Prop}
    {done : ι → Option (Tx engine)} {c : Committed engine}
    (h : Delivered (AcceptedFrom history done) c.state) (hopen : done j = none)
    (hbatch : InBatch [] t c) :
    Delivered (AcceptedFrom history (Function.update done j (some t))) (t.view c.state) := by
  intro row hrow
  have hfound := Table.find?_of_mem hrow
  rcases (hbatch.1.settled _ row hfound).resolve_left not_mem_nil with
    hold | hpending | hfailed | ⟨hpublished, message, hmem, hcarries⟩
  · obtain ⟨hstatus, haccepted⟩ := h row (mem_of_find? hold)
    refine ⟨hstatus, fun hpublished => ?_⟩
    obtain ⟨message, hmessage, hcarries⟩ := haccepted hpublished
    refine ⟨message, hmessage.imp_right ?_, hcarries⟩
    rintro ⟨i, u, hu, hmem⟩
    have hne : i ≠ j := by
      rintro rfl
      rw [hopen] at hu
      cases hu
    exact ⟨i, u, by rwa [Function.update_of_ne hne], hmem⟩
  · simp [hpending]
  · simp [hfailed]
  · exact ⟨by simp [hpublished], fun _ => ⟨message, .inr ⟨j, t, by simp, hmem⟩, hcarries⟩⟩

/-- **Outbox rows are not lost.** Publishers and transactions that enqueue run in any
interleaving, publishes fail, and processes crash at any point. In every committed state no row
is being published, every row that is published has been taken by JetStream under its message
id, and every row of the beginning is still there. -/
theorem outbox_not_lost {ι : Type} [Fintype ι] [DecidableEq ι] (cfg : RuntimeConfig)
    (user : ι → OutboxUser) (db : Database) (deliveries : ι → ℕ → Delivery)
    (skipped : ι → List String) (history : Message → Prop) (hdb : Delivered history db)
    {later : System engine TransportError ι}
    (hrun : System.Runs (fun _ _ _ => True) (outboxUsers cfg user db deliveries skipped) later) :
    Delivered (AcceptedFrom history later.committed?) later.db.state ∧
      ∀ row ∈ db.outbox.rows, ∃ new ∈ later.db.state.outbox.rows, new.SameContent row := by
  let P : Protocol engine := .along (fun _ => True) fun _ _ _ => True
  have hmeets : P.Meets (fun _ => InBatch []) (outboxUsers cfg user db deliveries skipped) :=
    meets_start trivial fun i => (user i).wp_program cfg _ _
  have hstart : Delivered (AcceptedFrom history
      (outboxUsers cfg user db deliveries skipped).committed?) db := by
    intro row hrow
    refine (hdb row hrow).imp_right fun hpublished hstatus => ?_
    obtain ⟨message, hmessage, hcarries⟩ := hpublished hstatus
    exact ⟨message, .inl hmessage, hcarries⟩
  obtain ⟨-, ⟨ws, hdb'⟩, -, hdelivered⟩ := hmeets.commits (H := fun _ _ _ => True)
    (J := fun done c => Delivered (AcceptedFrom history done) c.state) hstart
    (fun _ _ _ _ _ _ _ _ _ _ _ => trivial) (fun _ _ _ _ _ _ => trivial)
    (fun done j t c _ hJ hopen hbatch _ => ⟨trivial, ⟨t.writes, rfl⟩, hJ.commit hopen hbatch⟩) hrun
  refine ⟨hdelivered, fun row hrow => ?_⟩
  obtain ⟨new, hnew, hsame⟩ := exists_sameContent_foldl (Table.find?_of_mem hrow)
  exact ⟨new, hdb' ▸ mem_of_find? hnew, hsame⟩

/-! ## A row that fails once -/

section Retry

private def demoSettings : RuntimeConfig where
  subjects := ⟨"cmd", "res", "snap"⟩
  outboxBatchSize := 10
  isoformat := toString
  parseUuid _ := none

private def demoEmpty : Database where
  clock := 0
  vpn := .empty
  states := Table.empty
  outbox := Table.empty
  eventLog := Table.empty

private def demoRow : NodeTransportOutbox where
  id := 1
  messageId := "pool-changed:7:1"
  nodeId := 7
  eventType := .poolChanged
  subject := "cmd.7"
  payload := .json "pool"
  createdAt := 0

/-- One transaction enqueues the row, a publisher fails, the row is retried, and another
publisher succeeds. -/
private def demoUser : Fin 4 → OutboxUser
  | 0 => .other (enqueueMany [demoRow]) (enqueuing_enqueueMany (by simp [demoRow]))
  | 1 => .publisher
  | 2 => .other (execute (.updateOutbox [demoRow.messageId] .retry))
      ⟨enqueuing_write rfl, fun _ => trivial⟩
  | 3 => .publisher

private def demoDeliveries (i : Fin 4) (_ : ℕ) : Delivery :=
  if i = 1 then .failed "timeout" false else .acknowledged

theorem outbox_not_lost_after_retry : ∃ later, System.Runs (fun _ _ _ => True)
        (outboxUsers demoSettings demoUser demoEmpty demoDeliveries fun _ => []) later ∧
      (∃ row ∈ later.db.state.outbox.rows, row.messageId = demoRow.messageId ∧
        row.status = .published ∧ row.attempts = 2) ∧
      Delivered (AcceptedFrom (fun _ => False) later.committed?) later.db.state := by
  obtain ⟨later, hrun, hrow⟩ := System.exists_run_of_replay (fun _ _ _ => True)
    (outboxUsers demoSettings demoUser demoEmpty demoDeliveries fun _ => [])
    (List.replicate 3 (.step 0) ++ List.replicate 8 (.step 1) ++ List.replicate 2 (.step 2) ++
      List.replicate 8 (.step 3))
    (fun later => later.db.state.outbox.rows.any fun row => row.messageId = demoRow.messageId ∧
      row.status = .published ∧ row.attempts = 2) (by decide +kernel)
  refine ⟨later, hrun, by simpa using hrow, ?_⟩
  exact (outbox_not_lost demoSettings demoUser demoEmpty demoDeliveries (fun _ => [])
    (fun _ => False) (fun _ hrow => absurd hrow List.not_mem_nil) hrun).1

end Retry

end VpnControl.Agent

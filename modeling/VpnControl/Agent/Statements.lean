/-
# Statements of the node-agent transport

The part of the control plane that talks to the node agents over JetStream keeps three tables:
the outbox of messages, the log of the events it has processed, and one row for each node with
the epoch of its last snapshot. `NodeAgentRuntime` works on these tables and on the placements.

A session has an identity map. A `SELECT` of a row whose instance is in the map answers with the
instance, also under `FOR UPDATE`, so the answer may be older than the row. Only an `UPDATE` that
the session itself makes changes the instance.

JetStream is outside of the database. Whether it takes a message, and whether the caller learns
of it, is up to the session, which also remembers what has been taken.
-/

import VpnControl.Placements.Audience
import VpnControl.Placements.Repository

namespace VpnControl.Agent

open Txn Table
open Billing (Uuid Time)
open Vpn (UserPlacement PlacementDesiredState PlacementAppliedState PlacementCommandPayload)

/-! ## Rows -/

inductive OutboxStatus
  | pending | publishing | published | failed
  deriving DecidableEq, Repr

inductive EventType
  | placementCommand | upstreamChanged | poolChanged
  deriving DecidableEq, Repr

/-- The JSON of an outbox row: a placement command, or any other text. -/
inductive OutboxPayload
  | command (payload : PlacementCommandPayload)
  | json (text : String)
  deriving DecidableEq, Repr

/-- A row of `node_transport_outbox` with all its columns. A row is named by its `message_id`,
which is as unique as its `id`. -/
structure NodeTransportOutbox where
  id : Uuid
  messageId : String
  nodeId : Uuid
  eventType : EventType
  subject : String
  payload : OutboxPayload
  status : OutboxStatus := .pending
  attempts : ℕ := 0
  publishedAt : Option Time := none
  lastError : Option String := none
  nextRetryAt : Option Time := none
  createdAt : Time
  deriving DecidableEq, Repr

/-- A row of `node_transport_event_log`. -/
structure NodeTransportEventLog where
  eventId : String
  nodeId : Uuid
  eventType : String
  subject : Option String
  processedAt : Time
  deriving DecidableEq, Repr

structure NodeTransportState where
  nodeId : Uuid
  currentEpoch : ℕ := 0
  lastSnapshotId : Option String := none
  lastSnapshotRequestEventId : Option String := none
  lastSnapshotRequestedAt : Option Time := none
  lastSnapshotGeneratedAt : Option Time := none
  lastSnapshotReason : Option String := none
  lastCommandPublishedAt : Option Time := none
  lastCommandMessageId : Option String := none
  lastResultReceivedAt : Option Time := none
  lastResultEventId : Option String := none
  lastHeartbeatReceivedAt : Option Time := none
  lastSyncReportReceivedAt : Option Time := none
  deriving DecidableEq, Repr

instance : Row NodeTransportOutbox String := ⟨NodeTransportOutbox.messageId⟩
instance : Row NodeTransportEventLog String := ⟨NodeTransportEventLog.eventId⟩
instance : Row NodeTransportState Uuid := ⟨NodeTransportState.nodeId⟩

/-- The tables of the transport, those of the subscription service and the time. The outbox is
the one here, with all its columns. -/
structure Database where
  clock : Time
  vpn : Vpn.Database
  states : Table NodeTransportState
  outbox : Table NodeTransportOutbox
  eventLog : Table NodeTransportEventLog

/-! ## Writes -/

/-- What `reserve_snapshot_epoch` is called with. -/
structure SnapshotReserveIn where
  nodeId : Uuid
  requestEventId : String
  snapshotId : String
  snapshotReason : String
  requestedAt : Time
  generatedAt : Time
  deriving DecidableEq, Repr

/-- What the `UPDATE` of `reserve_snapshot_epoch` writes. -/
def SnapshotReserveIn.set (data : SnapshotReserveIn) (epoch : ℕ) (state : NodeTransportState) :
    NodeTransportState :=
  { state with
    currentEpoch := epoch
    lastSnapshotId := some data.snapshotId
    lastSnapshotRequestEventId := some data.requestEventId
    lastSnapshotRequestedAt := some data.requestedAt
    lastSnapshotGeneratedAt := some data.generatedAt
    lastSnapshotReason := some data.snapshotReason }

/-- What the `touch_` methods note. -/
inductive Touch
  | command (messageId : String) (time : Time)
  | result (eventId : String) (time : Time)
  | heartbeat (time : Time)
  | syncReport (time : Time)
  deriving DecidableEq, Repr

def Touch.set : Touch → NodeTransportState → NodeTransportState
  | command messageId time, state =>
    { state with lastCommandPublishedAt := some time, lastCommandMessageId := some messageId }
  | result eventId time, state =>
    { state with lastResultReceivedAt := some time, lastResultEventId := some eventId }
  | heartbeat time, state => { state with lastHeartbeatReceivedAt := some time }
  | syncReport time, state => { state with lastSyncReportReceivedAt := some time }

@[simp]
theorem Touch.set_nodeId (mark : Touch) (state : NodeTransportState) :
    (mark.set state).nodeId = state.nodeId := by
  cases mark <;> rfl

/-- The `UPDATE`s of outbox rows. -/
inductive OutboxChange
  /-- `claim_batch`. -/
  | claim
  /-- `mark_published`. -/
  | published (publishedAt : Time)
  /-- `mark_failed`. -/
  | failed (error : String) (nextRetryAt : Time)
  /-- `retry_outbox_item` and `retry_all_failed`. -/
  | retry
  deriving DecidableEq, Repr

def OutboxChange.set : OutboxChange → NodeTransportOutbox → NodeTransportOutbox
  | claim, row => { row with status := .publishing, attempts := row.attempts + 1 }
  | published publishedAt, row =>
    { row with
      status := .published
      publishedAt := some publishedAt
      nextRetryAt := none
      lastError := none }
  | failed error nextRetryAt, row =>
    { row with
      status := .failed
      lastError := some (.ofList (error.toList.take 4000))
      nextRetryAt := some nextRetryAt }
  | retry, row =>
    if row.status = .failed then
      { row with status := .pending, nextRetryAt := none, lastError := none }
    else row

@[simp]
theorem OutboxChange.set_messageId (change : OutboxChange) (row : NodeTransportOutbox) :
    (change.set row).messageId = row.messageId := by
  cases change with
  | retry => by_cases h : row.status = .failed <;> simp [OutboxChange.set, h]
  | _ => rfl

/-- The `UPDATE`s of placements. -/
inductive PlacementChange
  | redirect (desired : PlacementDesiredState) (reason : String) (now : Time)
  | setPending (new : UserPlacement)
  | resend (reason : Option String) (now : Time)
  | retry (now : Time)
  | moveTo (target : Uuid) (reason : Option String) (now : Time)
  | mergeFrom (source : UserPlacement) (reason : Option String) (now : Time)
  | retire (now : Time)
  | report (outcome : PlacementAppliedState) (now : Time)
  deriving DecidableEq, Repr

def PlacementChange.set : PlacementChange → UserPlacement → UserPlacement
  | redirect desired reason now => .redirect desired reason now
  | setPending new => new.setPending
  | resend reason now => .resend reason now
  | retry now => .retry now
  | moveTo target reason now => .moveTo target reason now
  | mergeFrom source reason now => .mergeFrom source reason now
  | retire now => .retire now
  | report outcome now => .report outcome now

@[simp]
theorem PlacementChange.set_id (change : PlacementChange) (placement : UserPlacement) :
    (change.set placement).id = placement.id := by
  cases change <;> rfl

/-- No change goes back to an older version. -/
theorem PlacementChange.opVersion_le_set (change : PlacementChange) (placement : UserPlacement) :
    placement.opVersion ≤ (change.set placement).opVersion := by
  cases change with
  | retire => exact Nat.le_refl _
  | report => exact Nat.le_refl _
  | _ => exact Nat.le_succ _

/-- One change of the tables. -/
inductive Write
  /-- Time goes on. -/
  | advance (duration : ℕ)
  | insertState (node : Uuid)
  | reserve (data : SnapshotReserveIn) (epoch : ℕ)
  | touch (node : Uuid) (mark : Touch)
  | insertOutbox (row : NodeTransportOutbox)
  | updateOutbox (messageIds : List String) (change : OutboxChange)
  | insertEvent (row : NodeTransportEventLog)
  | insertPlacement (row : UserPlacement)
  | updatePlacements (ids : List Uuid) (change : PlacementChange)
  /-- Any change of keys, nodes, assignments and the other tables behind VPN access. -/
  | changeOthers (change : Vpn.Database → Vpn.Database)

/-- The rows that statements lock. -/
inductive RowKey
  | state (node : Uuid)
  | outbox (messageId : String)
  | event (eventId : String)
  | placement (id : Uuid)
  deriving DecidableEq, Repr

def Write.touches : Write → List RowKey
  | advance _ => []
  | insertState node => [.state node]
  | reserve data _ => [.state data.nodeId]
  | touch node _ => [.state node]
  | insertOutbox row => [.outbox row.messageId]
  | updateOutbox messageIds _ => messageIds.map .outbox
  | insertEvent row => [.event row.eventId]
  | insertPlacement row => [.placement row.id]
  | updatePlacements ids _ => ids.map .placement
  | changeOthers _ => []

variable {key : RowKey}

namespace Database

/-- Carry out one write. -/
def apply (db : Database) : Write → Database
  | .advance duration => { db with clock := db.clock + duration }
  | .insertState node => { db with states := db.states.insert { nodeId := node } }
  | .reserve data epoch =>
    { db with states := db.states.modify data.nodeId (data.set epoch) fun _ => rfl }
  | .touch node mark => { db with states := db.states.modify node mark.set mark.set_nodeId }
  | .insertOutbox row => { db with outbox := db.outbox.insert row }
  | .updateOutbox messageIds change =>
    { db with
      outbox := db.outbox.modifyWhere (·.messageId ∈ messageIds) change.set change.set_messageId }
  | .insertEvent row => { db with eventLog := db.eventLog.insert row }
  | .insertPlacement row =>
    { db with vpn := { db.vpn with placements := db.vpn.placements.insert row } }
  | .updatePlacements ids change =>
    { db with
      vpn :=
        { db.vpn with
          placements := db.vpn.placements.modifyWhere (·.id ∈ ids) change.set change.set_id } }
  | .changeOthers change =>
    { db with vpn := { change db.vpn with placements := db.vpn.placements } }

/-- The row under a key is the same in both databases. -/
def SameRow : RowKey → Database → Database → Prop
  | .state node, first, second => first.states.find? node = second.states.find? node
  | .outbox messageId, first, second =>
    first.outbox.find? messageId = second.outbox.find? messageId
  | .event eventId, first, second => first.eventLog.find? eventId = second.eventLog.find? eventId
  | .placement id, first, second =>
    first.vpn.placements.find? id = second.vpn.placements.find? id

theorem sameRow_refl (key : RowKey) (db : Database) : SameRow key db db := by
  cases key <;> rfl

theorem sameRow_trans (h : SameRow key first second)
    (h' : SameRow key second third) : SameRow key first third := by
  cases key <;> exact Eq.trans h h'

/-- A write leaves the rows it does not touch alone. -/
theorem apply_frame (db : Database) (h : key ∉ write.touches) :
    SameRow key db (db.apply write) := by
  cases write <;> cases key <;> simp [Write.touches] at h <;> simp only [SameRow, apply] <;> first
  | exact (find?_modify_of_ne _ _ h).symm
  | exact (find?_modifyWhere_of_notMem _ _ h).symm
  | exact (find?_insert_of_ne h).symm

theorem apply_congr (write : Write) (h : SameRow key first second) :
    SameRow key (first.apply write) (second.apply write) := by
  cases write <;> cases key <;> simp only [SameRow, apply] at h ⊢ <;> first
  | exact h
  | exact find?_modify_congr _ _ h
  | exact find?_modifyWhere_congr _ _ h
  | exact find?_insert_congr h

/-- There is a row under the key. -/
def taken (db : Database) : RowKey → Bool
  | .state node => (db.states.find? node).isSome
  | .outbox messageId => (db.outbox.find? messageId).isSome
  | .event eventId => (db.eventLog.find? eventId).isSome
  | .placement id => (db.vpn.placements.find? id).isSome

/-- The rows that `claim_batch` selects, without those that are skipped. -/
def claimable (db : Database) (now : Time) (limit : ℕ) (skipped : List String) :
    List NodeTransportOutbox :=
  ((db.outbox.rows.filter fun row =>
    (row.status = .pending ∨ row.status = .failed) ∧ row.nextRetryAt.all (· ≤ now) ∧
      row.messageId ∉ skipped).insertionSort
    fun first second => first.createdAt < second.createdAt ∨
      first.createdAt = second.createdAt ∧ first.id ≤ second.id).take limit

end Database

/-! ## Messages -/

/-- A `PlacementCommandEvent`; the fields it shares with the payload of a command are those of
`command`. -/
structure PlacementCommandEvent where
  emittedAt : Time
  snapshotId : Option String
  epoch : ℕ
  eventId : String
  command : PlacementCommandPayload
  snapshotComplete : Bool := false
  deriving DecidableEq, Repr

structure SnapshotChunkEvent where
  nodeId : Uuid
  emittedAt : Time
  snapshotId : String
  epoch : ℕ
  chunkIndex : ℕ
  isLastChunk : Bool
  items : List PlacementCommandEvent
  deriving DecidableEq, Repr

inductive MessagePayload
  /-- The payload of an outbox row as it is. -/
  | raw (payload : OutboxPayload)
  | command (event : PlacementCommandEvent)
  | chunk (event : SnapshotChunkEvent)
  | upstream (node upstream : Uuid) (emittedAt : Time)
  deriving DecidableEq, Repr

/-- What `publish_jetstream` is called with. -/
structure Message where
  subject : String
  payload : MessagePayload
  msgId : String
  deriving DecidableEq, Repr

/-- What becomes of a message. When the caller gets an exception, JetStream may have taken the
message all the same. -/
inductive Delivery
  | acknowledged
  | failed (error : String) (taken : Bool)
  deriving DecidableEq, Repr

inductive TransportReportStatus
  | applied | pending | error | skippedStale | skippedIdempotent
  deriving DecidableEq, Repr

/-- The fields of a `PlacementApplyResultEvent` that are read. -/
structure PlacementApplyResultEvent where
  nodeId : String
  emittedAt : Time
  eventId : String
  placementId : Uuid
  opVersion : ℕ
  appliedState : PlacementAppliedState
  deriving DecidableEq, Repr

/-- What `reserve_snapshot_epoch` was asked for, what it returned, and the time of generation
that the row has with the epoch. -/
structure SnapshotReservation where
  nodeId : Uuid
  requestEventId : String
  epoch : ℕ
  snapshotId : String
  generatedAt : Option Time
  deriving DecidableEq, Repr

/-- What a method has found out or returned, noted for those who look at its transaction. -/
inductive Note
  /-- The commands of a snapshot, as they were listed. -/
  | listed (commands : List PlacementCommandPayload)
  | reserved (reservation : SnapshotReservation)
  /-- The answer to a result event. -/
  | answered (event : PlacementApplyResultEvent) (status : TransportReportStatus)
  deriving DecidableEq, Repr

/-! ## Sessions and statements -/

structure Session where
  /-- The identity map, for the rows of `node_transport_state`. -/
  instances : Uuid → Option NodeTransportState
  /-- What becomes of the messages that the session publishes. -/
  deliveries : ℕ → Delivery
  sent : ℕ
  /-- The messages that JetStream has taken. -/
  accepted : List Message
  /-- The outbox rows that `SKIP LOCKED` passes over. -/
  skipped : List String
  notes : List Note

namespace Session

/-- A new session. -/
def new (deliveries : ℕ → Delivery) (skipped : List String) : Session where
  instances := fun _ => none
  deliveries := deliveries
  sent := 0
  accepted := []
  skipped := skipped
  notes := []

variable (s : Session)

/-- Load a row: the instance that is there stays as it is. -/
def load (row : NodeTransportState) : NodeTransportState × Session :=
  match s.instances row.nodeId with
  | some loaded => (loaded, s)
  | none => (row, { s with instances := Function.update s.instances row.nodeId (some row) })

/-- The instance after an `UPDATE` of its row. -/
def update (node : Uuid) (f : NodeTransportState → NodeTransportState) : Session :=
  { s with instances := Function.update s.instances node ((s.instances node).map f) }

def sync : Write → Session
  | .reserve data epoch => s.update data.nodeId (data.set epoch)
  | .touch node mark => s.update node mark.set
  | _ => s

/-- Hand a message to JetStream. -/
def publish (message : Message) : Except String Unit × Session :=
  match s.deliveries s.sent with
  | .acknowledged =>
    (.ok (), { s with sent := s.sent + 1, accepted := s.accepted ++ [message] })
  | .failed error taken =>
    (.error error,
      { s with
        sent := s.sent + 1
        accepted := if taken then s.accepted ++ [message] else s.accepted })

end Session

/-- What the transport asks of its session and of JetStream. -/
inductive Stmt : Type 1
  | query (α : Type) (select : Database → α)
  | write (w : Write)
  /-- `SELECT` of the state of a node, through the identity map. -/
  | loadState (node : Uuid)
  /-- `SELECT … FOR UPDATE` of the state of a node, through the identity map. -/
  | lockState (node : Uuid)
  /-- The first half of `INSERT … ON CONFLICT DO NOTHING`: it waits for concurrent inserts under
  the same keys, and the reply says which keys are free. -/
  | lookFree (keys : List RowKey)
  /-- The `SELECT … FOR UPDATE SKIP LOCKED` of `claim_batch`, and the rows it passes over. -/
  | skipLocked
  | claim (now : Time) (limit : ℕ) (skipped : List String)
  /-- The rows that an `UPDATE` of placements finds. -/
  | lockPlacements (which : UserPlacement → Bool)
  | publish (message : Message)
  | note (note : Note)

namespace Stmt

abbrev Reply : Stmt → Type
  | query α _ => α
  | write _ => Unit
  | loadState _ => Option NodeTransportState
  | lockState _ => Option NodeTransportState
  | lookFree _ => List RowKey
  | skipLocked => List String
  | claim .. => List NodeTransportOutbox
  | lockPlacements _ => List Uuid
  | publish _ => Except String Unit
  | note _ => Unit

def writes : Stmt → List Write
  | write w => [w]
  | _ => []

def locks : Stmt → Database → List RowKey
  | write w, _ => w.touches
  | lockState node, db => if db.taken (.state node) then [.state node] else []
  | lookFree keys, db => keys.filter fun key => ¬ db.taken key
  | claim now limit skipped, db =>
    (db.claimable now limit skipped).map fun row => .outbox row.messageId
  | lockPlacements which, db => (db.vpn.placements.rows.filter which).map fun row => .placement row.id
  | _, _ => []

def answer : (op : Stmt) → Database → Session → op.Reply × Session
  | query _ select, db, s => (select db, s)
  | write w, _, s => ((), s.sync w)
  | loadState node, db, s | lockState node, db, s =>
    match db.states.find? node with
    | none => (none, s)
    | some row => (some (s.load row).1, (s.load row).2)
  | lookFree keys, db, s => (keys.filter fun key => ¬ db.taken key, s)
  | skipLocked, _, s => (s.skipped, s)
  | claim now limit skipped, db, s => (db.claimable now limit skipped, s)
  | lockPlacements which, db, s => ((db.vpn.placements.rows.filter which).map (·.id), s)
  | publish message, _, s => s.publish message
  | note n, _, s => ((), { s with notes := s.notes ++ [n] })

end Stmt

variable {op : Stmt} {db : Database} {s : Session}

/-- Apart from notes and messages, a session changes in its instances only. -/
theorem Stmt.session_answer (hnote : ∀ n, op ≠ .note n)
    (hpublish : ∀ message, op ≠ .publish message) :
    ∃ instances, (op.answer db s).2 = { s with instances := instances } := by
  have hload : ∀ row, ∃ instances, (s.load row).2 = { s with instances := instances } := by
    intro row
    unfold Session.load
    split
    · exact ⟨s.instances, rfl⟩
    · exact ⟨_, rfl⟩
  cases op with
  | write w => cases w <;> exact ⟨_, rfl⟩
  | loadState node | lockState node =>
    simp only [Stmt.answer]
    split
    · exact ⟨s.instances, rfl⟩
    · exact hload _
  | publish message => exact absurd rfl (hpublish message)
  | note n => exact absurd rfl (hnote n)
  | _ => exact ⟨s.instances, rfl⟩

/-- Only notes are noted. -/
theorem notes_answer (h : ∀ n, op ≠ .note n) : (op.answer db s).2.notes = s.notes := by
  by_cases hpublish : ∃ message, op = .publish message
  · obtain ⟨message, rfl⟩ := hpublish
    simp only [Stmt.answer, Session.publish]
    split <;> rfl
  · obtain ⟨instances, hs⟩ := Stmt.session_answer h (fun m hm => hpublish ⟨m, hm⟩)
    rw [hs]

/-- Only what is published is taken. -/
theorem accepted_answer (h : ∀ message, op ≠ .publish message) :
    (op.answer db s).2.accepted = s.accepted := by
  by_cases hnote : ∃ n, op = .note n
  · obtain ⟨n, rfl⟩ := hnote
    rfl
  · obtain ⟨instances, hs⟩ := Stmt.session_answer (fun n hn => hnote ⟨n, hn⟩) h
    rw [hs]

/-- What JetStream has taken stays taken. -/
theorem mem_accepted_answer (h : message ∈ s.accepted) : message ∈ (op.answer db s).2.accepted := by
  by_cases hpublish : ∃ other, op = .publish other
  · obtain ⟨other, rfl⟩ := hpublish
    simp only [Stmt.answer, Session.publish]
    split
    · exact List.mem_append_left _ h
    · split
      · exact List.mem_append_left _ h
      · exact h
  · rwa [accepted_answer fun other hother => hpublish ⟨other, hother⟩]

/-- The tables of the transport as an engine. -/
abbrev engine : Engine where
  Op := Stmt
  Reply := Stmt.Reply
  State := Database
  Session := Session
  Key := RowKey
  Write := Write
  decEqKey := inferInstance
  apply := Database.apply
  answer := Stmt.answer
  writes := Stmt.writes
  locks := Stmt.locks
  touches := Write.touches
  SameRow := Database.SameRow
  sameRow_refl := Database.sameRow_refl
  sameRow_trans := Database.sameRow_trans
  apply_frame := Database.apply_frame
  apply_congr := Database.apply_congr
  touches_locked := by
    intro op write key db hwrite hkey
    cases op with
    | write =>
      obtain rfl := List.mem_singleton.mp hwrite
      exact hkey
    | _ => cases hwrite

/-- The exceptions. -/
inductive TransportError
  /-- `RuntimeError("failed to create node transport state")`. -/
  | stateNotCreated
  /-- `scalar_one` met no row. -/
  | noResultFound
  | integrityError
  /-- `PlacementCommandPayload.model_validate` refused a payload. -/
  | validationError
  | publishFailed (error : String)
  deriving DecidableEq, Repr

/-- A method of the transport. -/
abbrev Service (α : Type) := Program engine.toSignature TransportError α

variable {α : Type}

def raise (error : TransportError) : Service α := Program.raise error

/-- Send one statement. -/
def perform (op : Stmt) : Service op.Reply := Program.perform (S := engine.toSignature) op

def select (query : Database → α) : Service α := perform (.query α query)

def execute (w : Write) : Service Unit := perform (.write w)

/-- `datetime.now(timezone.utc)`. -/
def datetimeNow : Service Time := select Database.clock

/-! ## Repositories -/

/-- `INSERT … ON CONFLICT DO NOTHING` of one row. -/
def insertIfFree (key : RowKey) (w : Write) : Service Bool := do
  let free ← perform (.lookFree [key])
  if free = [] then pure false
  else do
    execute w
    pure true

variable (node : Uuid)

/-- `NodeTransportStateRepository.get_or_create`. -/
def getOrCreate : Service NodeTransportState := do
  match ← perform (.loadState node) with
  | some existing => pure existing
  | none => do
      let known ← select fun db => (db.vpn.nodes.find? node).isSome
      if ¬ known then raise .integrityError
      else do
        let _ ← insertIfFree (.state node) (.insertState node)
        match ← perform (.loadState node) with
        | some created => pure created
        | none => raise .stateNotCreated

/-- The methods `touch_…`. -/
def touch (mark : Touch) : Service Unit := do
  let _ ← getOrCreate node
  execute (.touch node mark)

/-- `touch_command`. -/
def touchCommand (messageId : String) (time : Time) : Service Unit :=
  touch node (.command messageId time)

/-- `touch_result`. -/
def touchResult (eventId : String) (time : Time) : Service Unit :=
  touch node (.result eventId time)

/-- `NodeTransportEventLogRepository.record_if_new`. -/
def recordIfNew (row : NodeTransportEventLog) : Service Bool :=
  insertIfFree (.event row.eventId) (.insertEvent row)

/-! ### The statements they issue -/

section Every

variable {φ : Stmt → Prop} {node : Uuid}

theorem every_insertIfFree (hlook : φ (.lookFree [key])) (hwrite : φ (.write w)) :
    (insertIfFree key w).Every φ := by
  refine .bind ⟨hlook, fun _ => trivial⟩ fun free => ?_
  split
  · trivial
  · exact .bind ⟨hwrite, fun _ => trivial⟩ fun _ => trivial

theorem every_getOrCreate (hquery : ∀ {α : Type} (query : Database → α), φ (.query α query))
    (hload : φ (.loadState node)) (hlook : φ (.lookFree [.state node]))
    (hinsert : φ (.write (.insertState node))) : (getOrCreate node).Every φ := by
  refine .bind ⟨hload, fun _ => trivial⟩ fun found => ?_
  cases found with
  | some => trivial
  | none =>
    refine .bind ⟨hquery _, fun _ => trivial⟩ fun known => ?_
    dsimp only
    split
    · trivial
    · refine .bind (every_insertIfFree hlook hinsert) fun _ => ?_
      refine .bind ⟨hload, fun _ => trivial⟩ fun created => ?_
      cases created <;> trivial

end Every

end VpnControl.Agent

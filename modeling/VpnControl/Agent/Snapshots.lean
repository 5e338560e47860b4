/-
# Snapshots

A node that has lost its state asks for a snapshot: all commands about its placements, in chunks
that carry one epoch. An operator can ask for one as well. Either way `NodeAgentRuntime` lists
the commands, reserves an epoch with `reserve_snapshot_epoch` and publishes the chunks, all in one
transaction.

`reserve_snapshot_epoch` loads the row of the node before it locks it. The locked read answers
with the instance that was loaded, so the lock protects the increment only when nobody has
reserved in between.
-/

import VpnControl.Agent.Statements
import VpnControl.Txn.Commits

namespace VpnControl.Agent

open Txn
open Billing (Uuid Time)
open Vpn (NodeRole PlacementCommandPayload)

/-! ## The runtime -/

/-- The subjects of JetStream, from prefixes without trailing dots. -/
structure AgentSubjects where
  commands : String
  results : String
  snapshots : String

/-- `AgentSubjects.snapshot_chunk`. -/
def AgentSubjects.snapshotChunk (subjects : AgentSubjects) (node : Uuid) : String :=
  s!"{subjects.snapshots}.{node}.chunks"

/-- `AgentSubjects.upstream_changed`. -/
def AgentSubjects.upstreamChanged (subjects : AgentSubjects) (node : Uuid) : String :=
  s!"{subjects.commands}.{node}.upstream"

/-- The settings and libraries of the runtime. -/
structure RuntimeConfig where
  subjects : AgentSubjects
  outboxBatchSize : ℕ
  /-- `datetime.isoformat`. -/
  isoformat : Time → String
  /-- `UUID(text)`; `none` when it raises. -/
  parseUuid : String → Option Uuid

/-- `NODE_AGENT_SNAPSHOT_CHUNK_SIZE`. -/
def nodeAgentSnapshotChunkSize : ℕ := 200

inductive SnapshotRequestReason
  | startup | xrayRestart | redeliveryGap | operatorForced
  deriving DecidableEq, Repr

def SnapshotRequestReason.value : SnapshotRequestReason → String
  | startup => "startup"
  | xrayRestart => "xray_restart"
  | redeliveryGap => "redelivery_gap"
  | operatorForced => "operator_forced"

structure SnapshotRequestEvent where
  nodeId : String
  requestedAt : Time
  reason : SnapshotRequestReason
  knownSnapshotId : Option String := none
  deriving DecidableEq, Repr

variable (cfg : RuntimeConfig)

/-- `_snapshot_request_event_id`. -/
def snapshotRequestEventId (event : SnapshotRequestEvent) : String :=
  let requestedAt := cfg.isoformat event.requestedAt
  let known := event.knownSnapshotId.getD ""
  s!"snapshot-request:{event.nodeId}:{event.reason.value}:{requestedAt}:{known}"

def Database.commandsAs (db : Database) (node : Uuid) (role : NodeRole) :
    List PlacementCommandPayload :=
  if role = .backend then db.vpn.listCommandPayloadsForBackend node
  else db.vpn.listCommandPayloadsForEntry node

/-- The snapshot that the node has reserved for a request. -/
def NodeTransportState.reservedFor (state : NodeTransportState) (requestEventId : String) :
    Option String :=
  if state.lastSnapshotRequestEventId = some requestEventId then
    state.lastSnapshotId.filter (· ≠ "")
  else none

variable (data : SnapshotReserveIn)

/-- What `reserve_snapshot_epoch` returns for a request that has been served before. -/
def SnapshotReserveIn.repeated (state : NodeTransportState)
    (snapshotId : String) : SnapshotReservation where
  nodeId := data.nodeId
  requestEventId := data.requestEventId
  epoch := state.currentEpoch
  snapshotId := snapshotId
  generatedAt := state.lastSnapshotGeneratedAt

/-- What `reserve_snapshot_epoch` returns for a new request. -/
def SnapshotReserveIn.reserved (state : NodeTransportState) :
    SnapshotReservation where
  nodeId := data.nodeId
  requestEventId := data.requestEventId
  epoch := state.currentEpoch + 1
  snapshotId := data.snapshotId
  generatedAt := some data.generatedAt

def returnReservation (r : SnapshotReservation) : Service (ℕ × String) := do
  perform (.note (.reserved r))
  pure (r.epoch, r.snapshotId)

/-- The part of `reserve_snapshot_epoch` that follows the locked read. -/
def reserveOn (state : NodeTransportState) : Service (ℕ × String) :=
  match state.reservedFor data.requestEventId with
  | some snapshotId => returnReservation (data.repeated state snapshotId)
  | none => do
      execute (.reserve data (state.currentEpoch + 1))
      returnReservation (data.reserved state)

/-- `NodeTransportStateRepository.reserve_snapshot_epoch`. -/
def reserveSnapshotEpoch : Service (ℕ × String) := do
  let _ ← getOrCreate data.nodeId
  match ← perform (.lockState data.nodeId) with
  | none => raise .noResultFound
  | some state => reserveOn data state

/-- `publish_jetstream`, where nobody catches its exception. -/
def publishJetstream (message : Message) : Service Unit := do
  match ← perform (.publish message) with
  | .ok _ => pure ()
  | .error error => raise (.publishFailed error)

variable (node : Uuid)

variable (snapshotId : String)

/-- `_publish_snapshot_chunk`. -/
def publishSnapshotChunk (epoch : ℕ)
    (chunkIndex : ℕ) (isLastChunk : Bool) (items : List PlacementCommandEvent) : Service Unit := do
  let now ← datetimeNow
  publishJetstream
    { subject := cfg.subjects.snapshotChunk node
      payload := .chunk
        { nodeId := node
          emittedAt := now
          snapshotId := snapshotId
          epoch := epoch
          chunkIndex := chunkIndex
          isLastChunk := isLastChunk
          items := items }
      msgId := s!"snapshot-chunk:{node}:{snapshotId}:{chunkIndex}" }

/-- `_chunk_items`. -/
def chunkItems {α : Type} (items : List α) (chunkSize : ℕ) : List (List α) :=
  (List.range ((items.length + chunkSize - 1) / chunkSize)).map fun index =>
    (items.drop (index * chunkSize)).take chunkSize

def snapshotItem (epoch : ℕ) (emittedAt : Time)
    (command : PlacementCommandPayload) : PlacementCommandEvent where
  emittedAt := emittedAt
  snapshotId := some snapshotId
  epoch := epoch
  eventId := s!"snapshot-command:{command.placementId}:{command.opVersion}"
  command := command

def publishSnapshotItems (epoch : ℕ)
    (items : List PlacementCommandEvent) : Service Unit :=
  if items = [] then publishSnapshotChunk cfg node snapshotId epoch 0 true []
  else
    let chunked := chunkItems items nodeAgentSnapshotChunkSize
    chunked.zipIdx.forM fun (chunk, index) =>
      let isLast : Bool := index = chunked.length - 1
      publishSnapshotChunk cfg node snapshotId epoch index isLast
        (chunk.map fun item => { item with snapshotComplete := isLast })

/-- `_publish_upstreams_for_entry`. -/
def publishUpstreamsForEntry (entry : Uuid) (now : Time) : Service Unit := do
  let backends ← select fun db =>
    (db.vpn.entryAssignments.filter fun row => row.entryNodeId = entry ∧ row.enabled).filterMap
      fun row => (db.vpn.nodes.find? row.backendNodeId).map fun node => node.id
  let time := cfg.isoformat now
  backends.forM fun backend =>
    publishJetstream
      { subject := cfg.subjects.upstreamChanged entry
        payload := .upstream entry backend now
        msgId := s!"upstream-snapshot:{entry}:{backend}:{time}" }

/-- An entry node is told its upstreams as well. -/
def publishUpstreams (role : NodeRole) (now : Time) :
    Service Unit :=
  if role ≠ .backend then publishUpstreamsForEntry cfg node now else pure ()

/-- The commands of a snapshot. -/
def listCommandPayloads (role : NodeRole) :
    Service (List PlacementCommandPayload) := do
  let commands ← select fun db => db.commandsAs node role
  perform (.note (.listed commands))
  pure commands

/-- The part of `_handle_snapshot_request_message` that makes the snapshot of a known node. -/
def answerSnapshotRequest (subject : Option String)
    (event : SnapshotRequestEvent) (node : Uuid) (role : NodeRole) : Service Bool := do
  let commands ← listCommandPayloads node role
  let requestEventId := snapshotRequestEventId cfg event
  let requestedAt := cfg.isoformat event.requestedAt
  let generatedAt ← datetimeNow
  let (epoch, reserved) ← reserveSnapshotEpoch
    { nodeId := node
      requestEventId := requestEventId
      snapshotId := s!"snap-{node}-{requestedAt}"
      snapshotReason := event.reason.value
      requestedAt := event.requestedAt
      generatedAt := generatedAt }
  let emittedAt ← datetimeNow
  publishSnapshotItems cfg node reserved epoch
    (commands.map (snapshotItem reserved epoch emittedAt))
  let now ← datetimeNow
  publishUpstreams cfg node role now
  let _ ← recordIfNew
    { eventId := requestEventId
      nodeId := node
      eventType := "snapshot_request"
      subject := subject
      processedAt := now }
  pure true

/-- `_handle_snapshot_request_message`, on an event that has been parsed. -/
def handleSnapshotRequestMessage (subject : Option String)
    (event : SnapshotRequestEvent) : Service Bool :=
  match cfg.parseUuid event.nodeId with
  | none => pure true
  | some node => do
      match ← select fun db => db.vpn.nodes.find? node with
      | none => pure true
      | some row => answerSnapshotRequest cfg subject event node row.role

/-- `trigger_snapshot_for_node`, and `AdminSnapshotPublisher.execute`. -/
def triggerSnapshotForNode (reason : String) :
    Service Unit := do
  let role ← select fun db => (db.vpn.nodes.find? node).elim NodeRole.backend (·.role)
  let commands ← listCommandPayloads node role
  let now ← datetimeNow
  let time := cfg.isoformat now
  let (epoch, reserved) ← reserveSnapshotEpoch
    { nodeId := node
      requestEventId := s!"admin-snapshot:{node}:{time}"
      snapshotId := s!"snap-{node}-admin-{time}"
      snapshotReason := reason
      requestedAt := now
      generatedAt := now }
  publishSnapshotItems cfg node reserved epoch (commands.map (snapshotItem reserved epoch now))
  publishUpstreams cfg node role now

/-- A transaction that makes a snapshot. -/
inductive SnapshotCall
  | request (subject : Option String) (event : SnapshotRequestEvent)
  | trigger (node : Uuid) (reason : String)
  deriving DecidableEq, Repr

def SnapshotCall.program : SnapshotCall → Service Unit
  | request subject event => do
      let _ ← handleSnapshotRequestMessage cfg subject event
      pure ()
  | trigger node reason => triggerSnapshotForNode cfg node reason

/-- The commands in a message, if it is a chunk of a snapshot. -/
def Message.commands (message : Message) : List PlacementCommandPayload :=
  match message.payload with
  | .chunk event => event.items.map (·.command)
  | _ => []

end VpnControl.Agent

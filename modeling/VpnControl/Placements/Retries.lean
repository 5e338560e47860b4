/-
# Retries

`PlacementErrorRetryReconciler` gives a placement in error a new version and a command for it.
For a placement that has been pending for too long it enqueues the command of the version again,
and the outbox refuses a second row with the same message id. Whether anything is sent then
depends on what has become of the row that is there.
-/

import VpnControl.Agent.Statements
import VpnControl.Placements.LastCommand

namespace VpnControl.Vpn

open Txn List Option UserPlacement
open Billing (Uuid Time seconds)
open Agent (OutboxStatus)
open Database

variable {row : UserPlacement}

/-- The message id of the command for the backend of a placement. -/
def UserPlacement.message (row : UserPlacement) : MessageId := ⟨row.id, row.opVersion, none⟩

namespace Database

variable {db : Database} {ids : List Uuid} {item : NodeTransportOutbox}

/-- The status of an outbox row when commands have been enqueued: a row that was there keeps its
own, and a new one is pending. -/
def statusAfter (db : Database) (status : MessageId → OutboxStatus) (message : MessageId) :
    OutboxStatus :=
  if (db.outbox.find? message).isSome then status message else .pending

/-- `claim_batch` will take the command for a placement as it stands. -/
def WillPublish (db : Database) (status : MessageId → OutboxStatus) (row : UserPlacement) : Prop :=
  ∃ item, db.outbox.find? row.message = some item ∧ item.nodeId = row.backendNodeId ∧
    status row.message ∈ [OutboxStatus.pending, .failed]

theorem find?_outbox_of_not_mem {message : MessageId} (h : message.placementId ∉ ids) :
    (db.enqueueForPlacementIds ids).outbox.find? message = db.outbox.find? message := by
  rw [find?_outbox_enqueue, find?_eq_none.mpr, or_none]
  intro item hitem hmessage
  obtain ⟨row, -, -, hid, -, hsame, -⟩ := mem_transportCommands hitem
  exact h (of_decide_eq_true hmessage ▸ hsame ▸ hid)

/-- The outbox has a row for an enqueued placement, the old one or a new one to its backend. -/
theorem exists_outbox_enqueue (hrow : row ∈ db.placements.rows) (hid : row.id ∈ ids)
    (hactive : row.isActive = true) (hkey : db.KeyActive row.keyId) :
    ∃ item, (db.enqueueForPlacementIds ids).outbox.find? row.message = some item ∧
      (db.outbox.find? row.message = some item ∨
        db.outbox.find? row.message = none ∧ item.nodeId = row.backendNodeId) := by
  rw [find?_outbox_enqueue]
  cases hold : db.outbox.find? row.message with
  | some item => exact ⟨item, rfl, .inl rfl⟩
  | none =>
    obtain ⟨command, hcommand, hmessage⟩ := exists_transportCommand hrow hid hactive hkey
    have hsome : (((db.transportRows ids).flatMap (placementCommands db)).find? fun item =>
        item.messageId = row.message).isSome := by
      rw [find?_isSome]
      exact ⟨command, hcommand, by simp [hmessage, message]⟩
    obtain ⟨item, hitem⟩ := isSome_iff_exists.mp hsome
    have hfound := find?_some hitem
    obtain ⟨other, hother, -, -, -, hsame, -, -, hnode⟩ :=
      mem_transportCommands (mem_of_find?_eq_some hitem)
    rw [of_decide_eq_true hfound] at hsame hnode
    obtain rfl := Table.eq_of_mem_of_key hother hrow hsame.symm
    exact ⟨item, by rw [none_or, hitem], .inr ⟨rfl, hnode rfl⟩⟩

theorem mem_stalePlacements (hrow : row ∈ db.placements.rows) :
    row.id ∈ db.stalePlacements outcome cutoff ↔
      row.appliedState = outcome ∧ row.isActive = true ∧ row.updatedAt < cutoff := by
  unfold stalePlacements
  constructor
  · intro h
    obtain ⟨found, hfound, hid⟩ := mem_map.mp h
    obtain ⟨hmem, hstale⟩ := mem_filter.mp hfound
    obtain rfl := Table.eq_of_mem_of_key hmem hrow hid
    exact of_decide_eq_true hstale
  · intro h
    exact mem_map_of_mem (mem_filter.mpr ⟨hrow, decide_eq_true h⟩)

end Database

/-- What a tick makes of a stale placement. -/
def UserPlacement.retried (now : Time) (row : UserPlacement) : UserPlacement :=
  if row.appliedState = .error then row.retry now else row

section

variable {db : Database} {cutoff now : Time} (hrow : row ∈ db.placements.rows)
  (hactive : row.isActive = true) (hstale : row.updatedAt < cutoff)

include hrow hactive hstale

theorem mem_retryErrors : row.retried now ∈ (db.retryErrors cutoff now).placements.rows := by
  refine mem_map.mpr ⟨row, hrow, ?_⟩
  have hid := @mem_stalePlacements row db .error cutoff hrow
  by_cases herror : row.appliedState = .error
  · rw [retried, if_pos herror,
      if_pos (decide_eq_true (hid.mpr ⟨herror, hactive, hstale⟩))]
  · rw [retried, if_neg herror, if_neg (by simpa using fun h => herror (hid.mp h).1)]

/-- After a tick the outbox has a command for a stale placement: the row of its message id that
was there, or a new one to the backend. -/
theorem exists_outbox_retry (hkey : db.KeyActive row.keyId)
    (hstate : row.appliedState = .error ∨ row.appliedState = .pending) :
    ∃ item, ((db.retryErrors cutoff now).enqueueForPlacementIds
        ((db.retryErrors cutoff now).stalePlacements .pending cutoff)).outbox.find?
          (row.retried now).message = some item ∧
      (db.outbox.find? (row.retried now).message = some item ∨
        db.outbox.find? (row.retried now).message = none ∧ item.nodeId = row.backendNodeId) := by
  have hmem := @mem_retryErrors row db cutoff now hrow hactive hstale
  rcases hstate with herror | hpending
  · have hid := (mem_stalePlacements hrow).mpr ⟨herror, hactive, hstale⟩
    rw [retried, if_pos herror] at hmem ⊢
    obtain ⟨item, hitem, hold⟩ := @exists_outbox_enqueue (row.retry now)
      (db.retryRows cutoff now) _ hmem hid hactive hkey
    refine ⟨item, ?_, hold⟩
    rw [Database.find?_outbox_enqueue]
    exact (congrArg (Option.or · _) hitem).trans rfl
  · have hother : row.id ∉ db.stalePlacements .error cutoff := fun h => by
      have herror := ((mem_stalePlacements hrow).mp h).1
      rw [hpending] at herror
      cases herror
    rw [retried, if_neg (by simp [hpending])] at hmem ⊢
    have hid := (mem_stalePlacements hmem).mpr ⟨hpending, hactive, hstale⟩
    have hbefore : (db.retryErrors cutoff now).outbox.find? row.message =
      db.outbox.find? row.message := Database.find?_outbox_of_not_mem hother
    rw [← hbefore]
    exact exists_outbox_enqueue hmem hid hactive hkey

end

/-- The command for a stale placement will be published after a tick exactly when no row of its
message id was in the outbox, or the row that was there goes to the backend and is pending or
failed. -/
theorem retry_publishes_iff {db : Database} {row : UserPlacement} {retryAfterSec : ℤ} {now : Time}
    (status : MessageId → OutboxStatus) (hrow : row ∈ db.placements.rows)
    (hactive : row.isActive = true) (hkey : db.KeyActive row.keyId)
    (hstate : row.appliedState = .error ∨ row.appliedState = .pending)
    (hstale : row.updatedAt < now - seconds (max 30 retryAfterSec)) :
    row.retried now ∈ (db.errorRetryTick retryAfterSec now).placements.rows ∧
      ((db.errorRetryTick retryAfterSec now).WillPublish (db.statusAfter status) (row.retried now) ↔
        ∀ item, db.outbox.find? (row.retried now).message = some item →
          item.nodeId = row.backendNodeId ∧
            status (row.retried now).message ∈ [OutboxStatus.pending, .failed]) := by
  rw [errorRetryTick_eq]
  refine ⟨mem_retryErrors hrow hactive hstale, ?_⟩
  obtain ⟨item, hitem, hold⟩ := @exists_outbox_retry row db _ now hrow hactive hstale hkey hstate
  have hbackend : (row.retried now).backendNodeId = row.backendNodeId := by
    unfold UserPlacement.retried
    split <;> rfl
  unfold Database.WillPublish Database.statusAfter
  rw [hitem, hbackend]
  rcases hold with hold | ⟨hold, hnode⟩
  · simp [hold]
  · simp [hold, hnode]

/-- Placement 40 has been pending since its command was enqueued. -/
def sentAndPending : Database := placeOnFirst.run twoBackends

/-- The command has been published and the node has not answered: the tick enqueues nothing. -/
theorem retry_sends_nothing : ∃ row ∈ sentAndPending.placements.rows, row.isActive = true ∧
      sentAndPending.KeyActive row.keyId ∧ row.appliedState = .pending ∧
      row.updatedAt < seconds 100 - seconds (max 30 60) ∧
      ¬ (sentAndPending.errorRetryTick 60 (seconds 100)).WillPublish
        (sentAndPending.statusAfter fun _ => .published) row := by
  have hrow : ∃ row ∈ sentAndPending.placements.rows, row.isActive = true ∧
      sentAndPending.KeyActive row.keyId ∧ row.appliedState = .pending ∧
      row.updatedAt < seconds 100 - seconds (max 30 60) ∧
      (sentAndPending.outbox.find? row.message).isSome := by
    decide +kernel
  obtain ⟨row, hmem, hactive, hkey, hpending, hstale, hsent⟩ := hrow
  refine ⟨row, hmem, hactive, hkey, hpending, hstale, ?_⟩
  rintro ⟨item, -, -, hstatus⟩
  simp [Database.statusAfter, hsent] at hstatus

/-- When publishing has failed, the command is published again. -/
theorem retry_publishes_failed : ∃ row ∈ sentAndPending.placements.rows,
      (sentAndPending.errorRetryTick 60 (seconds 100)).WillPublish
        (sentAndPending.statusAfter fun _ => .failed) (row.retried (seconds 100)) := by
  have hrow : ∃ row ∈ sentAndPending.placements.rows, row.isActive = true ∧
      sentAndPending.KeyActive row.keyId ∧ row.appliedState = .pending ∧
      row.updatedAt < seconds 100 - seconds (max 30 60) ∧
      ∀ item ∈ sentAndPending.outbox.find? (row.retried (seconds 100)).message,
        item.nodeId = row.backendNodeId := by
    decide +kernel
  obtain ⟨row, hmem, hactive, hkey, hpending, hstale, hsent⟩ := hrow
  exact ⟨row, hmem, (retry_publishes_iff _ hmem hactive hkey (.inr hpending) hstale).2.mpr
    fun item hitem => ⟨hsent item hitem, by decide⟩⟩

end VpnControl.Vpn

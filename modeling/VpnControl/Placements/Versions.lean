/-
# The versions of a placement

A placement carries the version of what is asked of its node, `op_version`, and the version that
the node has last reported on, `applied_version`. A statement that asks for something raises the
first and puts the row back to pending, a report sets the second to the first. Rows of a table
on which only such statements run never claim that a version has been applied which has not.

One statement does not follow this: the `UPDATE` of a rebalance tick for draining backends
raises `op_version` and leaves `applied_state` as it is. A row that had been applied is then
still marked as applied, with an old `applied_version`.
-/

import VpnControl.Placements.Repository
import VpnControl.Txn.Evolution

namespace VpnControl.Vpn

open Txn
open Billing (Uuid Time seconds)
open Database

/-! ## Rows -/

variable (placement : UserPlacement) {now : Time} {reason : Option String}

namespace UserPlacement

/-- A row whose versions can be trusted. -/
def Versioned (placement : UserPlacement) : Prop :=
  placement.appliedVersion ≤ placement.opVersion ∧
    (placement.appliedState = .applied → placement.appliedVersion = placement.opVersion)

variable (old new : UserPlacement)

/-- Something else is asked of the nodes. -/
def Redirected : Prop :=
  new.desiredState ≠ old.desiredState ∨ new.backendNodeId ≠ old.backendNodeId

/-- The row is asked for again under a higher version, or is as it was. -/
def Pushed : Prop :=
  (¬ old.Redirected new ∧ new.appliedState = old.appliedState ∧
      new.appliedVersion = old.appliedVersion ∧ new.opVersion = old.opVersion) ∨
    (old.opVersion < new.opVersion ∧ new.appliedState = .pending ∧
      new.appliedVersion = old.appliedVersion)

/-- A node has reported on the current version of the row, or the row is as it was. -/
def Reported : Prop :=
  ¬ old.Redirected new ∧ new.opVersion = old.opVersion ∧ (new.appliedVersion = new.opVersion ∨
      new.appliedVersion = old.appliedVersion ∧ new.appliedState = old.appliedState)

/-- A row that no node has reported on. -/
def Unreported (placement : UserPlacement) : Prop :=
  placement.appliedState = .pending ∧ placement.appliedVersion ≤ placement.opVersion

variable {old mid new : UserPlacement}

theorem not_redirected_self : ¬ placement.Redirected placement := by simp [Redirected]

theorem not_redirected_trans (h : ¬ old.Redirected mid) (h' : ¬ mid.Redirected new) :
    ¬ old.Redirected new := by
  simp only [Redirected, not_or, not_not] at *
  exact ⟨h'.1.trans h.1, h'.2.trans h.2⟩

theorem pushed_refl : placement.Pushed placement :=
  .inl ⟨not_redirected_self placement, rfl, rfl, rfl⟩

theorem Pushed.trans (h : old.Pushed mid) (h' : mid.Pushed new) : old.Pushed new := by
  rcases h with ⟨hsame, hstate, happlied, hop⟩ | ⟨hop, hstate, happlied⟩ <;>
    rcases h' with ⟨hsame', hstate', happlied', hop'⟩ | ⟨hop', hstate', happlied'⟩
  · exact .inl ⟨not_redirected_trans hsame hsame', hstate'.trans hstate,
      happlied'.trans happlied, hop'.trans hop⟩
  · exact .inr ⟨hop ▸ hop', hstate', happlied'.trans happlied⟩
  · exact .inr ⟨hop' ▸ hop, hstate'.trans hstate, happlied'.trans happlied⟩
  · exact .inr ⟨hop.trans hop', hstate', happlied'.trans happlied⟩

theorem Pushed.unreported (h : old.Pushed new) (hold : old.Unreported) : new.Unreported := by
  obtain ⟨hpending, hle⟩ := hold
  rcases h with ⟨-, hstate, happlied, hop⟩ | ⟨hop, hstate, happlied⟩
  · exact ⟨hstate.trans hpending, by rwa [happlied, hop]⟩
  · exact ⟨hstate, by omega⟩

theorem Pushed.versioned (h : old.Pushed new) (hold : old.Versioned) : new.Versioned := by
  obtain ⟨hle, happliedOld⟩ := hold
  rcases h with ⟨-, hstate, happlied, hop⟩ | ⟨hop, hstate, happlied⟩
  · refine ⟨by omega, fun happly => ?_⟩
    rw [happlied, hop]
    exact happliedOld (hstate ▸ happly)
  · refine ⟨by omega, fun happly => ?_⟩
    rw [hstate] at happly
    cases happly

theorem reported_refl : placement.Reported placement :=
  ⟨not_redirected_self placement, rfl, .inr ⟨rfl, rfl⟩⟩

theorem Reported.trans (h : old.Reported mid) (h' : mid.Reported new) : old.Reported new := by
  obtain ⟨hsame, hop, happlied⟩ := h
  obtain ⟨hsame', hop', happlied'⟩ := h'
  refine ⟨not_redirected_trans hsame hsame', hop'.trans hop, ?_⟩
  rcases happlied' with hnow | ⟨hkept, hstate⟩
  · exact .inl hnow
  · rcases happlied with hbefore | ⟨hkept', hstate'⟩
    · exact .inl (hkept.trans (hbefore.trans hop'.symm))
    · exact .inr ⟨hkept.trans hkept', hstate.trans hstate'⟩

theorem Reported.versioned (h : old.Reported new) (hold : old.Versioned) : new.Versioned := by
  obtain ⟨-, hop, happlied⟩ := h
  rcases happlied with hnow | ⟨hkept, hstate⟩
  · exact ⟨hnow.le, fun _ => hnow⟩
  · refine ⟨by rw [hkept, hop]; exact hold.1, fun happly => ?_⟩
    rw [hkept, hop]
    exact hold.2 (hstate ▸ happly)

theorem Unreported.versioned {placement : UserPlacement} (h : placement.Unreported) :
    placement.Versioned := by
  refine ⟨h.2, fun happly => ?_⟩
  rw [h.1] at happly
  cases happly

theorem pushed_redirect (desired : PlacementDesiredState) (reason : String) (now : Time)
    (placement : UserPlacement) : placement.Pushed (placement.redirect desired reason now) :=
  .inr ⟨Nat.lt_succ_self _, rfl, rfl⟩

theorem reported_report (outcome : PlacementAppliedState) (now : Time)
    (placement : UserPlacement) : placement.Reported (placement.report outcome now) :=
  ⟨not_redirected_self placement, rfl, .inl rfl⟩

theorem unreported_pending {id key backend : Uuid} :
    (UserPlacement.pending id key backend desired reason now).Unreported :=
  ⟨rfl, Nat.zero_le _⟩

end UserPlacement

/-! ## Statements -/

namespace Database

/-- The placements are asked for again, and new ones are asked for. -/
def Pushes (before after : Database) : Prop :=
  before.placements.Evolves UserPlacement.Pushed UserPlacement.Unreported after.placements

/-- Nodes report on placements. -/
def Reports (before after : Database) : Prop :=
  before.placements.Evolves UserPlacement.Reported (fun _ => False) after.placements

variable {db before mid after : Database} {db : Database} {uuids : ℕ → Uuid}

theorem pushes_refl : db.Pushes db := .refl UserPlacement.pushed_refl db.placements

theorem Pushes.trans (h : before.Pushes mid) (h' : mid.Pushes after) : before.Pushes after :=
  Table.Evolves.trans (fun _ _ _ => UserPlacement.Pushed.trans)
    (fun _ _ hfresh hpush => hpush.unreported hfresh) h h'

theorem Reports.trans (h : before.Reports mid) (h' : mid.Reports after) : before.Reports after :=
  Table.Evolves.trans (fun _ _ _ => UserPlacement.Reported.trans) (fun _ _ hfalse _ => hfalse) h h'

theorem pushes_enqueueForPlacementIds : db.Pushes (db.enqueueForPlacementIds ids) :=
  (pushes_refl : db.Pushes db)

theorem pushes_where (h : ∀ old ∈ db.placements.rows, p old = true → old.Pushed (f old)) :
    db.Pushes { db with placements := db.placements.modifyWhere p f hf } :=
  .modifyWhere UserPlacement.pushed_refl _ _ f hf h

theorem pushes_upsertSetPending (h : row.Unreported) : db.Pushes (db.upsertSetPending row) := by
  unfold upsertSetPending
  split
  · exact pushes_where fun old _ _ => .inr ⟨Nat.lt_succ_self _, rfl, rfl⟩
  · exact .insert UserPlacement.pushed_refl _ h

theorem pushes_upserts (db : Database) {rows : List UserPlacement}
    (h : ∀ row ∈ rows, row.Unreported) : db.Pushes (rows.foldl upsertSetPending db) := by
  induction rows generalizing db with
  | nil => exact pushes_refl
  | cons row _ ih =>
    exact (pushes_upsertSetPending (h row (by simp))).trans
      (ih _ fun other hother => h other (by simp [hother]))

theorem pushes_bulkUpsertSetPending :
    db.Pushes (bulkUpsertSetPending (pendingRows uuids pairs desired reason now) db).2 := by
  refine pushes_upserts db fun row hrow => ?_
  obtain ⟨-, -, id, hpending⟩ := of_mem_pendingRows hrow
  exact hpending ▸ UserPlacement.unreported_pending

theorem pushes_mergePlacements : db.Pushes (db.mergePlacements merges target reason now) := by
  refine pushes_where fun old _ hmerged => ?_
  obtain ⟨source, hsource⟩ := Option.isSome_iff_exists.mp hmerged
  simp only [hsource]
  exact .inr ⟨Nat.lt_succ_self _, rfl, rfl⟩

theorem pushes_bulkMigrateBackend
    (h : before.bulkMigrateBackend ids target reason now = some (targets, after)) :
    before.Pushes after := by
  unfold bulkMigrateBackend at h
  dsimp only at h
  split at h
  · cases h
  cases h
  have hmoved : ∀ moves, before.Pushes (before.movePlacements moves target reason now) := fun _ =>
    pushes_where fun _ _ _ => .inr ⟨Nat.lt_succ_self _, rfl, rfl⟩
  refine ((hmoved _).trans pushes_mergePlacements).trans (pushes_where fun old _ _ => .inl ?_)
  exact ⟨old.not_redirected_self, rfl, rfl, rfl⟩

theorem pushes_errorRetryTick : db.Pushes (db.errorRetryTick retryAfterSec now) := by
  rw [errorRetryTick_eq]
  have hretried : db.Pushes (db.retryRows (now - seconds (max 30 retryAfterSec)) now) :=
    pushes_where fun old _ _ => .inr ⟨Nat.lt_succ_self _, rfl, rfl⟩
  exact (hretried.trans pushes_enqueueForPlacementIds).trans pushes_enqueueForPlacementIds

/-- The rows that a rebalance tick would take out of service are pending. -/
def DrainsPending (db : Database) : Prop :=
  ∀ placement ∈ db.placements.rows, db.drains placement = true → placement.appliedState = .pending

theorem pushes_executeTick (h : db.DrainsPending) : db.Pushes
    (executeTick policy now uuids db).2 := by
  have hdrained : db.Pushes (db.drained now) :=
    have hdrain : db.Pushes (db.drain now) := pushes_where fun old hold hdrains =>
      .inr ⟨Nat.lt_succ_self _, h old hold hdrains, rfl⟩
    hdrain.trans pushes_enqueueForPlacementIds
  rcases executeTick_cases with
    ⟨-, hafter⟩ | ⟨-, -, hafter⟩ | ⟨-, -, rows, ids, hafter, hrows⟩ <;> rw [hafter]
  · exact hdrained
  · exact pushes_refl
  · refine (hdrained.trans (pushes_upserts _ fun row hrow => ?_)).trans
      pushes_enqueueForPlacementIds
    obtain ⟨-, -, -, id, hpending⟩ := hrows row hrow
    exact hpending ▸ UserPlacement.unreported_pending

theorem reports_bulkApplyBackendReport : db.Reports (db.bulkApplyBackendReport items).2 := by
  unfold bulkApplyBackendReport
  refine List.foldlRecOn (motive := fun updated : List Uuid × Database => db.Reports updated.2) _ _
    (.refl UserPlacement.reported_refl db.placements) ?_
  intro updated h outcome _
  exact h.trans (.modifyWhere UserPlacement.reported_refl _ _ (UserPlacement.report outcome _)
    (fun _ => rfl) fun old _ _ => old.reported_report outcome _)

end Database

/-! ## Runs -/

/-- The operations that write placements. -/
inductive PlacementOp
  | upsertSetPending (id key backend : Uuid) (desired : PlacementDesiredState)
      (reason : Option String) (now : Time)
  | bulkUpsertSetPending (uuids : ℕ → Uuid) (pairs : List (Uuid × Uuid))
      (desired : PlacementDesiredState) (reason : Option String) (now : Time)
  | setDesiredStateForKey (key : Uuid) (desired : PlacementDesiredState) (reason : String)
      (now : Time) (backendNodeIds : Option (List Uuid))
  | bulkSetDesiredStateForKeys (keys : List Uuid) (desired : PlacementDesiredState)
      (reason : String) (now : Time)
  | deactivatePlacementsOnNode (backend : Uuid) (reason : String) (now : Time)
  | setPendingForBackend (backend : Uuid) (reason : Option String) (now : Time)
  | bulkMigrateBackend (ids : List Uuid) (target : Uuid) (reason : Option String) (now : Time)
  | rebalanceTick (policy : NodePolicy) (now : Time) (uuids : ℕ → Uuid)
  | errorRetryTick (retryAfterSec : ℤ) (now : Time)
  | applyBackendReport (item : PlacementResultApply)
  | bulkApplyBackendReport (items : List PlacementResultApply)

namespace PlacementOp

/-- The tables after an operation. A failed one has left them as they were. -/
def run (db : Database) : PlacementOp → Database
  | upsertSetPending id key backend desired reason now =>
    db.upsertSetPending (.pending id key backend desired reason now)
  | bulkUpsertSetPending uuids pairs desired reason now =>
    (Vpn.bulkUpsertSetPending (pendingRows uuids pairs desired reason now) db).2
  | setDesiredStateForKey key desired reason now backendNodeIds =>
    db.setDesiredStateForKey key desired reason now backendNodeIds
  | bulkSetDesiredStateForKeys keys desired reason now =>
    db.apply (.setDesiredStateMany keys desired reason now)
  | deactivatePlacementsOnNode backend reason now =>
    (db.deactivatePlacementsOnNode backend reason now).2
  | setPendingForBackend backend reason now => (db.setPendingForBackend backend reason now).2
  | bulkMigrateBackend ids target reason now =>
    (db.bulkMigrateBackend ids target reason now).elim db Prod.snd
  | rebalanceTick policy now uuids => (executeTick policy now uuids db).2
  | errorRetryTick retryAfterSec now => db.errorRetryTick retryAfterSec now
  | applyBackendReport item => (db.applyBackendReport item).2
  | bulkApplyBackendReport items => (db.bulkApplyBackendReport items).2

/-- A rebalance tick finds no placement on a draining backend that it would take out of service
and that a node has reported on. -/
def LeavesReports (db : Database) : PlacementOp → Prop
  | rebalanceTick .. => db.DrainsPending
  | _ => True

/-- An operation asks for placements or reports on them. -/
theorem pushes_or_reports {op : PlacementOp} (h : op.LeavesReports db) :
    db.Pushes (op.run db) ∨ db.Reports (op.run db) := by
  cases op with
  | upsertSetPending => exact .inl (pushes_upsertSetPending (UserPlacement.unreported_pending ..))
  | bulkUpsertSetPending uuids pairs desired reason now => exact .inl pushes_bulkUpsertSetPending
  | setDesiredStateForKey _ desired reason now =>
    exact .inl (pushes_where fun old _ _ => old.pushed_redirect desired reason now)
  | bulkSetDesiredStateForKeys _ desired reason now =>
    exact .inl (pushes_where fun old _ _ => old.pushed_redirect desired reason now)
  | deactivatePlacementsOnNode _ reason now =>
    exact .inl (pushes_where fun old _ _ => old.pushed_redirect .inactive reason now)
  | setPendingForBackend _ reason now =>
    exact .inl (pushes_where fun old _ _ => .inr ⟨Nat.lt_succ_self _, rfl, rfl⟩)
  | bulkMigrateBackend ids target reason now =>
    refine .inl ?_
    change db.Pushes ((db.bulkMigrateBackend ids target reason now).elim db Prod.snd)
    cases hmigrated : db.bulkMigrateBackend ids target reason now with
    | none => exact pushes_refl
    | some => exact pushes_bulkMigrateBackend hmigrated
  | rebalanceTick policy now uuids => exact .inl (pushes_executeTick h)
  | errorRetryTick retryAfterSec now => exact .inl pushes_errorRetryTick
  | applyBackendReport item =>
    exact .inr (.modifyWhere UserPlacement.reported_refl _ _ (UserPlacement.report item.appliedState
      item.updatedAt) (fun _ => rfl) fun old _ _ => old.reported_report _ _)
  | bulkApplyBackendReport items => exact .inr reports_bulkApplyBackendReport

end PlacementOp

/-- The states that the operations reach from an empty table, while the other tables change as
they like. Each operation satisfies `ok` on the state it starts from. -/
inductive PlacementsReached (ok : Database → PlacementOp → Prop) : Database → Prop
  | empty {db : Database} (h : db.placements.rows = []) : PlacementsReached ok db
  | step {db : Database} (h : PlacementsReached ok db) (op : PlacementOp) (hok : ok db op) :
      PlacementsReached ok (op.run db)
  | elsewhere {db db' : Database} (h : PlacementsReached ok db)
      (hplacements : db'.placements = db.placements) : PlacementsReached ok db'

/-- One operation keeps the versions. -/
theorem PlacementOp.versioned_run {op : PlacementOp} (h : op.LeavesReports db)
    (hdb : ∀ placement ∈ db.placements.rows, placement.Versioned) :
    ∀ placement ∈ (op.run db).placements.rows, placement.Versioned := by
  rcases op.pushes_or_reports h with hpush | hreport
  · exact hpush.invariant (fun _ _ hstep => hstep.versioned) (fun _ hfresh => hfresh.versioned) hdb
  · exact hreport.invariant (fun _ _ hstep => hstep.versioned) (fun _ hfalse => hfalse.elim) hdb

/-- In a run whose rebalance ticks never drain a placement that a node has reported on, no row
claims a version that has not been applied, and whatever asks something else of the nodes raises
the version and leaves the row pending. -/
theorem placement_versions_of_leavesReports {db : Database}
    (h : PlacementsReached (fun db op => op.LeavesReports db) db) :
    (∀ placement ∈ db.placements.rows, placement.Versioned) ∧
      ∀ op : PlacementOp, op.LeavesReports db →
        ∀ old ∈ db.placements.rows, ∀ new ∈ (op.run db).placements.rows, new.id = old.id →
          old.Redirected new → old.opVersion < new.opVersion ∧ new.appliedState = .pending := by
  constructor
  · induction h with
    | empty h => simp [h]
    | step _ op hok ih => exact op.versioned_run hok ih
    | elsewhere _ hplacements => rwa [hplacements]
  · intro op hok old hold new hnew hid hredirected
    rcases op.pushes_or_reports hok with hpush | hreport
    · rcases hpush.step_of_mem hold hnew hid with ⟨hsame, -⟩ | ⟨hop, hpending, -⟩
      · exact absurd hredirected hsame
      · exact ⟨hop, hpending⟩
    · exact absurd hredirected (hreport.step_of_mem hold hnew hid).1

/-- Key 30 is placed on backend 52, which reports that it has applied the first version. -/
def appliedPlacement : Database :=
  let placed := (PlacementOp.upsertSetPending 40 30 52 .active none 0).run Database.empty
  (PlacementOp.bulkApplyBackendReport [⟨40, 1, 52, .applied, 0⟩]).run placed

/-- The same when backend 52 is being drained. No backend has a route, so none is healthy. -/
def appliedOnDraining : Database :=
  { appliedPlacement with nodes := (drainingBackend false).nodes }

/-- Draining the backend leaves version two of the placement marked as applied. -/
theorem drained_placement_stays_applied : ∃ db, PlacementsReached (fun _ _ => True) db ∧
      ∃ placement ∈ db.placements.rows, placement.appliedState = .applied ∧
        placement.appliedVersion ≠ placement.opVersion :=
  have hreached : PlacementsReached (fun _ _ => True) appliedOnDraining :=
    .elsewhere (.step (.step (.empty rfl) (.upsertSetPending 40 30 52 .active none 0) trivial)
      (.bulkApplyBackendReport [⟨40, 1, 52, .applied, 0⟩]) trivial) rfl
  ⟨(PlacementOp.rebalanceTick rebalancePolicy 0 (· + 100)).run appliedOnDraining,
    .step hreached _ trivial, by decide +kernel⟩

/-- A placement that has been reported on, and nothing to drain. -/
theorem placement_versions_of_leavesReports_applied :
    ∃ placement ∈ appliedPlacement.placements.rows, placement.Versioned := by
  have hall : ∀ placement ∈ appliedPlacement.placements.rows, placement.Versioned :=
    (placement_versions_of_leavesReports
      (.step (.step (.empty rfl) (.upsertSetPending 40 30 52 .active none 0) trivial)
        (.bulkApplyBackendReport [⟨40, 1, 52, .applied, 0⟩]) trivial)).1
  exact ⟨_, List.mem_cons_self, hall _ List.mem_cons_self⟩

end VpnControl.Vpn

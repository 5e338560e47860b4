/-
# What a node has been told last

The commands that are enqueued for a node are all that it learns about a key. When the last one
about a key that is placed on the node itself asks for it to be active, the node serves the key.
So the key has to have a placement in service there, or the node would have to be told.

An operation that takes a placement out of service raises its version and enqueues it again, and
the node gets a command with the new state, provided that the key of the placement is active:
others are not in the query for commands. A migration changes `backend_node_id` or retires the
row. Commands are made from the rows as they then stand, so the old node gets none.
-/

import VpnControl.Placements.Migrations

namespace VpnControl.Vpn

open Txn Option
open Billing (Uuid Time seconds)
open Table

/-! ## The last command -/

/-- The item is a command to a node about a key that is placed on it. -/
def NodeTransportOutbox.Addresses (item : NodeTransportOutbox) (key node : Uuid) : Prop :=
  item.nodeId = node ∧ item.payload.keyId = key ∧ item.payload.backendNodeId = node

instance (item : NodeTransportOutbox) (key node : Uuid) : Decidable (item.Addresses key node) :=
  inferInstanceAs (Decidable (_ ∧ _))

variable {placement : UserPlacement}

namespace Database

/-- The last command to a node about a key that is placed on it. -/
def lastCommand? (db : Database) (key node : Uuid) : Option NodeTransportOutbox :=
  (db.outbox.rows.filter fun item => item.Addresses key node).getLast?

/-- The last command asks the node to serve the key. -/
def Told (db : Database) (key node : Uuid) : Prop :=
  (db.lastCommand? key node).any (·.payload.desiredState = .active) = true

instance (db : Database) (key node : Uuid) : Decidable (db.Told key node) :=
  inferInstanceAs (Decidable (_ = true))

/-- The key exists and is active, so that commands about it are made. -/
def KeyActive (db : Database) (key : Uuid) : Prop :=
  (db.keys.find? key).any VpnKey.isActive = true

instance (db : Database) (key : Uuid) : Decidable (db.KeyActive key) :=
  inferInstanceAs (Decidable (_ = true))

/-- No node serves a key that is not placed on it, and no version of a placement has been sent
that the row has not reached. -/
structure Announced (db : Database) : Prop where
  sent : ∀ item ∈ db.outbox.rows, ∃ placement ∈ db.placements.rows,
    placement.id = item.messageId.placementId ∧ item.messageId.opVersion ≤ placement.opVersion
  told : ∀ key node, db.Told key node → db.Places key node

variable {db mid : Database} {key node : Uuid} {ids : List Uuid} {old new : UserPlacement}

/-- When items are appended to the outbox, a node is told by one of them or as before. -/
theorem told_of_append (hrows : mid.outbox.rows = db.outbox.rows ++ added) (h : mid.Told key node) :
    (∃ item ∈ added, item.Addresses key node ∧ item.payload.desiredState = .active) ∨
      db.Told key node ∧ ∀ item ∈ added, ¬ item.Addresses key node := by
  unfold Told lastCommand? at h
  rw [hrows, List.filter_append, List.getLast?_append] at h
  cases hlast : (added.filter fun item => item.Addresses key node).getLast? with
  | some item =>
    rw [hlast] at h
    obtain ⟨hmem, haddresses⟩ := List.mem_filter.mp (List.mem_of_getLast? hlast)
    refine .inl ⟨item, hmem, of_decide_eq_true haddresses, ?_⟩
    simpa using h
  | none =>
    rw [hlast] at h
    refine .inr ⟨h, fun item hitem haddresses => ?_⟩
    have hnil := List.getLast?_eq_none_iff.mp hlast
    exact List.not_mem_nil (hnil ▸ List.mem_filter.mpr ⟨hitem, decide_eq_true haddresses⟩)

/-! ## Commands -/

theorem find?_outbox_enqueue (db : Database) (ids : List Uuid) (message : MessageId) :
    (db.enqueueForPlacementIds ids).outbox.find? message =
      (db.outbox.find? message).or (((db.transportRows ids).flatMap
        (placementCommands db)).find? fun item => item.messageId = message) :=
  Table.find?_foldl_insert _ _ _

/-- A command is about an active placement as it stands, and goes to its backend unless it is
one for an entry node. -/
theorem mem_transportCommands (h : item ∈ (db.transportRows ids).flatMap (placementCommands db)) :
    ∃ placement ∈ db.placements.rows, ∃ row, placement.id ∈ ids ∧ placement.isActive = true ∧
      item.messageId.placementId = placement.id ∧ item.messageId.opVersion = placement.opVersion ∧
      item.payload = buildCommandPayload placement row item.nodeId ∧
      (item.messageId.entryNodeId = none → item.nodeId = placement.backendNodeId) := by
  obtain ⟨row, hrow, hitem⟩ := List.mem_flatMap.mp h
  obtain ⟨placement, hplacement, hjoin⟩ := List.mem_filterMap.mp hrow
  obtain ⟨hmem, hactive⟩ := List.mem_filter.mp hplacement
  obtain ⟨vpnKey, -, rfl⟩ := map_eq_some_iff.mp hjoin
  simp only [decide_eq_true_eq] at hactive
  refine ⟨placement, hmem, vpnKey, hactive.1, hactive.2, ?_⟩
  rcases List.mem_cons.mp hitem with rfl | hentry
  · exact ⟨rfl, rfl, rfl, fun _ => rfl⟩
  · obtain ⟨entry, -, rfl⟩ := List.mem_map.mp hentry
    exact ⟨rfl, rfl, rfl, nofun⟩

/-- The backend of an active placement gets a command when the key is active. -/
theorem exists_transportCommand (hmem : placement ∈ db.placements.rows) (hid : placement.id ∈ ids)
    (hactive : placement.isActive = true) (hkey : db.KeyActive placement.keyId) :
    ∃ item ∈ (db.transportRows ids).flatMap (placementCommands db),
      item.messageId = ⟨placement.id, placement.opVersion, none⟩ := by
  obtain ⟨row, hrow, hrowActive⟩ := (any_eq_true _ _).mp hkey
  have hjoin : (placement, row) ∈ db.transportRows ids := by
    refine List.mem_filterMap.mpr ⟨placement, List.mem_filter.mpr ⟨hmem, ?_⟩, ?_⟩
    · exact decide_eq_true ⟨hid, hactive⟩
    · rw [hrow, filter_some, if_pos hrowActive]
      rfl
  exact ⟨_, List.mem_flatMap.mpr ⟨_, hjoin, List.mem_cons_self⟩, rfl⟩

/-! ## Steps -/

/-- What an operation that enqueues `ids` may do to a row whose node has been told to serve its
key: the row stays where it is, and when it goes out of service it gets a new version and is
enqueued. -/
structure Tells (db : Database) (ids : List Uuid) (old new : UserPlacement) : Prop where
  id : new.id = old.id
  key : new.keyId = old.keyId
  version : old.opVersion ≤ new.opVersion
  told : db.Told old.keyId old.backendNodeId →
    new.backendNodeId = old.backendNodeId ∧ (old.isActive = true → new.isActive = true) ∧
      ((old.InService → new.InService) ∨
        old.opVersion < new.opVersion ∧ new.id ∈ ids ∧ db.KeyActive old.keyId)

theorem Tells.refl (db : Database) (ids : List Uuid) (placement : UserPlacement) :
    db.Tells ids placement placement :=
  ⟨rfl, rfl, le_rfl, fun _ => ⟨rfl, fun h => h, .inl fun h => h⟩⟩

theorem Tells.trans (h : db.Tells ids first second)
    (h' : db.Tells ids second third) : db.Tells ids first third := by
  refine ⟨h'.id.trans h.id, h'.key.trans h.key, h.version.trans h'.version, fun htold => ?_⟩
  obtain ⟨hhome, hactive, hservice⟩ := h.told htold
  have htold' : db.Told second.keyId second.backendNodeId := by rwa [h.key, hhome]
  obtain ⟨hhome', hactive', hservice'⟩ := h'.told htold'
  refine ⟨hhome'.trans hhome, fun hfirst => hactive' (hactive hfirst), ?_⟩
  rcases hservice with hkept | ⟨hversion, hid, hkey⟩
  · rcases hservice' with hkept' | ⟨hversion', hid', hkey'⟩
    · exact .inl fun hfirst => hkept' (hkept hfirst)
    · exact .inr ⟨h.version.trans_lt hversion', hid', h.key ▸ hkey'⟩
  · exact .inr ⟨hversion.trans_le h'.version, h'.id ▸ hid, hkey⟩

/-- A change of rows that `Tells` allows, and the commands for `ids`. -/
def Steps (db : Database) (ids : List Uuid) (after : Database) : Prop :=
  db.placements.Evolves (db.Tells ids) (fun _ => True) after.placements ∧
    after.outbox = db.outbox ∧ after.keys = db.keys

theorem Steps.trans (h : db.Steps ids mid)
    (h' : mid.placements.Evolves (db.Tells ids) (fun _ => True) after.placements ∧
      after.outbox = mid.outbox ∧ after.keys = mid.keys) : db.Steps ids after :=
  ⟨h.1.trans (fun _ _ _ => .trans) (fun _ _ _ _ => trivial) h'.1, h'.2.1.trans h.2.1,
    h'.2.2.trans h.2.2⟩

/-- After such a change and the commands for it no node serves a key that is not placed on it. -/
theorem Announced.enqueue (h : db.Announced) (hsteps : db.Steps ids mid) :
    (mid.enqueueForPlacementIds ids).Announced := by
  obtain ⟨hevolves, houtbox, hkeys⟩ := hsteps
  obtain ⟨added, hrows, hadded⟩ := exists_rows_foldl_insert mid.outbox
  have hafter : (mid.enqueueForPlacementIds ids).outbox.rows = db.outbox.rows ++ added :=
    hrows.trans (by rw [houtbox])
  constructor
  · intro item hitem
    rw [hafter] at hitem
    rcases List.mem_append.mp hitem with hold | hnew
    · obtain ⟨old, hmem, hid, hversion⟩ := h.sent item hold
      obtain ⟨new, hnew, hkey⟩ := hevolves.kept old hmem
      have hstep := hevolves.step_of_mem hmem hnew hkey
      exact ⟨new, hnew, hstep.id.trans hid, hversion.trans hstep.version⟩
    · obtain ⟨placement, hplacement, -, -, -, hid, hversion, -, -⟩ :=
        mem_transportCommands (hadded hnew)
      exact ⟨placement, hplacement, hid.symm, hversion.le⟩
  · intro key node htold
    rcases told_of_append hafter htold with ⟨item, hitem, haddresses, hactive⟩ | ⟨htold, hnone⟩
    · obtain ⟨placement, hplacement, row, -, hplaced, -, -, hpayload, -⟩ :=
        mem_transportCommands (hadded hitem)
      obtain ⟨-, hkey, hhome⟩ := haddresses
      rw [hpayload] at hkey hhome hactive
      exact ⟨placement, hplacement, hkey, hhome, hplaced, hactive⟩
    · obtain ⟨old, hold, rfl, rfl, hservice⟩ := h.told key node htold
      obtain ⟨new, hnew, hsame⟩ := hevolves.kept old hold
      have hstep := hevolves.step_of_mem hold hnew hsame
      obtain ⟨hhome, hplaced, hkept | ⟨hversion, hid, hkey⟩⟩ := hstep.told htold
      · exact ⟨new, hnew, hstep.key, hhome, hkept hservice⟩
      · -- the row has a version that was never sent, so the node is told about it
        exfalso
        have hkey' : mid.KeyActive new.keyId := by
          unfold KeyActive
          rw [hkeys, hstep.key]
          exact hkey
        obtain ⟨item, hitem, hmessage⟩ :=
          exists_transportCommand hnew hid (hplaced hservice.1) hkey'
        obtain ⟨found, hfound⟩ : ∃ found, (mid.enqueueForPlacementIds ids).outbox.find?
            item.messageId = some found := by
          refine isSome_iff_exists.mp ?_
          rw [find?_outbox_enqueue, isSome_or, Bool.or_eq_true, List.find?_isSome]
          exact .inr ⟨item, hitem, decide_eq_true rfl⟩
        have hmem : found ∈ mid.outbox.rows ++ added := hrows ▸ mem_of_find? hfound
        have hfoundId : found.messageId = ⟨new.id, new.opVersion, none⟩ :=
          (key_of_find? hfound).trans hmessage
        rw [houtbox] at hmem
        rcases List.mem_append.mp hmem with hbefore | hlater
        · obtain ⟨other, hother, hotherId, hle⟩ := h.sent found hbefore
          rw [hfoundId] at hotherId hle
          obtain rfl := eq_of_mem_of_key hother hold (hotherId.trans hstep.id)
          exact absurd hle hversion.not_ge
        · obtain ⟨placement, hplacement, row, -, -, hplacementId, -, hpayload, hbackend⟩ :=
            mem_transportCommands (hadded hlater)
          rw [hfoundId] at hplacementId hbackend
          obtain rfl := eq_of_mem_of_key hplacement hnew hplacementId.symm
          refine hnone found hlater ⟨(hbackend rfl).trans hhome, ?_, ?_⟩
          · rw [hpayload]
            exact hstep.key
          · rw [hpayload]
            exact hhome

/-- A change of rows that takes nothing out of service. -/
theorem Announced.of_steps (h : db.Announced) (hsteps : db.Steps [] mid) : mid.Announced := by
  have henqueued := h.enqueue hsteps
  rwa [enqueueForPlacementIds_nil] at henqueued

theorem steps_refl : db.Steps ids db := ⟨.refl (.refl db ids) _, rfl, rfl⟩

/-! ## Statements -/

/-- A statement that writes into rows and leaves them in service where they are. -/
theorem Tells.of_kept (hid : new.id = old.id)
    (hkey : new.keyId = old.keyId) (hversion : old.opVersion ≤ new.opVersion)
    (hhome : new.backendNodeId = old.backendNodeId)
    (hactive : old.isActive = true → new.isActive = true)
    (hservice : old.InService → new.InService) : db.Tells ids old new :=
  ⟨hid, hkey, hversion, fun _ => ⟨hhome, hactive, .inl hservice⟩⟩

/-- A statement that takes a row out of service and enqueues it. -/
theorem Tells.of_enqueued (hid : new.id = old.id)
    (hkey : new.keyId = old.keyId) (hversion : old.opVersion < new.opVersion)
    (hhome : new.backendNodeId = old.backendNodeId)
    (hactive : old.isActive = true → new.isActive = true) (hids : old.id ∈ ids)
    (hkeyActive : db.KeyActive old.keyId) : db.Tells ids old new :=
  ⟨hid, hkey, hversion.le, fun _ => ⟨hhome, hactive, .inr ⟨hversion, hid ▸ hids, hkeyActive⟩⟩⟩

/-- Redirecting a row keeps it in service, or is announced. -/
theorem Tells.redirect (desired : PlacementDesiredState) (reason : String) (now : Time)
    (h : desired = .inactive → placement.id ∈ ids ∧ db.KeyActive placement.keyId) :
    db.Tells ids placement (placement.redirect desired reason now) := by
  cases desired with
  | active =>
    exact .of_kept rfl rfl (Nat.le_succ _) rfl (fun hactive => hactive)
      fun hservice => ⟨hservice.1, rfl⟩
  | inactive =>
    obtain ⟨hid, hkey⟩ := h rfl
    exact .of_enqueued rfl rfl (Nat.lt_succ_self _) rfl (fun hactive => hactive) hid hkey

variable {base : Database}

/-- An upsert of a row that is active keeps rows in service; one of a row that is not has to be
announced. -/
theorem evolves_upsertSetPending (h : row.desiredState = .active ∨
      base.KeyActive row.keyId ∧ ∀ old ∈ db.placements.rows, row.SameHome old → old.id ∈ ids) :
    db.placements.Evolves (base.Tells ids) (fun _ => True) (db.upsertSetPending row).placements := by
  unfold upsertSetPending
  split
  · refine .modifyWhere (.refl base ids) _ _ row.setPending (fun _ => rfl) ?_
    intro old hold hhome
    rcases h with hactive | ⟨hkey, hids⟩
    · exact .of_kept rfl rfl (Nat.le_succ _) rfl (fun _ => rfl) fun _ => ⟨rfl, hactive⟩
    · have hsame : row.SameHome old := of_decide_eq_true hhome
      refine .of_enqueued rfl rfl (Nat.lt_succ_self _) rfl (fun _ => rfl) (hids old hold hsame) ?_
      exact hsame.1 ▸ hkey
  · exact .insert (.refl base ids) _ trivial

theorem steps_upserts (h : base.Steps ids db) {rows : List UserPlacement}
    (hrows : ∀ row ∈ rows, row.desiredState = .active) :
    base.Steps ids (rows.foldl upsertSetPending db) := by
  induction rows generalizing db with
  | nil => exact h
  | cons row _ ih =>
    refine ih (h.trans ⟨evolves_upsertSetPending (.inl (hrows row (by simp))), rfl, rfl⟩) ?_
    exact fun other hother => hrows other (by simp [hother])

theorem steps_bulkUpsertSetPending :
    db.Steps ids (bulkUpsertSetPending (pendingRows uuids pairs .active reason now) db).2 :=
  steps_upserts steps_refl fun _ hrow => (of_mem_pendingRows hrow).1

/-! ## Moving placements -/

variable {new : UserPlacement} {payload : PlacementMigrateBackendIn}

section

variable {target source : Uuid} {reason : Option String} {now : Time} {targets : List Uuid}
  {after : Database}

/-- Moving placements in service is announced when their nodes have not been told to serve their
keys. -/
theorem steps_bulkMigrateBackend
    (h : db.bulkMigrateBackend ids target reason now = some (targets, after))
    (hsources : ∀ placement ∈ db.migrationSources ids, placement.backendNodeId ≠ target ∧
      placement.InService ∧ ¬ db.Told placement.keyId placement.backendNodeId) :
    db.Steps told after := by
  obtain ⟨hrows, hkeys, houtbox⟩ := rows_bulkMigrateBackend h
  refine ⟨.map hrows fun row hrow => ?_, houtbox, hkeys⟩
  rcases migratedRow_cases (fun row hrow => (hsources row hrow).1) hrow with
    ⟨hsource, -, heq⟩ | ⟨hsource, -, heq⟩ | ⟨-, source, hsource, -, heq⟩ | ⟨-, -, heq⟩ <;> rw [heq]
  · exact ⟨rfl, rfl, rfl, Nat.le_succ _, fun htold => absurd htold (hsources row hsource).2.2⟩
  · exact ⟨rfl, rfl, rfl, le_rfl, fun htold => absurd htold (hsources row hsource).2.2⟩
  · exact ⟨rfl, .of_kept rfl rfl (Nat.le_succ _) rfl (fun _ => rfl)
      fun _ => ⟨rfl, (hsources source hsource).2.1.2⟩⟩
  · exact ⟨rfl, .refl db told row⟩

/-- Placements in service on a node that has not been told to serve their keys. -/
def Waiting (db : Database) (source : Uuid) (waits : Uuid → Prop) : Prop :=
  ∀ placement ∈ db.placements.rows, waits placement.id →
    placement.InService ∧ placement.backendNodeId = source ∧ ¬ db.Told placement.keyId source

theorem Waiting.of_mem (h : db.Waiting source (· ∈ ids)) (hne : target ≠ source) :
    ∀ placement ∈ db.migrationSources ids, placement.backendNodeId ≠ target ∧
      placement.InService ∧ ¬ db.Told placement.keyId placement.backendNodeId := by
  intro placement hplacement
  obtain ⟨hmem, hid, -⟩ := mem_migrationSources.mp hplacement
  obtain ⟨hservice, rfl, htold⟩ := h placement hmem hid
  exact ⟨hne.symm, hservice, htold⟩

theorem Announced.migratePlacements (h : db.Announced) (hwaiting : db.Waiting source (· ∈ ids))
    (hne : target ≠ source) (hrun : db.migratePlacements ids target reason now = some after) :
    after.Announced := by
  obtain ⟨⟨targets, migrated⟩, hmigrated, rfl⟩ := map_eq_some_iff.mp hrun
  exact h.enqueue (steps_bulkMigrateBackend hmigrated (hwaiting.of_mem hne))

/-- A migration to another node leaves the placements waiting that it does not move. -/
theorem Waiting.migratePlacements (h : db.Waiting source waits)
    (hids : db.Waiting source (· ∈ ids)) (hother : ∀ id ∈ ids, ¬ waits id) (hne : target ≠ source)
    (hrun : db.migratePlacements ids target reason now = some after) :
    after.Waiting source waits := by
  obtain ⟨⟨targets, migrated⟩, hmigrated, rfl⟩ := map_eq_some_iff.mp hrun
  obtain ⟨hmigratedRows, -, houtbox⟩ := rows_bulkMigrateBackend hmigrated
  have hsources := fun row hrow => (hids.of_mem hne row hrow).1
  intro new hnew hwaits
  obtain ⟨old, hold, rfl⟩ := List.mem_map.mp (hmigratedRows ▸ hnew)
  rw [(migratedRow_same hsources reason now hold).1] at hwaits
  obtain ⟨hservice, hhome, htold⟩ := h old hold hwaits
  rw [migratedRow_of_other hsources reason now hold (fun hin => hother old.id hin hwaits)
    fun htarget => hne (htarget.1.symm.trans hhome)]
  refine ⟨hservice, hhome, fun hafter => ?_⟩
  obtain ⟨added, hrows, hadded⟩ := exists_rows_foldl_insert migrated.outbox
  have hafterRows : (migrated.enqueueForPlacementIds targets).outbox.rows =
      db.outbox.rows ++ added := hrows.trans (by rw [houtbox])
  rcases told_of_append hafterRows hafter with ⟨item, hitem, haddresses, -⟩ | ⟨hbefore, -⟩
  · obtain ⟨placement, hplacement, row, hin, -, -, -, hpayload, -⟩ :=
      mem_transportCommands (hadded hitem)
    have hsource := haddresses.2.2
    rw [hpayload] at hsource
    exact hne ((backend_of_mem_targets hsources hmigrated hplacement hin).symm.trans hsource)
  · exact htold hbefore

end

/-! ## The migrations of a node -/

/-- The placements that a smart migration would move are waiting. -/
def OrphansWait (db : Database) (source : Uuid) (selected : List Uuid) : Prop :=
  ∀ placement ∈ db.orphanPlacements source (selected.filter (· ≠ source)),
    ¬ db.Told placement.keyId source

theorem Announced.smartMigratePlacements (h : db.Announced)
    (horphans : db.OrphansWait source selected)
    (hrun : db.smartMigratePlacements source selected now = some after) : after.Announced := by
  unfold Database.smartMigratePlacements at hrun
  dsimp only at hrun
  by_cases hcandidates : selected.filter (· ≠ source) = []
  · rw [hcandidates, distribute_nil] at hrun
    obtain rfl := some.inj hrun
    exact h
  obtain ⟨hfirst, hsecond⟩ := db.distribute_spec hcandidates
  have hnodup := db.nodup_orphanPlacements source (selected.filter (· ≠ source))
  generalize db.distribute (selected.filter (· ≠ source))
    (db.orphanPlacements source (selected.filter (· ≠ source))) = assigned at *
  refine foldlM_groups (C := fun waits db => db.Waiting source waits) (I := fun _ => Announced)
    (hfirst ▸ hnodup) (List.nodup_reverse.mpr (List.nodup_dedup _))
    (fun h hless row hrow hid => h row hrow (hless _ hid))
    (fun target htarget _ _ _ _ _ hids hmigrated => ?_) ?_ h hrun
  · have hne : target ≠ source := by
      obtain ⟨pair, hpair, rfl⟩ : ∃ pair ∈ assigned, pair.2 = target := by simpa using htarget
      simpa using (List.mem_filter.mp (hsecond pair hpair)).2
    exact ⟨fun h => h.migratePlacements hids hne hmigrated,
      fun hother h => h.migratePlacements hids hother hne hmigrated⟩
  · rintro placement hplacement ⟨target, -, hin⟩
    have hid := hfirst ▸ List.mem_map_of_mem hin
    obtain ⟨orphan, horphan, hsame⟩ := List.mem_map.mp hid
    obtain ⟨⟨hmem, hhome, hservice⟩, -⟩ := mem_orphanPlacements.mp horphan
    obtain rfl := eq_of_mem_of_key hmem hplacement hsame
    exact ⟨hservice, hhome, horphans orphan horphan⟩

def NodeWaits (db : Database) (source : Uuid) : Prop :=
  ∀ placement ∈ db.placementsInService source, ¬ db.Told placement.keyId source

theorem migrationTarget_ne
    {node : VpnNode} (hpayload : payload.targetBackendId ≠ some payload.sourceBackendId)
    (h : db.migrationTarget payload selected = .ok node) : node.id ≠ payload.sourceBackendId := by
  rintro hsame
  unfold migrationTarget at h
  split at h
  · rename_i target htarget
    split at h
    · cases h
    · rename_i found hfound
      cases h
      have hid : node.id = target := key_of_find? hfound
      exact hpayload (htarget.trans (congrArg some (hid.symm.trans hsame)))
  · split at h
    · cases h
    · rename_i found rest hfound
      cases h
      obtain ⟨id, hid, hfind⟩ := List.mem_filterMap.mp (hfound ▸ List.mem_cons_self)
      have hnode : node.id = id := key_of_find? hfind
      simp [← hnode, hsame] at hid

theorem Announced.migrateBackend (h : db.Announced) (hsource : db.NodeWaits payload.sourceBackendId)
    (hrun : db.migrateBackend payload selected now = .ok after) : after.Announced := by
  unfold Database.migrateBackend at hrun
  split at hrun
  · cases hrun
  rename_i hpayload
  split at hrun
  · cases hrun
  cases htarget : db.migrationTarget payload selected with
  | error => rw [htarget] at hrun; cases hrun
  | ok =>
    rw [htarget] at hrun
    change (if _ then _ else _) = _ at hrun
    split at hrun
    · cases hrun
    · split at hrun
      · cases hrun
      · rename_i migrated hmigrated
        cases hrun
        refine h.migratePlacements (?_ : db.Waiting payload.sourceBackendId _)
          (migrationTarget_ne hpayload htarget) hmigrated
        intro placement hplacement hid
        obtain ⟨found, hfound, hsame⟩ := List.mem_map.mp hid
        obtain ⟨hmem, hhome, hservice⟩ := mem_placementsInService.mp hfound
        obtain rfl := eq_of_mem_of_key hmem hplacement hsame
        exact ⟨hservice, hhome, hsource found hfound⟩

/-! ## The other operations -/

theorem Announced.upsertPlacement (h : db.Announced) {id : Uuid} {payload : UserPlacementUpsertIn}
    (hkey : payload.desiredState = .inactive → db.KeyActive payload.keyId)
    (hrun : db.upsertPlacement id payload now = .ok after) : after.Announced := by
  unfold Database.upsertPlacement at hrun
  dsimp only at hrun
  split at hrun
  · cases hrun
  split at hrun
  · cases hrun
  split at hrun
  · rename_i placement hplacement
    cases hrun
    refine h.enqueue ⟨evolves_upsertSetPending ?_, rfl, rfl⟩
    cases hdesired : payload.desiredState with
    | active => exact .inl rfl
    | inactive =>
      refine .inr ⟨hkey hdesired, fun old hold hhome => ?_⟩
      -- the row of the pair is the one that is loaded afterwards
      have hmem : UserPlacement.setPending (.pending id payload.keyId payload.backendNodeId
          payload.desiredState payload.lastMigrationReason now) old ∈ [placement] := by
        rw [← hplacement]
        refine List.mem_filter.mpr ⟨?_, decide_eq_true ⟨hhome.1.symm, hhome.2.symm, rfl⟩⟩
        unfold upsertSetPending
        rw [if_pos (List.any_eq_true.mpr ⟨old, hold, decide_eq_true hhome⟩)]
        exact List.mem_map.mpr ⟨old, hold, if_pos (decide_eq_true hhome)⟩
      rw [← List.mem_singleton.mp hmem]
      exact List.mem_singleton.mpr rfl
  · cases hrun

theorem Announced.placeKeys (h : db.Announced) (uuids : ℕ → Uuid) (pairs : List (Uuid × Uuid))
    (reason : Option String) (now : Time) : (db.placeKeys uuids pairs reason now).Announced :=
  h.enqueue steps_bulkUpsertSetPending

theorem Announced.changeKeyState (h : db.Announced)
    (hkey : desired = .inactive → db.KeyActive key) (reason : String) (now : Time) :
    (db.changeKeyState key desired reason now).Announced := by
  refine h.enqueue ⟨.modifyWhere (.refl db _) _ _ (UserPlacement.redirect desired reason now)
    (fun _ => rfl) fun old hold hredirects => .redirect desired reason now fun hinactive => ?_,
    rfl, rfl⟩
  have hwhere := (of_decide_eq_true hredirects).1
  obtain ⟨hkeyId, hactive, -⟩ := of_decide_eq_true hwhere
  refine ⟨?_, hkeyId ▸ hkey hinactive⟩
  have hnew : old.redirect desired reason now ∈
      (db.setDesiredStateForKey key desired reason now none).placements.rows :=
    List.mem_map.mpr ⟨old, hold, if_pos hredirects⟩
  exact List.mem_map.mpr ⟨_, List.mem_filter.mpr ⟨hnew, decide_eq_true ⟨hkeyId, hactive, rfl⟩⟩, rfl⟩

theorem Announced.expireKeys (h : db.Announced) {keys : List Uuid}
    (hkeys : ∀ key ∈ keys, db.KeyActive key) (reason : String) (now : Time) :
    (db.expireKeys keys reason now).Announced := by
  refine h.enqueue ⟨.modifyWhere (.refl db _) _ _ (UserPlacement.redirect .inactive reason now)
    (fun _ => rfl) fun old hold hredirects => .redirect .inactive reason now fun _ => ?_, rfl, rfl⟩
  refine ⟨List.mem_map.mpr ⟨old, List.mem_filter.mpr ⟨hold, hredirects⟩, rfl⟩, ?_⟩
  exact hkeys _ (of_decide_eq_true hredirects).1

def ServedKeysActive (db : Database) (node : Uuid) : Prop :=
  ∀ placement ∈ db.placementsInService node, db.KeyActive placement.keyId

theorem Announced.swapRole (h : db.Announced) (hkeys : db.ServedKeysActive node) (reason : String)
    (now : Time) : (db.swapRole node reason now).Announced := by
  refine h.enqueue ⟨.modifyWhere (.refl db _) _ _ (UserPlacement.redirect .inactive reason now)
    (fun _ => rfl) fun old hold hin => .redirect .inactive reason now fun _ => ?_, rfl, rfl⟩
  refine ⟨of_decide_eq_true hin, ?_⟩
  obtain ⟨found, hfound, hsame⟩ := List.mem_map.mp (of_decide_eq_true hin)
  obtain ⟨hmem, hwhere⟩ := List.mem_filter.mp hfound
  obtain rfl := eq_of_mem_of_key hmem hold hsame
  obtain ⟨hactive, hdesired, hhome⟩ := of_decide_eq_true hwhere
  refine hkeys found (mem_placementsInService.mpr ⟨hold, hhome, hactive, ?_⟩)
  cases hstate : found.desiredState with
  | active => rfl
  | inactive => exact absurd hstate hdesired

theorem Announced.requeueBackend (h : db.Announced) (backend : Uuid) (reason : Option String)
    (now : Time) : (db.requeueBackend backend reason now).Announced :=
  h.enqueue ⟨.modifyWhere (.refl db _) _ _ (UserPlacement.resend reason now) (fun _ => rfl)
    fun _ _ _ => .of_kept rfl rfl (Nat.le_succ _) rfl (fun hactive => hactive)
      fun hservice => hservice, rfl, rfl⟩

theorem Announced.reconcileSynthetic (h : db.Announced) (hkey : db.KeyActive key) (uuids : ℕ → Uuid)
    (desiredBackends : List Uuid) (now : Time) :
    (db.reconcileSynthetic uuids key desiredBackends now).Announced := by
  refine h.enqueue (steps_bulkUpsertSetPending.trans
    ⟨.modifyWhere (.refl db _) _ _ (UserPlacement.redirect .inactive _ now) (fun _ => rfl)
      fun old hold hredirects => ?_, rfl, rfl⟩)
  obtain ⟨hwhere, hbackends⟩ := of_decide_eq_true hredirects
  obtain ⟨hkeyId, hactive, -⟩ := of_decide_eq_true hwhere
  by_cases hservice : old.InService
  · refine .redirect .inactive _ now fun _ => ⟨List.mem_append_right _ ?_, hkeyId ▸ hkey⟩
    refine List.mem_map.mpr ⟨old, List.mem_filter.mpr ⟨hold, decide_eq_true ?_⟩, rfl⟩
    exact ⟨hkeyId, hservice, by simpa using hbackends⟩
  · exact .of_kept rfl rfl (Nat.le_succ _) rfl (fun hactive => hactive)
      fun hserves => absurd hserves hservice

theorem Announced.errorRetryTick (h : db.Announced) (retryAfterSec : ℤ) (now : Time) :
    (db.errorRetryTick retryAfterSec now).Announced := by
  rw [errorRetryTick_eq]
  refine (h.enqueue ?_).enqueue steps_refl
  exact ⟨.modifyWhere (.refl db _) _ _ (UserPlacement.retry now) (fun _ => rfl)
    fun _ _ _ => .of_kept rfl rfl (Nat.le_succ _) rfl (fun hactive => hactive)
      fun hservice => hservice, rfl, rfl⟩

/-- The keys that a rebalance tick takes off draining backends are active. -/
def DrainedKeysActive (db : Database) : Prop :=
  ∀ placement ∈ db.placements.rows, db.drains placement = true → db.KeyActive placement.keyId

theorem Announced.executeTick (h : db.Announced) (hkeys : db.DrainedKeysActive)
    (policy : NodePolicy) (now : Time) (uuids : ℕ → Uuid) :
    (executeTick policy now uuids db).2.Announced := by
  have hdrain : db.Steps db.drainedIds (db.drain now) := by
    refine ⟨.modifyWhere (.refl db _) _ _ (UserPlacement.drain now) (fun _ => rfl)
      fun old hold hdrains => ?_, rfl, rfl⟩
    exact .of_enqueued rfl rfl (Nat.lt_succ_self _) rfl (fun hactive => hactive)
      (List.mem_map.mpr ⟨old, List.mem_filter.mpr ⟨hold, hdrains⟩, rfl⟩) (hkeys old hold hdrains)
  have hdrained : (db.drained now).Announced := h.enqueue hdrain
  rcases executeTick_cases with
    ⟨-, hafter⟩ | ⟨-, -, hafter⟩ | ⟨-, -, rows, ids, hafter, hrows⟩ <;> rw [hafter]
  · exact hdrained
  · exact h
  · exact hdrained.enqueue (steps_upserts steps_refl fun row hrow => (hrows row hrow).1)

/-- A report leaves a row in service where it is. -/
theorem Tells.report (outcome : PlacementAppliedState) (now : Time) (placement : UserPlacement) :
    base.Tells ids placement (placement.report outcome now) :=
  .of_kept rfl rfl le_rfl rfl (fun hactive => hactive) fun hservice => hservice

theorem Announced.applyBackendReport (h : db.Announced) (item : PlacementResultApply) :
    (db.applyBackendReport item).2.Announced :=
  h.of_steps ⟨.modifyWhere (.refl db _) _ _
    (UserPlacement.report item.appliedState item.updatedAt) (fun _ => rfl)
    fun old _ _ => .report _ _ old, rfl, rfl⟩

theorem Announced.applyReports (h : db.Announced) (outcome : PlacementAppliedState)
    (items : List PlacementResultApply) : (db.applyReports outcome items).2.Announced :=
  h.of_steps ⟨.modifyWhere (.refl db _) _ _ (UserPlacement.report outcome _) (fun _ => rfl)
    fun old _ _ => .report _ _ old, rfl, rfl⟩

theorem Announced.bulkApplyBackendReport (h : db.Announced) (items : List PlacementResultApply) :
    (db.bulkApplyBackendReport items).2.Announced := by
  unfold Database.bulkApplyBackendReport
  refine List.foldlRecOn (motive := fun updated : List Uuid × Database => updated.2.Announced) _ _ h ?_
  intro updated hupdated outcome _
  exact hupdated.applyReports _ _

end Database

/-! ## Runs -/

/-- The operations that write placements, with the commands that they send. -/
inductive PlacementCall
  | upsert (id : Uuid) (payload : UserPlacementUpsertIn) (now : Time)
  | placeKeys (uuids : ℕ → Uuid) (pairs : List (Uuid × Uuid)) (reason : Option String) (now : Time)
  | changeKeyState (key : Uuid) (desired : PlacementDesiredState) (reason : String) (now : Time)
  | expireKeys (keys : List Uuid) (reason : String) (now : Time)
  | swapRole (node : Uuid) (reason : String) (now : Time)
  | requeueBackend (backend : Uuid) (reason : Option String) (now : Time)
  | reconcileSynthetic (uuids : ℕ → Uuid) (key : Uuid) (desiredBackends : List Uuid) (now : Time)
  | migrateBackend (payload : PlacementMigrateBackendIn) (selected : List Uuid) (now : Time)
  | smartMigratePlacements (source : Uuid) (selected : List Uuid) (now : Time)
  | rebalanceTick (policy : NodePolicy) (now : Time) (uuids : ℕ → Uuid)
  | errorRetryTick (retryAfterSec : ℤ) (now : Time)
  | applyBackendReport (item : PlacementResultApply)
  | bulkApplyBackendReport (items : List PlacementResultApply)

namespace PlacementCall

/-- The tables after an operation. A failed one has left them as they were. -/
def run (db : Database) : PlacementCall → Database
  | upsert id payload now => (db.upsertPlacement id payload now).toOption.getD db
  | placeKeys uuids pairs reason now => db.placeKeys uuids pairs reason now
  | changeKeyState key desired reason now => db.changeKeyState key desired reason now
  | expireKeys keys reason now => db.expireKeys keys reason now
  | swapRole node reason now => db.swapRole node reason now
  | requeueBackend backend reason now => db.requeueBackend backend reason now
  | reconcileSynthetic uuids key desiredBackends now =>
    db.reconcileSynthetic uuids key desiredBackends now
  | migrateBackend payload selected now =>
    (db.migrateBackend payload selected now).toOption.getD db
  | smartMigratePlacements source selected now =>
    (db.smartMigratePlacements source selected now).getD db
  | rebalanceTick policy now uuids => (executeTick policy now uuids db).2
  | errorRetryTick retryAfterSec now => db.errorRetryTick retryAfterSec now
  | applyBackendReport item => (db.applyBackendReport item).2
  | bulkApplyBackendReport items => (db.bulkApplyBackendReport items).2

/-- The keys that an operation takes out of service are active, and the placements that it moves
are on nodes that were not told to serve their keys. -/
def Announces (db : Database) : PlacementCall → Prop
  | upsert _ payload _ => payload.desiredState = .inactive → db.KeyActive payload.keyId
  | changeKeyState key desired _ _ => desired = .inactive → db.KeyActive key
  | expireKeys keys _ _ => ∀ key ∈ keys, db.KeyActive key
  | swapRole node _ _ => db.ServedKeysActive node
  | reconcileSynthetic _ key _ _ => db.KeyActive key
  | migrateBackend payload _ _ => db.NodeWaits payload.sourceBackendId
  | smartMigratePlacements source selected _ => db.OrphansWait source selected
  | rebalanceTick .. => db.DrainedKeysActive
  | _ => True

/-- One operation keeps every node informed. -/
theorem announced_run {call : PlacementCall} (h : db.Announced)
    (hok : call.Announces db) : (call.run db).Announced := by
  cases call with
  | upsert id payload now =>
    change ((db.upsertPlacement id payload now).toOption.getD db).Announced
    cases hrun : db.upsertPlacement id payload now with
    | error => exact h
    | ok => exact h.upsertPlacement hok hrun
  | placeKeys uuids pairs reason now => exact h.placeKeys uuids pairs reason now
  | changeKeyState _ _ reason now => exact h.changeKeyState hok reason now
  | expireKeys _ reason now => exact h.expireKeys hok reason now
  | swapRole _ reason now => exact h.swapRole hok reason now
  | requeueBackend backend reason now => exact h.requeueBackend backend reason now
  | reconcileSynthetic uuids _ desiredBackends now =>
    exact h.reconcileSynthetic hok uuids desiredBackends now
  | migrateBackend payload selected now =>
    change ((db.migrateBackend payload selected now).toOption.getD db).Announced
    cases hrun : db.migrateBackend payload selected now with
    | error => exact h
    | ok => exact h.migrateBackend hok hrun
  | smartMigratePlacements source selected now =>
    change ((db.smartMigratePlacements source selected now).getD db).Announced
    cases hrun : db.smartMigratePlacements source selected now with
    | none => exact h
    | some => exact h.smartMigratePlacements hok hrun
  | rebalanceTick policy now uuids => exact h.executeTick hok policy now uuids
  | errorRetryTick retryAfterSec now => exact h.errorRetryTick retryAfterSec now
  | applyBackendReport item => exact h.applyBackendReport item
  | bulkApplyBackendReport items => exact h.bulkApplyBackendReport items

end PlacementCall

/-- The states that the operations reach before anything has been placed, while keys, nodes and
the other tables change as they like. Each operation satisfies `ok` on the state it starts
from. -/
inductive CallsReached (ok : Database → PlacementCall → Prop) : Database → Prop
  | empty {db : Database} (hplacements : db.placements.rows = []) (houtbox : db.outbox.rows = []) :
      CallsReached ok db
  | step {db : Database} (h : CallsReached ok db) (call : PlacementCall) (hok : ok db call) :
      CallsReached ok (call.run db)
  | elsewhere {db db' : Database} (h : CallsReached ok db)
      (hplacements : db'.placements = db.placements) (houtbox : db'.outbox = db.outbox) :
      CallsReached ok db'

/-- In a run that takes only active keys out of service, and moves only placements whose nodes
were not told to serve their keys, a key is in service on every node whose last command about it
says so. -/
theorem told_nodes_serve_of_announces {db : Database}
    (h : CallsReached (fun db call => call.Announces db) db) (key node : Uuid)
    (htold : db.Told key node) : db.Places key node := by
  have hannounced : db.Announced := by
    clear htold
    induction h with
    | empty _ houtbox =>
      refine ⟨by simp [houtbox], fun key node htold => ?_⟩
      simp [Database.Told, Database.lastCommand?, houtbox] at htold
    | step _ call hok ih => exact call.announced_run ih hok
    | elsewhere _ hplacements houtbox ih =>
      refine ⟨fun item hitem => ?_, fun key node htold => ?_⟩
      · rw [houtbox] at hitem
        rw [hplacements]
        exact ih.sent item hitem
      · unfold Database.Told Database.lastCommand? at htold
        rw [houtbox] at htold
        unfold Database.Places
        rw [hplacements]
        exact ih.told key node htold
  exact hannounced.told key node htold

/-- Two backends and an active key. -/
def twoBackends : Database :=
  { Database.empty with
    keys := Table.empty.insert
      { id := 30, clientId := "30", transport := .tcp, validUntil := 1000, isRevoked := false,
        subscriptionId := none }
    nodes := [{ id := 50 }, { id := 51 }].foldl Table.insert .empty }

def placeOnFirst : PlacementCall := .upsert 40 { keyId := 30, backendNodeId := 50 } 0

def moveToSecond : PlacementCall :=
  .migrateBackend { sourceBackendId := 50, targetBackendId := some 51 } [] 1

/-- After a migration the old backend has last been told to serve a key that is not placed on it
any more. -/
theorem migrated_backend_still_told :
    ∃ db, CallsReached (fun _ _ => True) db ∧ db.Told 30 50 ∧ ¬ db.Places 30 50 :=
  ⟨moveToSecond.run (placeOnFirst.run twoBackends),
    .step (.step (.empty rfl rfl) placeOnFirst trivial) moveToSecond trivial, by decide +kernel⟩

/-- The key is taken out of service and put back: its backend is told to serve it, and it is
placed there. -/
theorem told_nodes_serve_restored : ((PlacementCall.changeKeyState 30 .active "restore" 2).run
      ((PlacementCall.changeKeyState 30 .inactive "key_revoke" 1).run
        (placeOnFirst.run twoBackends))).Places 30 50 :=
  told_nodes_serve_of_announces (.step (.step (.step (.empty rfl rfl) placeOnFirst nofun)
      (.changeKeyState 30 .inactive "key_revoke" 1) fun _ => by decide +kernel)
      (.changeKeyState 30 .active "restore" 2) nofun) 30 50 (by decide +kernel)

end VpnControl.Vpn

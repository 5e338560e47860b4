/-
# Who is told about a placement

A command about a placement goes to its backend and to the entry nodes that are assigned to the
backend, and a snapshot for an entry node holds the placements on the backends it is assigned to.
`EntryService` manages the assignments. A row has two flags: `enabled`, which an operator sets,
and `is_active`, which `remove_assignment` clears. The two queries for the audience of a
placement ask for the first flag only, so a removed assignment that was enabled still counts.
-/

import Mathlib.Data.List.Find
import Mathlib.Data.List.Sort
import VpnControl.Vpn.Service

namespace VpnControl.Vpn

open Txn List
open Billing (Uuid Time)
open Database

/-! ## Snapshots -/

namespace Database

variable (db : Database)

/-- `list_transport_rows_for_backend`. -/
def transportRowsForBackend (backend : Uuid) : List (UserPlacement × VpnKey) :=
  ((db.placements.rows.filter fun placement =>
    placement.backendNodeId = backend ∧ placement.isActive).filterMap
      fun placement => ((db.keys.find? placement.keyId).filter VpnKey.isActive).map
        (placement, ·)).insertionSort
    fun first second => first.1.updatedAt < second.1.updatedAt ∨
      first.1.updatedAt = second.1.updatedAt ∧ first.1.id ≤ second.1.id

/-- `list_transport_rows_for_entry`: the placements, their keys and the assignments of the entry
node joined. -/
def transportRowsForEntry (entry : Uuid) : List (UserPlacement × VpnKey) :=
  ((db.placements.rows.filter UserPlacement.isActive).flatMap fun placement =>
    (db.entryAssignments.filter fun row =>
      row.entryNodeId = entry ∧ row.backendNodeId = placement.backendNodeId ∧ row.enabled).filterMap
        fun _ => ((db.keys.find? placement.keyId).filter VpnKey.isActive).map
          (placement, ·)).insertionSort
    fun first second => first.1.updatedAt < second.1.updatedAt ∨
      first.1.updatedAt = second.1.updatedAt ∧ first.1.id ≤ second.1.id

/-- `list_command_payloads_for_backend`. -/
def listCommandPayloadsForBackend (backend : Uuid) : List PlacementCommandPayload :=
  (db.transportRowsForBackend backend).map fun row =>
    buildCommandPayload row.1 row.2 row.1.backendNodeId

/-- `list_command_payloads_for_entry`. -/
def listCommandPayloadsForEntry (entry : Uuid) : List PlacementCommandPayload :=
  (db.transportRowsForEntry entry).map fun row => buildCommandPayload row.1 row.2 entry

/-- The commands that `enqueue_for_placement_ids` generates. -/
def commandsFor (ids : List Uuid) : List NodeTransportOutbox :=
  (db.transportRows ids).flatMap (placementCommands db)

end Database

/-! ## Assignments -/

inductive EntryError
  | entryNotFound | entryRole | backendNotFound | backendRole | zoneMismatch
  deriving DecidableEq, Repr

structure EntryBackendAssignIn where
  backendNodeId : Uuid
  weight : ℤ := 100
  enabled : Bool := true
  rank : ℤ := 0
  deriving DecidableEq, Repr

/-- The fields of an update that are set. -/
structure EntryBackendUpdateIn where
  weight : Option ℤ := none
  enabled : Option Bool := none
  rank : Option ℤ := none
  deriving DecidableEq, Repr

namespace EntryBackendAssignment

/-- The unique constraint of `entry_backend_assignment`. -/
def Links (row : EntryBackendAssignment) (entry backend : Uuid) : Prop :=
  row.entryNodeId = entry ∧ row.backendNodeId = backend

instance (row : EntryBackendAssignment) (entry backend : Uuid) :
    Decidable (row.Links entry backend) :=
  inferInstanceAs (Decidable (_ ∧ _))

/-- What `assign_backend` writes into a row that exists. -/
def assign (payload : EntryBackendAssignIn) (row : EntryBackendAssignment) :
    EntryBackendAssignment :=
  { row with
    weight := payload.weight
    enabled := payload.enabled
    rank := payload.rank
    isActive := true }

/-- What `update_assignment` writes. -/
def update (payload : EntryBackendUpdateIn) (row : EntryBackendAssignment) :
    EntryBackendAssignment :=
  { row with
    weight := payload.weight.getD row.weight
    enabled := payload.enabled.getD row.enabled
    rank := payload.rank.getD row.rank }

/-- What `remove_assignment` writes. -/
def deactivate (row : EntryBackendAssignment) : EntryBackendAssignment :=
  { row with isActive := false }

end EntryBackendAssignment

namespace Database

variable (db : Database)

/-- `get_by_entry_and_backend`. -/
def assignment? (entry backend : Uuid) : Option EntryBackendAssignment :=
  db.entryAssignments.find? fun row => row.Links entry backend

/-- The `UPDATE` of the assignment of a pair. -/
def setAssignment (entry backend : Uuid) (f : EntryBackendAssignment → EntryBackendAssignment) :
    Database :=
  { db with
    entryAssignments := db.entryAssignments.map fun row =>
      if row.Links entry backend then f row else row }

/-- `_require_entry`, and the checks with which `get_relay_pool` begins. -/
def requireEntry (entry : Uuid) : Except EntryError Unit :=
  match db.nodes.find? entry with
  | none => .error .entryNotFound
  | some node =>
    if ¬ node.isActive then .error .entryNotFound
    else if node.role = .backend then .error .entryRole
    else .ok ()

/-- `_require_backend`. -/
def requireBackend (backend : Uuid) : Except EntryError Unit :=
  match db.nodes.find? backend with
  | none => .error .backendNotFound
  | some node =>
    if ¬ node.isActive then .error .backendNotFound
    else if node.role ≠ .backend then .error .backendRole
    else .ok ()

end Database

/-- `_require_zone_match`, where `zone` is the effective zone of a node. -/
def requireZoneMatch (zone : Uuid → String) (entry backend : Uuid) : Except EntryError Unit :=
  if zone entry = "unknown" ∨ zone backend = "unknown" then .ok ()
  else if zone entry ≠ zone backend then .error .zoneMismatch
  else .ok ()

/-- `EntryService.assign_backend`: the tables after it. -/
def assignBackend (zone : Uuid → String) (entry : Uuid) (payload : EntryBackendAssignIn)
    (db : Database) : Except EntryError Database := do
  db.requireEntry entry
  db.requireBackend payload.backendNodeId
  requireZoneMatch zone entry payload.backendNodeId
  match db.assignment? entry payload.backendNodeId with
  | some _ => pure (db.setAssignment entry payload.backendNodeId (.assign payload))
  | none =>
    pure { db with
      entryAssignments := db.entryAssignments ++
        [{ entryNodeId := entry
           backendNodeId := payload.backendNodeId
           weight := payload.weight
           enabled := payload.enabled
           rank := payload.rank }] }

/-- `EntryService.update_assignment`: the tables after it. -/
def updateAssignment (entry backend : Uuid) (payload : EntryBackendUpdateIn) (db : Database) :
    Except EntryError Database :=
  match db.assignment? entry backend with
  | none => .ok db
  | some existing =>
    if ¬ existing.isActive then .ok db
    else if payload = {} then .ok db
    else do
      -- the snapshot of the pool fails when the entry node is gone
      db.requireEntry entry
      pure (db.setAssignment entry backend (.update payload))

/-- `EntryService.remove_assignment`: what it returns and the tables after it. -/
def removeAssignment (entry backend : Uuid) (db : Database) : Except EntryError (Bool × Database) :=
  match db.assignment? entry backend with
  | none => .ok (false, db)
  | some existing =>
    if ¬ existing.isActive then .ok (false, db)
    else do
      db.requireEntry entry
      pure (true, db.setAssignment entry backend .deactivate)

/-! ## The audience -/

namespace Database

variable {db : Database} {entry backend : Uuid}
  {f : EntryBackendAssignment → EntryBackendAssignment}

/-- A command goes to the backend of its placement or to an entry node with an enabled
assignment. -/
theorem mem_commandsFor : item ∈ db.commandsFor ids ↔ ∃ row ∈ db.transportRows ids,
      item = ⟨⟨row.1.id, row.1.opVersion, none⟩, row.1.backendNodeId,
          buildCommandPayload row.1 row.2 row.1.backendNodeId⟩ ∨
        ∃ link ∈ db.entryAssignments, link.backendNodeId = row.1.backendNodeId ∧
          link.enabled = true ∧
          item = ⟨⟨row.1.id, row.1.opVersion, some link.entryNodeId⟩, link.entryNodeId,
            buildCommandPayload row.1 row.2 link.entryNodeId⟩ := by
  unfold commandsFor placementCommands entriesForBackend
  simp only [mem_flatMap, mem_cons, mem_map, mem_filter, decide_eq_true_eq]
  refine exists_congr fun row => and_congr_right fun _ => or_congr_right ⟨?_, ?_⟩
  · rintro ⟨_, ⟨link, ⟨hlink, hbackend, henabled⟩, rfl⟩, rfl⟩
    exact ⟨link, hlink, hbackend, henabled, rfl⟩
  · rintro ⟨link, hlink, hbackend, henabled, rfl⟩
    exact ⟨_, ⟨link, ⟨hlink, hbackend, henabled⟩, rfl⟩, rfl⟩

/-- A snapshot for a backend holds the active placements on it of keys that are active. -/
theorem mem_listCommandPayloadsForBackend : payload ∈ db.listCommandPayloadsForBackend backend ↔
      ∃ placement ∈ db.placements.rows, placement.backendNodeId = backend ∧
        placement.isActive = true ∧
        ∃ key ∈ db.keys.find? placement.keyId, key.isActive = true ∧
          payload = buildCommandPayload placement key backend := by
  unfold listCommandPayloadsForBackend transportRowsForBackend
  simp only [mem_map, mem_insertionSort, mem_filter, mem_filterMap,
    decide_eq_true_eq, Option.map_eq_some_iff, Option.filter_eq_some_iff, Option.mem_def]
  constructor
  · rintro ⟨_, ⟨placement, ⟨hmem, hhome, hactive⟩, key, ⟨hkey, hkeyActive⟩, rfl⟩, rfl⟩
    exact ⟨placement, hmem, hhome, hactive, key, hkey, hkeyActive, by rw [hhome]⟩
  · rintro ⟨placement, hmem, rfl, hactive, key, hkey, hkeyActive, rfl⟩
    exact ⟨_, ⟨placement, ⟨hmem, rfl, hactive⟩, key, ⟨hkey, hkeyActive⟩, rfl⟩, rfl⟩

/-- A snapshot for an entry node holds the placements on the backends to which it has an enabled
assignment. -/
theorem mem_listCommandPayloadsForEntry : payload ∈ db.listCommandPayloadsForEntry entry ↔
      ∃ placement ∈ db.placements.rows, placement.isActive = true ∧
        (∃ link ∈ db.entryAssignments, link.Links entry placement.backendNodeId ∧
          link.enabled = true) ∧
        ∃ key ∈ db.keys.find? placement.keyId, key.isActive = true ∧
          payload = buildCommandPayload placement key entry := by
  unfold listCommandPayloadsForEntry transportRowsForEntry
  simp only [mem_map, mem_insertionSort, mem_flatMap, mem_filter,
    mem_filterMap, decide_eq_true_eq, Option.map_eq_some_iff, Option.filter_eq_some_iff,
    Option.mem_def]
  constructor
  · rintro ⟨_, ⟨placement, ⟨hmem, hactive⟩, link, ⟨hlink, hentry, hbackend, henabled⟩, key,
      ⟨hkey, hkeyActive⟩, rfl⟩, rfl⟩
    exact ⟨placement, hmem, hactive, ⟨link, hlink, ⟨hentry, hbackend⟩, henabled⟩, key, hkey,
      hkeyActive, rfl⟩
  · rintro ⟨placement, hmem, hactive, ⟨link, hlink, ⟨hentry, hbackend⟩, henabled⟩, key, hkey,
      hkeyActive, rfl⟩
    exact ⟨_, ⟨placement, ⟨hmem, hactive⟩, link, ⟨hlink, hentry, hbackend, henabled⟩, key,
      ⟨hkey, hkeyActive⟩, rfl⟩, rfl⟩

/-- No command and no snapshot tells the entry node about a placement on the backend. -/
def Withholds (db : Database) (entry backend : Uuid) : Prop :=
  (∀ ids, ∀ item ∈ db.commandsFor ids, item.payload.backendNodeId = backend → item.nodeId ≠ entry) ∧
    ∀ payload ∈ db.listCommandPayloadsForEntry entry, payload.backendNodeId ≠ backend

/-- Every entry node with an active and enabled assignment to the backend is told about the
placements on it. -/
def Informs (db : Database) (backend : Uuid) : Prop :=
  ∀ link ∈ db.entryAssignments, link.backendNodeId = backend → link.isActive = true →
    link.enabled = true → ∀ ids, ∀ row ∈ db.transportRows ids, row.1.backendNodeId = backend →
      ∃ item ∈ db.commandsFor ids, item.nodeId = link.entryNodeId ∧
        item.payload = buildCommandPayload row.1 row.2 link.entryNodeId

/-- No assignment of the pair is enabled. -/
def Disabled (db : Database) (entry backend : Uuid) : Prop :=
  ∀ link ∈ db.entryAssignments, link.Links entry backend → link.enabled = false

instance : Decidable (db.Disabled entry backend) :=
  inferInstanceAs (Decidable (∀ link ∈ db.entryAssignments, _))

theorem Disabled.withholds (h : db.Disabled entry backend) (hne : entry ≠ backend) :
    db.Withholds entry backend := by
  constructor
  · intro ids item hitem hhome hnode
    obtain ⟨row, -, rfl | ⟨link, hlink, hbackend, henabled, rfl⟩⟩ := mem_commandsFor.mp hitem
    · exact hne (hnode.symm.trans hhome)
    · have hlinks : link.Links entry backend := ⟨hnode, hbackend.trans hhome⟩
      rw [h link hlink hlinks] at henabled
      cases henabled
  · intro payload hpayload hhome
    obtain ⟨placement, -, -, ⟨link, hlink, hlinks, henabled⟩, key, -, -, rfl⟩ :=
      mem_listCommandPayloadsForEntry.mp hpayload
    obtain rfl : placement.backendNodeId = backend := hhome
    rw [h link hlink hlinks] at henabled
    cases henabled

/-! ## The life of an assignment -/

/-- The assignment of the pair has been removed, and is not enabled. -/
structure Removed (db : Database) (entry backend : Uuid) : Prop where
  disabled : db.Disabled entry backend
  inactive : ∀ link ∈ db.assignment? entry backend, link.isActive = false

/-- A change of the assignment of another pair. -/
theorem Removed.setAssignment_of_ne (h : db.Removed entry backend)
    (hne : ¬ (entry' = entry ∧ backend' = backend))
    (hf : ∀ row a b, (f row).Links a b ↔ row.Links a b) :
    (db.setAssignment entry' backend' f).Removed entry backend := by
  have hother : ∀ row : EntryBackendAssignment, row.Links entry backend →
      ¬ row.Links entry' backend' := by
    rintro row ⟨rfl, rfl⟩ ⟨rfl, rfl⟩
    exact hne ⟨rfl, rfl⟩
  have hlinks : ∀ row : EntryBackendAssignment,
      (if row.Links entry' backend' then f row else row).Links entry backend ↔
        row.Links entry backend := by
    intro row
    split
    · exact hf row entry backend
    · rfl
  constructor
  · intro link hlink hpair
    obtain ⟨row, hrow, rfl⟩ := mem_map.mp hlink
    have hpair' := (hlinks row).mp hpair
    rw [if_neg (hother row hpair')]
    exact h.disabled row hrow hpair'
  · intro link hlink
    unfold assignment? setAssignment at hlink
    dsimp only at hlink
    rw [find?_map] at hlink
    obtain ⟨row, hrow, rfl⟩ := Option.map_eq_some_iff.mp hlink
    have hfind : db.assignment? entry backend = some row := by
      unfold assignment?
      rw [← hrow]
      refine find?_congr fun other _ => ?_
      simp [hlinks other]
    have hpair : row.Links entry backend := by simpa using find?_some hfind
    rw [if_neg (hother row hpair)]
    exact h.inactive row hfind

theorem links_iff_of_same (hentry : ∀ row, (f row).entryNodeId = row.entryNodeId)
    (hbackend : ∀ row, (f row).backendNodeId = row.backendNodeId)
    (row : EntryBackendAssignment) (a b : Uuid) : (f row).Links a b ↔ row.Links a b := by
  simp [EntryBackendAssignment.Links, hentry, hbackend]

theorem Removed.setAssignment_deactivate (h : db.Disabled entry backend) :
    (db.setAssignment entry backend .deactivate).Removed entry backend := by
  constructor
  · intro link hlink hpair
    obtain ⟨row, hrow, rfl⟩ := mem_map.mp hlink
    split at hpair
    · rename_i hrowPair
      rw [if_pos hrowPair]
      exact h row hrow hrowPair
    · rename_i hrowPair
      exact absurd hpair hrowPair
  · intro link hlink
    have hmem := mem_of_find?_eq_some hlink
    have hpair : link.Links entry backend := by simpa using find?_some hlink
    obtain ⟨row, hrow, rfl⟩ := mem_map.mp hmem
    split at hpair
    · rename_i hrowPair
      rw [if_pos hrowPair]
      rfl
    · rename_i hrowPair
      exact absurd hpair hrowPair

end Database

variable (zone : Uuid → String) (entry backend : Uuid) (start : Database) in
/-- The states that are reached while the pair is not assigned. The other tables change as they
like. -/
inductive UnassignedRun : Database → Prop
  | refl : UnassignedRun start
  | assign {db later : Database} (h : UnassignedRun db) (entry' : Uuid)
      (payload : EntryBackendAssignIn)
      (hne : ¬ (entry' = entry ∧ payload.backendNodeId = backend))
      (hrun : assignBackend zone entry' payload db = .ok later) :
      UnassignedRun later
  | update {db later : Database} (h : UnassignedRun db)
      (entry' backend' : Uuid) (payload : EntryBackendUpdateIn)
      (hrun : updateAssignment entry' backend' payload db = .ok later) :
      UnassignedRun later
  | remove {db later : Database} (h : UnassignedRun db)
      (entry' backend' : Uuid) {removed : Bool}
      (hrun : removeAssignment entry' backend' db = .ok (removed, later)) :
      UnassignedRun later
  | elsewhere {db later : Database} (h : UnassignedRun db)
      (hsame : later.entryAssignments = db.entryAssignments) :
      UnassignedRun later

section

variable {zone : Uuid → String} {entry backend entry' backend' : Uuid} {db later : Database}

/-- What a call of `remove_assignment` that commits does. -/
theorem removeAssignment_cases (h : removeAssignment entry backend db = .ok (removed, later)) :
    (later = db ∧ ∀ link ∈ db.assignment? entry backend, link.isActive = false) ∨
      later = db.setAssignment entry backend .deactivate := by
  unfold removeAssignment at h
  split at h
  · rename_i hnone
    cases h
    exact .inl ⟨rfl, by simp [hnone]⟩
  · rename_i existing hfound
    split at h
    · rename_i hinactive
      cases h
      refine .inl ⟨rfl, ?_⟩
      rintro link hlink
      rw [hfound] at hlink
      cases hlink
      simpa using hinactive
    · cases hentry : db.requireEntry entry with
      | error =>
        rw [hentry] at h
        cases h
      | ok =>
        rw [hentry] at h
        cases h
        exact .inr rfl

theorem Database.Removed.remove (hdb : db.Removed entry backend)
    (h : removeAssignment entry' backend' db = .ok (removed, later)) :
    later.Removed entry backend := by
  rcases removeAssignment_cases h with ⟨rfl, -⟩ | rfl
  · exact hdb
  · by_cases hpair : entry' = entry ∧ backend' = backend
    · obtain ⟨rfl, rfl⟩ := hpair
      exact .setAssignment_deactivate hdb.disabled
    · exact hdb.setAssignment_of_ne hpair (links_iff_of_same (fun _ => rfl) fun _ => rfl)

/-- An update finds a removed assignment inactive and leaves it alone. -/
theorem Database.Removed.update (hdb : db.Removed entry backend)
    (h : updateAssignment entry' backend' payload db = .ok later) :
    later.Removed entry backend := by
  unfold updateAssignment at h
  split at h
  · cases h
    exact hdb
  · rename_i existing hfound
    split at h
    · cases h
      exact hdb
    · rename_i hactive
      split at h
      · cases h
        exact hdb
      · cases hentry : db.requireEntry entry' with
        | error =>
          rw [hentry] at h
          cases h
        | ok =>
          rw [hentry] at h
          cases h
          refine hdb.setAssignment_of_ne ?_ (links_iff_of_same (fun _ => rfl) fun _ => rfl)
          rintro ⟨rfl, rfl⟩
          exact hactive (by simp [hdb.inactive existing hfound])

theorem Database.Removed.assign {payload : EntryBackendAssignIn} (hdb : db.Removed entry backend)
    (hne : ¬ (entry' = entry ∧ payload.backendNodeId = backend))
    (h : assignBackend zone entry' payload db = .ok later) : later.Removed entry backend := by
  unfold assignBackend at h
  cases hentry : db.requireEntry entry' with
  | error =>
    rw [hentry] at h
    cases h
  | ok =>
    cases hbackend : db.requireBackend payload.backendNodeId with
    | error =>
      rw [hentry, hbackend] at h
      cases h
    | ok =>
      cases hzone : requireZoneMatch zone entry' payload.backendNodeId with
      | error =>
        rw [hentry, hbackend, hzone] at h
        cases h
      | ok =>
        rw [hentry, hbackend, hzone] at h
        cases hfound : db.assignment? entry' payload.backendNodeId with
        | some =>
          rw [hfound] at h
          cases h
          exact hdb.setAssignment_of_ne hne (links_iff_of_same (fun _ => rfl) fun _ => rfl)
        | none =>
          rw [hfound] at h
          cases h
          constructor
          · intro link hlink hpair
            rcases mem_append.mp hlink with hold | hnew
            · exact hdb.disabled link hold hpair
            · obtain rfl := mem_singleton.mp hnew
              exact absurd hpair hne
          · intro link hlink
            unfold Database.assignment? at hlink
            dsimp only at hlink
            rw [find?_append] at hlink
            rcases Option.or_eq_some_iff.mp hlink with hold | ⟨-, hnew⟩
            · exact hdb.inactive link hold
            · have hpair : link.Links entry backend := by
                simpa using find?_some hnew
              obtain rfl := mem_singleton.mp (mem_of_find?_eq_some hnew)
              exact absurd hpair hne

theorem UnassignedRun.removed (hrun : UnassignedRun zone entry backend db later)
    (h : db.Removed entry backend) : later.Removed entry backend := by
  induction hrun with
  | refl => exact h
  | assign _ _ _ hne hassign ih => exact ih.assign hne hassign
  | update _ _ _ _ hupdate ih => exact ih.update hupdate
  | remove _ _ _ hremove ih => exact ih.remove hremove
  | elsewhere _ hsame ih =>
    obtain ⟨hdisabled, hinactive⟩ := ih
    unfold Database.Disabled at hdisabled
    unfold Database.assignment? at hinactive
    rw [← hsame] at hdisabled hinactive
    exact ⟨hdisabled, hinactive⟩

/-- After `remove_assignment`, and until the pair is assigned again, the entry node is told
nothing about the backend, and those with an active and enabled assignment are told, exactly when
the assignment was not enabled. -/
theorem removed_entry_withheld_iff {removed : Bool} {after : Database} (hne : entry ≠ backend)
    (hremove : removeAssignment entry backend db = .ok (removed, after)) :
    (∀ later, UnassignedRun zone entry backend after later →
        later.Withholds entry backend ∧ later.Informs backend) ↔
      db.Disabled entry backend := by
  constructor
  · intro h link hlink hpair
    by_contra henabled
    -- let a key be placed on the backend
    let placed : Database :=
      { after with
        placements := Table.empty.insert (.pending 0 0 backend .active none 0)
        keys := Table.empty.insert
          { id := 0, transport := .ws, clientId := "", validUntil := 0, isRevoked := false,
            subscriptionId := none } }
    have hrun : UnassignedRun zone entry backend after placed := .elsewhere .refl rfl
    refine absurd (h placed hrun).1 ?_
    have hkept : ∃ row ∈ after.entryAssignments, row.Links entry backend ∧ row.enabled = true := by
      rcases removeAssignment_cases hremove with ⟨rfl, -⟩ | rfl
      · exact ⟨link, hlink, hpair, by simpa using henabled⟩
      · refine ⟨link.deactivate, List.mem_map.mpr ⟨link, hlink, if_pos hpair⟩, hpair, ?_⟩
        simpa [EntryBackendAssignment.deactivate] using henabled
    obtain ⟨row, hrow, hrowPair, hrowEnabled⟩ := hkept
    exact fun hwithholds => hwithholds.2 _ (mem_listCommandPayloadsForEntry.mpr
      ⟨_, List.mem_singleton.mpr rfl, rfl, ⟨row, hrow, hrowPair, hrowEnabled⟩, _, rfl, rfl, rfl⟩) rfl
  · intro h later hrun
    have hremoved : after.Removed entry backend := by
      rcases removeAssignment_cases hremove with ⟨rfl, hinactive⟩ | rfl
      · exact ⟨h, hinactive⟩
      · exact .setAssignment_deactivate h
    exact ⟨(hrun.removed hremoved).disabled.withholds hne,
      fun link hlink hbackend _ henabled ids row hrow hhome => ⟨_, mem_commandsFor.mpr ⟨row, hrow,
        .inr ⟨link, hlink, hbackend.trans hhome.symm, henabled, rfl⟩⟩, rfl, rfl⟩⟩

end

/-- Entry node 70 is assigned to backend 50, on which key 30 is placed. -/
def assignedEntry (enabled : Bool) : Database :=
  { Database.empty with
    nodes := (Table.empty.insert { id := 50 }).insert { id := 70, role := .entry }
    entryAssignments := [{ entryNodeId := 70, backendNodeId := 50, enabled := enabled }]
    placements := Table.empty.insert (.pending 40 30 50 .active none 0)
    keys := Table.empty.insert
      { id := 30, transport := .ws, clientId := "30", validUntil := 0, isRevoked := false,
        subscriptionId := none } }

/-- The tables after `remove_assignment(70, 50)`. -/
def unassignedEntry (enabled : Bool) : Database :=
  (assignedEntry enabled).setAssignment 70 50 .deactivate

/-- The removed entry node is sent the command for the placement, and gets it in a snapshot. -/
theorem removed_entry_informed :
    removeAssignment 70 50 (assignedEntry true) = .ok (true, unassignedEntry true) ∧
      (∃ item ∈ (unassignedEntry true).commandsFor [40], item.payload.backendNodeId = 50 ∧
        item.nodeId = 70) ∧
      ∃ payload ∈ (unassignedEntry true).listCommandPayloadsForEntry 70,
        payload.backendNodeId = 50 :=
  ⟨rfl, by decide +kernel, by decide +kernel⟩

/-- An assignment that was not enabled. -/
theorem removed_entry_withheld_disabled :
    (unassignedEntry false).Withholds 70 50 ∧ (unassignedEntry false).Informs 50 := by
  have hremove : removeAssignment 70 50 (assignedEntry false) = .ok (true, unassignedEntry false) :=
    rfl
  have hrun : UnassignedRun (fun _ => "unknown") 70 50 (unassignedEntry false)
      (unassignedEntry false) := .refl
  have hdisabled : (assignedEntry false).Disabled 70 50 := by decide +kernel
  exact (removed_entry_withheld_iff (by decide) hremove).mpr hdisabled _ hrun

end VpnControl.Vpn

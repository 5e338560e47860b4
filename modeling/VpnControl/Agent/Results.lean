/-
# Results of the nodes

`_handle_result_batch` takes a batch of result events. It logs the events that are new, lets each
of them report on its placement, and answers every event. A report is taken only if the node and
the version that it comes with are those of the row, which the `UPDATE` itself checks; what is
answered is decided afterwards, from the ids of the rows that were updated.
-/

import VpnControl.Agent.Snapshots

namespace VpnControl.Agent

open Txn List
open Billing (Uuid Time)
open Vpn (UserPlacement PlacementAppliedState PlacementResultApply)
open Table Tx Protocol

/-! ## The handler -/

/-- A message on the subject of results; `data` is missing when it cannot be parsed. -/
structure ResultMessage where
  subject : Option String
  data : Option PlacementApplyResultEvent
  deriving DecidableEq, Repr

/-- A message with its event and the id of the node that reports. -/
structure ResultItem where
  subject : Option String
  event : PlacementApplyResultEvent
  nodeId : Uuid
  deriving DecidableEq, Repr

variable (cfg : RuntimeConfig)

/-- The first loop of `_handle_result_batch`, for one message. -/
def ResultMessage.parse (message : ResultMessage) : Option ResultItem :=
  message.data.bind fun event =>
    (cfg.parseUuid event.nodeId).map fun node => ⟨message.subject, event, node⟩

def ResultItem.logRow (now : Time) (item : ResultItem) : NodeTransportEventLog where
  eventId := item.event.eventId
  nodeId := item.nodeId
  eventType := "placement_result"
  subject := item.subject
  processedAt := now

def ResultItem.report (now : Time) (item : ResultItem) : PlacementResultApply where
  id := item.event.placementId
  opVersion := item.event.opVersion
  backendNodeId := item.nodeId
  appliedState := item.event.appliedState
  updatedAt := now

/-- The nodes that `get_by_id` finds. -/
def knownNodes : List Uuid → Service (List Uuid)
  | [] => pure []
  | node :: rest => do
      let found ← select fun db => (db.vpn.nodes.find? node).isSome
      let others ← knownNodes rest
      pure (if found then node :: others else others)

/-- `bulk_record_if_new`: the ids of the events that were new. -/
def bulkRecordIfNew (rows : List NodeTransportEventLog) : Service (List String) :=
  if rows = [] then pure []
  else do
    let free ← perform (.lookFree (rows.map fun row => .event row.eventId))
    (rows.filter fun row => .event row.eventId ∈ free).forM fun row => execute (.insertEvent row)
    pure ((rows.map (·.eventId)).filter fun eventId => .event eventId ∈ free)

/-- The `UPDATE` of `bulk_apply_backend_report` for the items with one `applied_state`. -/
def applyReports (outcome : PlacementAppliedState) (items : List PlacementResultApply) :
    Service (List Uuid) := do
  let ids ← perform (.lockPlacements fun placement => items.any fun item => item.Matches placement)
  execute (.updatePlacements ids (.report outcome (items.head?.elim 0 (·.updatedAt))))
  pure ids

/-- The loop of `bulk_apply_backend_report` over the states. -/
def applyOutcomes (items : List PlacementResultApply) :
    List PlacementAppliedState → Service (List Uuid)
  | [] => pure []
  | outcome :: rest => do
      let ids ← applyReports outcome (items.filter fun item => item.appliedState = outcome)
      let others ← applyOutcomes items rest
      pure (ids ++ others)

/-- `bulk_apply_backend_report`: the states in the order in which they first occur. -/
def bulkApplyBackendReport (items : List PlacementResultApply) : Service (List Uuid) :=
  applyOutcomes items (items.map (·.appliedState)).reverse.dedup.reverse

/-- What an event is answered. -/
def resultStatus (newEventIds : List String) (updatedPlacementIds : List Uuid)
    (event : PlacementApplyResultEvent) : TransportReportStatus :=
  if event.eventId ∉ newEventIds then .skippedIdempotent
  else if event.placementId ∈ updatedPlacementIds then
    match event.appliedState with
    | .applied => .applied
    | .error => .error
    | .pending => .pending
  else .skippedStale

/-- `last_events`: the last item of each node. -/
def lastEvents (items : List ResultItem) : List ResultItem :=
  (items.map (·.nodeId)).reverse.dedup.reverse.filterMap fun node =>
    items.reverse.find? fun item => item.nodeId = node

/-- The part of `_handle_result_batch` that works on the items of known nodes. -/
def recordResults (valid : List ResultItem) : Service Unit := do
  let now ← datetimeNow
  let newEventIds ← bulkRecordIfNew (valid.map (·.logRow now))
  let newItems := valid.filter fun item => item.event.eventId ∈ newEventIds
  let updated ← bulkApplyBackendReport (newItems.map (·.report now))
  (lastEvents valid).forM fun item =>
    touchResult item.nodeId item.event.eventId item.event.emittedAt
  valid.forM fun item =>
    perform (.note (.answered item.event (resultStatus newEventIds updated item.event)))

/-- `_handle_result_batch`. All messages of a batch that is handled are acknowledged; the answers
are sent after the commit. -/
def handleResultBatch (messages : List ResultMessage) : Service Unit :=
  let parsed := messages.filterMap (·.parse cfg)
  if parsed = [] then pure ()
  else do
    let nodes ← knownNodes (parsed.map (·.nodeId)).dedup
    let valid := parsed.filter fun item => item.nodeId ∈ nodes
    if valid = [] then pure () else recordResults valid

/-! ## Only the owner's report counts -/

/-- The events of a batch. -/
def resultEvents (messages : List ResultMessage) : List PlacementApplyResultEvent :=
  messages.filterMap (·.data)

/-- The event comes from the backend of the placement, for its version. -/
def FromOwner (event : PlacementApplyResultEvent) (db : Database) : Prop :=
  ∃ row, db.vpn.placements.find? event.placementId = some row ∧
    cfg.parseUuid event.nodeId = some row.backendNodeId ∧ event.opVersion = row.opVersion

/-- The event has been logged. -/
def Logged (event : PlacementApplyResultEvent) (db : Database) : Prop :=
  (db.eventLog.find? event.eventId).isSome = true

def Answers (t : Tx engine) (event : PlacementApplyResultEvent) (status : TransportReportStatus) :
    Prop :=
  ∀ other, Note.answered event other ∈ t.session.notes ↔ other = status

/-- What a transaction that handles a batch may do when it commits on `db`. -/
structure OwnersReport (cfg : RuntimeConfig) (messages : List ResultMessage) (t : Tx engine)
    (db : Database) : Prop where
  /-- A placement that changes becomes what a new event of its owner reports. -/
  changed : ∀ id, (t.view db).vpn.placements.find? id ≠ db.vpn.placements.find? id →
    ∃ event ∈ resultEvents messages, event.placementId = id ∧ ¬ Logged event db ∧
      FromOwner cfg event db ∧ ∃ now, (t.view db).vpn.placements.find? id =
        (db.vpn.placements.find? id).map (.report event.appliedState now)
  repeated : ∀ event ∈ resultEvents messages, Logged event db → Answers t event .skippedIdempotent
  stale : ∀ event ∈ resultEvents messages, ¬ Logged event db → ¬ FromOwner cfg event db →
    Answers t event .skippedStale

/-! ## What the handler knows -/

/-- Of the events with these ids, the new ones are locked and not logged, and the others are
logged. -/
structure Looked (eventIds newIds : List String) (t : Tx engine) (c : Committed engine) : Prop where
  isNew : ∀ id ∈ newIds, .event id ∈ t.keys ∧ c.state.eventLog.find? id = none
  isOld : ∀ id ∈ eventIds, id ∉ newIds → (c.state.eventLog.find? id).isSome = true

/-- The rows under `updated` are locked and have been reported on by items that match them; the
other placements are as they are committed. -/
structure Reporting (items : List PlacementResultApply) (updated : List Uuid) (t : Tx engine)
    (c : Committed engine) : Prop where
  locked : t.WritesLocked
  unchanged : ∀ id ∉ updated,
    (t.view c.state).vpn.placements.find? id = c.state.vpn.placements.find? id
  reported : ∀ id ∈ updated, .placement id ∈ t.keys ∧
    ∃ row, c.state.vpn.placements.find? id = some row ∧ ∃ item ∈ items, item.Matches row ∧
      ∃ now, (t.view c.state).vpn.placements.find? id = some (row.report item.appliedState now)

section Assertions

variable {P : Protocol engine} {eventIds newIds : List String} {items : List PlacementResultApply}
  {updated : List Uuid} {t : Tx engine} {c : Committed engine}

theorem stable_looked (hguar : ∀ c later, P.Guar c later → ∃ ws : List Write, later = c.extend ws) :
    P.Stable (Looked eventIds newIds) := by
  intro t c later hrely h
  refine ⟨fun id hid => ?_, fun id hid hnew => ?_⟩
  · obtain ⟨hkey, hnone⟩ := h.isNew id hid
    exact ⟨hkey, Eq.trans (Eq.symm (hrely.sameRow hkey)) hnone⟩
  · obtain ⟨ws, rfl⟩ := hguar c later hrely.2.1
    exact foldlRecOn (motive := fun db : Database => (db.eventLog.find? id).isSome = true) ws _
      (h.isOld id hid hnew) fun _ hsome w _ => by
        cases w with
        | insertEvent => exact isSome_find?_insert hsome
        | _ => exact hsome

theorem Looked.after (h : Looked eventIds newIds t c) (op : Stmt) :
    Looked eventIds newIds (t.after c op) c :=
  ⟨fun id hid => (h.isNew id hid).imp_left keys_subset_after, h.isOld⟩

theorem stable_reporting : P.Stable (Reporting items updated) := by
  intro t c later hrely h
  have hsame : ∀ id, .placement id ∈ t.keys →
      c.state.vpn.placements.find? id = later.state.vpn.placements.find? id :=
    fun id hkey => hrely.sameRow hkey
  have hview : ∀ id, .placement id ∈ t.keys →
      (t.view c.state).vpn.placements.find? id = (t.view later.state).vpn.placements.find? id :=
    fun id hkey => view_sameRow t (hrely.sameRow hkey)
  refine ⟨h.locked, fun id hid => ?_, fun id hid => ?_⟩
  · by_cases hkey : (.placement id : RowKey) ∈ t.keys
    · rw [← hview id hkey, ← hsame id hkey]
      exact h.unchanged id hid
    · exact Eq.symm (sameRow_view t fun w hw htouch => hkey (h.locked w hw _ htouch))
  · obtain ⟨hkey, hrow⟩ := h.reported id hid
    rw [hsame id hkey, hview id hkey] at hrow
    exact ⟨hkey, hrow⟩

/-- The statement neither notes anything nor writes placements. -/
structure Beside (op : Stmt) : Prop where
  note : ∀ n, op ≠ .note n
  placements : ∀ w ∈ op.writes, ∀ db : Database, (db.apply w).vpn.placements = db.vpn.placements

theorem Reporting.after_of_placements (h : Reporting items updated t c) {op : Stmt}
    (hop : ∀ w ∈ op.writes, ∀ db : Database, (db.apply w).vpn.placements = db.vpn.placements) :
    Reporting items updated (t.after c op) c := by
  have hview : ((t.after c op).view c.state).vpn.placements = (t.view c.state).vpn.placements := by
    rw [view_after]
    exact foldlRecOn (motive := fun db : Database => db.vpn.placements = _) op.writes _ rfl
      fun db hsame w hw => (hop w hw db).trans hsame
  refine ⟨h.locked.after c op, fun id hid => ?_, fun id hid => ?_⟩
  · rw [hview]
    exact h.unchanged id hid
  · rw [hview]
    exact (h.reported id hid).imp_left keys_subset_after

end Assertions

/-! ## The updates -/

section Updates

variable {P : Protocol engine} {items group : List PlacementResultApply} {updated ids : List Uuid}
  {t : Tx engine} {c : Committed engine}

/-- A row that an `UPDATE` finds for the items of a group. -/
def Matched (group : List PlacementResultApply) (ids : List Uuid) (t : Tx engine)
    (c : Committed engine) : Prop :=
  ∀ id ∈ ids, .placement id ∈ t.keys ∧
    ∃ row, c.state.vpn.placements.find? id = some row ∧ ∃ item ∈ group, item.Matches row

theorem stable_matched : P.Stable (Matched group ids) := by
  intro t c later hrely h id hid
  obtain ⟨hkey, hrow⟩ := h id hid
  have hfind : c.state.vpn.placements.find? id = later.state.vpn.placements.find? id :=
    hrely.sameRow hkey
  rw [hfind] at hrow
  exact ⟨hkey, hrow⟩

/-- What is found among the rows that the transaction sees matches the committed rows: reports
leave the backend and the version alone. -/
theorem Reporting.matched (h : Reporting items updated t c) : Matched group
      (t.reply c (.lockPlacements fun placement => group.any fun item => item.Matches placement))
      (t.after c (.lockPlacements fun placement => group.any fun item => item.Matches placement))
      c := by
  intro id hid
  have hkey : RowKey.placement id ∈ (t.after c (.lockPlacements fun placement =>
      group.any fun item => item.Matches placement)).keys := by
    obtain ⟨row, hrow, rfl⟩ := mem_map.mp hid
    exact mem_keys_after.mpr (.inr (mem_map_of_mem hrow))
  refine ⟨hkey, ?_⟩
  obtain ⟨seen, hseen, rfl⟩ := mem_map.mp hid
  obtain ⟨hmem, hmatch⟩ := mem_filter.mp hseen
  obtain ⟨item, hitem, hmatch⟩ := any_eq_true.mp hmatch
  have hfound : (t.view c.state).vpn.placements.find? seen.id = some seen := Table.find?_of_mem hmem
  have hmatch : item.Matches seen := of_decide_eq_true hmatch
  by_cases hupdated : seen.id ∈ updated
  · obtain ⟨-, row, hrow, other, -, -, now, hreport⟩ := h.reported seen.id hupdated
    obtain rfl : seen = row.report other.appliedState now := Option.mem_unique hfound hreport
    exact ⟨row, hrow, item, hitem, hmatch⟩
  · exact ⟨seen, (h.unchanged seen.id hupdated).symm.trans hfound, item, hitem, hmatch⟩

/-- The rows that were found are updated. -/
theorem Reporting.update (h : Reporting items updated t c) (hids : Matched group ids t c)
    (hgroup : ∀ item ∈ group, item ∈ items)
    (houtcome : ∀ item ∈ group, item.appliedState = outcome) (now : Time) :
    Reporting items (updated ++ ids)
      (t.after c (.write (.updatePlacements ids (.report outcome now)))) c := by
  have hafter : ∀ id, ((t.after c (.write (.updatePlacements ids (.report outcome now)))).view
      c.state).vpn.placements.find? id = ((t.view c.state).vpn.placements.find? id).map
        fun row => if row.id ∈ ids then row.report outcome now else row := by
    intro id
    rw [view_after]
    refine (Table.find?_modifyWhere (PlacementChange.report outcome now).set
      (PlacementChange.set_id _) _ (·.id ∈ ids) id).trans ?_
    simp [PlacementChange.set]
  refine ⟨h.locked.after c _, fun id hid => ?_, fun id hid => ?_⟩
  · obtain ⟨hold, hnot⟩ := not_or.mp (mt mem_append.mpr hid)
    rw [hafter, h.unchanged id hold]
    cases hrow : c.state.vpn.placements.find? id with
    | none => rfl
    | some row =>
      have hrowId : row.id = id := key_of_find? hrow
      simp [hrowId, hnot]
  · by_cases hnew : id ∈ ids
    · obtain ⟨hkey, row, hrow, item, hitem, hmatch⟩ := hids id hnew
      have hrowId : row.id = id := key_of_find? hrow
      refine ⟨keys_subset_after hkey, row, hrow, item, hgroup item hitem, hmatch, now, ?_⟩
      rw [hafter, houtcome item hitem]
      by_cases hold : id ∈ updated
      · obtain ⟨-, row', hrow', other, -, -, earlier, hreport⟩ := h.reported id hold
        obtain rfl : row = row' := Option.mem_unique hrow hrow'
        simp [hreport, UserPlacement.report, hrowId, hnew]
      · rw [h.unchanged id hold, hrow]
        simp [hrowId, hnew]
    · have hold : id ∈ updated := (mem_append.mp hid).resolve_right hnew
      obtain ⟨hkey, row, hrow, item, hitem, hmatch, earlier, hreport⟩ := h.reported id hold
      have hrowId : row.id = id := key_of_find? hrow
      refine ⟨keys_subset_after hkey, row, hrow, item, hitem, hmatch, earlier, ?_⟩
      rw [hafter, hreport]
      simp [UserPlacement.report, hrowId, hnew]

theorem beside_of_writes (hnote : ∀ n, op ≠ .note n) (h : op.writes = []) : Beside op :=
  ⟨hnote, fun _ hw => absurd (h ▸ hw) not_mem_nil⟩

theorem beside_write (h : ∀ db : Database, (db.apply w).vpn.placements =
    db.vpn.placements) : Beside (.write w) :=
  ⟨nofun, fun _ hw => mem_singleton.mp hw ▸ h⟩

theorem beside_touchResult : (touchResult node eventId time).Every Beside :=
  .bind (every_getOrCreate (fun _ => beside_of_writes nofun rfl) (beside_of_writes nofun rfl)
    (beside_of_writes nofun rfl) (beside_write fun _ => rfl)) fun _ =>
    ⟨beside_write fun _ => rfl, fun _ => trivial⟩

end Updates

/-! ## The batch -/

/-- A transaction that handles events with the ids `eventIds`. -/
structure Handling (eventIds newIds : List String) (items : List PlacementResultApply)
    (updated : List Uuid) (t : Tx engine) (c : Committed engine) : Prop where
  looked : Looked eventIds newIds t c
  reporting : Reporting items updated t c
  silent : t.session.notes = []

section Batch

variable {P : Protocol engine}
  (hguar : ∀ c later, P.Guar c later → ∃ ws : List Write, later = c.extend ws)
  {eventIds newIds : List String} {items group : List PlacementResultApply} {updated : List Uuid}

include hguar

theorem stable_handling : P.Stable (Handling eventIds newIds items updated) :=
  fun t c later hrely h =>
    ⟨stable_looked hguar t c later hrely h.looked,
      stable_reporting t c later hrely h.reporting, h.silent⟩

omit hguar in
theorem Handling.after (h : Handling eventIds newIds items updated t c) (hop : Beside op) :
    Handling eventIds newIds items updated (t.after c op) c :=
  ⟨h.looked.after op, h.reporting.after_of_placements hop.placements,
    (notes_answer hop.note).trans h.silent⟩

theorem keeps_handling {p : Service α} (hp : p.Every Beside) :
    P.Keeps (Handling eventIds newIds items updated) p :=
  keeps_of_every (stable_handling hguar) (fun _ hop _ _ _ _ h => h.after hop) hp

theorem triple_applyReports (hgroup : ∀ item ∈ group, item ∈ items)
    (houtcome : ∀ item ∈ group, item.appliedState = outcome) :
    P.Ensures (Handling eventIds newIds items updated) (applyReports outcome group)
      fun ids => Handling eventIds newIds items (updated ++ ids) := by
  have hmatched : ∀ ids, P.Stable fun t c =>
      Handling eventIds newIds items updated t c ∧ Matched group ids t c :=
    fun ids => (stable_handling hguar).and stable_matched
  refine triple_bind (triple_perform (stable_handling hguar) hmatched fun t c _ _ h =>
    ⟨h.after (beside_of_writes nofun rfl), h.reporting.matched⟩) fun ids => ?_
  refine triple_bind (B := fun _ => Handling eventIds newIds items (updated ++ ids)) ?_ fun _ =>
    triple_ret (stable_handling hguar) fun _ _ h => h
  exact triple_perform (hmatched ids) (fun _ => stable_handling hguar) fun t c _ _ h =>
    ⟨h.1.looked.after _, h.1.reporting.update h.2 hgroup houtcome _, h.1.silent⟩

theorem triple_applyOutcomes (updated : List Uuid) :
    P.Ensures (Handling eventIds newIds items updated) (applyOutcomes items outcomes)
      fun ids => Handling eventIds newIds items (updated ++ ids) := by
  induction outcomes generalizing updated with
  | nil =>
    refine triple_ret (stable_handling hguar) fun _ _ h => ?_
    rwa [append_nil]
  | cons outcome _ ih =>
    refine triple_bind (triple_applyReports hguar (fun item hitem => (mem_filter.mp hitem).1)
      fun item hitem => of_decide_eq_true (mem_filter.mp hitem).2) fun ids => ?_
    refine triple_bind (ih (updated ++ ids)) fun others =>
      triple_ret (stable_handling hguar) fun _ _ h => ?_
    rwa [← append_assoc]

/-- Nothing has been written or answered yet. -/
def Untouched (t : Tx engine) : Prop := t.writes = [] ∧ t.session.notes = []

omit hguar in
theorem Untouched.after (h : Untouched t) (c : Committed engine) (op : Stmt)
    (hop : ∀ n, op ≠ .note n) (hwrites : op.writes = []) : Untouched (t.after c op) := by
  refine ⟨?_, (notes_answer hop).trans h.2⟩
  rw [after_writes, h.1]
  exact hwrites

omit hguar in
theorem Untouched.view_eq (h : Untouched t) (db : Database) : t.view db = db := by
  unfold Tx.view
  rw [h.1]
  rfl

omit hguar in
theorem Untouched.reporting (h : Untouched t) : Reporting items [] t c := by
  refine ⟨?_, fun id _ => by rw [h.view_eq], fun _ hid => absurd hid not_mem_nil⟩
  intro w hw
  rw [h.1] at hw
  cases hw

theorem triple_bulkRecordIfNew (rows : List NodeTransportEventLog)
    (items : List String → List PlacementResultApply) :
    P.Ensures (fun t _ => Untouched t) (bulkRecordIfNew rows)
      fun newIds => Handling (rows.map (·.eventId)) newIds (items newIds) [] := by
  unfold bulkRecordIfNew
  split
  · rename_i hempty
    refine triple_ret (stable_const _) fun t c h => ?_
    refine ⟨⟨fun _ hid => absurd hid not_mem_nil, ?_⟩, h.reporting, h.2⟩
    simp [hempty]
  let newIds : List RowKey → List String := fun free =>
    (rows.map (·.eventId)).filter fun eventId => RowKey.event eventId ∈ free
  let H : List String → Assertion engine := fun ids =>
    Handling (rows.map (·.eventId)) ids (items ids) []
  have hlook : P.Ensures (fun t _ => Untouched t)
      (perform (.lookFree (rows.map fun row => .event row.eventId)))
      fun free => H (newIds free) := by
    refine triple_perform (stable_const _) (fun _ => stable_handling hguar) fun t c _ _ h => ?_
    have huntouched := h.after c (.lookFree (rows.map fun row => .event row.eventId)) nofun rfl
    refine ⟨⟨fun id hid => ?_, fun id hid hold => ?_⟩, huntouched.reporting, huntouched.2⟩
    · obtain ⟨-, hfree⟩ := mem_filter.mp hid
      have hfree : RowKey.event id ∈ (rows.map fun row => RowKey.event row.eventId).filter
        fun key => ¬ (t.view c.state).taken key := of_decide_eq_true hfree
      refine ⟨mem_keys_after.mpr (.inr hfree), ?_⟩
      have hnot := (mem_filter.mp hfree).2
      rw [h.view_eq] at hnot
      simpa [Database.taken] using hnot
    · obtain ⟨row, hrow, rfl⟩ := mem_map.mp hid
      by_contra hnot
      refine hold (mem_filter.mpr ⟨hid, decide_eq_true (mem_filter.mpr ⟨?_, ?_⟩)⟩)
      · exact mem_map_of_mem hrow
      · rw [h.view_eq]
        simpa [Database.taken] using hnot
  refine triple_bind hlook fun free => triple_bind (B := fun _ => H (newIds free)) ?_ fun _ =>
    triple_ret (stable_handling hguar) fun _ _ h => h
  exact Keeps.ensures (keeps_handling hguar
    (.forM fun row _ => ⟨beside_write fun _ => rfl, fun _ => trivial⟩))

/-- A batch that is about to commit has answered all its items. -/
def Handled (valid : List ResultItem) : Assertion engine := fun t c =>
  ∃ newIds now updated, Looked (valid.map fun item => item.event.eventId) newIds t c ∧
    Reporting ((valid.filter fun item => item.event.eventId ∈ newIds).map (·.report now)) updated
      t c ∧
    t.session.notes = valid.map fun item =>
      .answered item.event (resultStatus newIds updated item.event)

/-- The loop that answers. -/
theorem triple_answers {valid : List ResultItem} (status : ResultItem → TransportReportStatus) :
    P.Ensures (Handling eventIds newIds items updated)
      (valid.forM fun item => perform (.note (.answered item.event (status item))))
      fun _ t c => Looked eventIds newIds t c ∧ Reporting items updated t c ∧
        t.session.notes = valid.map fun item => .answered item.event (status item) := by
  let I : List ResultItem → Assertion engine := fun left t c =>
    Looked eventIds newIds t c ∧ Reporting items updated t c ∧ ∃ done, done ++ left = valid ∧
        t.session.notes = done.map fun item => .answered item.event (status item)
  have hI : ∀ left, P.Stable (I left) := fun left =>
    (stable_looked hguar).and (stable_reporting.and (stable_const _))
  refine (triple_forM (hI []) (fun item left => triple_perform (hI _) (fun _ => hI _) ?_)
    valid).conseq (fun t c h => ⟨h.looked, h.reporting, [], rfl, h.silent⟩) ?_ fun _ _ _ h => h
  · rintro t c - - ⟨hlooked, hreporting, done, hdone, hnotes⟩
    refine ⟨hlooked.after _, hreporting.after_of_placements fun _ hw => ?_, done ++ [item], ?_, ?_⟩
    · exact absurd hw not_mem_nil
    · rw [append_assoc]
      exact hdone
    · rw [after_session, map_append, ← hnotes]
      rfl
  · rintro - t c ⟨hlooked, hreporting, done, hdone, hnotes⟩
    rw [append_nil] at hdone
    exact ⟨hlooked, hreporting, hdone ▸ hnotes⟩

theorem triple_recordResults :
    P.Ensures (fun t _ => Untouched t) (recordResults valid) fun _ => Handled valid := by
  refine triple_bind (B := fun _ t _ => Untouched t) (triple_perform (stable_const _)
    (fun _ => stable_const _) fun t c _ _ h => h.after c _ nofun rfl) fun now => ?_
  let items : List String → List PlacementResultApply := fun newIds =>
    (valid.filter fun item => item.event.eventId ∈ newIds).map (·.report now)
  have hids : (valid.map (·.logRow now)).map (·.eventId) =
      valid.map fun item => item.event.eventId := by
    simp [ResultItem.logRow, Function.comp_def]
  have hrecord := triple_bulkRecordIfNew hguar (valid.map (·.logRow now)) items
  rw [hids] at hrecord
  refine triple_bind hrecord fun newIds => ?_
  refine triple_bind (triple_applyOutcomes hguar []) fun updated => ?_
  refine triple_bind (keeps_handling hguar (.forM fun item _ => beside_touchResult)).ensures
    fun _ => ?_
  exact (triple_answers hguar fun item => resultStatus newIds updated item.event).post
    fun _ t c h => ⟨newIds, now, updated, h⟩

section

variable {reporters : List Uuid}
    (hguard : ∀ op t c, P.guard op t c → ∀ node ∈ reporters, (c.state.vpn.nodes.find? node).isSome = true)

include hguard

omit hguar in
theorem triple_knownNodes (hnodes : ∀ node ∈ nodes, node ∈ reporters) :
    P.Ensures (fun t _ => Untouched t) (knownNodes nodes)
      fun found t _ => Untouched t ∧ found = nodes := by
  induction nodes with
  | nil => exact triple_ret (stable_const _) fun _ _ h => ⟨h, rfl⟩
  | cons node rest ih =>
    obtain ⟨hnode, hrest⟩ := forall_mem_cons.mp hnodes
    refine triple_bind (B := fun found t _ => Untouched t ∧ found = true)
      (triple_perform (stable_const _) (fun _ => stable_const _) fun t c _ hop h =>
        ⟨h.after c _ nofun rfl, ?_⟩) ?_
    · have hknown := hguard _ t c hop node hnode
      rw [← h.view_eq c.state] at hknown
      exact hknown
    · rintro found t c ⟨huntouched, rfl⟩
      refine triple_bind (ih hrest) (fun others => ?_) t c huntouched
      exact triple_ret (stable_const _) fun _ _ h => ⟨h.1, congrArg (node :: ·) h.2⟩

theorem triple_handleResultBatch (cfg : RuntimeConfig) (messages : List ResultMessage)
    (hreporters : ∀ item ∈ messages.filterMap (·.parse cfg), item.nodeId ∈ reporters) :
    P.Ensures (fun t _ => Untouched t) (handleResultBatch cfg messages)
      fun _ => Handled (messages.filterMap (·.parse cfg)) := by
  -- a batch without items has nothing to answer
  have hempty : ∀ t c, Untouched t → Handled [] t c := fun t c h =>
    ⟨[], 0, [], ⟨fun _ hid => absurd hid not_mem_nil, fun _ hid => absurd hid not_mem_nil⟩,
      h.reporting, h.2⟩
  unfold handleResultBatch
  generalize messages.filterMap (·.parse cfg) = parsed at hreporters ⊢
  by_cases hparsed : parsed = []
  · subst hparsed
    exact triple_ret (stable_const _) hempty
  have hnodes := triple_knownNodes hguard fun node hnode => by
    obtain ⟨item, hitem, rfl⟩ := mem_map.mp (mem_dedup.mp hnode)
    exact hreporters item hitem
  have hvalid : (parsed.filter fun item => item.nodeId ∈ (parsed.map (·.nodeId)).dedup) =
      parsed := by
    refine filter_eq_self.mpr fun item hitem => decide_eq_true (mem_dedup.mpr ?_)
    exact mem_map_of_mem hitem
  simp only [if_neg hparsed]
  refine triple_bind hnodes fun found t c h => ?_
  obtain ⟨huntouched, rfl⟩ := h
  rw [hvalid, if_neg hparsed]
  exact triple_recordResults hguar t c huntouched

end

end Batch

/-! ## Batches among others -/

/-- Who takes part: transactions that handle a batch of results, and any others. -/
inductive ResultsParty
  | batch (messages : List ResultMessage)
  | other (program : Service Unit)

def ResultsParty.program : ResultsParty → Service Unit
  | batch messages => handleResultBatch cfg messages
  | other program => program

/-- The parties are about to start, each with a new session. -/
def resultParties {ι : Type} (cfg : RuntimeConfig) (party : ι → ResultsParty) (db : Database)
    (deliveries : ι → ℕ → Delivery) (skipped : ι → List String) : System engine TransportError ι :=
  System.start ⟨db, []⟩ (fun i => (party i).program cfg) fun i =>
    Session.new (deliveries i) (skipped i)

/-- Whenever a statement is executed, the reporters are nodes of the fleet. -/
def ReportersKnown (reporters : List Uuid) (_ : Stmt) (_ : Tx engine) (c : Committed engine) :
    Prop :=
  ∀ node ∈ reporters, (c.state.vpn.nodes.find? node).isSome = true

instance (reporters : List Uuid) (op : Stmt) (t : Tx engine) (c : Committed engine) :
    Decidable (ReportersKnown reporters op t c) :=
  inferInstanceAs (Decidable (∀ node ∈ reporters, _))

/-- The events come from the reporters, and those for one placement come from one node with one
version. -/
structure Agreeing (cfg : RuntimeConfig) (reporters : List Uuid) (messages : List ResultMessage) :
    Prop where
  reporter : ∀ event ∈ resultEvents messages, ∃ node ∈ reporters,
    cfg.parseUuid event.nodeId = some node
  agree : ∀ event ∈ resultEvents messages, ∀ other ∈ resultEvents messages,
    event.placementId = other.placementId →
      cfg.parseUuid event.nodeId = cfg.parseUuid other.nodeId ∧ event.opVersion = other.opVersion

variable {cfg : RuntimeConfig}

theorem mem_resultEvents_of_parse (h : item ∈ messages.filterMap (·.parse cfg)) :
    item.event ∈ resultEvents messages ∧ cfg.parseUuid item.event.nodeId = some item.nodeId := by
  obtain ⟨message, hmessage, hparse⟩ := mem_filterMap.mp h
  obtain ⟨event, hdata, hparse⟩ := Option.bind_eq_some_iff.mp hparse
  obtain ⟨node, hnode, rfl⟩ := Option.map_eq_some_iff.mp hparse
  exact ⟨mem_filterMap.mpr ⟨message, hmessage, hdata⟩, hnode⟩

theorem exists_parse_of_mem (h : event ∈ resultEvents messages)
    (hnode : cfg.parseUuid event.nodeId = some node) :
    ∃ item ∈ messages.filterMap (·.parse cfg), item.event = event := by
  obtain ⟨message, hmessage, hdata⟩ := mem_filterMap.mp h
  refine ⟨⟨message.subject, event, node⟩, mem_filterMap.mpr ⟨message, hmessage, ?_⟩, rfl⟩
  simp [ResultMessage.parse, hdata, hnode]

section Ends

variable {cfg : RuntimeConfig} {reporters : List Uuid} {messages : List ResultMessage}
  {newIds : List String} {now : Time} {updated : List Uuid} {t : Tx engine}
  {c : Committed engine}

/-- A row that was updated belongs to the node of a new event. -/
theorem Reporting.exists_event
    (h : Reporting (((messages.filterMap (·.parse cfg)).filter fun item =>
      item.event.eventId ∈ newIds).map (·.report now)) updated t c) {id : Uuid}
    (hid : id ∈ updated) :
    ∃ event ∈ resultEvents messages, event.placementId = id ∧ event.eventId ∈ newIds ∧
      FromOwner cfg event c.state ∧ ∃ at', (t.view c.state).vpn.placements.find? id =
        (c.state.vpn.placements.find? id).map (.report event.appliedState at') := by
  obtain ⟨-, row, hrow, report, hreport, ⟨hrowId, hversion, hbackend⟩, at', hview⟩ :=
    h.reported id hid
  obtain ⟨item, hitem, rfl⟩ := mem_map.mp hreport
  obtain ⟨hparsed, hnew⟩ := mem_filter.mp hitem
  obtain ⟨hevent, hnode⟩ := mem_resultEvents_of_parse hparsed
  have hplacement : item.event.placementId = id := hrowId.symm.trans (key_of_find? hrow)
  refine ⟨item.event, hevent, hplacement, of_decide_eq_true hnew, ⟨row, ?_, ?_, hversion.symm⟩,
    at', ?_⟩
  · rw [hplacement]
    exact hrow
  · rw [hnode]
    exact congrArg some hbackend.symm
  · rw [hrow]
    exact hview

/-- Under the condition, a batch that has been handled lets only the owners report. -/
theorem Handled.ownersReport (hagreeing : Agreeing cfg reporters messages)
    (h : Handled (messages.filterMap (·.parse cfg)) t c) :
    OwnersReport cfg messages t c.state := by
  obtain ⟨newIds, now, updated, hlooked, hreporting, hnotes⟩ := h
  have hnew : ∀ {event}, event.eventId ∈ newIds → ¬ Logged event c.state := by
    intro event hid hlogged
    unfold Logged at hlogged
    rw [(hlooked.isNew _ hid).2] at hlogged
    cases hlogged
  have hanswers : ∀ event ∈ resultEvents messages,
      Answers t event (resultStatus newIds updated event) := by
    intro event hevent status
    rw [hnotes, mem_map]
    constructor
    · rintro ⟨item, -, heq⟩
      cases heq
      rfl
    · rintro rfl
      obtain ⟨node, -, hnode⟩ := hagreeing.reporter event hevent
      obtain ⟨item, hitem, rfl⟩ := exists_parse_of_mem hevent hnode
      exact ⟨item, hitem, rfl⟩
  refine ⟨fun id hid => ?_, fun event hevent hlogged => ?_, fun event hevent hlogged howner => ?_⟩
  · have hupdated : id ∈ updated := by
      by_contra hnot
      exact hid (hreporting.unchanged id hnot)
    obtain ⟨event, hevent, hplacement, heventId, howner, hview⟩ := hreporting.exists_event hupdated
    exact ⟨event, hevent, hplacement, hnew heventId, howner, hview⟩
  · have hstatus : resultStatus newIds updated event = .skippedIdempotent :=
      if_pos fun hid => hnew hid hlogged
    exact hstatus ▸ hanswers event hevent
  · have heventId : event.eventId ∈ newIds := by
      by_contra hnot
      obtain ⟨node, -, hnode⟩ := hagreeing.reporter event hevent
      obtain ⟨item, hitem, rfl⟩ := exists_parse_of_mem hevent hnode
      exact hlogged (hlooked.isOld _ (mem_map.mpr ⟨item, hitem, rfl⟩) hnot)
    -- an update of its placement would have been by an event of the same node and version
    have hplacement : event.placementId ∉ updated := by
      intro hupdated
      obtain ⟨other, hother, hsame, -, ⟨row, hrow, hnode, hversion⟩, -⟩ :=
        hreporting.exists_event hupdated
      obtain ⟨hreporter, hversions⟩ := hagreeing.agree event hevent other hother hsame.symm
      exact howner ⟨row, hsame ▸ hrow, hreporter.trans hnode, hversions.trans hversion⟩
    have hstatus : resultStatus newIds updated event = .skippedStale := by
      unfold resultStatus
      rw [if_neg (not_not.mpr heventId), if_neg hplacement]
    exact hstatus ▸ hanswers event hevent

end Ends

/-- **Only the current owner's report counts.** Batches of results are handled in any
interleaving with each other and with other transactions. When no batch has events for one
placement from different nodes or for different versions, and all reporters are nodes of the
fleet, then whatever a batch changes is what the current backend reports for the current version
in an event that was not logged before, and the other events are answered as skipped. -/
theorem owners_report {ι : Type} [Fintype ι] [DecidableEq ι] (cfg : RuntimeConfig)
    (party : ι → ResultsParty) (db : Database) (deliveries : ι → ℕ → Delivery)
    (skipped : ι → List String) (reporters : List Uuid)
    (hagreeing : ∀ i messages, party i = .batch messages → Agreeing cfg reporters messages)
    {mid : System engine TransportError ι} (hrun : System.Runs (ReportersKnown reporters)
      (resultParties cfg party db deliveries skipped) mid)
    {i : ι} {messages : List ResultMessage} (hi : party i = .batch messages) {t : Tx engine}
    (hready : mid.ready? i = some t) : OwnersReport cfg messages t mid.db.state := by
  let P : Protocol engine := Protocol.along (fun _ => True) (ReportersKnown reporters)
  let A : ι → Assertion engine := fun i t c => ∀ messages, party i = .batch messages →
    Handled (messages.filterMap (·.parse cfg)) t c
  have hmeets : P.Meets A (resultParties cfg party db deliveries skipped) := by
    refine meets_start trivial fun j => ?_
    cases hj : party j with
    | other =>
      refine wp_mono wp_true (fun _ _ _ _ messages hbatch => ?_) fun _ _ _ h => h
      rw [hj] at hbatch
      cases hbatch
    | batch batch =>
      have hreporters : ∀ item ∈ batch.filterMap (·.parse cfg), item.nodeId ∈ reporters := by
        intro item hitem
        obtain ⟨hevent, hnode⟩ := mem_resultEvents_of_parse hitem
        obtain ⟨node, hmem, hparse⟩ := (hagreeing j batch hj).reporter item.event hevent
        obtain rfl : item.nodeId = node := Option.mem_unique hnode hparse
        exact hmem
      have hbatch := triple_handleResultBatch (P := P) (fun _ _ h => h)
        (fun _ _ _ h => h) cfg batch hreporters
        (Tx.start (Session.new (deliveries j) (skipped j))) ⟨db, []⟩ ⟨rfl, rfl⟩
      refine wp_mono hbatch (fun _ _ _ hhandled messages hmessages => ?_) fun _ _ _ h => h
      rw [hj] at hmessages
      cases hmessages
      exact hhandled
  have hmid := hmeets.commits (H := fun _ _ _ => True) (J := fun _ _ => True) trivial
    (fun _ _ _ _ _ _ _ _ _ _ _ => trivial) (fun _ _ _ _ _ _ => trivial)
    (fun _ _ t c _ _ _ _ _ => ⟨trivial, ⟨t.writes, rfl⟩, trivial⟩) hrun
  exact (hmid.1.ready hready messages hi).ownersReport (hagreeing i messages hi)

/-! ## A backend and an entry report in one batch -/

section Reports

private def fleetConfig : RuntimeConfig where
  subjects := ⟨"cmd", "res", "snap"⟩
  outboxBatchSize := 10
  isoformat := toString
  parseUuid text := if text = "7" then some 7 else if text = "8" then some 8 else none

/-- The placement 1 is on the backend 7, in version 1; the entry 8 gets its commands too. -/
private def fleetDatabase : Database where
  clock := 0
  vpn :=
    { Vpn.Database.empty with
      nodes := (Table.empty.insert { id := 7 }).insert { id := 8, role := .whitelistEntry }
      placements := Table.empty.insert
        { id := 1, keyId := 1, backendNodeId := 7, desiredState := .active,
          appliedState := .pending, opVersion := 1, lastMigrationReason := none, updatedAt := 0,
          isActive := true } }
  states := (Table.empty.insert { nodeId := 7 }).insert { nodeId := 8 }
  outbox := Table.empty
  eventLog := Table.empty

/-- The node reports that it has applied the placement. -/
private def fleetReport (node : String) : PlacementApplyResultEvent where
  nodeId := node
  emittedAt := 0
  eventId := "result:" ++ node
  placementId := 1
  opVersion := 1
  appliedState := .applied

private def fleetStart {n : ℕ} (party : Fin n → ResultsParty) :
    System engine TransportError (Fin n) :=
  resultParties fleetConfig party fleetDatabase (fun _ _ => .acknowledged) fun _ => []

/-- A transaction is about to commit with this answer. -/
private def fleetAnswered {n : ℕ} (mid : System engine TransportError (Fin n)) (i : Fin n)
    (node : String) (status : TransportReportStatus) : Bool :=
  (mid.ready? i).any fun t => decide (.answered (fleetReport node) status ∈ t.session.notes)

/-- The placement as it is committed. -/
private def fleetPlacement {n : ℕ} (mid : System engine TransportError (Fin n))
    (p : UserPlacement → Bool) : Bool :=
  (mid.db.state.vpn.placements.find? 1).any p

/-- Both nodes report in one batch. -/
private def fleetBatch : List ResultMessage := [⟨none, fleetReport "7"⟩, ⟨none, fleetReport "8"⟩]

/-- The report of the entry is answered as if it had been taken. -/
theorem entry_report_answered_applied :
    ∃ mid t, System.Runs (ReportersKnown [7, 8]) (fleetStart fun _ : Fin 1 => .batch fleetBatch) mid ∧
      mid.ready? 0 = some t ∧ ¬ OwnersReport fleetConfig fleetBatch t mid.db.state := by
  obtain ⟨mid, hrun, hmid⟩ := System.exists_run_of_replay (ReportersKnown [7, 8])
    (fleetStart fun _ : Fin 1 => .batch fleetBatch) (List.replicate 14 (.step 0))
    (fun mid => fleetAnswered mid 0 "8" .applied &&
      ((mid.db.state.eventLog.find? (fleetReport "8").eventId).isNone &&
        fleetPlacement mid fun row => row.backendNodeId = 7))
    (by decide +kernel)
  obtain ⟨hready, hmid⟩ := Bool.and_eq_true_iff.mp hmid
  obtain ⟨hlogged, hplacement⟩ := Bool.and_eq_true_iff.mp hmid
  obtain ⟨t, ht, hanswered⟩ := (Option.any_eq_true _ _).mp hready
  obtain ⟨row, hrow, hbackend⟩ := (Option.any_eq_true _ _).mp hplacement
  refine ⟨mid, t, hrun, ht, fun h => ?_⟩
  have hstale := h.stale (fleetReport "8") (by simp [resultEvents, fleetBatch]) ?_ ?_
  · exact absurd ((hstale .applied).mp (of_decide_eq_true hanswered)) (by decide)
  · simpa [Logged] using hlogged
  · rintro ⟨other, hother, hparse, -⟩
    obtain rfl : row = other := Option.mem_unique hrow hother
    have hparsed : fleetConfig.parseUuid (fleetReport "8").nodeId = some 8 := by decide +kernel
    rw [hparsed, of_decide_eq_true hbackend] at hparse
    cases hparse

/-- The report of the backend, delivered a second time after it has been taken. -/
theorem owners_report_redelivered : ∃ mid t, System.Runs (ReportersKnown [7])
        (fleetStart fun _ : Fin 2 => .batch [⟨none, fleetReport "7"⟩]) mid ∧
      mid.ready? 1 = some t ∧
      (fleetPlacement mid fun row => row.appliedState = .applied) = true ∧
      Note.answered (fleetReport "7") .skippedIdempotent ∈ t.session.notes ∧
      OwnersReport fleetConfig [⟨none, fleetReport "7"⟩] t mid.db.state := by
  have hagreeing : Agreeing fleetConfig [7] [⟨none, fleetReport "7"⟩] := by
    refine ⟨?_, ?_⟩
    · simp [resultEvents, fleetReport, fleetConfig]
    · simp [resultEvents]
  obtain ⟨mid, hrun, hmid⟩ := System.exists_run_of_replay (ReportersKnown [7])
    (fleetStart fun _ : Fin 2 => .batch [⟨none, fleetReport "7"⟩])
    (List.replicate 10 (.step 0) ++ List.replicate 6 (.step 1))
    (fun mid => (fleetPlacement mid fun row => row.appliedState = .applied) &&
      fleetAnswered mid 1 "7" .skippedIdempotent) (by decide +kernel)
  obtain ⟨happlied, hmid⟩ := Bool.and_eq_true_iff.mp hmid
  obtain ⟨t, ht, hanswered⟩ := (Option.any_eq_true _ _).mp hmid
  refine ⟨mid, t, hrun, ht, happlied, of_decide_eq_true hanswered, ?_⟩
  exact owners_report fleetConfig _ fleetDatabase _ _ [7]
    (fun i messages h => by cases h; exact hagreeing) hrun (i := 1) rfl ht

end Reports

end VpnControl.Agent

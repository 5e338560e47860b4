/-
# What a snapshot reserves and publishes

The course of a transaction that makes a snapshot, whatever the others commit meanwhile. Before
the row of its node is locked it has only read. Under the lock it finds the reservation of its
request or counts the epoch on, and then it publishes the commands that it listed at the start.

The lock is held to the end, so that the row at the commit is the row that was locked. That the
instance which the locked read answers with is as the row is an assumption, `Fresh`.
-/

import VpnControl.Agent.Snapshots

namespace VpnControl.Agent

open Txn List Session
open Billing (Uuid Time)
open Table Database Tx Protocol

/-! ## The columns of a reservation -/

/-- The columns that a reservation is made of. -/
structure SnapshotColumns where
  epoch : ℕ := 0
  snapshotId : Option String := none
  requestEventId : Option String := none
  generatedAt : Option Time := none
  deriving DecidableEq, Repr

def NodeTransportState.snapshotColumns (state : NodeTransportState) : SnapshotColumns where
  epoch := state.currentEpoch
  snapshotId := state.lastSnapshotId
  requestEventId := state.lastSnapshotRequestEventId
  generatedAt := state.lastSnapshotGeneratedAt

/-- The columns that the row has when the reservation is over. -/
def SnapshotReservation.columns (r : SnapshotReservation) : SnapshotColumns where
  epoch := r.epoch
  snapshotId := some r.snapshotId
  requestEventId := some r.requestEventId
  generatedAt := r.generatedAt

def Write.reservesFor : Write → Option Uuid
  | reserve data _ => some data.nodeId
  | _ => none

namespace Database

/-- A node without a row counts as one that has never had a snapshot. -/
def snapshotColumns (db : Database) (node : Uuid) : SnapshotColumns :=
  ((db.states.find? node).map NodeTransportState.snapshotColumns).getD {}

variable {db first second : Database} {node : Uuid}

theorem snapshotColumns_of_find? (h : db.states.find? node = some state) :
    db.snapshotColumns node = state.snapshotColumns := by
  rw [snapshotColumns, h]
  rfl

theorem snapshotColumns_congr (h : SameRow (.state node) first second) :
    first.snapshotColumns node = second.snapshotColumns node := by
  have hfind : first.states.find? node = second.states.find? node := h
  rw [snapshotColumns, snapshotColumns, hfind]

theorem snapshotColumns_apply (h : w.reservesFor ≠ some node) :
    (db.apply w).snapshotColumns node = db.snapshotColumns node := by
  cases w with
  | insertState other =>
    simp only [snapshotColumns, apply, find?_insert]
    cases db.states.find? node with
    | some => rfl
    | none =>
      rw [Option.none_or]
      split <;> rfl
  | reserve =>
    refine (snapshotColumns_congr (apply_frame db ?_)).symm
    simpa [Write.touches, Write.reservesFor, eq_comm] using h
  | touch other mark =>
    have hcolumns : ∀ state, (mark.set state).snapshotColumns = state.snapshotColumns := by
      intro state
      cases mark <;> rfl
    exact congrArg (Option.getD · {}) (map_find?_modify mark.set mark.set_nodeId hcolumns node)
  | _ => rfl

theorem snapshotColumns_foldl {ws : List Write} (h : ∀ w ∈ ws, w.reservesFor ≠ some node) :
    (ws.foldl apply db).snapshotColumns node = db.snapshotColumns node :=
  foldlRecOn (motive := fun later : Database => later.snapshotColumns node = _) ws _ rfl
    fun later hsame w hw => (snapshotColumns_apply (h w hw)).trans hsame

theorem snapshotColumns_reserve (h : (db.states.find? data.nodeId).isSome) :
    (db.apply (.reserve data epoch)).snapshotColumns data.nodeId =
      { epoch := epoch, snapshotId := some data.snapshotId
        requestEventId := some data.requestEventId, generatedAt := some data.generatedAt } := by
  obtain ⟨state, hstate⟩ := Option.isSome_iff_exists.mp h
  have hfind : (db.apply (.reserve data epoch)).states.find? data.nodeId =
      some (data.set epoch state) :=
    (Table.find?_modify_self (data.set epoch) fun _ => rfl).trans (by rw [hstate]; rfl)
  rw [snapshotColumns_of_find? hfind]
  rfl

end Database

/-! ## Statements that reserve nothing -/

/-- The statement neither reserves nor notes anything. -/
def Plain : Stmt → Prop
  | .write w => w.reservesFor = none
  | .note _ => False
  | _ => True

namespace Plain

variable {op : Stmt}

theorem writes (h : Plain op) : ∀ w ∈ op.writes, w.reservesFor = none := by
  cases op with
  | write => exact fun _ hw => mem_singleton.mp hw ▸ h
  | _ => exact fun _ hw => absurd hw not_mem_nil

theorem notes_after (h : Plain op) (t : Tx engine) :
    (t.after c op).session.notes = t.session.notes := by
  refine notes_answer ?_
  rintro n rfl
  exact h

end Plain

/-! ## The course of a snapshot -/

/-- Nothing has been reserved yet. -/
def Unreserved (t : Tx engine) : Prop :=
  (∀ w ∈ t.writes, w.reservesFor = none) ∧ ∀ r, Note.reserved r ∉ t.session.notes

theorem Unreserved.after (h : Unreserved t) (c : Committed engine)
    (hop : Plain op) : Unreserved (t.after c op) := by
  refine ⟨forall_mem_append.mpr ⟨h.1, hop.writes⟩, fun r => ?_⟩
  rw [hop.notes_after]
  exact h.2 r

variable {t : Tx engine}

theorem Unreserved.snapshotColumns_view (h : Unreserved t)
    (node : Uuid) : (t.view db).snapshotColumns node = db.snapshotColumns node :=
  snapshotColumns_foldl fun w hw => by simp [h.1 w hw]

/-- The transaction has reserved `r`. Its row is as the reservation wants it, and was so before
or had the epoch before. -/
structure Reserved (r : SnapshotReservation) (t : Tx engine) (c : Committed engine) : Prop where
  only : ∀ other, Note.reserved other ∈ t.session.notes → other = r
  locked : RowKey.state r.nodeId ∈ t.keys
  own : ∀ w ∈ t.writes, ∀ other, w.reservesFor = some other → other = r.nodeId
  columns : (t.view c.state).snapshotColumns r.nodeId = r.columns
  counts : c.state.snapshotColumns r.nodeId = r.columns ∨
    r.epoch = (c.state.snapshotColumns r.nodeId).epoch + 1

section Reserved

variable {P : Protocol engine} {r : SnapshotReservation} {t : Tx engine} {c : Committed engine}

/-- Nobody writes a row that is locked. -/
theorem stable_reserved : P.Stable (Reserved r) := by
  intro t c later hrely h
  have hsame := hrely.sameRow h.locked
  refine ⟨h.only, h.locked, h.own, ?_, ?_⟩
  · rw [← h.columns]
    exact (snapshotColumns_congr (t.view_sameRow hsame)).symm
  · rw [← snapshotColumns_congr hsame]
    exact h.counts

theorem Reserved.after (h : Reserved r t c) {op : Stmt} (hop : Plain op) :
    Reserved r (t.after c op) c := by
  refine ⟨?_, keys_subset_after h.locked, ?_, ?_, h.counts⟩
  · rw [hop.notes_after]
    exact h.only
  · intro w hw other hother
    rcases mem_append.mp hw with hold | hnew
    · exact h.own w hold other hother
    · rw [hop.writes w hnew] at hother
      cases hother
  · rw [view_after, ← h.columns]
    exact snapshotColumns_foldl fun w hw => by simp [hop.writes w hw]

/-- The columns of the other nodes stay. -/
theorem Reserved.snapshotColumns_of_ne (h : Reserved r t c) (hne : node ≠ r.nodeId)
    {db : Database} : (t.view db).snapshotColumns node = db.snapshotColumns node :=
  snapshotColumns_foldl fun w hw hreserves => hne (h.own w hw node hreserves)

end Reserved

/-- The command lists that the transaction has noted. -/
def listed (t : Tx engine) : List (List Vpn.PlacementCommandPayload) :=
  t.session.notes.filterMap fun
    | .listed commands => some commands
    | _ => none

/-- The transaction has locked the row of the node when `lock` was committed, with `commands`
listed before. -/
structure LockedAt (P : Protocol engine) (node : Uuid)
    (commands : List (List Vpn.PlacementCommandPayload)) (lock : Committed engine) (t : Tx engine)
    (c : Committed engine) : Prop where
  guard : ∃ before : Tx engine, listed before = commands ∧ P.guard (.lockState node) before lock
  inv : P.Inv lock
  guar : P.Guar lock c
  listed_eq : listed t = commands
  held : ∃ granted, (RowKey.state node, granted) ∈ t.held ∧
    ∃ ws : List Write, lock.state = ws.foldl Database.apply granted

section LockedAt

variable {P : Protocol engine} {node : Uuid} {commands : List (List Vpn.PlacementCommandPayload)}
  {lock : Committed engine}

theorem stable_lockedAt : P.Stable (LockedAt P node commands lock) :=
  fun _ _ _ hrely h => ⟨h.guard, h.inv, P.guar_trans h.guar hrely.2.1, h.listed_eq, h.held⟩

theorem LockedAt.after (h : LockedAt P node commands lock t c)
    (hlisted : listed (t.after c op) = listed t) :
    LockedAt P node commands lock (t.after c op) c := by
  obtain ⟨granted, hgranted, hws⟩ := h.held
  exact ⟨h.guard, h.inv, h.guar, hlisted.trans h.listed_eq, granted,
    mem_append_left _ hgranted, hws⟩

theorem listed_after_of_plain (hop : Plain op) : listed (t.after c op) = listed t := by
  unfold listed
  rw [hop.notes_after]

end LockedAt

/-! ## Reserving -/

/-- The instance of the row of the node that the session has loaded, if it has, agrees with the
row about the last snapshot. -/
def Fresh (node : Uuid) (t : Tx engine) (c : Committed engine) : Prop :=
  ∀ state ∈ t.session.instances node, state.snapshotColumns = (t.view c.state).snapshotColumns node

/-- The row that the transaction has locked: nothing is reserved, and the instance `state` is as
the row. -/
structure Holding (node : Uuid) (state : NodeTransportState) (t : Tx engine)
    (c : Committed engine) : Prop where
  unreserved : Unreserved t
  locked : RowKey.state node ∈ t.keys
  present : (t.view c.state).taken (.state node) = true
  columns : c.state.snapshotColumns node = state.snapshotColumns

section Reserving

variable {P : Protocol engine} {data : SnapshotReserveIn} {state : NodeTransportState}
  {t : Tx engine} {c : Committed engine}

theorem stable_holding : P.Stable (Holding node state) := by
  intro t c later hrely h
  have hsame := hrely.sameRow h.locked
  refine ⟨h.unreserved, h.locked, ?_, ?_⟩
  · rw [← h.present]
    exact congrArg Option.isSome (t.view_sameRow hsame).symm
  · rw [← h.columns]
    exact (snapshotColumns_congr hsame).symm

/-- The locked read answers with an instance that is as the row. -/
theorem Unreserved.lockState (h : Unreserved t) (hfresh : Fresh node t c)
    (hreply : t.reply c (.lockState node) = some state) :
    Holding node state (t.after c (.lockState node)) c := by
  have hafter : Unreserved (t.after c (.lockState node)) := h.after c trivial
  have hview : (t.after c (.lockState node)).view c.state = t.view c.state := t.view_after
  cases hfind : (t.view c.state).states.find? node with
  | none => simp [Tx.reply, Stmt.answer, hfind] at hreply
  | some row =>
    have hnode : row.nodeId = node := key_of_find? hfind
    have htaken : (t.view c.state).taken (.state node) = true := by simp [Database.taken, hfind]
    have hstate : (t.session.load row).1 = state := by
      simpa [Tx.reply, Stmt.answer, hfind] using hreply
    refine ⟨hafter, mem_keys_after.mpr (.inr ?_), by rw [hview]; exact htaken, ?_⟩
    · simp [Stmt.locks, htaken]
    · rw [← h.snapshotColumns_view node]
      unfold load at hstate
      cases hloaded : t.session.instances row.nodeId with
      | none =>
        rw [hloaded] at hstate
        obtain rfl : row = state := hstate
        exact snapshotColumns_of_find? hfind
      | some loaded =>
        rw [hloaded] at hstate
        obtain rfl : loaded = state := hstate
        exact (hfresh loaded (hnode ▸ hloaded)).symm

variable {r : SnapshotReservation} {lock : Committed engine}

/-- The request has been served before. -/
theorem Holding.repeated (h : Holding r.nodeId state t c)
    (hcolumns : r.columns = state.snapshotColumns) : Reserved r t c where
  only other hother := absurd hother (h.unreserved.2 other)
  locked := h.locked
  own w hw other hother := by
    rw [h.unreserved.1 w hw] at hother
    cases hother
  columns := by rw [h.unreserved.snapshotColumns_view, h.columns, hcolumns]
  counts := .inl (h.columns.trans hcolumns.symm)

/-- The `UPDATE` counts the epoch on. -/
theorem Holding.reserve (h : Holding data.nodeId state t c) : Reserved (data.reserved state)
      (t.after c (.write (.reserve data (state.currentEpoch + 1)))) c := by
  refine ⟨fun other hother => ?_, keys_subset_after h.locked, ?_, ?_, .inr ?_⟩
  · have hold : .reserved other ∈ t.session.notes := hother
    exact absurd hold (h.unreserved.2 other)
  · intro w hw other hother
    rcases mem_append.mp hw with hold | hnew
    · rw [h.unreserved.1 w hold] at hother
      cases hother
    · obtain rfl := mem_singleton.mp hnew
      exact (Option.some.inj hother).symm
  · rw [view_after]
    exact snapshotColumns_reserve h.present
  · have hepoch := congrArg SnapshotColumns.epoch h.columns
    exact congrArg (· + 1) hepoch.symm

theorem Reserved.note (h : Reserved r t c) : Reserved r (t.after c (.note (.reserved r))) c where
  only other hother := by
    rcases mem_append.mp hother with hold | hnew
    · exact h.only other hold
    · simpa using hnew
  locked := keys_subset_after h.locked
  own w hw other hother := h.own w (by simpa [Stmt.writes] using hw) other hother
  columns := by
    rw [view_after]
    exact h.columns
  counts := h.counts

/-- What `reserve_snapshot_epoch` has done when it returns. -/
def Returned (P : Protocol engine) (data : SnapshotReserveIn)
    (commands : List (List Vpn.PlacementCommandPayload)) (result : ℕ × String) :
    Assertion engine := fun t c =>
  ∃ r lock, result = (r.epoch, r.snapshotId) ∧ r.nodeId = data.nodeId ∧ Reserved r t c ∧
    LockedAt P data.nodeId commands lock t c ∧
    (r.generatedAt = some data.generatedAt ∧ data.generatedAt ≤ lock.state.clock ∨
      r.generatedAt = (lock.state.snapshotColumns data.nodeId).generatedAt)

/-- A reservation that has been made is noted and returned. -/
theorem triple_returnReservation (hnode : r.nodeId = data.nodeId)
    (htime : r.generatedAt = some data.generatedAt ∧ data.generatedAt ≤ lock.state.clock ∨
      r.generatedAt = (lock.state.snapshotColumns data.nodeId).generatedAt) :
    P.Ensures (fun t c => Reserved r t c ∧ LockedAt P data.nodeId commands lock t c)
      (returnReservation r) (Returned P data commands) := by
  have hstable : P.Stable fun t c => Reserved r t c ∧ LockedAt P data.nodeId commands lock t c :=
    stable_reserved.and stable_lockedAt
  refine triple_bind (triple_perform hstable (fun _ => hstable) ?_) fun _ => triple_ret hstable ?_
  · rintro t c - - ⟨hreserved, hat⟩
    exact ⟨hreserved.note, hat.after (by simp [listed, Stmt.answer])⟩
  · rintro t c ⟨hreserved, hat⟩
    exact ⟨r, lock, rfl, hnode, hreserved, hat, htime⟩

theorem triple_reserveOn (hclock : data.generatedAt ≤ lock.state.clock)
    (hlock : lock.state.snapshotColumns data.nodeId = state.snapshotColumns) :
    P.Ensures (fun t c => Holding data.nodeId state t c ∧ LockedAt P data.nodeId commands lock t c)
      (reserveOn data state) (Returned P data commands) := by
  have hstable : P.Stable fun t c =>
      Holding data.nodeId state t c ∧ LockedAt P data.nodeId commands lock t c :=
    stable_holding.and stable_lockedAt
  unfold reserveOn
  split
  · rename_i snapshotId hserved
    obtain ⟨hrequest, hsnapshot⟩ : state.lastSnapshotRequestEventId = some data.requestEventId ∧
        state.lastSnapshotId = some snapshotId := by
      unfold NodeTransportState.reservedFor at hserved
      split at hserved
      · rename_i hrequest
        exact ⟨hrequest, (Option.filter_eq_some_iff.mp hserved).1⟩
      · cases hserved
    have hcolumns : (data.repeated state snapshotId).columns = state.snapshotColumns := by
      simp [SnapshotReserveIn.repeated, SnapshotReservation.columns,
        NodeTransportState.snapshotColumns, hrequest, hsnapshot]
    have htime : (data.repeated state snapshotId).generatedAt =
        (lock.state.snapshotColumns data.nodeId).generatedAt := by
      rw [hlock]
      rfl
    exact fun t c h => triple_returnReservation rfl (.inr htime) t c
      ⟨Holding.repeated h.1 hcolumns, h.2⟩
  · refine triple_bind (triple_perform hstable (fun _ => stable_reserved.and stable_lockedAt) ?_)
      fun _ => triple_returnReservation rfl (.inl ⟨rfl, hclock⟩)
    rintro t c - - ⟨hholding, hat⟩
    exact ⟨hholding.reserve, hat.after rfl⟩

theorem wp_reserveSnapshotEpoch
    (hguard : ∀ t c, P.guard (.lockState data.nodeId) t c → Fresh data.nodeId t c)
    (hmono : ∀ c later, P.Guar c later → c.state.clock ≤ later.state.clock)
    (h : Unreserved t) (hkept : t.Kept c) (hclock : data.generatedAt ≤ c.state.clock) :
    P.wp (reserveSnapshotEpoch data) (Returned P data (listed t)) (fun _ _ _ => True) t c := by
  generalize hcommands : listed t = commands
  let A : Assertion engine := fun t c =>
    Unreserved t ∧ listed t = commands ∧ data.generatedAt ≤ c.state.clock
  have hstable : P.Stable A := fun t c later hrely hpre =>
    ⟨hpre.1, hpre.2.1, hpre.2.2.trans (hmono c later hrely.2.1)⟩
  have hcreate := wp_kept (keeps_of_every (p := getOrCreate data.nodeId) hstable (fun op hop t c _ _ hpre =>
      ⟨hpre.1.after c hop, (listed_after_of_plain hop).trans hpre.2.1, hpre.2.2⟩)
    (every_getOrCreate (fun _ => trivial) trivial trivial rfl) t c ⟨h, hcommands, hclock⟩) hkept
  refine wp_bind (wp_mono hcreate ?_ fun _ _ _ _ => trivial)
  rintro - t c ⟨hpre, hkept⟩ lock hrely hlockGuard
  obtain ⟨hfree, hlisted, hclock⟩ := hstable t c lock hrely hpre
  cases hreply : t.reply lock (.lockState data.nodeId) with
  | none => exact fun _ _ => trivial
  | some =>
    have hholding := hfree.lockState (hguard t lock hlockGuard) hreply
    refine triple_reserveOn hclock hholding.columns _ _ ⟨hholding, ?_⟩
    obtain ⟨granted, hgranted⟩ := mem_keys.mp hholding.locked
    have hplain : Plain (.lockState data.nodeId) := trivial
    have hafter := (hkept.later hrely.2.2).after (.lockState data.nodeId)
    exact ⟨⟨t, hlisted, hlockGuard⟩, hrely.1, P.guar_refl lock,
      (listed_after_of_plain hplain).trans hlisted, granted, hgranted,
      (hafter _ granted hgranted).2⟩

end Reserving

/-! ## Publishing -/

/-- The commands that the transaction has published in chunks. -/
def published (t : Tx engine) : List Vpn.PlacementCommandPayload :=
  t.session.accepted.flatMap Message.commands

/-- The statement publishes no chunk of a snapshot. -/
def Chunkless : Stmt → Prop
  | .publish message => message.commands = []
  | _ => True

theorem Chunkless.published_after (h : Chunkless op) : published (t.after c op) = published t := by
  by_cases hpublish : ∃ message, op = .publish message
  · obtain ⟨message, rfl⟩ := hpublish
    have hempty : message.commands = [] := h
    unfold published
    simp only [after_session, Stmt.answer, publish]
    split
    · simp [hempty]
    · split <;> simp [hempty]
  · unfold published
    rw [after_session]
    exact congrArg (flatMap Message.commands) (accepted_answer (fun m hm => hpublish ⟨m, hm⟩))

/-- A message that is acknowledged has been taken. -/
theorem published_after_publish (h : t.reply c (.publish message) = .ok ()) :
    published (t.after c (.publish message)) = published t ++ message.commands := by
  unfold published
  simp only [Tx.reply, after_session, Stmt.answer, publish] at h ⊢
  split at h
  · simp
  · cases h

/-- A transaction that has reserved `r` under the lock, with `commands` listed, and has published
`done`. -/
structure Publishing (P : Protocol engine) (r : SnapshotReservation)
    (commands done : List Vpn.PlacementCommandPayload) (lock : Committed engine) (t : Tx engine)
    (c : Committed engine) : Prop where
  reserved : Reserved r t c
  lockedAt : LockedAt P r.nodeId [commands] lock t c
  published_eq : published t = done

section Publishing

variable {P : Protocol engine} {r : SnapshotReservation}
  {commands done : List Vpn.PlacementCommandPayload} {lock : Committed engine} {cfg : RuntimeConfig}
  {items : List PlacementCommandEvent} {snapshotId : String} {node : Uuid} {α : Type}

theorem stable_publishing : P.Stable (Publishing P r commands done lock) :=
  fun t c later hrely h => ⟨stable_reserved t c later hrely h.reserved,
    stable_lockedAt t c later hrely h.lockedAt, h.published_eq⟩

theorem Publishing.after (h : Publishing P r commands done lock t c) (hop : Plain op)
    (hchunkless : Chunkless op) : Publishing P r commands done lock (t.after c op) c :=
  ⟨h.reserved.after hop, h.lockedAt.after (listed_after_of_plain hop),
    hchunkless.published_after.trans h.published_eq⟩

/-- What comes between the chunks of a snapshot and after them keeps them. -/
theorem triple_between {p : Service α} (hp : p.Every fun op => Plain op ∧ Chunkless op) :
    P.Ensures (Publishing P r commands done lock) p fun _ => Publishing P r commands done lock :=
  (keeps_of_every stable_publishing (fun _ hop _ _ _ _ h => h.after hop.1 hop.2) hp).ensures

theorem between_select {query : Database → α} :
    (select query).Every fun op => Plain op ∧ Chunkless op :=
  ⟨⟨trivial, trivial⟩, fun _ => trivial⟩

theorem triple_publishJetstream :
    P.Ensures (Publishing P r commands done lock) (publishJetstream message)
      fun _ => Publishing P r commands (done ++ message.commands) lock := by
  intro t c h later hrely _
  have hlater := stable_publishing t c later hrely h
  cases hreply : t.reply later (.publish message) with
  | error => exact fun _ _ => trivial
  | ok =>
    have hplain : Plain (.publish message) := trivial
    refine fun final hfinal => stable_publishing _ later final hfinal ⟨?_, ?_, ?_⟩
    · exact hlater.reserved.after hplain
    · exact hlater.lockedAt.after (listed_after_of_plain hplain)
    · rw [published_after_publish hreply, hlater.published_eq]

theorem triple_publishSnapshotChunk : P.Ensures (Publishing P r commands done lock)
      (publishSnapshotChunk cfg node snapshotId epoch index last items)
      fun _ => Publishing P r commands (done ++ items.map (·.command)) lock :=
  triple_bind (triple_between between_select) fun _ => triple_publishJetstream

theorem flatten_chunkItems {items : List α} (h : 0 < chunkSize) :
    (chunkItems items chunkSize).flatten = items := by
  have htake : ∀ n, ((range n).map fun index =>
      (items.drop (index * chunkSize)).take chunkSize).flatten = items.take (n * chunkSize) := by
    intro n
    induction n with
    | zero => simp
    | succ _ ih =>
      rw [range_succ, map_append, flatten_append, ih, Nat.succ_mul, take_add]
      simp
  rw [chunkItems, htake, take_of_length_le]
  have hdiv := Nat.lt_div_mul_add (a := items.length + chunkSize - 1) h
  omega

theorem triple_publishSnapshotItems : P.Ensures (Publishing P r commands [] lock)
      (publishSnapshotItems cfg node snapshotId epoch items)
      fun _ => Publishing P r commands (items.map (·.command)) lock := by
  unfold publishSnapshotItems
  split
  · rename_i hitems
    subst hitems
    exact triple_publishSnapshotChunk
  · let chunked := chunkItems items nodeAgentSnapshotChunkSize
    -- what is published and what is left are the items
    let I : List (List PlacementCommandEvent × ℕ) → Assertion engine := fun left t c =>
      ∃ done, Publishing P r commands done lock t c ∧
        done ++ left.flatMap (fun entry => entry.1.map (·.command)) = items.map (·.command)
    have hend : P.Stable (I []) := by
      rintro t c later hrely ⟨done, h, hdone⟩
      exact ⟨done, stable_publishing t c later hrely h, hdone⟩
    have hflat : chunked.zipIdx.flatMap (fun entry => entry.1.map (·.command)) =
        items.map (·.command) := by
      have hzip : chunked.zipIdx.flatMap (fun entry => entry.1.map (·.command)) =
          (chunked.zipIdx.map Prod.fst).flatMap fun chunk => chunk.map (·.command) := by
        rw [flatMap_map]
      rw [hzip, zipIdx_map_fst, flatMap_def, ← map_flatten, flatten_chunkItems (by decide)]
    refine (triple_forM hend ?_ chunked.zipIdx).conseq ?_ ?_ fun _ _ _ h => h
    · rintro entry rest t c ⟨done, h, hdone⟩
      refine wp_mono (triple_publishSnapshotChunk t c h) ?_ fun _ _ _ h => h
      intro _ t c hafter
      refine ⟨_, hafter, ?_⟩
      simpa [flatMap_cons, Function.comp_def] using hdone
    · exact fun t c h => ⟨[], h, by simpa using hflat⟩
    · rintro _ t c ⟨done, h, hdone⟩
      obtain rfl : done = items.map (·.command) := by simpa using hdone
      exact h

theorem triple_publishCommands : P.Ensures (Publishing P r commands [] lock)
      (publishSnapshotItems cfg node snapshotId epoch
        (commands.map (snapshotItem snapshotId epoch time)))
      fun _ => Publishing P r commands commands lock := by
  have hitems : (commands.map (snapshotItem snapshotId epoch time)).map (·.command) = commands := by
    rw [map_map]
    exact map_id' commands
  refine triple_publishSnapshotItems.post fun _ t c h => ?_
  rwa [hitems] at h

end Publishing

/-! ## A whole snapshot -/

/-- A transaction that has not reserved yet, at a time not before `now`. -/
structure Preparing (commands : List (List Vpn.PlacementCommandPayload)) (now : Time)
    (t : Tx engine) (c : Committed engine) : Prop where
  writes_eq : t.writes = []
  reserved : ∀ r, Note.reserved r ∉ t.session.notes
  kept : t.Kept c
  listed_eq : listed t = commands
  published_eq : published t = []
  clock : now ≤ c.state.clock

theorem Preparing.unreserved (h : Preparing commands now t c) : Unreserved t :=
  ⟨by simp [h.writes_eq], h.reserved⟩

/-- What a transaction that makes a snapshot has done when it commits: nothing, or a reservation
for which it has published the commands listed before. -/
def Snapped (P : Protocol engine) : Assertion engine := fun t c =>
  Unreserved t ∨ ∃ r lock commands, Publishing P r commands commands lock t c ∧
    ((∃ g, r.generatedAt = some g ∧ g ≤ lock.state.clock) ∨
      r.generatedAt = (lock.state.snapshotColumns r.nodeId).generatedAt)

theorem stable_snapped {P : Protocol engine} : P.Stable (Snapped P) := by
  rintro t c later hrely (h | ⟨r, lock, commands, h, htime⟩)
  · exact .inl h
  · exact .inr ⟨r, lock, commands, stable_publishing t c later hrely h, htime⟩

section Snapshot

variable {P : Protocol engine} {t : Tx engine} {c : Committed engine}
  {commands : List Vpn.PlacementCommandPayload} {data : SnapshotReserveIn}

/-- What is done with a reserved epoch: the commands are published, and what comes before and
after that keeps them. -/
theorem wp_snapshot (hguard : ∀ t c, P.guard (.lockState data.nodeId) t c → Fresh data.nodeId t c)
    (hmono : ∀ c later, P.Guar c later → c.state.clock ≤ later.state.clock)
    {f : ℕ × String → Service α}
    (hf : ∀ result r lock, P.Ensures (Publishing P r commands [] lock) (f result)
      fun _ => Publishing P r commands commands lock)
    (h : Preparing [commands] data.generatedAt t c) :
    P.wp (reserveSnapshotEpoch data >>= f) (fun _ => Snapped P) (fun _ _ _ => True) t c := by
  have hreserve := wp_reserveSnapshotEpoch hguard hmono h.unreserved h.kept h.clock
  rw [h.listed_eq] at hreserve
  have hquiet : (reserveSnapshotEpoch data).Every Chunkless := by
    refine .bind (every_getOrCreate (fun _ => trivial) trivial trivial trivial) fun _ => ?_
    refine .bind ⟨trivial, fun _ => trivial⟩ fun found => ?_
    cases found with
    | none => trivial
    | some state =>
      have hreturn : ∀ r, (returnReservation r).Every Chunkless := fun r =>
        .bind ⟨trivial, fun _ => trivial⟩ fun _ => trivial
      change (reserveOn data state).Every Chunkless
      unfold reserveOn
      split
      · exact hreturn _
      · exact .bind ⟨trivial, fun _ => trivial⟩ fun _ => hreturn _
  have hframe := wp_frame (P := P) (stable_const fun t => published t = [])
    (fun op hop t c _ _ hpre => (Chunkless.published_after hop).trans hpre) hquiet hreserve
    h.published_eq
  refine wp_bind (wp_mono hframe ?_ fun _ _ _ _ => trivial)
  rintro result t c ⟨⟨r, lock, -, hnode, hreserved, hat, htime⟩, hpublished⟩
  rw [← hnode] at hat htime
  refine wp_mono (hf result r lock t c ⟨hreserved, hat, hpublished⟩) ?_ fun _ _ _ _ => trivial
  intro _ t c hdone
  exact .inr ⟨r, lock, commands, hdone, htime.imp_left fun h => ⟨_, h⟩⟩

section Prefix

variable {lists : List (List Vpn.PlacementCommandPayload)} {now : Time}
  (hmono : ∀ c later, P.Guar c later → c.state.clock ≤ later.state.clock)

include hmono

theorem stable_preparing : P.Stable (Preparing lists now) := fun _ c later hrely h =>
  ⟨h.writes_eq, h.reserved, h.kept.later hrely.2.2, h.listed_eq, h.published_eq,
    h.clock.trans (hmono c later hrely.2.1)⟩

theorem triple_select {query : Database → α} :
    P.Ensures (Preparing lists now) (select query) fun _ => Preparing lists now := by
  have hstable : P.Stable (Preparing lists now) := stable_preparing hmono
  refine triple_perform hstable (fun _ => hstable) fun t c _ _ h => ?_
  exact ⟨by simp [h.writes_eq, Stmt.writes], h.reserved, h.kept.after _, h.listed_eq,
    h.published_eq, h.clock⟩

theorem triple_listCommandPayloads : P.Ensures (Preparing [] now) (listCommandPayloads node role)
      fun commands => Preparing [commands] now := by
  refine triple_bind (triple_select hmono) fun commands => ?_
  refine triple_bind (B := fun _ => Preparing [commands] now) ?_ fun _ =>
    triple_ret (stable_preparing hmono) fun _ _ h => h
  refine triple_perform (stable_preparing hmono) (fun _ => stable_preparing hmono)
    fun t c _ _ h => ?_
  have hlisted : listed (t.after c (.note (.listed commands))) = listed t ++ [commands] := by
    simp [listed, Stmt.answer]
  refine ⟨by simp [h.writes_eq, Stmt.writes], ?_, h.kept.after _, ?_, h.published_eq, h.clock⟩
  · intro r hr
    rcases mem_append.mp hr with hold | hnew
    · exact h.reserved r hold
    · simp at hnew
  · rw [hlisted, h.listed_eq]
    rfl

theorem triple_datetimeNow :
    P.Ensures (Preparing lists now) datetimeNow fun time => Preparing lists time := by
  refine triple_perform (stable_preparing hmono) (fun _ => stable_preparing hmono)
    fun t c _ _ h => ?_
  refine ⟨by simp [h.writes_eq, Stmt.writes], h.reserved, h.kept.after _, h.listed_eq,
    h.published_eq, ?_⟩
  have hview : t.view c.state = c.state := by simp [Tx.view, h.writes_eq]
  change (t.view c.state).clock ≤ c.state.clock
  rw [hview]

end Prefix

theorem between_publishUpstreams :
    (publishUpstreams cfg node role now).Every fun op => Plain op ∧ Chunkless op := by
  unfold publishUpstreams
  split
  · refine .bind ⟨⟨trivial, trivial⟩, fun _ => trivial⟩ fun _ => .forM fun _ _ =>
      .bind ⟨⟨trivial, rfl⟩, fun _ => trivial⟩ fun outcome => ?_
    cases outcome <;> trivial
  · trivial

section Calls

variable (cfg : RuntimeConfig) {now : Time}
  (hguard : ∀ node t c, P.guard (.lockState node) t c → Fresh node t c)
  (hmono : ∀ c later, P.Guar c later → c.state.clock ≤ later.state.clock)

include hguard hmono

theorem triple_triggerSnapshotForNode :
    P.Ensures (Preparing [] now) (triggerSnapshotForNode cfg node reason) fun _ => Snapped P := by
  refine triple_bind (triple_select hmono) fun role =>
    triple_bind (triple_listCommandPayloads hmono) fun commands =>
      triple_bind (triple_datetimeNow hmono) fun now => ?_
  intro t c hprepared
  refine wp_snapshot (hguard node) hmono (fun result r lock => ?_) hprepared
  exact triple_bind triple_publishCommands fun _ => triple_between between_publishUpstreams

theorem triple_answerSnapshotRequest :
    P.Ensures (Preparing [] now) (answerSnapshotRequest cfg subject event node role)
      fun _ => Snapped P := by
  refine triple_bind (triple_listCommandPayloads hmono) fun commands =>
    triple_bind (triple_datetimeNow hmono) fun generatedAt => ?_
  intro t c hprepared
  refine wp_snapshot (hguard node) hmono (fun result r lock => ?_) hprepared
  refine triple_bind (triple_between between_select) fun emittedAt =>
    triple_bind triple_publishCommands fun _ =>
      triple_bind (triple_between between_select) fun now => triple_between ?_
  exact .bind between_publishUpstreams fun _ =>
    .bind (every_insertIfFree ⟨trivial, trivial⟩ ⟨rfl, trivial⟩) fun _ => trivial

theorem triple_handleSnapshotRequestMessage :
    P.Ensures (Preparing [] now) (handleSnapshotRequestMessage cfg subject event)
      fun _ => Snapped P := by
  have hidle : P.Ensures (Preparing [] now) (pure true : Service Bool) fun _ => Snapped P :=
    triple_ret (stable_preparing hmono) fun _ _ h => .inl h.unreserved
  unfold handleSnapshotRequestMessage
  split
  · exact hidle
  · rename_i node hnode
    refine triple_bind (triple_select hmono) fun found => ?_
    cases found with
    | none => exact hidle
    | some row => exact triple_answerSnapshotRequest cfg hguard hmono

/-- Either way of making a snapshot. -/
theorem triple_snapshotCall (call : SnapshotCall) :
    P.Ensures (Preparing [] now) (call.program cfg) fun _ => Snapped P := by
  cases call with
  | trigger node reason => exact triple_triggerSnapshotForNode cfg hguard hmono
  | request subject event =>
    exact triple_bind (triple_handleSnapshotRequestMessage cfg hguard hmono)
      fun _ => triple_ret stable_snapped fun _ _ h => h

end Calls

end Snapshot

end VpnControl.Agent

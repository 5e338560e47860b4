/-
# What is in a snapshot

A snapshot is published with an epoch, and the row of the node records with the epoch when the
snapshot was generated. It should be a picture of the placements at that time or later, and a
snapshot with a larger epoch should not be older than one with a smaller epoch.

The commands are listed before the time is taken and before the row is locked. So this holds
only when the list is still the current one under the lock.
-/

import VpnControl.Agent.Epochs

namespace VpnControl.Agent

open Txn List Table Function
open Billing (Uuid Time)
open Vpn (NodeRole UserPlacement PlacementCommandPayload)
open Database

/-! ## Versions only grow -/

variable {command : PlacementCommandPayload}

namespace Database

/-- The commands of a node. A node that is not known counts as a backend. -/
def commands (db : Database) (node : Uuid) : List PlacementCommandPayload :=
  db.commandsAs node ((db.vpn.nodes.find? node).elim NodeRole.backend (·.role))

variable {db : Database} {id : Uuid}

/-- A command is about a placement as it stands. -/
theorem exists_placement_of_mem_commands (h : command ∈ db.commands node) :
    ∃ placement, db.vpn.placements.find? command.placementId = some placement ∧
      placement.opVersion = command.opVersion := by
  unfold commands commandsAs at h
  split at h
  · obtain ⟨placement, hmem, -, -, key, -, -, rfl⟩ :=
      Vpn.Database.mem_listCommandPayloadsForBackend.mp h
    exact ⟨placement, find?_of_mem hmem, rfl⟩
  · obtain ⟨placement, hmem, -, -, key, -, -, rfl⟩ := Vpn.Database.mem_listCommandPayloadsForEntry.mp h
    exact ⟨placement, find?_of_mem hmem, rfl⟩

def Reached (db : Database) (id : Uuid) (version : ℕ) : Prop :=
  ∃ placement, db.vpn.placements.find? id = some placement ∧ version ≤ placement.opVersion

theorem Reached.apply (h : db.Reached id version) (w : Write) :
    (db.apply w).Reached id version := by
  obtain ⟨placement, hfind, hversion⟩ := h
  cases w with
  | insertPlacement => exact ⟨placement, find?_insert_of_some hfind, hversion⟩
  | updatePlacements ids change =>
    have hafter := find?_modifyWhere change.set change.set_id db.vpn.placements (·.id ∈ ids) id
    rw [hfind] at hafter
    refine ⟨_, hafter, ?_⟩
    dsimp only
    split
    · exact hversion.trans (change.opVersion_le_set placement)
    · exact hversion
  | _ => exact ⟨placement, hfind, hversion⟩

theorem Reached.foldl (h : db.Reached id version) (ws : List Write) :
    (ws.foldl Database.apply db).Reached id version :=
  foldlRecOn (motive := (Reached · id version)) ws _ h fun _ h w _ => h.apply w

theorem Reached.le_of_mem_commands
    (h : db.Reached command.placementId version) (hmem : command ∈ db.commands node) :
    version ≤ command.opVersion := by
  obtain ⟨placement, hfind, hversion⟩ := h
  obtain ⟨current, hcurrent, heq⟩ := exists_placement_of_mem_commands hmem
  rw [hfind] at hcurrent
  cases hcurrent
  exact heq ▸ hversion

end Database

/-! ## Snapshots that are current -/

/-- Whenever the row of a node is locked for a reservation, the instance that was loaded agrees
with it, and the commands that were listed are the current ones. -/
def LocksCurrent : Stmt → Tx engine → Committed engine → Prop
  | .lockState node, t, c =>
    Fresh node t c ∧ ∀ commands ∈ listed t, commands = c.state.commands node
  | _, _, _ => True

/-- The transaction has committed a snapshot with this reservation and these commands. -/
def SnapshotBy {ι : Type} (party : ι → Party) (done : ι → Option (Tx engine)) (i : ι)
    (r : SnapshotReservation) (items : List PlacementCommandPayload) : Prop :=
  (party i).isLeft = true ∧ ∃ t ∈ done i, Note.reserved r ∈ t.session.notes ∧ published t = items

/-- A snapshot is a picture of a committed state from which every change that was committed
before the recorded time can be seen. -/
def ContainsEarlier {ι : Type} (party : ι → Party) (mid later : System engine TransportError ι) :
    Prop :=
  ∀ i r items g, SnapshotBy party later.committed? i r items → r.generatedAt = some g →
    mid.db.state.clock < g → ∃ (c : Committed engine) (ws ws' : List Write),
      c = mid.db.extend ws ∧ later.db = c.extend ws' ∧ items = c.state.commands r.nodeId

/-- A snapshot with a larger epoch has no older version of a placement. -/
def VersionsGrow {ι : Type} (party : ι → Party) (done : ι → Option (Tx engine)) : Prop :=
  ∀ i j r r' items items', SnapshotBy party done i r items → SnapshotBy party done j r' items' →
    r.nodeId = r'.nodeId → r.epoch < r'.epoch → ∀ x ∈ items, ∀ y ∈ items',
      x.placementId = y.placementId → x.opVersion ≤ y.opVersion

/-- The times of generation in the rows have passed. -/
def GeneratedBefore (db : Database) : Prop :=
  ∀ node g, (db.snapshotColumns node).generatedAt = some g → g ≤ db.clock

/-- The committed states of a run from `db`. -/
structure Follows (db : Database) (c : Committed engine) : Prop where
  extends_start : ∃ ws, c = Committed.extend ⟨db, []⟩ ws
  generated : GeneratedBefore c.state

instance (op : Stmt) (t : Tx engine) (c : Committed engine) : Decidable (LocksCurrent op t c) :=
  match op with
  | .lockState node => inferInstanceAs (Decidable ((∀ state ∈ t.session.instances node, _) ∧ _))
  | .query .. | .write _ | .loadState _ | .lookFree _ | .skipLocked | .claim .. |
    .lockPlacements _ | .publish _ | .note _ => inferInstanceAs (Decidable True)

/-- The protocol of a run from `db`. -/
def currentProtocol (db : Database) : Protocol engine := Protocol.along (Follows db) LocksCurrent

/-- What a transaction has published under the reservation `r`: the commands of the committed
state `lock` on which it has locked the row. -/
structure Pictures (db : Database) (r : SnapshotReservation) (lock : Committed engine)
    (t : Tx engine) (c : Committed engine) : Prop where
  follows : Follows db lock
  before : ∃ ws, c = lock.extend ws
  published_eq : published t = lock.state.commands r.nodeId
  generated : ∀ g, r.generatedAt = some g → g ≤ lock.state.clock

section Pictures

variable {db : Database} {r : SnapshotReservation} {lock : Committed engine} {t : Tx engine}
  {c : Committed engine}

theorem Pictures.extend (h : Pictures db r lock t c) (ws : List Write) :
    Pictures db r lock t (c.extend ws) := by
  obtain ⟨before, rfl⟩ := h.before
  exact ⟨h.follows, ⟨before ++ ws, by simp [Committed.extend]⟩, h.published_eq, h.generated⟩

/-- What has been published has been reached. -/
theorem Pictures.reached (h : Pictures db r lock t c)
    (hitem : item ∈ published t) : c.state.Reached item.placementId item.opVersion := by
  obtain ⟨ws, rfl⟩ := h.before
  rw [h.published_eq] at hitem
  obtain ⟨placement, hfind, hversion⟩ := exists_placement_of_mem_commands hitem
  exact Reached.foldl ⟨placement, hfind, hversion.ge⟩ ws

/-- A transaction that makes a snapshot is about to commit. -/
theorem Snapped.pictures (h : Snapped (currentProtocol db) t c) :
    Unreserved t ∨ ∃ r lock, Reserved r t c ∧ Pictures db r lock t c ∧
      ∃ granted, (RowKey.state r.nodeId, granted) ∈ t.held ∧
        ∃ ws : List Write, lock.state = ws.foldl Database.apply granted := by
  refine h.imp_right ?_
  rintro ⟨r, lock, commands, ⟨hreserved, hat, hpublished⟩, htime⟩
  obtain ⟨before, hlisted, hguard⟩ := hat.guard
  have hcurrent : commands = lock.state.commands r.nodeId :=
    hguard.2 commands (by rw [hlisted]; exact mem_singleton_self commands)
  refine ⟨r, lock, hreserved, ⟨hat.inv, hat.guar, hpublished.trans hcurrent, ?_⟩, hat.held⟩
  intro g hg
  rcases htime with ⟨time, htime, hle⟩ | hrow
  · rw [htime] at hg
    exact Option.some.inj hg ▸ hle
  · exact hat.inv.generated r.nodeId g (hrow ▸ hg)

end Pictures

/-- What is true of the snapshots that have committed. -/
structure SnapshotsPictured {ι : Type} (db : Database) (party : ι → Party)
    (done : ι → Option (Tx engine)) (c : Committed engine) : Prop where
  pictured : ∀ i t r, (party i).isLeft = true → done i = some t →
    Note.reserved r ∈ t.session.notes →
      RowKey.state r.nodeId ∈ t.keys ∧ r.epoch ≤ (c.state.snapshotColumns r.nodeId).epoch ∧
        ∃ lock, Pictures db r lock t c
  grow : VersionsGrow party done

section Commit

variable {ι : Type} [DecidableEq ι] {party : ι → Party} {done : ι → Option (Tx engine)}
  {db : Database} {j : ι} {t : Tx engine} {c : Committed engine}

theorem Follows.commit (h : Follows db c) {party : Party}
    (hends : party.Ends (currentProtocol db) t c) : Follows db (c.extend t.writes) := by
  obtain ⟨ws, hws⟩ := h.extends_start
  refine ⟨⟨ws ++ t.writes, by simp [hws, Committed.extend]⟩, fun node g hg => ?_⟩
  have hclock : c.state.clock ≤ (c.extend t.writes).state.clock := clock_le_foldl t.writes c.state
  have hold : (c.extend t.writes).state.snapshotColumns node = c.state.snapshotColumns node →
      g ≤ (c.extend t.writes).state.clock := by
    intro hsame
    rw [hsame] at hg
    exact (h.generated node g hg).trans hclock
  obtain ⟨hends, -⟩ := hends
  cases party with
  | inr =>
    refine hold (snapshotColumns_foldl fun w hw => ?_)
    have hw := hends w hw
    simp [hw]
  | inl =>
    rcases Snapped.pictures hends with hidle | ⟨r, lock, hreserved, hpictures, -⟩
    · exact hold (hidle.snapshotColumns_view node)
    · by_cases hnode : node = r.nodeId
      · subst hnode
        have hcolumns : (c.extend t.writes).state.snapshotColumns r.nodeId = r.columns :=
          hreserved.columns
        rw [hcolumns] at hg
        obtain ⟨ws, rfl⟩ := hpictures.before
        exact ((hpictures.generated g hg).trans (clock_le_foldl ws _)).trans hclock
      · exact hold (hreserved.snapshotColumns_of_ne hnode)

theorem SnapshotBy.of_update (hne : i ≠ j)
    (h : SnapshotBy party (update done j (some t)) i r items) :
    SnapshotBy party done i r items := by
  unfold SnapshotBy at h
  rwa [update_of_ne hne] at h

theorem SnapshotsPictured.commit_quiet (h : SnapshotsPictured db party done c)
    (hcolumns : ∀ node, (t.view c.state).snapshotColumns node = c.state.snapshotColumns node)
    (hnone : (party j).isLeft = true → ∀ r, Note.reserved r ∉ t.session.notes) :
    SnapshotsPictured db party (update done j (some t)) (c.extend t.writes) := by
  have hne : ∀ {i u r}, (party i).isLeft = true → update done j (some t) i = some u →
      Note.reserved r ∈ u.session.notes → i ≠ j := by
    rintro i u r hleft hu hnote rfl
    obtain rfl : t = u := by simpa using hu
    exact hnone hleft r hnote
  refine ⟨fun i u r hleft hu hnote => ?_, ?_⟩
  · rw [update_of_ne (hne hleft hu hnote)] at hu
    obtain ⟨hlocked, hepoch, lock, hpictures⟩ := h.pictured i u r hleft hu hnote
    exact ⟨hlocked, hepoch.trans_eq (by rw [← hcolumns]; rfl), lock, hpictures.extend t.writes⟩
  · intro i k r r' items items' hi hk
    have hi' := hi.of_update (hne hi.1 hi.2.choose_spec.1 hi.2.choose_spec.2.1)
    have hk' := hk.of_update (hne hk.1 hk.2.choose_spec.1 hk.2.choose_spec.2.1)
    exact h.grow i k r r' items items' hi' hk'

/-- A commit of a snapshot. All snapshots of the node that have committed before had committed
when the row was locked. -/
theorem SnapshotsPictured.commit_snapshot (h : SnapshotsPictured db party done c)
    (hr : Reserved r t c)
    (hpictures : Pictures db r lock t c)
    (hbefore : ∀ i u r', (party i).isLeft = true → done i = some u →
      Note.reserved r' ∈ u.session.notes → r'.nodeId = r.nodeId → ∀ item ∈ published u,
        lock.state.Reached item.placementId item.opVersion) :
    SnapshotsPictured db party (update done j (some t)) (c.extend t.writes) := by
  have hcolumns : (c.extend t.writes).state.snapshotColumns r.nodeId = r.columns := hr.columns
  refine ⟨fun i u r' hleft hu hnote => ?_, ?_⟩
  · by_cases hij : i = j
    · subst hij
      obtain rfl : t = u := by simpa using hu
      obtain rfl := hr.only r' hnote
      exact ⟨hr.locked, by rw [hcolumns]; exact le_refl _, lock, hpictures.extend t.writes⟩
    · rw [update_of_ne hij] at hu
      obtain ⟨hlocked, hepoch, lock', hpictures'⟩ := h.pictured i u r' hleft hu hnote
      refine ⟨hlocked, ?_, lock', hpictures'.extend t.writes⟩
      by_cases hnode : r'.nodeId = r.nodeId
      · rw [hnode] at hepoch ⊢
        rw [hcolumns]
        exact hepoch.trans hr.epoch_le
      · have hsame : (c.extend t.writes).state.snapshotColumns r'.nodeId =
            c.state.snapshotColumns r'.nodeId := hr.snapshotColumns_of_ne hnode
        rw [hsame]
        exact hepoch
  · intro i k first second items items' hi hk hnode hepoch x hx y hy hid
    by_cases hij : i = j
    · -- no snapshot from before has a larger epoch
      subst hij
      obtain ⟨-, u, hu, hnote, rfl⟩ := hi
      obtain rfl : t = u := by simpa using hu
      obtain rfl := hr.only first hnote
      by_cases hki : k = i
      · subst hki
        obtain ⟨-, u', hu', hnote', -⟩ := hk
        obtain rfl : t = u' := by simpa using hu'
        rw [hr.only second hnote'] at hepoch
        exact absurd hepoch (Nat.lt_irrefl _)
      · obtain ⟨hleft, u', hu', hnote', -⟩ := hk.of_update hki
        have hle := (h.pictured k u' second hleft hu' hnote').2.1
        rw [← hnode] at hle
        exact absurd hepoch (Nat.not_lt.mpr (hle.trans hr.epoch_le))
    · have hi' := hi.of_update hij
      by_cases hkj : k = j
      · subst hkj
        obtain ⟨-, u, hu, hnote, rfl⟩ := hk
        obtain rfl : t = u := by simpa using hu
        obtain rfl := hr.only second hnote
        obtain ⟨hleft, u', hu', hnote', rfl⟩ := hi'
        rw [hpictures.published_eq] at hy
        have hreached := hbefore i u' first hleft hu' hnote' hnode x hx
        rw [hid] at hreached
        exact hreached.le_of_mem_commands hy
      · exact h.grow i k first second items items' hi' (hk.of_update hkj) hnode hepoch x hx y hy hid

/-- Any commit. What is known of the locks of the transaction is that those who held them before
had published nothing newer than what was committed when they were granted. -/
theorem SnapshotsPictured.commit (h : SnapshotsPictured db party done c)
    (hends : (party j).Ends (currentProtocol db) t c)
    (hgranted : ∀ i u, done i = some u → ∀ key granted, (key, granted) ∈ t.held → key ∈ u.keys →
      (party i).isLeft = true → (∃ r, Note.reserved r ∈ u.session.notes) → ∀ item ∈ published u,
        Database.Reached granted item.placementId item.opVersion) :
    SnapshotsPictured db party (update done j (some t)) (c.extend t.writes) := by
  obtain ⟨hends, -⟩ := hends
  cases hj : party j with
  | inr =>
    rw [hj] at hends
    refine h.commit_quiet (fun node => ?_) fun hleft => ?_
    · refine snapshotColumns_foldl fun w hw => ?_
      have hw := hends w hw
      simp [hw]
    · rw [hj] at hleft
      cases hleft
  | inl =>
    rw [hj] at hends
    rcases Snapped.pictures hends with hidle | ⟨r, lock, hr, hpictures, granted, hheld, ws, hlock⟩
    · exact h.commit_quiet (hidle.snapshotColumns_view) fun _ => hidle.2
    · refine h.commit_snapshot hr hpictures fun i u r' hleft hu hnote hnode item hitem => ?_
      have hkey : RowKey.state r.nodeId ∈ u.keys := hnode ▸ (h.pictured i u r' hleft hu hnote).1
      rw [hlock]
      exact (hgranted i u hu _ granted hheld hkey hleft ⟨r', hnote⟩ item hitem).foldl ws

end Commit

/-- Of two committed states of one run one comes after the other. -/
theorem Follows.comparable (hfirst : Follows db first) (hsecond : Follows db second)
    (h : first.extend ws = second.extend ws') :
    (∃ more, first = second.extend more) ∨ ∃ more, second = first.extend more := by
  obtain ⟨before, rfl⟩ := hfirst.extends_start
  obtain ⟨before', rfl⟩ := hsecond.extends_start
  have hlog : before ++ ws = before' ++ ws' := by
    simpa [Committed.extend] using congrArg Committed.log h
  rcases append_eq_append_iff.mp hlog with ⟨more, rfl, -⟩ | ⟨more, rfl, -⟩
  · exact .inr ⟨more, by simp [Committed.extend]⟩
  · exact .inl ⟨more, by simp [Committed.extend]⟩

/-- `UserPlacementRepository.set_desired_state_for_key` in a transaction of its own. -/
def setDesiredStateForKey (key : Uuid) (desired : Vpn.PlacementDesiredState) (reason : String) :
    Service Unit := do
  let now ← datetimeNow
  let backends ← select fun db => (db.vpn.nodes.rows.filter (·.role = .backend)).map (·.id)
  let ids ← perform (.lockPlacements fun placement =>
    placement.keyId = key ∧ placement.isActive ∧ placement.backendNodeId ∈ backends ∧
      (placement.desiredState ≠ desired ∨ placement.appliedState ≠ .pending))
  execute (.updatePlacements ids (.redirect desired reason now))

/-- A transaction that takes a key out of service or puts it into service. -/
def Bystander.changing (key : Uuid) (desired : Vpn.PlacementDesiredState) (reason : String) :
    Bystander where
  program := setDesiredStateForKey key desired reason
  reservesNothing := by
    have hread : ∀ op : Stmt, op.writes = [] → ReservesNothing op := fun op hop w hw =>
      absurd (hop ▸ hw) List.not_mem_nil
    refine .bind ⟨hread _ rfl, fun _ => trivial⟩ fun _ =>
      .bind ⟨hread _ rfl, fun _ => trivial⟩ fun _ =>
        .bind ⟨hread _ rfl, fun _ => trivial⟩ fun _ => ⟨?_, fun _ => trivial⟩
    intro w hw
    rw [List.mem_singleton.mp hw]
    rfl

/-- Time goes on. -/
def Bystander.waiting (duration : ℕ) : Bystander where
  program := execute (.advance duration)
  reservesNothing := by
    refine ⟨fun w hw => ?_, fun _ => trivial⟩
    rw [List.mem_singleton.mp hw]
    rfl

section Change

private def changeConfig : RuntimeConfig where
  subjects := ⟨"cmd", "res", "snap"⟩
  outboxBatchSize := 10
  isoformat := toString
  parseUuid _ := none

/-- The key 30 is in service on the backend 7. -/
private def changeDatabase : Database where
  clock := 0
  vpn :=
    { Vpn.Database.empty with
      nodes := Table.empty.insert { id := 7 }
      keys := Table.empty.insert
        { id := 30, transport := .ws, clientId := "c", validUntil := 1000, isRevoked := false,
          subscriptionId := none }
      placements := Table.empty.insert
        { Vpn.UserPlacement.pending 40 30 7 .active none 0 with appliedState := .applied } }
  states := Table.empty.insert { nodeId := 7 }
  outbox := Table.empty
  eventLog := Table.empty

private theorem generatedBefore_changeDatabase : GeneratedBefore changeDatabase := by
  intro node g hg
  by_cases hnode : node = 7
  · subst hnode
    cases hg
  · have hnone : changeDatabase.states.find? node = none := (find?_insert_of_ne hnode).trans rfl
    simp [Database.snapshotColumns, hnone] at hg

private def changeParty : Fin 3 → Party
  | 0 => .inl (.trigger 7 "admin_requested")
  | 1 => .inr (.changing 30 .inactive "expired")
  | 2 => .inr (.waiting 10)

private def changeStart : System engine TransportError (Fin 3) :=
  parties changeConfig changeParty changeDatabase (fun _ _ => .acknowledged) fun _ => []

private def changeReservation : SnapshotReservation where
  nodeId := 7
  requestEventId := "admin-snapshot:7:10"
  epoch := 1
  snapshotId := "snap-7-admin-10"
  generatedAt := some 10

private def changePublished (i : Fin 3) (s : System engine TransportError (Fin 3)) (version : ℕ) :
    Bool :=
  (s.committed? i).any fun t => decide (.reserved changeReservation ∈ t.session.notes) &&
    decide ((published t).map (fun item => (item.placementId, item.opVersion)) = [(40, version)])

private theorem snapshotBy_of_changePublished (h : changePublished 0 s version = true) :
    ∃ items, SnapshotBy changeParty s.committed? 0 changeReservation items ∧
      ∃ item ∈ items, item.placementId = 40 ∧ item.opVersion = version := by
  obtain ⟨t, ht, hboth⟩ := (Option.any_eq_true _ _).mp h
  obtain ⟨hnote, hitems⟩ := Bool.and_eq_true_iff.mp hboth
  refine ⟨published t, ⟨rfl, t, ht, of_decide_eq_true hnote, rfl⟩, ?_⟩
  have hmem : (40, version) ∈ (published t).map fun item => (item.placementId, item.opVersion) := by
    rw [of_decide_eq_true hitems]
    exact mem_singleton_self _
  obtain ⟨item, hitem, heq⟩ := mem_map.mp hmem
  exact ⟨item, hitem, (Prod.mk.inj heq).1, (Prod.mk.inj heq).2⟩

end Change

end VpnControl.Agent

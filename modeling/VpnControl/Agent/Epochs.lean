/-
# The epochs of snapshots

Transactions that make snapshots, among others that do anything but reserve epochs. Two of them
that make snapshots of one node hold the lock on its row one after the other. If each of them
finds the row as it has loaded it, the second one counts on from the first.
-/

import VpnControl.Agent.Reservations

namespace VpnControl.Agent

open Txn Database Function
open Billing (Uuid Time)
open Protocol

/-! ## Systems with snapshots -/

/-- The statement reserves no epoch. -/
def ReservesNothing (op : Stmt) : Prop := ∀ w ∈ op.writes, w.reservesFor = none

/-- A program that reserves no epochs: everything in the control plane but the snapshots. -/
structure Bystander where
  program : Service Unit
  reservesNothing : program.Every ReservesNothing

/-- Who takes part: transactions that make snapshots, and others. -/
abbrev Party := SnapshotCall ⊕ Bystander

def Party.program (cfg : RuntimeConfig) : Party → Service Unit
  | .inl call => call.program cfg
  | .inr other => other.program

/-- The parties are about to start, each with a new session. -/
def parties {ι : Type} (cfg : RuntimeConfig) (party : ι → Party) (db : Database)
    (deliveries : ι → ℕ → Delivery) (skipped : ι → List String) : System engine TransportError ι :=
  System.start ⟨db, []⟩ (fun i => (party i).program cfg) fun i =>
    Session.new (deliveries i) (skipped i)

/-- Whenever the row of a node is locked for a reservation, the instance that was loaded agrees
with it. -/
def LocksFresh : Stmt → Tx engine → Committed engine → Prop
  | .lockState node, t, c => Fresh node t c
  | _, _, _ => True

instance (op : Stmt) (t : Tx engine) (c : Committed engine) : Decidable (LocksFresh op t c) :=
  match op with
  | .lockState node => inferInstanceAs (Decidable (∀ state ∈ t.session.instances node, _))
  | .query .. | .write _ | .loadState _ | .lookFree _ | .skipLocked | .claim .. |
    .lockPlacements _ | .publish _ | .note _ => inferInstanceAs (Decidable True)

/-! ## What the parties promise -/

/-- Time does not go back. -/
theorem Database.clock_le_foldl (ws : List Write) (db : Database) :
    db.clock ≤ (ws.foldl apply db).clock := by
  refine List.foldlRecOn (motive := fun later : Database => db.clock ≤ later.clock) ws _ le_rfl ?_
  intro later h w _
  cases w with
  | advance duration => exact h.trans (le_add_of_nonneg_right (Int.natCast_nonneg duration))
  | _ => exact h

section Parties

variable {S : Committed engine → Prop} {ok : Stmt → Tx engine → Committed engine → Prop}
  {cfg : RuntimeConfig}

/-- A party that is about to commit. -/
def Party.Ends (P : Protocol engine) (party : Party) : Assertion engine := fun t c =>
  (match party with
    | .inl _ => Snapped P t c
    | .inr _ => ∀ w ∈ t.writes, w.reservesFor = none) ∧ t.Kept c

/-- Every party keeps what it promises, among others that do. -/
theorem Party.wp_program (hok : ∀ node t c, ok (.lockState node) t c → Fresh node t c)
    (party : Party) (deliveries : ℕ → Delivery) (skipped : List String) (c : Committed engine) :
    (Protocol.along S ok).wp (party.program cfg)
      (fun _ => party.Ends (Protocol.along S ok)) (fun _ _ _ => True)
      (Tx.start (Session.new deliveries skipped)) c := by
  have hkept := Tx.kept_start (E := engine) (Session.new deliveries skipped) c
  cases party with
  | inl call =>
    have hmono : ∀ c later : Committed engine, (Protocol.along S ok).Guar c later →
        c.state.clock ≤ later.state.clock := by
      rintro c _ ⟨ws, rfl⟩
      exact clock_le_foldl ws c.state
    have hcall := triple_snapshotCall cfg hok hmono call
      (Tx.start (Session.new deliveries skipped)) c
      ⟨rfl, fun _ h => (by cases h), Tx.kept_start _ c, rfl, rfl, le_refl _⟩
    exact wp_mono (wp_kept hcall hkept) (fun _ _ _ h => h) fun _ _ _ _ => trivial
  | inr other =>
    let A : Assertion engine := fun t _ => ∀ w ∈ t.writes, Write.reservesFor w = none
    have hstable : (Protocol.along S ok).Stable A := fun _ _ _ _ h => h
    have hstep : ∀ op : Stmt, ReservesNothing op → ∀ (t : Tx engine) (c : Committed engine),
        S c → ok op t c → A t c → A (t.after c op) c :=
      fun op hop t c _ _ hpre => List.forall_mem_append.mpr ⟨hpre, hop⟩
    have hstart : A (Tx.start (Session.new deliveries skipped)) c :=
      fun _ hw => absurd hw List.not_mem_nil
    have hother := keeps_of_every hstable hstep other.reservesNothing _ c hstart
    exact wp_mono (wp_kept hother hkept) (fun _ _ _ h => h) fun _ _ _ _ => trivial

theorem parties_meet {skipped : ι → List String} (hdb : S ⟨db, []⟩)
    (hok : ∀ node t c, ok (.lockState node) t c → Fresh node t c) :
    (Protocol.along S ok).Meets (fun i => (party i).Ends (Protocol.along S ok))
      (parties cfg party db deliveries skipped) :=
  meets_start hdb fun i => (party i).wp_program hok (deliveries i) (skipped i) _

end Parties

/-! ## Epochs -/

/-- The transaction has committed a snapshot with this reservation. -/
def ReservedBy {ι : Type} (party : ι → Party) (done : ι → Option (Tx engine)) (i : ι)
    (r : SnapshotReservation) : Prop :=
  (party i).isLeft = true ∧ ∃ t ∈ done i, Note.reserved r ∈ t.session.notes

/-- The snapshots of one node for different requests have different epochs, and one that commits
after another has the larger epoch. -/
def EpochsIncrease {ι : Type} (party : ι → Party) (mid later : ι → Option (Tx engine)) : Prop :=
  ∀ i j r r', ReservedBy party later i r → ReservedBy party later j r' → i ≠ j →
    r.nodeId = r'.nodeId → r.requestEventId ≠ r'.requestEventId →
      r.epoch ≠ r'.epoch ∧ (mid i ≠ none → mid j = none → r.epoch < r'.epoch)

/-- The row of the node has counted to the epoch of the reservation, and beyond unless it is
that of the same request. -/
def Counted (r : SnapshotReservation) (db : Database) : Prop :=
  r.epoch ≤ (db.snapshotColumns r.nodeId).epoch ∧ (r.epoch = (db.snapshotColumns r.nodeId).epoch →
      (db.snapshotColumns r.nodeId).requestEventId = some r.requestEventId)

theorem Counted.congr (h : Counted r first)
    (hsame : second.snapshotColumns r.nodeId = first.snapshotColumns r.nodeId) :
    Counted r second := by
  unfold Counted
  rw [hsame]
  exact h

section Reserved

variable {r other : SnapshotReservation} {t : Tx engine} {c : Committed engine}

theorem Reserved.counted (h : Reserved r t c) : Counted r (t.view c.state) := by
  unfold Counted
  rw [h.columns]
  exact ⟨le_refl _, fun _ => rfl⟩

theorem Reserved.epoch_le (h : Reserved r t c) :
    (c.state.snapshotColumns r.nodeId).epoch ≤ r.epoch := by
  rcases h.counts with hsame | hnext
  · rw [hsame]
    exact le_refl _
  · omega

theorem Reserved.epoch_lt (h : Reserved r t c) (hother : Counted other c.state)
    (hnode : other.nodeId = r.nodeId) (hrequest : other.requestEventId ≠ r.requestEventId) :
    other.epoch < r.epoch := by
  unfold Counted at hother
  rw [hnode] at hother
  obtain ⟨hle, heq⟩ := hother
  rcases h.counts with hsame | hnext
  · rw [hsame] at hle heq
    refine lt_of_le_of_ne hle fun hepoch => hrequest ?_
    exact (Option.some.inj (heq hepoch)).symm
  · omega

/-- What has been counted stays counted. -/
theorem Reserved.keeps_counted (h : Reserved r t c) (hother : Counted other c.state) :
    Counted other (t.view c.state) := by
  by_cases hnode : other.nodeId = r.nodeId
  · rcases h.counts with hsame | hnext
    · exact hother.congr (by rw [hnode, h.columns, hsame])
    · have hle := hother.1
      rw [hnode] at hle
      unfold Counted
      rw [hnode, h.columns]
      refine ⟨show other.epoch ≤ r.epoch by omega, fun heq => ?_⟩
      have hepoch : other.epoch = r.epoch := heq
      omega
  · exact hother.congr (h.snapshotColumns_of_ne hnode)

end Reserved

/-- What is true of the snapshots that have committed. -/
structure EpochsCounted {ι : Type} (party : ι → Party) (mid done : ι → Option (Tx engine))
    (db : Database) : Prop where
  counted : ∀ i r, ReservedBy party done i r → Counted r db
  extends_mid : ∀ i, mid i ≠ none → done i ≠ none
  increase : EpochsIncrease party mid done

section Commit

variable {ι : Type} [DecidableEq ι] {party : ι → Party} {mid done : ι → Option (Tx engine)}
  {P : Protocol engine} {j : ι} {t : Tx engine} {c : Committed engine}

theorem ReservedBy.of_update (hne : i ≠ j)
    (h : ReservedBy party (update done j (some t)) i r) : ReservedBy party done i r := by
  unfold ReservedBy at h
  rwa [update_of_ne hne] at h

section

variable (h : EpochsCounted party mid done c.state)

include h

theorem EpochsCounted.commit_quiet
    (hcolumns : ∀ node, (t.view c.state).snapshotColumns node = c.state.snapshotColumns node)
    (hnone : ∀ r, ¬ ReservedBy party (update done j (some t)) j r) :
    EpochsCounted party mid (update done j (some t)) (t.view c.state) := by
  have hold : ∀ {i r}, ReservedBy party (update done j (some t)) i r →
      ReservedBy party done i r := by
    intro i r hr
    refine hr.of_update ?_
    rintro rfl
    exact hnone r hr
  refine ⟨fun i r hr => (h.counted i r (hold hr)).congr (hcolumns _), fun i hi => ?_, ?_⟩
  · by_cases hij : i = j
    · simp [hij]
    · rw [update_of_ne hij]
      exact h.extends_mid i hi
  · exact fun i k r r' hr hr' => h.increase i k r r' (hold hr) (hold hr')

theorem EpochsCounted.commit_reserved (hopen : done j = none) (hr : Reserved r t c) :
    EpochsCounted party mid (update done j (some t)) (t.view c.state) := by
  have hnew : ∀ {r'}, ReservedBy party (update done j (some t)) j r' → r' = r := by
    rintro r' ⟨-, u, hu, hnote⟩
    obtain rfl : t = u := by simpa using hu
    exact hr.only r' hnote
  have hmid : mid j = none := by
    by_contra hj
    exact h.extends_mid j hj hopen
  refine ⟨fun i r' hr' => ?_, fun i hi => ?_, ?_⟩
  · by_cases hij : i = j
    · subst hij
      rw [hnew hr']
      exact hr.counted
    · exact hr.keeps_counted (h.counted i r' (hr'.of_update hij))
  · by_cases hij : i = j
    · simp [hij]
    · rw [update_of_ne hij]
      exact h.extends_mid i hi
  · intro i k first second hfirst hsecond hne hnode hrequest
    by_cases hi : i = j
    · -- the transaction that commits now is not one of those before
      subst hi
      obtain rfl := hnew hfirst
      have hk := hsecond.of_update (Ne.symm hne)
      have hlt := hr.epoch_lt (h.counted k second hk) hnode.symm (Ne.symm hrequest)
      exact ⟨Nat.ne_of_gt hlt, fun hcommitted => absurd hmid hcommitted⟩
    · have hold := hfirst.of_update hi
      by_cases hk : k = j
      · subst hk
        obtain rfl := hnew hsecond
        have hlt := hr.epoch_lt (h.counted i first hold) hnode hrequest
        exact ⟨Nat.ne_of_lt hlt, fun _ _ => hlt⟩
      · exact h.increase i k first second hold (hsecond.of_update hk) hne hnode hrequest

theorem EpochsCounted.commit (hopen : done j = none) (hends : (party j).Ends P t c) :
    EpochsCounted party mid (update done j (some t)) (t.view c.state) := by
  obtain ⟨hends, -⟩ := hends
  cases hj : party j with
  | inr =>
    rw [hj] at hends
    refine h.commit_quiet (fun node => ?_) fun r hr => ?_
    · exact snapshotColumns_foldl fun w hw => by
        have hw := hends w hw
        simp [hw]
    · have hleft := hr.1
      rw [hj] at hleft
      cases hleft
  | inl =>
    rw [hj] at hends
    rcases hends with hidle | ⟨r, lock, commands, hpublishing, -⟩
    · refine h.commit_quiet (hidle.snapshotColumns_view) ?_
      rintro r ⟨-, u, hu, hnote⟩
      obtain rfl : t = u := by simpa using hu
      exact hidle.2 r hnote
    · exact h.commit_reserved hopen hpublishing.reserved

end

end Commit

section Requests

private def demoConfig : RuntimeConfig where
  subjects := ⟨"cmd", "res", "snap"⟩
  outboxBatchSize := 10
  isoformat := toString
  parseUuid text := if text = "7" then some 7 else none

/-- The node 7 is known and has had five snapshots. -/
private def demoDatabase : Database where
  clock := 0
  vpn := { Vpn.Database.empty with nodes := Table.empty.insert { id := 7 } }
  states := Table.empty.insert
    { nodeId := 7, currentEpoch := 5, lastSnapshotId := some "snap-7-0",
      lastSnapshotRequestEventId := some "snapshot-request:7:startup:0:" }
  outbox := Table.empty
  eventLog := Table.empty

private def demoParty (i : Fin 2) : Party :=
  .inl (.request none { nodeId := "7", requestedAt := i + 1, reason := .xrayRestart })

private def demoStart : System engine TransportError (Fin 2) :=
  parties demoConfig demoParty demoDatabase (fun _ _ => .acknowledged) fun _ => []

/-- The reservation of the first or the second request. -/
private def demoReservation (i : Fin 2) (epoch : ℕ) : SnapshotReservation where
  nodeId := 7
  requestEventId := s!"snapshot-request:7:xray_restart:{i.val + 1}:"
  epoch := epoch
  snapshotId := s!"snap-7-{i.val + 1}"
  generatedAt := some 0

private def demoReserved (s : System engine TransportError (Fin 2)) (i : Fin 2) (epoch : ℕ) : Bool :=
  (s.committed? i).any fun t => decide (.reserved (demoReservation i epoch) ∈ t.session.notes)

private theorem reservedBy_of_demoReserved (h : demoReserved s i epoch = true) :
    ReservedBy demoParty s.committed? i (demoReservation i epoch) := by
  obtain ⟨t, ht, hnote⟩ := (Option.any_eq_true _ _).mp h
  exact ⟨rfl, t, ht, of_decide_eq_true hnote⟩

end Requests

end VpnControl.Agent

/-
# The publisher of the routing specs

A tick builds the spec of every node with an entry role and puts it into a key-value bucket, unless
the process has put one with the same signature before. What a process remembers is its own
business: ticks are serialised by a lock, but any process may get it. When a spec changes and
changes back between the ticks of one process while another one publishes the change, the first
process takes the entry for current and leaves it.
-/

import VpnControl.EntryRouting.Spec
import VpnControl.Txn.Guarded

namespace VpnControl.EntryRouting

open Txn
open Billing (Uuid Time)
open Fleet (VpnNode)

/-- `signature` sorts the lists and hashes the dump; the hash is left open. -/
def EntryRoutingSpec.signature (sha256 : EntryRoutingSpec → String) (spec : EntryRoutingSpec) :
    String :=
  sha256 { spec with
    users := spec.users.insertionSort fun a b => a.uuid ≤ b.uuid
    backends := spec.backends.insertionSort fun a b => a.tag ≤ b.tag
    rules := spec.rules.insertionSort fun a b =>
      a.userUuid < b.userUuid ∨ a.userUuid = b.userUuid ∧ a.outboundTag ≤ b.outboundTag
    urltestGroups := spec.urltestGroups.insertionSort fun a b => a.tag ≤ b.tag }

/-- What all publishers share: configuration and code. -/
structure PublisherSetup where
  config : EntryRoutingConfig
  library : RoutingLibrary
  sha256 : EntryRoutingSpec → String

/-- The database, the bucket and the memories of the processes. -/
structure Publishing (P : Type) where
  tables : RoutingTables
  now : Time
  /-- The entries of the bucket under the keys `node.{id}`. -/
  kv : Uuid → Option EntryRoutingSpec
  /-- `_last_signatures`. -/
  lastSignatures : P → Uuid → Option String
  /-- The process that has put an entry last. -/
  putBy : Uuid → Option P

/-- How a tick meets the outside: for which nodes the route query fails, and at which nodes
something raises, in the reading of the node's rows or in `kv_put`. -/
structure Mishaps where
  routeFilterFails : Uuid → Bool := fun _ => false
  raises : Uuid → Bool := fun _ => false

inductive PublishingEvent (P : Type)
  /-- The database changes and time passes. -/
  | change (tables : RoutingTables) (now : Time)
  | tick (process : P) (mishaps : Mishaps)
  /-- A process begins anew and remembers nothing. -/
  | restart (process : P)

namespace Publishing

variable {P : Type} [DecidableEq P] (setup : PublisherSetup)

variable (w : Publishing P)

/-- The spec that a tick builds for a node. -/
def specFor (mishaps : Mishaps) (node : Uuid) : Option EntryRoutingSpec :=
  buildSpecForNode setup.config setup.library w.tables w.now node (mishaps.routeFilterFails node)

/-- `kv_put` and the note of the signature. -/
def put (process : P) (node : Uuid) (spec : EntryRoutingSpec) : Publishing P :=
  { w with
    kv := Function.update w.kv node (some spec)
    lastSignatures := Function.update w.lastSignatures process
      (Function.update (w.lastSignatures process) node (some (spec.signature setup.sha256)))
    putBy := Function.update w.putBy node (some process) }

/-- The loop of a tick, and whether it gets to its end. -/
def publish (process : P) (mishaps : Mishaps) : List VpnNode → Publishing P → Publishing P × Bool
  | [], w => (w, true)
  | node :: rest, w =>
    if mishaps.raises node.id then (w, false)
    else
      match w.specFor setup mishaps node.id with
      | none => publish process mishaps rest w
      | some spec =>
        if w.lastSignatures process node.id = some (spec.signature setup.sha256) then
          publish process mishaps rest w
        else publish process mishaps rest (w.put setup process node.id spec)

/-- `tick`. -/
def tick (process : P) (mishaps : Mishaps) : Publishing P × Bool :=
  publish setup process mishaps w.tables.listTargetNodes w

def step : PublishingEvent P → Option (Publishing P)
  | .change tables now => some { w with tables, now }
  | .tick process mishaps => some (w.tick setup process mishaps).1
  | .restart process =>
    some { w with lastSignatures := Function.update w.lastSignatures process fun _ => none }

/-! ## The entries are current -/

/-- The entries of these nodes have the signatures of their specs. -/
def Current (mishaps : Mishaps) (nodes : List VpnNode) : Prop :=
  ∀ node ∈ nodes, ∀ spec, w.specFor setup mishaps node.id = some spec →
    ∃ stored, w.kv node.id = some stored ∧
      stored.signature setup.sha256 = spec.signature setup.sha256

/-- Where the process remembers the signature of the spec it is going to build, no other process
has put the entry since. -/
def Unshared (process : P) (mishaps : Mishaps) (nodes : List VpnNode) : Prop :=
  ∀ node ∈ nodes, ∀ spec, w.specFor setup mishaps node.id = some spec →
    w.lastSignatures process node.id = some (spec.signature setup.sha256) →
    w.putBy node.id = some process

/-- The ticks of a run are unshared. -/
def TicksUnshared : PublishingEvent P → Prop
  | .tick process mishaps => w.Unshared setup process mishaps w.tables.listTargetNodes
  | _ => True

/-- A process that has put an entry last and remembers its signature is right about it. -/
def Remembers : Prop :=
  ∀ node process signature, w.putBy node = some process →
    w.lastSignatures process node = some signature →
    ∃ stored, w.kv node = some stored ∧ stored.signature setup.sha256 = signature

variable {setup} {w : Publishing P} {process : P} {mishaps : Mishaps} {nodes : List VpnNode}

theorem Remembers.put (hw : w.Remembers setup) (node : Uuid) (spec : EntryRoutingSpec) :
    (w.put setup process node spec).Remembers setup := by
  intro other holder signature hput hlast
  by_cases hother : other = node
  · subst hother
    have hholder : process = holder := by simpa [Publishing.put] using hput
    subst hholder
    have hsignature : spec.signature setup.sha256 = signature := by
      simpa [Publishing.put] using hlast
    exact ⟨spec, by simp [Publishing.put], hsignature⟩
  · have hput : w.putBy other = some holder := by simpa [Publishing.put, hother] using hput
    have hlast : w.lastSignatures holder other = some signature := by
      by_cases hholder : holder = process
      · subst hholder
        simpa [Publishing.put, hother] using hlast
      · simpa [Publishing.put, hholder] using hlast
    obtain ⟨stored, hstored, hsame⟩ := hw other holder signature hput hlast
    exact ⟨stored, by simpa [Publishing.put, hother] using hstored, hsame⟩

/-- What a process puts itself is not shared. -/
theorem Unshared.put (hw : w.Unshared setup process mishaps nodes) (node : Uuid)
    (spec : EntryRoutingSpec) :
    (w.put setup process node spec).Unshared setup process mishaps nodes := by
  intro other hother built hbuilt hlast
  by_cases hnode : other.id = node
  · simp [Publishing.put, hnode]
  · have hput := hw other hother built hbuilt (by simpa [Publishing.put, hnode] using hlast)
    simpa [Publishing.put, hnode] using hput

theorem Current.put (hw : w.Current setup mishaps nodes)
    (hspec : w.specFor setup mishaps node = some spec) :
    (w.put setup process node spec).Current setup mishaps nodes := by
  intro other hother built hbuilt
  by_cases hnode : other.id = node
  · have hsame : built = spec := Option.mem_unique hbuilt (hnode ▸ hspec)
    exact ⟨spec, by simp [Publishing.put, hnode], by rw [hsame]⟩
  · obtain ⟨stored, hstored, hsame⟩ := hw other hother built hbuilt
    exact ⟨stored, by simpa [Publishing.put, hnode] using hstored, hsame⟩

/-- The loop keeps the memories right, and when it gets to its end, the entries of its nodes are
current beside those that have been so before. -/
theorem Remembers.publish (hw : w.Remembers setup)
    (hunshared : w.Unshared setup process mishaps nodes)
    (done : List VpnNode) (hdone : w.Current setup mishaps done) :
    (Publishing.publish setup process mishaps nodes w).1.Remembers setup ∧
      ((Publishing.publish setup process mishaps nodes w).2 = true →
        (Publishing.publish setup process mishaps nodes w).1.Current setup mishaps
          (done ++ nodes)) := by
  induction nodes generalizing w done with
  | nil => simpa [Publishing.publish] using ⟨hw, hdone⟩
  | cons node rest ih =>
    have hrest : w.Unshared setup process mishaps rest :=
      fun other hother => hunshared other (List.mem_cons_of_mem _ hother)
    -- once the entry of the node is current, the loop goes on with the rest
    have hgoOn : ∀ mid : Publishing P, mid.Remembers setup →
        mid.Unshared setup process mishaps rest → mid.Current setup mishaps (done ++ [node]) →
        (Publishing.publish setup process mishaps rest mid).1.Remembers setup ∧
          ((Publishing.publish setup process mishaps rest mid).2 = true →
            (Publishing.publish setup process mishaps rest mid).1.Current setup mishaps
              (done ++ node :: rest)) := by
      intro mid hmid hmidUnshared hmidCurrent
      have hnext := ih hmid hmidUnshared (done ++ [node]) hmidCurrent
      rwa [List.append_assoc, List.singleton_append] at hnext
    rw [Publishing.publish]
    split
    · exact ⟨hw, nofun⟩
    · split
      · rename_i hnone
        refine hgoOn w hw hrest fun other hother built hbuilt => ?_
        rcases List.mem_append.mp hother with hold | hnew
        · exact hdone other hold built hbuilt
        · rw [List.mem_singleton] at hnew
          rw [hnew, hnone] at hbuilt
          cases hbuilt
      · rename_i spec hspec
        split
        · rename_i hlast
          refine hgoOn w hw hrest fun other hother built hbuilt => ?_
          rcases List.mem_append.mp hother with hold | hnew
          · exact hdone other hold built hbuilt
          · rw [List.mem_singleton] at hnew
            subst hnew
            cases hspec.symm.trans hbuilt
            exact hw other.id process _ (hunshared other List.mem_cons_self spec hspec hlast) hlast
        · refine hgoOn _ (hw.put node.id spec) (hrest.put node.id spec) ?_
          intro other hother built hbuilt
          rcases List.mem_append.mp hother with hold | hnew
          · exact (hdone.put hspec) other hold built hbuilt
          · rw [List.mem_singleton] at hnew
            subst hnew
            have hsame : built = spec := Option.mem_unique hbuilt hspec
            exact ⟨spec, by simp [Publishing.put], by rw [hsame]⟩

/-- A tick reads the database. -/
theorem specFor_publish {node : Uuid} :
    (Publishing.publish setup process mishaps nodes w).1.specFor setup other node =
      w.specFor setup other node := by
  induction nodes generalizing w with
  | nil => rfl
  | cons _ _ ih =>
    rw [Publishing.publish]
    split
    · rfl
    · split
      · exact ih
      · split
        · exact ih
        · rw [ih]
          rfl

theorem Remembers.step (hw : w.Remembers setup) (hok : w.TicksUnshared setup event)
    (h : w.step setup event = some after) : after.Remembers setup := by
  cases event with
  | change =>
    cases h
    exact hw
  | tick =>
    cases h
    exact (hw.publish hok [] (by simp [Current])).1
  | restart process =>
    cases h
    intro node holder signature hput hlast
    by_cases hholder : holder = process
    · subst hholder
      simp at hlast
    · exact hw node holder signature hput (by simpa [hholder] using hlast)

/-- As long as no process skips an entry that another one has put since, every tick that gets to
its end leaves the entries of its nodes with the signatures it has built. -/
theorem current_of_ticksUnshared {start : Publishing P}
    (hstart : ∀ process node, start.lastSignatures process node = none)
    (hrun : Guarded (step setup) (TicksUnshared setup) start w)
    (hok : w.TicksUnshared setup (.tick process mishaps))
    (hend : (w.tick setup process mishaps).2 = true) :
    ∀ node ∈ w.tables.listTargetNodes, ∀ spec, w.specFor setup mishaps node.id = some spec →
      ∃ stored, (w.tick setup process mishaps).1.kv node.id = some stored ∧
        stored.signature setup.sha256 = spec.signature setup.sha256 := by
  have hremembers : w.Remembers setup := by
    refine hrun.invariant ?_ fun s event t hs hok hstep => hs.step hok hstep
    intro node holder signature _ hlast
    rw [hstart] at hlast
    cases hlast
  have hcurrent := (hremembers.publish hok [] (by simp [Current])).2 hend
  intro node hnode spec hspec
  exact hcurrent node hnode spec (specFor_publish.trans hspec)

/-- One entry node, without backends. -/
def oneEntry (keys : Table Vpn.VpnKey) : RoutingTables where
  nodes := Table.empty.insert { id := 1, name := "entry", role := .entry }
  keys
  routes := .empty
  profiles := .empty

def oneKey : Table Vpn.VpnKey := Table.empty.insert {
  id := 10, transport := .reality, clientId := "client", validUntil := 100, isRevoked := false
  subscriptionId := none }

/-- The hash tells specs apart by their users. -/
def hashUsers : PublisherSetup where
  config := {}
  library := ⟨fun _ => 0, fun _ region => region⟩
  sha256 spec := String.join (spec.users.map (·.uuid))

/-- Nothing has been published and nobody remembers anything. -/
def unpublished : Publishing ℕ :=
  ⟨oneEntry .empty, 0, fun _ => none, fun _ _ => none, fun _ => none⟩

theorem current_of_ticksUnshared_oneEntry :
    ((unpublished.tick hashUsers 0 {}).1.tick hashUsers 0 {}).1.kv 1 ≠ none ∧
      ∀ node ∈ (oneEntry .empty).listTargetNodes, ∀ spec,
        (unpublished.tick hashUsers 0 {}).1.specFor hashUsers {} node.id = some spec →
        ∃ stored, ((unpublished.tick hashUsers 0 {}).1.tick hashUsers 0 {}).1.kv node.id =
            some stored ∧
          stored.signature hashUsers.sha256 = spec.signature hashUsers.sha256 := by
  -- the second tick skips the entry that the first one has put
  have hfirst : unpublished.TicksUnshared hashUsers (.tick 0 {}) :=
    fun _ _ _ _ hlast => by cases hlast
  have hrun : Guarded (step hashUsers) (TicksUnshared hashUsers) unpublished
      (unpublished.tick hashUsers 0 {}).1 := Guarded.start.next (.tick 0 {}) hfirst rfl
  have hsecond : (unpublished.tick hashUsers 0 {}).1.TicksUnshared hashUsers (.tick 0 {}) := by
    intro node hnode spec _ _
    have hid : node.id = 1 := by
      have hall : ∀ node ∈ (oneEntry .empty).listTargetNodes, node.id = 1 := by decide
      exact hall node hnode
    rw [hid]
    rfl
  exact ⟨nofun, current_of_ticksUnshared (fun _ _ => rfl) hrun hsecond rfl⟩

/-- The first process publishes a spec without users, the second one the spec with the user of a
new key, and then there is no key again. -/
def changedBack : List (PublishingEvent ℕ) :=
  [.tick 0 {}, .change (oneEntry oneKey) 0, .tick 1 {}, .change (oneEntry .empty) 0]

/-- The first process finds its own signature again and leaves the entry with the user. -/
theorem not_current_changedBack : ∃ w, Guarded (step hashUsers) (fun _ _ => True) unpublished w ∧
      (w.tick hashUsers 0 {}).2 = true ∧
      ∃ spec stored, w.specFor hashUsers {} 1 = some spec ∧
        (w.tick hashUsers 0 {}).1.kv 1 = some stored ∧
        stored.signature hashUsers.sha256 ≠ spec.signature hashUsers.sha256 := by
  refine ⟨_, .of_foldlM changedBack rfl, rfl, _, _, rfl, rfl, ?_⟩
  decide

end Publishing

end VpnControl.EntryRouting

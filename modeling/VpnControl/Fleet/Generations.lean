/-
# Generations of pools

A relay takes a pool for newer than the one it has if its generation is larger. The generation is
the time of the last change among the assignments that are still active, in whole seconds, while
the pool also changes when a backend is drained, when an assignment is removed, and twice within a
second. So generations follow the contents only along changes of assignments that each fall into a
later second than those before, without removals and without changes of the flags of a backend in
the pool.
-/

import VpnControl.Fleet.EntryDrain
import VpnControl.Txn.Guarded

namespace VpnControl.Fleet

open Txn List
open Billing (Uuid Time)
open Table

variable {a : EntryBackendAssignment}

/-! ## Tables -/

section Table

variable {R K : Type} [Row R K] [DecidableEq K] {p : R → Bool}

/-- A change of a row that is outside a selection before and after. -/
theorem filter_modify {table : Table R} (hf : ∀ row, Row.key (f row) = Row.key row)
    (h : ∀ row, Row.key row = k → p row = false ∧ p (f row) = false) :
    (table.modify k f hf).rows.filter p = table.rows.filter p := by
  unfold Table.modify
  dsimp only
  induction table.rows with
  | nil => rfl
  | cons row _ ih =>
    rw [map_cons, filter_cons, filter_cons, ih]
    by_cases hkey : Row.key row = k
    · simp [hkey, h row hkey]
    · simp [hkey]

end Table

/-! ## Generations and contents -/

theorem le_generation (h : a ∈ assignments) :
    a.updatedAt.tdiv 1000000 ≤ generation assignments := by
  unfold generation
  cases hmax : (assignments.map (·.updatedAt)).max? with
  | none =>
    rw [max?_eq_none_iff, map_eq_nil_iff] at hmax
    subst hmax
    cases h
  | some latest =>
    have hle : a.updatedAt ≤ latest := (max?_eq_some_iff.mp hmax).2 _ (mem_map_of_mem h)
    exact Int.tdiv_le_tdiv (by decide) hle

/-- The pool is newer, or it is the same. -/
def Newer (settings : EntrySettings) (entry : Uuid) (earlier later : Database) : Prop :=
  generation (earlier.listByEntry entry) < generation (later.listByEntry entry) ∨
    generation (later.listByEntry entry) = generation (earlier.listByEntry entry) ∧
      later.relayBackends settings entry = earlier.relayBackends settings entry

section Newer

variable {settings : EntrySettings} {entry : Uuid} {db mid after : Database}

theorem Newer.refl : Newer settings entry db db := .inr ⟨rfl, rfl⟩

theorem Newer.trans (hfirst : Newer settings entry db mid) (hsecond : Newer settings entry mid after) :
    Newer settings entry db after := by
  rcases hfirst with hlt | ⟨hgeneration, hbackends⟩
  · rcases hsecond with hlt' | ⟨hgeneration, -⟩
    · exact .inl (hlt.trans hlt')
    · exact .inl (hgeneration ▸ hlt)
  · rcases hsecond with hlt | ⟨hgeneration', hbackends'⟩
    · exact .inl (hgeneration ▸ hlt)
    · exact .inr ⟨hgeneration'.trans hgeneration, hbackends'.trans hbackends⟩

theorem newer_of_eq (hnodes : after.nodes = db.nodes)
    (hassignments : after.listByEntry entry = db.listByEntry entry) :
    Newer settings entry db after := by
  refine .inr ⟨by rw [hassignments], ?_⟩
  unfold Database.relayBackends
  rw [hassignments]
  congr 2
  funext a
  unfold Database.relayBackend
  rw [hnodes]

theorem newer_of_mem (hlate : generation (db.listByEntry entry) < now.tdiv 1000000)
    (ha : a ∈ after.assignments.rows) (hentry : a.entryNodeId = entry) (hactive : a.isActive)
    (hnow : a.updatedAt = now) : Newer settings entry db after := by
  have hmem : a ∈ after.listByEntry entry := by simp [Database.listByEntry, ha, hentry, hactive]
  exact .inl (hlate.trans_le (hnow ▸ le_generation hmem))

end Newer

/-! ## Changes -/

/-- The changes of assignments, and a change of the flags of a backend, whoever makes it. -/
inductive PoolChange
  | assign (entry : Uuid) (payload : EntryBackendAssignIn) (now : Time)
  | update (entry backend : Uuid) (payload : EntryBackendUpdateIn) (now : Time)
  | remove (entry backend : Uuid) (now : Time)
  | setFlags (backend : Uuid) (isActive isEnabled isDraining : Bool)

namespace PoolChange

variable (settings : EntrySettings)

def run (db : Database) : PoolChange → Outcome
  | assign entry payload now => db.assignBackend settings entry payload now
  | update entry backend payload now => db.updateAssignment settings entry backend payload now
  | remove entry backend now => db.removeAssignment settings entry backend now
  | setFlags backend isActive isEnabled isDraining =>
    .ok (db.updateNode backend (fun node => { node with isActive, isEnabled, isDraining })
      fun _ => rfl)

/-- A transaction that fails is rolled back. -/
def step (db : Database) (change : PoolChange) : Option Database :=
  match change.run settings db with
  | .ok after => some after
  | .error _ => some db

/-- The change is one of an assignment of the entry in a later second than all before, or does not
concern what is in its pool. -/
def Timely (entry : Uuid) (db : Database) : PoolChange → Prop
  | assign entry' _ now | update entry' _ _ now =>
    entry' = entry → generation (db.listByEntry entry) < now.tdiv 1000000
  | remove entry' backend _ => entry' = entry →
      ∀ a, db.assignments.find? (entry, backend) = some a → a.isActive = false
  | setFlags backend isActive isEnabled isDraining =>
    (∃ a ∈ db.listByEntry entry, a.backendNodeId = backend) →
      ∀ node, db.nodes.find? backend = some node →
        node.isActive = isActive ∧ node.isEnabled = isEnabled ∧ node.isDraining = isDraining

variable {settings} {entry : Uuid} {db after : Database} {db : Database} {now : Time}

theorem ends_getRelayPool : Ends (fun _ => True)
      (fun pool => pool.generation = generation (db.listByEntry entry) ∧
        pool.backends = db.relayBackends settings entry)
      (db.getRelayPool settings entry) :=
  .bind (.anyhow _) fun _ _ => ⟨rfl, rfl⟩

/-- An event changes no pool. -/
theorem ends_enqueuePoolSnapshot (h : Newer settings entry db mid) :
    Ends (fun _ => True) (Newer settings entry db) (mid.enqueuePoolSnapshot settings e) :=
  .bind (.anyhow _) fun _ _ => h.trans (newer_of_eq rfl rfl)

section Modify

variable {entry' backend : Uuid} {f : EntryBackendAssignment → EntryBackendAssignment}
  (hf : ∀ a, Row.key (f a) = Row.key a)

theorem newer_modify_of_ne (hne : entry' ≠ entry) : Newer settings entry db
      { db with assignments := db.assignments.modify (entry', backend) f hf } := by
  refine newer_of_eq rfl (congrArg (insertionSort _) (filter_modify hf fun row hrow => ?_))
  have hentry : row.entryNodeId = entry' := congrArg Prod.fst hrow
  have hentry' : (f row).entryNodeId = entry' := congrArg Prod.fst ((hf row).trans hrow)
  simp [hentry, hentry', hne]

/-- A row is written in a later second, or is of another entry. -/
theorem newer_modify (hfound : db.assignments.find? (entry', backend) = some a)
    (hlate : entry' = entry → generation (db.listByEntry entry) < now.tdiv 1000000)
    (hactive : (f a).isActive) (hnow : (f a).updatedAt = now) :
    Newer settings entry db
      { db with assignments := db.assignments.modify (entry', backend) f hf } := by
  by_cases heq : entry' = entry
  · have hwritten : (db.assignments.modify (entry', backend) f hf).find? (entry', backend) =
        some (f a) := (Table.find?_modify_self _ _).trans (by rw [hfound]; rfl)
    have hkey : ((f a).entryNodeId, (f a).backendNodeId) = (entry', backend) :=
      key_of_find? hwritten
    exact newer_of_mem (hlate heq) (mem_of_find? hwritten)
      ((congrArg Prod.fst hkey).trans heq) hactive hnow
  · exact newer_modify_of_ne hf heq

end Modify

theorem newer_putAssignment
    (hlate : entry' = entry → generation (db.listByEntry entry) < now.tdiv 1000000) :
    Newer settings entry db (db.putAssignment entry' payload now) := by
  unfold Database.putAssignment
  cases hfound : db.assignments.find? (entry', payload.backendNodeId) with
  | some => exact newer_modify _ hfound hlate rfl rfl
  | none =>
    by_cases heq : entry' = entry
    · refine newer_of_mem (hlate heq) (mem_of_find? (Table.find?_insert_self ?_)) heq rfl rfl
      exact hfound
    · refine newer_of_eq rfl (congrArg (insertionSort _) ?_)
      dsimp only
      unfold Table.insert
      split
      · rfl
      · simp [heq]

theorem ends_ensureRoutesForAssignment
    {entry backend : VpnNode} :
    Ends (fun _ => True) (fun after => after.nodes = db.nodes ∧ after.assignments = db.assignments)
      (db.ensureRoutesForAssignment settings entry backend) := by
  refine .foldlM (I := fun _ (after : Database) =>
    after.nodes = db.nodes ∧ after.assignments = db.assignments) ⟨rfl, rfl⟩
    fun profile rest mid hmid => ?_
  unfold Database.ensureRoute Database.insertRoute Database.updateRouteById
  repeat' split
  all_goals first | exact hmid | trivial

theorem ends_assignBackend
    (hlate : entry' = entry → generation (db.listByEntry entry) < now.tdiv 1000000) :
    Ends (fun _ => True) (Newer settings entry db)
      (db.assignBackend settings entry' payload now) := by
  refine .bind (.anyhow _) fun entryNode _ => ?_
  refine .bind (.anyhow _) fun backendNode _ => ?_
  refine .bind (.anyhow _) fun _ _ => ?_
  refine .bind ends_ensureRoutesForAssignment ?_
  rintro routed ⟨hnodes, hassignments⟩
  refine ends_enqueuePoolSnapshot ((newer_putAssignment hlate).trans (newer_of_eq hnodes ?_))
  unfold Database.listByEntry
  rw [hassignments]

/-- The flags that are written are those that the pool shows. -/
theorem newer_setFlags
    (htimely : Timely entry db (.setFlags backend isActive isEnabled isDraining)) :
    Newer settings entry db
      (db.updateNode backend (fun node => { node with isActive, isEnabled, isDraining })
        fun _ => rfl) := by
  refine .inr ⟨rfl, ?_⟩
  unfold Database.relayBackends
  refine congrArg (insertionSort _) (filterMap_congr fun a ha => ?_)
  unfold Database.relayBackend Database.updateNode
  dsimp only
  by_cases heq : a.backendNodeId = backend
  · rw [heq, Table.find?_modify_self]
    cases hnode : db.nodes.find? backend with
    | none => rfl
    | some node =>
      obtain ⟨rfl, rfl, rfl⟩ := htimely ⟨a, ha, heq⟩ node hnode
      rfl
  · rw [Table.find?_modify_of_ne _ _ heq]

theorem ends_run (htimely : Timely entry db change) :
    Ends (fun _ => True) (Newer settings entry db) (change.run settings db) := by
  cases change with
  | assign => exact ends_assignBackend htimely
  | update entry' backend =>
    simp only [run, Database.updateAssignment]
    cases hfound : db.assignments.find? (entry', backend) with
    | none => exact Newer.refl
    | some a =>
      dsimp only
      split
      · exact Newer.refl
      · rename_i hskip
        have hactive : a.isActive := by
          by_contra hinactive
          exact hskip (.inl hinactive)
        exact ends_enqueuePoolSnapshot (newer_modify _ hfound htimely hactive rfl)
  | remove entry' backend =>
    simp only [run, Database.removeAssignment]
    cases hfound : db.assignments.find? (entry', backend) with
    | none => exact Newer.refl
    | some a =>
      dsimp only
      split
      · exact Newer.refl
      · rename_i hactive
        refine ends_enqueuePoolSnapshot (newer_modify_of_ne _ fun heq => ?_)
        subst heq
        exact hactive (by simp [htimely rfl a hfound])
  | setFlags => exact newer_setFlags htimely

/-- If a pool differs from an earlier one, its generation is larger. -/
theorem generation_lt_of_backends_ne {start : Database}
    (hrun : Guarded (step settings) (Timely entry) start db) {earlier later : RelayPoolOut}
    (hearlier : start.getRelayPool settings entry = .ok earlier)
    (hlater : db.getRelayPool settings entry = .ok later)
    (hne : later.backends ≠ earlier.backends) : earlier.generation < later.generation := by
  have hnewer : Newer settings entry start db := by
    refine hrun.invariant Newer.refl fun s change t hs htimely hstep => ?_
    unfold step at hstep
    split at hstep <;> cases hstep
    · rename_i hok
      exact hs.trans ((ends_run htimely).result hok)
    · exact hs
  obtain ⟨hgeneration, hbackends⟩ := ends_getRelayPool.result hearlier
  obtain ⟨hgeneration', hbackends'⟩ := ends_getRelayPool.result hlater
  rw [hbackends, hbackends'] at hne
  rw [hgeneration, hgeneration']
  exact hnewer.resolve_right fun h => hne h.2

/-! ## An entry with two backends -/

/-- The first backend was assigned in second 5, the other one in second 10. -/
def twoBackends : Database where
  nodes := ⟨[{ id := 1, name := "entry", role := .entry },
    { id := 2, name := "first", internalWgIp := "10.0.1.2" },
    { id := 3, name := "second", internalWgIp := "10.0.1.3" }], by decide⟩
  assignments := ⟨[
    { entryNodeId := 1, backendNodeId := 2, createdAt := 5000000, updatedAt := 5000000 },
    { entryNodeId := 1, backendNodeId := 3, createdAt := 10000000, updatedAt := 10000000 }], by decide⟩
  routes := Table.empty
  profiles := Table.empty
  poolEvents := []
  nextUuid := 100

theorem generation_lt_updated :
    ∃ db earlier later, Guarded (step plainSettings) (Timely 1) twoBackends db ∧
      twoBackends.getRelayPool plainSettings 1 = .ok earlier ∧
      db.getRelayPool plainSettings 1 = .ok later ∧ earlier.generation < later.generation := by
  have hstart : Guarded (step plainSettings) (Timely 1) twoBackends twoBackends := .start
  have hrun := hstart.next (.update 1 2 { weight := some 10 } 12000000) (fun _ => by decide) rfl
  exact ⟨_, _, _, hrun, rfl, rfl, generation_lt_of_backends_ne hrun rfl rfl (by decide)⟩

/-- Draining a backend leaves the generation as it is, and removing the other one lowers it. -/
theorem not_generation_lt_drained : ∃ drained removed earlier later last,
      Guarded (step plainSettings) (fun _ _ => True) twoBackends drained ∧
      Guarded (step plainSettings) (fun _ _ => True) drained removed ∧
      twoBackends.getRelayPool plainSettings 1 = .ok earlier ∧
      drained.getRelayPool plainSettings 1 = .ok later ∧
      removed.getRelayPool plainSettings 1 = .ok last ∧
      (later.backends ≠ earlier.backends ∧ later.generation = earlier.generation) ∧
      last.backends ≠ later.backends ∧ last.generation < later.generation := by
  refine ⟨_, _, _, _, _, .of_foldlM [.setFlags 2 true true true] rfl,
    .of_foldlM [.remove 1 3 20000000] rfl, rfl, rfl, rfl, ?_⟩
  decide +kernel

end PoolChange

end VpnControl.Fleet

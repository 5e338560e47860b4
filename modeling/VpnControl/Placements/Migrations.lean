/-
# Migrations

`bulk_migrate_backend` changes rows by three `UPDATE`s: it moves the sources whose key has no
placement on the target, merges the others into the placements that are there, and retires
those. When no source is on the target itself, every row is touched by at most one of the three.
The smart migration of a node runs one such migration for every target it has chosen.
-/

import VpnControl.Placements.Service
import VpnControl.Txn.Evolution

namespace VpnControl.Vpn

open Txn List
open Billing (Uuid Time)
open Table Database

namespace Database

variable {db after : Database} {ids targets : List Uuid} {target source key : Uuid}
  {reason : Option String} {now : Time} {row : UserPlacement}

/-! ## What a migration makes of a row -/

/-- A key with a placement among the sources. -/
def Migrates (db : Database) (ids : List Uuid) (key : Uuid) : Prop :=
  ∃ row ∈ db.migrationSources ids, row.keyId = key

/-- What the three `UPDATE`s make of a row. -/
def migratedRow (db : Database) (ids : List Uuid) (target : Uuid) (reason : Option String)
    (now : Time) (row : UserPlacement) : UserPlacement :=
  let moves := db.simpleMoves (db.migrationSources ids) target
  let merges := db.mergeSources (db.migrationSources ids) target
  let moved := if row ∈ moves then row.moveTo target reason now else row
  let merged := (mergedInto merges target moved).elim moved fun source =>
    .mergeFrom source reason now moved
  if merged.id ∈ merges.map UserPlacement.id then merged.retire now else merged

theorem rows_bulkMigrateBackend
    (h : db.bulkMigrateBackend ids target reason now = some (targets, after)) :
    after.placements.rows = db.placements.rows.map (db.migratedRow ids target reason now) ∧
      after.keys = db.keys ∧ after.outbox = db.outbox := by
  unfold bulkMigrateBackend at h
  dsimp only at h
  split at h
  · cases h
  cases h
  refine ⟨?_, rfl, rfl⟩
  simp only [retirePlacements, mergePlacements, movePlacements, Table.modifyWhere, map_map]
  refine map_congr_left fun row _ => ?_
  simp only [Function.comp_apply, migratedRow, decide_eq_true_eq]
  generalize (if row ∈ db.simpleMoves (db.migrationSources ids) target then
    row.moveTo target reason now else row) = moved
  cases mergedInto (db.mergeSources (db.migrationSources ids) target) target moved <;> rfl

theorem homeOn_eq_none : db.homeOn key target = none ↔
      ∀ row ∈ db.placements.rows, row.keyId = key → row.backendNodeId ≠ target := by
  simp [homeOn]

theorem of_homeOn_eq_some (h : db.homeOn key target = some row) :
    row ∈ db.placements.rows ∧ row.keyId = key ∧ row.backendNodeId = target := by
  have hrow := find?_some h
  exact ⟨mem_of_find?_eq_some h, of_decide_eq_true hrow⟩

theorem mergedInto_eq_none : mergedInto merges target row = none ↔
      (row.backendNodeId = target → ∀ source ∈ merges, source.keyId ≠ row.keyId) := by
  unfold mergedInto
  split <;> simp_all

theorem mem_simpleMoves : row ∈ db.simpleMoves (db.migrationSources ids) target ↔
      row ∈ db.migrationSources ids ∧ db.homeOn row.keyId target = none := by
  simp [simpleMoves]

theorem mem_migrationSources : row ∈ db.migrationSources ids ↔
      row ∈ db.placements.rows ∧ row.id ∈ ids ∧ row.isActive = true := by
  simp [migrationSources]

section

/- No source is on the target. -/
variable (hsources : ∀ row ∈ db.migrationSources ids, row.backendNodeId ≠ target)

include hsources

theorem mem_mergeSources (row : UserPlacement) :
    row ∈ db.mergeSources (db.migrationSources ids) target ↔
      row ∈ db.migrationSources ids ∧ db.homeOn row.keyId target ≠ none := by
  unfold mergeSources
  rw [mem_filter]
  refine and_congr_right fun hrow => ?_
  cases hhome : db.homeOn row.keyId target with
  | none => simp
  | some existing =>
    obtain ⟨hexisting, -, htarget⟩ := of_homeOn_eq_some hhome
    simp only [Option.any_some, decide_eq_true_eq, ne_eq, reduceCtorEq, not_false_iff, iff_true]
    intro hid
    obtain rfl := eq_of_mem_of_key hexisting (mem_migrationSources.mp hrow).1 hid
    exact hsources existing hrow htarget

theorem mergedInto_moveTo (hhome : db.homeOn row.keyId target = none) :
    mergedInto (db.mergeSources (db.migrationSources ids) target) target
      (row.moveTo target reason now) = none :=
  mergedInto_eq_none.mpr fun _ _ hother hkey =>
    ((mem_mergeSources hsources _).mp hother).2 (hkey ▸ hhome)

/-- A row is moved, retired, merged into or left alone. -/
theorem migratedRow_cases (hrow : row ∈ db.placements.rows) :
    (row ∈ db.migrationSources ids ∧ db.homeOn row.keyId target = none ∧
        db.migratedRow ids target reason now row = row.moveTo target reason now) ∨
      (row ∈ db.migrationSources ids ∧ db.homeOn row.keyId target ≠ none ∧
        db.migratedRow ids target reason now row = row.retire now) ∨
      (row.backendNodeId = target ∧ ∃ source ∈ db.migrationSources ids, source.keyId = row.keyId ∧
        db.migratedRow ids target reason now row = .mergeFrom source reason now row) ∨
      row ∉ db.migrationSources ids ∧
        (row.backendNodeId = target → ∀ source ∈ db.migrationSources ids,
          source.keyId ≠ row.keyId) ∧
        db.migratedRow ids target reason now row = row := by
  have hmerges := mem_mergeSources hsources
  have hretired : row.id ∈ (db.mergeSources (db.migrationSources ids) target).map UserPlacement.id ↔
      row ∈ db.mergeSources (db.migrationSources ids) target := by
    refine ⟨fun h => ?_, mem_map_of_mem⟩
    obtain ⟨other, hother, hid⟩ := mem_map.mp h
    have hmem := (mem_migrationSources.mp ((hmerges _).mp hother).1).1
    rwa [← show other = row from eq_of_mem_of_key hmem hrow hid]
  unfold migratedRow
  dsimp only
  by_cases hmove : row ∈ db.simpleMoves (db.migrationSources ids) target
  · obtain ⟨hsource, hhome⟩ := mem_simpleMoves.mp hmove
    refine .inl ⟨hsource, hhome, ?_⟩
    rw [if_pos hmove, mergedInto_moveTo hsources hhome, Option.elim_none, if_neg]
    exact fun h => ((hmerges _).mp (hretired.mp h)).2 hhome
  rw [if_neg hmove]
  cases hinto : mergedInto (db.mergeSources (db.migrationSources ids) target) target row with
  | some source =>
    unfold mergedInto at hinto
    split at hinto
    · rename_i hhome
      have hsource := (hmerges _).mp (mem_of_find?_eq_some hinto)
      refine .inr (.inr (.inl ⟨hhome, source, hsource.1, ?_, if_neg fun h => ?_⟩))
      · simpa using find?_some hinto
      · exact hsources row ((hmerges _).mp (hretired.mp h)).1 hhome
    · cases hinto
  | none =>
    by_cases hretire : row ∈ db.mergeSources (db.migrationSources ids) target
    · obtain ⟨hsource, hhome⟩ := (hmerges _).mp hretire
      exact .inr (.inl ⟨hsource, hhome, if_pos (hretired.mpr hretire)⟩)
    · refine .inr (.inr (.inr ⟨fun hsource => ?_, fun hhome source hsource hkey => ?_,
        if_neg fun h => hretire (hretired.mp h)⟩))
      · by_cases hhome : db.homeOn row.keyId target = none
        · exact hmove (mem_simpleMoves.mpr ⟨hsource, hhome⟩)
        · exact hretire ((hmerges _).mpr ⟨hsource, hhome⟩)
      · rw [mergedInto, if_pos hhome, find?_eq_none] at hinto
        refine hinto source ((hmerges _).mpr ⟨hsource, fun hnone => ?_⟩) (by simpa using hkey)
        exact homeOn_eq_none.mp hnone row hrow hkey.symm hhome

theorem migratedRow_of_other (reason : Option String) (now : Time)
    (hrow : row ∈ db.placements.rows) (hid : row.id ∉ ids)
    (hother : ¬ (row.backendNodeId = target ∧ db.Migrates ids row.keyId)) :
    db.migratedRow ids target reason now row = row := by
  rcases migratedRow_cases hsources hrow with ⟨hsource, -⟩ | ⟨hsource, -⟩ |
    ⟨htarget, source, hsource, hkey, -⟩ | ⟨-, -, heq⟩
  · exact absurd (mem_migrationSources.mp hsource).2.1 hid
  · exact absurd (mem_migrationSources.mp hsource).2.1 hid
  · exact absurd ⟨htarget, source, hsource, hkey⟩ hother
  · exact heq

theorem migratedRow_same (reason : Option String) (now : Time) (hrow : row ∈ db.placements.rows) :
    (db.migratedRow ids target reason now row).id = row.id ∧
      (db.migratedRow ids target reason now row).keyId = row.keyId := by
  rcases migratedRow_cases hsources hrow with ⟨-, -, heq⟩ | ⟨-, -, heq⟩ |
    ⟨-, source, -, -, heq⟩ | ⟨-, -, heq⟩ <;> rw [heq] <;> exact ⟨rfl, rfl⟩

/-- The row on the target of a key that is migrated, and the source from which it comes. -/
theorem exists_arrival (hmigrates : db.Migrates ids key) :
    ∃ row ∈ db.placements.rows, ∃ source ∈ db.migrationSources ids, ∃ new,
      db.migratedRow ids target reason now row = new ∧ source.keyId = key ∧ new.id = row.id ∧
      new.keyId = key ∧ new.backendNodeId = target ∧ new.isActive = true ∧
      new.appliedState = .pending ∧ new.desiredState = source.desiredState ∧
      row.opVersion < new.opVersion := by
  obtain ⟨old, hold, rfl⟩ := hmigrates
  obtain ⟨hmem, -, hactive⟩ := mem_migrationSources.mp hold
  by_cases hhome : db.homeOn old.keyId target = none
  · refine ⟨old, hmem, old, hold, _, rfl, rfl, ?_⟩
    rcases migratedRow_cases hsources hmem with ⟨-, -, heq⟩ | ⟨-, hsome, -⟩ |
      ⟨htarget, -⟩ | ⟨hother, -⟩
    · rw [heq]
      exact ⟨rfl, rfl, rfl, hactive, rfl, rfl, Nat.lt_succ_self _⟩
    · exact absurd hhome hsome
    · exact absurd htarget (hsources old hold)
    · exact absurd hold hother
  · obtain ⟨existing, hexisting⟩ := Option.ne_none_iff_exists'.mp hhome
    obtain ⟨hin, hkey, htarget⟩ := of_homeOn_eq_some hexisting
    rcases migratedRow_cases hsources hin with ⟨hsource, -⟩ | ⟨hsource, -⟩ |
      ⟨-, source, hsource, hsourceKey, heq⟩ | ⟨-, hkeys, -⟩
    · exact absurd htarget (hsources existing hsource)
    · exact absurd htarget (hsources existing hsource)
    · exact ⟨existing, hin, source, hsource, _, heq, hsourceKey.trans hkey, rfl, hkey, htarget, rfl,
        rfl, rfl, Nat.lt_succ_self _⟩
    · exact absurd hkey.symm (hkeys htarget old hold)

theorem mem_mergedIds {id : Uuid} :
    id ∈ (db.movePlacements (db.simpleMoves (db.migrationSources ids) target) target reason
        now).mergedIds (db.mergeSources (db.migrationSources ids) target) target ↔
      ∃ row ∈ db.placements.rows, row.id = id ∧ row.backendNodeId = target ∧
        db.Migrates ids row.keyId := by
  simp only [mergedIds, movePlacements, Table.modifyWhere, mem_map, mem_filter,
    decide_eq_true_eq, Option.isSome_iff_ne_none, ne_eq]
  constructor
  · rintro ⟨moved, ⟨⟨row, hrow, rfl⟩, hinto⟩, rfl⟩
    split at hinto
    · rename_i hmove
      exact absurd (mergedInto_moveTo hsources (mem_simpleMoves.mp hmove).2) hinto
    · rename_i hmove
      rw [if_neg hmove]
      rw [mergedInto_eq_none] at hinto
      push Not at hinto
      obtain ⟨hhome, source, hsource, hkey⟩ := hinto
      exact ⟨row, hrow, rfl, hhome, source, ((mem_mergeSources hsources _).mp hsource).1, hkey⟩
  · rintro ⟨row, hrow, rfl, hhome, source, hsource, hkey⟩
    have hmove : row ∉ db.simpleMoves (db.migrationSources ids) target := fun hmove =>
      hsources row (mem_simpleMoves.mp hmove).1 hhome
    refine ⟨row, ⟨⟨row, hrow, if_neg hmove⟩, fun hinto => ?_⟩, rfl⟩
    refine mergedInto_eq_none.mp hinto hhome source ?_ hkey
    exact (mem_mergeSources hsources source).mpr ⟨hsource, fun hnone =>
      homeOn_eq_none.mp hnone row hrow hkey.symm hhome⟩

/-- The ids that a migration returns are those of the rows on the target whose keys it moves. -/
theorem targets_bulkMigrateBackend
    (h : db.bulkMigrateBackend ids target reason now = some (targets, after)) :
    targets.Nodup ∧ ∀ id, id ∈ targets ↔ ∃ row ∈ db.placements.rows, row.id = id ∧
      (db.migratedRow ids target reason now row).backendNodeId = target ∧
      db.Migrates ids row.keyId := by
  unfold bulkMigrateBackend at h
  dsimp only at h
  split at h
  · cases h
  cases h
  have hmoves : ∀ {id}, id ∈ (db.simpleMoves (db.migrationSources ids) target).map
      UserPlacement.id ↔ ∃ row ∈ db.placements.rows, row.id = id ∧
        row ∈ db.migrationSources ids ∧ db.homeOn row.keyId target = none := by
    intro id
    rw [mem_map]
    refine exists_congr fun row => ?_
    rw [mem_simpleMoves]
    exact ⟨fun h => ⟨(mem_migrationSources.mp h.1.1).1, h.2, h.1⟩, fun h => ⟨h.2.2, h.2.1⟩⟩
  refine ⟨nodup_append'.mpr ⟨?_, ?_, fun id hmove hmerge => ?_⟩, fun id => ?_⟩
  · exact db.placements.nodup.sublist ((filter_sublist.trans filter_sublist).map _)
  · exact Table.nodup _ |>.sublist (filter_sublist.map _)
  · obtain ⟨row, hrow, rfl, hsource, -⟩ := hmoves.mp hmove
    obtain ⟨other, hother, hid, hhome, -⟩ := (mem_mergedIds hsources).mp hmerge
    obtain rfl := eq_of_mem_of_key hother hrow hid
    exact hsources other hsource hhome
  · rw [mem_append, hmoves, mem_mergedIds hsources, ← exists_or]
    refine exists_congr fun row => ?_
    rw [← and_or_left]
    refine and_congr_right fun hrow => ?_
    rw [← and_or_left]
    refine and_congr_right fun _ => ?_
    rcases migratedRow_cases hsources hrow with ⟨hsource, hhome, heq⟩ |
      ⟨hsource, hhome, heq⟩ | ⟨hhome, source, hsource, hkey, heq⟩ | ⟨hother, hkeys, heq⟩ <;>
      rw [heq]
    · exact iff_of_true (.inl ⟨hsource, hhome⟩) ⟨rfl, row, hsource, rfl⟩
    · exact iff_of_false (fun h => h.elim (fun h => hhome h.2) fun h => hsources row hsource h.1)
        fun h => hsources row hsource h.1
    · exact iff_of_true (.inr ⟨hhome, source, hsource, hkey⟩) ⟨hhome, source, hsource, hkey⟩
    · exact or_iff_right fun h => hother h.1

theorem backend_of_mem_targets
    (h : db.bulkMigrateBackend ids target reason now = some (targets, after))
    (hnew : new ∈ after.placements.rows) (hid : new.id ∈ targets) : new.backendNodeId = target := by
  obtain ⟨row, hrow, hsame, htarget, -⟩ := ((targets_bulkMigrateBackend hsources h).2 new.id).mp hid
  have hmigrated : db.migratedRow ids target reason now row ∈ after.placements.rows := by
    rw [(rows_bulkMigrateBackend h).1]
    exact mem_map_of_mem hrow
  rwa [eq_of_mem_of_key hnew hmigrated
    (hsame.symm.trans (migratedRow_same hsources reason now hrow).1.symm)]

end

/-! ## Migrations of one node -/

/-- The unique constraint of the placements. -/
def UniqueHomes (db : Database) : Prop :=
  ∀ first ∈ db.placements.rows, ∀ second ∈ db.placements.rows, first.SameHome second →
    first = second

section

variable (hunique : db.UniqueHomes)
  (hon : ∀ row ∈ db.migrationSources ids, row.backendNodeId = source) (hne : target ≠ source)

include hunique hon

theorem eq_of_mem_migrationSources
    (hfirst : first ∈ db.migrationSources ids) (hsecond : second ∈ db.migrationSources ids)
    (hkey : first.keyId = second.keyId) : first = second :=
  hunique first (mem_migrationSources.mp hfirst).1 second (mem_migrationSources.mp hsecond).1
    ⟨hkey, (hon first hfirst).trans (hon second hsecond).symm⟩

/-- The unique constraint is not violated. -/
theorem exists_bulkMigrateBackend :
    ∃ targets after, db.bulkMigrateBackend ids target reason now = some (targets, after) := by
  refine ⟨_, _, if_neg (not_not.mpr ?_)⟩
  refine Nodup.map_on (fun first hfirst second hsecond => ?_) ?_
  · exact eq_of_mem_migrationSources hunique hon (mem_simpleMoves.mp hfirst).1
      (mem_simpleMoves.mp hsecond).1
  · exact ((Nodup.of_map _ db.placements.nodup).filter _).filter _

include hne

theorem eq_of_migratedRow (hfirst : first ∈ db.placements.rows)
    (hsecond : second ∈ db.placements.rows)
    (htarget : (db.migratedRow ids target reason now first).backendNodeId = target)
    (hhome : (db.migratedRow ids target reason now first).SameHome
      (db.migratedRow ids target reason now second)) : first = second := by
  have hsources : ∀ row ∈ db.migrationSources ids, row.backendNodeId ≠ target :=
    fun row hrow hhome => hne (hhome.symm.trans (hon row hrow))
  have horigin : ∀ row ∈ db.placements.rows,
      (db.migratedRow ids target reason now row).backendNodeId = target →
      (db.migratedRow ids target reason now row).keyId = row.keyId ∧
        (row ∈ db.migrationSources ids ∧ db.homeOn row.keyId target = none ∨
          row.backendNodeId = target) := by
    intro row hrow
    rcases migratedRow_cases hsources hrow with ⟨hsource, hnone, heq⟩ |
      ⟨-, -, heq⟩ | ⟨-, source, -, -, heq⟩ | ⟨-, -, heq⟩ <;> rw [heq] <;> intro hrowTarget
    · exact ⟨rfl, .inl ⟨hsource, hnone⟩⟩
    · exact ⟨rfl, .inr hrowTarget⟩
    · exact ⟨rfl, .inr hrowTarget⟩
    · exact ⟨rfl, .inr hrowTarget⟩
  obtain ⟨hkey, hcase⟩ := horigin first hfirst htarget
  obtain ⟨hkey', hcase'⟩ := horigin second hsecond (hhome.2.symm.trans htarget)
  have hsame : first.keyId = second.keyId := hkey.symm.trans (hhome.1.trans hkey')
  rcases hcase with ⟨hsource, hnone⟩ | hthere <;> rcases hcase' with ⟨hsource', hnone'⟩ | hthere'
  · exact eq_of_mem_migrationSources hunique hon hsource hsource' hsame
  · exact absurd hthere' (homeOn_eq_none.mp hnone second hsecond hsame.symm)
  · exact absurd hthere (homeOn_eq_none.mp hnone' first hfirst hsame)
  · exact hunique first hfirst second hsecond ⟨hsame, hthere.trans hthere'.symm⟩

end

end Database

/-- Key 30 is in service on node 50, and its placement on node 51 is switched off. Key 31 is in
service on node 50 and on node 51. -/
def halfCovered : Database :=
  let home (id key node : Uuid) (desired : PlacementDesiredState) : UserPlacement :=
    .pending id key node desired none 0
  { Database.empty with
    placements := [home 40 30 50 .active, home 41 30 51 .inactive, home 42 31 50 .active,
      home 43 31 51 .active].foldl Table.insert .empty }

namespace Database

variable {db after : Database} {ids : List Uuid} {target source key node : Uuid}
  {reason : Option String} {now : Time} {row : UserPlacement}

theorem placementsInService_perm (db : Database) (source : Uuid) :
    (db.placementsInService source).Perm (db.placements.rows.filter fun placement =>
      placement.backendNodeId = source ∧ placement.InService) :=
  perm_insertionSort _ _

theorem mem_placementsInService : row ∈ db.placementsInService source ↔
      row ∈ db.placements.rows ∧ row.backendNodeId = source ∧ row.InService := by
  rw [(db.placementsInService_perm source).mem_iff, mem_filter, decide_eq_true_eq]

theorem nodup_orphanPlacements (db : Database) (source : Uuid) (candidates : List Uuid) :
    ((db.orphanPlacements source candidates).map UserPlacement.id).Nodup := by
  have hrows : ((db.placementsInService source).map UserPlacement.id).Nodup := by
    rw [((db.placementsInService_perm source).map _).nodup_iff]
    exact db.placements.nodup.sublist (filter_sublist.map _)
  exact hrows.sublist (filter_sublist.map _)

theorem distribute_nil (orphans : List UserPlacement) : db.distribute [] orphans = [] := by
  unfold distribute
  induction orphans with
  | nil => rfl
  | cons placement _ ih => exact ih

/-- Every orphan is given one target, from the candidates. -/
theorem distribute_spec (db : Database) (hcandidates : candidates ≠ []) :
    (db.distribute candidates orphans).map Prod.fst = orphans.map UserPlacement.id ∧
      ∀ pair ∈ db.distribute candidates orphans, pair.2 ∈ candidates := by
  unfold distribute
  suffices hloop : ∀ assigned : List (Uuid × Uuid), (∀ pair ∈ assigned, pair.2 ∈ candidates) →
      (orphans.foldl _ assigned).map Prod.fst =
        assigned.map Prod.fst ++ orphans.map UserPlacement.id ∧
      ∀ pair ∈ orphans.foldl _ assigned, pair.2 ∈ candidates from hloop [] (by simp)
  induction orphans with
  | nil => exact fun assigned h => ⟨by simp, h⟩
  | cons placement _ ih =>
    intro assigned h
    rw [foldl_cons]
    dsimp only
    split
    · rename_i hnone
      rw [argmin_eq_none] at hnone
      split at hnone
      · exact absurd hnone hcandidates
      · exact absurd hnone ‹_›
    · rename_i best hbest
      have hmem : best ∈ candidates := by
        have havailable := argmin_mem hbest
        split at havailable
        · exact havailable
        · exact mem_of_mem_filter havailable
      obtain ⟨hfirst, hsecond⟩ := ih (assigned ++ [(placement.id, best)]) (by
        intro pair hpair
        rcases mem_append.mp hpair with hold | hlast
        · exact h pair hold
        · obtain rfl : pair = (placement.id, best) := by simpa using hlast
          exact hmem)
      refine ⟨?_, hsecond⟩
      simpa using hfirst

/-- The placements that `waits` picks are in service on the node, for the keys of `owner`. -/
def ServedOn (db : Database) (source : Uuid) (owner : Uuid → Uuid) (waits : Uuid → Prop) : Prop :=
  ∀ id, waits id → ∃ row ∈ db.placements.rows, row.id = id ∧ row.keyId = owner id ∧
    row.backendNodeId = source ∧ row.InService

variable {owner : Uuid → Uuid} {waits : Uuid → Prop}

theorem ServedOn.of_mem (h : db.ServedOn source owner waits)
    (hrow : row ∈ db.placements.rows) (hid : waits row.id) :
    row.keyId = owner row.id ∧ row.backendNodeId = source ∧ row.InService := by
  obtain ⟨found, hfound, hsame, hserved⟩ := h row.id hid
  rwa [eq_of_mem_of_key hfound hrow hsame] at hserved

section

variable (h : db.ServedOn source owner (· ∈ ids))

include h

theorem ServedOn.of_mem_migrationSources (hrow : row ∈ db.migrationSources ids) :
    row.keyId = owner row.id ∧ row.backendNodeId = source ∧ row.InService :=
  h.of_mem (mem_migrationSources.mp hrow).1 (mem_migrationSources.mp hrow).2.1

theorem ServedOn.ne_target (hne : target ≠ source) :
    ∀ row ∈ db.migrationSources ids, row.backendNodeId ≠ target :=
  fun _ hrow hhome => hne (hhome.symm.trans (h.of_mem_migrationSources hrow).2.1)

theorem ServedOn.migrates : db.Migrates ids key ↔ ∃ id ∈ ids, owner id = key := by
  constructor
  · rintro ⟨row, hrow, rfl⟩
    exact ⟨row.id, (mem_migrationSources.mp hrow).2.1, (h.of_mem_migrationSources hrow).1.symm⟩
  · rintro ⟨id, hid, rfl⟩
    obtain ⟨row, hrow, rfl, hkey, -, hservice⟩ := h id hid
    exact ⟨row, mem_migrationSources.mpr ⟨hrow, hid, hservice.1⟩, hkey⟩

end

/-- Away from the source, a migration of placements in service puts the keys that it moves into
service on the target and changes nothing else. -/
theorem places_migratePlacements (hids : db.ServedOn source owner (· ∈ ids)) (hne : target ≠ source)
    (hnode : node ≠ source) (hrun : db.migratePlacements ids target reason now = some after) :
    after.Places key node ↔ db.Places key node ∨ node = target ∧ ∃ id ∈ ids, owner id = key := by
  obtain ⟨⟨targets, migrated⟩, hmigrated, rfl⟩ := Option.map_eq_some_iff.mp hrun
  have hsources := hids.ne_target hne
  change (∃ new ∈ migrated.placements.rows, _) ↔ _
  rw [(rows_bulkMigrateBackend hmigrated).1, ← hids.migrates]
  constructor
  · rintro ⟨new, hnew, hkey, hhome, hservice⟩
    obtain ⟨row, hrow, rfl⟩ := mem_map.mp hnew
    rcases migratedRow_cases hsources hrow with ⟨hsource, -, heq⟩ | ⟨-, -, heq⟩ |
      ⟨htarget, origin, horigin, hsame, heq⟩ | ⟨-, -, heq⟩ <;> rw [heq] at hkey hhome hservice
    · exact .inr ⟨hhome.symm, row, hsource, hkey⟩
    · cases hservice.1
    · exact .inr ⟨hhome.symm.trans htarget, origin, horigin, hsame.trans hkey⟩
    · exact .inl ⟨row, hrow, hkey, hhome, hservice⟩
  · rintro (⟨row, hrow, hkey, hhome, hservice⟩ | ⟨rfl, hmigrates⟩)
    · refine ⟨_, mem_map_of_mem hrow, ?_⟩
      rcases migratedRow_cases hsources hrow with ⟨hsource, -⟩ | ⟨hsource, -⟩ |
        ⟨-, origin, horigin, -, heq⟩ | ⟨-, -, heq⟩
      · exact absurd (hhome.symm.trans (hids.of_mem_migrationSources hsource).2.1) hnode
      · exact absurd (hhome.symm.trans (hids.of_mem_migrationSources hsource).2.1) hnode
      · rw [heq]
        exact ⟨hkey, hhome, rfl, (hids.of_mem_migrationSources horigin).2.2.2⟩
      · rw [heq]
        exact ⟨hkey, hhome, hservice⟩
    · obtain ⟨row, hrow, origin, horigin, new, rfl, -, -, hkey, hhome, hactive, -, hdesired, -⟩ :=
        exists_arrival hsources hmigrates
      exact ⟨_, mem_map_of_mem hrow, hkey, hhome, hactive,
        hdesired.trans (hids.of_mem_migrationSources horigin).2.2.2⟩

theorem ServedOn.migratePlacements (h : db.ServedOn source owner waits)
    (hids : db.ServedOn source owner (· ∈ ids)) (hother : ∀ id ∈ ids, ¬ waits id)
    (hne : target ≠ source) (hrun : db.migratePlacements ids target reason now = some after) :
    after.ServedOn source owner waits := by
  obtain ⟨⟨targets, migrated⟩, hmigrated, rfl⟩ := Option.map_eq_some_iff.mp hrun
  intro id hid
  obtain ⟨row, hrow, rfl, hserved⟩ := h id hid
  have hkept := migratedRow_of_other (hids.ne_target hne) reason now hrow
    (fun hin => hother row.id hin hid) fun htarget => hne (htarget.1.symm.trans hserved.2.1)
  refine ⟨row, ?_, rfl, hserved⟩
  change row ∈ migrated.placements.rows
  rw [(rows_bulkMigrateBackend hmigrated).1]
  exact mem_map.mpr ⟨row, hrow, hkept⟩

/-- The loop over the groups of assigned placements, by what is known of the placements that are
still waiting and of the groups that are still to come. -/
theorem foldlM_groups {C : (Uuid → Prop) → Database → Prop} {I : List Uuid → Database → Prop}
    {assigned : List (Uuid × Uuid)} (hassigned : (assigned.map Prod.fst).Nodup)
    (hgroups : groups.Nodup)
    (hmono : ∀ {db waits less}, C waits db → (∀ id, less id → waits id) → C less db)
    (hstep : ∀ target ∈ groups, ∀ rest {db after ids},
      (∀ id, id ∈ ids ↔ (id, target) ∈ assigned) → C (· ∈ ids) db →
      db.migratePlacements ids target reason now = some after →
      (I (target :: rest) db → I rest after) ∧
        ∀ {waits}, (∀ id ∈ ids, ¬ waits id) → C waits db → C waits after)
    (hwaits : C (fun id => ∃ target ∈ groups, (id, target) ∈ assigned) db) (hstart : I groups db)
    (hrun : groups.foldlM (fun current target => current.migratePlacements
      ((assigned.filter (·.2 = target)).map Prod.fst) target reason now) db = some after) :
    I [] after := by
  induction groups generalizing db with
  | nil =>
    obtain rfl := Option.some.inj hrun
    exact hstart
  | cons target rest ih =>
    rw [foldlM_cons] at hrun
    obtain ⟨migrated, hmigrated, hrest⟩ := Option.bind_eq_some_iff.mp hrun
    have hmem : ∀ id, id ∈ (assigned.filter (·.2 = target)).map Prod.fst ↔
        (id, target) ∈ assigned := by
      simp
    obtain ⟨hnext, hkept⟩ := hstep target mem_cons_self rest hmem
      (hmono hwaits fun id hid => ⟨target, by simp, (hmem id).mp hid⟩) hmigrated
    refine ih hgroups.of_cons (fun other hother => hstep other (mem_cons_of_mem _ hother))
      (hkept ?_ (hmono hwaits ?_)) (hnext hstart) hrest
    · -- a placement that was given this target was not given a later one
      rintro id hid ⟨other, hother, hin⟩
      have hsame := inj_on_of_nodup_map hassigned ((hmem id).mp hid) hin rfl
      obtain rfl := (Prod.mk.inj hsame).2
      exact (nodup_cons.mp hgroups).1 hother
    · rintro id ⟨other, hother, hin⟩
      exact ⟨other, by simp [hother], hin⟩

/-- Some active placement of the key is on a candidate other than the source, whatever its
desired state. -/
def Covered (db : Database) (source : Uuid) (selected : List Uuid) (key : Uuid) : Prop :=
  ∃ node ∈ db.activeBackendNodes key, node ≠ source ∧ node ∈ selected

def ownerKey (db : Database) (id : Uuid) : Uuid :=
  (db.placements.find? id).elim 0 UserPlacement.keyId

theorem ownerKey_id (hrow : row ∈ db.placements.rows) : db.ownerKey row.id = row.keyId := by
  have hfind : db.placements.find? row.id = some row := Table.find?_of_mem hrow
  rw [ownerKey, hfind, Option.elim_some]

theorem mem_orphanPlacements : row ∈ db.orphanPlacements source (selected.filter (· ≠ source)) ↔
      (row ∈ db.placements.rows ∧ row.backendNodeId = source ∧ row.InService) ∧
        ¬ db.Covered source selected row.keyId := by
  unfold orphanPlacements
  rw [mem_filter, mem_placementsInService, decide_eq_true_eq, any_eq_true]
  refine and_congr_right fun _ => not_congr (exists_congr fun node => ?_)
  simp +contextual

end Database

/-- A smart migration leaves a key of the node in service on a candidate exactly when the key
either is not covered or has a placement in service on a candidate. -/
theorem smart_migration_rescues_key_iff {db after : Database} {source key : Uuid}
    {selected : List Uuid} {now : Time} (hselected : ∃ node ∈ selected, node ≠ source)
    (hkey : db.Places key source)
    (hrun : db.smartMigratePlacements source selected now = some after) :
    (∃ node ∈ selected, node ≠ source ∧ after.Places key node) ↔
      (db.Covered source selected key → ∃ node ∈ selected, node ≠ source ∧ db.Places key node) := by
  unfold Database.smartMigratePlacements at hrun
  dsimp only at hrun
  have hcandidates : selected.filter (· ≠ source) ≠ [] := by
    simpa [List.filter_eq_nil_iff] using hselected
  obtain ⟨hfirst, hsecond⟩ := db.distribute_spec hcandidates
  have hnodup := db.nodup_orphanPlacements source (selected.filter (· ≠ source))
  generalize db.distribute (selected.filter (· ≠ source))
    (db.orphanPlacements source (selected.filter (· ≠ source))) = assigned at *
  rw [← hfirst] at hnodup
  -- the placements that have been assigned are those of the keys that are not covered
  have hassigned : ∀ id, (∃ target, (id, target) ∈ assigned) ↔
      ∃ row ∈ db.placements.rows, row.id = id ∧ row.backendNodeId = source ∧ row.InService ∧
        ¬ db.Covered source selected row.keyId := by
    intro id
    have hmem : (∃ target, (id, target) ∈ assigned) ↔ id ∈ assigned.map Prod.fst := by simp
    rw [hmem, hfirst, List.mem_map]
    refine exists_congr fun row => ?_
    rw [mem_orphanPlacements]
    tauto
  have hserved : db.ServedOn source db.ownerKey
      fun id => ∃ target ∈ (assigned.map Prod.snd).reverse.dedup.reverse,
        (id, target) ∈ assigned := by
    rintro id ⟨target, -, hin⟩
    obtain ⟨row, hrow, rfl, hhome, hservice, -⟩ := (hassigned id).mp ⟨target, hin⟩
    exact ⟨row, hrow, rfl, (ownerKey_id hrow).symm, hhome, hservice⟩
  -- the migrations of the groups put their keys into service on the targets
  have hplaces : ∀ node, node ≠ source → (after.Places key node ↔
      db.Places key node ∨ ∃ id, (id, node) ∈ assigned ∧ db.ownerKey id = key) := by
    intro node hnode
    have hloop := foldlM_groups (C := fun waits db' => db'.ServedOn source db.ownerKey waits)
      (I := fun rest db' => db'.Places key node ∨
        node ∈ rest ∧ (∃ id, (id, node) ∈ assigned ∧ db.ownerKey id = key) ↔ _)
      hnodup (List.nodup_reverse.mpr (List.nodup_dedup _)) (fun h hless id hid => h id (hless id hid))
      (fun target htarget _ _ _ _ hmem hids hmigrated => ?_) hserved Iff.rfl hrun
    · have hgroup : (∃ id, (id, node) ∈ assigned ∧ db.ownerKey id = key) →
          node ∈ (assigned.map Prod.snd).reverse.dedup.reverse := by
        rintro ⟨id, hin, -⟩
        simpa using ⟨id, hin⟩
      simpa only [List.not_mem_nil, false_and, or_false, and_iff_right_of_imp hgroup] using hloop
    · have hne : target ≠ source := by
        obtain ⟨pair, hpair, rfl⟩ : ∃ pair ∈ assigned, pair.2 = target := by simpa using htarget
        simpa using (List.mem_filter.mp (hsecond pair hpair)).2
      refine ⟨fun h => ?_, fun hother h => h.migratePlacements hids hother hne hmigrated⟩
      rw [← h, places_migratePlacements hids hne hnode hmigrated, or_assoc]
      refine or_congr_right ?_
      rw [List.mem_cons, or_and_right]
      refine or_congr_left (and_congr_right ?_)
      rintro rfl
      exact exists_congr fun id => by rw [hmem]
  constructor
  · rintro ⟨node, hnode, hne, hafter⟩ hcovered
    rcases (hplaces node hne).mp hafter with hbefore | ⟨id, hin, howner⟩
    · exact ⟨node, hnode, hne, hbefore⟩
    · obtain ⟨row, hrow, rfl, -, -, horphan⟩ := (hassigned id).mp ⟨node, hin⟩
      rw [ownerKey_id hrow] at howner
      exact absurd (howner ▸ hcovered) horphan
  · intro hplaced
    by_cases hcovered : db.Covered source selected key
    · obtain ⟨node, hnode, hne, hbefore⟩ := hplaced hcovered
      exact ⟨node, hnode, hne, (hplaces node hne).mpr (.inl hbefore)⟩
    · obtain ⟨row, hrow, rfl, hhome, hservice⟩ := hkey
      obtain ⟨target, hin⟩ := (hassigned row.id).mpr ⟨row, hrow, rfl, hhome, hservice, hcovered⟩
      obtain ⟨hnode, hne⟩ := List.mem_filter.mp (hsecond _ hin)
      exact ⟨target, hnode, of_decide_eq_true hne, (hplaces target (of_decide_eq_true hne)).mpr
        (.inr ⟨row.id, hin, ownerKey_id hrow⟩)⟩

theorem smartMigratePlacements_halfCovered :
    halfCovered.smartMigratePlacements 50 [51] 0 = some halfCovered := by
  have horphans : halfCovered.orphanPlacements 50 ([51].filter (· ≠ 50)) = [] := by decide +kernel
  rw [Database.smartMigratePlacements, horphans]
  rfl

/-- Key 30 counts as covered by the placement that is switched off and is left on the node. -/
theorem smart_migration_strands_key :
    halfCovered.Places 30 50 ∧ ∃ after, halfCovered.smartMigratePlacements 50 [51] 0 = some after ∧
      ¬ ∃ node ∈ [51], node ≠ 50 ∧ after.Places 30 node :=
  ⟨by decide +kernel, halfCovered, smartMigratePlacements_halfCovered, by decide +kernel⟩

theorem smart_migration_rescues_covered :
    ∃ after, halfCovered.smartMigratePlacements 50 [51] 0 = some after ∧
      ∃ node ∈ [51], node ≠ 50 ∧ after.Places 31 node :=
  ⟨halfCovered, smartMigratePlacements_halfCovered,
    (smart_migration_rescues_key_iff (by decide) (by decide +kernel)
      smartMigratePlacements_halfCovered).mpr fun _ => by decide +kernel⟩

/-! ## The spread of the orphans -/

/-- The candidates were given equally many orphans, up to one. -/
def Spread (candidates : List Uuid) (assigned : List (Uuid × Uuid)) : Prop :=
  ∀ node ∈ candidates, ∀ other ∈ candidates,
    assigned.countP (·.2 = node) ≤ assigned.countP (·.2 = other) + 1

/-- The least-loaded choice keeps the loads even as long as every candidate can be chosen. -/
theorem Database.spread_distribute {db : Database}
    (hfree : ∀ placement ∈ orphans, ∀ node ∈ candidates,
      node ∉ db.activeBackendNodes placement.keyId) :
    Spread candidates (db.distribute candidates orphans) := by
  unfold Database.distribute
  suffices hloop : ∀ assigned, Spread candidates assigned →
      Spread candidates (orphans.foldl _ assigned) from hloop [] (by simp [Spread])
  induction orphans with
  | nil => exact fun _ h => h
  | cons placement rest ih =>
    intro assigned h
    obtain ⟨hfirst, hrest⟩ := forall_mem_cons.mp hfree
    refine ih hrest _ ?_
    have hall : candidates.filter (· ∉ db.activeBackendNodes placement.keyId) = candidates :=
      filter_eq_self.mpr fun node hnode => decide_eq_true (hfirst node hnode)
    dsimp only
    rw [hall, ite_self]
    split
    · exact h
    · rename_i best hbest
      intro node hnode other hother
      have hleast := le_of_mem_argmin hother hbest
      have heven := h node hnode other hother
      simp only [countP_append, countP_singleton, decide_eq_true_eq]
      split <;> split <;> grind

/-- **Orphans are spread evenly.** -/
theorem orphans_spread_evenly (db : Database) (source : Uuid) (selected : List Uuid)
    (hselected : ∃ node ∈ selected, node ≠ source) :
    let candidates := selected.filter (· ≠ source)
    let assigned := db.distribute candidates (db.orphanPlacements source candidates)
    (∀ orphan ∈ db.orphanPlacements source candidates, ∃! target, (orphan.id, target) ∈ assigned) ∧
      (∀ pair ∈ assigned, pair.2 ∈ candidates ∧ pair.2 ≠ source) ∧ Spread candidates assigned := by
  intro candidates assigned
  have hcandidates : candidates ≠ [] := by simpa [candidates, List.filter_eq_nil_iff] using hselected
  obtain ⟨hfirst, hsecond⟩ := db.distribute_spec hcandidates
  have hnodup := db.nodup_orphanPlacements source candidates
  rw [← hfirst] at hnodup
  refine ⟨fun orphan horphan => ?_, fun pair hpair => ⟨hsecond pair hpair, ?_⟩,
    Database.spread_distribute fun placement horphan node hnode hactive => ?_⟩
  · obtain ⟨pair, hpair, hid⟩ := List.mem_map.mp (hfirst ▸ List.mem_map_of_mem horphan)
    refine ⟨pair.2, hid ▸ hpair, fun target htarget => ?_⟩
    exact congrArg Prod.snd (List.inj_on_of_nodup_map hnodup htarget hpair hid.symm)
  · exact of_decide_eq_true (List.mem_filter.mp (hsecond pair hpair)).2
  · obtain ⟨hnode, hne⟩ := List.mem_filter.mp hnode
    exact (mem_orphanPlacements.mp horphan).2 ⟨node, hactive, of_decide_eq_true hne, hnode⟩

theorem orphans_spread_evenly_halfCovered :
    Spread [52, 53] (halfCovered.distribute [52, 53] (halfCovered.orphanPlacements 50 [52, 53])) :=
  (orphans_spread_evenly halfCovered 50 [52, 53] (by decide)).2.2

end VpnControl.Vpn

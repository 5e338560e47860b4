/-
# The specs are well formed

A spec is well formed if its tags are distinct, every user has one rule, and every tag that is
used is declared. The loops over the users plan some outbounds for each user, of which those with
a new tag are declared, and add one rule and at most one group. So all tags of rules and groups
are declared. What may be missing is the final outbound: in the shared mode it is the tag of the
first candidate, whether or not any user has been assigned to it. And without candidates there are
no rules at all.
-/

import VpnControl.EntryRouting.Spec

namespace VpnControl.EntryRouting

open Txn List Function
open Billing (Uuid Time)
open Fleet (VpnNode)

/-! ## What the loops plan -/

section Plans

variable (cfg : EntryRoutingConfig) (lib : RoutingLibrary) (first : VpnNode) (rest : List VpnNode)
  (overrides : List (String × String)) (uuid : String)

/-- The candidates that a user may be sent to. -/
def servingNodes : List VpnNode :=
  if perUserMode cfg then
    ((forcedNode (first :: rest) overrides uuid).map fun node => [node]).getD (first :: rest)
  else [assignedNode lib first rest overrides uuid]

/-- The outbound over which a user reaches a candidate. -/
def outboundTo (node : VpnNode) : EntryRoutingBackend :=
  if perUserMode cfg then makeOutbound cfg node (userOutboundTag node.name uuid) uuid
  else makeOutbound cfg node (backendNodeTag node) cfg.backendServiceUuid

/-- The outbounds of a user. -/
def plannedOutbounds : List EntryRoutingBackend :=
  (servingNodes cfg lib first rest overrides uuid).map (outboundTo cfg uuid)

def plannedGroups : List EntryRoutingUrltestGroup :=
  match plannedOutbounds cfg lib first rest overrides uuid with
  | [_] => []
  | outbounds =>
    if perUserMode cfg ∧ forcedNode (first :: rest) overrides uuid = none then
      [{ tag := userUrltestTag uuid, outbounds := outbounds.map (·.tag) }]
    else []

/-- The tag that the rule of a user names. -/
def ruleTag : String :=
  match plannedGroups cfg lib first rest overrides uuid with
  | group :: _ => group.tag
  | [] => ((plannedOutbounds cfg lib first rest overrides uuid).map (·.tag)).headD ""

/-- A loop that declares the planned outbounds and appends the planned rule and groups. -/
structure Follows (add : Materialized → EntryRoutingUser → Materialized) : Prop where
  outbounds : ∀ acc user, (add acc user).outbounds =
    (plannedOutbounds cfg lib first rest overrides user.uuid).foldl declare acc.outbounds
  rules : ∀ acc user, (add acc user).rules =
    acc.rules ++ [⟨user.uuid, ruleTag cfg lib first rest overrides user.uuid⟩]
  urltestGroups : ∀ acc user, (add acc user).urltestGroups =
    acc.urltestGroups ++ plannedGroups cfg lib first rest overrides user.uuid

@[simp]
theorem tag_makeOutbound {uuid : String} : (makeOutbound cfg node tag uuid).tag = tag := by
  unfold makeOutbound
  split <;> rfl

theorem follows_addShared (h : perUserMode cfg = false) :
    Follows cfg lib first rest overrides (addShared cfg lib first rest overrides) := by
  constructor <;> intro acc user <;>
    simp [addShared, plannedOutbounds, plannedGroups, ruleTag, servingNodes, outboundTo, h]

theorem follows_addPerUser (h : perUserMode cfg = true) :
    Follows cfg lib first rest overrides (addPerUser cfg (first :: rest) overrides) := by
  constructor <;> intro acc user <;>
    cases hforced : forcedNode (first :: rest) overrides user.uuid with
    | some =>
      simp [addPerUser, plannedOutbounds, plannedGroups, ruleTag, servingNodes, outboundTo, h,
        hforced]
    | none =>
      -- with one candidate there is no group
      cases rest <;>
        simp [addPerUser, plannedOutbounds, plannedGroups, ruleTag, servingNodes, outboundTo, h,
          hforced, foldl_map, comp_def]

theorem plannedOutbounds_ne_nil : plannedOutbounds cfg lib first rest overrides uuid ≠ [] := by
  unfold plannedOutbounds servingNodes
  split
  · cases forcedNode (first :: rest) overrides uuid <;> simp
  · simp

theorem plannedGroups_eq : plannedGroups cfg lib first rest overrides uuid = [] ∨
    perUserMode cfg = true ∧ plannedGroups cfg lib first rest overrides uuid =
      [{ tag := userUrltestTag uuid
         outbounds := (plannedOutbounds cfg lib first rest overrides uuid).map (·.tag) }] := by
  unfold plannedGroups
  split
  · exact .inl rfl
  · split
    · rename_i hgroup
      exact .inr ⟨hgroup.1, rfl⟩
    · exact .inl rfl

theorem ruleTag_mem : ruleTag cfg lib first rest overrides uuid ∈
        (plannedGroups cfg lib first rest overrides uuid).map (·.tag) ∨
      ruleTag cfg lib first rest overrides uuid ∈
        (plannedOutbounds cfg lib first rest overrides uuid).map (·.tag) := by
  unfold ruleTag
  split
  · exact .inl (by simp [*])
  · refine .inr ?_
    obtain ⟨outbound, outbounds, hplanned⟩ :=
      exists_cons_of_ne_nil (plannedOutbounds_ne_nil cfg lib first rest overrides uuid)
    simp [hplanned]

variable {cfg lib first rest overrides}
variable {add : Materialized → EntryRoutingUser → Materialized}

/-- What the loop over the users leaves. -/
theorem Follows.foldl (h : Follows cfg lib first rest overrides add)
    (users : List EntryRoutingUser) (acc : Materialized) :
    users.foldl add acc = {
      outbounds := (users.flatMap fun user =>
        plannedOutbounds cfg lib first rest overrides user.uuid).foldl declare acc.outbounds
      rules := acc.rules ++ users.map fun user =>
        ⟨user.uuid, ruleTag cfg lib first rest overrides user.uuid⟩
      urltestGroups := acc.urltestGroups ++ users.flatMap fun user =>
        plannedGroups cfg lib first rest overrides user.uuid } := by
  induction users generalizing acc with
  | nil => simp
  | cons _ _ ih =>
    rw [foldl_cons, ih, h.outbounds, h.rules, h.urltestGroups]
    simp [foldl_append]

end Plans

/-! ## Well-formed specs -/

namespace EntryRoutingSpec

/-- The tag is one of an outbound or a group of the spec, or built in. -/
def Declared (spec : EntryRoutingSpec) (tag : String) : Prop :=
  tag ∈ spec.backends.map (·.tag) ∨ tag ∈ spec.urltestGroups.map (·.tag) ∨
    tag = "direct" ∨ tag = "block"

structure WellFormed (spec : EntryRoutingSpec) : Prop where
  outbounds_nodup : (spec.backends.map (·.tag)).Nodup
  groups_nodup : (spec.urltestGroups.map (·.tag)).Nodup
  apart : ∀ group ∈ spec.urltestGroups, ∀ outbound ∈ spec.backends, group.tag ≠ outbound.tag
  /-- One rule for each user. -/
  rules : (spec.rules.map (·.userUuid)).Perm (spec.users.map (·.uuid))
  rule_declared : ∀ rule ∈ spec.rules, spec.Declared rule.outboundTag
  group_declared : ∀ group ∈ spec.urltestGroups, ∀ tag ∈ group.outbounds, spec.Declared tag
  final_declared : spec.Declared spec.finalOutbound

end EntryRoutingSpec

section Materialized

variable {cfg : EntryRoutingConfig} {lib : RoutingLibrary} {first : VpnNode} {rest : List VpnNode}
  {overrides : List (String × String)} {users : List EntryRoutingUser} {spec : EntryRoutingSpec}

/-- The tags of the users' groups are among the ones made from their uuids, in this order. -/
theorem tags_plannedGroups_sublist :
    ((users.flatMap fun user => plannedGroups cfg lib first rest overrides user.uuid).map
      (·.tag)).Sublist (users.map fun user => userUrltestTag user.uuid) := by
  induction users with
  | nil => simp
  | cons user _ ih =>
    rw [flatMap_cons, map_append, map_cons]
    rcases plannedGroups_eq cfg lib first rest overrides user.uuid with hnone | ⟨-, hgroup⟩
    · rw [hnone]
      exact ih.cons _
    · rw [hgroup]
      exact ih.cons_cons _

theorem mem_outbound_tags : tag ∈ (((users.flatMap fun user =>
      plannedOutbounds cfg lib first rest overrides user.uuid).foldl declare []).map (·.tag)) ↔
      ∃ user ∈ users, tag ∈ (plannedOutbounds cfg lib first rest overrides user.uuid).map
        (·.tag) := by
  rw [declare, mem_map_foldl_keepFirst]
  simp only [map_nil, not_mem_nil, false_or, mem_map, mem_flatMap]
  constructor
  · rintro ⟨outbound, ⟨user, huser, hplanned⟩, rfl⟩
    exact ⟨user, huser, outbound, hplanned, rfl⟩
  · rintro ⟨user, huser, outbound, hplanned, rfl⟩
    exact ⟨outbound, ⟨user, huser, hplanned⟩, rfl⟩

/-- An outbound of a user is not named like a group. -/
theorem tag_ne_userUrltestTag (hmode : perUserMode cfg = true)
    (h : outbound ∈ plannedOutbounds cfg lib first rest overrides uuid) :
    userUrltestTag other ≠ outbound.tag := by
  obtain ⟨node, -, rfl⟩ := mem_map.mp h
  rw [outboundTo, if_pos hmode, tag_makeOutbound]
  intro heq
  have hchars := congrArg String.toList heq
  simp [userUrltestTag, userOutboundTag] at hchars

/-- Whatever the loop leaves is well formed as far as its own tags are concerned. -/
theorem wellFormed_of_planned (husers : (users.map (·.uuid)).Nodup) (hspec : spec.users = users)
    (hbackends : spec.backends = (users.flatMap fun user =>
      plannedOutbounds cfg lib first rest overrides user.uuid).foldl declare [])
    (hrules : spec.rules = users.map fun user =>
      ⟨user.uuid, ruleTag cfg lib first rest overrides user.uuid⟩)
    (hgroups : spec.urltestGroups = users.flatMap fun user =>
      plannedGroups cfg lib first rest overrides user.uuid) :
    spec.WellFormed ↔ spec.Declared spec.finalOutbound := by
  refine ⟨fun h => h.final_declared, fun hfinal => ?_⟩
  have hdeclared : ∀ user ∈ users,
      ∀ tag ∈ (plannedOutbounds cfg lib first rest overrides user.uuid).map (·.tag),
        spec.Declared tag := by
    intro user huser tag htag
    refine .inl ?_
    rw [hbackends]
    exact mem_outbound_tags.mpr ⟨user, huser, htag⟩
  refine ⟨?_, ?_, ?_, ?_, ?_, ?_, hfinal⟩
  · rw [hbackends]
    exact nodup_map_foldl_keepFirst (by simp) _
  · rw [hgroups]
    have hinj : Injective userUrltestTag := fun a b h => by simpa [userUrltestTag] using h
    have hnodup : (users.map fun user => userUrltestTag user.uuid).Nodup := by
      simpa [comp_def] using husers.map hinj
    exact hnodup.sublist tags_plannedGroups_sublist
  · intro group hgroup outbound houtbound
    rw [hgroups] at hgroup
    rw [hbackends] at houtbound
    obtain ⟨user, -, hplanned⟩ := mem_flatMap.mp hgroup
    rcases plannedGroups_eq cfg lib first rest overrides user.uuid with hnone | ⟨hmode, hone⟩
    · rw [hnone] at hplanned
      cases hplanned
    · rw [hone, mem_singleton] at hplanned
      obtain ⟨other, -, hother⟩ := mem_outbound_tags.mp (mem_map_of_mem houtbound)
      obtain ⟨planned, hmem, htag⟩ := mem_map.mp hother
      rw [hplanned, ← htag]
      exact tag_ne_userUrltestTag hmode hmem
  · rw [hrules, hspec, map_map]
    exact Perm.refl _
  · intro rule hrule
    rw [hrules] at hrule
    obtain ⟨user, huser, rfl⟩ := mem_map.mp hrule
    rcases ruleTag_mem cfg lib first rest overrides user.uuid with hgroup | houtbound
    · refine .inr (.inl ?_)
      rw [hgroups]
      obtain ⟨group, hmem, htag⟩ := mem_map.mp hgroup
      exact mem_map.mpr ⟨group, mem_flatMap.mpr ⟨user, huser, hmem⟩, htag⟩
    · exact hdeclared user huser _ houtbound
  · intro group hgroup tag htag
    rw [hgroups] at hgroup
    obtain ⟨user, huser, hplanned⟩ := mem_flatMap.mp hgroup
    rcases plannedGroups_eq cfg lib first rest overrides user.uuid with hnone | ⟨-, hone⟩
    · rw [hnone] at hplanned
      cases hplanned
    · rw [hone, mem_singleton] at hplanned
      rw [hplanned] at htag
      exact hdeclared user huser tag htag

end Materialized

/-! ## The condition -/

section Build

variable {cfg : EntryRoutingConfig} {lib : RoutingLibrary} {tables : RoutingTables} {now : Time}
  {nodeId : Uuid} {routeFilterFails : Bool} {spec : EntryRoutingSpec} {entry : VpnNode}
  {overrides : List (String × String)} {users : List EntryRoutingUser}

/-- The spec holds what the loops have left for some users, candidates and overrides. -/
structure EntryRoutingSpec.Holds (spec : EntryRoutingSpec) (users : List EntryRoutingUser)
    (materialized : Materialized × String) : Prop where
  users : spec.users = users
  backends : spec.backends = materialized.1.outbounds
  rules : spec.rules = materialized.1.rules
  urltestGroups : spec.urltestGroups = materialized.1.urltestGroups
  finalOutbound : spec.finalOutbound = materialized.2

theorem of_buildSpecForNode
    (h : buildSpecForNode cfg lib tables now nodeId routeFilterFails = some spec) :
    ∃ entry, tables.nodes.find? nodeId = some entry ∧ entry.role.isEntry = true ∧
      spec.nodeId = entry.id ∧ spec.Holds (liveUsers tables now) (materializeOutboundsAndRules cfg lib
        (liveUsers tables now)
        (candidateBackendNodesForZone cfg lib tables entry routeFilterFails)
        (liveOverrides tables now)) := by
  unfold buildSpecForNode at h
  split at h
  · cases h
  · rename_i entry hentry
    split at h
    · cases h
    · rename_i hrole
      cases h
      exact ⟨entry, hentry, by simpa using hrole, rfl, ⟨rfl, rfl, rfl, rfl, rfl⟩⟩

/-- Users come with candidates, and where the users share outbounds, one of them is assigned to
the first candidate by name. -/
def Routable (cfg : EntryRoutingConfig) (lib : RoutingLibrary) (users : List EntryRoutingUser)
    (candidates : List VpnNode) (overrides : List (String × String)) : Prop :=
  (users = [] ∨ candidates ≠ []) ∧
    (perUserMode cfg = true ∨ ∀ first rest, sortedByName candidates = first :: rest →
      ∃ user ∈ users,
        backendNodeTag (assignedNode lib first rest overrides user.uuid) = backendNodeTag first)

theorem sortedByName_eq_nil : sortedByName candidates = [] ↔ candidates = [] := by
  rw [← length_eq_zero_iff, sortedByName, length_insertionSort, length_eq_zero_iff]

/-- In the shared mode a tag is declared if a user has been assigned to a candidate with it. -/
theorem declared_backendNodeTag
    (hmode : perUserMode cfg = false) (hbackends : spec.backends = (users.flatMap fun user =>
      plannedOutbounds cfg lib first rest overrides user.uuid).foldl declare [])
    (hgroups : spec.urltestGroups = users.flatMap fun user =>
      plannedGroups cfg lib first rest overrides user.uuid) :
    spec.Declared (backendNodeTag node) ↔ ∃ user ∈ users,
      backendNodeTag (assignedNode lib first rest overrides user.uuid) = backendNodeTag node := by
  have hnone : spec.urltestGroups = [] := by
    rw [hgroups, flatMap_eq_nil_iff]
    intro user _
    simp [plannedGroups, hmode]
    split <;> rfl
  have hdirect : backendNodeTag node ≠ "direct" ∧ backendNodeTag node ≠ "block" := by
    constructor <;> intro heq <;> simpa [backendNodeTag] using congrArg String.toList heq
  rw [EntryRoutingSpec.Declared, hnone, hbackends, mem_outbound_tags]
  simp [plannedOutbounds, servingNodes, outboundTo, hmode, hdirect, eq_comm]

theorem wellFormed_iff_of_holds (husers : (users.map (·.uuid)).Nodup)
    (h : spec.Holds users (materializeOutboundsAndRules cfg lib users candidates overrides)) :
    spec.WellFormed ↔ Routable cfg lib users candidates overrides := by
  unfold materializeOutboundsAndRules at h
  cases hsorted : sortedByName candidates with
  | nil =>
    -- nothing is declared and there are no rules
    rw [hsorted] at h
    have hcandidates := sortedByName_eq_nil.mp hsorted
    have hroutable : Routable cfg lib users candidates overrides ↔ users = [] := by
      simp [Routable, hcandidates, sortedByName]
    rw [hroutable]
    constructor
    · intro hwell
      have hrules := hwell.rules
      rw [h.rules, h.users] at hrules
      simpa using hrules
    · rintro rfl
      refine ⟨?_, ?_, ?_, ?_, ?_, ?_, ?_⟩ <;>
        simp [EntryRoutingSpec.Declared, h.users, h.backends, h.rules, h.urltestGroups,
          h.finalOutbound]
  | cons first rest =>
    rw [hsorted] at h
    have hcandidates : candidates ≠ [] := fun hnil => by
      rw [sortedByName_eq_nil.mpr hnil] at hsorted
      cases hsorted
    cases hmode : perUserMode cfg with
    | true =>
      simp only [hmode, if_true, (follows_addPerUser cfg lib first rest overrides hmode).foldl,
        nil_append] at h
      rw [wellFormed_of_planned husers h.users h.backends h.rules h.urltestGroups]
      have hfinal : spec.Declared spec.finalOutbound := by
        rw [h.finalOutbound]
        exact .inr (.inr (.inr rfl))
      exact iff_of_true hfinal ⟨.inr hcandidates, .inl hmode⟩
    | false =>
      simp only [hmode, Bool.false_eq_true, if_false,
        (follows_addShared cfg lib first rest overrides hmode).foldl, nil_append] at h
      rw [wellFormed_of_planned husers h.users h.backends h.rules h.urltestGroups,
        h.finalOutbound, declared_backendNodeTag hmode h.backends h.urltestGroups]
      simp [Routable, hsorted, hcandidates, hmode]

/-- The client ids in a spec are those of different keys. -/
theorem nodup_liveUsers (hkeys : (tables.keys.rows.map (·.clientId)).Nodup) :
    ((liveUsers tables now).map (·.uuid)).Nodup := by
  have hsublist : ((liveUsers tables now).map (·.uuid)).Sublist
      (tables.keys.rows.map (·.clientId)) := by
    rw [liveUsers, map_map]
    exact ((filter_sublist).trans filter_sublist).map _
  exact hkeys.sublist hsublist

end Build

/-- An entry with two backends in its zone and one key. -/
def twoBackends : RoutingTables where
  nodes := [{ id := 1, name := "entry", role := .entry, region := "de" },
    { id := 2, name := "a", region := "de", publicDomain := "a.test" },
    { id := 3, name := "b", region := "de", publicDomain := "b.test" }].foldl Table.insert .empty
  keys := Table.empty.insert {
    id := 10, transport := .reality, clientId := "client", validUntil := 100, isRevoked := false
    subscriptionId := none }
  routes := .empty
  profiles := .empty

def sharedConfig : EntryRoutingConfig :=
  { backendServiceUuid := "service", backendRealityPublicKey := "public" }

/-- All client ids have one digest. -/
def constantDigest (digest : ℕ) : RoutingLibrary := ⟨fun _ => digest, fun _ region => region⟩

end VpnControl.EntryRouting

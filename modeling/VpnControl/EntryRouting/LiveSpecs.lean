/-
# Live users and live backends

The backends in a spec are candidates, and these have the role of a backend, are enabled and are
not draining. No query asks whether they are active, nor whether the entry is. The users are the
client ids of the live keys, except that an empty client id is passed over.
-/

import VpnControl.EntryRouting.WellFormed

namespace VpnControl.EntryRouting

open Txn List Option
open Billing (Uuid Time)
open Fleet (VpnNode)

/-- The spec is for an active entry and leads its users to active backends, and its users are the
client ids of the keys that are active, not revoked and not expired. -/
structure EntryRoutingSpec.Live (spec : EntryRoutingSpec) (tables : RoutingTables) (now : Time) :
    Prop where
  entry : (tables.nodes.find? spec.nodeId).any (·.isActive) = true
  backends : ∀ outbound ∈ spec.backends, ∃ node,
    tables.nodes.find? outbound.backendNodeId = some node ∧ node.role = .backend ∧
      node.isActive = true ∧ node.isEnabled = true ∧ node.isDraining = false
  users : ∀ clientId, clientId ∈ spec.users.map (·.uuid) ↔ ∃ key ∈ tables.keys.rows,
    key.isActive = true ∧ key.isRevoked = false ∧ now < key.validUntil ∧ key.clientId = clientId

section Candidates

variable {cfg : EntryRoutingConfig} {lib : RoutingLibrary} {tables : RoutingTables}
  {entry node first : VpnNode} {rest : List VpnNode} {routeFilterFails : Bool}
  {overrides : List (String × String)} {uuid : String}

/-- What both queries ask of a candidate. -/
theorem of_mem_candidates
    (h : node ∈ candidateBackendNodesForZone cfg lib tables entry routeFilterFails) :
    node ∈ tables.nodes.rows ∧ node.role = .backend ∧ node.isEnabled = true ∧
      node.isDraining = false := by
  unfold candidateBackendNodesForZone at h
  split at h
  · cases h
  · split at h
    · cases h
    · dsimp only at h
      generalize (if routeFilterFails = true then []
        else tables.listBackendIdsForEntry entry.id) = routeBackendIds at h
      split at h
      · obtain ⟨hmem, hnode⟩ := mem_filter.mp h
        obtain ⟨-, hrole, henabled, hdraining, -⟩ := of_decide_eq_true hnode
        exact ⟨(mem_filter.mp hmem).1, hrole, henabled, by simpa using hdraining⟩
      · obtain ⟨hmem, hnode⟩ := mem_filter.mp h
        obtain ⟨hrole, henabled, hdraining, -⟩ := of_decide_eq_true hnode
        exact ⟨(mem_insertionSort _).mp hmem, hrole, henabled, by simpa using hdraining⟩

theorem mem_of_forcedNode (h : forcedNode (first :: rest) overrides uuid = some node) :
    node ∈ first :: rest := by
  obtain ⟨forced, -, hfound⟩ := bind_eq_some_iff.mp h
  exact mem_reverse.mp (mem_of_find?_eq_some hfound)

/-- Users are served by candidates. -/
theorem mem_of_mem_servingNodes (h : node ∈ servingNodes cfg lib first rest overrides uuid) :
    node ∈ first :: rest := by
  unfold servingNodes at h
  split at h
  · cases hforced : forcedNode (first :: rest) overrides uuid with
    | none => simpa [hforced] using h
    | some =>
      rw [hforced, map_some, getD_some, mem_singleton] at h
      exact h ▸ mem_of_forcedNode hforced
  · rw [mem_singleton] at h
    subst h
    unfold assignedNode
    split
    · rename_i hforced
      exact mem_of_forcedNode hforced
    · have hlt : lib.digest uuid % (first :: rest).length < (first :: rest).length :=
        Nat.mod_lt _ (by simp)
      rw [getD_eq_getElem?_getD, getElem?_eq_getElem hlt, getD_some]
      exact getElem_mem hlt

@[simp]
theorem backendNodeId_outboundTo : (outboundTo cfg uuid node).backendNodeId = node.id := by
  unfold outboundTo makeOutbound
  split <;> split <;> rfl

/-- The users with the candidates that serve them, in the order in which their outbounds come. -/
def servingPairs (cfg : EntryRoutingConfig) (lib : RoutingLibrary) (users : List EntryRoutingUser)
    (candidates : List VpnNode) (overrides : List (String × String)) :
    List (EntryRoutingUser × VpnNode) :=
  match sortedByName candidates with
  | [] => []
  | first :: rest => users.flatMap fun user =>
    (servingNodes cfg lib first rest overrides user.uuid).map (user, ·)

def pairTag (cfg : EntryRoutingConfig) (pair : EntryRoutingUser × VpnNode) : String :=
  (outboundTo cfg pair.1.uuid pair.2).tag

variable {users : List EntryRoutingUser} {candidates : List VpnNode}

/-- The outbounds are those of the pairs, each tag with its first pair. -/
theorem outbounds_materialize :
    (materializeOutboundsAndRules cfg lib users candidates overrides).1.outbounds =
      ((servingPairs cfg lib users candidates overrides).map fun pair =>
        outboundTo cfg pair.1.uuid pair.2).foldl declare [] := by
  unfold materializeOutboundsAndRules servingPairs
  cases hsorted : sortedByName candidates with
  | nil => rfl
  | cons first rest =>
    have hpairs : (users.flatMap fun user =>
        (servingNodes cfg lib first rest overrides user.uuid).map (user, ·)).map
          (fun pair => outboundTo cfg pair.1.uuid pair.2) =
        users.flatMap fun user => plannedOutbounds cfg lib first rest overrides user.uuid := by
      simp [map_flatMap, plannedOutbounds, Function.comp_def]
    cases hmode : perUserMode cfg with
    | true => simp [(follows_addPerUser cfg lib first rest overrides hmode).foldl, hpairs]
    | false => simp [(follows_addShared cfg lib first rest overrides hmode).foldl, hpairs]

theorem mem_of_mem_servingPairs
    (h : pair ∈ servingPairs cfg lib users candidates overrides) : pair.2 ∈ candidates := by
  unfold servingPairs at h
  split at h
  · cases h
  · rename_i first rest hsorted
    obtain ⟨user, -, hpair⟩ := mem_flatMap.mp h
    obtain ⟨node, hnode, rfl⟩ := mem_map.mp hpair
    have hmem := mem_of_mem_servingNodes hnode
    rw [← hsorted] at hmem
    exact (mem_insertionSort _).mp hmem

def FirstWithTag (cfg : EntryRoutingConfig) (pairs : List (EntryRoutingUser × VpnNode))
    (pair : EntryRoutingUser × VpnNode) : Prop :=
  ∃ before after, pairs = before ++ pair :: after ∧
    ∀ earlier ∈ before, pairTag cfg earlier ≠ pairTag cfg pair

theorem mem_outbounds_iff :
    outbound ∈ (materializeOutboundsAndRules cfg lib users candidates overrides).1.outbounds ↔
      ∃ pair, FirstWithTag cfg (servingPairs cfg lib users candidates overrides) pair ∧
        outboundTo cfg pair.1.uuid pair.2 = outbound := by
  rw [outbounds_materialize, declare, mem_foldl_keepFirst]
  simp only [not_mem_nil, map_nil, not_false_eq_true, true_and, false_or]
  constructor
  · rintro ⟨before, after, hsplit, hbefore⟩
    obtain ⟨pairs, others, hpairs, rfl, hothers⟩ := map_eq_append_iff.mp hsplit
    obtain ⟨pair, rest, rfl, rfl, rfl⟩ := map_eq_cons_iff.mp hothers
    refine ⟨pair, ⟨pairs, rest, hpairs, fun earlier hearlier => ?_⟩, rfl⟩
    exact hbefore _ (mem_map_of_mem hearlier)
  · rintro ⟨pair, ⟨before, after, hpairs, hbefore⟩, rfl⟩
    refine ⟨before.map _, after.map _, by rw [hpairs, map_append, map_cons], ?_⟩
    intro earlier hearlier
    obtain ⟨other, hother, rfl⟩ := mem_map.mp hearlier
    exact hbefore other hother

end Candidates

section Build

variable {cfg : EntryRoutingConfig} {lib : RoutingLibrary} {tables : RoutingTables} {now : Time}
  {nodeId : Uuid} {routeFilterFails : Bool} {spec : EntryRoutingSpec} {entry : VpnNode}

/-- The entry is active, no live key has an empty client id, and every candidate is active that is
the first one to give a user an outbound with its tag. -/
structure AllActive (cfg : EntryRoutingConfig) (lib : RoutingLibrary) (tables : RoutingTables)
    (now : Time) (entry : VpnNode) (routeFilterFails : Bool) : Prop where
  entry_active : entry.isActive = true
  clientIds : ∀ key ∈ tables.listAllActive now, key.clientId ≠ ""
  backends_active : ∀ pair, FirstWithTag cfg (servingPairs cfg lib (liveUsers tables now)
    (candidateBackendNodesForZone cfg lib tables entry routeFilterFails)
    (liveOverrides tables now)) pair → pair.2.isActive = true

theorem backends_live_iff (hholds : spec.Holds (liveUsers tables now)
      (materializeOutboundsAndRules cfg lib (liveUsers tables now)
        (candidateBackendNodesForZone cfg lib tables entry routeFilterFails)
        (liveOverrides tables now))) :
    (∀ outbound ∈ spec.backends, ∃ node,
      tables.nodes.find? outbound.backendNodeId = some node ∧ node.role = .backend ∧
        node.isActive = true ∧ node.isEnabled = true ∧ node.isDraining = false) ↔
    ∀ pair, FirstWithTag cfg (servingPairs cfg lib (liveUsers tables now)
      (candidateBackendNodesForZone cfg lib tables entry routeFilterFails)
      (liveOverrides tables now)) pair → pair.2.isActive = true := by
  -- the row with the id of a pair's candidate is that candidate
  have hfind : ∀ pair, FirstWithTag cfg (servingPairs cfg lib (liveUsers tables now)
      (candidateBackendNodesForZone cfg lib tables entry routeFilterFails)
      (liveOverrides tables now)) pair →
      tables.nodes.find? pair.2.id = some pair.2 ∧ pair.2.role = .backend ∧
        pair.2.isEnabled = true ∧ pair.2.isDraining = false := by
    rintro pair ⟨before, after, hpairs, -⟩
    have hmem : pair ∈ servingPairs cfg lib (liveUsers tables now)
        (candidateBackendNodesForZone cfg lib tables entry routeFilterFails)
        (liveOverrides tables now) := by
      rw [hpairs]
      simp
    obtain ⟨hrow, hcandidate⟩ := of_mem_candidates (mem_of_mem_servingPairs hmem)
    exact ⟨Table.find?_of_mem hrow, hcandidate⟩
  rw [hholds.backends]
  constructor
  · intro h pair hpair
    obtain ⟨node, hnode, -, hactive, -⟩ := h _ (mem_outbounds_iff.mpr ⟨pair, hpair, rfl⟩)
    rw [backendNodeId_outboundTo, (hfind pair hpair).1] at hnode
    cases hnode
    exact hactive
  · intro h outbound houtbound
    obtain ⟨pair, hpair, rfl⟩ := mem_outbounds_iff.mp houtbound
    obtain ⟨hrow, hrole, henabled, hdraining⟩ := hfind pair hpair
    exact ⟨pair.2, by rwa [backendNodeId_outboundTo], hrole, h pair hpair, henabled, hdraining⟩

theorem users_live_iff :
    (∀ clientId, clientId ∈ (liveUsers tables now).map (·.uuid) ↔ ∃ key ∈ tables.keys.rows,
      key.isActive = true ∧ key.isRevoked = false ∧ now < key.validUntil ∧
        key.clientId = clientId) ↔
    ∀ key ∈ tables.listAllActive now, key.clientId ≠ "" := by
  have hlive : ∀ key, key ∈ tables.listAllActive now ↔ key ∈ tables.keys.rows ∧
      key.isActive = true ∧ now < key.validUntil ∧ key.isRevoked = false := by
    intro key
    simp [RoutingTables.listAllActive]
  have husers : ∀ clientId, clientId ∈ (liveUsers tables now).map (·.uuid) ↔
      ∃ key ∈ tables.listAllActive now, key.clientId ≠ "" ∧ key.clientId = clientId := by
    intro clientId
    simp [liveUsers, and_assoc]
  constructor
  · intro h key hkey hempty
    obtain ⟨hrow, hactive, hvalid, hrevoked⟩ := (hlive key).mp hkey
    obtain ⟨other, -, hother, heq⟩ := (husers "").mp
      ((h "").mpr ⟨key, hrow, hactive, hrevoked, hvalid, hempty⟩)
    exact hother heq
  · intro h clientId
    rw [husers]
    constructor
    · rintro ⟨key, hkey, -, rfl⟩
      obtain ⟨hrow, hactive, hvalid, hrevoked⟩ := (hlive key).mp hkey
      exact ⟨key, hrow, hactive, hrevoked, hvalid, rfl⟩
    · rintro ⟨key, hrow, hactive, hrevoked, hvalid, rfl⟩
      have hkey := (hlive key).mpr ⟨hrow, hactive, hvalid, hrevoked⟩
      exact ⟨key, hkey, h key hkey, rfl⟩

/-- A spec is built from live rows alone exactly if the entry and the backends that get an outbound
are active and no live key has an empty client id. -/
theorem live_iff_allActive (hentry : tables.nodes.find? nodeId = some entry)
    (hspec : buildSpecForNode cfg lib tables now nodeId routeFilterFails = some spec) :
    spec.Live tables now ↔ AllActive cfg lib tables now entry routeFilterFails := by
  obtain ⟨found, hfound, -, hid, hholds⟩ := of_buildSpecForNode hspec
  cases hentry.symm.trans hfound
  have hrow : tables.nodes.find? spec.nodeId = some entry := by
    rw [hid]
    exact Table.find?_of_mem (Table.mem_of_find? hentry)
  constructor
  · intro h
    refine ⟨by simpa [hrow] using h.entry, ?_, (backends_live_iff hholds).mp h.backends⟩
    exact users_live_iff.mp (hholds.users ▸ h.users)
  · intro h
    refine ⟨by simpa [hrow] using h.entry_active, (backends_live_iff hholds).mpr h.backends_active, ?_⟩
    rw [hholds.users]
    exact users_live_iff.mpr h.clientIds

end Build

theorem live_iff_allActive_twoBackends :
    ∃ spec, buildSpecForNode sharedConfig (constantDigest 1) twoBackends 0 1 false = some spec ∧
      spec.backends ≠ [] ∧ spec.Live twoBackends 0 := by
  obtain ⟨spec, hspec, hbackends⟩ : ∃ spec,
      buildSpecForNode sharedConfig (constantDigest 1) twoBackends 0 1 false = some spec ∧
      spec.backends ≠ [] := ⟨_, rfl, by decide⟩
  refine ⟨spec, hspec, hbackends, (live_iff_allActive rfl hspec).mpr ⟨rfl, by decide, ?_⟩⟩
  rintro pair ⟨before, after, hpairs, -⟩
  have hmem : pair ∈ servingPairs sharedConfig (constantDigest 1) (liveUsers twoBackends 0)
      (candidateBackendNodesForZone sharedConfig (constantDigest 1) twoBackends
        { id := 1, name := "entry", role := .entry, region := "de" } false)
      (liveOverrides twoBackends 0) := by
    rw [hpairs]
    simp
  have hall : ∀ pair ∈ servingPairs sharedConfig (constantDigest 1) (liveUsers twoBackends 0)
      (candidateBackendNodesForZone sharedConfig (constantDigest 1) twoBackends
        { id := 1, name := "entry", role := .entry, region := "de" } false)
      (liveOverrides twoBackends 0), pair.2.isActive = true := by decide
  exact hall pair hmem

/-- The entry and the only backend of its zone have been deactivated. -/
def deactivatedNodes : RoutingTables where
  nodes := [{ id := 1, name := "entry", role := .entry, region := "de", isActive := false },
    { id := 2, name := "a", region := "de", publicDomain := "a.test", isActive := false }].foldl
      Table.insert .empty
  keys := twoBackends.keys
  routes := .empty
  profiles := .empty

/-- The inactive entry gets a spec that leads to the inactive backend. -/
theorem not_live_deactivatedNodes :
    ∃ spec, buildSpecForNode sharedConfig (constantDigest 0) deactivatedNodes 0 1 false =
        some spec ∧ spec.backends.map (·.backendNodeId) = [2] ∧ ¬ spec.Live deactivatedNodes 0 := by
  refine ⟨_, rfl, rfl, fun hlive => ?_⟩
  exact absurd hlive.entry (by decide)

end VpnControl.EntryRouting

/-
# Routing specs of the entry nodes

An entry node gets a spec that lists its users, the outbounds to the backends, and for each user a
rule that names an outbound or a group of outbounds. The candidates are the backends with a route
over the entry, or those of its zone when there are no such routes. In the shared mode a user is
hashed to one candidate and users of one backend share its outbound. With one uuid for each user,
every user has an outbound of their own to each candidate and a group that tests them. An
override of the key forces a backend in both modes.

Outbounds are declared when they are first needed, under a tag.
-/

import Mathlib.Data.List.Sort
import VpnControl.Billing.Providers
import VpnControl.Fleet.Model
import VpnControl.Txn.KeepFirst
import VpnControl.Vpn.Model

namespace VpnControl.EntryRouting

open Txn
open Billing (Uuid Time strip)
open Vpn (VpnKey)
open Fleet (VpnNode Route TransportProfile)

/-! ## Configuration and schemas -/

/-- A port, as the schemas require it. -/
abbrev Port := { port : ℕ // 1 ≤ port ∧ port ≤ 65535 }

def defaultListenPort : Port := ⟨8443, by decide⟩

def defaultRealityPort : Port := ⟨443, by decide⟩

def defaultWgPort : Port := ⟨10100, by decide⟩

structure EntryRoutingConfig where
  listenPort : Port := defaultListenPort
  realityPrivateKey : String := ""
  realityShortId : String := ""
  realityServerName : String := "www.cloudflare.com"
  realityHandshakeServer : String := "www.cloudflare.com"
  realityHandshakePort : Port := defaultRealityPort
  backendServiceUuid : String := ""
  backendRealityPublicKey : String := ""
  backendRealityFingerprint : String := "chrome"
  backendPort : Port := defaultRealityPort
  backendFlow : String := "xtls-rprx-vision"
  backendUseWg : Bool := false
  backendWgPort : Port := defaultWgPort
  perUserOutboundUuid : Bool := false

structure EntryRoutingUser where
  uuid : String
  flow : String := "xtls-rprx-vision"
  deriving DecidableEq

structure EntryRoutingBackend where
  tag : String
  nodeName : String := ""
  backendNodeId : Uuid
  server : String
  serverPort : Port
  uuid : String
  flow : String := ""
  realityPublicKey : String := ""
  realityShortId : String := ""
  realityServerName : String := ""
  realityFingerprint : String := "chrome"
  deriving DecidableEq

structure EntryRoutingRule where
  userUuid : String
  outboundTag : String
  deriving DecidableEq

structure EntryRoutingUrltestGroup where
  tag : String
  outbounds : List String
  url : String := "https://www.gstatic.com/generate_204"
  interval : String := "1m"
  tolerance : ℕ := 50
  interruptExistConnections : Bool := true
  deriving DecidableEq

structure EntryRoutingReality where
  privateKey : String
  shortId : String
  serverName : String
  handshakeServer : String
  handshakePort : Port
  deriving DecidableEq

structure EntryRoutingSpec where
  nodeId : Uuid
  listenPort : Port
  reality : EntryRoutingReality
  users : List EntryRoutingUser := []
  backends : List EntryRoutingBackend := []
  rules : List EntryRoutingRule := []
  urltestGroups : List EntryRoutingUrltestGroup := []
  finalOutbound : String := "direct"
  deriving DecidableEq

/-- What is computed elsewhere: the first eight bytes of a SHA-256 digest as a number, and the zone
of a node. -/
structure RoutingLibrary where
  digest : String → ℕ
  effectiveZone : Option String → String → String

/-- The tables a spec is built from. -/
structure RoutingTables where
  nodes : Table VpnNode
  keys : Table VpnKey
  routes : Table Route
  profiles : Table TransportProfile

/-! ## Candidates -/

namespace RoutingTables

variable (tables : RoutingTables)

/-- `BaseRepository.list`. -/
def listNodes : List VpnNode :=
  tables.nodes.rows.insertionSort fun first second => second.id ≤ first.id

/-- `list_by_ids`. -/
def listByIds (ids : List Uuid) : List VpnNode :=
  tables.nodes.rows.filter (·.id ∈ ids)

/-- `list_all_active` of the keys. -/
def listAllActive (now : Time) : List VpnKey :=
  tables.keys.rows.filter fun key => key.isActive ∧ now < key.validUntil ∧ ¬ key.isRevoked

/-- `list_backend_ids_for_entry`. -/
def listBackendIdsForEntry (entry : Uuid) : List Uuid :=
  ((tables.routes.rows.filter fun route => route.isActive ∧ route.entryNodeId = some entry ∧
    (tables.profiles.find? route.transportProfileId).any (·.isActive) = true).map (·.nodeId)).dedup

/-- `list_target_nodes`. -/
def listTargetNodes : List VpnNode := tables.listNodes.filter (·.role.isEntry)

end RoutingTables

section Service

variable (cfg : EntryRoutingConfig) (lib : RoutingLibrary) (tables : RoutingTables)

variable (node : VpnNode)

/-- `_has_wg_addr`. -/
def hasWgAddr : Bool :=
  let ip := (strip node.internalWgIp).toList
  ip ≠ [] ∧ ¬ ip.take 2 = ['0', '.']

/-- `_has_reachable_addr`. -/
def hasReachableAddr : Bool :=
  if cfg.backendUseWg then hasWgAddr node
  else node.realityIp.getD "" ≠ "" ∨ node.publicDomain ≠ ""

/-- `_candidate_backend_nodes_for_zone`. An error of the route query is logged, and the zone
decides. -/
def candidateBackendNodesForZone (entry : VpnNode) (routeFilterFails : Bool) : List VpnNode :=
  if cfg.backendUseWg ∧ ¬ hasWgAddr entry then []
  else if ¬ cfg.backendUseWg ∧ (cfg.backendServiceUuid = "" ∨ cfg.backendRealityPublicKey = "") then
    []
  else
    let routeBackendIds := if routeFilterFails then [] else tables.listBackendIdsForEntry entry.id
    if routeBackendIds ≠ [] then
      (tables.listByIds routeBackendIds).filter fun node =>
        node.id ∈ routeBackendIds ∧ node.role = .backend ∧ node.isEnabled ∧ ¬ node.isDraining ∧
          hasReachableAddr cfg node
    else
      tables.listNodes.filter fun node =>
        node.role = .backend ∧ node.isEnabled ∧ ¬ node.isDraining ∧
          lib.effectiveZone node.zone node.region = lib.effectiveZone entry.zone entry.region ∧
          hasReachableAddr cfg node

/-! ## Outbounds and rules -/

def backendNodeTag : String := "backend-" ++ node.name

def userOutboundTag (nodeName clientId : String) : String := "b-" ++ clientId ++ "-" ++ nodeName

def userUrltestTag (clientId : String) : String := "auto-" ++ clientId

/-- `_make_outbound`. -/
def makeOutbound (tag uuid : String) : EntryRoutingBackend :=
  if cfg.backendUseWg then
    { tag, nodeName := node.name, backendNodeId := node.id, server := node.internalWgIp
      serverPort := cfg.backendWgPort, uuid, flow := "" }
  else
    { tag, nodeName := node.name, backendNodeId := node.id
      server := if node.realityIp.getD "" ≠ "" then node.realityIp.getD "" else node.publicDomain
      serverPort := cfg.backendPort, uuid, flow := cfg.backendFlow
      realityPublicKey := cfg.backendRealityPublicKey, realityShortId := cfg.realityShortId
      realityServerName := cfg.realityServerName
      realityFingerprint := cfg.backendRealityFingerprint }

/-- Append an outbound unless its tag has been seen. -/
def declare : List EntryRoutingBackend → EntryRoutingBackend → List EntryRoutingBackend :=
  keepFirst EntryRoutingBackend.tag

/-- The lists that the loop over the users fills. -/
structure Materialized where
  outbounds : List EntryRoutingBackend := []
  rules : List EntryRoutingRule := []
  urltestGroups : List EntryRoutingUrltestGroup := []

def perUserMode : Bool := cfg.backendUseWg && cfg.perUserOutboundUuid

/-- A dictionary built from pairs: the last one of a key counts. -/
def getLast (pairs : List (String × String)) (key : String) : Option String :=
  (pairs.reverse.find? (·.1 = key)).map Prod.snd

/-- The candidate that an override forces. -/
def forcedNode (sortedNodes : List VpnNode) (overrides : List (String × String)) (uuid : String) :
    Option VpnNode :=
  (getLast overrides uuid).bind fun forced =>
    sortedNodes.reverse.find? fun node => backendNodeTag node = forced

/-- The candidate of a user in the shared mode. -/
def assignedNode (first : VpnNode) (rest : List VpnNode) (overrides : List (String × String))
    (uuid : String) : VpnNode :=
  match forcedNode (first :: rest) overrides uuid with
  | some node => node
  | none => (first :: rest).getD (lib.digest uuid % (first :: rest).length) first

/-- The loop of the shared mode. -/
def addShared (first : VpnNode) (rest : List VpnNode) (overrides : List (String × String))
    (acc : Materialized) (user : EntryRoutingUser) : Materialized :=
  let assigned := assignedNode lib first rest overrides user.uuid
  let tag := backendNodeTag assigned
  { acc with
    outbounds := declare acc.outbounds (makeOutbound cfg assigned tag cfg.backendServiceUuid)
    rules := acc.rules ++ [⟨user.uuid, tag⟩] }

/-- The loop of the mode with one uuid for each user. -/
def addPerUser (sortedNodes : List VpnNode) (overrides : List (String × String))
    (acc : Materialized) (user : EntryRoutingUser) : Materialized :=
  match forcedNode sortedNodes overrides user.uuid with
  | some node =>
    let tag := userOutboundTag node.name user.uuid
    { acc with
      outbounds := declare acc.outbounds (makeOutbound cfg node tag user.uuid)
      rules := acc.rules ++ [⟨user.uuid, tag⟩] }
  | none =>
    let outbounds := sortedNodes.foldl (fun outbounds node => declare outbounds
      (makeOutbound cfg node (userOutboundTag node.name user.uuid) user.uuid)) acc.outbounds
    match sortedNodes.map fun node => userOutboundTag node.name user.uuid with
    | [tag] => { acc with outbounds, rules := acc.rules ++ [⟨user.uuid, tag⟩] }
    | tags =>
      { outbounds
        rules := acc.rules ++ [⟨user.uuid, userUrltestTag user.uuid⟩]
        urltestGroups := acc.urltestGroups ++
          [{ tag := userUrltestTag user.uuid, outbounds := tags }] }

/-- The candidates by name. -/
def sortedByName (backendNodes : List VpnNode) : List VpnNode :=
  backendNodes.insertionSort fun first second => first.name ≤ second.name

/-- `_materialize_outbounds_and_rules`. -/
def materializeOutboundsAndRules (users : List EntryRoutingUser) (backendNodes : List VpnNode)
    (overrides : List (String × String)) : Materialized × String :=
  match sortedByName backendNodes with
  | [] => ({}, "direct")
  | first :: rest =>
    if perUserMode cfg then
      (users.foldl (addPerUser cfg (first :: rest) overrides) {}, "block")
    else
      (users.foldl (addShared cfg lib first rest overrides) {}, backendNodeTag first)

/-- The users of a spec. -/
def liveUsers (now : Time) : List EntryRoutingUser :=
  ((tables.listAllActive now).filter (·.clientId ≠ "")).map fun key => { uuid := key.clientId }

/-- The overrides of the keys in a spec. -/
def liveOverrides (now : Time) : List (String × String) :=
  (tables.listAllActive now).filterMap fun key =>
    if key.clientId ≠ "" ∧ key.entryRoutingOverrideBackendTag.getD "" ≠ "" then
      some (key.clientId, key.entryRoutingOverrideBackendTag.getD "")
    else none

/-- `build_spec_for_node`. -/
def buildSpecForNode (now : Time) (nodeId : Uuid) (routeFilterFails : Bool) :
    Option EntryRoutingSpec :=
  match tables.nodes.find? nodeId with
  | none => none
  | some node =>
    if ¬ node.role.isEntry then none
    else
      let users := liveUsers tables now
      let (materialized, finalOutbound) := materializeOutboundsAndRules cfg lib users
        (candidateBackendNodesForZone cfg lib tables node routeFilterFails)
        (liveOverrides tables now)
      some {
        nodeId := node.id
        listenPort := cfg.listenPort
        reality := {
          privateKey := cfg.realityPrivateKey
          shortId := cfg.realityShortId
          serverName := cfg.realityServerName
          handshakeServer := cfg.realityHandshakeServer
          handshakePort := cfg.realityHandshakePort }
        users
        backends := materialized.outbounds
        rules := materialized.rules
        urltestGroups := materialized.urltestGroups
        finalOutbound }

end Service

end VpnControl.EntryRouting

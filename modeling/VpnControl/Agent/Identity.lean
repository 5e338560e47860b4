/-
# The tokens of node agents

An agent bootstraps with `VpnNodeService.initial` and is given a token. Only hashes of tokens are
stored, one row for each node and agent instance: the hash of the last token, the hash of the one
before it and the time until which that one is still accepted. `node_auth` finds the row of the
presented token by the node that the agent names, or else by the hash alone.

`Registry.Records` ties the table to the tokens that have been issued, and what `node_auth`
accepts is read off from it.
-/

import VpnControl.Txn.Fallible
import VpnControl.Vpn.Model

namespace VpnControl.Agent

open Txn List Option
open Billing (Uuid Time seconds)
open Vpn (NodeRole)
open Table

/-! ## The data -/

/-- The columns of a node that a bootstrap reads and writes. -/
structure AgentNode where
  id : Uuid
  name : String
  role : NodeRole := .backend
  internalWgIp : String
  nodeKey : Option String
  deriving DecidableEq, Repr

structure NodeAgentIdentity where
  nodeId : Uuid
  agentInstanceId : Uuid
  authTokenHash : String
  prevAuthTokenHash : Option String
  prevAuthTokenValidUntil : Option Time
  fullResyncRequired : Bool
  lastBootstrapAt : Time
  deriving DecidableEq, Repr

instance : Row AgentNode Uuid := ⟨AgentNode.id⟩

/-- The unique constraint of `node_agent_identity`. -/
instance : Row NodeAgentIdentity (Uuid × Uuid) := ⟨fun row => (row.nodeId, row.agentInstanceId)⟩

/-- The nodes and the identities of their agents. -/
structure Registry where
  nodes : Table AgentNode
  identities : Table NodeAgentIdentity

/-- The libraries. `hexdigest` gives a text that is not empty, and no two inputs are known to
have the same digest. -/
structure NodeLibrary extends Vpn.Library where
  sha256_injective : Function.Injective sha256
  sha256_ne_empty : ∀ text, sha256 text ≠ ""

structure NodeAgentSettings where
  authTokenRotationGraceSec : ℤ
  bootstrapAllowCreate : Bool
  library : NodeLibrary
  /-- `allocate_next_ip` on the addresses in use. -/
  allocateNextIp : List String → Option String

/-- How long the token before the last one is accepted. -/
def NodeAgentSettings.grace (cfg : NodeAgentSettings) : Time :=
  seconds (max 0 cfg.authTokenRotationGraceSec)

/-- The arguments of `initial`. -/
structure BootstrapIn where
  sourceIp : String
  nodeKey : String
  nodeRole : Option String
  agentInstanceId : Uuid
  deriving DecidableEq, Repr

structure NodeAgentInitialOut where
  nodeId : Uuid
  nodeAuthToken : String
  agentInstanceId : Uuid
  fullResyncRequired : Bool
  deriving DecidableEq, Repr

inductive BootstrapError
  /-- `ValueError("node_key cannot be empty")`. -/
  | emptyNodeKey
  | ambiguousRecovery
  | createDisabled
  | wgPoolExhausted
  | integrityError
  deriving DecidableEq, Repr

/-! ## Bootstrap -/

/-- `_normalize_bootstrap_node_role`. -/
def normalizeBootstrapNodeRole : Option String → NodeRole
  | some "entry" => .entry
  | some "whitelist_entry" => .whitelistEntry
  | _ => .backend

/-- `_build_node_name`. -/
def buildNodeName (sourceIp nodeKey : String) : String :=
  let address := sourceIp.toList.map fun c => if c = '.' then '-' else c
  .ofList (("node-".toList ++ address ++ '-' :: nodeKey.toList.take 8).take 64)

/-- `_allocate_wg_ip`. -/
def allocateWgIp (cfg : NodeAgentSettings) (nodes : Table AgentNode) :
    Except BootstrapError String :=
  let used := (nodes.rows.map fun node => cfg.library.strip node.internalWgIp).filter (· ≠ "")
  match cfg.allocateNextIp used with
  | some ip => .ok ip
  | none => .error .wgPoolExhausted

def AgentNode.claim (nodeKey internalWgIp : String) (node : AgentNode) : AgentNode :=
  { node with nodeKey := some nodeKey, internalWgIp := internalWgIp }

/-- The part of `initial` that finds the node of an agent: by its key, by its name, by its
address. The nodes are returned as they are afterwards. -/
def findNode (cfg : NodeAgentSettings) (sourceIp nodeKey : String) (nodes : Table AgentNode) :
    Except BootstrapError (Option AgentNode × Table AgentNode) :=
  match nodes.rows.find? fun node => node.nodeKey = some nodeKey with
  | some node => .ok (some node, nodes)
  | none =>
    match (nodes.rows.find? (·.name = nodeKey)).filter (·.nodeKey = none) with
    | some node =>
      if cfg.library.strip node.internalWgIp ≠ "" then
        .ok (some node, nodes.modify node.id (.claim nodeKey node.internalWgIp) fun _ => rfl)
      else do
        let ip ← allocateWgIp cfg nodes
        pure (some node, nodes.modify node.id (.claim nodeKey ip) fun _ => rfl)
    | none =>
      match nodes.rows.filter fun node => node.internalWgIp = sourceIp with
      | [] => .ok (none, nodes)
      | [node] =>
        .ok (some node, nodes.modify node.id (.claim nodeKey node.internalWgIp) fun _ => rfl)
      | _ => .error .ambiguousRecovery

/-- What the conflict clause of `upsert_token` writes into the row that is there. -/
def NodeAgentIdentity.shift (tokenHash : String) (previousTokenValidUntil now : Time)
    (row : NodeAgentIdentity) : NodeAgentIdentity :=
  { row with
    prevAuthTokenHash := some row.authTokenHash
    prevAuthTokenValidUntil := some previousTokenValidUntil
    authTokenHash := tokenHash
    fullResyncRequired := true
    lastBootstrapAt := now }

/-- `NodeAgentIdentityRepository.upsert_token`. -/
def upsertToken (node agentInstance : Uuid) (tokenHash : String)
    (previousTokenValidUntil now : Time) (identities : Table NodeAgentIdentity) :
    Table NodeAgentIdentity :=
  match identities.find? (node, agentInstance) with
  | some _ => identities.modify (node, agentInstance)
      (.shift tokenHash previousTokenValidUntil now) fun _ => rfl
  | none => identities.insert
      { nodeId := node
        agentInstanceId := agentInstance
        authTokenHash := tokenHash
        prevAuthTokenHash := none
        prevAuthTokenValidUntil := none
        fullResyncRequired := true
        lastBootstrapAt := now }

/-- The node that `initial` works on: the one it finds, or a new one. -/
def bootstrapNode (cfg : NodeAgentSettings) (payload : BootstrapIn) (nodeId : Uuid)
    (nodes : Table AgentNode) : Except BootstrapError (AgentNode × Table AgentNode) := do
  let nodeKey := cfg.library.strip payload.nodeKey
  if nodeKey = "" then .error .emptyNodeKey
  else
    let found ← findNode cfg payload.sourceIp nodeKey nodes
    match found.1 with
    | some node => pure (node, found.2)
    | none =>
      if ¬ cfg.bootstrapAllowCreate then .error .createDisabled
      else
        let ip ← allocateWgIp cfg found.2
        let node : AgentNode :=
          { id := nodeId
            name := buildNodeName payload.sourceIp nodeKey
            role := normalizeBootstrapNodeRole payload.nodeRole
            internalWgIp := ip
            nodeKey := some nodeKey }
        if found.2.rows.any fun other => other.name = node.name ∨ other.id = node.id then
          .error .integrityError
        else pure (node, found.2.insert node)

/-- `VpnNodeService.initial`, with the token and the node id that are drawn. -/
def initial (cfg : NodeAgentSettings) (payload : BootstrapIn) (rawToken : String) (nodeId : Uuid)
    (now : Time) (db : Registry) : Except BootstrapError (NodeAgentInitialOut × Registry) := do
  let (node, nodes) ← bootstrapNode cfg payload nodeId db.nodes
  let identities := upsertToken node.id payload.agentInstanceId (cfg.library.sha256 rawToken)
    (now + cfg.grace) now db.identities
  pure (
    { nodeId := node.id
      nodeAuthToken := rawToken
      agentInstanceId := payload.agentInstanceId
      fullResyncRequired := true },
    { nodes := nodes, identities := identities })

/-- `clear_full_resync_required_for_node`. -/
def clearFullResyncRequiredForNode (node : Uuid) (db : Registry) : Registry :=
  { db with
    identities := db.identities.modifyWhere (·.nodeId = node)
      (fun row => { row with fullResyncRequired := false }) fun _ => rfl }

/-! ## Authentication -/

/-- `identity_accepts_token`. -/
def identityAcceptsToken (identity : NodeAgentIdentity) (tokenHash : String) (now : Time) : Bool :=
  if identity.authTokenHash = tokenHash then true
  else
    match identity.prevAuthTokenHash with
    | none => false
    | some prevHash =>
      if prevHash = "" ∨ prevHash ≠ tokenHash then false
      else
        match identity.prevAuthTokenValidUntil with
        | none => false
        | some validUntil => now ≤ validUntil

/-- The `HTTPException`s of `node_auth`, all with status 401. -/
inductive AuthError
  | authorizationHeaderRequired | agentInstanceIdHeaderRequired | invalidNodeToken
  deriving DecidableEq, Repr

/-- The rows of `get_by_instance_and_token_hash`. -/
def Registry.byInstanceAndTokenHash (db : Registry) (agentInstance : Uuid) (tokenHash : String) :
    List NodeAgentIdentity :=
  db.identities.rows.filter fun row => row.agentInstanceId = agentInstance ∧
    (row.authTokenHash = tokenHash ∨ row.prevAuthTokenHash = some tokenHash)

/-- The node that `X-Node-ID` names, if its identity accepts the token. -/
def Registry.authenticateNode (db : Registry) (xNodeId : Option Uuid) (agentInstance : Uuid)
    (tokenHash : String) (now : Time) : Option AgentNode := do
  let node ← db.nodes.find? (← xNodeId)
  let identity ← db.identities.find? (node.id, agentInstance)
  if identityAcceptsToken identity tokenHash now then some node else none

/-- `node_auth`. -/
def nodeAuth (library : NodeLibrary) (xNodeId xAgentInstanceId : Option Uuid)
    (credentials : Option String) (now : Time) (db : Registry) : Except AuthError AgentNode :=
  match credentials, xAgentInstanceId with
  | none, _ => .error .authorizationHeaderRequired
  | some _, none => .error .agentInstanceIdHeaderRequired
  | some raw, some agentInstance =>
    let tokenHash := library.sha256 (library.strip raw)
    match db.authenticateNode xNodeId agentInstance tokenHash now with
    | some node => .ok node
    | none =>
      match db.byInstanceAndTokenHash agentInstance tokenHash with
      | [identity] =>
        if ¬ identityAcceptsToken identity tokenHash now then .error .invalidNodeToken
        else
          match db.nodes.find? identity.nodeId with
          | none => .error .invalidNodeToken
          | some node => .ok node
      | _ => .error .invalidNodeToken

/-- The route `verify_node_token`, which takes the token as it is. -/
def verifyNodeToken (library : NodeLibrary) (nodeId : Uuid) (token : String)
    (agentInstance : Uuid) (now : Time) (db : Registry) : Bool :=
  (db.authenticateNode (some nodeId) agentInstance (library.sha256 token) now).isSome

/-! ## Issued tokens -/

/-- A token that a bootstrap has returned. -/
structure Issued where
  nodeId : Uuid
  agentInstanceId : Uuid
  token : String
  at_ : Time
  deriving DecidableEq, Repr

/-- The tokens of an agent, the last one first. -/
def issuedTo (history : List Issued) (node agentInstance : Uuid) : List Issued :=
  history.filter fun issued => issued.nodeId = node ∧ issued.agentInstanceId = agentInstance

/-- The tokens of an agent that count at a time: the last one, and for the grace period after it
was issued the one before it. -/
def Counts (grace : Time) (tokens : List Issued) (token : String) (now : Time) : Prop :=
  match tokens with
  | [] => False
  | last :: rest =>
    token = last.token ∨ ∃ previous ∈ rest.head?, token = previous.token ∧ now ≤ last.at_ + grace

/-- The states that bootstraps reach, with the tokens they have returned. Tokens are drawn
without whitespace and never twice. Between bootstraps the nodes change, but none that has an
identity goes. -/
inductive Bootstrapped (cfg : NodeAgentSettings) : Registry → List Issued → Prop
  | empty {nodes : Table AgentNode} : Bootstrapped cfg ⟨nodes, .empty⟩ []
  | initial {db later : Registry} {history : List Issued} (h : Bootstrapped cfg db history)
      (payload : BootstrapIn) (token : String) (nodeId : Uuid) (now : Time)
      {out : NodeAgentInitialOut} (hrun : initial cfg payload token nodeId now db = .ok (out, later))
      (hfresh : ∀ issued ∈ history, issued.token ≠ token)
      (hstrip : cfg.library.strip token = token) :
      Bootstrapped cfg later (⟨out.nodeId, out.agentInstanceId, token, now⟩ :: history)
  | clearFullResync {db : Registry} {history : List Issued} (h : Bootstrapped cfg db history)
      (node : Uuid) : Bootstrapped cfg (clearFullResyncRequiredForNode node db) history
  | elsewhere {db : Registry} {history : List Issued} (h : Bootstrapped cfg db history)
      (nodes : Table AgentNode)
      (hnodes : ∀ row ∈ db.identities.rows, (nodes.find? row.nodeId).isSome) :
      Bootstrapped cfg { db with nodes := nodes } history

/-- The row of an agent holds the hashes of its last two tokens. -/
def NodeAgentIdentity.Holds (library : NodeLibrary) (grace : Time) (row : NodeAgentIdentity)
    (tokens : List Issued) : Prop :=
  ∃ last rest, tokens = last :: rest ∧ row.authTokenHash = library.sha256 last.token ∧
    row.prevAuthTokenHash = rest.head?.map (fun issued => library.sha256 issued.token) ∧
    row.prevAuthTokenValidUntil = rest.head?.map fun _ => last.at_ + grace

/-- The table holds what has been issued. -/
structure Registry.Records (cfg : NodeAgentSettings) (db : Registry) (history : List Issued) :
    Prop where
  rows : ∀ row ∈ db.identities.rows,
    row.Holds cfg.library cfg.grace (issuedTo history row.nodeId row.agentInstanceId)
  issued : ∀ entry ∈ history, (db.identities.find? (entry.nodeId, entry.agentInstanceId)).isSome
  nodes : ∀ row ∈ db.identities.rows, (db.nodes.find? row.nodeId).isSome
  distinct : (history.map Issued.token).Nodup
  stripped : ∀ entry ∈ history, cfg.library.strip entry.token = entry.token

variable {token : String}

section

variable {cfg : NodeAgentSettings} {db later : Registry} {history : List Issued}
  {node agentInstance : Uuid} {row : NodeAgentIdentity} {tokens : List Issued}
  {nodes : Table AgentNode} {payload : BootstrapIn}

section

variable (h : row.Holds cfg.library cfg.grace tokens)

include h

theorem NodeAgentIdentity.Holds.accepts_iff :
    identityAcceptsToken row (cfg.library.sha256 token) now = true ↔
      Counts cfg.grace tokens token now := by
  obtain ⟨last, rest, rfl, hlast, hprev, hvalid⟩ := h
  have hinj : ∀ text, cfg.library.sha256 text = cfg.library.sha256 token ↔ token = text :=
    fun text => ⟨fun heq => (cfg.library.sha256_injective heq).symm, fun heq => heq ▸ rfl⟩
  show _ ↔ token = last.token ∨
    ∃ previous ∈ rest.head?, token = previous.token ∧ now ≤ last.at_ + cfg.grace
  rw [identityAcceptsToken, hlast, hprev, hvalid]
  by_cases hcurrent : token = last.token
  · simp [hcurrent]
  · rw [if_neg (fun heq => hcurrent ((hinj _).mp heq)), or_iff_right hcurrent]
    cases rest.head? with
    | none => simp
    | some =>
      simp only [map_some, mem_def, some.injEq, exists_eq_left',
        cfg.library.sha256_ne_empty, false_or, ne_eq, hinj]
      split
      · rename_i hother
        simp [hother]
      · rename_i hsame
        simp [not_not.mp hsame]

theorem NodeAgentIdentity.Holds.exists_issued
    (hhash : row.authTokenHash = cfg.library.sha256 token ∨
      row.prevAuthTokenHash = some (cfg.library.sha256 token)) :
    ∃ issued ∈ tokens, issued.token = token := by
  obtain ⟨last, rest, rfl, hlast, hprev, -⟩ := h
  rcases hhash with hcurrent | hprevious
  · exact ⟨last, mem_cons_self, cfg.library.sha256_injective (hlast.symm.trans hcurrent)⟩
  · rw [hprev] at hprevious
    obtain ⟨issued, hissued, hsame⟩ := map_eq_some_iff.mp hprevious
    exact ⟨issued, mem_cons_of_mem _ (mem_of_mem_head? hissued), cfg.library.sha256_injective hsame⟩

theorem NodeAgentIdentity.Holds.hash_of_counts (hcounts : Counts cfg.grace tokens token now) :
    row.authTokenHash = cfg.library.sha256 token ∨
      row.prevAuthTokenHash = some (cfg.library.sha256 token) := by
  obtain ⟨last, rest, rfl, hlast, hprev, -⟩ := h
  rcases hcounts with rfl | ⟨previous, hprevious, rfl, -⟩
  · exact .inl hlast
  · refine .inr ?_
    rw [hprev, mem_def.mp hprevious]
    rfl

end

theorem Counts.exists_mem (h : Counts cfg.grace tokens token now) :
    ∃ issued ∈ tokens.take 2, issued.token = token := by
  match tokens, h with
  | last :: rest, .inl hlast => exact ⟨last, mem_cons_self, hlast.symm⟩
  | last :: previous :: rest, .inr ⟨_, hprevious, htoken, _⟩ =>
    obtain rfl := some.inj hprevious
    exact ⟨previous, by simp, htoken.symm⟩

theorem mem_issuedTo : entry ∈ issuedTo history node agentInstance ↔
    entry ∈ history ∧ entry.nodeId = node ∧ entry.agentInstanceId = agentInstance := by
  simp [issuedTo]

namespace Registry.Records

variable (h : db.Records cfg history)

include h

theorem agent_unique (hfirst : first ∈ history) (hsecond : second ∈ history)
    (htoken : first.token = second.token) : first = second :=
  inj_on_of_nodup_map h.distinct hfirst hsecond htoken

theorem exists_row_iff (htokens : issuedTo history node agentInstance = tokens) :
    (∃ row, db.identities.find? (node, agentInstance) = some row) ↔ tokens ≠ [] := by
  subst htokens
  constructor
  · rintro ⟨row, hrow⟩ hnil
    obtain ⟨last, rest, hlist, -⟩ := h.rows row (mem_of_find? hrow)
    have hkey : (row.nodeId, row.agentInstanceId) = (node, agentInstance) := key_of_find? hrow
    obtain ⟨rfl, rfl⟩ := Prod.mk.inj hkey
    rw [hnil] at hlist
    cases hlist
  · intro hsome
    obtain ⟨entry, hentry⟩ := exists_mem_of_ne_nil _ hsome
    obtain ⟨hmem, rfl, rfl⟩ := mem_issuedTo.mp hentry
    exact isSome_iff_exists.mp (h.issued entry hmem)

theorem holds (hrow : db.identities.find? (node, agentInstance) = some row) :
    row.nodeId = node ∧ row.agentInstanceId = agentInstance ∧
      row.Holds cfg.library cfg.grace (issuedTo history node agentInstance) := by
  have hkey : (row.nodeId, row.agentInstanceId) = (node, agentInstance) := key_of_find? hrow
  obtain ⟨rfl, rfl⟩ := Prod.mk.inj hkey
  exact ⟨rfl, rfl, h.rows row (mem_of_find? hrow)⟩

/-- Where a token counts for an agent, the row of the agent is the only one with its hash. -/
theorem byInstanceAndTokenHash_eq (hrow : db.identities.find? (node, agentInstance) = some row)
    (hcounts : Counts cfg.grace (issuedTo history node agentInstance) token now) :
    db.byInstanceAndTokenHash agentInstance (cfg.library.sha256 token) = [row] := by
  obtain ⟨rfl, rfl, hholds⟩ := h.holds hrow
  have hmem := mem_of_find? hrow
  obtain ⟨issued, hissued, htoken⟩ := hholds.exists_issued (hholds.hash_of_counts hcounts)
  have hfilter : db.byInstanceAndTokenHash row.agentInstanceId (cfg.library.sha256 token) =
      db.identities.rows.filter fun other => decide (other = row) := by
    refine filter_congr fun other hother => ?_
    rw [decide_eq_decide]
    constructor
    · rintro ⟨-, hhash⟩
      obtain ⟨issued', hissued', htoken'⟩ := (h.rows other hother).exists_issued hhash
      obtain ⟨hin, hnode, hinstance⟩ := mem_issuedTo.mp hissued
      obtain ⟨hin', hnode', hinstance'⟩ := mem_issuedTo.mp hissued'
      obtain rfl := h.agent_unique hin hin' (htoken.trans htoken'.symm)
      refine inj_on_of_nodup_map db.identities.nodup hother hmem ?_
      exact Prod.ext (hnode'.symm.trans hnode) (hinstance'.symm.trans hinstance)
    · rintro rfl
      exact ⟨rfl, hholds.hash_of_counts hcounts⟩
  have hnodup : db.identities.rows.Nodup := Nodup.of_map _ db.identities.nodup
  rw [hfilter]
  rw [filter_eq, count_eq_one_of_mem hnodup hmem]
  rfl

omit h in
theorem authenticateNode_eq_some {hash : String} :
    db.authenticateNode xNodeId agentInstance hash now = some found ↔
      ∃ id ∈ xNodeId, db.nodes.find? id = some found ∧
        ∃ identity, db.identities.find? (found.id, agentInstance) = some identity ∧
          identityAcceptsToken identity hash now = true := by
  simp only [authenticateNode, bind_eq_bind, bind_eq_some_iff,
    ite_none_right_eq_some, some.injEq, mem_def]
  constructor
  · rintro ⟨id, hid, node, hnode, identity, hidentity, haccepts, rfl⟩
    exact ⟨id, hid, hnode, identity, hidentity, haccepts⟩
  · rintro ⟨id, hid, hnode, identity, hidentity, haccepts⟩
    exact ⟨id, hid, found, hnode, identity, hidentity, haccepts, rfl⟩

theorem counts_of_authenticateNode
    (hfound : db.authenticateNode xNodeId agentInstance (cfg.library.sha256 token) now =
      some found) :
    Counts cfg.grace (issuedTo history found.id agentInstance) token now := by
  obtain ⟨-, -, -, identity, hidentity, haccepts⟩ := authenticateNode_eq_some.mp hfound
  exact ((h.holds hidentity).2.2.accepts_iff).mp haccepts

theorem exists_of_counts
    (hcounts : Counts cfg.grace (issuedTo history node agentInstance) token now) :
    ∃ identity found, db.identities.find? (node, agentInstance) = some identity ∧
      db.nodes.find? node = some found ∧ found.id = node ∧ identity.nodeId = node ∧
      identityAcceptsToken identity (cfg.library.sha256 token) now = true := by
  have hne : issuedTo history node agentInstance ≠ [] := by
    intro hnil
    rw [hnil] at hcounts
    exact hcounts
  obtain ⟨identity, hidentity⟩ := (h.exists_row_iff rfl).mpr hne
  obtain ⟨rfl, -, hholds⟩ := h.holds hidentity
  obtain ⟨found, hfound⟩ := isSome_iff_exists.mp (h.nodes identity (mem_of_find? hidentity))
  exact ⟨identity, found, hidentity, hfound, key_of_find? hfound, rfl,
    hholds.accepts_iff.mpr hcounts⟩

/-- `node_auth` accepts a token as a node exactly when it counts for the agent there. -/
theorem nodeAuth_iff :
    (∃ found, nodeAuth cfg.library xNodeId (some agentInstance) (some raw) now db = .ok found ∧
        found.id = node) ↔
      Counts cfg.grace (issuedTo history node agentInstance) (cfg.library.strip raw) now := by
  -- a token counts for one node only
  have hone : ∀ other, Counts cfg.grace (issuedTo history other agentInstance)
      (cfg.library.strip raw) now → Counts cfg.grace (issuedTo history node agentInstance)
      (cfg.library.strip raw) now → other = node := by
    intro other hother hnode
    obtain ⟨first, hfirst, htoken⟩ := hother.exists_mem
    obtain ⟨second, hsecond, htoken'⟩ := hnode.exists_mem
    obtain ⟨hin, rfl, -⟩ := mem_issuedTo.mp (mem_of_mem_take hfirst)
    obtain ⟨hin', rfl, -⟩ := mem_issuedTo.mp (mem_of_mem_take hsecond)
    rw [h.agent_unique hin hin' (htoken.trans htoken'.symm)]
  simp only [nodeAuth]
  cases hauth : db.authenticateNode xNodeId agentInstance
      (cfg.library.sha256 (cfg.library.strip raw)) now with
  | some found =>
    have hcounts := h.counts_of_authenticateNode hauth
    constructor
    · rintro ⟨_, hok, rfl⟩
      cases hok
      exact hcounts
    · intro hnode
      exact ⟨found, rfl, hone found.id hcounts hnode⟩
  | none =>
    dsimp only
    constructor
    · rintro ⟨found, hok, rfl⟩
      split at hok
      · rename_i identity hrows
        split at hok
        · cases hok
        · rename_i haccepts
          split at hok
          · cases hok
          · rename_i row hfound
            cases hok
            have hin : identity ∈ db.byInstanceAndTokenHash agentInstance
                (cfg.library.sha256 (cfg.library.strip raw)) := by
              rw [hrows]
              exact mem_singleton.mpr rfl
            obtain ⟨hmem, hhash⟩ := mem_filter.mp hin
            simp only [decide_eq_true_eq] at hhash
            have hid : identity.nodeId = found.id := (key_of_find? hfound).symm
            rw [← hid, ← hhash.1]
            exact ((h.rows identity hmem).accepts_iff).mp (by simpa using haccepts)
      · cases hok
    · intro hcounts
      obtain ⟨identity, found, hidentity, hfound, hid, rfl, haccepts⟩ := h.exists_of_counts hcounts
      rw [h.byInstanceAndTokenHash_eq hidentity hcounts]
      dsimp only
      rw [if_neg (not_not.mpr haccepts), hfound]
      exact ⟨found, rfl, hid⟩

/-- `verify_node_token` accepts a token exactly when it counts for the agent there. -/
theorem verifyNodeToken_iff : verifyNodeToken cfg.library node token agentInstance now db = true ↔
      Counts cfg.grace (issuedTo history node agentInstance) token now := by
  constructor
  · intro haccepts
    obtain ⟨found, hfound⟩ := isSome_iff_exists.mp haccepts
    obtain ⟨id, hid, hnode, -⟩ := authenticateNode_eq_some.mp hfound
    obtain rfl : node = id := some.inj hid
    exact (key_of_find? hnode : found.id = node) ▸ h.counts_of_authenticateNode hfound
  · intro hcounts
    obtain ⟨identity, found, hidentity, hfound, rfl, -, haccepts⟩ := h.exists_of_counts hcounts
    exact isSome_iff_exists.mpr ⟨found, authenticateNode_eq_some.mpr
      ⟨_, rfl, hfound, identity, hidentity, haccepts⟩⟩

end Registry.Records

/-- An agent that sends both headers is let in or told that its token is invalid. -/
theorem nodeAuth_ok_or_invalid :
    (∃ found, nodeAuth library xNodeId (some agentInstance) (some raw) now db = .ok found) ∨
      nodeAuth library xNodeId (some agentInstance) (some raw) now db =
        .error .invalidNodeToken := by
  simp only [nodeAuth]
  cases db.authenticateNode xNodeId agentInstance (library.sha256 (library.strip raw)) now with
  | some found => exact .inl ⟨found, rfl⟩
  | none =>
    dsimp only
    split
    · split
      · exact .inr rfl
      · split
        · exact .inr rfl
        · exact .inl ⟨_, rfl⟩
    · exact .inr rfl

/-! ## Bootstraps -/

/-- No node goes. -/
def Keeps (nodes after : Table AgentNode) : Prop :=
  ∀ id, (nodes.find? id).isSome → (after.find? id).isSome

/-- A node that `findNode` finds is among the nodes. -/
theorem ends_findNode : Ends (fun _ => True)
      (fun result => Keeps nodes result.2 ∧ ∀ row ∈ result.1, (result.2.find? row.id).isSome)
      (findNode cfg sourceIp nodeKey nodes) := by
  have hmodify : ∀ (row : AgentNode) ip, row ∈ nodes.rows →
      Keeps nodes (nodes.modify row.id (.claim nodeKey ip) fun _ => rfl) ∧
      ∀ other ∈ some row,
        ((nodes.modify row.id (.claim nodeKey ip) fun _ => rfl).find? other.id).isSome := by
    intro row ip hrow
    refine ⟨fun id hid => (isSome_find?_modify ..).trans hid, fun other hother => ?_⟩
    obtain rfl := some.inj hother
    exact (isSome_find?_modify ..).trans (isSome_iff_exists.mpr ⟨row, Table.find?_of_mem hrow⟩)
  unfold findNode
  split
  · rename_i row hrow
    refine ⟨fun _ hid => hid, fun other hother => ?_⟩
    obtain rfl := some.inj hother
    exact isSome_iff_exists.mpr ⟨row, Table.find?_of_mem (mem_of_find?_eq_some hrow)⟩
  · split
    · rename_i row hrow
      have hmem : row ∈ nodes.rows := mem_of_find?_eq_some (filter_eq_some_iff.mp hrow).1
      split
      · exact hmodify row _ hmem
      · exact Ends.bind (Ends.anyhow _) fun ip _ => hmodify row ip hmem
    · split
      · exact ⟨fun _ hid => hid, by simp⟩
      · rename_i row hrow
        refine hmodify row _ ?_
        have hin : row ∈ nodes.rows.filter fun other => other.internalWgIp = sourceIp := by
          rw [hrow]
          exact mem_singleton.mpr rfl
        exact (mem_filter.mp hin).1
      · trivial

/-- A bootstrap works on a node that is there afterwards. -/
theorem ends_bootstrapNode :
    Ends (fun _ => True) (fun result => Keeps nodes result.2 ∧ (result.2.find? result.1.id).isSome)
      (bootstrapNode cfg payload nodeId nodes) := by
  unfold bootstrapNode
  dsimp only
  split
  · trivial
  refine Ends.bind ends_findNode ?_
  rintro ⟨found, rest⟩ ⟨hkeeps, hfound⟩
  cases found with
  | some row => exact ⟨hkeeps, hfound row rfl⟩
  | none =>
    dsimp only
    split
    · trivial
    refine Ends.bind (Ends.anyhow _) fun ip _ => ?_
    split
    · trivial
    · rename_i hnew
      refine ⟨fun id hid => isSome_find?_insert (hkeeps id hid), ?_⟩
      refine isSome_iff_exists.mpr ⟨_, Table.find?_insert_self ?_⟩
      rw [Table.find?_eq_none]
      intro other hother hkey
      refine hnew (any_eq_true.mpr ⟨other, hother, ?_⟩)
      exact decide_eq_true (.inr hkey)

section

variable {tokenHash : String} {validUntil now : Time} {identities : Table NodeAgentIdentity}

/-- The row of an agent after `upsert_token`. -/
theorem find?_upsertToken_self :
    (upsertToken node agentInstance tokenHash validUntil now identities).find?
        (node, agentInstance) =
      some (match identities.find? (node, agentInstance) with
        | some old => old.shift tokenHash validUntil now
        | none => ⟨node, agentInstance, tokenHash, none, none, true, now⟩) := by
  unfold upsertToken
  cases hold : identities.find? (node, agentInstance) with
  | some => exact (Table.find?_modify_self ..).trans (congrArg _ hold)
  | none => exact Table.find?_insert_self hold

end

/-- A bootstrap that returns has worked on a node and written its agent's row. -/
theorem ends_initial : Ends (fun _ => True) (fun result =>
      Keeps db.nodes result.2.nodes ∧ (result.2.nodes.find? result.1.nodeId).isSome ∧
      result.2.identities = upsertToken result.1.nodeId result.1.agentInstanceId
        (cfg.library.sha256 token) (now + cfg.grace) now db.identities)
      (initial cfg payload token nodeId now db) :=
  Ends.bind ends_bootstrapNode fun _ hnode => ⟨hnode.1, hnode.2, rfl⟩

namespace Registry.Records

theorem empty (nodes : Table AgentNode) : Registry.Records cfg ⟨nodes, .empty⟩ [] where
  rows := nofun
  issued := nofun
  nodes := nofun
  distinct := nodup_nil
  stripped := nofun

/-- What the row of a bootstrapped agent holds: the token before is the one it held last. -/
theorem holds_upsertToken (h : db.Records cfg history)
    (hrow : (upsertToken entry.nodeId entry.agentInstanceId (cfg.library.sha256 entry.token)
      (entry.at_ + cfg.grace) entry.at_ db.identities).find?
        (entry.nodeId, entry.agentInstanceId) = some row) :
    row.Holds cfg.library cfg.grace
      (entry :: issuedTo history entry.nodeId entry.agentInstanceId) := by
  rw [find?_upsertToken_self] at hrow
  refine ⟨entry, _, rfl, ?_⟩
  cases hold : db.identities.find? (entry.nodeId, entry.agentInstanceId) with
  | some =>
    obtain ⟨-, -, last, rest, htokens, hlast, -⟩ := h.holds hold
    rw [hold] at hrow
    obtain rfl := some.inj hrow
    rw [htokens]
    exact ⟨rfl, congrArg some hlast, rfl⟩
  | none =>
    have hnil : issuedTo history entry.nodeId entry.agentInstanceId = [] := by
      by_contra hne
      obtain ⟨old, hsome⟩ := (h.exists_row_iff rfl).mpr hne
      rw [hold] at hsome
      cases hsome
    rw [hold] at hrow
    obtain rfl := some.inj hrow
    rw [hnil]
    exact ⟨rfl, rfl, rfl⟩

/-- A bootstrap keeps the record. -/
theorem initial (h : db.Records cfg history)
    (hrun : Agent.initial cfg payload token nodeId now db = .ok (out, later))
    (hfresh : ∀ issued ∈ history, issued.token ≠ token) (hstrip : cfg.library.strip token = token) :
    later.Records cfg (⟨out.nodeId, out.agentInstanceId, token, now⟩ :: history) := by
  obtain ⟨hkeeps, hnode, hidentities⟩ := ends_initial.result hrun
  have hself : ∀ row, later.identities.find? (out.nodeId, out.agentInstanceId) = some row →
      row.Holds cfg.library cfg.grace (⟨out.nodeId, out.agentInstanceId, token, now⟩ ::
        issuedTo history out.nodeId out.agentInstanceId) := by
    intro row hrow
    rw [hidentities] at hrow
    exact h.holds_upsertToken hrow
  have hother : ∀ agent, agent ≠ (out.nodeId, out.agentInstanceId) →
      later.identities.find? agent = db.identities.find? agent := by
    intro agent hne
    rw [hidentities]
    unfold upsertToken
    split
    · exact Table.find?_modify_of_ne _ _ hne
    · exact Table.find?_insert_of_ne hne
  -- the rows of other agents are those of before
  have hold : ∀ row ∈ later.identities.rows,
      (row.nodeId, row.agentInstanceId) ≠ (out.nodeId, out.agentInstanceId) →
      row ∈ db.identities.rows := by
    intro row hrow hne
    have hfound := Table.find?_of_mem hrow
    exact mem_of_find? ((hother _ hne).symm.trans hfound)
  refine ⟨fun row hrow => ?_, fun entry hentry => ?_, fun row hrow => ?_, ?_, fun entry hentry => ?_⟩
  · by_cases hagent : (row.nodeId, row.agentInstanceId) = (out.nodeId, out.agentInstanceId)
    · have hfound : later.identities.find? (row.nodeId, row.agentInstanceId) = some row :=
        Table.find?_of_mem hrow
      rw [hagent] at hfound
      obtain ⟨hnodeId, hinstance⟩ := Prod.mk.inj hagent
      rw [hnodeId, hinstance, issuedTo, filter_cons_of_pos (by simp)]
      exact hself row hfound
    · rw [issuedTo, filter_cons_of_neg fun hsame => hagent ?_]
      · exact h.rows row (hold row hrow hagent)
      · obtain ⟨hnodeId, hinstance⟩ := of_decide_eq_true hsame
        rw [← hnodeId, ← hinstance]
  · by_cases hagent : (entry.nodeId, entry.agentInstanceId) = (out.nodeId, out.agentInstanceId)
    · rw [hagent, hidentities, find?_upsertToken_self]
      rfl
    · rw [hother _ hagent]
      rcases mem_cons.mp hentry with rfl | hentry
      · exact absurd rfl hagent
      · exact h.issued entry hentry
  · by_cases hagent : (row.nodeId, row.agentInstanceId) = (out.nodeId, out.agentInstanceId)
    · rw [(Prod.mk.inj hagent).1]
      exact hnode
    · exact hkeeps _ (h.nodes row (hold row hrow hagent))
  · rw [map_cons, nodup_cons]
    refine ⟨fun hmem => ?_, h.distinct⟩
    obtain ⟨issued, hissued, htoken⟩ := mem_map.mp hmem
    exact hfresh issued hissued htoken
  · rcases mem_cons.mp hentry with rfl | hentry
    · exact hstrip
    · exact h.stripped entry hentry

theorem clearFullResync (h : db.Records cfg history) (node : Uuid) :
    (clearFullResyncRequiredForNode node db).Records cfg history := by
  have hrows : ∀ row ∈ (clearFullResyncRequiredForNode node db).identities.rows,
      ∃ old ∈ db.identities.rows, row.nodeId = old.nodeId ∧
        row.agentInstanceId = old.agentInstanceId ∧
        ∀ tokens, old.Holds cfg.library cfg.grace tokens →
          row.Holds cfg.library cfg.grace tokens := by
    intro row hrow
    obtain ⟨old, hold, rfl⟩ := mem_map.mp hrow
    refine ⟨old, hold, ?_⟩
    split
    · exact ⟨rfl, rfl, fun _ hholds => hholds⟩
    · exact ⟨rfl, rfl, fun _ hholds => hholds⟩
  refine ⟨fun row hrow => ?_, fun entry hentry => ?_, fun row hrow => ?_, h.distinct, h.stripped⟩
  · obtain ⟨old, hold, hnode, hinstance, hholds⟩ := hrows row hrow
    rw [hnode, hinstance]
    exact hholds _ (h.rows old hold)
  · have hfind := Table.find?_modifyWhere (fun row => { row with fullResyncRequired := false })
      (fun _ => rfl) db.identities (·.nodeId = node)
      (entry.nodeId, entry.agentInstanceId)
    refine (congrArg isSome hfind).trans ?_
    rw [isSome_map]
    exact h.issued entry hentry
  · obtain ⟨old, hold, hnode, -, -⟩ := hrows row hrow
    rw [hnode]
    exact h.nodes old hold

end Registry.Records

theorem Bootstrapped.records (h : Bootstrapped cfg db history) : db.Records cfg history := by
  induction h with
  | empty => exact .empty _
  | initial _ _ _ _ _ hrun hfresh hstrip ih => exact ih.initial hrun hfresh hstrip
  | clearFullResync _ node ih => exact ih.clearFullResync node
  | elsewhere _ _ hnodes ih => exact ⟨ih.rows, ih.issued, hnodes, ih.distinct, ih.stripped⟩

/-- After any bootstraps a token is accepted for an agent exactly when it is the last one issued
to it, or the one before within the grace period of the last; a token that is not one of the last
two of the agent is refused whatever node is named. -/
theorem node_auth_accepts_iff (h : Bootstrapped cfg db history) (xNodeId : Option Uuid)
    (agentInstance : Uuid) (now : Time) :
    (∀ node raw,
      (∃ found, nodeAuth cfg.library xNodeId (some agentInstance) (some raw) now db = .ok found ∧
          found.id = node) ↔
        Counts cfg.grace (issuedTo history node agentInstance) (cfg.library.strip raw) now) ∧
    (∀ node token, verifyNodeToken cfg.library node token agentInstance now db = true ↔
      Counts cfg.grace (issuedTo history node agentInstance) token now) ∧
    ∀ issued ∈ history, issued ∉ (issuedTo history issued.nodeId agentInstance).take 2 →
      nodeAuth cfg.library xNodeId (some agentInstance) (some issued.token) now db =
        .error .invalidNodeToken := by
  have hrecords := h.records
  refine ⟨fun node raw => hrecords.nodeAuth_iff,
    fun node token => hrecords.verifyNodeToken_iff, fun issued hissued hold => ?_⟩
  rcases nodeAuth_ok_or_invalid with
    ⟨found, hfound⟩ | hinvalid
  · have hcounts := hrecords.nodeAuth_iff.mp ⟨found, hfound, rfl⟩
    obtain ⟨other, hother, htoken⟩ := hcounts.exists_mem
    obtain ⟨hin, hnode, -⟩ := mem_issuedTo.mp (List.mem_of_mem_take hother)
    rw [hrecords.stripped issued hissued] at htoken
    obtain rfl := hrecords.agent_unique hin hissued htoken
    rw [hnode] at hold
    exact absurd hother hold
  · exact hinvalid

end

/-! ## Two bootstraps -/

namespace Bootstraps

def library : NodeLibrary where
  sha256 text := .ofList ('#' :: text.toList)
  strip text := text
  sha256_injective first second h := by simpa using h
  sha256_ne_empty text h := by simpa using congrArg String.toList h

/-- Ten seconds of grace. -/
def cfg : NodeAgentSettings where
  authTokenRotationGraceSec := 10
  bootstrapAllowCreate := true
  library := library
  allocateNextIp _ := some "10.0.0.2"

def payload : BootstrapIn where
  sourceIp := "10.0.0.2"
  nodeKey := "key"
  nodeRole := none
  agentInstanceId := 7

def node : AgentNode where
  id := 1
  name := "node-10-0-0-2-key"
  internalWgIp := "10.0.0.2"
  nodeKey := some "key"

/-- The agent has the token `"a"` at 0 and `"b"` at 100. -/
def registry : Registry where
  nodes := ⟨[node], by decide⟩
  identities := ⟨[⟨1, 7, "#b", some "#a", some (100 + seconds 10), true, 100⟩], by decide⟩

def history : List Issued := [⟨1, 7, "b", 100⟩, ⟨1, 7, "a", 0⟩]

theorem bootstrapped : Bootstrapped cfg registry history := by
  have hempty : Bootstrapped cfg ⟨.empty, .empty⟩ [] := .empty
  have hfirst := hempty.initial payload "a" 1 0 rfl nofun rfl
  exact hfirst.initial payload "b" 2 100 rfl (by decide) rfl

end Bootstraps

/-- The second token is accepted, and the first one for ten seconds after it. -/
theorem node_auth_accepts_two_tokens :
    (∃ found, nodeAuth Bootstraps.library none (some 7) (some "b") 500 Bootstraps.registry =
      .ok found ∧ found.id = 1) ∧
    (∃ found, nodeAuth Bootstraps.library none (some 7) (some "a") 500 Bootstraps.registry =
      .ok found ∧ found.id = 1) ∧
    ¬ ∃ found, nodeAuth Bootstraps.library none (some 7) (some "a") (101 + seconds 10)
      Bootstraps.registry = .ok found ∧ found.id = 1 := by
  have hbefore := (node_auth_accepts_iff Bootstraps.bootstrapped none 7 500).1 1
  have hafter := (node_auth_accepts_iff Bootstraps.bootstrapped none 7 (101 + seconds 10)).1 1
  refine ⟨(hbefore "b").mpr (.inl rfl), (hbefore "a").mpr (.inr ⟨_, rfl, rfl, by decide⟩), ?_⟩
  intro haccepted
  rcases (hafter "a").mp haccepted with hlast | ⟨_, _, _, hgrace⟩
  · exact absurd hlast (by decide)
  · exact absurd hgrace (by decide)

end VpnControl.Agent

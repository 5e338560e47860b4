/-
# Branches of scenario campaigns

A campaign is a graph of messages, conditions and ends. `_walk_to_waitpoint` takes the state of a
user through conditions to the next message.
-/

import VpnControl.Billing.Model

namespace VpnControl.Scenarios

open Billing (Time seconds)

inductive ScenarioCondition
  | always
  | notConnected
  | notPurchased
  | noActiveSub
  | connected
  | purchased

inductive NodeType
  | message
  | condition
  | end_

structure ScenarioNode where
  nodeKey : String
  nodeType : NodeType
  delaySeconds : ℤ := 0
  checkKind : Option ScenarioCondition := none

structure ScenarioEdge where
  fromKey : String
  toKey : String
  branch : Option String

/-- The nodes and edges of a campaign. -/
structure Graph where
  nodes : List ScenarioNode
  edges : List ScenarioEdge

inductive ScenarioStatus
  | active
  | completed
  | abandoned
  | stopped

structure ScenarioState where
  currentNodeKey : Option String
  nodeSends : ℕ := 0
  status : ScenarioStatus := .active
  nextSendAt : Option Time

def branchOf (holds : Bool) : String := if holds then "yes" else "no"

namespace Graph

variable (graph : Graph) (key : String) (holds : Bool)

/-- `_nodes_by_key`: a later node replaces an earlier one of the same key. -/
def node? : Option ScenarioNode := graph.nodes.reverse.find? fun node => node.nodeKey = key

def outgoing : List ScenarioEdge := graph.edges.filter fun edge => edge.fromKey = key

/-- The edge that `_next_edge_key` takes. -/
def nextEdge : Option String → Option ScenarioEdge
  | none => (graph.outgoing key).find? fun edge => edge.branch = none
  | some branch =>
    ((graph.outgoing key).find? fun edge => edge.branch = some branch).or (graph.outgoing key).head?

/-- `_walk_to_waitpoint`, with the nodes that may still be looked at. Every evaluation of a condition
has an answer of its own. -/
def walkToWaitpoint (now : Time) (answers : ℕ → ScenarioCondition → Bool) :
    ℕ → Option String → ScenarioState → ScenarioState
  | left + 1, some key, s =>
    let done : ScenarioState :=
      { s with currentNodeKey := some key, status := .completed, nextSendAt := none }
    match graph.node? key with
    | none => done
    | some node =>
      match node.nodeType with
      | .end_ => done
      | .condition =>
        let branch := branchOf (answers left (node.checkKind.getD .always))
        walkToWaitpoint now answers left ((graph.nextEdge key branch).map ScenarioEdge.toKey) s
      | .message =>
        { s with
          currentNodeKey := some key
          nodeSends := 0
          nextSendAt := some (now + seconds node.delaySeconds) }
  | _, _, s => { s with status := .completed, nextSendAt := none }

/-- At a condition node with this answer the walk does not take an edge of the other answer, and the
state completes if there are no others. -/
def Branches : Prop :=
  (∀ edge ∈ graph.nextEdge key (branchOf holds), edge.branch ≠ branchOf !holds) ∧
  ((∀ edge ∈ graph.outgoing key, edge.branch = branchOf !holds) →
    ∀ now answers left s node, graph.node? key = some node → node.nodeType = .condition →
      answers left (node.checkKind.getD .always) = holds →
        (graph.walkToWaitpoint now answers (left + 1) key s).status = .completed)

/-- The branch is right exactly if it has an edge of its own, or the first edge of the node is not
one of the other branch. -/
theorem branches_iff : graph.Branches key holds ↔
    (∃ edge ∈ graph.outgoing key, edge.branch = branchOf holds) ∨
      ∀ edge ∈ (graph.outgoing key).head?, edge.branch ≠ branchOf !holds := by
  have hbranch : some (branchOf holds) ≠ branchOf !holds := by cases holds <;> decide
  constructor
  · rintro ⟨hright, -⟩
    by_cases hown : ∃ edge ∈ graph.outgoing key, edge.branch = branchOf holds
    · exact .inl hown
    · refine .inr fun edge hedge => hright edge (Option.or_eq_some_iff.mpr (.inr ⟨?_, hedge⟩))
      exact List.find?_eq_none.mpr fun edge hedge heq => hown ⟨edge, hedge, of_decide_eq_true heq⟩
  · refine fun h => ⟨fun edge hedge => ?_, fun hother now answers left s node hnode htype hholds => ?_⟩
    · rcases Option.or_eq_some_iff.mp hedge with hfound | ⟨hnone, hhead⟩
      · have hown : edge.branch = branchOf holds := by simpa using List.find?_some hfound
        exact hown ▸ hbranch
      · rcases h with ⟨own, hmem, heq⟩ | h
        · exact absurd (decide_eq_true heq) (List.find?_eq_none.mp hnone own hmem)
        · exact h edge hhead
    · -- all edges are of the other branch, so there is none
      have hnil : graph.outgoing key = [] := by
        rcases h with ⟨own, hmem, heq⟩ | h
        · exact absurd (heq.symm.trans (hother own hmem)) hbranch
        · refine List.head?_eq_none_iff.mp (Option.eq_none_iff_forall_not_mem.mpr fun edge hedge => ?_)
          exact h edge hedge (hother edge (List.mem_of_head? hedge))
      simp [walkToWaitpoint, hnode, htype, hholds, nextEdge, hnil]

/-- A condition with an edge for the answer no only. -/
def onlyNo : Graph where
  nodes := [{ nodeKey := "c", nodeType := .condition }, { nodeKey := "m", nodeType := .message }]
  edges := [{ fromKey := "c", toKey := "m", branch := "no" }]

/-- The condition holds, and the walk takes the edge. -/
theorem onlyNo_taken :
    (onlyNo.walkToWaitpoint 0 (fun _ _ => true) 64 "c" ⟨"c", 0, .active, some 0⟩).currentNodeKey =
      some "m" ∧ ¬ onlyNo.Branches "c" true :=
  ⟨rfl, fun h => h.1 _ rfl rfl⟩

end Graph

end VpnControl.Scenarios

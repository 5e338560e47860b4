/-
# Routes

A route leads through an entry node, or directly, to a backend with a transport profile. Its weight
decides how often it is chosen. Assigning a backend to an entry creates the routes between them.

Every write is checked by the constraints of the table. One that breaks a constraint fails, and the
transaction with it.
-/

import VpnControl.Fleet.Pool

namespace VpnControl.Fleet

open Txn
open Billing (Uuid Time strip)

/-! ## Writing rows -/

/-- The check constraints of the table. -/
def Route.MeetsChecks (route : Route) : Prop :=
  0 ≤ route.baseWeight ∧ 0 ≤ route.effectiveWeight ∧ route.effectiveWeight ≤ route.baseWeight

instance (route : Route) : Decidable route.MeetsChecks := inferInstanceAs (Decidable (_ ∧ _))

namespace Database

variable (db : Database)

/-- `update_by_id`. -/
def updateRouteById (id : Uuid) (f : Route → Route) (hf : ∀ route, (f route).id = route.id) :
    Outcome :=
  match db.routes.find? id with
  | none => .ok db
  | some route =>
    if ¬ (f route).MeetsChecks then .error .checkViolation
    else if (f route).name ≠ route.name ∧
        db.routes.rows.any (fun other => other.id ≠ id ∧ other.name = (f route).name) then
      .error .uniqueViolation
    else .ok { db with routes := db.routes.modify id f hf }

/-- `create`. -/
def insertRoute (route : Route) : Outcome :=
  if ¬ route.MeetsChecks then .error .checkViolation
  else if db.routes.rows.any (fun other => other.name = route.name) then .error .uniqueViolation
  else .ok { db with routes := db.routes.insert route, nextUuid := db.nextUuid + 1 }

/-- The rows that `get_by_triple` finds. -/
def routesByTriple (backend entry profile : Uuid) : List Route :=
  db.routes.rows.filter fun route =>
    route.nodeId = backend ∧ route.transportProfileId = profile ∧ route.entryNodeId = some entry

/-- `list_active` of the transport profiles. -/
def activeProfiles : List TransportProfile :=
  (db.profiles.rows.filter (·.isActive)).insertionSort fun first second => first.name ≤ second.name

end Database

/-! ## Assignments -/

structure EntryBackendAssignIn where
  backendNodeId : Uuid
  weight : ℤ := 100
  enabled : Bool := true
  rank : ℤ := 0

structure EntryBackendUpdateIn where
  weight : Option ℤ := none
  enabled : Option Bool := none
  rank : Option ℤ := none

namespace Database

variable (settings : EntrySettings) (db : Database)

variable (entry backend : VpnNode)

/-- `_require_zone_match`. -/
def requireZoneMatch : Except FleetError Unit :=
  let entryZone := settings.effectiveZone entry.zone entry.region
  let backendZone := settings.effectiveZone backend.zone backend.region
  if entryZone = "unknown" ∨ backendZone = "unknown" ∨ entryZone = backendZone then .ok ()
  else .error .zoneMismatch

/-- The route of an assignment with one profile. -/
def ensureRoute (profile : TransportProfile) : Outcome :=
  match db.routesByTriple backend.id entry.id profile.id with
  | [] =>
    db.insertRoute {
      id := db.nextUuid
      name := settings.canonicalRouteName entry.name backend.name profile.name
      nodeId := backend.id
      entryNodeId := some entry.id
      transportProfileId := profile.id
      healthStatus := .warmingUp
      baseWeight := 50
      effectiveWeight := max 1 (50 / 2)
      warmupStage := some 1 }
  | [route] =>
    if route.isActive then .ok db
    else db.updateRouteById route.id (fun route => { route with isActive := true }) fun _ => rfl
  | _ => .error .multipleResults

/-- `_ensure_routes_for_assignment`. A name that is taken is caught, but the session cannot go on
after it. -/
def ensureRoutesForAssignment : Outcome :=
  db.activeProfiles.foldlM (fun db profile => db.ensureRoute settings entry backend profile) db

/-- Write the row of an assignment; `updated_at` follows every update. -/
def putAssignment (entry : Uuid) (payload : EntryBackendAssignIn) (now : Time) : Database :=
  match db.assignments.find? (entry, payload.backendNodeId) with
  | some _ =>
    { db with
      assignments := db.assignments.modify (entry, payload.backendNodeId)
        (fun a => { a with
          weight := payload.weight, enabled := payload.enabled, rank := payload.rank
          isActive := true, updatedAt := now }) fun _ => rfl }
  | none =>
    { db with
      assignments := db.assignments.insert {
        entryNodeId := entry, backendNodeId := payload.backendNodeId
        weight := payload.weight, enabled := payload.enabled, rank := payload.rank
        createdAt := now, updatedAt := now } }

/-- `assign_backend`. -/
def assignBackend (entry : Uuid) (payload : EntryBackendAssignIn) (now : Time) : Outcome := do
  let entryNode ← db.requireEntry entry
  let backendNode ← db.requireBackend payload.backendNodeId
  requireZoneMatch settings entryNode backendNode
  let db ← (db.putAssignment entry payload now).ensureRoutesForAssignment settings entryNode
    backendNode
  db.enqueuePoolSnapshot settings entry

/-- `update_assignment`. -/
def updateAssignment (entry backend : Uuid) (payload : EntryBackendUpdateIn) (now : Time) :
    Outcome :=
  match db.assignments.find? (entry, backend) with
  | none => .ok db
  | some a =>
    if ¬ a.isActive ∨ (payload.weight.isNone ∧ payload.enabled.isNone ∧ payload.rank.isNone) then
      .ok db
    else
      { db with
        assignments := db.assignments.modify (entry, backend)
          (fun a => { a with
            weight := payload.weight.getD a.weight
            enabled := payload.enabled.getD a.enabled
            rank := payload.rank.getD a.rank
            updatedAt := now }) fun _ => rfl }.enqueuePoolSnapshot settings entry

/-- `remove_assignment`. -/
def removeAssignment (entry backend : Uuid) (now : Time) : Outcome :=
  match db.assignments.find? (entry, backend) with
  | none => .ok db
  | some a =>
    if ¬ a.isActive then .ok db
    else
      { db with
        assignments := db.assignments.modify (entry, backend)
          (fun a => { a with isActive := false, updatedAt := now })
          fun _ => rfl }.enqueuePoolSnapshot settings entry

end Database

end VpnControl.Fleet

/-
# The health of a route

The health of a route is a small state machine. A route that recovers is warmed up: it gets a small
weight, and a larger one each time it has held the last for long enough, until it is healthy. A
failing one is suspected, degraded and blocked. A probe and the telemetry of the clients compute the
weight of a failing route from its base weight alone, whatever weight it has at the time.
-/

import VpnControl.Fleet.Model

namespace VpnControl.Fleet

open List

open Billing (Time minutes)

/-! ## The state machine -/

structure RouteWarmupStage where
  targetWeight : ℤ
  holdMinutes : ℤ

/-- What the schema of a stage admits. -/
def RouteWarmupStage.Valid (stage : RouteWarmupStage) : Prop :=
  0 ≤ stage.targetWeight ∧ stage.targetWeight ≤ 100 ∧ 1 ≤ stage.holdMinutes

def firstWarmupStage : RouteWarmupStage := ⟨10, 30⟩

def defaultWarmupStages : List RouteWarmupStage := [firstWarmupStage, ⟨25, 60⟩]

def stageWeight (stages : List RouteWarmupStage) (baseWeight : ℤ) (stage : ℕ) : ℤ :=
  if baseWeight ≤ 0 then 0
  else match stages[stage]? with
    | none => baseWeight
    | some config => min baseWeight config.targetWeight

def initialWarmupWeight (baseWeight : ℤ) : ℤ :=
  if baseWeight ≤ 0 then 0 else min baseWeight firstWarmupStage.targetWeight

inductive RouteHealthAction
  | block
  | recover
  | setHealthy
  | setDegraded
  | setSuspected

structure RouteStateResolution where
  healthStatus : RouteHealthStatus
  effectiveWeight : ℤ
  cooldownUntil : Option Time := none
  warmupStage : Option ℕ := none
  warmupStartedAt : Option Time := none

/-- The schema refuses a weight that is not between 0 and 100. -/
def RouteStateResolution.validated (state : RouteStateResolution) :
    Except FleetError RouteStateResolution :=
  if 0 ≤ state.effectiveWeight ∧ state.effectiveWeight ≤ 100 then .ok state else .error .rejected

/-- `resolve_probe_block`, which is the action `block` too. -/
def resolveProbeBlock (checkedAt : Time) (cooldownHours : ℤ) :
    Except FleetError RouteStateResolution :=
  { healthStatus := .blocked
    effectiveWeight := 0
    cooldownUntil := if 0 < cooldownHours then some (checkedAt + minutes (60 * cooldownHours))
      else none : RouteStateResolution }.validated

/-- `_healthy_state`. -/
def healthyState (route : Route) : Except FleetError RouteStateResolution :=
  { healthStatus := .healthy, effectiveWeight := route.baseWeight : RouteStateResolution }.validated

def warmingState (weight : ℤ) (stage : ℕ) (now : Time) : Except FleetError RouteStateResolution :=
  { healthStatus := .warmingUp
    effectiveWeight := weight
    warmupStage := some stage
    warmupStartedAt := some now : RouteStateResolution }.validated

def resolveRouteHealthAction (stages : List RouteWarmupStage) (route : Route)
    (action : RouteHealthAction) (now : Time) (cooldownHours : ℤ) :
    Except FleetError RouteStateResolution :=
  match action with
  | .block => resolveProbeBlock now cooldownHours
  | .recover =>
    if route.cooldownUntil.any (now < ·) then .error .cooldownActive
    else warmingState (stageWeight stages route.baseWeight 0) 0 now
  | .setHealthy => healthyState route
  | .setDegraded =>
    { healthStatus := .degraded
      effectiveWeight :=
        max 1 (min route.baseWeight (route.baseWeight / 2)) : RouteStateResolution }.validated
  | .setSuspected =>
    { healthStatus := .suspected
      effectiveWeight :=
        max 1 (min route.baseWeight (route.baseWeight / 3)) : RouteStateResolution }.validated

def resolveProbeRecover (route : Route) (checkedAt : Time) :
    Except FleetError (Option RouteStateResolution) :=
  if route.healthStatus ≠ .blocked ∨ route.cooldownUntil.any (checkedAt < ·) then .ok none
  else (warmingState (initialWarmupWeight route.baseWeight) 0 checkedAt).map some

def resolveBootstrapRecovery (routeBaseWeight : ℤ) (now : Time) :
    Except FleetError RouteStateResolution :=
  warmingState (initialWarmupWeight routeBaseWeight) 0 now

def resolveWarmupTick (stages : List RouteWarmupStage) (route : Route) (now : Time) :
    Except FleetError (Option RouteStateResolution) :=
  match route.warmupStage, route.warmupStartedAt with
  | some stage, some started =>
    match stages[stage]? with
    | none => (healthyState route).map some
    | some config =>
      if now - started < minutes config.holdMinutes then .ok none
      else if stages.length ≤ stage + 1 then (healthyState route).map some
      else (warmingState (stageWeight stages route.baseWeight (stage + 1)) (stage + 1) now).map some
  | _, _ => (healthyState route).map some

/-- `RouteStateUpdate` writes all columns of the state. -/
def Route.setState (route : Route) (state : RouteStateResolution) : Route :=
  { route with
    healthStatus := state.healthStatus
    effectiveWeight := state.effectiveWeight
    cooldownUntil := state.cooldownUntil
    warmupStage := state.warmupStage
    warmupStartedAt := state.warmupStartedAt }

/-! ## Warm-up -/

/-- What `advance_warmup` does with one route, and how often it has changed it. -/
def advanceWarmup (stages : List RouteWarmupStage) (run : Route × ℕ) (now : Time) :
    Except FleetError (Route × ℕ) :=
  if run.1.isActive ∧ run.1.healthStatus = .warmingUp then
    (resolveWarmupTick stages run.1 now).map fun state =>
      state.elim run fun state => (run.1.setState state, run.2 + 1)
  else .ok run

/-- The three ways into the warm-up with these stages. The last two know the default ones only. -/
inductive Recovers (stages : List RouteWarmupStage) (route : Route) (now : Time)
    (state : RouteStateResolution) : Prop
  | action (cooldownHours : ℤ)
      (h : resolveRouteHealthAction stages route .recover now cooldownHours = .ok state)
  | probe (hstages : stages = defaultWarmupStages)
      (h : resolveProbeRecover route now = .ok (some state))
  | bootstrap (hstages : stages = defaultWarmupStages)
      (h : resolveBootstrapRecovery route.baseWeight now = .ok state)

/-- The time that the first stages are held. -/
def holdTime (stages : List RouteWarmupStage) (n : ℕ) : Time :=
  ((stages.take n).map fun stage => minutes stage.holdMinutes).sum

variable (stages : List RouteWarmupStage) (baseWeight : ℤ) (start now : Time) in
/-- Where a route of this base weight stands that was put into warm-up at `start` and has been
changed `n` times since: in stage `n`, or healthy after all of them. -/
inductive Staged : Route × ℕ → Prop
  | warming (route : Route) (n : ℕ) (stage : RouteWarmupStage) (started : Time)
      (hstage : stages[n]? = some stage) (hbase : route.baseWeight = baseWeight)
      (hstatus : route.healthStatus = .warmingUp) (hn : route.warmupStage = some n)
      (hstarted : route.warmupStartedAt = some started) (hnow : started ≤ now)
      (hheld : start + holdTime stages n ≤ started)
      (hweight : route.effectiveWeight = min baseWeight stage.targetWeight) :
      Staged (route, n)
  | healthy (route : Route) (hstatus : route.healthStatus = .healthy)
      (hweight : route.effectiveWeight = baseWeight)
      (hheld : start + holdTime stages stages.length ≤ now) :
      Staged (route, stages.length)

section

variable {stages : List RouteWarmupStage} {route : Route} {start now later : Time}
  {state : RouteStateResolution} {baseWeight : ℤ} {run : Route × ℕ}

theorem validated_eq_ok : state.validated = .ok other ↔
    (0 ≤ state.effectiveWeight ∧ state.effectiveWeight ≤ 100) ∧ state = other := by
  unfold RouteStateResolution.validated
  split <;> simp_all

theorem map_eq_ok {x : Except ε α} {f : α → β} : x.map f = .ok y ↔ ∃ a, x = .ok a ∧ f a = y := by
  cases x <;> simp [Except.map]

/- The stages and the base weight are within the bounds of the schemas. -/
variable (hvalid : ∀ stage ∈ stages, stage.Valid) (hbase : 0 ≤ baseWeight ∧ baseWeight ≤ 100)

include hvalid hbase

theorem staged_of_warmingState (hstage : stages[n]? = some stage)
    (hroute : route.baseWeight = baseWeight) (hheld : start + holdTime stages n ≤ now) :
    ∃ state, warmingState (stageWeight stages route.baseWeight n) n now = .ok state ∧
      Staged stages baseWeight start now (route.setState state, n) ∧
      state.effectiveWeight = min baseWeight stage.targetWeight := by
  have hweight : stageWeight stages baseWeight n = min baseWeight stage.targetWeight := by
    simp only [stageWeight, hstage]
    split
    · rename_i hzero
      rw [le_antisymm hzero hbase.1, min_eq_left (hvalid stage (mem_of_getElem? hstage)).1]
    · rfl
  rw [hroute, hweight]
  refine ⟨_, validated_eq_ok.mpr ⟨⟨?_, ?_⟩, rfl⟩, ?_, rfl⟩
  · exact le_min hbase.1 (hvalid stage (mem_of_getElem? hstage)).1
  · exact (min_le_left _ _).trans hbase.2
  · exact .warming _ n stage now hstage hroute rfl rfl rfl le_rfl hheld rfl

theorem Recovers.staged (h : Recovers stages route start state) (hne : stages ≠ [])
    (hroute : route.baseWeight = baseWeight) :
    Staged stages baseWeight start start (route.setState state, 0) := by
  obtain ⟨stage, hstage⟩ : ∃ stage, stages[0]? = some stage :=
    ⟨_, getElem?_eq_getElem (length_pos_iff.mpr hne)⟩
  obtain ⟨found, hfound, hstaged, -⟩ :=
    staged_of_warmingState hvalid hbase hstage hroute (by simp [holdTime] : start + _ ≤ start)
  have hwarming : warmingState (stageWeight stages route.baseWeight 0) 0 start = .ok state := by
    cases h with
    | action _ h =>
      unfold resolveRouteHealthAction at h
      dsimp only at h
      split at h
      · cases h
      · exact h
    | probe hstages h =>
      unfold resolveProbeRecover at h
      split at h
      · cases h
      · obtain ⟨warmed, hwarmed, heq⟩ := map_eq_ok.mp h
        subst hstages
        exact Option.some.inj heq ▸ hwarmed
    | bootstrap hstages h =>
      subst hstages
      exact h
  cases hfound.symm.trans hwarming
  exact hstaged

variable (hsorted : stages.Pairwise fun first second => first.targetWeight ≤ second.targetWeight)

include hsorted

/-- One tick: the stage is held, or the next one starts, or the route is healthy. -/
theorem Staged.advance (h : Staged stages baseWeight start now run) (hlater : now ≤ later) :
    ∃ next, advanceWarmup stages run later = .ok next ∧ Staged stages baseWeight start later next ∧
      run.1.effectiveWeight ≤ next.1.effectiveWeight := by
  unfold advanceWarmup
  cases h with
  | healthy route hstatus hweight hheld =>
    rw [if_neg (by simp [hstatus])]
    exact ⟨_, rfl, .healthy route hstatus hweight (hheld.trans hlater), le_rfl⟩
  | warming route n stage started hstage hroute hstatus hn hstarted hnow hheld hweight =>
    have hsame : Staged stages baseWeight start later (route, n) :=
      .warming route n stage started hstage hroute hstatus hn hstarted (hnow.trans hlater) hheld
        hweight
    split
    · simp only [resolveWarmupTick, hn, hstarted, hstage]
      split
      · exact ⟨_, rfl, hsame, le_rfl⟩
      · rename_i hover
        have hpassed : start + holdTime stages (n + 1) ≤ later := by
          simp only [holdTime, take_add_one, hstage, Option.toList_some, map_append,
            sum_append, map_singleton, sum_singleton] at hheld ⊢
          linarith
        split
        · rename_i hlast
          have hhealthy : healthyState route = .ok _ :=
            validated_eq_ok.mpr ⟨by simpa only [hroute] using hbase, rfl⟩
          obtain ⟨hlt, -⟩ := List.getElem?_eq_some_iff.mp hstage
          have hlength : n + 1 = stages.length := le_antisymm hlt hlast
          rw [hlength] at hpassed ⊢
          rw [hhealthy]
          refine ⟨_, rfl, .healthy _ rfl hroute hpassed, ?_⟩
          exact hweight.trans_le ((min_le_left _ _).trans_eq hroute.symm)
        · rename_i hmore
          have hnext := getElem?_eq_getElem (not_le.mp hmore)
          obtain ⟨state, hstate, hstaged, hstateWeight⟩ :=
            staged_of_warmingState hvalid hbase hnext hroute hpassed
          rw [hstate]
          refine ⟨_, rfl, hstaged, ?_⟩
          obtain ⟨hlt, rfl⟩ := List.getElem?_eq_some_iff.mp hstage
          refine hweight.trans_le ((min_le_min_left _ ?_).trans_eq hstateWeight.symm)
          exact List.pairwise_iff_getElem.mp hsorted n (n + 1) hlt _ n.lt_succ_self
    · exact ⟨_, rfl, hsame, le_rfl⟩

theorem Staged.ticks {ticks : List Time} (h : Staged stages baseWeight start now run)
    (hticks : (now :: ticks).Pairwise (· ≤ ·)) :
    ∃ last, ticks.foldlM (advanceWarmup stages) run = .ok last ∧
      Staged stages baseWeight start (ticks.getLastD now) last := by
  induction ticks generalizing now run with
  | nil => exact ⟨run, rfl, h⟩
  | cons later rest ih =>
    obtain ⟨hhead, hrest⟩ := pairwise_cons.mp hticks
    obtain ⟨next, hnext, hstaged, -⟩ := h.advance hvalid hbase hsorted (hhead later mem_cons_self)
    obtain ⟨last, hlast, hfinal⟩ := ih hstaged hrest
    refine ⟨last, ?_, ?_⟩
    · rw [foldlM_cons, hnext]
      exact hlast
    · rwa [getLastD_cons]

end

/-- A route that is put into the default warm-up at time 0. -/
def recoveredState : RouteStateResolution where
  healthStatus := .warmingUp
  effectiveWeight := 10
  warmupStage := some 0
  warmupStartedAt := some 0

def blockedRoute (baseWeight : ℤ) : Route where
  id := 1
  nodeId := 2
  transportProfileId := 3
  healthStatus := .blocked
  baseWeight
  effectiveWeight := 0

/-- The thresholds for the failed probes in a row. -/
structure ProbePolicy where
  routeSuspectedAfterFailures : ℤ
  routeDegradedAfterFailures : ℤ
  routeBlockAfterFailures : ℤ
  routeBlockCooldownHours : ℤ

/-- The thresholds for the keys that have reported a failure. -/
structure ConnectTelemetryService where
  failureDegradedThreshold : ℤ
  failureBlockThreshold : ℤ
  blockCooldownHours : ℤ

/-- A failure of a route, with what the mesh, the log of the probes, the debounce and the failure
set in Redis say. -/
inductive FailingSignal
  | probe (policy : ProbePolicy) (meshHealthy : Bool) (consecutive : ℤ)
  | telemetry (service : ConnectTelemetryService) (accepted : Bool) (failureSignals : ℤ)

variable (signal : FailingSignal)

/-- `_degrade_route_after_probe`, and what `report` does with a `connect_failure`. -/
def FailingSignal.resolve (now : Time) (route : Route) :
    Except FleetError (Option RouteStateResolution) :=
  match signal with
  | probe policy meshHealthy consecutive =>
    if route.healthStatus = .blocked ∨ meshHealthy = true then .ok none
    else if policy.routeBlockAfterFailures ≤ consecutive then
      (resolveProbeBlock now policy.routeBlockCooldownHours).map some
    else if policy.routeDegradedAfterFailures ≤ consecutive then
      if route.healthStatus = .degraded then .ok none
      else ({ healthStatus := .degraded
              effectiveWeight := max 1 (route.baseWeight / 2) :
                RouteStateResolution }.validated).map some
    else if policy.routeSuspectedAfterFailures ≤ consecutive then
      if route.healthStatus = .suspected then .ok none
      else ({ healthStatus := .suspected
              effectiveWeight := max 1 (route.baseWeight / 3) :
                RouteStateResolution }.validated).map some
    else .ok none
  | telemetry service accepted failureSignals =>
    let apply (action : RouteHealthAction) :=
      (resolveRouteHealthAction defaultWarmupStages route action now
        service.blockCooldownHours).map some
    if ¬ accepted ∨ route.healthStatus = .blocked ∨ route.healthStatus = .warmingUp then .ok none
    else if service.failureBlockThreshold ≤ failureSignals then apply .block
    else if service.failureDegradedThreshold ≤ failureSignals then
      if route.healthStatus = .degraded then .ok none else apply .setDegraded
    else if route.healthStatus = .suspected then .ok none
    else apply .setSuspected

/-- The route afterwards. A signal that cannot be processed is rolled back. -/
def FailingSignal.process (now : Time) (route : Route) : Route :=
  match signal.resolve now route with
  | .ok (some state) => route.setState state
  | _ => route

/-- The share of the base weight is a weight, and more than what the route has. -/
def Route.Below (route : Route) (share : ℤ) : Prop :=
  route.effectiveWeight < route.baseWeight / share ∧ route.baseWeight / share ≤ 100

/-- The signal puts a route into a status that stands for more weight than the route has. -/
def FailingSignal.Raises (route : Route) : Prop :=
  match signal with
  | probe policy meshHealthy consecutive =>
    route.healthStatus ≠ .blocked ∧ meshHealthy = false ∧
      consecutive < policy.routeBlockAfterFailures ∧
      if policy.routeDegradedAfterFailures ≤ consecutive then
        route.healthStatus ≠ .degraded ∧ route.Below 2
      else policy.routeSuspectedAfterFailures ≤ consecutive ∧ route.healthStatus ≠ .suspected ∧
        route.Below 3
  | telemetry service accepted failureSignals =>
    accepted = true ∧ route.healthStatus ≠ .blocked ∧ route.healthStatus ≠ .warmingUp ∧
      failureSignals < service.failureBlockThreshold ∧
      if service.failureDegradedThreshold ≤ failureSignals then
        route.healthStatus ≠ .degraded ∧ route.Below 2
      else route.healthStatus ≠ .suspected ∧ route.Below 3

variable {signal : FailingSignal}

theorem process_of_ignored (h : signal.resolve now route = .ok none) :
    (signal.process now route).effectiveWeight ≤ route.effectiveWeight := by
  simp [FailingSignal.process, h]

theorem process_of_blocked (hweight : 0 ≤ route.effectiveWeight)
    (h : signal.resolve now route = (resolveProbeBlock now hours).map some) :
    (signal.process now route).effectiveWeight ≤ route.effectiveWeight := by
  unfold FailingSignal.process
  rw [h]
  exact hweight

theorem process_le_iff (hshare : 0 ≤ route.baseWeight / share)
    (h : signal.resolve now route = ({ healthStatus := status, effectiveWeight :=
      route.baseWeight / share : RouteStateResolution }.validated).map some) :
    (signal.process now route).effectiveWeight ≤ route.effectiveWeight ↔ ¬ route.Below share := by
  unfold FailingSignal.process
  rw [h]
  by_cases hle : route.baseWeight / share ≤ 100
  · simp [RouteStateResolution.validated, Except.map, Route.setState, Route.Below, hshare, hle]
  · simp [RouteStateResolution.validated, Except.map, Route.Below, hle]

/-- **When a failure does not raise the weight.** -/
theorem failure_lowers_iff (signal : FailingSignal) (now : Time) (route : Route)
    (hbase : 3 ≤ route.baseWeight) (hweight : 0 ≤ route.effectiveWeight) :
    (signal.process now route).effectiveWeight ≤ route.effectiveWeight ↔ ¬ signal.Raises route := by
  have hhalf : max 1 (route.baseWeight / 2) = route.baseWeight / 2 := by omega
  have hthird : max 1 (route.baseWeight / 3) = route.baseWeight / 3 := by omega
  have hminHalf : min route.baseWeight (route.baseWeight / 2) = route.baseWeight / 2 := by omega
  have hminThird : min route.baseWeight (route.baseWeight / 3) = route.baseWeight / 3 := by omega
  generalize hresolved : signal.resolve now route = resolved
  have hresolve := hresolved
  cases signal with
  | probe policy meshHealthy consecutive =>
    simp only [FailingSignal.resolve, hhalf, hthird] at hresolved
    split_ifs at hresolved with hskip hblock hdegraded hstatus hsuspected hstatus <;>
      subst hresolved
    · refine iff_of_true (process_of_ignored hresolve) ?_
      rintro ⟨hblocked, hmesh, -⟩
      simp [hblocked, hmesh] at hskip
    · exact iff_of_true (process_of_blocked hweight hresolve) fun h => h.2.2.1.not_ge hblock
    · simp [process_of_ignored hresolve, FailingSignal.Raises, hdegraded, hstatus]
    · rw [process_le_iff (by omega) hresolve]
      simp_all [FailingSignal.Raises]
    · simp [process_of_ignored hresolve, FailingSignal.Raises, hdegraded, hstatus]
    · rw [process_le_iff (by omega) hresolve, FailingSignal.Raises, if_neg hdegraded]
      simp_all
    · simp [process_of_ignored hresolve, FailingSignal.Raises, hdegraded, hsuspected]
  | telemetry service accepted failureSignals =>
    simp only [FailingSignal.resolve, resolveRouteHealthAction, hminHalf, hminThird, hhalf, hthird]
      at hresolved
    split_ifs at hresolved with hskip hblock hdegraded hstatus hstatus <;> subst hresolved
    · refine iff_of_true (process_of_ignored hresolve) ?_
      rintro ⟨haccepted, hblocked, hwarming, -⟩
      simp [haccepted, hblocked, hwarming] at hskip
    · exact iff_of_true (process_of_blocked hweight hresolve) fun h => h.2.2.2.1.not_ge hblock
    · simp [process_of_ignored hresolve, FailingSignal.Raises, hdegraded, hstatus]
    · rw [process_le_iff (by omega) hresolve]
      simp_all [FailingSignal.Raises]
    · simp [process_of_ignored hresolve, FailingSignal.Raises, hdegraded, hstatus]
    · rw [process_le_iff (by omega) hresolve, FailingSignal.Raises, if_neg hdegraded]
      simp_all

def healthyRoute : Route := { blockedRoute 60 with healthStatus := .healthy, effectiveWeight := 60 }

/-- A failed probe, with one more failure before it each time. -/
def failedProbe (consecutive : ℤ) : FailingSignal := .probe ⟨1, 2, 3, 0⟩ false consecutive

theorem failure_lowers_iff_healthy : 3 ≤ healthyRoute.baseWeight ∧
    (((failedProbe 1).process 0 healthyRoute).effectiveWeight ≤ healthyRoute.effectiveWeight ↔
      ¬ (failedProbe 1).Raises healthyRoute) :=
  ⟨by decide, failure_lowers_iff _ _ _ (by decide) (by decide)⟩

/-- The second failure gives the route half of its weight. After the first one it had a third. -/
theorem second_failure_raises_weight : ((failedProbe 1).process 0 healthyRoute).isActive = true ∧
    3 ≤ ((failedProbe 1).process 0 healthyRoute).baseWeight ∧
    ¬ ((failedProbe 2).process 0 ((failedProbe 1).process 0 healthyRoute)).effectiveWeight ≤
      ((failedProbe 1).process 0 healthyRoute).effectiveWeight := by
  decide

end VpnControl.Fleet

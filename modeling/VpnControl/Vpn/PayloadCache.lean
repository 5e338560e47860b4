/-
# What serving a configuration touches

A call of `build_payload` reads the tables and uses Redis under keys of its own token hash. The
only other thing it does is to build a configuration. What holds of these statements and of a
build therefore holds of the whole call, whichever way it takes through the cache and its lock.
-/

import VpnControl.Txn.Triple
import VpnControl.Vpn.Evaluation
import VpnControl.Vpn.Scenario

namespace VpnControl.Vpn

open Txn Shared Stmt
open Billing (Uuid Time)

def RedisKey.tokenHash : RedisKey → String
  | rateLimit hash => hash
  | payloadCache hash _ _ => hash
  | payloadCacheIndex hash => hash
  | payloadBuildLock hash _ _ => hash

/-- A statement with which a configuration is served. -/
inductive Stmt.Serves (hash : String) : Stmt → Prop
  | query (α : Type) (select : Database → α) : Serves hash (.query α select)
  | now : Serves hash (.billing .now)
  | redis (command : RedisCommand) (h : ∀ key ∈ command.writes, key.tokenHash = hash) :
      Serves hash (.redis command)

/-- A serving statement changes Redis only. -/
theorem Stmt.Serves.after {hash : String} {op : Stmt} (h : op.Serves hash) (s : beside.Point) :
    (s.after op).db = s.db ∧ (s.after op).session = s.session := by
  cases h <;> exact ⟨rfl, rfl⟩

section

variable {α : Type} {hash : String}

@[simp]
theorem serves_select (query : Database → α) : (select query : Service α).Every (Serves hash) :=
  ⟨.query α query, fun _ => trivial⟩

@[simp]
theorem serves_datetimeNow : datetimeNow.Every (Serves hash) := ⟨.now, fun _ => trivial⟩

theorem serves_redis (h : ∀ key ∈ command.writes, key.tokenHash = hash) :
    (redis command).Every (Serves hash) :=
  ⟨.redis command h, fun _ => trivial⟩

@[simp]
theorem serves_raise : (raise error : Service α).Every (Serves hash) := trivial

theorem serves_buildUserInfo : (buildUserInfo subscription).Every (Serves hash) :=
  .bind (by simp) fun _ => by simp

theorem serves_readPayloadCache : (readPayloadCache key).Every (Serves hash) := by
  refine .bind (serves_redis (by simp [Redis.Command.writes])) fun found => ?_
  split
  · simp
  · split <;> simp
  · simp

theorem serves_waitForCachedPayload : (waitForCachedPayload key attempts).Every (Serves hash) := by
  induction attempts with
  | zero => simp [waitForCachedPayload]
  | succ _ ih =>
    refine .bind serves_readPayloadCache fun read => ?_
    split
    · simp
    · simp
    · exact ih

theorem serves_serveCached {request : PayloadRequest} :
    (serveCached request tokenHash payload etag).Every (Serves hash) := by
  unfold serveCached
  refine .bind (.bind (by simp) fun rows => by unfold scalarOneOrNone; split <;> simp) fun found => ?_
  cases found with
  | none => dsimp only; split <;> simp
  | some subscription =>
    exact .bind serves_buildUserInfo fun _ => by split <;> simp

theorem serves_enforceRateLimit : (enforceRateLimit hash).Every (Serves hash) := by
  have hkey : ∀ key ∈ [RedisKey.rateLimit hash], key.tokenHash = hash := by
    simp [RedisKey.tokenHash]
  refine .bind (serves_redis hkey) fun current => ?_
  have hlimit : (if rateLimitRequests < current then raise .rateLimited else pure () :
      Service Unit).Every (Serves hash) := by
    split <;> simp
  dsimp only
  split
  · exact .bind (serves_redis hkey) fun _ => hlimit
  · exact hlimit

theorem serves_writePayloadCache (hkey : key.tokenHash = hash) :
    (writePayloadCache hash key payload etag ttlSec).Every (Serves hash) := by
  unfold writePayloadCache
  split
  · simp
  · refine .bind (serves_redis (by simpa [Redis.Command.writes] using hkey)) fun _ => ?_
    refine .bind (serves_redis ?_) fun _ => serves_redis ?_
    · simp [Redis.Command.writes, RedisKey.tokenHash]
    · simp [Redis.Command.writes, RedisKey.tokenHash]

theorem serves_validateSubscription (subscription : Subscription) :
    (validateSubscription subscription).Every (Serves hash) := by
  refine .bind (by simp) fun now => ?_
  split
  · simp
  · split <;> simp

variable {cfg : Settings} {build : Subscription → Service Rendered} {request : PayloadRequest}
  {A : beside.Point → Prop}

/-! ## An assertion about the tables -/

/-- The assertion does not speak about Redis. -/
def AboutTables (A : beside.Point → Prop) : Prop :=
  ∀ s s' : beside.Point, A s → s'.db = s.db → s'.session = s.session → A s'

theorem triple_serving (hA : AboutTables A) (hash : String) {p : Service α}
    (hp : p.Every (Serves hash)) : Triple A p fun _ => A :=
  .frame hp fun _ hop s hs => hA s _ hs (hop.after s).1 (hop.after s).2

/-- The time does not pass while a request runs. -/
theorem Triple.atNow
    {f : Time → Service β}
    (h : ∀ now, Triple (fun s => A s ∧ s.session.billing.now = now) (f now) B) :
    Triple A (datetimeNow >>= f) B :=
  fun s hs => h s.session.billing.now s ⟨hs, rfl⟩

/-- The request is about this subscription, and the subscription is open. -/
def Serving (hash : String) (sub : Subscription) (s : beside.Point) : Prop :=
  s.db.subscriptionsByAnyTokenHash hash = [sub] ∧ sub.isClosed s.session.billing.now = false

theorem AboutTables.and_serving (hA : AboutTables A) (hash : String)
    (sub : Subscription) : AboutTables fun s => A s ∧ Serving hash sub s := by
  rintro s s' ⟨hs, hserving⟩ hdb hsession
  refine ⟨hA s s' hs hdb hsession, ?_⟩
  unfold Serving
  rwa [hdb, hsession]

theorem serves_answer {rendered : Rendered} : (buildUserInfo sub >>= fun userInfo =>
      if rendered.etag ≠ "" ∧ request.ifNoneMatch = some rendered.etag then
        pure (PayloadOut.mk "" rendered.etag true (some userInfo))
      else pure (PayloadOut.mk rendered.payload rendered.etag false (some userInfo)) :
      Service PayloadOut).Every (Serves hash) :=
  .bind serves_buildUserInfo fun _ => by split <;> simp

section Triple

variable {A A' : beside.Point → Prop} (hA : AboutTables A) (hA' : AboutTables A')
  (hle : ∀ s, A s → A' s)
  (hbuild : ∀ sub, Triple
    (fun s => A s ∧ Serving (cfg.library.sha256 request.rawToken) sub s) (build sub) fun _ => A')

include hA hA' hle hbuild

theorem triple_buildFresh (hkey : key.tokenHash = cfg.library.sha256 request.rawToken) :
    Triple A (buildFresh cfg build request key ttlSec) fun _ => A' := by
  have hfound : Triple A (getByAnyTokenHash (cfg.library.sha256 request.rawToken)) fun found s =>
      A s ∧ ∀ sub ∈ found,
        s.db.subscriptionsByAnyTokenHash (cfg.library.sha256 request.rawToken) = [sub] := by
    intro s hs value done hrun
    unfold getByAnyTokenHash at hrun
    rw [run_select] at hrun
    unfold scalarOneOrNone at hrun
    split at hrun
    · cases hrun
      exact ⟨hs, by simp⟩
    · rename_i row hrows
      cases hrun
      refine ⟨hs, ?_⟩
      rintro sub hsub
      obtain rfl : row = sub := Option.some.inj hsub
      exact hrows
    · cases hrun
  refine .bind hfound fun found => ?_
  cases found with
  | none => exact .raise
  | some sub =>
    refine Triple.atNow fun now => ?_
    split
    · exact (triple_serving hA' (cfg.library.sha256 request.rawToken)
        (.bind serves_buildUserInfo fun _ => by simp)).pre fun s hs => hle s hs.1.1
    · rename_i hopen
      have hvalid := triple_serving (hA.and_serving (cfg.library.sha256 request.rawToken) sub)
        (cfg.library.sha256 request.rawToken) (serves_validateSubscription sub)
      refine .bind (hvalid.pre ?_) fun _ => .bind (hbuild sub) fun rendered => ?_
      · rintro s ⟨⟨hs, hrows⟩, rfl⟩
        exact ⟨hs, hrows sub rfl, by simpa using hopen⟩
      · dsimp only
        split
        · exact triple_serving hA' (cfg.library.sha256 request.rawToken)
            (.bind (serves_writePayloadCache hkey) fun _ => serves_answer)
        · exact triple_serving hA' (cfg.library.sha256 request.rawToken) serves_answer

theorem triple_buildLimited (hkey : key.tokenHash = cfg.library.sha256 request.rawToken)
    (hlock : lockKey.tokenHash = cfg.library.sha256 request.rawToken) :
    Triple A (buildLimited cfg build request key lockKey ttlSec lockAcquired) fun _ => A' := by
  refine .bind (triple_serving hA (cfg.library.sha256 request.rawToken)
    serves_enforceRateLimit) fun _ => ?_
  split
  · refine .andFinally (triple_buildFresh hA hA' hle hbuild hkey) fun _ =>
      triple_serving hA' (cfg.library.sha256 request.rawToken) (serves_redis ?_)
    simpa [Redis.Command.writes] using hlock
  · exact triple_buildFresh hA hA' hle hbuild hkey

/-- Serving a configuration keeps what building it keeps. -/
theorem triple_buildPayload : Triple A (buildPayload cfg build request) fun _ => A' := by
  have hserve : ∀ {γ : Type} {p : Service γ},
      p.Every (Serves (cfg.library.sha256 request.rawToken)) → Triple A p fun _ => A :=
    fun hp => triple_serving hA (cfg.library.sha256 request.rawToken) hp
  have hcached : ∀ payload etag, Triple A (serveCached request
      (cfg.library.sha256 request.rawToken) payload etag) fun _ => A' := fun payload etag =>
    (hserve serves_serveCached).post fun _ s hs => hle s hs
  unfold buildPayload
  dsimp only
  split
  · refine .bind (hserve serves_readPayloadCache) fun read => ?_
    split
    · exact hcached _ _
    · have hacquire : (acquirePayloadBuildLock (.payloadBuildLock
          (cfg.library.sha256 request.rawToken) (cfg.library.hwidMarker request.hwid)
          request.extraEtagSignature)).Every
          (Serves (cfg.library.sha256 request.rawToken)) :=
        serves_redis (by simp [Redis.Command.writes, RedisKey.tokenHash])
      refine .bind (hserve hacquire) fun acquired => ?_
      split
      · exact triple_buildLimited hA hA' hle hbuild rfl rfl
      · refine .bind (hserve serves_waitForCachedPayload) fun waited => ?_
        split
        · exact hcached _ _
        · exact triple_buildLimited hA hA' hle hbuild rfl rfl
  · exact triple_buildLimited hA hA' hle hbuild rfl rfl

end Triple

end

/-! ## Rotated tokens

`rotate_token` gives the token that it replaces a time of grace, and nothing ever reads that
time. -/

open Table List Option

/-- A database in which a subscription has had these tokens, the last one first. Between two
rotations any time may pass, and each has a grace of its own. -/
inductive Rotated (cfg : Settings) (id : Uuid) : Database → List String → Prop
  | start {db : Database} {row : Subscription} (hrow : db.subscription? id = some row)
      (hprev : row.prevTokenHash = none) (htoken : row.tokenHash = cfg.library.sha256 token) :
      Rotated cfg id db [token]
  | rotate {s done : beside.Point} (h : Rotated cfg id s.db tokens)
      (hrun : run (rotateToken cfg id grace) s = (.ok out, done)) :
      Rotated cfg id done.db (out.token :: tokens)

variable {cfg : Settings} {id : Uuid} {s : beside.Point} {db : Database} {row : Subscription}

theorem run_generateToken {f : String → Service α} : run (generateToken >>= f) s =
    run (f (s.session.token s.session.drawn))
      { s with session := { s.session with drawn := s.session.drawn + 1 } } := rfl

/-- What a rotation leaves in the row. -/
theorem subscription?_rotateToken (hrow : s.db.subscription? id = some row)
    (hrun : run (rotateToken cfg id grace) s = (.ok out, done)) :
    ∃ next, done.db.subscription? id = some next ∧
      next.tokenHash = cfg.library.sha256 out.token ∧ next.prevTokenHash = some row.tokenHash := by
  unfold rotateToken getSubscription at hrun
  simp only [run_select, hrow, run_generateToken, run_datetimeNow, run_execute] at hrun
  split at hrun
  · cases hrun
  · rename_i next hnext
    obtain ⟨columns, hcolumns, hjoin⟩ := bind_eq_some_iff.mp hnext
    obtain ⟨billing, _, rfl⟩ := map_eq_some_iff.mp hjoin
    obtain ⟨old, _, rfl⟩ := map_eq_some_iff.mp
      ((find?_modify_self (SubscriptionInternalRotate.set _) fun _ => rfl).symm.trans hcolumns)
    -- what follows the update is a matter of Redis
    obtain ⟨_, hfirst⟩ := run_invalidate _ _ _
    obtain ⟨_, hsecond⟩ := run_invalidate _ _ _
    cases hrun.symm.trans (hfirst.trans hsecond)
    exact ⟨_, hnext, rfl, rfl⟩

theorem Rotated.hashes (h : Rotated cfg id db tokens) : ∃ row, db.subscription? id = some row ∧
    row.tokenHash :: row.prevTokenHash.toList = (tokens.take 2).map cfg.library.sha256 := by
  induction h with
  | start hrow hprev htoken => exact ⟨_, hrow, by simp [hprev, htoken]⟩
  | @rotate tokens _ _ _ _ _ hrun ih =>
    obtain ⟨row, hrow, hhashes⟩ := ih
    obtain ⟨next, hnext, htoken, hprev⟩ := subscription?_rotateToken hrow hrun
    refine ⟨next, hnext, ?_⟩
    cases tokens with
    | nil => cases hhashes
    | cons => simp_all

theorem mem_subscriptionsByAnyTokenHash {hash : String} :
    row ∈ db.subscriptionsByAnyTokenHash hash ↔ db.subscription? row.id = some row ∧
      (row.tokenHash = hash ∨ row.prevTokenHash = some hash) := by
  simp only [Database.subscriptionsByAnyTokenHash, mem_filterMap, mem_filter, decide_eq_true_eq]
  constructor
  · rintro ⟨columns, ⟨hmem, hhash⟩, hjoin⟩
    have hrow : db.subscription? columns.id = some row :=
      bind_eq_some_iff.mpr ⟨columns, find?_of_mem hmem, hjoin⟩
    refine ⟨Database.id_of_subscription? hrow ▸ hrow, ?_⟩
    obtain ⟨billing, -, rfl⟩ := map_eq_some_iff.mp hjoin
    exact hhash
  · rintro ⟨hrow, hhash⟩
    obtain ⟨columns, hcolumns, hjoin⟩ := bind_eq_some_iff.mp hrow
    refine ⟨columns, ⟨mem_of_find? hcolumns, ?_⟩, hjoin⟩
    obtain ⟨billing, -, rfl⟩ := map_eq_some_iff.mp hjoin
    exact hhash

/-- **The last two tokens of a subscription find it, and no others**, after any rotations, with
any grace and at any time. -/
theorem found_iff_last_two (h : Rotated cfg id db tokens) (hash : String) :
    (∃ row ∈ db.subscriptionsByAnyTokenHash hash, row.id = id) ↔
      hash ∈ (tokens.take 2).map cfg.library.sha256 := by
  obtain ⟨row, hrow, hhashes⟩ := h.hashes
  obtain rfl := Database.id_of_subscription? hrow
  rw [← hhashes, mem_cons, mem_toList, eq_comm]
  constructor
  · rintro ⟨found, hfound, hid⟩
    obtain ⟨hsame, hhash⟩ := mem_subscriptionsByAnyTokenHash.mp hfound
    cases hrow.symm.trans (hid ▸ hsame)
    exact hhash
  · intro hhash
    exact ⟨row, mem_subscriptionsByAnyTokenHash.mpr ⟨hrow, hhash⟩, rfl⟩

/-- A rotation without grace: the token that was replaced still finds the subscription. -/
theorem found_iff_last_two_replaced :
    let library : Library := ⟨fun text => text, fun text => text⟩
    let rotated := run (rotateToken ⟨"", 15, library⟩ 3 0) (Scenario.point (Scenario.access false))
    ∃ row ∈ rotated.2.db.subscriptionsByAnyTokenHash "hash", row.id = 3 := by
  intro library rotated
  have hrun : rotated = (.ok ⟨"token0", "token0"⟩, rotated.2) := rfl
  exact (found_iff_last_two (.rotate (.start rfl rfl rfl) hrun) "hash").mpr (by simp [library])

end VpnControl.Vpn

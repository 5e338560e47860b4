/-
# The traffic cap

A subscription whose plan is used up has no live key. Reports of traffic keep this: they revoke
the keys of every subscription that they take over its limit. The methods that give access do not
look at the counter. They keep the cap exactly because they only touch keys of one subscription,
so they keep it where that one is not used up.
-/

import VpnControl.Vpn.Renewal
import VpnControl.Vpn.RevokedDevices

namespace VpnControl.Vpn

open Txn Shared List Write VpnKey
open Billing (Uuid Time Plan PaymentOrder)
open Table Database Access

/-! ## The property -/

/-- A counter that has reached the limit of a plan, if the plan has one. -/
def Over (plans : Table PlanTraffic) (plan : Option Uuid) (used : ℤ) : Prop :=
  let limit := (plan.bind plans.find?).elim 0 PlanTraffic.trafficLimitBytes
  0 < limit ∧ limit ≤ used

namespace Database

variable {db db' : Database} {subscription : Uuid}

/-- The plan of the subscription is used up. -/
def Exhausted (db : Database) (subscription : Uuid) : Prop :=
  ∃ row ∈ db.subscription? subscription,
    0 < db.trafficLimit row ∧ db.trafficLimit row ≤ row.usedTrafficBytes

theorem exhausted_iff : db.Exhausted subscription ↔ ∃ columns row,
    db.columns.find? subscription = some columns ∧
      db.billing.subscriptions.find? subscription = some row ∧
        Over db.planTraffic row.planId columns.usedTrafficBytes := by
  constructor
  · rintro ⟨row, hrow, hover⟩
    obtain ⟨columns, hcolumns, hjoin⟩ := Option.bind_eq_some_iff.mp hrow
    obtain ⟨billing, hbilling, rfl⟩ := Option.map_eq_some_iff.mp hjoin
    have hid : columns.id = subscription := key_of_find? hcolumns
    exact ⟨columns, billing, hcolumns, hid ▸ hbilling, hover⟩
  · rintro ⟨columns, row, hcolumns, hrow, hover⟩
    have hid : columns.id = subscription := key_of_find? hcolumns
    have hjoined : db.subscription? subscription = db.joinSubscription columns := by
      rw [subscription?, hcolumns, Option.bind_some]
    rw [← hid] at hrow
    have hjoin : db.joinSubscription columns = _ := congrArg (Option.map _) hrow
    exact ⟨_, hjoined.trans hjoin, hover⟩

/-- The counters and plans of the subscriptions are the same. -/
structure SameCounters (db db' : Database) : Prop where
  columns : db'.columns = db.columns
  billing : db'.billing = db.billing
  planTraffic : db'.planTraffic = db.planTraffic

theorem SameCounters.refl (db : Database) : db.SameCounters db := ⟨rfl, rfl, rfl⟩

theorem SameCounters.exhausted (h : db.SameCounters db') : db'.Exhausted = db.Exhausted := by
  funext subscription
  rw [eq_iff_iff, exhausted_iff, exhausted_iff, h.columns, h.billing, h.planTraffic]

theorem SameCounters.apply (h : db.SameCounters db') (hcolumns : Part.of w ≠ .columns)
    (hbilling : Part.of w ≠ .billing) : db.SameCounters (db'.apply w) :=
  ⟨(same_apply hcolumns).trans h.columns, (same_apply hbilling).trans h.billing,
    (planTraffic_apply db').trans h.planTraffic⟩

end Database

namespace Access

variable {a a' : Access} {n : Uuid} {closed : Uuid → Prop} {now : Time} {pending : List Uuid}

/-- The keys of closed subscriptions are revoked or expired, up to some that are pending. -/
def Shut (a : Access) (closed : Uuid → Prop) (now : Time) (pending : List Uuid) : Prop :=
  ∀ id key, a.keys.find? id = some key → ∀ subscription, key.subscriptionId = some subscription →
    closed subscription → key.isRevoked ∨ key.validUntil ≤ now ∨ id ∈ pending

theorem Shut.mono (h : a.Shut closed now pending)
    (hclosed : ∀ subscription, closed' subscription → closed subscription) (hle : now ≤ now') :
    a.Shut closed' now' pending := by
  intro id key hkey subscription hsub hmem
  rcases h id key hkey subscription hsub (hclosed subscription hmem) with hrevoked | hold | hpending
  · exact .inl hrevoked
  · exact .inr (.inl (hold.trans hle))
  · exact .inr (.inr hpending)

/-- No key comes to life. -/
theorem Shut.dimmed (h : a.Shut closed now pending)
    (hkeys : ∀ id key', a'.keys.find? id = some key' → ∃ key, a.keys.find? id = some key ∧
      key'.subscriptionId = key.subscriptionId ∧ (key.isRevoked → key'.isRevoked) ∧
        key'.validUntil ≤ key.validUntil) : a'.Shut closed now pending := by
  intro id key' hkey' subscription hsub hclosed
  obtain ⟨key, hkey, howner, hrevoked, huntil⟩ := hkeys id key' hkey'
  rcases h id key hkey subscription (howner ▸ hsub) hclosed with hold | hold | hold
  · exact .inl (hrevoked hold)
  · exact .inr (.inl (huntil.trans hold))
  · exact .inr (.inr hold)

/-- The tables are sound, and closed subscriptions have no live key. -/
def Sheltered (closed : Uuid → Prop) (now : Time) (a : Access) (n : Uuid) : Prop :=
  a.Sound n ∧ a.Shut closed now []

/-- A step for a subscription that is not closed changes no key of a closed one. -/
theorem invariant_sheltered (hopen : ¬ closed subscription) :
    Invariant False subscription (Sheltered closed now) where
  sound h := h.1
  step := by
    intro a n a' m h hstep
    refine ⟨hstep.sound h.1, ?_⟩
    have hmodify : ∀ (id : Uuid) (f : VpnKey → VpnKey) (hf : ∀ key, Row.key (f key) = Row.key key),
        (∀ key, (f key).subscriptionId = key.subscriptionId) →
        (∀ key, a.keys.find? id = some key → key.subscriptionId = some subscription) →
        Shut { a with keys := a.keys.modify id f hf } closed now [] := by
      intro id f hf hsame howned j key hkey other hother hclosed
      obtain ⟨old, hold, ⟨rfl, rfl⟩ | ⟨-, rfl⟩⟩ := exists_of_find?_modify f hf hkey
      · rw [hsame, howned old hold, Option.some.injEq] at hother
        exact absurd (hother ▸ hclosed) hopen
      · exact h.2 j key hold other hother hclosed
    cases hstep with
    | draw => exact h.2
    | unrevoke id howned => exact hmodify id (setRevoked false) (fun _ => rfl) (fun _ => rfl) howned
    | extend id validUntil howned =>
      exact hmodify id (setValidUntil validUntil) (fun _ => rfl) (fun _ => rfl) howned
    | switchOn => exact h.2
    | addKey _ _ _ _ howned =>
      intro id key hkey other hother hclosed
      rcases find?_insert_eq_some hkey with hold | ⟨-, rfl⟩
      · exact h.2 id key hold other hother hclosed
      · rw [howned, Option.some.injEq] at hother
        exact absurd (hother ▸ hclosed) hopen
    | addDevice => exact h.2
    | bind => exact h.2

end Access

/-! ## Reports of traffic -/

/-- The write revokes or counts, and changes no counter of a subscription. -/
inductive Write.Tightens : Write → Prop
  | revoke (key : Uuid) : Tightens (.setRevoked key true)
  | count (key : Uuid) (used : ℤ) : Tightens (.setKeyTraffic key used)
  | spares {w : Write} (h : w.SparesAccess) (hcolumns : Database.Part.of w ≠ .columns)
      (hbilling : Database.Part.of w ≠ .billing) : Tightens w

/-- The cap, while subscriptions on the list are still to be looked at, and keys are still to be
revoked. -/
structure Tight (now : Time) (left pending : List Uuid) (s : beside.Point) : Prop where
  sound : s.db.access.Sound s.session.billing.nextUuid
  shut : s.db.access.Shut (fun subscription => s.db.Exhausted subscription ∧ subscription ∉ left)
    now pending

section Report

variable {α : Type} {now : Time} {left pending : List Uuid} {db : Database} {w : Write}

theorem tightens_apply (hw : w.Tightens) (hsound : db.access.Sound n)
    (hshut : db.access.Shut (fun sub => db.Exhausted sub ∧ sub ∉ left) now pending) :
    (db.apply w).access.Sound n ∧ (db.apply w).access.Shut
      (fun sub => (db.apply w).Exhausted sub ∧ sub ∉ left) now pending := by
  have hmodify : ∀ (id : Uuid) (f : VpnKey → VpnKey) (hf : ∀ key, Row.key (f key) = Row.key key),
      (∀ key, (f key).isActive = key.isActive ∧ (f key).subscriptionId = key.subscriptionId) →
      (∀ key, (key.isRevoked → (f key).isRevoked) ∧ (f key).validUntil ≤ key.validUntil) →
      Access.Sound { db.access with keys := db.keys.modify id f hf } n ∧
        Access.Shut { db.access with keys := db.keys.modify id f hf }
          (fun sub => db.Exhausted sub ∧ sub ∉ left) now pending := by
    intro id f hf hkeep hdim
    refine ⟨hsound.alike (db.access.alike_modifyKey id hkeep), hshut.dimmed fun j key' hkey' => ?_⟩
    obtain ⟨old, hold, ⟨-, rfl⟩ | ⟨-, rfl⟩⟩ := exists_of_find?_modify f hf hkey'
    · exact ⟨old, hold, (hkeep old).2, hdim old⟩
    · exact ⟨key', hold, rfl, fun h => h, le_refl _⟩
  have hsame : Database.Part.of w ≠ .columns → Database.Part.of w ≠ .billing →
      (db.apply w).Exhausted = db.Exhausted := fun hcolumns hbilling =>
    ((Database.SameCounters.refl db).apply hcolumns hbilling).exhausted
  cases hw with
  | revoke id =>
    rw [hsame nofun nofun]
    exact hmodify id (setRevoked true) (fun _ => rfl) (fun _ => ⟨rfl, rfl⟩)
      fun _ => ⟨fun _ => rfl, le_refl _⟩
  | count id used =>
    rw [hsame nofun nofun]
    exact hmodify id (setTraffic used) (fun _ => rfl) (fun _ => ⟨rfl, rfl⟩)
      fun _ => ⟨fun h => h, le_refl _⟩
  | spares h hcolumns hbilling =>
    rw [h.access, hsame hcolumns hbilling]
    exact ⟨hsound, hshut⟩

theorem triple_tightening (hp : Writes Tightens p) :
    Triple (Tight now left pending) p fun _ => Tight now left pending := by
  have hkept := Triple.ofWrites (I := fun db n => db.access.Sound n ∧
      db.access.Shut (fun sub => db.Exhausted sub ∧ sub ∉ left) now pending) hp
    (fun _ _ _ hle h => ⟨h.1.later hle, h.2⟩) fun _ hw _ _ h => tightens_apply hw h.1 h.2
  exact hkept.conseq (fun s hs => ⟨hs.sound, hs.shut⟩) fun _ s hs => ⟨hs.1, hs.2⟩

theorem Write.IsRevocation.tightens (h : w.IsRevocation) : w.Tightens := by
  cases w with
  | setRevoked key revoked => exact (h : revoked = true) ▸ .revoke key
  | setDesiredState => exact .spares ⟨nofun, nofun, nofun⟩ nofun nofun
  | enqueueMany => exact .spares ⟨nofun, nofun, nofun⟩ nofun nofun
  | _ => exact h.elim

/-- A key whose turn it is, is revoked. -/
theorem triple_revokeForTraffic :
    Triple (Tight now left (key.id :: pending)) (revokeForTraffic key now)
      fun _ => Tight now left pending := by
  refine Triple.execute (Tight now left pending) ?_ (triple_tightening ?_)
  · rintro s ⟨hsound, hshut⟩
    obtain ⟨hsound', hshut'⟩ := tightens_apply (.revoke key.id) hsound hshut
    refine ⟨hsound', fun id row hrow subscription hsub hclosed => ?_⟩
    rcases hshut' id row hrow subscription hsub hclosed with hrevoked | hold | hpending
    · exact .inl hrevoked
    · exact .inr (.inl hold)
    · rcases mem_cons.mp hpending with rfl | hrest
      · obtain ⟨old, -, ⟨-, rfl⟩ | ⟨hne, -⟩⟩ :=
          exists_of_find?_modify (setRevoked true) (fun _ => rfl) hrow
        · exact .inl rfl
        · exact absurd rfl hne
      · exact .inr (.inr hrest)
  · have hrest : Writes IsRevocation (do
        execute (.setDesiredState key.id .inactive "traffic_limit_exceeded" now)
        enqueueForKeyState key.id .inactive) :=
      .bind (.execute rfl) fun _ => .enqueueForKeyState (fun _ => trivial) key.id .inactive
    exact hrest.mono fun _ => IsRevocation.tightens

theorem triple_revokeKeys {keys : List VpnKey} (hkeys : ∀ key ∈ keys, ¬ key.isRevoked) :
    Triple (Tight now left (keys.map VpnKey.id)) (revokeKeys now keys)
      fun _ => Tight now left [] := by
  induction keys with
  | nil => exact .pure fun s hs => hs
  | cons key _ ih =>
    unfold revokeKeys
    rw [if_neg (hkeys key (by simp))]
    refine .bind triple_revokeForTraffic fun _ => ?_
    refine .bind (ih fun other hother => hkeys other (by simp [hother])) fun _ => ?_
    exact .pure fun s hs => hs

/-- A subscription whose turn it is loses its keys. -/
theorem triple_revokeSubscriptionKeys :
    Triple (Tight now (subscription :: left) []) (revokeSubscriptionKeys subscription now)
      fun _ => Tight now left [] := by
  refine Triple.select fun keys => ?_
  rintro s ⟨⟨hsound, hshut⟩, rfl⟩
  refine triple_revokeKeys ?_ s ⟨hsound, fun id key hkey owner howner hclosed => ?_⟩
  · intro key hkey
    exact (of_decide_eq_true (mem_filter.mp hkey).2).2.2.1
  · by_cases hown : owner = subscription
    · subst hown
      by_cases hrevoked : key.isRevoked
      · exact .inl hrevoked
      by_cases hold : key.validUntil ≤ now
      · exact .inr (.inl hold)
      · refine .inr (.inr (mem_map.mpr ⟨key, mem_filter.mpr ⟨mem_of_find? hkey, ?_⟩,
          key_of_find? hkey⟩))
        exact decide_eq_true ⟨howner, hsound.keyActive id key hkey, hrevoked, not_le.mp hold⟩
    · have hleft : owner ∉ subscription :: left := by simp [hown, hclosed.2]
      rcases hshut id key hkey owner howner ⟨hclosed.1, hleft⟩ with hrevoked | hold | hpending
      · exact .inl hrevoked
      · exact .inr (.inl hold)
      · cases hpending

theorem run_flush (s : beside.Point) :
    run (flush ws) s = (.ok (), { s with db := ws.foldl Database.apply s.db }) := by
  induction ws generalizing s with
  | nil => rfl
  | cons w _ ih => exact ih { s with db := s.db.apply w }

/-- What the counters of the subscriptions are after they were written back. -/
theorem exists_of_subscriptionUpdates
    (h : ((subscriptionUpdates counted).foldl Database.apply db).columns.find? subscription =
      some row) :
    (∃ sub ∈ counted, sub.id = subscription ∧ row.usedTrafficBytes = sub.usedTrafficBytes) ∨
      db.columns.find? subscription = some row := by
  induction counted generalizing db with
  | nil => exact .inr h
  | cons sub _ ih =>
    rcases ih h with ⟨other, hother, hid, hused⟩ | hrest
    · exact .inl ⟨other, by simp [hother], hid, hused⟩
    · obtain ⟨old, hold, ⟨rfl, rfl⟩ | ⟨-, rfl⟩⟩ := exists_of_find?_modify
        (SubscriptionColumns.setTraffic sub.usedTrafficBytes sub.lifetimeUsedTrafficBytes)
        (fun _ => rfl) hrest
      · exact .inl ⟨sub, by simp, rfl, rfl⟩
      · exact .inr hold

/-- The subscriptions that phase 2 finds over their limit. -/
def exceededOf (loaded : List (Subscription × ℤ)) (counted : List Subscription) : List Uuid :=
  (counted.filter fun sub => loaded.any fun row =>
    row.1.id = sub.id ∧ 0 < row.2 ∧ row.2 ≤ sub.usedTrafficBytes).map fun sub => sub.id

/-- A subscription that is used up after the counters were written back was so before, or has
exceeded its limit. -/
theorem exhausted_of_subscriptionUpdates
    (hloaded : loaded = (db.subscriptionsByIds ids).map fun sub => (sub, db.trafficLimit sub))
    (hcounted : counted = countedSubscriptions deltas (loaded.map Prod.fst))
    (h : ((subscriptionUpdates counted).foldl Database.apply db).Exhausted subscription) :
    db.Exhausted subscription ∨ subscription ∈ exceededOf loaded counted := by
  have hbilling : ((subscriptionUpdates counted).foldl Database.apply db).billing = db.billing :=
    same_foldl .billing fun w hw => by simp [part_subscriptionUpdates hw]
  have hplans : ((subscriptionUpdates counted).foldl Database.apply db).planTraffic =
      db.planTraffic := planTraffic_foldl db _
  obtain ⟨columns, row, hcolumns, hrow, hover⟩ := exhausted_iff.mp h
  rw [hbilling] at hrow
  rw [hplans] at hover
  rcases exists_of_subscriptionUpdates hcolumns with ⟨sub, hsub, rfl, hused⟩ | hold
  · refine .inr (mem_map.mpr ⟨sub, mem_filter.mpr ⟨hsub, ?_⟩, rfl⟩)
    subst hcounted hloaded
    obtain ⟨found, hfound, rfl⟩ := mem_map.mp hsub
    obtain ⟨⟨loaded, limit⟩, hmem, rfl⟩ := mem_map.mp (mem_filter.mp hfound).1
    obtain ⟨own, hown, heq⟩ := mem_map.mp hmem
    obtain ⟨rfl, rfl⟩ := Prod.mk.inj heq
    have hplan : own.toSubscription = row := Option.some.inj
      ((Database.find?_of_subscription? (mem_subscriptionsByIds.mp hown).2).symm.trans hrow)
    rw [any_eq_true]
    refine ⟨_, hmem, decide_eq_true ⟨rfl, ?_⟩⟩
    rw [hused, ← hplan] at hover
    exact hover
  · exact .inl (exhausted_iff.mpr ⟨columns, row, hold, hrow, hover⟩)

/-- Phase 2: the counters are written, and the subscriptions over their limit lose their keys. -/
theorem triple_ingestSubscriptions :
    Triple (Tight now [] []) (ingestSubscriptions deltas now) fun _ => Tight now [] [] := by
  unfold ingestSubscriptions
  split
  · exact .pure fun s hs => hs
  refine Triple.select fun loaded => ?_
  generalize hcounted : countedSubscriptions deltas (loaded.map Prod.fst) = counted
  have hflush : Triple (fun s : beside.Point => Tight now [] [] s ∧
      (s.db.subscriptionsByIds (deltas.map Prod.fst)).map
        (fun sub => (sub, s.db.trafficLimit sub)) = loaded)
      (flush (subscriptionUpdates counted)) fun _ => Tight now (exceededOf loaded counted) [] := by
    rintro s ⟨⟨hsound, hshut⟩, hloaded⟩ value done hrun
    rw [run_flush] at hrun
    cases hrun
    have haccess : ((subscriptionUpdates counted).foldl Database.apply s.db).access = s.db.access :=
      foldlRecOn (motive := fun later : Database => later.access = _) _ _ rfl
        fun later hsame w hw => (SparesAccess.access (w := w)
          (by simp [SparesAccess, part_subscriptionUpdates hw]) later).trans hsame
    refine ⟨haccess ▸ hsound, ?_⟩
    dsimp only
    rw [haccess]
    refine hshut.mono (fun subscription hclosed => ⟨?_, not_mem_nil⟩) (le_refl _)
    exact (exhausted_of_subscriptionUpdates hloaded.symm hcounted.symm hclosed.1).resolve_right
      hclosed.2
  refine .bind hflush fun _ => ?_
  have hrevoke : Triple (Tight now (exceededOf loaded counted) [])
      (revokeExceeded now (exceededOf loaded counted)) fun _ => Tight now [] [] := by
    induction exceededOf loaded counted with
    | nil => exact .pure fun s hs => hs
    | cons subscription _ ih =>
      refine .bind triple_revokeSubscriptionKeys fun _ => ?_
      exact .bind ih fun _ => .pure fun s hs => hs
  dsimp only
  split
  · refine .bind (triple_tightening ?_) fun _ => hrevoke
    exact writes_invalidateBySubscriptionIds
  · exact hrevoke

/-- A report of traffic that runs alone. -/
theorem triple_ingestUsersTraffic (now : Time) :
    Triple (fun s : beside.Point => Tight now [] [] s ∧ s.session.billing.now = now)
      (ingestUsersTraffic items) fun _ => Tight now [] [] := by
  unfold ingestUsersTraffic
  split
  · exact .pure fun s hs => hs.1
  refine .bind (B := fun time s => Tight now [] [] s ∧ time = now) (.perform fun s hs => hs) ?_
  rintro time s ⟨hs, rfl⟩
  refine Triple.read (fun keys => ?_) s hs
  split
  · exact .pure fun s hs => hs
  have hflush : ∀ ws : List Write, (∀ w ∈ ws, w.Tightens) → Writes Tightens (flush ws) := by
    intro ws hws
    induction ws with
    | nil => exact .pure ()
    | cons w _ ih =>
      exact .bind (.execute (hws w (by simp))) fun _ =>
        ih fun other hother => hws other (by simp [hother])
  refine .bind (triple_tightening (hflush _ fun w hw => ?_)) fun _ => ?_
  · obtain ⟨key, -, rfl⟩ := mem_map.mp hw
    exact .count _ _
  refine .bind triple_ingestSubscriptions fun owned => ?_
  refine .bind (triple_tightening (writes_ingestUnowned.mono
    fun _ => IsRevocation.tightens)) fun unowned => triple_tightening ?_
  dsimp only
  split
  · exact .bind (.execute (.spares ⟨nofun, nofun, nofun⟩ nofun nofun)) fun _ => .pure _
  · exact .pure _

end Report

/-! ## Methods that give access -/

/-- No subscription whose plan is used up has a live key. -/
def CappedAt (now : Time) (s : beside.Point) : Prop :=
  At (Access.Sheltered s.db.Exhausted now) s

variable {cfg : Provisioning}

section Granting

variable {α : Type} {now : Time} {base : Database} {id : Uuid} {w : Write}

/-- The cap holds, and the counters are those of the first state. -/
def Kept (base : Database) (now : Time) (s : beside.Point) : Prop :=
  At (Access.Sheltered base.Exhausted now) s ∧ base.SameCounters s.db

theorem Kept.capped (h : Kept base now s) : CappedAt now s := by
  unfold CappedAt
  rw [h.2.exhausted]
  exact h.1

theorem CappedAt.kept (h : CappedAt now s) : Kept s.db now s := ⟨h, .refl s.db⟩

/-- A method that writes no counter. -/
theorem triple_kept (hp : Writes Grants p)
    (htriple : Triple (At (Access.Sheltered base.Exhausted now)) p
      fun _ => At (Access.Sheltered base.Exhausted now)) :
    Triple (Kept base now) p fun _ => Kept base now := by
  refine htriple.withFrame hp fun op hop s hs => ?_
  cases op with
  | redis => exact hs
  | _ =>
    obtain ⟨hbilling, hcolumns⟩ := Grants.foldl hop s.db
    exact ⟨hcolumns.trans hs.columns, hbilling.trans hs.billing,
      (planTraffic_foldl s.db _).trans hs.planTraffic⟩

theorem triple_restoreKeys_kept (hopen : ¬ base.Exhausted subscription.id) :
    Triple (Kept base now) (restoreKeys cfg subscription) fun _ => Kept base now := by
  have hinv : Access.Invariant False subscription.id (Access.Sheltered base.Exhausted now) :=
    invariant_sheltered hopen
  refine triple_kept .grants_restoreKeys ?_
  exact (triple_restoreKeys hinv).pre fun s hs => ⟨hs, False.elim⟩

theorem exhausted_of_update {db : Database} (hplan : patch.planId = none)
    (h : (db.apply (.billing (.updateSubscription id patch))).Exhausted subscription) :
    db.Exhausted subscription := by
  obtain ⟨columns, row, hcolumns, hrow, hover⟩ := exhausted_iff.mp h
  obtain ⟨old, hold, ⟨-, rfl⟩ | ⟨-, rfl⟩⟩ := exists_of_find?_modify patch.set (fun _ => rfl) hrow
  · refine exhausted_iff.mpr ⟨columns, old, hcolumns, hold, ?_⟩
    have hover' : Over db.planTraffic (patch.planId.or old.planId) columns.usedTrafficBytes := hover
    rwa [hplan] at hover'
  · exact exhausted_iff.mpr ⟨columns, row, hcolumns, hold, hover⟩

/-- Opening a subscription that is not used up. -/
theorem triple_activate_capped :
    Triple (fun s => CappedAt now s ∧ ¬ s.db.Exhausted id) (activate cfg id)
      fun _ => CappedAt now := by
  refine Triple.select fun found => ?_
  cases found with
  | none => exact .raise
  | some subscription =>
    rintro s ⟨⟨⟨hsound, hshut⟩, hopen⟩, hfound⟩
    obtain rfl : subscription.id = id := id_of_subscription? hfound
    let opened : beside.Point := { s with
      db := s.db.apply (.billing (.updateSubscription subscription.id { isActive := some true })) }
    have hkept : Kept opened.db now opened :=
      ⟨⟨hsound, hshut.mono (fun _ => exhausted_of_update rfl) (le_refl _)⟩, .refl _⟩
    have hopen' : ¬ opened.db.Exhausted subscription.id := fun h => hopen (exhausted_of_update rfl h)
    intro value done hrun
    exact (triple_restoreKeys_kept hopen' opened hkept value done hrun).capped

/-- Restoring a device of a subscription that is not used up. -/
theorem triple_restoreDevice_capped :
    Triple (fun s => CappedAt now s ∧ ¬ s.db.Exhausted id) (restoreDevice cfg id device)
      fun _ => CappedAt now := by
  rintro s ⟨hs, hopen⟩ value done hrun
  have hinv : Access.Invariant False id (Access.Sheltered s.db.Exhausted now) :=
    invariant_sheltered hopen
  exact (triple_kept .grants_restoreDevice (triple_restoreDevice hinv) s
    hs.kept value done hrun).capped

/-- The write is about placements and the commands for them. -/
def Write.Places (w : Write) : Prop := Database.Part.of w ∈ [.placements, .outbox]

theorem Write.Places.grants (h : w.Places) : w.Grants := by
  simp only [Places, mem_cons, not_mem_nil, or_false] at h
  rcases h with h | h <;> simp [Grants, h]

theorem Write.Places.sparesAccess (h : w.Places) : w.SparesAccess := by
  simp only [Places, mem_cons, not_mem_nil, or_false] at h
  rcases h with h | h <;> simp [SparesAccess, h]

/-- Fetching the configuration of a subscription that is not used up. -/
theorem triple_buildPayload_capped {world : Deployment}
    (hrender : ∀ subscription bundle, Writes Places (world.render subscription bundle)) :
    Triple (fun s => CappedAt now s ∧ ∀ sub ∈ s.db.subscriptionsByAnyTokenHash
        (world.settings.library.sha256 fetch.rawToken), ¬ s.db.Exhausted sub.id)
      (buildPayload world.settings (buildBundle world.provisioning world.render fetch.hwid) fetch)
      fun _ => CappedAt now := by
  rintro s ⟨hs, hopen⟩ value done hrun
  have hbuild : Triple (Kept s.db now) (buildPayload world.settings
      (buildBundle world.provisioning world.render fetch.hwid) fetch) fun _ => Kept s.db now := by
    have hquiet : AboutTables (Kept s.db now) := by
      rintro t t' ⟨hat, hsame⟩ hdb hsession
      unfold Kept At at *
      rw [hdb, hsession]
      exact ⟨hat, hsame⟩
    refine triple_buildPayload hquiet hquiet (fun _ ht => ht) fun sub => ?_
    · rintro t ⟨ht, hrows, -⟩
      have hmem : sub ∈ t.db.subscriptionsByAnyTokenHash
          (world.settings.library.sha256 fetch.rawToken) := by simp [hrows]
      have hopen' : ¬ s.db.Exhausted sub.id := by
        refine hopen sub ?_
        have hjoin : t.db.joinSubscription = s.db.joinSubscription := by
          funext row
          simp only [Database.joinSubscription, ht.2.billing]
        rwa [Database.subscriptionsByAnyTokenHash, ht.2.columns, hjoin] at hmem
      have hinv : Access.Invariant False sub.id (Access.Sheltered s.db.Exhausted now) :=
        invariant_sheltered hopen'
      refine triple_kept ?_ (triple_buildBundle
        (fun sub bundle => (hrender sub bundle).mono fun _ => Places.sparesAccess)
        hinv) t ht
      exact .bind .datetimeNow fun now => .bind .grants_resolveDeviceBundleForRequest
        fun bundle => (hrender sub bundle).mono fun _ => Places.grants
  exact (hbuild s hs.kept value done hrun).capped

/-! ## Purchases -/

variable {user : Uuid} {plan : Plan} {order : PaymentOrder}

/-- The subscription that the purchase extends has not used up the plan that is bought. -/
def Database.Affords (db : Database) (user : Uuid) (plan : Plan) (order : PaymentOrder) : Prop :=
  ∀ existing planChanged, db.billing.purchaseTarget user plan order = some (existing, planChanged) →
    ∀ columns ∈ db.columns.find? existing.id,
      ¬ Over db.planTraffic (some plan.id) columns.usedTrafficBytes

/-- A purchase for a subscription that has not used up the plan that is bought. -/
theorem Purchased.capped (h : Purchased cfg user plan order now s done)
    (hs : CappedAt now s) (hnew : ∀ row ∈ s.db.columns.rows, row.id < s.session.billing.nextUuid)
    (hafford : s.db.Affords user plan order) : CappedAt now done := by
  obtain ⟨hsound, hshut⟩ := hs
  cases h with
  | unpaid _ haside =>
    have haccess : done.db.access = s.db.access := by rw [haside.tables]; rfl
    unfold CappedAt At
    rw [haccess]
    exact ⟨hsound.later haside.nextUuid, hshut.mono (fun _ hexhausted => by
        obtain ⟨columns, row, hcolumns, hrow, hover⟩ := exhausted_iff.mp hexhausted
        rw [haside.subscriptions] at hrow
        rw [haside.tables] at hcolumns hover
        exact exhausted_iff.mpr ⟨columns, row, hcolumns, hrow, hover⟩) (le_refl _)⟩
  | created _ htables row hid hnext hsubs =>
    have haccess : done.db.access = s.db.access := by rw [htables]; rfl
    unfold CappedAt At
    rw [haccess]
    refine ⟨hsound.later hnext, hshut.mono (fun subscription hexhausted => ?_) (le_refl _)⟩
    -- the new subscription has no counter yet
    obtain ⟨columns, found, hcolumns, hfound, hover⟩ := exhausted_iff.mp hexhausted
    rw [htables] at hcolumns hover
    rw [hsubs] at hfound
    rcases Table.find?_insert_eq_some hfound with hold | ⟨hrow, -⟩
    · exact exhausted_iff.mpr ⟨columns, found, hcolumns, hold, hover⟩
    · have hlt := hnew columns (mem_of_find? hcolumns)
      have hcolumnsId : columns.id = row.id := (key_of_find? hcolumns).trans hrow
      exact absurd hlt (not_lt.mpr (hcolumnsId ▸ hid))
  | @extended existing planChanged htarget mid htables hnext hself hother row hrow restored hrun =>
    have haccess : mid.db.access = s.db.access := by rw [htables]; rfl
    have hopen : ¬ mid.db.Exhausted existing.id := by
      intro hexhausted
      obtain ⟨columns, found, hcolumns, hfound, hover⟩ := exhausted_iff.mp hexhausted
      rw [htables] at hcolumns hover
      rw [hself, Option.some.injEq] at hfound
      rw [← hfound, planId_extendedRow htarget] at hover
      exact hafford existing planChanged htarget columns hcolumns hover
    have hclosed : ∀ subscription, mid.db.Exhausted subscription → s.db.Exhausted subscription := by
      intro subscription hexhausted
      by_cases hid : subscription = existing.id
      · exact absurd (hid ▸ hexhausted) hopen
      · obtain ⟨columns, found, hcolumns, hfound, hover⟩ := exhausted_iff.mp hexhausted
        rw [htables] at hcolumns hover
        rw [hother subscription hid] at hfound
        exact exhausted_iff.mpr ⟨columns, found, hcolumns, hfound, hover⟩
    obtain hrowid : row.id = existing.id := id_of_subscription? hrow
    have hkept : Kept mid.db now mid := by
      refine ⟨?_, .refl _⟩
      unfold At
      rw [haccess]
      exact ⟨hsound.later hnext, hshut.mono hclosed (le_refl _)⟩
    exact (triple_restoreKeys_kept (hrowid ▸ hopen) mid hkept restored done hrun).capped

end Granting

/-! ## Runs -/

/-- The calls that count traffic or give access. -/
inductive TrafficCall
  | ingestUsersTraffic (items : List UserTrafficIn)
  /-- A renewal or the purchase of a plan. -/
  | autoPurchase (user : Uuid) (plan : Plan) (order : PaymentOrder) (strictBalance : Bool)
  | buildPayload (fetch : PayloadRequest)
  | restoreDevice (subscription device : Uuid)
  | activate (subscription : Uuid)

namespace TrafficCall

variable (world : Deployment)

/-- The transaction of a call. -/
def program : TrafficCall → Service Unit
  | ingestUsersTraffic items => do let _ ← Vpn.ingestUsersTraffic items
  | autoPurchase user plan order strictBalance => do
      let now ← datetimeNow
      withKeys world.provisioning (Billing.autoPurchase user plan order now strictBalance)
  | buildPayload fetch => do
      let _ ← Vpn.buildPayload world.settings
        (buildBundle world.provisioning world.render fetch.hwid) fetch
  | restoreDevice subscription device => do
      let _ ← Vpn.restoreDevice world.provisioning subscription device
  | activate subscription => do let _ ← Vpn.activate world.provisioning subscription

/-- The tables and Redis after a call that runs alone. -/
def run (call : TrafficCall) (session : Session) (db : Database)
    (cache : Cache) : Database × Cache :=
  (Shared.request (M := beside) (call.program world) ⟨session, db, cache⟩).2

/-- The subscription that the call gives access to is not used up, for a purchase not under the
plan that is bought. -/
def Within (db : Database) : TrafficCall → Prop
  | ingestUsersTraffic _ => True
  | autoPurchase user plan order _ => db.Affords user plan order
  | buildPayload fetch =>
    ∀ sub ∈ db.subscriptionsByAnyTokenHash (world.settings.library.sha256 fetch.rawToken),
      ¬ db.Exhausted sub.id
  | restoreDevice subscription _ => ¬ db.Exhausted subscription
  | activate subscription => ¬ db.Exhausted subscription

end TrafficCall

/-- Something else has happened to the tables: no key has come to life, and no subscription was
used up by it. -/
structure Database.Elsewhere (db db' : Database) : Prop where
  alike : db.access.Alike db'.access
  keys : ∀ id key', db'.keys.find? id = some key' → ∃ key, db.keys.find? id = some key ∧
    (key.isRevoked → key'.isRevoked) ∧ key'.validUntil ≤ key.validUntil
  exhausted : ∀ subscription, db'.Exhausted subscription → db.Exhausted subscription

/-- What the calls make of the empty database, and when. -/
inductive Metered (world : Deployment) (ok : Database → TrafficCall → Prop) :
    Database → Cache → Time → Prop
  | empty (cache : Cache) (now : Time) : Metered world ok .empty cache now
  | call {db : Database} {cache : Cache} {now : Time} (h : Metered world ok db cache now)
      (session : Session) (hnow : now ≤ session.billing.now) (hfresh : db.FreshFor session)
      (hnew : ∀ row ∈ db.columns.rows, row.id < session.billing.nextUuid) (call : TrafficCall)
      (hok : ok db call) :
      Metered world ok (call.run world session db cache).1 (call.run world session db cache).2
        session.billing.now
  | elsewhere {db db' : Database} {cache cache' : Cache} {now now' : Time}
      (h : Metered world ok db cache now) (hdb : db.Elsewhere db') (hnow : now ≤ now') :
      Metered world ok db' cache' now'

section

variable {world : Deployment}
    (hrender : ∀ subscription bundle, Writes Write.Places (world.render subscription bundle))

include hrender

/-- A call that runs alone keeps the cap. -/
theorem triple_trafficCall
    {call : TrafficCall} :
    Triple (fun s => CappedAt now s ∧ s.session.billing.now = now ∧
        (∀ row ∈ s.db.columns.rows, row.id < s.session.billing.nextUuid) ∧ call.Within world s.db)
      (call.program world) fun _ => CappedAt now := by
  cases call with
  | ingestUsersTraffic items =>
    refine .ignore ((triple_ingestUsersTraffic now).conseq ?_ ?_)
    · rintro s ⟨⟨hsound, hshut⟩, hnow, -⟩
      exact ⟨⟨hsound, hshut.mono (fun _ h => h.1) (le_refl _)⟩, hnow⟩
    · rintro _ s ⟨hsound, hshut⟩
      exact ⟨hsound, hshut.mono (fun _ h => ⟨h, not_mem_nil⟩) (le_refl _)⟩
  | autoPurchase _ _ _ strictBalance =>
    rintro s ⟨hs, rfl, hnew, hafford⟩ value done hrun
    exact (triple_autoPurchase s rfl value done hrun).capped hs hnew hafford
  | buildPayload fetch =>
    exact .ignore ((triple_buildPayload_capped hrender).pre fun s hs => ⟨hs.1, hs.2.2.2⟩)
  | restoreDevice subscription device =>
    exact .ignore (triple_restoreDevice_capped.pre fun s hs => ⟨hs.1, hs.2.2.2⟩)
  | activate subscription => exact .ignore (triple_activate_capped.pre fun s hs => ⟨hs.1, hs.2.2.2⟩)

theorem sheltered_of_metered (h : Metered world (TrafficCall.Within world) db cache now) :
    ∃ n, Access.Sheltered db.Exhausted now db.access n := by
  induction h with
  | empty => exact ⟨0, ⟨nofun, nofun, nofun, nofun, nofun, nofun, nofun⟩, nofun⟩
  | @call db cache now h session hnow hfresh hnew call hok ih =>
    obtain ⟨n, hsound, hshut⟩ := ih
    have hstart : CappedAt session.billing.now (⟨session, db, cache⟩ : beside.Point) :=
      ⟨hsound.refresh hfresh.1 hfresh.2, hshut.mono (fun _ h => h) hnow⟩
    rcases (triple_trafficCall hrender).request
        ⟨hstart, rfl, hnew, hok⟩ with ⟨value, done, hrun, hdone⟩ | ⟨error, store, hrun⟩
    · exact ⟨_, by rw [TrafficCall.run, hrun]; exact hdone⟩
    · exact ⟨_, by rw [TrafficCall.run, hrun]; exact hstart⟩
  | @elsewhere db db' cache cache' now now' h hdb hnow ih =>
    obtain ⟨n, hsound, hshut⟩ := ih
    refine ⟨n, hsound.alike hdb.alike, (hshut.dimmed fun id key' hkey' => ?_).mono hdb.exhausted
      hnow⟩
    obtain ⟨key, hkey, hdim⟩ := hdb.keys id key' hkey'
    obtain ⟨old, hold, -, howner⟩ := hdb.alike.key hkey'
    obtain rfl : old = key := Option.mem_unique hold hkey
    exact ⟨old, hkey, howner.symm, hdim⟩

end

/-- In every run in which access is only given to subscriptions that are not used up, a
subscription that has used up its plan has no key that is neither revoked nor expired. -/
theorem traffic_cap_of_within {world : Deployment}
    (hrender : ∀ subscription bundle, Writes Write.Places (world.render subscription bundle))
    {db : Database} {cache : Cache} {now : Time}
    (h : Metered world (TrafficCall.Within world) db cache now) {subscription : Uuid}
    {row : Subscription} (hrow : db.subscription? subscription = some row)
    (hlimit : 0 < db.trafficLimit row) (hused : db.trafficLimit row ≤ row.usedTrafficBytes) :
    ∀ key ∈ db.keys.rows, key.subscriptionId = some subscription →
      ¬ (¬ key.isRevoked ∧ now < key.validUntil) := by
  rintro key hkey howner ⟨hrevoked, hvalid⟩
  obtain ⟨n, -, hshut⟩ := sheltered_of_metered hrender h
  rcases hshut key.id key (Table.find?_of_mem hkey) subscription howner ⟨row, hrow, hlimit, hused⟩
    with hdead | hdead | hdead
  · exact hrevoked hdead
  · exact absurd hvalid (not_lt.mpr hdead)
  · cases hdead

/-! ## A used-up subscription that is opened again -/

namespace Scenario

/-- The running subscription without a device, on a plan with ten bytes. -/
def metered : Database :=
  { unregistered with planTraffic := Table.empty.insert { id := 7, trafficLimitBytes := 10 } }

/-- A device fetches its configuration. -/
def provisioned : Database × Cache :=
  TrafficCall.run world (.buildPayload { rawToken := "hash", hwid := some "device" }) (session 100)
    metered (point metered).store

/-- The device uses up the plan. -/
def drained : Database × Cache :=
  TrafficCall.run world (.ingestUsersTraffic [{ identifier := "101", deltaBytes := 10 }])
    (session 200) provisioned.1 provisioned.2

/-- The subscription is opened again. -/
def refilled : Database × Cache :=
  TrafficCall.run world (.activate 3) (session 300) drained.1 drained.2

theorem elsewhere_metered : Database.empty.Elsewhere metered where
  alike := Access.Alike.refl _
  keys := nofun
  exhausted subscription h := by
    obtain ⟨columns, row, hcolumns, -, hlimit, hused⟩ := exhausted_iff.mp h
    have hunused : ∀ columns ∈ metered.columns.rows, columns.usedTrafficBytes = 0 := by
      decide +kernel
    rw [hunused columns (mem_of_find? hcolumns)] at hused
    exact absurd (hlimit.trans_le hused) (lt_irrefl 0)

theorem metered_drained
    (hfetch : ok metered (.buildPayload { rawToken := "hash", hwid := some "device" }))
    (hreport : ∀ db items, ok db (.ingestUsersTraffic items)) :
    Metered world ok drained.1 drained.2 (session 200).billing.now := by
  have hstart : Metered world ok metered (point metered).store 0 :=
    .elsewhere (.empty (point metered).store 0) elsewhere_metered (le_refl 0)
  have hprovisioned : Metered world ok provisioned.1 provisioned.2 (session 100).billing.now :=
    .call hstart (session 100) (by decide) ⟨nofun, nofun⟩ (by decide +kernel) _ hfetch
  have hfresh : provisioned.1.FreshFor (session 200) := by
    unfold Database.FreshFor
    decide +kernel
  exact .call hprovisioned (session 200) (by decide) hfresh (by decide +kernel) _ (hreport _ _)

end Scenario

open Scenario in
/-- A device registers and uses up the plan, then `activate` is called: its keys are live again,
though nothing was reset. -/
theorem traffic_cap_undone :
    Metered world (fun _ _ => True) refilled.1 refilled.2 (session 300).billing.now ∧
      ∃ row ∈ refilled.1.subscription? 3, 0 < refilled.1.trafficLimit row ∧
        refilled.1.trafficLimit row ≤ row.usedTrafficBytes ∧
          ∃ key ∈ refilled.1.keys.rows, key.subscriptionId = some 3 ∧ ¬ key.isRevoked ∧
            (session 300).billing.now < key.validUntil := by
  have hfresh : drained.1.FreshFor (session 300) := by
    unfold Database.FreshFor
    decide +kernel
  have hdrained : Metered world (fun _ _ => True) drained.1 drained.2 (session 200).billing.now :=
    metered_drained trivial fun _ _ => trivial
  exact ⟨.call hdrained (session 300) (by decide) hfresh (by decide +kernel) _ trivial,
    by decide +kernel⟩

open Scenario in
/-- Before that call its keys are revoked. -/
theorem traffic_cap_of_within_drained :
    (∃ row ∈ drained.1.subscription? 3, 0 < drained.1.trafficLimit row ∧
      drained.1.trafficLimit row ≤ row.usedTrafficBytes) ∧
    (∃ key ∈ drained.1.keys.rows, key.subscriptionId = some 3) ∧
    ∀ key ∈ drained.1.keys.rows, key.subscriptionId = some 3 →
      ¬ (¬ key.isRevoked ∧ (session 200).billing.now < key.validUntil) := by
  have hused : ∃ row ∈ drained.1.subscription? 3, 0 < drained.1.trafficLimit row ∧
      drained.1.trafficLimit row ≤ row.usedTrafficBytes := by decide +kernel
  have hfetch : TrafficCall.Within world metered
      (.buildPayload { rawToken := "hash", hwid := some "device" }) := by
    unfold TrafficCall.Within Database.Exhausted
    decide +kernel
  refine ⟨hused, by decide +kernel, ?_⟩
  obtain ⟨row, hrow, hlimit, hover⟩ := hused
  exact traffic_cap_of_within (fun _ _ => .pure _) (metered_drained hfetch fun _ _ => trivial) hrow
    hlimit hover

end VpnControl.Vpn

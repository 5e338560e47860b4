/-
# No traffic is lost, if the handlers are kept apart

A handler reads the counters, adds in Python and writes the sums back. What another handler has
committed between the read and the write is overwritten. No lock prevents it: the rows are read
without one. The totals are right in the runs in which two messages about the same key or the same
subscription are never handled at the same time.
-/

import Mathlib.Algebra.BigOperators.Group.Finset.Basic
import Mathlib.Data.List.Find
import VpnControl.Txn.Apart
import VpnControl.Vpn.TrafficOnce

namespace VpnControl.Vpn

open Txn Write Function
open Billing (Uuid Time)
open System

/-! ## What the loop adds up -/

/-- What the items report for the keys of a kind, among these keys. -/
def share (keys : List VpnKey) (p : VpnKey → Bool) (items : List UserTrafficIn) : ℤ :=
  (items.map fun item =>
    if (keyOf keys item.identifier).any p then (item.deltaBytes : ℤ) else 0).sum

variable {subscription : Uuid}

section Tally

variable {keys : List VpnKey} {items : List UserTrafficIn} {p : VpnKey → Bool}

theorem share_append (p : VpnKey → Bool) : share keys p (items ++ [item]) = share keys p items +
      if (keyOf keys item.identifier).any p then (item.deltaBytes : ℤ) else 0 := by
  simp [share]

theorem share_nonneg : 0 ≤ share keys p items := by
  refine List.sum_nonneg fun x hx => ?_
  obtain ⟨item, -, rfl⟩ := List.mem_map.mp hx
  split <;> omega

theorem tallyOf_append : tallyOf keys (items ++ [item]) = (tallyOf keys items).add item := by
  simp [tallyOf]

/-- Counting changes the counter of a key and nothing that identifies it. -/
theorem keyOf_setTraffic (f : VpnKey → ℤ) :
    keyOf (keys.map fun key => key.setTraffic (f key)) identifier =
      (keyOf keys identifier).map fun key => key.setTraffic (f key) :=
  List.find?_map ..

/-- Every loaded key has got what the items report for it. -/
theorem tallyOf_keys : (tallyOf keys items).keys = keys.map fun key =>
      key.setTraffic (key.usedTrafficBytes + share keys (fun other => other.id = key.id) items) := by
  induction items using List.reverseRecOn with
  | nil => simp [tallyOf, share, VpnKey.setTraffic]
  | append_singleton _ item ih =>
    rw [tallyOf_append]
    simp only [share_append]
    unfold Tally.add
    rw [ih, keyOf_setTraffic]
    cases hkey : keyOf keys item.identifier with
    | none => simp [ih]
    | some key =>
      by_cases hzero : item.deltaBytes = 0
      · simp [hzero, ih]
      · simp only [Option.map_some, hzero, if_false, List.map_map]
        refine List.map_congr_left fun loaded _ => ?_
        by_cases hid : loaded.id = key.id
        · simp [VpnKey.setTraffic, hid, add_assoc]
        · simp [VpnKey.setTraffic, hid, Ne.symm hid]

theorem deltaOf_bump : deltaOf (bump subscription delta deltas) other =
      deltaOf deltas other + if subscription = other then delta else 0 := by
  induction deltas with
  | nil => by_cases h : subscription = other <;> simp [bump, deltaOf, h]
  | cons entry _ ih =>
    obtain ⟨id, total⟩ := entry
    unfold bump
    by_cases hid : id = subscription
    · by_cases h : subscription = other <;> simp [deltaOf, hid, h]
    · by_cases hother : id = other
      · subst hother
        simp [deltaOf, hid, Ne.symm hid]
      · simpa [deltaOf, hid, hother, List.find?_cons] using ih

theorem deltaOf_tallyOf : deltaOf (tallyOf keys items).deltas subscription =
      share keys (fun key => key.subscriptionId = some subscription) items := by
  induction items using List.reverseRecOn with
  | nil => simp [tallyOf, share, deltaOf]
  | append_singleton _ item ih =>
    rw [tallyOf_append, share_append, ← ih]
    unfold Tally.add
    rw [tallyOf_keys, keyOf_setTraffic]
    cases hkey : keyOf keys item.identifier with
    | none => simp
    | some key =>
      by_cases hzero : item.deltaBytes = 0
      · simp [hzero]
      · cases howner : key.subscriptionId with
        | none => simp [hzero, VpnKey.setTraffic, howner]
        | some => simp [hzero, VpnKey.setTraffic, howner, deltaOf_bump]

end Tally

/-! ## Counters -/

/-- A counter of bytes. -/
inductive Counter
  | key (id : Uuid)
  | used (subscription : Uuid)
  | lifetime (subscription : Uuid)
  deriving DecidableEq, Repr

/-- The traffic of the key is counted here. -/
def Counter.Gets : Counter → VpnKey → Bool
  | key id, row => row.id = id
  | used subscription, row => row.subscriptionId = some subscription
  | lifetime subscription, row => row.subscriptionId = some subscription

variable (db : Database)

/-- What stands in a counter. -/
def Database.counter? : Counter → Option ℤ
  | .key id => (db.keys.find? id).map VpnKey.usedTrafficBytes
  | .used subscription => (db.subscription? subscription).map Subscription.usedTrafficBytes
  | .lifetime subscription =>
    (db.subscription? subscription).map Subscription.lifetimeUsedTrafficBytes

/-- What a write puts into a counter. -/
def Write.sets (counter : Counter) : Write → Option ℤ
  | .setKeyTraffic key value => if counter = .key key then some value else none
  | .setTraffic subscription used lifetime =>
    if counter = .used subscription then some used
    else if counter = .lifetime subscription then some lifetime
    else none
  | _ => none

def Write.IsHandling : Write → Prop
  | .setKeyTraffic .. | .setTraffic .. | .setRevoked .. | .setDesiredState .. | .enqueueMany _
  | .insertMessage _ | .insertTrafficUsage _ => True
  | _ => False

section Counters

variable {db : Database} {counter : Counter} {w : Write} {ws : List Write} {value old : ℤ}

theorem subscription?_setTraffic (db : Database) :
    (db.apply (.setTraffic subscription used lifetime)).subscription? other =
      (db.subscription? other).map fun sub =>
        if other = subscription then
          { sub with usedTrafficBytes := used, lifetimeUsedTrafficBytes := lifetime }
        else sub := by
  have hfind : (db.apply (.setTraffic subscription used lifetime)).columns.find? other = _ :=
    Table.find?_modify (SubscriptionColumns.setTraffic used lifetime) fun _ => rfl
  unfold Database.subscription?
  rw [hfind]
  cases hrow : db.columns.find? other with
  | none => rfl
  | some row =>
    have hid : Row.key row = other := Table.key_of_find? hrow
    by_cases h : other = subscription <;>
      cases hown : db.billing.subscriptions.find? row.id <;>
        simp [hid, h, Database.joinSubscription, Database.apply, SubscriptionColumns.setTraffic, hown]

theorem used_modify {keys : Table VpnKey} {id : Uuid} (f : VpnKey → VpnKey)
    (hf : ∀ row, Row.key (f row) = Row.key row) (value : Option ℤ)
    (hused : ∀ row, (f row).usedTrafficBytes = value.getD row.usedTrafficBytes) :
    ((keys.modify changed f hf).find? id).map VpnKey.usedTrafficBytes =
      if id = changed then (keys.find? id).map fun row => value.getD row.usedTrafficBytes
      else (keys.find? id).map VpnKey.usedTrafficBytes := by
  by_cases h : id = changed
  · subst h
    simp [comp_def, hused]
  · rw [Table.find?_modify_of_ne f hf h, if_neg h]

/-- A write of a handler sets the counters it names and leaves the others alone. -/
theorem counter?_apply (db : Database) (hw : w.IsHandling) (counter : Counter) :
    (db.apply w).counter? counter =
      match w.sets counter with
      | some value => (db.counter? counter).map fun _ => value
      | none => db.counter? counter := by
  cases w with
  | setKeyTraffic changed value =>
    cases counter with
    | key id =>
      refine (used_modify (VpnKey.setTraffic value) (fun _ => rfl) (some value)
        fun _ => rfl).trans ?_
      by_cases h : id = changed <;> simp [sets, Database.counter?, h, comp_def]
    | _ => rfl
  | setRevoked changed revoked =>
    cases counter with
    | key id =>
      refine (used_modify (VpnKey.setRevoked revoked) (fun _ => rfl) none fun _ => rfl).trans ?_
      by_cases h : id = changed <;> simp [sets, Database.counter?, h]
    | _ => rfl
  | setTraffic subscription used lifetime =>
    cases counter with
    | key => rfl
    | used other =>
      by_cases h : other = subscription <;>
        simp [sets, Database.counter?, subscription?_setTraffic, h, comp_def]
    | lifetime other =>
      by_cases h : other = subscription <;>
        simp [sets, Database.counter?, subscription?_setTraffic, h, comp_def]
  | setDesiredState | enqueueMany | insertMessage | insertTrafficUsage => cases counter <;> rfl
  | _ => exact hw.elim

/-- Writes that do not name a counter leave it alone. -/
theorem counter?_foldl_of_none (hws : ∀ w ∈ ws, w.IsHandling)
    (hnone : ∀ w ∈ ws, w.sets counter = none) :
    (ws.foldl Database.apply db).counter? counter = db.counter? counter := by
  refine List.foldlRecOn (motive := fun later : Database => later.counter? counter = _) ws _ rfl ?_
  intro later hsame w hw
  rw [counter?_apply later (hws w hw), hnone w hw, hsame]

/-- Writes that put one value into a counter leave that value. -/
theorem counter?_foldl_of_some (hws : ∀ w ∈ ws, w.IsHandling)
    (hsets : ∀ w ∈ ws, w.sets counter = none ∨ w.sets counter = some value)
    (hsome : ∃ w ∈ ws, w.sets counter ≠ none) (hdb : (db.counter? counter).isSome) :
    (ws.foldl Database.apply db).counter? counter = some value := by
  induction ws generalizing db with
  | nil => simp at hsome
  | cons w rest ih =>
    have hrest : ∀ other ∈ rest, other.IsHandling := fun other h => hws other (by simp [h])
    have happly := counter?_apply db (hws w (by simp)) counter
    obtain ⟨old, hold⟩ := Option.isSome_iff_exists.mp hdb
    rw [List.foldl_cons]
    by_cases hlater : ∃ other ∈ rest, other.sets counter ≠ none
    · refine ih hrest (fun other h => hsets other (by simp [h])) hlater ?_
      rw [happly, hold]
      split <;> rfl
    · have hnone : ∀ other ∈ rest, other.sets counter = none := by simpa using hlater
      have hfirst : w.sets counter = some value := by
        refine (hsets w (by simp)).resolve_left fun h => ?_
        obtain ⟨other, hmem, hother⟩ := hsome
        rcases List.mem_cons.mp hmem with rfl | hmem
        · exact hother h
        · exact hother (hnone other hmem)
      rw [counter?_foldl_of_none hrest hnone, happly, hfirst, hold]
      rfl

end Counters

/-! ## What a handler puts into a counter -/

theorem mem_of_deltaOf_ne_zero (h : deltaOf deltas subscription ≠ 0) :
    subscription ∈ deltas.map Prod.fst := by
  unfold deltaOf at h
  cases hfound : deltas.find? fun entry => entry.1 = subscription with
  | none => simp [hfound] at h
  | some entry =>
    have hid : entry.1 = subscription := by simpa using List.find?_some hfound
    exact List.mem_map.mpr ⟨entry, List.mem_of_find?_eq_some hfound, hid⟩

theorem exists_item_of_share_ne_zero (h : share keys p items ≠ 0) :
    ∃ item ∈ items, ∃ key ∈ keyOf keys item.identifier, p key := by
  by_contra hnone
  refine h (List.sum_eq_zero fun x hx => ?_)
  obtain ⟨item, hitem, rfl⟩ := List.mem_map.mp hx
  cases hfound : keyOf keys item.identifier with
  | none => rfl
  | some key => exact if_neg fun hgets => hnone ⟨item, hitem, key, by simp [hfound], hgets⟩

section Handled

variable {S : Committed engine → Prop} {now : Time} {items : List UserTrafficIn} {ws : List Write}
  {counter : Counter} {total : ℤ} {rest : List Write}

/-- A handler adds `total` to a counter that it reads in the states of `S`. -/
structure Adds (S : Committed engine → Prop) (counter : Counter) (total : ℤ) (ws : List Write) :
    Prop where
  spares : total = 0 → ∀ w ∈ ws, w.sets counter = none
  sets : total ≠ 0 → ∃ w ∈ ws, w.sets counter ≠ none
  value : ∀ old, (∀ c, S c → c.state.counter? counter = some old) →
    ∀ w ∈ ws, w.sets counter = none ∨ w.sets counter = some (old + total)

/-- A handler that writes a counter has read it and writes the sum. -/
theorem Adds.of_writes (hwrite : ∀ w ∈ ws, w.sets counter ≠ none → total ≠ 0 ∧ ∃ c old, S c ∧
      c.state.counter? counter = some old ∧ w.sets counter = some (old + total))
    (hsets : total ≠ 0 → ∃ w ∈ ws, w.sets counter ≠ none) : Adds S counter total ws where
  spares hzero w hw := by
    by_contra hne
    exact (hwrite w hw hne).1 hzero
  sets := hsets
  value old hold w hw := by
    by_contra hnot
    obtain ⟨hne, hvalue⟩ := not_or.mp hnot
    obtain ⟨-, c, read, hc, hread, hset⟩ := hwrite w hw hne
    rw [hold c hc] at hread
    exact hvalue (by rw [hset, Option.some.inj hread])

/-- Writes that set other counters may stand around. -/
theorem Adds.within (h : Adds S counter total ws)
    (hfirst : ∀ w ∈ first, w.sets counter = none) (hrest : ∀ w ∈ rest, w.sets counter = none) :
    Adds S counter total (first ++ (ws ++ rest)) := by
  have hcases : ∀ w ∈ first ++ (ws ++ rest), w.sets counter = none ∨ w ∈ ws := by
    intro w hw
    simp only [List.mem_append] at hw
    rcases hw with hw | hw | hw
    · exact Or.inl (hfirst w hw)
    · exact Or.inr hw
    · exact Or.inl (hrest w hw)
  refine ⟨fun hzero w hw => ?_, fun hne => ?_, fun old hold w hw => ?_⟩
  · exact (hcases w hw).elim (fun h => h) (h.spares hzero w)
  · obtain ⟨w, hw, hsets⟩ := h.sets hne
    exact ⟨w, by simp [hw], hsets⟩
  · exact (hcases w hw).elim Or.inl (h.value old hold w)

theorem Ingested.isHandling (h : Ingested S now items ws) : ∀ w ∈ ws, w.IsHandling := by
  cases h with
  | unknown => simp
  | counted _ _ _ _ hrest =>
    intro w hw
    simp only [List.mem_append] at hw
    rcases hw with hkey | hsub | hrevoked | hhistory
    · obtain ⟨key, -, rfl⟩ := List.mem_map.mp hkey
      trivial
    · obtain ⟨sub, -, rfl⟩ := List.mem_map.mp hsub
      trivial
    · have hw := hrest w hrevoked
      cases w <;> trivial
    · unfold historyWrites at hhistory
      split at hhistory
      · simp at hhistory
      · rw [List.mem_singleton.mp hhistory]
        trivial

theorem sets_of_rest (hrest : ∀ w ∈ rest, w.IsRevocation)
    (hw : w ∈ rest ++ historyWrites tally) : w.sets counter = none := by
  rcases List.mem_append.mp hw with hrevoked | hhistory
  · have hw := hrest w hrevoked
    cases w <;> first | rfl | exact hw.elim
  · unfold historyWrites at hhistory
    split at hhistory
    · simp at hhistory
    · rw [List.mem_singleton.mp hhistory]
      rfl

theorem sets_keyUpdates (hw : w ∈ keyUpdates keys tally) :
    w.sets (.used subscription) = none ∧ w.sets (.lifetime subscription) = none := by
  obtain ⟨key, -, rfl⟩ := List.mem_map.mp hw
  exact ⟨rfl, rfl⟩

/-- The session writes a key exactly if something was reported for it, and then the sum. -/
theorem adds_keyUpdates (hc : S c) {id : Uuid} : Adds S (.key id)
      (share (c.state.keysByClientIds clientIds now) (Counter.key id).Gets items)
      (keyUpdates (c.state.keysByClientIds clientIds now)
        (tallyOf (c.state.keysByClientIds clientIds now) items)) := by
  set keys := c.state.keysByClientIds clientIds now
  have hrow : ∀ key ∈ keys, c.state.keys.find? key.id = some key :=
    fun _ hkey => Table.find?_of_mem (List.mem_of_mem_filter hkey)
  refine .of_writes (fun w hw hsets => ?_) fun hne => ?_
  · -- a write of the counter comes from a loaded key with this id
    obtain ⟨changed, hchanged, rfl⟩ := List.mem_map.mp hw
    obtain ⟨hmem, hnew⟩ := List.mem_filter.mp hchanged
    rw [tallyOf_keys] at hmem
    obtain ⟨key, hkey, rfl⟩ := List.mem_map.mp hmem
    have hid : id = key.id := by
      by_contra hne
      exact hsets (if_neg fun h => hne (by simpa [VpnKey.setTraffic] using h))
    subst hid
    refine ⟨fun hzero => of_decide_eq_true hnew ?_, c, key.usedTrafficBytes, hc, ?_, if_pos rfl⟩
    · have hzero : share keys (fun other => other.id = key.id) items = 0 := hzero
      rwa [hzero, add_zero]
    · rw [Database.counter?, hrow key hkey]
      rfl
  · obtain ⟨item, -, key, hkey, hgets⟩ := exists_item_of_share_ne_zero hne
    have hkey : key ∈ keys := List.mem_of_find?_eq_some hkey
    have hid : key.id = id := by simpa [Counter.Gets] using hgets
    subst hid
    refine ⟨.setKeyTraffic key.id
      (key.usedTrafficBytes + share keys (Counter.key key.id).Gets items), ?_, by simp [sets]⟩
    refine List.mem_map.mpr ⟨key.setTraffic
      (key.usedTrafficBytes + share keys (Counter.key key.id).Gets items), ?_, rfl⟩
    refine List.mem_filter.mpr ⟨?_, ?_⟩
    · rw [tallyOf_keys]
      exact List.mem_map.mpr ⟨key, hkey, rfl⟩
    · -- another row with the same id would be the same row
      simp only [decide_eq_true_eq]
      intro hold
      have hused := congrArg VpnKey.usedTrafficBytes
        (Option.some.inj ((hrow _ hold).symm.trans (hrow key hkey)))
      simp only [VpnKey.setTraffic] at hused
      exact hne (by omega)

section

variable {value : Subscription → ℤ}
    (hcounter : counter = .used subscription ∧ value = Subscription.usedTrafficBytes ∨ counter = .lifetime subscription ∧ value = Subscription.lifetimeUsedTrafficBytes)

include hcounter

theorem sets_subscription :
    (setTraffic sub.id sub.usedTrafficBytes sub.lifetimeUsedTrafficBytes).sets counter =
      if subscription = sub.id then some (value sub) else none := by
  obtain ⟨rfl, rfl⟩ | ⟨rfl, rfl⟩ := hcounter <;> simp [sets]

/-- The session writes a subscription exactly if something was reported for one of its keys, and
then the sums. -/
theorem adds_subscriptionUpdates (hexists : ∀ c, S c → (c.state.counter? counter).isSome)
    (hloaded : (tallyOf keys items).deltas ≠ [] → ∃ c, S c ∧ subscriptions =
      c.state.subscriptionsByIds ((tallyOf keys items).deltas.map Prod.fst)) :
    Adds S counter (share keys counter.Gets items)
      (subscriptionUpdates (countedSubscriptions (tallyOf keys items).deltas subscriptions)) := by
  have htotal : deltaOf (tallyOf keys items).deltas subscription = share keys counter.Gets items := by
    rw [deltaOf_tallyOf]
    obtain ⟨rfl, -⟩ | ⟨rfl, -⟩ := hcounter <;> rfl
  have hread : ∀ db : Database,
      db.counter? counter = (db.subscription? subscription).map value := by
    intro db
    obtain ⟨rfl, rfl⟩ | ⟨rfl, rfl⟩ := hcounter <;> rfl
  have hadd : ∀ (sub : Subscription) (delta : ℤ),
      value (sub.addTraffic delta) = value sub + delta := by
    intro sub delta
    obtain ⟨-, rfl⟩ | ⟨-, rfl⟩ := hcounter <;> rfl
  have hloaded : share keys counter.Gets items ≠ 0 → ∃ c, S c ∧
      ∀ sub, sub ∈ subscriptions ∧ sub.id = subscription ↔
        c.state.subscription? subscription = some sub := by
    intro hne
    have hmem := mem_of_deltaOf_ne_zero (htotal ▸ hne)
    obtain ⟨c, hc, rfl⟩ := hloaded fun hnil => by simp [hnil] at hmem
    refine ⟨c, hc, fun sub => ⟨?_, fun hsub => ?_⟩⟩
    · rintro ⟨hsub, rfl⟩
      exact (mem_subscriptionsByIds.mp hsub).2
    · have hid : sub.id = subscription := by
        obtain ⟨row, hrow, hjoin⟩ := Option.bind_eq_some_iff.mp hsub
        obtain ⟨own, hown, rfl⟩ := Option.map_eq_some_iff.mp hjoin
        exact (Table.key_of_find? hown).trans (Table.key_of_find? hrow)
      subst hid
      exact ⟨mem_subscriptionsByIds.mpr ⟨hmem, hsub⟩, rfl⟩
  refine .of_writes (fun w hw hsets => ?_) fun hne => ?_
  · -- a write of the counter comes from the loaded subscription with this id
    obtain ⟨counted, hcounted, rfl⟩ := List.mem_map.mp hw
    rw [sets_subscription hcounter] at hsets ⊢
    obtain ⟨sub, hsub, rfl⟩ := List.mem_map.mp hcounted
    obtain ⟨hmem, hpos⟩ := List.mem_filter.mp hsub
    have hid : subscription = sub.id := by
      by_contra hne
      exact hsets (if_neg hne)
    subst hid
    have hpos : 0 < share keys counter.Gets items := htotal ▸ of_decide_eq_true hpos
    obtain ⟨c, hc, hfound⟩ := hloaded hpos.ne'
    refine ⟨hpos.ne', c, value sub, hc, ?_, by simp [hadd, htotal]⟩
    rw [hread, (hfound sub).mp ⟨hmem, rfl⟩]
    rfl
  · obtain ⟨c, hc, hfound⟩ := hloaded hne
    have hsome := hexists c hc
    rw [hread, Option.isSome_map] at hsome
    obtain ⟨sub, hsub⟩ := Option.isSome_iff_exists.mp hsome
    obtain ⟨hmem, rfl⟩ := (hfound sub).mpr hsub
    have hpos : 0 < deltaOf (tallyOf keys items).deltas sub.id :=
      htotal ▸ lt_of_le_of_ne share_nonneg hne.symm
    have hcounted : sub.addTraffic (deltaOf (tallyOf keys items).deltas sub.id) ∈
        countedSubscriptions (tallyOf keys items).deltas subscriptions :=
      List.mem_map.mpr ⟨sub, List.mem_filter.mpr ⟨hmem, decide_eq_true hpos⟩, rfl⟩
    refine ⟨_, List.mem_map_of_mem hcounted, ?_⟩
    rw [sets_subscription hcounter]
    simp

end

theorem Ingested.adds (h : Ingested S now items ws)
    (hexists : ∀ c, S c → (c.state.counter? counter).isSome) (htotal : ∀ c, S c → share
      (c.state.keysByClientIds (items.map UserTrafficIn.identifier) now) counter.Gets items = total)
    (hempty : items = [] → total = 0) : Adds S counter total ws := by
  cases h with
  | unknown hnone =>
    have hzero : total = 0 := by
      rcases hnone with hitems | ⟨c, hc, hkeys⟩
      · exact hempty hitems
      · rw [← htotal c hc, hkeys]
        exact List.sum_eq_zero fun x hx => by
          obtain ⟨item, -, rfl⟩ := List.mem_map.mp hx
          rfl
    exact ⟨by simp, fun hne => absurd hzero hne, by simp⟩
  | @counted keys subscriptions rest c hc hkeys hloaded hrest =>
    have htotal : share keys counter.Gets items = total := hkeys ▸ htotal c hc
    subst htotal
    cases counter with
    | key id =>
      have hadds : Adds S (.key id) (share keys (Counter.key id).Gets items)
          (keyUpdates keys (tallyOf keys items)) := hkeys ▸ adds_keyUpdates hc
      have hnil : ∀ w ∈ ([] : List Write), w.sets (.key id) = none := by simp
      refine hadds.within hnil fun w hw => ?_
      rcases List.mem_append.mp hw with hsub | hrest'
      · obtain ⟨sub, -, rfl⟩ := List.mem_map.mp hsub
        rfl
      · exact sets_of_rest hrest hrest'
    | used subscription =>
      have hadds := adds_subscriptionUpdates (Or.inl ⟨rfl, rfl⟩) hexists hloaded
      exact hadds.within (fun w hw => (sets_keyUpdates hw).1) fun w hw => sets_of_rest hrest hw
    | lifetime subscription =>
      have hadds := adds_subscriptionUpdates (Or.inr ⟨rfl, rfl⟩) hexists hloaded
      exact hadds.within (fun w hw => (sets_keyUpdates hw).2) fun w hw => sets_of_rest hrest hw

end Handled

/-! ## Keys that stay in force -/

/-- What identifies a key and its owner. -/
def VpnKey.identity (key : VpnKey) : Uuid × String × Option Uuid :=
  (key.id, key.clientId, key.subscriptionId)

def Database.keyIdentities : List (Uuid × String × Option Uuid) :=
  db.keys.rows.map VpnKey.identity

theorem keyIdentities_apply {db : Database} (hw : w.IsHandling) :
    (db.apply w).keyIdentities = db.keyIdentities := by
  have hmodify : ∀ (changed : Uuid) (f : VpnKey → VpnKey) (hf : ∀ row, Row.key (f row) = Row.key row),
      (∀ row, (f row).identity = row.identity) →
      (db.keys.modify changed f hf).rows.map VpnKey.identity =
        db.keys.rows.map VpnKey.identity := by
    intro changed f hf hidentity
    simp only [Table.modify, List.map_map]
    refine List.map_congr_left fun row _ => ?_
    by_cases h : Row.key row = changed <;> simp [h, hidentity]
  cases w with
  | setKeyTraffic changed value =>
    exact hmodify changed (VpnKey.setTraffic value) (fun _ => rfl) fun _ => rfl
  | setRevoked changed revoked =>
    exact hmodify changed (VpnKey.setRevoked revoked) (fun _ => rfl) fun _ => rfl
  | setTraffic | setDesiredState | enqueueMany | insertMessage | insertTrafficUsage => rfl
  | _ => exact hw.elim

/-- Every key with the client id of an item is active, unexpired and not revoked. -/
def Database.InForce (items : List UserTrafficIn) (now : Time) : Prop :=
  ∀ item ∈ items, ∀ key ∈ db.keys.rows, key.clientId = item.identifier →
    key.isActive ∧ now < key.validUntil ∧ ¬ key.isRevoked

instance (db : Database) (items : List UserTrafficIn) (now : Time) :
    Decidable (db.InForce items now) :=
  inferInstanceAs (Decidable (∀ item ∈ items, ∀ key ∈ db.keys.rows, _ → _))

def Database.reported (counter : Counter) (items : List UserTrafficIn) : ℤ :=
  share db.keys.rows counter.Gets items

/-- Whether a key is counted is a matter of its identity. -/
theorem keyOf_any_gets
    (h : first.map VpnKey.identity = second.map VpnKey.identity) (counter : Counter) :
    (keyOf first identifier).any counter.Gets = (keyOf second identifier).any counter.Gets := by
  have hfind : ∀ keys : List VpnKey, (keyOf keys identifier).map VpnKey.identity =
      (keys.map VpnKey.identity).find? fun identity => identity.2.1 = identifier := by
    intro keys
    rw [List.find?_map]
    rfl
  have hgets : ∀ found : Option VpnKey, found.any counter.Gets =
      (found.map VpnKey.identity).any fun identity => match counter with
        | .key id => identity.1 = id
        | .used subscription => identity.2.2 = some subscription
        | .lifetime subscription => identity.2.2 = some subscription := by
    intro found
    cases found <;> cases counter <;> rfl
  rw [hgets, hgets, hfind, hfind, h]

theorem share_keysByClientIds {db start : Database} (hsame : db.keyIdentities = start.keyIdentities)
    (hforce : db.InForce items now) :
    share (db.keysByClientIds (items.map UserTrafficIn.identifier) now) counter.Gets items =
      start.reported counter items := by
  refine congrArg List.sum (List.map_congr_left fun item hitem => ?_)
  have hloaded : keyOf (db.keysByClientIds (items.map UserTrafficIn.identifier) now)
      item.identifier = keyOf db.keys.rows item.identifier := by
    unfold keyOf Database.keysByClientIds
    rw [List.find?_filter]
    refine List.find?_congr fun key hkey => ?_
    by_cases hclient : key.clientId = item.identifier
    · obtain ⟨hactive, hvalid, hrevoked⟩ := hforce item hitem key hkey hclient
      have hmem : item ∈ items ∧ item.identifier ≠ "" := ⟨hitem, item.identifier_ne⟩
      simp [hclient, hactive, hvalid, hrevoked]
      exact ⟨⟨item, hmem.1, rfl⟩, hmem.2⟩
    · simp [hclient]
  rw [hloaded, keyOf_any_gets hsame]

/-! ## Runs -/

section Runs

variable {ι : Type} [Fintype ι] [DecidableEq ι]

/-- A key of the one message is a key of the other, or has the same subscription as one. -/
def Database.Overlap (db : Database) (first second : List UserTrafficIn) : Prop :=
  ∃ x ∈ first, ∃ y ∈ second, ∃ key ∈ keyOf db.keys.rows x.identifier,
    ∃ other ∈ keyOf db.keys.rows y.identifier,
      key.id = other.id ∨ key.subscriptionId.isSome ∧ key.subscriptionId = other.subscriptionId

instance (db : Database) (first second : List UserTrafficIn) : Decidable (db.Overlap first second) :=
  inferInstanceAs (Decidable (∃ x ∈ first, ∃ y ∈ second, _))

/-- No handler does anything while another one is at work on a message about the same key or the
same subscription. -/
def HandledApart (db : Database) (messages : ι → TrafficMessage) (past : List (Event ι))
    (s : System engine SubscriptionError ι) : Event ι → Prop
  | .step i => ∀ j, j ≠ i → db.Overlap (messages i).items (messages j).items → ¬ s.Open past j
  | .abort _ => True

/-- The keys of the messages are in force when the event has happened. -/
def StaysInForce (messages : ι → TrafficMessage) (sessions : ι → Session)
    (s : System engine SubscriptionError ι) (event : Event ι) : Prop :=
  ∀ later ∈ s.next event, ∀ i, later.db.state.InForce (messages i).items (sessions i).billing.now

instance (db : Database) (messages : ι → TrafficMessage) (past : List (Event ι))
    (s : System engine SubscriptionError ι) :
    (event : Event ι) → Decidable (HandledApart db messages past s event)
  | .step _ => inferInstanceAs (Decidable (∀ _, _ → _ → _))
  | .abort _ => inferInstanceAs (Decidable True)

instance (messages : ι → TrafficMessage) (sessions : ι → Session)
    (s : System engine SubscriptionError ι) (event : Event ι) :
    Decidable (StaysInForce messages sessions s event) :=
  inferInstanceAs (Decidable (∀ later ∈ s.next event, _))

/-- The state of a run when some handlers have committed. -/
structure Totals (db : Database) (messages : ι → TrafficMessage) (sessions : ι → Session)
    (counter : Counter) (initial : ℤ) (order : List ι) (c : Committed engine) : Prop where
  counter : c.state.counter? counter =
    some (initial + (order.map fun i => db.reported counter (messages i).items).sum)
  identities : c.state.keyIdentities = db.keyIdentities
  claimed : ∀ i row, (messages i).dedupRow = some row → (c.state.messages.find? row).isSome →
    i ∈ order
  inForce : ∀ i, c.state.InForce (messages i).items (sessions i).billing.now

/-- What a handler commits, when it has seen a counter. -/
structure Handled (message : TrafficMessage) (counter : Counter) (total : ℤ) (seen : Option ℤ)
    (ws : List Write) : Prop where
  handling : ∀ w ∈ ws, w.IsHandling
  claims : ∀ row, .insertMessage row ∈ ws → message.dedupRow = some row
  spares : total = 0 → ∀ w ∈ ws, w.sets counter = none
  sets : total ≠ 0 → ∃ w ∈ ws, w.sets counter ≠ none
  value : ∀ old, seen = some old → total ≠ 0 →
    ∀ w ∈ ws, w.sets counter = none ∨ w.sets counter = some (old + total)

variable {db : Database} {messages : ι → TrafficMessage} {sessions : ι → Session}
  {counter : Counter} {initial : ℤ} {ws : List Write}

omit [Fintype ι] [DecidableEq ι] in
/-- A handler that is kept apart from those that report for the same counter adds its share. -/
theorem outcome_handled (hrow : (messages i).dedupRow = some row) :
    Outcome (System.Sees (fun i => db.reported counter (messages i).items ≠ 0)
        (Totals db messages sessions counter initial) (fun c => c.state.counter? counter) i seen)
      (Tx.start (sessions i)) (handleMessage (messages i)) fun _ =>
        Handled (messages i) counter (db.reported counter (messages i).items) seen := by
  refine (outcome_handleMessage hrow (sessions i)).mono fun _ ws hws => ?_
  rcases hws with ⟨rfl, hitems | ⟨c, ⟨⟨order, hnot, htotals⟩, -⟩, hclaimed⟩⟩ |
    ⟨rest, rfl, hingested⟩
  · have hzero : db.reported counter (messages i).items = 0 := by
      rw [hitems]
      rfl
    exact ⟨by simp, by simp, by simp, fun hne => absurd hzero hne, by simp⟩
  · exact absurd (htotals.claimed i row hrow hclaimed) hnot
  · have hadds := hingested.adds
      (fun c ⟨⟨_, _, htotals⟩, _⟩ => Option.isSome_iff_exists.mpr ⟨_, htotals.counter⟩)
      (fun c ⟨⟨_, _, htotals⟩, _⟩ => share_keysByClientIds htotals.identities (htotals.inForce i))
      fun hitems => by rw [hitems]; rfl
    have hfirst : sets counter (.insertMessage row) = none := rfl
    refine ⟨?_, ?_, ?_, ?_, ?_⟩
    · simpa [IsHandling] using hingested.isHandling
    · intro other hmem
      rcases List.mem_cons.mp hmem with heq | hmem
      · cases heq
        exact hrow
      · have hpart := hingested.part hmem
        simp [Database.Part.of] at hpart
    · intro hzero
      simpa [hfirst] using hadds.spares hzero
    · intro hne
      obtain ⟨w, hw, hsets⟩ := hadds.sets hne
      exact ⟨w, by simp [hw], hsets⟩
    · intro old hseen hne
      have hvalue := hadds.value old fun c hc => (hc.2 hne).trans hseen
      simpa [hfirst] using hvalue

/-- A claim that is committed stood there before or is one of the writes. -/
theorem claimed_foldl (h : ((ws.foldl Database.apply db).messages.find? row).isSome) :
    (db.messages.find? row).isSome ∨ .insertMessage row ∈ ws := by
  refine List.foldlRecOn (motive := fun later : Database =>
    (later.messages.find? row).isSome → _) ws Database.apply Or.inl ?_ h
  intro later ih w hw hfound
  cases w with
  | insertMessage other =>
    obtain ⟨found, hfound⟩ := Option.isSome_iff_exists.mp hfound
    rcases Table.find?_insert_eq_some hfound with hold | ⟨hkey, -⟩
    · exact ih (Option.isSome_iff_exists.mpr ⟨found, hold⟩)
    · obtain rfl : row = other := hkey
      exact Or.inr hw
  | _ => exact ih hfound

theorem Handled.total {total old : ℤ} (hc : c.counter? counter = some old)
    (h : Handled message counter total (some old) ws) :
    (ws.foldl Database.apply c).counter? counter = some (old + total) := by
  by_cases hzero : total = 0
  · rw [counter?_foldl_of_none h.handling (h.spares hzero), hc, hzero, add_zero]
  · exact counter?_foldl_of_some h.handling (h.value old rfl hzero) (h.sets hzero) (by simp [hc])

omit [Fintype ι] [DecidableEq ι] in
theorem Totals.commit (hdistinct : Injective fun i => (messages i).dedupRow) {order : List ι}
    (h : Totals db messages sessions counter initial order c)
    (hws : Handled (messages i) counter (db.reported counter (messages i).items)
      (c.state.counter? counter) ws)
    (hforce : ∀ i, (c.extend ws).state.InForce (messages i).items (sessions i).billing.now) :
    Totals db messages sessions counter initial (order ++ [i]) (c.extend ws) where
  counter := by
    rw [h.counter] at hws
    have hafter := hws.total h.counter
    simpa [Committed.extend, add_assoc] using hafter
  identities :=
    List.foldlRecOn (motive := fun later : Database => later.keyIdentities = _) ws _ h.identities
      fun later hsame w hw => (keyIdentities_apply (hws.handling w hw)).trans hsame
  claimed := by
    intro j row hrow hfound
    rcases claimed_foldl hfound with hold | hnew
    · exact List.mem_append_left _ (h.claimed j row hrow hold)
    · have hsame : j = i := hdistinct (hrow.trans (hws.claims row hnew).symm)
      simp [hsame]
  inForce := hforce

omit [Fintype ι] [DecidableEq ι] in
theorem overlap_of_reported
    (hfirst : db.reported counter first ≠ 0) (hsecond : db.reported counter second ≠ 0) :
    db.Overlap first second := by
  obtain ⟨x, hx, key, hkeyx, hgets⟩ := exists_item_of_share_ne_zero hfirst
  obtain ⟨y, hy, other, hkeyy, hgets'⟩ := exists_item_of_share_ne_zero hsecond
  refine ⟨x, hx, y, hy, key, hkeyx, other, hkeyy, ?_⟩
  cases counter <;> simp_all [Counter.Gets]

/-- **No traffic is lost.** Any number of messages with distinct ids are handled, interleaved in
any way in which messages about the same key or subscription are handled one after the other, and
the keys stay in force. When all handlers have committed, every counter has been increased by all
that was reported for it. -/
theorem traffic_totals_of_apart (hrows : ∀ i, ((messages i).dedupRow).isSome)
    (hdistinct : Function.Injective fun i => (messages i).dedupRow)
    (hnew : ∀ i row, (messages i).dedupRow = some row → db.messages.find? row = none)
    (hforce : ∀ i, db.InForce (messages i).items (sessions i).billing.now)
    {past : List (Event ι)} {later : System engine SubscriptionError ι}
    (hrun : System.Follows (fun past s event => HandledApart db messages past s event ∧
      StaysInForce messages sessions s event) (consumers db messages sessions) past later)
    (hall : ∀ i, ∃ t, later.txs i = .committed t) (hinitial : db.counter? counter = some initial) :
    later.db.state.counter? counter =
      some (initial + ∑ i, db.reported counter (messages i).items) := by
  have hapart : ∀ past (s : System engine SubscriptionError ι) event,
      HandledApart db messages past s event ∧ StaysInForce messages sessions s event →
      s.Apart (fun i => db.reported counter (messages i).items ≠ 0) past event := by
    rintro past s (i | i) ⟨hapart, -⟩
    · intro hi j hji hj
      exact hapart j hji (overlap_of_reported hi hj)
    · trivial
  have hstart : Totals db messages sessions counter initial [] ⟨db, []⟩ := by
    refine ⟨by simpa using hinitial, rfl, fun i row hrow hfound => ?_, hforce⟩
    simp [hnew i row hrow] at hfound
  obtain ⟨order, horder, htotals⟩ := hrun.commits hapart
    (fun i seen => outcome_handled (Option.some_get (hrows i)).symm)
    (fun past s i ws order later hok hnext hdb hnot htotals hws => by
      have hstay := hok.2 later hnext
      rw [hdb] at hstay ⊢
      refine ⟨htotals.commit hdistinct hws hstay, fun hzero => ?_⟩
      exact counter?_foldl_of_none hws.handling (hws.spares (not_not.mp hzero))) hstart
  have heverybody : order.toFinset = Finset.univ :=
    Finset.eq_univ_iff_forall.mpr fun i => List.mem_toFinset.mpr ((horder.mem_iff i).mpr (hall i))
  rw [htotals.counter, ← List.sum_toFinset _ horder.nodup, heverybody]

end Runs

/-! ## Two handlers at once -/

namespace Scenario

/-- Two reports about the only key. -/
def reports (second : Bool) : TrafficMessage :=
  { subject := "traffic.users"
    msgId := some (if second then "m2" else "m1")
    items := [clientItem] }

def bothReports : System engine SubscriptionError Bool :=
  consumers (access false) reports fun _ => (point (access false)).session

end Scenario

open Scenario in
/-- Both handlers read the counter before either writes it. The keys stay in force and both
handlers commit, but ten of the twenty bytes are lost. -/
theorem traffic_totals_lose_update : ∑ i, (access false).reported (.key 30) (reports i).items = 20 ∧
      (access false).counter? (.key 30) = some 0 ∧
      ∃ past later, System.Follows (fun _ s event => StaysInForce reports
          (fun _ => (point (access false)).session) s event) bothReports past later ∧
        ((later.committed? false).isSome ∧ (later.committed? true).isSome) ∧
        later.db.state.counter? (.key 30) = some 10 := by
  refine ⟨by decide +kernel, by decide +kernel, ?_⟩
  obtain ⟨past, later, hfollows, hend⟩ := exists_follows_of_follow
    (fun _ s event => StaysInForce reports (fun _ => (point (access false)).session) s event)
    bothReports (List.replicate 4 (.step false) ++ List.replicate 4 (.step true) ++
      List.replicate 5 (.step false) ++ List.replicate 5 (.step true))
    (fun s => ((s.committed? false).isSome ∧ (s.committed? true).isSome) ∧
      s.db.state.counter? (.key 30) = some 10) (by decide +kernel)
  exact ⟨past, later, hfollows, of_decide_eq_true hend⟩

open Scenario in
/-- One handler after the other. -/
theorem traffic_totals_of_apart_bothReports : ∃ later : System engine SubscriptionError Bool,
      later.db.state.counter? (.key 30) =
        some (0 + ∑ i, (access false).reported (.key 30) (reports i).items) := by
  obtain ⟨past, later, hfollows, hend⟩ := exists_follows_of_follow
    (fun past s event => HandledApart (access false) reports past s event ∧
      StaysInForce reports (fun _ => (point (access false)).session) s event)
    bothReports (List.replicate 9 (.step false) ++ List.replicate 9 (.step true))
    (fun s => (s.committed? false).isSome ∧ (s.committed? true).isSome) (by decide +kernel)
  obtain ⟨hfirst, hsecond⟩ := of_decide_eq_true hend
  refine ⟨later, traffic_totals_of_apart (by decide) (by decide +kernel) ?_ (by decide +kernel)
    hfollows ?_ (by decide +kernel)⟩
  · rintro i row -
    rfl
  · intro i
    have hcommitted : (later.committed? i).isSome := by cases i <;> assumption
    obtain ⟨t, ht⟩ := Option.isSome_iff_exists.mp hcommitted
    exact ⟨t, txs_of_committed? ht⟩

end VpnControl.Vpn

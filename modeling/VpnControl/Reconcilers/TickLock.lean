/-
# The tick lock of the reconcilers

Each reconciler runs its tick inside a `hold()` block of a lock in Redis. The block sets the key
with `SET NX EX` and deletes it when it is left. The value that is stored is always `"1"`, and
the delete does not look at it. So a block that outlasts the time to live of its key may delete
the key of the next holder, and a third process then gets in beside that one.

Any number of processes enter and leave blocks of any locks here, and time passes in between. A
process that dies is one that never leaves its block. Which acquisition has set a key is not
recorded in Redis; the model keeps it beside the store.
-/

import Mathlib.Logic.Function.Basic
import VpnControl.Redis.Store
import VpnControl.Txn.Guarded

namespace VpnControl.Reconcilers

open Redis Txn

/-- `RedisTickLock`. Redis accepts positive times to live only. -/
structure RedisTickLock (K : Type) where
  key : K
  ttlSec : ℤ
  failOpenIfClientUnavailable : Bool := false
  ttlSec_pos : 0 < ttlSec := by decide

/-- What the body of a `hold()` block has been given. -/
inductive Hold (K : Type)
  /-- `yield True` without a client. -/
  | unguarded
  /-- `yield False`. -/
  | refused
  /-- `yield True` after the key was set. -/
  | acquired (lock : RedisTickLock K) (acquisition : ℕ) (since : ℤ)

/-- How a command to Redis ends. When the call raises, the command may have been carried out all
the same. -/
inductive Answer
  | received
  | raised (carriedOut : Bool)

def Answer.carriedOut : Answer → Bool
  | received => true
  | raised carriedOut => carriedOut

/-- Redis, its clock, and the processes that are in a `hold()` block. -/
structure Locks (K P : Type) where
  now : ℤ
  store : Store K String
  holding : P → Option (Hold K)
  /-- The acquisition that has set a key, and how many there have been. -/
  setBy : K → Option ℕ
  acquisitions : ℕ

inductive LockEvent (K P : Type)
  | pass (seconds : ℕ)
  /-- `__aenter__`; without an answer there is no client. -/
  | enter (process : P) (lock : RedisTickLock K) (answer : Option Answer)
  /-- `__aexit__`. -/
  | leave (process : P) (answer : Answer)

namespace Locks

variable {K P : Type} [DecidableEq K] [DecidableEq P]

variable (w : Locks K P)

variable (process : P)

/-- The process goes on in a block, or outside of one. -/
def goOn (hold : Option (Hold K)) : Locks K P :=
  { w with holding := Function.update w.holding process hold }

/-- `hold()` up to the `yield`. -/
def enter (lock : RedisTickLock K) : Option Answer → Locks K P
  | none =>
    if lock.failOpenIfClientUnavailable then w.goOn process (some .unguarded) else w
  | some answer =>
    let (acquired, store) := w.store.serve w.now (.setNx lock.key lock.ttlSec "1")
    match answer with
    | .raised false => w.goOn process (some .refused)
    | .raised true =>
      { w with
        store
        setBy := if acquired then Function.update w.setBy lock.key none else w.setBy
      }.goOn process (some .refused)
    | .received =>
      if acquired then
        { w with
          store
          setBy := Function.update w.setBy lock.key (some w.acquisitions)
          acquisitions := w.acquisitions + 1
        }.goOn process (some (.acquired lock w.acquisitions w.now))
      else w.goOn process (some .refused)

/-- `hold()` after the `yield`. -/
def leave (answer : Answer) : Option (Locks K P) :=
  match w.holding process with
  | none => none
  | some (.acquired lock _ _) =>
    if answer.carriedOut then
      some ({ w with store := (w.store.serve w.now (.delete [lock.key])).2 }.goOn process none)
    else some (w.goOn process none)
  | some _ => some (w.goOn process none)

def step : LockEvent K P → Option (Locks K P)
  | .pass seconds => some { w with now := w.now + seconds }
  | .enter process lock answer =>
    if (w.holding process).isSome then none else some (w.enter process lock answer)
  | .leave process answer => w.leave process answer

/-! ## Mutual exclusion -/

/-- The process has acquired the lock of a key within the time to live and has not released it. -/
def Holds (key : K) : Prop :=
  ∃ lock acquisition since, w.holding process = some (.acquired lock acquisition since) ∧
    lock.key = key ∧ w.now < since + lock.ttlSec

/-- At most one process holds a key. -/
def Exclusive : Prop :=
  ∀ key first second, w.Holds first key → w.Holds second key → first = second

/-- When the event takes a process out of its block and a key away that is set, then the process
has set it on entering the block. -/
def DeletesOwn (event : LockEvent K P) (after : Locks K P) : Prop :=
  ∀ process answer key, event = .leave process answer → w.store.find? w.now key ≠ none →
    after.store.find? after.now key = none →
    ∃ lock acquisition since, w.holding process = some (.acquired lock acquisition since) ∧
      lock.key = key ∧ w.setBy key = some acquisition

/-- Blocks are left before the time to live is over. -/
def Timely : LockEvent K P → Prop
  | .leave process _ => ∀ lock acquisition since,
      w.holding process = some (.acquired lock acquisition since) → w.now < since + lock.ttlSec
  | _ => True

/-- The key of every process that holds one is in the store, as this process has set it. -/
structure Owned (w : Locks K P) : Prop where
  stored : ∀ process lock acquisition since,
    w.holding process = some (.acquired lock acquisition since) → w.now < since + lock.ttlSec →
      w.store lock.key = some ⟨.blob "1", some (since + lock.ttlSec)⟩ ∧
      w.setBy lock.key = some acquisition
  counted : ∀ process lock acquisition since,
    w.holding process = some (.acquired lock acquisition since) → acquisition < w.acquisitions
  distinct : ∀ first second lock lock' acquisition since since',
    w.holding first = some (.acquired lock acquisition since) →
    w.holding second = some (.acquired lock' acquisition since') → first = second

variable {w after : Locks K P} {process : P} {lock : RedisTickLock K} {answer : Answer}
  {event : LockEvent K P}

omit [DecidableEq K] in
/-- A process that goes on without having acquired a lock; the others are as before. -/
theorem holding_of_goOn
    (hhold : ∀ lock acquisition since, hold ≠ some (.acquired lock acquisition since))
    (h : (w.goOn process hold).holding other = some (.acquired lock acquisition since)) :
    w.holding other = some (.acquired lock acquisition since) ∧ other ≠ process := by
  by_cases hother : other = process
  · subst hother
    exact absurd (by simpa [goOn] using h) (hhold lock acquisition since)
  · exact ⟨by simpa [goOn, hother] using h, hother⟩

omit [DecidableEq K] in
/-- A lock that is held after an acquisition is the new one, or was held before. -/
theorem holding_of_acquire (h : (w.goOn process (some (.acquired lock number time))).holding other =
      some (.acquired held acquisition since)) :
    (other = process ∧ lock = held ∧ number = acquisition ∧ time = since) ∨
      w.holding other = some (.acquired held acquisition since) := by
  by_cases hother : other = process
  · subst hother
    exact .inl ⟨rfl, by simpa [goOn] using h⟩
  · exact .inr (by simpa [goOn, hother] using h)

section

variable (hw : w.Owned)

include hw

variable {acquisition : ℕ} {since : ℤ}

omit [DecidableEq K] [DecidableEq P] in
/-- What is stored under a held key is live. -/
theorem Owned.find? (hhold : w.holding process = some (.acquired lock acquisition since))
    (hnow : w.now < since + lock.ttlSec) : (w.store.find? w.now lock.key).isSome = true := by
  rw [Store.find?, (hw.stored process lock acquisition since hhold hnow).1]
  simp [hnow]

/-- A step that acquires nothing keeps the ownership, provided that it leaves the held keys of
the other processes alone. -/
theorem Owned.release {store : Store K String}
    {setBy : K → Option ℕ}
    (hhold : ∀ lock acquisition since, hold ≠ some (.acquired lock acquisition since))
    (hkeep : ∀ other lock acquisition since, other ≠ process →
      w.holding other = some (.acquired lock acquisition since) → w.now < since + lock.ttlSec →
      store lock.key = w.store lock.key ∧ setBy lock.key = w.setBy lock.key) :
    ({ w with store, setBy }.goOn process hold).Owned where
  stored other lock acquisition since h hnow := by
    obtain ⟨hother, hne⟩ := holding_of_goOn hhold h
    obtain ⟨hstore, hset⟩ := hkeep other lock acquisition since hne hother hnow
    exact (hw.stored other lock acquisition since hother hnow).imp hstore.trans hset.trans
  counted other lock acquisition since h :=
    hw.counted other lock acquisition since (holding_of_goOn hhold h).1
  distinct first second lock lock' acquisition since since' hfirst hsecond :=
    hw.distinct first second lock lock' acquisition since since' (holding_of_goOn hhold hfirst).1
      (holding_of_goOn hhold hsecond).1

/-- `SET NX` on a free key leaves the held keys alone, as these are not free. -/
theorem Owned.ne_of_free (hfree : (w.store.find? w.now lock.key).isSome = false)
    (hhold : w.holding other = some (.acquired held acquisition since))
    (hnow : w.now < since + held.ttlSec) : held.key ≠ lock.key := by
  intro heq
  have hlive := hw.find? hhold hnow
  rw [heq, hfree] at hlive
  exact Bool.false_ne_true hlive

theorem Owned.acquire (process : P) (hfree : (w.store.find? w.now lock.key).isSome = false) :
    ({ w with
        store := w.store.put lock.key ⟨.blob "1", some (w.now + lock.ttlSec)⟩
        setBy := Function.update w.setBy lock.key (some w.acquisitions)
        acquisitions := w.acquisitions + 1
      }.goOn process (some (.acquired lock w.acquisitions w.now))).Owned where
  stored other held acquisition since h hnow := by
    rcases holding_of_acquire h with ⟨rfl, rfl, rfl, rfl⟩ | hheld
    · simp [goOn, Store.put]
    · have hne := hw.ne_of_free hfree hheld hnow
      simpa [goOn, Store.put, hne] using hw.stored other held acquisition since hheld hnow
  counted other held acquisition since h := by
    rcases holding_of_acquire h with ⟨-, -, rfl, -⟩ | hheld
    · exact Nat.lt_succ_self _
    · exact Nat.lt_succ_of_lt (hw.counted other held acquisition since hheld)
  distinct first second held held' acquisition since since' hfirst hsecond := by
    -- the new acquisition has a number of its own
    rcases holding_of_acquire hfirst with ⟨rfl, -, rfl, -⟩ | hheld <;>
      rcases holding_of_acquire hsecond with ⟨hsame, -, hnumber, -⟩ | hheld'
    · exact hsame.symm
    · exact absurd rfl (hw.counted _ _ _ _ hheld').ne
    · exact absurd hnumber (hw.counted _ _ _ _ hheld).ne'
    · exact hw.distinct _ _ _ _ _ _ _ hheld hheld'

theorem Owned.enter (answer : Option Answer) : (w.enter process lock answer).Owned := by
  cases answer with
  | none =>
    simp only [Locks.enter]
    split
    · exact hw.release (by simp) fun _ _ _ _ _ _ _ => ⟨rfl, rfl⟩
    · exact hw
  | some answer =>
    cases hfree : (w.store.find? w.now lock.key).isSome with
    | true =>
      have hrefused : (w.goOn process (some .refused)).Owned :=
        hw.release (by simp) fun _ _ _ _ _ _ _ => ⟨rfl, rfl⟩
      cases answer with
      | received => simpa [Locks.enter, Store.serve, hfree] using hrefused
      | raised carriedOut =>
        cases carriedOut <;> simpa [Locks.enter, Store.serve, hfree] using hrefused
    | false =>
      cases answer with
      | received =>
        simpa [Locks.enter, Store.serve, hfree] using hw.acquire process hfree
      | raised carriedOut =>
        cases carriedOut with
        | false =>
          simp only [Locks.enter]
          exact hw.release (by simp) fun _ _ _ _ _ _ _ => ⟨rfl, rfl⟩
        | true =>
          simp only [Locks.enter, Store.serve, hfree]
          refine hw.release (by simp) fun other held acquisition since _ hheld hnow => ?_
          have hne := hw.ne_of_free hfree hheld hnow
          simp [Store.put, hne]

/-- A process that leaves in time deletes its own key, and nobody else holds that one. -/
theorem Owned.leave (htimely : w.Timely (.leave process answer))
    (h : w.leave process answer = some after) : after.Owned := by
  unfold Locks.leave at h
  split at h
  · cases h
  · rename_i lock acquisition since hhold
    have hnow := htimely lock acquisition since hhold
    obtain ⟨-, hset⟩ := hw.stored process lock acquisition since hhold hnow
    split at h
    · cases h
      refine hw.release (by simp) fun other held acquisition' since' hne hheld hnow' => ?_
      have hkey : held.key ≠ lock.key := by
        intro heq
        obtain ⟨-, hset'⟩ := hw.stored other held acquisition' since' hheld hnow'
        rw [heq, hset, Option.some.injEq] at hset'
        subst hset'
        exact hne (hw.distinct other process held lock acquisition since' since hheld hhold)
      simp [Store.serve, hkey]
    · cases h
      exact hw.release (by simp) fun _ _ _ _ _ _ _ => ⟨rfl, rfl⟩
  · cases h
    exact hw.release (by simp) fun _ _ _ _ _ _ _ => ⟨rfl, rfl⟩

theorem Owned.step (htimely : w.Timely event) (h : w.step event = some after) : after.Owned := by
  cases event with
  | pass seconds =>
    cases h
    refine ⟨fun process lock acquisition since hhold hnow => ?_, hw.counted, hw.distinct⟩
    have hearlier : w.now < since + lock.ttlSec := by
      have : (0 : ℤ) ≤ seconds := Int.natCast_nonneg seconds
      simp only at hnow
      omega
    exact hw.stored process lock acquisition since hhold hearlier
  | enter _ _ answer =>
    simp only [Locks.step] at h
    split at h
    · cases h
    · cases h
      exact hw.enter answer
  | leave => exact hw.leave htimely h

end

omit [DecidableEq K] [DecidableEq P] in
theorem Owned.exclusive (hw : w.Owned) : w.Exclusive := by
  rintro key first second ⟨lock, acquisition, since, hfirst, hkey, hnow⟩
    ⟨lock', acquisition', since', hsecond, hkey', hnow'⟩
  obtain ⟨-, hset⟩ := hw.stored first lock acquisition since hfirst hnow
  obtain ⟨-, hset'⟩ := hw.stored second lock' acquisition' since' hsecond hnow'
  rw [hkey] at hset
  rw [hkey', hset, Option.some.injEq] at hset'
  subst hset'
  exact hw.distinct first second lock lock' acquisition since since' hfirst hsecond

/-- Leaving deletes no key but that of the block's lock. -/
theorem exists_of_deleted (h : w.leave process answer = some after)
    (hbefore : w.store.find? w.now key ≠ none) (hafter : after.store.find? after.now key = none) :
    ∃ lock acquisition since, w.holding process = some (.acquired lock acquisition since) ∧
      lock.key = key := by
  unfold leave at h
  split at h
  · cases h
  · rename_i lock acquisition since hhold
    refine ⟨lock, acquisition, since, hhold, ?_⟩
    by_contra hkey
    split at h
    · cases h
      have hsame : (w.store.serve w.now (.delete [lock.key])).2 key = w.store key :=
        Store.serve_of_notMem (by simpa [Command.writes] using Ne.symm hkey)
      exact hbefore ((Store.find?_congr hsame).symm.trans hafter)
    · cases h
      exact hbefore hafter
  · cases h
    exact absurd hafter hbefore

theorem Owned.deletesOwn (hw : w.Owned) (htimely : w.Timely event)
    (h : w.step event = some after) : w.DeletesOwn event after := by
  rintro process answer key rfl hbefore hafter
  obtain ⟨lock, acquisition, since, hhold, rfl⟩ := exists_of_deleted h hbefore hafter
  exact ⟨lock, acquisition, since, hhold, rfl,
    (hw.stored process lock acquisition since hhold (htimely lock acquisition since hhold)).2⟩

/-- As long as every block is left within the time to live of its key, a process deletes the key
only where it has set it itself, and no two processes hold a key at a time. -/
theorem exclusive_of_timely {start : Locks K P} (hstart : ∀ process, start.holding process = none)
    (hrun : Guarded step Timely start w) :
    w.Exclusive ∧
      ∀ event after, w.Timely event → w.step event = some after → w.DeletesOwn event after := by
  have howned : w.Owned := by
    refine hrun.invariant ⟨?_, ?_, ?_⟩ fun s event t hs hok hstep => hs.step hok hstep
    all_goals intros; simp_all
  exact ⟨howned.exclusive, fun event after htimely h => howned.deletesOwn htimely h⟩

/-- Nobody is in a block and nothing is stored. -/
def idle : Locks String ℕ := ⟨0, .empty, fun _ => none, fun _ => none, 0⟩

def outboxLock : RedisTickLock String := { key := "reconciler:outbox", ttlSec := 60 }

theorem exclusive_of_timely_outboxLock :
    ∃ w, Guarded step Timely idle w ∧ w.Holds 1 "reconciler:outbox" ∧ w.Exclusive ∧
      ∀ event after, w.Timely event → w.step event = some after → w.DeletesOwn event after := by
  -- the first process leaves after 59 seconds, the second one enters
  let first := idle.enter 0 outboxLock (some .received)
  let late := { first with now := 59 }
  let left := ({ late with store := (late.store.serve 59 (.delete ["reconciler:outbox"])).2 } :
    Locks String ℕ).goOn 0 none
  have hfirst : Guarded step Timely idle first :=
    Guarded.start.next (.enter 0 outboxLock (some .received)) trivial rfl
  have hlate : Guarded step Timely idle late := hfirst.next (.pass 59) trivial rfl
  have hleft : Guarded step Timely idle left := by
    refine hlate.next (.leave 0 .received) ?_ rfl
    intro lock acquisition since hhold
    have hlock : Hold.acquired outboxLock 0 0 = .acquired lock acquisition since :=
      Option.some.inj hhold
    cases hlock
    decide
  have hrun : Guarded step Timely idle (left.enter 1 outboxLock (some .received)) :=
    hleft.next (.enter 1 outboxLock (some .received)) trivial rfl
  exact ⟨_, hrun, ⟨outboxLock, 1, 59, rfl, rfl, by decide⟩, exclusive_of_timely (fun _ => rfl) hrun⟩

/-- The first holder outlasts its key and the second one enters. -/
def overlong : List (LockEvent String ℕ) :=
  [.enter 0 outboxLock (some .received), .pass 61, .enter 1 outboxLock (some .received)]

/-- Then the first holder leaves and deletes the key of the second one, and a third process enters
beside the second. -/
theorem not_exclusive_overlong : ∃ two one both, Guarded step (fun _ _ => True) idle two ∧
      two.step (.leave 0 .received) = some one ∧
      one.step (.enter 2 outboxLock (some .received)) = some both ∧
      ¬ two.DeletesOwn (.leave 0 .received) one ∧ ¬ both.Exclusive := by
  refine ⟨_, _, _, Guarded.of_foldlM overlong rfl, rfl, rfl, ?_, ?_⟩
  · intro hown
    obtain ⟨lock, acquisition, since, hhold, -, hset⟩ :=
      hown 0 .received "reconciler:outbox" rfl nofun rfl
    cases Option.some.inj hhold
    cases Option.some.inj hset
  · intro hexclusive
    have hsame := hexclusive "reconciler:outbox" 1 2 ⟨outboxLock, 1, 61, rfl, rfl, by decide⟩
      ⟨outboxLock, 2, 61, rfl, rfl, by decide⟩
    exact absurd hsame (by decide)

end Locks

end VpnControl.Reconcilers

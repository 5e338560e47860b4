/-
# Broadcasts

A broadcast goes to the users of its audience, one message for each on a JetStream subject. It is
sent by the request that creates it, or by the scheduler. A worker of the scheduler picks the
broadcasts that are due and claims one after the other with an `UPDATE` that checks the status
again. A broadcast whose status has been `sending` for five minutes can be claimed once more, and
so can one of which no message was acknowledged.

JetStream drops a message whose id it has seen. The ids are drawn anew for every message of every
attempt, so it never has. Two attempts for one broadcast therefore reach a user twice.
-/

import Mathlib.Data.List.Sort
import VpnControl.Billing.Model
import VpnControl.Txn.Guarded

namespace VpnControl.Support

open Txn
open Billing (Uuid Time seconds)
open Table

/-! ## Rows -/

inductive BroadcastStatus
  | draft
  | scheduled
  | sending
  | sent
  | failed
  | cancelled
  deriving DecidableEq

structure Broadcast where
  id : Uuid
  status : BroadcastStatus
  scheduledAt : Option Time := none
  sentAt : Option Time := none
  delivered : ℕ := 0
  errors : ℕ := 0
  targetCount : ℕ := 0
  attempts : ℕ := 0
  updatedAt : Time

instance : Row Broadcast Uuid := ⟨Broadcast.id⟩

structure User where
  id : Uuid
  telegramId : ℤ

instance : Row User Uuid := ⟨User.id⟩

/-- A message on the outbound subject, with the user it is for. The payload names the user by the
Telegram id alone. -/
structure OutboundMessage where
  ticketId : Uuid
  messageId : Uuid
  telegramId : ℤ
  userId : Uuid

def maxBroadcastDispatchAttempts : ℕ := 5

def broadcastRetryBackoffSec : ℕ := 120

def broadcastSendingStaleSec : ℤ := 300

namespace Broadcast

variable (b : Broadcast)

/-- The condition of `pick_due_scheduled`. -/
def Due (now staleBefore : Time) : Prop :=
  (b.status = .scheduled ∧ b.scheduledAt.any (· ≤ now) = true) ∨
    (b.status = .sending ∧ b.updatedAt < staleBefore)

instance (b : Broadcast) (now staleBefore : Time) : Decidable (b.Due now staleBefore) :=
  inferInstanceAs (Decidable (_ ∨ _))

/-- The condition of `claim_for_send`. -/
def Claimable (now staleBefore : Time) : Prop :=
  (b.status = .scheduled ∧ b.scheduledAt.all (· ≤ now) = true) ∨
    (b.status = .sending ∧ b.updatedAt < staleBefore)

instance (b : Broadcast) (now staleBefore : Time) : Decidable (b.Claimable now staleBefore) :=
  inferInstanceAs (Decidable (_ ∨ _))

/-- `ORDER BY scheduled_at ASC NULLS FIRST`. -/
def notAfter (a b : Broadcast) : Prop :=
  a.scheduledAt.all (fun first => b.scheduledAt.any (first ≤ ·)) = true

instance : DecidableRel notAfter := fun _ _ => inferInstanceAs (Decidable (_ = true))

variable (now : Time)

/-- What `claim_for_send` sets. -/
def claim : Broadcast :=
  { b with status := .sending, updatedAt := now }

/-- What `mark_sent` sets; `updated_at` follows every update. -/
def markSent (delivered errors : ℕ) (now : Time) : Broadcast :=
  { b with status := .sent, delivered, errors, sentAt := some now, updatedAt := now }

/-- What `reschedule_for_retry` sets. -/
def rescheduleForRetry (nextAt : Time) (attempts : ℕ) (now : Time) : Broadcast :=
  { b with status := .scheduled, scheduledAt := some nextAt, attempts, updatedAt := now }

/-- What `mark_failed` sets. -/
def markFailed : Broadcast :=
  { b with status := .failed, updatedAt := now }

/-- What `cancel_scheduled` sets. -/
def cancelScheduled : Broadcast :=
  if b.status = .scheduled then { b with status := .cancelled, updatedAt := now } else b

/-- `_retry_or_fail`, for the row as it was when it was claimed. -/
def retryOrFail (b claimed : Broadcast) (now : Time) : Broadcast :=
  let attempts := claimed.attempts + 1
  if attempts < maxBroadcastDispatchAttempts then
    b.rescheduleForRetry (now + seconds (broadcastRetryBackoffSec * attempts)) attempts now
  else b.markFailed now

theorem id_cancelScheduled : (b.cancelScheduled now).id = b.id := by
  unfold cancelScheduled
  split <;> rfl

theorem id_retryOrFail (b claimed : Broadcast) (now : Time) :
    (b.retryOrFail claimed now).id = b.id := by
  simp only [retryOrFail]
  split <;> rfl

end Broadcast

/-! ## Workers -/

/-- A fan-out in progress. -/
structure Attempt where
  broadcast : Uuid
  /-- The row that `send_scheduled_broadcast` has claimed; there is none when the broadcast is sent
  by the request that creates it. -/
  claimed : Option Broadcast
  targetIds : List Uuid
  /-- The users for whom nothing has been published yet. -/
  remaining : List User
  delivered : ℕ := 0

/-- A request, or a process of the scheduler with the broadcasts it has picked. -/
structure Worker where
  picked : List Uuid := []
  attempt : Option Attempt := none

/-- How a publication ends. When it raises, the message may have been stored all the same. -/
inductive Acknowledgement
  | received
  | raised (stored : Bool)

structure Dispatch (W : Type) where
  now : Time
  /-- `uuid4()` gives this value next. -/
  nextUuid : Uuid
  users : Table User
  broadcasts : Table Broadcast
  workers : W → Worker
  /-- What JetStream has stored. -/
  stream : List OutboundMessage

inductive DispatchEvent (W : Type)
  | pass (duration : ℕ)
  | changeUsers (users : Table User)
  /-- `create_broadcast` for an audience of these users. -/
  | create (worker : W) (status : BroadcastStatus) (scheduledAt : Option Time)
      (targetIds : List Uuid) (connected : Bool)
  | cancel (broadcast : Uuid)
  /-- A tick of the scheduler begins. -/
  | pick (worker : W) (limit : ℕ)
  /-- `send_scheduled_broadcast` for the next broadcast of the tick, up to the fan-out. -/
  | claim (worker : W) (targetIds : List Uuid) (connected : Bool)
  | publish (worker : W) (user : Uuid) (acknowledgement : Acknowledgement)
  /-- The fan-out is over. -/
  | finish (worker : W)
  /-- Something raises. -/
  | fail (worker : W)
  | crash (worker : W)

namespace Dispatch

variable {W : Type} [DecidableEq W]

variable (s : Dispatch W)

variable (worker : W)

def setWorker (next : Worker) : Dispatch W :=
  { s with workers := Function.update s.workers worker next }

def staleBefore : Time := s.now - seconds broadcastSendingStaleSec

variable (broadcast : Uuid)

/-- Change the row of a broadcast. -/
def update (f : Broadcast → Broadcast)
    (hf : ∀ b, (f b).id = b.id) : Dispatch W :=
  { s with broadcasts := s.broadcasts.modify broadcast f hf }

/-- The users that `_fan_out_broadcast` publishes a message for. -/
def targets (targetIds : List Uuid) (connected : Bool) : List User :=
  if connected then
    s.users.rows.filter fun user => user.id ∈ targetIds ∧ user.telegramId ≠ 0
  else []

def begin (picked : List Uuid) (broadcast : Uuid)
    (claimed : Option Broadcast) (targetIds : List Uuid) (connected : Bool) : Dispatch W :=
  s.setWorker worker { picked, attempt := some {
    broadcast, claimed, targetIds, remaining := s.targets targetIds connected } }

/-- `create_broadcast`. -/
def createBroadcast (status : BroadcastStatus)
    (scheduledAt : Option Time) (targetIds : List Uuid) (connected : Bool) : Dispatch W :=
  let created := { s with
    nextUuid := s.nextUuid + 1
    broadcasts := s.broadcasts.insert {
      id := s.nextUuid, status, scheduledAt, targetCount := targetIds.length, updatedAt := s.now } }
  if status = .sending ∧ targetIds ≠ [] then
    created.begin worker [] s.nextUuid none targetIds connected
  else created

/-- `pick_due_scheduled`. -/
def pickDueScheduled (limit : ℕ) : List Broadcast :=
  ((s.broadcasts.rows.filter fun b => b.Due s.now s.staleBefore).insertionSort
    Broadcast.notAfter).take limit

/-- `claim_for_send`. -/
def claimForSend : Option Broadcast :=
  ((s.broadcasts.find? broadcast).filter fun b => b.Claimable s.now s.staleBefore).map
    (·.claim s.now)

/-- `send_scheduled_broadcast` up to the fan-out. -/
def sendScheduledBroadcast (rest : List Uuid)
    (targetIds : List Uuid) (connected : Bool) : Dispatch W :=
  match s.claimForSend broadcast with
  | none => s.setWorker worker { picked := rest }
  | some claimed =>
    (s.update broadcast (·.claim s.now) fun _ => rfl).begin worker rest broadcast (some claimed)
      targetIds connected

/-- JetStream drops a message whose id it has seen. -/
def store (message : OutboundMessage) : Dispatch W :=
  if s.stream.any (·.messageId = message.messageId) then s
  else { s with stream := s.stream ++ [message] }

/-- One message of `_fan_out_broadcast`, with an id of its own. -/
def publish (picked : List Uuid) (attempt : Attempt) (user : User)
    (acknowledgement : Acknowledgement) : Dispatch W :=
  let message : OutboundMessage := {
    ticketId := attempt.broadcast, messageId := s.nextUuid, telegramId := user.telegramId
    userId := user.id }
  let goOn (delivered : ℕ) : Dispatch W :=
    { s with nextUuid := s.nextUuid + 1 }.setWorker worker { picked, attempt := some { attempt with
      remaining := attempt.remaining.filter (·.id ≠ user.id), delivered } }
  match acknowledgement with
  | .received => (goOn (attempt.delivered + 1)).store message
  | .raised true => (goOn attempt.delivered).store message
  | .raised false => goOn attempt.delivered

/-- What follows the fan-out, in `send_scheduled_broadcast` and in `create_broadcast`. -/
def conclude (attempt : Attempt) : Dispatch W :=
  match attempt.claimed with
  | some claimed =>
    if attempt.targetIds ≠ [] ∧ attempt.delivered = 0 then
      s.update attempt.broadcast (·.retryOrFail claimed s.now) fun b => b.id_retryOrFail claimed s.now
    else
      s.update attempt.broadcast (·.markSent attempt.delivered
        (attempt.targetIds.length - attempt.delivered) s.now) fun _ => rfl
  | none =>
    s.update attempt.broadcast (fun b => { b with
      status := .sent, delivered := attempt.delivered, sentAt := some s.now
      updatedAt := s.now }) fun _ => rfl

/-- The handler of `send_scheduled_broadcast`. The request that creates a broadcast has none. -/
def handle (attempt : Attempt) : Dispatch W :=
  match attempt.claimed with
  | some claimed =>
    s.update attempt.broadcast (·.retryOrFail claimed s.now) fun b => b.id_retryOrFail claimed s.now
  | none => s

def step : DispatchEvent W → Option (Dispatch W)
  | .pass duration => some { s with now := s.now + duration }
  | .changeUsers users => some { s with users }
  | .create worker status scheduledAt targetIds connected =>
    match s.workers worker with
    | { picked := [], attempt := none } =>
      some (s.createBroadcast worker status scheduledAt targetIds connected)
    | _ => none
  | .cancel broadcast =>
    some (s.update broadcast (·.cancelScheduled s.now) fun b => b.id_cancelScheduled s.now)
  | .pick worker limit =>
    match s.workers worker with
    | { picked := [], attempt := none } =>
      some (s.setWorker worker { picked := (s.pickDueScheduled limit).map Broadcast.id })
    | _ => none
  | .claim worker targetIds connected =>
    match s.workers worker with
    | { picked := broadcast :: rest, attempt := none } =>
      some (s.sendScheduledBroadcast worker broadcast rest targetIds connected)
    | _ => none
  | .publish worker user acknowledgement =>
    match s.workers worker with
    | { picked, attempt := some attempt } =>
      (attempt.remaining.find? (·.id = user)).map fun user =>
        s.publish worker picked attempt user acknowledgement
    | _ => none
  | .finish worker =>
    match s.workers worker with
    | { picked, attempt := some attempt } =>
      if attempt.remaining = [] then
        some ((s.conclude attempt).setWorker worker { picked })
      else none
    | _ => none
  | .fail worker =>
    match s.workers worker with
    | { picked, attempt := some attempt } => some ((s.handle attempt).setWorker worker { picked })
    | _ => none
  | .crash worker => some (s.setWorker worker {})

/-! ## At most one message for a user -/

/-- No user has got two messages of a broadcast. -/
def AtMostOnce : Prop :=
  ∀ broadcast user,
    s.stream.countP (fun message => message.ticketId = broadcast ∧ message.userId = user) ≤ 1

/-- A broadcast is claimed only if none of its messages has been stored and no other attempt for
it is open. -/
def FirstClaim : DispatchEvent W → Prop
  | .claim worker _ _ => ∀ broadcast, (s.workers worker).picked.head? = some broadcast →
      (s.broadcasts.find? broadcast).any (fun b => b.Claimable s.now s.staleBefore) = true →
      (∀ message ∈ s.stream, message.ticketId ≠ broadcast) ∧
      ∀ other attempt, (s.workers other).attempt = some attempt → attempt.broadcast ≠ broadcast
  | _ => True

/-- No attempt is open, nothing has been stored, and no broadcast has an id that is still to be
drawn. -/
structure Initial (s : Dispatch W) : Prop where
  attempt : ∀ worker, (s.workers worker).attempt = none
  stream : s.stream = []
  drawn : ∀ b ∈ s.broadcasts.rows, b.id < s.nextUuid

/-- What the open attempts have still to publish has not been stored, and no two of them are for
the same broadcast. -/
structure Once (s : Dispatch W) : Prop where
  row : ∀ b ∈ s.broadcasts.rows, b.id < s.nextUuid
  message : ∀ message ∈ s.stream, message.ticketId < s.nextUuid ∧ message.messageId < s.nextUuid
  broadcast : ∀ worker attempt, (s.workers worker).attempt = some attempt →
    attempt.broadcast < s.nextUuid
  apart : ∀ first second attempt attempt', (s.workers first).attempt = some attempt →
    (s.workers second).attempt = some attempt' → attempt.broadcast = attempt'.broadcast →
    first = second
  pending : ∀ worker attempt, (s.workers worker).attempt = some attempt →
    ∀ user ∈ attempt.remaining, ∀ message ∈ s.stream,
      ¬ (message.ticketId = attempt.broadcast ∧ message.userId = user.id)
  once : s.AtMostOnce

variable {s t : Dispatch W} {worker : W} {event : DispatchEvent W} {broadcast : Uuid}

omit [DecidableEq W] in
/-- A step that stores nothing and opens no attempt. -/
theorem Once.mono (hs : s.Once) (hstream : t.stream = s.stream) (hdrawn : s.nextUuid ≤ t.nextUuid)
    (hrow : ∀ b ∈ t.broadcasts.rows, ∃ a ∈ s.broadcasts.rows, a.id = b.id)
    (hopen : ∀ worker new, (t.workers worker).attempt = some new →
      ∃ old, (s.workers worker).attempt = some old ∧ new.broadcast = old.broadcast ∧
        new.remaining ⊆ old.remaining) : t.Once where
  row b hb := by
    obtain ⟨a, ha, hid⟩ := hrow b hb
    exact hid ▸ (hs.row a ha).trans_le hdrawn
  message message hmessage := by
    obtain ⟨hticket, hid⟩ := hs.message message (hstream ▸ hmessage)
    exact ⟨hticket.trans_le hdrawn, hid.trans_le hdrawn⟩
  broadcast worker new h := by
    obtain ⟨old, hold, hsame, -⟩ := hopen worker new h
    exact hsame ▸ (hs.broadcast worker old hold).trans_le hdrawn
  apart first second new new' h h' heq := by
    obtain ⟨old, hold, hsame, -⟩ := hopen first new h
    obtain ⟨old', hold', hsame', -⟩ := hopen second new' h'
    exact hs.apart first second old old' hold hold' (hsame ▸ hsame' ▸ heq)
  pending worker new h user huser message hmessage := by
    obtain ⟨old, hold, hsame, hsub⟩ := hopen worker new h
    exact hsame ▸ hs.pending worker old hold user (hsub huser) message (hstream ▸ hmessage)
  once := by
    unfold AtMostOnce
    rw [hstream]
    exact hs.once

omit [DecidableEq W] in
/-- A step that leaves the workers alone, too. -/
theorem Once.idle (hs : s.Once) (hstream : t.stream = s.stream) (hdrawn : s.nextUuid ≤ t.nextUuid)
    (hrow : ∀ b ∈ t.broadcasts.rows, ∃ a ∈ s.broadcasts.rows, a.id = b.id)
    (hworkers : t.workers = s.workers) : t.Once :=
  hs.mono hstream hdrawn hrow fun _ new h => ⟨new, hworkers ▸ h, rfl, List.Subset.refl _⟩

omit [DecidableEq W] in
theorem Once.update (hs : s.Once) (broadcast : Uuid) (f : Broadcast → Broadcast)
    (hf : ∀ b, (f b).id = b.id) : (s.update broadcast f hf).Once := by
  refine hs.idle rfl le_rfl (fun b hb => ?_) rfl
  obtain ⟨a, ha, rfl⟩ := List.mem_map.mp hb
  refine ⟨a, ha, ?_⟩
  split
  · exact (hf a).symm
  · rfl

/-- A worker goes on with its attempt, or has none. -/
theorem Once.resume (hs : s.Once) (hnext : ∀ new, next.attempt = some new →
      ∃ old, (s.workers worker).attempt = some old ∧ new.broadcast = old.broadcast ∧
        new.remaining ⊆ old.remaining) : (s.setWorker worker next).Once := by
  refine hs.mono rfl le_rfl (fun b hb => ⟨b, hb, rfl⟩) fun other new h => ?_
  by_cases hother : other = worker
  · subst hother
    exact hnext new (by simpa [setWorker] using h)
  · exact ⟨new, by simpa [setWorker, hother] using h, rfl, List.Subset.refl _⟩

theorem Once.close (hs : s.Once) : (s.setWorker worker { picked }).Once := hs.resume nofun

omit [DecidableEq W] in
theorem Once.conclude (hs : s.Once) (attempt : Attempt) : (s.conclude attempt).Once := by
  unfold Dispatch.conclude
  split
  · split <;> exact hs.update _ _ _
  · exact hs.update _ _ _

omit [DecidableEq W] in
theorem Once.handle (hs : s.Once) (attempt : Attempt) : (s.handle attempt).Once := by
  unfold Dispatch.handle
  split
  · exact hs.update _ _ _
  · exact hs

/-- A worker opens an attempt for a broadcast of which nothing is stored and for which no other
attempt is open. -/
theorem Once.begin (hs : s.Once) (hdrawn : broadcast < s.nextUuid)
    (hstored : ∀ message ∈ s.stream, message.ticketId ≠ broadcast)
    (hopen : ∀ other attempt, (s.workers other).attempt = some attempt →
      attempt.broadcast ≠ broadcast)
    (worker : W) (picked : List Uuid) (claimed : Option Broadcast) (targetIds : List Uuid)
    (connected : Bool) :
    (s.begin worker picked broadcast claimed targetIds connected).Once := by
  -- the attempts afterwards are the new one and the others
  have hcases : ∀ other attempt,
      ((s.begin worker picked broadcast claimed targetIds connected).workers other).attempt =
        some attempt →
      (other = worker ∧ attempt.broadcast = broadcast) ∨
        (s.workers other).attempt = some attempt := by
    intro other attempt h
    by_cases hother : other = worker
    · subst hother
      simp only [Dispatch.begin, setWorker, Function.update_self, Option.some.injEq] at h
      exact .inl ⟨rfl, h ▸ rfl⟩
    · exact .inr (by simpa [Dispatch.begin, setWorker, hother] using h)
  refine ⟨hs.row, hs.message, ?_, ?_, ?_, hs.once⟩
  · intro other attempt h
    rcases hcases other attempt h with ⟨-, hnew⟩ | hold
    · exact hnew ▸ hdrawn
    · exact hs.broadcast other attempt hold
  · intro first second attempt attempt' h h' heq
    rcases hcases first attempt h with ⟨rfl, hnew⟩ | hold <;>
      rcases hcases second attempt' h' with ⟨rfl, hnew'⟩ | hold'
    · rfl
    · exact absurd (heq ▸ hnew) (hopen second attempt' hold')
    · exact absurd (heq ▸ hnew') (hopen first attempt hold)
    · exact hs.apart first second attempt attempt' hold hold' heq
  · intro other attempt h user huser message hmessage hfor
    rcases hcases other attempt h with ⟨-, hnew⟩ | hold
    · exact hstored message hmessage (hfor.1.trans hnew)
    · exact hs.pending other attempt hold user huser message hmessage hfor

omit [DecidableEq W] in
/-- Drawing an id changes nothing else. -/
theorem Once.draw (hs : s.Once) : ({ s with nextUuid := s.nextUuid + 1 } : Dispatch W).Once :=
  hs.idle rfl (Nat.le_succ _) (fun b hb => ⟨b, hb, rfl⟩) rfl

theorem Once.createBroadcast (hs : s.Once) (status : BroadcastStatus) (scheduledAt : Option Time)
    (targetIds : List Uuid) (connected : Bool) :
    (s.createBroadcast worker status scheduledAt targetIds connected).Once := by
  let row : Broadcast := {
    id := s.nextUuid, status, scheduledAt, targetCount := targetIds.length, updatedAt := s.now }
  have hcreated : ({ s with nextUuid := s.nextUuid + 1, broadcasts := s.broadcasts.insert row } :
      Dispatch W).Once := by
    refine { hs.draw with row := fun b hb => ?_ }
    rcases mem_rows_insert hb with hold | rfl
    · exact Nat.lt_succ_of_lt (hs.row b hold)
    · exact Nat.lt_succ_self _
  unfold Dispatch.createBroadcast
  split
  · -- the id is new, so no message and no attempt has it
    refine hcreated.begin (Nat.lt_succ_self _) ?_ ?_ worker [] none targetIds connected
    · intro message hmessage
      exact (hs.message message hmessage).1.ne
    · intro other attempt h
      exact (hs.broadcast other attempt h).ne
  · exact hcreated

omit [DecidableEq W] in
/-- A message is stored for a user who has none yet and for whom no other is on the way. -/
theorem Once.store (hs : s.Once) {message : OutboundMessage}
    (hdrawn : message.ticketId < s.nextUuid ∧ message.messageId < s.nextUuid)
    (hfirst : ∀ other ∈ s.stream,
      ¬ (other.ticketId = message.ticketId ∧ other.userId = message.userId))
    (hpending : ∀ worker attempt, (s.workers worker).attempt = some attempt →
      attempt.broadcast = message.ticketId → ∀ user ∈ attempt.remaining, user.id ≠ message.userId) :
    (s.store message).Once := by
  unfold Dispatch.store
  split
  · exact hs
  · refine ⟨hs.row, ?_, hs.broadcast, hs.apart, ?_, ?_⟩
    · intro other hother
      rcases List.mem_append.mp hother with hold | hnew
      · exact hs.message other hold
      · cases List.mem_singleton.mp hnew
        exact hdrawn
    · intro worker attempt h user huser other hother hfor
      rcases List.mem_append.mp hother with hold | hnew
      · exact hs.pending worker attempt h user huser other hold hfor
      · cases List.mem_singleton.mp hnew
        exact hpending worker attempt h hfor.1.symm user huser hfor.2.symm
    · intro broadcast user
      change (s.stream ++ [message]).countP _ ≤ 1
      rw [List.countP_append, List.countP_singleton]
      split
      · rename_i hfor
        obtain ⟨rfl, rfl⟩ := of_decide_eq_true hfor
        have hnone : s.stream.countP (fun other => other.ticketId = message.ticketId ∧
            other.userId = message.userId) = 0 :=
          List.countP_eq_zero.mpr fun other hother hsame =>
            hfirst other hother (of_decide_eq_true hsame)
        rw [hnone]
      · exact hs.once broadcast user

theorem Once.publish (hs : s.Once) (hworker : (s.workers worker).attempt = some attempt)
    (huser : user ∈ attempt.remaining) (acknowledgement : Acknowledgement) :
    (s.publish worker picked attempt user acknowledgement).Once := by
  let going (delivered : ℕ) : Dispatch W :=
    { s with nextUuid := s.nextUuid + 1 }.setWorker worker { picked, attempt := some { attempt with
      remaining := attempt.remaining.filter (·.id ≠ user.id), delivered } }
  have hgoing : ∀ delivered, (going delivered).Once := by
    refine fun delivered => hs.draw.resume fun new hnew => ?_
    cases hnew
    exact ⟨attempt, hworker, rfl, List.filter_sublist.subset⟩
  have hstored : ∀ delivered, ((going delivered).store {
      ticketId := attempt.broadcast, messageId := s.nextUuid, telegramId := user.telegramId
      userId := user.id }).Once := by
    intro delivered
    refine (hgoing delivered).store ⟨?_, Nat.lt_succ_self _⟩ ?_ ?_
    · exact Nat.lt_succ_of_lt (hs.broadcast worker attempt hworker)
    · exact hs.pending worker attempt hworker user huser
    · -- no other attempt is for this broadcast, and this one has taken the user off its list
      intro other new hopen hsame u hu
      by_cases hother : other = worker
      · subst hother
        simp only [going, setWorker, Function.update_self, Option.some.injEq] at hopen
        subst hopen
        exact of_decide_eq_true (List.mem_filter.mp hu).2
      · have hold : (s.workers other).attempt = some new := by
          simpa [going, setWorker, hother] using hopen
        exact absurd (hs.apart other worker new attempt hold hworker hsame) hother
  unfold Dispatch.publish
  split
  · exact hstored _
  · exact hstored _
  · exact hgoing _

theorem Once.sendScheduledBroadcast (hs : s.Once)
    (hfirst : (s.broadcasts.find? broadcast).any (fun b => b.Claimable s.now s.staleBefore) = true →
      (∀ message ∈ s.stream, message.ticketId ≠ broadcast) ∧
      ∀ other attempt, (s.workers other).attempt = some attempt → attempt.broadcast ≠ broadcast)
    (targetIds : List Uuid) (connected : Bool) :
    (s.sendScheduledBroadcast worker broadcast rest targetIds connected).Once := by
  unfold Dispatch.sendScheduledBroadcast
  split
  · exact hs.close
  · rename_i claimed hclaimed
    obtain ⟨b, hb, -⟩ := Option.map_eq_some_iff.mp hclaimed
    obtain ⟨hfound, hclaimable⟩ := Option.filter_eq_some_iff.mp hb
    have hid : b.id = broadcast := key_of_find? hfound
    have hdrawn : broadcast < s.nextUuid := hid ▸ hs.row b (mem_of_find? hfound)
    obtain ⟨hstored, hopen⟩ := hfirst (by rw [hfound]; exact hclaimable)
    exact (hs.update broadcast _ _).begin hdrawn hstored hopen worker rest (some claimed)
      targetIds connected

theorem Once.step (hs : s.Once) (hfirst : s.FirstClaim event) (h : s.step event = some t) :
    t.Once := by
  cases event with
  | pass =>
    cases h
    exact hs.idle rfl le_rfl (fun b hb => ⟨b, hb, rfl⟩) rfl
  | changeUsers =>
    cases h
    exact hs.idle rfl le_rfl (fun b hb => ⟨b, hb, rfl⟩) rfl
  | create _ status scheduledAt targetIds connected =>
    simp only [Dispatch.step] at h
    split at h
    · cases h
      exact hs.createBroadcast status scheduledAt targetIds connected
    · cases h
  | cancel broadcast =>
    cases h
    exact hs.update broadcast _ _
  | pick worker =>
    simp only [Dispatch.step] at h
    split at h
    · cases h
      exact hs.close
    · cases h
  | claim _ targetIds connected =>
    simp only [Dispatch.step] at h
    split at h
    · rename_i broadcast rest hworker
      cases h
      exact hs.sendScheduledBroadcast (hfirst broadcast (by rw [hworker]; rfl)) targetIds connected
    · cases h
  | publish _ _ acknowledgement =>
    simp only [Dispatch.step] at h
    split at h
    · rename_i picked attempt hworker
      obtain ⟨found, hfound, rfl⟩ := Option.map_eq_some_iff.mp h
      exact hs.publish (by rw [hworker]) (List.mem_of_find?_eq_some hfound) acknowledgement
    · cases h
  | finish worker =>
    simp only [Dispatch.step] at h
    split at h
    · split at h
      · cases h
        exact (hs.conclude _).close
      · cases h
    · cases h
  | fail worker =>
    simp only [Dispatch.step] at h
    split at h
    · cases h
      exact (hs.handle _).close
    · cases h
  | crash worker =>
    cases h
    exact hs.close

omit [DecidableEq W] in
theorem Initial.once (h : s.Initial) : s.Once where
  row := h.drawn
  message := by simp [h.stream]
  broadcast worker attempt hopen := by simp [h.attempt worker] at hopen
  apart first second attempt attempt' hopen := by simp [h.attempt first] at hopen
  pending worker attempt hopen := by simp [h.attempt worker] at hopen
  once := by simp [AtMostOnce, h.stream]

/-- When no broadcast is claimed after one of its messages was stored or while an attempt for it
is open, every user gets at most one message of it. -/
theorem atMostOnce_of_firstClaim {start : Dispatch W} (hstart : start.Initial)
    (hrun : Guarded step FirstClaim start s) : s.AtMostOnce :=
  (hrun.invariant hstart.once fun _ _ _ hs hok hstep => hs.step hok hstep).once

def dueBroadcast : Dispatch ℕ where
  now := seconds 60
  nextUuid := 100
  users := Table.empty.insert ⟨7, 70⟩
  broadcasts := Table.empty.insert {
    id := 1, status := .scheduled, scheduledAt := some (seconds 30), updatedAt := 0 }
  workers _ := {}
  stream := []

theorem dueBroadcast_initial : dueBroadcast.Initial where
  attempt _ := rfl
  stream := rfl
  drawn := by decide

theorem atMostOnce_of_firstClaim_dueBroadcast :
    ∃ s, Guarded step FirstClaim dueBroadcast s ∧ s.stream.length = 1 ∧ s.AtMostOnce := by
  have hpicked : Guarded step FirstClaim dueBroadcast
      (dueBroadcast.setWorker 0 { picked := [1] }) :=
    Guarded.start.next (.pick 0 25) trivial rfl
  obtain ⟨claimed, hclaim, hpublish⟩ : ∃ claimed,
      (dueBroadcast.setWorker 0 { picked := [1] }).step (.claim 0 [7] true) = some claimed ∧
      (claimed.step (.publish 0 7 .received)).any (·.stream.length = 1) = true := ⟨_, rfl, rfl⟩
  have hclaimed : Guarded step FirstClaim dueBroadcast claimed := by
    refine hpicked.next (.claim 0 [7] true) (fun broadcast _ _ => ⟨by simp [dueBroadcast, setWorker],
      fun other attempt h => ?_⟩) hclaim
    by_cases hother : other = 0 <;> simp [setWorker, dueBroadcast, hother] at h
  obtain ⟨s, hs, hlength⟩ := (Option.any_eq_true _ _).mp hpublish
  have hrun : Guarded step FirstClaim dueBroadcast s :=
    hclaimed.next (.publish 0 7 .received) trivial hs
  exact ⟨s, hrun, of_decide_eq_true hlength, atMostOnce_of_firstClaim dueBroadcast_initial hrun⟩

/-- A worker dies after its message was stored, and another one claims the broadcast five minutes
later. -/
def staleClaim : List (DispatchEvent ℕ) :=
  [.pick 0 25, .claim 0 [7] true, .publish 0 7 .received, .crash 0, .pass 301000000,
    .pick 1 25, .claim 1 [7] true, .publish 1 7 .received]

theorem not_atMostOnce_staleClaim :
    ∃ s, dueBroadcast.Initial ∧ Guarded step (fun _ _ => True) dueBroadcast s ∧ ¬ s.AtMostOnce := by
  have hreplay : (staleClaim.foldlM step dueBroadcast).any (fun s =>
      s.stream.countP (fun message => message.ticketId = 1 ∧ message.userId = 7) = 2) = true := rfl
  obtain ⟨s, hs, hcount⟩ := (Option.any_eq_true _ _).mp hreplay
  refine ⟨s, dueBroadcast_initial, Guarded.of_foldlM staleClaim hs, fun honce => ?_⟩
  have htwice := honce 1 7
  rw [of_decide_eq_true hcount] at htwice
  exact absurd htwice (by decide)

end Dispatch

end VpnControl.Support

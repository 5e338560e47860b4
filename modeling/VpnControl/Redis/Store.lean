/-
# A key-value store with expiring entries

The commands of Redis that services use for caches, locks and counters. An entry may have a
time at which it expires; from then on no command sees it, whether or not it has been removed.
Commands are atomic and take effect at once: there is no transaction around them.
-/

import Mathlib.Algebra.Order.Ring.Int

namespace Redis

variable {K B : Type}

/-- What an entry holds. -/
inductive Value (K B : Type)
  | blob (content : B)
  | counter (count : ℕ)
  | members (keys : List K)

structure Entry (K B : Type) where
  value : Value K B
  expiresAt : Option ℤ

/-- The contents of the store. -/
def Store (K B : Type) := K → Option (Entry K B)

/-- The commands. Times to live are in the unit of the clock. -/
inductive Command (K B : Type)
  | get (key : K)
  /-- `SET key value EX ttl`. -/
  | setex (key : K) (ttl : ℤ) (content : B)
  /-- `SET key value EX ttl NX`. -/
  | setNx (key : K) (ttl : ℤ) (content : B)
  | delete (keys : List K)
  | incr (key : K)
  | expire (key : K) (ttl : ℤ)
  | sadd (key member : K)
  | smembers (key : K)

abbrev Command.Reply : Command K B → Type
  | get _ => Option B
  | setex .. => Unit
  | setNx .. => Bool
  | delete _ => Unit
  | incr _ => ℕ
  | expire .. => Unit
  | sadd .. => Unit
  | smembers _ => List K

namespace Store

def empty : Store K B := fun _ => none

variable (s : Store K B) (now : ℤ) (key : K)

/-- The entry under a key, unless it has expired. -/
def find? : Option (Entry K B) :=
  (s key).filter fun entry => entry.expiresAt.all (now < ·)

/-- The content of a live entry. -/
def blob? : Option B :=
  (s.find? now key).bind fun entry =>
    match entry.value with
    | .blob content => some content
    | _ => none

/-- The value of a counter; a counter that is not there stands at zero. -/
def count : ℕ :=
  match s.find? now key with
  | some { value := .counter count, .. } => count
  | _ => 0

/-- The members of a set. -/
def members : List K :=
  match s.find? now key with
  | some { value := .members keys, .. } => keys
  | _ => []

def deadline : Option ℤ := (s.find? now key).bind Entry.expiresAt

variable [DecidableEq K]

def put (entry : Entry K B) : Store K B := fun other => if other = key then some entry else s other

/-- Carry out a command at a time. -/
def serve : (command : Command K B) → command.Reply × Store K B
  | .get key => (s.blob? now key, s)
  | .setex key ttl content => ((), s.put key ⟨.blob content, some (now + ttl)⟩)
  | .setNx key ttl content =>
    if (s.find? now key).isSome then (false, s)
    else (true, s.put key ⟨.blob content, some (now + ttl)⟩)
  | .delete keys => ((), fun key => if key ∈ keys then none else s key)
  | .incr key =>
    (s.count now key + 1, s.put key ⟨.counter (s.count now key + 1), s.deadline now key⟩)
  | .expire key ttl =>
    match s.find? now key with
    | some entry => ((), s.put key { entry with expiresAt := some (now + ttl) })
    | none => ((), s)
  | .sadd key member =>
    ((), s.put key ⟨.members (member :: s.members now key), s.deadline now key⟩)
  | .smembers key => (s.members now key, s)

end Store

/-- The keys whose entries a command may change. -/
def Command.writes : Command K B → List K
  | get _ => []
  | setex key _ _ => [key]
  | setNx key _ _ => [key]
  | delete keys => keys
  | incr key => [key]
  | expire key _ => [key]
  | sadd key _ => [key]
  | smembers _ => []

namespace Store

variable {s s' : Store K B} {now later : ℤ} {key : K} {content : B}

theorem find?_congr (h : s key = s' key) : s.find? now key = s'.find? now key := by
  rw [find?, h, ← find?]

variable [DecidableEq K]

theorem put_of_ne (hne : other ≠ key) : s.put key entry other = s other := by simp [put, hne]

/-- A command leaves the other entries alone. -/
theorem serve_of_notMem {command : Command K B} (h : key ∉ command.writes) :
    (s.serve now command).2 key = s key := by
  cases command with
  | get => rfl
  | setex => exact put_of_ne (by simpa [Command.writes] using h)
  | setNx =>
    simp only [serve]
    split
    · rfl
    · exact put_of_ne (by simpa [Command.writes] using h)
  | delete => exact if_neg h
  | incr => exact put_of_ne (by simpa [Command.writes] using h)
  | expire =>
    simp only [serve]
    split
    · exact put_of_ne (by simpa [Command.writes] using h)
    · rfl
  | sadd => exact put_of_ne (by simpa [Command.writes] using h)
  | smembers => rfl

end Store

end Redis

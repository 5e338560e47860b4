/-
# What a method may write

`Writes W p` says that every write on every branch of `p` satisfies `W`, whatever the replies
are. Each method gets one such fact, with the writes it is made of as hypotheses, so that a caller
chooses the `W` it needs and never looks into the method.
-/

import VpnControl.Vpn.Service
import VpnControl.Txn.Outcome

namespace VpnControl.Vpn

open Txn List Program
open Billing (Uuid Time)

variable {α β : Type} {W : Write → Prop}

/-- Every write of the method satisfies `W`. -/
def Writes (W : Write → Prop) (p : Service α) : Prop :=
  p.Every fun op : Stmt => ∀ w ∈ op.writes, W w

variable {p : Service α}

namespace Writes

theorem pure (value : α) : Writes W (Pure.pure value : Service α) := trivial

theorem raise (error : SubscriptionError) : Writes W (Vpn.raise error : Service α) := trivial

theorem bind {f : α → Service β} (hp : Writes W p) (hf : ∀ value, Writes W (f value)) :
    Writes W (p >>= f) :=
  Every.bind hp hf

theorem tryCatch {handler : SubscriptionError → Service α} (hp : Writes W p)
    (hh : ∀ error, Writes W (handler error)) : Writes W (p.tryCatch handler) :=
  Every.tryCatch hp hh

theorem mono (hp : Writes W p) (h : ∀ w, W w → W' w) : Writes W' p :=
  Every.mono hp fun _ hop w hw => h w (hop w hw)

theorem select (query : Database → α) : Writes W (Vpn.select query) :=
  ⟨fun _ hw => absurd hw not_mem_nil, fun _ => trivial⟩

theorem redis (command : RedisCommand) : Writes W (Vpn.redis command) :=
  ⟨fun _ hw => absurd hw not_mem_nil, fun _ => trivial⟩

theorem datetimeNow : Writes W Vpn.datetimeNow :=
  ⟨fun _ hw => absurd hw not_mem_nil, fun _ => trivial⟩

theorem uuid4 : Writes W (perform (S := engine.toSignature) (.billing .uuid4)) :=
  ⟨fun _ hw => absurd hw not_mem_nil, fun _ => trivial⟩

theorem execute (h : W w) : Writes W (Vpn.execute w) :=
  ⟨fun _ hw => mem_singleton.mp hw ▸ h, fun _ => trivial⟩

theorem enqueueForPlacementIds (h : ∀ items, W (.enqueueMany items)) (ids : List Uuid) :
    Writes W (Vpn.enqueueForPlacementIds ids) := by
  refine bind (select _) fun rows => ?_
  split
  · exact pure ()
  · exact bind (select _) fun items => execute (h items)

theorem enqueueForKeyState (h : ∀ items, W (.enqueueMany items)) (key : Uuid)
    (desired : PlacementDesiredState) : Writes W (Vpn.enqueueForKeyState key desired) :=
  bind (select _) fun ids => enqueueForPlacementIds h ids

theorem setPlacementDesiredState (h : ∀ items, W (.enqueueMany items))
    (hstate : ∀ now, W (.setDesiredState key desired reason now)) :
    Writes W (Vpn.setPlacementDesiredState key desired reason) :=
  bind datetimeNow fun now => bind (execute (hstate now)) fun _ => enqueueForKeyState h key desired

theorem invalidatePayloadCacheByTokenHash (tokenHash : String) :
    Writes W (Vpn.invalidatePayloadCacheByTokenHash tokenHash) := by
  unfold Vpn.invalidatePayloadCacheByTokenHash
  refine bind (redis _) fun keys => ?_
  dsimp only
  split
  · exact bind (redis _) fun _ => redis _
  · exact redis _

end Writes

/-- What every write of a method satisfies, the writes it made satisfy. -/
theorem Writes.outcome (hp : Writes W p) : Outcome S t p fun _ ws => ∀ w ∈ ws, W w := .of_every hp

end VpnControl.Vpn

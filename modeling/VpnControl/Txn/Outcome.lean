/-
# What a program writes

`Outcome S t p R` says what a program does whatever the other transactions commit,
as long as every committed state lies in `S`: if it returns, it has written some
list of changes since it was `t`, and `R` relates that list to the returned value.
With a single state in `S` this is the program running alone, with the invariant of
a protocol it is the program among the others. A method gets one such fact, and
its callers use that instead of its code.
-/

import VpnControl.Txn.Soundness

namespace Txn

open Protocol List Program System

variable {E : Engine} {ε α β : Type} {S : Committed E → Prop} {t mid done : Tx E}
  {first rest ws : List E.Write}

/-! ## Reachable transactions -/

/-- Some statements, executed on committed states of `S`, take the transaction `t` to
another one and write `ws` on the way. -/
inductive Tx.Reaches (S : Committed E → Prop) (t : Tx E) : List E.Write → Tx E → Prop
  | refl : Reaches S t [] t
  | tail {ws : List E.Write} {mid : Tx E} (c : Committed E) (op : E.Op) :
      Reaches S t ws mid → S c → Reaches S t (ws ++ E.writes op) (mid.after c op)

variable {c : Committed E}

namespace Tx.Reaches

theorem single (hc : S c) (op : E.Op) : t.Reaches S (E.writes op) (t.after c op) := by
  simpa using Reaches.refl.tail c op hc

theorem trans (h : t.Reaches S first mid) (h' : mid.Reaches S rest done) :
    t.Reaches S (first ++ rest) done := by
  induction h' with
  | refl => simpa using h
  | tail c op _ hc ih =>
    rw [← append_assoc]
    exact ih.tail c op hc

theorem writes_eq (h : t.Reaches S ws done) : done.writes = t.writes ++ ws := by
  induction h with
  | refl => simp
  | tail _ _ _ _ ih => rw [after_writes, ih, append_assoc]

/-- A property of transactions that every statement keeps. -/
theorem keeps {A : Tx E → Prop} (h : t.Reaches S ws done) (hstart : A t)
    (hstep : ∀ t c op, S c → (∀ w ∈ E.writes op, w ∈ ws) → A t → A (t.after c op)) : A done := by
  induction h with
  | refl => exact hstart
  | tail c op _ hc ih =>
    refine hstep _ c op hc (fun w hw => mem_append_right _ hw) (ih ?_)
    intro t c op hc hmem
    exact hstep t c op hc fun w hw => mem_append_left _ (hmem w hw)

end Tx.Reaches

/-! ## Outcomes -/

variable {p : Program E.toSignature ε α} {R R' : α → List E.Write → Prop}

/-- Whenever `p` returns a value, it has written changes that `R` relates to the
value. -/
def Outcome (S : Committed E → Prop) (t : Tx E) (p : Program E.toSignature ε α)
    (R : α → List E.Write → Prop) : Prop :=
  ∀ c, (Protocol.reads S).wp p (fun value done _ => ∃ ws, t.Reaches S ws done ∧ R value ws)
    (fun _ _ _ => True) t c

namespace Outcome

theorem ret (h : R value []) : Outcome S t (ret value : Program E.toSignature ε α) R :=
  fun _ _ _ => ⟨[], .refl, h⟩

theorem raise : Outcome S t (Program.raise error : Program E.toSignature ε α) R :=
  fun _ _ _ => trivial

/-- A check that raises. -/
theorem guard {c : Prop} [Decidable c] {error : ε} (h : ¬ c → Outcome S t p R) :
    Outcome S t (if c then Program.raise error else p) R := by
  split
  · exact raise
  · exact h ‹_›

theorem mono (hp : Outcome S t p R) (h : ∀ value ws, R value ws → R' value ws) :
    Outcome S t p R' := by
  intro c
  refine wp_mono (hp c) ?_ fun _ _ _ h => h
  rintro value done - ⟨ws, hreach, hR⟩
  exact ⟨ws, hreach, h value ws hR⟩

/-- What holds on more committed states holds on fewer. -/
theorem weaken (hp : Outcome S' t p R) (hS : ∀ c, S c → S' c) : Outcome S t p R := by
  intro c
  have hstable : (Protocol.reads S).Stable fun done _ => ∃ ws, t.Reaches S ws done := stable_const _
  have hread : (Protocol.reads S).wp p (fun value done _ => ∃ ws, t.Reaches S' ws done ∧ R value ws)
      (fun _ _ _ => True) t c := wp_of_reads hS (hp c)
  have hframe := wp_frame (φ := fun _ => True) hstable
    (fun op _ _ c hc _ ⟨ws, hreach⟩ => ⟨_, hreach.tail c op hc⟩) (p.every_of_forall fun _ => trivial)
    hread ⟨[], .refl⟩
  refine wp_mono hframe ?_ fun _ _ _ _ => trivial
  rintro value done - ⟨⟨ws, hwider, hR⟩, ws', hreach⟩
  have hsame : ws = ws' := append_cancel_left (hwider.writes_eq.symm.trans hreach.writes_eq)
  exact ⟨ws', hreach, hsame ▸ hR⟩

/-- One statement and what follows it. -/
theorem exec {f : E.Reply op → Program E.toSignature ε α}
    (h : ∀ c, S c → Outcome S (t.after c op) (f (t.reply c op))
      fun value rest => R value (E.writes op ++ rest)) :
    Outcome S t (perform op >>= f) R := by
  intro c later hlater _
  refine wp_mono (h later hlater.1 later) ?_ fun _ _ _ h => h
  rintro value done - ⟨rest, hreach, hR⟩
  exact ⟨_, (Tx.Reaches.single hlater.1 op).trans hreach, hR⟩

/-- A statement at the end. -/
theorem perform {R : E.Reply op → List E.Write → Prop}
    (h : ∀ c, S c → R (t.reply c op) (E.writes op)) :
    Outcome S t (perform op : Program E.toSignature ε _) R := by
  intro c later hlater _ final _
  exact ⟨_, .single hlater.1 op, h later hlater.1⟩

theorem bind {R' : β → List E.Write → Prop}
    (hp : Outcome S t p R) (hf : ∀ value first mid, t.Reaches S first mid → R value first →
      Outcome S mid (f value) fun result rest => R' result (first ++ rest)) :
    Outcome S t (p >>= f) R' := by
  intro c
  refine wp_bind (wp_mono (hp c) ?_ fun _ _ _ h => h)
  rintro value mid c ⟨first, hreach, hR⟩
  refine wp_mono (hf value first mid hreach hR c) ?_ fun _ _ _ h => h
  rintro result done - ⟨rest, hrest, hR'⟩
  exact ⟨first ++ rest, hreach.trans hrest, hR'⟩

/-- What holds of every change on every branch holds of the changes made. -/
theorem of_every {W : E.Write → Prop} (hp : p.Every fun op => ∀ w ∈ E.writes op, W w) :
    Outcome S t p fun _ ws => ∀ w ∈ ws, W w := by
  intro c
  have hstable : (Protocol.reads S).Stable fun done _ =>
      ∃ ws, t.Reaches S ws done ∧ ∀ w ∈ ws, W w := stable_const _
  refine wp_mono (keeps_of_every hstable ?_ hp t c ⟨[], .refl, by simp⟩)
    (fun _ _ _ h => h) fun _ _ _ _ => trivial
  rintro op hop mid c hc - ⟨ws, hreach, hws⟩
  refine ⟨_, hreach.tail c op hc, ?_⟩
  intro w hw
  rcases mem_append.mp hw with hold | hnew
  · exact hws w hold
  · exact hop w hnew

/-- What holds of any value and any changes. -/
theorem always (h : ∀ value ws, R value ws) : Outcome S t p R :=
  (of_every (W := fun _ => True) (p.every_of_forall fun _ _ _ => trivial)).mono
    fun value ws _ => h value ws

/-- A program among the others, whose transaction holds the lock on a row: when it
returns, that row is committed as it was. -/
theorem wp_locked {P : Protocol E} (hp : Outcome P.Inv t p R) (hkey : key ∈ t.keys) :
    P.wp p (fun value done later => (∃ ws, t.Reaches P.Inv ws done ∧ R value ws) ∧
      E.SameRow key c.state later.state ∧ P.Inv later) (fun _ _ _ => True) t c := by
  have hread : P.wp p (fun value done _ => ∃ ws, t.Reaches P.Inv ws done ∧ R value ws)
      (fun _ _ _ => True) t c := wp_of_reads (fun _ h => h) (hp c)
  have hstable : P.Stable fun done later => key ∈ done.keys ∧ E.SameRow key c.state later.state :=
    fun done _ _ hrely h => ⟨h.1, E.sameRow_trans h.2 (hrely.sameRow h.1)⟩
  have hstep : ∀ op : E.Op, True → ∀ (t : Tx E) (later : Committed E), P.Inv later →
      P.guard op t later → (key ∈ t.keys ∧ E.SameRow key c.state later.state) →
      key ∈ (t.after later op).keys ∧ E.SameRow key c.state later.state :=
    fun op _ t later _ _ h => ⟨Tx.keys_subset_after h.1, h.2⟩
  have hframe := wp_frame hstable hstep (p.every_of_forall fun _ => trivial) hread
    ⟨hkey, E.sameRow_refl key c.state⟩
  refine wp_mono (wp_inv hframe) ?_ fun _ _ _ _ => trivial
  rintro value done later ⟨⟨hR, -, hsame⟩, hinv⟩
  exact ⟨hR, hsame, hinv⟩

/-- A program among the others, whose transaction holds the lock on a row: on the way and
when it returns, the others have committed nothing to that row. -/
theorem wp_while {P : Protocol E} (hp : Outcome (P.While key c) t p R) (hkey : key ∈ t.keys) :
    P.wp p (fun value done later => (∃ ws, t.Reaches (P.While key c) ws done ∧ R value ws) ∧
      P.While key c later) (fun _ _ _ => True) t c :=
  wp_of_reads_while hkey (P.guar_refl c) (.refl c key) (hp c)

/-- A program that runs alone. -/
theorem alone (hp : Outcome (· = c) t p R) (hrun : alone p t c = (.ok value, done)) :
    ∃ ws, t.Reaches (· = c) ws done ∧ R value ws := by
  have hguard : ∀ (op : E.Op) (t : Tx E) (c' : Committed E), True →
      (Protocol.reads (· = c)).guard op t c' ∧ True := fun _ _ _ _ => ⟨trivial, trivial⟩
  rcases alone_of_wp hguard rfl trivial (hp c) with ⟨v, u, heq, hR⟩ | ⟨e, u, heq, _⟩
  · rw [hrun] at heq
    cases heq
    exact hR
  · rw [hrun] at heq
    cases heq

/-- A unit of work that runs alone: it commits what its program writes, or nothing. -/
theorem request (hp : Outcome (· = c) (Tx.start session) p R) :
    (∃ value ws, Txn.request p session c = (.ok value, c.extend ws) ∧ R value ws) ∨
      ∃ error, Txn.request p session c = (.error error, c) := by
  cases hrun : Txn.alone p (Tx.start session) c with
  | mk result done =>
    cases result with
    | ok value =>
      obtain ⟨ws, hreach, hR⟩ := hp.alone hrun
      have hwrites : done.writes = ws := by simpa using hreach.writes_eq
      exact .inl ⟨value, ws, by simp [Txn.request, hrun, hwrites], hR⟩
    | error error => exact .inr ⟨error, by simp [Txn.request, hrun]⟩

end Outcome

/-! ## One transaction of a run -/

/-- The committed states of the runs of a system. -/
def System.Visited {ι : Type} [Fintype ι] [DecidableEq ι]
    (ok : E.Op → Tx E → Committed E → Prop) (s : System E ε ι) (c : Committed E) : Prop :=
  ∃ mid, System.Runs ok s mid ∧ mid.db = c

/-- What a program writes whatever the others do, it has written when it has committed
in a run of the system. -/
theorem System.committed_of_outcome [Fintype ι] [DecidableEq ι] {db : Committed E}
    {programs : ι → Program E.toSignature ε Unit} {sessions : ι → E.Session}
    {ok : E.Op → Tx E → Committed E → Prop} {i : ι} {R : List E.Write → Prop}
    (hp : Outcome ((start db programs sessions).Visited ok) (Tx.start (sessions i))
      (programs i) fun _ => R) {later : System E ε ι}
    (hrun : Runs ok (start db programs sessions) later)
    (hi : later.txs i = .committed t) : R t.writes := by
  let start := start db programs sessions
  let P := Protocol.reads (start.Visited ok)
  let free : Protocol E := .reads fun _ => True
  have hsound : free.Sound start := by
    refine sound_start trivial fun j => ?_
    exact wp_mono wp_true (fun _ _ _ _ => ⟨trivial, trivial, trivial⟩) fun _ _ _ h => h
  suffices hinv : ∀ s, Runs ok start s → free.Sound s ∧
      (∀ rest u, s.txs i = .running rest u →
        P.wp rest (fun _ done _ => R done.writes) (fun _ _ _ => True) u s.db) ∧
      ∀ u, s.txs i = .committed u → R u.writes from (hinv later hrun).2.2 t hi
  intro s hs
  induction hs with
  | refl =>
    refine ⟨hsound, ?_, fun _ hu => by cases hu⟩
    rintro rest u hu
    cases hu
    refine wp_mono (hp db) ?_ fun _ _ _ h => h
    rintro - done - ⟨ws, hreach, hR⟩
    have hwrites : done.writes = ws := by simpa using hreach.writes_eq
    rwa [hwrites]
  | @tail mid next event hmid hok hnext ih =>
    obtain ⟨hsoundMid, hwp, hdone⟩ := ih
    have hvisitedMid : start.Visited ok mid.db := ⟨mid, hmid, rfl⟩
    have hvisited : start.Visited ok next.db := ⟨next, hmid.tail event hok hnext, rfl⟩
    refine ⟨(hsoundMid.next (fun _ _ _ => trivial) hnext).1, fun rest u hu => ?_, fun u hu => ?_⟩
    · rcases hsoundMid.running_next hnext hu with ⟨hold, hspares⟩ | ⟨op, f, v, -, hv, hsame, rfl, rfl⟩
      · exact wp_later (hwp rest u hold) ⟨hvisited, trivial, hspares⟩
      · rw [hsame]
        exact hwp _ v hv mid.db (rely_refl hvisitedMid v) trivial
    · rcases committed_of_next hnext hu with hold | ⟨-, hold⟩
      · exact hdone u hold
      · exact hwp _ u hold mid.db (rely_refl hvisitedMid u)

end Txn

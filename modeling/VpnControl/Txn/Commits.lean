/-
# Commits

What is left of a run when one looks at its end only: which transactions have committed and in
which order. The log is made of their changes, one transaction after the other, and each of them
met its own postcondition at the moment of its commit.
-/

import VpnControl.Txn.Outcome

namespace Txn

open System List Function

variable {E : Engine} {ε ι : Type} {rest : Program E.toSignature ε Unit} {t : Tx E} {i : ι}
  {db : Committed E}

namespace System

/-- What a transaction has committed. -/
def writesOf (s : System E ε ι) (i : ι) : List E.Write :=
  match s.txs i with
  | .committed t => t.writes
  | _ => []

variable {s : System E ε ι}

theorem writesOf_committed (h : s.txs i = .committed t) : s.writesOf i = t.writes := by
  simp [writesOf, h]

variable [DecidableEq ι]

theorem writesOf_setTx_of_ne (hne : j ≠ i) : (s.setTx i status).writesOf j = s.writesOf j := by
  simp [writesOf, setTx, update_of_ne hne]

variable [Fintype ι] {ok : E.Op → Tx E → Committed E → Prop} {s later : System E ε ι}

/-- The order in which the transactions of a run have committed. -/
structure CommitOrder (db : Committed E) (s : System E ε ι) (order : List ι) : Prop where
  nodup : order.Nodup
  mem_iff : ∀ i, i ∈ order ↔ ∃ t, s.txs i = .committed t
  db_eq : s.db = db.extend (order.flatMap s.writesOf)

/-- Events that commit nothing leave the order as it is. -/
theorem CommitOrder.setTx (h : CommitOrder db s order) (hbefore : ∀ t, s.txs i ≠ .committed t)
    (hafter : ∀ t, status ≠ .committed t) : CommitOrder db (s.setTx i status) order := by
  have hnot : i ∉ order := fun hmem => by
    obtain ⟨t, ht⟩ := (h.mem_iff i).mp hmem
    exact hbefore t ht
  refine ⟨h.nodup, fun j => ?_, ?_⟩
  · by_cases hj : j = i
    · subst hj
      simp only [hnot, System.setTx, update_self, false_iff]
      rintro ⟨t, ht⟩
      exact hafter t ht
    · rw [h.mem_iff]
      simp [System.setTx, update_of_ne hj]
  · refine h.db_eq.trans (congrArg db.extend (flatMap_congr fun j hj => ?_))
    have hne : j ≠ i := fun heq => hnot (heq ▸ hj)
    exact (writesOf_setTx_of_ne hne).symm

theorem CommitOrder.not_mem (h : CommitOrder db s order)
    (hi : s.txs i = .running rest t) : i ∉ order := by
  intro hmem
  obtain ⟨u, hu⟩ := (h.mem_iff i).mp hmem
  cases hi.symm.trans hu

theorem CommitOrder.commit (h : CommitOrder db s order) (hi : s.txs i = .running rest t) :
    CommitOrder db { s.setTx i (.committed t) with db := s.db.extend t.writes } (order ++ [i]) := by
  have hnot := h.not_mem hi
  refine ⟨?_, fun j => ?_, ?_⟩
  · rw [nodup_append]
    refine ⟨h.nodup, nodup_singleton i, fun j hj k hk heq => ?_⟩
    exact hnot (mem_singleton.mp hk ▸ heq ▸ hj)
  · by_cases hj : j = i
    · subst hj
      simp [System.setTx]
    · simp [System.setTx, h.mem_iff, hj]
  · have hold : order.flatMap s.writesOf = order.flatMap (System.writesOf
        { s.setTx i (.committed t) with db := s.db.extend t.writes }) :=
      flatMap_congr fun j hj => by
        have hne : j ≠ i := fun heq => hnot (heq ▸ hj)
        exact (writesOf_setTx_of_ne hne).symm
    have hnew : System.writesOf
        { s.setTx i (.committed t) with db := s.db.extend t.writes } i = t.writes :=
      writesOf_committed (by simp [System.setTx])
    rw [flatMap_append, ← hold, flatMap_singleton, hnew]
    simp [h.db_eq, Committed.extend]

/-- The transactions of a run have committed in some order, and nothing else has changed the
database. -/
theorem exists_commitOrder
    (h : Runs ok (start db programs sessions) later) : ∃ order, CommitOrder db later order := by
  induction h with
  | refl => exact ⟨[], nodup_nil, by simp [start], by simp [start]⟩
  | @tail mid next event _ _ hnext ih =>
    obtain ⟨order, horder⟩ := ih
    obtain ⟨i, op, rest, t, -, hi, -, rfl⟩ | ⟨i, t, -, hi, rfl⟩ | ⟨i, rest, t, hi, rfl⟩ :=
      next_cases hnext
    · exact ⟨order, horder.setTx (by simp [hi]) (by simp)⟩
    · exact ⟨order ++ [i], horder.commit hi⟩
    · exact ⟨order, horder.setTx (by simp [hi]) (by simp)⟩

end System

/-! ## Induction over commits -/

namespace System

variable {s : System E ε ι}

/-- What has committed, after the state of one transaction was replaced. -/
theorem committed?_setTx [DecidableEq ι] {s : System E ε ι} (i : ι) (status : Status E ε) :
    (s.setTx i status).committed? =
      update s.committed? i (match status with | .committed t => some t | _ => none) := by
  funext j
  by_cases hj : j = i
  · subst hj
    cases status <;> simp [committed?, setTx]
  · simp [committed?, setTx, update_of_ne hj]

theorem committed?_of_running (h : s.txs i = .running rest t) : s.committed? i = none := by
  simp [committed?, h]

/-- As long as an open transaction does not commit, nothing more has committed. -/
theorem committed?_setTx_of_running [DecidableEq ι] (h : s.txs i = .running rest t)
    (hstatus : ∀ u, status ≠ .committed u) :
    (s.setTx i status).committed? = s.committed? := by
  rw [committed?_setTx, update_eq_self_iff, committed?_of_running h]
  cases status with
  | committed u => exact absurd rfl (hstatus u)
  | _ => rfl

/-- The transaction, if all that is left to it is to commit. -/
def ready? (s : System E ε ι) (i : ι) : Option (Tx E) :=
  match s.txs i with
  | .running (.ret _) t => some t
  | _ => none

theorem txs_of_ready? (h : s.ready? i = some t) : s.txs i = .running (.ret ()) t := by
  unfold ready? at h
  split at h
  · rename_i heq
    cases h
    exact heq
  · cases h

/-- The state a lock was granted on has `H` for every transaction that had committed holding the
same lock. -/
def Granted (H : ι → Tx E → E.State → Prop) (s : System E ε ι) : Prop :=
  ∀ i u, s.txs i = .committed u → ∀ j rest t, s.txs j = .running rest t →
    ∀ key state, (key, state) ∈ t.held → key ∈ u.keys → H i u state

end System

variable {P : Protocol E} {A : ι → Assertion E}

namespace Protocol

/-- The invariant holds, and every open transaction of the system is going to satisfy `A` when it
commits. -/
structure Meets (P : Protocol E) (A : ι → Assertion E) (s : System E ε ι) : Prop where
  sound : (reads (E := E) fun _ => True).Sound s
  inv : P.Inv s.db
  wp : ∀ i rest t, s.txs i = .running rest t → P.wp rest (fun _ => A i) (fun _ _ _ => True) t s.db

theorem meets_start {programs : ι → Program E.toSignature ε Unit} (hinv : P.Inv db)
    (h : ∀ i, P.wp (programs i) (fun _ => A i) (fun _ _ _ => True) (Tx.start (sessions i)) db) :
    P.Meets A (System.start db programs sessions) where
  sound := sound_start trivial fun _ =>
    wp_mono wp_true (fun _ _ _ _ => ⟨trivial, trivial, trivial⟩) fun _ _ _ h => h
  inv := hinv
  wp := by
    rintro i rest t hi
    cases hi
    exact h i

/-- A transaction that is about to commit has come to its postcondition. -/
theorem Meets.ready (h : P.Meets A s) (hi : s.ready? i = some t) : A i t s.db :=
  h.wp i _ t (txs_of_ready? hi) s.db (rely_refl h.inv t)

variable [Fintype ι] [DecidableEq ι]

/-- **Induction over commits.** `J` speaks about the transactions that have committed and the
committed state. It is kept by a run when every commit keeps it. The transaction that commits
satisfies its `A`, and its locks were granted on states with `H` for everybody who held them
before. -/
theorem Meets.commits {J : (ι → Option (Tx E)) → Committed E → Prop}
    (hs : P.Meets A s) (hJ : J s.committed? s.db) (hgranted : s.Granted H)
    (hH : ∀ done c i u, J done c → done i = some u → H i u c.state)
    (hstep : ∀ done j t c, P.Inv c → J done c → done j = none → A j t c →
      (∀ i u, done i = some u → ∀ key state, (key, state) ∈ t.held → key ∈ u.keys → H i u state) →
      P.Inv (c.extend t.writes) ∧ P.Guar c (c.extend t.writes) ∧
        J (update done j (some t)) (c.extend t.writes))
    (h : System.Runs P.guard s later) :
    P.Meets A later ∧ P.Guar s.db later.db ∧ later.Granted H ∧ J later.committed? later.db := by
  induction h with
  | refl => exact ⟨hs, P.guar_refl _, hgranted, hJ⟩
  | @tail mid next event _ hguard hnext ih =>
    obtain ⟨hmid, hguar, hgranted, hJ⟩ := ih
    have hcommit : P.Inv next.db ∧ P.Guar mid.db next.db ∧ J next.committed? next.db := by
      obtain ⟨j, _, _, _, -, hj, -, rfl⟩ | ⟨j, t, -, hj, rfl⟩ | ⟨j, _, _, hj, rfl⟩ :=
        next_cases hnext
      · refine ⟨hmid.inv, P.guar_refl _, ?_⟩
        rwa [committed?_setTx_of_running hj (by simp)]
      · have hA : A j t mid.db := hmid.wp j _ t hj mid.db (rely_refl hmid.inv t)
        have hlater := hstep _ j t mid.db hmid.inv hJ (committed?_of_running hj) hA
          fun i u hi key state => hgranted i u (txs_of_committed? hi) j _ t hj key state
        exact committed?_setTx j (.committed t) ▸ hlater
      · refine ⟨hmid.inv, P.guar_refl _, ?_⟩
        rwa [committed?_setTx_of_running hj (by simp)]
    obtain ⟨hinv, hstepGuar, hJ'⟩ := hcommit
    refine ⟨⟨(hmid.sound.next (fun _ _ _ => trivial) hnext).1, hinv, fun i rest t hi => ?_⟩,
      P.guar_trans hguar hstepGuar, ?_, hJ'⟩
    · rcases hmid.sound.running_next hnext hi with ⟨hi, hspares⟩ | ⟨op, f, u, rfl, hu, hsame, rfl, rfl⟩
      · exact wp_later (hmid.wp i rest t hi) ⟨hinv, hstepGuar, hspares⟩
      · rw [hsame]
        exact hmid.wp i _ u hu mid.db (rely_refl hmid.inv u) (hguard op u (issues_exec hu))
    · intro i u hi j rest t hj key state hheld hkey
      rcases committed_of_next hnext hi with hold | ⟨rfl, hold⟩ <;>
        rcases hmid.sound.running_next hnext hj with ⟨hbefore, -⟩ | ⟨op, f, v, hevent, hv, -, -, rfl⟩
      · exact hgranted i u hold j rest t hbefore key state hheld hkey
      · rcases mem_append.mp hheld with hearlier | hnew
        · exact hgranted i u hold j _ v hv key state hearlier hkey
        · -- a lock that is granted now is granted on the committed state
          obtain ⟨_, -, hpair⟩ := mem_map.mp hnew
          cases hpair
          exact hH _ _ i u hJ (by simp [System.committed?, hold])
      · -- nobody else holds a lock of the transaction that commits
        have hne : i ≠ j := by
          rintro rfl
          cases hi.symm.trans hj
        have hdisjoint := hmid.sound.disjoint i j hne key (by rw [hold]; exact hkey)
        rw [hbefore] at hdisjoint
        exact absurd (Tx.mem_keys.mpr ⟨state, hheld⟩) hdisjoint
      · cases hevent
        cases hold.symm.trans hv

end Protocol

open Protocol in
/-- A transaction of a run has met its own postcondition when it committed, and what followed
is within the guarantee. -/
theorem Protocol.Sound.at_commit [Fintype ι] [DecidableEq ι] {s later : System E ε ι}
    (hs : P.Sound s) {A : Assertion E}
    (hwp : ∀ rest t, s.txs i = .running rest t → P.wp rest (fun _ => A) (fun _ _ _ => True) t s.db)
    (hopen : ∀ t, s.txs i ≠ .committed t) (h : System.Runs P.guard s later)
    (hi : later.txs i = .committed t) :
    ∃ c, P.Inv c ∧ A t c ∧ P.Guar (c.extend t.writes) later.db := by
  have hfree : (reads (E := E) fun _ => True).Sound s :=
    ⟨trivial, fun _ _ _ _ => wp_mono wp_true (fun _ _ _ _ => ⟨trivial, trivial, trivial⟩)
      fun _ _ _ h => h, hs.locked, hs.disjoint, fun _ _ _ => trivial⟩
  have hmeets : P.Meets (fun k t c => P.CommitOk t c ∧ (k = i → A t c)) s := by
    refine ⟨hfree, hs.inv, fun k rest u hk => ?_⟩
    by_cases hki : k = i
    · subst hki
      refine wp_mono (wp_and (hs.wp k rest u hk) (hwp rest u hk)) ?_ fun _ _ _ _ => trivial
      exact fun _ _ _ hboth => ⟨hboth.1, fun _ => hboth.2⟩
    · refine wp_mono (hs.wp k rest u hk) ?_ fun _ _ _ _ => trivial
      exact fun _ _ _ hcommit => ⟨hcommit, fun heq => absurd heq hki⟩
  have hrun := hmeets.commits (H := fun _ _ _ => True) (J := fun done c => ∀ u, done i = some u →
      ∃ before, P.Inv before ∧ A u before ∧ P.Guar (before.extend u.writes) c)
    (fun u hu => absurd (txs_of_committed? hu) (hopen u))
    (fun _ _ _ _ _ _ _ _ _ _ _ => trivial) (fun _ _ _ _ _ _ => trivial)
    (fun done j u c hinv hJ _ hcommit _ => ?_) h
  · exact hrun.2.2.2 t (by simp [System.committed?, hi])
  · obtain ⟨⟨hinv', hguar, -⟩, hA⟩ := hcommit
    refine ⟨hinv', hguar, fun v hv => ?_⟩
    by_cases hij : i = j
    · subst hij
      obtain rfl : u = v := by simpa using hv
      exact ⟨c, hinv, hA rfl, P.guar_refl _⟩
    · rw [update_of_ne hij] at hv
      obtain ⟨before, hbefore, hAbefore, hlater⟩ := hJ v hv
      exact ⟨before, hbefore, hAbefore, P.guar_trans hlater hguar⟩

end Txn

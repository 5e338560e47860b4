/-
# What a protocol gives

If every program of a system meets the protocol on its own, then every run of
the system keeps the invariant, moves the committed state along the guarantee and
leaves only transactions that satisfy `Done` behind. The same conditions carry
over to a program that runs alone. The two semantics are tied together at the
end: a transaction that runs while nobody else holds a lock commits exactly what
it commits alone.
-/

import VpnControl.Txn.Protocol

namespace Txn

variable {E : Engine} {ε α ι : Type}

namespace Protocol

variable (P : Protocol E)

/-- A system in which everybody is meeting the protocol. -/
structure Sound (s : System E ε ι) : Prop where
  inv : P.Inv s.db
  wp : ∀ i rest t, s.txs i = .running rest t →
    P.wp rest (fun _ => P.CommitOk) (fun _ _ _ => True) t s.db
  locked : ∀ i rest t, s.txs i = .running rest t → t.WritesLocked
  disjoint : ∀ i j, i ≠ j → ∀ key ∈ (s.txs i).keys, key ∉ (s.txs j).keys
  done : ∀ i t, s.txs i = .committed t → P.Done t

variable {P}

theorem sound_start {programs : ι → Program E.toSignature ε Unit} (hinv : P.Inv db)
    (h : ∀ i, P.wp (programs i) (fun _ => P.CommitOk) (fun _ _ _ => True)
      (Tx.start (sessions i)) db) :
    P.Sound (System.start db programs sessions) where
  inv := hinv
  wp := by
    rintro i rest t hi
    cases hi
    exact h i
  locked := by
    rintro i rest t hi
    cases hi
    exact Tx.writesLocked_start _
  disjoint := by
    intro i j _ key hkey
    simp [System.start, Status.keys] at hkey
  done := by
    rintro i t hi
    cases hi

variable [DecidableEq ι] {s later : System E ε ι} {rest : Program E.toSignature ε Unit}

omit [DecidableEq ι] in
/-- The rows another transaction has locked are not among those that a committing
transaction has written. -/
theorem Sound.spares_commit (hs : P.Sound s) (hij : i ≠ j) (hi : s.txs i = .running rest t)
    (hj : s.txs j = .running rest' u) (hkey : key ∈ u.keys) :
    s.db.Spares key (s.db.extend t.writes) := by
  refine ⟨t.writes, rfl, fun write hwrite htouch => ?_⟩
  have hmine : key ∈ (s.txs i).keys := by
    rw [hi]
    exact hs.locked i _ t hi write hwrite key htouch
  exact hs.disjoint i j hij key hmine (by rw [hj]; exact hkey)

variable [Fintype ι] {event : Event ι} {i : ι}

/-- A transaction that is running after an event has executed a statement, or nobody has written
the rows it has locked. -/
theorem Sound.running_next (hs : P.Sound s)
    (h : s.next event = some later) (hi : later.txs i = .running rest t) :
    (s.txs i = .running rest t ∧ ∀ key ∈ t.keys, s.db.Spares key later.db) ∨
      ∃ op f u, event = .step i ∧ s.txs i = .running (.exec op f) u ∧
        later.db = s.db ∧ rest = f (u.reply s.db op) ∧ t = u.after s.db op := by
  rcases System.running_next h hi with ⟨hi, hsame | ⟨j, u, hne, hj, hcommit⟩⟩ |
    ⟨op, f, u, hevent, hi, -, hrest⟩
  · exact .inl ⟨hi, fun key _ => hsame ▸ .refl s.db key⟩
  · exact .inl ⟨hi, fun key hkey => hcommit ▸ hs.spares_commit hne hj hi hkey⟩
  · exact .inr ⟨op, f, u, hevent, hi, hrest⟩

/-- A lock that is held after an event was held before or was free. -/
theorem keys_next (h : s.next event = some later) (hkey : key ∈ (later.txs i).keys) :
    key ∈ (s.txs i).keys ∨ event = .step i ∧ ∀ j, j ≠ i → key ∉ (s.txs j).keys := by
  cases hstatus : later.txs i with
  | running rest t =>
    rw [hstatus] at hkey
    rcases System.running_next h hstatus with ⟨hi, -⟩ | ⟨op, f, u, rfl, hi, hfree, -, -, rfl⟩
    · exact .inl (hi ▸ hkey)
    · rw [hi]
      by_cases hheld : key ∈ u.keys
      · exact .inl hheld
      · have hnew := (Tx.mem_keys_after.mp hkey).resolve_left hheld
        exact .inr ⟨rfl, fun j hj => hfree j hj key (by simp [Tx.needs, hnew, hheld])⟩
  | committed =>
    rw [hstatus] at hkey
    cases hkey
  | rolledBack =>
    rw [hstatus] at hkey
    cases hkey

theorem Sound.next (hs : P.Sound s)
    (hguard : ∀ op t, s.issues event = some (op, t) → P.guard op t s.db)
    (h : s.next event = some later) : P.Sound later ∧ P.Guar s.db later.db := by
  have hdb : P.Inv later.db ∧ P.Guar s.db later.db := by
    obtain ⟨_, _, _, _, _, _, _, rfl⟩ | ⟨i, t, -, hi, rfl⟩ | ⟨_, _, _, _, rfl⟩ :=
      System.next_cases h
    · exact ⟨hs.inv, P.guar_refl _⟩
    · obtain ⟨hinv, hguar, -⟩ := hs.wp i _ t hi s.db (rely_refl hs.inv t)
      exact ⟨hinv, hguar⟩
    · exact ⟨hs.inv, P.guar_refl _⟩
  refine ⟨⟨hdb.1, fun i rest t hi => ?_, fun i rest t hi => ?_, fun i j hij key hkey hmem => ?_,
    fun i t hi => ?_⟩, hdb.2⟩
  · rcases hs.running_next h hi with ⟨hi, hspares⟩ | ⟨op, f, u, rfl, hu, hsame, rfl, rfl⟩
    · exact wp_later (hs.wp i rest t hi) ⟨hdb.1, hdb.2, hspares⟩
    · rw [hsame]
      exact hs.wp i _ u hu s.db (rely_refl hs.inv u) (hguard op u (System.issues_exec hu))
  · rcases hs.running_next h hi with ⟨hi, -⟩ | ⟨op, f, u, -, hu, -, -, rfl⟩
    · exact hs.locked i rest t hi
    · exact (hs.locked i _ u hu).after s.db op
  · -- of two transactions only one can have got a new lock
    rcases keys_next h hkey with hold | ⟨rfl, hfree⟩ <;>
      rcases keys_next h hmem with hold' | ⟨hevent, hfree'⟩
    · exact hs.disjoint i j hij key hold hold'
    · exact hfree' i hij hold
    · exact hfree j hij.symm hold'
    · cases hevent
      exact hij rfl
  · rcases System.committed_of_next h hi with hi | ⟨-, hi⟩
    · exact hs.done i t hi
    · exact (hs.wp i _ t hi s.db (rely_refl hs.inv t)).2.2

theorem Sound.runs (hs : P.Sound s) (h : System.Runs P.guard s later) :
    P.Sound later ∧ P.Guar s.db later.db := by
  induction h with
  | refl => exact ⟨hs, P.guar_refl _⟩
  | tail _ _ hguard hnext ih =>
    obtain ⟨hmid, hguar⟩ := ih
    obtain ⟨hlater, hstep⟩ := hmid.next hguard hnext
    exact ⟨hlater, P.guar_trans hguar hstep⟩

/-! ## Alone -/

section

variable {J : Assertion E} (hJ : ∀ op t c, J t c → P.guard op t c ∧ J (t.after c op) c)
    {p : Program E.toSignature ε α} {c : Committed E} (hinv : P.Inv c)

include hJ hinv

/-- A program that runs alone ends as its condition says. `J` is what makes the
guard hold when nobody interferes. -/
theorem alone_of_wp (hstart : J t c) (h : P.wp p Q X t c) :
    (∃ value t', alone p t c = (.ok value, t') ∧ Q value t' c) ∨
      (∃ error t', alone p t c = (.error error, t') ∧ X error t' c) := by
  induction p generalizing t with
  | ret value => exact Or.inl ⟨value, t, rfl, h c (rely_refl hinv t)⟩
  | raise error => exact Or.inr ⟨error, t, rfl, h c (rely_refl hinv t)⟩
  | exec op _ ih =>
    obtain ⟨hguard, hnext⟩ := hJ op t c hstart
    exact ih _ hnext (h c (rely_refl hinv t) hguard)

/-- What a request that runs alone leaves behind: the old committed state when
it raised, the invariant and the guarantee in any case. -/
theorem request_of_wp (hstart : J (Tx.start session) c)
    (h : P.wp p (fun _ => P.CommitOk) (fun _ _ _ => True) (Tx.start session) c) :
    P.Inv (request p session c).2 ∧ P.Guar c (request p session c).2 := by
  rcases alone_of_wp hJ hinv hstart h with ⟨value, t, heq, hok⟩ | ⟨error, t, heq, _⟩
  · simpa [request, heq] using ⟨hok.1, hok.2.1⟩
  · simpa [request, heq] using ⟨hinv, P.guar_refl c⟩

end

end Protocol

end Txn

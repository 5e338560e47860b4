/-
# Transactions that are kept apart

A transaction that decides from an unlocked read is right only if what it read is
still so when it commits. No lock says that, and no statement of the program can be
blamed when it fails: the condition is one on the schedule. This module states the
usual one. A group of transactions is kept apart when none of them does anything
while another one of the group has begun and has not ended.

Under that condition an observation of the committed state that only the group can
change is, for each member, the same from its first statement to its commit.
-/

import VpnControl.Txn.Commits

namespace Txn

open Protocol

variable {E : Engine} {ε ι β : Type}

/-- The transaction has neither committed nor rolled back. -/
def Status.IsRunning : Status E ε → Prop
  | running _ _ => True
  | committed _ => False
  | rolledBack => False

instance : (status : Status E ε) → Decidable status.IsRunning
  | .running _ _ => inferInstanceAs (Decidable True)
  | .committed _ => inferInstanceAs (Decidable False)
  | .rolledBack => inferInstanceAs (Decidable False)

namespace System

variable [Fintype ι] [DecidableEq ι]

/-- `Follows ok s past later`: the events `past`, newest first, lead from `s` to
`later`, and each of them satisfied `ok` when it happened. -/
inductive Follows (ok : List (Event ι) → System E ε ι → Event ι → Prop) (s : System E ε ι) :
    List (Event ι) → System E ε ι → Prop
  | nil : Follows ok s [] s
  | cons {past : List (Event ι)} {mid later : System E ε ι} (event : Event ι) :
      Follows ok s past mid → ok past mid event → mid.next event = some later →
      Follows ok s (event :: past) later

/-- Continue a schedule; `none` when one of its events cannot happen or does not
satisfy `ok`. -/
def follow (ok : List (Event ι) → System E ε ι → Event ι → Prop)
    [∀ past s event, Decidable (ok past s event)] (past : List (Event ι)) (s : System E ε ι) :
    List (Event ι) → Option (System E ε ι)
  | [] => some s
  | event :: rest =>
    if ok past s event then
      (s.next event).bind fun later => later.follow ok (event :: past) rest
    else none

/-- A schedule that was continued leads where it says. -/
theorem follows_of_follow {ok : List (Event ι) → System E ε ι → Event ι → Prop}
    [∀ past s event, Decidable (ok past s event)] (hpast : Follows ok s past mid)
    (h : mid.follow ok past events = some later) : ∃ all, Follows ok s all later := by
  induction events generalizing mid past with
  | nil => exact ⟨past, Option.some.inj h ▸ hpast⟩
  | cons event _ ih =>
    unfold follow at h
    split at h
    · rename_i hok
      obtain ⟨step, hstep, hrest⟩ := Option.bind_eq_some_iff.mp h
      exact ih (hpast.cons event hok hstep) hrest
    · cases h

/-- A schedule that ends well gives a run that ends well. -/
theorem exists_follows_of_follow (ok : List (Event ι) → System E ε ι → Event ι → Prop)
    [∀ past s event, Decidable (ok past s event)] (s : System E ε ι) (events : List (Event ι))
    (p : System E ε ι → Bool) (h : (s.follow ok [] events).any p = true) :
    ∃ past later, Follows ok s past later ∧ p later = true := by
  cases hfollow : s.follow ok [] events with
  | none =>
    rw [hfollow] at h
    cases h
  | some later =>
    rw [hfollow] at h
    obtain ⟨past, hpast⟩ := follows_of_follow .nil hfollow
    exact ⟨past, later, hpast, h⟩

omit [Fintype ι] [DecidableEq ι] in
/-- The transaction has begun and has not ended. -/
def Open (past : List (Event ι)) (s : System E ε ι) (i : ι) : Prop :=
  .step i ∈ past ∧ (s.txs i).IsRunning

instance (past : List (Event ι)) (s : System E ε ι) (i : ι) : Decidable (s.Open past i) :=
  inferInstanceAs (Decidable (_ ∧ _))

/-- No transaction of the group does anything while another one of the group is open. -/
def Apart (G : ι → Prop) (past : List (Event ι)) (s : System E ε ι) : Event ι → Prop
  | .step i => G i → ∀ j, j ≠ i → G j → ¬ s.Open past j
  | .abort _ => True

instance (G : ι → Prop) [DecidablePred G] (past : List (Event ι)) (s : System E ε ι) :
    (event : Event ι) → Decidable (s.Apart G past event)
  | .step i => inferInstanceAs (Decidable (G i → ∀ j, j ≠ i → G j → ¬ s.Open past j))
  | .abort _ => inferInstanceAs (Decidable True)

/-! ## What a member of the group has seen -/

variable {db : Committed E} {programs : ι → Program E.toSignature ε Unit}
  {sessions : ι → E.Session} {ok : List (Event ι) → System E ε ι → Event ι → Prop}
  {G : ι → Prop} {I : List ι → Committed E → Prop} {F : Committed E → β}
  {R : ι → β → List E.Write → Prop}

/-- What a transaction sees while it is open: a committed state that other transactions have
left, and, if it is in the group, what it has observed from the start. -/
def Sees (G : ι → Prop) (I : List ι → Committed E → Prop) (F : Committed E → β) (i : ι) (seen : β)
    (c : Committed E) : Prop :=
  (∃ order, i ∉ order ∧ I order c) ∧ (G i → F c = seen)

/-- Where a transaction of the system stands, when `F` is what the group observes: its
continuation ends in `R` for what `F` is now, and it is as at the start until it begins. -/
structure Stands (programs : ι → Program E.toSignature ε Unit) (sessions : ι → E.Session)
    (G : ι → Prop) (I : List ι → Committed E → Prop) (F : Committed E → β)
    (R : ι → β → List E.Write → Prop) (past : List (Event ι)) (s : System E ε ι) (i : ι)
    (rest : Program E.toSignature ε Unit) (t : Tx E) : Prop where
  wp : ∀ seen, (G i → seen = F s.db) → (Protocol.reads (Sees G I F i seen)).wp rest
    (fun _ done _ => R i seen done.writes) (fun _ _ _ => True) t s.db
  unbegun : .step i ∉ past → rest = programs i ∧ t = Tx.start (sessions i)

/-- **The rule for transactions kept apart.** Every program ends in `R` if, for a member of
the group, `F` never changes under it. Then `I` holds of the transactions that have committed, in
their order, and of the committed state, when each commit keeps it and only the group changes
`F`. -/
theorem Follows.commits (hapart : ∀ past s event, ok past s event → s.Apart G past event)
    (houtcome : ∀ i seen, Outcome (Sees G I F i seen) (Tx.start (sessions i)) (programs i)
      fun _ => R i seen)
    (hcommit : ∀ past s i ws order later, ok past s (.step i) → s.next (.step i) = some later →
      later.db = s.db.extend ws → i ∉ order → I order s.db → R i (F s.db) ws →
      I (order ++ [i]) later.db ∧ (¬ G i → F later.db = F s.db))
    (hstart : I [] db) (h : Follows ok (start db programs sessions) past later) :
    ∃ order, CommitOrder db later order ∧ I order later.db := by
  let free : Protocol E := Protocol.reads fun _ => True
  have hfresh : ∀ i seen c, (Protocol.reads (Sees G I F i seen)).wp (programs i)
      (fun _ done _ => R i seen done.writes) (fun _ _ _ => True) (Tx.start (sessions i)) c := by
    intro i seen c
    refine wp_mono (houtcome i seen c) ?_ fun _ _ _ h => h
    rintro - done - ⟨ws, hreach, hR⟩
    have hwrites : done.writes = ws := by simpa using hreach.writes_eq
    rwa [hwrites]
  suffices hinv : free.Sound later ∧ (∃ order, CommitOrder db later order ∧ I order later.db) ∧
      ∀ i rest t, later.txs i = .running rest t →
        Stands programs sessions G I F R past later i rest t from hinv.2.1
  induction h with
  | nil =>
    refine ⟨?_, ⟨[], ⟨List.nodup_nil, by simp [start], by simp [start]⟩, hstart⟩, ?_⟩
    · refine sound_start trivial fun j => ?_
      exact wp_mono wp_true (fun _ _ _ _ => ⟨trivial, trivial, trivial⟩) fun _ _ _ h => h
    · rintro i rest t hi
      cases hi
      exact ⟨fun seen _ => hfresh i seen db, fun _ => ⟨rfl, rfl⟩⟩
  | @cons past mid next event hmid hok hnext ih =>
    obtain ⟨hsound, ⟨order, horder, hI⟩, hstands⟩ := ih
    have hself : ∀ {i rest t seen}, mid.txs i = .running rest t → (G i → seen = F mid.db) →
        Sees G I F i seen mid.db :=
      fun hi hseen => ⟨⟨order, horder.not_mem hi, hI⟩, fun hG => (hseen hG).symm⟩
    -- what the group observes changes when one of the group ends, and only then
    obtain ⟨⟨order', horder', hI'⟩, hchange⟩ : (∃ order, CommitOrder db next order ∧
        I order next.db) ∧ (F next.db = F mid.db ∨ ∃ j, event = .step j ∧ G j ∧
          ∀ rest t, next.txs j ≠ .running rest t) := by
      obtain ⟨j, _, _, _, -, hj, -, rfl⟩ | ⟨j, u, rfl, hj, hlater⟩ | ⟨j, _, _, hj, rfl⟩ :=
        next_cases hnext
      · exact ⟨⟨order, horder.setTx (by simp [hj]) (by simp), hI⟩, .inl rfl⟩
      · have hR : R j (F mid.db) u.writes := (hstands j _ u hj).wp (F mid.db) (fun _ => rfl)
          mid.db (rely_refl (hself hj fun _ => rfl) u)
        obtain ⟨hIlater, hFlater⟩ := hcommit past mid j u.writes order next hok hnext
          (by rw [hlater]) (horder.not_mem hj) hI hR
        refine ⟨⟨order ++ [j], hlater ▸ horder.commit hj, hIlater⟩, ?_⟩
        by_cases hG : G j
        · exact .inr ⟨j, rfl, hG, by simp [hlater, setTx]⟩
        · exact .inl (hFlater hG)
      · exact ⟨⟨order, horder.setTx (by simp [hj]) (by simp), hI⟩, .inl rfl⟩
    refine ⟨(hsound.next (fun _ _ _ => trivial) hnext).1, ⟨order', horder', hI'⟩,
      fun i rest t hi => ?_⟩
    rcases hsound.running_next hnext hi with ⟨hold, hspares⟩ | ⟨op, f, u, rfl, hu, hsame, rfl, rfl⟩
    · refine ⟨fun seen hseen => ?_, fun hnot => (hstands i rest t hold).unbegun fun hin =>
        hnot (List.mem_cons_of_mem _ hin)⟩
      by_cases hkept : G i → F next.db = F mid.db
      · refine wp_later ((hstands i rest t hold).wp seen fun hG => (hseen hG).trans (hkept hG))
          ⟨⟨⟨order', horder'.not_mem hi, hI'⟩, fun hG => (hseen hG).symm⟩, trivial, hspares⟩
      · -- both are in the group, so this one has not begun
        obtain ⟨hGi, hne⟩ := Classical.not_imp.mp hkept
        obtain ⟨j, rfl, hGj, hended⟩ := hchange.resolve_left hne
        have hij : i ≠ j := fun heq => hended rest t (heq ▸ hi)
        have hclosed := hapart past mid (.step j) hok hGj i hij hGi
        obtain ⟨rfl, rfl⟩ := (hstands i rest t hold).unbegun fun hin =>
          hclosed ⟨hin, by rw [hold]; trivial⟩
        exact hfresh i seen _
    · refine ⟨fun seen hseen => ?_, fun hnot => absurd List.mem_cons_self hnot⟩
      rw [hsame] at hseen ⊢
      exact (hstands i _ u hu).wp seen hseen mid.db (rely_refl (hself hu hseen) u) trivial

theorem Follows.invariant {J : Committed E → Prop}
    (hapart : ∀ past s event, ok past s event → s.Apart G past event)
    (houtcome : ∀ i seen, Outcome (fun c => J c ∧ (G i → F c = seen)) (Tx.start (sessions i))
      (programs i) fun _ => R i seen)
    (hcommit : ∀ past s i ws, ok past s (.step i) → J s.db → R i (F s.db) ws →
      J (s.db.extend ws) ∧ (¬ G i → F (s.db.extend ws) = F s.db))
    (hstart : J db) (h : Follows ok (start db programs sessions) past later) : J later.db := by
  have hsees : ∀ i seen c, Sees G (fun _ => J) F i seen c → J c ∧ (G i → F c = seen) :=
    fun i seen c hc => ⟨hc.1.choose_spec.2, hc.2⟩
  obtain ⟨-, -, hJ⟩ := h.commits (I := fun _ => J) hapart
    (fun i seen => (houtcome i seen).weaken (hsees i seen))
    (fun past s i ws _ later hok _ hlater _ hJ hR => hlater ▸ hcommit past s i ws hok hJ hR) hstart
  exact hJ

end System

end Txn

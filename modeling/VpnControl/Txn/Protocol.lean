/-
# Rely and guarantee for transactions

The transactions of a system promise each other an invariant of the committed
state, a relation between the committed states before and after each commit, and
what a committed transaction looks like. In exchange each of them may rely, at
every statement, on the others having kept these promises and on nobody having
written the rows it has locked.

`Protocol.wp` turns a program into the condition on its transaction and on the
committed state under which all its continuations meet a postcondition, whatever
the others commit between any two statements. It is defined by recursion on the
program, so a specification of a method is proved along its code.
-/

import VpnControl.Txn.Interleaving

namespace Txn

/-- An assertion about an open transaction and the committed state. -/
abbrev Assertion (E : Engine) := Tx E → Committed E → Prop

/-- What the transactions of a system promise each other. -/
structure Protocol (E : Engine) where
  /-- Holds in every committed state. -/
  Inv : Committed E → Prop
  /-- Holds between the committed states before and after any commits. -/
  Guar : Committed E → Committed E → Prop
  /-- Holds whenever a statement is executed; a condition on the run, not a
  promise of the programs. -/
  guard : E.Op → Tx E → Committed E → Prop
  /-- Holds of every transaction that has committed. -/
  Done : Tx E → Prop
  guar_refl : ∀ c, Guar c c
  guar_trans : ∀ {first second third}, Guar first second → Guar second third → Guar first third

namespace Protocol

variable {E : Engine} {ε α β : Type} (P : Protocol E)

/-- What an open transaction knows about the committed state `later` when it last
saw `c`. -/
def Rely (t : Tx E) (c later : Committed E) : Prop :=
  P.Inv later ∧ P.Guar c later ∧ ∀ key ∈ t.keys, c.Spares key later

/-- What a transaction that holds the lock on a row knows about the committed state `later`
when it saw `c` under the lock. -/
def While (key : E.Key) (c later : Committed E) : Prop :=
  P.Inv later ∧ P.Guar c later ∧ c.Spares key later

/-- An assertion that nobody else can invalidate. -/
def Stable (A : Assertion E) : Prop :=
  ∀ t c later, P.Rely t c later → A t c → A t later

/-- What a transaction has to show when it commits. -/
def CommitOk : Assertion E := fun t c =>
  P.Inv (c.extend t.writes) ∧ P.Guar c (c.extend t.writes) ∧ P.Done t

variable {P}

/-- A row that the transaction has locked is as it was. -/
theorem Rely.sameRow (h : P.Rely t c later)
    (hkey : key ∈ t.keys) : E.SameRow key c.state later.state :=
  (h.2.2 key hkey).sameRow

theorem Rely.self (h : P.Rely t c later) : P.Rely t later later :=
  ⟨h.1, P.guar_refl later, fun key _ => .refl later key⟩

theorem Rely.trans
    (h : P.Rely t first second) (h' : P.Rely t second third) : P.Rely t first third :=
  ⟨h'.1, P.guar_trans h.2.1 h'.2.1, fun key hkey => (h.2.2 key hkey).trans (h'.2.2 key hkey)⟩

theorem rely_refl (h : P.Inv c) (t : Tx E) : P.Rely t c c :=
  ⟨h, P.guar_refl c, fun key _ => .refl c key⟩

theorem Stable.and (hA : P.Stable A) (hB : P.Stable B) : P.Stable fun t c => A t c ∧ B t c :=
  fun t c later hrely h => ⟨hA t c later hrely h.1, hB t c later hrely h.2⟩

/-- A fact that mentions no state is stable. -/
theorem stable_const (A : Tx E → Prop) : P.Stable fun t _ => A t := fun _ _ _ _ h => h

variable (P)

/-- The weakest condition under which every continuation of the program ends in
`Q` when it returns and in `X` when it raises. -/
def wp : Program E.toSignature ε α → (α → Assertion E) → (ε → Assertion E) → Assertion E
  | .ret value, Q, _ => fun t c => ∀ later, P.Rely t c later → Q value t later
  | .raise error, _, X => fun t c => ∀ later, P.Rely t c later → X error t later
  | .exec op next, Q, X => fun t c => ∀ later, P.Rely t c later → P.guard op t later →
      wp (next (t.reply later op)) Q X (t.after later op) later

variable {P} {p : Program E.toSignature ε α} {Q Q' : α → Assertion E} {X X' : ε → Assertion E}
  {t : Tx E} {c later : Committed E}

/-- The condition itself is stable. -/
theorem wp_later (h : P.wp p Q X t c) (hrely : P.Rely t c later) : P.wp p Q X t later := by
  cases p with
  | ret => exact fun final hfinal => h final (hrely.trans hfinal)
  | raise => exact fun final hfinal => h final (hrely.trans hfinal)
  | exec => exact fun final hfinal hguard => h final (hrely.trans hfinal) hguard

/-- It is enough to establish the condition after the next interference. -/
theorem wp_of_later (h : ∀ later, P.Rely t c later → P.wp p Q X t later) : P.wp p Q X t c := by
  cases p with
  | ret => exact fun final hfinal => h final hfinal final hfinal.self
  | raise => exact fun final hfinal => h final hfinal final hfinal.self
  | exec => exact fun final hfinal hguard => h final hfinal final hfinal.self hguard

theorem wp_mono (h : P.wp p Q X t c) (hQ : ∀ value t c, Q value t c → Q' value t c)
    (hX : ∀ error t c, X error t c → X' error t c) : P.wp p Q' X' t c := by
  induction p generalizing t c with
  | ret value => exact fun final hfinal => hQ value t final (h final hfinal)
  | raise error => exact fun final hfinal => hX error t final (h final hfinal)
  | exec _ _ ih => exact fun final hfinal hguard => ih _ (h final hfinal hguard)

theorem wp_and (h : P.wp p Q X t c) (h' : P.wp p Q' X' t c) :
    P.wp p (fun value t c => Q value t c ∧ Q' value t c)
      (fun error t c => X error t c ∧ X' error t c) t c := by
  induction p generalizing t c with
  | ret => exact fun final hfinal => ⟨h final hfinal, h' final hfinal⟩
  | raise => exact fun final hfinal => ⟨h final hfinal, h' final hfinal⟩
  | exec _ _ ih =>
    exact fun final hfinal hguard => ih _ (h final hfinal hguard) (h' final hfinal hguard)

variable {f : α → Program E.toSignature ε β}

/-- The rule of sequence. -/
theorem wp_bind {Q : β → Assertion E} (h : P.wp p (fun value t c => P.wp (f value) Q X t c) X t c) :
    P.wp (p >>= f) Q X t c := by
  induction p generalizing t c with
  | ret => exact wp_of_later fun later hlater => h later hlater
  | raise => exact h
  | exec _ _ ih => exact fun final hfinal hguard => ih _ (h final hfinal hguard)

variable {handler : ε → Program E.toSignature ε α}

/-- The rule of handled exceptions. -/
theorem wp_tryCatch (h : P.wp p Q (fun error t c => P.wp (handler error) Q X t c) t c) :
    P.wp (p.tryCatch handler) Q X t c := by
  induction p generalizing t c with
  | ret => exact h
  | raise => exact wp_of_later fun later hlater => h later hlater
  | exec _ _ ih => exact fun final hfinal hguard => ih _ (h final hfinal hguard)

/-! ## Specifications -/

variable (P)

/-- From `A`, the program returns in `B` or raises in `X`. -/
def Triple (A : Assertion E) (p : Program E.toSignature ε α) (B : α → Assertion E)
    (X : ε → Assertion E) : Prop :=
  ∀ t c, A t c → P.wp p B X t c

/-- From `A`, the program ends in `B` if it returns. -/
abbrev Ensures (A : Assertion E) (p : Program E.toSignature ε α) (B : α → Assertion E) : Prop :=
  P.Triple A p B fun _ _ _ => True

/-- The program starts and ends in `A`, also when it raises. -/
def Keeps (A : Assertion E) (p : Program E.toSignature ε α) : Prop :=
  P.Triple A p (fun _ => A) fun _ => A

variable {P} {A A' : Assertion E} {B B' : α → Assertion E} {φ : E.Op → Prop}

theorem Triple.conseq (h : P.Triple A p B X) (hA : ∀ t c, A' t c → A t c)
    (hB : ∀ value t c, B value t c → B' value t c)
    (hX : ∀ error t c, X error t c → X' error t c) : P.Triple A' p B' X' :=
  fun t c hpre => wp_mono (h t c (hA t c hpre)) hB hX

theorem Triple.post (h : P.Triple A p B X) (hB : ∀ value t c, B value t c → B' value t c) :
    P.Triple A p B' X :=
  h.conseq (fun _ _ h => h) hB fun _ _ _ h => h

theorem Keeps.ensures (h : P.Keeps A p) : P.Ensures A p fun _ => A :=
  h.conseq (fun _ _ h => h) (fun _ _ _ h => h) fun _ _ _ _ => trivial

theorem triple_ret (hA : P.Stable A) (h : ∀ t c, A t c → B value t c) :
    P.Triple A (Program.ret value) B X :=
  fun t c hpre later hlater => h t later (hA t c later hlater hpre)

theorem triple_raise (hA : P.Stable A) (h : ∀ t c, A t c → X error t c) :
    P.Triple A (Program.raise error : Program E.toSignature ε α) B X :=
  fun t c hpre later hlater => h t later (hA t c later hlater hpre)

theorem triple_bind (hp : P.Triple A p B X)
    (hf : ∀ value, P.Triple (B value) (f value) C X) : P.Triple A (p >>= f) C X :=
  fun t c hpre => wp_bind (wp_mono (hp t c hpre) (fun value t c => hf value t c) fun _ _ _ h => h)

theorem triple_tryCatch (hp : P.Triple A p B X)
    (hh : ∀ error, P.Triple (X error) (handler error) B X') :
    P.Triple A (p.tryCatch handler) B X' :=
  fun t c hpre =>
    wp_tryCatch (wp_mono (hp t c hpre) (fun _ _ _ h => h) fun error t c => hh error t c)

/-- The rule of a loop, with an invariant that knows what is left to do. -/
theorem triple_forM {I : List γ → Assertion E}
    {f : γ → Program E.toSignature ε PUnit} (hend : P.Stable (I []))
    (hbody : ∀ x rest, P.Triple (I (x :: rest)) (f x) (fun _ => I rest) X) (xs : List γ) :
    P.Triple (I xs) (xs.forM f) (fun _ => I []) X := by
  induction xs with
  | nil => exact triple_ret hend fun _ _ h => h
  | cons x rest ih => exact triple_bind (hbody x rest) fun _ => ih

/-- The rule of a single statement. -/
theorem triple_perform {B : E.Reply op → Assertion E} (hA : P.Stable A)
    (hB : ∀ reply, P.Stable (B reply))
    (h : ∀ t c, P.Inv c → P.guard op t c → A t c → B (t.reply c op) (t.after c op) c) :
    P.Triple A (Program.perform op : Program E.toSignature ε _) B X := by
  intro t c hpre later hlater hguard final hfinal
  exact hB _ _ later final hfinal (h t later hlater.1 hguard (hA t c later hlater hpre))

theorem keeps_bind (hp : P.Keeps A p) (hf : ∀ value, P.Keeps A (f value)) : P.Keeps A (p >>= f) :=
  triple_bind hp hf

theorem keeps_tryCatch (hp : P.Keeps A p) (hh : ∀ error, P.Keeps A (handler error)) :
    P.Keeps A (p.tryCatch handler) :=
  triple_tryCatch hp hh

/-- The frame rule: a stable assertion that every statement of the program keeps
may be carried along. -/
theorem wp_frame (hA : P.Stable A)
    (hstep : ∀ op, φ op → ∀ t c, P.Inv c → P.guard op t c → A t c → A (t.after c op) c)
    (hp : p.Every φ) (h : P.wp p Q X t c) (hpre : A t c) :
    P.wp p (fun value t c => Q value t c ∧ A t c) (fun error t c => X error t c ∧ A t c) t c := by
  induction p generalizing t c with
  | ret =>
    intro later hlater
    exact ⟨h later hlater, hA t c later hlater hpre⟩
  | raise =>
    intro later hlater
    exact ⟨h later hlater, hA t c later hlater hpre⟩
  | exec op _ ih =>
    intro later hlater hguard
    have hkept := hstep op hp.1 t later hlater.1 hguard (hA t c later hlater hpre)
    exact ih _ (hp.2 _) (h later hlater hguard) hkept

/-- The committed state a program ends on satisfies the invariant. -/
theorem wp_inv (h : P.wp p Q X t c) :
    P.wp p (fun value t c => Q value t c ∧ P.Inv c) (fun error t c => X error t c ∧ P.Inv c) t c := by
  induction p generalizing t c with
  | ret => exact fun later hlater => ⟨h later hlater, hlater.1⟩
  | raise => exact fun later hlater => ⟨h later hlater, hlater.1⟩
  | exec _ _ ih => exact fun later hlater hguard => ih _ (h later hlater hguard)

theorem wp_true : P.wp p (fun _ _ _ => True) (fun _ _ _ => True) t c := by
  induction p generalizing t c with
  | ret => exact fun _ _ => trivial
  | raise => exact fun _ _ => trivial
  | exec _ _ ih => exact fun _ _ _ => ih _

/-- A program all of whose statements keep a stable assertion keeps it. -/
theorem keeps_of_every (hA : P.Stable A)
    (hstep : ∀ op, φ op → ∀ t c, P.Inv c → P.guard op t c → A t c → A (t.after c op) c)
    (hp : p.Every φ) : P.Keeps A p :=
  fun _ _ hpre => wp_mono (wp_frame hA hstep hp wp_true hpre) (fun _ _ _ h => h.2)
    fun _ _ _ h => h.2

/-- What a transaction knows of its locks may be carried along. -/
theorem wp_kept (h : P.wp p Q X t c) (hpre : t.Kept c) :
    P.wp p (fun value t c => Q value t c ∧ t.Kept c) (fun error t c => X error t c ∧ t.Kept c)
      t c :=
  wp_frame (φ := fun _ => True) (fun _ _ _ hrely hkept => hkept.later hrely.2.2)
    (fun op _ _ _ _ _ hkept => hkept.after op) (p.every_of_forall fun _ => trivial) h hpre

/-- A program that keeps an assertion which is enough to commit meets the
protocol. -/
theorem Keeps.commitOk (hp : P.Keeps A p) (hA : ∀ t c, P.Inv c → A t c → P.CommitOk t c)
    (hpre : A t c) : P.wp p (fun _ => P.CommitOk) (fun _ _ _ => True) t c :=
  wp_mono (wp_inv (hp t c hpre)) (fun _ t c h => hA t c h.2 h.1) fun _ _ _ _ => trivial

/-! ## What a program does whatever the others do -/

/-- The protocol that promises nothing but that the committed states lie in `S`.
A specification over it holds under every protocol whose invariant implies `S`,
and, with a single state in `S`, of the program running alone. -/
def reads (S : Committed E → Prop) : Protocol E where
  Inv := S
  Guar _ _ := True
  guard _ _ _ := True
  Done _ := True
  guar_refl _ := trivial
  guar_trans _ _ := trivial

/-- The protocol that promises in addition that the committed state moves by changes only. -/
def along (S : Committed E → Prop) (ok : E.Op → Tx E → Committed E → Prop) : Protocol E where
  Inv := S
  Guar c later := ∃ ws, later = c.extend ws
  guard := ok
  Done _ := True
  guar_refl c := ⟨[], Committed.extend_nil.symm⟩
  guar_trans := by
    rintro first second third ⟨ws, rfl⟩ ⟨more, rfl⟩
    exact ⟨ws ++ more, by simp [Committed.extend]⟩

theorem wp_of_reads (hS : ∀ c, P.Inv c → S c) (h : (reads S).wp p Q X t c) : P.wp p Q X t c := by
  induction p generalizing t c with
  | ret => exact fun later hlater => h later ⟨hS _ hlater.1, trivial, hlater.2.2⟩
  | raise => exact fun later hlater => h later ⟨hS _ hlater.1, trivial, hlater.2.2⟩
  | exec _ _ ih =>
    exact fun later hlater _ => ih _ (h later ⟨hS _ hlater.1, trivial, hlater.2.2⟩ trivial)

/-- While a transaction holds the lock on a row, all it sees are states in which nobody has
written that row. -/
theorem Rely.while (h : P.Rely t mid later)
    (hkey : key ∈ t.keys) (hguar : P.Guar c mid) (hspares : c.Spares key mid) :
    P.While key c later :=
  ⟨h.1, P.guar_trans hguar h.2.1, hspares.trans (h.2.2 key hkey)⟩

theorem wp_of_reads_while (hkey : key ∈ t.keys) (hguar : P.Guar c mid) (hspares : c.Spares key mid)
    (h : (reads (P.While key c)).wp p Q X t mid) :
    P.wp p (fun value t later => Q value t later ∧ P.While key c later) X t mid := by
  induction p generalizing t mid with
  | ret =>
    intro later hrely
    have hlater := hrely.while hkey hguar hspares
    exact ⟨h later ⟨hlater, trivial, hrely.2.2⟩, hlater⟩
  | raise => exact fun later hrely => h later ⟨hrely.while hkey hguar hspares, trivial, hrely.2.2⟩
  | exec _ _ ih =>
    intro later hrely _
    have hlater := hrely.while hkey hguar hspares
    exact ih _ (Tx.keys_subset_after hkey) hlater.2.1 hlater.2.2
      (h later ⟨hlater, trivial, hrely.2.2⟩ trivial)

end Protocol

end Txn

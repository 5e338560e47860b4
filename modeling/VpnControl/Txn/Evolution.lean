/-
# How the rows of a table evolve

Between two states of a table a row stays, is changed in place or is new, and no row goes.
`Table.Evolves step fresh` says so, together with what a change may do to a row and what a new
row may look like. A statement gets one such fact, a sequence of statements gets it by
transitivity, and both an invariant of the rows and a property of every change follow from it.
-/

import VpnControl.Txn.Table

namespace Txn.Table

open List

variable {R K : Type} [Row R K] {step : R → R → Prop} {fresh : R → Prop}
  {before mid after : Table R}

/-- Every row of `after` is a row of `before` after a `step`, or a `fresh` one. -/
structure Evolves (step : R → R → Prop) (fresh : R → Prop) (before after : Table R) : Prop where
  kept : ∀ old ∈ before.rows, ∃ new ∈ after.rows, Row.key new = Row.key old
  origin : ∀ new ∈ after.rows, (∃ old ∈ before.rows, Row.key old = Row.key new ∧ step old new) ∨
      (∀ old ∈ before.rows, Row.key old ≠ Row.key new) ∧ fresh new

theorem eq_of_mem_of_key {table : Table R} (hfirst : first ∈ table.rows)
    (hsecond : second ∈ table.rows) (h : Row.key first = Row.key second) : first = second :=
  inj_on_of_nodup_map table.nodup hfirst hsecond h

namespace Evolves

/-- Where a row is there before and after, it has made a step. -/
theorem step_of_mem (h : Evolves step fresh before after)
    (hold : old ∈ before.rows) (hnew : new ∈ after.rows) (hkey : Row.key new = Row.key old) :
    step old new := by
  rcases h.origin new hnew with ⟨source, hsource, hsame, hstep⟩ | ⟨hfree, -⟩
  · obtain rfl := eq_of_mem_of_key hsource hold (hsame.trans hkey)
    exact hstep
  · exact absurd hkey.symm (hfree old hold)

theorem invariant (h : Evolves step fresh before after) {P : R → Prop}
    (hstep : ∀ old new, step old new → P old → P new) (hfresh : ∀ new, fresh new → P new)
    (hbefore : ∀ row ∈ before.rows, P row) : ∀ row ∈ after.rows, P row := by
  intro new hnew
  rcases h.origin new hnew with ⟨old, hold, -, hchange⟩ | ⟨-, hcreated⟩
  · exact hstep old new hchange (hbefore old hold)
  · exact hfresh new hcreated

theorem refl (hrefl : ∀ row, step row row) (table : Table R) : Evolves step fresh table table where
  kept old hold := ⟨old, hold, rfl⟩
  origin new hnew := .inl ⟨new, hnew, rfl, hrefl new⟩

theorem trans (htrans : ∀ first second third, step first second → step second third →
      step first third)
    (hfresh : ∀ first second, fresh first → step first second → fresh second)
    (h : Evolves step fresh before mid) (h' : Evolves step fresh mid after) :
    Evolves step fresh before after where
  kept := by
    intro old hold
    obtain ⟨moved, hmoved, hkey⟩ := h.kept old hold
    obtain ⟨new, hnew, hkey'⟩ := h'.kept moved hmoved
    exact ⟨new, hnew, hkey'.trans hkey⟩
  origin := by
    intro new hnew
    rcases h'.origin new hnew with ⟨moved, hmoved, hkey, hlast⟩ | ⟨hfree, hcreated⟩
    · rcases h.origin moved hmoved with ⟨old, hold, hkey', hfirst⟩ | ⟨hfree, hcreated⟩
      · exact .inl ⟨old, hold, hkey'.trans hkey, htrans old moved new hfirst hlast⟩
      · refine .inr ⟨fun old hold => ?_, hfresh moved new hcreated hlast⟩
        rw [← hkey]
        exact hfree old hold
    · refine .inr ⟨fun old hold hsame => ?_, hcreated⟩
      obtain ⟨moved, hmoved, hkey⟩ := h.kept old hold
      exact hfree moved hmoved (hkey.trans hsame)

theorem map (hrows : after.rows = before.rows.map f)
    (h : ∀ row ∈ before.rows, Row.key (f row) = Row.key row ∧ step row (f row)) :
    Evolves step fresh before after where
  kept := by
    intro old hold
    exact ⟨f old, hrows ▸ mem_map_of_mem hold, (h old hold).1⟩
  origin := by
    intro new hnew
    rw [hrows] at hnew
    obtain ⟨old, hold, rfl⟩ := mem_map.mp hnew
    exact .inl ⟨old, hold, (h old hold).1.symm, (h old hold).2⟩

theorem modifyWhere (hrefl : ∀ row, step row row) (table : Table R) (p : R → Bool) (f : R → R)
    (hf : ∀ row, Row.key (f row) = Row.key row)
    (h : ∀ row ∈ table.rows, p row = true → step row (f row)) :
    Evolves step fresh table (table.modifyWhere p f hf) := by
  refine .map rfl fun old hold => ?_
  split
  · rename_i hp
    exact ⟨hf old, h old hold hp⟩
  · exact ⟨rfl, hrefl old⟩

theorem insert [DecidableEq K] (hrefl : ∀ row, step row row) (table : Table R)
    (hrow : fresh row) : Evolves step fresh table (table.insert row) := by
  unfold Table.insert
  split
  · exact refl hrefl table
  · rename_i hfree
    refine ⟨fun old hold => ⟨old, mem_append_left _ hold, rfl⟩, fun new hnew => ?_⟩
    rcases mem_append.mp hnew with hold | hlast
    · exact .inl ⟨new, hold, rfl, hrefl new⟩
    · obtain rfl : new = row := by simpa using hlast
      exact .inr ⟨fun old hold hkey => hfree (mem_map.mpr ⟨old, hold, hkey⟩), hrow⟩

end Evolves

end Txn.Table

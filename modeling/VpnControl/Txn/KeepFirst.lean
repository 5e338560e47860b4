/-
# Keeping the first element of each kind

A list is filled from left to right with elements that carry a name, and an element whose name is
taken is left out. The names of the result are distinct, every name that occurs is there, and an
element is there exactly if no earlier one has its name.
-/

import Mathlib.Data.List.Nodup

namespace Txn

open List

variable {α β : Type*} [DecidableEq β]

/-- Append an element unless its name is taken. -/
def keepFirst (name : α → β) (kept : List α) (x : α) : List α :=
  if kept.any (fun y => name y = name x) then kept else kept ++ [x]

variable {name : α → β} {kept xs : List α} {x : α}

theorem keepFirst_of_mem (h : name x ∈ kept.map name) : keepFirst name kept x = kept := by
  obtain ⟨y, hy, hname⟩ := mem_map.mp h
  exact if_pos (any_eq_true.mpr ⟨y, hy, decide_eq_true hname⟩)

theorem keepFirst_of_notMem (h : name x ∉ kept.map name) : keepFirst name kept x = kept ++ [x] := by
  refine if_neg fun hany => ?_
  obtain ⟨y, hy, hname⟩ := any_eq_true.mp hany
  exact h (mem_map.mpr ⟨y, hy, of_decide_eq_true hname⟩)

theorem nodup_map_foldl_keepFirst (hkept : (kept.map name).Nodup) (xs : List α) :
    ((xs.foldl (keepFirst name) kept).map name).Nodup := by
  induction xs generalizing kept with
  | nil => exact hkept
  | cons x _ ih =>
    refine ih ?_
    by_cases hx : name x ∈ kept.map name
    · rwa [keepFirst_of_mem hx]
    · rw [keepFirst_of_notMem hx, map_append, map_singleton, ← concat_eq_append]
      exact hkept.concat hx

/-- An element is kept if it was there before, or if its name was free before the list and no
earlier element of the list has it. -/
theorem mem_foldl_keepFirst :
    x ∈ xs.foldl (keepFirst name) kept ↔ x ∈ kept ∨ name x ∉ kept.map name ∧
      ∃ before after, xs = before ++ x :: after ∧ ∀ y ∈ before, name y ≠ name x := by
  induction xs generalizing kept with
  | nil => simp
  | cons head rest ih =>
    rw [foldl_cons, ih]
    by_cases hhead : name head ∈ kept.map name
    · -- the head is left out, so the name of an element that is kept later differs from its own
      rw [keepFirst_of_mem hhead]
      refine or_congr_right (and_congr_right fun hx => ?_)
      have hne : name head ≠ name x := fun heq => hx (heq ▸ hhead)
      constructor
      · rintro ⟨before, after, rfl, hbefore⟩
        refine ⟨head :: before, after, rfl, ?_⟩
        simpa [hne] using hbefore
      · rintro ⟨before, after, hsplit, hbefore⟩
        cases before with
        | nil =>
          cases hsplit
          exact absurd rfl hne
        | cons _ before =>
          cases hsplit
          exact ⟨before, after, rfl, fun y hy => hbefore y (mem_cons_of_mem _ hy)⟩
    · rw [keepFirst_of_notMem hhead, mem_append, mem_singleton, map_append,
        mem_append, map_singleton, mem_singleton, or_assoc]
      refine or_congr_right ?_
      constructor
      · rintro (rfl | ⟨hx, before, after, rfl, hbefore⟩)
        · exact ⟨hhead, [], rest, rfl, by simp⟩
        · rw [not_or] at hx
          refine ⟨hx.1, head :: before, after, rfl, ?_⟩
          simpa [Ne.symm hx.2] using hbefore
      · rintro ⟨hx, before, after, hsplit, hbefore⟩
        cases before with
        | nil =>
          cases hsplit
          exact .inl rfl
        | cons _ before =>
          cases hsplit
          refine .inr ⟨not_or.mpr ⟨hx, ?_⟩, before, after, rfl, fun y hy =>
            hbefore y (mem_cons_of_mem _ hy)⟩
          exact (hbefore head mem_cons_self).symm

theorem mem_map_foldl_keepFirst :
    n ∈ (xs.foldl (keepFirst name) kept).map name ↔ n ∈ kept.map name ∨ n ∈ xs.map name := by
  induction xs generalizing kept with
  | nil => simp
  | cons head _ ih =>
    rw [foldl_cons, ih, map_cons, mem_cons]
    by_cases hhead : name head ∈ kept.map name
    · rw [keepFirst_of_mem hhead]
      constructor
      · exact fun h => h.imp_right .inr
      · rintro (h | rfl | h)
        · exact .inl h
        · exact .inl hhead
        · exact .inr h
    · rw [keepFirst_of_notMem hhead, map_append, mem_append, map_singleton, mem_singleton, or_assoc]

end Txn

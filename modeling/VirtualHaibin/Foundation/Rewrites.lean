import Mathlib.Algebra.BigOperators.Group.List.Basic
import VirtualHaibin.Foundation.Table

/-!
# Rewriting many rows

A sequence of writes, each over a row of its own, changes every listed row and no other.  What it leaves
under each key is one function of what was there before, so the order of the writes does not matter.
-/

namespace VirtualHaibin.Foundation.Table

universe u v w

variable {ρ : Type u} {κ : Type v} [DecidableEq κ] {key : ρ → κ} {before middle after after' : Table key}
  {rows rows' : List ρ} {change change' : ρ → ρ}

/-- `after` is `before` with every listed row changed. -/
structure Rewrote (before after : Table key) (rows : List ρ) (change : ρ → ρ) : Prop where
  find : ∀ k, after.find? k = (before.find? k).map fun row ↦ if k ∈ rows.map key then change row else row
  sum : ∀ weight : ρ → ℕ,
    after.sum weight + (rows.map weight).sum = before.sum weight + (rows.map (weight ∘ change)).sum

theorem wrote_self {k : κ} {row : ρ} (h : before.find? k = some row) : Wrote before before (some row) row where
  old_eq := by rw [key_of_find? h, h]
  find other := by
    split
    · rename_i heq
      rw [← heq, key_of_find? h, h]
    · rfl
  sum _ := rfl

theorem Wrote.trans {old : Option ρ} {new newer : ρ} (h : Wrote before middle old new)
    (h' : Wrote middle after (some new) newer) (hkey : key newer = key new) : Wrote before after old newer where
  old_eq := by rw [hkey, h.old_eq]
  find k := by
    rw [h'.find, h.find, hkey]
    split <;> rfl
  sum weight := by
    have hfirst := h.sum weight
    have hsecond := h'.sum weight
    rw [Option.elim_some] at hsecond
    omega

theorem rewrote_nil (table : Table key) (change : ρ → ρ) : Rewrote table table [] change where
  find k := by simp
  sum _ := rfl

/-- A write over a row that the later writes do not touch. -/
theorem Rewrote.cons {row : ρ} (first : Wrote before middle (some row) (change row))
    (rest : Rewrote middle after rows change) (hkey : key (change row) = key row)
    (hfresh : key row ∉ rows.map key) : Rewrote before after (row :: rows) change where
  find k := by
    rw [rest.find, first.find, hkey]
    by_cases hk : key row = k
    · have hbefore : before.find? k = some row := by rw [← hk, ← hkey, first.old_eq]
      rw [if_pos hk, hbefore, Option.map_some, Option.map_some, if_neg (hk ▸ hfresh), if_pos]
      rw [List.map_cons, hk]
      exact List.mem_cons_self
    · have hmem : k ∈ (row :: rows).map key ↔ k ∈ rows.map key := by
        rw [List.map_cons, List.mem_cons, or_iff_right (Ne.symm hk)]
      rw [if_neg hk]
      simp only [hmem]
  sum weight := by
    have hfirst := first.sum weight
    have hrest := rest.sum weight
    rw [Option.elim_some] at hfirst
    rw [List.map_cons, List.map_cons, List.sum_cons, List.sum_cons, Function.comp_apply]
    omega

/-- A listed row is changed. -/
theorem Rewrote.find_of_mem (h : Rewrote before after rows change) {row : ρ} (hmem : row ∈ rows)
    (hfind : before.find? (key row) = some row) : after.find? (key row) = some (change row) := by
  rw [h.find, hfind, Option.map_some, if_pos (List.mem_map_of_mem hmem)]

theorem Rewrote.find_of_not_mem (h : Rewrote before after rows change) {k : κ} (hmem : k ∉ rows.map key) :
    after.find? k = before.find? k := by
  rw [h.find, funext fun row ↦ if_neg hmem]
  exact Option.map_id'

/-- Two sequences of writes over the same rows leave the same, in the view in which their changes agree. -/
theorem Rewrote.view_eq {β : Type w} (h : Rewrote before after rows change)
    (h' : Rewrote before after' rows' change') (hperm : rows.Perm rows') (view : ρ → β)
    (hview : ∀ row, view (change row) = view (change' row)) (k : κ) :
    (after.find? k).map view = (after'.find? k).map view := by
  have hmem : k ∈ rows.map key ↔ k ∈ rows'.map key := (hperm.map key).mem_iff
  rw [h.find, h'.find, Option.map_map, Option.map_map]
  congr 1
  funext row
  rw [Function.comp_apply, Function.comp_apply]
  by_cases hk : k ∈ rows.map key
  · rw [if_pos hk, if_pos (hmem.1 hk), hview]
  · rw [if_neg hk, if_neg (mt hmem.2 hk)]

/-- Two sequences of writes over the same rows leave the same total of a weight their changes agree in. -/
theorem Rewrote.sum_eq (h : Rewrote before after rows change) (h' : Rewrote before after' rows' change')
    (hperm : rows.Perm rows') (weight : ρ → ℕ) (hweight : ∀ row, weight (change row) = weight (change' row)) :
    after.sum weight = after'.sum weight := by
  have hsum := h.sum weight
  have hsum' := h'.sum weight
  have hold : (rows.map weight).sum = (rows'.map weight).sum := (hperm.map weight).sum_eq
  have hnew : (rows.map (weight ∘ change)).sum = (rows'.map (weight ∘ change')).sum := by
    rw [show weight ∘ change = weight ∘ change' from funext hweight]
    exact (hperm.map _).sum_eq
  omega

end VirtualHaibin.Foundation.Table

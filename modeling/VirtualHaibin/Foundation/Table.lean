import Mathlib.Algebra.BigOperators.Group.List.Basic
import Mathlib.Algebra.GroupWithZero.Nat
import Mathlib.Algebra.Order.BigOperators.Group.List
import Mathlib.Algebra.Order.Group.Nat
import Mathlib.Data.List.Nodup
import Mathlib.Data.List.Perm.Subperm
import Mathlib.Tactic.Common

/-!
# Tables with a primary key

A table is a list of rows in insertion order whose keys are distinct.  Insertion refuses a
taken key, and modification addresses one key and may not change it, so distinctness is never
re-proved by a caller.  Sums over the rows change by exactly the row that was touched.
-/

namespace VirtualHaibin.Foundation

universe u v w

variable {ρ : Type u} {κ : Type v}

/-- Rows in insertion order with distinct keys. -/
@[ext] structure Table (key : ρ → κ) where
  rows : List ρ
  nodup : (rows.map key).Nodup

namespace Table

variable {key : ρ → κ}

def empty : Table key := ⟨[], by simp⟩

variable [DecidableEq κ]

/-- The row stored under a key. -/
def find? (table : Table key) (k : κ) : Option ρ := table.rows.find? fun row ↦ key row = k

/-- Append a row, unless its key is taken. -/
def insert? (table : Table key) (row : ρ) : Option (Table key) :=
  if hfresh : key row ∈ table.rows.map key then none
  else some ⟨table.rows ++ [row], by
    rw [List.map_append, List.nodup_append]
    refine ⟨table.nodup, by simp, ?_⟩
    rintro k hk other hother rfl
    simp only [List.map_cons, List.map_nil, List.mem_singleton] at hother
    exact hfresh (hother ▸ hk)⟩

theorem map_key_modify (rows : List ρ) (k : κ) (change : ρ → ρ)
    (hkey : ∀ row, key (change row) = key row) :
    (rows.map fun row ↦ if key row = k then change row else row).map key = rows.map key := by
  rw [List.map_map]
  refine List.map_congr_left fun row _ ↦ ?_
  simp only [Function.comp_apply]
  split
  · exact hkey row
  · rfl

/-- Rewrite the row stored under a key, if there is one. -/
def modify (table : Table key) (k : κ) (change : ρ → ρ)
    (hkey : ∀ row, key (change row) = key row := by intro row; rfl) : Table key :=
  ⟨table.rows.map fun row ↦ if key row = k then change row else row, by
    rw [map_key_modify table.rows k change hkey]
    exact table.nodup⟩

/-- The total of a weight over all rows. -/
def sum (table : Table key) (weight : ρ → ℕ) : ℕ := (table.rows.map weight).sum

@[simp] theorem find?_empty (k : κ) : (empty : Table key).find? k = none := rfl

omit [DecidableEq κ] in
@[simp] theorem sum_empty (weight : ρ → ℕ) : (empty : Table key).sum weight = 0 := rfl

theorem key_of_find? {table : Table key} {k : κ} {row : ρ} (h : table.find? k = some row) :
    key row = k := by
  simpa using List.find?_some h

theorem mem_of_find? {table : Table key} {k : κ} {row : ρ} (h : table.find? k = some row) :
    row ∈ table.rows :=
  List.mem_of_find?_eq_some h

theorem find?_eq_none {table : Table key} {k : κ} :
    table.find? k = none ↔ k ∉ table.rows.map key := by
  simp [find?]

/-- The rows before and after the one stored under a key. -/
theorem split_of_find? {table : Table key} {k : κ} {row : ρ} (h : table.find? k = some row) :
    ∃ before after, table.rows = before ++ row :: after ∧
      (∀ other ∈ before, key other ≠ k) ∧ ∀ other ∈ after, key other ≠ k := by
  obtain ⟨before, after, hrows⟩ := List.append_of_mem (mem_of_find? h)
  have hkey := key_of_find? h
  have hnodup := table.nodup
  rw [hrows, List.map_append, List.map_cons, List.nodup_append, List.nodup_cons] at hnodup
  obtain ⟨-, ⟨hafter, -⟩, hbefore⟩ := hnodup
  refine ⟨before, after, hrows, fun other hother heq ↦ ?_, fun other hother heq ↦ ?_⟩
  · exact hbefore (key other) (List.mem_map_of_mem hother) (key row) (by simp) (heq.trans hkey.symm)
  · exact hafter (hkey ▸ heq ▸ List.mem_map_of_mem hother)

theorem find?_eq_some {table : Table key} {k : κ} {row : ρ} :
    table.find? k = some row ↔ row ∈ table.rows ∧ key row = k := by
  constructor
  · exact fun h ↦ ⟨mem_of_find? h, key_of_find? h⟩
  · rintro ⟨hmem, rfl⟩
    cases hfind : table.find? (key row) with
    | none => exact absurd (List.mem_map_of_mem hmem) (find?_eq_none.1 hfind)
    | some other =>
      obtain ⟨before, after, hrows, hbefore, hafter⟩ := split_of_find? hfind
      rw [hrows, List.mem_append, List.mem_cons] at hmem
      rcases hmem with hmem | rfl | hmem
      · exact absurd rfl (hbefore row hmem)
      · rfl
      · exact absurd rfl (hafter row hmem)

theorem find?_of_mem {table : Table key} {row : ρ} (h : row ∈ table.rows) :
    table.find? (key row) = some row :=
  find?_eq_some.2 ⟨h, rfl⟩

theorem insert?_eq_some {table table' : Table key} {row : ρ} :
    table.insert? row = some table' ↔
      table.find? (key row) = none ∧ table'.rows = table.rows ++ [row] := by
  rw [find?_eq_none]
  unfold insert?
  split
  · rename_i htaken
    simp [htaken]
  · rename_i hfresh
    simp only [Option.some.injEq, hfresh, not_false_eq_true, true_and]
    constructor
    · rintro rfl
      rfl
    · intro hrows
      exact Table.ext hrows.symm

theorem find?_insert? {table table' : Table key} {row : ρ} (h : table.insert? row = some table')
    (k : κ) : table'.find? k = if key row = k then some row else table.find? k := by
  obtain ⟨hfresh, hrows⟩ := insert?_eq_some.1 h
  simp only [find?] at hfresh ⊢
  rw [hrows, List.find?_append]
  split
  · rename_i heq
    subst heq
    rw [hfresh]
    simp
  · rename_i hne
    simp [hne]

theorem find?_modify (table : Table key) (k : κ) (change : ρ → ρ)
    (hkey : ∀ row, key (change row) = key row) (other : κ) :
    (table.modify k change hkey).find? other =
      if k = other then (table.find? other).map change else table.find? other := by
  simp only [find?, modify, List.find?_map]
  have hpred : ((fun row ↦ decide (key row = other)) ∘ fun row ↦ if key row = k then change row else row) =
      fun row ↦ decide (key row = other) := by
    funext row
    simp only [Function.comp_apply]
    split
    · rw [hkey]
    · rfl
  rw [hpred]
  cases hfind : table.rows.find? (fun row ↦ decide (key row = other)) with
  | none => simp
  | some row =>
    have hrow : key row = other := by simpa using List.find?_some hfind
    simp only [Option.map_some, hrow]
    split
    · rename_i heq
      simp [heq]
    · rename_i hne
      simp [Ne.symm hne]

theorem sum_insert? {table table' : Table key} {row : ρ} (h : table.insert? row = some table')
    (weight : ρ → ℕ) : table'.sum weight = table.sum weight + weight row := by
  simp [sum, (insert?_eq_some.1 h).2]

theorem le_sum {table : Table key} {k : κ} {row : ρ} (h : table.find? k = some row)
    (weight : ρ → ℕ) : weight row ≤ table.sum weight := by
  obtain ⟨before, after, hrows, -, -⟩ := split_of_find? h
  simp only [sum, hrows, List.map_append, List.map_cons, List.sum_append, List.sum_cons]
  omega

/-- Modifying one row moves a total by the change of that row's weight. -/
theorem sum_modify {table : Table key} {k : κ} {row : ρ} (h : table.find? k = some row)
    (change : ρ → ρ) (hkey : ∀ row, key (change row) = key row) (weight : ρ → ℕ) :
    (table.modify k change hkey).sum weight + weight row = table.sum weight + weight (change row) := by
  obtain ⟨before, after, hrows, hbefore, hafter⟩ := split_of_find? h
  have hmap : ∀ others : List ρ, (∀ other ∈ others, key other ≠ k) →
      (others.map fun row ↦ if key row = k then change row else row) = others := by
    intro others hothers
    rw [List.map_congr_left (g := id) fun other hother ↦ by simp [hothers other hother], List.map_id]
  simp only [sum, modify, hrows, List.map_append, List.map_cons]
  rw [hmap before hbefore, hmap after hafter, if_pos (key_of_find? h)]
  simp only [List.sum_append, List.sum_cons]
  omega

/-- Items under distinct keys, none larger than the row it is stored under, sum to no more than the rows. -/
theorem sum_items_le {ι : Type w} {table : Table key} {items : List ι} {keyOf : ι → κ} {size : ι → ℕ}
    {weight : ρ → ℕ} (hnodup : (items.map keyOf).Nodup)
    (hstored : ∀ item ∈ items, ∃ row, table.find? (keyOf item) = some row ∧ size item ≤ weight row) :
    (items.map size).sum ≤ table.sum weight := by
  let share := fun k ↦ (table.find? k).elim 0 weight
  have hshare : ∀ row ∈ table.rows, share (key row) = weight row := by
    intro row hmem
    simp only [share, find?_of_mem hmem, Option.elim_some]
  have hkeys : items.map keyOf ⊆ table.rows.map key := by
    intro k hk
    obtain ⟨item, hitem, rfl⟩ := List.mem_map.1 hk
    obtain ⟨row, hrow, -⟩ := hstored item hitem
    exact key_of_find? hrow ▸ List.mem_map_of_mem (mem_of_find? hrow)
  obtain ⟨keys, hperm, hsublist⟩ := List.subperm_of_subset hnodup hkeys
  calc (items.map size).sum ≤ (items.map fun item ↦ share (keyOf item)).sum := by
        apply List.sum_le_sum
        intro item hitem
        obtain ⟨row, hrow, hsize⟩ := hstored item hitem
        simpa only [share, hrow, Option.elim_some] using hsize
    _ = ((items.map keyOf).map share).sum := by rw [List.map_map]; rfl
    _ = (keys.map share).sum := ((hperm.map share).sum_eq).symm
    _ ≤ ((table.rows.map key).map share).sum := (hsublist.map share).sum_le_sum fun _ _ ↦ Nat.zero_le _
    _ = table.sum weight := by
        rw [List.map_map, sum]
        exact congrArg List.sum (List.map_congr_left hshare)

/-! ## Writing one row -/

/-- `after` is `before` with the row `new` written, over `old` if its key was taken. -/
structure Wrote (before after : Table key) (old : Option ρ) (new : ρ) : Prop where
  old_eq : before.find? (key new) = old
  find : ∀ k, after.find? k = if key new = k then some new else before.find? k
  sum : ∀ weight : ρ → ℕ, after.sum weight + old.elim 0 weight = before.sum weight + weight new

theorem wrote_insert? {table table' : Table key} {row : ρ} (h : table.insert? row = some table') :
    Wrote table table' none row where
  old_eq := (insert?_eq_some.1 h).1
  find := find?_insert? h
  sum weight := by simpa using sum_insert? h weight

theorem wrote_modify {table : Table key} {k : κ} {row : ρ} (h : table.find? k = some row)
    (change : ρ → ρ) (hkey : ∀ row, key (change row) = key row) :
    Wrote table (table.modify k change hkey) (some row) (change row) where
  old_eq := by rw [hkey, key_of_find? h, h]
  find other := by
    rw [find?_modify, hkey, key_of_find? h]
    split
    · rename_i heq
      rw [← heq, h]
      rfl
    · rfl
  sum weight := sum_modify h change hkey weight

namespace Wrote

variable {before after : Table key} {old : Option ρ} {new : ρ}

theorem find_self (h : Wrote before after old new) : after.find? (key new) = some new := by
  rw [h.find, if_pos rfl]

theorem find_ne (h : Wrote before after old new) {k : κ} (hne : key new ≠ k) :
    after.find? k = before.find? k := by
  rw [h.find, if_neg hne]

/-- Every row of the new table is the written one or an old one under another key. -/
theorem cases (h : Wrote before after old new) {k : κ} {row : ρ} (hfind : after.find? k = some row) :
    (k = key new ∧ row = new) ∨ (k ≠ key new ∧ before.find? k = some row) := by
  rw [h.find] at hfind
  split at hfind
  · rename_i heq
    exact .inl ⟨heq.symm, (Option.some.inj hfind).symm⟩
  · rename_i hne
    exact .inr ⟨Ne.symm hne, hfind⟩

/-- The row found under the key of the overwritten one is the written one. -/
theorem eq_of_find {row other : ρ} (h : Wrote before after (some row) new) {k : κ}
    (hrow : before.find? k = some row) (hkey : key new = key row) (hfind : after.find? k = some other) :
    other = new := by
  rw [h.find, if_pos (hkey.trans (key_of_find? hrow))] at hfind
  exact (Option.some.inj hfind).symm

end Wrote

end Table

end VirtualHaibin.Foundation

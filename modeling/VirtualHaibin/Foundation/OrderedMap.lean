import VirtualHaibin.Foundation.Table

/-!
# Maps and sets in insertion order

A key keeps the place where it was first set, so the first entry is the oldest.  Setting a present
key changes its value and not its place.  `trim` bounds a map by deleting its oldest keys; what it
keeps is a suffix, and a suffix that fits the bound is kept whole.
-/

namespace VirtualHaibin.Foundation

universe u v

/-- Keys with values, in the order the keys were first set. -/
abbrev OrderedMap (κ : Type u) (ν : Type v) := Table (Prod.fst : κ × ν → κ)

/-- Keys in the order they were first added. -/
abbrev OrderedSet (κ : Type u) := Table (id : κ → κ)

namespace OrderedMap

variable {κ : Type u} {ν : Type v}

def size (map : OrderedMap κ ν) : ℕ := map.rows.length

/-- The keys, oldest first. -/
def keys (map : OrderedMap κ ν) : List κ := map.rows.map Prod.fst

def oldest? (map : OrderedMap κ ν) : Option κ := map.rows.head?.map Prod.fst

theorem length_keys (map : OrderedMap κ ν) : map.keys.length = map.size := List.length_map _

theorem nodup_keys (map : OrderedMap κ ν) : map.keys.Nodup := map.nodup

variable [DecidableEq κ]

def get? (map : OrderedMap κ ν) (k : κ) : Option ν := (map.find? k).map Prod.snd

def set (map : OrderedMap κ ν) (k : κ) (v : ν) : OrderedMap κ ν :=
  (map.insert? (k, v)).getD (map.modify k fun entry ↦ (entry.1, v))

def delete (map : OrderedMap κ ν) (k : κ) : OrderedMap κ ν :=
  ⟨map.rows.filter fun entry ↦ entry.1 ≠ k, (List.filter_sublist.map Prod.fst).nodup map.nodup⟩

/-- `while (size > max)`, delete the oldest key; every round deletes one. -/
def trimTo (max : ℕ) : ℕ → OrderedMap κ ν → OrderedMap κ ν
  | 0, map => map
  | rounds + 1, map =>
    if max < map.size then
      match map.oldest? with
      | none => map
      | some k => trimTo max rounds (map.delete k)
    else map

def trim (max : ℕ) (map : OrderedMap κ ν) : OrderedMap κ ν := trimTo max map.size map

theorem get?_eq_some {map : OrderedMap κ ν} {k : κ} {v : ν} : map.get? k = some v ↔ (k, v) ∈ map.rows := by
  unfold get?
  rw [Option.map_eq_some_iff]
  constructor
  · rintro ⟨⟨k', v'⟩, hfind, rfl⟩
    obtain ⟨hmem, rfl⟩ := Table.find?_eq_some.1 hfind
    exact hmem
  · intro hmem
    exact ⟨(k, v), Table.find?_of_mem hmem, rfl⟩

theorem get?_eq_none {map : OrderedMap κ ν} {k : κ} : map.get? k = none ↔ k ∉ map.keys := by
  unfold get?
  rw [Option.map_eq_none_iff]
  exact Table.find?_eq_none

theorem mem_keys {map : OrderedMap κ ν} {k : κ} : k ∈ map.keys ↔ ∃ v, map.get? k = some v := by
  rw [← Option.ne_none_iff_exists', Ne, get?_eq_none, not_not]

theorem mem_keys_of_get? {map : OrderedMap κ ν} {k : κ} {v : ν} (h : map.get? k = some v) : k ∈ map.keys :=
  mem_keys.2 ⟨v, h⟩

@[simp] theorem get?_empty (k : κ) : OrderedMap.get? (Table.empty : OrderedMap κ ν) k = none := rfl

/-! ## Setting a key -/

theorem insert?_eq_none {map : OrderedMap κ ν} {k : κ} {v : ν} :
    map.insert? (k, v) = none ↔ k ∈ map.keys := by
  unfold Table.insert? keys
  split
  · rename_i htaken
    simp only [htaken]
  · rename_i hfresh
    simp only [reduceCtorEq, hfresh]

theorem set_of_mem {map : OrderedMap κ ν} {k : κ} (h : k ∈ map.keys) (v : ν) :
    map.set k v = map.modify k fun entry ↦ (entry.1, v) := by
  unfold set
  rw [insert?_eq_none.2 h, Option.getD_none]

theorem rows_set_of_not_mem {map : OrderedMap κ ν} {k : κ} (h : k ∉ map.keys) (v : ν) :
    (map.set k v).rows = map.rows ++ [(k, v)] := by
  unfold set
  cases hinsert : map.insert? (k, v) with
  | none => exact absurd (insert?_eq_none.1 hinsert) h
  | some map' => exact (Table.insert?_eq_some.1 hinsert).2

theorem keys_set_of_mem {map : OrderedMap κ ν} {k : κ} (h : k ∈ map.keys) (v : ν) :
    (map.set k v).keys = map.keys := by
  rw [set_of_mem h]
  exact Table.map_key_modify map.rows k (fun entry ↦ (entry.1, v)) fun _ ↦ rfl

theorem keys_set_of_not_mem {map : OrderedMap κ ν} {k : κ} (h : k ∉ map.keys) (v : ν) :
    (map.set k v).keys = map.keys ++ [k] := by
  unfold keys
  rw [rows_set_of_not_mem h, List.map_append]
  rfl

/-- Setting a key leaves the entries of the keys of another kind. -/
theorem filter_set (map : OrderedMap κ ν) {k : κ} (v : ν) {p : κ → Bool} (h : p k = false) :
    ((map.set k v).rows.filter fun entry ↦ p entry.1) = map.rows.filter fun entry ↦ p entry.1 := by
  by_cases hmem : k ∈ map.keys
  · rw [set_of_mem hmem]
    show (map.rows.map _).filter _ = _
    generalize map.rows = rows
    induction rows with
    | nil => rfl
    | cons entry rest ih =>
      rw [List.map_cons, List.filter_cons, List.filter_cons, ih]
      by_cases hkey : entry.1 = k
      · simp [hkey, h]
      · simp [hkey]
  · rw [rows_set_of_not_mem hmem, List.filter_append]
    simp [h]

theorem get?_set (map : OrderedMap κ ν) (k : κ) (v : ν) (other : κ) :
    (map.set k v).get? other = if k = other then some v else map.get? other := by
  by_cases hmem : k ∈ map.keys
  · rw [set_of_mem hmem]
    unfold get?
    rw [Table.find?_modify]
    split
    · rename_i heq
      subst heq
      obtain ⟨old, hold⟩ := mem_keys.1 hmem
      obtain ⟨entry, hentry, -⟩ := Option.map_eq_some_iff.1 hold
      rw [hentry]
      rfl
    · rfl
  · unfold set get?
    cases hinsert : map.insert? (k, v) with
    | none => exact absurd (insert?_eq_none.1 hinsert) hmem
    | some map' =>
      rw [Option.getD_some, Table.find?_insert? hinsert]
      split
      · rfl
      · rfl

@[simp] theorem get?_set_self (map : OrderedMap κ ν) (k : κ) (v : ν) : (map.set k v).get? k = some v := by
  rw [get?_set, if_pos rfl]

theorem get?_set_of_ne (map : OrderedMap κ ν) {k other : κ} (v : ν) (h : k ≠ other) :
    (map.set k v).get? other = map.get? other := by
  rw [get?_set, if_neg h]

/-! ## Deleting keys -/

theorem get?_delete (map : OrderedMap κ ν) (k other : κ) :
    (map.delete k).get? other = if other = k then none else map.get? other := by
  ext v
  rw [get?_eq_some]
  unfold delete
  split
  · rename_i heq
    simp [heq]
  · rename_i hne
    simp [hne, get?_eq_some]

theorem get?_delete_eq_some {map : OrderedMap κ ν} {k other : κ} {v : ν} :
    (map.delete k).get? other = some v ↔ other ≠ k ∧ map.get? other = some v := by
  rw [get?_delete]
  split
  · rename_i heq
    simp [heq]
  · rename_i hne
    simp [hne]

/-- Deleting the first key deletes the first row and no other. -/
theorem rows_delete_head {map : OrderedMap κ ν} {entry : κ × ν} {rest : List (κ × ν)}
    (h : map.rows = entry :: rest) : (map.delete entry.1).rows = rest := by
  have hnodup := map.nodup
  rw [h, List.map_cons, List.nodup_cons] at hnodup
  show map.rows.filter _ = rest
  rw [h, List.filter_cons_of_neg (by simp), List.filter_eq_self]
  intro other hother
  rw [decide_eq_true_eq]
  rintro heq
  exact hnodup.1 (heq ▸ List.mem_map_of_mem hother)

theorem rows_delete_oldest {map : OrderedMap κ ν} {k : κ} (h : map.oldest? = some k) :
    (map.delete k).rows = map.rows.tail := by
  unfold oldest? at h
  cases hrows : map.rows with
  | nil => simp [hrows] at h
  | cons entry rest =>
    rw [hrows, List.head?_cons, Option.map_some, Option.some.injEq] at h
    rw [← h, rows_delete_head hrows, List.tail_cons]

theorem rows_trimTo {max rounds : ℕ} {map : OrderedMap κ ν} (h : map.size ≤ rounds) :
    (trimTo max rounds map).rows = map.rows.drop (map.size - max) := by
  unfold size at h ⊢
  induction rounds generalizing map with
  | zero =>
    have hrows : map.rows = [] := List.length_eq_zero_iff.1 (by omega)
    simp [trimTo, hrows]
  | succ rounds ih =>
    unfold trimTo size
    split
    · rename_i hover
      cases holdest : map.oldest? with
      | none => simp [oldest?, List.head?_eq_none_iff] at holdest; simp [holdest]
      | some k =>
        have hdelete := rows_delete_oldest holdest
        have hlength : (map.delete k).rows.length = map.rows.length - 1 := by
          rw [hdelete, List.length_tail]
        show (trimTo max rounds (map.delete k)).rows = _
        rw [ih (by omega), hlength, hdelete, ← List.drop_one, List.drop_drop]
        congr 1
        omega
    · rename_i hfits
      rw [Nat.sub_eq_zero_of_le (by omega), List.drop_zero]

/-- What a bound keeps is a suffix. -/
theorem rows_trim (max : ℕ) (map : OrderedMap κ ν) :
    (map.trim max).rows = map.rows.drop (map.size - max) :=
  rows_trimTo (Nat.le_refl _)

theorem keys_trim (max : ℕ) (map : OrderedMap κ ν) :
    (map.trim max).keys = map.keys.drop (map.size - max) := by
  unfold keys
  rw [rows_trim, List.map_drop]

theorem get?_of_get?_trim {max : ℕ} {map : OrderedMap κ ν} {k : κ} {v : ν}
    (h : (map.trim max).get? k = some v) : map.get? k = some v := by
  rw [get?_eq_some, rows_trim] at h
  exact get?_eq_some.2 (List.mem_of_mem_drop h)

/-- A bound does not touch what it keeps. -/
theorem get?_trim_of_mem {max : ℕ} {map : OrderedMap κ ν} {k : κ} (h : k ∈ (map.trim max).keys) :
    (map.trim max).get? k = map.get? k := by
  obtain ⟨v, hv⟩ := mem_keys.1 h
  rw [hv, get?_of_get?_trim hv]

/-- A suffix that fits the bound is kept whole. -/
theorem keys_trim_of_suffix {max : ℕ} {map : OrderedMap κ ν} {before after : List κ}
    (hkeys : map.keys = before ++ after) (hfits : after.length ≤ max) :
    ∃ kept, (map.trim max).keys = kept ++ after := by
  have hlength := map.length_keys
  rw [hkeys, List.length_append] at hlength
  refine ⟨before.drop (map.size - max), ?_⟩
  rw [keys_trim, hkeys, List.drop_append_of_le_length (by omega)]

end OrderedMap

namespace OrderedSet

variable {κ : Type u}

def size (set : OrderedSet κ) : ℕ := set.rows.length

variable [DecidableEq κ]

def add (set : OrderedSet κ) (k : κ) : OrderedSet κ := (set.insert? k).getD set

def has (set : OrderedSet κ) (k : κ) : Bool := k ∈ set.rows

theorem has_iff {set : OrderedSet κ} {k : κ} : set.has k = true ↔ k ∈ set.rows := by
  unfold has
  rw [decide_eq_true_eq]

@[simp] theorem mem_add {set : OrderedSet κ} {k other : κ} :
    other ∈ (set.add k).rows ↔ other ∈ set.rows ∨ other = k := by
  unfold add
  cases hinsert : set.insert? k with
  | some set' =>
    rw [Option.getD_some, (Table.insert?_eq_some.1 hinsert).2, List.mem_append, List.mem_singleton]
  | none =>
    have hmem : k ∈ set.rows := by
      by_contra hfresh
      have hmap : id k ∉ set.rows.map id := by rwa [List.map_id]
      unfold Table.insert? at hinsert
      rw [dif_neg hmap] at hinsert
      cases hinsert
    rw [Option.getD_none]
    exact ⟨Or.inl, fun h ↦ h.elim id fun heq ↦ heq ▸ hmem⟩

theorem size_add_le (set : OrderedSet κ) (k : κ) : (set.add k).size ≤ set.size + 1 := by
  unfold add size
  cases hinsert : set.insert? k with
  | some set' => rw [Option.getD_some, (Table.insert?_eq_some.1 hinsert).2, List.length_append]; exact Nat.le_refl _
  | none => rw [Option.getD_none]; exact Nat.le_succ _

end OrderedSet

end VirtualHaibin.Foundation
